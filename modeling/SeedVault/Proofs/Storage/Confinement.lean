import Mathlib
import SeedVault.Proofs.Storage.Drafts
import SeedVault.Proofs.Storage.PathText
import SeedVault.Proofs.Storage.Refinement

/-!
# Where a store's operations reach

An operation on a key reaches the key's file and its temporary file, and these stand in the store's
directory, whatever else is there (`find_joinPath`). Two stores are `Confined` to some names if they
differ at most in the entries of these; no two keys share one of their names (`names_disjoint`), so
what is done to one of them cannot be seen at another (`operations_confined`).
-/

namespace SeedVault

namespace Directory

/-- A path to a directory leads there. -/
lemma leads_of_folder {d b : Directory} {path ns ms} (h : (d.folder? ns).isSome)
    (ends : d.trace path ns = .ok (ms, b.node)) :
    Leads d ns path ms ∧ d.folderAt ms = b := by
  fun_induction trace d path ns with
  | case1 =>
    obtain ⟨rfl, same⟩ := Prod.mk.inj (Except.ok.inj ends)
    exact ⟨.stop, node_inj.1 same⟩
  | case2 _ _ ih =>
    obtain ⟨leads, there⟩ := ih h ends
    exact ⟨.stay leads, there⟩
  | case3 _ _ ih =>
    obtain ⟨leads, there⟩ := ih (isSome_folder?_dropLast h) ends
    exact ⟨.up leads, there⟩
  | case4 => cases ends
  | case5 ns name rest dot dots mode entries found ih =>
    obtain ⟨short, below⟩ := isSome_folder?_of_lookup h found
    obtain ⟨leads, there⟩ := ih below ends
    exact ⟨.down dot dots short below leads, there⟩
  | case6 => cases ends
  | case7 => cases ends

/-- A directory that is found is one that its path leads to. -/
lemma leads_of_findFolder {d b : Directory} {path} (found : d.findFolder path = .ok b) :
    ∃ ms, Leads d [] path ms ∧ d.folderAt ms = b := by
  rw [findFolder, find] at found
  cases e : d.trace path with
  | error _ =>
    rw [e] at found
    cases found
  | ok r =>
    obtain ⟨ms, x⟩ := r
    rw [e] at found
    cases x with
    | file mode content => cases found
    | folder mode entries =>
      cases found
      exact ⟨ms, leads_of_folder rfl e⟩

end Directory

namespace FolderStore
open Directory

/-- A letter or digit of ASCII, a hyphen, an underscore or a point. -/
def IsKeyChar (c : Char) : Prop :=
  'a' ≤ c ∧ c ≤ 'z' ∨ 'A' ≤ c ∧ c ≤ 'Z' ∨ '0' ≤ c ∧ c ≤ '9' ∨ c = '-' ∨ c = '_' ∨ c = '.'

/-- Keys that are refused: the empty one, hidden ones, and those with other characters. -/
def Refused (key : String) : Prop :=
  key = "" ∨ key.toList.head? = some '.' ∨ ∃ c ∈ key.toList, ¬ IsKeyChar c

/-- The test for the characters of a key accepts these and no others. -/
lemma isKeyChar_iff (c : Char) :
    (c.isAlphanum || c == '-' || c == '_' || c == '.') = true ↔ IsKeyChar c := by
  simp only [IsKeyChar, Char.isAlphanum, Char.isAlpha, Char.isUpper, Char.isLower, Char.isDigit,
    Bool.or_eq_true, Bool.and_eq_true, decide_eq_true_eq, beq_iff_eq, Char.le_def]
  tauto

/-- The test for keys refuses these and no others. -/
lemma isKey_eq_false_iff (key : String) : isKey key = false ↔ Refused key := by
  rw [isKey, Refused, ← String.toList_eq_nil_iff]
  cases key.toList with
  | nil => simp
  | cons c cs =>
    have first : some c = some '.' ↔ c = '.' := Option.some_inj
    rw [← Bool.not_eq_true, Bool.and_eq_true, List.all_eq_true, decide_eq_true_eq,
      List.head?_cons, first]
    simp only [isKeyChar_iff, List.cons_ne_nil, false_or, ne_eq, not_and_or, not_not, not_forall,
      exists_prop]

/-- A key has no slash in it. -/
lemma clear_of_isKey {key : String} (valid : isKey key = true) : '/' ∉ key.toList := by
  intro mem
  have refused : isKey key = false :=
    (isKey_eq_false_iff key).2 (.inr (.inr ⟨'/', mem, by simp [IsKeyChar, Char.le_def]⟩))
  rw [valid] at refused
  cases refused

/-- The names under which a key keeps anything. -/
def names (key : String) : List String := [key, temporaryName key]

/-- The names of a key stand for entries of their own, and have no slash in them. -/
lemma plain_of_mem_names {key n : String} (valid : isKey key = true) (mem : n ∈ names key) :
    IsName n ∧ n ≠ "" ∧ '/' ∉ n.toList := by
  simp only [names, List.mem_cons, List.not_mem_nil, or_false] at mem
  obtain rfl | rfl := mem
  · refine ⟨⟨?_, ?_⟩, ?_, clear_of_isKey valid⟩
    all_goals
      rintro rfl
      cases valid
  · have size := utf8ByteSize_temporaryName key
    have long {n : String} (small : n.utf8ByteSize < 6) : temporaryName key ≠ n := by
      rintro rfl
      omega
    refine ⟨⟨long (by decide), long (by decide)⟩, long (by decide), ?_⟩
    rw [temporaryName, String.toList_append, String.toList_append]
    simpa using clear_of_isKey valid

/-- What is joined to the path of a directory to make the path of a key's file is an entry of that
directory. -/
lemma find_joinPath {tree b : Directory} {current : List String} {dir key n : String}
    (valid : isKey key = true) (mem : n ∈ names key)
    (found : tree.findFolder (pathFrom current dir) = .ok b) :
    tree.find (pathFrom current (joinPath dir n)) = b.lookup n := by
  obtain ⟨name, ne, clear⟩ := plain_of_mem_names valid mem
  obtain ⟨ms, leads, there⟩ := leads_of_findFolder found
  rw [pathFrom_joinPath current dir (relative_of_clear clear), pathNames_of_clear ne clear,
    find_name name leads, there]

/-- Different keys have drafts of different names. -/
lemma temporaryName_inj {key k : String} (same : temporaryName k = temporaryName key) :
    k = key := by
  have chars := congrArg String.toList same
  simp only [temporaryName, String.toList_append] at chars
  exact String.toList_inj.1 (List.append_cancel_left (List.append_cancel_right chars))

/-- No two keys share one of their names. -/
lemma names_disjoint {key k : String} (valid : isKey key = true) (valid' : isKey k = true)
    (ne : k ≠ key) : (names k).Disjoint (names key) := by
  simp only [names, List.disjoint_cons_left, List.mem_cons, List.not_mem_nil, or_false, not_or,
    List.disjoint_nil_left, and_true]
  exact ⟨⟨ne, ne_temporaryName valid'⟩, (ne_temporaryName valid).symm, mt temporaryName_inj ne⟩

/-- The second store differs from the first one at most in the entries of some names. -/
inductive Confined (ns : List String) : FolderStore → FolderStore → Prop
  | nowhere {e} : Confined ns ⟨.error e⟩ ⟨.error e⟩
  | within {d d' : Directory} :
    d'.mode = d.mode →
    (∀ n, n ∉ ns → d'.get? n = d.get? n) →
    Confined ns ⟨.ok d⟩ ⟨.ok d'⟩

/-- Where nothing is done nothing changes. -/
lemma Confined.refl {ns} (s : FolderStore) : Confined ns s s := by
  obtain ⟨_ | _⟩ := s
  · exact .nowhere
  · exact .within rfl fun _ _ => rfl

/-- What is read for a key that is not among the names is as before. -/
lemma Confined.get_eq {ns s s' k} (h : Confined ns s s') (outside : k ∉ ns) :
    get k s' = get k s := by
  cases h with
  | nowhere => rfl
  | within _ others => exact get_congr (others k outside)

end FolderStore

namespace FileAction

/-- An action leaves the permission bits of the directory as they are. -/
lemma run_mode {a : FileAction} {d d' : Directory} (ran : a.run d = .ok d') : d'.mode = d.mode := by
  cases a with
  | sync name =>
    cases ran
    rfl
  | create name | append name bytes | rename old new | unlink name =>
    rw [run] at ran
    split at ran <;> cases ran <;> rfl

/-- Actions leave the permission bits of the directory as they are. -/
lemma runAll_mode (as : List FileAction) (d : Directory) : (runAll as d).2.mode = d.mode := by
  fun_induction runAll as d with
  | case1 => rfl
  | case2 d a as d' ran ih => rw [ih, run_mode ran]
  | case3 => rfl

end FileAction

namespace FolderStore
open Directory

/-- Actions on some names are confined to them, however many succeed. -/
lemma confined_runAll {ns as} (s : FolderStore)
    (touched : ∀ a ∈ as, ∀ n ∈ FileAction.touched a, n ∈ ns) : Confined ns s (runAll as s).2 := by
  obtain ⟨e | d⟩ := s
  · exact .nowhere
  · refine .within (FileAction.runAll_mode as d) fun n outside => ?_
    exact FileAction.runAll_untouched fun a mem at_ => outside (touched a mem n at_)

/-- A write is confined to the names of its key, also if it stops before its end. -/
lemma confined_writing (key) (chunks) (s : FolderStore) (n) :
    Confined (names key) s (runAll ((writing key chunks).take n) s).2 := by
  refine confined_runAll s fun a mem n at_ => ?_
  simpa [names] using touched_writing key chunks a (List.mem_of_mem_take mem) n at_

/-- Setting a key is confined to its names. -/
lemma confined_set (key value) (s : FolderStore) : Confined (names key) s (set key value s).2 := by
  have wrote := confined_writing key [Bytes.ofString value] s
    (writing key [Bytes.ofString value]).length
  rw [List.take_length] at wrote
  rw [set]
  split
  case isTrue =>
    split
    case h_1 ran => rwa [ran] at wrote
    case h_2 ran => rwa [ran] at wrote
  case isFalse => exact .refl s

/-- Removing a key is confined to the key. -/
lemma confined_remove (key) (s : FolderStore) : Confined [key] s (remove key s).2 := by
  have ran : Confined [key] s (runAll [.unlink key] s).2 :=
    confined_runAll s (by simp [FileAction.touched])
  rw [remove]
  split
  case isTrue =>
    split
    case h_1 done => rwa [done] at ran
    case h_2 done => rwa [done] at ran
    case h_3 done => rwa [done] at ran
  case isFalse => exact .refl s

/-- A key is refused by all operations, which touch nothing, if it is empty, starts with a point or
has a character that is no ASCII letter or digit, hyphen, underscore or point. Of any other key, the
file and the temporary file stand in the store's directory. Whatever is in that directory, or if it
is missing, reading changes nothing, removing changes the key's entry at most, and setting that and
the temporary one, be it successful, refused or stopped anywhere. No other key has one of these
names, so what is read for it is the same before and after. -/
theorem operations_confined (s : FolderStore) (key : String) :
    (Refused key →
      get key s = .error (.invalidKey key) ∧
      remove key s = (.error (.invalidKey key), s) ∧
      ∀ value, set key value s = (.error (.invalidKey key), s)) ∧
    (¬ Refused key →
      (∀ (tree b : Directory) (current : List String) (dir : String),
        tree.findFolder (pathFrom current dir) = .ok b →
        ∀ n ∈ names key, tree.find (pathFrom current (joinPath dir n)) = b.lookup n) ∧
      (KeyValueStore.get key s).2 = s ∧
      Confined [key] s (remove key s).2 ∧
      (∀ value, Confined (names key) s (set key value s).2) ∧
      (∀ chunks n, Confined (names key) s (runAll ((writing key chunks).take n) s).2) ∧
      ∀ k, ¬ Refused k → k ≠ key →
        (names k).Disjoint (names key) ∧
        get k (remove key s).2 = get k s ∧
        (∀ value, get k (set key value s).2 = get k s) ∧
        ∀ chunks n, get k (runAll ((writing key chunks).take n) s).2 = get k s) := by
  have accepted {k : String} (kept : ¬ Refused k) : isKey k = true :=
    Bool.eq_true_of_not_eq_false (mt (isKey_eq_false_iff k).1 kept)
  refine ⟨fun refused => ?_, fun kept => ?_⟩
  · have refuses (value : String) := refused_key value s ((isKey_eq_false_iff key).2 refused)
    exact ⟨(refuses "").1, (refuses "").2.2, fun value => (refuses value).2.1⟩
  · have valid := accepted kept
    refine ⟨fun tree b current dir found n mem => find_joinPath valid mem found, rfl,
      confined_remove key s, fun value => confined_set key value s,
      fun chunks n => confined_writing key chunks s n, fun k kept' ne => ?_⟩
    -- a temporary name begins with a dot, and no key that is accepted does
    have apart := names_disjoint valid (accepted kept') ne
    have outside : k ∉ names key := apart (List.mem_cons_self)
    have other : k ∉ [key] := by simpa using ne
    exact ⟨apart, (confined_remove key s).get_eq other,
      fun value => (confined_set key value s).get_eq outside,
      fun chunks n => (confined_writing key chunks s n).get_eq outside⟩

end FolderStore

end SeedVault
