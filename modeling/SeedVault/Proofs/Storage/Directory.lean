import Mathlib.Data.List.Induction
import Mathlib.Tactic.Common
import SeedVault.Storage.Directory

/-!
# Paths through a growing tree

A directory tree `Grows` if every directory stays one. A path that `Leads` through directories leads
to the same place when the tree grows (`Leads.grow`), going along a path makes it lead there
(`leads_of_enter`), and going along it once more changes nothing, whether it fails or not
(`enter_again`).
-/

namespace SeedVault.Directory

section Entries

/-- Directories are equal if their nodes are. -/
lemma node_inj {b c : Directory} : b.node = c.node ↔ b = c := by
  constructor
  · intro h
    cases b
    cases c
    cases h
    rfl
  · rintro rfl
    rfl

/-- An entry that is put somewhere is there. -/
lemma get?_put_self {d : Directory} {n x} : (d.put n x).get? n = some x :=
  List.lookup_cons_self

/-- Erasing an entry leaves the others. -/
lemma get?_erase_of_ne {d : Directory} {m n} (ne : m ≠ n) :
    (d.erase n).get? m = d.get? m := by
  obtain ⟨mode, entries⟩ := d
  simp only [get?, erase]
  induction entries with
  | nil => rfl
  | cons e entries ih =>
    by_cases hn : e.1 = n
    · have skip : m ≠ e.1 := fun h => ne (h.trans hn)
      rw [List.filter_cons_of_neg (by simpa using hn), ih, List.lookup_cons, beq_false_of_ne skip]
    · rw [List.filter_cons_of_pos (by simpa using hn), List.lookup_cons, List.lookup_cons, ih]

/-- Putting an entry somewhere leaves the others. -/
lemma get?_put_of_ne {d : Directory} {m n x} (ne : m ≠ n) :
    (d.put n x).get? m = d.get? m := by
  have tail : (d.put n x).get? m = (d.erase n).get? m := by
    rw [get?, put, List.lookup_cons, beq_false_of_ne ne]
    rfl
  rw [tail, get?_erase_of_ne ne]

/-- An entry is found if it is there and its name is bearable. -/
lemma lookup_ok_iff {d : Directory} {m x} :
    d.lookup m = .ok x ↔ m.utf8ByteSize ≤ nameLimit ∧ d.get? m = some x := by
  rw [lookup]
  split
  case isTrue long =>
    constructor
    · rintro ⟨⟩
    · rintro ⟨short, _⟩
      omega
  case isFalse short =>
    split
    case h_1 y e =>
      rw [e]
      constructor
      · rintro ⟨⟩
        exact ⟨by omega, rfl⟩
      · rintro ⟨_, ⟨⟩⟩
        rfl
    case h_2 e =>
      rw [e]
      constructor
      · rintro ⟨⟩
      · rintro ⟨_, ⟨⟩⟩

/-- A bearable name is missing if there is no entry. -/
lemma lookup_notFound_iff {d : Directory} {m} :
    d.lookup m = .error .notFound ↔ m.utf8ByteSize ≤ nameLimit ∧ d.get? m = none := by
  rw [lookup]
  split
  case isTrue long =>
    constructor
    · rintro ⟨⟩
    · rintro ⟨short, _⟩
      omega
  case isFalse short =>
    split
    case h_1 y e =>
      rw [e]
      constructor
      · rintro ⟨⟩
      · rintro ⟨_, ⟨⟩⟩
    case h_2 e =>
      rw [e]
      exact ⟨fun _ => ⟨by omega, rfl⟩, fun _ => rfl⟩

/-- The search for an entry fails for two reasons only. -/
lemma lookup_error {d : Directory} {m e} (h : d.lookup m = .error e) :
    e = .invalidFilename ∨ e = .notFound := by
  rw [lookup] at h
  split at h
  case isTrue =>
    cases h
    exact .inl rfl
  case isFalse =>
    split at h
    case h_1 => cases h
    case h_2 =>
      cases h
      exact .inr rfl

end Entries

section Folders

/-- The first name of a way down is that of a directory, below which the way goes on. -/
lemma folder?_cons_iff {d c : Directory} {n ns} :
    d.folder? (n :: ns) = some c ↔
      ∃ b : Directory, d.get? n = some b.node ∧ b.folder? ns = some c := by
  rw [folder?]
  split
  case h_1 mode entries e =>
    rw [e]
    constructor
    · intro h
      exact ⟨⟨mode, entries⟩, rfl, h⟩
    · rintro ⟨b, ⟨⟩, h⟩
      exact h
  case h_2 other =>
    constructor
    · rintro ⟨⟩
    · rintro ⟨b, e, _⟩
      exact absurd e (other b.mode b.entries)

/-- A way down can be walked in two parts. -/
lemma folder?_append {d : Directory} {ns ms} :
    d.folder? (ns ++ ms) = (d.folder? ns).bind (·.folder? ms) := by
  fun_induction folder? d ns with
  | case1 => rfl
  | case2 d n ns mode entries e ih =>
    rw [List.cons_append, folder?, e]
    exact ih
  | case3 d n ns other =>
    rw [List.cons_append, folder?]
    split
    case h_1 mode entries e => exact absurd e (other mode entries)
    case h_2 => rfl

/-- Below a changed directory there is what is below the change. -/
lemma folder?_modify {d : Directory} {ns ms f} :
    (d.modify ns f).folder? (ns ++ ms) = (d.folder? ns).bind fun c => (f c).folder? ms := by
  fun_induction modify d ns f with
  | case1 => rfl
  | case2 d n ns mode entries e ih =>
    rw [List.cons_append, folder?, get?_put_self, folder?, e]
    exact ih
  | case3 d n ns other =>
    rw [List.cons_append, folder?, folder?]
    split
    case h_1 mode entries e => exact absurd e (other mode entries)
    case h_2 => rfl

/-- A change below a directory is a change of it. -/
lemma modify_append {d : Directory} {ns ms f} :
    d.modify (ns ++ ms) f = d.modify ns (·.modify ms f) := by
  fun_induction modify d ns (·.modify ms f) with
  | case1 => rfl
  | case2 d n ns mode entries e ih =>
    rw [List.cons_append, modify, e]
    simp only [ih]
  | case3 d n ns other =>
    rw [List.cons_append, modify]
    split
    case h_1 mode entries e => exact absurd e (other mode entries)
    case h_2 => rfl

/-- The change of a directory among the entries replaces that entry. -/
lemma modify_singleton {d b : Directory} {n f} (e : d.get? n = some b.node) :
    d.modify [n] f = d.put n (f b).node := by
  rw [modify, e]
  rfl

end Folders

/-- Every directory below the first is one below the second. -/
def Grows (d d' : Directory) : Prop :=
  ∀ names, (d.folder? names).isSome → (d'.folder? names).isSome

/-- A tree that stays as it is grows. -/
lemma Grows.refl {d} : Grows d d := fun _ h => h

/-- What grows and grows again grows. -/
lemma Grows.trans {d d' d''} (h : Grows d d') (h' : Grows d' d'') : Grows d d'' :=
  fun names some => h' names (h names some)

/-- A tree grows if one entry changes and grows if it was a directory. -/
lemma Grows.put {d c : Directory} {n} (h : ∀ b : Directory, d.get? n = some b.node → Grows b c) :
    Grows d (d.put n c.node) := by
  intro names some
  cases names with
  | nil => rfl
  | cons m ms =>
    obtain ⟨e, he⟩ := Option.isSome_iff_exists.1 some
    obtain ⟨b, hb, he⟩ := folder?_cons_iff.1 he
    rw [Option.isSome_iff_exists]
    by_cases same : m = n
    -- below the changed entry the path goes on in `c`, beside it as before
    · subst same
      obtain ⟨e', he'⟩ :=
        Option.isSome_iff_exists.1 (h b hb ms (Option.isSome_iff_exists.2 ⟨e, he⟩))
      exact ⟨e', folder?_cons_iff.2 ⟨c, get?_put_self, he'⟩⟩
    · exact ⟨e, folder?_cons_iff.2 ⟨b, (get?_put_of_ne same).trans hb, he⟩⟩

/-- A tree grows if a directory in it does. -/
lemma Grows.modify {d : Directory} {ns f} (h : ∀ c, d.folder? ns = some c → Grows c (f c)) :
    Grows d (d.modify ns f) := by
  fun_induction Directory.modify d ns f with
  | case1 d => exact h d rfl
  | case2 d n ns mode entries e ih =>
    refine Grows.put fun b hb => ?_
    rw [e] at hb
    cases hb
    exact ih fun c hc => h c (folder?_cons_iff.2 ⟨b, e, hc⟩)
  | case3 => exact Grows.refl

/-- The path leads through directories of the tree, from the one at the first names to the one at
the last. -/
inductive Leads (d : Directory) : List String → List String → List String → Prop
  | stop {ns} : Leads d ns [] ns
  | stay {ns ms rest} : Leads d ns rest ms → Leads d ns ("." :: rest) ms
  | up {ns ms rest} : Leads d ns.dropLast rest ms → Leads d ns (".." :: rest) ms
  | down {ns ms name rest} :
    name ≠ "." →
    name ≠ ".." →
    name.utf8ByteSize ≤ nameLimit →
    (d.folder? (ns ++ [name])).isSome →
    Leads d (ns ++ [name]) rest ms →
    Leads d ns (name :: rest) ms

/-- A tree that grows keeps its paths. -/
lemma Leads.grow {d d' : Directory} {ns path ms} (h : Leads d ns path ms) (grows : Grows d d') :
    Leads d' ns path ms := by
  induction h with
  | stop => exact .stop
  | stay _ ih => exact .stay ih
  | up _ ih => exact .up ih
  | down dot dots short folder _ ih => exact .down dot dots short (grows _ folder) ih

/-- Leaving a directory leads to a directory. -/
lemma isSome_folder?_dropLast {d : Directory} {ns} (h : (d.folder? ns).isSome) :
    (d.folder? ns.dropLast).isSome := by
  cases ns using List.reverseRecOn with
  | nil => exact h
  | append_singleton ns n =>
    rw [folder?_append] at h
    rw [List.dropLast_concat]
    exact Option.isSome_of_isSome_bind h

/-- The directory at a place is the one that is found there. -/
lemma folder?_folderAt {d : Directory} {ns} (h : (d.folder? ns).isSome) :
    d.folder? ns = some (d.folderAt ns) := by
  obtain ⟨c, hc⟩ := Option.isSome_iff_exists.1 h
  rw [folderAt, hc]
  rfl

/-- A changed directory is found where it was. -/
lemma folderAt_modify {d : Directory} {ns f} (h : (d.folder? ns).isSome) :
    (d.modify ns f).folderAt ns = f (d.folderAt ns) := by
  have found := @folder?_modify d ns [] f
  rw [List.append_nil, folder?_folderAt h] at found
  rw [folderAt, found]
  rfl

/-- The directories in a directory are those that it has as entries. -/
lemma isSome_folder?_concat_iff {d : Directory} {ns n} (h : (d.folder? ns).isSome) :
    (d.folder? (ns ++ [n])).isSome ↔ ∃ b : Directory, (d.folderAt ns).get? n = some b.node := by
  rw [folder?_append, folder?_folderAt h, Option.bind_some, Option.isSome_iff_exists]
  constructor
  · rintro ⟨c, hc⟩
    obtain ⟨b, hb, _⟩ := folder?_cons_iff.1 hc
    exact ⟨b, hb⟩
  · rintro ⟨b, hb⟩
    exact ⟨b, folder?_cons_iff.2 ⟨b, hb, rfl⟩⟩

/-- An entry found in a directory is a directory below it. -/
lemma isSome_folder?_of_lookup {d : Directory} {ns n mode entries} (h : (d.folder? ns).isSome)
    (found : (d.folderAt ns).lookup n = .ok (.folder mode entries)) :
    n.utf8ByteSize ≤ nameLimit ∧ (d.folder? (ns ++ [n])).isSome := by
  obtain ⟨short, e⟩ := lookup_ok_iff.1 found
  exact ⟨short, (isSome_folder?_concat_iff h).2 ⟨⟨mode, entries⟩, e⟩⟩

/-- A new directory in place of nothing makes the tree grow. -/
lemma grows_withFolder {d : Directory} {ns n} (h : (d.folder? ns).isSome)
    (missing : (d.folderAt ns).lookup n = .error .notFound) : Grows d (d.withFolder ns n) := by
  refine Grows.modify fun c hc => Grows.put fun b hb => ?_
  rw [folder?_folderAt h] at hc
  cases hc
  rw [(lookup_notFound_iff.1 missing).2] at hb
  cases hb

/-- The new directory is where it was made, and the entries beside it are as before. -/
lemma get?_withFolder {d : Directory} {ns n} (h : (d.folder? ns).isSome) :
    ((d.withFolder ns n).folderAt ns).get? n = some empty.node ∧
      ∀ m, m ≠ n → ((d.withFolder ns n).folderAt ns).get? m = (d.folderAt ns).get? m := by
  rw [withFolder, folderAt_modify h]
  exact ⟨get?_put_self, fun m ne => get?_put_of_ne ne⟩

/-- A new directory is there. -/
lemma isSome_folder?_withFolder {d : Directory} {ns n} (h : (d.folder? ns).isSome) :
    ((d.withFolder ns n).folder? (ns ++ [n])).isSome := by
  rw [withFolder, folder?_modify, folder?_folderAt h, Option.bind_some, folder?, get?_put_self]
  rfl

/-- Entering a path makes the tree grow. -/
lemma grows_enter {d : Directory} {ns} (path) (h : (d.folder? ns).isSome) :
    Grows d (d.enter path ns).2 := by
  fun_induction enter d path ns with
  | case1 => exact Grows.refl
  | case2 _ _ _ ih => exact ih h
  | case3 _ _ _ ih => exact ih (isSome_folder?_dropLast h)
  | case4 d ns name rest dot dots mode entries found ih =>
    exact ih (isSome_folder?_of_lookup h found).2
  | case5 => exact Grows.refl
  | case6 d ns name rest dot dots missing ih =>
    exact (grows_withFolder h missing).trans (ih (isSome_folder?_withFolder h))
  | case7 => exact Grows.refl

/-- A name that leads from a directory to one below leads there first. -/
lemma enter_down {d : Directory} {ns name rest} (h : (d.folder? ns).isSome) (dot : name ≠ ".")
    (dots : name ≠ "..") (short : name.utf8ByteSize ≤ nameLimit)
    (below : (d.folder? (ns ++ [name])).isSome) :
    d.enter (name :: rest) ns = d.enter rest (ns ++ [name]) := by
  obtain ⟨b, hb⟩ := (isSome_folder?_concat_iff h).1 below
  rw [enter, lookup_ok_iff.2 ⟨short, hb⟩]
  · rfl
  · exact dot
  · exact dots

/-- A name that fails for any other reason than that it is missing ends the way. -/
lemma enter_failed {d : Directory} {ns name rest e} (dot : name ≠ ".") (dots : name ≠ "..")
    (found : (d.folderAt ns).lookup name = .error e) (other : e ≠ .notFound) :
    d.enter (name :: rest) ns = (.error e, d) := by
  rw [enter, found]
  · cases e with
    | notFound => exact absurd rfl other
    | _ => rfl
  · exact dot
  · exact dots

/-- Going where a path leads makes nothing. -/
lemma enter_of_leads {d : Directory} {path ns ms} (h : (d.folder? ns).isSome)
    (leads : Leads d ns path ms) : d.enter path ns = (.ok ms, d) := by
  induction leads with
  | stop => rfl
  | stay _ ih => exact ih h
  | up _ ih => exact ih (isSome_folder?_dropLast h)
  | down dot dots short below _ ih => rw [enter_down h dot dots short below, ih below]

/-- Where going along a path has led, the path leads. -/
lemma leads_of_enter {d d' : Directory} {path ns ms} (h : (d.folder? ns).isSome)
    (entered : d.enter path ns = (.ok ms, d')) :
    Leads d' ns path ms ∧ (d'.folder? ms).isSome := by
  fun_induction enter d path ns with
  | case1 =>
    cases entered
    exact ⟨.stop, h⟩
  | case2 _ _ _ ih =>
    obtain ⟨leads, folder⟩ := ih h entered
    exact ⟨.stay leads, folder⟩
  | case3 _ _ _ ih =>
    obtain ⟨leads, folder⟩ := ih (isSome_folder?_dropLast h) entered
    exact ⟨.up leads, folder⟩
  | case4 d ns name rest dot dots mode entries found ih =>
    obtain ⟨short, below⟩ := isSome_folder?_of_lookup h found
    -- whatever is made behind the name, the directory under it stays one
    have grows := grows_enter rest below
    rw [entered] at grows
    obtain ⟨leads, folder⟩ := ih below entered
    exact ⟨.down dot dots short (grows _ below) leads, folder⟩
  | case5 => cases entered
  | case6 d ns name rest dot dots missing ih =>
    have short := (lookup_notFound_iff.1 missing).1
    have below := isSome_folder?_withFolder (n := name) h
    have grows := grows_enter rest below
    rw [entered] at grows
    obtain ⟨leads, folder⟩ := ih below entered
    exact ⟨.down dot dots short (grows _ below) leads, folder⟩
  | case7 => cases entered

/-- Going along a path once more ends as before and makes nothing. -/
lemma enter_again {d d' : Directory} {path ns r} (h : (d.folder? ns).isSome)
    (entered : d.enter path ns = (r, d')) : d'.enter path ns = (r, d') := by
  -- the induction is along the first way; the second finds what the first has made
  have grows := grows_enter path h
  rw [entered] at grows
  fun_induction enter d path ns with
  | case1 =>
    cases entered
    rfl
  | case2 _ _ _ ih => exact ih h entered grows
  | case3 d ns rest ih =>
    exact ih (isSome_folder?_dropLast h) entered grows
  | case4 d ns name rest dot dots mode entries found ih =>
    obtain ⟨short, below⟩ := isSome_folder?_of_lookup h found
    rw [enter_down (grows _ h) dot dots short (grows _ below)]
    exact ih below entered grows
  | case5 d ns name rest dot dots mode content found =>
    cases entered
    rw [enter, found]
    · exact dot
    · exact dots
  | case6 d ns name rest dot dots missing ih =>
    have short := (lookup_notFound_iff.1 missing).1
    have below := isSome_folder?_withFolder (n := name) h
    have later := grows_enter rest below
    rw [entered] at later
    rw [enter_down (grows _ h) dot dots short (later _ below)]
    exact ih below entered later
  | case7 d ns name rest dot dots e other found =>
    cases entered
    exact enter_failed dot dots found other

/-- A path can be entered in two parts. -/
lemma enter_append {d : Directory} {path rest ns} :
    d.enter (path ++ rest) ns =
      match d.enter path ns with
      | (.ok ms, d) => d.enter rest ms
      | (.error e, d) => (.error e, d) := by
  fun_induction enter d path ns with
  | case1 => rfl
  | case2 _ _ _ ih => exact ih
  | case3 _ _ _ ih => exact ih
  | case4 d ns name path dot dots mode entries found ih =>
    rw [List.cons_append, enter, found]
    · exact ih
    · exact dot
    · exact dots
  | case5 d ns name path dot dots mode content found =>
    rw [List.cons_append, enter, found]
    · exact dot
    · exact dots
  | case6 d ns name path dot dots missing ih =>
    rw [List.cons_append, enter, missing]
    · exact ih
    · exact dot
    · exact dots
  | case7 d ns name path dot dots e other found =>
    rw [List.cons_append, enter_failed dot dots found other]

/-- A path goes on from where its first part leads. -/
lemma trace_append {d : Directory} {path rest ns ms} (leads : Leads d ns path ms) :
    d.trace (path ++ rest) ns = d.trace rest ms := by
  induction leads with
  | stop => rfl
  | stay _ ih => exact ih
  | up _ ih => exact ih
  | @down ns ms name path dot dots short below _ ih =>
    -- a directory below `ns` can only be there if `ns` is one
    have h : (d.folder? ns).isSome := by
      rw [folder?_append] at below
      exact Option.isSome_of_isSome_bind below
    obtain ⟨b, hb⟩ := (isSome_folder?_concat_iff h).1 below
    rw [List.cons_append, trace, lookup_ok_iff.2 ⟨short, hb⟩]
    · exact ih
    · exact dot
    · exact dots

/-- A path that names something leads through directories up to its last name. -/
lemma leads_of_trace {d : Directory} {path name rest ns r} (h : (d.folder? ns).isSome)
    (found : d.trace (path ++ name :: rest) ns = .ok r) : ∃ ms, Leads d ns path ms := by
  induction path generalizing ns with
  | nil => exact ⟨ns, .stop⟩
  | cons n path ih =>
    by_cases dot : n = "."
    · subst dot
      obtain ⟨ms, leads⟩ := ih h found
      exact ⟨ms, .stay leads⟩
    by_cases dots : n = ".."
    · subst dots
      obtain ⟨ms, leads⟩ := ih (isSome_folder?_dropLast h) found
      exact ⟨ms, .up leads⟩
    rw [List.cons_append, trace] at found
    · split at found
      case h_1 => cases found
      case h_2 mode entries e =>
        obtain ⟨short, below⟩ := isSome_folder?_of_lookup h e
        obtain ⟨ms, leads⟩ := ih below found
        exact ⟨ms, .down dot dots short below leads⟩
      case h_3 =>
        rw [if_neg (List.append_ne_nil_of_right_ne_nil path (List.cons_ne_nil name rest))] at found
        cases found
    · exact dot
    · exact dots

/-- From a directory a path leads to a directory. -/
lemma Leads.isSome_folder? {d : Directory} {ns path ms} (h : (d.folder? ns).isSome)
    (leads : Leads d ns path ms) : (d.folder? ms).isSome := by
  induction leads with
  | stop => exact h
  | stay _ ih => exact ih h
  | up _ ih => exact ih (isSome_folder?_dropLast h)
  | down _ _ _ below _ ih => exact ih below

/-- The name stands for an entry of its own. -/
structure IsName (n : String) : Prop where
  ne_dot : n ≠ "."
  ne_dots : n ≠ ".."

/-- A path that ends in a name names what the directory before has under it. -/
lemma trace_name {d : Directory} {path ms n} (name : IsName n) (leads : Leads d [] path ms) :
    d.trace (path ++ [n]) = ((d.folderAt ms).lookup n).map fun x => (ms ++ [n], x) := by
  have h := leads.isSome_folder? rfl
  rw [trace_append leads, trace]
  · cases found : (d.folderAt ms).lookup n with
    | error e => rfl
    | ok x =>
      cases x with
      | file mode content => rfl
      | folder mode entries =>
        obtain ⟨_, e⟩ := lookup_ok_iff.1 found
        have below : d.folder? (ms ++ [n]) = some ⟨mode, entries⟩ := by
          rw [folder?_append, folder?_folderAt h]
          exact folder?_cons_iff.2 ⟨⟨mode, entries⟩, e, rfl⟩
        simp only [trace, folderAt, below]
        rfl
  · exact name.ne_dot
  · exact name.ne_dots

/-- What is found at the end of a path is the entry of its last name. -/
lemma find_name {d : Directory} {path ms n} (name : IsName n) (leads : Leads d [] path ms) :
    d.find (path ++ [n]) = (d.folderAt ms).lookup n := by
  rw [find, trace_name name leads]
  cases (d.folderAt ms).lookup n <;> rfl

/-- A path at whose end something is found leads through directories up to there. -/
lemma leads_of_find {d : Directory} {path n x} (found : d.find (path ++ [n]) = .ok x) :
    ∃ ms, Leads d [] path ms := by
  rw [find] at found
  cases e : d.trace (path ++ [n]) with
  | error _ =>
    rw [e] at found
    cases found
  | ok r => exact leads_of_trace rfl e

end SeedVault.Directory
