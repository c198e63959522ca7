import Mathlib.Data.String.Basic
import SeedVault.Proofs.Storage.Files

/-!
# Writing that is cut off

Until the draft takes the place of the key's file, writing a key touches the temporary file alone
(`get_cut`). A store that is `LeftBehind` by operations, of which any may have been cut off, still
holds files alone, so whatever is left of a draft is in nobody's way
(`cut_write_keeps_old_or_new`). Only a key whose temporary file has too long a name cannot be
written at all (`long_key_refused`).
-/

namespace SeedVault

namespace FileAction

/-- An action that fails behind others leaves what these have left. -/
lemma runAll_concat_error {as : List FileAction} {a d d' e}
    (ran : runAll (as ++ [a]) d = (.error e, d')) : d' = (runAll as d).2 := by
  rw [runAll_append] at ran
  cases first : runAll as d with
  | mk result d₁ =>
    rw [first] at ran
    cases result with
    | error _ =>
      cases ran
      rfl
    | ok =>
      change runAll [a] d₁ = (.error e, d') at ran
      cases last : a.run d₁ with
      | error _ =>
        rw [runAll_cons_error last] at ran
        cases ran
        rfl
      | ok d₂ =>
        rw [runAll_cons_ok last] at ran
        cases ran

/-- Of actions that all succeed the first ones do. -/
lemma runAll_take_ok {as : List FileAction} {d d'} (ran : runAll as d = (.ok (), d')) (n) :
    (runAll (as.take n) d).1 = .ok () := by
  rw [← List.take_append_drop n as, runAll_append] at ran
  cases first : runAll (as.take n) d with
  | mk result d₁ =>
    rw [first] at ran
    cases result with
    | error _ => cases ran
    | ok => rfl

end FileAction

namespace FolderStore
open Directory

/-- A store that operations have left behind, complete ones and writes that were cut off, beginning
with an empty directory. -/
inductive LeftBehind : FolderStore → Prop
  | new (mode) : LeftBehind ⟨.ok ⟨mode, []⟩⟩
  | set {s} (key value) : LeftBehind s → LeftBehind (FolderStore.set key value s).2
  | remove {s} (key) : LeftBehind s → LeftBehind (FolderStore.remove key s).2
  | cut {s key value chunks} (n) :
    LeftBehind s →
    isKey key = true →
    chunks.flatten = Bytes.ofString value →
    LeftBehind (FolderStore.runAll ((writing key chunks).take n) s).2

/-- The store is a directory of files. -/
def HoldsFiles (s : FolderStore) : Prop := ∃ d : Directory, s = ⟨.ok d⟩ ∧ d.FilesOnly

/-- Actions on files leave files. -/
lemma HoldsFiles.runAll {s : FolderStore} (as) (holds : s.HoldsFiles) :
    (FolderStore.runAll as s).2.HoldsFiles := by
  obtain ⟨d, rfl, files⟩ := holds
  exact ⟨_, rfl, FileAction.runAll_filesOnly as files⟩

/-- What holds of an empty directory, and is kept by all actions, holds of what operations have left
behind. -/
lemma LeftBehind.keeps {P : FolderStore → Prop} (new : ∀ mode, P ⟨.ok ⟨mode, []⟩⟩)
    (runs : ∀ as s, P s → P (FolderStore.runAll as s).2) {s} (left : LeftBehind s) : P s := by
  induction left with
  | new mode => exact new mode
  | @set s key value _ ih =>
    rw [FolderStore.set]
    split
    case isTrue =>
      have holds := runs (writing key [Bytes.ofString value]) s ih
      split
      case h_1 e => rwa [e] at holds
      case h_2 e => rwa [e] at holds
    case isFalse => exact ih
  | @remove s key _ ih =>
    rw [FolderStore.remove]
    split
    case isTrue =>
      have holds := runs [.unlink key] s ih
      split
      case h_1 e => rwa [e] at holds
      case h_2 e => rwa [e] at holds
      case h_3 e => rwa [e] at holds
    case isFalse => exact ih
  | cut n _ _ _ ih => exact runs _ _ ih

/-- What operations have left behind is a directory of files. -/
lemma LeftBehind.holdsFiles {s} (left : LeftBehind s) : s.HoldsFiles :=
  left.keeps (fun _ => ⟨_, rfl, filesOnly_new⟩) fun as _ holds => holds.runAll as

/-- Drafting renames nothing. -/
lemma rename_notMem_drafting {key chunks old new} :
    FileAction.rename old new ∉ drafting key chunks := by
  simp [drafting]

/-- What is cut off a write is a part of the draft, or all has been done. -/
lemma take_writing (key chunks n) :
    (∀ a ∈ (writing key chunks).take n, a ∈ drafting key chunks) ∨
      (writing key chunks).take n = writing key chunks := by
  rw [writing_eq]
  by_cases early : n ≤ (drafting key chunks).length
  · rw [List.take_append_of_le_length early]
    exact .inl fun a mem => List.mem_of_mem_take mem
  · refine .inr (List.take_of_length_le ?_)
    rw [List.length_append, List.length_singleton]
    omega

/-- A draft changes no text. -/
lemma get_draft {d : Directory} {as key chunks k} (valid : isKey k = true)
    (draft : ∀ a ∈ as, a ∈ drafting key chunks) :
    get k ⟨.ok (FileAction.runAll as d).2⟩ = get k ⟨.ok d⟩ := by
  refine get_congr (FileAction.runAll_untouched fun a ha mem => ?_)
  exact ne_temporaryName valid (touched_drafting key chunks a (draft a ha) k mem)

/-- A write that is cut off keeps the former text of its key until the draft takes the place of the
key's file, and from then on there is the new text. -/
lemma get_cut {d : Directory} {key value chunks} (valid : isKey key = true)
    (whole : chunks.flatten = Bytes.ofString value) (n) :
    let cut := (writing key chunks).take n
    let ran := FileAction.runAll cut d
    (.rename (temporaryName key) key ∈ cut ∧ ran.1 = .ok () →
      get key ⟨.ok ran.2⟩ = .ok (some value)) ∧
    (¬ (.rename (temporaryName key) key ∈ cut ∧ ran.1 = .ok ()) →
      get key ⟨.ok ran.2⟩ = get key ⟨.ok d⟩) := by
  intro cut ran
  obtain draft | all := take_writing key chunks n
  · refine ⟨fun ⟨mem, _⟩ => ?_, fun _ => get_draft valid draft⟩
    exact absurd (draft _ mem) rename_notMem_drafting
  · have same : ran = FileAction.runAll (writing key chunks) d :=
      congrArg (FileAction.runAll · d) all
    cases result : ran.1 with
    | ok =>
      have done : FileAction.runAll (writing key chunks) d = (.ok (), ran.2) := by
        rw [← same, ← result]
      obtain ⟨mode, file⟩ := (runAll_writing done).2 rfl
      rw [whole] at file
      refine ⟨fun _ => get_of_file valid file, fun other => absurd ⟨?_, rfl⟩ other⟩
      change _ ∈ (writing key chunks).take n
      rw [all, writing_eq]
      exact List.mem_append_right _ (List.mem_singleton.2 rfl)
    | error e =>
      -- the draft has been written as far as it went, and has not been renamed
      have failed : FileAction.runAll (writing key chunks) d = (.error e, ran.2) := by
        rw [← same, ← result]
      rw [writing_eq] at failed
      refine ⟨nofun, fun _ => ?_⟩
      rw [FileAction.runAll_concat_error failed]
      exact get_draft valid fun _ mem => mem

/-- A key whose temporary file has too long a name is not written. -/
lemma set_long {d : Directory} {key} (value) (valid : isKey key = true)
    (long : 249 < key.utf8ByteSize) :
    set key value ⟨.ok d⟩ = (.error (.io .invalidFilename), ⟨.ok d⟩) := by
  have size := utf8ByteSize_temporaryName key
  have refused : (FileAction.create (temporaryName key)).run d = .error .invalidFilename := by
    rw [FileAction.run, Directory.lookup, if_pos (by rw [nameLimit]; omega)]
  rw [set, if_pos valid]
  simp only [runAll, writing, FileAction.runAll_cons_error refused]

/-- Wherever a write is cut off, its key has the former text or the new one, and the new one only if
the draft has taken the place of the key's file; other keys have their former texts. If the key has
at most 249 bytes nothing fails, and whatever the cut has left, the key can be set. A longer key
cannot be set, which changes nothing. -/
theorem cut_write_keeps_old_or_new {s : FolderStore} (left : LeftBehind s) {key value : String}
    (valid : isKey key = true) {chunks : List Bytes}
    (whole : chunks.flatten = Bytes.ofString value) (n : Nat) :
    let cut := (writing key chunks).take n
    let ran := runAll cut s
    (.rename (temporaryName key) key ∈ cut ∧ ran.1 = .ok () → get key ran.2 = .ok (some value)) ∧
    (¬ (.rename (temporaryName key) key ∈ cut ∧ ran.1 = .ok ()) → get key ran.2 = get key s) ∧
    (∀ k, isKey k = true → k ≠ key → get k ran.2 = get k s) ∧
    (key.utf8ByteSize ≤ 249 → ran.1 = .ok () ∧ ∀ next, ∃ t,
      set key next ran.2 = (.ok (), t) ∧ get key t = .ok (some next)) ∧
    (249 < key.utf8ByteSize → ∀ next,
      set key next ran.2 = (.error (.io .invalidFilename), ran.2)) := by
  obtain ⟨d, rfl, files⟩ := left.holdsFiles
  intro cut ran
  have ran_eq : ran = ((FileAction.runAll cut d).1, ⟨.ok (FileAction.runAll cut d).2⟩) := rfl
  obtain ⟨after, before⟩ := get_cut (d := d) valid whole n
  have files' := FileAction.runAll_filesOnly cut files
  rw [ran_eq]
  refine ⟨after, before, ?_, ?_, ?_⟩
  · intro k validK ne
    refine get_runAll_of_ne validK ne fun a mem => ?_
    exact touched_writing key chunks a (List.mem_of_mem_take mem)
  -- a cut write of a short key leaves files only, which the next write replaces
  · intro bound
    have fits : Fits key := ⟨valid, bound⟩
    refine ⟨?_, fun next => ?_⟩
    · obtain ⟨d', done⟩ := runAll_writing_ok chunks files fits
      exact FileAction.runAll_take_ok done n
    · obtain ⟨d', done, _, text, _⟩ := set_fitting next files' fits
      exact ⟨⟨.ok d'⟩, done, text⟩
  · intro long next
    exact set_long next valid long

/-- A write that is cut off in the middle of its draft leaves the older text, and the next write
succeeds. -/
theorem cut_draft_keeps_seed :
    let old : FolderStore := (set "seed" "an older and longer text" ⟨.ok .empty⟩).2
    let chunks := [Bytes.ofString "new ", Bytes.ofString "text"]
    let ran := runAll ((writing "seed" chunks).take 3) old
    LeftBehind old ∧ isKey "seed" = true ∧ chunks.flatten = Bytes.ofString "new text" ∧
      get "seed" ran.2 = .ok (some "an older and longer text") ∧
      ∃ t, set "seed" "later" ran.2 = (.ok (), t) ∧ get "seed" t = .ok (some "later") := by
  intro old chunks ran
  have left : LeftBehind old := .set "seed" _ (.new ownerFolder)
  have whole : chunks.flatten = Bytes.ofString "new text" := by decide +kernel
  have valid : isKey "seed" = true := by decide
  obtain ⟨_, before, _, later, _⟩ := cut_write_keeps_old_or_new left valid whole 3
  refine ⟨left, valid, whole, ?_, (later (by decide)).2 "later"⟩
  rw [before ?_]
  · decide +kernel
  · rintro ⟨mem, _⟩
    simp [writing, chunks] at mem

/-- A text of equal letters is a key, however long it is. -/
lemma isKey_replicate (n) : isKey (String.ofList (List.replicate (n + 1) 'a')) = true := by
  rw [isKey, String.toList_ofList, List.replicate_succ]
  simp only [List.all_cons, List.all_replicate]
  split <;> decide

/-- A letter of ASCII is one byte. -/
lemma utf8ByteSize_replicate (n) : (String.ofList (List.replicate n 'a')).utf8ByteSize = n := by
  rw [String.utf8ByteSize_ofList]
  induction n with
  | zero => rfl
  | succ n ih =>
    rw [List.replicate_succ, String.utf8Len_cons, ih]
    rfl

/-- An accepted key with 250 bytes cannot be set, neither before nor after a write is cut off. -/
theorem long_key_refused :
    let key := String.ofList (List.replicate 250 'a')
    let ran := runAll ((writing key [Bytes.ofString "text"]).take 1) ⟨.ok .empty⟩
    LeftBehind ⟨.ok .empty⟩ ∧ isKey key = true ∧
      set key "later" ran.2 = (.error (.io .invalidFilename), ran.2) ∧
      get key ran.2 = .ok none := by
  intro key ran
  have valid : isKey key = true := isKey_replicate 249
  have size : key.utf8ByteSize = 250 := utf8ByteSize_replicate 250
  -- from here on only the length of the key counts, not its characters
  clear_value key
  refine ⟨.new ownerFolder, valid, set_long _ valid (by omega), ?_⟩
  have draft : ∀ a ∈ [FileAction.create (temporaryName key)],
      a ∈ drafting key [Bytes.ofString "text"] := by
    intro a mem
    rw [List.mem_singleton.1 mem]
    exact List.mem_cons_self
  refine (get_draft valid draft).trans (get_of_missing valid ?_)
  exact lookup_notFound_iff.2 ⟨by rw [nameLimit]; omega, rfl⟩

end FolderStore

end SeedVault
