import SeedVault.Proofs.Storage.Interruption

/-!
# What a write leaves

All ways that the writing of a key can go are listed by `Wrote`: the draft cannot be opened, a
directory stands in its way, or it becomes the key's file. A write that fails leaves a draft behind
in the second case (`failed_set_keeps_entries_iff`). A file that is kept has the permission bits of
its draft, and these are the owner's unless a file of that name was there before
(`kept_file_owner_only_iff`); in a store that nobody else writes to they always are
(`LeftBehind.holdsOwned`).
-/

namespace SeedVault

namespace Directory

/-- All files are the owner's alone. -/
def OwnerOnly (d : Directory) : Prop :=
  ∀ n mode content, d.get? n = some (.file mode content) → mode = ownerFile

/-- In an empty directory there is no file of anybody. -/
lemma ownerOnly_new {mode} : OwnerOnly ⟨mode, []⟩ := nofun

/-- A file of the owner can be added. -/
lemma OwnerOnly.put {d : Directory} {n content} (own : d.OwnerOnly) :
    (d.put n (.file ownerFile content)).OwnerOnly := by
  intro m mode content' found
  by_cases same : m = n
  · subst same
    rw [get?_put_self] at found
    cases found
    rfl
  · rw [get?_put_of_ne same] at found
    exact own m mode content' found

/-- An entry can be erased. -/
lemma OwnerOnly.erase {d : Directory} {n} (own : d.OwnerOnly) : (d.erase n).OwnerOnly := by
  intro m mode content found
  by_cases same : m = n
  · subst same
    rw [get?_erase_self] at found
    cases found
  · rw [get?_erase_of_ne same] at found
    exact own m mode content found

/-- A file that is found is the owner's. -/
lemma OwnerOnly.lookup {d : Directory} {n mode content} (own : d.OwnerOnly)
    (found : d.lookup n = .ok (.file mode content)) : mode = ownerFile :=
  own n mode content (lookup_ok_iff.1 found).2

end Directory

namespace FileAction
open Directory

/-- Among files, an action leaves the bits of files as they are, and new files are the owner's. -/
lemma run_ownerOnly {a : FileAction} {d d' : Directory} (files : d.FilesOnly) (own : d.OwnerOnly)
    (ran : a.run d = .ok d') : d'.OwnerOnly := by
  -- no action sets bits, so a file has those of a file before it or the owner's
  cases a with
  | create name =>
    rw [run] at ran
    split at ran
    case h_1 found => cases ran; rw [own.lookup found]; exact own.put
    case h_2 => cases ran
    case h_3 => cases ran; exact own.put
    case h_4 => cases ran
  | append name bytes =>
    rw [run] at ran
    split at ran
    case h_1 found => cases ran; rw [own.lookup found]; exact own.put
    case h_2 => cases ran
    case h_3 => cases ran
  | sync name =>
    cases ran
    exact own
  | rename old new =>
    rw [run] at ran
    split at ran
    case h_4 n found _ _ =>
      cases ran
      cases n with
      | file mode content => rw [own.lookup found]; exact own.erase.put
      | folder mode entries => exact absurd found files.lookup_ne_folder
    all_goals cases ran
  | unlink name =>
    rw [run] at ran
    split at ran
    case h_1 => cases ran; exact own.erase
    case h_2 => cases ran
    case h_3 => cases ran

/-- Actions keep files the owner's, whether they all succeed or not. -/
lemma runAll_ownerOnly (as : List FileAction) {d : Directory} (files : d.FilesOnly)
    (own : d.OwnerOnly) : (runAll as d).2.OwnerOnly := by
  fun_induction runAll as d with
  | case1 => exact own
  | case2 d a as d' ran ih => exact ih (run_filesOnly files ran) (run_ownerOnly files own ran)
  | case3 => exact own

end FileAction

namespace FolderStore
open Directory

/-- The permission bits of a key's draft, if it can be opened: those of a file that has its name
already, or the owner's alone. -/
def draftMode? (d : Directory) (key : String) : Option Nat :=
  match d.lookup (temporaryName key) with
  | .ok (.file mode _) => some mode
  | .error .notFound => some ownerFile
  | _ => none

/-- A draft in place of a file has the bits of that file. -/
lemma draftMode?_of_file {d : Directory} {key mode content}
    (found : d.lookup (temporaryName key) = .ok (.file mode content)) :
    draftMode? d key = some mode := by
  rw [draftMode?, found]

/-- A draft in place of nothing is the owner's. -/
lemma draftMode?_of_missing {d : Directory} {key}
    (missing : d.lookup (temporaryName key) = .error .notFound) :
    draftMode? d key = some ownerFile := by
  rw [draftMode?, missing]

/-- A draft that can be opened has a bearable name, and is empty at first. -/
lemma run_create_of_draftMode? {d : Directory} {key mode} (opens : draftMode? d key = some mode) :
    (temporaryName key).utf8ByteSize ≤ nameLimit ∧
      (FileAction.create (temporaryName key)).run d =
        .ok (d.put (temporaryName key) (.file mode [])) := by
  rw [draftMode?] at opens
  split at opens
  case h_1 found =>
    cases opens
    exact ⟨(lookup_ok_iff.1 found).1, by rw [FileAction.run, found]⟩
  case h_2 missing =>
    cases opens
    exact ⟨(lookup_notFound_iff.1 missing).1, by rw [FileAction.run, missing]⟩
  case h_3 => cases opens

/-- A draft that cannot be opened cannot be made. -/
lemma run_create_of_unopened {d : Directory} {key} (opens : draftMode? d key = none) :
    ∃ e, (FileAction.create (temporaryName key)).run d = .error e := by
  rw [FileAction.run]
  split
  case h_1 found => rw [draftMode?_of_file found] at opens; cases opens
  case h_2 => exact ⟨_, rfl⟩
  case h_3 missing => rw [draftMode?_of_missing missing] at opens; cases opens
  case h_4 => exact ⟨_, rfl⟩

/-- The bits of a draft are those of the file that had its name, or the owner's if none had. -/
lemma draftMode?_eq_some {d : Directory} {key mode} (opens : draftMode? d key = some mode) :
    (∃ content, d.get? (temporaryName key) = some (.file mode content)) ∨
      d.get? (temporaryName key) = none ∧ mode = ownerFile := by
  rw [draftMode?] at opens
  split at opens
  case h_1 found =>
    cases opens
    exact .inl ⟨_, (lookup_ok_iff.1 found).2⟩
  case h_2 missing =>
    cases opens
    exact .inr ⟨(lookup_notFound_iff.1 missing).2, rfl⟩
  case h_3 => cases opens

/-- The bits of a draft are those of the file before it, if there was one. -/
lemma draftMode?_eq_of_file {d : Directory} {key mode old content}
    (opens : draftMode? d key = some mode)
    (before : d.get? (temporaryName key) = some (.file old content)) : mode = old := by
  obtain ⟨_, same⟩ | ⟨missing, _⟩ := draftMode?_eq_some opens
  · rw [before] at same
    cases same
    rfl
  · rw [before] at missing
    cases missing

/-- How the writing of a key can go, and what it leaves. -/
inductive Wrote (d : Directory) (key : String) (content : Bytes) :
    Except IoError Unit → Directory → Prop
  /-- The draft cannot be opened. -/
  | unopened {e} :
    draftMode? d key = none →
    Wrote d key content (.error e) d
  /-- A directory stands where the draft would go, so it stays what it is. -/
  | obstructed {mode d'} (b : Directory) :
    draftMode? d key = some mode →
    d.get? key = some b.node →
    d'.get? (temporaryName key) = some (.file mode content) →
    (∀ n, n ≠ temporaryName key → d'.get? n = d.get? n) →
    Wrote d key content (.error .isADirectory) d'
  /-- The draft has become the key's file. -/
  | kept {mode d'} :
    draftMode? d key = some mode →
    (∀ b : Directory, d.get? key ≠ some b.node) →
    d'.get? key = some (.file mode content) →
    Wrote d key content (.ok ()) d'

/-- The draft takes the place of the key's file unless a directory stands there. -/
lemma run_rename_draft {d : Directory} {key mode content}
    (drafted : d.lookup (temporaryName key) = .ok (.file mode content)) :
    (∃ b : Directory, d.get? key = some b.node ∧
      (FileAction.rename (temporaryName key) key).run d = .error .isADirectory) ∨
    ((∀ b : Directory, d.get? key ≠ some b.node) ∧
      ∃ d', (FileAction.rename (temporaryName key) key).run d = .ok d' ∧
        d'.get? key = some (.file mode content)) := by
  have short : key.utf8ByteSize ≤ nameLimit := by
    have size := utf8ByteSize_temporaryName key
    have := (lookup_ok_iff.1 drafted).1
    omega
  cases there : d.get? key with
  | none =>
    have missing : d.lookup key = .error .notFound := lookup_notFound_iff.2 ⟨short, there⟩
    exact .inr ⟨by rintro _ ⟨⟩, _, by rw [FileAction.run, drafted, missing], get?_put_self⟩
  | some x =>
    have found : d.lookup key = .ok x := lookup_ok_iff.2 ⟨short, there⟩
    cases x with
    | file mode' content' =>
      exact .inr ⟨by rintro _ ⟨⟩, _, by rw [FileAction.run, drafted, found], get?_put_self⟩
    | folder mode' entries =>
      exact .inl ⟨⟨mode', entries⟩, rfl, by rw [FileAction.run, drafted, found]⟩

/-- Writing a key goes in one of these ways. -/
lemma wrote_runAll (d : Directory) {key} (chunks) (valid : isKey key = true) :
    Wrote d key chunks.flatten (FileAction.runAll (writing key chunks) d).1
      (FileAction.runAll (writing key chunks) d).2 := by
  rw [writing]
  cases opens : draftMode? d key with
  | none =>
    obtain ⟨e, refused⟩ := run_create_of_unopened opens
    rw [FileAction.runAll_cons_error refused]
    exact .unopened opens
  | some mode =>
    obtain ⟨short, created⟩ := run_create_of_draftMode? opens
    have opened : (d.put (temporaryName key) (.file mode [])).lookup (temporaryName key) =
        .ok (.file mode []) := lookup_ok_iff.2 ⟨short, get?_put_self⟩
    obtain ⟨d', appended, drafted, others⟩ := FileAction.runAll_append_chunks chunks opened
    have others' : ∀ n, n ≠ temporaryName key → d'.get? n = d.get? n := by
      intro n ne
      rw [others n ne, get?_put_of_ne ne]
    have synced : (FileAction.sync (temporaryName key)).run d' = .ok d' := rfl
    rw [FileAction.runAll_cons_ok created, FileAction.runAll_append, appended]
    simp only [FileAction.runAll_cons_ok synced]
    obtain ⟨b, there, refused⟩ | ⟨free, d'', renamed, kept⟩ := run_rename_draft drafted
    · rw [FileAction.runAll_cons_error refused]
      rw [others' key (ne_temporaryName valid)] at there
      exact .obstructed b opens there (lookup_ok_iff.1 drafted).2 others'
    · rw [FileAction.runAll_cons_ok renamed]
      rw [others' key (ne_temporaryName valid)] at free
      exact .kept opens free kept

/-- The entry of a name in the store's directory, if there is one. -/
def node? (s : FolderStore) (name : String) : Option Node :=
  match s.place with
  | .ok d => d.get? name
  | .error _ => none

/-- A directory stands where an accepted key's file would be, while its draft can be opened. -/
def Obstructed (s : FolderStore) (key : String) : Prop :=
  isKey key = true ∧
    ∃ d b : Directory, s.place = .ok d ∧ d.get? key = some b.node ∧ (draftMode? d key).isSome

/-- An accepted key is written to the store's directory. -/
lemma wrote_set {s : FolderStore} {key d} (valid : isKey key = true) (place : s.place = .ok d)
    (value) :
    ∃ d' r, Wrote d key (Bytes.ofString value) r d' ∧
      set key value s = (r.mapError .io, ⟨.ok d'⟩) := by
  have wrote := wrote_runAll d [Bytes.ofString value] valid
  rw [List.flatten_singleton] at wrote
  refine ⟨_, _, wrote, ?_⟩
  rw [set, if_pos valid, runAll, place]
  cases ran : FileAction.runAll (writing key [Bytes.ofString value]) d with
  | mk r d' =>
    simp only [ran]
    cases r <;> rfl

/-- Setting a key refuses it, finds no directory to write to, or writes the key there. -/
lemma set_cases (key value) (s : FolderStore) :
    (isKey key = false ∧ set key value s = (.error (.invalidKey key), s)) ∨
    (∃ e, s.place = .error e ∧ set key value s = (.error (.io e), s)) ∨
    (isKey key = true ∧ ∃ d d' r, s.place = .ok d ∧ Wrote d key (Bytes.ofString value) r d' ∧
      set key value s = (r.mapError .io, ⟨.ok d'⟩)) := by
  cases valid : isKey key with
  | false =>
    refine .inl ⟨rfl, ?_⟩
    rw [set, valid]
    rfl
  | true =>
    cases place : s.place with
    | error e =>
      refine .inr (.inl ⟨e, rfl, ?_⟩)
      rw [set, if_pos valid, runAll, place]
    | ok d =>
      obtain ⟨d', r, wrote, done⟩ := wrote_set valid place value
      exact .inr (.inr ⟨rfl, d, d', r, rfl, wrote, done⟩)

/-- The entries of a store are those of its directory. -/
lemma node?_of_place {s : FolderStore} {d} (place : s.place = .ok d) (n) :
    s.node? n = d.get? n := by
  rw [node?, place]

/-- In the way of the draft there is a directory, and the draft stays. -/
lemma set_of_obstructed {s : FolderStore} {key} (obstructed : s.Obstructed key) (value) :
    ∃ mode, (set key value s).2.node? (temporaryName key) =
        some (.file mode (Bytes.ofString value)) ∧
      (∀ old content, s.node? (temporaryName key) = some (.file old content) → mode = old) ∧
      ∀ n, n ≠ temporaryName key → (set key value s).2.node? n = s.node? n := by
  obtain ⟨valid, d, b, place, there, opens⟩ := obstructed
  obtain ⟨d', r, wrote, done⟩ := wrote_set valid place value
  rw [done]
  simp only [node?_of_place place]
  cases wrote with
  | unopened unopened =>
    rw [unopened] at opens
    cases opens
  | @obstructed mode _ _ opens _ drafted others =>
    exact ⟨mode, drafted, fun _ _ => draftMode?_eq_of_file opens, others⟩
  | kept _ free => exact absurd there (free b)

/-- Without a directory in the way of the draft, what fails has changed nothing. -/
lemma set_failed_of_free {s : FolderStore} {key value e}
    (failed : (set key value s).1 = .error e) (free : ¬ s.Obstructed key) :
    (set key value s).2 = s := by
  obtain ⟨_, done⟩ | ⟨_, _, done⟩ | ⟨valid, d, d', r, place, wrote, done⟩ := set_cases key value s
  · rw [done]
  · rw [done]
  · rw [done] at failed ⊢
    cases wrote with
    | unopened => exact congrArg FolderStore.mk place.symm
    | obstructed b opens there =>
      exact absurd ⟨valid, d, b, place, there, by rw [opens]; rfl⟩ free
    | kept => cases failed

/-- A write that fails leaves the entries of the directory as they were, except where a directory
stands under the key and the draft can be opened: then the draft stays, with the text that was not
kept, and only if the same was there before, nothing has changed. The failures are those that the
entries cause; permission bits cause none here, and where they do, a write may also fail at a draft
that cannot be opened, or at a directory that takes no new names. -/
theorem failed_set_keeps_entries_iff {s : FolderStore} {key value : String} {e : StorageError}
    (failed : (set key value s).1 = .error e) :
    let left := (set key value s).2
    ((∀ n, left.node? n = s.node? n) ↔
      (s.Obstructed key →
        ∃ mode, s.node? (temporaryName key) = some (.file mode (Bytes.ofString value)))) ∧
    (¬ s.Obstructed key → left = s) ∧
    (s.Obstructed key →
      (∃ mode, left.node? (temporaryName key) = some (.file mode (Bytes.ofString value))) ∧
      ∀ n, n ≠ temporaryName key → left.node? n = s.node? n) := by
  intro left
  by_cases obstructed : s.Obstructed key
  · obtain ⟨mode, drafted, old, others⟩ := set_of_obstructed obstructed value
    refine ⟨⟨fun same _ => ⟨mode, ?_⟩, fun leftover n => ?_⟩, absurd obstructed,
      fun _ => ⟨⟨mode, drafted⟩, others⟩⟩
    · rw [← same, drafted]
    · by_cases draft : n = temporaryName key
      · obtain ⟨mode', before⟩ := leftover obstructed
        rw [draft, drafted, before, old mode' _ before]
      · exact others n draft
  · have same : left = s := set_failed_of_free failed obstructed
    refine ⟨iff_of_true (fun n => ?_) fun h => absurd h obstructed, fun _ => same,
      fun h => absurd h obstructed⟩
    rw [same]

/-- A directory under the name of the draft keeps it from being opened, and all stays as it was. -/
theorem unopened_draft_keeps_entries :
    let s : FolderStore := ⟨.ok (Directory.empty.put ".seed.temp" Directory.empty.node)⟩
    (set "seed" "text" s).1 = .error (.io .isADirectory) ∧ (set "seed" "text" s).2 = s := by
  intro s
  have failed : (set "seed" "text" s).1 = .error (.io .isADirectory) := by decide +kernel
  have free : ¬ s.Obstructed "seed" := by
    rintro ⟨_, d, b, ⟨⟩, there, _⟩
    cases there
  exact ⟨failed, (failed_set_keeps_entries_iff failed).2.1 free⟩

/-- A directory under the key leaves the refused text behind, in a file that was not there. -/
theorem obstructed_set_leaves_text :
    let s : FolderStore := ⟨.ok (Directory.empty.put "seed" Directory.empty.node)⟩
    (set "seed" "text" s).1 = .error (.io .isADirectory) ∧
      s.node? ".seed.temp" = none ∧
      (set "seed" "text" s).2.node? ".seed.temp" =
        some (.file ownerFile (Bytes.ofString "text")) := by
  intro s
  exact ⟨by decide +kernel, rfl, by rfl⟩

/-- The store is a directory of files that are the owner's alone. -/
def HoldsOwned (s : FolderStore) : Prop :=
  ∃ d : Directory, s = ⟨.ok d⟩ ∧ d.FilesOnly ∧ d.OwnerOnly

/-- What operations of the store have left behind is the owner's alone. -/
lemma LeftBehind.holdsOwned {s} (left : LeftBehind s) : s.HoldsOwned := by
  refine left.keeps (fun _ => ⟨_, rfl, filesOnly_new, ownerOnly_new⟩) ?_
  rintro as _ ⟨d, rfl, files, own⟩
  exact ⟨_, rfl, FileAction.runAll_filesOnly as files, FileAction.runAll_ownerOnly as files own⟩

/-- After a successful write the key's file holds the text. Its permission bits are those of a file
that stood under the draft's name before, and the owner's alone if there was none; what stood under
the key does not matter. In a store that only its own operations have written to, whole ones or such
as were cut off, every write that succeeds keeps a file of the owner's alone. -/
theorem kept_file_owner_only_iff {s : FolderStore} {key value : String}
    (kept : (set key value s).1 = .ok ()) :
    ∃ mode, (set key value s).2.node? key = some (.file mode (Bytes.ofString value)) ∧
      (mode = ownerFile ↔
        ∀ old content, s.node? (temporaryName key) = some (.file old content) →
          old = ownerFile) ∧
      (∀ old content, s.node? (temporaryName key) = some (.file old content) → mode = old) ∧
      (LeftBehind s → mode = ownerFile) := by
  obtain ⟨_, done⟩ | ⟨_, _, done⟩ | ⟨valid, d, d', r, place, wrote, done⟩ := set_cases key value s
  · rw [done] at kept
    cases kept
  · rw [done] at kept
    cases kept
  · rw [done] at kept ⊢
    simp only [node?_of_place place]
    cases wrote with
    | unopened => cases kept
    | obstructed => cases kept
    | @kept mode _ opens _ file =>
      -- an older draft is written over and keeps its bits, and the rename carries them over
      have bits : ∀ old content, d.get? (temporaryName key) = some (.file old content) →
          mode = old := fun _ _ => draftMode?_eq_of_file opens
      have own_iff : mode = ownerFile ↔
          ∀ old content, d.get? (temporaryName key) = some (.file old content) →
            old = ownerFile := by
        constructor
        · rintro rfl old content before
          exact (bits old content before).symm
        · intro owned
          obtain ⟨content, before⟩ | ⟨_, fresh⟩ := draftMode?_eq_some opens
          · exact owned mode content before
          · exact fresh
      refine ⟨mode, file, own_iff, bits, fun left => own_iff.2 fun old content before => ?_⟩
      obtain ⟨d₁, rfl, _, own⟩ := left.holdsOwned
      cases place
      exact own _ old content before

/-- The older file under the key may have any bits: the new one is the owner's alone. -/
theorem replaced_file_owner_only :
    let s : FolderStore := ⟨.ok (Directory.empty.put "seed" (.file 0o644 [1, 2]))⟩
    (set "seed" "text" s).1 = .ok () ∧
      ∃ mode, (set "seed" "text" s).2.node? "seed" =
        some (.file mode (Bytes.ofString "text")) ∧ mode = ownerFile := by
  intro s
  have kept : (set "seed" "text" s).1 = .ok () := by decide +kernel
  obtain ⟨mode, file, bits, _⟩ := kept_file_owner_only_iff kept
  refine ⟨kept, mode, file, bits.2 fun old content before => ?_⟩
  cases before

/-- The file keeps the bits of one that stood under the draft's name. -/
theorem file_readable_by_all :
    let s : FolderStore := ⟨.ok (Directory.empty.put ".seed.temp" (.file 0o644 []))⟩
    (set "seed" "text" s).1 = .ok () ∧
      (set "seed" "text" s).2.node? "seed" = some (.file 0o644 (Bytes.ofString "text")) := by
  intro s
  exact ⟨by decide +kernel, by rfl⟩

end FolderStore

end SeedVault
