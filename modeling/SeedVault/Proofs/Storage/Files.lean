import SeedVault.Proofs.Storage.FolderStore

/-!
# Directories of files

An action changes no entry but those it has `touched` (`runAll_untouched`), and in a directory of
files every action leaves files only (`runAll_filesOnly`). There a key of at most 249 bytes can be
written (`set_fitting`) and removed (`remove_fitting`), and neither changes the text of another key.
Other keys are told apart from temporary files by their first character
(`ne_temporaryName`).
-/

namespace SeedVault

namespace Directory

/-- The directory has no directories in it. -/
def FilesOnly (d : Directory) : Prop := ∀ n (b : Directory), d.get? n ≠ some b.node

/-- An empty directory is one of files. -/
lemma filesOnly_new {mode} : FilesOnly ⟨mode, []⟩ := nofun

/-- An entry that is erased is gone. -/
lemma get?_erase_self {d : Directory} {n} : (d.erase n).get? n = none := by
  obtain ⟨mode, entries⟩ := d
  simp only [get?, erase]
  induction entries with
  | nil => rfl
  | cons e entries ih =>
    by_cases hn : e.1 = n
    · rw [List.filter_cons_of_neg (by simpa using hn), ih]
    · rw [List.filter_cons_of_pos (by simpa using hn), List.lookup_cons,
        beq_false_of_ne (Ne.symm hn), ih]

/-- A file can be added. -/
lemma FilesOnly.put {d : Directory} {n mode content} (files : d.FilesOnly) :
    (d.put n (.file mode content)).FilesOnly := by
  intro m b
  by_cases same : m = n
  · subst same
    rw [get?_put_self]
    nofun
  · rw [get?_put_of_ne same]
    exact files m b

/-- An entry can be erased. -/
lemma FilesOnly.erase {d : Directory} {n} (files : d.FilesOnly) : (d.erase n).FilesOnly := by
  intro m b
  by_cases same : m = n
  · subst same
    rw [get?_erase_self]
    nofun
  · rw [get?_erase_of_ne same]
    exact files m b

/-- A name of bearable length stands for a file or for nothing. -/
lemma FilesOnly.lookup {d : Directory} {n} (files : d.FilesOnly)
    (short : n.utf8ByteSize ≤ nameLimit) :
    (∃ mode content, d.lookup n = .ok (.file mode content)) ∨ d.lookup n = .error .notFound := by
  cases e : d.get? n with
  | none => exact .inr (lookup_notFound_iff.2 ⟨short, e⟩)
  | some x =>
    cases x with
    | file mode content => exact .inl ⟨mode, content, lookup_ok_iff.2 ⟨short, e⟩⟩
    | folder mode entries => exact absurd e (files n ⟨mode, entries⟩)

/-- Among files nothing is found as a directory. -/
lemma FilesOnly.lookup_ne_folder {d : Directory} {n mode entries} (files : d.FilesOnly) :
    d.lookup n ≠ .ok (.folder mode entries) := by
  intro h
  exact files n ⟨mode, entries⟩ (lookup_ok_iff.1 h).2

/-- A directory of files grows into any other. -/
lemma FilesOnly.grows {d d' : Directory} (files : d.FilesOnly) : Grows d d' := by
  intro names some
  cases names with
  | nil => rfl
  | cons n ns =>
    obtain ⟨c, hc⟩ := Option.isSome_iff_exists.1 some
    obtain ⟨b, hb, _⟩ := folder?_cons_iff.1 hc
    exact absurd hb (files n b)

/-- A search depends on the entry that is searched for. -/
lemma lookup_congr {d d' : Directory} {n} (same : d'.get? n = d.get? n) :
    d'.lookup n = d.lookup n := by
  rw [Directory.lookup, Directory.lookup, same]

end Directory

namespace FileAction
open Directory

/-- The names whose entries an action may change. -/
def touched : FileAction → List String
  | create name => [name]
  | append name _ => [name]
  | sync _ => []
  | rename old new => [old, new]
  | unlink name => [name]

/-- An action leaves the entries alone that it does not touch. -/
lemma run_untouched {a : FileAction} {d d' : Directory} {n} (ran : a.run d = .ok d')
    (untouched : n ∉ a.touched) : d'.get? n = d.get? n := by
  cases a with
  | create name =>
    have ne := mt List.mem_singleton.2 untouched
    exact (run_create ran).2.1 n ne
  | append name bytes =>
    have ne := mt List.mem_singleton.2 untouched
    rw [run] at ran
    split at ran
    case h_1 =>
      cases ran
      exact get?_put_of_ne ne
    case h_2 => cases ran
    case h_3 => cases ran
  | sync name =>
    cases ran
    rfl
  | rename old new =>
    simp only [touched, List.mem_cons, List.not_mem_nil, or_false, not_or] at untouched
    obtain ⟨ne, ne'⟩ := untouched
    rw [run] at ran
    split at ran
    case h_4 =>
      cases ran
      rw [get?_put_of_ne ne', get?_erase_of_ne ne]
    all_goals cases ran
  | unlink name =>
    have ne := mt List.mem_singleton.2 untouched
    rw [run] at ran
    split at ran
    case h_1 =>
      cases ran
      exact get?_erase_of_ne ne
    case h_2 => cases ran
    case h_3 => cases ran

/-- Actions leave the entries alone that none of them touches. -/
lemma runAll_untouched {as : List FileAction} {d : Directory} {n}
    (untouched : ∀ a ∈ as, n ∉ a.touched) : (runAll as d).2.get? n = d.get? n := by
  fun_induction runAll as d with
  | case1 => rfl
  | case2 d a as d' ran ih =>
    obtain ⟨first, rest⟩ := List.forall_mem_cons.1 untouched
    rw [ih rest, run_untouched ran first]
  | case3 => rfl

/-- An action leaves files among files. -/
lemma run_filesOnly {a : FileAction} {d d' : Directory} (files : d.FilesOnly)
    (ran : a.run d = .ok d') : d'.FilesOnly := by
  cases a with
  | create name =>
    rw [run] at ran
    split at ran
    case h_1 => cases ran; exact files.put
    case h_2 => cases ran
    case h_3 => cases ran; exact files.put
    case h_4 => cases ran
  | append name bytes =>
    rw [run] at ran
    split at ran
    case h_1 => cases ran; exact files.put
    case h_2 => cases ran
    case h_3 => cases ran
  | sync name =>
    cases ran
    exact files
  | rename old new =>
    rw [run] at ran
    split at ran
    case h_4 n found _ _ =>
      cases ran
      cases n with
      | file mode content => exact files.erase.put
      | folder mode entries => exact absurd found files.lookup_ne_folder
    all_goals cases ran
  | unlink name =>
    rw [run] at ran
    split at ran
    case h_1 => cases ran; exact files.erase
    case h_2 => cases ran
    case h_3 => cases ran

/-- Actions leave files among files, whether they all succeed or not. -/
lemma runAll_filesOnly (as : List FileAction) {d : Directory} (files : d.FilesOnly) :
    (runAll as d).2.FilesOnly := by
  fun_induction runAll as d with
  | case1 => exact files
  | case2 d a as d' ran ih => exact ih (run_filesOnly files ran)
  | case3 => exact files

/-- Among files, one can be opened for writing under any name of bearable length. -/
lemma run_create_ok {d : Directory} {n} (files : d.FilesOnly)
    (short : n.utf8ByteSize ≤ nameLimit) : ∃ d', (create n).run d = .ok d' := by
  rw [run]
  obtain ⟨mode, content, e⟩ | e := files.lookup short
  · rw [e]
    exact ⟨_, rfl⟩
  · rw [e]
    exact ⟨_, rfl⟩

/-- Among files, one can be given any name of bearable length. -/
lemma run_rename_ok {d : Directory} {old new x} (files : d.FilesOnly)
    (found : d.lookup old = .ok x) (short : new.utf8ByteSize ≤ nameLimit) :
    ∃ d', (rename old new).run d = .ok d' := by
  rw [run, found]
  obtain ⟨mode, content, e⟩ | e := files.lookup short
  · rw [e]
    exact ⟨_, rfl⟩
  · rw [e]
    exact ⟨_, rfl⟩

end FileAction

namespace FolderStore
open Directory

/-- The key is accepted, and the name of its temporary file is not too long. -/
structure Fits (key : String) : Prop where
  valid : isKey key = true
  bound : key.utf8ByteSize ≤ 249

/-- The name of a key that fits is not too long itself. -/
lemma Fits.short {key} (fits : Fits key) : key.utf8ByteSize ≤ nameLimit := by
  have := fits.bound
  rw [nameLimit]
  omega

/-- The name of a draft is six bytes longer than that of its key. -/
lemma utf8ByteSize_temporaryName (key) :
    (temporaryName key).utf8ByteSize = key.utf8ByteSize + 6 := by
  rw [temporaryName, String.utf8ByteSize_append, String.utf8ByteSize_append]
  have dot : ".".utf8ByteSize = 1 := rfl
  have ending : ".temp".utf8ByteSize = 5 := rfl
  omega

/-- A temporary file has the name of no key. -/
lemma ne_temporaryName {k key} (valid : isKey k = true) : k ≠ temporaryName key := by
  rintro rfl
  have first : (temporaryName key).toList = '.' :: (key ++ ".temp").toList := by
    rw [temporaryName, String.append_assoc, String.toList_append]
    rfl
  rw [isKey, first] at valid
  cases valid

/-- What is read for a key depends on the entry of that name alone. -/
lemma get_congr {d d' : Directory} {k} (same : d'.get? k = d.get? k) :
    get k ⟨.ok d'⟩ = get k ⟨.ok d⟩ := by
  have file : d'.read k = d.read k := by
    rw [Directory.read, Directory.read, lookup_congr same]
  have text : read ⟨.ok d'⟩ k = read ⟨.ok d⟩ k := by
    simp only [read, bind, Except.bind, file]
  rw [get, get, text]

/-- Without a file there is no text. -/
lemma get_of_missing {d : Directory} {key} (valid : isKey key = true)
    (missing : d.lookup key = .error .notFound) : get key ⟨.ok d⟩ = .ok none := by
  have bytes : d.read key = .error .notFound := by
    rw [Directory.read, missing]
  have text : read ⟨.ok d⟩ key = .error .notFound := by
    simp only [read, bind, Except.bind, bytes]
  rw [get, if_pos valid, text]

/-- Actions on the two files of a key leave the texts of other keys alone. -/
lemma get_runAll_of_ne {d : Directory} {as key k} (valid : isKey k = true) (ne : k ≠ key)
    (two : ∀ a ∈ as, ∀ n ∈ FileAction.touched a, n = key ∨ n = temporaryName key) :
    get k ⟨.ok (FileAction.runAll as d).2⟩ = get k ⟨.ok d⟩ := by
  refine get_congr (FileAction.runAll_untouched fun a ha mem => ?_)
  obtain h | h := two a ha k mem
  · exact ne h
  · exact ne_temporaryName valid h

/-- The actions that write a draft beside the file of a key. -/
def drafting (key : String) (chunks : List Bytes) : List FileAction :=
  .create (temporaryName key) ::
    (chunks.map (.append (temporaryName key)) ++ [.sync (temporaryName key)])

/-- A key is written by a draft that then takes the place of its file. -/
lemma writing_eq (key chunks) :
    writing key chunks = drafting key chunks ++ [.rename (temporaryName key) key] := by
  rw [writing, drafting, List.cons_append, List.append_assoc]
  rfl

/-- Drafting touches the draft. -/
lemma touched_drafting (key chunks) :
    ∀ a ∈ drafting key chunks, ∀ n ∈ FileAction.touched a, n = temporaryName key := by
  intro a mem
  simp only [drafting, List.mem_cons, List.mem_append, List.mem_map, List.not_mem_nil,
    or_false] at mem
  obtain rfl | ⟨_, _, rfl⟩ | rfl := mem
  all_goals simp [FileAction.touched]

/-- Writing touches the key and its draft. -/
lemma touched_writing (key chunks) :
    ∀ a ∈ writing key chunks, ∀ n ∈ FileAction.touched a, n = key ∨ n = temporaryName key := by
  intro a mem
  rw [writing_eq, List.mem_append, List.mem_singleton] at mem
  obtain draft | rfl := mem
  · intro n hn
    exact .inr (touched_drafting key chunks a draft n hn)
  · simp [FileAction.touched]

/-- Among files, a draft of a key that fits can be written. -/
lemma runAll_drafting_ok {d : Directory} {key} (chunks) (files : d.FilesOnly) (fits : Fits key) :
    ∃ d' mode, FileAction.runAll (drafting key chunks) d = (.ok (), d') ∧
      d'.lookup (temporaryName key) = .ok (.file mode chunks.flatten) := by
  have size := utf8ByteSize_temporaryName key
  have short : (temporaryName key).utf8ByteSize ≤ nameLimit := by
    have := fits.bound
    rw [nameLimit]
    omega
  obtain ⟨d₁, created⟩ := FileAction.run_create_ok files short
  obtain ⟨⟨mode, opened⟩, _, _⟩ := FileAction.run_create created
  obtain ⟨d₂, appended, written, _⟩ := FileAction.runAll_append_chunks chunks opened
  have synced : (FileAction.sync (temporaryName key)).run d₂ = .ok d₂ := rfl
  refine ⟨d₂, mode, ?_, written⟩
  rw [drafting, FileAction.runAll_cons_ok created, FileAction.runAll_append, appended]
  exact FileAction.runAll_cons_ok synced

/-- Among files, a key that fits can be written. -/
lemma runAll_writing_ok {d : Directory} {key} (chunks) (files : d.FilesOnly) (fits : Fits key) :
    ∃ d', FileAction.runAll (writing key chunks) d = (.ok (), d') := by
  obtain ⟨d₁, mode, drafted, found⟩ := runAll_drafting_ok chunks files fits
  have files₁ := FileAction.runAll_filesOnly (drafting key chunks) files
  rw [drafted] at files₁
  obtain ⟨d₂, renamed⟩ := FileAction.run_rename_ok files₁ found fits.short
  refine ⟨d₂, ?_⟩
  rw [writing_eq, FileAction.runAll_append, drafted]
  exact FileAction.runAll_cons_ok renamed

/-- Among files, a key that fits can be set. -/
lemma set_fitting {d : Directory} {key} (value) (files : d.FilesOnly) (fits : Fits key) :
    ∃ d', set key value ⟨.ok d⟩ = (.ok (), ⟨.ok d'⟩) ∧ d'.FilesOnly ∧
      get key ⟨.ok d'⟩ = .ok (some value) ∧
      ∀ k, isKey k = true → k ≠ key → get k ⟨.ok d'⟩ = get k ⟨.ok d⟩ := by
  obtain ⟨d', ran⟩ := runAll_writing_ok [Bytes.ofString value] files fits
  have left := FileAction.runAll_filesOnly (writing key [Bytes.ofString value]) files
  rw [ran] at left
  obtain ⟨mode, file⟩ := (runAll_writing ran).2 rfl
  rw [List.flatten_singleton] at file
  refine ⟨d', ?_, left, get_of_file fits.valid file, fun k valid ne => ?_⟩
  · rw [set, if_pos fits.valid]
    simp only [runAll, ran]
  · have same := get_runAll_of_ne (d := d) valid ne (touched_writing key [Bytes.ofString value])
    rwa [ran] at same

/-- Among files, a key that fits can be removed, whether it has a text or not. -/
lemma remove_fitting {d : Directory} {key} (files : d.FilesOnly) (fits : Fits key) :
    ∃ d', remove key ⟨.ok d⟩ = (.ok (), ⟨.ok d'⟩) ∧ d'.FilesOnly ∧
      get key ⟨.ok d'⟩ = .ok none ∧
      ∀ k, isKey k = true → k ≠ key → get k ⟨.ok d'⟩ = get k ⟨.ok d⟩ := by
  have gone : (d.erase key).lookup key = .error .notFound :=
    lookup_notFound_iff.2 ⟨fits.short, get?_erase_self⟩
  rw [remove, if_pos fits.valid]
  obtain ⟨mode, content, e⟩ | e := files.lookup fits.short
  · have ran : (FileAction.unlink key).run d = .ok (d.erase key) := by
      rw [FileAction.run, e]
    refine ⟨d.erase key, ?_, files.erase, get_of_missing fits.valid gone, fun k _ ne => ?_⟩
    · simp only [runAll, FileAction.runAll, ran]
    · exact get_congr (get?_erase_of_ne ne)
  · have ran : (FileAction.unlink key).run d = .error .notFound := by
      rw [FileAction.run, e]
    refine ⟨d, ?_, files, get_of_missing fits.valid e, fun k _ _ => rfl⟩
    simp only [runAll, FileAction.runAll, ran]

end FolderStore

end SeedVault
