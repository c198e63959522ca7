import SeedVault.Proofs.Bytes.Text
import SeedVault.Proofs.Storage.Directory
import SeedVault.Storage.FolderStore

/-!
# Stores side by side

Writing a key changes no entry of the store's directory but the key's file and its temporary file,
and no directory in it (`runAll_writing`). What stores beside each other hold is therefore
independent of each other (`getAt_setAt_of_ne`), whatever path leads to them, and a text that was
written is read back (`getAt_setAt_self`).
-/

namespace SeedVault

namespace FileAction

/-- After a success the other actions go on. -/
lemma runAll_cons_ok {a : FileAction} {as d d'} (h : a.run d = .ok d') :
    runAll (a :: as) d = runAll as d' := by
  rw [runAll, h]

/-- After a failure nothing more is done. -/
lemma runAll_cons_error {a : FileAction} {as d e} (h : a.run d = .error e) :
    runAll (a :: as) d = (.error e, d) := by
  rw [runAll, h]

/-- Actions can be run in two parts. -/
lemma runAll_append {as bs d} :
    runAll (as ++ bs) d =
      match runAll as d with
      | (.ok (), d) => runAll bs d
      | (.error e, d) => (.error e, d) := by
  fun_induction runAll as d with
  | case1 => rfl
  | case2 d a as d' e ih =>
    rw [List.cons_append, runAll_cons_ok e]
    exact ih
  | case3 d a as x e => rw [List.cons_append, runAll_cons_error e]

/-- Writing at the end of a file puts all chunks there and leaves the other entries alone. -/
lemma runAll_append_chunks {d : Directory} {t mode content} (chunks : List Bytes)
    (file : d.lookup t = .ok (.file mode content)) :
    ∃ d', runAll (chunks.map (.append t)) d = (.ok (), d') ∧
      d'.lookup t = .ok (.file mode (content ++ chunks.flatten)) ∧
      ∀ m, m ≠ t → d'.get? m = d.get? m := by
  induction chunks generalizing d content with
  | nil => exact ⟨d, rfl, by rwa [List.flatten_nil, List.append_nil], fun _ _ => rfl⟩
  | cons chunk chunks ih =>
    obtain ⟨short, _⟩ := Directory.lookup_ok_iff.1 file
    have next : (d.put t (.file mode (content ++ chunk))).lookup t =
        .ok (.file mode (content ++ chunk)) :=
      Directory.lookup_ok_iff.2 ⟨short, Directory.get?_put_self⟩
    obtain ⟨d', ran, written, others⟩ := ih next
    refine ⟨d', ?_, ?_, ?_⟩
    · have step : (append t chunk).run d = .ok (d.put t (.file mode (content ++ chunk))) := by
        rw [run, file]
      rw [List.map_cons, runAll_cons_ok step, ran]
    · rw [written, List.flatten_cons, List.append_assoc]
    · intro m ne
      rw [others m ne, Directory.get?_put_of_ne ne]

/-- Opening a file for writing empties it, or makes it where nothing is. -/
lemma run_create {d d' : Directory} {t} (ran : (create t).run d = .ok d') :
    (∃ mode, d'.lookup t = .ok (.file mode [])) ∧ (∀ m, m ≠ t → d'.get? m = d.get? m) ∧
      ∀ b : Directory, d.get? t ≠ some b.node := by
  rw [run] at ran
  split at ran
  case h_1 mode content e =>
    cases ran
    obtain ⟨short, file⟩ := Directory.lookup_ok_iff.1 e
    refine ⟨⟨mode, Directory.lookup_ok_iff.2 ⟨short, Directory.get?_put_self⟩⟩,
      fun m ne => Directory.get?_put_of_ne ne, fun b folder => ?_⟩
    rw [file] at folder
    cases folder
  case h_2 => cases ran
  case h_3 e =>
    cases ran
    obtain ⟨short, missing⟩ := Directory.lookup_notFound_iff.1 e
    refine ⟨⟨ownerFile, Directory.lookup_ok_iff.2 ⟨short, Directory.get?_put_self⟩⟩,
      fun m ne => Directory.get?_put_of_ne ne, fun b folder => ?_⟩
    rw [missing] at folder
    cases folder
  case h_4 => cases ran

/-- A renamed file stands under its new name, in place of no directory. -/
lemma run_rename {d d' : Directory} {old new mode content}
    (file : d.lookup old = .ok (.file mode content)) (ran : (rename old new).run d = .ok d') :
    d'.lookup new = .ok (.file mode content) ∧
      (∀ m, m ≠ new → m ≠ old → d'.get? m = d.get? m) ∧
      ∀ b : Directory, d.get? new ≠ some b.node := by
  have others : ∀ m, m ≠ new → m ≠ old →
      ((d.erase old).put new (.file mode content)).get? m = d.get? m := by
    intro m ne ne'
    rw [Directory.get?_put_of_ne ne, Directory.get?_erase_of_ne ne']
  rw [run, file] at ran
  cases hn : d.lookup new with
  | ok x =>
    rw [hn] at ran
    obtain ⟨short, found⟩ := Directory.lookup_ok_iff.1 hn
    cases x with
    | folder mode entries => cases ran
    | file mode' content' =>
      cases ran
      refine ⟨Directory.lookup_ok_iff.2 ⟨short, Directory.get?_put_self⟩, others, ?_⟩
      intro b folder
      rw [found] at folder
      cases folder
  | error e =>
    rw [hn] at ran
    obtain rfl | rfl := Directory.lookup_error hn
    · cases ran
    · cases ran
      obtain ⟨short, missing⟩ := Directory.lookup_notFound_iff.1 hn
      refine ⟨Directory.lookup_ok_iff.2 ⟨short, Directory.get?_put_self⟩, others, ?_⟩
      intro b folder
      rw [missing] at folder
      cases folder

end FileAction

namespace FolderStore
open Directory

/-- The directories differ at most in the files of a key. -/
structure SameButKey (key : String) (d d' : Directory) : Prop where
  others : ∀ m, m ≠ key → m ≠ temporaryName key → d'.get? m = d.get? m
  folders : ∀ m (b : Directory), d.get? m = some b.node → d'.get? m = some b.node

/-- A directory differs from itself in nothing. -/
lemma SameButKey.refl {key d} : SameButKey key d d := ⟨fun _ _ _ => rfl, fun _ _ h => h⟩

/-- Two changes in the files of a key are one. -/
lemma SameButKey.trans {key d d' d''} (h : SameButKey key d d') (h' : SameButKey key d' d'') :
    SameButKey key d d'' := by
  refine ⟨fun m ne ne' => ?_, fun m b folder => h'.folders m b (h.folders m b folder)⟩
  rw [h'.others m ne ne', h.others m ne ne']

/-- A change of files alone, and of no others than the two of the key. -/
lemma SameButKey.of_files {key d d'} (files : List String)
    (two : ∀ t ∈ files, t = key ∨ t = temporaryName key)
    (others : ∀ m, m ∉ files → Directory.get? d' m = Directory.get? d m)
    (noFolder : ∀ t ∈ files, ∀ b : Directory, Directory.get? d t ≠ some b.node) :
    SameButKey key d d' := by
  refine ⟨fun m ne ne' => others m fun mem => ?_, fun m b folder => ?_⟩
  · cases two m mem with
    | inl h => exact ne h
    | inr h => exact ne' h
  · rw [others m fun mem => noFolder m mem b folder, folder]

/-- A draft changes the key's temporary file alone. -/
lemma SameButKey.draft {key d d₁ d₂}
    (created : (FileAction.create (temporaryName key)).run d = .ok d₁)
    (others : ∀ m, m ≠ temporaryName key → Directory.get? d₂ m = Directory.get? d₁ m) :
    SameButKey key d d₂ := by
  obtain ⟨_, others₁, noFolder⟩ := FileAction.run_create created
  refine .of_files [temporaryName key] ?_ ?_ ?_
  · intro t mem
    exact .inr (List.mem_singleton.1 mem)
  · intro m absent
    have ne := mt List.mem_singleton.2 absent
    rw [others m ne, others₁ m ne]
  · intro t mem
    rw [List.mem_singleton.1 mem]
    exact noFolder

/-- A draft that takes the place of the key's file changes these two alone. -/
lemma SameButKey.rename {key d d' mode content}
    (file : Directory.lookup d (temporaryName key) = .ok (.file mode content))
    (ran : (FileAction.rename (temporaryName key) key).run d = .ok d') : SameButKey key d d' := by
  obtain ⟨_, others, noFolder⟩ := FileAction.run_rename file ran
  refine .of_files [key, temporaryName key] ?_ ?_ ?_
  · intro t mem
    simpa using mem
  · intro m absent
    simp only [List.mem_cons, List.not_mem_nil, or_false, not_or] at absent
    exact others m absent.1 absent.2
  · intro t mem b folder
    simp only [List.mem_cons, List.not_mem_nil, or_false] at mem
    obtain rfl | rfl := mem
    · exact noFolder b folder
    · obtain ⟨_, found⟩ := lookup_ok_iff.1 file
      rw [found] at folder
      cases folder

/-- Writing a key changes its two files alone; if it succeeds the key's file holds the chunks. -/
lemma runAll_writing {d d' : Directory} {key chunks r}
    (ran : FileAction.runAll (writing key chunks) d = (r, d')) :
    SameButKey key d d' ∧
      (r = .ok () → ∃ mode, d'.lookup key = .ok (.file mode chunks.flatten)) := by
  rw [writing] at ran
  cases created : (FileAction.create (temporaryName key)).run d with
  | error e =>
    rw [FileAction.runAll_cons_error created] at ran
    cases ran
    exact ⟨SameButKey.refl, nofun⟩
  | ok d₁ =>
    obtain ⟨⟨mode, opened⟩, _, _⟩ := FileAction.run_create created
    obtain ⟨d₂, appended, written, others⟩ := FileAction.runAll_append_chunks chunks opened
    have drafted := SameButKey.draft created others
    rw [FileAction.runAll_cons_ok created, FileAction.runAll_append, appended] at ran
    have synced : (FileAction.sync (temporaryName key)).run d₂ = .ok d₂ := rfl
    replace ran := (FileAction.runAll_cons_ok synced).symm.trans ran
    cases renamed : (FileAction.rename (temporaryName key) key).run d₂ with
    -- the draft is left behind
    | error e =>
      rw [FileAction.runAll_cons_error renamed] at ran
      cases ran
      exact ⟨drafted, nofun⟩
    | ok d₃ =>
      rw [FileAction.runAll_cons_ok renamed] at ran
      cases ran
      obtain ⟨kept, _, _⟩ := FileAction.run_rename written renamed
      exact ⟨drafted.trans (.rename written renamed), fun _ => ⟨mode, kept⟩⟩

/-- Writing a key keeps the directories in the store's directory. -/
lemma SameButKey.grows {key d d'} (h : SameButKey key d d') : Grows d d' := by
  intro names some
  cases names with
  | nil => rfl
  | cons n ns =>
    obtain ⟨c, hc⟩ := Option.isSome_iff_exists.1 some
    obtain ⟨b, hb, hc⟩ := folder?_cons_iff.1 hc
    exact Option.isSome_iff_exists.2 ⟨c, folder?_cons_iff.2 ⟨b, h.folders n b hb, hc⟩⟩

/-- The text in the file of a key is what is read for the key. -/
lemma get_of_file {d : Directory} {key value mode} (valid : isKey key = true)
    (file : d.lookup key = .ok (.file mode (Bytes.ofString value))) :
    get key ⟨.ok d⟩ = .ok (some value) := by
  have bytes : d.read key = .ok (Bytes.ofString value) := by
    rw [Directory.read, file]
  have text : read ⟨.ok d⟩ key = .ok value := by
    simp only [read, bind, Except.bind, bytes, Bytes.toString?_ofString]
  rw [get, if_pos valid, text]

/-- Setting a key in a directory writes it there, or refuses the key. -/
lemma set_folder (key value) (b : Directory) :
    ∃ c, (set key value ⟨.ok b⟩).2 = ⟨.ok c⟩ ∧ SameButKey key b c ∧
      ((set key value ⟨.ok b⟩).1 = .ok () → get key ⟨.ok c⟩ = .ok (some value)) := by
  rw [set]
  split
  case isFalse => exact ⟨b, rfl, SameButKey.refl, nofun⟩
  case isTrue valid =>
    cases ran : FileAction.runAll (writing key [Bytes.ofString value]) b with
    | mk r' c =>
      obtain ⟨same, kept⟩ := runAll_writing ran
      simp only [runAll, ran]
      cases r' with
      | error e => exact ⟨c, rfl, same, nofun⟩
      | ok =>
        refine ⟨c, rfl, same, fun _ => ?_⟩
        obtain ⟨mode, file⟩ := kept rfl
        rw [List.flatten_singleton] at file
        exact get_of_file valid file

/-- Without a directory nothing is written. -/
lemma set_without_folder {e} {s : FolderStore} (key value) (h : s.place = .error e) :
    ∃ e', set key value s = (.error e', s) := by
  rw [set]
  split
  case isFalse => exact ⟨_, rfl⟩
  case isTrue =>
    simp only [runAll, h]
    exact ⟨_, rfl⟩

/-- Without a directory nothing can be read. -/
lemma get_without_folder {key x} {s : FolderStore} (h : s.place = .error .notADirectory) :
    get key s ≠ .ok x := by
  intro found
  rw [get] at found
  split at found
  case isFalse => cases found
  case isTrue =>
    have lost : read s key = .error .notADirectory := by
      simp only [read, h, bind, Except.bind]
    rw [lost] at found
    cases found

section Places

variable {d d' : Directory} {path ms : List String} {n : String}

/-- Where the way to the last name fails, the store cannot be opened. -/
lemma openAt_failed {e} (entered : d.enter path = (.error e, d')) :
    openAt d (path ++ [n]) = (.error (.io e), d') := by
  -- the store is looked for twice, before and behind the attempt to make the way
  have lost : ∀ t : Directory, t.enter path = (.error e, d') →
      ∃ f, t.find (path ++ [n]) = .error f := by
    intro t ht
    cases hf : t.find (path ++ [n]) with
    | error f => exact ⟨f, rfl⟩
    | ok x =>
      obtain ⟨ms, leads⟩ := leads_of_find hf
      rw [enter_of_leads rfl leads] at ht
      cases ht
  obtain ⟨f, hf⟩ := lost d entered
  obtain ⟨f', hf'⟩ := lost d' (enter_again rfl entered)
  rw [openAt, hf, makeAll, enter_append, entered]
  simp only [hf']

/-- The name is found before anything is made, or it is not. -/
lemma found_or_lost (name : IsName n) (entered : d.enter path = (.ok ms, d')) :
    d' = d ∧ d.find (path ++ [n]) = (d'.folderAt ms).lookup n ∨
      ∃ e, d.find (path ++ [n]) = .error e := by
  cases hf : d.find (path ++ [n]) with
  | error e => exact .inr ⟨e, rfl⟩
  | ok x =>
    obtain ⟨ms', leads⟩ := leads_of_find hf
    rw [enter_of_leads rfl leads] at entered
    cases entered
    exact .inl ⟨rfl, by rw [← hf, find_name name leads]⟩

/-- A directory that is there, or that making the way has brought up, is the store's. -/
lemma openAt_folder (name : IsName n) (entered : d.enter path = (.ok ms, d')) {b : Directory}
    (found : (d'.folderAt ms).lookup n = .ok b.node) :
    openAt d (path ++ [n]) = (.ok ⟨.ok b⟩, d') := by
  obtain ⟨leads, h⟩ := leads_of_enter rfl entered
  have place : d'.findFolder (path ++ [n]) = .ok b := by
    rw [findFolder, find_name name leads, found]
    rfl
  obtain ⟨rfl, hf⟩ | ⟨e, hf⟩ := found_or_lost name entered
  · rw [openAt, hf, found]
    simp only [place]
  -- not there at first: making the way up to it has brought it up
  · have made : d'.enter [n] ms = (.ok (ms ++ [n]), d') := by
      rw [enter, found]
      · rfl
      · exact name.ne_dot
      · exact name.ne_dots
    rw [openAt, hf, makeAll, enter_append, entered]
    simp only [made, place]

/-- A missing directory is made. -/
lemma openAt_missing (name : IsName n) (entered : d.enter path = (.ok ms, d'))
    (missing : (d'.folderAt ms).lookup n = .error .notFound) :
    openAt d (path ++ [n]) = (.ok ⟨.ok empty⟩, d'.withFolder ms n) := by
  obtain ⟨leads, h⟩ := leads_of_enter rfl entered
  have lost : ∃ e, d.find (path ++ [n]) = .error e := by
    obtain ⟨rfl, hf⟩ | lost := found_or_lost name entered
    · exact ⟨_, hf.trans missing⟩
    · exact lost
  obtain ⟨e, hf⟩ := lost
  have made : d'.enter [n] ms = (.ok (ms ++ [n]), d'.withFolder ms n) := by
    rw [enter, missing]
    · rfl
    · exact name.ne_dot
    · exact name.ne_dots
  have found : ((d'.withFolder ms n).folderAt ms).lookup n = .ok empty.node :=
    lookup_ok_iff.2 ⟨(lookup_notFound_iff.1 missing).1, (get?_withFolder h).1⟩
  have place : (d'.withFolder ms n).findFolder (path ++ [n]) = .ok empty := by
    rw [findFolder, find_name name (leads.grow (grows_withFolder h missing)), found]
    rfl
  rw [openAt, hf, makeAll, enter_append, entered]
  simp only [made, place]

/-- A file in the way is no store. -/
lemma openAt_file (name : IsName n) (entered : d.enter path = (.ok ms, d')) {mode content}
    (found : (d'.folderAt ms).lookup n = .ok (.file mode content)) :
    ∃ r, openAt d (path ++ [n]) = (r, d') ∧ ∀ s, r = .ok s → s.place = .error .notADirectory := by
  obtain ⟨leads, _⟩ := leads_of_enter rfl entered
  obtain ⟨rfl, hf⟩ | ⟨e, hf⟩ := found_or_lost name entered
  · have place : d'.findFolder (path ++ [n]) = .error .notADirectory := by
      rw [findFolder, hf, found]
    refine ⟨.ok ⟨.error .notADirectory⟩, ?_, ?_⟩
    · rw [openAt, hf, found]
      simp only [place]
    · rintro s ⟨⟩
      rfl
  · have blocked : d'.enter [n] ms = (.error .notADirectory, d') := by
      rw [enter, found]
      · exact name.ne_dot
      · exact name.ne_dots
    refine ⟨.error (.io .alreadyExists), ?_, ?_⟩
    · rw [openAt, hf, makeAll, enter_append, entered]
      simp only [blocked, find_name name leads, found]
    · rintro s ⟨⟩

/-- A name that is too long is none of a store. -/
lemma openAt_long (name : IsName n) (entered : d.enter path = (.ok ms, d'))
    (long : (d'.folderAt ms).lookup n = .error .invalidFilename) :
    openAt d (path ++ [n]) = (.error (.io .invalidFilename), d') := by
  obtain ⟨leads, _⟩ := leads_of_enter rfl entered
  have lost : ∃ e, d.find (path ++ [n]) = .error e := by
    obtain ⟨rfl, hf⟩ | lost := found_or_lost name entered
    · exact ⟨_, hf.trans long⟩
    · exact lost
  obtain ⟨e, hf⟩ := lost
  have blocked : d'.enter [n] ms = (.error .invalidFilename, d') :=
    enter_failed name.ne_dot name.ne_dots long nofun
  rw [openAt, hf, makeAll, enter_append, entered]
  simp only [blocked, find_name name leads, long]

/-- A store is put back in place of the directory it was opened on. -/
lemma saveAt_folder (name : IsName n) (leads : Leads d [] path ms) {b c : Directory}
    (found : (d.folderAt ms).lookup n = .ok b.node) :
    saveAt ⟨.ok c⟩ d (path ++ [n]) = d.modify (ms ++ [n]) fun _ => c := by
  simp only [saveAt, update, trace_name name leads, found]
  rfl

/-- Putting a directory in place of another. -/
lemma folderAt_replaced {b c : Directory} (h : (d.folder? ms).isSome)
    (found : (d.folderAt ms).lookup n = .ok b.node) :
    (d.modify (ms ++ [n]) fun _ => c).folderAt ms = (d.folderAt ms).put n c.node := by
  obtain ⟨_, e⟩ := lookup_ok_iff.1 found
  rw [modify_append, folderAt_modify h, modify_singleton e]

/-- What became of a tree in which the store at `n`, in the directory at `ms`, was written: it has
grown, the other entries in that directory are as before, and after success the text is there. -/
structure Written (d t : Directory) (ms : List String) (n key value : String)
    (r : Except StorageError Unit) : Prop where
  grows : Grows d t
  others : ∀ m, m ≠ n → (t.folderAt ms).get? m = (d.folderAt ms).get? m
  kept : r = .ok () → ∃ c : Directory, (t.folderAt ms).lookup n = .ok c.node ∧
    get key ⟨.ok c⟩ = .ok (some value)

/-- A write that fails before it begins leaves the tree as it is. -/
lemma written_failed {key value e} : Written d d ms n key value (.error e) :=
  ⟨Grows.refl, fun _ _ => rfl, nofun⟩

/-- A write to a store in place leaves the tree with the store written. -/
lemma written_folder {b : Directory} (key value) (name : IsName n) (leads : Leads d [] path ms)
    (found : (d.folderAt ms).lookup n = .ok b.node) :
    Written d ((set key value ⟨.ok b⟩).2.saveAt d (path ++ [n])) ms n key value
      (set key value ⟨.ok b⟩).1 := by
  have isSome := leads.isSome_folder? rfl
  obtain ⟨short, e⟩ := lookup_ok_iff.1 found
  obtain ⟨c, saved, same, kept⟩ := set_folder key value b
  have replaced := folderAt_replaced (c := c) isSome found
  rw [saved, saveAt_folder name leads found]
  refine ⟨?_, ?_, ?_⟩
  · rw [modify_append]
    refine Grows.modify fun a ha => ?_
    rw [folder?_folderAt isSome] at ha
    cases ha
    rw [modify_singleton e]
    refine Grows.put fun b' hb' => ?_
    rw [e, Option.some_inj, node_inj] at hb'
    rw [← hb']
    exact same.grows
  · intro m ne
    rw [replaced, get?_put_of_ne ne]
  · intro ok
    exact ⟨c, by rw [replaced, lookup_ok_iff]; exact ⟨short, get?_put_self⟩, kept ok⟩

/-- A key is set in the store that is opened, which is put back. -/
lemma setAt_opened {s t key value} (opened : openAt d path = (.ok s, t)) :
    setAt d path key value = ((set key value s).1, (set key value s).2.saveAt t path) := by
  rw [setAt, opened]

/-- Where no store can be opened nothing is set. -/
lemma setAt_refused {e t key value} (refused : openAt d path = (.error e, t)) :
    setAt d path key value = (.error e, t) := by
  rw [setAt, refused]

/-- Setting a key in the store at a path, once the way to the store is made. -/
lemma written_setAt (key value) (name : IsName n) (entered : d.enter path = (.ok ms, d')) :
    Written d' (setAt d (path ++ [n]) key value).2 ms n key value
      (setAt d (path ++ [n]) key value).1 := by
  obtain ⟨leads, isSome⟩ := leads_of_enter rfl entered
  -- the last name is that of a directory, of a file, too long, or missing and then made
  cases found : (d'.folderAt ms).lookup n with
  | ok x =>
    cases x with
    | folder mode entries =>
      rw [setAt_opened (openAt_folder (b := ⟨mode, entries⟩) name entered found)]
      exact written_folder key value name leads found
    | file mode content =>
      obtain ⟨r, opened, noPlace⟩ := openAt_file name entered found
      cases r with
      | error e =>
        rw [setAt_refused opened]
        exact written_failed
      | ok s =>
        have place := noPlace s rfl
        obtain ⟨e, refused⟩ := set_without_folder key value place
        rw [setAt_opened opened, refused, saveAt, place]
        exact written_failed
  | error e =>
    obtain rfl | rfl := lookup_error found
    · rw [setAt_refused (openAt_long name entered found)]
      exact written_failed
    · obtain ⟨made, others⟩ := get?_withFolder (n := n) isSome
      have grows := grows_withFolder isSome found
      have there : ((d'.withFolder ms n).folderAt ms).lookup n = .ok empty.node :=
        lookup_ok_iff.2 ⟨(lookup_notFound_iff.1 found).1, made⟩
      have written := written_folder key value name (leads.grow grows) there
      rw [setAt_opened (openAt_missing name entered found)]
      refine ⟨grows.trans written.grows, fun m ne => ?_, written.kept⟩
      rw [written.others m ne, others m ne]

/-- The directory that opening a store under a name in `c` gives it. -/
def storeFolder? (c : Directory) (n : String) : Option Directory :=
  match c.get? n with
  | none => some empty
  | some (.folder mode entries) => some ⟨mode, entries⟩
  | some (.file _ _) => none

/-- Where the way to the last name fails, nothing can be read. -/
lemma getAt_failed {key e x} (entered : d.enter path = (.error e, d')) :
    getAt d (path ++ [n]) key ≠ .ok x := by
  rw [getAt, openAt_failed entered]
  exact nofun

/-- What can be read in the store at a path, once the way to the store is made. -/
lemma getAt_ok_iff {key x} (name : IsName n) (entered : d.enter path = (.ok ms, d')) :
    getAt d (path ++ [n]) key = .ok x ↔
      n.utf8ByteSize ≤ nameLimit ∧
        ∃ b, storeFolder? (d'.folderAt ms) n = some b ∧ get key ⟨.ok b⟩ = .ok x := by
  -- opening makes a missing directory, which is empty and holds nothing under any key
  cases found : (d'.folderAt ms).lookup n with
  | ok node =>
    obtain ⟨short, e⟩ := lookup_ok_iff.1 found
    cases node with
    | folder mode entries =>
      rw [getAt, openAt_folder (b := ⟨mode, entries⟩) name entered found, storeFolder?, e]
      constructor
      · intro h
        exact ⟨short, _, rfl, h⟩
      · rintro ⟨_, _, ⟨⟩, h⟩
        exact h
    | file mode content =>
      obtain ⟨r, opened, noPlace⟩ := openAt_file name entered found
      rw [getAt, opened, storeFolder?, e]
      constructor
      · intro h
        cases r with
        | error _ => cases h
        | ok s => exact absurd h (get_without_folder (noPlace s rfl))
      · rintro ⟨_, _, ⟨⟩, _⟩
  | error e =>
    obtain rfl | rfl := lookup_error found
    · rw [getAt, openAt_long name entered found]
      constructor
      · rintro ⟨⟩
      · rintro ⟨short, _⟩
        rw [lookup, if_neg (by omega)] at found
        split at found <;> cases found
    · obtain ⟨short, missing⟩ := lookup_notFound_iff.1 found
      rw [getAt, openAt_missing name entered found, storeFolder?, missing]
      constructor
      · intro h
        exact ⟨short, _, rfl, h⟩
      · rintro ⟨_, _, ⟨⟩, h⟩
        exact h

/-- The store under a name holds what it held before a store beside it was written. -/
lemma getAt_setAt_of_ne {m key key' value x} (name : IsName n) (name' : IsName m) (ne : m ≠ n) :
    getAt (setAt d (path ++ [n]) key value).2 (path ++ [m]) key' = .ok x ↔
      getAt d (path ++ [m]) key' = .ok x := by
  cases entered : d.enter path with
  | mk r d' =>
    cases r with
    | error e =>
      rw [setAt_refused (openAt_failed entered)]
      exact iff_of_false (getAt_failed (enter_again rfl entered)) (getAt_failed entered)
    | ok ms =>
      have written := written_setAt key value name entered
      obtain ⟨leads, _⟩ := leads_of_enter rfl entered
      have again := enter_of_leads rfl (leads.grow written.grows)
      rw [getAt_ok_iff name' again, getAt_ok_iff name' entered, storeFolder?, storeFolder?,
        written.others m ne]

/-- A text that was written is read back. -/
lemma getAt_setAt_self {key value} (name : IsName n)
    (kept : (setAt d (path ++ [n]) key value).1 = .ok ()) :
    getAt (setAt d (path ++ [n]) key value).2 (path ++ [n]) key = .ok (some value) := by
  cases entered : d.enter path with
  | mk r d' =>
    cases r with
    | error e =>
      rw [setAt_refused (openAt_failed entered)] at kept
      cases kept
    | ok ms =>
      have written := written_setAt key value name entered
      obtain ⟨leads, _⟩ := leads_of_enter rfl entered
      have again := enter_of_leads rfl (leads.grow written.grows)
      obtain ⟨c, there, text⟩ := written.kept kept
      obtain ⟨short, e⟩ := lookup_ok_iff.1 there
      rw [getAt_ok_iff name again, storeFolder?, e]
      exact ⟨short, c, rfl, text⟩

end Places

end FolderStore

end SeedVault
