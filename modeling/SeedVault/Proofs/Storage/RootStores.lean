import SeedVault.Proofs.Storage.Files
import SeedVault.Storage.Secret

/-!
# The stores below a root

Below a root there is a directory of stores with one directory for each name. `Holds` says which
phrase's text each of them has; a directory that is missing has none. To open a store makes the
directories that are missing and leaves the texts as they are (`Holds.openAt`), and to save it
changes the text of its name alone (`Opened.saveAt`).
-/

namespace SeedVault.FolderStore

open Directory Secret

/-- The key of the phrase is one that can be written. -/
lemma fits_storageKey : Fits storageKey := ⟨by decide, by decide⟩

/-- The stores in a directory have these texts of phrases. -/
def HasTexts (b : Directory) (texts : String → Option String) : Prop :=
  ∀ n, ∃ c, storeFolder? b n = some c ∧ c.FilesOnly ∧ get storageKey ⟨.ok c⟩ = .ok (texts n)

/-- The root is a directory, in which no directory is where the configuration's file should be, and
the stores below it have these texts of phrases. -/
structure Holds (root : List String) (texts : String → Option String) (files : Directory) :
    Prop where
  folder : (files.folder? root).isSome
  config : ∀ b : Directory, (files.folderAt root).get? "config.toml" ≠ some b.node
  stores : ∃ b, storeFolder? (files.folderAt root) "storage" = some b ∧ HasTexts b texts

section Entries

variable {b c : Directory} {n : String} {texts : String → Option String}

/-- A directory that is there is the store's. -/
lemma storeFolder?_of_get? (h : b.get? n = some c.node) : storeFolder? b n = some c := by
  unfold storeFolder?
  rw [h]
  rfl

/-- The directory of a store is there, or it is missing. -/
lemma storeFolder?_eq_some (h : storeFolder? b n = some c) :
    b.get? n = some c.node ∨ b.get? n = none ∧ c = empty := by
  unfold storeFolder? at h
  split at h
  case h_1 missing =>
    cases h
    exact .inr ⟨missing, rfl⟩
  case h_2 mode entries there =>
    cases h
    exact .inl there
  case h_3 => cases h

/-- A store that is put in the place of another one changes the text of its name. -/
lemma HasTexts.put {x : Option String} (h : HasTexts b texts) (files : c.FilesOnly)
    (text : get storageKey ⟨.ok c⟩ = .ok x) :
    HasTexts (b.put n c.node) (Function.update texts n x) := by
  intro m
  by_cases same : m = n
  · subst same
    refine ⟨c, storeFolder?_of_get? get?_put_self, files, ?_⟩
    rw [Function.update_self]
    exact text
  · obtain ⟨c', found, files', text'⟩ := h m
    refine ⟨c', ?_, files', ?_⟩
    · unfold storeFolder? at found ⊢
      rw [get?_put_of_ne same]
      exact found
    · rw [Function.update_of_ne same]
      exact text'

/-- An empty store has no text. -/
lemma get_empty : get storageKey ⟨.ok empty⟩ = .ok none :=
  get_of_missing fits_storageKey.valid (lookup_notFound_iff.2 ⟨fits_storageKey.short, rfl⟩)

/-- A new directory where one is missing changes no text. -/
lemma HasTexts.put_empty (h : HasTexts b texts) (missing : b.get? n = none) :
    HasTexts (b.put n empty.node) texts := by
  have put := h.put (n := n) filesOnly_new get_empty
  obtain ⟨c, found, _, text⟩ := h n
  obtain there | ⟨_, rfl⟩ := storeFolder?_eq_some found
  · rw [missing] at there
    cases there
  · have same : texts n = none := Except.ok.inj (text.symm.trans get_empty)
    rw [← same, Function.update_eq_self] at put
    exact put

end Entries

section Roots

variable {files t : Directory} {root way : List String} {n : String} {b c : Directory}
  {texts : String → Option String}

/-- A directory in a directory is below the root. -/
lemma folder?_concat (isSome : (files.folder? root).isSome)
    (there : (files.folderAt root).get? n = some b.node) :
    files.folder? (root ++ [n]) = some b := by
  rw [folder?_append, folder?_folderAt isSome, Option.bind_some]
  exact folder?_cons_iff.2 ⟨b, there, rfl⟩

/-- A changed directory is below where it was. -/
lemma folder?_modify_self {f : Directory → Directory} (below : files.folder? root = some b) :
    (files.modify root f).folder? root = some (f b) := by
  have found := @folder?_modify files root [] f
  rw [List.append_nil, below] at found
  exact found

/-- A change in one directory of a directory leaves the other entries alone. -/
lemma get?_modify_concat {f : Directory → Directory} {m : String}
    (isSome : (files.folder? root).isSome) (ne : m ≠ n) :
    ((files.modify (root ++ [n]) f).folderAt root).get? m = (files.folderAt root).get? m := by
  rw [modify_append, folderAt_modify isSome, Directory.modify]
  split
  · exact get?_put_of_ne ne
  · rfl

/-- A tree grows if all directories stay in one of its directories. -/
lemma grows_of_folders {d d' : Directory}
    (folders : ∀ m (b : Directory), d.get? m = some b.node → d'.get? m = some b.node) :
    Grows d d' := by
  intro names some
  cases names with
  | nil => rfl
  | cons n ns =>
    obtain ⟨c, hc⟩ := Option.isSome_iff_exists.1 some
    obtain ⟨b, hb, hc⟩ := folder?_cons_iff.1 hc
    exact Option.isSome_iff_exists.2 ⟨c, folder?_cons_iff.2 ⟨b, folders n b hb, hc⟩⟩

/-- The texts stay when nothing in the root is changed but the configuration's file. -/
lemma Holds.modify {f : Directory → Directory} (h : Holds root texts files)
    (others : ∀ d m, m ≠ "config.toml" → (f d).get? m = d.get? m)
    (config : ∀ d (b : Directory), (f d).get? "config.toml" ≠ some b.node) :
    Grows files (files.modify root f) ∧ Holds root texts (files.modify root f) := by
  obtain ⟨isSome, config', b, found, has⟩ := h
  have grows : Grows files (files.modify root f) := by
    refine Grows.modify fun d folder => ?_
    rw [folder?_folderAt isSome, Option.some_inj] at folder
    subst folder
    refine grows_of_folders fun m b there => ?_
    by_cases same : m = "config.toml"
    · subst same
      exact absurd there (config' b)
    · exact (others _ m same).trans there
  refine ⟨grows, grows _ isSome, fun b => ?_, b, ?_, has⟩
  · rw [folderAt_modify isSome]
    exact config _ b
  · unfold storeFolder? at found ⊢
    rw [folderAt_modify isSome, others _ _ (by decide)]
    exact found

/-- The store of a name is open: the way to it is there, and so is its directory. -/
structure Opened (root way : List String) (n : String) (texts : String → Option String)
    (c t : Directory) : Prop where
  leads : Leads t [] way root
  below : Leads t [] (way ++ ["storage"]) (root ++ ["storage"])
  config : ∀ b : Directory, (t.folderAt root).get? "config.toml" ≠ some b.node
  found : ∃ b, t.folder? (root ++ ["storage"]) = some b ∧ b.lookup n = .ok c.node ∧ HasTexts b texts

/-- Where a store is open, the stores have their texts. -/
lemma Opened.holds (h : Opened root way n texts c t) : Holds root texts t := by
  obtain ⟨b, below, _, has⟩ := h.found
  have isSome := h.leads.isSome_folder? rfl
  rw [folder?_append, folder?_folderAt isSome, Option.bind_some] at below
  obtain ⟨b', there, same⟩ := folder?_cons_iff.1 below
  cases same
  exact ⟨isSome, h.config, b, storeFolder?_of_get? there, has⟩

/-- An open store has the text of its name, and holds files only. -/
lemma Opened.text (h : Opened root way n texts c t) :
    c.FilesOnly ∧ get storageKey ⟨.ok c⟩ = .ok (texts n) := by
  obtain ⟨b, _, found, has⟩ := h.found
  obtain ⟨c', found', files, text⟩ := has n
  rw [storeFolder?_of_get? (lookup_ok_iff.1 found).2, Option.some_inj] at found'
  subst found'
  exact ⟨files, text⟩

/-- The directory of the stores is made if it is missing. -/
lemma Holds.enter_storage (h : Holds root texts files) (leads : Leads files [] way root) :
    ∃ t b, files.enter (way ++ ["storage"]) = (.ok (root ++ ["storage"]), t) ∧ Grows files t ∧
      (∀ b : Directory, (t.folderAt root).get? "config.toml" ≠ some b.node) ∧
      t.folder? (root ++ ["storage"]) = some b ∧ HasTexts b texts := by
  obtain ⟨isSome, config, b, found, has⟩ := h
  have name : IsName "storage" := ⟨by decide, by decide⟩
  have short : "storage".utf8ByteSize ≤ nameLimit := by decide
  obtain there | ⟨missing, rfl⟩ := storeFolder?_eq_some found
  · have below := folder?_concat isSome there
    refine ⟨files, b, ?_, Grows.refl, config, below, has⟩
    rw [enter_append, enter_of_leads rfl leads]
    exact enter_down isSome name.ne_dot name.ne_dots short (Option.isSome_of_eq_some below)
  · have lost := lookup_notFound_iff.2 ⟨short, missing⟩
    obtain ⟨new, others⟩ := get?_withFolder (n := "storage") isSome
    have grows := grows_withFolder isSome lost
    refine ⟨files.withFolder root "storage", empty, ?_, grows, fun b => ?_, ?_, has⟩
    · have made : files.enter ["storage"] root =
          (.ok (root ++ ["storage"]), files.withFolder root "storage") := by
        rw [Directory.enter, lost]
        · rfl
        · exact name.ne_dot
        · exact name.ne_dots
      rw [enter_append, enter_of_leads rfl leads]
      exact made
    · rw [others _ (by decide)]
      exact config b
    · exact folder?_concat (grows _ isSome) new

/-- The store of a name can be opened, be it there or not; the texts stay. -/
lemma Holds.openAt (h : Holds root texts files) (leads : Leads files [] way root) (name : IsName n)
    (short : n.utf8ByteSize ≤ nameLimit) :
    ∃ t c, FolderStore.openAt files (way ++ ["storage"] ++ [n]) = (.ok ⟨.ok c⟩, t) ∧
      Grows files t ∧ Opened root way n texts c t := by
  obtain ⟨t, b, entered, grows, config, below, has⟩ := h.enter_storage leads
  obtain ⟨storage, isSome⟩ := leads_of_enter rfl entered
  have same : t.folderAt (root ++ ["storage"]) = b :=
    Option.some_inj.1 ((folder?_folderAt isSome).symm.trans below)
  obtain ⟨c, found, _⟩ := has n
  obtain there | ⟨missing, rfl⟩ := storeFolder?_eq_some found
  · have found := lookup_ok_iff.2 ⟨short, there⟩
    refine ⟨t, c, ?_, grows, leads.grow grows, storage, config, b, below, found, has⟩
    exact openAt_folder name entered (same ▸ found)
  · have lost : (t.folderAt (root ++ ["storage"])).lookup n = .error .notFound := by
      rw [same]
      exact lookup_notFound_iff.2 ⟨short, missing⟩
    have grows' := grows_withFolder isSome lost
    refine ⟨t.withFolder (root ++ ["storage"]) n, empty, openAt_missing name entered lost,
      grows.trans grows', (leads.grow grows).grow grows', storage.grow grows', fun b => ?_,
      b.put n empty.node, folder?_modify_self below, ?_, has.put_empty missing⟩
    · rw [withFolder, get?_modify_concat ((leads.grow grows).isSome_folder? rfl) (by decide)]
      exact config b
    · exact lookup_ok_iff.2 ⟨short, get?_put_self⟩

/-- An open store that is saved has the text that its directory has, and the others have theirs. -/
lemma Opened.saveAt {c' : Directory} {x : Option String} (h : Opened root way n texts c t)
    (name : IsName n) (files : c'.FilesOnly) (text : get storageKey ⟨.ok c'⟩ = .ok x) :
    Grows t (FolderStore.saveAt ⟨.ok c'⟩ t (way ++ ["storage"] ++ [n])) ∧
      Opened root way n (Function.update texts n x) c'
        (FolderStore.saveAt ⟨.ok c'⟩ t (way ++ ["storage"] ++ [n])) := by
  obtain ⟨filesOnly, _⟩ := h.text
  obtain ⟨leads, below, config, b, folder, found, has⟩ := h
  have isSome := below.isSome_folder? rfl
  have same : t.folderAt (root ++ ["storage"]) = b :=
    Option.some_inj.1 ((folder?_folderAt isSome).symm.trans folder)
  obtain ⟨short, there⟩ := lookup_ok_iff.1 found
  have saved : FolderStore.saveAt ⟨.ok c'⟩ t (way ++ ["storage"] ++ [n]) =
      t.modify (root ++ ["storage"]) fun b => b.modify [n] fun _ => c' := by
    rw [saveAt_folder name below (b := c) (same ▸ found), modify_append]
  -- what is replaced is a directory of files, so that all ways stay
  have grows : Grows t (t.modify (root ++ ["storage"]) fun b => b.modify [n] fun _ => c') := by
    refine Grows.modify fun d folder' => ?_
    rw [folder, Option.some_inj] at folder'
    subst folder'
    rw [modify_singleton there]
    refine Grows.put fun d there' => ?_
    rw [there, Option.some_inj, node_inj] at there'
    exact there' ▸ filesOnly.grows
  rw [saved]
  refine ⟨grows, leads.grow grows, below.grow grows, fun b => ?_, b.put n c'.node, ?_, ?_,
    has.put files text⟩
  · rw [get?_modify_concat (leads.isSome_folder? rfl) (by decide)]
    exact config b
  · rw [folder?_modify_self folder, modify_singleton there]
  · exact lookup_ok_iff.2 ⟨short, get?_put_self⟩

end Roots

end SeedVault.FolderStore
