import SeedVault.Proofs.Storage.Files
import SeedVault.Storage.Request

/-!
# A store in a directory is a store in memory

A store in a directory `Mirrors` a store in memory if it has the same text for every key that fits,
where it stands and where it is found when it is opened again. Each request is answered alike by
the two and leaves them mirrored (`Mirrors.serve`), so whole runs are
(`folder_store_answers_as_memory`).
-/

namespace SeedVault

namespace FolderStore

/-- What a key that is not accepted gets, and all that becomes of the store. -/
lemma refused_key {key} (value) (s : FolderStore) (invalid : isKey key = false) :
    get key s = .error (.invalidKey key) ∧
    set key value s = (.error (.invalidKey key), s) ∧
    remove key s = (.error (.invalidKey key), s) := by
  have no : ¬ isKey key = true := Bool.eq_false_iff.1 invalid
  rw [get, set, remove, if_neg no, if_neg no, if_neg no]
  exact ⟨rfl, rfl, rfl⟩

end FolderStore

namespace Directory

/-- The way to a name can be made, and nothing has that name at its end. -/
def Vacant (tree : Directory) (way : List String) (n : String) : Prop :=
  ∃ names made, tree.enter way = (.ok names, made) ∧
    (made.folderAt names).lookup n = .error .notFound

end Directory

namespace PlacedStore
open FolderStore Directory ReopenableStore

variable {p : PlacedStore} {m : MemoryStore} {way ms : List String} {n : String}

/-- The store was opened on a directory of files that its path leads to, and is one of files. -/
structure Stands (p : PlacedStore) (way ms : List String) (n : String) (d : Directory) : Prop where
  path : p.path = way ++ [n]
  leads : Leads p.tree [] way ms
  found : ∃ b : Directory, (p.tree.folderAt ms).lookup n = .ok b.node ∧ b.FilesOnly
  store : p.store = ⟨.ok d⟩
  files : d.FilesOnly

/-- The store has the texts of the memory for all keys that fit. -/
def Mirrors (p : PlacedStore) (way ms : List String) (n : String) (m : MemoryStore) : Prop :=
  ∃ d, p.Stands way ms n d ∧ ∀ key, Fits key → get key ⟨.ok d⟩ = .ok (m.value? key)

/-- Every key that the request is about fits. -/
def Fitting (q : StoreRequest) : Prop := ∀ key, q.key? = some key → Fits key

/-- Reading leaves the tree as it is. -/
lemma get_apply (key p) :
    KeyValueStore.get key (p : PlacedStore) = (FolderStore.get key p.store, p) := rfl

/-- Setting a key changes the store only. -/
lemma set_apply (key value p) :
    KeyValueStore.set key value (p : PlacedStore) =
      ((FolderStore.set key value p.store).1,
        { p with store := (FolderStore.set key value p.store).2 }) := rfl

/-- Removing a key changes the store only. -/
lemma remove_apply (key p) :
    KeyValueStore.remove key (p : PlacedStore) =
      ((FolderStore.remove key p.store).1,
        { p with store := (FolderStore.remove key p.store).2 }) := rfl

/-- Where there is nothing, a store is opened on a new directory. -/
lemma stands_openAt {tree : Directory} (name : IsName n) (vacant : tree.Vacant way n) :
    ∃ p ms, openAt tree (way ++ [n]) = .ok p ∧ p.Stands way ms n .empty := by
  obtain ⟨ms, made, entered, missing⟩ := vacant
  obtain ⟨leads, h⟩ := leads_of_enter rfl entered
  refine ⟨⟨made.withFolder ms n, way ++ [n], ⟨.ok .empty⟩⟩, ms, ?_, rfl, ?_, ?_, rfl, filesOnly_new⟩
  · rw [openAt, openAt_missing name entered missing]
  · exact leads.grow (grows_withFolder h missing)
  · refine ⟨.empty, lookup_ok_iff.2 ⟨?_, (get?_withFolder h).1⟩, filesOnly_new⟩
    exact (lookup_notFound_iff.1 missing).1

/-- An operation on the store leaves it where it stands. -/
lemma Stands.onStore {d d' : Directory} (stands : p.Stands way ms n d) (files : d'.FilesOnly) :
    Stands { p with store := ⟨.ok d'⟩ } way ms n d' :=
  ⟨stands.path, stands.leads, stands.found, rfl, files⟩

/-- Opened again, the store is as it was. -/
lemma Stands.reopen {d : Directory} (name : IsName n) (stands : p.Stands way ms n d) :
    ∃ t, PlacedStore.reopen p = (.ok (), t) ∧ t.Stands way ms n d := by
  obtain ⟨path, leads, ⟨b, found, filesB⟩, store, files⟩ := stands
  have h := leads.isSome_folder? rfl
  obtain ⟨short, e⟩ := lookup_ok_iff.1 found
  -- what is put back takes the place of a directory of files, so all paths lead where they did
  have grows : Grows p.tree (p.tree.modify (ms ++ [n]) fun _ => d) := by
    refine Grows.modify fun c hc => ?_
    rw [folder?_append, folder?_folderAt h, Option.bind_some] at hc
    obtain ⟨b', e', hc⟩ := folder?_cons_iff.1 hc
    rw [e, Option.some_inj, node_inj] at e'
    cases hc
    rw [← e']
    exact filesB.grows
  have saved : p.store.saveAt p.tree p.path = p.tree.modify (ms ++ [n]) fun _ => d := by
    rw [store, path]
    exact saveAt_folder name leads found
  have found' : ((p.tree.modify (ms ++ [n]) fun _ => d).folderAt ms).lookup n = .ok d.node := by
    rw [folderAt_replaced h found, lookup_ok_iff]
    exact ⟨short, get?_put_self⟩
  have opened := openAt_folder name (enter_of_leads rfl (leads.grow grows)) found'
  refine ⟨⟨_, p.path, ⟨.ok d⟩⟩, ?_, path, leads.grow grows, ⟨d, found', files⟩, rfl, files⟩
  rw [PlacedStore.reopen, saved, path, opened]

/-- A change of one key in the directory and in the memory keeps their texts the same. -/
lemma texts_update {d d' : Directory} {key value?}
    (texts : ∀ k, Fits k → get k ⟨.ok d⟩ = .ok (m.value? k))
    (text : get key ⟨.ok d'⟩ = .ok value?)
    (others : ∀ k, isKey k = true → k ≠ key → get k ⟨.ok d'⟩ = get k ⟨.ok d⟩) :
    ∀ k, Fits k → get k ⟨.ok d'⟩ = .ok ((m.update key value?).value? k) := by
  intro k fits
  simp only [MemoryStore.update]
  split
  case isTrue same => rw [same, text]
  case isFalse ne => rw [others k fits.valid ne, texts k fits]

/-- A request about a fitting key is answered alike by the store and by the memory that it mirrors,
and leaves them mirrored. -/
lemma Mirrors.serve (name : IsName n) (mirrors : p.Mirrors way ms n m) {q} (fits : Fitting q) :
    (serve q p).1 = (serve q m).1 ∧ (serve q p).2.Mirrors way ms n (serve q m).2 := by
  obtain ⟨d, stands, texts⟩ := mirrors
  cases q with
  | get key =>
    have served : ReopenableStore.serve (.get key) p = (.text (.ok (m.value? key)), p) := by
      rw [ReopenableStore.serve, get_apply, stands.store, texts key (fits key rfl)]
    rw [served]
    exact ⟨rfl, d, stands, texts⟩
  | set key value =>
    obtain ⟨d', done, files, text, others⟩ := set_fitting value stands.files (fits key rfl)
    have served : ReopenableStore.serve (.set key value) p =
        (.done (.ok ()), { p with store := ⟨.ok d'⟩ }) := by
      rw [ReopenableStore.serve, set_apply, stands.store, done]
    rw [served]
    exact ⟨rfl, d', stands.onStore files, texts_update texts text others⟩
  | remove key =>
    obtain ⟨d', done, files, text, others⟩ := remove_fitting stands.files (fits key rfl)
    have served : ReopenableStore.serve (.remove key) p =
        (.done (.ok ()), { p with store := ⟨.ok d'⟩ }) := by
      rw [ReopenableStore.serve, remove_apply, stands.store, done]
    rw [served]
    exact ⟨rfl, d', stands.onStore files, texts_update texts text others⟩
  | reopen =>
    obtain ⟨t, opened, stands'⟩ := stands.reopen name
    have served : ReopenableStore.serve .reopen p = (.done (.ok ()), t) := by
      change (StoreAnswer.done (PlacedStore.reopen p).1, (PlacedStore.reopen p).2) = _
      rw [opened]
    rw [served]
    exact ⟨rfl, d, stands', texts⟩

/-- Requests about fitting keys are answered alike by the store and by the memory it mirrors. -/
lemma Mirrors.serveAll (name : IsName n) (mirrors : p.Mirrors way ms n m) {qs}
    (fits : ∀ q ∈ qs, Fitting q) : (serveAll qs p).1 = (serveAll qs m).1 := by
  induction qs generalizing p m with
  | nil => rfl
  | cons q qs ih =>
    obtain ⟨first, rest⟩ := List.forall_mem_cons.1 fits
    obtain ⟨answer, mirrors'⟩ := mirrors.serve name first
    rw [ReopenableStore.serveAll, ReopenableStore.serveAll, answer]
    simp only [ih mirrors' rest]

/-- A new store mirrors an empty memory. -/
lemma Stands.mirrors_empty (stands : p.Stands way ms n .empty) : p.Mirrors way ms n {} := by
  refine ⟨.empty, stands, fun key fits => get_of_missing fits.valid ?_⟩
  exact lookup_notFound_iff.2 ⟨fits.short, rfl⟩

/-- A store that is opened where there is nothing is opened on a new directory, and then any
requests about accepted keys of at most 249 bytes get from it, however often it is opened again,
what they get from an empty store in memory. All operations refuse any other key and change
nothing. -/
theorem folder_store_answers_as_memory {tree : Directory} {way : List String} {n : String}
    (name : IsName n) (vacant : tree.Vacant way n) {qs : List StoreRequest}
    (fits : ∀ q ∈ qs, ∀ key, q.key? = some key → isKey key = true ∧ key.utf8ByteSize ≤ 249) :
    (∃ p, openAt tree (way ++ [n]) = .ok p ∧ p.store = ⟨.ok .empty⟩ ∧
      (serveAll qs p).1 = (serveAll qs ({} : MemoryStore)).1) ∧
    ∀ (p : PlacedStore) key value, isKey key = false →
      KeyValueStore.get key p = (.error (.invalidKey key), p) ∧
      KeyValueStore.set key value p = (.error (.invalidKey key), p) ∧
      KeyValueStore.remove key p = (.error (.invalidKey key), p) := by
  constructor
  · obtain ⟨p, ms, opened, stands⟩ := stands_openAt name vacant
    refine ⟨p, opened, stands.store, stands.mirrors_empty.serveAll name fun q mem key about => ?_⟩
    obtain ⟨valid, bound⟩ := fits q mem key about
    exact ⟨valid, bound⟩
  · intro p key value invalid
    obtain ⟨got, setTo, removed⟩ := refused_key value p.store invalid
    rw [get_apply, set_apply, remove_apply, got, setTo, removed]
    exact ⟨rfl, rfl, rfl⟩

/-- A store on a new directory answers some requests as a memory does, and refuses a hidden key. -/
theorem new_folder_answers_as_memory :
    let qs : List StoreRequest :=
      [.set "key" "first", .set "key" "second", .reopen, .get "key", .remove "key", .get "key"]
    IsName "origin" ∧ Vacant .empty ["data"] "origin" ∧
    (∀ q ∈ qs, ∀ key, q.key? = some key → isKey key = true ∧ key.utf8ByteSize ≤ 249) ∧
    (∃ p, openAt .empty ["data", "origin"] = .ok p ∧ p.store = ⟨.ok .empty⟩ ∧
      (serveAll qs p).1 =
        [.done (.ok ()), .done (.ok ()), .done (.ok ()), .text (.ok (some "second")),
          .done (.ok ()), .text (.ok none)]) ∧
    ∀ p : PlacedStore, KeyValueStore.get ".key" p = (.error (.invalidKey ".key"), p) := by
  intro qs
  have name : IsName "origin" := ⟨by decide, by decide⟩
  have vacant : Vacant .empty ["data"] "origin" := ⟨["data"], _, rfl, rfl⟩
  have fits : ∀ q ∈ qs, ∀ key, q.key? = some key → isKey key = true ∧ key.utf8ByteSize ≤ 249 := by
    have one : ∀ q ∈ qs, q.key? = some "key" ∨ q.key? = none := by
      simp [qs, StoreRequest.key?]
    intro q mem key about
    obtain h | h := one q mem
    · rw [h] at about
      cases about
      exact ⟨by decide, by decide⟩
    · rw [h] at about
      cases about
  obtain ⟨⟨p, opened, new, answers⟩, refused⟩ := folder_store_answers_as_memory name vacant fits
  refine ⟨name, vacant, fits, ⟨p, opened, new, ?_⟩, fun p => (refused p ".key" "" (by decide)).1⟩
  rw [answers]
  rfl

end PlacedStore

end SeedVault
