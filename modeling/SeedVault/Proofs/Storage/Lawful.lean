import Mathlib.Logic.Function.Basic
import SeedVault.Storage.Store

/-!
# Lawful stores

A store is lawful if it has a text or none for each key and its operations, as far as they succeed,
read and change that text and no other, and change nothing if they fail. Each may fail at any time.
-/

namespace SeedVault

namespace MemoryStore

variable {s : MemoryStore} {key key' : String} {value? value?' : Option String}

/-- Replacing a text is the update of a function. -/
lemma update_eq : s.update key value? = ⟨Function.update s.value? key value?⟩ := by
  rw [update]
  congr 1
  funext k
  rw [Function.update_apply]

/-- The text that was put in place is there. -/
lemma value?_update_self : (s.update key value?).value? key = value? :=
  if_pos rfl

/-- Other texts stay. -/
lemma value?_update_of_ne (ne : key' ≠ key) :
    (s.update key value?).value? key' = s.value? key' :=
  if_neg ne

/-- A text that is replaced by itself stays. -/
lemma update_value? : s.update key (s.value? key) = s := by
  rw [update_eq, Function.update_eq_self]

/-- Of two texts that replace a text the second one stays. -/
lemma update_update : (s.update key value?).update key value?' = s.update key value?' := by
  rw [update_eq, update_eq, update_eq, Function.update_idem]

end MemoryStore

/-- Operations that do what they are for or fail and change no text. -/
class LawfulStore (σ : Type) extends KeyValueStore σ where
  /-- The text of each key. -/
  texts (s : σ) : MemoryStore
  texts_get {key s result t} : get key s = (result, t) → texts t = texts s
  get_ok {key s value? t} : get key s = (.ok value?, t) → value? = (texts s).value? key
  set_ok {key value s t} :
    set key value s = (.ok (), t) → texts t = (texts s).update key (some value)
  set_error {key value s e t} : set key value s = (.error e, t) → texts t = texts s
  remove_ok {key s t} : remove key s = (.ok (), t) → texts t = (texts s).update key none
  remove_error {key s e t} : remove key s = (.error e, t) → texts t = texts s

namespace LawfulStore

/-- The memory is lawful, and never fails. -/
instance : LawfulStore MemoryStore where
  texts s := s
  texts_get := by rintro key s result t ⟨⟩; rfl
  get_ok := by rintro key s value? t ⟨⟩; rfl
  set_ok := by rintro key value s t ⟨⟩; rfl
  set_error := by rintro key value s e t ⟨⟩
  remove_ok := by rintro key s t ⟨⟩; rfl
  remove_error := by rintro key s e t ⟨⟩

end LawfulStore

namespace FaultyStore

section Attempt

variable {α : Type} {op : StoreOperation} {run : MemoryStore → Except StorageError α × MemoryStore}
  {s t : FaultyStore} {result : Except StorageError α}

/-- What the store attempts either fails and leaves the memory as it is or is done to the memory. -/
lemma attempt_cases (h : attempt op run s = (result, t)) :
    (∃ e, result = .error e ∧ t.memory = s.memory) ∨ run s.memory = (result, t.memory) := by
  unfold attempt at h
  simp only at h
  split at h
  · cases h
    exact .inl ⟨_, rfl, rfl⟩
  · cases h
    exact .inr rfl

/-- What succeeds is done to the memory. -/
lemma attempt_ok {a} (h : attempt op run s = (.ok a, t)) : run s.memory = (.ok a, t.memory) := by
  obtain ⟨_, e, _⟩ | done := attempt_cases h
  · cases e
  · exact done

/-- What would leave the memory as it is leaves it so, whether it is done or not. -/
lemma attempt_idle (h : attempt op run s = (result, t))
    (idle : ∀ {m}, run s.memory = (result, m) → m = s.memory) : t.memory = s.memory := by
  obtain ⟨_, _, same⟩ | done := attempt_cases h
  · exact same
  · exact idle done

end Attempt

/-- A memory that fails at times is lawful. -/
instance : LawfulStore FaultyStore where
  texts s := s.memory
  texts_get h := attempt_idle h LawfulStore.texts_get
  get_ok h := LawfulStore.get_ok (attempt_ok h)
  set_ok h := LawfulStore.set_ok (attempt_ok h)
  set_error h := attempt_idle h LawfulStore.set_error
  remove_ok h := LawfulStore.remove_ok (attempt_ok h)
  remove_error h := attempt_idle h LawfulStore.remove_error

end FaultyStore

namespace WatchedStore

variable {σ α : Type} {op : StoreOperation} {key : String} {run : σ → α × σ} {s t : WatchedStore σ}
  {a : α}

/-- A call is passed on as it is. -/
lemma store_pass (h : pass op key run s = (a, t)) : run s.store = (a, t.store) := by
  cases h
  rfl

/-- A call is noted behind those before. -/
lemma calls_pass (h : pass op key run s = (a, t)) : t.calls = s.calls ++ [(op, key)] := by
  cases h
  rfl

/-- A lawful store is lawful when it is watched. -/
instance [LawfulStore σ] : LawfulStore (WatchedStore σ) where
  texts s := LawfulStore.texts s.store
  texts_get h := LawfulStore.texts_get (store_pass h)
  get_ok h := LawfulStore.get_ok (store_pass h)
  set_ok h := LawfulStore.set_ok (store_pass h)
  set_error h := LawfulStore.set_error (store_pass h)
  remove_ok h := LawfulStore.remove_ok (store_pass h)
  remove_error h := LawfulStore.remove_error (store_pass h)

end WatchedStore

end SeedVault
