import SeedVault.Proofs.Session.Steps
import SeedVault.Proofs.Storage.RootStores

/-!
# Sessions on a directory of files

On a store in a directory of files the operations of a session do not fail for reasons of the store.
Each of them `Turns` the text of the phrase into another one or leaves it, and what it gives depends
on that text alone.
-/

namespace SeedVault.Session

open Directory FolderStore Secret

/-- On every store in a directory of files that has the text `x`, the operation gives `a` and leaves
a directory of files that has the text `y`. -/
def Turns {α : Type} (act : StateM (SessionState FolderStore) α) (a : α) (x y : Option String) :
    Prop :=
  ∀ c : Directory, c.FilesOnly → FolderStore.get storageKey ⟨.ok c⟩ = .ok x →
    ∃ c' events, act { store := ⟨.ok c⟩ } = (a, { store := ⟨.ok c'⟩, events }) ∧ c'.FilesOnly ∧
      FolderStore.get storageKey ⟨.ok c'⟩ = .ok y

variable {x : Option String} {typed : String}

/-- What is restored is the address of the text, and the text stays. -/
lemma turns_restore (d : AccountDeriver) (x : Option String) :
    Turns (restore d) (addressOf d (.ok x)) x x := by
  intro c files text
  let s : FolderStore := ⟨.ok c⟩
  have got : KeyValueStore.get storageKey s = (.ok x, s) := congrArg (·, s) text
  exact ⟨c, _, restore_apply (s := { store := s }) got, files, text⟩

/-- A text that is accepted is the text from then on. -/
lemma turns_accept (text : String) : Turns (accept text) (.ok ()) x (some text) := by
  intro c files _
  obtain ⟨c', done, files', kept, _⟩ := set_fitting text files fits_storageKey
  obtain ⟨t, taken, accepted⟩ | ⟨e, t, failed, _⟩ :=
    accept_cases text ({ store := ⟨.ok c⟩ } : SessionState FolderStore)
  · obtain rfl := congrArg Prod.snd (done.symm.trans taken)
    exact ⟨c', _, accepted, files', kept⟩
  · cases done.symm.trans failed

/-- A phrase that is typed is accepted as typed. -/
lemma turns_enter {m : Mnemonic} (parsed : Mnemonic.parse typed = .ok m) :
    Turns (enter typed) (.ok m) x (some typed) := by
  intro c files text
  obtain ⟨c', events, accepted, files', kept⟩ := turns_accept (x := x) typed c files text
  refine ⟨c', events, ?_, files', kept⟩
  unfold enter
  rw [parsed]
  simp only [bind_apply, accepted]
  rfl

/-- What is typed and is no phrase leaves the text. -/
lemma turns_enter_refused {e : PhraseError} (parsed : Mnemonic.parse typed = .error e) :
    Turns (enter typed) (.error (.phrase e)) x x := by
  intro c files text
  refine ⟨c, [], ?_, files, text⟩
  unfold enter
  rw [parsed]
  rfl

/-- Logging out leaves no text. -/
lemma turns_logout : Turns logout (.ok ()) x none := by
  intro c files _
  obtain ⟨c', done, files', gone, _⟩ := remove_fitting files fits_storageKey
  obtain ⟨t, removed, left⟩ | ⟨e, t, failed, _⟩ :=
    logout_cases ({ store := ⟨.ok c⟩ } : SessionState FolderStore)
  · obtain rfl := congrArg Prod.snd (done.symm.trans removed)
    exact ⟨c', _, left, files', gone⟩
  · cases done.symm.trans failed

end SeedVault.Session
