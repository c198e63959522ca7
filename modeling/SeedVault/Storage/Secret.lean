import SeedVault.Phrase.Basic
import SeedVault.Storage.Store

/-!
# The stored phrase

At most one phrase is kept in a store, under one key, in the very words in which it was entered.
Whatever keeps it from being read, be it a failing store or a text that is no phrase, counts as its
absence.
-/

namespace SeedVault.Secret

/-- The key of the phrase. -/
def storageKey : String := "ephemeral-mnemonic"

variable {σ : Type} [KeyValueStore σ]

/-- Keeps the text that somebody entered for a phrase. -/
def keepText (entered : String) (s : σ) : Except StorageError Unit × σ :=
  KeyValueStore.set storageKey entered s

/-- Keeps a phrase in its normal spelling. -/
def save (m : Mnemonic) (s : σ) : Except StorageError Unit × σ := keepText m.phrase s

/-- The phrase that a stored text means. -/
def phraseIn (stored : Except StorageError (Option String)) : Option Mnemonic :=
  match stored with
  | .ok (some text) => (Mnemonic.parse text).toOption
  | _ => none

/-- The kept phrase. -/
def load (s : σ) : Option Mnemonic × σ :=
  let (stored, s) := KeyValueStore.get storageKey s
  (phraseIn stored, s)

/-- Forgets the phrase. -/
def clear (s : σ) : Except StorageError Unit × σ := KeyValueStore.remove storageKey s

end SeedVault.Secret
