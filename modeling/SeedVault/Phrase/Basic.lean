import SeedVault.Phrase.Codec
import SeedVault.Text.Lowercase

/-!
# Seed phrases

A `Mnemonic` is a checked seed phrase: its text and the entropy the text stands for. It is made from
entropy, from a list of words, or from a text that somebody typed. Two are equal if their entropies
are.
-/

namespace SeedVault

/-- A checked seed phrase. -/
structure Mnemonic where
  /-- The words in lower case, with one space between neighbours. -/
  phrase : String
  entropy : Bytes
  deriving Repr

/-- Why words are no seed phrase. -/
inductive PhraseError where
  | wordCount (n : Nat)
  | unknownWord (index : Nat) (word : String)
  | checksum
  deriving DecidableEq, Repr

/-- The wording of an error; words are counted from one. -/
def PhraseError.message : PhraseError → String
  | .wordCount n => "expected 12, 15, 18, 21 or 24 words, got " ++ Text.Decimal.text n
  | .unknownWord index word =>
    "word #" ++ Text.Decimal.text (index + 1) ++ " `" ++ word ++ "` is not in the word list"
  | .checksum => "checksum mismatch, the phrase contains a typo"

/-- Entropy of a length that no phrase has. -/
structure EntropyLengthError where
  length : Nat
  deriving DecidableEq, Repr

/-- The wording of the error. -/
def EntropyLengthError.message (e : EntropyLengthError) : String :=
  "entropy must be 16, 20, 24, 28 or 32 bytes, got " ++ Text.Decimal.text e.length

namespace Mnemonic

/-- Phrases are compared by their entropies. -/
instance : BEq Mnemonic := ⟨fun m n => m.entropy == n.entropy⟩

/-- The phrase of an entropy. -/
def ofEntropy (e : Bytes) : Except EntropyLengthError Mnemonic :=
  match WordCount.ofEntropyBits? (8 * e.length) with
  | some _ => .ok { phrase := Phrase.join (Phrase.encode e), entropy := e }
  | none => .error ⟨e.length⟩

/-- The first word that is not in the list, with its place. -/
def firstUnknown? (ws : List String) : Option (Nat × String) :=
  (ws.zipIdx.find? fun (w, _) => (Phrase.wordNumber? w).isNone).map fun (w, i) => (i, w)

/-- The error that a fault in the text of `ws` amounts to. -/
def faultError (ws : List String) : Phrase.DecodeFault → PhraseError
  | .wordCount n => .wordCount n
  | .unknownWord =>
    match firstUnknown? ws with
    | some (i, w) => .unknownWord i w
    | none => .wordCount ws.length
  | .checksum => .checksum

/-- Checks the number of words, then their membership in the list, then the checksum. -/
def validate (ws : List String) : Except PhraseError Mnemonic :=
  match WordCount.ofWords? ws.length with
  | none => .error (.wordCount ws.length)
  | some _ =>
    match firstUnknown? ws with
    | some (i, w) => .error (.unknownWord i w)
    | none =>
      match Phrase.decode (Phrase.join ws) with
      | .ok e => .ok { phrase := Phrase.join ws, entropy := e }
      | .error f => .error (faultError ws f)

/-- The words of a typed text: its parts between blanks, in lower case. -/
def typedWords (text : String) : List String :=
  (Text.words text.toList).map fun w => String.ofList (Text.lowercase w)

/-- The phrase that a typed text means. -/
def parse (text : String) : Except PhraseError Mnemonic := validate (typedWords text)

/-- The words of the phrase. -/
def words (m : Mnemonic) : List String :=
  (Text.splitAtChar ' ' m.phrase.toList).map String.ofList

/-- The length of the phrase. -/
def wordCount (m : Mnemonic) : WordCount := (WordCount.ofWords? m.words.length).getD default

/-- What may be shown of a phrase: the number of its words. -/
def redacted (m : Mnemonic) : String :=
  "Mnemonic \x7b words: " ++ Text.Decimal.text m.wordCount.words ++ ", .. \x7d"

end Mnemonic

end SeedVault
