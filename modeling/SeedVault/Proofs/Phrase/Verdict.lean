import Mathlib.Data.List.DropRight
import SeedVault.Proofs.Phrase.Mnemonic

/-!
# What becomes of a list of words

Words are refused for their number, or else for the first of them that is not in the list, or else
for their checksum; all others are a phrase. `validate_listed` gives the answer for words of the
list, `Verdict` collects all answers with their conditions, and `verdict_by_first_fault` states each
of them as an equivalence.
-/

namespace SeedVault

namespace Phrase

/-- The bits of words of the list: eleven for the number of each. -/
def wordBits (ws : List String) : List Bool :=
  ws.flatMap fun w => Bits.ofNat 11 (wordList.idxOf w)

/-- The last bits of the words, one for every three words, are the first bits of the digest of those
in front of them. -/
def ChecksumFits (ws : List String) : Prop :=
  (wordBits ws).rtake (ws.length / 3) =
    (Bits.ofBytes (Sha256.digest (Bits.toBytes ((wordBits ws).rdrop (ws.length / 3))))).take
      (ws.length / 3)

/-- Whether the checksum fits is found by taking it again. -/
instance (ws : List String) : Decidable (ChecksumFits ws) :=
  inferInstanceAs (Decidable (_ = _))

/-- Words have eleven bits each. -/
lemma length_wordBits (ws) : (wordBits ws).length = 11 * ws.length :=
  Bits.length_flatMap_ofNat 11 wordList.idxOf ws

/-- The numbers of words of the list are their places. -/
lemma mapM_wordNumber?_of_listed {ws : List String} (listed : ∀ w ∈ ws, w ∈ wordList) :
    ws.mapM wordNumber? = some (ws.map wordList.idxOf) := by
  rw [mapM_wordNumber?_eq_some_iff]
  have numbered : ∀ w ∈ ws, wordNumber? w = some (wordList.idxOf w) := by
    intro w mem
    rw [wordNumber?_eq_some_iff, List.getElem?_idxOf (listed w mem)]
  constructor
  · intro n mem
    obtain ⟨w, hw, rfl⟩ := List.mem_map.1 mem
    exact (wordWithNumber_of_wordNumber? (numbered w hw)).1
  · rw [List.map_map]
    exact map_eq_self fun w hw => (wordWithNumber_of_wordNumber? (numbered w hw)).2

/-- Reading the text of words of the list splits the checksum off their bits. -/
lemma decode_join {ws : List String} {c} (count : ws.length = WordCount.words c)
    (listed : ∀ w ∈ ws, w ∈ wordList) : decode (join ws) = splitChecksum c (wordBits ws) := by
  simp only [decode, words_join listed, map_ofList_toList, count, WordCount.ofWords?_words,
    mapM_wordNumber?_of_listed listed, List.flatMap_map, wordBits]

/-- The checksum that is split off is accepted if it fits. -/
lemma splitChecksum_wordBits {ws : List String} {c} (count : ws.length = WordCount.words c) :
    splitChecksum c (wordBits ws) =
      if ChecksumFits ws then .ok (Bits.toBytes ((wordBits ws).rdrop (ws.length / 3)))
      else .error .checksum := by
  have bits := length_wordBits ws
  have words := c.words_eq
  have bytes := c.entropyBytes_eq
  have front : c.entropyBits = (wordBits ws).length - ws.length / 3 := by
    rw [WordCount.entropyBits_eq]
    omega
  have size : (Bits.toBytes ((wordBits ws).take c.entropyBits)).length / 4 = ws.length / 3 := by
    rw [Bits.length_toBytes (n := c.entropyBytes)]
    · omega
    · rw [List.length_take, WordCount.entropyBits_eq]
      omega
  rw [splitChecksum, checksum, size]
  simp only [ChecksumFits, List.rtake, List.rdrop, ← front]

end Phrase

namespace Mnemonic
open Phrase

/-- The first word that is not in the list, with its place. -/
lemma firstUnknown?_eq_some_iff {ws i w} :
    firstUnknown? ws = some (i, w) ↔
      ws[i]? = some w ∧ w ∉ wordList ∧ ∀ v ∈ ws.take i, v ∈ wordList := by
  have unknown : ∀ v, (wordNumber? v).isNone = true ↔ v ∉ wordList := by
    intro v
    rw [Option.isNone_iff_eq_none, wordNumber?_eq_none_iff]
  have found : firstUnknown? ws = some (i, w) ↔
      ws.zipIdx.find? (fun entry => (wordNumber? entry.1).isNone) = some (w, i) := by
    rw [firstUnknown?, Option.map_eq_some_iff]
    constructor
    · rintro ⟨⟨v, j⟩, h, ⟨⟩⟩
      exact h
    · intro h
      exact ⟨(w, i), h, rfl⟩
  rw [found, List.find?_eq_some_iff_getElem]
  simp only [unknown, List.getElem_zipIdx, List.length_zipIdx, Nat.zero_add, Bool.not_eq_true',
    ← Bool.not_eq_true, not_not]
  constructor
  · rintro ⟨absent, j, lt, e, before⟩
    obtain ⟨rfl, rfl⟩ := Prod.mk.inj e
    refine ⟨List.getElem?_eq_getElem lt, absent, fun v mem => ?_⟩
    obtain ⟨k, hk, rfl⟩ := List.mem_take_iff_getElem.1 mem
    exact before k (by omega)
  · rintro ⟨e, absent, before⟩
    obtain ⟨lt, rfl⟩ := List.getElem?_eq_some_iff.1 e
    refine ⟨absent, i, lt, rfl, fun j hj => before _ ?_⟩
    exact List.mem_take_iff_getElem.2 ⟨j, by omega, rfl⟩

/-- The allowed numbers of words are those of the five lengths of phrases. -/
lemma mem_counts_iff {n} : n ∈ [12, 15, 18, 21, 24] ↔ ∃ c, n = WordCount.words c :=
  WordCount.mem_map_all_iff WordCount.words

/-- Words of a number that no phrase has are refused for it. -/
lemma validate_uncounted {ws : List String} (bad : ws.length ∉ [12, 15, 18, 21, 24]) :
    validate ws = .error (.wordCount ws.length) := by
  have none : WordCount.ofWords? ws.length = none := by
    rw [Option.eq_none_iff_forall_ne_some]
    intro c hc
    exact bad (mem_counts_iff.2 ⟨c, WordCount.ofWords?_eq_some_iff.1 hc⟩)
  rw [validate, none]

/-- The first unknown word of an allowed number is refused with its place. -/
lemma validate_unknown {ws : List String} {i w} (count : ws.length ∈ [12, 15, 18, 21, 24])
    (first : firstUnknown? ws = some (i, w)) : validate ws = .error (.unknownWord i w) := by
  obtain ⟨c, hc⟩ := mem_counts_iff.1 count
  rw [validate, hc, WordCount.ofWords?_words]
  simp only [first]

/-- Words of the list are a phrase if their checksum fits. -/
lemma validate_listed {ws : List String} (count : ws.length ∈ [12, 15, 18, 21, 24])
    (listed : ∀ w ∈ ws, w ∈ wordList) :
    validate ws =
      if ChecksumFits ws then
        .ok ⟨join ws, Bits.toBytes ((wordBits ws).rdrop (ws.length / 3))⟩
      else .error .checksum := by
  obtain ⟨c, hc⟩ := mem_counts_iff.1 count
  rw [validate, WordCount.ofWords?_eq_some_iff.2 hc]
  simp only [firstUnknown?_eq_none_iff.2 listed, decode_join hc listed, splitChecksum_wordBits hc]
  by_cases fits : ChecksumFits ws
  case pos => rw [if_pos fits, if_pos fits]
  case neg =>
    rw [if_neg fits, if_neg fits]
    rfl

/-- The answers that words can get, each with its condition. -/
inductive Verdict (ws : List String) : Except PhraseError Mnemonic → Prop
  | uncounted : ws.length ∉ [12, 15, 18, 21, 24] → Verdict ws (.error (.wordCount ws.length))
  | unknown {i w} :
    ws.length ∈ [12, 15, 18, 21, 24] →
    ws[i]? = some w →
    w ∉ wordList →
    (∀ v ∈ ws.take i, v ∈ wordList) →
    Verdict ws (.error (.unknownWord i w))
  | unfit :
    ws.length ∈ [12, 15, 18, 21, 24] →
    (∀ w ∈ ws, w ∈ wordList) →
    ¬ ChecksumFits ws →
    Verdict ws (.error .checksum)
  | phrase {m} :
    ws.length ∈ [12, 15, 18, 21, 24] →
    (∀ w ∈ ws, w ∈ wordList) →
    ChecksumFits ws →
    Verdict ws (.ok m)

/-- The answer to words comes with its condition. -/
lemma verdict_validate (ws) : Verdict ws (validate ws) := by
  by_cases count : ws.length ∈ [12, 15, 18, 21, 24]
  case neg =>
    rw [validate_uncounted count]
    exact .uncounted count
  case pos =>
    cases first : firstUnknown? ws with
    | some unknown =>
      obtain ⟨i, w⟩ := unknown
      obtain ⟨place, absent, before⟩ := firstUnknown?_eq_some_iff.1 first
      rw [validate_unknown count first]
      exact .unknown count place absent before
    | none =>
      have listed := firstUnknown?_eq_none_iff.1 first
      rw [validate_listed count listed]
      split
      case isTrue fits => exact .phrase count listed fits
      case isFalse unfit => exact .unfit count listed unfit

/-- Words are refused for their number exactly if it is none of the five; for a word exactly if it
is the first that is not in the list; for their checksum exactly if it does not fit words of the
list; and are a phrase in all other cases. Words of the list are read back from their text as they
are, so reading an allowed number of them can only fail for the checksum. -/
theorem verdict_by_first_fault (ws : List String) :
    (∀ n, validate ws = .error (.wordCount n) ↔ n = ws.length ∧ n ∉ [12, 15, 18, 21, 24]) ∧
    (∀ i w, validate ws = .error (.unknownWord i w) ↔
      ws.length ∈ [12, 15, 18, 21, 24] ∧
        ws[i]? = some w ∧ w ∉ wordList ∧ ∀ v ∈ ws.take i, v ∈ wordList) ∧
    (validate ws = .error .checksum ↔
      ws.length ∈ [12, 15, 18, 21, 24] ∧ (∀ w ∈ ws, w ∈ wordList) ∧ ¬ ChecksumFits ws) ∧
    ((∃ m, validate ws = .ok m) ↔
      ws.length ∈ [12, 15, 18, 21, 24] ∧ (∀ w ∈ ws, w ∈ wordList) ∧ ChecksumFits ws) ∧
    (firstUnknown? ws = none →
      (Text.words (join ws).toList).map String.ofList = ws ∧
      ∀ c f, WordCount.ofWords? ws.length = some c → decode (join ws) = .error f →
        f = .checksum) := by
  have verdict := verdict_validate ws
  -- each answer has one constructor of `Verdict`, so its condition is read off by the case
  refine ⟨?_, ?_, ?_, ?_, ?_⟩
  · intro n
    constructor
    · intro h
      rw [h] at verdict
      cases verdict with
      | uncounted bad => exact ⟨rfl, bad⟩
    · rintro ⟨rfl, bad⟩
      exact validate_uncounted bad
  · intro i w
    constructor
    · intro h
      rw [h] at verdict
      cases verdict with
      | unknown count place absent before => exact ⟨count, place, absent, before⟩
    · rintro ⟨count, first⟩
      exact validate_unknown count (firstUnknown?_eq_some_iff.2 first)
  · constructor
    · intro h
      rw [h] at verdict
      cases verdict with
      | unfit count listed unfit => exact ⟨count, listed, unfit⟩
    · rintro ⟨count, listed, unfit⟩
      rw [validate_listed count listed, if_neg unfit]
  · constructor
    · rintro ⟨m, h⟩
      rw [h] at verdict
      cases verdict with
      | phrase count listed fits => exact ⟨count, listed, fits⟩
    · rintro ⟨count, listed, fits⟩
      rw [validate_listed count listed, if_pos fits]
      exact ⟨_, rfl⟩
  · intro h
    have listed := firstUnknown?_eq_none_iff.1 h
    refine ⟨by rw [words_join listed, map_ofList_toList], fun c f count failed => ?_⟩
    rw [WordCount.ofWords?_eq_some_iff] at count
    rw [decode_join count listed, splitChecksum_wordBits count] at failed
    split at failed
    case isTrue => cases failed
    case isFalse =>
      cases failed
      rfl

end Mnemonic

end SeedVault
