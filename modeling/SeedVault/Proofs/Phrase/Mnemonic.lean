import SeedVault.Phrase.Entropy
import SeedVault.Proofs.Phrase.Codec

/-!
# Seed phrases and entropies are in bijection

A phrase is `Faithful` if its entropy has an allowed length and its text is that of the entropy's
words. Every way to make a phrase makes a faithful one (`Made.faithful`), and words are accepted
exactly if they are the words of such an entropy (`validate_ok_iff`). The main statement is
`phrases_match_entropies`.
-/

namespace SeedVault

/-- As many bytes are drawn as are asked for. -/
lemma EntropySource.length_next (s : EntropySource) (n) : (s.next n).length = n := by
  rw [next, List.length_map, List.length_range]

namespace Mnemonic
open Phrase

/-- The entropy has an allowed length and the text is that of its words. -/
structure Faithful (m : Mnemonic) : Prop where
  sized : ∃ c, m.entropy.length = WordCount.entropyBytes c
  spelled : m.phrase = join (encode m.entropy)

/-- The phrase comes from one of the constructors. -/
inductive Made : Mnemonic → Prop
  | ofEntropy {e m} : ofEntropy e = .ok m → Made m
  | validate {ws m} : validate ws = .ok m → Made m
  | parse {text m} : parse text = .ok m → Made m
  | generate (s : EntropySource) (c) : Made (s.generate c).1

/-- Phrases are equal if their entropies are. -/
lemma beq_iff_entropy_eq {m n : Mnemonic} : m == n ↔ m.entropy = n.entropy :=
  beq_iff_eq (a := m.entropy)

/-- An entropy has the faithful phrase that is made of it. -/
lemma ofEntropy_ok_iff {e m} : ofEntropy e = .ok m ↔ m.entropy = e ∧ m.Faithful := by
  -- the code looks the length up in bits, the lengths are given in bytes
  have bits : ∀ c, 8 * e.length = WordCount.entropyBits c ↔ e.length = c.entropyBytes := by
    intro c
    rw [WordCount.entropyBits_eq]
    omega
  constructor
  · intro h
    rw [ofEntropy] at h
    split at h
    case h_1 c hc =>
      cases h
      exact ⟨rfl, ⟨c, (bits c).1 (WordCount.ofEntropyBits?_eq_some_iff.1 hc)⟩, rfl⟩
    case h_2 => cases h
  · rintro ⟨rfl, ⟨c, sized⟩, spelled⟩
    rw [ofEntropy, WordCount.ofEntropyBits?_eq_some_iff.2 ((bits c).2 sized), ← spelled]

/-- An entropy of another length is refused with that length. -/
lemma ofEntropy_error {e} (bad : ∀ c, e.length ≠ WordCount.entropyBytes c) :
    ofEntropy e = .error ⟨e.length⟩ := by
  cases h : ofEntropy e with
  | ok m =>
    obtain ⟨rfl, ⟨c, sized⟩, _⟩ := ofEntropy_ok_iff.1 h
    exact absurd sized (bad c)
  | error _ =>
    rw [ofEntropy] at h
    split at h
    case h_1 => cases h
    case h_2 => exact h.symm

/-- No word is unknown if all of them are in the list. -/
lemma firstUnknown?_eq_none_iff {ws} : firstUnknown? ws = none ↔ ∀ w ∈ ws, w ∈ wordList := by
  rw [firstUnknown?, Option.map_eq_none_iff, List.find?_eq_none]
  constructor
  · intro h w mem
    by_contra absent
    obtain ⟨i, lt, rfl⟩ := List.getElem_of_mem mem
    refine h (ws[i], i) (List.mk_mem_zipIdx_iff_getElem?.2 (List.getElem?_eq_getElem lt)) ?_
    exact Option.isNone_iff_eq_none.2 (wordNumber?_eq_none_iff.2 absent)
  · rintro h ⟨w, i⟩ mem unknown
    have absent := wordNumber?_eq_none_iff.1 (Option.isNone_iff_eq_none.1 unknown)
    exact absent (h w (List.fst_mem_of_mem_zipIdx mem))

/-- Words are accepted exactly if they are the words of an entropy of an allowed length. -/
lemma validate_ok_iff {ws m} : validate ws = .ok m ↔ encode m.entropy = ws ∧ m.Faithful := by
  constructor
  · intro h
    rw [validate] at h
    split at h
    case h_1 => cases h
    case h_2 =>
      split at h
      case h_1 => cases h
      case h_2 hu =>
        split at h
        case h_2 => cases h
        case h_1 e he =>
          cases h
          obtain ⟨c, sized, rfl⟩ := encode_of_decode (firstUnknown?_eq_none_iff.1 hu) he
          exact ⟨rfl, ⟨c, sized⟩, rfl⟩
  · rintro ⟨rfl, ⟨c, sized⟩, spelled⟩
    have count := WordCount.ofWords?_eq_some_iff.2 (length_encode sized)
    have listed := firstUnknown?_eq_none_iff.2 fun w mem => mem_encode sized mem
    rw [validate, count]
    simp only [listed, decode_encode sized]
    rw [← spelled]

/-- However a phrase was made, it is faithful. -/
lemma Made.faithful {m} (h : Made m) : m.Faithful := by
  cases h with
  | ofEntropy h => exact (ofEntropy_ok_iff.1 h).2
  | validate h => exact (validate_ok_iff.1 h).2
  | parse h => exact (validate_ok_iff.1 h).2
  | generate s c => exact ⟨⟨c, s.length_next _⟩, rfl⟩

/-- The words of a faithful phrase are those of its entropy. -/
lemma Faithful.words_eq {m} (h : Faithful m) : m.words = encode m.entropy := by
  obtain ⟨⟨c, sized⟩, spelled⟩ := h
  have ne : encode m.entropy ≠ [] := by
    intro empty
    have count := length_encode sized
    rw [empty] at count
    cases c <;> cases count
  rw [words, spelled, splitAtChar_join ne fun _ mem => mem_encode sized mem, map_ofList_toList]

/-- Typing the text of a faithful phrase means its words. -/
lemma Faithful.typedWords_eq {m} (h : Faithful m) : typedWords m.phrase = encode m.entropy := by
  obtain ⟨⟨c, sized⟩, spelled⟩ := h
  rw [typedWords, spelled, words_join fun _ mem => mem_encode sized mem, List.map_map]
  refine map_eq_self fun w mem => ?_
  obtain ⟨_, letters⟩ := letters_of_mem (mem_encode sized mem)
  rw [Function.comp_apply, Text.lowercase_letters letters, String.ofList_toList]

/-- A faithful phrase is accepted when its words are checked or its text is typed. -/
lemma Faithful.accepted {m} (h : Faithful m) :
    validate m.words = .ok m ∧ parse m.phrase = .ok m := by
  refine ⟨validate_ok_iff.2 ⟨h.words_eq.symm, h⟩, ?_⟩
  rw [parse, h.typedWords_eq]
  exact validate_ok_iff.2 ⟨rfl, h⟩

/-- The text of a faithful phrase determines its entropy. -/
lemma Faithful.phrase_inj {m n} (hm : Faithful m) (hn : Faithful n) :
    m.phrase = n.phrase ↔ m.entropy = n.entropy := by
  constructor
  · intro same
    have h := hm.accepted.2
    rw [same, hn.accepted.2] at h
    cases h
    rfl
  · intro same
    rw [hm.spelled, hn.spelled, same]

/-- Sixteen zero bytes have a phrase: eleven times the first word of the list, and a word that fits
the checksum. -/
lemma made_zeros :
    Made ⟨join (List.replicate 11 "abandon" ++ ["about"]), List.replicate 16 0⟩ := by
  refine .ofEntropy (ofEntropy_ok_iff.2 ⟨rfl, ⟨.twelve, rfl⟩, ?_⟩)
  decide +kernel

/-- The allowed lengths are those of the five lengths of phrases. -/
lemma mem_lengths_iff {n} : n ∈ [16, 20, 24, 28, 32] ↔ ∃ c, n = WordCount.entropyBytes c :=
  WordCount.mem_map_all_iff WordCount.entropyBytes

/-- Every entropy of 16, 20, 24, 28 or 32 bytes, a drawn one included, has a phrase with three words
for every four bytes, and both its words and its text are read back as the same phrase of the same
entropy. Words are accepted only if they are joined by single spaces to the text that their entropy
has, and every other length of entropy is refused. Phrases of whatever origin are equal if and only
if their texts are, and their lengths are their true numbers of words. -/
theorem phrases_match_entropies :
    (∀ e, e.length ∈ [16, 20, 24, 28, 32] → ∃ m, ofEntropy e = .ok m ∧ m.entropy = e ∧
      m.words.length = 3 * e.length / 4 ∧ validate m.words = .ok m ∧ parse m.phrase = .ok m) ∧
    (∀ (s : EntropySource) c, (s.next c.entropyBytes).length ∈ [16, 20, 24, 28, 32] ∧
      ofEntropy (s.next c.entropyBytes) = .ok (s.generate c).1) ∧
    (∀ ws m, validate ws = .ok m → m.entropy.length ∈ [16, 20, 24, 28, 32] ∧
      m.phrase = " ".intercalate ws ∧ ofEntropy m.entropy = .ok m) ∧
    (∀ e, e.length ∉ [16, 20, 24, 28, 32] → ofEntropy e = .error ⟨e.length⟩) ∧
    (∀ m n, Made m → Made n → (m == n ↔ m.phrase = n.phrase)) ∧
    (∀ m, Made m → WordCount.ofWords? m.words.length = some m.wordCount ∧
      m.wordCount.words = m.words.length) := by
  refine ⟨?_, ?_, ?_, ?_, ?_, ?_⟩
  · intro e he
    obtain ⟨c, sized⟩ := mem_lengths_iff.1 he
    have h : Faithful ⟨join (encode e), e⟩ := ⟨⟨c, sized⟩, rfl⟩
    refine ⟨⟨join (encode e), e⟩, ofEntropy_ok_iff.2 ⟨rfl, h⟩, rfl, ?_, h.accepted⟩
    -- eleven bits a word, of which one in 33 belongs to the checksum
    rw [h.words_eq, length_encode sized, sized, WordCount.words_eq, WordCount.entropyBytes_eq]
    omega
  · intro s c
    have drawn := (Made.generate s c).faithful
    exact ⟨mem_lengths_iff.2 ⟨c, s.length_next _⟩, ofEntropy_ok_iff.2 ⟨rfl, drawn⟩⟩
  · intro ws m h
    obtain ⟨rfl, faithful⟩ := validate_ok_iff.1 h
    exact ⟨mem_lengths_iff.2 faithful.sized, faithful.spelled, ofEntropy_ok_iff.2 ⟨rfl, faithful⟩⟩
  · intro e he
    refine ofEntropy_error fun c sized => ?_
    exact he (mem_lengths_iff.2 ⟨c, sized⟩)
  · intro m n hm hn
    rw [beq_iff_entropy_eq, hm.faithful.phrase_inj hn.faithful]
  · intro m hm
    obtain ⟨c, sized⟩ := hm.faithful.sized
    have count : WordCount.ofWords? m.words.length = some c := by
      rw [hm.faithful.words_eq, length_encode sized, WordCount.ofWords?_words]
    rw [wordCount, count]
    exact ⟨rfl, (WordCount.ofWords?_eq_some_iff.1 count).symm⟩

end Mnemonic

end SeedVault
