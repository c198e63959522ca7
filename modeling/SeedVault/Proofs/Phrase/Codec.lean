import SeedVault.Phrase.Codec
import SeedVault.Proofs.Bytes.Bits
import SeedVault.Proofs.Phrase.WordList
import SeedVault.Proofs.Text.Split

/-!
# Entropy and its words

An entropy of an allowed length and its words determine each other. The words of an entropy are
words of the list, as many as its length asks for (`length_encode`, `mem_encode`); reading their
text gives the entropy back (`decode_encode`), and words that are read as an entropy are its words
(`encode_of_decode`).
-/

namespace SeedVault

namespace WordCount

/-- There are three words for each bit of the checksum. -/
lemma words_eq (c : WordCount) : c.words = 3 * c.checksumBits := by
  cases c <;> rfl

/-- There are four bytes for each bit of the checksum. -/
lemma entropyBytes_eq (c : WordCount) : c.entropyBytes = 4 * c.checksumBits := by
  cases c <;> rfl

/-- The entropy is counted in bits or in bytes. -/
lemma entropyBits_eq (c : WordCount) : c.entropyBits = 8 * c.entropyBytes := by
  cases c <;> rfl

/-- The checksum is within one byte. -/
lemma checksumBits_le (c : WordCount) : c.checksumBits ≤ 8 := by
  cases c <;> decide

/-- The values of the lengths are those of the list of all. -/
lemma mem_map_all_iff (f : WordCount → Nat) {n} : n ∈ all.map f ↔ ∃ c, n = f c := by
  rw [List.mem_map]
  constructor
  · rintro ⟨c, _, rfl⟩
    exact ⟨c, rfl⟩
  · rintro ⟨c, rfl⟩
    exact ⟨c, by cases c <;> decide, rfl⟩

/-- A length is found by its number of words. -/
lemma ofWords?_words (c : WordCount) : ofWords? c.words = some c := by
  cases c <;> rfl

/-- A length is found by its number of bits. -/
lemma ofEntropyBits?_entropyBits (c : WordCount) : ofEntropyBits? c.entropyBits = some c := by
  cases c <;> rfl

/-- A number of words is that of the length that is found by it. -/
lemma ofWords?_eq_some_iff {n c} : ofWords? n = some c ↔ n = c.words := by
  constructor
  · intro h
    rw [ofWords?] at h
    have same := List.find?_some h
    exact (beq_iff_eq.1 same).symm
  · rintro rfl
    exact ofWords?_words c

/-- A number of bits is that of the length that is found by it. -/
lemma ofEntropyBits?_eq_some_iff {n c} : ofEntropyBits? n = some c ↔ n = c.entropyBits := by
  constructor
  · intro h
    rw [ofEntropyBits?] at h
    have same := List.find?_some h
    exact (beq_iff_eq.1 same).symm
  · rintro rfl
    exact ofEntropyBits?_entropyBits c

end WordCount

namespace Phrase

/-- The bits of a phrase: those of the entropy and those of its checksum. -/
def phraseBits (e : Bytes) : List Bool := Bits.ofBytes e ++ checksum e

/-- The numbers of the words of an entropy. -/
def wordNumbers (e : Bytes) : List Nat := (blocks 11 (phraseBits e)).map Bits.toNat

/-- The words of an entropy are those of its numbers. -/
lemma encode_eq (e) : encode e = (wordNumbers e).map wordWithNumber := by
  rw [wordNumbers, List.map_map]
  rfl

/-- The checksum has as many bits as the length asks for. -/
lemma length_checksum {e c} (he : e.length = WordCount.entropyBytes c) :
    (checksum e).length = c.checksumBits := by
  have le := c.checksumBits_le
  rw [WordCount.entropyBytes_eq] at he
  rw [checksum, List.length_take, Bits.length_ofBytes, Sha256.length_digest, he]
  omega

/-- Entropy and checksum have eleven bits for each word. -/
lemma length_phraseBits {e c} (he : e.length = WordCount.entropyBytes c) :
    (phraseBits e).length = 11 * c.words := by
  have hc := length_checksum he
  rw [WordCount.entropyBytes_eq] at he
  rw [phraseBits, List.length_append, Bits.length_ofBytes, hc, he, WordCount.words_eq]
  omega

/-- The numbers are those of words of the list. -/
lemma wordNumbers_lt {e c n} (he : e.length = WordCount.entropyBytes c) (mem : n ∈ wordNumbers e) :
    n < 2048 := by
  obtain ⟨b, hb, rfl⟩ := List.mem_map.1 mem
  have lt := Bits.toNat_lt b
  rwa [length_of_mem_blocks ⟨_, length_phraseBits he⟩ hb] at lt

/-- The numbers of the words spell the bits of the phrase. -/
lemma flatMap_wordNumbers {e c} (he : e.length = WordCount.entropyBytes c) :
    (wordNumbers e).flatMap (Bits.ofNat 11) = phraseBits e :=
  Bits.flatMap_ofNat_blocks ⟨_, length_phraseBits he⟩

/-- There are as many words as the length asks for. -/
lemma length_encode {e c} (he : e.length = WordCount.entropyBytes c) :
    (encode e).length = c.words := by
  rw [encode_eq, List.length_map, wordNumbers, List.length_map,
    length_blocks (by decide) (length_phraseBits he)]

/-- The words of an entropy are words of the list. -/
lemma mem_encode {e c w} (he : e.length = WordCount.entropyBytes c) (mem : w ∈ encode e) :
    w ∈ wordList := by
  rw [encode_eq] at mem
  obtain ⟨n, hn, rfl⟩ := List.mem_map.1 mem
  exact wordWithNumber_mem (wordNumbers_lt he hn)

/-- Words have numbers if they are the words with these numbers. -/
lemma mapM_wordNumber?_eq_some_iff {ws : List String} {ns : List Nat} :
    ws.mapM wordNumber? = some ns ↔ (∀ n ∈ ns, n < 2048) ∧ ns.map wordWithNumber = ws := by
  induction ws generalizing ns with
  | nil =>
    rw [List.mapM_nil, List.map_eq_nil_iff]
    constructor
    · rintro ⟨⟩
      exact ⟨List.forall_mem_nil _, rfl⟩
    · rintro ⟨_, rfl⟩
      rfl
  | cons w ws ih =>
    rw [List.mapM_cons]
    constructor
    · intro h
      obtain ⟨n, hn, h⟩ := Option.bind_eq_some_iff.1 h
      obtain ⟨ns', hns, ⟨⟩⟩ := Option.bind_eq_some_iff.1 h
      obtain ⟨lt, e⟩ := wordWithNumber_of_wordNumber? hn
      obtain ⟨all, rest⟩ := ih.1 hns
      exact ⟨List.forall_mem_cons.2 ⟨lt, all⟩, by rw [List.map_cons, e, rest]⟩
    · rintro ⟨all, e⟩
      obtain ⟨n, ns', rfl, rfl, rest⟩ := List.map_eq_cons_iff.1 e
      obtain ⟨lt, all⟩ := List.forall_mem_cons.1 all
      rw [wordNumber?_wordWithNumber lt, ih.2 ⟨all, rest⟩]
      rfl

/-- Words are joined by single spaces. -/
lemma toList_join (ws) : (join ws).toList = Text.joinWith [' '] (ws.map String.toList) := by
  rw [join, String.toList_intercalate, Text.joinWith_eq_intercalate]
  rfl

/-- The characters of words of the list are neither blanks nor absent. -/
lemma clear_of_listed {ws : List String} (listed : ∀ w ∈ ws, w ∈ wordList) :
    ∀ cs ∈ ws.map String.toList, cs ≠ [] ∧ ∀ c ∈ cs, Text.isBlank c = false := by
  intro cs mem
  obtain ⟨w, hw, rfl⟩ := List.mem_map.1 mem
  obtain ⟨ne, letters⟩ := letters_of_mem (listed w hw)
  exact ⟨ne, fun c hc => Text.isBlank_letter (letters c hc)⟩

/-- Words of the list are read back from their text. -/
lemma words_join {ws : List String} (listed : ∀ w ∈ ws, w ∈ wordList) :
    Text.words (join ws).toList = ws.map String.toList := by
  rw [toList_join, Text.words_joinWith (clear_of_listed listed)]

/-- At least one word of the list is read back from the parts between spaces. -/
lemma splitAtChar_join {ws : List String} (ne : ws ≠ []) (listed : ∀ w ∈ ws, w ∈ wordList) :
    Text.splitAtChar ' ' (join ws).toList = ws.map String.toList := by
  rw [toList_join]
  refine Text.splitBy_joinWith (mt List.map_eq_nil_iff.1 ne) rfl ?_
  intro cs mem c hc
  rw [beq_eq_false_iff_ne]
  rintro rfl
  have clear := (clear_of_listed listed cs mem).2 ' ' hc
  exact absurd clear (by decide)

/-- Words are made of their characters. -/
lemma map_ofList_toList (ws : List String) : (ws.map String.toList).map String.ofList = ws := by
  rw [List.map_map]
  exact map_eq_self fun w _ => String.ofList_toList

/-- Reading words of the list: their number, their bits, and the checksum in these. -/
lemma decode_join_ok_iff {ws : List String} {e} (listed : ∀ w ∈ ws, w ∈ wordList) :
    decode (join ws) = .ok e ↔
      ∃ c ns, ws.length = WordCount.words c ∧ ws.mapM wordNumber? = some ns ∧
        splitChecksum c (ns.flatMap (Bits.ofNat 11)) = .ok e := by
  simp only [decode, words_join listed, map_ofList_toList]
  cases hc : WordCount.ofWords? ws.length with
  | none =>
    constructor
    · rintro ⟨⟩
    · rintro ⟨c, _, hl, _⟩
      rw [WordCount.ofWords?_eq_some_iff.2 hl] at hc
      cases hc
  | some c =>
    cases hns : ws.mapM wordNumber? with
    | none =>
      constructor
      · rintro ⟨⟩
      · rintro ⟨_, _, _, ⟨⟩, _⟩
    | some ns =>
      rw [WordCount.ofWords?_eq_some_iff] at hc
      constructor
      · intro h
        exact ⟨c, ns, hc, rfl, h⟩
      · rintro ⟨c', ns', hc', ⟨⟩, h⟩
        rw [← WordCount.ofWords?_eq_some_iff, hc, WordCount.ofWords?_words] at hc'
        cases hc'
        exact h

/-- The checksum is accepted if the bits are those of the entropy in front of it. -/
lemma splitChecksum_ok_iff {c bits e} (hb : bits.length = 11 * WordCount.words c) :
    splitChecksum c bits = .ok e ↔ e.length = c.entropyBytes ∧ bits = phraseBits e := by
  have front : (bits.take c.entropyBits).length = 8 * c.entropyBytes := by
    have hw := c.words_eq
    have he := c.entropyBytes_eq
    rw [List.length_take, WordCount.entropyBits_eq]
    omega
  constructor
  -- what was split off in front and behind is put together again
  · intro h
    rw [splitChecksum] at h
    split at h
    case isFalse => cases h
    case isTrue rest =>
      cases h
      refine ⟨Bits.length_toBytes front, ?_⟩
      rw [phraseBits, Bits.ofBytes_toBytes ⟨_, front⟩, ← rest, List.take_append_drop]
  · rintro ⟨he, rfl⟩
    have cut : c.entropyBits = (Bits.ofBytes e).length := by
      rw [Bits.length_ofBytes, he, WordCount.entropyBits_eq]
    rw [splitChecksum, phraseBits, cut, List.take_left, List.drop_left, Bits.toBytes_ofBytes,
      if_pos rfl]

/-- Reading the text of an entropy's words gives the entropy back. -/
lemma decode_encode {e c} (he : e.length = WordCount.entropyBytes c) :
    decode (join (encode e)) = .ok e := by
  rw [decode_join_ok_iff fun _ mem => mem_encode he mem]
  refine ⟨c, wordNumbers e, length_encode he, ?_, ?_⟩
  · rw [mapM_wordNumber?_eq_some_iff]
    exact ⟨fun _ mem => wordNumbers_lt he mem, (encode_eq e).symm⟩
  · rw [flatMap_wordNumbers he, splitChecksum_ok_iff (length_phraseBits he)]
    exact ⟨he, rfl⟩

/-- Words that are read as an entropy are its words. -/
lemma encode_of_decode {ws : List String} {e} (listed : ∀ w ∈ ws, w ∈ wordList)
    (h : decode (join ws) = .ok e) : ∃ c, e.length = WordCount.entropyBytes c ∧ encode e = ws := by
  obtain ⟨c, ns, count, numbered, split⟩ := (decode_join_ok_iff listed).1 h
  obtain ⟨bound, rfl⟩ := mapM_wordNumber?_eq_some_iff.1 numbered
  rw [List.length_map] at count
  -- every number has 11 bits, so the count of words fixes that of bits
  have hb : (ns.flatMap (Bits.ofNat 11)).length = 11 * c.words := by
    rw [← count]
    exact Bits.length_flatMap_ofNat 11 id ns
  obtain ⟨he, bits⟩ := (splitChecksum_ok_iff hb).1 split
  refine ⟨c, he, ?_⟩
  rw [encode_eq, wordNumbers, ← bits, Bits.blocks_flatMap_ofNat (by decide) bound]

end Phrase

end SeedVault
