import Mathlib.Order.Interval.Set.Nat
import SeedVault.Proofs.Phrase.Verdict

/-!
# Words that complete a phrase

The last word of a phrase holds the last bits of the entropy and behind them the checksum. Words of
the list that lack only the last one are completed by one word for each choice of these bits of
entropy (`fitting_eq_image`) and by no other, and the words are counted by the choices
(`completions_counted`). So a phrase with one word changed may be a phrase.
-/

namespace SeedVault

namespace Phrase

/-- The bits of one word more come last. -/
lemma wordBits_concat (ws w) : wordBits (ws ++ [w]) = wordBits ws ++ wordBits [w] :=
  List.flatMap_append

/-- A word has the bits of its number. -/
lemma wordBits_singleton (w) : wordBits [w] = Bits.ofNat 11 (wordList.idxOf w) :=
  List.flatMap_singleton ..

/-- Eleven bits are those of one word of the list. -/
lemma wordBits_eq_iff {w b} (eleven : b.length = 11) :
    w ∈ wordList ∧ wordBits [w] = b ↔ wordWithNumber (Bits.toNat b) = w := by
  have lt := Bits.toNat_lt b
  have same := Bits.ofNat_toNat b
  rw [eleven] at lt same
  rw [wordBits_singleton]
  constructor
  · rintro ⟨listed, rfl⟩
    have number := wordNumber?_eq_some_iff.2 (List.getElem?_idxOf listed)
    obtain ⟨small, word⟩ := wordWithNumber_of_wordNumber? number
    rw [Bits.toNat_ofNat small]
    exact word
  · rintro rfl
    have listed := wordWithNumber_mem lt
    have number := wordNumber?_eq_some_iff.2 (List.getElem?_idxOf listed)
    rw [wordNumber?_wordWithNumber lt] at number
    refine ⟨listed, ?_⟩
    rw [← Option.some.inj number]
    exact same

/-- Words are told by their eleven bits. -/
lemma wordWithNumber_toNat_inj {b c : List Bool} (hb : b.length = 11) (hc : c.length = 11) :
    wordWithNumber (Bits.toNat b) = wordWithNumber (Bits.toNat c) ↔ b = c := by
  constructor
  · intro same
    obtain ⟨_, bits⟩ := (wordBits_eq_iff hc).2 same.symm
    obtain ⟨_, bits'⟩ := (wordBits_eq_iff hb).2 rfl
    exact bits'.symm.trans bits
  · rintro rfl
    rfl

/-- The checksum of `k` bits of an entropy. -/
def checksumOf (k : Nat) (entropy : List Bool) : List Bool :=
  (Bits.ofBytes (Sha256.digest (Bits.toBytes entropy))).take k

/-- The checksum has as many bits as it is given. -/
lemma length_checksumOf {k} (few : k ≤ 11) (entropy) : (checksumOf k entropy).length = k := by
  rw [checksumOf, List.length_take, Bits.length_ofBytes, Sha256.length_digest]
  omega

/-- The bits of the last word behind others: bits of entropy, and the checksum of all of them. -/
def lastBits (k : Nat) (ws : List String) (front : List Bool) : List Bool :=
  front ++ checksumOf k (wordBits ws ++ front)

/-- The last word has eleven bits. -/
lemma length_lastBits {k ws front} (few : k ≤ 11) (hf : front.length = 11 - k) :
    (lastBits k ws front).length = 11 := by
  rw [lastBits, List.length_append, length_checksumOf few, hf]
  omega

/-- The checksum fits if the bits of the last word are bits of entropy with their checksum. -/
lemma checksumFits_concat_iff {k ws w} (size : (ws ++ [w]).length / 3 = k) (few : k ≤ 11) :
    ChecksumFits (ws ++ [w]) ↔
      ∃ front, front.length = 11 - k ∧ wordBits [w] = lastBits k ws front := by
  have eleven : (wordBits [w]).length = 11 := length_wordBits [w]
  have cut : (wordBits (ws ++ [w])).length - k = (wordBits ws).length + (11 - k) := by
    rw [wordBits_concat, List.length_append, eleven]
    omega
  have fits : ChecksumFits (ws ++ [w]) ↔
      (wordBits [w]).drop (11 - k) =
        checksumOf k (wordBits ws ++ (wordBits [w]).take (11 - k)) := by
    rw [ChecksumFits, size, List.rtake, List.rdrop, cut, wordBits_concat,
      List.take_length_add_append, List.drop_length_add_append, checksumOf]
  rw [fits]
  constructor
  · intro sum
    refine ⟨(wordBits [w]).take (11 - k), ?_, ?_⟩
    · rw [List.length_take, eleven]
      omega
    · rw [lastBits, ← sum, List.take_append_drop]
  · rintro ⟨front, hf, bits⟩
    rw [bits, lastBits, ← hf, List.drop_left, List.take_left]

/-- The word that completes others with the bits of a number as the last bits of entropy. -/
def lastWord (k : Nat) (ws : List String) (n : Nat) : String :=
  wordWithNumber (Bits.toNat (lastBits k ws (Bits.ofNat (11 - k) n)))

/-- Different fronts give different last words. -/
lemma lastWord_inj {k ws n n'} (few : k ≤ 11) (hn : n < 2 ^ (11 - k)) (hn' : n' < 2 ^ (11 - k)) :
    lastWord k ws n = lastWord k ws n' ↔ n = n' := by
  constructor
  · intro same
    have size (m : Nat) : (lastBits k ws (Bits.ofNat (11 - k) m)).length = 11 :=
      length_lastBits few (Bits.length_ofNat (11 - k) m)
    have bits := (wordWithNumber_toNat_inj (size n) (size n')).1 same
    have lengths : (Bits.ofNat (11 - k) n).length = (Bits.ofNat (11 - k) n').length := by
      rw [Bits.length_ofNat, Bits.length_ofNat]
    obtain ⟨front, _⟩ := List.append_inj bits lengths
    rw [← Bits.toNat_ofNat hn, front, Bits.toNat_ofNat hn']
  · rintro rfl
    rfl

/-- One word of the list completes others for each choice of the last bits of entropy. -/
lemma fitting_eq_image {k ws} (size : (ws.length + 1) / 3 = k) (few : k ≤ 11) :
    {w | w ∈ wordList ∧ ChecksumFits (ws ++ [w])} = lastWord k ws '' Set.Iio (2 ^ (11 - k)) := by
  ext w
  rw [Set.mem_image, Set.mem_ofPred_eq, checksumFits_concat_iff (by simpa using size) few]
  constructor
  · rintro ⟨listed, front, hf, bits⟩
    have lt := Bits.toNat_lt front
    have same := Bits.ofNat_toNat front
    rw [hf] at lt same
    refine ⟨Bits.toNat front, lt, ?_⟩
    rw [lastWord, same]
    exact (wordBits_eq_iff (length_lastBits few hf)).1 ⟨listed, bits⟩
  · rintro ⟨n, _, word⟩
    have hf := Bits.length_ofNat (11 - k) n
    obtain ⟨listed, bits⟩ := (wordBits_eq_iff (length_lastBits few hf)).2 word
    exact ⟨listed, _, hf, bits⟩

/-- As many words fit as there are fronts for the last one. -/
lemma ncard_fitting {k ws} (size : (ws.length + 1) / 3 = k) (few : k ≤ 11) :
    {w | w ∈ wordList ∧ ChecksumFits (ws ++ [w])}.ncard = 2 ^ (11 - k) := by
  have injective : Set.InjOn (lastWord k ws) (Set.Iio (2 ^ (11 - k))) := by
    intro n hn n' hn' same
    exact (lastWord_inj few hn hn').1 same
  rw [fitting_eq_image size few, injective.ncard_image]
  exact Set.ncard_Iio_nat _

end Phrase

namespace Mnemonic
open Phrase

/-- What becomes of words of the list behind which another one is put. -/
lemma validate_concat {ws : List String} {w} (count : ws.length + 1 ∈ [12, 15, 18, 21, 24])
    (listed : ∀ v ∈ ws, v ∈ wordList) (last : w ∈ wordList) :
    (ChecksumFits (ws ++ [w]) ∧ ∃ m, validate (ws ++ [w]) = .ok m) ∨
      ¬ ChecksumFits (ws ++ [w]) ∧ validate (ws ++ [w]) = .error .checksum := by
  have count' : (ws ++ [w]).length ∈ [12, 15, 18, 21, 24] := by
    rwa [List.length_append, List.length_singleton]
  have listed' : ∀ v ∈ ws ++ [w], v ∈ wordList :=
    List.forall_mem_append.2 ⟨listed, List.forall_mem_singleton.2 last⟩
  have verdict := validate_listed count' listed'
  by_cases fits : ChecksumFits (ws ++ [w])
  case pos =>
    rw [if_pos fits] at verdict
    exact .inl ⟨fits, _, verdict⟩
  case neg =>
    rw [if_neg fits] at verdict
    exact .inr ⟨fits, verdict⟩

/-- The words that complete others are those with which the checksum fits. -/
lemma completing_eq_fitting {ws : List String} (count : ws.length + 1 ∈ [12, 15, 18, 21, 24])
    (listed : ∀ v ∈ ws, v ∈ wordList) :
    {w | w ∈ wordList ∧ ∃ m, validate (ws ++ [w]) = .ok m} =
      {w | w ∈ wordList ∧ ChecksumFits (ws ++ [w])} := by
  ext w
  apply and_congr_right
  intro last
  rcases validate_concat count listed last with ⟨fits, phrase⟩ | ⟨unfit, refused⟩
  · exact iff_of_true phrase fits
  · apply iff_of_false _ unfit
    rintro ⟨m, phrase⟩
    rw [refused] at phrase
    cases phrase

/-- An entropy has one list of words. -/
lemma validate_inj {ws vs : List String} {m m'} (h : validate ws = .ok m)
    (h' : validate vs = .ok m') (same : m.entropy = m'.entropy) : ws = vs := by
  obtain ⟨words, _⟩ := validate_ok_iff.1 h
  obtain ⟨words', _⟩ := validate_ok_iff.1 h'
  rw [← words, same, words']

/-- A list of words with one word left to an allowed number is completed to a phrase by 2048 divided
by two for each bit of checksum words of the list; all of these give different entropies, and every
other word of the list is refused for the checksum. As these are eight words at least, every phrase
is still a phrase with some other word of the list as its last. -/
theorem completions_counted {n : Nat} {ws : List String} (allowed : n ∈ [12, 15, 18, 21, 24])
    (count : ws.length = n - 1) (listed : ∀ w ∈ ws, w ∈ wordList) :
    {w | w ∈ wordList ∧ ∃ m, validate (ws ++ [w]) = .ok m}.ncard = 2 ^ (11 - n / 3) ∧
    (∀ w v m m', validate (ws ++ [w]) = .ok m → validate (ws ++ [v]) = .ok m' → w ≠ v →
      m.entropy ≠ m'.entropy) ∧
    (∀ w ∈ wordList, (¬∃ m, validate (ws ++ [w]) = .ok m) →
      validate (ws ++ [w]) = .error .checksum) ∧
    ∀ w m, validate (ws ++ [w]) = .ok m →
      ∃ v ∈ wordList, v ≠ w ∧ ∃ m', validate (ws ++ [v]) = .ok m' := by
  have bounds : 12 ≤ n ∧ n ≤ 24 := by
    simp only [List.mem_cons, List.not_mem_nil, or_false] at allowed
    omega
  obtain ⟨low, high⟩ := bounds
  have total : ws.length + 1 = n := by omega
  have count' : ws.length + 1 ∈ [12, 15, 18, 21, 24] := by rwa [total]
  have counted : {w | w ∈ wordList ∧ ∃ m, validate (ws ++ [w]) = .ok m}.ncard =
      2 ^ (11 - n / 3) := by
    rw [completing_eq_fitting count' listed]
    exact ncard_fitting (by rw [total]) (by omega)
  refine ⟨counted, ?_, ?_, ?_⟩
  · intro w v m m' hw hv ne same
    have words := validate_inj hw hv same
    exact ne (List.singleton_inj.1 (List.append_cancel_left words))
  · intro w last unsound
    rcases validate_concat count' listed last with ⟨_, phrase⟩ | ⟨_, refused⟩
    · exact absurd phrase unsound
    · exact refused
  · intro w m _
    -- at least three bits of the last word are free, so no completion is the only one
    have many : 1 < {w | w ∈ wordList ∧ ∃ m, validate (ws ++ [w]) = .ok m}.ncard := by
      rw [counted]
      exact Nat.one_lt_two_pow (by omega)
    obtain ⟨v, ⟨last, phrase⟩, ne⟩ := Set.exists_ne_of_one_lt_ncard many w
    exact ⟨v, last, ne, phrase⟩

/-- Eleven times the first word of the list is made a phrase by 128 words, so by another one than
`about`. -/
theorem abandon_completed_twice :
    let ws := List.replicate 11 "abandon"
    ws.length = 12 - 1 ∧ (∀ w ∈ ws, w ∈ wordList) ∧
    {w | w ∈ wordList ∧ ∃ m, validate (ws ++ [w]) = .ok m}.ncard = 128 ∧
    ∃ v ∈ wordList, v ≠ "about" ∧ ∃ m, validate (ws ++ [v]) = .ok m := by
  intro ws
  have listed : ∀ w ∈ ws, w ∈ wordList := by
    intro w mem
    rw [List.eq_of_mem_replicate mem]
    exact wordWithNumber_mem (n := 0) (by decide)
  have encoded : encode (List.replicate 16 0) = ws ++ ["about"] := by decide +kernel
  have about : validate (ws ++ ["about"]) = .ok ⟨join (ws ++ ["about"]), List.replicate 16 0⟩ :=
    validate_ok_iff.2 ⟨encoded, ⟨.twelve, rfl⟩, congrArg join encoded.symm⟩
  obtain ⟨counted, _, _, another⟩ := completions_counted (n := 12) (by decide) rfl listed
  exact ⟨rfl, listed, counted, another _ _ about⟩

end Mnemonic

end SeedVault
