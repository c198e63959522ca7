import SeedVault.Proofs.Bytes.Bits
import SeedVault.Proofs.Key.Remainder

/-!
# Checksummed text is read back

A human-readable part and bytes are read back from their text (`decode?_written`), the part in lower
case: the last separator is the one that was written (`splitLast?_append`), the symbols are those of
the characters (`mapM_symbol?_map_char`), their remainder is the constant that writing aims at, and
they regroup to the bytes (`toBytes_ofBytes`).
-/

namespace SeedVault

namespace Bech32

/-- The bits of the symbols of some bytes are the bits of the bytes and less than five zeros. -/
lemma flatMap_ofBytes (bs) :
    ∃ k < 5, ((ofBytes bs).flatMap fun s => Bits.ofNat 5 s.toNat) =
      Bits.ofBytes bs ++ List.replicate k false := by
  obtain ⟨k, lt, bits⟩ := Bits.flatMap_ofNat_fill (show 0 < 5 by decide) (Bits.ofBytes bs)
  refine ⟨k, lt, ?_⟩
  rw [← bits, ofBytes, List.flatMap_map, List.flatMap_map, List.flatMap_def, List.flatMap_def]
  refine congrArg List.flatten (List.map_congr_left fun b mem => ?_)
  have short := length_le_of_mem_blocks (by decide) mem
  have bound := Bits.toNat_lt (b ++ List.replicate (5 - b.length) false)
  rw [List.length_append, List.length_replicate, Nat.add_sub_cancel' short] at bound
  rw [BitVec.toNat_ofNat, Nat.mod_eq_of_lt bound]

/-- Bytes are read back from their symbols. -/
lemma toBytes_ofBytes (bs) : toBytes (ofBytes bs) = bs := by
  obtain ⟨k, lt, bits⟩ := flatMap_ofBytes bs
  have whole : (Bits.ofBytes bs ++ List.replicate k false).length / 8 * 8 =
      (Bits.ofBytes bs).length := by
    rw [List.length_append, List.length_replicate, Bits.length_ofBytes]
    omega
  simp only [toBytes, bits, whole, List.take_left]
  exact Bits.toBytes_ofBytes bs

/-- Bytes whose bits fill symbols give as many of these as they fill. -/
lemma length_ofBytes {bs n} (full : 8 * bs.length = 5 * n) : (ofBytes bs).length = n := by
  rw [ofBytes, List.length_map, length_blocks (by decide)]
  rw [Bits.length_ofBytes, full]

/-- A capital letter from A to Z. -/
def IsCapital (c : Char) : Prop := 65 ≤ c.toNat ∧ c.toNat ≤ 90

/-- Capitals are told from other characters by their codes. -/
instance (c : Char) : Decidable (IsCapital c) := inferInstanceAs (Decidable (_ ∧ _))

/-- What is true of the thirty-two numbers is true of every symbol. -/
lemma forall_symbol (p : Symbol → Prop) (all : ∀ n < 32, p (BitVec.ofNat 5 n)) (s) : p s := by
  have h := all s.toNat s.isLt
  rwa [BitVec.ofNat_toNat, BitVec.setWidth_eq] at h

/-- A symbol is read back from its character. -/
lemma symbol?_char (s) : symbol? (char s) = some s :=
  forall_symbol (fun s => symbol? (char s) = some s) (by decide) s

/-- The characters of symbols are no capital letters, and none is the separator. -/
lemma char_plain (s) : ¬IsCapital (char s) ∧ char s ≠ '1' :=
  forall_symbol (fun s => ¬IsCapital (char s) ∧ char s ≠ '1') (by decide) s

/-- Symbols are read back from their characters. -/
lemma mapM_symbol?_map_char (symbols : List Symbol) :
    (symbols.map char).mapM symbol? = some symbols := by
  induction symbols with
  | nil => rfl
  | cons s symbols ih =>
    rw [List.map_cons, List.mapM_cons, symbol?_char, ih]
    rfl

/-- What is in lower case is its own lower case. -/
lemma lower_of_not_isCapital {c} (h : ¬IsCapital c) : lower c = c := if_neg h

/-- The lower case of a capital is thirty-two codes further. -/
lemma toNat_lower {c} (h : IsCapital c) : (lower c).toNat = c.toNat + 32 := by
  have codes : ∀ n ∈ List.range' 97 26, (Char.ofNat n).toNat = n := by decide
  obtain ⟨lo, hi⟩ := h
  have within : c.toNat + 32 ∈ List.range' 97 26 := List.mem_range'_1.2 ⟨by omega, by omega⟩
  exact (congrArg Char.toNat (if_pos ⟨lo, hi⟩)).trans (codes _ within)

/-- Lower case leaves no capital letter. -/
lemma not_isCapital_lower (c) : ¬IsCapital (lower c) := by
  by_cases h : IsCapital c
  · have code := toNat_lower h
    rintro ⟨_, hi⟩
    have := h.1
    omega
  · rwa [lower_of_not_isCapital h]

/-- Lower case has itself for its lower case. -/
lemma lower_lower (c) : lower (lower c) = lower c :=
  lower_of_not_isCapital (not_isCapital_lower c)

/-- A text without capital letters is in one case. -/
lemma mixedCase_of_lower {cs : List Char} (small : ∀ c ∈ cs, ¬IsCapital c) :
    mixedCase cs = false := by
  have none : cs.any (fun c => 'A' ≤ c && c ≤ 'Z') = false := by
    rw [List.any_eq_false]
    intro c mem capital
    rw [Bool.and_eq_true, decide_eq_true_iff, decide_eq_true_iff] at capital
    exact small c mem capital
  rw [mixedCase, none, Bool.and_false]

/-- The last separator is the one with no separator behind it. -/
lemma splitLast?_append {front back : List Char} (clear : ∀ c ∈ back, c ≠ '1') :
    splitLast? (front ++ '1' :: back) = some (front, back) := by
  have turned : ∀ c ∈ back.reverse, decide (c ≠ '1') = true := fun c mem =>
    decide_eq_true (clear c (List.mem_reverse.1 mem))
  have reversed : (front ++ '1' :: back).reverse = back.reverse ++ '1' :: front.reverse := by
    rw [List.reverse_append, List.reverse_cons, List.append_assoc, List.singleton_append]
  have behind : (back.reverse ++ '1' :: front.reverse).takeWhile (· ≠ '1') = back.reverse := by
    rw [List.takeWhile_append_of_pos turned, List.takeWhile_cons_of_neg (by decide),
      List.append_nil]
  have before : (back.reverse ++ '1' :: front.reverse).dropWhile (· ≠ '1') =
      '1' :: front.reverse := by
    rw [List.dropWhile_append_of_pos turned, List.dropWhile_cons_of_neg (by decide)]
  simp only [splitLast?, reversed, behind, before, List.reverse_reverse]

/-- When a text may stand in front of the separator. -/
lemma isHrp_iff {cs : List Char} :
    isHrp cs = true ↔
      cs ≠ [] ∧ cs.length ≤ 83 ∧ (∀ c ∈ cs, 33 ≤ c.toNat ∧ c.toNat ≤ 126) ∧
        mixedCase cs = false := by
  rw [isHrp]
  simp only [Bool.and_eq_true, decide_eq_true_iff, List.all_eq_true, Bool.not_eq_true', and_assoc]

/-- A human-readable part in lower case is one as well. -/
lemma isHrp_map_lower {hrp} (h : isHrp hrp = true) : isHrp (hrp.map lower) = true := by
  obtain ⟨ne, short, visible, _⟩ := isHrp_iff.1 h
  refine isHrp_iff.2 ⟨mt List.map_eq_nil_iff.1 ne, ?_, ?_, mixedCase_of_lower ?_⟩
  · rwa [List.length_map]
  · intro c mem
    obtain ⟨b, hb, rfl⟩ := List.mem_map.1 mem
    by_cases capital : IsCapital b
    · have code := toNat_lower capital
      have := capital.2
      have := (visible b hb).1
      omega
    · rw [lower_of_not_isCapital capital]
      exact visible b hb
  · intro c mem
    obtain ⟨b, _, rfl⟩ := List.mem_map.1 mem
    exact not_isCapital_lower b

/-- A part in lower case enters the checksum as the part does. -/
lemma expand_map_lower (hrp) : expand (hrp.map lower) = expand hrp := by
  simp only [expand, List.map_map, Function.comp_def, lower_lower]

/-- The text of bytes behind a human-readable part, of whatever length. -/
def written (hrp : List Char) (bs : Bytes) : List Char :=
  hrp.map lower ++ '1' :: (ofBytes bs ++ checksum hrp (ofBytes bs)).map char

/-- Bytes are written if the text is not too long. -/
lemma encode?_eq (hrp bs) :
    encode? hrp bs =
      if (written hrp bs).length ≤ lengthLimit then some (written hrp bs) else none := rfl

/-- The text has the part, the separator, the symbols and the checksum. -/
lemma length_written (hrp bs) :
    (written hrp bs).length = hrp.length + 1 + (ofBytes bs).length + checksumLength := by
  have sum : (checksum hrp (ofBytes bs)).length = checksumLength := rfl
  rw [written, List.length_append, List.length_cons, List.length_map, List.length_map,
    List.length_append, sum]
  omega

/-- No capital letter is written. -/
lemma not_isCapital_of_mem_written {hrp bs c} (mem : c ∈ written hrp bs) : ¬IsCapital c := by
  rw [written, List.mem_append, List.mem_cons, List.mem_map, List.mem_map] at mem
  rcases mem with ⟨b, _, rfl⟩ | rfl | ⟨s, _, rfl⟩
  · exact not_isCapital_lower b
  · decide
  · exact (char_plain s).1

/-- A human-readable part and bytes are read back from their text if it is short enough. -/
lemma decode?_written {hrp bs} (hh : isHrp hrp = true)
    (short : (written hrp bs).length ≤ lengthLimit) :
    decode? (written hrp bs) = some (hrp.map lower, bs) := by
  have sum : (checksum hrp (ofBytes bs)).length = checksumLength := rfl
  have clear : ∀ c ∈ (ofBytes bs ++ checksum hrp (ofBytes bs)).map char, c ≠ '1' := by
    intro c mem
    obtain ⟨s, _, rfl⟩ := List.mem_map.1 mem
    exact (char_plain s).2
  have parts : splitLast? (written hrp bs) =
      some (hrp.map lower, (ofBytes bs ++ checksum hrp (ofBytes bs)).map char) :=
    splitLast?_append clear
  have oneCase : mixedCase (written hrp bs) = false :=
    mixedCase_of_lower fun c => not_isCapital_of_mem_written
  have sound : (mixedCase (written hrp bs) || !isHrp (hrp.map lower) ||
      decide ((written hrp bs).length > lengthLimit)) = false := by
    rw [oneCase, isHrp_map_lower hh, decide_eq_false (Nat.not_lt.2 short)]
    rfl
  have long : ¬(ofBytes bs ++ checksum hrp (ofBytes bs)).length < checksumLength := by
    rw [List.length_append, sum]
    omega
  have accepted : isAccepted (remainder (expand (hrp.map lower) ++
      (ofBytes bs ++ checksum hrp (ofBytes bs)))) = true := by
    rw [expand_map_lower, remainder_checksum]
    rfl
  have data : (ofBytes bs ++ checksum hrp (ofBytes bs)).take
      ((ofBytes bs ++ checksum hrp (ofBytes bs)).length - checksumLength) = ofBytes bs := by
    rw [List.length_append, sum, Nat.add_sub_cancel, List.take_left]
  simp only [decode?, parts, mapM_symbol?_map_char, sound, long, accepted, data, toBytes_ofBytes,
    bind, Option.bind]
  rfl

end Bech32

end SeedVault
