import SeedVault.Bytes.Base64
import SeedVault.Proofs.Attempt
import SeedVault.Proofs.Bytes.Bits
import SeedVault.Proofs.Bytes.Text

/-!
# Base 64 is read back

The texts that are read as a byte string are the one it is written as and those that miss some of
its padding (`decode_ok_iff`). Both directions rest on the bits of the digits, which are those of
the bytes and less zeros than a digit has bits: such zeros are what the reader asks for behind the
last byte.
-/

namespace SeedVault.Base64

/-- The byte of the digit with a value. -/
def digitByte (v : Nat) : UInt8 := UInt8.ofNat (alphabet.getD v 'A').toNat

/-- The values of the digits of a byte string. -/
def sextets (bs : Bytes) : List Nat :=
  (blocks 6 (Bits.ofBytes bs)).map fun g => Bits.toNat (g ++ List.replicate (6 - g.length) false)

/-- The signs that fill the last group of a byte string's digits. -/
def padCount (bs : Bytes) : Nat := (3 - bs.length % 3) % 3

/-- A text is the writing of a byte string, of which padding may be missing. -/
def Writes (bs text : Bytes) : Prop :=
  ∃ missing, text ++ List.replicate missing padding = Bytes.ofString (encode bs)

/-- The digit of a value has that value. -/
lemma value?_digitByte {v} (lt : v < 64) : value? (digitByte v) = some v := by
  have all : ∀ v ∈ List.range 64, value? (digitByte v) = some v := by decide
  exact all v (List.mem_range.2 lt)

/-- The padding is no digit. -/
lemma value?_padding : value? padding = none := by decide

/-- A digit has a value below 64 and is the byte of this value. -/
lemma digitByte_of_value? {b v} (h : value? b = some v) : v < 64 ∧ digitByte v = b := by
  obtain ⟨lt, there, _⟩ := List.idxOf?_eq_some_iff.1 h
  have code : (Char.ofNat b.toNat).toNat = b.toNat := by
    have valid : b.toNat.isValidChar := .inl (Nat.lt_trans b.toNat_lt (by decide))
    rw [Char.ofNat, dif_pos valid]
    rfl
  refine ⟨lt, ?_⟩
  rw [digitByte, List.getD_eq_getElem?_getD, List.getElem?_eq_getElem lt, Option.getD_some]
  rw [show alphabet[v] = Char.ofNat b.toNat from there, code, UInt8.ofNat_toNat]

/-- No digit is taken for the padding. -/
lemma digitByte_ne_padding {v} (lt : v < 64) : digitByte v ≠ padding := by
  intro same
  have value := value?_digitByte lt
  rw [same, value?_padding] at value
  cases value

/-- Digits are read up to the padding. -/
lemma readDigits_written {values rest} (digits : ∀ v ∈ values, v < 64)
    (pads : ∀ b ∈ rest.head?, b = padding) (offset) :
    readDigits offset (values.map digitByte ++ rest) = .ok (values, rest) := by
  induction values generalizing offset with
  | nil =>
    cases rest with
    | nil => rfl
    | cons b bs => exact if_pos (pads b rfl)
  | cons v values ih =>
    obtain ⟨first, others⟩ := List.forall_mem_cons.1 digits
    rw [List.map_cons, List.cons_append, readDigits, if_neg (digitByte_ne_padding first),
      value?_digitByte first]
    simp only [ih others]
    rfl

/-- What is read as digits are the digits of the values that are read. -/
lemma of_readDigits {offset bs values rest} (h : readDigits offset bs = .ok (values, rest)) :
    bs = values.map digitByte ++ rest ∧ ∀ v ∈ values, v < 64 := by
  induction bs generalizing offset values with
  | nil =>
    cases h
    exact ⟨rfl, by simp⟩
  | cons b bs ih =>
    rw [readDigits] at h
    split at h
    case isTrue =>
      cases h
      exact ⟨rfl, by simp⟩
    case isFalse =>
      cases value : value? b with
      | none =>
        rw [value] at h
        cases h
      | some v =>
        rw [value] at h
        obtain ⟨⟨vs, tail⟩, read, done⟩ := Attempt.ok_bind_iff.1 h
        cases done
        obtain ⟨lt, byte⟩ := digitByte_of_value? value
        obtain ⟨spelled, bound⟩ := ih read
        refine ⟨?_, List.forall_mem_cons.2 ⟨lt, bound⟩⟩
        rw [List.map_cons, List.cons_append, byte, ← spelled]

/-- The values of bytes are values of digits. -/
lemma sextets_lt {bs v} (mem : v ∈ sextets bs) : v < 64 := by
  obtain ⟨g, group, rfl⟩ := List.mem_map.1 mem
  have short := length_le_of_mem_blocks (by decide) group
  have bound := Bits.toNat_lt (g ++ List.replicate (6 - g.length) false)
  rwa [List.length_append, List.length_replicate, Nat.add_sub_cancel' short] at bound

/-- The bits of the digits are those of the bytes and some zeros. -/
lemma flatMap_sextets (bs) :
    ∃ k < 6, (sextets bs).flatMap (Bits.ofNat 6) = Bits.ofBytes bs ++ List.replicate k false :=
  Bits.flatMap_ofNat_fill (by decide) (Bits.ofBytes bs)

/-- Digits have six bits for the eight of each byte, and the filling. -/
lemma length_of_bits {values : List Nat} {bs k}
    (bits : values.flatMap (Bits.ofNat 6) = Bits.ofBytes bs ++ List.replicate k false) :
    6 * values.length = 8 * bs.length + k := by
  have length := congrArg List.length bits
  rwa [Bits.length_flatMap_ofNat 6 (fun v => v), List.length_append, List.length_replicate,
    Bits.length_ofBytes] at length

/-- Values with these bits are those of the digits. -/
lemma eq_sextets {values : List Nat} {bs k} (bound : ∀ v ∈ values, v < 64) (lt : k < 6)
    (bits : values.flatMap (Bits.ofNat 6) = Bits.ofBytes bs ++ List.replicate k false) :
    values = sextets bs := by
  obtain ⟨k', lt', bits'⟩ := flatMap_sextets bs
  have length := length_of_bits bits
  have length' := length_of_bits bits'
  -- both lengths are multiples of six, and that leaves one number of zeros below six
  obtain rfl : k = k' := by omega
  have same := congrArg (fun bits => (blocks 6 bits).map Bits.toNat) (bits.trans bits'.symm)
  have bound' : ∀ v ∈ sextets bs, v < 64 := fun _ mem => sextets_lt mem
  have read := Bits.blocks_flatMap_ofNat (show 0 < 6 by decide) bound
  have read' := Bits.blocks_flatMap_ofNat (show 0 < 6 by decide) bound'
  exact read.symm.trans (same.trans read')

/-- The digits of a last group and what is missing to four. -/
lemma padCount_eq {count k : Nat} {bs} (length : 6 * count = 8 * bs.length + k) (lt : k < 6) :
    count % 4 ≠ 1 ∧ padCount bs = (4 - count % 4) % 4 := by
  rw [padCount]
  -- with the remainder at hand the number of digits is known up to multiples of four
  obtain last | last | last : bs.length % 3 = 0 ∨ bs.length % 3 = 1 ∨ bs.length % 3 = 2 := by omega
  · have : count % 4 = 0 := by omega
    omega
  · have : count % 4 = 2 := by omega
    omega
  · have : count % 4 = 3 := by omega
    omega

/-- Padding that ends a text is some signs, no more than the last group has room for. -/
lemma padsFit_iff {count pads} :
    padsFit count pads = true ↔
      pads = List.replicate pads.length padding ∧ pads.length ≤ 2 ∧ 2 ≤ count % 4 ∧
        count % 4 + pads.length ≤ 4 := by
  rw [List.eq_replicate_iff, padsFit]
  simp [List.all_eq_true, and_assoc]

/-- Bytes are read from the digits they are written with, whatever part of the padding follows. -/
lemma decode_written {bs k} (fits : k ≤ padCount bs) :
    decode ((sextets bs).map digitByte ++ List.replicate k padding) = .ok bs := by
  obtain ⟨zeros, lt, bits⟩ := flatMap_sextets bs
  obtain ⟨whole, room⟩ := padCount_eq (length_of_bits bits) lt
  have digits : ∀ v ∈ sextets bs, v < 64 := fun _ mem => sextets_lt mem
  have pads : ∀ b ∈ (List.replicate k padding).head?, b = padding := fun b mem =>
    List.eq_of_mem_replicate (List.mem_of_mem_head? mem)
  have length : ((sextets bs).map digitByte ++ List.replicate k padding).length % 4 ≠ 1 := by
    rw [List.length_append, List.length_map, List.length_replicate]
    omega
  have fit : ¬(List.replicate k padding ≠ [] ∧
      (!padsFit (sextets bs).length (List.replicate k padding)) = true) := by
    rintro ⟨present, wrong⟩
    rw [Bool.not_eq_true', ← Bool.not_eq_true, padsFit_iff, List.length_replicate] at wrong
    have pos : k ≠ 0 := by
      rintro rfl
      exact present rfl
    exact wrong ⟨rfl, by omega, by omega, by omega⟩
  have kept : (Bits.ofBytes bs ++ List.replicate zeros false).length / 8 * 8 =
      (Bits.ofBytes bs).length := by
    rw [List.length_append, List.length_replicate, Bits.length_ofBytes]
    omega
  have clear : ¬(List.replicate zeros false).any id = true := by simp
  rw [decode, if_neg length, readDigits_written digits pads]
  change (if _ then _ else _) = _
  rw [if_neg fit]
  simp only [bits, kept, List.drop_left, List.take_left]
  rw [if_neg clear, Bits.toBytes_ofBytes]
  rfl

/-- What padding a reader takes, and behind how many digits. -/
lemma room_of_fit {count pads} (whole : (count + pads.length) % 4 ≠ 1)
    (fit : ¬(pads ≠ [] ∧ (!padsFit count pads) = true)) :
    pads = List.replicate pads.length padding ∧ count % 4 ≠ 1 ∧
      pads.length ≤ (4 - count % 4) % 4 := by
  by_cases none : pads = []
  · subst none
    exact ⟨rfl, whole, Nat.zero_le _⟩
  · rw [Bool.not_eq_true', ← Bool.not_eq_true, not_and, not_not, padsFit_iff] at fit
    obtain ⟨signs, _, two, four⟩ := fit none
    exact ⟨signs, by omega, by omega⟩

/-- Bits whose last ones, after whole bytes, are zeros. -/
lemma bits_of_clear {bits : List Bool} (clear : ¬(bits.drop (bits.length / 8 * 8)).any id = true) :
    bits = Bits.ofBytes (Bits.toBytes (bits.take (bits.length / 8 * 8))) ++
      List.replicate (bits.length % 8) false := by
  have le : bits.length / 8 * 8 ≤ bits.length := Nat.div_mul_le_self _ 8
  have full : 8 ∣ (bits.take (bits.length / 8 * 8)).length := by
    rw [List.length_take_of_le le]
    exact Nat.dvd_mul_left 8 _
  have zeros : bits.drop (bits.length / 8 * 8) = List.replicate (bits.length % 8) false := by
    rw [List.eq_replicate_iff, List.length_drop]
    refine ⟨by omega, fun b mem => ?_⟩
    cases b with
    | false => rfl
    | true => exact absurd (List.any_eq_true.2 ⟨true, mem, rfl⟩) clear
  rw [Bits.ofBytes_toBytes full, ← zeros, List.take_append_drop]

/-- Nothing else is read: what is read as a byte string is its digits and some of the padding. -/
lemma of_decode {text bs} (h : decode text = .ok bs) :
    ∃ k ≤ padCount bs, text = (sextets bs).map digitByte ++ List.replicate k padding := by
  rw [decode] at h
  split at h
  case isTrue =>
    split at h
    · split at h <;> cases h
    · cases h
  case isFalse whole =>
    obtain ⟨⟨values, pads⟩, read, h⟩ := Attempt.ok_bind_iff.1 h
    obtain ⟨rfl, bound⟩ := of_readDigits read
    rw [List.length_append, List.length_map] at whole
    dsimp only at h
    split at h
    case isTrue => cases h
    case isFalse fit =>
      split at h
      case isTrue => cases h
      case isFalse clear =>
        cases h
        obtain ⟨signs, three, room⟩ := room_of_fit whole fit
        have bits := bits_of_clear clear
        have length := length_of_bits bits
        have lt : (values.flatMap (Bits.ofNat 6)).length % 8 < 6 := by
          rw [Bits.length_flatMap_ofNat 6 (fun v => v)]
          omega
        rw [← (padCount_eq length lt).2] at room
        exact ⟨_, room, by rw [← eq_sextets bound lt bits, ← signs]⟩

/-- Digits are ASCII characters. -/
lemma toNat_digit_lt (bits) : (digit bits).toNat < 128 := by
  have all : alphabet.all (fun c => c.toNat < 128) = true := by decide
  rw [digit, List.getD_eq_getElem?_getD]
  cases found : alphabet[Bits.toNat bits]? with
  | none => decide
  | some c =>
    exact of_decide_eq_true (List.all_eq_true.1 all c (List.mem_of_getElem? found))

/-- The bytes of a written text are those of its digits and the padding. -/
lemma ofString_encode (bs) :
    Bytes.ofString (encode bs) =
      (sextets bs).map digitByte ++ List.replicate (padCount bs) padding := by
  rw [encode, Bytes.ofString_ascii, List.map_append, List.map_map, List.map_replicate, sextets,
    List.map_map]
  · rfl
  · intro c mem
    obtain digit | pad := List.mem_append.1 mem
    · obtain ⟨g, _, rfl⟩ := List.mem_map.1 digit
      exact toNat_digit_lt _
    · rw [List.eq_of_mem_replicate pad]
      decide

/-- A text that some padding makes a writing is the digits and some padding. -/
lemma append_padding {digits text : Bytes} {missing all} (clear : padding ∉ digits)
    (h : text ++ List.replicate missing padding = digits ++ List.replicate all padding) :
    ∃ k ≤ all, text = digits ++ List.replicate k padding := by
  obtain ⟨rest, rfl, pads⟩ | ⟨rest, rfl, pads⟩ := List.append_eq_append_iff.1 h
  · have none : rest = [] := by
      cases rest with
      | nil => rfl
      | cons b bs =>
        obtain rfl : b = padding :=
          List.eq_of_mem_replicate (pads ▸ List.mem_append_left _ List.mem_cons_self)
        exact absurd (List.mem_append_right _ List.mem_cons_self) clear
    exact ⟨0, Nat.zero_le all, by rw [none, List.append_nil, List.replicate_zero, List.append_nil]⟩
  · have length := congrArg List.length pads
    rw [List.length_replicate, List.length_append] at length
    have signs : rest = List.replicate rest.length padding :=
      List.eq_replicate_iff.2 ⟨rfl, fun b mem =>
        List.eq_of_mem_replicate (pads ▸ List.mem_append_left _ mem)⟩
    exact ⟨rest.length, by omega, by rw [← signs]⟩

/-- A text is read as a byte string exactly if it is its writing, of which padding may be
missing. -/
lemma decode_ok_iff {text bs} : decode text = .ok bs ↔ Writes bs text := by
  rw [Writes, ofString_encode]
  constructor
  · intro h
    obtain ⟨k, fits, rfl⟩ := of_decode h
    refine ⟨padCount bs - k, ?_⟩
    rw [List.append_assoc, List.replicate_append_replicate, Nat.add_sub_cancel' fits]
  · rintro ⟨missing, written⟩
    have clear : padding ∉ (sextets bs).map digitByte := by
      intro mem
      obtain ⟨v, digit, same⟩ := List.mem_map.1 mem
      exact digitByte_ne_padding (sextets_lt digit) same
    obtain ⟨k, fits, rfl⟩ := append_padding clear written
    exact decode_written fits

end SeedVault.Base64
