import Mathlib.Data.List.TakeWhile
import SeedVault.Proofs.Key.Address

/-!
# What is read as an address

A text is `Sound` if it is ASCII in one case, a human-readable part, the separator and symbols, with
a remainder that reading accepts. Exactly the sound texts of bearable length and with a whole
checksum are read (`decode?_eq_some_iff`), and those with 38 or 39 symbols are addresses
(`decodeAddress_ok_iff`); of these the last symbol does not fill a byte and is dropped.
-/

namespace SeedVault

namespace Bech32

/-- The bits of some symbols. -/
def bits (symbols : List Symbol) : List Bool := symbols.flatMap fun s => Bits.ofNat 5 s.toNat

/-- Symbols have five bits each. -/
lemma length_bits (symbols) : (bits symbols).length = 5 * symbols.length :=
  Bits.length_flatMap_ofNat 5 BitVec.toNat symbols

/-- The bits of two parts are those of one and those of the other. -/
lemma bits_append (xs ys) : bits (xs ++ ys) = bits xs ++ bits ys := List.flatMap_append

/-- The bits of the first symbols are the first bits. -/
lemma bits_take (symbols n) : bits (symbols.take n) = (bits symbols).take (5 * n) := by
  rcases Nat.le_total n symbols.length with few | all
  · have length : (bits (symbols.take n)).length = 5 * n := by
      rw [length_bits, List.length_take_of_le few]
    calc bits (symbols.take n)
        = (bits (symbols.take n) ++ bits (symbols.drop n)).take (5 * n) := by
          rw [← length, List.take_left]
      _ = (bits symbols).take (5 * n) := by rw [← bits_append, List.take_append_drop]
  · rw [List.take_of_length_le all, List.take_of_length_le]
    rw [length_bits]
    exact Nat.mul_le_mul_left 5 all

/-- Symbols are told by their bits. -/
lemma bits_inj {xs ys} : bits xs = bits ys ↔ xs = ys := by
  have read (symbols : List Symbol) :
      ((blocks 5 (bits symbols)).map Bits.toNat).map (BitVec.ofNat 5) = symbols := by
    have bound : ∀ n ∈ symbols.map BitVec.toNat, n < 2 ^ 5 := by
      intro n mem
      obtain ⟨s, _, rfl⟩ := List.mem_map.1 mem
      exact s.isLt
    have numbers := Bits.blocks_flatMap_ofNat (by decide) bound
    rw [List.flatMap_map] at numbers
    rw [bits, numbers, List.map_map]
    apply map_eq_self
    intro s _
    exact BitVec.ofNat_toNat 5 s |>.trans (BitVec.setWidth_eq s)
  constructor
  · intro same
    rw [← read xs, same, read ys]
  · rintro rfl
    rfl

/-- Symbols are read as the full bytes among their bits. -/
lemma toBytes_eq (symbols) :
    toBytes symbols = Bits.toBytes ((bits symbols).take (5 * symbols.length / 8 * 8)) := by
  rw [← length_bits]
  rfl

/-- Symbols have one byte for every full eight of their bits. -/
lemma length_toBytes (symbols) : (toBytes symbols).length = 5 * symbols.length / 8 := by
  rw [toBytes_eq]
  apply Bits.length_toBytes
  rw [List.length_take_of_le, Nat.mul_comm]
  rw [length_bits]
  exact Nat.div_mul_le_self _ 8

/-- Whole bytes of symbols have their first bits. -/
lemma ofBytes_toBytes_symbols (symbols) :
    Bits.ofBytes (toBytes symbols) = (bits symbols).take (5 * symbols.length / 8 * 8) := by
  rw [toBytes_eq]
  apply Bits.ofBytes_toBytes
  rw [List.length_take_of_le]
  · exact Nat.dvd_mul_left 8 _
  · rw [length_bits]
    exact Nat.div_mul_le_self _ 8

/-- A character stands for a symbol if its lower case is the symbol's. -/
lemma symbol?_eq_some_iff {c s} : symbol? c = some s ↔ lower c = char s := by
  constructor
  · intro h
    obtain ⟨n, found, rfl⟩ := Option.map_eq_some_iff.1 h
    obtain ⟨lt, there, _⟩ := List.idxOf?_eq_some_iff.1 found
    have small : n < 32 := lt
    have number : (BitVec.ofNat 5 n).toNat = n := by
      rw [BitVec.toNat_ofNat, Nat.mod_eq_of_lt small]
    rw [char, number, List.getD_eq_getElem?_getD, List.getElem?_eq_getElem lt]
    exact there.symm
  · intro h
    have same : symbol? c = symbol? (lower c) := by rw [symbol?, symbol?, lower_lower]
    rw [same, h, symbol?_char]

/-- Characters are read as symbols if their lower case is that of the symbols. -/
lemma mapM_symbol?_eq_some_iff {cs : List Char} {symbols : List Symbol} :
    cs.mapM symbol? = some symbols ↔ cs.map lower = symbols.map char := by
  induction cs generalizing symbols with
  | nil =>
    rw [List.mapM_nil, List.map_nil, eq_comm (a := []), List.map_eq_nil_iff]
    exact ⟨fun h => (Option.some.inj h).symm, fun h => congrArg some h.symm⟩
  | cons c cs ih =>
    rw [List.mapM_cons, List.map_cons]
    constructor
    · intro h
      obtain ⟨s, first, h⟩ := Option.bind_eq_some_iff.1 h
      obtain ⟨rest, others, ⟨⟩⟩ := Option.bind_eq_some_iff.1 h
      rw [List.map_cons, symbol?_eq_some_iff.1 first, ih.1 others]
    · intro e
      obtain ⟨s, rest, rfl, first, others⟩ := List.map_eq_cons_iff.1 e.symm
      rw [symbol?_eq_some_iff.2 first.symm, ih.2 others.symm]
      rfl

/-- The characters of symbols are ASCII. -/
lemma toNat_char_lt (s) : (char s).toNat < 128 :=
  forall_symbol (fun s => (char s).toNat < 128) (by decide) s

/-- A character whose lower case is a symbol's is ASCII, and not the separator. -/
lemma plain_of_lower_eq_char {c s} (h : lower c = char s) : c.toNat < 128 ∧ c ≠ '1' := by
  by_cases capital : IsCapital c
  · refine ⟨Nat.lt_of_le_of_lt capital.2 (by decide), ?_⟩
    rintro rfl
    exact absurd capital (by decide)
  · rw [lower_of_not_isCapital capital] at h
    rw [h]
    exact ⟨toNat_char_lt s, (char_plain s).2⟩

/-- The last separator parts a text. -/
lemma splitLast?_eq_some_iff {cs front back} :
    splitLast? cs = some (front, back) ↔ cs = front ++ '1' :: back ∧ ∀ c ∈ back, c ≠ '1' := by
  constructor
  · intro h
    rw [splitLast?] at h
    have stops := List.head?_dropWhile_not (fun c => decide (c ≠ '1')) cs.reverse
    simp only at h
    split at h
    case h_1 => cases h
    case h_2 c rest found =>
      rw [found] at stops
      have last : c = '1' := by simpa using stops
      subst last
      cases h
      constructor
      · calc cs
            = (cs.reverse.takeWhile (fun c => decide (c ≠ '1')) ++
                cs.reverse.dropWhile (fun c => decide (c ≠ '1'))).reverse := by
              rw [List.takeWhile_append_dropWhile, List.reverse_reverse]
          _ = _ := by rw [found, List.reverse_append, List.reverse_cons, List.append_assoc,
                List.singleton_append]
      · intro b mem
        have taken := List.mem_takeWhile_imp (p := fun c => decide (c ≠ '1'))
          (List.mem_reverse.1 mem)
        exact of_decide_eq_true taken
  · rintro ⟨rfl, clear⟩
    exact splitLast?_append clear

/-- ASCII in one case: 1 to 83 visible characters, the separator, and the characters of some
symbols, with a remainder that reading accepts. -/
structure Sound (text hrp : List Char) (symbols : List Symbol) : Prop where
  ascii : ∀ c ∈ text, c.toNat < 128
  oneCase : (∀ c ∈ text, c.isUpper = false) ∨ ∀ c ∈ text, c.isLower = false
  parts : ∃ tail, text = hrp ++ '1' :: tail ∧ tail.map lower = symbols.map char
  nonempty : 1 ≤ hrp.length
  short : hrp.length ≤ 83
  visible : ∀ c ∈ hrp, 33 ≤ c.toNat ∧ c.toNat ≤ 126
  accepted : remainder (expand hrp ++ symbols) = writtenConstant ∨
    remainder (expand hrp ++ symbols) = amendedConstant

/-- Two remainders are accepted, that of a written checksum and that of an amended one. -/
lemma isAccepted_iff {r} : isAccepted r = true ↔ r = writtenConstant ∨ r = amendedConstant := by
  rw [isAccepted, Bool.or_eq_true, decide_eq_true_iff, decide_eq_true_iff]

/-- No symbol's character is the separator, so a sound text is parted where it is put together. -/
lemma clear_of_symbols {tail : List Char} {symbols : List Symbol}
    (read : tail.map lower = symbols.map char) : ∀ c ∈ tail, c.toNat < 128 ∧ c ≠ '1' := by
  intro c mem
  have small : lower c ∈ symbols.map char := by
    rw [← read]
    exact List.mem_map_of_mem mem
  obtain ⟨s, _, same⟩ := List.mem_map.1 small
  exact plain_of_lower_eq_char same.symm

/-- The front of a text in one case is in one case. -/
lemma mixedCase_of_append {cs ds : List Char} (h : mixedCase (cs ++ ds) = false) :
    mixedCase cs = false := by
  rw [mixedCase_eq_false_iff] at h ⊢
  apply h.imp
  all_goals
    intro all c mem
    exact all c (List.mem_append_left ds mem)

/-- A text is sound if it is in one case and the last separator parts it into a human-readable part
and the characters of symbols, with a remainder that reading accepts. -/
lemma sound_iff_parted {text hrp symbols} :
    Sound text hrp symbols ↔
      ∃ tail, splitLast? text = some (hrp, tail) ∧ tail.mapM symbol? = some symbols ∧
        mixedCase text = false ∧ isHrp hrp = true ∧
        isAccepted (remainder (expand hrp ++ symbols)) = true := by
  constructor
  · intro sound
    obtain ⟨tail, rfl, read⟩ := sound.parts
    have oneCase := mixedCase_eq_false_iff.2 sound.oneCase
    refine ⟨tail, splitLast?_append fun c mem => (clear_of_symbols read c mem).2,
      mapM_symbol?_eq_some_iff.2 read, oneCase, ?_, isAccepted_iff.2 sound.accepted⟩
    exact isHrp_iff.2 ⟨List.length_pos_iff.1 sound.nonempty, sound.short, sound.visible,
      mixedCase_of_append oneCase⟩
  · rintro ⟨tail, parted, read, oneCase, valid, accepted⟩
    obtain ⟨rfl, _⟩ := splitLast?_eq_some_iff.1 parted
    obtain ⟨nonempty, short, visible, _⟩ := isHrp_iff.1 valid
    have small := mapM_symbol?_eq_some_iff.1 read
    refine
      { ascii := ?_, oneCase := mixedCase_eq_false_iff.1 oneCase, parts := ⟨tail, rfl, small⟩,
        nonempty := List.length_pos_iff.2 nonempty, short := short, visible := visible,
        accepted := isAccepted_iff.1 accepted }
    intro c mem
    rw [List.mem_append, List.mem_cons] at mem
    rcases mem with mem | rfl | mem
    · exact Nat.lt_of_le_of_lt (visible c mem).2 (by decide)
    · decide
    · exact (clear_of_symbols small c mem).1

/-- Exactly the sound texts that are not too long and have a whole checksum are read. -/
lemma decode?_eq_some_iff {text hrp bytes} :
    decode? text = some (hrp, bytes) ↔
      ∃ symbols, Sound text hrp symbols ∧ text.length ≤ lengthLimit ∧
        checksumLength ≤ symbols.length ∧
        bytes = toBytes (symbols.take (symbols.length - checksumLength)) := by
  constructor
  · intro h
    obtain ⟨⟨hrp', tail⟩, parted, h⟩ := Option.bind_eq_some_iff.1 h
    obtain ⟨symbols, read, h⟩ := Option.bind_eq_some_iff.1 h
    -- three guards: on case, prefix and length, on the count of symbols, on the checksum
    split at h
    case isTrue => cases h
    case isFalse plain =>
      split at h
      case isTrue => cases h
      case isFalse long =>
        split at h
        case isFalse => cases h
        case isTrue accepted =>
          cases h
          simp only [Bool.or_eq_true, Bool.not_eq_true', decide_eq_true_iff, not_or,
            Bool.not_eq_true, Bool.not_eq_false, Nat.not_lt] at plain
          obtain ⟨⟨oneCase, valid⟩, bound⟩ := plain
          have sound := sound_iff_parted.2 ⟨tail, parted, read, oneCase, valid, accepted⟩
          exact ⟨symbols, sound, bound, Nat.le_of_not_lt long, rfl⟩
  · rintro ⟨symbols, sound, bound, long, rfl⟩
    obtain ⟨tail, parted, read, oneCase, valid, accepted⟩ := sound_iff_parted.1 sound
    have plain : (mixedCase text || !isHrp hrp || decide (text.length > lengthLimit)) = false := by
      rw [oneCase, valid, decide_eq_false (Nat.not_lt.2 bound)]
      rfl
    simp only [decode?, parted, read, plain, Nat.not_lt.2 long, accepted, bind, Option.bind]
    rfl

/-- A sound text with few symbols is never too long. -/
lemma Sound.length_le {text hrp symbols} (sound : Sound text hrp symbols)
    (few : symbols.length ≤ 39) : text.length ≤ lengthLimit := by
  obtain ⟨tail, rfl, small⟩ := sound.parts
  have same := congrArg List.length small
  have short := sound.short
  rw [List.length_map, List.length_map] at same
  rw [List.length_append, List.length_cons, lengthLimit]
  omega

/-- The symbols of a text and its human-readable part are told by the text. -/
lemma Sound.unique {text hrp hrp' symbols symbols'} (sound : Sound text hrp symbols)
    (sound' : Sound text hrp' symbols') : hrp = hrp' ∧ symbols = symbols' := by
  obtain ⟨tail, parted, read, _⟩ := sound_iff_parted.1 sound
  obtain ⟨tail', parted', read', _⟩ := sound_iff_parted.1 sound'
  rw [parted] at parted'
  cases parted'
  rw [read] at read'
  exact ⟨rfl, Option.some.inj read'⟩

end Bech32

open Bech32

/-- Before the checksum 32 symbols have 160 bits, and 33 have five more. -/
lemma accountLength_iff {k : Nat} (long : checksumLength ≤ k) :
    5 * (k - checksumLength) / 8 = accountLength ↔ k = 38 ∨ k = 39 := by
  rw [checksumLength] at *
  rw [accountLength]
  omega

/-- The data of some symbols with their checksum. -/
def dataBytes (symbols : List Symbol) : Bytes :=
  toBytes (symbols.take (symbols.length - checksumLength))

/-- The data have one byte for every full eight bits in front of the checksum. -/
lemma length_dataBytes (symbols) :
    (dataBytes symbols).length = 5 * (symbols.length - checksumLength) / 8 := by
  rw [dataBytes, length_toBytes, List.length_take_of_le (Nat.sub_le _ _)]

/-- With as many symbols as an account has, the data are the first 160 bits. -/
lemma ofBytes_dataBytes {symbols : List Symbol}
    (count : symbols.length = 38 ∨ symbols.length = 39) :
    Bits.ofBytes (dataBytes symbols) = (bits symbols).take 160 := by
  have whole : 5 * (symbols.length - checksumLength) / 8 * 8 = 160 := by
    rw [checksumLength]
    omega
  rw [dataBytes, ofBytes_toBytes_symbols, List.length_take_of_le (Nat.sub_le _ _), whole, bits_take,
    List.take_take, Nat.min_eq_left]
  rw [checksumLength]
  omega

/-- What reading an address comes to. -/
lemma decodeAddress_cases (address) :
    (decode? address.toList = none ∧ decodeAddress address = .error .encoding) ∨
    ∃ hrp symbols, Sound address.toList hrp symbols ∧ address.length ≤ lengthLimit ∧
      checksumLength ≤ symbols.length ∧
      decodeAddress address =
        if symbols.length = 38 ∨ symbols.length = 39 then
          .ok (String.ofList hrp, dataBytes symbols)
        else .error (.invalidLength (5 * (symbols.length - checksumLength) / 8)) := by
  rw [decodeAddress]
  cases read : decode? address.toList with
  | none => exact .inl ⟨rfl, rfl⟩
  | some found =>
    obtain ⟨hrp, account⟩ := found
    obtain ⟨symbols, sound, bound, long, rfl⟩ := decode?_eq_some_iff.1 read
    refine .inr ⟨hrp, symbols, sound, bound, long, ?_⟩
    have length := length_dataBytes symbols
    rw [dataBytes] at length
    simp only [length, accountLength_iff long]
    rfl

/-- A sound address is read if it has as many symbols as an account, and refused for its length if
not. -/
lemma decodeAddress_of_sound {address : String} {hrp symbols}
    (sound : Sound address.toList hrp symbols)
    (bound : address.length ≤ lengthLimit) (long : checksumLength ≤ symbols.length) :
    decodeAddress address =
      if symbols.length = 38 ∨ symbols.length = 39 then
        .ok (String.ofList hrp, dataBytes symbols)
      else .error (.invalidLength (5 * (symbols.length - checksumLength) / 8)) := by
  rcases decodeAddress_cases address with ⟨unread, _⟩ | ⟨hrp', symbols', sound', _, _, read⟩
  · have some := decode?_eq_some_iff.2 ⟨symbols, sound, bound, long, rfl⟩
    rw [unread] at some
    cases some
  · obtain ⟨rfl, rfl⟩ := sound.unique sound'
    exact read

/-- An address is read as a part and an account exactly if it is sound, with these in it. -/
lemma decodeAddress_ok_iff {address hrp : String} {account : Bytes} :
    decodeAddress address = .ok (hrp, account) ↔
      ∃ symbols, Sound address.toList hrp.toList symbols ∧
        (symbols.length = 38 ∨ symbols.length = 39) ∧
        Bits.ofBytes account = (bits symbols).take 160 := by
  constructor
  · intro h
    rcases decodeAddress_cases address with ⟨_, refused⟩ | ⟨hrp', symbols, sound, _, _, read⟩
    · rw [refused] at h
      cases h
    · rw [read] at h
      split at h
      case isFalse => cases h
      case isTrue count =>
        cases h
        rw [String.toList_ofList]
        exact ⟨symbols, sound, count, ofBytes_dataBytes count⟩
  · rintro ⟨symbols, sound, count, first⟩
    have bound : address.length ≤ lengthLimit := sound.length_le (by omega)
    have long : checksumLength ≤ symbols.length := by
      rw [checksumLength]
      omega
    rw [decodeAddress_of_sound sound bound long, if_pos count, String.ofList_toList]
    rw [← ofBytes_dataBytes count] at first
    rw [← Bits.toBytes_ofBytes account, first, Bits.toBytes_ofBytes]

/-- An address is refused for its length exactly if it is sound and has another number of
symbols. -/
lemma decodeAddress_invalidLength_iff {address : String} {n : Nat} :
    decodeAddress address = .error (.invalidLength n) ↔
      ∃ hrp symbols, Sound address.toList hrp symbols ∧ address.length ≤ lengthLimit ∧
        checksumLength ≤ symbols.length ∧ ¬ (symbols.length = 38 ∨ symbols.length = 39) ∧
        n = 5 * (symbols.length - checksumLength) / 8 := by
  constructor
  · intro h
    rcases decodeAddress_cases address with ⟨_, refused⟩ | ⟨hrp, symbols, sound, bound, long, read⟩
    · rw [refused] at h
      cases h
    · rw [read] at h
      split at h
      case isTrue => cases h
      case isFalse other =>
        cases h
        exact ⟨hrp, symbols, sound, bound, long, other, rfl⟩
  · rintro ⟨hrp, symbols, sound, bound, long, other, rfl⟩
    rw [decodeAddress_of_sound sound bound long, if_neg other]

/-- An address is refused for how it is written exactly if it is not sound. -/
lemma decodeAddress_encoding_iff {address : String} :
    decodeAddress address = .error .encoding ↔
      ¬ ∃ hrp symbols, Sound address.toList hrp symbols ∧ address.length ≤ lengthLimit ∧
        checksumLength ≤ symbols.length := by
  constructor
  · rintro h ⟨hrp, symbols, sound, bound, long⟩
    rw [decodeAddress_of_sound sound bound long] at h
    split at h <;> cases h
  · intro unsound
    rcases decodeAddress_cases address with ⟨_, refused⟩ | ⟨hrp, symbols, sound, bound, long, _⟩
    · exact refused
    · exact absurd ⟨hrp, symbols, sound, bound, long⟩ unsound

end SeedVault
