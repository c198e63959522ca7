import SeedVault.Proofs.Key.Spellings

/-!
# Mistyped addresses

A changed symbol adds to the remainder what it would give alone behind zeros
(`remainderFrom_changed`), and for the last 38 symbols that is neither nothing nor the distance
between the two constants that reading accepts (`distance_of_change`). Another character than a
symbol's is not read at all, except for the separator, behind which too few symbols are left. So no
address is read with one of its last 38 characters changed (`refuses_changed_character`).
-/

namespace SeedVault

namespace Bech32

/-- A symbol changed adds what the change gives by itself. -/
lemma remainderFrom_changed (r front x s back) :
    remainderFrom r (front ++ s :: back) =
      remainderFrom r (front ++ x :: back) ^^^
        remainderFrom 0 ((x ^^^ s) :: List.replicate back.length 0) := by
  have zeros : List.zipWith (· ^^^ ·) back (List.replicate back.length 0) = back := by
    induction back with
    | nil => rfl
    | cons b back ih =>
      rw [List.length_cons, List.replicate_succ, List.zipWith_cons_cons, ih]
      exact congrArg (· :: back) BitVec.xor_zero
  have changed : x ^^^ (x ^^^ s) = s := by
    rw [← BitVec.xor_assoc, BitVec.xor_self, BitVec.zero_xor]
  have length : (x :: back).length = ((x ^^^ s) :: List.replicate back.length 0).length := by
    rw [List.length_cons, List.length_cons, List.length_replicate]
  rw [remainderFrom_append, remainderFrom_append, ← remainderFrom_xor _ _ length,
    List.zipWith_cons_cons, changed, zeros]
  exact congrArg (remainderFrom · (s :: back)) BitVec.xor_zero.symm

set_option maxRecDepth 100000 in
/-- A change of one of the last 38 symbols leads from no accepted constant to another. -/
lemma distance_of_change {x s : Symbol} {k : Nat} (ne : x ≠ s) (late : k < 38) :
    remainderFrom 0 ((x ^^^ s) :: List.replicate k 0) ∉
      [0, writtenConstant ^^^ amendedConstant] := by
  have table : ∀ n ∈ List.range' 1 31, ∀ k ∈ List.range 38,
      remainderFrom 0 (BitVec.ofNat 5 n :: List.replicate k 0) ∉
        [0, writtenConstant ^^^ amendedConstant] := by
    decide +kernel
  have positive : 0 < (x ^^^ s).toNat := by
    apply Nat.pos_of_ne_zero
    intro zero
    exact ne (BitVec.xor_eq_zero_iff.1 (BitVec.eq_of_toNat_eq zero))
  have lt : (x ^^^ s).toNat < 32 := (x ^^^ s).isLt
  have entry := table _ (List.mem_range'_1.2 ⟨positive, by omega⟩) k (List.mem_range.2 late)
  rwa [BitVec.ofNat_toNat, BitVec.setWidth_eq] at entry

/-- No changed symbol among the last 38 gives another remainder that reading accepts. -/
lemma not_isAccepted_changed {r front x s back} (ne : x ≠ s) (late : back.length < 38)
    (sum : remainderFrom r (front ++ x :: back) = writtenConstant) :
    isAccepted (remainderFrom r (front ++ s :: back)) = false := by
  have distance := distance_of_change ne late
  rw [List.mem_cons, List.mem_singleton, not_or] at distance
  obtain ⟨unlike, apart⟩ := distance
  -- the distance is told by the two remainders
  have told (d : BitVec 30) : d = writtenConstant ^^^ (writtenConstant ^^^ d) := by
    rw [← BitVec.xor_assoc, BitVec.xor_self, BitVec.zero_xor]
  rw [← Bool.not_eq_true, isAccepted_iff, remainderFrom_changed r front x s back, sum]
  rintro (same | other)
  · apply unlike
    rw [told (remainderFrom _ _), same, BitVec.xor_self]
    rfl
  · apply apart
    rw [told (remainderFrom _ _), other]

/-- The text of a human-readable part and symbols with a character between them. -/
def textAround (hrp : List Char) (front : List Symbol) (c : Char) (back : List Symbol) :
    List Char :=
  hrp ++ '1' :: (front.map char ++ c :: back.map char)

/-- No symbol is written as the separator. -/
lemma clear_map_char (symbols : List Symbol) : ∀ c ∈ symbols.map char, c ≠ '1' := by
  intro c mem
  obtain ⟨s, _, rfl⟩ := List.mem_map.1 mem
  exact (char_plain s).2

/-- Symbols are written in lower case. -/
lemma map_lower_map_char (symbols : List Symbol) :
    (symbols.map char).map lower = symbols.map char := by
  apply map_eq_self
  intro c mem
  obtain ⟨s, _, rfl⟩ := List.mem_map.1 mem
  exact lower_of_not_isCapital (char_plain s).1

/-- A text is read with a character between its symbols only as one more symbol. -/
lemma symbols_around {front back symbols : List Symbol} {c}
    (read : (front.map char ++ c :: back.map char).mapM symbol? = some symbols) :
    ∃ s, lower c = char s ∧ symbols = front ++ s :: back := by
  have small := mapM_symbol?_eq_some_iff.1 read
  rw [List.map_append, List.map_cons, map_lower_map_char, map_lower_map_char] at small
  obtain ⟨front', rest, rfl, hf, hr⟩ := List.map_eq_append_iff.1 small.symm
  obtain ⟨s, back', rfl, hs, hb⟩ := List.map_eq_cons_iff.1 hr
  rw [map_char_inj] at hf hb
  rw [hf, hb]
  exact ⟨s, hs.symm, rfl⟩

/-- A text with a changed character that is no separator is not sound. -/
lemma not_sound_around {hrp front x back c hrp' symbols} (late : back.length < 38)
    (sum : remainder (expand hrp ++ (front ++ x :: back)) = writtenConstant)
    (other : c ≠ '1') (differs : lower c ≠ char x) :
    ¬ Sound (textAround hrp front c back) hrp' symbols := by
  intro sound
  have clear : ∀ b ∈ front.map char ++ c :: back.map char, b ≠ '1' := by
    rw [List.forall_mem_append, List.forall_mem_cons]
    exact ⟨clear_map_char front, other, clear_map_char back⟩
  obtain ⟨tail, parted, read, _, _, accepted⟩ := sound_iff_parted.1 sound
  rw [textAround, splitLast?_append clear] at parted
  cases parted
  obtain ⟨s, same, rfl⟩ := symbols_around read
  have ne : x ≠ s := by
    rintro rfl
    exact differs same
  rw [← List.append_assoc] at sum accepted
  rw [remainder, not_isAccepted_changed ne late sum] at accepted
  cases accepted

/-- Behind a separator in the place of a symbol only the symbols behind that one are left. -/
lemma length_of_sound_separated {hrp front back hrp' symbols}
    (sound : Sound (textAround hrp front '1' back) hrp' symbols) :
    symbols.length = back.length := by
  have parted : splitLast? (textAround hrp front '1' back) =
      some (hrp ++ '1' :: front.map char, back.map char) := by
    rw [textAround, ← List.cons_append, ← List.append_assoc]
    exact splitLast?_append (clear_map_char back)
  obtain ⟨tail, parted', read, _⟩ := sound_iff_parted.1 sound
  rw [parted] at parted'
  cases parted'
  rw [mapM_symbol?_map_char] at read
  cases read
  rfl

end Bech32

open Bech32

/-- What a text with a changed character is read as. -/
lemma decodeAddress_around {hrp front x back c} (late : back.length < 38)
    (sum : remainder (expand hrp ++ (front ++ x :: back)) = writtenConstant)
    (differs : lower c ≠ char x) :
    ∃ e, decodeAddress (String.ofList (textAround hrp front c back)) = .error e ∧
      (c ≠ '1' → e = .encoding) := by
  rcases decodeAddress_cases (String.ofList (textAround hrp front c back)) with
    ⟨_, refused⟩ | ⟨hrp', symbols, sound, _, _, read⟩
  · exact ⟨_, refused, fun _ => rfl⟩
  · rw [String.toList_ofList] at sound
    by_cases separator : c = '1'
    · rw [separator] at sound
      have few := length_of_sound_separated sound
      rw [if_neg (by omega)] at read
      exact ⟨_, read, fun other => absurd separator other⟩
    · exact absurd sound (not_sound_around late sum separator differs)

/-- The place of the character between the symbols. -/
lemma textAround_at (hrp front back b) :
    (textAround hrp front b back)[hrp.length + 1 + front.length]? = some b ∧
      ∀ c, (textAround hrp front b back).set (hrp.length + 1 + front.length) c =
        textAround hrp front c back := by
  have split (c : Char) : textAround hrp front c back =
      (hrp ++ '1' :: front.map char) ++ c :: back.map char := by
    rw [textAround, List.append_assoc, List.cons_append]
  have length : (hrp ++ '1' :: front.map char).length = hrp.length + 1 + front.length := by
    rw [List.length_append, List.length_cons, List.length_map]
    omega
  constructor
  · rw [split, List.getElem?_append_right (Nat.le_of_eq length), length, Nat.sub_self]
    rfl
  · intro c
    rw [split, split, List.set_append_right _ _ (Nat.le_of_eq length), length, Nat.sub_self]
    rfl

/-- The symbols in front of a place and behind it. -/
lemma exists_around {symbols : List Symbol} {k} (lt : k < symbols.length) :
    ∃ front x back, symbols = front ++ x :: back ∧ front.length = k := by
  refine ⟨symbols.take k, symbols[k], symbols.drop (k + 1), ?_, ?_⟩
  · rw [List.getElem_cons_drop, List.take_append_drop]
  · exact List.length_take_of_le (Nat.le_of_lt lt)

/-- A human-readable part and the characters of 38 symbols are written, with the remainder that
writing aims at. -/
lemma exists_written {hrp : String} (valid : HumanReadable hrp) (publicKey) :
    ∃ symbols : List Symbol, symbols.length = 38 ∧
      remainder (expand (hrp.toList.map lower) ++ symbols) = writtenConstant ∧
      encodeAddress hrp publicKey =
        .ok (String.ofList (hrp.toList.map lower ++ '1' :: symbols.map char)) := by
  have data : (ofBytes (accountId publicKey)).length = 32 :=
    length_ofBytes (by rw [length_accountId])
  refine ⟨ofBytes (accountId publicKey) ++ checksum hrp.toList (ofBytes (accountId publicKey)),
    ?_, ?_, encodeAddress_ok valid publicKey⟩
  · rw [List.length_append, data]
    rfl
  · rw [expand_map_lower, remainder_checksum]

/-- The address of a public key with one of its last 38 characters replaced is no address, unless
the character is replaced by itself or its capital letter. It is refused for its spelling if the
other character is not the separator. -/
theorem refuses_changed_character {hrp : String} (valid : HumanReadable hrp) (publicKey : Bytes) :
    ∃ a, encodeAddress hrp publicKey = .ok a ∧ 38 < a.toList.length ∧
      ∀ (i : Nat) (within : i < a.toList.length) (c : Char),
        a.toList.length - 38 ≤ i → c.toLower ≠ a.toList[i] →
        ∃ e, decodeAddress (String.ofList (a.toList.set i c)) = .error e ∧
          (c ≠ '1' → e = .encoding) := by
  obtain ⟨symbols, count, sum, wrote⟩ := exists_written valid publicKey
  have length : (hrp.toList.map lower ++ '1' :: symbols.map char).length =
      (hrp.toList.map lower).length + 39 := by
    rw [List.length_append, List.length_cons, List.length_map char, count]
  have nonempty : 0 < (hrp.toList.map lower).length := by
    rw [List.length_map, String.length_toList]
    exact valid.nonempty
  refine ⟨_, wrote, ?_⟩
  rw [String.toList_ofList]
  refine ⟨by omega, ?_⟩
  intro i within c late differs
  -- the last 38 characters all stand behind the separator, so each of them is a symbol
  obtain ⟨k, rfl⟩ := Nat.exists_eq_add_of_le (show (hrp.toList.map lower).length + 1 ≤ i by omega)
  have lt : k < symbols.length := by omega
  obtain ⟨front, x, back, rfl, rfl⟩ := exists_around lt
  have around : hrp.toList.map lower ++ '1' :: (front ++ x :: back).map char =
      textAround (hrp.toList.map lower) front (char x) back := by
    rw [textAround, List.map_append, List.map_cons]
  obtain ⟨original, replaced⟩ := textAround_at (hrp.toList.map lower) front back (char x)
  rw [← around] at original replaced
  rw [replaced c]
  apply decodeAddress_around _ sum
  · rw [lower_eq_toLower]
    intro same
    apply differs
    rw [same]
    exact (List.getElem_of_getElem? original).2.symm
  · rw [List.length_append, List.length_cons] at count
    omega

/-- An address of the Neutron chain is refused with another last character, and with one replaced
by the separator. -/
theorem refuses_misspelled_neutron :
    let publicKey : Bytes := List.replicate 33 2
    let address := "neutron12xq57yyxwzkw6tthcxq9mhtxxj7f63e34tnhvt"
    HumanReadable "neutron" ∧ encodeAddress "neutron" publicKey = .ok address ∧
    decodeAddress "neutron12xq57yyxwzkw6tthcxq9mhtxxj7f63e34tnhvw" = .error .encoding ∧
    ∃ e, decodeAddress "neutron12xq57yyxwzkw6tthc1q9mhtxxj7f63e34tnhvt" = .error e := by
  intro publicKey address
  have valid : HumanReadable "neutron" := isHrp_iff_humanReadable.1 (by decide)
  have wrote : encodeAddress "neutron" publicKey = .ok address := by decide +kernel
  have last : String.ofList (address.toList.set 45 'w') =
      "neutron12xq57yyxwzkw6tthcxq9mhtxxj7f63e34tnhvw" := by decide +kernel
  have separator : String.ofList (address.toList.set 25 '1') =
      "neutron12xq57yyxwzkw6tthc1q9mhtxxj7f63e34tnhvt" := by decide +kernel
  obtain ⟨a, wrote', _, refused⟩ := refuses_changed_character valid publicKey
  obtain rfl : address = a := Except.ok.inj (wrote.symm.trans wrote')
  obtain ⟨e, unread, reason⟩ :=
    refused 45 (by decide +kernel) 'w' (by decide +kernel) (by decide +kernel)
  obtain ⟨e', unread', _⟩ :=
    refused 25 (by decide +kernel) '1' (by decide +kernel) (by decide +kernel)
  rw [reason (by decide), last] at unread
  rw [separator] at unread'
  exact ⟨valid, wrote, unread, e', unread'⟩

end SeedVault
