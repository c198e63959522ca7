import Mathlib.Data.List.ProdSigma
import Mathlib.Data.Set.Card
import SeedVault.Proofs.Key.Decoding

/-!
# The spellings of an address

Six symbols bring any remainder to any constant, and no others do (`remainder_eq_iff`). So a
human-readable part and an account have one text in lower case for each constant that reading
accepts and for each symbol, or none, that is dropped behind the account: 66 in all
(`decodes_exactly_sound_texts`), of which writing takes the one with nothing to drop.
-/

namespace SeedVault

namespace Bech32

/-- Six symbols are those that their remainder from zero spells. -/
lemma remainderSymbols_remainderFrom {symbols : List Symbol} (six : symbols.length = 6) :
    remainderSymbols (remainderFrom 0 symbols) = symbols := by
  have number := toNat_remainderFrom (r := 0) (Nat.le_of_eq six) (by rw [six]; decide)
  have zero : (0 : BitVec 30).toNat = 0 := rfl
  rw [zero] at number
  match symbols, six with
  | [a, b, c, d, e, f], _ =>
    have bounds := (⟨a.isLt, b.isLt, c.isLt, d.isLt, e.isLt, f.isLt⟩ :
      _ ∧ _ ∧ _ ∧ _ ∧ _ ∧ _)
    simp only [List.foldl_cons, List.foldl_nil] at number
    rw [remainderSymbols]
    simp only [List.cons.injEq, and_true]
    refine ⟨?_, ?_, ?_, ?_, ?_, ?_⟩
    all_goals
      refine BitVec.eq_of_toNat_eq ?_
      rw [BitVec.extractLsb'_toNat, number, Nat.shiftRight_eq_div_pow]
      omega

/-- The checksum that brings the remainder behind a human-readable part and data to a constant. -/
def checksumTo (c : BitVec 30) (hrp : List Char) (data : List Symbol) : List Symbol :=
  remainderSymbols (remainder (expand hrp ++ data ++ List.replicate checksumLength 0) ^^^ c)

/-- The checksum that is written is one of the two that are accepted. -/
lemma checksumTo_writtenConstant (hrp data) :
    checksumTo writtenConstant hrp data = checksum hrp data := rfl

/-- One checksum brings the remainder to a constant, and no other one. -/
lemma remainder_eq_iff {c hrp data symbols} (six : symbols.length = checksumLength) :
    remainder (expand hrp ++ (data ++ symbols)) = c ↔ symbols = checksumTo c hrp data := by
  have parts : remainder (expand hrp ++ (data ++ symbols)) =
      remainder (expand hrp ++ data ++ List.replicate checksumLength 0) ^^^
        remainderFrom 0 symbols := by
    rw [← List.append_assoc, remainder, remainderFrom_append, remainderFrom_eq_xor, six, remainder,
      remainderFrom_append _ _ (List.replicate checksumLength 0)]
  rw [parts, checksumTo]
  constructor
  · rintro rfl
    rw [← BitVec.xor_assoc, BitVec.xor_self, BitVec.zero_xor, remainderSymbols_remainderFrom six]
  · rintro rfl
    rw [remainderFrom_remainderSymbols, ← BitVec.xor_assoc, BitVec.xor_self, BitVec.zero_xor]

/-- Both checksums have six symbols. -/
lemma length_checksumTo (c hrp data) : (checksumTo c hrp data).length = checksumLength := rfl

/-- The text of data behind a human-readable part with a remainder of choice. -/
def textTo (c : BitVec 30) (hrp : List Char) (data : List Symbol) : List Char :=
  hrp ++ '1' :: (data ++ checksumTo c hrp data).map char

/-- The characters of symbols tell the symbols. -/
lemma map_char_inj {xs ys : List Symbol} : xs.map char = ys.map char ↔ xs = ys := by
  constructor
  · intro same
    have read := mapM_symbol?_map_char xs
    rw [same, mapM_symbol?_map_char] at read
    exact (Option.some.inj read).symm
  · rintro rfl
    rfl

/-- Data and constants are told by their texts. -/
lemma textTo_inj {c c' hrp data data'} :
    textTo c hrp data = textTo c' hrp data' ↔ data = data' ∧ c = c' := by
  constructor
  · intro same
    have tails := List.append_cancel_left same
    rw [List.cons_inj_right, map_char_inj] at tails
    obtain ⟨rfl, sums⟩ := List.append_inj' tails rfl
    -- each checksum has one constant only
    have reached := (remainder_eq_iff (length_checksumTo c hrp data)).2 rfl
    exact ⟨rfl, reached.symm.trans ((remainder_eq_iff (length_checksumTo c hrp data)).2 sums)⟩
  · rintro ⟨rfl, rfl⟩
    rfl

/-- What reading drops behind an account: nothing, or one symbol. -/
def droppable : List (List Symbol) := [] :: (List.range 32).map fun n => [BitVec.ofNat 5 n]

/-- What may stand behind the data without being read is at most one bit. -/
lemma mem_droppable_iff {x} : x ∈ droppable ↔ x.length ≤ 1 := by
  have all (s : Symbol) : ∃ n < 32, BitVec.ofNat 5 n = s := ⟨s.toNat, s.isLt, by simp⟩
  rcases x with _ | ⟨s, _ | ⟨s', x⟩⟩ <;> simp [droppable, all]

/-- No such remnant is listed twice. -/
lemma nodup_droppable : droppable.Nodup := by decide

/-- The texts of an account in lower case. -/
def spellings (hrp : List Char) (account : Bytes) : List (List Char) :=
  ([writtenConstant, amendedConstant] ×ˢ droppable).map fun (c, x) =>
    textTo c hrp (ofBytes account ++ x)

/-- There are sixty-six spellings. -/
lemma length_spellings (hrp account) : (spellings hrp account).length = 66 := by
  rw [spellings, List.length_map, List.length_product]
  rfl

/-- The spellings are different. -/
lemma nodup_spellings (hrp account) : (spellings hrp account).Nodup := by
  have constants : [writtenConstant, amendedConstant].Nodup := by decide
  apply List.Nodup.map _ (constants.product nodup_droppable)
  rintro ⟨c, x⟩ ⟨c', x'⟩ same
  obtain ⟨data, rfl⟩ := textTo_inj.1 same
  rw [List.append_cancel_left data]

/-- A spelling has one of the two checksums and at most one bit behind the data. -/
lemma mem_spellings_iff {hrp account text} :
    text ∈ spellings hrp account ↔
      ∃ c x, (c = writtenConstant ∨ c = amendedConstant) ∧ x.length ≤ 1 ∧
        textTo c hrp (ofBytes account ++ x) = text := by
  simp only [spellings, List.mem_map, Prod.exists, List.mem_product, List.mem_cons,
    List.not_mem_nil, or_false, mem_droppable_iff, and_assoc]

/-- An account's bits are those of its symbols. -/
lemma bits_ofBytes {account : Bytes} (length : account.length = 20) :
    (ofBytes account).length = 32 ∧ bits (ofBytes account) = Bits.ofBytes account := by
  have count : (ofBytes account).length = 32 := length_ofBytes (by rw [length])
  refine ⟨count, ?_⟩
  obtain ⟨k, _, filled⟩ := flatMap_ofBytes account
  have total := congrArg List.length filled
  rw [← bits, length_bits, count, List.length_append, Bits.length_ofBytes, length,
    List.length_replicate] at total
  obtain rfl : k = 0 := by omega
  rw [bits, filled, List.replicate_zero, List.append_nil]

/-- Lower case is kept where there is no capital letter. -/
lemma map_lower_of_small {cs : List Char} (small : ∀ c ∈ cs, c.isUpper = false) :
    cs.map lower = cs :=
  map_eq_self fun c mem => lower_of_not_isCapital (isUpper_eq_false_iff.1 (small c mem))

/-- A spelling has no capitals if its part has none. -/
lemma small_textTo {c hrp data} (small : ∀ a ∈ hrp, a.isUpper = false) :
    ∀ a ∈ textTo c hrp data, a.isUpper = false := by
  intro a mem
  rw [textTo, List.mem_append, List.mem_cons, List.mem_map] at mem
  rcases mem with mem | rfl | ⟨s, _, rfl⟩
  · exact small a mem
  · decide
  · exact isUpper_eq_false_iff.2 (char_plain s).1

/-- The text of any data with a remainder that reading accepts is sound. -/
lemma sound_textTo {c data} {hrp : String} (readable : HumanReadable hrp)
    (small : ∀ a ∈ hrp.toList, a.isUpper = false)
    (constant : c = writtenConstant ∨ c = amendedConstant) :
    Sound (textTo c hrp.toList data) hrp.toList (data ++ checksumTo c hrp.toList data) := by
  have reached := (remainder_eq_iff (length_checksumTo c hrp.toList data)).2 rfl
  refine
    { ascii := ?_, oneCase := .inl (small_textTo small), parts := ⟨_, rfl, ?_⟩,
      nonempty := ?_, short := ?_, visible := readable.visible, accepted := by rwa [reached] }
  · intro a mem
    rw [textTo, List.mem_append, List.mem_cons, List.mem_map] at mem
    rcases mem with mem | rfl | ⟨s, _, rfl⟩
    · exact Nat.lt_of_le_of_lt (readable.visible a mem).2 (by decide)
    · decide
    · exact toNat_char_lt s
  · apply map_lower_of_small
    intro a mem
    exact @small_textTo c _ data small a (List.mem_append_right _ (List.mem_cons_of_mem _ mem))
  · rw [String.length_toList]
    exact readable.nonempty
  · rw [String.length_toList]
    exact readable.short

/-- A sound text in lower case is the text of its data for one of the constants. -/
lemma Sound.eq_textTo {text hrp symbols} (sound : Sound text hrp symbols)
    (small : ∀ a ∈ text, a.isUpper = false) (long : checksumLength ≤ symbols.length) :
    ∃ c, (c = writtenConstant ∨ c = amendedConstant) ∧
      text = textTo c hrp (symbols.take (symbols.length - checksumLength)) := by
  obtain ⟨tail, rfl, read⟩ := sound.parts
  have plain : tail.map lower = tail := by
    apply map_lower_of_small
    intro a mem
    exact small a (List.mem_append_right _ (List.mem_cons_of_mem _ mem))
  have six : (symbols.drop (symbols.length - checksumLength)).length = checksumLength := by
    rw [List.length_drop]
    omega
  have whole := List.take_append_drop (symbols.length - checksumLength) symbols
  have sum := (@remainder_eq_iff _ hrp (symbols.take (symbols.length - checksumLength)) _ six).1 rfl
  rw [whole] at sum
  refine ⟨_, sound.accepted, ?_⟩
  rw [textTo, ← sum, whole, ← read, plain]

/-- The spellings of an account are the texts in lower case that are read as it. -/
lemma mem_spellings_iff_decoded {hrp a : String} {account : Bytes} (readable : HumanReadable hrp)
    (small : ∀ c ∈ hrp.toList, c.isUpper = false) (length : account.length = 20) :
    a.toList ∈ spellings hrp.toList account ↔
      (∀ c ∈ a.toList, c.isUpper = false) ∧ decodeAddress a = .ok (hrp, account) := by
  obtain ⟨count, same⟩ := bits_ofBytes length
  rw [mem_spellings_iff, decodeAddress_ok_iff]
  constructor
  · rintro ⟨c, x, constant, few, text⟩
    rw [← text]
    refine ⟨small_textTo small, _, sound_textTo readable small constant, ?_, ?_⟩
    · rw [List.length_append, List.length_append, count, length_checksumTo, checksumLength]
      omega
    · have first : (bits (ofBytes account)).length = 160 := by rw [length_bits, count]
      rw [List.append_assoc, bits_append, ← first, List.take_left, same]
  · rintro ⟨plain, symbols, sound, counted, first⟩
    have long : checksumLength ≤ symbols.length := by
      rw [checksumLength]
      omega
    obtain ⟨c, constant, text⟩ := sound.eq_textTo plain long
    -- the first 32 symbols are the account's, and one more may follow
    have data : (symbols.take (symbols.length - checksumLength)).take 32 = ofBytes account := by
      rw [List.take_take, Nat.min_eq_left (by rw [checksumLength]; omega), ← bits_inj, bits_take,
        same, first]
    refine ⟨c, (symbols.take (symbols.length - checksumLength)).drop 32, constant, ?_, ?_⟩
    · rw [List.length_drop, List.length_take, checksumLength]
      omega
    · rw [← data, List.take_append_drop, text]

end Bech32

open Bech32

/-- The texts in lower case that are read as an account behind a human-readable part. -/
def accountSpellings (hrp : String) (account : Bytes) : Set String :=
  {a | (∀ c ∈ a.toList, c.isUpper = false) ∧ decodeAddress a = .ok (hrp, account)}

/-- An account has sixty-six spellings behind a part without capitals. -/
lemma ncard_accountSpellings {hrp : String} {account : Bytes} (readable : HumanReadable hrp)
    (small : ∀ c ∈ hrp.toList, c.isUpper = false) (length : account.length = 20) :
    (accountSpellings hrp account).ncard = 66 := by
  have listed : accountSpellings hrp account =
      (((spellings hrp.toList account).map String.ofList).toFinset : Set String) := by
    ext a
    rw [List.coe_toFinset, Set.mem_ofPred_eq, List.mem_map]
    refine (mem_spellings_iff_decoded readable small length).symm.trans ⟨fun mem => ?_, ?_⟩
    · exact ⟨_, mem, String.ofList_toList⟩
    · rintro ⟨cs, mem, rfl⟩
      rwa [String.toList_ofList]
  have different : ((spellings hrp.toList account).map String.ofList).Nodup :=
    (nodup_spellings _ _).map fun _ _ same => String.ofList_injective same
  rw [listed, Set.ncard_coe_finset, List.toFinset_card_of_nodup different, List.length_map,
    length_spellings]

/-- A text is read as an address exactly if it is sound and has 38 or 39 symbols, and the account is
their first 160 bits. A sound text of at most 1023 characters with a whole checksum and another
number of symbols is refused for the number of its bytes, and every other text for its spelling. So
every human-readable part in lower case and every account have 66 spellings in lower case, of which
one is written. -/
theorem decodes_exactly_sound_texts :
    (∀ address hrp account, decodeAddress address = .ok (hrp, account) ↔
      ∃ symbols, Sound address.toList hrp.toList symbols ∧
        (symbols.length = 38 ∨ symbols.length = 39) ∧
        Bits.ofBytes account = (bits symbols).take 160) ∧
    (∀ address n, decodeAddress address = .error (.invalidLength n) ↔
      ∃ hrp symbols, Sound address.toList hrp symbols ∧ address.length ≤ 1023 ∧
        6 ≤ symbols.length ∧ ¬ (symbols.length = 38 ∨ symbols.length = 39) ∧
        n = 5 * (symbols.length - 6) / 8) ∧
    (∀ address, decodeAddress address = .error .encoding ↔
      ¬ ∃ hrp symbols, Sound address.toList hrp symbols ∧ address.length ≤ 1023 ∧
        6 ≤ symbols.length) ∧
    ∀ hrp account, HumanReadable hrp → (∀ c ∈ hrp.toList, c.isUpper = false) →
      account.length = 20 →
      (accountSpellings hrp account).ncard = 66 ∧
      ∃ a ∈ accountSpellings hrp account, ∀ publicKey, accountId publicKey = account →
        encodeAddress hrp publicKey = .ok a := by
  refine ⟨fun _ _ _ => decodeAddress_ok_iff, fun _ _ => decodeAddress_invalidLength_iff,
    fun _ => decodeAddress_encoding_iff, ?_⟩
  intro hrp account readable small length
  refine ⟨ncard_accountSpellings readable small length, ?_⟩
  refine ⟨String.ofList (textTo writtenConstant hrp.toList (ofBytes account)), ?_, ?_⟩
  · apply (mem_spellings_iff_decoded readable small length).1
    rw [String.toList_ofList, mem_spellings_iff]
    exact ⟨writtenConstant, [], .inl rfl, Nat.zero_le 1, by rw [List.append_nil]⟩
  · rintro publicKey rfl
    rw [encodeAddress_ok readable, written, map_lower_of_small small, textTo,
      checksumTo_writtenConstant]

end SeedVault
