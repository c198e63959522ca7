import SeedVault.Key.Address
import SeedVault.Proofs.Key.Bech32

/-!
# Addresses are read back

The address of a public key is written for every human-readable part and gives back that part, in
lower case, and the account (`address_read_back`). Those of the known chains are in lower case
already (`humanReadable_of_chain`).
-/

namespace SeedVault

/-- A text of 1 to 83 visible ASCII characters whose letters have one case. -/
structure HumanReadable (hrp : String) : Prop where
  nonempty : 1 ≤ hrp.length
  short : hrp.length ≤ 83
  visible : ∀ c ∈ hrp.toList, 33 ≤ c.toNat ∧ c.toNat ≤ 126
  oneCase : (∀ c ∈ hrp.toList, c.isUpper = false) ∨ ∀ c ∈ hrp.toList, c.isLower = false

namespace Bech32

/-- A character is no capital if it is not one of the ASCII capitals. -/
lemma isUpper_eq_false_iff {c : Char} : c.isUpper = false ↔ ¬IsCapital c :=
  decide_eq_false_iff_not

/-- A text is in one case if it has no capital or no small letter. -/
lemma mixedCase_eq_false_iff {cs} :
    mixedCase cs = false ↔ (∀ c ∈ cs, c.isUpper = false) ∨ ∀ c ∈ cs, c.isLower = false := by
  have small : cs.any (fun c => 'a' ≤ c && c ≤ 'z') = cs.any Char.isLower := rfl
  have capital : cs.any (fun c => 'A' ≤ c && c ≤ 'Z') = cs.any Char.isUpper :=
    congrArg cs.any (funext fun c => (Bool.decide_and _ _).symm)
  rw [mixedCase, small, capital, Bool.and_eq_false_iff, List.any_eq_false, List.any_eq_false,
    or_comm]
  simp only [Bool.not_eq_true]

/-- The lower case of a character is its ASCII lower case. -/
lemma lower_eq_toLower (c) : lower c = c.toLower := by
  by_cases capital : IsCapital c
  · have letters : ∀ n ∈ List.range' 65 26, lower (Char.ofNat n) = (Char.ofNat n).toLower := by
      decide
    have h := letters c.toNat (List.mem_range'_1.2 ⟨capital.1, by have := capital.2; omega⟩)
    rwa [Char.ofNat_toNat] at h
  · have other : ¬(c.val ≥ 'A'.val ∧ c.val ≤ 'Z'.val) := capital
    have same : c.toLower = c := dif_neg other
    rw [lower_of_not_isCapital capital, same]

/-- The lower case of a text is its ASCII lower case. -/
lemma ofList_map_lower (s : String) : String.ofList (s.toList.map lower) = s.toLower := by
  have small : s.toLower.toList = s.toList.map Char.toLower := String.toList_map
  rw [← String.toList_inj, String.toList_ofList, small, funext lower_eq_toLower]

end Bech32

open Bech32

/-- A text may stand in front of the separator if it is a human-readable part. -/
lemma isHrp_iff_humanReadable {hrp : String} : isHrp hrp.toList = true ↔ HumanReadable hrp := by
  rw [isHrp_iff, mixedCase_eq_false_iff, String.length_toList, ← List.length_pos_iff,
    String.length_toList]
  constructor
  · rintro ⟨nonempty, short, visible, oneCase⟩
    exact ⟨nonempty, short, visible, oneCase⟩
  · rintro ⟨nonempty, short, visible, oneCase⟩
    exact ⟨nonempty, short, visible, oneCase⟩

/-- The id of an account has twenty bytes. -/
lemma length_accountId (publicKey) : (accountId publicKey).length = 20 :=
  Ripemd160.length_digest _

/-- The characters of an address are as many as those of its human-readable part and 39 more. -/
lemma length_written_accountId (hrp publicKey) :
    (written hrp (accountId publicKey)).length = hrp.length + 39 := by
  have symbols : (ofBytes (accountId publicKey)).length = 32 :=
    length_ofBytes (by rw [length_accountId])
  rw [length_written, symbols, checksumLength]

/-- The address of a public key is no longer than an address may be. -/
lemma written_short {hrp : String} (hh : HumanReadable hrp) (publicKey) :
    (written hrp.toList (accountId publicKey)).length ≤ lengthLimit := by
  have := hh.short
  rw [length_written_accountId, String.length_toList, lengthLimit]
  omega

/-- Behind a human-readable part the address of a public key is written. -/
lemma encodeAddress_ok {hrp : String} (hh : HumanReadable hrp) (publicKey) :
    encodeAddress hrp publicKey =
      .ok (String.ofList (written hrp.toList (accountId publicKey))) := by
  rw [encodeAddress, if_pos (isHrp_iff_humanReadable.2 hh), encode?_eq,
    if_pos (written_short hh publicKey)]

/-- Behind anything else it is refused for that part. -/
lemma encodeAddress_error {hrp : String} (hh : ¬HumanReadable hrp) (publicKey) :
    encodeAddress hrp publicKey = .error .invalidHrp :=
  if_neg (mt isHrp_iff_humanReadable.1 hh)

/-- A written address is read as its part in lower case and the account. -/
lemma decodeAddress_written {hrp : String} (hh : HumanReadable hrp) (publicKey) :
    decodeAddress (String.ofList (written hrp.toList (accountId publicKey))) =
      .ok (hrp.toLower, accountId publicKey) := by
  have read := decode?_written (isHrp_iff_humanReadable.2 hh) (written_short hh publicKey)
  rw [decodeAddress, String.toList_ofList, read]
  simp only [length_accountId, accountLength, ofList_map_lower, if_true]

/-- The human-readable parts of the known chains are such parts, and in lower case. -/
lemma humanReadable_of_chain {chain hrp} (h : chainHrp? chain = some hrp) :
    HumanReadable hrp ∧ hrp.toLower = hrp := by
  have known : ∀ entry ∈ knownChains,
      isHrp entry.2.toList = true ∧ entry.2.toList.map lower = entry.2.toList := by
    decide
  obtain ⟨before, after, e, _⟩ := List.lookup_eq_some_iff.1 h
  have mem : (chain, hrp) ∈ knownChains := by
    rw [e]
    exact List.mem_append_right before List.mem_cons_self
  obtain ⟨isHrp, small⟩ := known _ mem
  refine ⟨isHrp_iff_humanReadable.1 isHrp, ?_⟩
  rw [← ofList_map_lower, small, String.ofList_toList]

/-- An address is written for every human-readable part of 1 to 83 visible ASCII characters in one
case. It has 39 characters more and no capital letter, and reading it gives back the part in lower
case and the account. No other part is accepted, and nothing else can fail. -/
theorem address_read_back (hrp : String) (publicKey : Bytes) :
    (HumanReadable hrp →
      ∃ a, encodeAddress hrp publicKey = .ok a ∧
        a.length = hrp.length + 39 ∧
        (∀ c ∈ a.toList, c.isUpper = false) ∧
        decodeAddress a = .ok (hrp.toLower, Ripemd160.digest (Sha256.digest publicKey))) ∧
    (¬HumanReadable hrp → encodeAddress hrp publicKey = .error .invalidHrp) ∧
    encodeAddress hrp publicKey ≠ .error .encoding := by
  refine ⟨?_, fun bad => encodeAddress_error bad publicKey, ?_⟩
  · intro hh
    refine ⟨_, encodeAddress_ok hh publicKey, ?_, ?_, decodeAddress_written hh publicKey⟩
    · rw [String.length_ofList, length_written_accountId, String.length_toList]
    · intro c mem
      rw [String.toList_ofList] at mem
      exact isUpper_eq_false_iff.2 (not_isCapital_of_mem_written mem)
  · by_cases hh : HumanReadable hrp
    · rw [encodeAddress_ok hh]
      rintro ⟨⟩
    · rw [encodeAddress_error hh]
      rintro ⟨⟩

end SeedVault
