import Mathlib.Algebra.Group.Nat.Defs
import SeedVault.Key.Extended
import SeedVault.Proofs.Bytes.Bits
import SeedVault.Proofs.Key.Path

/-!
# The walk along a path

The text of a path names one child for each step, in their order (`childNumbers?_text`). A seed
leads to a key along the numbers of children if the seed has a master key and every key on the way
has the child (`derive_ok_iff`); it leads astray if one of the numbers that are to be secret keys is
out of range (`derive_error_iff`). Nothing else can happen.
-/

namespace SeedVault

open Secp256k1

/-- The number of the child that a step leads to. -/
def PathStep.childNumber (s : PathStep) : Nat :=
  if s.hardened then s.index + 2 ^ 31 else s.index

namespace Secp256k1

/-- Is a number in the range of secret keys? -/
def InRange (n : Nat) : Prop := 0 < n ∧ n < groupOrder

namespace SecretKey

/-- A secret key is made of its own number. -/
lemma ofNat?_eq_some_iff {n} {k : SecretKey} : ofNat? n = some k ↔ k.number = n := by
  rw [ofNat?]
  split
  case isTrue h =>
    rw [Option.some_inj]
    constructor
    · rintro rfl
      rfl
    · rintro rfl
      rfl
  case isFalse h =>
    refine ⟨nofun, ?_⟩
    rintro rfl
    exact absurd ⟨k.positive, k.inRange⟩ h

/-- No secret key is made of a number out of range. -/
lemma ofNat?_eq_none_iff {n} : ofNat? n = none ↔ ¬InRange n := by
  rw [ofNat?]
  split
  case isTrue h => exact iff_of_false nofun (not_not_intro h)
  case isFalse h => exact iff_of_true rfl h

/-- A secret key is read back from its bytes. -/
lemma ofNat?_bytes (k : SecretKey) : ofNat? (Bytes.toNat k.bytes) = some k := by
  rw [ofNat?_eq_some_iff, bytes, Bytes.toNat_ofNat (Nat.lt_trans k.inRange (by decide))]

end SecretKey

end Secp256k1

namespace ExtendedKey

/-! ## The children that a path names -/

/-- A step with digits in range is read as a number, with the offset if it is marked. -/
lemma childNumber?_eq_some {cs digits marked index}
    (mark : PathStep.splitMark cs = (digits, marked))
    (value : Text.Decimal.read Text.Decimal.max32 digits = .ok index)
    (lt : index < hardenedOffset) :
    childNumber? cs = some (if marked then index + hardenedOffset else index) := by
  rw [PathStep.splitMark] at mark
  rw [childNumber?]
  split at mark
  case h_1 e =>
    cases mark
    simp only [e, value, if_pos lt, if_true]
  case h_2 =>
    cases mark
    simp only [value, if_pos lt]
    rfl

/-- A written step is read as the number of its child. -/
lemma childNumber?_render (s : PathStep) : childNumber? s.render = some s.childNumber :=
  childNumber?_eq_some s.splitMark_render s.read_index s.inRange

/-- The text of a path names the child of each of its steps. -/
lemma childNumbers?_text (p : DerivationPath) :
    childNumbers? p.text = some (p.steps.map PathStep.childNumber) := by
  rw [childNumbers?, DerivationPath.text, String.toList_ofList, DerivationPath.splitAtChar_render]
  simp only
  induction p.steps with
  | nil => rfl
  | cons s steps ih => rw [List.map_cons, List.mapM_cons, childNumber?_render, ih]; rfl

/-! ## Master keys and children -/

section Message

variable (k : ExtendedKey) {number number' : Nat}

/-- The tag of a hardened child is taken of a zero byte, the secret key and the child's number. -/
lemma childMessage_of_hardened (hardened : hardenedOffset ≤ number) :
    k.childMessage number = 0 :: k.secret.bytes ++ Bytes.ofNat 4 number := by
  rw [childMessage, if_pos hardened]

/-- The tag of another child is taken of the public key and the child's number. -/
lemma childMessage_of_normal (normal : number < hardenedOffset) :
    k.childMessage number = k.secret.publicKey ++ Bytes.ofNat 4 number := by
  rw [childMessage, if_neg (Nat.not_le.2 normal)]

/-- A message ends with the number, so that no two children share one. -/
lemma childMessage_inj (lt : number < 2 ^ 32) (lt' : number' < 2 ^ 32)
    (same : k.childMessage number = k.childMessage number') : number = number' := by
  have bytes : Bytes.ofNat 4 number = Bytes.ofNat 4 number' :=
    List.append_inj_right' same (by rw [Bytes.length_ofNat, Bytes.length_ofNat])
  rw [← Bytes.toNat_ofNat (w := 4) lt, bytes, Bytes.toNat_ofNat lt']

end Message

/-- The number that is to be the secret key of a seed. -/
def masterNumber (seed : Bytes) : Nat :=
  Bytes.toNat (halves (Bytes.ofString "Bitcoin seed") seed).1

/-- The number that is to be added to the secret key for a child's. -/
def shift (k : ExtendedKey) (number : Nat) : Nat :=
  Bytes.toNat (halves k.chainCode (k.childMessage number)).1

/-- A key is made of the tag of a seed. -/
structure IsMaster (seed : Bytes) (k : ExtendedKey) : Prop where
  secret : k.secret.number = masterNumber seed
  chainCode : k.chainCode = (halves (Bytes.ofString "Bitcoin seed") seed).2

/-- A key is made of another one and of the tag of a number under it. -/
structure IsChild (k : ExtendedKey) (number : Nat) (c : ExtendedKey) : Prop where
  shift : InRange (k.shift number)
  secret : c.secret.number = (k.shift number + k.secret.number) % groupOrder
  chainCode : c.chainCode = (halves k.chainCode (k.childMessage number)).2

/-- A seed gives a master key exactly if this is the one for it. -/
lemma master?_eq_some_iff {seed k} : master? seed = some k ↔ IsMaster seed k := by
  have master : master? seed = (SecretKey.ofNat? (masterNumber seed)).map fun secret =>
      ⟨secret, (halves (Bytes.ofString "Bitcoin seed") seed).2⟩ := rfl
  rw [master, Option.map_eq_some_iff]
  constructor
  · rintro ⟨secret, h, rfl⟩
    exact ⟨SecretKey.ofNat?_eq_some_iff.1 h, rfl⟩
  · rintro ⟨number, code⟩
    refine ⟨k.secret, SecretKey.ofNat?_eq_some_iff.2 number, ?_⟩
    rw [← code]

/-- A seed gives no master key exactly if its number is out of range. -/
lemma master?_eq_none_iff {seed} : master? seed = none ↔ ¬InRange (masterNumber seed) :=
  Option.map_eq_none_iff.trans SecretKey.ofNat?_eq_none_iff

/-- A child has the sum for its number if both the shift and the sum are in range. -/
lemma child?_eq (k : ExtendedKey) (number) :
    k.child? number =
      (SecretKey.ofNat? (k.shift number)).bind fun shift =>
        (SecretKey.ofNat? ((shift.number + k.secret.number) % groupOrder)).bind fun secret =>
          some ⟨secret, (halves k.chainCode (k.childMessage number)).2⟩ :=
  rfl

/-- A key gives a child exactly if this is the one with the number. -/
lemma child?_eq_some_iff {k : ExtendedKey} {number c} :
    k.child? number = some c ↔ IsChild k number c := by
  rw [child?_eq, Option.bind_eq_some_iff]
  constructor
  · rintro ⟨shift, hs, h⟩
    obtain ⟨secret, sum, ⟨⟩⟩ := Option.bind_eq_some_iff.1 h
    rw [SecretKey.ofNat?_eq_some_iff] at hs sum
    rw [hs] at sum
    exact ⟨hs ▸ ⟨shift.positive, shift.inRange⟩, sum, rfl⟩
  · rintro ⟨⟨positive, inRange⟩, sum, code⟩
    refine ⟨⟨_, positive, inRange⟩, SecretKey.ofNat?_eq_some_iff.2 rfl, ?_⟩
    refine Option.bind_eq_some_iff.2 ⟨c.secret, SecretKey.ofNat?_eq_some_iff.2 sum, ?_⟩
    rw [← code]

/-- A key gives no child exactly if the shift or the sum is out of range. -/
lemma child?_eq_none_iff {k : ExtendedKey} {number} :
    k.child? number = none ↔
      ¬InRange (k.shift number) ∨ ¬InRange ((k.shift number + k.secret.number) % groupOrder) := by
  rw [child?_eq]
  cases h : SecretKey.ofNat? (k.shift number) with
  | none => exact iff_of_true rfl (.inl (SecretKey.ofNat?_eq_none_iff.1 h))
  | some shift =>
    rw [SecretKey.ofNat?_eq_some_iff] at h
    have inRange : InRange (k.shift number) := h ▸ ⟨shift.positive, shift.inRange⟩
    rw [Option.bind_some, h, or_iff_right (not_not_intro inRange), ← SecretKey.ofNat?_eq_none_iff]
    cases SecretKey.ofNat? ((k.shift number + k.secret.number) % groupOrder) with
    | none => exact iff_of_true rfl rfl
    | some secret => exact iff_of_false nofun nofun

/-! ## Whole walks -/

/-- A key leads to another one along some numbers, with a child for each number, in their order. -/
inductive Leads : ExtendedKey → List Nat → ExtendedKey → Prop
  | here {k} : Leads k [] k
  | step {k c key number numbers} (child : IsChild k number c) (rest : Leads c numbers key) :
    Leads k (number :: numbers) key

/-- A key leads astray along some numbers: at one of them what is added, or the sum, is out of
range. -/
inductive Strays : ExtendedKey → List Nat → Prop
  | shift {k : ExtendedKey} {number numbers} (out : ¬InRange (k.shift number)) :
    Strays k (number :: numbers)
  | sum {k : ExtendedKey} {number numbers}
    (out : ¬InRange ((k.shift number + k.secret.number) % groupOrder)) :
    Strays k (number :: numbers)
  | later {k c number numbers} (child : IsChild k number c) (rest : Strays c numbers) :
    Strays k (number :: numbers)

/-- A key gives another one along some numbers exactly if it leads to that. -/
lemma descend?_eq_some_iff {k : ExtendedKey} {numbers key} :
    k.descend? numbers = some key ↔ Leads k numbers key := by
  induction numbers generalizing k with
  | nil =>
    rw [descend?, List.foldlM_nil]
    constructor
    · rintro ⟨⟩
      exact .here
    · rintro ⟨⟩
      rfl
  | cons number numbers ih =>
    rw [descend?, List.foldlM_cons]
    constructor
    · intro h
      obtain ⟨c, child, rest⟩ := Option.bind_eq_some_iff.1 h
      exact .step (child?_eq_some_iff.1 child) (ih.1 rest)
    · rintro (_ | ⟨child, rest⟩)
      exact Option.bind_eq_some_iff.2 ⟨_, child?_eq_some_iff.2 child, ih.2 rest⟩

/-- A key gives none along some numbers exactly if it leads astray. -/
lemma descend?_eq_none_iff {k : ExtendedKey} {numbers} :
    k.descend? numbers = none ↔ Strays k numbers := by
  induction numbers generalizing k with
  | nil => exact iff_of_false nofun nofun
  | cons number numbers ih =>
    rw [descend?, List.foldlM_cons]
    constructor
    · intro h
      cases child : k.child? number with
      | none =>
        rcases child?_eq_none_iff.1 child with out | out
        · exact .shift out
        · exact .sum out
      | some c =>
        rw [child] at h
        exact .later (child?_eq_some_iff.1 child) (ih.1 h)
    · intro h
      cases h with
      | shift out => rw [child?_eq_none_iff.2 (.inl out)]; rfl
      | sum out => rw [child?_eq_none_iff.2 (.inr out)]; rfl
      | later child rest =>
        rw [child?_eq_some_iff.2 child]
        exact ih.2 rest

/-- A seed leads to a key: its master key does. -/
def SeedLeads (seed : Bytes) (numbers : List Nat) (key : ExtendedKey) : Prop :=
  ∃ master, IsMaster seed master ∧ Leads master numbers key

/-- A seed leads astray: it has no master key, or that key leads astray. -/
def SeedStrays (seed : Bytes) (numbers : List Nat) : Prop :=
  ¬InRange (masterNumber seed) ∨ ∃ master, IsMaster seed master ∧ Strays master numbers

/-- A seed gives a key along some numbers exactly if it leads to that. -/
lemma walk?_eq_some_iff {seed numbers key} :
    walk? seed numbers = some key ↔ SeedLeads seed numbers key := by
  simp only [walk?, Option.bind_eq_some_iff, master?_eq_some_iff, descend?_eq_some_iff, SeedLeads]

/-- A seed gives none along some numbers exactly if it leads astray. -/
lemma walk?_eq_none_iff {seed numbers} :
    walk? seed numbers = none ↔ SeedStrays seed numbers := by
  rw [walk?, SeedStrays, ← master?_eq_none_iff]
  cases h : master? seed with
  | none => exact iff_of_true rfl (.inl rfl)
  | some master =>
    rw [Option.bind_some, descend?_eq_none_iff, or_iff_right (Option.some_ne_none master)]
    constructor
    · intro strays
      exact ⟨master, master?_eq_some_iff.1 h, strays⟩
    · rintro ⟨master', h', strays⟩
      rw [← master?_eq_some_iff, h] at h'
      rwa [Option.some.inj h']

/-- Once the text of a path is read, only the numbers that it names decide. -/
lemma derive_eq {seed path numbers} (h : childNumbers? path = some numbers) :
    derive seed path = (walk? seed numbers).elim (.error .outOfRange) .ok := by
  rw [derive, h]

/-- A seed gives the key that it leads to along the numbers that a path names. -/
lemma derive_ok_iff {seed path numbers key} (h : childNumbers? path = some numbers) :
    derive seed path = .ok key ↔ SeedLeads seed numbers key := by
  rw [derive_eq h, ← walk?_eq_some_iff]
  cases walk? seed numbers with
  | none => exact iff_of_false nofun nofun
  | some key => rw [Option.elim_some, Except.ok.injEq, Option.some_inj]

/-- A seed gives no key only if it leads astray along the numbers that a path names. -/
lemma derive_error_iff {seed path numbers e} (h : childNumbers? path = some numbers) :
    derive seed path = .error e ↔ e = .outOfRange ∧ SeedStrays seed numbers := by
  rw [derive_eq h, ← walk?_eq_none_iff]
  cases walk? seed numbers with
  | none => rw [Option.elim_none, Except.error.injEq, eq_comm, and_iff_left rfl]
  | some key => exact iff_of_false nofun nofun

end ExtendedKey

end SeedVault
