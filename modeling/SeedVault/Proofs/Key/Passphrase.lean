import SeedVault.Key.Deriver
import SeedVault.Proofs.Text.NormalForm

/-!
# Passphrases in normal form

The seed depends on the normal form KD of the passphrase only. The form is taken of the salt, which
has the passphrase behind some letters; since nothing moves in front of a letter, the salt is these
letters in front of the passphrase's form (`Mnemonic.seed_eq`), also where the passphrase starts
with combining marks.
-/

namespace SeedVault

open Text (normalForm normalForm_normalForm normalForm_small)

namespace Hmac

variable {H : BlockHash} {size : Nat}

/-- Tags are as long as what the hash function puts out. -/
lemma length_tag (sized : ∀ s, (H.output s).length = size) (k : Hmac H) (message) :
    (k.tag message).length = size :=
  sized _

/-- A chain of hashes is as long as each of them. -/
lemma length_chain (sized : ∀ s, (H.output s).length = size) (k : Hmac H) (n u) {sum : Bytes}
    (full : sum.length = size) : (k.chain n u sum).length = size := by
  induction n generalizing u sum with
  | zero => exact full
  | succ n ih =>
    refine ih (k.tag u) ?_
    rw [List.length_zipWith, full, length_tag sized, Nat.min_self]

/-- A stretched password is as long as a hash. -/
lemma length_stretch (sized : ∀ s, (H.output s).length = size) (rounds password salt) :
    (stretch H rounds password salt).length = size :=
  length_chain sized _ _ _ (length_tag sized _ _)

end Hmac

namespace Mnemonic

/-- A seed has sixty-four bytes. -/
lemma length_seed (m : Mnemonic) (p) : (m.seed p).length = 64 := by
  refine Hmac.length_stretch (fun s => ?_) _ _ _
  simp [Sha512.hash, Sha512.State.bytes, Sha512.State.words]

/-- The salt is some letters and the normal form of the passphrase. -/
lemma seed_eq (m : Mnemonic) (p) :
    m.seed p = Hmac.stretch Sha512.hash 2047 (Bytes.ofString m.phrase)
      (Bytes.ofString ("mnemonic" ++ normalForm p)) := by
  have all : "mnemonic".toList.all (fun c => c.toNat < 0xa0) = true := by decide
  have letters : ∀ c ∈ "mnemonic".toList, c.toNat < 0xa0 := fun c mem =>
    of_decide_eq_true (List.all_eq_true.1 all c mem)
  have salt : String.ofList (Text.decompose ("mnemonic".toList ++ p.toList)) =
      "mnemonic" ++ normalForm p := by
    rw [Text.decompose_append letters, String.ofList_append, String.ofList_toList, normalForm]
  rw [seed, salt]

end Mnemonic

/-- The normal form KD of a passphrase stands for it: a seed of 64 bytes is stretched out of the
phrase with that form behind some letters, and so passphrases of one normal form lead to one seed,
and whatever the path and the chain to the same account or the same error. A passphrase of
characters below those that are ever decomposed is its own normal form. -/
theorem passphrases_count_in_normal_form (d : AccountDeriver) (m : Mnemonic) :
    (∀ p, m.seed p = Hmac.stretch Sha512.hash 2047 (Bytes.ofString m.phrase)
        (Bytes.ofString ("mnemonic" ++ normalForm p)) ∧
      (m.seed p).length = 64 ∧ m.seed (normalForm p) = m.seed p ∧
      d.deriveWith m (normalForm p) = d.deriveWith m p) ∧
    (∀ p q, normalForm p = normalForm q →
      m.seed p = m.seed q ∧ d.deriveWith m p = d.deriveWith m q) ∧
    (∀ p, normalForm (normalForm p) = normalForm p) ∧
    ∀ p : String, (∀ c ∈ p.toList, c.toNat < 0xa0) → normalForm p = p := by
  have same : ∀ p q, normalForm p = normalForm q →
      m.seed p = m.seed q ∧ d.deriveWith m p = d.deriveWith m q := by
    intro p q forms
    have seeds : m.seed p = m.seed q := by rw [m.seed_eq, m.seed_eq, forms]
    exact ⟨seeds, by rw [AccountDeriver.deriveWith, AccountDeriver.deriveWith, seeds]⟩
  refine ⟨fun p => ?_, same, normalForm_normalForm, fun p => normalForm_small⟩
  exact ⟨m.seed_eq p, m.length_seed p, same _ p (normalForm_normalForm p)⟩

/-- A passphrase in wide letters counts as the one in narrow letters. -/
theorem wide_passphrase_counts_as_narrow :
    let d : AccountDeriver := ⟨default, "pion-1", "neutron"⟩
    let m : Mnemonic :=
      ⟨"legal winner thank year wave sausage worth useful legal winner thank yellow",
        List.replicate 16 127⟩
    AccountDeriver.new default "pion-1" = .ok d ∧
    normalForm "ＴＲＥＺＯＲ" = "TREZOR" ∧ normalForm "TREZOR" = "TREZOR" ∧
    m.seed "ＴＲＥＺＯＲ" = Hmac.stretch Sha512.hash 2047 (Bytes.ofString m.phrase)
      (Bytes.ofString "mnemonicTREZOR") ∧
    m.seed "ＴＲＥＺＯＲ" = m.seed "TREZOR" ∧
    d.deriveWith m "ＴＲＥＺＯＲ" = d.deriveWith m "TREZOR" := by
  intro d m
  have all : "TREZOR".toList.all (fun c => 0x21 ≤ c.toNat ∧ c.toNat < 0x7f) = true := by decide
  have printable : ∀ c ∈ "TREZOR".toList, 0x21 ≤ c.toNat ∧ c.toNat < 0x7f := fun c mem =>
    of_decide_eq_true (List.all_eq_true.1 all c mem)
  have spelled : "ＴＲＥＺＯＲ".toList = "TREZOR".toList.map Text.wide := by decide
  obtain ⟨seeds, same, _, small⟩ := passphrases_count_in_normal_form d m
  have narrow : normalForm "TREZOR" = "TREZOR" :=
    small "TREZOR" fun c mem => Nat.lt_trans (printable c mem).2 (by decide)
  have wide : normalForm "ＴＲＥＺＯＲ" = "TREZOR" := by
    rw [normalForm, spelled, Text.decompose_wide printable, String.ofList_toList]
  have salted := (seeds "ＴＲＥＺＯＲ").1
  rw [wide] at salted
  exact ⟨by rfl, wide, narrow, salted, same _ _ (wide.trans narrow.symm)⟩

end SeedVault
