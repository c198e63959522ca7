import SeedVault.Key.Deriver
import SeedVault.Proofs.Curve.Order
import SeedVault.Proofs.Key.Address
import SeedVault.Proofs.Key.Walk

/-!
# Accounts along a path

An account is derived from a phrase unless the phrase's seed leads astray along the path
(`derives_along_path`): its key is the one the seed leads to, and nothing behind the walk fails. The
chain has no part in the walk. It decides only what is written in front of the address
(`chain_selects_prefix`).
-/

namespace SeedVault

open ExtendedKey (SeedLeads SeedStrays childNumbers?)

/-- The keys of a secret key with the address behind a human-readable part. -/
def KeyPair.ofSecret (hrp : String) (secret : Secp256k1.SecretKey) : KeyPair :=
  { secret
    publicKey := secret.publicKey
    address := String.ofList (Bech32.written hrp.toList (accountId secret.publicKey)) }

/-- The keys of a secret key are its public key and the address of that. -/
lemma KeyPair.ofSecret_eq_iff {hrp secret} {k : KeyPair} (hh : HumanReadable hrp) :
    KeyPair.ofSecret hrp secret = k ↔
      k.secret = secret ∧ k.publicKey = secret.publicKey ∧
        encodeAddress hrp secret.publicKey = .ok k.address := by
  rw [encodeAddress_ok hh, Except.ok.injEq]
  constructor
  · rintro rfl
    exact ⟨rfl, rfl, rfl⟩
  · rintro ⟨hs, hp, ha⟩
    rw [ofSecret, ha, ← hp, ← hs]

namespace AccountDeriver

variable {path : DerivationPath} {chain : String} {d : AccountDeriver}

/-- A deriver is made for a known chain, with the prefix of its addresses. -/
lemma new_ok_iff :
    new path chain = .ok d ↔ d.path = path ∧ d.chain = chain ∧ chainHrp? chain = some d.hrp := by
  rw [new]
  cases chainHrp? chain with
  | none => exact iff_of_false nofun nofun
  | some hrp =>
    rw [Except.ok.injEq, Option.some_inj]
    constructor
    · rintro rfl
      exact ⟨rfl, rfl, rfl⟩
    · rintro ⟨rfl, rfl, rfl⟩
      rfl

/-- Without a key there is no valid path. -/
lemma deriveWith_error {m : Mnemonic} {passphrase e}
    (h : ExtendedKey.derive (m.seed passphrase) d.path.text = .error e) :
    d.deriveWith m passphrase = .error .invalidPath := by
  rw [deriveWith, h]

/-- Nothing fails once there is a key. -/
lemma deriveWith_ok {m : Mnemonic} {passphrase key} (hh : HumanReadable d.hrp)
    (h : ExtendedKey.derive (m.seed passphrase) d.path.text = .ok key) :
    d.deriveWith m passphrase = .ok (KeyPair.ofSecret d.hrp key.secret) := by
  have full : key.secret.publicKey.length = publicKeyLength := key.secret.length_publicKey
  rw [deriveWith, h]
  simp only [Secp256k1.SecretKey.ofNat?_bytes]
  rw [if_pos full, encodeAddress_ok hh]
  rfl

/-- The text of the path spells its steps, and the walk takes one child for each of them, in their
order: for an index the child with that number, for a hardened one the child `2 ^ 31` further on. An
account is derived exactly if the seed leads to a key that way, and it is that key's. No account is
derived exactly if a number that is to be a secret key or to make one is out of range on the way,
and then the error is the one of the walk. -/
theorem derives_along_path (h : new path chain = .ok d) (m : Mnemonic) (passphrase : String) :
    d.path.text = DerivationPath.spelling path.steps ∧
    childNumbers? d.path.text = some (path.steps.map PathStep.childNumber) ∧
    (∀ k, d.deriveWith m passphrase = .ok k ↔
      ∃ key, SeedLeads (m.seed passphrase) (path.steps.map PathStep.childNumber) key ∧
        k.secret = key.secret ∧ k.publicKey = key.secret.publicKey ∧
        encodeAddress d.hrp key.secret.publicKey = .ok k.address) ∧
    ∀ e, d.deriveWith m passphrase = .error e ↔
      e = .invalidPath ∧
        SeedStrays (m.seed passphrase) (path.steps.map PathStep.childNumber) := by
  obtain ⟨rfl, rfl, known⟩ := new_ok_iff.1 h
  have hh := (humanReadable_of_chain known).1
  have numbers := ExtendedKey.childNumbers?_text d.path
  refine ⟨d.path.text_eq_spelling, numbers, ?_, ?_⟩
  · intro k
    simp only [← ExtendedKey.derive_ok_iff numbers]
    cases walk : ExtendedKey.derive (m.seed passphrase) d.path.text with
    | error e =>
      rw [deriveWith_error walk]
      exact iff_of_false nofun nofun
    | ok key =>
      rw [deriveWith_ok hh walk, Except.ok.injEq, KeyPair.ofSecret_eq_iff hh]
      simp only [Except.ok.injEq, exists_eq_left']
  · intro e
    cases walk : ExtendedKey.derive (m.seed passphrase) d.path.text with
    | error f =>
      have strays := ((ExtendedKey.derive_error_iff numbers).1 walk).2
      rw [deriveWith_error walk, Except.error.injEq, eq_comm, and_iff_left strays]
    | ok key =>
      rw [deriveWith_ok hh walk]
      refine iff_of_false nofun fun h => ?_
      rw [(ExtendedKey.derive_error_iff numbers).2 ⟨rfl, h.2⟩] at walk
      cases walk

/-- The account at the default path, whichever way the seed goes. -/
theorem default_account_follows_path :
    let d : AccountDeriver := ⟨default, "pion-1", "neutron"⟩
    let m : Mnemonic :=
      ⟨"legal winner thank year wave sausage worth useful legal winner thank yellow",
        List.replicate 16 127⟩
    let numbers := [2 ^ 31 + 44, 2 ^ 31 + 118, 2 ^ 31, 0, 0]
    new default "pion-1" = .ok d ∧
    d.path.text = "m/44'/118'/0'/0/0" ∧ childNumbers? d.path.text = some numbers ∧
    ((∃ k key, d.deriveWith m "TREZOR" = .ok k ∧ SeedLeads (m.seed "TREZOR") numbers key ∧
        k.secret = key.secret ∧ encodeAddress "neutron" k.publicKey = .ok k.address) ∨
      d.deriveWith m "TREZOR" = .error .invalidPath ∧ SeedStrays (m.seed "TREZOR") numbers) := by
  intro d m numbers
  have known : new default "pion-1" = .ok d := by rfl
  obtain ⟨spelled, named, gives, failed⟩ := derives_along_path known m "TREZOR"
  refine ⟨known, spelled.trans (by decide), named, ?_⟩
  cases derived : d.deriveWith m "TREZOR" with
  | ok k =>
    obtain ⟨key, leads, secret, publicKey, address⟩ := (gives k).1 derived
    exact .inl ⟨k, key, rfl, leads, secret, publicKey ▸ address⟩
  | error e =>
    obtain ⟨rfl, strays⟩ := (failed e).1 derived
    exact .inr ⟨rfl, strays⟩

/-- Two chains give the same account: derivation fails for both, and with the same error, or for
none, and then secret and public key are the same. Each address is read as the human-readable part
of its chain and the account of the public key, and so the addresses are the same exactly if the
parts are. -/
theorem chain_selects_prefix {c₁ c₂ : String} {d₁ d₂ : AccountDeriver}
    (h₁ : new path c₁ = .ok d₁) (h₂ : new path c₂ = .ok d₂) (m : Mnemonic) (passphrase : String) :
    (∃ e, d₁.deriveWith m passphrase = .error e ∧ d₂.deriveWith m passphrase = .error e) ∨
    ∃ k₁ k₂ hrp₁ hrp₂,
      d₁.deriveWith m passphrase = .ok k₁ ∧ d₂.deriveWith m passphrase = .ok k₂ ∧
      chainHrp? c₁ = some hrp₁ ∧ chainHrp? c₂ = some hrp₂ ∧
      k₁.secret = k₂.secret ∧ k₁.publicKey = k₂.publicKey ∧
      decodeAddress k₁.address = .ok (hrp₁, Ripemd160.digest (Sha256.digest k₁.publicKey)) ∧
      decodeAddress k₂.address = .ok (hrp₂, Ripemd160.digest (Sha256.digest k₂.publicKey)) ∧
      (k₁.address = k₂.address ↔ hrp₁ = hrp₂) := by
  obtain ⟨rfl, rfl, known₁⟩ := new_ok_iff.1 h₁
  obtain ⟨same, rfl, known₂⟩ := new_ok_iff.1 h₂
  obtain ⟨hh₁, small₁⟩ := humanReadable_of_chain known₁
  obtain ⟨hh₂, small₂⟩ := humanReadable_of_chain known₂
  cases walk : ExtendedKey.derive (m.seed passphrase) d₁.path.text with
  | error e => exact .inl ⟨.invalidPath, deriveWith_error walk, deriveWith_error (same ▸ walk)⟩
  | ok key =>
    have read₁ := decodeAddress_written hh₁ key.secret.publicKey
    have read₂ := decodeAddress_written hh₂ key.secret.publicKey
    rw [small₁] at read₁
    rw [small₂] at read₂
    refine .inr ⟨_, _, _, _, deriveWith_ok hh₁ walk, deriveWith_ok hh₂ (same ▸ walk), known₁,
      known₂, rfl, rfl, read₁, read₂, ?_⟩
    constructor
    · intro address
      -- one text is not read as two different parts
      have once := read₁.symm.trans ((congrArg decodeAddress address).trans read₂)
      exact congrArg Prod.fst (Except.ok.inj once)
    · intro hrp
      rw [hrp]

/-- The account of one phrase on two chains, whichever way its seed goes. -/
theorem default_account_on_two_chains :
    let hub : AccountDeriver := ⟨default, "cosmoshub-4", "cosmos"⟩
    let pion : AccountDeriver := ⟨default, "pion-1", "neutron"⟩
    let m : Mnemonic :=
      ⟨"legal winner thank year wave sausage worth useful legal winner thank yellow",
        List.replicate 16 127⟩
    new default "cosmoshub-4" = .ok hub ∧ new default "pion-1" = .ok pion ∧
    ((∃ e, hub.deriveWith m "" = .error e ∧ pion.deriveWith m "" = .error e) ∨
      ∃ k₁ k₂, hub.deriveWith m "" = .ok k₁ ∧ pion.deriveWith m "" = .ok k₂ ∧
        k₁.secret = k₂.secret ∧ k₁.publicKey = k₂.publicKey ∧ k₁.address ≠ k₂.address) := by
  intro hub pion m
  have onHub : new default "cosmoshub-4" = .ok hub := by rfl
  have onPion : new default "pion-1" = .ok pion := by rfl
  have selects := chain_selects_prefix onHub onPion m ""
  refine ⟨onHub, onPion, selects.imp id ?_⟩
  rintro ⟨k₁, k₂, hrp₁, hrp₂, ok₁, ok₂, known₁, known₂, secret, publicKey, _, _, address⟩
  refine ⟨k₁, k₂, ok₁, ok₂, secret, publicKey, mt address.1 ?_⟩
  cases known₁
  cases known₂
  decide

end AccountDeriver

end SeedVault
