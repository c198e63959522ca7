import SeedVault.Bytes.Hex
import SeedVault.Curve.Ecdsa
import SeedVault.Key.Address
import SeedVault.Key.Extended
import SeedVault.Key.Path
import SeedVault.Phrase.Basic
import SeedVault.Text.Decomposition
import SeedVault.Text.Quoted

/-!
# From phrases to accounts

A phrase and a passphrase are stretched into a seed; the passphrase counts in normal form KD. A
`AccountDeriver` walks one path from the seed and writes the address for one chain.
-/

namespace SeedVault

/-- The 64-byte seed of a phrase under a passphrase. -/
def Mnemonic.seed (m : Mnemonic) (passphrase : String) : Bytes :=
  let salt := Text.decompose ("mnemonic".toList ++ passphrase.toList)
  Hmac.stretch Sha512.hash 2047 (Bytes.ofString m.phrase) (Bytes.ofString (String.ofList salt))

/-- Why no account could be derived. -/
inductive DeriveError where
  | unsupportedChain (chain : String)
  | invalidPath
  | invalidKey
  | invalidAddress (cause : AddressError)
  deriving DecidableEq, Repr

/-- The wording of an error. -/
def DeriveError.message : DeriveError → String
  | .unsupportedChain chain => "unsupported chain `" ++ chain ++ "`"
  | .invalidPath => "invalid derivation path"
  | .invalidKey => "derived key is invalid"
  | .invalidAddress _ => "failed to encode address"

/-- The keys of an account with its address. -/
structure KeyPair where
  secret : Secp256k1.SecretKey
  /-- The public key in compressed form. -/
  publicKey : Bytes
  address : String
  deriving DecidableEq

namespace KeyPair

/-- The deterministic signature of a message. -/
def sign? (k : KeyPair) (message : Bytes) : Option Bytes := Ecdsa.sign? k.secret message

/-- What may be shown of the keys: the public key and the address. -/
def redacted (k : KeyPair) : String :=
  "KeyPair \x7b public_key: \"" ++ Hex.ofBytes k.publicKey ++ "\", address: "
    ++ Text.quoted k.address ++ ", .. \x7d"

end KeyPair

/-- A path on a chain. -/
structure AccountDeriver where
  path : DerivationPath
  chain : String
  /-- The human-readable part of the chain's addresses. -/
  hrp : String
  deriving DecidableEq, Repr

namespace AccountDeriver

/-- The deriver for a path on a known chain. -/
def new (path : DerivationPath) (chain : String) : Except DeriveError AccountDeriver :=
  match chainHrp? chain with
  | some hrp => .ok { path, chain, hrp }
  | none => .error (.unsupportedChain chain)

/-- The bytes of a public key in compressed form. -/
def publicKeyLength : Nat := 33

/-- The account of a phrase under a passphrase. -/
def deriveWith (d : AccountDeriver) (m : Mnemonic) (passphrase : String) :
    Except DeriveError KeyPair :=
  match ExtendedKey.derive (m.seed passphrase) d.path.text with
  | .error _ => .error .invalidPath
  | .ok key =>
    match Secp256k1.SecretKey.ofNat? (Bytes.toNat key.secret.bytes) with
    | none => .error .invalidKey
    | some secret =>
      if secret.publicKey.length = publicKeyLength then
        match encodeAddress d.hrp secret.publicKey with
        | .ok address => .ok { secret, publicKey := secret.publicKey, address }
        | .error e => .error (.invalidAddress e)
      else .error .invalidKey

/-- The account of a phrase under the empty passphrase. -/
def derive (d : AccountDeriver) (m : Mnemonic) : Except DeriveError KeyPair :=
  d.deriveWith m ""

end AccountDeriver

/-- The account of a phrase at a path on a chain. -/
def deriveAccount (m : Mnemonic) (path : DerivationPath) (chain : String) :
    Except DeriveError KeyPair := do
  (← AccountDeriver.new path chain).derive m

end SeedVault
