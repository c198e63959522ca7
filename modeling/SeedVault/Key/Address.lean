import SeedVault.Hash.Ripemd160
import SeedVault.Hash.Sha256
import SeedVault.Key.Bech32
import SeedVault.Text.Decimal

/-!
# Account addresses

An account is named by the RIPEMD-160 digest of the SHA-256 digest of its public key. Its address
is that name as checksummed text behind the human-readable part of a chain.
-/

namespace SeedVault

/-- Chains by their identifiers, each with the human-readable part of its addresses. -/
def knownChains : List (String × String) :=
  [("cosmoshub-4", "cosmos"), ("theta-testnet-001", "cosmos"), ("neutron-1", "neutron"),
   ("pion-1", "neutron"), ("osmosis-1", "osmo"), ("osmo-test-5", "osmo"), ("juno-1", "juno"),
   ("uni-6", "juno"), ("testing", "wasm")]

/-- The human-readable part of a chain. -/
def chainHrp? (chain : String) : Option String := knownChains.lookup chain

/-- Why an address could not be written or read. -/
inductive AddressError where
  | invalidHrp
  | encoding
  | invalidLength (bytes : Nat)
  deriving DecidableEq, Repr

/-- The wording of an error. -/
def AddressError.message : AddressError → String
  | .invalidHrp => "invalid bech32 prefix"
  | .encoding => "invalid bech32 string"
  | .invalidLength n => "expected 20 bytes account id, got " ++ Text.Decimal.text n

/-- The bytes in the name of an account. -/
def accountLength : Nat := 20

/-- The name of the account with a public key. -/
def accountId (publicKey : Bytes) : Bytes := Ripemd160.digest (Sha256.digest publicKey)

/-- The address of a public key behind a human-readable part. -/
def encodeAddress (hrp : String) (publicKey : Bytes) : Except AddressError String :=
  if Bech32.isHrp hrp.toList then
    match Bech32.encode? hrp.toList (accountId publicKey) with
    | some cs => .ok (String.ofList cs)
    | none => .error .encoding
  else .error .invalidHrp

/-- The human-readable part and the account of an address. -/
def decodeAddress (address : String) : Except AddressError (String × Bytes) :=
  match Bech32.decode? address.toList with
  | none => .error .encoding
  | some (hrp, account) =>
    if account.length = accountLength then .ok (String.ofList hrp, account)
    else .error (.invalidLength account.length)

end SeedVault
