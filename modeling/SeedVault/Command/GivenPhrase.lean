import SeedVault.Command.Action
import SeedVault.Command.Machine

/-!
# Work on a phrase that is given
-/

namespace SeedVault.Job

/-- The phrase that is given, or else the input. -/
def phraseText (given : Option String) : Job String := do
  match given with
  | some text => return text
  | none => ofExcept (noting "failed to read from stdin" (fun e => [.io e]) (← get).input)

/-- The phrase in a text. -/
def readPhrase (text : String) : Job Mnemonic :=
  ofExcept (noting "invalid seed phrase" (fun e => [.phrase e]) (Mnemonic.parse text))

/-- Writes a fresh phrase. -/
def generate (c : WordCount) : Job Unit := do
  let m ← drawPhrase c
  print m.phrase

/-- Says how many words a sound phrase has. -/
def validate (given : Option String) : Job Unit := do
  let m ← readPhrase (← phraseText given)
  printJson (.ofFields [("valid", .bool true), ("words", .ofNat m.wordCount.words)])

/-- Writes the keys and the address of a phrase's account. -/
def derive (l : Layout) (given : Option String) (options : DeriveOptions) : Job Unit := do
  let config ← configuration l
  let m ← readPhrase (← phraseText given)
  let path := options.path.getD config.derivationPath
  let d ← ofExcept
    ((AccountDeriver.new path (options.chain.getD config.chainId)).mapError Report.ofDerive)
  let keys ← ofExcept ((d.derive m).mapError Report.ofDerive)
  let encode (bs : Bytes) : Json :=
    .string (if options.base64 then Base64.encode bs else Hex.ofBytes bs)
  printJson (.ofFields
    [("address", .string keys.address), ("chain_id", .string d.chain),
     ("path", .string d.path.text), ("public", encode keys.publicKey),
     ("secret", encode keys.secret.bytes)])

end SeedVault.Job
