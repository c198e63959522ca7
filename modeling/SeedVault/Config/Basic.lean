import SeedVault.Config.Selectors
import SeedVault.Key.Deriver
import SeedVault.Storage.Directory
import SeedVault.Toml.Record
import SeedVault.Url.Parser

/-!
# Configuration

The configuration is a TOML document whose keys override defaults, at three levels: the tool, its
browser runs, and the selectors of elements. Only the selectors may have keys that nobody knows.
-/

namespace SeedVault

open Toml

/-- Settings of browser runs. -/
structure BrowserSettings where
  extensionsDir : Option String := none
  headless : Bool := false
  /-- How long to look for one element, in milliseconds. -/
  stepTimeout : Nat := 10000
  wallet : WalletSelectors := {}
  app : PhrasePageSelectors := {}
  deriving DecidableEq, Repr

/-- The default address of the application. -/
def defaultAppUrl : Url :=
  { scheme := "http", authority := some { host := some (.domain "localhost"), port := some 3000 },
    path := .segments [""] }

/-- The chain of an account, if none is named. -/
def defaultChain : String := "pion-1"

/-- The tool's configuration. -/
structure Configuration where
  chainId : String := defaultChain
  derivationPath : DerivationPath := default
  appUrl : Url := defaultAppUrl
  browser : BrowserSettings := {}
  deriving DecidableEq, Repr

/-- Why there is no configuration. -/
inductive ConfigError where
  | unreadable (cause : IoError)
  | malformed (cause : Misfit) (document : String)
  deriving DecidableEq, Repr

namespace Configuration

/-- A field of a record of selectors. -/
def selectorField {α : Type} (f : TextField α) : RecordField α :=
  { name := f.name
    override := fun _ v r => return f.set (← v.readText "a string") r }

/-- A span of time: milliseconds as a number or as a text. -/
def readSpan (around : Nat) (v : Value) : Except Misfit Nat :=
  match v with
  | .text s _ =>
    match Text.Decimal.read Text.Decimal.max64 s.toList with
    | .ok n => .ok n
    | .error e => .error (.contents e.message around)
  | .integer (.ofNat n) _ => .ok n
  | v =>
    match v.innerFault? with
    | some m => .error m
    | none =>
      .error (.contents "data did not match any variant of untagged enum StringOrNumber" around)

/-- A derivation path. -/
def readPath (around : Nat) (v : Value) : Except Misfit DerivationPath := do
  let s ← v.readText "a string"
  match DerivationPath.parse s with
  | .ok p => return p
  | .error e => throw (.contents e.message around)

/-- The address of a resource. -/
def readUrl (v : Value) : Except Misfit Url := do
  let s ← v.readText "a string representing an URL"
  match Url.parse s with
  | .ok u => return u
  | .error e =>
    throw (.contents ("invalid value: string " ++ Text.quoted s ++ ", expected " ++ e.message)
      v.start)

/-- The selectors of the wallet's pages. -/
def walletKind : RecordKind WalletSelectors :=
  { name := "KeplrSelectors", fields := WalletSelectors.fields.map selectorField, strict := false }

/-- The selectors of the application's page. -/
def appKind : RecordKind PhrasePageSelectors :=
  { name := "AppSelectors"
    fields := PhrasePageSelectors.fields.map selectorField
    strict := false }

/-- The settings of browser runs. -/
def browserKind : RecordKind BrowserSettings :=
  { name := "AppConfigHarness"
    strict := true
    fields :=
      [⟨"extensions_dir", fun _ v r =>
        return { r with extensionsDir := some (← v.readText "path string") }⟩,
       ⟨"headless", fun _ v r => return { r with headless := ← v.readBool }⟩,
       ⟨"step_timeout", fun around v r =>
        return { r with stepTimeout := ← readSpan around v }⟩,
       ⟨"keplr", fun around v r => return { r with wallet := ← walletKind.read around {} v }⟩,
       ⟨"app", fun around v r => return { r with app := ← appKind.read around {} v }⟩] }

/-- The whole configuration. -/
def kind : RecordKind Configuration :=
  { name := "AppConfig"
    strict := true
    fields :=
      [⟨"chain_id", fun _ v r => return { r with chainId := ← v.readText "a string" }⟩,
       ⟨"derivation_path", fun around v r =>
        return { r with derivationPath := ← readPath around v }⟩,
       ⟨"app_url", fun _ v r => return { r with appUrl := ← readUrl v }⟩,
       ⟨"harness", fun around v r =>
        return { r with browser := ← browserKind.read around {} v }⟩] }

/-- The configuration a document spells. -/
def parse (document : String) : Except Misfit Configuration := do
  let v ← (Toml.parse document).mapError .ofError
  kind.read v.start {} v

/-- The configuration in a file. -/
def load (content : Except IoError Bytes) : Except ConfigError Configuration :=
  match content with
  | .error e => .error (.unreadable e)
  | .ok bytes =>
    match Bytes.toString? bytes with
    | none => .error (.unreadable .invalidData)
    | some document => (parse document).mapError fun m => .malformed m document

/-- The configuration in a file; without the file, the defaults. -/
def ofFileOrDefault (content : Except IoError Bytes) : Except ConfigError Configuration :=
  match content with
  | .error .notFound => .ok {}
  | .error .notADirectory => .ok {}
  | .error .invalidFilename => .ok {}
  | content => load content

/-- The deriver that the configuration asks for. -/
def deriver (c : Configuration) : Except DeriveError AccountDeriver :=
  AccountDeriver.new c.derivationPath c.chainId

end Configuration

end SeedVault
