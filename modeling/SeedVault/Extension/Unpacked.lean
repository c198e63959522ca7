import SeedVault.Bytes.Hex
import SeedVault.Report.Basic

/-!
# Bundles of the browser's extension

An unpacked extension of a version lies in a directory named for both. Its manifest must name the
same version. The browser gives the extension an id of 32 letters, the first half of a SHA-256
digest: of the key in the manifest, if there is one, and of the directory's path otherwise.
-/

namespace SeedVault

/-- An unpacked extension. -/
structure UnpackedExtension where
  /-- The straight path of its directory. -/
  directory : String
  version : String
  key : Option String
  deriving DecidableEq, Repr

namespace UnpackedExtension

/-- What is wanted of a manifest. -/
def manifestShape : Json.Shape :=
  .record "Manifest" [("version", .text, true), ("key", .optionalText, false)]

/-- The version and the key in a manifest. -/
def readManifest (content : Except IoError String) : Except Report (String × Option String) :=
  let note := "failed to parse extension manifest"
  match content with
  | .error e => .error [.note note, .manifest ⟨[], .unreadable e.message, 0⟩ ""]
  | .ok text =>
    match manifestShape.read text.toList with
    | .error m => .error [.note note, .manifest m text]
    | .ok (v, _) =>
      .ok (((v.field? "version").bind Json.string?).getD "", (v.field? "key").bind Json.string?)

/-- The text of a file, which may turn out to be none. -/
def textOf : Node → Except IoError String
  | .file _ content =>
    match Bytes.toString? content with
    | some text => .ok text
    | none => .error .invalidData
  | .folder _ _ => .error .isADirectory

/-- The manifest in a bundle's directory. -/
def openManifest (bundle : Node) : Except Report Node :=
  let opened : Except IoError Node :=
    match bundle with
    | .file _ _ => .error .notADirectory
    | .folder mode entries => Directory.lookup ⟨mode, entries⟩ "manifest.json"
  opened.mapError fun e => [.note "failed to open extension manifest", .io e]

/-- The bundle of a version below a directory; a relative path starts at `current`. -/
def locate (tree : Directory) (current : List String) (directory name version : String) :
    Except Report UnpackedExtension := do
  let path := joinPath directory (name ++ "-" ++ version)
  let (names, bundle) ← noting ("extension bundle not found at " ++ path) (fun e => [.io e])
    (tree.trace (pathFrom current path))
  let manifest ← openManifest bundle
  let (found, key) ← readManifest (textOf manifest)
  if found = version then
    return { directory := "/" ++ "/".intercalate names, version := found, key }
  else
    throw [.note ("pinned " ++ name ++ " version is " ++ version ++ ", bundle has " ++ found)]

/-- The letter of a digit. -/
def idLetter (n : Nat) : Char := Char.ofNat ('a'.toNat + n)

/-- Hexadecimal text with letters for its digits. -/
def encodeId (bs : Bytes) : String :=
  String.ofList <| (Hex.encode bs).map fun c =>
    match Hex.value? c with
    | some d => idLetter d
    | none => c

/-- The bytes whose digest names the extension. -/
def idSource (b : UnpackedExtension) : Except Base64.Fault Bytes :=
  match b.key with
  | some key => Base64.decode (Bytes.ofString (Text.trimmed key))
  | none => .ok (Bytes.ofString b.directory)

/-- The id the browser gives the extension. -/
def id (b : UnpackedExtension) : Except Report String := do
  let source ← noting "invalid manifest key" (fun e => [.base64 e]) b.idSource
  return encodeId ((Sha256.digest source).take 16)

end UnpackedExtension

end SeedVault
