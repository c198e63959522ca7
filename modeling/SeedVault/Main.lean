import SeedVault.Command.Run

/-!
# The program

Reads what lies below the root into a machine, runs the tool on it, writes back what the run has
changed in the stores, and passes on what it has written. No server can be reached from here, so
that every request is refused.
-/

namespace SeedVault.Program

/-- The bytes of a file as they are on disk. -/
def readBytes (path : String) : IO Bytes := do
  return (← IO.FS.readBinFile path).toList

/-- What is at a path on disk, down to a depth. -/
def readNode (depth : Nat) (path : String) : IO (Option Node) := do
  match depth with
  | 0 => return none
  | depth + 1 =>
    let place := (← IO.currentDir) / path
    if !(← place.pathExists) then return none
    else if ← place.isDir then
      let mut entries := []
      for entry in ← place.readDir do
        if let some n ← readNode depth (joinPath path entry.fileName) then
          entries := entries ++ [(entry.fileName, n)]
      return some (.folder ownerFolder entries)
    else return some (.file ownerFile (← readBytes path))

/-- How deep the root is read: the manifests of the extensions and the stores' files are there. -/
def readDepth : Nat := 4

/-- The files with what is on disk at a path. -/
def loadFrom (files : Directory) (current : List String) (path : String) : IO Directory := do
  match ← readNode readDepth path with
  | some (.folder mode entries) =>
    let names := pathFrom current path
    return (files.makeAll names).2.update names fun _ => ⟨mode, entries⟩
  | _ => return files

/-- Writes a file of the owner alone, under another name first, so that it is there as a whole or
not at all. -/
def replaceFile (directory name : String) (content : Bytes) : IO Unit := do
  let temporary := joinPath directory (temporaryName name)
  IO.FS.writeBinFile temporary ⟨content.toArray⟩
  IO.setAccessRights temporary { user := { read := true, write := true } }
  IO.FS.rename temporary (joinPath directory name)

/-- Gives a directory to the owner alone. -/
def closeFolder (path : String) : IO Unit :=
  IO.setAccessRights path { user := { read := true, write := true, execution := true } }

/-- Makes the directories along a path that are missing, each for the owner alone. -/
def makeFolders (above : String) : List String → IO Unit
  | [] => return ()
  | name :: names => do
    let path := above ++ "/" ++ name
    if !(← ((← IO.currentDir) / path).pathExists) then
      IO.FS.createDirAll path
      closeFolder path
    makeFolders path names

/-- Brings a directory on disk from what it was to what it has become. -/
partial def writeBack (path : String) (before after : Directory) : IO Unit := do
  for (name, _) in before.entries do
    if (after.get? name).isNone then IO.FS.removeFile (joinPath path name)
  for (name, n) in after.entries do
    match n, before.get? name with
    | .file _ new, some (.file _ old) => if new ≠ old then replaceFile path name new
    | .file _ new, _ => replaceFile path name new
    | .folder mode entries, some (.folder oldMode old) =>
      writeBack (joinPath path name) ⟨oldMode, old⟩ ⟨mode, entries⟩
    | .folder mode entries, _ =>
      let place := joinPath path name
      makeFolders "" (pathNames place)
      writeBack place .empty ⟨mode, entries⟩

/-- The text on the standard input. -/
def readInput : IO (Except IoError String) := do
  let bytes ← (← IO.getStdin).readBinToEnd
  return match String.fromUTF8? bytes with
    | some text => .ok text
    | none => .error .invalidData

/-- The variables that a run may look at. -/
def readVariables : IO (List (String × String)) :=
  Machine.variableNames.filterMapM fun name => do
    return (← IO.getEnv name).map (name, ·)

/-- The machine without files. -/
def bareMachine (reads : Bool) : IO Machine := do
  let current := pathNames (← IO.currentDir).toString
  let known ← readVariables
  let random ← IO.getRandomBytes 256
  let input ← if reads then readInput else pure (.ok "")
  return {
    files := (Directory.empty.makeAll current).2
    current
    environment := fun name => known.lookup name
    input
    entropy := { supply := fun i => random.get! i }
    network := { listens := fun _ => false, replies := fun _ => .lost } }

/-- The machine with the files below a root, and those below the configured extensions' directory
if it is elsewhere. -/
def loadMachine (l : Layout) (reads : Bool) : IO Machine := do
  let m ← bareMachine reads
  let files ← loadFrom m.files m.current l.root
  let content := files.readFile (pathFrom m.current l.appConfig)
  let files ←
    match (Configuration.ofFileOrDefault content).toOption.bind (·.browser.extensionsDir) with
    | some elsewhere => loadFrom files m.current elsewhere
    | none => pure files
  return { m with files }

/-- Runs the tool on a machine whose files lie below a root, and keeps what it changed there. -/
def runAt (l : Layout) (args : List String) (m : Machine) : IO (Bool × Machine) := do
  let (good, after) := m.run args
  let storage := pathFrom m.current l.storageDir
  if let .ok d := after.files.findFolder storage then
    makeFolders "" storage
    let before := (m.files.findFolder storage).toOption.getD .empty
    writeBack ("/" ++ "/".intercalate storage) before d
  return (good, after)

/-- Runs the tool. -/
def run (args : List String) : IO (Bool × Machine) := do
  match Action.command.parse args with
  | .error _ => return (← bareMachine false).run args
  | .ok (action, g) =>
    let l := (← bareMachine false).layout (g.value? "root")
    runAt l args (← loadMachine l action.readsInput)

end SeedVault.Program

/-- Runs the tool on the arguments of the program. -/
def main (args : List String) : IO UInt32 := do
  let (good, m) ← SeedVault.Program.run args
  IO.print m.output
  IO.eprint m.messages
  return if good then 0 else 1
