import SeedVault.Command.Run

/-!
# Processes that share a root

The tool is run as one process after the other. All that is kept from one to the next are the files
of the machine. The configuration may be another one for each process, and so may all else that a
process can look at.
-/

namespace SeedVault

/-- A process: its arguments, its configuration, and the machine that it is run on but for the
files. -/
structure Process where
  args : List String
  /-- What the file of the configuration holds, if there is one. -/
  document : Option Bytes := none
  /-- The directory at which relative paths start. -/
  current : List String := []
  environment : String → Option String := fun _ => none
  input : Except IoError String := .ok ""
  entropy : EntropySource
  network : Network

namespace Process

/-- The files with the configuration of the process, which is in the directory that the names of the
root lead to. -/
def configure (p : Process) (root : List String) (files : Directory) : Directory :=
  files.modify root fun d =>
    match p.document with
    | some content => d.put "config.toml" (.file 0o644 content)
    | none => d.erase "config.toml"

/-- The machine on which the process begins. -/
def machine (p : Process) (root : List String) (files : Directory) : Machine :=
  { files := p.configure root files, current := p.current, environment := p.environment,
    input := p.input, entropy := p.entropy, network := p.network }

/-- Runs the process; says whether it went well, and gives the machine behind it. -/
def run (p : Process) (root : List String) (files : Directory) : Bool × Machine :=
  (p.machine root files).run p.args

/-- The files behind processes that are run one after the other. -/
def runAll (ps : List Process) (root : List String) (files : Directory) : Directory :=
  match ps with
  | [] => files
  | p :: ps => runAll ps root (p.run root files).2.files

end Process

end SeedVault
