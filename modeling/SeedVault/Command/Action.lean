import SeedVault.Command.Grammar
import SeedVault.Key.Path
import SeedVault.Phrase.WordCount

/-!
# Commands of the tool

There are three groups of commands: some work on a phrase that they are given, some on the phrase
that is kept for the application, and one runs scenarios.
-/

namespace SeedVault

/-- What is run against the application and the wallet's extension. -/
inductive TrialChoice where
  | walletImport
  | seedPhrase
  | all
  deriving DecidableEq, Repr

namespace TrialChoice

/-- Are there scenarios for seed phrases among it? -/
def hasSeedPhrase (c : TrialChoice) : Bool := c != walletImport

/-- The choice that a name stands for. -/
def parse : String → Except String TrialChoice
  | "import" => .ok walletImport
  | "seed-phrase" => .ok seedPhrase
  | "all" => .ok all
  | name =>
    .error ("unknown scenario \x60" ++ name ++ "\x60, expected import, seed-phrase or all")

end TrialChoice

/-- What a phrase is derived with: the path and the chain are the configured ones if none are
given. -/
structure DeriveOptions where
  path : Option DerivationPath := none
  chain : Option String := none
  base64 : Bool := false
  deriving DecidableEq, Repr

/-- What the tool is told to do. A phrase that is not given comes from the input. -/
inductive Action where
  | generate (count : WordCount)
  | validate (phrase : Option String)
  | derive (phrase : Option String) (options : DeriveOptions)
  | keep (phrase : Option String)
  | showKept
  | forget
  | tryOut (choice : TrialChoice) (inProcess : Bool)
  deriving DecidableEq, Repr

namespace Action

/-- Does the action take its phrase from the input? -/
def readsInput : Action → Bool
  | validate phrase => phrase.isNone
  | derive phrase _ => phrase.isNone
  | _ => false

/-- The value of an option that must be read. -/
def checked {α : Type} (read : String → Except String α) (s : String) : Except String Unit :=
  (read s).map fun _ => ()

/-- A number of words. -/
def readCount (s : String) : Except String WordCount :=
  match WordCount.parse s with
  | some c => .ok c
  | none => .error WordCount.expectation

/-- A derivation path. -/
def readPath (s : String) : Except String DerivationPath :=
  (DerivationPath.parse s).mapError (·.message)

/-- Any text. -/
def readText (s : String) : Except String String := .ok s

/-- What is read from the value of an option, if it is given. -/
def valueOf {α : Type} (read : String → Except String α) (name : String) (g : Given) :
    Option α := (g.value? name).bind fun s => (read s).toOption

/-- The argument that holds a phrase. -/
def phraseArgument : CommandArgument :=
  { name := "seed", about := "seed phrase or empty for input from stdin" }

/-- The commands that work on a phrase they are given. -/
def seedCommand : Command Action :=
  .group "seed" "Seed utils" []
    [.action "generate" "Generates new seed"
      [{ long := "words", short := some 'w', about := "number of words (12, 15, 18, 21 or 24)",
         check := some (checked readCount) }]
      none fun g => .generate ((valueOf readCount "words" g).getD default),
     .action "validate" "Checks word count, word list membership and checksum"
      [] (some phraseArgument) fun g => .validate g.argument,
     .action "derive" "Derives keys and address from seed"
      [{ long := "path", short := some 'p', about := "derivation path, configured path by default",
         check := some (checked readPath) },
       { long := "chain", short := some 'c', about := "chain id, configured chain by default",
         check := some (checked readText) },
       { long := "base64", about := "encode keys in base64 (hex by default)" }]
      (some phraseArgument) fun g =>
        .derive g.argument
          { path := valueOf readPath "path" g
            chain := g.value? "chain"
            base64 := g.isOn "base64" }]

/-- The commands that work on the phrase kept for the application. -/
def sessionCommand : Command Action :=
  .group "session" "Active seed phrase of the application origin" []
    [.action "set" "Accepts a generated seed phrase or a custom one"
      [{ long := "phrase", about := "custom seed phrase, skips the prompt",
         check := some (checked readText) }]
      none fun g => .keep (g.value? "phrase"),
     .action "show" "Shows the address of the active seed phrase" [] none fun _ => .showKept,
     .action "clear" "Removes the active seed phrase"
      [{ long := "force", short := some 'f', about := "skip the confirmation prompt" }]
      none fun _ => .forget]

/-- The command that runs scenarios. -/
def trialCommand : Command Action :=
  .group "harness" "End-to-end wallet scenarios" []
    [.action "run" "Runs scenarios against the application and the wallet extension"
      [{ long := "scenario", about := "scenario to run: import, seed-phrase or all",
         check := some (checked TrialChoice.parse) },
       { long := "local", about := "run seed phrase scenarios against an in-process application" }]
      none fun g =>
        .tryOut ((valueOf TrialChoice.parse "scenario" g).getD .all) (g.isOn "local")]

/-- The whole command line. -/
def command : Command Action :=
  .group "seedkeeper" "Ephemeral seed phrase keeper and wallet test harness"
    [{ long := "root", about := "path to the root directory",
       check := some (checked readText) }]
    [seedCommand, sessionCommand, trialCommand]

end Action

end SeedVault
