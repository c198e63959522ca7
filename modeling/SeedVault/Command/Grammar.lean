/-!
# Grammar of a command line

A command has options and either an action of its own, which may take one plain argument, or further
commands to choose from. Arguments are read from left to right: the first fault in them is the one
that is reported. Asking for help anywhere in front of the fault wins over an action, and is passed
on to the command that is chosen behind it. After two hyphens everything is a plain argument.
-/

namespace SeedVault

/-- An option. Without a check for its value it is a switch. -/
structure CommandOption where
  long : String
  short : Option Char := none
  about : String
  check : Option (String → Except String Unit) := none

/-- The plain argument of a command. -/
structure CommandArgument where
  name : String
  about : String

/-- What is given on a command line: options that have a value, switches, and the argument. -/
structure Given where
  values : List (String × String) := []
  switches : List String := []
  argument : Option String := none

/-- A command with an action, read from what is given, or with commands to choose from. -/
inductive Command (α : Type) where
  | action (name about : String) (options : List CommandOption)
    (argument : Option CommandArgument) (read : Given → α)
  | group (name about : String) (options : List CommandOption) (commands : List (Command α))

/-- A fault in the arguments. -/
inductive UsageFault where
  | unrecognized (arg : String)
  | missingValue (name : String)
  | badValue (name value cause : String)
  | missingCommand (names : List String)
  | afterHelp
  deriving DecidableEq, Repr

/-- Why there is nothing to do. -/
inductive CommandStop where
  /-- Help was asked for. -/
  | help (text : String)
  | fault (f : UsageFault)
  deriving DecidableEq, Repr

namespace UsageFault

/-- The wording of a fault. -/
def message : UsageFault → String
  | unrecognized arg => "Unrecognized argument: " ++ arg ++ "\n"
  | missingValue name => "No value provided for option '" ++ name ++ "'.\n"
  | badValue name value cause =>
    "Error parsing option '" ++ name ++ "' with value '" ++ value ++ "': " ++ cause ++ "\n"
  | missingCommand names =>
    "One of the following subcommands must be present:"
      ++ String.join (("help" :: names).map ("\n    " ++ ·)) ++ "\n"
  | afterHelp => "Trailing arguments are not allowed after \x60help\x60."

end UsageFault

namespace CommandOption

/-- The option's name behind two hyphens. -/
def longName (o : CommandOption) : String := "--" ++ o.long

/-- The option's name of one letter, if it has one. -/
def shortName? (o : CommandOption) : Option String :=
  o.short.map fun c => String.ofList ['-', c]

/-- Is the argument a name of the option? -/
def isNamed (arg : String) (o : CommandOption) : Bool :=
  arg = o.longName || some arg = o.shortName?

/-- The option in a line of usage. -/
def usage (o : CommandOption) : String :=
  let value := if o.check.isSome then " <" ++ o.long ++ ">" else ""
  "[" ++ o.shortName?.getD o.longName ++ value ++ "]"

/-- The option's names in a list of options. -/
def names (o : CommandOption) : String :=
  ((o.shortName?.map (· ++ ", ")).getD "") ++ o.longName

end CommandOption

namespace Given

/-- The value of an option. -/
def value? (g : Given) (name : String) : Option String := g.values.lookup name

/-- Was the switch given? -/
def isOn (g : Given) (name : String) : Bool := g.switches.contains name

/-- Adds the value of an option, which may have only one. -/
def addValue (g : Given) (o : CommandOption) (check : String → Except String Unit)
    (name value : String) : Except CommandStop Given :=
  if (g.value? o.long).isSome then
    .error (.fault (.badValue name value "duplicate values provided"))
  else
    match check value with
    | .error cause => .error (.fault (.badValue name value cause))
    | .ok () => .ok { g with values := (o.long, value) :: g.values }

end Given

namespace Command

variable {α : Type}

/-- The command's name. -/
def name : Command α → String
  | action name _ _ _ _ => name
  | group name _ _ _ => name

/-- What the command does. -/
def about : Command α → String
  | action _ about _ _ _ => about
  | group _ about _ _ => about

/-- The command's options. -/
def options : Command α → List CommandOption
  | action _ _ options _ _ => options
  | group _ _ options _ => options

/-- The command's argument, if it takes one. -/
def argument? : Command α → Option CommandArgument
  | action _ _ _ argument _ => argument
  | group _ _ _ _ => none

/-- The commands to choose from. -/
def commands : Command α → List (Command α)
  | action _ _ _ _ _ => []
  | group _ _ _ commands => commands

/-- The column at which descriptions start. -/
def aboutColumn : Nat := 20

/-- The longest line of a description. -/
def lineLimit : Nat := 80

/-- The words of a description in lines, `line` being the one so far. -/
def fillLines (line : String) : List String → List String
  | [] => [line]
  | word :: words =>
    if lineLimit < line.length + word.length + 1 then
      line :: fillLines ("".pushn ' ' aboutColumn ++ word) words
    else fillLines (line ++ " " ++ word) words

/-- A name with a description, on one line or more. -/
def entry (name about : String) : String :=
  let start := "  " ++ name
  let lines :=
    match about.splitOn " " with
    | [] => [start]
    | word :: words =>
      if start.length < aboutColumn then
        fillLines (start.pushn ' ' (aboutColumn - start.length) ++ word) words
      else start :: fillLines ("".pushn ' ' aboutColumn ++ word) words
  String.join (lines.map ("\n" ++ ·))

/-- The line of usage of a command that is called by `path`. -/
def usage (c : Command α) (path : List String) : String :=
  let argument := (c.argument?.map fun a => "[<" ++ a.name ++ ">]").toList
  let choice := match c with | group _ _ _ _ => ["<command> [<args>]"] | _ => []
  "Usage: " ++ " ".intercalate (path ++ argument ++ c.options.map (·.usage) ++ choice)

/-- The help on a command that is called by `path`. -/
def help (c : Command α) (path : List String) : String :=
  let argument := c.argument?.map fun a => "Positional Arguments:" ++ entry a.name a.about
  let options := "Options:" ++ String.join (c.options.map fun o => entry o.names o.about)
    ++ entry "--help" "display usage information"
  let choice :=
    match c with
    | group _ _ _ commands =>
      ["Commands:" ++ String.join (commands.map fun c => entry c.name c.about)]
    | _ => []
  "\n\n".intercalate ([c.usage path, c.about] ++ argument.toList ++ [options] ++ choice) ++ "\n"

/-- Does the argument ask for help? -/
def asksHelp (arg : String) : Bool := arg = "--help" || arg = "help"

/-- What a command comes to when its arguments are at their end. -/
def finish (c : Command α) (path : List String) (helping : Bool) (g : Given) :
    Except CommandStop (α × Given) :=
  if helping then .error (.help (c.help path))
  else
    match c with
    | action _ _ _ _ read => .ok (read g, g)
    | group _ _ _ commands => .error (.fault (.missingCommand (commands.map (·.name))))

/-- Reads the arguments of a command that is called by `path`, `g` being given already. -/
def read (c : Command α) (path : List String) (helping plain : Bool) (g : Given) :
    List String → Except CommandStop (α × Given)
  | [] => c.finish path helping g
  | arg :: args =>
    if !plain && asksHelp arg then c.read path true plain g args
    else if !plain && arg.startsWith "-" then
      if arg = "--" then c.read path helping true g args
      else if helping then .error (.fault .afterHelp)
      else
        match c.options.find? (·.isNamed arg) with
        | none => .error (.fault (.unrecognized arg))
        | some o =>
          match o.check, args with
          | none, args =>
            c.read path helping plain { g with switches := o.long :: g.switches } args
          | some _, [] => .error (.fault (.missingValue arg))
          | some check, value :: args => do
            c.read path helping plain (← g.addValue o check arg value) args
    else
      match c.commands.find? (·.name = arg) with
      | some next => next.read (path ++ [arg]) helping false g args
      | none =>
        if c.argument?.isSome ∧ g.argument.isNone then
          c.read path helping plain { g with argument := some arg } args
        else .error (.fault (.unrecognized arg))

/-- Reads the arguments of a program. -/
def parse (c : Command α) (args : List String) : Except CommandStop (α × Given) :=
  c.read [c.name] false false {} args

end Command

end SeedVault
