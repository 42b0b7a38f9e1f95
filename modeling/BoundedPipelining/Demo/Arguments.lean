import BoundedPipelining.Text.Numeral

/-!
# The command line

The command line is a list of options followed by the name of a scenario. An option's value is
attached to it, or is the next argument; it does not begin with a dash unless it is a dash alone.
No option may be given twice. Help can be asked for in front of the scenario or behind it, and wins
over faults that come later.

A value that is an argument of its own is looked at only when the next option comes, or when all
arguments have been read, so help behind the scenario also wins over the value just before it.
-/

namespace BoundedPipelining

/-- The scenarios. -/
inductive Scenario where
  /-- Answer every admitted request and drain the answer. -/
  | drain
  /-- Answer the first request, announcing a close, and then close. -/
  | graceful
  /-- Reset the channel while requests are outstanding. -/
  | abrupt
  deriving DecidableEq

namespace Scenario

/-- The name of a scenario. -/
def name : Scenario → String
  | drain => "drain"
  | graceful => "graceful"
  | abrupt => "abrupt"

/-- The scenario with a name. -/
def ofName? (s : String) : Option Scenario :=
  [drain, graceful, abrupt].find? fun x ↦ x.name == s

end Scenario

/-- The options of the command line. -/
structure Options where
  /-- The path of a configuration. -/
  config : Option String := none
  requests : Option Nat := none
  maxPipelined : Option Nat := none
  deriving DecidableEq

/-- What a command line asks for. -/
inductive Command where
  | help
  | run (options : Options) (scenario : Scenario)
  deriving DecidableEq

/-- The options by name. -/
inductive OptionName where
  | config
  | requests
  | maxPipelined
  deriving DecidableEq

namespace Options

/-- The number of requests, three if none is given. -/
def requestCount (o : Options) : Nat :=
  o.requests.getD 3

/-- A whole number of 64 bits; a plus sign may stand in front of it. -/
def count? (s : String) : Option Nat :=
  (Numeral.readPlus? 10 s.toList).filter (· < Nat.pow 2 64)

/-- Gives an option its value, unless it has one or the value is none for it. -/
def give? (o : Options) (name : OptionName) (value : String) : Option Options :=
  match name with
  | .config =>
    if o.config.isSome || value.isEmpty then none else some { o with config := some value }
  | .requests =>
    if o.requests.isSome then none
    else (count? value).map fun n ↦ { o with requests := some n }
  | .maxPipelined =>
    if o.maxPipelined.isSome then none
    else (count? value).map fun n ↦ { o with maxPipelined := some n }

/-- Gives an option the value that was kept for it, if one was. -/
def giveKept? (o : Options) : Option (OptionName × String) → Option Options
  | none => some o
  | some (name, value) => o.give? name value

end Options

/-- What one argument is. -/
inductive Argument where
  /-- An option, with its value if that is attached. -/
  | option (name : OptionName) (value : Option String)
  | help
  | word (s : String)
  /-- Begins with a dash and is no option. -/
  | unknown
  deriving DecidableEq

namespace Argument

/-- The long options. -/
def long? (s : List Char) : Option OptionName :=
  if s = "config".toList then some .config
  else if s = "requests".toList then some .requests
  else if s = "max-pipelined".toList then some .maxPipelined
  else none

/-- The value after a short option, of which an equals sign is left out. -/
def attached : List Char → Option String
  | [] => none
  | '=' :: r => some (String.ofList r)
  | s => some (String.ofList s)

/-- An argument that begins with two dashes, without these. -/
def ofLong (s : List Char) : Argument :=
  let name := s.takeWhile (· != '=')
  let value : Option String :=
    match s.dropWhile (· != '=') with
    | _ :: r => some (String.ofList r)
    | [] => none
  match long? name with
  | some name => .option name value
  | none => if s = "help".toList then .help else .unknown

/-- What an argument is. -/
def ofText (s : String) : Argument :=
  match s.toList with
  | '-' :: '-' :: r => ofLong r
  | '-' :: 'h' :: _ => .help
  | '-' :: 'c' :: r => .option .config (attached r)
  | '-' :: 'n' :: r => .option .requests (attached r)
  | '-' :: _ :: _ => .unknown
  | _ => .word s

end Argument

namespace Command

/-- What the arguments behind a scenario ask for; two dashes end the options. -/
def afterScenario (run : Option Command) : List String → Option Command
  | [] => run
  | ["--"] => run
  | a :: _ =>
    match Argument.ofText a with
    | .help => some .help
    | _ => none

/-- The subject of help that is asked for by name. -/
def helpOn : List String → Option Command
  | [] => some .help
  | [s] => if (Scenario.ofName? s).isSome || s == "help" then some .help else none
  | _ => none

/-- What arguments ask for, after options and a value that is kept for one of them. -/
def parse (o : Options) (kept : Option (OptionName × String)) : List String → Option Command
  | [] => none
  | a :: rest =>
    match Argument.ofText a, rest with
    | .unknown, _ => none
    | .help, _ => (o.giveKept? kept).map fun _ ↦ .help
    | .option name (some value), rest => do
      let o ← o.giveKept? kept
      let o ← o.give? name value
      parse o none rest
    | .option _ none, [] => none
    | .option name none, value :: rest => do
      let o ← o.giveKept? kept
      match Argument.ofText value with
      | .word value => parse o (some (name, value)) rest
      | _ => none
    | .word s, rest =>
      if s == "help" then helpOn rest
      else
        match Scenario.ofName? s with
        | none => none
        | some scenario =>
          afterScenario ((o.giveKept? kept).map fun o ↦ .run o scenario) rest

/-- What a command line asks for, absent if it is misused. -/
def ofArguments (arguments : List String) : Option Command :=
  parse {} none arguments

end Command

end BoundedPipelining
