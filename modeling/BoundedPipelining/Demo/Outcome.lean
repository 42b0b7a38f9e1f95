import BoundedPipelining.Connection.Setup
import BoundedPipelining.Demo.Messages
import BoundedPipelining.Demo.Report
import BoundedPipelining.Demo.Surroundings
import BoundedPipelining.Settings.Load

/-!
# The program as a whole

From the arguments of the command line, what is found at the path of the configuration and what else
the run finds around it, to what the program ends with. The configuration is loaded and checked
first; only then does an option take the place of its depth, and the depth is checked once more when
the connection is set up, after the log and the metrics. From then on only a shortage of memory can
keep the run from its report.
-/

namespace BoundedPipelining

/-- What the program ends with. -/
inductive Outcome where
  | help
  /-- The command line was misused. -/
  | misuse
  | badSettings (e : LoadError)
  | notSetUp (e : SetupError)
  | badDepth (e : ValidationError)
  | noMemory (why : Shortage)
  /-- A report, and whether the log puts messages beside it. -/
  | report (r : Report) (logged : Bool)

namespace Outcome

/-- Runs a scenario with checked settings. -/
def ofSettings (w : Surroundings) (s : Settings) (scenario : Scenario) (requests : Nat) : Outcome :=
  match w.setUp s.observability with
  | .error e => .notSetUp e
  | .ok filter =>
    match Connection.ofSettings s.connection with
    | .error e => .badDepth e
    | .ok connection =>
      match w.firstShortage? requests with
      | some why => .noMemory why
      | none =>
        let d : Demo := { scenario, requests, connection }
        .report (.ofDemo d.finish) (Demo.logsAnything filter s scenario requests)

/-- Settings in which a depth given on the command line takes the place of their own. -/
def withDepth (s : Settings) : Option Nat → Settings
  | none => s
  | some n => { s with connection := { s.connection with maxPipelined := n } }

/-- The settings of a command line, given what is found at a path. -/
def settingsOf (files : String → FileContent) (o : Options) : Except LoadError Settings :=
  let loaded : Except LoadError Settings :=
    match o.config with
    | none => .ok {}
    | some path => Settings.ofFile (files path)
  loaded.map fun s ↦ withDepth s o.maxPipelined

/-- What the program ends with. -/
def ofCommand (files : String → FileContent) (command : Option Command) (w : Surroundings := {}) :
    Outcome :=
  match command with
  | none => .misuse
  | some .help => .help
  | some (.run o scenario) =>
    match settingsOf files o with
    | .error e => .badSettings e
    | .ok s => ofSettings w s scenario o.requestCount

/-- What the program ends with, from the arguments of the command line. -/
def ofArguments (files : String → FileContent) (arguments : List String) (w : Surroundings := {}) :
    Outcome :=
  ofCommand files (Command.ofArguments arguments) w

/-- The exit code of the program, as a shell gives it. -/
def exitCode : Outcome → Nat
  | help | report _ _ => 0
  | badSettings (.cut _) | notSetUp (.cut _) | noMemory .tooLong => 101
  | badSettings _ | notSetUp _ | badDepth _ => 1
  | misuse => 2
  | noMemory .refused => 134

/-- The name of the error that the program ends with, if it ends with one. -/
def errorName? : Outcome → Option String
  | badSettings e => e.name?
  | notSetUp e => e.name?
  | badDepth e => some e.name
  | help | misuse | noMemory _ | report _ _ => none

end Outcome

end BoundedPipelining
