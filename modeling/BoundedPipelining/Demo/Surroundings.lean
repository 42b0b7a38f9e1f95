import BoundedPipelining.Settings.LogFilter
import BoundedPipelining.Settings.Validation

/-!
# What a run finds around it

A run depends on more than its command line. The environment may have a log filter of its own, which
goes before the configured one; the log has to be installed, and the address of the metrics has to
be listened on; and there has to be memory for all that grows with the requests. That there is a
runtime for the tasks, and an output that takes the report, is taken for granted.

The log and the metrics are set up, in this order, before there is a connection, and a failure of
either is the end of the run. So is a shortage of memory, at whatever point the run comes to it.
-/

namespace BoundedPipelining

/-- What takes more memory with more requests, in the order in which a run needs it. -/
inductive Storage where
  /-- The list of the responses that are awaited. -/
  | responses
  /-- The requests and their exchanges, and the listing of those that are pending. -/
  | exchanges
  /-- The list of what is reported of the requests. -/
  | outcomes
  /-- The report as one text. -/
  | report
  deriving DecidableEq

/-- Why there is no memory for something. -/
inductive Shortage where
  /-- A list would be longer than any list can be. -/
  | tooLong
  /-- The memory is not granted. -/
  | refused
  deriving DecidableEq

/-- The greatest number of bytes of a list, the greatest signed number of 64 bits. -/
def maxBytes : Nat := 9223372036854775807

/-- The bytes of a list that is made with a place for every request, 16 for each response and 24 for
each text. What grows bit by bit has no such list. -/
def Storage.listBytes : Storage → Nat → Nat
  | responses, requests => 16 * requests
  | outcomes, requests => 24 * requests
  | exchanges, _ | report, _ => 0

/-- What a run finds around it. -/
structure Surroundings where
  /-- The log filter of the environment, if it has one. -/
  filter : Option String := none
  /-- The error of installing a log, if that fails. -/
  logError? : LogFormat → Option String := fun _ ↦ none
  /-- The error of listening on an address, if that fails. -/
  listenError? : SocketAddress → Option String := fun _ ↦ none
  /-- The shortage, if any, that so many requests meet at something whose list is not too long. -/
  shortage? : Storage → Nat → Option Shortage := fun _ _ ↦ none

/-- Why a run was not set up. -/
inductive SetupError where
  /-- A filter would have had to be cut inside a character. -/
  | cut (c : CutCharacter)
  | log (error : String)
  | metrics (error : String)
  deriving DecidableEq

/-- The name of the error that a text begins with. -/
def SetupError.nameOf (error : String) : String :=
  String.ofList (error.toList.takeWhile Char.isAlphanum)

/-- The name of the error that kept a run from being set up; a cut inside a character has none. -/
def SetupError.name? : SetupError → Option String
  | cut _ => none
  | log error | metrics error => some (nameOf error)

/-- What a piece of a log filter adds to it: nothing if it is faulty, unless the fault is a cut
inside a character. -/
def FilterDirective.ofSoundText (p : List Char) : Except CutCharacter (Option FilterDirective) :=
  match ofText p with
  | .ok d => .ok (some d)
  | .error (.splitsCharacter offset text) => .error { offset, text }
  | .error _ => .ok none

/-- The directives of a log filter, from which faulty pieces are left out. -/
def FilterDirective.soundOfText (s : String) : Except CutCharacter (List FilterDirective) :=
  (((Pieces.split ',' s.toList).filter fun p ↦ !p.isEmpty).mapM ofSoundText).map List.reduceOption

namespace Surroundings

/-- The directives that decide what is logged: those of the environment, or, if it has none that can
be read, the configured ones. -/
def logFilter (w : Surroundings) (s : ObservabilitySettings) :
    Except CutCharacter (List FilterDirective) :=
  match w.filter.map FilterDirective.listOfText with
  | some (.ok ds) => .ok ds
  | some (.error (.splitsCharacter offset text)) => .error { offset, text }
  | some (.error _) | none => FilterDirective.soundOfText s.logLevel

/-- Installs the log, and gives the directives that decide what it shows. -/
def initLog (w : Surroundings) (s : ObservabilitySettings) :
    Except SetupError (List FilterDirective) :=
  match w.logFilter s with
  | .error c => .error (.cut c)
  | .ok ds =>
    match w.logError? s.logFormat with
    | some e => .error (.log e)
    | none => .ok ds

/-- The error of publishing the metrics, where they are wanted, at an address that can be read. -/
def metricsError? (w : Surroundings) (s : ObservabilitySettings) : Option String :=
  if s.metricsEnabled then (SocketAddress.ofText? s.metricsAddress.toList).bind w.listenError?
  else none

/-- Sets up the log and then the metrics, and gives the directives of the log. -/
def setUp (w : Surroundings) (s : ObservabilitySettings) :
    Except SetupError (List FilterDirective) :=
  match w.initLog s with
  | .error e => .error e
  | .ok ds =>
    match w.metricsError? s with
    | some e => .error (.metrics e)
    | none => .ok ds

/-- The shortage that so many requests run into at something. -/
def shortageAt? (w : Surroundings) (requests : Nat) (u : Storage) : Option Shortage :=
  if maxBytes < u.listBytes requests then some .tooLong else w.shortage? u requests

/-- The first shortage that so many requests run into. -/
def firstShortage? (w : Surroundings) (requests : Nat) : Option Shortage :=
  [.responses, .exchanges, .outcomes, .report].findSome? (w.shortageAt? requests)

end Surroundings

end BoundedPipelining
