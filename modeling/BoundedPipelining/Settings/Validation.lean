import BoundedPipelining.Settings.Basic
import BoundedPipelining.Settings.FilterDirective
import BoundedPipelining.Settings.SocketAddress

/-!
# Checking settings

Three rules that the shape of the settings does not enforce: at least one exchange, a log filter
that can be read, and, where metrics are on, an address to publish them at. Every broken rule is
reported, in this order.

A log filter in which a cut falls inside a character cannot be judged at all.
-/

namespace BoundedPipelining

/-- A broken rule. -/
inductive ValidationError where
  | zeroPipelineDepth
  | invalidLogLevel (directive : String) (reason : String)
  | invalidMetricsAddress (address : String)
  deriving DecidableEq

namespace ValidationError

/-- The name of a kind of error. -/
def name : ValidationError → String
  | zeroPipelineDepth => "ZeroPipelineDepth"
  | invalidLogLevel _ _ => "InvalidLogLevel"
  | invalidMetricsAddress _ => "InvalidMetricsAddress"

/-- The wording of an error. -/
def message : ValidationError → String
  | zeroPipelineDepth => "connection.max_pipelined_requests must be at least 1"
  | invalidLogLevel directive reason =>
    "observability.log_level '" ++ directive ++ "' is invalid: " ++ reason
  | invalidMetricsAddress address =>
    "observability.metrics_address '" ++ address ++ "' is not a socket address"

end ValidationError

/-- A text that would have to be cut inside a character, at a byte offset. -/
structure CutCharacter where
  offset : Nat
  text : List Char
  deriving DecidableEq

/-- The wording of a cut inside a character. -/
def CutCharacter.message (c : CutCharacter) : String :=
  (FilterError.splitsCharacter c.offset c.text).message

/-- The depth of a connection, or what is wrong with it. -/
def ConnectionSettings.depth (s : ConnectionSettings) : Except ValidationError Depth :=
  match s.depth? with
  | some d => .ok d
  | none => .error .zeroPipelineDepth

namespace Settings

/-- What is wrong with the depth. -/
def depthErrors (s : Settings) : List ValidationError :=
  match s.connection.depth with
  | .ok _ => []
  | .error e => [e]

/-- What is wrong with the log filter. -/
def filterErrors (s : Settings) : Except CutCharacter (List ValidationError) :=
  match FilterDirective.listOfText s.observability.logLevel with
  | .ok _ => .ok []
  | .error (.splitsCharacter offset text) => .error { offset, text }
  | .error e => .ok [.invalidLogLevel s.observability.logLevel e.message]

/-- What is wrong with the address. -/
def addressErrors (s : Settings) : List ValidationError :=
  let o := s.observability
  if o.metricsEnabled && (SocketAddress.ofText? o.metricsAddress.toList).isNone then
    [.invalidMetricsAddress o.metricsAddress]
  else []

/-- Every rule that settings break, in the order of the rules. -/
def validate (s : Settings) : Except CutCharacter (List ValidationError) :=
  s.filterErrors.map fun filter ↦ s.depthErrors ++ filter ++ s.addressErrors

end Settings

end BoundedPipelining
