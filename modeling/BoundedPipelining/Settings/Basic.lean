import BoundedPipelining.Admission.Limiter
import BoundedPipelining.Admission.Policy

/-!
# Settings

What can be set for a connection and for what is reported about it. Every setting has a default, so
a configuration states only what differs.
-/

namespace BoundedPipelining

/-- How log messages are written. -/
inductive LogFormat where
  | pretty
  | json
  deriving DecidableEq

/-- The settings of a connection. -/
structure ConnectionSettings where
  /-- The greatest number of exchanges in flight. -/
  maxPipelined : Nat := 1
  closingPolicy : ClosingPolicy := .accept
  deriving DecidableEq

/-- The settings of logs and metrics. -/
structure ObservabilitySettings where
  /-- The filter of the log. -/
  logLevel : String := "pipeline_conn=info"
  logFormat : LogFormat := .pretty
  metricsEnabled : Bool := false
  metricsAddress : String := "127.0.0.1:9090"
  deriving DecidableEq

/-- All settings. -/
structure Settings where
  connection : ConnectionSettings := {}
  observability : ObservabilitySettings := {}
  deriving DecidableEq

/-- The depth of a connection, absent if no exchange were ever allowed. -/
def ConnectionSettings.depth? (s : ConnectionSettings) : Option Depth :=
  Depth.ofNat? s.maxPipelined

/-- The written forms of the policies. -/
def ClosingPolicy.text : ClosingPolicy → String
  | accept => "admit"
  | reject => "reject"

/-- The written forms of the log formats. -/
def LogFormat.text : LogFormat → String
  | pretty => "pretty"
  | json => "json"

end BoundedPipelining
