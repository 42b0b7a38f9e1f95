import BoundedPipelining.Demo.Arguments
import BoundedPipelining.Settings.Basic
import BoundedPipelining.Settings.LogFilter
import BoundedPipelining.Settings.SocketAddress

/-!
# What a demonstration logs

The messages of a run, by where they come from, how urgent they are and which fields they have. A
run logs on the same output as its report, so whether any message passes the filter of the log
decides whether the report stands alone there.
-/

namespace BoundedPipelining

namespace Demo

/-- A message from a module of the program. -/
def messageFrom (place : String) (level : LogLevel) (fields : List String) : LogMessage :=
  { place := "pipeline_conn" ++ place, level, fields := "message" :: fields }

/-- What is logged of the metrics, where they are wanted. -/
def metricsMessages (s : ObservabilitySettings) : List LogMessage :=
  if s.metricsEnabled then
    match SocketAddress.ofText? s.metricsAddress.toList with
    | some _ => [messageFrom "::observability::metrics" .info ["address"]]
    | none => [messageFrom "" .error ["metrics_address"]]
  else []

/-- What is logged before the first request. -/
def openingMessages (s : Settings) : List LogMessage :=
  metricsMessages s.observability
    ++ [messageFrom "" .info ["scenario", "requests", "max_pipelined_requests"],
      messageFrom "::net::connection" .debug
        ["connection_id", "max_pipelined_requests", "closing_policy"]]

/-- What is logged of a refused request. -/
def refusalMessages : List LogMessage :=
  [messageFrom "::admission::limiter" .debug ["connection_id", "in_flight", "max"],
    messageFrom "::net::connection" .warn ["connection_id", "max"]]

/-- What is logged of an admitted request until it is settled. -/
def exchangeMessages (scenario : Scenario) : List LogMessage :=
  [messageFrom "::net::connection" .debug
      ["connection_id", "exchange_id", "method", "uri", "in_flight"],
    messageFrom "::admission::limiter" .trace ["connection_id", "in_flight"],
    messageFrom "::exchange::tracked" .debug ["exchange_id", "outcome"]]
    ++ match scenario with
      | .drain => [messageFrom "::net::connection" .debug ["exchange_id", "status"]]
      | .graceful =>
        [messageFrom "::net::connection" .debug ["exchange_id", "status"],
          messageFrom "::lifecycle::tracker" .info ["connection_id"]]
      | .abrupt => []

/-- What is logged at the end. -/
def closingMessages (announced : Bool) : List LogMessage :=
  [if announced then messageFrom "::lifecycle::tracker" .info ["connection_id", "reason"]
    else messageFrom "::lifecycle::tracker" .warn ["connection_id", "reason", "cause"],
    messageFrom "" .info [],
    messageFrom "::net::connection" .trace ["connection_id", "in_flight"]]

/-- What a run of `requests` requests logs. -/
def messages (s : Settings) (scenario : Scenario) (requests : Nat) : List LogMessage :=
  openingMessages s
    ++ (if s.connection.maxPipelined < requests then refusalMessages else [])
    ++ (if 0 < requests then exchangeMessages scenario else [])
    ++ closingMessages (scenario = .graceful && 0 < requests)

/-- Whether a run logs anything that a filter lets through. -/
def logsAnything (filter : List FilterDirective) (s : Settings) (scenario : Scenario)
    (requests : Nat) : Bool :=
  (messages s scenario requests).any (FilterDirective.passes filter)

end Demo

end BoundedPipelining
