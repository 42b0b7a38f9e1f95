import BoundedPipelining.Demo.Basic
import BoundedPipelining.Text.Json

/-!
# The report of a demonstration

What came of every request, and the connection before the peer acted and after everything was over,
written as indented JSON.
-/

namespace BoundedPipelining

/-- The report of a demonstration. -/
structure Report where
  scenario : Scenario
  outcomes : List String
  before : ConnectionStats
  after : ConnectionStats
  deriving DecidableEq

namespace Report

/-- The report of a demonstration as it stands. -/
def ofDemo (d : Demo) : Report :=
  { scenario := d.scenario
    outcomes := d.outcomes
    before := d.before
    after := d.connection.stats }

/-- The view of a connection, written out. -/
def statsBlock (s : ConnectionStats) : Json.Block :=
  let exchange (p : PendingExchange) : Json.Block :=
    Json.object [("id", Json.number p.id.number), ("phase", Json.text p.progress.phase.name)]
  Json.object
    [("connection_id", Json.number Demo.connectionId.number),
      ("state", Json.text s.state.name),
      ("in_flight", Json.number s.inFlight),
      ("max_pipelined_requests", Json.number s.max),
      ("pending", Json.array (s.pending.map exchange))]

/-- The report, written out. -/
def text (r : Report) : String :=
  Json.render <| Json.object
    [("scenario", Json.text r.scenario.name),
      ("outcomes", Json.array (r.outcomes.map Json.text)),
      ("before", statsBlock r.before),
      ("after", statsBlock r.after)]

end Report

end BoundedPipelining
