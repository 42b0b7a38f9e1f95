import BoundedPipelining.Connection.Step

/-!
# Several connections and one ledger

The connections of a process are independent of each other but for the ledger in which all of them
are counted. A step of one connection continues the ledger where the last step left it.
-/

namespace BoundedPipelining

/-- Several connections, counted in one ledger. -/
structure Fleet where
  connections : Array Connection := #[]
  ledger : Ledger := .empty

namespace Fleet

/-- What can happen to a fleet: a new connection, or a step of one that is there. -/
inductive Event where
  | connect (d : Depth) (policy : ClosingPolicy)
  | step (connection : Nat) (s : Connection.Step)

/-- The connection with a number, its books at the present ledger. -/
def connection? (f : Fleet) (k : Nat) : Option Connection :=
  (f.connections[k]?).map fun c ↦ { c with books := { c.books with ledger := f.ledger } }

/-- What happens to a fleet at an event. -/
def step (f : Fleet) : Event → Fleet
  | .connect d policy => { f with connections := f.connections.push (.ofDepth d policy) }
  | .step k s =>
    match f.connection? k with
    | none => f
    | some c =>
      let c := (c.step s).2
      { connections := f.connections.set! k c, ledger := c.books.ledger }

/-- The fleet after a list of events. -/
def run (f : Fleet) (events : List Event) : Fleet :=
  events.foldl step f

/-- The number of slots taken over all connections. -/
def inFlight (f : Fleet) : Nat :=
  f.connections.toList.foldr (fun c n ↦ c.inFlight + n) 0

end Fleet

end BoundedPipelining
