import BoundedPipelining.Admission.Policy
import BoundedPipelining.Channel.Basic
import BoundedPipelining.Exchange.Basic

/-!
# A connection and everyone who acts on it

A `Connection` is the whole of what a single pipelined connection consists of: the facade through
which requests are issued, the gate, the tracker, the channel, and for every admitted request a
`Lane`. Three kinds of background task work on it, each a state of the connection that a poll
moves on:

* the monitor, which feeds the channel's notifications into the tracker;
* one dispatch task per lane, which hands the response, or the failure, to the caller;
* one close watcher per lane, which fails the exchange if the connection closes first.

A caller holds the future of each request it issued and, once that resolved, the response's body.
What the four parties share is in the structure, so that any order of their steps can be played.

Lane `i` belongs to exchange `i + 1` and to write `i` of the channel.
-/

namespace BoundedPipelining

/-- What a dispatch task has handed to its caller. -/
inductive Reply where
  /-- Nothing yet; the task is at work. -/
  | awaited
  | sent (result : Except ClassifiedError Head)
  /-- The task was dropped before it had a result. -/
  | lost

namespace Reply

/-- Whether the dispatch task is still at work. -/
def isAwaited : Reply → Bool
  | awaited => true
  | sent _ | lost => false

/-- How many polls can still change the task. -/
def remaining : Reply → Nat
  | awaited => 1
  | sent _ | lost => 0

end Reply

/-- What the caller of an admitted request still holds. -/
inductive Caller where
  /-- The response future, unresolved. -/
  | waiting
  /-- The body; `done` says that it ended or failed. -/
  | holding (done : Bool)
  /-- A running drain of the body and the chunks it collected. -/
  | draining (collected : List Bytes)
  | gone

/-- Whether the caller still holds something of the exchange. -/
def Caller.isHolding : Caller → Bool
  | gone => false
  | waiting | holding _ | draining _ => true

/-- An admitted request: its exchange, its two tasks and its caller. -/
structure Lane where
  exchange : Exchange
  reply : Reply := .awaited
  watcher : Watch := .fresh
  caller : Caller := .waiting
  /-- Whether the registry lists the exchange. -/
  registered : Bool := true

/-- A request as its caller sees it. -/
inductive Call where
  /-- Turned away by the call itself, and not told yet. -/
  | refused (e : ConnectionError)
  | admitted (lane : Nat)
  /-- Turned away, and told or dropped. -/
  | over

/-- A connection, its tasks, its callers and its channel. -/
structure Connection where
  policy : ClosingPolicy
  books : Books
  tracker : Tracker := .opened
  monitor : Observer := .watching false
  channel : Channel := {}
  sequence : ExchangeSequence := {}
  lanes : Array Lane := #[]
  /-- Every request that was issued, in order. -/
  calls : Array Call := #[]
  /-- For each future of the terminal error whether it is unresolved. -/
  watches : Array Bool := #[]
  /-- Whether the facade is still held. -/
  facade : Bool := true
  /-- Whether background tasks are run at all. -/
  running : Bool := true

/-- An exchange that still holds a slot. -/
structure PendingExchange where
  id : ExchangeId
  progress : Progress
  deriving DecidableEq

/-- A view of a connection at one moment. -/
structure ConnectionStats where
  state : ConnectionState
  inFlight : Nat
  max : Nat
  pending : List PendingExchange
  deriving DecidableEq

namespace Connection

/-- A fresh connection over a fresh channel. -/
def ofDepth (d : Depth) (policy : ClosingPolicy) : Connection :=
  { policy, books := { limiter := { max := d }, ledger := .empty } }

/-! ## Views -/

/-- The number of slots taken. -/
def inFlight (c : Connection) : Nat := c.books.limiter.inFlight

/-- The exchanges the registry lists, in the order of their numbers. -/
def registry (c : Connection) : List ExchangeId :=
  c.lanes.toList.filterMap fun l ↦ if l.registered then some l.exchange.id else none

/-- The registered exchanges that still hold a slot, in the order of their numbers. -/
def pendingExchanges (c : Connection) : List PendingExchange :=
  c.lanes.toList.filterMap fun l ↦
    if l.registered && l.exchange.phase.holdsSlot then
      some ⟨l.exchange.id, l.exchange.progress⟩
    else none

/-- The view of the connection now. -/
def stats (c : Connection) : ConnectionStats :=
  { state := c.tracker.state
    inFlight := c.inFlight
    max := c.books.limiter.max.val
    pending := c.pendingExchanges }

/-- The structure of the connection with the given identity, for diagnostics. -/
def structureText (c : Connection) (identity : String) : String :=
  "Connection \x7b id: " ++ identity ++ ", state: " ++ c.tracker.state.name ++ ", in_flight: "
    ++ toString c.inFlight ++ ", max_pipelined: " ++ toString c.books.limiter.max.val ++ " \x7d"

/-! ## Changing one part -/

/-- Changes lane `i`. -/
def onLane (c : Connection) (i : Nat) (f : Lane → Lane) : Connection :=
  { c with lanes := c.lanes.modify i f }

/-- Puts the exchange of lane `i` and the books in place after a change. -/
def putExchange (c : Connection) (i : Nat) (x : Exchange) (b : Books) : Connection :=
  { c.onLane i (fun l ↦ { l with exchange := x }) with books := b }

/-- Leaves the caller of lane `i` with what is given. -/
def setCaller (c : Connection) (i : Nat) (k : Caller) : Connection :=
  c.onLane i fun l ↦ { l with caller := k }

/-- Closes the connection, and answers with the error it closed with. -/
def close (c : Connection) (cause : Option TransportError) : ClassifiedError × Connection :=
  let (e, tracker, ledger) := c.tracker.close cause c.books.ledger
  (e, { c with tracker, books := { c.books with ledger } })

/-- Fails the exchange of lane `i`, and answers with the error its caller should see. -/
def failExchange (c : Connection) (i : Nat) (e : ClassifiedError) : ClassifiedError × Connection :=
  match c.lanes[i]? with
  | none => (e, c)
  | some l =>
    let (e, x, b) := l.exchange.fail e c.books
    (e, c.putExchange i x b)

/-- Counts an event that moves no slot. -/
def mark (c : Connection) (e : Mark) : Connection :=
  { c with books := c.books.mark e }

end Connection

end BoundedPipelining
