import BoundedPipelining.Connection.Basic

/-!
# Reading the body of a response

A body gives its exchange's slot back when it ends or fails, and not before: dropping it early
gives nothing back. Its poll looks at the exchange's failure first, then at the payload, and at the
terminal error only when the payload has nothing to say. A payload that fails closes the
connection, because the framing of the channel is lost with it.
-/

namespace BoundedPipelining

namespace Connection

/-- What a poll of a body yields. -/
inductive BodyItem where
  | chunk (bytes : Bytes)
  | failed (e : ClassifiedError)
  | ended
  | pending
  /-- The exchange was completed against the order of phases. -/
  | violation (e : TransitionError) (id : ExchangeId)

/-- Ends a body with a failure. -/
def finishBody (c : Connection) (i : Nat) (e : ClassifiedError) : BodyItem × Bool × Connection :=
  let (e, c) := c.failExchange i e
  (.failed e, true, c)

/-- The payload of lane `i` ended: the exchange completes, unless it had failed. -/
def completeBody (c : Connection) (i : Nat) : BodyItem × Bool × Connection :=
  match c.lanes[i]? with
  | none => (.ended, true, c)
  | some l =>
    let (a, x, b) := l.exchange.complete c.books
    let c := c.putExchange i x b
    match a with
    | .ok => (.ended, true, c)
    | .failed e => (.failed e, true, c)
    | .violation e => (.violation e x.id, true, c)

/-- Polls the body of lane `i`, which is not done. The flag says whether it is done now. -/
def pollBody (c : Connection) (i : Nat) : BodyItem × Bool × Connection :=
  match c.lanes[i]? with
  | none => (.ended, true, c)
  | some l =>
    match l.exchange.failure? with
    | some e => c.finishBody i e
    | none =>
      let c := c.onLane i fun l ↦ { l with exchange := l.exchange.draining }
      let (item, channel) := c.channel.read i
      let c := { c with channel }
      match item with
      | .chunk bytes => (.chunk bytes, false, c)
      | .error cause =>
        let (e, c) := c.close (some cause)
        c.finishBody i e
      | .ended => c.completeBody i
      | .pending =>
        match c.tracker.terminal? with
        | some e => c.finishBody i e
        | none => (.pending, false, c)

/-- How a drain stands. -/
inductive Drain where
  | bytes (all : Bytes)
  | failed (e : ClassifiedError)
  | pending
  | violation (e : TransitionError) (id : ExchangeId)

/-- Polls a body until it is done or has nothing to say, at most `n` times. -/
def drainWithin (i : Nat) : Nat → List Bytes → Connection → Drain × Connection
  | 0, collected, c => (.pending, c.setCaller i (.draining collected))
  | n + 1, collected, c =>
    match c.pollBody i with
    | (.chunk bytes, _, c) => drainWithin i n (collected ++ [bytes]) c
    | (.failed e, _, c) => (.failed e, c.setCaller i .gone)
    | (.ended, _, c) => (.bytes collected.flatten, c.setCaller i .gone)
    | (.pending, _, c) => (.pending, c.setCaller i (.draining collected))
    | (.violation e id, _, c) => (.violation e id, c.setCaller i .gone)

/-- The number of items waiting in the payload of lane `i`. -/
def waitingItems (c : Connection) (i : Nat) : Nat :=
  match c.channel.writes[i]? with
  | none => 0
  | some w => w.payload.items.length

/-- Goes on with a drain that has collected some chunks. Every chunk comes from the payload, so one
poll more than there are items finds the end, a failure or nothing to say. -/
def drainOn (c : Connection) (i : Nat) (collected : List Bytes) : Drain × Connection :=
  drainWithin i (c.waitingItems i + 1) collected c

end Connection

end BoundedPipelining
