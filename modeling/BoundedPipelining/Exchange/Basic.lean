import BoundedPipelining.Admission.Limiter
import BoundedPipelining.Exchange.Notice
import BoundedPipelining.Exchange.Phase

/-!
# One exchange and the slot it holds

Whoever settles an exchange first takes its ticket and gives the slot back; everyone after that
finds it settled. A failed exchange keeps its first error. Settling wakes one of those who wait
for it.

Advancing an exchange against the order of phases is a fault of the caller. It is reported as a
`violation` and leaves the exchange as it was.
-/

namespace BoundedPipelining

/-- Those who may wait for an exchange to settle, numbered by kind. -/
inductive Waiter where
  | caller (number : Nat)
  | watcher (number : Nat)
  deriving DecidableEq

/-- One exchange. -/
structure Exchange where
  id : ExchangeId
  progress : Progress := .dispatched
  /-- Whether the exchange still holds its slot. -/
  ticket : Bool := true
  settled : Notice Waiter := {}
  deriving DecidableEq

/-- The answer to an exchange's advance. -/
inductive Advance where
  | ok
  /-- The exchange had failed with this error. -/
  | failed (error : ClassifiedError)
  /-- The order of phases forbids the move. -/
  | violation (error : TransitionError)
  deriving DecidableEq

namespace Exchange

/-- The phase of an exchange. -/
def phase (x : Exchange) : Phase := x.progress.phase

/-- The error of a failed exchange. -/
def failure? (x : Exchange) : Option ClassifiedError := x.progress.error?

/-- What the exchange looks like now. -/
def snapshot (x : Exchange) : Snapshot := ⟨x.id, x.progress⟩

/-- The structure of an exchange, for diagnostics. -/
def structureText (x : Exchange) : String :=
  "Exchange \x7b id: " ++ x.id.structureText ++ ", phase: " ++ x.phase.name ++ " \x7d"

/-- Gives up the ticket, if it is still held. -/
def giveBack (x : Exchange) (b : Books) : Exchange × Books :=
  if x.ticket then ({ x with ticket := false }, b.giveBack) else (x, b)

/-- Settles an exchange: the slot goes back, the outcome is counted and a waiter is woken. -/
def settle (x : Exchange) (how : Settlement) (b : Books) : Exchange × Books :=
  let (x, b) := x.giveBack b
  ({ x with settled := x.settled.notifyOne }, b.mark (.settled how))

/-- Moves on to a later phase, and settles on completion. -/
def advance (x : Exchange) (target : Phase) (b : Books) : Advance × Exchange × Books :=
  match x.failure? with
  | some e => (.failed e, x, b)
  | none =>
    match x.progress.advance target with
    | .error e => (.violation e, x, b)
    | .ok p =>
      let x := { x with progress := p }
      if target.isTerminal then (.ok, x.settle .completed b) else (.ok, x, b)

/-- The response headers arrived. -/
def headersReceived (x : Exchange) (b : Books) : Advance × Exchange × Books :=
  x.advance .headersReceived b

/-- The payload was drained to its end. -/
def complete (x : Exchange) (b : Books) : Advance × Exchange × Books :=
  x.advance .completed b

/-- The caller started to take the payload; this matters only right after the headers. -/
def draining (x : Exchange) : Exchange :=
  match x.progress with
  | .headersReceived => { x with progress := .payloadDraining }
  | _ => x

/-- Fails an exchange and answers with the error its caller should see: the first one, if it had
failed before. A completed exchange stays completed. -/
def fail (x : Exchange) (e : ClassifiedError) (b : Books) : ClassifiedError × Exchange × Books :=
  match x.failure? with
  | some kept => (kept, x, b)
  | none =>
    match x.progress.fail e with
    | .ok p => (e, ({ x with progress := p }).settle .failed b)
    | .error _ => (e, x, b)

end Exchange

/-! ## Waiting for an exchange to settle -/

/-- A wait for an exchange to settle. -/
inductive SettledWait where
  /-- Has not looked yet. -/
  | fresh
  /-- Registered with the exchange's notice. -/
  | registered
  deriving DecidableEq

namespace SettledWait

/-- Polls the wait of `who`; nothing is left of it once it is over. -/
def poll (s : SettledWait) (who : Waiter) (x : Exchange) : Option SettledWait × Exchange :=
  match s with
  | fresh =>
    if x.phase.isTerminal then (none, x)
    else
      let (ready, n) := x.settled.register who
      (if ready then none else some registered, { x with settled := n })
  | registered =>
    let (ready, n) := x.settled.poll who
    (if ready then none else some registered, { x with settled := n })

/-- Drops the wait of `who`. -/
def drop (s : SettledWait) (who : Waiter) (x : Exchange) : Exchange :=
  match s with
  | fresh => x
  | registered => { x with settled := x.settled.forget who }

end SettledWait

/-! ## The close watcher -/

/-- The watcher of an exchange: it waits for the exchange to settle, and fails it if the
connection closes first. This is what gives back the slots of responses nobody drains. -/
inductive Watch where
  | waiting (wait : SettledWait)
  | finished
  deriving DecidableEq

namespace Watch

/-- A watcher that has not looked yet. -/
def fresh : Watch := .waiting .fresh

/-- Whether the watcher is still at work. -/
def isLive : Watch → Bool
  | waiting _ => true
  | finished => false

/-- How many polls can still change the watcher. -/
def remaining : Watch → Nat
  | waiting .fresh => 2
  | waiting .registered => 1
  | finished => 0

/-- Polls the watcher called `who`. A settled exchange is looked for before the terminal error, so
an exchange that settled by itself is left as it is. -/
def poll (w : Watch) (who : Waiter) (x : Exchange) (terminal : Option ClassifiedError)
    (b : Books) : Watch × Exchange × Books :=
  match w with
  | finished => (finished, x, b)
  | waiting s =>
    match s.poll who x with
    | (none, x) => (finished, x, b)
    | (some s, x) =>
      match terminal with
      | none => (waiting s, x, b)
      | some e => (finished, ((s.drop who x).fail e b).2)

end Watch

end BoundedPipelining
