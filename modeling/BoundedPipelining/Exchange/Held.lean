import BoundedPipelining.Exchange.Basic
import BoundedPipelining.Lifecycle.Tracker

/-!
# Exchanges and those who hold them

Several exchanges share one gate, one tracker and one registry. An exchange lives as long as
someone holds it: its owner, the registry, a wait for it to settle or a close watcher. When the
last of them lets go of an exchange that never settled, its slot goes back and no outcome is
counted.
-/

namespace BoundedPipelining

/-- An exchange and whether its owner still holds it. -/
structure Holding where
  exchange : Exchange
  owned : Bool := true

/-- Exchanges, and everything that holds or concerns them. -/
structure Held where
  books : Books
  tracker : Tracker := .opened
  sequence : ExchangeSequence := {}
  /-- The numbers of the registered exchanges, the oldest first. -/
  registry : List ExchangeId := []
  holdings : Array Holding := #[]
  /-- For each wait the exchange it is for, until it is over or dropped. -/
  waits : Array (Option (Nat × SettledWait)) := #[]
  /-- For each watcher the exchange it watches. -/
  watches : Array (Nat × Watch) := #[]

namespace Held

/-- Nothing held yet, over a gate of the given depth. -/
def ofDepth (d : Depth) : Held :=
  { books := { limiter := { max := d }, ledger := .empty } }

/-- What can be done with exchanges. -/
inductive Step where
  | new
  | headers (exchange : Nat)
  | complete (exchange : Nat)
  | draining (exchange : Nat)
  | fail (exchange : Nat) (announced : Bool) (cause : Option TransportError)
  | failure (exchange : Nat)
  | snapshot (exchange : Nat)
  | describe (exchange : Nat)
  | unregister (exchange : Nat)
  | drop (exchange : Nat)
  | waitSettled (exchange : Nat)
  | watch (exchange : Nat)
  | pollSettled (wait : Nat)
  | pollWatch (watch : Nat)
  | dropSettled (wait : Nat)
  | dropWatch (watch : Nat)
  | markClosing
  | close (cause : Option TransportError)

/-- What is learnt from a step. -/
inductive Answer where
  | exchange (number : Nat)
  | refused (refusal : LimitExceeded)
  | ok
  | error (e : ClassifiedError)
  | noError
  /-- The exchange called `id` was advanced against the order of phases. -/
  | violation (e : TransitionError) (id : ExchangeId)
  | snapshot (s : Snapshot)
  /-- The exchange is to be shown. -/
  | shown (x : Exchange)
  | yes (b : Bool)
  | dropped
  | waiting (number : Nat)
  | watching (number : Nat)
  | pending
  | done
  | gone
  deriving DecidableEq

/-- The exchange of a holding whose owner still holds it. -/
def owned? (h : Held) (i : Nat) : Option Exchange :=
  match h.holdings[i]? with
  | some held => if held.owned then some held.exchange else none
  | none => none

/-- Puts an exchange back in its place. -/
def put (h : Held) (i : Nat) (x : Exchange) : Held :=
  { h with holdings := h.holdings.modify i fun held ↦ { held with exchange := x } }

/-- Whether anyone holds the exchange `i`. -/
def isHeld (h : Held) (i : Nat) (held : Holding) : Bool :=
  held.owned || h.registry.contains held.exchange.id
    || h.waits.any (fun w ↦ w.any fun w ↦ w.1 == i)
    || h.watches.any (fun w ↦ w.1 == i && w.2.isLive)

/-- Gives back the slot of the exchange `i` if nobody holds the exchange any more. -/
def reclaimAt (h : Held) (i : Nat) : Held :=
  match h.holdings[i]? with
  | none => h
  | some held =>
    if h.isHeld i held then h
    else
      let (x, books) := held.exchange.giveBack h.books
      { h.put i x with books }

/-- Gives back the slots of all exchanges that nobody holds any more. -/
def reclaim (h : Held) : Held :=
  (List.range h.holdings.size).foldl reclaimAt h

/-- The answer to an advance of the exchange called `id`. -/
def answerAdvance (id : ExchangeId) : Advance → Answer
  | .ok => .ok
  | .failed e => .error e
  | .violation e => .violation e id

/-- Applies an advance to an owned exchange. -/
def advanceWith (h : Held) (i : Nat) (act : Exchange → Books → Advance × Exchange × Books) :
    Answer × Held :=
  match h.owned? i with
  | none => (.gone, h)
  | some x =>
    let (a, y, books) := act x h.books
    (answerAdvance x.id a, { h.put i y with books })

/-- Looks at an owned exchange. -/
def look (h : Held) (i : Nat) (view : Exchange → Answer) : Answer × Held :=
  match h.owned? i with
  | none => (.gone, h)
  | some x => (view x, h)

/-- One step, before the unheld exchanges are reclaimed. -/
def act (h : Held) : Step → Answer × Held
  | .new =>
    match h.books.takeSlot with
    | (.error e, books) => (.refused e, { h with books })
    | (.ok _, books) =>
      let (id, sequence) := h.sequence.next
      (.exchange h.holdings.size,
        { h with
          books, sequence
          registry := h.registry ++ [id]
          holdings := h.holdings.push { exchange := { id } } })
  | .headers i => h.advanceWith i Exchange.headersReceived
  | .complete i => h.advanceWith i Exchange.complete
  | .draining i =>
    match h.owned? i with
    | none => (.gone, h)
    | some x => (.ok, h.put i x.draining)
  | .fail i announced cause =>
    match h.owned? i with
    | none => (.gone, h)
    | some x =>
      let (e, y, books) := x.fail (classify announced cause) h.books
      (.error e, { h.put i y with books })
  | .failure i => h.look i fun x ↦ x.failure?.elim .noError .error
  | .snapshot i => h.look i fun x ↦ .snapshot x.snapshot
  | .describe i => h.look i .shown
  | .unregister i =>
    match h.owned? i with
    | none => (.gone, h)
    | some x =>
      (.yes (h.registry.contains x.id), { h with registry := h.registry.erase x.id })
  | .drop i =>
    match h.owned? i with
    | none => (.gone, h)
    | some _ =>
      (.dropped,
        { h with holdings := h.holdings.modify i fun held ↦ { held with owned := false } })
  | .waitSettled i =>
    match h.owned? i with
    | none => (.gone, h)
    | some _ => (.waiting h.waits.size, { h with waits := h.waits.push (some (i, .fresh)) })
  | .watch i =>
    match h.owned? i with
    | none => (.gone, h)
    | some _ => (.watching h.watches.size, { h with watches := h.watches.push (i, .fresh) })
  | .pollSettled k =>
    match (h.waits[k]?).join with
    | none => (.gone, h)
    | some (i, s) =>
      match h.holdings[i]? with
      | none => (.gone, h)
      | some held =>
        let (s, x) := s.poll (.caller k) held.exchange
        (if s.isSome then .pending else .done,
          { h.put i x with waits := h.waits.set! k (s.map fun s ↦ (i, s)) })
  | .pollWatch k =>
    match h.watches[k]? with
    | some (i, .waiting s) =>
      match h.holdings[i]? with
      | none => (.gone, h)
      | some held =>
        let (w, x, books) :=
          (Watch.waiting s).poll (.watcher k) held.exchange h.tracker.terminal? h.books
        let h := { h.put i x with books, watches := h.watches.set! k (i, w) }
        if w.isLive then (.pending, h) else (.done, { h with registry := h.registry.erase x.id })
    | _ => (.gone, h)
  | .dropSettled k =>
    match (h.waits[k]?).join with
    | none => (.gone, h)
    | some (i, s) =>
      match h.holdings[i]? with
      | none => (.gone, h)
      | some held =>
        (.dropped,
          { h.put i (s.drop (.caller k) held.exchange) with waits := h.waits.set! k none })
  | .dropWatch k =>
    match h.watches[k]? with
    | some (i, .waiting s) =>
      match h.holdings[i]? with
      | none => (.gone, h)
      | some held =>
        (.dropped,
          { h.put i (s.drop (.watcher k) held.exchange) with
            watches := h.watches.set! k (i, .finished) })
    | _ => (.gone, h)
  | .markClosing =>
    (.yes (h.tracker == .opened), { h with tracker := h.tracker.markClosing })
  | .close cause =>
    let (e, tracker, ledger) := h.tracker.close cause h.books.ledger
    (.error e, { h with tracker, books := { h.books with ledger } })

/-- One step, after which the slots of unheld exchanges go back. -/
def step (h : Held) (s : Step) : Answer × Held :=
  let (a, h) := h.act s
  (a, h.reclaim)

/-- The state after a list of steps. -/
def run (h : Held) (steps : List Step) : Held :=
  steps.foldl (fun h s ↦ (h.step s).2) h

end Held

end BoundedPipelining
