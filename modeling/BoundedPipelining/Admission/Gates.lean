import BoundedPipelining.Admission.Limiter

/-!
# Several gates and their tickets

Every admission hands out a ticket, which remembers the gate that issued it and gives its slot
back exactly once: when it is released or dropped. Releasing a ticket at a gate that did not issue
it is a fault of the caller; the ticket is lost in the fault, so its slot still returns to the
issuer.

Gates, tickets and waits are named by their number. A name that stands for nothing, or for
something that is over, is answered with `gone`.
-/

namespace BoundedPipelining

/-- Several gates, the tickets they issued and the waits for them. -/
structure Gates where
  limiters : Array Limiter
  /-- For each ticket its issuer, until the ticket is given up. -/
  tickets : Array (Option Nat) := #[]
  /-- For each wait the gate it waits for, until it is over or dropped. -/
  waits : Array (Option (Nat × IdleWait)) := #[]
  ledger : Ledger := .empty

namespace Gates

/-- Gates of the given depths, all empty. -/
def ofDepths (depths : List Depth) : Gates :=
  { limiters := (depths.map fun d ↦ { max := d : Limiter }).toArray }

/-- What a caller can do with gates, tickets and waits. -/
inductive Step where
  | enter (gate : Nat)
  | release (gate ticket : Nat)
  | drop (ticket : Nat)
  | waitIdle (gate : Nat)
  | pollIdle (wait : Nat)
  | dropIdle (wait : Nat)
  deriving DecidableEq

/-- What the caller learns. -/
inductive Answer where
  | ticket (number : Nat)
  | refused (refusal : LimitExceeded)
  | released
  /-- The ticket was released at a gate that did not issue it. -/
  | foreignTicket
  | dropped
  | waiting (number : Nat)
  | idle
  | pending
  | gone
  deriving DecidableEq

/-- The issuer of a ticket that has not been given up. -/
def issuer? (g : Gates) (ticket : Nat) : Option Nat :=
  (g.tickets[ticket]?).join

/-- Asks one gate for a slot. -/
def enter (g : Gates) (gate : Nat) : Answer × Gates :=
  match g.limiters[gate]? with
  | none => (.gone, g)
  | some l =>
    match (Books.mk l g.ledger).takeSlot with
    | (.error e, b) => (.refused e, { g with ledger := b.ledger })
    | (.ok _, b) =>
      (.ticket g.tickets.size,
        { g with
          limiters := g.limiters.set! gate b.limiter
          tickets := g.tickets.push (some gate)
          ledger := b.ledger })

/-- Gives a ticket up: its slot goes back to the gate that issued it. -/
def giveUp (g : Gates) (ticket issuer : Nat) : Gates :=
  { g with
    limiters := g.limiters.modify issuer Limiter.giveBack
    tickets := g.tickets.set! ticket none
    ledger := g.ledger.mark .slotReturned }

/-- One step of a caller. -/
def step (g : Gates) : Step → Answer × Gates
  | .enter gate => g.enter gate
  | .release gate ticket =>
    match g.issuer? ticket with
    | none => (.gone, g)
    | some issuer =>
      if gate < g.limiters.size then
        (if gate = issuer then .released else .foreignTicket, g.giveUp ticket issuer)
      else (.gone, g)
  | .drop ticket =>
    match g.issuer? ticket with
    | none => (.gone, g)
    | some issuer => (.dropped, g.giveUp ticket issuer)
  | .waitIdle gate =>
    if gate < g.limiters.size then
      (.waiting g.waits.size, { g with waits := g.waits.push (some (gate, .fresh)) })
    else (.gone, g)
  | .pollIdle wait =>
    match (g.waits[wait]?).join with
    | none => (.gone, g)
    | some (gate, w) =>
      match g.limiters[gate]? with
      | none => (.gone, g)
      | some l =>
        match w.poll l with
        | none => (.idle, { g with waits := g.waits.set! wait none })
        | some w => (.pending, { g with waits := g.waits.set! wait (some (gate, w)) })
  | .dropIdle wait =>
    match (g.waits[wait]?).join with
    | none => (.gone, g)
    | some _ => (.dropped, { g with waits := g.waits.set! wait none })

/-- The gates after a list of steps. -/
def run (g : Gates) (steps : List Step) : Gates :=
  steps.foldl (fun g s ↦ (g.step s).2) g

end Gates

end BoundedPipelining
