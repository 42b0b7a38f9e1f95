import BoundedPipelining.Failure.Refusal
import BoundedPipelining.Metrics.Ledger

/-!
# The admission gate

A `Limiter` admits at most `max` exchanges at a time. Admission takes a slot and the end of an
exchange gives it back; the gate also counts how often it fell empty, which is what a caller who
waits for it to be idle goes by. A waiter that found the gate busy looks again only after the gate
has fallen empty since, so a gate that fell empty and filled up again in the meantime leaves the
waiter waiting.

`Books` pairs a gate with the ledger, so that no slot moves without being counted.
-/

namespace BoundedPipelining

/-- The number of exchanges a connection may carry at a time, at least one. -/
structure Depth where
  val : Nat
  pos : 0 < val := by decide
  deriving DecidableEq

/-- The depth with a given value, absent at zero. -/
def Depth.ofNat? (n : Nat) : Option Depth :=
  if h : 0 < n then some ⟨n, h⟩ else none

/-- A gate of fixed capacity. -/
structure Limiter where
  max : Depth
  /-- The number of slots taken. -/
  inFlight : Nat := 0
  /-- How often the number of slots taken has fallen to zero. -/
  emptied : Nat := 0
  deriving DecidableEq

namespace Limiter

/-- Takes a slot, unless all are taken. -/
def take? (l : Limiter) : Option Limiter :=
  if l.inFlight < l.max.val then some { l with inFlight := l.inFlight + 1 } else none

/-- Gives one slot back. -/
def giveBack (l : Limiter) : Limiter :=
  if l.inFlight ≤ 1 then { l with inFlight := 0, emptied := l.emptied + 1 }
  else { l with inFlight := l.inFlight - 1 }

@[simp] theorem inFlight_giveBack (l : Limiter) : l.giveBack.inFlight = l.inFlight - 1 := by
  unfold giveBack; split <;> simp; omega

@[simp] theorem max_giveBack (l : Limiter) : l.giveBack.max = l.max := by
  unfold giveBack; split <;> rfl

end Limiter

/-! ## Waiting for an idle gate -/

/-- A caller's wait for the gate to be idle. -/
inductive IdleWait where
  /-- Has not looked yet. -/
  | fresh
  /-- Found the gate busy when it had fallen empty `emptied` times. -/
  | since (emptied : Nat)
  deriving DecidableEq

namespace IdleWait

/-- Looks at the gate: the wait is over, or it goes on from the present. -/
def look (l : Limiter) : Option IdleWait :=
  if l.inFlight = 0 then none else some (.since l.emptied)

/-- Polls a wait; nothing is left of it once the gate is idle. -/
def poll (l : Limiter) : IdleWait → Option IdleWait
  | fresh => look l
  | since n => if n = l.emptied then some (.since n) else look l

end IdleWait

/-! ## The gate and the ledger -/

/-- A gate and the ledger in which its slots are counted. -/
structure Books where
  limiter : Limiter
  ledger : Ledger
  deriving DecidableEq

namespace Books

/-- Asks for a slot. A refusal is counted and changes nothing else. -/
def takeSlot (b : Books) : Except LimitExceeded Unit × Books :=
  match b.limiter.take? with
  | some l => (.ok (), ⟨l, (b.ledger.mark .admitted).mark .slotTaken⟩)
  | none =>
    (.error ⟨b.limiter.max.val⟩, { b with ledger := b.ledger.mark (.rejected .limitExceeded) })

/-- Gives one slot back. -/
def giveBack (b : Books) : Books :=
  ⟨b.limiter.giveBack, b.ledger.mark .slotReturned⟩

/-- Counts an event that moves no slot. -/
def mark (b : Books) (e : Mark) : Books :=
  { b with ledger := b.ledger.mark e }

theorem takeSlot_of_lt {b : Books} (h : b.limiter.inFlight < b.limiter.max.val) :
    b.takeSlot = (.ok (), ⟨{ b.limiter with inFlight := b.limiter.inFlight + 1 },
      (b.ledger.mark .admitted).mark .slotTaken⟩) := by
  simp only [takeSlot, Limiter.take?, if_pos h]

theorem takeSlot_of_le {b : Books} (h : b.limiter.max.val ≤ b.limiter.inFlight) :
    b.takeSlot = (.error ⟨b.limiter.max.val⟩, b.mark (.rejected .limitExceeded)) := by
  simp only [takeSlot, Limiter.take?, if_neg (Nat.not_lt.mpr h)]
  rfl

end Books

end BoundedPipelining
