/-!
# Waking one waiter at a time

A `Notice` wakes the waiter that has been registered longest; with nobody registered it keeps one
permit for the next comer. A waiter that is dropped between being woken and noticing it passes the
wake-up on, so no wake-up is lost.
-/

namespace BoundedPipelining

/-- The waiters of a notice, each under a name of its own. -/
structure Notice (ω : Type) where
  permit : Bool := false
  /-- Registered and not woken, the oldest first. -/
  waiting : List ω := []
  /-- Woken and not polled since. -/
  woken : List ω := []
  deriving DecidableEq

namespace Notice

variable {ω : Type} [DecidableEq ω]

/-- Wakes the oldest waiter, or keeps a permit. -/
def notifyOne (n : Notice ω) : Notice ω :=
  match n.waiting with
  | [] => { n with permit := true }
  | w :: rest => { n with waiting := rest, woken := n.woken ++ [w] }

/-- A newcomer takes the permit, or registers. The answer says whether it may go on. -/
def register (n : Notice ω) (w : ω) : Bool × Notice ω :=
  if n.permit then (true, { n with permit := false })
  else (false, { n with waiting := n.waiting ++ [w] })

/-- A registered waiter asks whether it has been woken. -/
def poll (n : Notice ω) (w : ω) : Bool × Notice ω :=
  if w ∈ n.woken then (true, { n with woken := n.woken.erase w }) else (false, n)

/-- A registered waiter goes away; a wake-up it had not noticed goes to the next. -/
def forget (n : Notice ω) (w : ω) : Notice ω :=
  if w ∈ n.woken then notifyOne { n with woken := n.woken.erase w }
  else { n with waiting := n.waiting.erase w }

end Notice

end BoundedPipelining
