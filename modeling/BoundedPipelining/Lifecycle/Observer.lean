import BoundedPipelining.Lifecycle.Tracker

/-!
# Watching the channel

An `Observer` feeds three notifications of the channel into a tracker until the channel is torn
down: the peer announced a graceful close, the channel closed, an operation failed. At every poll
it looks at them in this order, heeds the announcement once and goes on looking, and ends with the
first teardown it finds. So an announcement that is ready together with a teardown counts before
it.
-/

namespace BoundedPipelining

/-- Which notifications of the channel are ready. -/
structure Notices where
  closing : Bool := false
  close : Bool := false
  error : Option TransportError := none
  deriving DecidableEq

/-- The observer's place in its work. -/
inductive Observer where
  /-- Watching; `seen` says that the announcement has been heeded. -/
  | watching (seen : Bool)
  /-- It reported a teardown, or was dropped. -/
  | finished
  deriving DecidableEq

namespace Observer

/-- A look at a notification, with what it found. -/
inductive Look where
  | closing (ready : Bool)
  | close (ready : Bool)
  | error (found : Option TransportError)
  deriving DecidableEq

/-- The notification that is picked. -/
inductive Pick where
  | closing
  | close
  | error (e : TransportError)
  | nothing

/-- What a look picks, if it finds something ready. -/
def Look.pick? : Look → Option Pick
  | closing true => some .closing
  | close true => some .close
  | error (some e) => some (.error e)
  | closing false | close false | error none => none

/-- The looks at the channel in their order. The announcement is left out once it has been
heeded. -/
def inOrder (seen : Bool) (n : Notices) : List Look :=
  (if seen then [] else [.closing n.closing]) ++ [.close n.close, .error n.error]

/-- The first ready notification that has not been heeded yet. -/
def pick (seen : Bool) (n : Notices) : Pick :=
  ((inOrder seen n).findSome? Look.pick?).getD .nothing

theorem pick_eq (seen : Bool) (n : Notices) : pick seen n =
    if n.closing = true ∧ ¬ seen = true then .closing
    else if n.close = true then .close
    else match n.error with
      | some e => .error e
      | none => .nothing := by
  obtain ⟨closing, close, error⟩ := n
  cases seen <;> cases closing <;> cases close <;> cases error <;> rfl

/-- What follows from a pick once the announcement is out of the way. -/
def conclude (seen : Bool) (p : Pick) (t : Tracker) (m : Ledger) : Observer × Tracker × Ledger :=
  match p with
  | .close => (.finished, (t.close none m).2)
  | .error e => (.finished, (t.close (some e) m).2)
  | .closing | .nothing => (.watching seen, t, m)

/-- Polls the observer: an announcement is heeded and the channel is looked at again. -/
def poll (o : Observer) (n : Notices) (t : Tracker) (m : Ledger) : Observer × Tracker × Ledger :=
  match o with
  | .finished => (.finished, t, m)
  | .watching seen =>
    match pick seen n with
    | .closing => conclude true (pick true n) t.markClosing m
    | p => conclude seen p t m

/-- How many polls can still change the observer. -/
def remaining : Observer → Nat
  | .watching false => 2
  | .watching true => 1
  | .finished => 0

end Observer

end BoundedPipelining
