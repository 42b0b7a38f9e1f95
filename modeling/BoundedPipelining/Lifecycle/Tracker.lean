import BoundedPipelining.Metrics.Ledger

/-!
# The life of a connection

A connection is open, then possibly closing, then closed, and never goes back. The first close
classifies the teardown and its error is kept for good: every later close returns it, and every
subscriber of the terminal signal, early or late, is told the same error.

The state and the error are one value, so a tracker has an error exactly when it is closed.
-/

namespace BoundedPipelining

/-- The three states of a connection, in their order. -/
inductive ConnectionState where
  /-- Accepting and serving exchanges. -/
  | opened
  /-- The peer announced a graceful close; what is in flight may finish. -/
  | closing
  /-- Torn down for good. -/
  | closed
  deriving DecidableEq

namespace ConnectionState

/-- The name of a state. -/
def name : ConnectionState → String
  | opened => "Open"
  | closing => "Closing"
  | closed => "Closed"

/-- The number of a state. -/
def code : ConnectionState → Nat
  | opened => 0
  | closing => 1
  | closed => 2

/-- The state with a given number; every number past the known ones means closed. -/
def ofCode : Nat → ConnectionState
  | 0 => opened
  | 1 => closing
  | _ => closed

@[simp] theorem ofCode_code (s : ConnectionState) : ofCode s.code = s := by
  cases s <;> rfl

end ConnectionState

/-- Where a connection stands. -/
inductive Tracker where
  | opened
  | closing
  | closed (error : ClassifiedError)
  deriving DecidableEq

namespace Tracker

/-- The state of a connection. -/
def state : Tracker → ConnectionState
  | opened => .opened
  | closing => .closing
  | closed _ => .closed

/-- Whether the connection is torn down. -/
def isClosed : Tracker → Bool
  | closed _ => true
  | opened | closing => false

/-- The error the connection closed with. -/
def terminal? : Tracker → Option ClassifiedError
  | closed e => some e
  | opened | closing => none

/-- The peer announced a graceful close, which only an open connection heeds. -/
def markClosing : Tracker → Tracker
  | opened => closing
  | t => t

/-- The error that a close returns: the one already kept, or the classification of this close. -/
def closeError (t : Tracker) (cause : Option TransportError) : ClassifiedError :=
  match t with
  | opened => classify false cause
  | closing => classify true cause
  | closed e => e

/-- Closes the connection and counts it, unless it was closed before. -/
def close (t : Tracker) (cause : Option TransportError) (m : Ledger) :
    ClassifiedError × Tracker × Ledger :=
  match t with
  | closed e => (e, .closed e, m)
  | t => (t.closeError cause, .closed (t.closeError cause),
      m.mark (.connectionClosed (t.closeError cause).reason))

/-- What a subscriber of the terminal signal is told by a tracker that was dropped: its error, or
that the channel went away without a word. -/
def lastWord (t : Tracker) : ClassifiedError :=
  t.terminal?.getD (classify false none)

@[simp] theorem close_fst (t : Tracker) (cause : Option TransportError) (m : Ledger) :
    (t.close cause m).1 = t.closeError cause := by
  cases t <;> rfl

@[simp] theorem close_tracker (t : Tracker) (cause : Option TransportError) (m : Ledger) :
    (t.close cause m).2.1 = .closed (t.closeError cause) := by
  cases t <;> rfl

theorem isClosed_iff {t : Tracker} : t.isClosed = true ↔ t.state = .closed := by
  cases t <;> simp [isClosed, state]

theorem terminal?_eq_some_iff {t : Tracker} {e : ClassifiedError} :
    t.terminal? = some e ↔ t = .closed e := by
  cases t <;> simp [terminal?]

theorem terminal?_eq_none_iff {t : Tracker} : t.terminal? = none ↔ t.isClosed = false := by
  cases t <;> simp [terminal?, isClosed]

theorem terminal?_isSome (t : Tracker) : t.terminal?.isSome = t.isClosed := by
  cases t <;> rfl

/-- The structure of a tracker of the connection called `connection`, for diagnostics. -/
def structureText (t : Tracker) (connection : String) : String :=
  "LifecycleTracker \x7b connection: " ++ connection ++ ", state: " ++ t.state.name
    ++ ", terminal_error: "
    ++ (match t.terminal? with
      | none => "None"
      | some e => "Some(" ++ e.structureText ++ ")")
    ++ " \x7d"

end Tracker

end BoundedPipelining
