import BoundedPipelining.Failure.Classified

/-!
# The phases of an exchange

An exchange is dispatched, receives its response headers, drains its payload and completes; from
each of the first three phases it may fail instead. Phases only move forward, and a completed or
failed exchange never changes again.

`Phase` names the place, `Progress` is the place together with the error of a failed exchange, so
an exchange has an error exactly when it has failed.
-/

namespace BoundedPipelining

/-- The phases of an exchange, in their order. -/
inductive Phase where
  | dispatched
  | headersReceived
  | payloadDraining
  | completed
  | failed
  deriving DecidableEq

namespace Phase

/-- Every phase, in order. -/
def all : List Phase := [dispatched, headersReceived, payloadDraining, completed, failed]

/-- The place of a phase in the order. -/
def rank : Phase → Nat
  | dispatched => 0
  | headersReceived => 1
  | payloadDraining => 2
  | completed => 3
  | failed => 4

/-- The name of a phase. -/
def name : Phase → String
  | dispatched => "Dispatched"
  | headersReceived => "HeadersReceived"
  | payloadDraining => "PayloadDraining"
  | completed => "Completed"
  | failed => "Failed"

/-- The phase with a given name. -/
def ofName? (s : String) : Option Phase :=
  all.find? fun p ↦ p.name == s

instance : LE Phase := ⟨fun a b ↦ a.rank ≤ b.rank⟩

instance (a b : Phase) : Decidable (a ≤ b) := inferInstanceAs (Decidable (a.rank ≤ b.rank))

/-- The order of two phases. -/
def order (a b : Phase) : Ordering := compare a.rank b.rank

/-- Completed and failed exchanges are settled. -/
def isTerminal : Phase → Bool
  | completed | failed => true
  | dispatched | headersReceived | payloadDraining => false

/-- An exchange holds its slot until it is settled. -/
def holdsSlot (p : Phase) : Bool := !p.isTerminal

end Phase

/-- A move that the order of phases forbids. -/
structure TransitionError where
  source : Phase
  target : Phase
  deriving DecidableEq

/-- The forbidden move in words. -/
def TransitionError.message (e : TransitionError) : String :=
  "invalid exchange transition " ++ e.source.name ++ " → " ++ e.target.name

/-- Where an exchange stands. -/
inductive Progress where
  | dispatched
  | headersReceived
  | payloadDraining
  | completed
  | failed (error : ClassifiedError)
  deriving DecidableEq

namespace Progress

/-- The phase of an exchange. -/
def phase : Progress → Phase
  | dispatched => .dispatched
  | headersReceived => .headersReceived
  | payloadDraining => .payloadDraining
  | completed => .completed
  | failed _ => .failed

/-- The error of a failed exchange. -/
def error? : Progress → Option ClassifiedError
  | failed e => some e
  | _ => none

/-- The place that a phase names, absent for failure, which needs an error. -/
def ofPhase? : Phase → Option Progress
  | .dispatched => some dispatched
  | .headersReceived => some headersReceived
  | .payloadDraining => some payloadDraining
  | .completed => some completed
  | .failed => none

/-- Moves to a later phase other than failure. -/
def advance (p : Progress) (target : Phase) : Except TransitionError Progress :=
  match ofPhase? target with
  | none => .error ⟨p.phase, target⟩
  | some q => if p.phase.isTerminal ∨ target ≤ p.phase then .error ⟨p.phase, target⟩ else .ok q

/-- Fails an exchange that is not settled yet. -/
def fail (p : Progress) (e : ClassifiedError) : Except TransitionError Progress :=
  if p.phase.isTerminal then .error ⟨p.phase, .failed⟩ else .ok (failed e)

theorem error?_isSome_iff {p : Progress} : p.error?.isSome = true ↔ p.phase = .failed := by
  cases p <;> simp [error?, phase]

end Progress

/-- The number of an exchange on its connection, from one. -/
structure ExchangeId where
  number : Nat
  deriving DecidableEq

namespace ExchangeId

/-- The name of an exchange. -/
def text (i : ExchangeId) : String := "exchange-" ++ toString i.number

/-- The structure of an identity, for diagnostics. -/
def structureText (i : ExchangeId) : String := "ExchangeId(" ++ toString i.number ++ ")"

end ExchangeId

/-- The source of a connection's exchange numbers. -/
structure ExchangeSequence where
  drawn : Nat := 0
  deriving DecidableEq

/-- Draws the next number. -/
def ExchangeSequence.next (s : ExchangeSequence) : ExchangeId × ExchangeSequence :=
  (⟨s.drawn + 1⟩, ⟨s.drawn + 1⟩)

/-- What an exchange looks like at one moment. -/
structure Snapshot where
  id : ExchangeId
  progress : Progress
  deriving DecidableEq

end BoundedPipelining
