import BoundedPipelining.Failure.Classified

/-!
# The ledger of counted events

Five families of numbers describe what connections did: requests admitted, requests rejected by
reason, slots in use, exchanges settled by outcome and connections closed by reason. Each event is
a `Mark`, and a `Ledger` is what a run of marks adds up to.

A number appears in the ledger's `lines` from its first mark on. A counter has been touched exactly
when it is positive; the number of slots in use can be touched and zero, so it is optional.
-/

namespace BoundedPipelining

/-- Why a request was turned away before it was written. -/
inductive Rejection where
  | limitExceeded
  | closing
  | closed
  deriving DecidableEq

/-- The label under which a rejection is counted. -/
def Rejection.label : Rejection → String
  | limitExceeded => "limit_exceeded"
  | closing => "closing"
  | closed => "closed"

/-- How an exchange ended. -/
inductive Settlement where
  | completed
  | failed
  deriving DecidableEq

/-- The label under which a settlement is counted. -/
def Settlement.label : Settlement → String
  | completed => "completed"
  | failed => "failed"

/-- One counted event. -/
inductive Mark where
  | admitted
  | rejected (why : Rejection)
  | slotTaken
  | slotReturned
  | settled (how : Settlement)
  | connectionClosed (why : CloseReason)
  deriving DecidableEq

/-- What a run of marks adds up to. -/
structure Ledger where
  admitted : Nat := 0
  rejectedLimit : Nat := 0
  rejectedClosing : Nat := 0
  rejectedClosed : Nat := 0
  /-- Slots in use, or nothing before the first slot moves. -/
  slots : Option Int := none
  completed : Nat := 0
  failed : Nat := 0
  closedGraceful : Nat := 0
  closedAbrupt : Nat := 0
  deriving DecidableEq

namespace Ledger

/-- The ledger before any event. -/
def empty : Ledger := {}

/-- The number of requests rejected for one reason. -/
def rejected (m : Ledger) : Rejection → Nat
  | .limitExceeded => m.rejectedLimit
  | .closing => m.rejectedClosing
  | .closed => m.rejectedClosed

/-- The number of exchanges settled in one way. -/
def settled (m : Ledger) : Settlement → Nat
  | .completed => m.completed
  | .failed => m.failed

/-- The number of connections closed for one reason. -/
def connectionsClosed (m : Ledger) : CloseReason → Nat
  | .gracefulCloseInterrupted => m.closedGraceful
  | .abruptChannelClosed => m.closedAbrupt

/-- The number of slots in use, zero before the first slot moves. -/
def slotsInUse (m : Ledger) : Int := m.slots.getD 0

/-- The ledger after one more event. -/
def mark (m : Ledger) : Mark → Ledger
  | .admitted => { m with admitted := m.admitted + 1 }
  | .rejected .limitExceeded => { m with rejectedLimit := m.rejectedLimit + 1 }
  | .rejected .closing => { m with rejectedClosing := m.rejectedClosing + 1 }
  | .rejected .closed => { m with rejectedClosed := m.rejectedClosed + 1 }
  | .slotTaken => { m with slots := some (m.slotsInUse + 1) }
  | .slotReturned => { m with slots := some (m.slotsInUse - 1) }
  | .settled .completed => { m with completed := m.completed + 1 }
  | .settled .failed => { m with failed := m.failed + 1 }
  | .connectionClosed .gracefulCloseInterrupted =>
    { m with closedGraceful := m.closedGraceful + 1 }
  | .connectionClosed .abruptChannelClosed => { m with closedAbrupt := m.closedAbrupt + 1 }

/-! ## What one event moves -/

section Mark

variable (m : Ledger) (e : Mark)

theorem admitted_mark : (m.mark e).admitted = m.admitted + if e = .admitted then 1 else 0 := by
  cases e with
  | admitted | slotTaken | slotReturned => rfl
  | rejected why => cases why <;> rfl
  | settled how => cases how <;> rfl
  | connectionClosed why => cases why <;> rfl

theorem rejected_mark (why : Rejection) :
    (m.mark e).rejected why = m.rejected why + if e = .rejected why then 1 else 0 := by
  cases e with
  | admitted | slotTaken | slotReturned => cases why <;> rfl
  | rejected why' => cases why' <;> cases why <;> rfl
  | settled how => cases how <;> cases why <;> rfl
  | connectionClosed reason => cases reason <;> cases why <;> rfl

theorem slotsInUse_mark : (m.mark e).slotsInUse
    = m.slotsInUse + (if e = .slotTaken then 1 else 0) - if e = .slotReturned then 1 else 0 := by
  cases e with
  | admitted | slotTaken | slotReturned => simp [mark, slotsInUse]
  | rejected why => cases why <;> simp [mark, slotsInUse]
  | settled how => cases how <;> simp [mark, slotsInUse]
  | connectionClosed why => cases why <;> simp [mark, slotsInUse]

theorem settled_mark (how : Settlement) :
    (m.mark e).settled how = m.settled how + if e = .settled how then 1 else 0 := by
  cases e with
  | admitted | slotTaken | slotReturned => cases how <;> rfl
  | rejected why => cases why <;> cases how <;> rfl
  | settled how' => cases how' <;> cases how <;> rfl
  | connectionClosed why => cases why <;> cases how <;> rfl

theorem connectionsClosed_mark (why : CloseReason) : (m.mark e).connectionsClosed why
    = m.connectionsClosed why + if e = .connectionClosed why then 1 else 0 := by
  cases e with
  | admitted | slotTaken | slotReturned => cases why <;> rfl
  | rejected why' => cases why' <;> cases why <;> rfl
  | settled how => cases how <;> cases why <;> rfl
  | connectionClosed why' => cases why' <;> cases why <;> rfl

end Mark

/-! ## The written form -/

/-- One line: the series, its label in braces if it has one, and the number. -/
def line (series : String) (label : Option (String × String)) (value : String) : String :=
  match label with
  | none => series ++ " " ++ value
  | some (key, of) => series ++ "\x7b" ++ key ++ "=\"" ++ of ++ "\"\x7d " ++ value

/-- The line of a counter, absent while the counter is untouched. -/
def counterLine (series : String) (label : Option (String × String)) (n : Nat) : List String :=
  if n = 0 then [] else [line series label (toString n)]

/-- The lines of every touched series, in the order of their text. -/
def lines (m : Ledger) : List String :=
  counterLine "pipeline_admitted_total" none m.admitted
    ++ counterLine "pipeline_connections_closed_total" (some ("reason", "abrupt")) m.closedAbrupt
    ++ counterLine "pipeline_connections_closed_total" (some ("reason", "graceful"))
        m.closedGraceful
    ++ counterLine "pipeline_exchanges_total" (some ("outcome", "completed")) m.completed
    ++ counterLine "pipeline_exchanges_total" (some ("outcome", "failed")) m.failed
    ++ (m.slots.map fun n ↦ line "pipeline_in_flight" none (toString n)).toList
    ++ counterLine "pipeline_rejected_total" (some ("reason", "closed")) m.rejectedClosed
    ++ counterLine "pipeline_rejected_total" (some ("reason", "closing")) m.rejectedClosing
    ++ counterLine "pipeline_rejected_total" (some ("reason", "limit_exceeded")) m.rejectedLimit

end Ledger

end BoundedPipelining
