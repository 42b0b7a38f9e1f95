import BoundedPipelining.Lifecycle.Observer

/-!
# A tracker and everyone who watches it

One owner holds the tracker, subscribers hold its terminal signal, and an observer may be feeding
it from three alarms that the owner fires by hand. A live observer keeps the tracker alive after
its owner let go; when nobody holds it any more it vanishes, and the terminal signal then tells
its last word.
-/

namespace BoundedPipelining

/-- A notification that is fired at most once. -/
inductive Alarm (α : Type) where
  /-- Not fired yet. -/
  | armed
  /-- Fired while someone listened. -/
  | fired (value : α)
  /-- Fired when nobody listened any more. -/
  | spent
  deriving DecidableEq

namespace Alarm

variable {α : Type}

/-- The value of an alarm that was heard. -/
def heard? : Alarm α → Option α
  | fired a => some a
  | armed | spent => none

/-- Fires an alarm. The answer says whether it was heard, and is absent if it was fired before. -/
def fire (a : Alarm α) (listened : Bool) (value : α) : Option Bool × Alarm α :=
  match a with
  | armed => if listened then (some true, .fired value) else (some false, .spent)
  | a => (none, a)

end Alarm

/-- An observer and the three alarms made for it. -/
structure Observation where
  observer : Observer := .watching false
  closing : Alarm Unit := .armed
  close : Alarm Unit := .armed
  error : Alarm TransportError := .armed

namespace Observation

/-- Whether the observer is still at work. -/
def isLive (o : Observation) : Bool :=
  match o.observer with
  | .watching _ => true
  | .finished => false

/-- The notifications that are ready. -/
def notices (o : Observation) : Notices :=
  { closing := o.closing.heard?.isSome, close := o.close.heard?.isSome, error := o.error.heard? }

end Observation

/-- A tracker, its owner, its subscribers and its observer. -/
structure Watched where
  tracker : Tracker := .opened
  /-- Whether the owner still holds the tracker. -/
  owned : Bool := true
  subscribers : Nat := 0
  observation : Option Observation := none
  ledger : Ledger := .empty

namespace Watched

/-- The three alarms, with the value each is fired with. -/
inductive Firing where
  | closing
  | close
  | error (e : TransportError)

/-- What can be done with a tracker and those who watch it. -/
inductive Step where
  | markClosing
  | close (cause : Option TransportError)
  | terminalError
  | describe
  | subscribe
  | poll (subscriber : Nat)
  | observe
  | fire (f : Firing)
  | pollObserver
  | dropObserver
  | drop

/-- What is learnt from a step. -/
inductive Answer where
  | moved (yes : Bool)
  | error (e : ClassifiedError)
  | noError
  /-- The tracker is to be shown. -/
  | shown (t : Tracker)
  | subscriber (number : Nat)
  | observing
  /-- Whether a fired alarm was heard, absent if it had been fired before. -/
  | fired (heard : Option Bool)
  | pending
  | done
  | dropped
  | gone

/-- Whether an observer is at work. -/
def isObserved (w : Watched) : Bool :=
  w.observation.any Observation.isLive

/-- What the terminal signal tells, if it tells anything yet. -/
def signal? (w : Watched) : Option ClassifiedError :=
  if w.owned ∨ w.isObserved then w.tracker.terminal? else some w.tracker.lastWord

/-- A step of the owner, which is gone once the owner let go. -/
def ownerStep (w : Watched) (act : Answer × Watched) : Answer × Watched :=
  if w.owned then act else (.gone, w)

/-- Fires one alarm of an observation. -/
def fireIn (o : Observation) : Firing → Option Bool × Observation
  | .closing => let (heard, a) := o.closing.fire o.isLive (); (heard, { o with closing := a })
  | .close => let (heard, a) := o.close.fire o.isLive (); (heard, { o with close := a })
  | .error e => let (heard, a) := o.error.fire o.isLive e; (heard, { o with error := a })

/-- Polls the observer, if one is at work. -/
def pollObserver (w : Watched) : Answer × Watched :=
  match w.observation with
  | none => (.gone, w)
  | some o =>
    if o.isLive then
      let (observer, tracker, ledger) := o.observer.poll o.notices w.tracker w.ledger
      let o := { o with observer }
      (if o.isLive then .pending else .done,
        { w with tracker, ledger, observation := some o })
    else (.gone, w)

/-- One step. -/
def step (w : Watched) : Step → Answer × Watched
  | .markClosing =>
    w.ownerStep
      (.moved (w.tracker == .opened), { w with tracker := w.tracker.markClosing })
  | .close cause =>
    w.ownerStep
      (let (e, tracker, ledger) := w.tracker.close cause w.ledger
      (.error e, { w with tracker, ledger }))
  | .terminalError => w.ownerStep (w.tracker.terminal?.elim .noError .error, w)
  | .describe => w.ownerStep (.shown w.tracker, w)
  | .subscribe =>
    w.ownerStep (.subscriber w.subscribers, { w with subscribers := w.subscribers + 1 })
  | .poll k =>
    if k < w.subscribers then (w.signal?.elim .pending .error, w) else (.gone, w)
  | .observe => w.ownerStep (.observing, { w with observation := some {} })
  | .fire f =>
    match w.observation with
    | none => (.fired none, w)
    | some o =>
      let (heard, o) := fireIn o f
      (.fired heard, { w with observation := some o })
  | .pollObserver => w.pollObserver
  | .dropObserver =>
    if w.isObserved then
      (.dropped,
        { w with observation := w.observation.map fun o ↦ { o with observer := .finished } })
    else (.gone, w)
  | .drop => w.ownerStep (.dropped, { w with owned := false })

/-- The state after a list of steps. -/
def run (w : Watched) (steps : List Step) : Watched :=
  steps.foldl (fun w s ↦ (w.step s).2) w

end Watched

end BoundedPipelining
