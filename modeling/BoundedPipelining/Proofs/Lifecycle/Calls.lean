import BoundedPipelining.Lifecycle.Watched

/-!
# The calls of a tracker

Two calls move a tracker on, the one that marks it as closing and the one that closes it, and both
are made by its owner and by the observer. All that a tracker ever does follows from the list of the
calls made so far, each with what it returned: whether the tracker is still open, which error it
closed with, and what it has counted.

## What carries the proof

`Made` says what a list of calls does to a tracker and its ledger, and `made_run` finds the calls of
a run, those of the observer among them. `Remembers` is what tracker and ledger know of their past.
It is kept by one more call, so by any number of calls, whoever makes them. Both clauses about the
first call are needed for the reason of a close: a tracker is closing only if the first call of all
marked it so.
-/

namespace BoundedPipelining

/-- A call that may move a tracker on, with what it returned. -/
inductive Tracker.Call where
  | markClosing (moved : Bool)
  | close (cause : Option TransportError) (error : ClassifiedError)

namespace Tracker

variable {t t' : Tracker} {m m' m₀ : Ledger} {calls past : List Call}

/-! ## What calls do -/

/-- These calls, made one after the other, lead from one tracker and ledger to the other. -/
inductive Made : Tracker → Ledger → List Call → Tracker → Ledger → Prop
  | nil {t : Tracker} {m : Ledger} : Made t m [] t m
  | markClosing {t t' : Tracker} {m m' : Ledger} {calls : List Call}
      (h : Made t.markClosing m calls t' m') :
      Made t m (.markClosing (t == .opened) :: calls) t' m'
  | close {t t' : Tracker} {m m' : Ledger} {calls : List Call} (cause : Option TransportError)
      (h : Made (t.close cause m).2.1 (t.close cause m).2.2 calls t' m') :
      Made t m (.close cause (t.close cause m).1 :: calls) t' m'

theorem Made.append {t'' : Tracker} {m'' : Ledger} {more : List Call} (h : Made t m calls t' m')
    (h' : Made t' m' more t'' m'') : Made t m (calls ++ more) t'' m'' := by
  induction h with
  | nil => exact h'
  | markClosing _ ih => exact .markClosing (ih h')
  | close cause _ ih => exact .close cause (ih h')

theorem code_markClosing_le (t : Tracker) : t.state.code ≤ t.markClosing.state.code := by
  cases t with
  | opened => exact Nat.zero_le _
  | closing | closed _ => exact Nat.le_refl _

theorem code_close_le (t : Tracker) (cause : Option TransportError) (m : Ledger) :
    t.state.code ≤ (t.close cause m).2.1.state.code := by
  rw [close_tracker]
  cases t with
  | opened | closing => simp [state, ConnectionState.code]
  | closed _ => exact Nat.le_refl _

/-- Calls only move a tracker forward. -/
theorem Made.code_le (h : Made t m calls t' m') : t.state.code ≤ t'.state.code := by
  induction h with
  | nil => exact Nat.le_refl _
  | @markClosing t _ _ _ _ _ ih => exact Nat.le_trans t.code_markClosing_le ih
  | @close t _ m _ _ cause _ ih => exact Nat.le_trans (t.code_close_le cause m) ih

/-- Calls leave a closed tracker with the error it closed with. -/
theorem Made.closed {e : ClassifiedError} (h : Made t m calls t' m') (ht : t = .closed e) :
    t' = .closed e := by
  induction h with
  | nil => exact ht
  | markClosing _ ih => exact ih (by rw [ht]; rfl)
  | close cause _ ih => exact ih (by rw [close_tracker, ht]; rfl)

/-! ## What is remembered of them -/

/-- What a tracker and its ledger, which was `m₀` at first, know of the calls made so far. -/
structure Remembers (m₀ : Ledger) (past : List Call) (t : Tracker) (m : Ledger) : Prop where
  opened : t = .opened ↔ past = []
  moved : ∀ n yes, past[n]? = some (.markClosing yes) → (yes = true ↔ n = 0)
  returned : ∀ cause e, .close cause e ∈ past → t = .closed e
  first : ∀ e, t = .closed e → ∃ before cause after announced,
    past = before ++ .close cause e :: after ∧ (∀ cause' e', .close cause' e' ∉ before) ∧
    e = classify announced cause ∧ (announced = true ↔ .markClosing true ∈ before)
  counted : m = t.terminal?.elim m₀ fun e ↦ m₀.mark (.connectionClosed e.reason)

theorem remembers_nil (m₀ : Ledger) : Remembers m₀ [] .opened m₀ where
  opened := by simp
  moved := by simp
  returned := by simp
  first := by simp
  counted := rfl

/-- A tracker that is closing was marked so by the first call of all. -/
private theorem Remembers.marked (h : Remembers m₀ past .closing m) :
    .markClosing true ∈ past := by
  cases past with
  | nil => cases h.opened.mpr rfl
  | cons call rest =>
    cases call with
    | markClosing yes =>
      have hyes : yes = true := (h.moved 0 yes rfl).mpr rfl
      rw [hyes]
      exact List.mem_cons_self
    | close cause e => cases h.returned cause e List.mem_cons_self

/-- One more call comes last. -/
private theorem moved_snoc (h : ∀ n yes, past[n]? = some (.markClosing yes) → (yes = true ↔ n = 0))
    {call : Call} (hcall : ∀ yes, call = .markClosing yes → (yes = true ↔ past = [])) (n : Nat)
    (yes : Bool) (hn : (past ++ [call])[n]? = some (.markClosing yes)) : yes = true ↔ n = 0 := by
  rw [List.getElem?_append] at hn
  split at hn
  · exact h n yes hn
  · obtain ⟨hzero, hlast⟩ := List.getElem?_eq_some_iff.mp hn
    have hsize : n = past.length := by
      simp only [List.length_singleton] at hzero
      omega
    simp only [List.getElem_singleton] at hlast
    rw [hcall yes hlast, hsize, List.length_eq_zero_iff]

private theorem Remembers.markClosing (h : Remembers m₀ past t m) :
    Remembers m₀ (past ++ [.markClosing (t == .opened)]) t.markClosing m where
  opened := by
    refine iff_of_false ?_ (by simp)
    cases t <;> simp [Tracker.markClosing]
  moved := by
    refine moved_snoc h.moved ?_
    rintro _ ⟨⟩
    rw [beq_iff_eq]
    exact h.opened
  returned cause e hmem := by
    have hold : .close cause e ∈ past := by simpa using hmem
    rw [h.returned cause e hold]
    rfl
  first e ht := by
    have hclosed : t = .closed e := by
      cases t with
      | opened | closing => cases ht
      | closed _ => exact ht
    obtain ⟨before, cause, after, announced, rfl, hfirst, he, hannounced⟩ := h.first e hclosed
    exact ⟨before, cause, after ++ [.markClosing (t == .opened)], announced,
      List.append_assoc _ _ _, hfirst, he, hannounced⟩
  counted := by
    have hcounted := h.counted
    cases t <;> exact hcounted

private theorem Remembers.close (h : Remembers m₀ past t m) (cause : Option TransportError) :
    Remembers m₀ (past ++ [.close cause (t.close cause m).1]) (t.close cause m).2.1
      (t.close cause m).2.2 where
  opened := by
    refine iff_of_false ?_ (by simp)
    rw [close_tracker]
    simp
  moved := by
    refine moved_snoc h.moved ?_
    rintro _ ⟨⟩
  returned cause' e hmem := by
    rw [close_tracker]
    rcases List.mem_append.mp hmem with hold | hnew
    · rw [h.returned cause' e hold]
      rfl
    · rw [List.mem_singleton] at hnew
      cases hnew
      rw [close_fst]
  first e ht := by
    rw [close_tracker] at ht
    obtain rfl : t.closeError cause = e := by injection ht
    -- A tracker that was not closed has seen no close, so this one is the first.
    have hfirst (ho : ∀ e, t ≠ .closed e) : ∀ cause' e', .close cause' e' ∉ past :=
      fun cause' e' hmem ↦ ho e' (h.returned cause' e' hmem)
    cases t with
    | opened =>
      obtain rfl := h.opened.mp rfl
      exact ⟨[], cause, [], false, rfl, by simp, rfl, by simp⟩
    | closing =>
      exact ⟨past, cause, [], true, rfl, hfirst (by simp), rfl, by simp [h.marked]⟩
    | closed e =>
      obtain ⟨before, cause', after, announced, rfl, hbefore, he, hannounced⟩ := h.first e rfl
      exact ⟨before, cause', after ++ [.close cause e], announced, List.append_assoc _ _ _, hbefore,
        he, hannounced⟩
  counted := by
    have hcounted := h.counted
    cases t with
    | opened | closing =>
      rw [show m = m₀ from hcounted]
      rfl
    | closed e => exact hcounted

/-- What is remembered is kept by any number of calls. -/
theorem Remembers.made (h : Remembers m₀ past t m) (hmade : Made t m calls t' m') :
    Remembers m₀ (past ++ calls) t' m' := by
  induction hmade generalizing past with
  | nil => rwa [List.append_nil]
  | markClosing _ ih =>
    rw [List.append_cons]
    exact ih h.markClosing
  | close cause _ ih =>
    rw [List.append_cons]
    exact ih (h.close cause)

end Tracker

/-! ## The calls of an observer -/

namespace Observer

/-- The call that follows from a pick once the announcement is out of the way. -/
def concluding (p : Pick) (t : Tracker) : List Tracker.Call :=
  match p with
  | .close => [.close none (t.closeError none)]
  | .error e => [.close (some e) (t.closeError (some e))]
  | .closing | .nothing => []

/-- The calls that a poll of the observer makes. -/
def calls (o : Observer) (n : Notices) (t : Tracker) : List Tracker.Call :=
  match o with
  | .finished => []
  | .watching seen =>
    match pick seen n with
    | .closing => .markClosing (t == .opened) :: concluding (pick true n) t.markClosing
    | p => concluding p t

private theorem made_conclude (seen : Bool) (p : Pick) (t : Tracker) (m : Ledger) :
    Tracker.Made t m (concluding p t) (conclude seen p t m).2.1 (conclude seen p t m).2.2 := by
  have hclose (cause : Option TransportError) : Tracker.Made t m
      [.close cause (t.closeError cause)] (t.close cause m).2.1 (t.close cause m).2.2 := by
    rw [← Tracker.close_fst t cause m]
    exact .close cause .nil
  cases p with
  | close => exact hclose none
  | error e => exact hclose (some e)
  | closing | nothing => exact .nil

/-- A poll makes these calls, whatever notifications are ready. -/
theorem made_poll (o : Observer) (n : Notices) (t : Tracker) (m : Ledger) :
    Tracker.Made t m (o.calls n t) (o.poll n t m).2.1 (o.poll n t m).2.2 := by
  cases o with
  | finished => exact .nil
  | watching seen =>
    cases hp : pick seen n with
    | closing =>
      simp only [calls, poll, hp]
      exact .markClosing (made_conclude true _ _ m)
    | close | error _ | nothing =>
      simp only [calls, poll, hp]
      exact made_conclude seen _ t m

end Observer

/-! ## The calls of a run -/

namespace Watched

variable {w : Watched}

/-- The call that the owner made in a step, with the answer it got. -/
def answered? : Step → Answer → Option Tracker.Call
  | .markClosing, .moved yes => some (.markClosing yes)
  | .close cause, .error e => some (.close cause e)
  | _, _ => none

/-- The calls of the tracker that a step makes: the owner's, or those of the observer it polls. -/
def calls (w : Watched) : Step → List Tracker.Call
  | .pollObserver =>
    match w.observation with
    | none => []
    | some o => o.observer.calls o.notices w.tracker
  | s => (answered? s (w.step s).1).toList

/-- The calls that the steps of a run make, in order. -/
def history (w : Watched) : List Step → List Tracker.Call
  | [] => []
  | s :: steps => w.calls s ++ history (w.step s).2 steps

theorem run_cons (w : Watched) (s : Step) (steps : List Step) :
    w.run (s :: steps) = (w.step s).2.run steps := rfl

private theorem made_pollObserver (w : Watched) :
    Tracker.Made w.tracker w.ledger (w.calls .pollObserver) (w.step .pollObserver).2.tracker
      (w.step .pollObserver).2.ledger := by
  cases ho : w.observation with
  | none =>
    simp only [calls, step, pollObserver, ho]
    exact .nil
  | some o =>
    cases hlive : o.observer with
    | watching seen =>
      simp only [calls, step, pollObserver, ho, Observation.isLive, hlive, if_true]
      exact (Observer.watching seen).made_poll o.notices w.tracker w.ledger
    | finished =>
      simp only [calls, step, pollObserver, ho, Observation.isLive, hlive]
      exact .nil

/-- A step makes its calls, and nothing else reaches the tracker. -/
theorem made_step (w : Watched) (s : Step) :
    Tracker.Made w.tracker w.ledger (w.calls s) (w.step s).2.tracker (w.step s).2.ledger := by
  cases s with
  | pollObserver => exact w.made_pollObserver
  | markClosing =>
    rw [calls, step, ownerStep]
    split
    · exact .markClosing .nil
    · exact .nil
    · rintro ⟨⟩
  | close cause =>
    rw [calls, step, ownerStep]
    split
    · exact .close cause .nil
    · exact .nil
    · rintro ⟨⟩
  | terminalError | describe | subscribe | observe | drop =>
    rw [calls, step, ownerStep]
    split
    · exact .nil
    · exact .nil
    · rintro ⟨⟩
  | poll _ | fire _ | dropObserver =>
    rw [calls, step]
    split
    · exact .nil
    · exact .nil
    · rintro ⟨⟩

theorem made_run (w : Watched) (steps : List Step) :
    Tracker.Made w.tracker w.ledger (w.history steps) (w.run steps).tracker
      (w.run steps).ledger := by
  induction steps generalizing w with
  | nil => exact .nil
  | cons s steps ih => exact (w.made_step s).append (ih _)

/-! ## Subscribers -/

/-- No step takes a subscriber away. -/
theorem subscribers_le_step (w : Watched) (s : Step) :
    w.subscribers ≤ (w.step s).2.subscribers := by
  cases s with
  | subscribe =>
    rw [step, ownerStep]
    split
    · exact Nat.le_succ _
    · exact Nat.le_refl _
  | markClosing | close _ | terminalError | describe | observe | drop =>
    rw [step, ownerStep]
    split <;> exact Nat.le_refl _
  | poll _ | dropObserver | fire _ =>
    rw [step]
    split <;> exact Nat.le_refl _
  | pollObserver =>
    rw [step, pollObserver]
    split
    · exact Nat.le_refl _
    · split <;> exact Nat.le_refl _

theorem subscribers_le_run (w : Watched) (steps : List Step) :
    w.subscribers ≤ (w.run steps).subscribers := by
  induction steps generalizing w with
  | nil => exact Nat.le_refl _
  | cons s steps ih => exact Nat.le_trans (w.subscribers_le_step s) (ih _)

/-! ## Every run -/

/-- The life of a tracker whose ledger was `m` at first, from these calls on. -/
structure Lifecycle (m : Ledger) (past : List Tracker.Call) (w : Watched) : Prop where
  /-- The state only moves forward. -/
  forward : ∀ later, w.tracker.state.code ≤ (w.run later).tracker.state.code
  /-- The tracker is open as long as no call was made. -/
  opened : w.tracker.state = .opened ↔ past = []
  /-- A call marks the tracker as closing exactly if it is the first of all. -/
  moved : ∀ n yes, past[n]? = some (.markClosing yes) → (yes = true ↔ n = 0)
  /-- There is a terminal error exactly if the tracker is closed. -/
  closed : w.tracker.terminal?.isSome = true ↔ w.tracker.state = .closed
  /-- The terminal error never changes. -/
  kept : ∀ e, w.tracker.terminal? = some e → ∀ later, (w.run later).tracker.terminal? = some e
  /-- Every close returned the terminal error. -/
  returned : ∀ cause e, .close cause e ∈ past → w.tracker.terminal? = some e
  /-- The terminal error has the cause of the first close, and is that of a graceful close exactly
  if a call before it marked the tracker as closing. -/
  first : ∀ e, w.tracker.terminal? = some e → ∃ before cause after,
    past = before ++ .close cause e :: after ∧ (∀ cause' e', .close cause' e' ∉ before) ∧
    e.channel.cause = cause ∧ (e.reason = .gracefulCloseInterrupted ↔ .markClosing true ∈ before)
  /-- The close was counted once, under the reason of the terminal error. -/
  counted : w.ledger = w.tracker.terminal?.elim m fun e ↦ m.mark (.connectionClosed e.reason)
  /-- In numbers: one close more under the reason of the terminal error, once there is one. -/
  tallied : ∀ why, w.ledger.connectionsClosed why = m.connectionsClosed why
    + if w.tracker.terminal?.map ClassifiedError.reason = some why then 1 else 0
  /-- No other number has moved. -/
  spared : w.ledger.admitted = m.admitted ∧ (∀ why, w.ledger.rejected why = m.rejected why) ∧
    w.ledger.slotsInUse = m.slotsInUse ∧ ∀ how, w.ledger.settled how = m.settled how
  /-- Marking is answered by whether the tracker was open. -/
  marks : w.owned = true →
    (w.step .markClosing).1 = .moved (decide (w.tracker.state = .opened))
  /-- Closing is answered by the terminal error. -/
  closes : w.owned = true → ∀ cause, ∃ e, (w.step (.close cause)).1 = .error e ∧
    (w.step (.close cause)).2.tracker.terminal? = some e
  /-- The owner is told the terminal error, if there is one. -/
  told : w.owned = true → (w.step .terminalError).1 = w.tracker.terminal?.elim .noError .error
  /-- The owner makes subscribers: with each one there is a number that was not one before, and is
  one from then on. -/
  subscribes : w.owned = true → ∃ k, (w.step .subscribe).1 = .subscriber k ∧ ¬ k < w.subscribers ∧
    ∀ later, k < ((w.step .subscribe).2.run later).subscribers
  /-- Every subscriber of a live tracker is told the terminal error, if there is one, whenever it
  subscribed and however often it polls. -/
  signalled : w.owned = true ∨ w.isObserved = true → ∀ k, k < w.subscribers →
    (w.step (.poll k)).1 = w.tracker.terminal?.elim .pending .error

/-- A step of the owner while it holds the tracker. -/
private theorem ownerStep_of_owned (ho : w.owned = true) (act : Answer × Watched) :
    w.ownerStep act = act := by
  rw [ownerStep, if_pos ho]

/-- **The life of a tracker.** Whatever its owner, its observer and its subscribers do, and in
whatever order, the tracker moves forward from open over closing to closed, the first close decides
on the one terminal error, and everybody who closes, asks or listens is told that error. -/
theorem lifecycle_run (m : Ledger) (steps : List Step) :
    Lifecycle m (({ ledger := m } : Watched).history steps)
      (({ ledger := m } : Watched).run steps) := by
  have hpast := (Tracker.remembers_nil m).made (({ ledger := m } : Watched).made_run steps)
  rw [List.nil_append] at hpast
  generalize ({ ledger := m } : Watched).history steps = past at hpast ⊢
  generalize ({ ledger := m } : Watched).run steps = w at hpast ⊢
  refine {
    forward := fun later ↦ (w.made_run later).code_le
    opened := Iff.trans ?_ hpast.opened
    moved := hpast.moved
    closed := by rw [Tracker.terminal?_isSome, Tracker.isClosed_iff]
    kept := fun e he later ↦ ?_
    returned := fun cause e hmem ↦ by rw [hpast.returned cause e hmem]; rfl
    first := fun e he ↦ ?_
    counted := hpast.counted
    tallied := fun why ↦ ?_
    spared := ?_
    marks := fun ho ↦ ?_
    closes := fun ho cause ↦ ⟨w.tracker.closeError cause, ?_, ?_⟩
    told := fun ho ↦ ?_
    subscribes := fun ho ↦ ?_
    signalled := fun hlive k hk ↦ ?_ }
  · cases w.tracker <;> simp [Tracker.state]
  · have hclosed : w.tracker = .closed e := Tracker.terminal?_eq_some_iff.mp he
    rw [(w.made_run later).closed hclosed]
    rfl
  · obtain ⟨before, cause, after, announced, hcalls, hfirst, rfl, hannounced⟩ :=
      hpast.first e (Tracker.terminal?_eq_some_iff.mp he)
    refine ⟨before, cause, after, hcalls, hfirst, classify_cause _ _, ?_⟩
    rw [classify_reason_eq_graceful_iff, hannounced]
  · rw [hpast.counted]
    cases w.tracker.terminal? with
    | none => rfl
    | some e => simp [Ledger.connectionsClosed_mark]
  · rw [hpast.counted]
    cases w.tracker.terminal? with
    | none => exact ⟨rfl, fun _ ↦ rfl, rfl, fun _ ↦ rfl⟩
    | some e =>
      simp [Ledger.admitted_mark, Ledger.rejected_mark, Ledger.slotsInUse_mark, Ledger.settled_mark]
  · rw [step, ownerStep_of_owned ho]
    cases w.tracker <;> rfl
  · simp only [step, ownerStep_of_owned ho, Tracker.close_fst]
  · simp only [step, ownerStep_of_owned ho, Tracker.close_tracker]
    rfl
  · rw [step, ownerStep_of_owned ho]
  · rw [step, ownerStep_of_owned ho]
    refine ⟨w.subscribers, rfl, Nat.lt_irrefl _, fun later ↦ ?_⟩
    exact subscribers_le_run { w with subscribers := w.subscribers + 1 } later
  · simp only [step, if_pos hk, signal?, if_pos hlive]

/-- The announcement counts because it comes before the first close, and the second close changes
nothing. -/
example : ((({} : Watched).run [.subscribe, .markClosing, .close (some .closed), .close none]).step
    (.poll 0)).1 = .error (classify true (some .closed)) := rfl

end Watched

end BoundedPipelining
