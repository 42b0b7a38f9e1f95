import BoundedPipelining.Proofs.Lifecycle.Calls

/-!
# What a vanished tracker leaves behind

A tracker vanishes when its owner has let go of it and no observer holds it any more. Its
subscribers are still there, and the terminal signal owes them an answer: the terminal error, if the
tracker had one, and a last word if it had none.

## What carries the proof

Nothing that is done afterwards reaches the tracker or adds a subscriber, so the answer is settled
at the moment of vanishing. What it is follows from `Remembers`: of a closed tracker its error goes
back to the first close, and that one is graceful exactly if a mark stands before it. The last word
of a tracker that was never closed does not look at marks at all, which is where `Announced` and the
reason part.
-/

namespace BoundedPipelining

/-- Some call before the first close, or any call if there was no close, marked the tracker as
closing. -/
def Tracker.Announced (past : List Tracker.Call) : Prop :=
  ∃ before after, past = before ++ after ∧ (∀ cause e, .close cause e ∉ before) ∧
    .markClosing true ∈ before

namespace Watched

variable {w : Watched}

theorem isLive_fireIn (o : Observation) (f : Firing) : (fireIn o f).2.isLive = o.isLive := by
  cases f <;> rfl

/-- Nobody holds the tracker any more. -/
def IsVanished (w : Watched) : Prop :=
  w.owned = false ∧ w.isObserved = false

namespace IsVanished

theorem signal?_eq (h : w.IsVanished) : w.signal? = some w.tracker.lastWord := by
  have hnobody : ¬ (w.owned = true ∨ w.isObserved = true) := by
    rintro (howned | hobserved)
    · rw [h.1] at howned
      contradiction
    · rw [h.2] at hobserved
      contradiction
  rw [signal?, if_neg hnobody]

theorem ownerStep_eq (h : w.IsVanished) (act : Answer × Watched) :
    w.ownerStep act = (.gone, w) := by
  rw [ownerStep, h.1, if_neg Bool.false_ne_true]

theorem pollObserver_eq (h : w.IsVanished) : w.pollObserver = (.gone, w) := by
  rw [pollObserver]
  split
  · rfl
  · rename_i o ho
    have hlive : o.isLive = false := by
      have hobserved := h.2
      rwa [isObserved, ho, Option.any_some] at hobserved
    rw [hlive, if_neg Bool.false_ne_true]

/-- No step brings the tracker back, changes it or adds a subscriber. -/
theorem step (h : w.IsVanished) (s : Step) :
    (w.step s).2.IsVanished ∧ (w.step s).2.tracker = w.tracker ∧
      (w.step s).2.subscribers = w.subscribers := by
  have hstays : w.IsVanished ∧ w.tracker = w.tracker ∧ w.subscribers = w.subscribers :=
    ⟨h, rfl, rfl⟩
  cases s with
  | markClosing | close _ | terminalError | describe | subscribe | observe | drop =>
    rw [Watched.step, h.ownerStep_eq]
    exact hstays
  | poll k =>
    rw [Watched.step]
    split <;> exact hstays
  | fire f =>
    rw [Watched.step]
    split
    · exact hstays
    · rename_i o ho
      refine ⟨⟨h.1, ?_⟩, rfl, rfl⟩
      have hobserved := h.2
      rw [isObserved, ho, Option.any_some] at hobserved
      rw [isObserved, Option.any_some, isLive_fireIn, hobserved]
  | pollObserver =>
    rw [Watched.step, h.pollObserver_eq]
    exact hstays
  | dropObserver =>
    rw [Watched.step, h.2, if_neg Bool.false_ne_true]
    exact hstays

theorem run (h : w.IsVanished) (steps : List Step) :
    (w.run steps).IsVanished ∧ (w.run steps).tracker = w.tracker ∧
      (w.run steps).subscribers = w.subscribers := by
  induction steps generalizing w with
  | nil => exact ⟨h, rfl, rfl⟩
  | cons s steps ih =>
    obtain ⟨hs, htracker, hsubscribers⟩ := h.step s
    obtain ⟨hrun, htracker', hsubscribers'⟩ := ih hs
    rw [run_cons]
    exact ⟨hrun, htracker'.trans htracker, hsubscribers'.trans hsubscribers⟩

/-- Whatever happens afterwards, every subscriber is told the last word at every poll. -/
theorem poll_eq (h : w.IsVanished) {k : Nat} (hk : k < w.subscribers) (later : List Step) :
    ((w.run later).step (.poll k)).1 = .error w.tracker.lastWord := by
  obtain ⟨hrun, htracker, hsubscribers⟩ := h.run later
  rw [← hsubscribers] at hk
  simp only [Watched.step, if_pos hk, hrun.signal?_eq, htracker, Option.elim_some]

end IsVanished

end Watched

/-! ## The reason of the last word -/

namespace Tracker

variable {t : Tracker} {m m₀ : Ledger} {past : List Call}

/-- Up to the first close, what stands before any other cut without a close stands there too. -/
private theorem mem_of_cut {before after before' after' : List Call} {call : Call}
    (h : before ++ after = before' ++ call :: after') (hno : call ∉ before) {c : Call}
    (hc : c ∈ before) : c ∈ before' := by
  rcases List.append_eq_append_iff.mp h with ⟨more, rfl, -⟩ | ⟨more, rfl, hmore⟩
  · exact List.mem_append_left more hc
  · rcases List.cons_eq_append_iff.mp hmore with ⟨rfl, -⟩ | ⟨rest, rfl, -⟩
    · rwa [List.append_nil] at hc
    · exact absurd (List.mem_append_right before' List.mem_cons_self) hno

/-- The last word is that of a graceful close exactly if the tracker was closed, and announced
before. -/
theorem Remembers.lastWord_graceful_iff (h : Remembers m₀ past t m) :
    t.lastWord.reason = .gracefulCloseInterrupted ↔
      (∃ cause e, .close cause e ∈ past) ∧ Announced past := by
  constructor
  · intro hreason
    cases t with
    | opened | closing =>
      rw [lastWord, terminal?, Option.getD_none, classify_reason_eq_graceful_iff] at hreason
      contradiction
    | closed e =>
      obtain ⟨before, cause, after, announced, hpast, hfirst, rfl, hannounced⟩ := h.first e rfl
      rw [lastWord, terminal?, Option.getD_some, classify_reason_eq_graceful_iff] at hreason
      refine ⟨⟨cause, classify announced cause, ?_⟩, before, _, hpast, hfirst, ?_⟩
      · rw [hpast]
        exact List.mem_append_right before List.mem_cons_self
      · exact hannounced.mp hreason
  · rintro ⟨⟨cause, e, hclose⟩, before, after, hpast, hno, hmark⟩
    obtain rfl := h.returned cause e hclose
    obtain ⟨before', cause', after', announced, hpast', -, rfl, hannounced⟩ := h.first e rfl
    rw [lastWord, terminal?, Option.getD_some, classify_reason_eq_graceful_iff]
    rw [hpast] at hpast'
    exact hannounced.mpr (mem_of_cut hpast' (hno cause' _) hmark)

/-- The last word of a tracker that was never closed says that the channel went away unannounced. -/
theorem Remembers.lastWord_of_no_close (h : Remembers m₀ past t m)
    (hno : ∀ cause e, .close cause e ∉ past) : t.lastWord = classify false none := by
  cases t with
  | opened | closing => rfl
  | closed e =>
    obtain ⟨before, cause, after, -, hpast, -⟩ := h.first e rfl
    refine absurd ?_ (hno cause e)
    rw [hpast]
    exact List.mem_append_right before List.mem_cons_self

theorem Remembers.eq_lastWord (h : Remembers m₀ past t m) {cause : Option TransportError}
    {e : ClassifiedError} (hclose : .close cause e ∈ past) : e = t.lastWord := by
  rw [h.returned cause e hclose]
  rfl

end Tracker

namespace Watched

/-- **What a vanished tracker tells.** Whatever was done with a tracker before the last of its
holders let go of it, every subscriber is told one and the same error from then on, the error that
every close returned. It is that of a graceful close exactly if the tracker was closed, and marked
as closing before its first close; without a close it is that of a channel that went away without a
word, even if the tracker was closing. -/
theorem vanished_told (m : Ledger) (steps : List Step)
    (h : (({ ledger := m } : Watched).run steps).IsVanished) :
    let w := ({ ledger := m } : Watched).run steps
    let past := ({ ledger := m } : Watched).history steps
    ∃ e, (∀ k, k < w.subscribers → ∀ later, ((w.run later).step (.poll k)).1 = .error e) ∧
      (∀ cause e', .close cause e' ∈ past → e' = e) ∧
      (e.reason = .gracefulCloseInterrupted ↔
        (∃ cause e', .close cause e' ∈ past) ∧ Tracker.Announced past) ∧
      ((∀ cause e', .close cause e' ∉ past) → e = classify false none) := by
  intro w past
  have hpast : Tracker.Remembers m past w.tracker w.ledger :=
    (Tracker.remembers_nil m).made (({ ledger := m } : Watched).made_run steps)
  refine ⟨w.tracker.lastWord, ?_, ?_, hpast.lastWord_graceful_iff, hpast.lastWord_of_no_close⟩
  · intro k hk later
    exact h.poll_eq hk later
  · intro cause e hclose
    exact hpast.eq_lastWord hclose

/-- The observer outlives the owner, and closes the tracker that had been marked before. -/
theorem vanished_told_after_observer :
    ∃ e, ((({} : Watched).run
        [.subscribe, .observe, .markClosing, .poll 0, .fire (.error (.protocol "bad frame")), .drop,
          .pollObserver]).step (.poll 0)).1 = .error e ∧
      e.reason = .gracefulCloseInterrupted := by
  obtain ⟨e, htold, -, hreason, -⟩ := vanished_told .empty
    [.subscribe, .observe, .markClosing, .poll 0, .fire (.error (.protocol "bad frame")), .drop,
      .pollObserver] ⟨rfl, rfl⟩
  refine ⟨e, htold 0 (by decide) [], hreason.mpr ⟨?_, ?_⟩⟩
  · exact ⟨some (.protocol "bad frame"), classify true (some (.protocol "bad frame")),
      List.mem_cons_of_mem _ List.mem_cons_self⟩
  · exact ⟨[.markClosing true], _, rfl, by simp, List.mem_cons_self⟩

/-- An announcement dies with a tracker that is not closed: the subscribers of a tracker that was
closing are told that it went away unannounced. -/
theorem announcement_forgotten :
    let steps : List Step := [.subscribe, .markClosing, .drop]
    let w := ({} : Watched).run steps
    w.IsVanished ∧ Tracker.Announced (({} : Watched).history steps) ∧
      (w.step (.poll 0)).1 = .error (classify false none) ∧
      (classify false none).reason ≠ .gracefulCloseInterrupted := by
  refine ⟨⟨rfl, rfl⟩, ⟨[.markClosing true], [], rfl, by simp, List.mem_cons_self⟩, rfl, ?_⟩
  decide

end Watched

end BoundedPipelining
