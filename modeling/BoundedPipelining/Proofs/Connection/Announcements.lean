import BoundedPipelining.Proofs.Connection.Draining
import BoundedPipelining.Proofs.Connection.Scope

/-!
# Announced closes

A close is classified by the state of the tracker, and the tracker learns of an announcement from
two tasks only, the monitor and the dispatch task of a response whose head announced it. Whoever
closes the connection before either of them was polled closes one that still looks open.

So an announcement that came before every teardown makes the close a graceful one, unless the close
overtook it. `announced_close_graceful` says by whom that can be done: by the poll of a body whose
payload failed, by the poll of a dispatch task whose write failed, and by the drop of the facade.
The monitor itself never overtakes an announcement, because it heeds one before it looks for a
teardown.

## What carries the proof

As long as the connection is not closed, its monitor is at work and has not passed over an
announcement (`Vigilant`); so its next poll heeds the one that is there. And a tracker that has
heeded an announcement can only close gracefully (`Heeded`).
-/

namespace BoundedPipelining

/-- The announcement of a graceful close has been heeded: the connection is closing, or has closed
gracefully. -/
def Tracker.Heeded : Tracker → Prop
  | opened => False
  | closing => True
  | closed e => e.reason = .gracefulCloseInterrupted

namespace Tracker

theorem Heeded.markClosing {t : Tracker} (h : t.Heeded) : t.markClosing.Heeded := by
  cases t with
  | opened => exact h.elim
  | closing | closed e => exact h

theorem heeded_markClosing {t : Tracker} (h : t.isClosed = false) : t.markClosing.Heeded := by
  cases t with
  | opened | closing => trivial
  | closed e => cases h

theorem Heeded.close {t : Tracker} (h : t.Heeded) (cause : Option TransportError) :
    (Tracker.closed (t.closeError cause)).Heeded := by
  cases t with
  | opened => exact h.elim
  | closing => rfl
  | closed e => exact h

end Tracker

/-- What the observer does after a pick leaves an announcement heeded. -/
theorem Observer.heeded_conclude {t : Tracker} (h : t.Heeded) (seen : Bool) (p : Observer.Pick)
    (m : Ledger) : (Observer.conclude seen p t m).2.1.Heeded := by
  cases p with
  | close | error e =>
    rw [conclude, Tracker.close_tracker]
    exact h.close _
  | closing | nothing => exact h

/-- A poll of the observer heeds an announcement that is there and was not heeded before. -/
theorem Observer.heeded_poll {seen : Bool} {n : Notices} {t : Tracker} (hn : n.closing = true)
    (ho : t.isClosed = false) (hseen : seen = true → t ≠ .opened) (m : Ledger) :
    ((watching seen).poll n t m).2.1.Heeded := by
  rw [poll_watching]
  split
  · exact heeded_conclude (Tracker.heeded_markClosing ho) _ _ _
  · rename_i hnew
    have hknown : t ≠ .opened := hseen (by_contra fun h ↦ hnew ⟨hn, h⟩)
    refine heeded_conclude ?_ _ _ _
    cases t with
    | opened => exact absurd rfl hknown
    | closing => trivial
    | closed e => cases ho

namespace Connection

variable {c c' : Connection} {s : Step}

/-! ## A heeded announcement -/

theorem Change.heeded (h : Change c c') (hc : c.tracker.Heeded) : c'.tracker.Heeded := by
  rcases h with m | h | h | h
  · cases m with
    | heed => exact hc.markClosing
    | close => exact tracker_close c _ ▸ hc.close _
    | refuse | told | watches | peer | take | monitor | leave | lane => exact hc
  · rw [h.eq]
    exact hc
  · cases h
    exact hc
  · rw [h]
    exact hc

theorem Changes.heeded (h : Changes c c') (hc : c.tracker.Heeded) : c'.tracker.Heeded :=
  h.keeps (P := fun x ↦ x.tracker.Heeded) (fun _ _ h ↦ h.heeded) hc

/-! ## A vigilant monitor -/

/-- While the tasks are run, the monitor of a connection that is not closed is at work, and it has
not seen an announcement that the tracker does not know of. -/
structure Vigilant (c : Connection) : Prop where
  alive : c.running = true → c.tracker.isClosed = false → c.monitor ≠ .finished
  seen : c.monitor = .watching true → c.tracker ≠ .opened

theorem vigilant_ofDepth (d : Depth) (policy : ClosingPolicy) : Vigilant (ofDepth d policy) :=
  ⟨fun _ _ ↦ by simp [ofDepth], by simp [ofDepth]⟩

private theorem Vigilant.move (hc : Vigilant c) (m : Move c c') : Vigilant c' := by
  cases m with
  | heed =>
    refine ⟨fun hr ho ↦ hc.alive hr ?_, fun _ ↦ ?_⟩
    · change c.tracker.markClosing.isClosed = false at ho
      cases ht : c.tracker <;> simp_all [Tracker.markClosing, Tracker.isClosed]
    · change c.tracker.markClosing ≠ .opened
      cases c.tracker <;> simp [Tracker.markClosing]
  | monitor h _ hclosed =>
    refine ⟨fun _ ho hfinished ↦ ?_, h⟩
    rw [hclosed hfinished] at ho
    cases ho
  | close =>
    refine ⟨fun _ ho ↦ ?_, fun _ ↦ by rw [tracker_close]; simp⟩
    rw [isClosed_close] at ho
    cases ho
  | leave h =>
    refine ⟨fun _ ho ↦ ?_, fun hm ↦ by cases hm⟩
    rw [show c.tracker.isClosed = false from ho] at h
    cases h
  | refuse | told | watches | peer | take | lane => exact ⟨hc.alive, hc.seen⟩

theorem Vigilant.change (hc : Vigilant c) (h : Change c c') : Vigilant c' := by
  rcases h with m | h | h | h
  · exact hc.move m
  · rw [h.eq]
    exact ⟨hc.alive, hc.seen⟩
  · cases h
    exact ⟨hc.alive, hc.seen⟩
  · rw [h]
    exact ⟨fun hr ↦ (by cases hr), fun hm ↦ (by cases hm)⟩

theorem Vigilant.changes (hc : Vigilant c) (h : Changes c c') : Vigilant c' :=
  h.keeps (fun _ _ h hc ↦ hc.change h) hc

theorem vigilant_run (d : Depth) (policy : ClosingPolicy) (steps : List Step) :
    Vigilant ((ofDepth d policy).run steps) :=
  (vigilant_ofDepth d policy).changes (run_changes _ steps)

/-- A poll of the monitor heeds an announcement that is there, unless the connection is closed. -/
theorem Vigilant.heeded_pollMonitor (hc : Vigilant c) (hr : c.running = true)
    (ho : c.tracker.isClosed = false) (hs : c.channel.signals.closing = true) :
    c.pollMonitor.tracker.Heeded := by
  have htracker : c.pollMonitor.tracker
      = (c.monitor.poll c.channel.notices c.tracker c.books.ledger).2.1 := rfl
  rw [htracker]
  cases hm : c.monitor with
  | finished => exact absurd hm (hc.alive hr ho)
  | watching seen =>
    refine Observer.heeded_poll hs ho (fun hseen ↦ hc.seen ?_) _
    rw [hm, hseen]

/-- A step that polls the monitor polls it first. -/
theorem moves_of_polls_monitor (hs : s.polls .monitor = true) (c : Connection) :
    Moves c.pollMonitor (c.step s).2 := by
  refine Relation.ReflTransGen.trans ?_ (reclaim_moves (c.act s).2)
  cases s with
  | poll t =>
    cases beq_iff_eq.mp hs
    exact .refl
  | settle =>
    have hround : Moves c.pollMonitor c.round := pollLanes_moves _ _
    rw [act, settle, rounds]
    split
    · exact hround.trans (rounds_moves _ _)
    · exact hround
  | caller _ | peer _ | stopTasks => cases hs

/-! ## What was announced stays announced -/

theorem closing_step (h : c.channel.signals.closing = true) (s : Step) :
    (c.step s).2.channel.signals.closing = true := by
  rcases signals_step c s with ⟨p, -, hsignals⟩ | ⟨-, hsignals⟩
  · rw [hsignals, Channel.signals_peerStep, h, Bool.true_or]
  · rw [hsignals, h]

/-- The peer's announcement is there once the peer has made it. -/
theorem closing_of_announces {p : Channel.PeerStep} (hp : c.channel.announces p = true) :
    (c.step (.peer p)).2.channel.signals.closing = true := by
  rw [channel_step_peer, Channel.signals_peerStep, hp, Bool.or_true]

/-! ## Closes that overtake an announcement -/

/-- Whether a step may close the connection without a look at what the peer has announced: it polls
a body or a dispatch task, or drops the facade. -/
def Step.overtakes (s : Step) : Bool := s.reachesTracker && !s.polls .monitor

theorem Step.overtakes_iff {s : Step} : s.overtakes = true ↔
    (∃ k, s.bodyCall? = some k) ∨ (∃ i, s = .poll (.dispatch i)) ∨ s = .caller .drop := by
  constructor
  · intro h
    match s with
    | .caller (.read k) | .caller (.drain k) => exact Or.inl ⟨k, rfl⟩
    | .poll (.dispatch i) => exact Or.inr (Or.inl ⟨i, rfl⟩)
    | .caller .drop => exact Or.inr (Or.inr rfl)
  · rintro (⟨k, hk⟩ | ⟨i, rfl⟩ | rfl)
    · match s with
      | .caller (.read _) | .caller (.drain _) => rfl
    · rfl
    · rfl

/-- From an announcement on, the connection closes gracefully, unless a close overtakes the
announcement while the connection still looks open. -/
private theorem graceful_or_overtaken {steps : List Step} {e : ClassifiedError}
    (hc : Vigilant c) (hr : c.running = true) (hs : .stopTasks ∉ steps)
    (hclosing : c.channel.signals.closing = true) (ho : c.tracker.isClosed = false)
    (he : (c.run steps).tracker = .closed e) :
    e.reason = .gracefulCloseInterrupted ∨ ∃ mid s rest, steps = mid ++ s :: rest ∧
      (c.run mid).tracker = .opened ∧ ((c.run mid).step s).2.tracker = .closed e ∧
      (∀ t ∈ mid, t.polls .monitor = false) ∧ s.overtakes = true := by
  induction steps generalizing c with
  | nil =>
    rw [show c.tracker = .closed e from he] at ho
    cases ho
  | cons s steps ih =>
    rw [List.mem_cons, not_or] at hs
    have hgraceful {c₁ : Connection} (h : Changes c₁ (c.run (s :: steps)))
        (hc₁ : c₁.tracker.Heeded) : e.reason = .gracefulCloseInterrupted := by
      have hheeded := h.heeded hc₁
      rwa [he] at hheeded
    cases ht : c.tracker with
    | closed _ =>
      rw [ht] at ho
      cases ho
    | closing => exact Or.inl (hgraceful (run_changes c (s :: steps)) (by rw [ht]; trivial))
    | opened =>
      have hrest : Changes (c.step s).2 (c.run (s :: steps)) := run_changes _ steps
      by_cases hp : s.polls .monitor = true
      · exact Or.inl (hgraceful ((moves_of_polls_monitor hp c).changes.trans hrest)
          (hc.heeded_pollMonitor hr ho hclosing))
      cases ht' : (c.step s).2.tracker with
      | closing => exact Or.inl (hgraceful hrest (by rw [ht']; trivial))
      | opened =>
        -- The announcement is still there to be heeded by the steps that are left.
        rcases ih (hc.changes (step_changes c s)) ((running_step (Ne.symm hs.1) c).trans hr) hs.2
          (closing_step hclosing s) (by rw [ht']; rfl) he with
          hreason | ⟨mid, s', rest, rfl, hopen, hclose, hmid, hs'⟩
        · exact Or.inl hreason
        · refine Or.inr ⟨s :: mid, s', rest, rfl, hopen, hclose, fun t hmem ↦ ?_, hs'⟩
          rcases List.mem_cons.mp hmem with rfl | hmem
          · exact Bool.not_eq_true _ |>.mp hp
          · exact hmid t hmem
      | closed e' =>
        have hlast := (frame_run _ steps).tracker e' ht'
        cases hlast.symm.trans he
        refine Or.inr ⟨[], s, steps, rfl, ht, ht', by simp, ?_⟩
        by_contra hnot
        have hreach : s.reachesTracker = false := by
          by_contra hreach
          exact hnot (by simp [Step.overtakes, hreach, hp])
        rw [tracker_step hreach, ht] at ht'
        cases ht'

/-- **An announced close is graceful unless it overtakes the announcement.** If the peer announced a
graceful close while the connection was not closed, the terminal error is that of a graceful close,
whatever tore the connection down later and in whatever order the steps came. The exception is a
close by the poll of a body, by the poll of a dispatch task or by the drop of the facade, made
before the monitor was polled and while no dispatch task had handed over a head that announces the
close either. -/
theorem announced_close_graceful (d : Depth) (policy : ClosingPolicy) {before after : List Step}
    {p : Channel.PeerStep} {e : ClassifiedError}
    (hbefore : .stopTasks ∉ before) (hafter : .stopTasks ∉ after)
    (ho : ((ofDepth d policy).run before).tracker.isClosed = false)
    (hp : ((ofDepth d policy).run before).channel.announces p = true)
    (he : ((ofDepth d policy).run (before ++ .peer p :: after)).tracker = .closed e) :
    e.reason = .gracefulCloseInterrupted ∨ ∃ mid s rest, after = mid ++ s :: rest ∧
      ((ofDepth d policy).run (before ++ .peer p :: mid)).tracker = .opened ∧
      ((ofDepth d policy).run (before ++ .peer p :: mid ++ [s])).tracker = .closed e ∧
      (∀ t ∈ mid, t.polls .monitor = false) ∧
      ((∃ k, s.bodyCall? = some k) ∨ (∃ i, s = .poll (.dispatch i)) ∨ s = .caller .drop) := by
  have hrunning : ((ofDepth d policy).run before).running = true := running_run hbefore _
  have hsame : ((((ofDepth d policy).run before).step (.peer p)).2).tracker
      = ((ofDepth d policy).run before).tracker := tracker_step rfl _
  rw [run_append, run_cons] at he
  rcases graceful_or_overtaken ((vigilant_run d policy before).changes (step_changes _ (.peer p)))
    ((running_step (by simp) _).trans hrunning) hafter (closing_of_announces hp)
    (by rw [hsame, ho]) he with hreason | ⟨mid, s, rest, hsteps, hopen, hclose, hmid, hs⟩
  · exact Or.inl hreason
  · refine Or.inr ⟨mid, s, rest, hsteps, ?_, ?_, hmid, Step.overtakes_iff.mp hs⟩
    · rw [run_append, run_cons, hopen]
    · rw [run_append, run_append, run_cons]
      exact hclose

/-- The monitor is polled before the body whose payload failed, so the announcement is heeded. -/
theorem announced_close_graceful_of_payload :
    let c := (ofDepth ⟨1, by decide⟩ .accept).run
      ([.caller (.request ⟨"GET", "/a", []⟩), .peer .next, .peer (.respond 0 {}),
          .poll (.dispatch 0), .caller (.await 0)]
        ++ .peer .announce :: [.poll .monitor, .peer (.failPayload 0 (.protocol "bad chunk")),
          .caller (.read 0)])
    ∃ e, c.tracker = .closed e ∧ e.reason = .gracefulCloseInterrupted := by
  intro c
  have hclosed : c.tracker = .closed (classify true (some (.protocol "bad chunk"))) := by
    decide +kernel
  refine ⟨_, hclosed, ?_⟩
  rcases announced_close_graceful ⟨1, by decide⟩ .accept (by simp) (by simp) (by decide +kernel)
    (by decide +kernel) hclosed with hreason | ⟨mid, s, rest, hsteps, -, -, hmid, hs⟩
  · exact hreason
  · -- The first step after the announcement is the poll of the monitor.
    exfalso
    cases mid with
    | nil =>
      cases hsteps
      simp [Step.bodyCall?] at hs
    | cons t mid =>
      obtain ⟨rfl, -⟩ := List.cons.inj hsteps
      exact Bool.noConfusion (hmid _ List.mem_cons_self)

/-- The three closes that overtake an announcement: the poll of a body whose payload failed, the
poll of a dispatch task whose write failed, and the drop of the facade. Each comes after the
announcement, and the announcement comes before every teardown. -/
theorem announcement_overtaken :
    ((ofDepth ⟨1, by decide⟩ .accept).run [.caller (.request ⟨"GET", "/a", []⟩), .peer .next,
      .peer (.respond 0 {}), .poll (.dispatch 0), .caller (.await 0), .peer .announce,
      .peer (.failPayload 0 (.protocol "bad chunk")), .caller (.read 0)]).tracker
        = .closed (classify false (some (.protocol "bad chunk"))) ∧
    ((ofDepth ⟨1, by decide⟩ .accept).run [.caller (.request ⟨"GET", "/a", []⟩), .peer .next,
      .peer .announce, .peer (.failWrite 0 (.protocol "bad head")), .poll (.dispatch 0)]).tracker
        = .closed (classify false (some (.protocol "bad head"))) ∧
    ((ofDepth ⟨1, by decide⟩ .accept).run [.peer .announce, .caller .drop]).tracker
        = .closed (classify false none) ∧
    (classify false none).reason = .abruptChannelClosed := by
  decide +kernel

end Connection

end BoundedPipelining
