import BoundedPipelining.Proofs.Channel.Writes
import BoundedPipelining.Proofs.Connection.Announcements
import BoundedPipelining.Proofs.Connection.Requests
import BoundedPipelining.Proofs.Connection.TerminalError

/-!
# No graceful close without an announcement

An announcement can be overtaken by a close, so a graceful close by the peer may be told as an
abrupt one. The converse does not happen: nobody is ever told that a close was graceful unless the
peer had announced it, by the signal or in a head, before the step that tells it.

## What carries the proof

The peer's signal is never taken back, so it stands for the whole history of announcements:
`closing_run_iff` says that it is on exactly if one was made. It remains to see that everything that
may end up in a graceful error stands under the signal, and there are three such things: a head that
asks for a close and still has to be handed over, the tracker once it has heeded, and a refusal that
waits for its caller. A channel that merely goes away, because the peer vanished or every handle was
dropped, puts none of the three there.
-/

namespace BoundedPipelining

namespace Channel

variable {c : Channel} {i : Nat} {w : Write} {s : PeerStep} {head : Head}

/-- A write that is there after a step of the peer was there before it. -/
theorem write?_of_peerStep (h : (c.peerStep s).2.writes[i]? = some w) :
    ∃ w₀, c.writes[i]? = some w₀ ∧ c.WriteStep i w₀ s w := by
  have hsize : (c.peerStep s).2.writes.size = c.writes.size := by
    rw [← size_requests, requests_peerStep, size_requests]
  have hi : i < c.writes.size := hsize ▸ (Array.getElem?_eq_some_iff.mp h).1
  obtain ⟨w', hw', hstep⟩ := writeStep_peerStep (Array.getElem?_eq_getElem hi) s
  cases hw'.symm.trans h
  exact ⟨_, Array.getElem?_eq_getElem hi, hstep⟩

/-- The peer announces a graceful close by answering with a head that asks for it. -/
theorem announces_of_replies {r : Request} (h : (r, head) ∈ c.replies i s)
    (hw : head.wantsClose = true) : c.announces s = true := by
  have hat {j : Nat} {head' : Head} (h : (r, head) ∈ c.repliesAt i j head') :
      ((c.pending? j).isSome && head'.wantsClose) = true := by
    by_cases hj : c.pending? j = some i
    · obtain ⟨w, hw', -⟩ := pending?_eq_some_iff.mp hj
      rw [(repliesAt_of_pending (takenWrite?_eq_some hw') hj head').1, List.mem_singleton] at h
      cases h
      rw [hj, hw]
      rfl
    · rw [repliesAt_of_not_pending hj] at h
      cases h
  match s with
  | .respond _ _ | .respondWith _ _ _ => exact hat h
  | .next | .await | .failWrite _ _ | .dropPending _ | .send _ _ | .finish _ | .failPayload _ _
  | .announce | .close | .reset _ | .drop => cases h

/-- Every head that asks for a close stands under the signal. -/
def HeadsSignalled (c : Channel) : Prop :=
  ∀ i head, c.result? i = some (.ok head) → head.wantsClose = true → c.signals.closing = true

theorem HeadsSignalled.peerStep (hc : HeadsSignalled c) (s : PeerStep) :
    HeadsSignalled (c.peerStep s).2 := by
  intro i head hresult hw
  have hkept (h : c.result? i = some (.ok head)) : (c.peerStep s).2.signals.closing = true := by
    rw [signals_peerStep, hc i head h hw, Bool.true_or]
  obtain ⟨w', hw', hfate⟩ := result?_eq_ok_iff.mp hresult
  obtain ⟨w, hget, hstep⟩ := write?_of_peerStep hw'
  rcases hstep with ⟨-, -⟩ | ⟨-, -, -, hf⟩ | ⟨hr, -, -⟩ | ⟨-, -, -⟩
  · exact hkept (result?_eq_ok_iff.mpr ⟨w', hget, hfate⟩)
  · exact absurd hfate (hf head)
  · cases hfate
    rw [signals_peerStep, announces_of_replies (hr ▸ List.mem_singleton_self _) hw, Bool.or_true]
  · exact hkept (result?_eq_ok_iff.mpr ⟨w, hget, hfate⟩)

theorem HeadsSignalled.write (hc : HeadsSignalled c) (r : Request) :
    HeadsSignalled (c.write r) := by
  intro i head hresult hw
  exact hc i head (answered_write_iff.mp hresult) hw

end Channel

/-- A tracker that closes gracefully has heeded an announcement before. -/
theorem Tracker.heeded_of_close {t : Tracker} {cause : Option TransportError}
    (h : (Tracker.closed (t.closeError cause)).Heeded) : t.Heeded := by
  cases t with
  | opened => cases h
  | closing => trivial
  | closed e => exact h

namespace Connection

variable {c c' : Connection} {s : Step} {k : Nat} {e : ClassifiedError}

/-! ## The signal and the history -/

/-- In one of these steps the peer announced a graceful close, by the signal or in a head. -/
def Announced (c : Connection) (steps : List Step) : Prop :=
  ∃ before p after, steps = before ++ .peer p :: after ∧
    (c.run before).channel.announces p = true

theorem announced_cons {steps : List Step} :
    Announced c (s :: steps) ↔
      (∃ p, s = .peer p ∧ c.channel.announces p = true) ∨ Announced (c.step s).2 steps := by
  constructor
  · rintro ⟨before, p, after, hsteps, hp⟩
    cases before with
    | nil =>
      cases hsteps
      exact Or.inl ⟨p, rfl, hp⟩
    | cons t before =>
      cases hsteps
      exact Or.inr ⟨before, p, after, rfl, hp⟩
  · rintro (⟨p, rfl, hp⟩ | ⟨before, p, after, rfl, hp⟩)
    · exact ⟨[], p, steps, rfl, hp⟩
    · exact ⟨s :: before, p, after, rfl, hp⟩

theorem closing_step_iff : (c.step s).2.channel.signals.closing = true ↔
    c.channel.signals.closing = true ∨ ∃ p, s = .peer p ∧ c.channel.announces p = true := by
  rcases signals_step c s with ⟨p, rfl, hsignals⟩ | ⟨hne, hsignals⟩
  · rw [hsignals, Channel.signals_peerStep, Bool.or_eq_true]
    simp
  · rw [hsignals]
    constructor
    · exact Or.inl
    · rintro (h | ⟨p, rfl, -⟩)
      · exact h
      · exact absurd rfl (hne p)

/-- The peer's signal is on if it was on at the start, or an announcement was made since. -/
theorem closing_run_iff {steps : List Step} : (c.run steps).channel.signals.closing = true ↔
    c.channel.signals.closing = true ∨ Announced c steps := by
  induction steps generalizing c with
  | nil =>
    constructor
    · exact Or.inl
    · rintro (h | ⟨before, p, after, hsteps, -⟩)
      · exact h
      · exact absurd hsteps.symm (List.append_ne_nil_of_right_ne_nil before (by simp))
  | cons s steps ih =>
    rw [run_cons, ih, closing_step_iff, announced_cons, or_assoc]

/-! ## What stands under the signal -/

/-- Whatever may become a graceful error stands under the peer's signal. -/
structure Warranted (c : Connection) : Prop where
  heads : c.channel.HeadsSignalled
  tracker : c.tracker.Heeded → c.channel.signals.closing = true
  refusal : ∀ (k : Nat) (e : ClassifiedError), c.calls[k]? = some (.refused (.closed e)) →
    e.reason = .gracefulCloseInterrupted → c.channel.signals.closing = true

theorem warranted_ofDepth (d : Depth) (policy : ClosingPolicy) : Warranted (ofDepth d policy) where
  heads := by
    intro i head h
    simp [ofDepth, Channel.result?] at h
  tracker := fun h ↦ h.elim
  refusal := by simp [ofDepth]

/-- A request is turned away with a graceful error only by a tracker that has heeded. -/
private theorem Refusal.heeded {why : Rejection} (h : Refusal c why (.closed e))
    (he : e.reason = .gracefulCloseInterrupted) : c.tracker.Heeded := by
  cases h with
  | closed ht =>
    rw [ht]
    exact he
  | closing _ ht =>
    rw [ht]
    trivial

private theorem Warranted.move (hc : Warranted c) (m : Move c c') : Warranted c' := by
  cases m with
  | @refuse why e₀ h =>
    refine ⟨hc.heads, hc.tracker, fun k e hk he ↦ ?_⟩
    change (c.calls.push (.refused e₀))[k]? = _ at hk
    rw [Array.getElem?_push] at hk
    split at hk
    · cases hk
      exact hc.tracker (h.heeded he)
    · exact hc.refusal k e hk he
  | @told j e₀ h =>
    refine ⟨hc.heads, hc.tracker, fun k e hk he ↦ hc.refusal k e ?_ he⟩
    change (c.calls.set! j .over)[k]? = _ at hk
    rw [Array.set!_eq_setIfInBounds, Array.getElem?_setIfInBounds] at hk
    split at hk
    · split at hk <;> cases hk
    · exact hk
  | peer s =>
    have hkept (h : c.channel.signals.closing = true) :
        (c.channel.peerStep s).2.signals.closing = true := by
      rw [Channel.signals_peerStep, h, Bool.true_or]
    exact ⟨hc.heads.peerStep s, fun h ↦ hkept (hc.tracker h),
      fun k e hk he ↦ hkept (hc.refusal k e hk he)⟩
  | @take i l =>
    have hsame : (c.channel.read i).2.signals = c.channel.signals := Channel.signals_read _ i
    refine ⟨fun j head hresult hw ↦ ?_, fun h ↦ ?_, fun k e hk he ↦ ?_⟩
    · rw [Channel.result?_read] at hresult
      rw [hsame]
      exact hc.heads j head hresult hw
    · rw [hsame]
      exact hc.tracker h
    · rw [hsame]
      exact hc.refusal k e hk he
  | heed h =>
    refine ⟨hc.heads, fun _ ↦ ?_, hc.refusal⟩
    cases h with
    | signal h => exact h
    | head h hw => exact hc.heads _ _ h hw
  | close =>
    refine ⟨hc.heads, fun h ↦ hc.tracker ?_, hc.refusal⟩
    rw [tracker_close] at h
    exact Tracker.heeded_of_close h
  | watches | monitor | leave | lane => exact ⟨hc.heads, hc.tracker, hc.refusal⟩

theorem Warranted.change (hc : Warranted c) (h : Change c c') : Warranted c' := by
  rcases h with m | h | h | h
  · exact hc.move m
  · rw [h.eq]
    refine ⟨hc.heads.write _, hc.tracker, fun k e hk he ↦ hc.refusal k e ?_ he⟩
    rw [admitted, Array.getElem?_push] at hk
    split at hk
    · cases hk
    · exact hk
  · cases h
    exact ⟨hc.heads, hc.tracker, hc.refusal⟩
  · rw [h]
    exact ⟨hc.heads, hc.tracker, hc.refusal⟩

theorem Warranted.changes (hc : Warranted c) (h : Changes c c') : Warranted c' :=
  h.keeps (fun _ _ h hc ↦ hc.change h) hc

theorem warranted_run (d : Depth) (policy : ClosingPolicy) (steps : List Step) :
    Warranted ((ofDepth d policy).run steps) :=
  (warranted_ofDepth d policy).changes (run_changes _ steps)

/-! ## Who is told an error -/

/-- The classified error that an answer hands to a caller: of a response future, a body, a future of
the terminal error, or an exchange that is looked at. -/
def Answer.error? : Answer → Option ClassifiedError
  | .failed (.closed e) | .bodyFailed e | .closedWith e => some e
  | .snapshot x _ => x.failure?
  | _ => none

private theorem read_error (h : (c.read k).1.error? = some e) : (c.read k).1 = .bodyFailed e := by
  rw [read] at h ⊢
  split at h
  · rename_i i _ _ _ done _ _
    by_cases hdone : done = true
    · rw [readLane, if_pos hdone] at h
      cases h
    · rw [readLane, if_neg hdone] at h ⊢
      generalize c.pollBody i = r at h ⊢
      obtain ⟨item, done', c'⟩ := r
      cases item with
      | failed e' =>
        cases h
        rfl
      | chunk _ | ended | pending | violation _ _ => cases h
  · cases h

private theorem drain_error (h : (c.drain k).1.error? = some e) :
    (c.drain k).1 = .bodyFailed e := by
  have hanswer {r : Drain × Connection} (h : (answerDrain r).1.error? = some e) :
      (answerDrain r).1 = .bodyFailed e := by
    obtain ⟨d, c'⟩ := r
    cases d with
    | failed e' =>
      cases h
      rfl
    | bytes _ | pending | violation _ _ => cases h
  rw [drain] at h ⊢
  split at h
  · split at h
    · cases h
    · exact hanswer h
    · exact hanswer h
    · cases h
  · cases h

private theorem asFacade_error {act : Answer × Connection} (h : act.1.error? = none) :
    (c.asFacade act).1.error? = none := by
  rw [asFacade]
  split
  · exact h
  · rfl

private theorem request_error (c : Connection) (r : Request) :
    (c.request r).1.error? = none := by
  rw [request]
  split
  · rfl
  · split
    · rfl
    · split <;> rfl

private theorem drop_error (c : Connection) (k : Nat) :
    (c.dropResponse k).1.error? = none ∧ (c.dropBody k).1.error? = none := by
  constructor
  · rw [dropResponse]
    split
    · rfl
    · split
      · split <;> rfl
      · rfl
  · rw [dropBody]
    split
    · split <;> rfl
    · rfl

private theorem awaitLane_error {i : Nat} {l : Lane}
    (h : (c.awaitLane i l).1.error? = some e) : (c.awaitLane i l).1 = .failed (.closed e) := by
  rw [awaitLane] at h ⊢
  split at h
  · cases h
  · cases h
  · cases h
    rfl
  · split at h
    · cases h
    · cases h
      rfl

private theorem await_error (h : (c.await k).1.error? = some e) :
    c.calls[k]? = some (.refused (.closed e)) ∨
      ∃ i, c.calls[k]? = some (.admitted i) ∧ (c.await k).1 = .failed (.closed e) := by
  rw [await] at h ⊢
  split at h
  · rename_i e' hk
    cases e' with
    | closed e' =>
      cases h
      exact Or.inl hk
    | limitExceeded _ => cases h
  · split at h
    · rename_i i l hlane
      split at h
      · exact Or.inr ⟨i, (laneOf?_eq_some_iff.mp hlane).1, awaitLane_error h⟩
      · cases h
    · cases h

private theorem pollWatch_error (h : (c.callerStep (.pollWatch k)).1.error? = some e) :
    (c.callerStep (.pollWatch k)).1 = .closedWith e := by
  rw [callerStep] at h ⊢
  by_cases hw : c.watches[k]? = some true
  · rw [if_pos hw] at h ⊢
    split at h
    · cases h
    · cases h
      rfl
  · rw [if_neg hw] at h
    cases h

/-- An error is told by a refusal that waited, or it is that of the close. -/
theorem Sound.error_cases (hc : Sound c) (h : (c.step s).1.error? = some e) :
    (∃ k : Nat, c.calls[k]? = some (.refused (.closed e))) ∨
      (c.step s).2.tracker = .closed e := by
  have hanswer : (c.act s).1.error? = some e := h
  have hnone {a : Answer} (hsame : (c.act s).1 = a) (ha : a.error? = none) :
      (∃ k : Nat, c.calls[k]? = some (.refused (.closed e))) ∨
        (c.step s).2.tracker = .closed e := by
    rw [hsame, ha] at hanswer
    cases hanswer
  cases s with
  | peer _ | poll _ | settle | stopTasks => exact hnone rfl rfl
  | caller s =>
    cases s with
    | request r => exact hnone rfl (asFacade_error (request_error c r))
    | dropResponse k => exact hnone rfl (drop_error c k).1
    | dropBody k => exact hnone rfl (drop_error c k).2
    | watch | waitIdle | stats | describe | pendingExchanges | drop =>
      exact hnone rfl (asFacade_error rfl)
    | read k => exact Or.inr (hc.body_failed rfl (read_error hanswer))
    | drain k => exact Or.inr (hc.body_failed rfl (drain_error hanswer))
    | snapshot k =>
      change (c.snapshot k).error? = some e at hanswer
      rw [snapshot] at hanswer
      split at hanswer
      · rename_i i l hlane
        split at hanswer
        · have hl := (laneOf?_eq_some_iff.mp hlane).2
          exact Or.inr ((frame_step c _).tracker e ((hc.lane i l hl).failure e hanswer))
        · cases hanswer
      · cases hanswer
    | pollWatch k =>
      exact Or.inr (hc.yields (.terminal rfl (pollWatch_error hanswer)))
    | await k =>
      rcases await_error hanswer with hk | ⟨i, hk, ha⟩
      · exact Or.inl ⟨k, hk⟩
      · exact Or.inr (hc.yields (.response rfl hk ha))

/-! ## Every run -/

/-- **A graceful close was announced.** In whatever order the steps of a run come, the tracker is
closing, or closed with a graceful error, only if the peer announced a graceful close in that run,
by the signal or by answering some request with a head that asks for a close; and whatever step
tells somebody a graceful error, the announcement came before that step. -/
theorem graceful_announced (d : Depth) (policy : ClosingPolicy) (steps : List Step) :
    let c := (ofDepth d policy).run steps
    (c.tracker = .closing → Announced (ofDepth d policy) steps) ∧
    (∀ e, c.tracker = .closed e → e.reason = .gracefulCloseInterrupted →
      Announced (ofDepth d policy) steps) ∧
    (∀ s e, (c.step s).1.error? = some e → e.reason = .gracefulCloseInterrupted →
      Announced (ofDepth d policy) steps) := by
  intro c
  have hc : Sound c := sound_run d policy steps
  have hw : Warranted c := warranted_run d policy steps
  have hannounced (h : c.channel.signals.closing = true) :
      Announced (ofDepth d policy) steps := by
    rcases closing_run_iff.mp h with hfresh | h
    · cases hfresh
    · exact h
  refine ⟨fun ht ↦ ?_, fun e ht he ↦ ?_, fun s e ha he ↦ ?_⟩
  · exact hannounced (hw.tracker (by rw [ht]; trivial))
  · exact hannounced (hw.tracker (by rw [ht]; exact he))
  · rcases hc.error_cases ha with ⟨k, hk⟩ | ht
    · exact hannounced (hw.refusal k e hk he)
    · -- The step that tells the error is not the peer's, so the signal was on before it.
      have hclosing : (c.step s).2.channel.signals.closing = true :=
        (hw.changes (step_changes c s)).tracker (by rw [ht]; exact he)
      rcases closing_step_iff.mp hclosing with hbefore | ⟨p, rfl, -⟩
      · exact hannounced hbefore
      · cases ha

/-- A head asks for a close, the second request is turned away with a graceful error, and the
announcement is in the answer to the first. -/
theorem graceful_announced_of_refusal :
    let steps : List Step := [.caller (.request ⟨"GET", "/a", []⟩), .peer .next,
      .peer (.respond 0 { fields := [⟨"connection", [99, 108, 111, 115, 101]⟩] }),
      .poll (.dispatch 0),
      .caller (.request ⟨"GET", "/b", []⟩)]
    let c := (ofDepth ⟨2, by decide⟩ .reject).run steps
    (c.step (.caller (.await 1))).1.error? = some (classify true none) ∧
      Announced (ofDepth ⟨2, by decide⟩ .reject) steps := by
  intro steps c
  have htold : (c.step (.caller (.await 1))).1.error? = some (classify true none) := by
    decide +kernel
  obtain ⟨-, -, hdelivered⟩ := graceful_announced ⟨2, by decide⟩ .reject steps
  exact ⟨htold, hdelivered _ _ htold rfl⟩

end Connection

end BoundedPipelining
