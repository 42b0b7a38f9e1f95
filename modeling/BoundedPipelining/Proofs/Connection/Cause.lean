import BoundedPipelining.Proofs.Connection.Announcements
import BoundedPipelining.Proofs.Connection.TerminalError

/-!
# The cause of a reset

A peer that resets the channel says why, and the error it gives is to reach every caller. It is kept
as a signal until the monitor looks at it, and the monitor looks only when it is polled. What
happens in between decides: a connection that somebody else closed has its error already, a channel
that is torn down or that nobody holds any more counts as closed without a cause, and a second reset
takes the place of the first.

`reset_cause_survives` says that nothing else can lose the cause, and `reset_cause_lost` that each
of these does.
-/

namespace BoundedPipelining

/-! ## The signals of a reset -/

namespace Channel

theorem error_peerStep {s : PeerStep} (hs : ∀ e, s ≠ .reset e) (c : Channel) :
    (c.peerStep s).2.signals.error = c.signals.error := by
  rw [signals_peerStep]
  cases s with
  | reset e => exact absurd rfl (hs e)
  | next | await | respond | respondWith | failWrite | dropPending | send | finish | failPayload
  | announce | close | drop => rfl

theorem closed_peerStep {s : PeerStep} (hs : s ≠ .close) (c : Channel) :
    (c.peerStep s).2.signals.closed = c.signals.closed := by
  rw [signals_peerStep]
  cases s with
  | close => exact absurd rfl hs
  | next | await | respond | respondWith | failWrite | dropPending | send | finish | failPayload
  | announce | reset | drop => simp

end Channel

/-! ## Causes in errors -/

theorem ClassifiedError.mem_chain {err : ClassifiedError} {e : TransportError}
    (h : err.channel.cause = some e) {t : String} (ht : t ∈ e.chain) : t ∈ err.chain := by
  rw [chain, ChannelClosed.chain, h]
  exact List.mem_cons_of_mem _ (List.mem_cons_of_mem _ ht)

/-- A close that is the first keeps its cause. -/
theorem Tracker.cause_closeError {t : Tracker} (ho : t.isClosed = false)
    (cause : Option TransportError) : (t.closeError cause).channel.cause = cause := by
  cases t with
  | opened | closing => rfl
  | closed e => cases ho

/-- The observer closes with the error of a reset, if the channel was not torn down. -/
theorem Observer.poll_error {n : Notices} {e : TransportError} (hn : n.close = false)
    (he : n.error = some e) {t : Tracker} (ho : t.isClosed = false) (seen : Bool) (m : Ledger) :
    ∃ err, ((watching seen).poll n t m).2.1 = .closed err ∧ err.channel.cause = some e := by
  rw [poll_watching]
  split
  · have hmark : t.markClosing.isClosed = false := by
      cases t with
      | opened | closing => rfl
      | closed e => cases ho
    rw [conclude_pick fun _ ↦ rfl, if_neg (by simp [hn])]
    simp only [he]
    exact ⟨_, Tracker.close_tracker _ _ _, Tracker.cause_closeError hmark _⟩
  · rename_i hnew
    rw [conclude_pick fun h ↦ by_contra fun hseen ↦ hnew ⟨h, hseen⟩, if_neg (by simp [hn])]
    simp only [he]
    exact ⟨_, Tracker.close_tracker _ _ _, Tracker.cause_closeError ho _⟩

namespace Connection

variable {c : Connection} {e : TransportError} {s : Step} {steps : List Step}

theorem error_step (hs : ∀ e, s ≠ .peer (.reset e)) (c : Connection) :
    (c.step s).2.channel.signals.error = c.channel.signals.error := by
  rcases signals_step c s with ⟨p, rfl, hsignals⟩ | ⟨-, hsignals⟩
  · rw [hsignals, Channel.error_peerStep fun e he ↦ hs e (by rw [he])]
  · rw [hsignals]

theorem closed_step (hs : s ≠ .peer .close) (c : Connection) :
    (c.step s).2.channel.signals.closed = c.channel.signals.closed := by
  rcases signals_step c s with ⟨p, rfl, hsignals⟩ | ⟨-, hsignals⟩
  · rw [hsignals, Channel.closed_peerStep fun hclose ↦ hs (by rw [hclose])]
  · rw [hsignals]

/-- What a reset signalled stays until the next reset. -/
theorem error_run (hs : ∀ e, .peer (.reset e) ∉ steps) (c : Connection) :
    (c.run steps).channel.signals.error = c.channel.signals.error := by
  induction steps generalizing c with
  | nil => rfl
  | cons s steps ih =>
    refine (ih (fun e hmem ↦ hs e (List.mem_cons_of_mem _ hmem)) _).trans (error_step ?_ c)
    rintro e rfl
    exact hs e List.mem_cons_self

theorem closed_run (hs : .peer .close ∉ steps) (c : Connection) :
    (c.run steps).channel.signals.closed = c.channel.signals.closed := by
  induction steps generalizing c with
  | nil => rfl
  | cons s steps ih =>
    rw [List.mem_cons, not_or] at hs
    exact (ih hs.2 _).trans (closed_step (Ne.symm hs.1) c)

/-- A poll of the monitor closes the connection with the error of a reset, if the connection was not
closed before and the channel was not torn down. -/
theorem Vigilant.cause_pollMonitor (hc : Vigilant c) (hr : c.running = true)
    (ho : c.tracker.isClosed = false) (hn : c.channel.notices.close = false)
    (he : c.channel.signals.error = some e) :
    ∃ err, c.pollMonitor.tracker = .closed err ∧ err.channel.cause = some e := by
  have htracker : c.pollMonitor.tracker
      = (c.monitor.poll c.channel.notices c.tracker c.books.ledger).2.1 := rfl
  rw [htracker]
  cases hm : c.monitor with
  | finished => exact absurd hm (hc.alive hr ho)
  | watching seen => exact Observer.poll_error hn he ho seen _

/-- **The cause of a reset survives.** The peer resets the channel, and did not close it before. If
by the next poll of the monitor nobody has closed the connection, and the peer has neither closed
the channel nor reset it again nor let go of its last handle, then the connection closes with an
error that wraps exactly the error of the reset; and so every error that is told from then on wraps
it, with all of its texts in its chain. -/
theorem reset_cause_survives (d : Depth) (policy : ClosingPolicy) {before mid after : List Step}
    {m : Step} {e : TransportError} (hrun : .stopTasks ∉ before ++ mid)
    (hpeer : ((ofDepth d policy).run before).channel.peer = true)
    (hclose : .peer .close ∉ before ++ mid) (hreset : ∀ e', .peer (.reset e') ∉ mid)
    (ho : ((ofDepth d policy).run (before ++ .peer (.reset e) :: mid)).tracker.isClosed = false)
    (hheld :
      ((ofDepth d policy).run (before ++ .peer (.reset e) :: mid)).channel.isSignalled = true)
    (hm : m.polls .monitor = true) :
    let c := (ofDepth d policy).run (before ++ .peer (.reset e) :: mid ++ m :: after)
    (∃ err, c.tracker = .closed err ∧ err.channel.cause = some e ∧ ∀ t ∈ e.chain, t ∈ err.chain) ∧
    ∀ s err, Yields c s err → err.channel.cause = some e ∧ ∀ t ∈ e.chain, t ∈ err.chain := by
  intro c
  let c₁ : Connection := (ofDepth d policy).run (before ++ .peer (.reset e) :: mid)
  have hr : c₁.running = true := running_run (by simpa using hrun) _
  have hvigilant : Vigilant c₁ := vigilant_run d policy _
  have herror : c₁.channel.signals.error = some e := by
    change ((ofDepth d policy).run _).channel.signals.error = some e
    rw [run_append, run_cons, error_run hreset, channel_step_peer, Channel.signals_peerStep]
    exact if_pos hpeer
  have hnever : .peer .close ∉ before ++ .peer (.reset e) :: mid := by simpa using hclose
  have hclosed : c₁.channel.signals.closed = false := closed_run hnever _
  have hnotice : c₁.channel.notices.close = false := by
    rw [Channel.notices, hclosed, hheld]
    rfl
  obtain ⟨err, hpolled, hcause⟩ := hvigilant.cause_pollMonitor hr ho hnotice herror
  have hc : c.tracker = .closed err := by
    change ((ofDepth d policy).run _).tracker = .closed err
    rw [run_append, run_cons]
    exact (frame_run _ after).tracker err ((moves_of_polls_monitor hm c₁).frame.tracker err hpolled)
  refine ⟨⟨err, hc, hcause, fun t ↦ ClassifiedError.mem_chain hcause⟩, fun s err' hyields ↦ ?_⟩
  have hsound : Sound c := sound_run d policy _
  cases ((frame_step c s).tracker err hc).symm.trans (hsound.yields hyields)
  exact ⟨hcause, fun t ↦ ClassifiedError.mem_chain hcause⟩

/-- A reset comes before an announcement, and the facade is dropped only after the monitor was
polled. -/
theorem reset_cause_survives_drop :
    let c := (ofDepth ⟨1, by decide⟩ .accept).run ([.caller (.request ⟨"GET", "/a", []⟩)]
      ++ .peer (.reset (.protocol "bad frame")) :: [.peer .announce]
      ++ .poll .monitor :: [.caller .drop])
    ∃ err, c.tracker = .closed err ∧ "protocol error: bad frame" ∈ err.chain := by
  intro c
  obtain ⟨⟨err, hc, -, hchain⟩, -⟩ := @reset_cause_survives ⟨1, by decide⟩ .accept
    [.caller (.request ⟨"GET", "/a", []⟩)] [.peer .announce] [.caller .drop] (.poll .monitor)
    (.protocol "bad frame") (by simp) (by decide +kernel) (by simp) (by simp) (by decide +kernel)
    (by decide +kernel) rfl
  exact ⟨err, hc, hchain _ (by decide)⟩

/-- Between the reset and the next poll of the monitor the cause is lost if the facade is dropped,
if a write that the channel refused is reported by its dispatch task, if the peer closes the channel
or resets it again, and if the peer goes away. -/
theorem reset_cause_lost :
    ([[.caller .drop], [.caller (.request ⟨"GET", "/a", []⟩), .poll (.dispatch 0)],
        [.peer .close], [.peer (.reset .closed)], [.peer .drop]] : List (List Step)).map
      (fun mid ↦ ((ofDepth ⟨1, by decide⟩ .accept).run
        (.peer (.reset (.protocol "bad frame")) :: mid ++ [.poll .monitor])).tracker)
      = [.closed (classify false none), .closed (classify false (some .closed)),
        .closed (classify false none), .closed (classify false (some .closed)),
        .closed (classify false none)] ∧
    "protocol error: bad frame" ∉ (classify false none).chain ∧
    "protocol error: bad frame" ∉ (classify false (some .closed)).chain := by
  decide +kernel

end Connection

end BoundedPipelining
