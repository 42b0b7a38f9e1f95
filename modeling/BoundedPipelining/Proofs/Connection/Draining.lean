import BoundedPipelining.Proofs.Connection.Slots

/-!
# What becomes of a closed connection

A closed connection drains: once each task that was at work at the close has been polled, whatever
else happened in between, nothing is in flight, nothing is registered and nobody is left waiting.

The argument has two halves. The first is about tasks. A dispatch task or a watcher that is polled
after the close ends, an ended task stays ended, and no task is started any more; so in the end all
of them have ended. The second is about the state in which all of them have ended. By the invariant
a watcher ends only after its exchange left the registry, and an exchange leaves the registry only
after it has settled; and a dispatch task that has ended left its caller a result, or left word
that the terminal error is the result.

The monitor has no part in this. Whether it ends depends on the notifications of the channel, and a
connection that was closed by a failed write may keep its monitor for good.
-/

namespace BoundedPipelining

namespace Connection

variable {c c' : Connection} {i k : Nat} {l : Lane} {t : Task} {s : Step}

/-! ## Tasks at work -/

/-- Whether a task is at work. -/
def isAlive (c : Connection) : Task → Bool
  | .monitor => c.monitor != .finished
  | .dispatch i => (c.lanes[i]?).any fun l ↦ l.reply.isAwaited
  | .watcher i => (c.lanes[i]?).any fun l ↦ l.watcher.isLive

/-- Whether a step polls a task. -/
def Step.polls (t : Task) : Step → Bool
  | .poll t' => t' == t
  | .settle => true
  | .caller _ | .peer _ | .stopTasks => false

theorem isAlive_dispatch_eq_false :
    c.isAlive (.dispatch i) = false ↔ ∀ l, c.lanes[i]? = some l → l.reply.isAwaited = false := by
  rw [isAlive, Option.any_eq_false]

theorem isAlive_watcher_eq_false :
    c.isAlive (.watcher i) = false ↔ ∀ l, c.lanes[i]? = some l → l.watcher.isLive = false := by
  rw [isAlive, Option.any_eq_false]

/-- After the close every lane is one that was there before. -/
private theorem Frame.lane_of_closed (h : Frame c c') (hc : c.tracker.isClosed = true)
    {l' : Lane} (hl' : c'.lanes[i]? = some l') : ∃ l, c.lanes[i]? = some l ∧ l.Frame l' := by
  have hi : i < c.lanes.size := h.size hc ▸ (Array.getElem?_eq_some_iff.mp hl').1
  have hl : c.lanes[i]? = some c.lanes[i] := Array.getElem?_eq_getElem hi
  obtain ⟨l₁, hl₁, hframe⟩ := h.lane i _ hl
  cases hl₁.symm.trans hl'
  exact ⟨_, hl, hframe⟩

/-- A task that has ended stays ended after the close. -/
theorem Frame.isAlive_eq_false (h : Frame c c') (hc : c.tracker.isClosed = true)
    (ht : t ≠ .monitor) (hended : c.isAlive t = false) : c'.isAlive t = false := by
  cases t with
  | monitor => exact absurd rfl ht
  | dispatch i =>
    refine isAlive_dispatch_eq_false.mpr fun l' hl' ↦ ?_
    obtain ⟨l, hl, hframe⟩ := h.lane_of_closed hc hl'
    have hr := isAlive_dispatch_eq_false.mp hended l hl
    rw [hframe.reply hr, hr]
  | watcher i =>
    refine isAlive_watcher_eq_false.mpr fun l' hl' ↦ ?_
    obtain ⟨l, hl, hframe⟩ := h.lane_of_closed hc hl'
    exact hframe.watcher (isAlive_watcher_eq_false.mp hended l hl)

private theorem reply_ended {r : Reply} (hr : r.isAwaited = false) :
    (c.reply i r).isAlive (.dispatch i) = false := by
  refine isAlive_dispatch_eq_false.mpr fun l' hl' ↦ ?_
  cases hl : c.lanes[i]? with
  | none =>
    rw [Connection.reply, onLane_of_none hl, hl] at hl'
    cases hl'
  | some l =>
    rw [reply_eq_put hl, lane?_put_self hl] at hl'
    cases hl'
    exact hr

private theorem acceptHead_ended (l : Lane) (head : Head) :
    (c.acceptHead i l head).isAlive (.dispatch i) = false := by
  rcases l.exchange.headersReceived_cases c.books with
    ⟨e, -, heq⟩ | ⟨-, heq⟩ | ⟨-, -, e, heq⟩
  · simp only [acceptHead, heq]
    exact reply_ended rfl
  · simp only [acceptHead, heq]
    exact reply_ended rfl
  · simp only [acceptHead, heq]
    exact reply_ended rfl

/-- After the close a poll ends a dispatch task. -/
private theorem pollDispatch_ended (hc : c.tracker.isClosed = true) (i : Nat) :
    (c.pollDispatch i).isAlive (.dispatch i) = false := by
  rw [pollDispatch]
  split
  · rename_i hl
    refine isAlive_dispatch_eq_false.mpr fun l' hl' ↦ ?_
    rw [hl] at hl'
    cases hl'
  · rename_i l hl
    split
    · split
      · exact acceptHead_ended l _
      · exact reply_ended rfl
      · split
        · rename_i ht
          rw [Tracker.terminal?_eq_none_iff.mp ht] at hc
          cases hc
        · exact reply_ended rfl
    · rename_i hr
      refine isAlive_dispatch_eq_false.mpr fun l' hl' ↦ ?_
      cases hl.symm.trans hl'
      exact Bool.not_eq_true _ |>.mp hr

/-- After the close a poll ends a watcher. -/
private theorem pollWatcher_ended (hc : c.tracker.isClosed = true) (i : Nat) :
    (c.pollWatcher i).isAlive (.watcher i) = false := by
  refine isAlive_watcher_eq_false.mpr fun l' hl' ↦ ?_
  cases hl : c.lanes[i]? with
  | none =>
    rw [pollWatcher_of_none hl, hl] at hl'
    cases hl'
  | some l =>
    by_cases hw : l.watcher.isLive = true
    · obtain ⟨l₁, b, heq, -, hopen | hended⟩ := pollWatcher_cases hl hw
      · rw [hopen] at hc
        cases hc
      · rw [heq, lane?_put_self hl] at hl'
        cases hl'
        rw [hended]
        rfl
    · rw [pollWatcher_of_ended hl hw] at hl'
      cases hl.symm.trans hl'
      exact Bool.not_eq_true _ |>.mp hw

theorem isAlive_poll (hc : c.tracker.isClosed = true) (ht : t ≠ .monitor) :
    (c.poll t).isAlive t = false := by
  cases t with
  | monitor => exact absurd rfl ht
  | dispatch i => exact pollDispatch_ended hc i
  | watcher i => exact pollWatcher_ended hc i

/-- A round ends every dispatch task and every watcher after the close. -/
private theorem round_ended (hc : c.tracker.isClosed = true) (ht : t ≠ .monitor) :
    c.round.isAlive t = false := by
  by_cases hended : c.isAlive t = false
  · exact (round_moves c).frame.isAlive_eq_false hc ht hended
  have hlane : ∃ i l, c.lanes[i]? = some l ∧ (t = .dispatch i ∨ t = .watcher i) := by
    cases t with
    | monitor => exact absurd rfl ht
    | dispatch i =>
      rw [isAlive_dispatch_eq_false] at hended
      push Not at hended
      obtain ⟨l, hl, -⟩ := hended
      exact ⟨i, l, hl, Or.inl rfl⟩
    | watcher i =>
      rw [isAlive_watcher_eq_false] at hended
      push Not at hended
      obtain ⟨l, hl, -⟩ := hended
      exact ⟨i, l, hl, Or.inr rfl⟩
  obtain ⟨i, l, hl, hti⟩ := hlane
  have hi : i ∈ List.range c.lanes.size :=
    List.mem_range.mpr (Array.getElem?_eq_some_iff.mp hl).1
  -- The lanes before `i`, lane `i`, and those after it.
  obtain ⟨earlier, later, hrange⟩ := List.append_of_mem hi
  rw [round, hrange, List.foldl_append, List.foldl_cons]
  have hmoves : Moves c _ := (pollMonitor_moves c).trans (pollLanes_moves earlier _)
  generalize earlier.foldl (fun c i ↦ (c.pollDispatch i).pollWatcher i) c.pollMonitor = c₁
    at hmoves ⊢
  have hc₁ := (Moves.frame hmoves).isClosed hc
  have hc₂ := (pollDispatch_moves c₁ i).frame.isClosed hc₁
  have hc₃ := (pollWatcher_moves (c₁.pollDispatch i) i).frame.isClosed hc₂
  refine (pollLanes_moves later _).frame.isAlive_eq_false hc₃ ht ?_
  rcases hti with rfl | rfl
  · exact (pollWatcher_moves _ i).frame.isAlive_eq_false hc₂ ht (pollDispatch_ended hc₁ i)
  · exact pollWatcher_ended hc₂ i

theorem isAlive_settle (hc : c.tracker.isClosed = true) (ht : t ≠ .monitor) :
    c.settle.isAlive t = false := by
  have hround := round_ended hc ht
  rw [settle, rounds]
  split
  · exact (rounds_moves _ c.round).frame.isAlive_eq_false
      ((round_moves c).frame.isClosed hc) ht hround
  · exact hround

/-- A step that polls a task after the close ends it. -/
theorem isAlive_step (hc : c.tracker.isClosed = true) (ht : t ≠ .monitor)
    (hs : s.polls t = true) : (c.step s).2.isAlive t = false := by
  have hact : (c.act s).2.isAlive t = false := by
    cases s with
    | poll t' =>
      cases beq_iff_eq.mp hs
      exact isAlive_poll hc ht
    | settle => exact isAlive_settle hc ht
    | caller _ | peer _ | stopTasks => cases hs
  have hclosed : (c.act s).2.tracker.isClosed = true := by
    cases s with
    | poll t' => exact (poll_moves c t').frame.isClosed hc
    | settle => exact (settle_moves c).frame.isClosed hc
    | caller _ | peer _ | stopTasks => cases hs
  exact (reclaim_moves _).frame.isAlive_eq_false hclosed ht hact

/-- A task that is polled in a run after the close, unless it had ended before, has ended after
the run. -/
theorem isAlive_run (hc : c.tracker.isClosed = true) (ht : t ≠ .monitor) {after : List Step}
    (hp : c.isAlive t = true → ∃ s ∈ after, s.polls t = true) :
    (c.run after).isAlive t = false := by
  induction after generalizing c with
  | nil =>
    by_contra halive
    obtain ⟨s, hs, -⟩ := hp (Bool.not_eq_false _ |>.mp halive)
    cases hs
  | cons s after ih =>
    have hframe := frame_step c s
    have hc' := hframe.isClosed hc
    -- Either this step ends the task for good, or it is left to the steps after it.
    by_cases hs : s.polls t = true
    · exact (frame_run _ after).isAlive_eq_false hc' ht (isAlive_step hc ht hs)
    · refine ih hc' fun halive ↦ ?_
      have hbefore : c.isAlive t = true := by
        by_contra hended
        rw [hframe.isAlive_eq_false hc ht (Bool.not_eq_true _ |>.mp hended)] at halive
        cases halive
      obtain ⟨s', hmem, hs'⟩ := hp hbefore
      rcases List.mem_cons.mp hmem with rfl | hmem
      · exact absurd hs' hs
      · exact ⟨s', hmem, hs'⟩

/-! ## When all watchers have ended -/

/-- An exchange whose watcher has ended has left the registry, and has settled. -/
theorem Sound.settled_of_watcher (hc : Sound c) (hr : c.running = true)
    (hw : ∀ i, c.isAlive (.watcher i) = false) (hl : l ∈ c.lanes) :
    l.registered = false ∧ l.exchange.phase.isTerminal = true := by
  obtain ⟨i, hi, rfl⟩ := Array.mem_iff_getElem.mp hl
  have hget := Array.getElem?_eq_getElem hi
  have hlane := hc.lane i _ hget
  have hended := isAlive_watcher_eq_false.mp (hw i) _ hget
  have hregistered : c.lanes[i].registered = false := by
    by_contra hnot
    rw [hlane.watched hr (Bool.not_eq_false _ |>.mp hnot)] at hended
    cases hended
  refine ⟨hregistered, ?_⟩
  -- An exchange that had not settled would still be listed.
  by_contra hnot
  rw [hlane.listed (by simp [Phase.holdsSlot, hnot])] at hregistered
  cases hregistered

theorem Sound.inFlight_of_watcher (hc : Sound c) (hr : c.running = true)
    (hw : ∀ i, c.isAlive (.watcher i) = false) : c.inFlight = 0 := by
  rw [hc.inFlight_eq hr]
  refine Array.countP_eq_zero.mpr fun l hl ↦ ?_
  simp [Phase.holdsSlot, (hc.settled_of_watcher hr hw hl).2]

theorem Sound.registry_of_watcher (hc : Sound c) (hr : c.running = true)
    (hw : ∀ i, c.isAlive (.watcher i) = false) : c.registry = [] := by
  refine List.filterMap_eq_nil_iff.mpr fun l hl ↦ ?_
  have hregistered := (hc.settled_of_watcher hr hw (Array.mem_toList_iff.mp hl)).1
  rw [if_neg (by simp [hregistered])]

/-! ## Response futures -/

/-- The caller still waits for the response of a call. -/
inductive Unresolved (c : Connection) (k : Nat) : Prop
  | refused {e : ConnectionError} (hk : c.calls[k]? = some (.refused e))
  | admitted {i : Nat} {l : Lane} (hk : c.laneOf? k = some (i, l)) (hw : l.caller = .waiting)

/-- Whether an answer resolves a response future. -/
def Answer.isResolved : Answer → Bool
  | .head _ | .failed _ => true
  | _ => false

/-- After the close a response future resolves once its dispatch task has ended. -/
theorem await_resolved (hc : c.tracker.isClosed = true)
    (hd : ∀ i, c.isAlive (.dispatch i) = false) (hu : Unresolved c k) :
    (c.await k).1.isResolved = true := by
  rcases hu with hk | ⟨hk, hw⟩
  · simp only [await, hk]
    rfl
  · rename_i i l
    obtain ⟨hcall, hl⟩ := laneOf?_eq_some_iff.mp hk
    have hended := isAlive_dispatch_eq_false.mp (hd i) l hl
    have hawait : c.await k = c.awaitLane i l := by
      simp only [await, hcall, hk, hw]
    rw [hawait, awaitLane]
    split
    · rename_i hr
      rw [hr] at hended
      cases hended
    · rfl
    · rfl
    · split
      · rename_i ht
        rw [Tracker.terminal?_eq_none_iff.mp ht] at hc
        cases hc
      · rfl

/-! ## Bodies -/

/-- After the close a body always has something to say. -/
theorem body_ne_pending (hc : c.tracker.isClosed = true) (hs : s.bodyCall? = some k) :
    (c.step s).1 ≠ .pending := by
  have hstep := bodyStep_of_step (c := c) hs
  generalize (c.step s).1 = a at hstep ⊢
  intro ha
  rcases hstep with ⟨-, -, hend, -, -, -, -⟩ | - | ⟨-, ht⟩ | ⟨-, hp, -⟩
  · rw [ha] at hend
    cases hend
  · cases ha
  · rw [ht] at hc
    cases hc
  · exact hp ha

/-! ## Waits for an idle gate -/

/-- What is left of a wait for the gate to be idle that was started at some point of a run and
polled at others, when the run has come to a connection. -/
inductive Awaits : Connection → IdleWait → Prop
  | started (c : Connection) : Awaits c .fresh
  | later {c : Connection} {w : IdleWait} (h : Awaits c w) (s : Step) : Awaits (c.step s).2 w
  | polled {c : Connection} {w w' : IdleWait} (h : Awaits c w)
      (hw : w.poll c.books.limiter = some w') : Awaits c w'

theorem Awaits.isBehind {w : IdleWait} (h : Awaits c w) : w.IsBehind c.books.limiter := by
  induction h with
  | started => trivial
  | @later c w _ s ih => exact ih.mono (frame_step c s).gate
  | polled _ hw ih => exact ih.poll hw

/-- **A closed connection drains.** From the close on no slot is taken and no poll of a body is left
pending. Once each task that was at work has been polled, in any order and with any steps of the
callers and the peer in between, nothing is in flight, the registry is empty, every exchange has
settled, every response future resolves when it is polled next, and so does every wait for the
gate to be idle, whenever it was started and polled. -/
theorem closed_drains (d : Depth) (policy : ClosingPolicy) {before after : List Step}
    (hbefore : .stopTasks ∉ before) (hafter : .stopTasks ∉ after)
    (hclosed : ((ofDepth d policy).run before).tracker.isClosed = true) :
    let c := (ofDepth d policy).run before
    let c' := c.run after
    (∀ s, (c'.step s).2.inFlight ≤ c'.inFlight) ∧
    (∀ s k, s.bodyCall? = some k → (c'.step s).1 ≠ .pending) ∧
    ((∀ t, c.isAlive t = true → ∃ s ∈ after, s.polls t = true) →
      c'.inFlight = 0 ∧ c'.registry = [] ∧
      (∀ l ∈ c'.lanes, l.exchange.phase.isTerminal = true) ∧
      (∀ k, Unresolved c' k → (c'.step (.caller (.await k))).1.isResolved = true) ∧
      (∀ w, Awaits c' w → w.poll c'.books.limiter = none) ∧
      (c'.facade = true → (c'.step (.caller .waitIdle)).1 = .idle true)) := by
  intro c c'
  have hc : Sound c' := (sound_run d policy before).changes (run_changes c after)
  have hr : c'.running = true := (running_run hafter c).trans (running_run hbefore _)
  have hclosed' : c'.tracker.isClosed = true := (frame_run c after).isClosed hclosed
  refine ⟨fun s ↦ (frame_step c' s).slots hclosed', fun s k hs ↦ body_ne_pending hclosed' hs,
    fun hpolled ↦ ?_⟩
  have hended (t : Task) (ht : t ≠ .monitor) : c'.isAlive t = false :=
    isAlive_run hclosed ht (hpolled t)
  have hw (i : Nat) : c'.isAlive (.watcher i) = false := hended _ (by simp)
  have hidle : c'.inFlight = 0 := hc.inFlight_of_watcher hr hw
  refine ⟨hidle, hc.registry_of_watcher hr hw, fun l hl ↦ (hc.settled_of_watcher hr hw hl).2,
    fun k hu ↦ await_resolved hclosed' (fun i ↦ hended _ (by simp)) hu,
    fun w hawaits ↦ hawaits.isBehind.poll_of_idle hidle, fun hf ↦ ?_⟩
  change (c'.asFacade (.idle (c'.inFlight == 0), c')).1 = .idle true
  rw [asFacade, if_pos hf, hidle]
  rfl

/-- A connection is dropped while the body of one exchange is half read and the other exchange was
given up by its caller. The tasks that are left bring the drain to its end. -/
theorem closed_drains_after_drop :
    let c := (ofDepth ⟨2, by decide⟩ .accept).run [.caller (.request ⟨"GET", "/a", []⟩),
      .caller (.request ⟨"GET", "/b", []⟩), .peer .next, .peer (.respond 0 {}),
      .poll (.dispatch 0), .caller (.await 0), .peer (.send 0 [104]), .caller (.read 0),
      .caller (.dropResponse 1), .caller .drop]
    let c' := c.run [.poll (.watcher 1), .peer .next, .poll (.dispatch 1), .poll (.watcher 0)]
    c.tracker.isClosed = true ∧ c.inFlight = 2 ∧ c'.inFlight = 0 ∧ c'.registry = [] := by
  intro c c'
  have hclosed : c.tracker.isClosed = true := by decide +kernel
  obtain ⟨-, -, hdrained⟩ := @closed_drains ⟨2, by decide⟩ .accept
    [.caller (.request ⟨"GET", "/a", []⟩), .caller (.request ⟨"GET", "/b", []⟩), .peer .next,
      .peer (.respond 0 {}), .poll (.dispatch 0), .caller (.await 0), .peer (.send 0 [104]),
      .caller (.read 0), .caller (.dropResponse 1), .caller .drop]
    [.poll (.watcher 1), .peer .next, .poll (.dispatch 1), .poll (.watcher 0)]
    (by simp) (by simp) hclosed
  have hsize : c.lanes.size = 2 := by decide +kernel
  have hlane (i : Nat) : c.lanes[i + 2]? = none :=
    Array.getElem?_eq_none (hsize ▸ Nat.le_add_left 2 i)
  obtain ⟨hidle, hregistry, -⟩ := hdrained fun t halive ↦ by
    match t with
    | .monitor | .dispatch 0 => exact absurd halive (by decide +kernel)
    | .dispatch 1 => exact ⟨.poll (.dispatch 1), by simp, by decide⟩
    | .watcher 0 => exact ⟨.poll (.watcher 0), by simp, by decide⟩
    | .watcher 1 => exact ⟨.poll (.watcher 1), by simp, by decide⟩
    | .dispatch (i + 2) | .watcher (i + 2) =>
      change c.isAlive _ = true at halive
      rw [isAlive, hlane i] at halive
      cases halive
  exact ⟨hclosed, by decide +kernel, hidle, hregistry⟩

end Connection

end BoundedPipelining
