import BoundedPipelining.Proofs.Connection.Moves
import BoundedPipelining.Proofs.Lifecycle.Observing

/-!
# The background tasks as moves

A poll of the monitor, of a dispatch task or of a close watcher is a sequence of moves, and so is a
run of all of them until none can move. The shape of each proof is that of the function: one case
for each branch of the poll, and in it the moves in the order in which the parts change.
-/

namespace BoundedPipelining

open Relation (ReflTransGen)

namespace Connection

variable {c : Connection} {i : Nat} {l : Lane}

/-! ## The monitor -/

theorem isClosed_close (c : Connection) (cause : Option TransportError) :
    (c.close cause).2.tracker.isClosed = true := by
  simp [close, Tracker.isClosed]

theorem close_moves {cause : Option TransportError} (h : Teardown c cause) :
    Moves c (c.close cause).2 := .single (.close h)

/-- What the monitor does once an announcement that is there has been seen. -/
private theorem conclude_moves (seen : Bool) (hm : c.monitor = .watching seen)
    (hs : c.channel.notices.closing = true → seen = true) {r : Observer × Tracker × Ledger}
    (heq : Observer.conclude seen (Observer.pick seen c.channel.notices) c.tracker c.books.ledger
      = r) :
    Moves c { c with
      monitor := r.1, tracker := r.2.1, books := { c.books with ledger := r.2.2 } } := by
  rw [Observer.conclude_pick hs] at heq
  subst heq
  by_cases hclose : c.channel.notices.close = true
  · rw [if_pos hclose]
    exact (close_moves (.notice hm hs hclose)).tail
      (.monitor (by simp) (by simp) fun _ ↦ isClosed_close c none)
  · rw [if_neg hclose]
    cases herror : c.channel.notices.error with
    | none =>
      change Moves c { c with monitor := .watching seen }
      rw [← hm]
    | some e =>
      exact (close_moves (.error hm hs herror)).tail
        (.monitor (by simp) (by simp) fun _ ↦ isClosed_close c (some e))

theorem pollMonitor_moves (c : Connection) : Moves c c.pollMonitor := by
  cases hm : c.monitor with
  | finished =>
    have heq : c.pollMonitor = c := by rw [pollMonitor, hm, Observer.poll, ← hm]
    rw [heq]
  | watching seen =>
    rw [pollMonitor, hm, Observer.poll_watching]
    by_cases hclosing : c.channel.notices.closing = true ∧ ¬ seen = true
    · rw [if_pos hclosing]
      let c₁ : Connection := { c with tracker := c.tracker.markClosing, monitor := .watching true }
      have hheed : Moves c c₁ := by
        refine (ReflTransGen.single (.heed (.signal hclosing.1))).tail (.monitor ?_ ?_ ?_)
        · intro _
          cases c.tracker <;> simp [Tracker.markClosing]
        · intro _
          simp [hm]
        · intro ho
          cases ho
      exact hheed.trans (conclude_moves (c := c₁) true rfl (fun _ ↦ rfl) rfl)
    · rw [if_neg hclosing]
      refine conclude_moves seen hm (fun h ↦ ?_) rfl
      by_contra hseen
      exact hclosing ⟨h, hseen⟩

/-! ## The dispatch tasks -/

theorem failExchange_eq_put (h : c.lanes[i]? = some l) (e : ClassifiedError) :
    c.failExchange i e = ((l.exchange.fail e c.books).1,
      c.put i { l with exchange := (l.exchange.fail e c.books).2.1 }
        (l.exchange.fail e c.books).2.2) := by
  simp only [failExchange, h, putExchange_eq_put h]

/-- Failing an exchange with the terminal error leaves it settled, and the answer is the error it
failed with, or the terminal error itself if it had completed. -/
theorem fail_moves (h : c.lanes[i]? = some l) {e : ClassifiedError} (ht : c.tracker = .closed e) :
    Moves c (c.put i { l with exchange := (l.exchange.fail e c.books).2.1 }
      (l.exchange.fail e c.books).2.2) ∧
    (l.exchange.fail e c.books).2.1.phase.isTerminal = true ∧
    ((l.exchange.fail e c.books).2.1.failure? = some (l.exchange.fail e c.books).1 ∨
      (l.exchange.fail e c.books).2.1.progress = .completed ∧
        c.tracker = .closed (l.exchange.fail e c.books).1) := by
  have hself : Moves c (c.put i { l with exchange := l.exchange } c.books) := by
    rw [put_exchange_self h]
  rcases l.exchange.fail_cases e c.books with ⟨kept, hf, heq⟩ | ⟨hp, heq⟩ | ⟨hs, heq⟩
  · rw [heq]
    exact ⟨hself, Exchange.isTerminal_of_failure? hf, Or.inl hf⟩
  · rw [heq]
    exact ⟨hself, by rw [Exchange.phase, hp]; rfl, Or.inr ⟨hp, ht⟩⟩
  · rw [heq]
    exact ⟨Moves.lane h (.fail ht hs),
      by simp [Exchange.phase, Progress.phase, Phase.isTerminal],
      Or.inl (by rw [Exchange.failure?_eq_some_iff, Exchange.progress_settle])⟩

/-- The dispatch task fails its exchange with the terminal error and hands the error over. -/
private theorem failExchange_reply_moves (h : c.lanes[i]? = some l) (hr : l.reply = .awaited)
    {e : ClassifiedError} (ht : c.tracker = .closed e) :
    Moves c ((c.failExchange i e).2.reply i (.sent (.error (c.failExchange i e).1))) := by
  obtain ⟨hmoves, -, hwhy⟩ := fail_moves h ht
  have hlane := lane?_put_self h { l with exchange := (l.exchange.fail e c.books).2.1 }
    (l.exchange.fail e c.books).2.2
  rw [failExchange_eq_put h, reply_eq_put hlane]
  exact hmoves.tail (.lane hlane (.failure hr hwhy))

private theorem acceptHead_moves (h : c.lanes[i]? = some l) (hr : l.reply = .awaited) {head : Head}
    (hres : c.channel.result? i = some (.ok head)) : Moves c (c.acceptHead i l head) := by
  rcases l.exchange.headersReceived_cases c.books with
    ⟨e, hf, heq⟩ | ⟨hp, heq⟩ | ⟨hp, -, e, heq⟩
  · simp only [acceptHead, heq, putExchange_eq_put h]
    rw [put_exchange_self h, reply_eq_put h]
    exact Moves.lane h (.failure hr (Or.inl hf))
  · have hlane := lane?_put_self h
      { l with exchange := { l.exchange with progress := .headersReceived } } c.books
    by_cases hw : head.wantsClose = true
    · -- The announcement in the head is heeded before the head is handed over.
      let c₁ : Connection := { c with tracker := c.tracker.markClosing }
      have hne : c₁.tracker ≠ .opened := by
        change c.tracker.markClosing ≠ .opened
        cases c.tracker <;> simp [Tracker.markClosing]
      have haccept : c.acceptHead i l head = (c₁.put i
          { l with exchange := { l.exchange with progress := .headersReceived } } c₁.books).reply i
            (.sent (.ok head)) := by
        simp only [acceptHead, heq, if_pos hw, putExchange_eq_put h]
        rfl
      rw [haccept, reply_eq_put (c := c₁.put i _ c₁.books) hlane, put_put]
      exact (ReflTransGen.single (.heed (.head hres hw))).tail
        (.lane (l := l) h (.head hr hp hres fun _ ↦ hne))
    · have haccept : c.acceptHead i l head = (c.put i
          { l with exchange := { l.exchange with progress := .headersReceived } } c.books).reply i
            (.sent (.ok head)) := by
        simp only [acceptHead, heq, if_neg hw, putExchange_eq_put h]
      rw [haccept, reply_eq_put hlane, put_put]
      exact Moves.lane h (.head hr hp hres fun hw' ↦ absurd hw' hw)
  · simp only [acceptHead, heq, putExchange_eq_put h]
    rw [put_exchange_self h, reply_eq_put h]
    exact Moves.lane h (.lost hr hp)

theorem pollDispatch_moves (c : Connection) (i : Nat) : Moves c (c.pollDispatch i) := by
  cases h : c.lanes[i]? with
  | none => rw [show c.pollDispatch i = c by simp only [pollDispatch, h]]
  | some l =>
    by_cases hr : l.reply = .awaited
    · cases hres : c.channel.result? i with
      | some result =>
        cases result with
        | ok head =>
          have heq : c.pollDispatch i = c.acceptHead i l head := by
            simp [pollDispatch, h, hr, hres, Reply.isAwaited]
          rw [heq]
          exact acceptHead_moves h hr hres
        | error cause =>
          let c₁ := (c.close (some cause)).2
          have hclosed : c₁.tracker = .closed (c.close (some cause)).1 := by
            simp [c₁, close]
          have heq : c.pollDispatch i = (c₁.failExchange i (c.close (some cause)).1).2.reply i
              (.sent (.error (c₁.failExchange i (c.close (some cause)).1).1)) := by
            simp [pollDispatch, h, hr, hres, Reply.isAwaited, c₁]
          rw [heq]
          exact (close_moves (.write hres)).trans
            (failExchange_reply_moves (c := c₁) h hr hclosed)
      | none =>
        cases ht : c.tracker.terminal? with
        | none =>
          rw [show c.pollDispatch i = c by simp [pollDispatch, h, hr, hres, ht, Reply.isAwaited]]
        | some e =>
          have heq : c.pollDispatch i = (c.failExchange i e).2.reply i
              (.sent (.error (c.failExchange i e).1)) := by
            simp [pollDispatch, h, hr, hres, ht, Reply.isAwaited]
          rw [heq]
          exact failExchange_reply_moves h hr (Tracker.terminal?_eq_some_iff.mp ht)
    · have hawaited : l.reply.isAwaited = false := by
        cases hreply : l.reply with
        | awaited => exact absurd hreply hr
        | sent _ | lost => rfl
      rw [show c.pollDispatch i = c by simp [pollDispatch, h, hawaited]]

/-! ## The close watchers -/

theorem pollWatcher_eq_put (h : c.lanes[i]? = some l) (hw : l.watcher.isLive = true)
    {w : Watch} {x : Exchange} {b : Books}
    (hpoll : l.watcher.poll (.watcher i) l.exchange c.tracker.terminal? c.books = (w, x, b)) :
    c.pollWatcher i = c.put i
      { l with exchange := x, watcher := w, registered := l.registered && w.isLive } b := by
  simp only [pollWatcher, h, if_pos hw, hpoll, onLane_eq_put h]
  rfl

theorem pollWatcher_of_none (h : c.lanes[i]? = none) : c.pollWatcher i = c := by
  simp only [pollWatcher, h]

theorem pollWatcher_of_ended (h : c.lanes[i]? = some l) (hw : ¬ l.watcher.isLive = true) :
    c.pollWatcher i = c := by
  simp only [pollWatcher, h, if_neg hw]

/-- A poll of a watcher ends it, or leaves it registered while the connection is not closed. -/
theorem pollWatcher_cases (h : c.lanes[i]? = some l) (hw : l.watcher.isLive = true) :
    ∃ l' b, c.pollWatcher i = c.put i l' b ∧ Moves c (c.put i l' b) ∧
      (c.tracker.isClosed = false ∨ l'.watcher = .finished) := by
  obtain ⟨n, hn, ⟨hpoll, hwhy⟩ | ⟨ht, hpoll⟩ | ⟨e, ht, hpoll⟩⟩ :=
    l.watcher.poll_cases hw (.watcher i) l.exchange c.tracker.terminal? c.books
  · refine ⟨_, c.books, pollWatcher_eq_put h hw hpoll, ?_, Or.inr rfl⟩
    rw [Watch.isLive, Bool.and_false]
    exact Moves.lane h (.unwatch hw hwhy)
  · refine ⟨_, c.books, pollWatcher_eq_put h hw hpoll, ?_,
      Or.inl (Tracker.terminal?_eq_none_iff.mp ht)⟩
    rw [Watch.isLive, Bool.and_true]
    exact Moves.lane h (.watch hw rfl hn)
  · -- The watcher leaves its place in the notice, fails the exchange and then ends.
    refine ⟨_, _, pollWatcher_eq_put h hw hpoll, ?_, Or.inr rfl⟩
    let l₁ : Lane := { l with exchange := { l.exchange with settled := n } }
    have hnotice : Moves c (c.put i l₁ c.books) := Moves.lane h (.watch hw hw hn)
    have hlane := lane?_put_self h l₁ c.books
    obtain ⟨hfail, hterminal, -⟩ :=
      fail_moves (c := c.put i l₁ c.books) hlane (Tracker.terminal?_eq_some_iff.mp ht)
    have hlane' := lane?_put_self hlane { l₁ with
      exchange := (l₁.exchange.fail e c.books).2.1 } (l₁.exchange.fail e c.books).2.2
    have hend : Move _ _ := .lane hlane'
      (.unwatch (n := (l₁.exchange.fail e c.books).2.1.settled) hw (Or.inl hterminal))
    rw [put_put, put_put] at hend
    rw [Watch.isLive, Bool.and_false]
    rw [put_put] at hfail
    exact (hnotice.trans hfail).tail hend

theorem pollWatcher_moves (c : Connection) (i : Nat) : Moves c (c.pollWatcher i) := by
  cases h : c.lanes[i]? with
  | none => rw [pollWatcher_of_none h]
  | some l =>
    by_cases hw : l.watcher.isLive = true
    · obtain ⟨l', b, heq, hmoves, -⟩ := pollWatcher_cases h hw
      rw [heq]
      exact hmoves
    · rw [pollWatcher_of_ended h hw]

/-! ## Polling and settling -/

theorem poll_moves (c : Connection) : ∀ t : Task, Moves c (c.poll t)
  | .monitor => pollMonitor_moves c
  | .dispatch i => pollDispatch_moves c i
  | .watcher i => pollWatcher_moves c i

/-- The polls of the tasks of some lanes, one lane after the other. -/
theorem pollLanes_moves (lanes : List Nat) (c : Connection) :
    Moves c (lanes.foldl (fun c i ↦ (c.pollDispatch i).pollWatcher i) c) := by
  induction lanes generalizing c with
  | nil => exact .refl
  | cons i lanes ih =>
    rw [List.foldl_cons]
    exact ((pollDispatch_moves c i).trans (pollWatcher_moves _ i)).trans (ih _)

theorem round_moves (c : Connection) : Moves c c.round :=
  (pollMonitor_moves c).trans (pollLanes_moves _ _)

theorem rounds_moves (n : Nat) (c : Connection) : Moves c (rounds n c) := by
  induction n generalizing c with
  | zero => exact .refl
  | succ n ih =>
    rw [rounds]
    split
    · exact (round_moves c).trans (ih _)
    · exact round_moves c

theorem settle_moves (c : Connection) : Moves c c.settle := rounds_moves _ c

/-! ## Reclaiming -/

private theorem reclaimAt_moves (held : Bool) (hr : c.running = false)
    (hheld : held = false → c.facade = false) (i : Nat) :
    Moves c (reclaimAt held c i) ∧ (reclaimAt held c i).running = c.running ∧
      (reclaimAt held c i).facade = c.facade := by
  cases h : c.lanes[i]? with
  | none =>
    rw [show reclaimAt held c i = c by simp only [reclaimAt, h]]
    exact ⟨.refl, rfl, rfl⟩
  | some l =>
    by_cases hl : isHeld held l = true
    · rw [show reclaimAt held c i = c by simp only [reclaimAt, h, if_pos hl]]
      exact ⟨.refl, rfl, rfl⟩
    · have hwhy : c.facade = false ∨ l.registered = false := by
        cases hreg : l.registered with
        | false => exact Or.inr rfl
        | true =>
          refine Or.inl (hheld ?_)
          cases held with
          | false => rfl
          | true => simp [isHeld, hreg] at hl
      have heq : reclaimAt held c i = c.put i
          { l with exchange := (l.exchange.giveBack c.books).1 }
          (l.exchange.giveBack c.books).2 := by
        simp only [reclaimAt, h, if_neg hl, putExchange_eq_put h]
      rw [heq]
      refine ⟨?_, rfl, rfl⟩
      by_cases ht : l.exchange.ticket = true
      · rw [Exchange.giveBack, if_pos ht]
        exact Moves.lane h (.giveBack hr hwhy ht)
      · rw [Exchange.giveBack, if_neg ht]
        rw [put_exchange_self h]

theorem reclaim_moves (c : Connection) : Moves c c.reclaim := by
  rw [reclaim]
  split
  · exact .refl
  · rename_i hr
    rw [Bool.not_eq_true] at hr
    have hheld : c.isRegistryHeld = false → c.facade = false := by
      intro h
      rw [isRegistryHeld, Bool.or_eq_false_iff] at h
      exact h.1
    -- Neither the tasks nor the facade come back while the lanes are gone through.
    suffices h : ∀ (lanes : List Nat) (c' : Connection), c'.running = c.running →
        c'.facade = c.facade → Moves c' (lanes.foldl (reclaimAt c.isRegistryHeld) c') from
      h _ c rfl rfl
    intro lanes
    induction lanes with
    | nil => exact fun _ _ _ ↦ .refl
    | cons i lanes ih =>
      intro c' hrun hfac
      obtain ⟨hmoves, hrun', hfac'⟩ :=
        reclaimAt_moves (c := c') c.isRegistryHeld (hrun.trans hr)
          (fun h ↦ hfac.trans (hheld h)) i
      rw [List.foldl_cons]
      exact hmoves.trans (ih _ (hrun'.trans hrun) (hfac'.trans hfac))

/-- Reclaiming changes nothing but the lanes and the books. -/
theorem reclaim_eq (c : Connection) : ∃ lanes books, c.reclaim = { c with lanes, books } := by
  have hat (held : Bool) (c : Connection) (i : Nat) :
      ∃ lanes books, reclaimAt held c i = { c with lanes, books } := by
    rw [reclaimAt]
    split
    · exact ⟨_, _, rfl⟩
    · split <;> exact ⟨_, _, rfl⟩
  have hall (held : Bool) (lanes : List Nat) (c : Connection) :
      ∃ l b, lanes.foldl (reclaimAt held) c = { c with lanes := l, books := b } := by
    induction lanes generalizing c with
    | nil => exact ⟨_, _, rfl⟩
    | cons i lanes ih =>
      obtain ⟨_, _, hi⟩ := hat held c i
      obtain ⟨l, b, hrest⟩ := ih (reclaimAt held c i)
      exact ⟨l, b, by rw [List.foldl_cons, hrest, hi]⟩
  rw [reclaim]
  split
  · exact ⟨_, _, rfl⟩
  · exact hall _ _ c

@[simp] theorem channel_reclaim (c : Connection) : c.reclaim.channel = c.channel := by
  obtain ⟨_, _, h⟩ := reclaim_eq c
  rw [h]

theorem tracker_reclaim (c : Connection) : c.reclaim.tracker = c.tracker := by
  obtain ⟨_, _, h⟩ := reclaim_eq c
  rw [h]

end Connection

end BoundedPipelining
