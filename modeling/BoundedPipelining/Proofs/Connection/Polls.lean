import BoundedPipelining.Proofs.Connection.Draining
import BoundedPipelining.Proofs.Connection.GracefulClose
import BoundedPipelining.Proofs.Connection.Handover

/-!
# What a poll comes to

The moves say what a poll may do, whatever it finds. Whoever waits for a connection to get somewhere
has to know what a poll must do, and that each task leaves alone what is none of its business. Here
the polls are looked at once more with this in mind, while the tasks are run.

* The monitor brings the tracker where the notifications of the channel point. `Tracker.told` is
  that place, as a function of the notifications alone.
* A dispatch task hands something over as soon as there is anything to hand over, and is never lost.
* No poll touches the channel, the facade, the calls or what a caller holds (`Confined`).

`settle` is one list of polls among others: `settle_eq_polls` says that it begins with the monitor
and goes through all lanes after it.
-/

namespace BoundedPipelining

/-! ## Where the notifications point -/

/-- The tracker that has been told of these notifications and of nothing else. -/
def Tracker.told (n : Notices) : Tracker :=
  if n.close then .closed (classify n.closing none)
  else
    match n.error with
    | some e => .closed (classify n.closing (some e))
    | none => if n.closing then .closing else .opened

/-- An observer that has not missed anything tells an open tracker of all notifications at once. -/
theorem Observer.poll_told {seen : Bool} {n : Notices} {t : Tracker} (ho : t.isClosed = false)
    (hseen : seen = true → t ≠ .opened) (hclosing : t = .closing → n.closing = true) (m : Ledger) :
    ((watching seen).poll n t m).2.1 = Tracker.told n := by
  -- Either way the look for a teardown finds a tracker that has heeded what is announced.
  have hconclude (seen' : Bool) (t' : Tracker) (hs : n.closing = true → seen' = true)
      (ht' : t' = if n.closing then .closing else .opened) :
      (conclude seen' (pick seen' n) t' m).2.1 = Tracker.told n := by
    rw [conclude_pick hs, Tracker.told]
    by_cases hclose : n.close = true
    · rw [if_pos hclose, if_pos hclose, Tracker.close_tracker, ht']
      cases n.closing <;> rfl
    · rw [if_neg hclose, if_neg hclose]
      cases n.error with
      | none => exact ht'
      | some e =>
        simp only [Tracker.close_tracker, ht']
        cases n.closing <;> rfl
  rw [poll_watching]
  by_cases hnew : n.closing = true ∧ ¬ seen = true
  · rw [if_pos hnew]
    refine hconclude true t.markClosing (fun _ ↦ rfl) ?_
    rw [if_pos hnew.1]
    cases t with
    | opened | closing => rfl
    | closed e => cases ho
  · rw [if_neg hnew]
    have hs (h : n.closing = true) : seen = true := by_contra fun hnot ↦ hnew ⟨h, hnot⟩
    refine hconclude seen t hs ?_
    cases t with
    | opened =>
      rw [if_neg]
      intro h
      exact hseen (hs h) rfl
    | closing => rw [if_pos (hclosing rfl)]
    | closed e => cases ho

namespace Connection

variable {c c' c₁ c₂ c₃ : Connection} {i : Nat} {l : Lane}

/-! ## The monitor -/

/-- A connection that has closed is closed as its channel told. -/
def ClosedAsTold (c : Connection) : Prop :=
  c.tracker.isClosed = true → c.tracker = .told c.channel.notices

/-- The monitor tells the tracker all that there is to tell. -/
theorem tracker_pollMonitor (hv : Vigilant c) (hw : Warranted c) (ht : ClosedAsTold c)
    (hr : c.running = true) : c.pollMonitor.tracker = .told c.channel.notices := by
  by_cases hclosed : c.tracker.isClosed = true
  · have htold := ht hclosed
    cases he : c.tracker with
    | opened | closing => simp [he, Tracker.isClosed] at hclosed
    | closed e => rw [(pollMonitor_moves c).frame.tracker e he, ← he, htold]
  · have ho : c.tracker.isClosed = false := Bool.not_eq_true _ |>.mp hclosed
    change (c.monitor.poll c.channel.notices c.tracker c.books.ledger).2.1 = _
    cases hm : c.monitor with
    | finished => exact absurd hm (hv.alive hr ho)
    | watching seen =>
      refine Observer.poll_told ho ?_ (fun h ↦ hw.tracker (by rw [h]; trivial)) _
      rintro rfl
      exact hv.seen hm

/-! ## The dispatch tasks -/

/-- How a poll of the dispatch task of lane `i` ends. -/
inductive DispatchPoll (c : Connection) (i : Nat) : Connection → Prop
  /-- The task is not at work, or there is nothing to hand over. -/
  | idle (h : ∀ l, c.lanes[i]? = some l → l.reply = .awaited →
      c.channel.result? i = none ∧ c.tracker.isClosed = false) : DispatchPoll c i c
  | handed {l : Lane} {x : Exchange} {r : Except ClassifiedError Head} {t : Tracker} {b : Books}
      (h : c.lanes[i]? = some l)
      (ht : t = c.tracker ∨ t = c.tracker.markClosing ∨
        ∃ cause, c.channel.result? i = some (.error cause)) :
      DispatchPoll c i
        { c.put i { l with exchange := x, reply := .sent r } b with tracker := t }

private theorem acceptHead_cases (hh : HandedOver c) (h : c.lanes[i]? = some l)
    (hr : l.reply = .awaited) (head : Head) : DispatchPoll c i (c.acceptHead i l head) := by
  have hput (x : Exchange) (b : Books) (r : Reply) :
      (c.putExchange i x b).reply i r = c.put i { l with exchange := x, reply := r } b := by
    rw [putExchange_eq_put h, reply_eq_put (lane?_put_self h _ b), put_put]
    rfl
  rcases l.exchange.headersReceived_cases c.books with ⟨e, -, heq⟩ | ⟨-, heq⟩ | ⟨hp, hf, -⟩
  · simp only [acceptHead, heq, hput]
    exact .handed (t := c.tracker) h (Or.inl rfl)
  · have hput' (t : Tracker) : Connection.reply { c.putExchange i
          { l.exchange with progress := .headersReceived } c.books with tracker := t } i
          (.sent (.ok head))
        = { c.put i { l with
            exchange := { l.exchange with progress := .headersReceived }
            reply := .sent (.ok head) } c.books with tracker := t } := by
      rw [← hput]
      rfl
    simp only [acceptHead, heq]
    split
    · rw [hput']
      exact .handed h (Or.inr (Or.inl rfl))
    · rw [hput]
      exact .handed (t := c.tracker) h (Or.inl rfl)
  · -- Nothing was handed over yet, so the exchange has failed if it is not where it began.
    exfalso
    rcases (hh i l h).none (by simp [hr]) with hp' | ⟨e, hf'⟩
    · exact hp hp'
    · cases hf.symm.trans hf'

private theorem fail_handed {t : Tracker} {b : Books} (h : c.lanes[i]? = some l)
    (e : ClassifiedError)
    (ht : t = c.tracker ∨ ∃ cause, c.channel.result? i = some (.error cause)) :
    let c₁ : Connection := { c with tracker := t, books := b }
    DispatchPoll c i
      ((c₁.failExchange i e).2.reply i (.sent (.error (c₁.failExchange i e).1))) := by
  intro c₁
  have h₁ : c₁.lanes[i]? = some l := h
  rw [failExchange_eq_put h₁, reply_eq_put (lane?_put_self h₁ _ _), put_put]
  exact .handed (l := l) (t := t) h (ht.imp_right Or.inr)

theorem pollDispatch_cases (hh : HandedOver c) (i : Nat) : DispatchPoll c i (c.pollDispatch i) := by
  rw [pollDispatch]
  split
  · rename_i hnone
    refine .idle fun l hl ↦ ?_
    cases hnone.symm.trans hl
  · rename_i l hl
    split
    · rename_i ha
      have hr : l.reply = .awaited := by
        cases hreply : l.reply with
        | awaited => rfl
        | sent _ | lost => simp [hreply, Reply.isAwaited] at ha
      split
      · exact acceptHead_cases hh hl hr _
      · rename_i cause hresult
        exact fail_handed hl _ (Or.inr ⟨cause, hresult⟩)
      · rename_i hresult
        split
        · rename_i hopen
          exact .idle fun _ _ _ ↦ ⟨hresult, Tracker.terminal?_eq_none_iff.mp hopen⟩
        · exact fail_handed (t := c.tracker) (b := c.books) hl _ (Or.inl rfl)
    · rename_i ha
      refine .idle fun l' hl' hr' ↦ ?_
      cases hl.symm.trans hl'
      simp [hr', Reply.isAwaited] at ha

/-- A dispatch task has ended after a poll that found something to hand over. -/
theorem isAlive_pollDispatch (hh : HandedOver c)
    (hready : c.channel.result? i ≠ none ∨ c.tracker.isClosed = true) :
    (c.pollDispatch i).isAlive (.dispatch i) = false := by
  refine isAlive_dispatch_eq_false.mpr fun l' hl' ↦ ?_
  have hpoll := pollDispatch_cases hh i
  generalize c.pollDispatch i = c' at hpoll hl'
  rcases hpoll with h | @⟨l, x, r, t, b, h, -⟩
  · cases hr : l'.reply with
    | sent _ | lost => rfl
    | awaited =>
      obtain ⟨hresult, hopen⟩ := h l' hl' hr
      rcases hready with hsome | hclosed
      · exact absurd hresult hsome
      · rw [hopen] at hclosed
        cases hclosed
  · cases (lane?_put_self h _ b).symm.trans hl'
    rfl

/-- A poll of a dispatch task closes nothing, unless its write has failed. -/
theorem tracker_pollDispatch (hh : HandedOver c)
    (hwrites : ∀ i e, c.channel.result? i ≠ some (.error e)) (i : Nat) :
    (c.pollDispatch i).tracker = c.tracker ∨
      (c.pollDispatch i).tracker = c.tracker.markClosing := by
  have hpoll := pollDispatch_cases hh i
  generalize c.pollDispatch i = c' at hpoll ⊢
  rcases hpoll with - | ⟨-, ht | ht | ⟨e, he⟩⟩
  · exact Or.inl rfl
  · exact Or.inl ht
  · exact Or.inr ht
  · exact absurd he (hwrites i e)

/-! ## What no poll touches -/

/-- One connection differs from the other in what is the business of the tasks, and no task was
lost. -/
structure Confined (c c' : Connection) : Prop where
  channel : c'.channel = c.channel
  facade : c'.facade = c.facade
  calls : c'.calls = c.calls
  size : c'.lanes.size = c.lanes.size
  caller : ∀ (i : Nat) (l' : Lane), c'.lanes[i]? = some l' →
    ∃ l, c.lanes[i]? = some l ∧ l'.caller = l.caller
  lost : ∀ (i : Nat) (l' : Lane), c'.lanes[i]? = some l' → l'.reply = .lost →
    ∃ l, c.lanes[i]? = some l ∧ l.reply = .lost

theorem Confined.refl (c : Connection) : Confined c c where
  channel := rfl
  facade := rfl
  calls := rfl
  size := rfl
  caller _ l hl := ⟨l, hl, rfl⟩
  lost _ l hl hr := ⟨l, hl, hr⟩

theorem Confined.trans (h₁ : Confined c₁ c₂) (h₂ : Confined c₂ c₃) : Confined c₁ c₃ where
  channel := h₂.channel.trans h₁.channel
  facade := h₂.facade.trans h₁.facade
  calls := h₂.calls.trans h₁.calls
  size := h₂.size.trans h₁.size
  caller i l₃ hl₃ := by
    obtain ⟨l₂, hl₂, hk⟩ := h₂.caller i l₃ hl₃
    obtain ⟨l₁, hl₁, hk'⟩ := h₁.caller i l₂ hl₂
    exact ⟨l₁, hl₁, hk.trans hk'⟩
  lost i l₃ hl₃ hr := by
    obtain ⟨l₂, hl₂, hr'⟩ := h₂.lost i l₃ hl₃ hr
    exact h₁.lost i l₂ hl₂ hr'

/-- A task puts its lane back in place. -/
private theorem confined_put {l' : Lane} (h : c.lanes[i]? = some l) (hk : l'.caller = l.caller)
    (hr : l'.reply = .lost → l.reply = .lost) (b : Books) : Confined c (c.put i l' b) where
  channel := rfl
  facade := rfl
  calls := rfl
  size := size_lanes_put c i l' b
  caller j l₁ hj := by
    rcases lane?_put_cases h hj with ⟨rfl, rfl⟩ | ⟨-, hj⟩
    · exact ⟨l, h, hk⟩
    · exact ⟨l₁, hj, rfl⟩
  lost j l₁ hj hlost := by
    rcases lane?_put_cases h hj with ⟨rfl, rfl⟩ | ⟨-, hj⟩
    · exact ⟨l, h, hr hlost⟩
    · exact ⟨l₁, hj, hlost⟩

/-- The tracker is the business of the tasks. -/
private theorem Confined.withTracker (h : Confined c c') (t : Tracker) :
    Confined c { c' with tracker := t } :=
  ⟨h.channel, h.facade, h.calls, h.size, h.caller, h.lost⟩

theorem confined_poll (hh : HandedOver c) (t : Task) : Confined c (c.poll t) := by
  cases t with
  | monitor => exact ⟨rfl, rfl, rfl, rfl, fun _ l hl ↦ ⟨l, hl, rfl⟩, fun _ l hl hr ↦ ⟨l, hl, hr⟩⟩
  | dispatch i =>
    have hpoll := pollDispatch_cases hh i
    change Confined c (c.pollDispatch i)
    generalize c.pollDispatch i = c' at hpoll ⊢
    rcases hpoll with - | @⟨l, x, r, t, b, h, -⟩
    · exact .refl c
    · have hput : Confined c (c.put i { l with exchange := x, reply := .sent r } b) := by
        apply confined_put h
        · rfl
        · rintro ⟨⟩
      exact hput.withTracker t
  | watcher i =>
    change Confined c (c.pollWatcher i)
    cases h : c.lanes[i]? with
    | none =>
      rw [pollWatcher_of_none h]
      exact .refl c
    | some l =>
      by_cases hw : l.watcher.isLive = true
      · generalize hpoll : l.watcher.poll (.watcher i) l.exchange c.tracker.terminal? c.books = r
        obtain ⟨w, x, b⟩ := r
        rw [pollWatcher_eq_put h hw hpoll]
        apply confined_put h
        · rfl
        · exact id
      · rw [pollWatcher_of_ended h hw]
        exact .refl c

/-- A dispatch task that has ended stays ended: the polls add no lane. -/
theorem Confined.isAlive (h : Confined c c') (hframe : Frame c c')
    (hended : c.isAlive (.dispatch i) = false) : c'.isAlive (.dispatch i) = false := by
  refine isAlive_dispatch_eq_false.mpr fun l' hl' ↦ ?_
  obtain ⟨l, hl, -⟩ := h.caller i l' hl'
  have hr := isAlive_dispatch_eq_false.mp hended l hl
  obtain ⟨l₁, hl₁, hlasts⟩ := hframe.lane i l hl
  cases hl₁.symm.trans hl'
  rw [hlasts.reply hr, hr]

/-- As long as no write has failed, only the monitor closes the connection, and so it closes as it
is told. -/
theorem ClosedAsTold.poll (ht : ClosedAsTold c) (hv : Vigilant c) (hw : Warranted c)
    (hh : HandedOver c) (hr : c.running = true)
    (hwrites : ∀ i e, c.channel.result? i ≠ some (.error e)) (t : Task) :
    ClosedAsTold (c.poll t) := by
  intro hclosed
  rw [(confined_poll hh t).channel]
  cases t with
  | monitor => exact tracker_pollMonitor hv hw ht hr
  | watcher i =>
    change (c.pollWatcher i).tracker.isClosed = true at hclosed
    change (c.pollWatcher i).tracker = _
    rw [tracker_pollWatcher] at hclosed ⊢
    exact ht hclosed
  | dispatch i =>
    change (c.pollDispatch i).tracker.isClosed = true at hclosed
    change (c.pollDispatch i).tracker = _
    rcases tracker_pollDispatch hh hwrites i with hsame | hmarked
    · rw [hsame] at hclosed ⊢
      exact ht hclosed
    · rw [hmarked] at hclosed ⊢
      cases htracker : c.tracker with
      | opened | closing => simp [htracker, Tracker.markClosing, Tracker.isClosed] at hclosed
      | closed e =>
        rw [closed_markClosing rfl, ← htracker]
        exact ht (by rw [htracker]; rfl)

/-! ## Settling is polling -/

theorem reclaim_of_running (hr : c.running = true) : c.reclaim = c := by
  rw [reclaim, if_pos hr]

theorem step_poll (hr : c.running = true) (t : Task) : (c.step (.poll t)).2 = c.poll t := by
  have hr' : (c.poll t).running = true := (poll_moves c t).running_eq.trans hr
  exact reclaim_of_running hr'

/-- The connection after the polls of some tasks, one after the other. -/
def polls (c : Connection) (ts : List Task) : Connection := ts.foldl poll c

theorem polls_append (c : Connection) (ts ts' : List Task) :
    c.polls (ts ++ ts') = (c.polls ts).polls ts' := List.foldl_append

theorem polls_moves (c : Connection) (ts : List Task) : Moves c (c.polls ts) := by
  induction ts generalizing c with
  | nil => exact .refl
  | cons t ts ih => exact (poll_moves c t).trans (ih _)

private theorem round_eq_polls (c : Connection) :
    c.round = c.polls (.monitor ::
      (List.range c.lanes.size).flatMap fun i ↦ [.dispatch i, .watcher i]) := by
  have hlanes (lanes : List Nat) (c : Connection) :
      lanes.foldl (fun c i ↦ (c.pollDispatch i).pollWatcher i) c
        = c.polls (lanes.flatMap fun i ↦ [.dispatch i, .watcher i]) := by
    induction lanes generalizing c with
    | nil => rfl
    | cons i lanes ih =>
      rw [List.foldl_cons, ih, List.flatMap_cons, polls_append]
      rfl
  exact hlanes _ c.pollMonitor

private theorem rounds_eq_polls (n : Nat) (c : Connection) :
    ∃ ts, rounds n c = c.polls ts := by
  induction n generalizing c with
  | zero => exact ⟨[], rfl⟩
  | succ n ih =>
    rw [rounds]
    split
    · obtain ⟨first, hfirst⟩ : ∃ ts, c.round = c.polls ts := ⟨_, round_eq_polls c⟩
      obtain ⟨ts, hts⟩ := ih c.round
      refine ⟨first ++ ts, ?_⟩
      rw [hts, hfirst, polls_append]
    · exact ⟨_, round_eq_polls c⟩

/-- To settle is to poll the monitor, then the dispatch task of every lane, and then some more. -/
theorem settle_eq_polls (c : Connection) : ∃ ts, c.settle = c.polls (.monitor :: ts) ∧
    ∀ i < c.lanes.size, .dispatch i ∈ ts := by
  have hmem (ts : List Task) (i : Nat) (hi : i < c.lanes.size) : Task.dispatch i ∈
      ((List.range c.lanes.size).flatMap fun i ↦ [.dispatch i, .watcher i]) ++ ts := by
    refine List.mem_append_left _ (List.mem_flatMap.mpr ⟨i, List.mem_range.mpr hi, ?_⟩)
    exact List.mem_cons_self
  rw [settle, rounds]
  split
  · obtain ⟨ts, hts⟩ := rounds_eq_polls c.unfinished c.round
    refine ⟨_, ?_, hmem ts⟩
    rw [hts, round_eq_polls, ← polls_append, List.cons_append]
  · refine ⟨_, ?_, hmem []⟩
    rw [round_eq_polls, List.append_nil]

end Connection

end BoundedPipelining
