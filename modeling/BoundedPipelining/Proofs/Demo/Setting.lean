import BoundedPipelining.Demo.Basic
import BoundedPipelining.Proofs.Connection.Callers
import BoundedPipelining.Proofs.Connection.Polls

/-!
# Where a demonstration has brought its connection

A demonstration does so little with its connection that a few numbers say how the connection stands:
how many requests were issued, how many of the writes the peer has answered, how many responses were
taken and dealt with, and whether the channel is torn down. `Tally` holds the numbers, and `Setting`
says what they say about the connection.

What the background tasks have made of it meanwhile is left open. They may be as far behind as they
like, but they cannot get ahead of the channel: a task hands over the head of a write that was
answered, or the one error with which this scenario ends (`Setting.reply_cases`).
-/

namespace BoundedPipelining

open Connection (Task HandedOver Vigilant Warranted Sound Numbered Unfinished)

namespace Demo

/-! ## What a peer gives -/

/-- The head of the answers in a scenario. -/
def headOf : Scenario → Head
  | .graceful => closingHead
  | .drain | .abrupt => {}

/-- The body of the answer to a request in a scenario. -/
def bodyOf (s : Scenario) (request : Nat) : Bytes :=
  match s with
  | .graceful => asciiBytes "last one"
  | .drain | .abrupt => answerTo (requestOf request)

/-- The error that everyone is told when the channel is torn down. -/
def closeError : Scenario → ClassifiedError
  | .graceful => classify true none
  | .drain | .abrupt => classify false (some resetError)

/-- How far a demonstration has got. -/
structure Tally where
  /-- The number of requests that were issued. -/
  issued : Nat
  /-- The number of writes that were answered, which are the first. -/
  answered : Nat := 0
  /-- The number of calls that were told how their response begins, or that there is none. -/
  resolved : Nat := 0
  /-- The number of calls that nothing more is done about. -/
  dealt : Nat := 0
  /-- Whether the peer has closed or reset the channel. -/
  torn : Bool := false

/-- The peer may tear the channel down: what it has answered is dealt with, and in a graceful
scenario it has announced the close. -/
structure Tally.MayTear (s : Scenario) (t : Tally) : Prop where
  dealt : t.answered ≤ t.dealt
  ends : s ≠ .drain
  announced : s = .graceful → 0 < t.answered

theorem Tally.MayTear.advance {s : Scenario} {t : Tally} (h : t.MayTear s) (resolved : Nat)
    {d : Nat} (hd : t.dealt ≤ d) : Tally.MayTear s { t with resolved, dealt := d } where
  dealt := Nat.le_trans h.dealt hd
  ends := h.ends
  announced := h.announced

/-- What the peer has signalled. -/
def signalsOf (s : Scenario) (t : Tally) : Signals :=
  match s with
  | .drain => {}
  | .graceful => { closing := decide (0 < t.answered), closed := t.torn }
  | .abrupt => { error := if t.torn then some resetError else none }

/-- A write stands as the tally says. -/
structure Written (s : Scenario) (t : Tally) (i : Nat) (w : Write) : Prop where
  request : w.request = requestOf i
  fate : w.fate = if i < t.answered then .answered (headOf s) else .queued
  payload : t.dealt ≤ i → i < t.answered → w.payload = { items := [.ok (bodyOf s i)] }

/-- A connection of depth `m` as it may come out of a run in which the tasks are not stopped. -/
def Reached (m : Depth) (c : Connection) : Prop :=
  ∃ policy steps, .stopTasks ∉ steps ∧ c = (Connection.ofDepth m policy).run steps

/-- A connection of depth `m` stands as the tally says. -/
structure Setting (s : Scenario) (m : Depth) (t : Tally) (c : Connection) : Prop where
  reached : Reached m c
  facade : c.facade = true
  size : c.lanes.size = min t.issued m.val
  calls : c.calls.size = t.issued
  admitted : ∀ r < c.lanes.size, c.calls[r]? = some (.admitted r)
  refused : ∀ r, m.val ≤ r → t.dealt ≤ r → r < t.issued →
    c.calls[r]? = some (.refused (.limitExceeded ⟨m.val⟩))
  peer : c.channel.peer = true
  signals : c.channel.signals = signalsOf s t
  written : ∀ i < c.lanes.size, ∃ w, c.channel.writes[i]? = some w ∧ Written s t i w
  answered : t.answered ≤ c.lanes.size
  torn : t.torn = true → t.MayTear s
  closed : c.ClosedAsTold
  caller : ∀ (i : Nat) (l : Lane), t.dealt ≤ i → c.lanes[i]? = some l →
    l.caller = if i < t.resolved then .holding false else .waiting
  lost : ∀ (i : Nat) (l : Lane), c.lanes[i]? = some l → l.reply ≠ .lost
  dealt : ∀ (i : Nat) (l : Lane), i < t.dealt → c.lanes[i]? = some l →
    l.exchange.phase.isTerminal = true

variable {s : Scenario} {m : Depth} {t : Tally} {c c' : Connection} {i : Nat} {l : Lane}

theorem setting_ofDepth (s : Scenario) (m : Depth) (policy : ClosingPolicy) :
    Setting s m { issued := 0 } (Connection.ofDepth m policy) where
  reached := ⟨policy, [], by simp, rfl⟩
  facade := rfl
  size := (Nat.zero_min _).symm
  calls := rfl
  admitted r hr := absurd hr (Nat.not_lt_zero r)
  refused r _ _ hr := absurd hr (Nat.not_lt_zero r)
  peer := rfl
  signals := by
    cases s with
    | drain | graceful | abrupt => rfl
  written i hi := absurd hi (Nat.not_lt_zero i)
  answered := Nat.le_refl 0
  torn := by
    intro h
    cases h
  closed := by
    intro h
    cases h
  caller i l _ hl := by simp [Connection.ofDepth] at hl
  lost i l hl := by simp [Connection.ofDepth] at hl
  dealt i l hi := absurd hi (Nat.not_lt_zero i)

/-! ## What holds of every run -/

namespace Reached

theorem sound (h : Reached m c) : Sound c := by
  obtain ⟨policy, steps, -, rfl⟩ := h
  exact Connection.sound_run m policy steps

theorem handedOver (h : Reached m c) : HandedOver c := by
  obtain ⟨policy, steps, -, rfl⟩ := h
  exact Connection.handedOver_run m policy steps

theorem vigilant (h : Reached m c) : Vigilant c := by
  obtain ⟨policy, steps, -, rfl⟩ := h
  exact Connection.vigilant_run m policy steps

theorem warranted (h : Reached m c) : Warranted c := by
  obtain ⟨policy, steps, -, rfl⟩ := h
  exact Connection.warranted_run m policy steps

theorem unfinished (h : Reached m c) : Unfinished c := by
  obtain ⟨policy, steps, -, rfl⟩ := h
  exact Connection.unfinished_run m policy steps

theorem numbered (h : Reached m c) : Numbered c := by
  obtain ⟨policy, steps, -, rfl⟩ := h
  exact Connection.numbered_run m policy steps

theorem running (h : Reached m c) : c.running = true := by
  obtain ⟨policy, steps, hsteps, rfl⟩ := h
  exact Connection.running_run hsteps _

theorem max_eq (h : Reached m c) : c.books.limiter.max = m := by
  obtain ⟨policy, steps, -, rfl⟩ := h
  exact (Connection.frame_run _ steps).gate.max

theorem step (h : Reached m c) {x : Connection.Step} (hx : x ≠ .stopTasks) :
    Reached m (c.step x).2 := by
  obtain ⟨policy, steps, hsteps, rfl⟩ := h
  refine ⟨policy, steps ++ [x], ?_, ?_⟩
  · rw [List.mem_append, List.mem_singleton, not_or]
    exact ⟨hsteps, Ne.symm hx⟩
  · rw [Connection.run_append]
    rfl

end Reached

/-! ## What the signals say -/

theorem notices_eq {ch : Channel} (hp : ch.peer = true) (hs : ch.signals = signalsOf s t) :
    ch.notices =
      { closing := (signalsOf s t).closing
        close := (signalsOf s t).closed
        error := (signalsOf s t).error } := by
  rw [Channel.notices, Channel.isSignalled, hp, hs, Bool.true_or, Bool.not_true, Bool.or_false]

/-- The signals point to the one error of the scenario once the channel is torn down, and to no
close before. -/
theorem told_signalsOf (h : t.torn = true → t.MayTear s) :
    Tracker.told
        { closing := (signalsOf s t).closing
          close := (signalsOf s t).closed
          error := (signalsOf s t).error } =
      if t.torn then .closed (closeError s)
      else if (signalsOf s t).closing then .closing else .opened := by
  rw [Tracker.told]
  cases hcase : t.torn with
  | false =>
    cases s with
    | drain | graceful | abrupt => simp [signalsOf, hcase]
  | true =>
    cases s with
    | drain => exact absurd rfl (h hcase).ends
    | graceful => simp [signalsOf, hcase, closeError, (h hcase).announced rfl]
    | abrupt => simp [signalsOf, hcase, closeError]

namespace Setting

theorem size_writes (h : Setting s m t c) : c.channel.writes.size = c.lanes.size := by
  rw [← h.reached.numbered.writes, Channel.size_requests]

/-! ## The channel and the tracker -/

theorem result?_eq (h : Setting s m t c) (i : Nat) :
    c.channel.result? i = if i < t.answered then some (.ok (headOf s)) else none := by
  rcases Nat.lt_or_ge i c.lanes.size with hi | hi
  · obtain ⟨w, hw, hwritten⟩ := h.written i hi
    rw [Channel.result?, hw]
    simp only [hwritten.fate]
    by_cases hanswered : i < t.answered
    · rw [if_pos hanswered, if_pos hanswered]
    · rw [if_neg hanswered, if_neg hanswered]
  · have hnone : c.channel.writes[i]? = none := Array.getElem?_eq_none (h.size_writes ▸ hi)
    rw [Channel.result?, hnone, if_neg]
    exact Nat.not_lt.mpr (Nat.le_trans h.answered hi)

/-- The peer of a demonstration fails no write. -/
theorem result?_ne_error (h : Setting s m t c) (i : Nat) (e : TransportError) :
    c.channel.result? i ≠ some (.error e) := by
  rw [h.result?_eq]
  split <;> simp

theorem told_eq (h : Setting s m t c) : Tracker.told c.channel.notices =
    if t.torn then .closed (closeError s)
    else if (signalsOf s t).closing then .closing else .opened := by
  rw [notices_eq h.peer h.signals]
  exact told_signalsOf h.torn

/-- The connection closes only after the channel was torn down, and with the error of the
scenario. -/
theorem torn_of_closed (h : Setting s m t c) {e : ClassifiedError} (he : c.tracker = .closed e) :
    t.torn = true ∧ e = closeError s := by
  have htold := h.closed (by rw [he]; rfl)
  rw [he, h.told_eq] at htold
  cases hcase : t.torn with
  | true =>
    rw [hcase] at htold
    cases htold
    exact ⟨rfl, rfl⟩
  | false =>
    rw [hcase] at htold
    simp only [Bool.false_eq_true, if_false] at htold
    split at htold <;> cases htold

theorem isOpen (h : Setting s m t c) (ht : t.torn = false) : c.tracker.isClosed = false := by
  cases hc : c.tracker with
  | opened | closing => rfl
  | closed e =>
    rw [(h.torn_of_closed hc).1] at ht
    cases ht

/-- Before the peer has done anything, the connection is open. -/
theorem opened (h : Setting s m t c) (ha : t.answered = 0) (ht : t.torn = false) :
    c.tracker = .opened := by
  have hopen := h.isOpen ht
  cases hc : c.tracker with
  | opened => rfl
  | closing =>
    have hclosing := h.reached.warranted.tracker (by rw [hc]; trivial)
    rw [h.signals] at hclosing
    cases s with
    | drain | abrupt => cases hclosing
    | graceful => simp [signalsOf, ha] at hclosing
  | closed e =>
    rw [hc] at hopen
    cases hopen

/-! ## The lanes -/

/-- What the dispatch task of a lane can have handed over. -/
theorem reply_cases (h : Setting s m t c) (hl : c.lanes[i]? = some l) :
    l.reply = .awaited ∨
    (l.reply = .sent (.ok (headOf s)) ∧ i < t.answered) ∨
    (l.reply = .sent (.error (closeError s)) ∧ t.torn = true ∧
      l.exchange.phase.isTerminal = true) := by
  cases hr : l.reply with
  | awaited => exact Or.inl rfl
  | lost => exact absurd hr (h.lost i l hl)
  | sent result =>
    cases result with
    | ok head =>
      obtain ⟨-, hresult⟩ := (h.reached.handedOver i l hl).head head hr
      rw [h.result?_eq] at hresult
      split at hresult
      · rename_i hi
        cases hresult
        exact Or.inr (Or.inl ⟨rfl, hi⟩)
      · cases hresult
    | error e =>
      obtain ⟨htorn, rfl⟩ := h.torn_of_closed ((h.reached.sound.lane i l hl).reply e hr)
      have hfailure := (h.reached.handedOver i l hl).error _ hr
      exact Or.inr (Or.inr ⟨rfl, htorn, Exchange.isTerminal_of_failure? hfailure⟩)

/-- Before the peer has done anything, every exchange is where it began. -/
theorem dispatched (h : Setting s m t c) (ha : t.answered = 0) (ht : t.torn = false)
    (hl : c.lanes[i]? = some l) : l.exchange.progress = .dispatched := by
  have hunsent : ∀ r, l.reply ≠ .sent r := by
    intro r hr
    rcases h.reply_cases hl with hawaited | ⟨-, hi⟩ | ⟨-, htorn, -⟩
    · cases hawaited.symm.trans hr
    · omega
    · rw [ht] at htorn
      cases htorn
  rcases (h.reached.handedOver i l hl).none hunsent with hp | ⟨e, he⟩
  · exact hp
  · have hclosed := (h.reached.sound.lane i l hl).failure e he
    rw [h.opened ha ht] at hclosed
    cases hclosed

theorem inFlight_eq (h : Setting s m t c) (ha : t.answered = 0) (ht : t.torn = false) :
    c.inFlight = c.lanes.size := by
  rw [h.reached.sound.inFlight_eq h.reached.running, Array.countP_eq_size]
  intro l hl
  obtain ⟨i, hi, rfl⟩ := Array.mem_iff_getElem.mp hl
  rw [Exchange.phase, h.dispatched ha ht (Array.getElem?_eq_getElem hi)]
  rfl

/-! ## The background tasks -/

/-- No poll of a task makes the tally wrong. -/
theorem poll (h : Setting s m t c) (task : Task) : Setting s m t (c.poll task) := by
  have hconfined := Connection.confined_poll h.reached.handedOver task
  have hframe := (Connection.poll_moves c task).frame
  have hstep : Reached m (c.step (.poll task)).2 := h.reached.step (by simp)
  rw [Connection.step_poll h.reached.running] at hstep
  exact {
    reached := hstep
    facade := hconfined.facade.trans h.facade
    size := hconfined.size.trans h.size
    calls := hconfined.calls ▸ h.calls
    admitted := by
      rw [hconfined.size, hconfined.calls]
      exact h.admitted
    refused := by
      rw [hconfined.calls]
      exact h.refused
    peer := hconfined.channel ▸ h.peer
    signals := hconfined.channel ▸ h.signals
    written := by
      rw [hconfined.size, hconfined.channel]
      exact h.written
    answered := hconfined.size ▸ h.answered
    torn := h.torn
    closed := h.closed.poll h.reached.vigilant h.reached.warranted h.reached.handedOver
      h.reached.running h.result?_ne_error task
    caller := by
      intro i l' hi hl'
      obtain ⟨l, hl, hk⟩ := hconfined.caller i l' hl'
      rw [hk]
      exact h.caller i l hi hl
    lost := by
      intro i l' hl' hlost
      obtain ⟨l, hl, hr⟩ := hconfined.lost i l' hl' hlost
      exact h.lost i l hl hr
    dealt := by
      intro i l' hi hl'
      obtain ⟨l, hl, -⟩ := hconfined.caller i l' hl'
      obtain ⟨l₁, hl₁, hlasts⟩ := hframe.lane i l hl
      cases hl₁.symm.trans hl'
      have hterminal := h.dealt i l hi hl
      rw [Exchange.phase, hlasts.progress hterminal]
      exact hterminal }

/-- Nor does any number of polls. -/
theorem polls (h : Setting s m t c) (tasks : List Task) : Setting s m t (c.polls tasks) := by
  induction tasks generalizing c with
  | nil => exact h
  | cons task tasks ih => exact ih (h.poll task)

end Setting

end Demo

end BoundedPipelining
