import BoundedPipelining.Proofs.Demo.Setting

/-!
# The turns of a demonstration

What a demonstration does with its connection, one turn after the other: it issues a request, the
peer answers a write or tears the channel down, and the caller awaits a response, drains it, and
looks whether the connection is idle. Each turn is stated with its answer and with the tally that it
leaves, for whatever the background tasks have made of the connection before it.

Only one turn can find nothing to do, the await of a response whose dispatch task has not been
polled since there is something to hand over.
-/

namespace BoundedPipelining

open Connection (Task)

/-! ## Serving a write -/

namespace Channel

variable {c : Channel} {i : Nat} {w : Write}

/-- The peer takes the oldest write that waits, and answers it at once. -/
theorem serve (hp : c.peer = true) (hnext : c.nextQueued? = some i) (hw : c.writes[i]? = some w)
    (head : Head) (body : Bytes) :
    ∃ c₁, c.peerStep .next = (.request c.taken.size w.request, c₁) ∧
      (c₁.peerStep (.respondWith c.taken.size head body)).2.peer = true ∧
      (c₁.peerStep (.respondWith c.taken.size head body)).2.signals
        = { c.signals with closing := c.signals.closing || head.wantsClose } ∧
      (c₁.peerStep (.respondWith c.taken.size head body)).2.writes[i]?
        = some { w with fate := .answered head, payload := { items := [.ok body] } } ∧
      ∀ j, i ≠ j →
        (c₁.peerStep (.respondWith c.taken.size head body)).2.writes[j]? = c.writes[j]? := by
  let c₁ : Channel := { c.setFate i .taken with taken := c.taken.push i }
  have htake : c.peerStep .next = (.request c.taken.size w.request, c₁) := by
    simp only [peerStep, asPeer, hp, take, hnext, hw, if_true]
    rfl
  have hw₁ : c₁.writes[i]? = some { w with fate := .taken } := by
    simp [c₁, setFate, Array.getElem?_modify, hw]
  have hpending : c₁.pending? c.taken.size = some i := by
    have htaken : c₁.taken[c.taken.size]? = some i := Array.getElem?_push_size
    simp [pending?, takenWrite?, htaken, hw₁]
  have hanswer : (c₁.peerStep (.respondWith c.taken.size head body)).2
      = c₁.answer i head { items := [.ok body] } := by
    simp only [peerStep, onPending, hpending]
  refine ⟨c₁, htake, ?_⟩
  rw [hanswer, answer]
  have hwrite (j : Nat) : (((c₁.setFate i (.answered head)).onPayload i
      fun _ ↦ { items := [.ok body] }).writes)[j]?
      = if i = j then some { w with fate := .answered head, payload := { items := [.ok body] } }
        else c.writes[j]? := by
    by_cases hij : i = j
    · subst hij
      simp [onPayload, setFate, Array.getElem?_modify, hw₁]
    · simp [onPayload, setFate, Array.getElem?_modify, hij, c₁]
  cases hclose : head.wantsClose with
  | false =>
    refine ⟨hp, ?_, (hwrite i).trans (if_pos rfl), fun j hij ↦ (hwrite j).trans (if_neg hij)⟩
    rw [Bool.or_false]
    rfl
  | true =>
    refine ⟨hp, ?_, (hwrite i).trans (if_pos rfl), fun j hij ↦ (hwrite j).trans (if_neg hij)⟩
    rw [Bool.or_true]
    rfl

end Channel

/-! ## Draining a body that is there to its end -/

namespace Connection

variable {c : Connection} {i k : Nat} {l : Lane} {w : Write} {body : Bytes}

theorem step_of_running {s : Step} {a : Answer} {c' : Connection} (h : c.act s = (a, c'))
    (hr : c'.running = true) : c.step s = (a, c') := by
  rw [step, h]
  exact congrArg (Prod.mk a) (reclaim_of_running hr)

/-- A body that holds one chunk and its end is drained in one poll, and its exchange completes. -/
theorem drain_whole (hk : c.calls[k]? = some (.admitted i)) (hl : c.lanes[i]? = some l)
    (hcaller : l.caller = .holding false) (hf : l.exchange.failure? = none)
    (hp : l.exchange.progress ≠ .completed) (hw : c.channel.writes[i]? = some w)
    (hpayload : w.payload = { items := [.ok body] }) :
    ∃ l' b, c.drain k = (.drained body, { c.put i l' b with channel := (c.channel.read i).2 }) ∧
      l'.caller = .gone ∧ l'.reply = l.reply ∧ l'.exchange.phase.isTerminal = true := by
  obtain ⟨hfirst, hrest⟩ := Channel.read_eq hw
  rw [hpayload] at hfirst hrest
  -- What the first poll finds, and what it leaves for the second.
  let c₁ := c.afterRead i l
  let l₁ : Lane := { l with exchange := l.exchange.draining }
  have hl₁ : c₁.lanes[i]? = some l₁ := lane?_afterRead hl
  have hf₁ : l₁.exchange.failure? = none := (Exchange.failure?_draining _).trans hf
  have hpoll : c.pollBody i = (.chunk body, false, c₁) := by
    rw [pollBody_eq hl hf, hfirst]
    rfl
  have hend : (c₁.channel.read i).1 = .ended := (Channel.read_eq hrest).1
  have hch : (c₁.afterRead i l₁).channel = (c.channel.read i).2 := Channel.read_snd_of_ended hend
  have hl₂ := lane?_afterRead hl₁
  rcases (l₁.exchange.draining).complete_cases c.books with ⟨e, he, -⟩ | ⟨-, heq⟩ | ⟨hdone, -⟩
  · rw [Exchange.failure?_draining, hf₁] at he
    cases he
  · let x := ({ l₁.exchange.draining with progress := .completed }).settle .completed c.books
    have hpoll' : c₁.pollBody i = (.ended, true, (c₁.afterRead i l₁).putExchange i x.1 x.2) := by
      rw [pollBody_eq hl₁ hf₁, hend]
      have hbooks : (c₁.afterRead i l₁).books = c.books := rfl
      simp only [completeBody, hl₂, hbooks, heq]
      rfl
    refine ⟨{ l₁ with exchange := x.1, caller := .gone }, x.2, ?_, rfl, rfl, ?_⟩
    · have hlane : c.laneOf? k = some (i, l) := laneOf?_eq_some_iff.mpr ⟨hk, hl⟩
      have hwaiting : c.waitingItems i = 1 := by simp [waitingItems, hw, hpayload]
      have hdrain : c.drainOn i [] = (.bytes body,
          ((c₁.afterRead i l₁).putExchange i x.1 x.2).setCaller i .gone) := by
        simp only [drainOn, hwaiting, drainWithin, hpoll, hpoll', List.nil_append,
          List.flatten_cons, List.flatten_nil, List.append_nil]
      have hput : ((c₁.afterRead i l₁).putExchange i x.1 x.2).setCaller i .gone
          = { c.put i { l₁ with exchange := x.1, caller := .gone } x.2 with
              channel := (c.channel.read i).2 } := by
        rw [putExchange_eq_put hl₂, setCaller_eq_put (lane?_put_self hl₂ _ _), put_put, ← hch]
        simp [c₁, afterRead, put, Array.setIfInBounds_setIfInBounds, l₁]
      simp only [drain, hlane, hcaller, hdrain, answerDrain, hput]
    · rw [Exchange.phase, Exchange.progress_settle]
      rfl
  · rw [Exchange.completed_draining_iff, Exchange.completed_draining_iff] at hdone
    exact absurd hdone hp

end Connection

namespace Demo

variable {s : Scenario} {m : Depth} {t : Tally} {c : Connection} {i j : Nat} {l : Lane}

namespace Setting

/-! ## The caller issues a request -/

private theorem refuses_eq_false {ch : Channel} (hp : ch.peer = true)
    (hs : ch.signals = signalsOf s { issued := j }) : ch.refuses = false := by
  rw [Channel.refuses, hp, hs]
  cases s with
  | drain | graceful | abrupt => rfl

private theorem issue_admitted (h : Setting s m { issued := j } c) (hj : j < m.val) :
    Setting s m { issued := j + 1 } (c.step (.caller (.request (requestOf j)))).2 := by
  have hopened : c.tracker = .opened := h.opened rfl rfl
  have hsize : c.lanes.size = j := h.size.trans (Nat.min_eq_left (Nat.le_of_lt hj))
  have hreached : Reached m (c.step (.caller (.request (requestOf j)))).2 :=
    h.reached.step (by simp)
  have hroom : c.inFlight < c.books.limiter.max.val := by
    rw [h.inFlight_eq rfl rfl, h.reached.max_eq, hsize]
    exact hj
  have hact : c.act (.caller (.request (requestOf j)))
      = (.call c.calls.size, c.admitted (requestOf j)) := by
    change c.asFacade (c.request (requestOf j)) = _
    rw [Connection.asFacade, if_pos h.facade, Connection.request_of_room _ _ hroom]
    · exact h.isOpen rfl
    · simp [hopened]
  rw [Connection.step_of_running hact h.reached.running] at hreached ⊢
  have hlanes : (c.admitted (requestOf j)).lanes.size = j + 1 := by
    simp [Connection.admitted, hsize]
  have hlane (i : Nat) (l : Lane) (hl : (c.admitted (requestOf j)).lanes[i]? = some l) :
      c.lanes[i]? = some l ∨ l.caller = .waiting ∧ l.reply = .awaited := by
    rw [Connection.admitted, Array.getElem?_push] at hl
    split at hl
    · cases hl
      rw [Connection.newLane, if_pos h.reached.running]
      exact Or.inr ⟨rfl, rfl⟩
    · exact Or.inl hl
  exact {
    reached := hreached
    facade := h.facade
    size := by rw [hlanes, Nat.min_eq_left hj]
    calls := by simp [Connection.admitted, h.calls]
    admitted := by
      intro r hr
      change r < (c.admitted (requestOf j)).lanes.size at hr
      rw [hlanes] at hr
      rw [Connection.admitted, Array.getElem?_push, h.calls]
      split
      · rename_i hrj
        rw [hsize, hrj]
      · rename_i hrj
        exact h.admitted r (hsize.symm ▸ Nat.lt_of_le_of_ne (Nat.le_of_lt_succ hr) hrj)
    refused := by
      intro r hr _ hlt
      exact absurd (Nat.le_trans hr (Nat.le_of_lt_succ hlt)) (Nat.not_le.mpr hj)
    peer := h.peer
    signals := by
      rw [show signalsOf s { issued := j + 1 } = signalsOf s { issued := j } by cases s <;> rfl]
      exact h.signals
    written := by
      intro i hi
      rw [hlanes] at hi
      change ∃ w, (c.channel.write (requestOf j)).writes[i]? = some w ∧ _
      rw [Channel.write, Array.getElem?_push, h.size_writes, hsize]
      split
      · rename_i hij
        refine ⟨_, rfl, by rw [hij], ?_, fun _ hlt ↦ absurd hlt (Nat.not_lt_zero i)⟩
        rw [refuses_eq_false h.peer h.signals]
        rfl
      · obtain ⟨w, hw, hwritten⟩ := h.written i (by omega)
        exact ⟨w, hw, hwritten.request, hwritten.fate, hwritten.payload⟩
    answered := Nat.zero_le _
    torn := by
      intro ht
      cases ht
    closed := by
      intro hclosed
      change c.tracker.isClosed = true at hclosed
      rw [hopened] at hclosed
      cases hclosed
    caller := by
      intro i l _ hl
      rcases hlane i l hl with hold | ⟨hwaiting, -⟩
      · exact h.caller i l (Nat.zero_le i) hold
      · exact hwaiting
    lost := by
      intro i l hl
      rcases hlane i l hl with hold | ⟨-, hawaited⟩
      · exact h.lost i l hold
      · rw [hawaited]
        simp
    dealt := by
      intro i l hi
      exact absurd hi (Nat.not_lt_zero i) }

private theorem issue_refused (h : Setting s m { issued := j } c) (hj : m.val ≤ j) :
    Setting s m { issued := j + 1 } (c.step (.caller (.request (requestOf j)))).2 := by
  have hopened : c.tracker = .opened := h.opened rfl rfl
  have hsize : c.lanes.size = m.val := h.size.trans (Nat.min_eq_right hj)
  have hreached : Reached m (c.step (.caller (.request (requestOf j)))).2 :=
    h.reached.step (by simp)
  have hinFlight : c.inFlight = m.val := (h.inFlight_eq rfl rfl).trans hsize
  have hfull : c.books.limiter.max.val ≤ c.inFlight := by
    rw [hinFlight]
    exact Nat.le_of_eq (congrArg Depth.val h.reached.max_eq)
  have hact : c.act (.caller (.request (requestOf j)))
      = (c.mark (.rejected .limitExceeded)).turnAway (.limitExceeded ⟨m.val⟩) := by
    change c.asFacade (c.request (requestOf j)) = _
    rw [Connection.asFacade, if_pos h.facade, Connection.request_of_full _ _ hfull,
      h.reached.max_eq]
    · exact h.isOpen rfl
    · simp [hopened]
  rw [Connection.step_of_running hact h.reached.running] at hreached ⊢
  exact { h with
    reached := hreached
    size := by
      change c.lanes.size = _
      rw [hsize, Nat.min_eq_right (Nat.le_succ_of_le hj)]
    calls := by
      change (c.calls.push _).size = j + 1
      rw [Array.size_push, h.calls]
    admitted := by
      intro r hr
      change r < c.lanes.size at hr
      change (c.calls.push _)[r]? = _
      rw [Array.getElem?_push, h.calls, if_neg]
      · exact h.admitted r hr
      · change r ≠ j
        omega
    refused := by
      intro r hr _ hlt
      change (c.calls.push (.refused (.limitExceeded ⟨m.val⟩)))[r]? = _
      rw [Array.getElem?_push, h.calls]
      split
      · rfl
      · rename_i hrj
        exact h.refused r hr (Nat.zero_le r) (Nat.lt_of_le_of_ne (Nat.le_of_lt_succ hlt) hrj)
    signals := by
      rw [show signalsOf s { issued := j + 1 } = signalsOf s { issued := j } by cases s <;> rfl]
      exact h.signals
    written := by
      intro i hi
      obtain ⟨w, hw, hwritten⟩ := h.written i hi
      exact ⟨w, hw, hwritten.request, hwritten.fate, hwritten.payload⟩
    torn := by
      intro ht
      cases ht }

/-- A request is admitted as long as there is room, and turned away from then on. -/
theorem issue (h : Setting s m { issued := j } c) :
    Setting s m { issued := j + 1 } (c.step (.caller (.request (requestOf j)))).2 := by
  rcases Nat.lt_or_ge j m.val with hj | hj
  · exact issue_admitted h hj
  · exact issue_refused h hj

/-! ## The peer acts -/

theorem nextQueued?_eq (h : Setting s m t c) : c.channel.nextQueued? =
    if t.answered < c.lanes.size then some t.answered else none := by
  have hfate (i : Nat) (hi : i < c.channel.writes.size) :
      ((c.channel.writes[i]).fate == .queued) = decide (t.answered ≤ i) := by
    obtain ⟨w, hw, hwritten⟩ := h.written i (h.size_writes ▸ hi)
    cases (Array.getElem?_eq_getElem hi).symm.trans hw
    rw [hwritten.fate]
    split
    · rename_i hlt
      rw [decide_eq_false (Nat.not_le.mpr hlt)]
      rfl
    · rename_i hge
      rw [decide_eq_true (Nat.not_lt.mp hge)]
      rfl
  rw [Channel.nextQueued?]
  split
  · rename_i hlt
    have hi : t.answered < c.channel.writes.size := h.size_writes.symm ▸ hlt
    rw [Array.findIdx?_eq_some_iff_getElem]
    refine ⟨hi, ?_, ?_⟩
    · rw [hfate _ hi]
      simp
    · intro i hia
      rw [hfate i (Nat.lt_trans hia hi)]
      simp [hia]
  · rename_i hge
    rw [Array.findIdx?_eq_none_iff]
    intro w hw
    obtain ⟨i, hi, rfl⟩ := Array.mem_iff_getElem.mp hw
    have hsize := h.size_writes
    rw [hfate i hi, decide_eq_false_iff_not]
    omega

/-- A peer that has answered every write finds nothing to take. -/
theorem serve_nothing (h : Setting s m t c) (ha : t.answered = c.lanes.size) :
    c.step (.peer .next) = (.peer .nothing, c) := by
  have hnone : c.channel.nextQueued? = none := by
    rw [h.nextQueued?_eq, if_neg (Nat.not_lt.mpr (Nat.le_of_eq ha.symm))]
  have hact : c.act (.peer .next) = (.peer .nothing, c) := by
    simp only [Connection.act, Channel.peerStep, Channel.asPeer, h.peer, Channel.take, hnone,
      if_true]
  exact Connection.step_of_running hact h.reached.running

private theorem signalsOf_answered (hs : s ≠ .abrupt) :
    { signalsOf s t with closing := (signalsOf s t).closing || (headOf s).wantsClose }
      = signalsOf s { t with answered := t.answered + 1 } := by
  cases s with
  | drain => rfl
  | graceful =>
    have hclose : closingHead.wantsClose = true := by decide +kernel
    simp [signalsOf, headOf, hclose]
  | abrupt => exact absurd rfl hs

/-- The peer takes the first write that it has not answered, and answers it. -/
theorem serve (h : Setting s m t c) (hs : s ≠ .abrupt) (ht : t.torn = false)
    (ha : t.answered < c.lanes.size) :
    ∃ p c₁, c.step (.peer .next) = (.peer (.request p (requestOf t.answered)), c₁) ∧
      Setting s m { t with answered := t.answered + 1 }
        (c₁.step (.peer (.respondWith p (headOf s) (bodyOf s t.answered)))).2 := by
  obtain ⟨w, hw, hwritten⟩ := h.written _ ha
  obtain ⟨ch₁, htake, hpeer, hsignals, hself, hother⟩ := Channel.serve h.peer
    (h.nextQueued?_eq.trans (if_pos ha)) hw (headOf s) (bodyOf s t.answered)
  rw [hwritten.request] at htake
  have hact : c.act (.peer .next)
      = (.peer (.request c.channel.taken.size (requestOf t.answered)),
        { c with channel := ch₁ }) := by
    simp only [Connection.act, htake]
  have hstep := Connection.step_of_running hact h.reached.running
  have hreached : Reached m { c with channel := ch₁ } := by
    have hreached : Reached m (c.step (.peer .next)).2 := h.reached.step (by simp)
    rwa [hstep] at hreached
  refine ⟨_, _, hstep, ?_⟩
  generalize hch : (ch₁.peerStep (.respondWith c.channel.taken.size (headOf s)
    (bodyOf s t.answered))) = r at hpeer hsignals hself hother
  obtain ⟨a, ch⟩ := r
  have hact' : Connection.act { c with channel := ch₁ }
      (.peer (.respondWith c.channel.taken.size (headOf s) (bodyOf s t.answered)))
      = (.peer a, { c with channel := ch }) := by
    simp only [Connection.act, hch]
  have hreached' : Reached m (Connection.step { c with channel := ch₁ }
      (.peer (.respondWith c.channel.taken.size (headOf s) (bodyOf s t.answered)))).2 :=
    hreached.step (by simp)
  rw [Connection.step_of_running hact' h.reached.running] at hreached' ⊢
  exact { h with
    reached := hreached'
    peer := hpeer
    signals := by
      rw [← signalsOf_answered hs, ← h.signals]
      exact hsignals
    written := by
      intro i hi
      by_cases hia : t.answered = i
      · subst hia
        refine ⟨_, hself, hwritten.request, ?_, fun _ _ ↦ rfl⟩
        exact (if_pos (Nat.lt_succ_self _)).symm
      · obtain ⟨w', hw', hwritten'⟩ := h.written i hi
        have hlt : i < t.answered + 1 ↔ i < t.answered := by omega
        refine ⟨w', (hother i hia).trans hw', hwritten'.request, ?_, ?_⟩
        · simp only [hlt]
          exact hwritten'.fate
        · intro hd hi'
          exact hwritten'.payload hd (hlt.mp hi')
    answered := ha
    torn := by
      intro htorn
      cases ht.symm.trans htorn
    closed := by
      intro hclosed
      change c.tracker.isClosed = true at hclosed
      rw [h.isOpen ht] at hclosed
      cases hclosed }

/-- The peer of a scenario tears the channel down. -/
theorem tear (h : Setting s m t c) {p : Channel.PeerStep} (ht : t.MayTear s)
    (hp : s = .graceful ∧ p = .close ∨ s = .abrupt ∧ p = .reset resetError) :
    Setting s m { t with torn := true } (c.step (.peer p)).2 := by
  have hsignals : (c.channel.peerStep p).2.signals = signalsOf s { t with torn := true } := by
    rw [Channel.signals_peerStep, h.peer, h.signals]
    rcases hp with ⟨rfl, rfl⟩ | ⟨rfl, rfl⟩
    · simp [signalsOf, Channel.announces]
    · simp [signalsOf, Channel.announces]
  have hsame : (c.channel.peerStep p).2.peer = true ∧
      (c.channel.peerStep p).2.writes = c.channel.writes := by
    rcases hp with ⟨-, rfl⟩ | ⟨-, rfl⟩
    · simp [Channel.peerStep, Channel.asPeer, h.peer]
    · simp [Channel.peerStep, Channel.asPeer, h.peer]
  have hreached : Reached m (c.step (.peer p)).2 := h.reached.step (by simp)
  generalize hch : c.channel.peerStep p = r at hsignals hsame
  obtain ⟨a, ch⟩ := r
  have hact : c.act (.peer p) = (.peer a, { c with channel := ch }) := by
    simp only [Connection.act, hch]
  rw [Connection.step_of_running hact h.reached.running] at hreached ⊢
  have hmay : Tally.MayTear s { t with torn := true } := ⟨ht.dealt, ht.ends, ht.announced⟩
  exact { h with
    reached := hreached
    peer := hsame.1
    signals := hsignals
    written := by
      intro i hi
      obtain ⟨w, hw, hwritten⟩ := h.written i hi
      refine ⟨w, ?_, hwritten.request, hwritten.fate, hwritten.payload⟩
      rw [← hw]
      exact congrArg (·[i]?) hsame.2
    torn := fun _ ↦ hmay
    closed := by
      intro hclosed
      change c.tracker.isClosed = true at hclosed
      change c.tracker = .told ch.notices
      rw [notices_eq hsame.1 hsignals, told_signalsOf fun _ ↦ hmay]
      cases he : c.tracker with
      | opened | closing => simp [he, Tracker.isClosed] at hclosed
      | closed e => rw [(h.torn_of_closed he).2, if_pos rfl] }

/-! ## The caller awaits a response -/

/-- The await of a request that was turned away answers at once. -/
theorem await_refused (h : Setting s m t c) (hm : m.val ≤ t.dealt)
    (hlt : t.dealt < t.issued) :
    ∃ c', c.step (.caller (.await t.dealt)) = (.failed (.limitExceeded ⟨m.val⟩), c') ∧
      Setting s m { t with resolved := t.dealt + 1, dealt := t.dealt + 1 } c' := by
  have hcall := h.refused t.dealt hm (Nat.le_refl _) hlt
  have hact : c.act (.caller (.await t.dealt)) = (.failed (.limitExceeded ⟨m.val⟩),
      { c with calls := c.calls.set! t.dealt .over }) := by
    simp only [Connection.act, Connection.callerStep, Connection.await, hcall]
  have hreached : Reached m (c.step (.caller (.await t.dealt))).2 := h.reached.step (by simp)
  have hstep := Connection.step_of_running hact h.reached.running
  rw [hstep] at hreached
  have hsize : c.lanes.size ≤ t.dealt :=
    Nat.le_trans (Nat.le_of_eq h.size) (Nat.le_trans (Nat.min_le_right _ _) hm)
  have hother (r : Nat) (hr : r ≠ t.dealt) :
      (c.calls.set! t.dealt .over)[r]? = c.calls[r]? := by
    rw [Array.set!_eq_setIfInBounds, Array.getElem?_setIfInBounds_ne (Ne.symm hr)]
  refine ⟨_, hstep, ?_⟩
  exact { h with
    reached := hreached
    calls := by
      rw [Array.set!_eq_setIfInBounds, Array.size_setIfInBounds, h.calls]
    admitted := by
      intro r hr
      change r < c.lanes.size at hr
      change (c.calls.set! t.dealt .over)[r]? = _
      rw [hother r (by omega)]
      exact h.admitted r hr
    refused := by
      intro r hr hd hi
      change t.dealt + 1 ≤ r at hd
      change (c.calls.set! t.dealt .over)[r]? = _
      rw [hother r (by omega)]
      exact h.refused r hr (Nat.le_of_succ_le hd) hi
    written := by
      intro i hi
      obtain ⟨w, hw, hwritten⟩ := h.written i hi
      exact ⟨w, hw, hwritten.request, hwritten.fate,
        fun hd ↦ hwritten.payload (Nat.le_of_succ_le hd)⟩
    torn := fun ht ↦ (h.torn ht).advance _ (Nat.le_succ _)
    caller := by
      intro i l hi hl
      have hlt := (Array.getElem?_eq_some_iff.mp hl).1
      exact absurd hlt (Nat.not_lt.mpr (Nat.le_trans hsize (Nat.le_of_succ_le hi)))
    dealt := by
      intro i l _ hl
      have hlt := (Array.getElem?_eq_some_iff.mp hl).1
      exact h.dealt i l (Nat.lt_of_lt_of_le hlt hsize) hl }

/-- The caller goes on with the call that is next: it has its body now, or nothing more is done
about it. Of the writes at most the payload of the finished call has changed. -/
private theorem advance (h : Setting s m t c) (hr : t.resolved ≤ t.dealt + 1)
    (hl : c.lanes[t.dealt]? = some l) {l' : Lane} {b : Books} {ch : Channel} {d : Nat}
    (hd : d = t.dealt ∧ l'.caller = .holding false ∨
      d = t.dealt + 1 ∧ l'.exchange.phase.isTerminal = true)
    (hlost : l'.reply ≠ .lost) (hpeer : ch.peer = true) (hsignals : ch.signals = c.channel.signals)
    (hwrites : ∀ i w, c.channel.writes[i]? = some w →
      ∃ p, ch.writes[i]? = some { w with payload := p } ∧ (d ≤ i → p = w.payload))
    (hreached : Reached m { c.put t.dealt l' b with channel := ch }) :
    Setting s m { t with resolved := t.dealt + 1, dealt := d }
      { c.put t.dealt l' b with channel := ch } := by
  have hle : t.dealt ≤ d := by
    rcases hd with ⟨rfl, -⟩ | ⟨rfl, -⟩ <;> omega
  have hlane {i : Nat} {l₁ : Lane} (hl₁ : (c.put t.dealt l' b).lanes[i]? = some l₁) :
      i = t.dealt ∧ l₁ = l' ∨ t.dealt ≠ i ∧ c.lanes[i]? = some l₁ :=
    Connection.lane?_put_cases hl hl₁
  have hnotices : ch.notices = c.channel.notices := by
    rw [notices_eq h.peer h.signals, notices_eq hpeer (hsignals.trans h.signals)]
  exact { h with
    reached := hreached
    size := by
      change (c.put t.dealt l' b).lanes.size = _
      rw [Connection.size_lanes_put, h.size]
    admitted := by
      change ∀ r < (c.put t.dealt l' b).lanes.size, _
      rw [Connection.size_lanes_put]
      exact h.admitted
    refused := by
      intro r hr hdr hlt
      exact h.refused r hr (Nat.le_trans hle hdr) hlt
    peer := hpeer
    signals := hsignals.trans h.signals
    written := by
      change ∀ i < (c.put t.dealt l' b).lanes.size, _
      rw [Connection.size_lanes_put]
      intro i hi
      obtain ⟨w, hw, hwritten⟩ := h.written i hi
      obtain ⟨p, hp, hkept⟩ := hwrites i w hw
      refine ⟨_, hp, hwritten.request, hwritten.fate, ?_⟩
      intro hdi hanswered
      exact (hkept hdi).trans (hwritten.payload (Nat.le_trans hle hdi) hanswered)
    answered := by
      change t.answered ≤ (c.put t.dealt l' b).lanes.size
      rw [Connection.size_lanes_put]
      exact h.answered
    torn := fun ht ↦ (h.torn ht).advance _ hle
    closed := by
      intro hclosed
      change c.tracker = .told ch.notices
      rw [hnotices]
      exact h.closed hclosed
    caller := by
      intro i l₁ hi hl₁
      change d ≤ i at hi
      change l₁.caller = if i < t.dealt + 1 then .holding false else .waiting
      rcases hlane hl₁ with ⟨rfl, rfl⟩ | ⟨hne, hold⟩
      · rw [if_pos (Nat.lt_succ_self _)]
        rcases hd with ⟨-, hcaller⟩ | ⟨rfl, -⟩
        · exact hcaller
        · omega
      · rw [h.caller i l₁ (Nat.le_trans hle hi) hold, if_neg, if_neg]
        · omega
        · omega
    lost := by
      intro i l₁ hl₁
      rcases hlane hl₁ with ⟨-, rfl⟩ | ⟨-, hold⟩
      · exact hlost
      · exact h.lost i l₁ hold
    dealt := by
      intro i l₁ hi hl₁
      change i < d at hi
      rcases hlane hl₁ with ⟨rfl, rfl⟩ | ⟨hne, hold⟩
      · rcases hd with ⟨rfl, -⟩ | ⟨-, hterminal⟩
        · exact absurd hi (Nat.lt_irrefl _)
        · exact hterminal
      · refine h.dealt i l₁ ?_ hold
        rcases hd with ⟨rfl, -⟩ | ⟨rfl, -⟩ <;> omega }

/-- How the await of the call that is next ends, if it was admitted. -/
private theorem await_eq (h : Setting s m t c) (hr : t.resolved = t.dealt)
    (hl : c.lanes[t.dealt]? = some l) : c.await t.dealt = c.awaitLane t.dealt l := by
  have hcall := h.admitted t.dealt (Array.getElem?_eq_some_iff.mp hl).1
  have hcaller : l.caller = .waiting := by
    rw [h.caller t.dealt l (Nat.le_refl _) hl, hr, if_neg (Nat.lt_irrefl _)]
  simp only [Connection.await, hcall, Connection.laneOf?_of_admitted hcall hl, hcaller]

/-- The await of a response of which nothing was handed over leaves everything as it is. -/
theorem await_pending (h : Setting s m t c) (hr : t.resolved = t.dealt)
    (hl : c.lanes[t.dealt]? = some l) (hreply : l.reply = .awaited) :
    c.step (.caller (.await t.dealt)) = (.pending, c) := by
  have hact : c.act (.caller (.await t.dealt)) = (.pending, c) := by
    change c.await t.dealt = _
    rw [h.await_eq hr hl]
    simp only [Connection.awaitLane, hreply]
  exact Connection.step_of_running hact h.reached.running

/-- The await of a response that was handed over leaves the caller with the body, or with the error
of the scenario. -/
theorem await_replied (h : Setting s m t c) (hr : t.resolved = t.dealt)
    (hl : c.lanes[t.dealt]? = some l) (hreply : l.reply ≠ .awaited) :
    (t.dealt < t.answered ∧
      ∃ c', c.step (.caller (.await t.dealt)) = (.head (headOf s), c') ∧
        Setting s m { t with resolved := t.dealt + 1 } c') ∨
    (t.answered ≤ t.dealt ∧
      ∃ c', c.step (.caller (.await t.dealt)) = (.failed (.closed (closeError s)), c') ∧
        Setting s m { t with resolved := t.dealt + 1, dealt := t.dealt + 1 } c') := by
  have hreached : Reached m (c.step (.caller (.await t.dealt))).2 := h.reached.step (by simp)
  -- Either way the caller of the lane is all that changes.
  have hstep {a : Connection.Answer} {k : Caller}
      (hact : c.awaitLane t.dealt l = (a, c.setCaller t.dealt k)) :
      c.step (.caller (.await t.dealt))
        = (a, { c.put t.dealt { l with caller := k } c.books with channel := c.channel }) := by
    refine Connection.step_of_running ?_ h.reached.running
    change c.await t.dealt = _
    rw [h.await_eq hr hl, hact, Connection.setCaller_eq_put hl]
    rfl
  have hwrites (d : Nat) (i : Nat) (w : Write) (hw : c.channel.writes[i]? = some w) :
      ∃ p, c.channel.writes[i]? = some { w with payload := p } ∧ (d ≤ i → p = w.payload) :=
    ⟨w.payload, hw, fun _ ↦ rfl⟩
  rcases h.reply_cases hl with hawaited | ⟨hhead, hanswered⟩ | ⟨herror, htorn, hterminal⟩
  · exact absurd hawaited hreply
  · have hhold := hstep (a := .head (headOf s)) (k := .holding false) (by
      simp only [Connection.awaitLane, hhead])
    rw [hhold] at hreached
    refine Or.inl ⟨hanswered, _, hhold, ?_⟩
    exact h.advance (by omega) hl (Or.inl ⟨rfl, rfl⟩) (h.lost _ l hl) h.peer rfl (hwrites _)
      hreached
  · have hgone := hstep (a := .failed (.closed (closeError s))) (k := .gone) (by
      simp only [Connection.awaitLane, herror])
    rw [hgone] at hreached
    refine Or.inr ⟨(h.torn htorn).dealt, _, hgone, ?_⟩
    exact h.advance (by omega) hl (Or.inr ⟨rfl, hterminal⟩) (h.lost _ l hl) h.peer rfl (hwrites _)
      hreached

/-! ## The caller drains a body -/

/-- A caller gets its body only with the head, and the head only from a write that was answered, so
nothing has gone wrong by then. -/
private theorem held (h : Setting s m t c) (hl : c.lanes[t.dealt]? = some l)
    (hcaller : l.caller = .holding false) :
    t.dealt < t.answered ∧ l.exchange.failure? = none := by
  obtain ⟨head, hhead⟩ := (h.reached.handedOver _ l hl).body (by rw [hcaller]; rfl)
  have hanswered : t.dealt < t.answered := by
    rcases h.reply_cases hl with hr | ⟨-, hlt⟩ | ⟨hr, -, -⟩
    · cases hhead.symm.trans hr
    · exact hlt
    · cases hhead.symm.trans hr
  refine ⟨hanswered, Option.eq_none_iff_forall_not_mem.mpr fun e he ↦ ?_⟩
  obtain ⟨htorn, -⟩ := h.torn_of_closed ((h.reached.sound.lane _ l hl).failure e he)
  exact absurd hanswered (Nat.not_lt.mpr (h.torn htorn).dealt)

/-- The caller that has its body drains it whole. -/
theorem drain (h : Setting s m t c) (hr : t.resolved = t.dealt + 1) (hlt : t.dealt < c.lanes.size) :
    t.dealt < t.answered ∧
      ∃ c', c.step (.caller (.drain t.dealt)) = (.drained (bodyOf s t.dealt), c') ∧
        Setting s m { t with dealt := t.dealt + 1 } c' := by
  have hl : c.lanes[t.dealt]? = some c.lanes[t.dealt] := Array.getElem?_eq_getElem hlt
  generalize c.lanes[t.dealt] = l at hl
  have hcaller : l.caller = .holding false := by
    rw [h.caller t.dealt l (Nat.le_refl _) hl, hr, if_pos (Nat.lt_succ_self _)]
  obtain ⟨hanswered, hfailure⟩ := h.held hl hcaller
  have hprogress : l.exchange.progress ≠ .completed :=
    h.reached.unfinished _ l hl (by rw [hcaller]; rfl)
  obtain ⟨w, hw, hwritten⟩ := h.written _ hlt
  obtain ⟨l', b, hdrain, -, hreply, hterminal⟩ := Connection.drain_whole
    (h.admitted _ hlt) hl hcaller hfailure hprogress hw
    (hwritten.payload (Nat.le_refl _) hanswered)
  have hreached : Reached m (c.step (.caller (.drain t.dealt))).2 := h.reached.step (by simp)
  have hstep : c.step (.caller (.drain t.dealt)) = _ :=
    Connection.step_of_running hdrain h.reached.running
  rw [hstep] at hreached
  refine ⟨hanswered, _, hstep, ?_⟩
  have hwrites (i : Nat) (w : Write) (hw : c.channel.writes[i]? = some w) :
      ∃ p, (c.channel.read t.dealt).2.writes[i]? = some { w with payload := p } ∧
        (t.dealt + 1 ≤ i → p = w.payload) := by
    by_cases hi : t.dealt = i
    · subst hi
      exact ⟨_, (Channel.read_eq hw).2, fun hle ↦ absurd hle (Nat.not_succ_le_self _)⟩
    · exact ⟨w.payload, (Channel.write?_read_ne hi _).trans hw, fun _ ↦ rfl⟩
  have hpeer : (c.channel.read t.dealt).2.peer = true := by
    rw [Channel.read, hw]
    exact h.peer
  have ht : { t with dealt := t.dealt + 1 }
      = { t with resolved := t.dealt + 1, dealt := t.dealt + 1 } := by
    rw [← hr]
  rw [ht]
  exact h.advance (by omega) hl (Or.inr ⟨rfl, hterminal⟩) (hreply ▸ h.lost _ l hl) hpeer
    (Channel.signals_read _ _) hwrites hreached

/-! ## The end -/

/-- When all calls are dealt with, every exchange has settled. -/
theorem settled (h : Setting s m t c) (hd : t.dealt = t.issued) :
    ∀ l ∈ c.lanes, l.exchange.phase.holdsSlot = false := by
  intro l hl
  obtain ⟨i, hi, rfl⟩ := Array.mem_iff_getElem.mp hl
  have hlt : i < t.dealt := by
    have hsize := h.size
    omega
  rw [Phase.holdsSlot, h.dealt i _ hlt (Array.getElem?_eq_getElem hi)]
  rfl

/-- Then nothing is in flight. -/
theorem idle (h : Setting s m t c) (hd : t.dealt = t.issued) : c.inFlight = 0 := by
  rw [h.reached.sound.inFlight_eq h.reached.running, Array.countP_eq_zero]
  intro l hl
  rw [h.settled hd l hl]
  exact Bool.false_ne_true

theorem pendingExchanges_eq_nil (h : Setting s m t c) (hd : t.dealt = t.issued) :
    c.pendingExchanges = [] := by
  rw [h.reached.sound.pendingExchanges_eq, List.map_eq_nil_iff, List.filter_eq_nil_iff]
  intro l hl
  rw [h.settled hd l (Array.mem_toList_iff.mp hl)]
  exact Bool.false_ne_true

theorem waitIdle (h : Setting s m t c) (hd : t.dealt = t.issued) :
    c.step (.caller .waitIdle) = (.idle true, c) := by
  refine Connection.step_of_running ?_ h.reached.running
  change c.asFacade (.idle (c.inFlight == 0), c) = _
  rw [Connection.asFacade, if_pos h.facade, h.idle hd]
  rfl

/-- The view of a connection on which all requests were issued and nothing else has happened. -/
theorem stats_issued {n : Nat} (h : Setting s m { issued := n } c) : c.stats =
    { state := .opened
      inFlight := min n m.val
      max := m.val
      pending := (List.range (min n m.val)).map fun i ↦ ⟨⟨i + 1⟩, .dispatched⟩ } := by
  have hpending : c.pendingExchanges
      = (List.range (min n m.val)).map fun i ↦ ⟨⟨i + 1⟩, .dispatched⟩ := by
    rw [h.reached.sound.pendingExchanges_eq, List.filter_eq_self.mpr]
    · refine List.ext_getElem ?_ ?_
      · simp [h.size]
      · intro i hi _
        have hsize : i < c.lanes.size := by simpa using hi
        have hl := Array.getElem?_eq_getElem hsize
        simp [(h.reached.sound.lane i _ hl).id, h.dispatched rfl rfl hl]
    · intro l hl
      obtain ⟨i, hi, rfl⟩ := Array.mem_iff_getElem.mp (Array.mem_toList_iff.mp hl)
      rw [Exchange.phase, h.dispatched rfl rfl (Array.getElem?_eq_getElem hi)]
      rfl
  rw [Connection.stats, h.opened rfl rfl, h.inFlight_eq rfl rfl, h.size, h.reached.max_eq, hpending]
  rfl

end Setting

end Demo

end BoundedPipelining
