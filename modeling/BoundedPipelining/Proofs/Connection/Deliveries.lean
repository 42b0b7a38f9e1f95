import BoundedPipelining.Proofs.Connection.Callers

/-!
# What the caller of a request is shown

An admitted request shows its caller one result at most. An error ends it there. A head is followed
by the polls of a body, and these yield chunks, then at most one failure, and from then on the end
of the stream. `delivered_in_order` says so for every admitted request and whatever follows its
admission, together with what the exchange is by then: failed with the very error that was shown, or
completed if an end was shown without one.

What was shown is an append-only record, `history`, and `Told` says which records fit a lane. The
invariant goes by what the caller still holds. A body that is held and not done has shown nothing
that ends it; a body that is done has shown one sight that ended it (`Sight.Ends`) and then its end
only, without looking at anything. So neither the payload nor the terminal signal is looked at again
after its last word.
-/

namespace BoundedPipelining

namespace Connection

/-! ## The record of a run -/

/-- What the steps of a run yield, one after the other. -/
def history {α : Type} (f : Connection → Step → List α) (c : Connection) : List Step → List α
  | [] => []
  | s :: steps => f c s ++ history f (c.step s).2 steps

theorem history_snoc {α : Type} (f : Connection → Step → List α) (c : Connection)
    (steps : List Step) (s : Step) :
    history f c (steps ++ [s]) = history f c steps ++ f (c.run steps) s := by
  induction steps generalizing c with
  | nil => exact List.append_nil _
  | cons t steps ih =>
    rw [List.cons_append, history, history, ih, List.append_assoc]
    rfl

/-- The result that an event tells. -/
def Event.result? : Event → Option (Except ClassifiedError Head)
  | result r => some r
  | sight _ => none

/-- The poll of a body that an event is. -/
def Event.sight? : Event → Option Sight
  | result _ => none
  | sight s => some s

/-- The error that an event tells. -/
def Event.error? : Event → Option ClassifiedError
  | result (.error e) | sight ⟨.failed e, _⟩ => some e
  | _ => none

/-- The results among what was shown. -/
def resultsOf (log : List Event) : List (Except ClassifiedError Head) :=
  log.filterMap Event.result?

/-- The polls of the body among what was shown. -/
def sightsOf (log : List Event) : List Sight := log.filterMap Event.sight?

/-- The errors among what was shown. -/
def errorsOf (log : List Event) : List ClassifiedError := log.filterMap Event.error?

theorem sightsOf_append (log log' : List Event) :
    sightsOf (log ++ log') = sightsOf log ++ sightsOf log' := List.filterMap_append

theorem errorsOf_append (log log' : List Event) :
    errorsOf (log ++ log') = errorsOf log ++ errorsOf log' := List.filterMap_append

@[simp] theorem resultsOf_map_sight (ss : List Sight) : resultsOf (ss.map .sight) = [] := by
  rw [resultsOf, List.filterMap_map]
  exact List.filterMap_eq_nil_iff.mpr fun _ _ ↦ rfl

@[simp] theorem sightsOf_map_sight (ss : List Sight) : sightsOf (ss.map .sight) = ss := by
  rw [sightsOf, List.filterMap_map]
  exact List.filterMap_some

@[simp] theorem resultsOf_cons_result (r : Except ClassifiedError Head) (log : List Event) :
    resultsOf (.result r :: log) = r :: resultsOf log := rfl

@[simp] theorem sightsOf_cons_result (r : Except ClassifiedError Head) (log : List Event) :
    sightsOf (.result r :: log) = sightsOf log := rfl

/-! ## Polls that end a body -/

/-- A poll that leaves the body as it may be polled again, and its sources too. -/
def Sight.GoesOn (s : Sight) : Prop :=
  s.item.isDone = false ∧ ∀ look ∈ s.looks, look.isLast = false

/-- A poll that ends the body of this exchange. Only the last thing that it looked at has said its
last word by then. -/
inductive Sight.Ends (x : Exchange) : Sight → Prop
  | failed {e : ClassifiedError} {looks : List Look} (h : x.failure? = some e)
      (hlooks : ∀ look ∈ looks.dropLast, look.isLast = false) : Ends x ⟨.failed e, looks⟩
  | ended (h : x.progress = .completed) : Ends x ⟨.ended, [.payload .ended]⟩

variable {c c' : Connection} {i k : Nat} {l l' : Lane} {s : Step} {ss : List Sight}
  {log : List Event} {x y : Exchange}

theorem Sight.Ends.isDone {s : Sight} (h : s.Ends x) : s.item.isDone = true := by
  cases h with
  | failed | ended => rfl

theorem Sight.Ends.congr {s : Sight} (h : s.Ends x) (hp : y.progress = x.progress) : s.Ends y := by
  cases h with
  | failed hf hlooks =>
    refine .failed ?_ hlooks
    rw [Exchange.failure?_eq_some_iff, hp, Exchange.failure?_eq_some_iff.mp hf]
  | ended h => exact .ended (hp.trans h)

/-- An exchange whose body has ended has settled. -/
theorem Sight.Ends.isTerminal {s : Sight} (h : s.Ends x) : x.phase.isTerminal = true := by
  cases h with
  | failed hf => exact Exchange.isTerminal_of_failure? hf
  | ended hp =>
    rw [Exchange.phase, hp]
    rfl

/-- A poll of a body that is not done goes on or ends it. -/
private theorem BodySight.goesOn_or_ends {s : Sight} (hs : BodySight c i l s c')
    (hl : c.lanes[i]? = some l) (hl' : c'.lanes[i]? = some l') :
    s.GoesOn ∨ s.Ends l'.exchange := by
  cases hs with
  | kept hf =>
    cases hl.symm.trans hl'
    exact Or.inr (.failed hf (by simp))
  | chunk | pending => exact Or.inl ⟨rfl, by simp [Look.isLast]⟩
  | broken _ _ hx hc | told _ _ hx hc =>
    cases hl'.symm.trans (hc.lane? hl)
    exact Or.inr (.failed hx (by simp [Look.isLast]))
  | ended _ _ hx hc =>
    cases hl'.symm.trans (hc.lane? hl)
    exact Or.inr (.ended hx)

/-- The polls of one step go on, but for the last one, which may end the body. -/
theorem BodyPolls.goesOn_or_ends (h : BodyPolls i c l ss c' l') :
    (∀ s ∈ ss, s.GoesOn) ∨
      ∃ before last, ss = before ++ [last] ∧ (∀ s ∈ before, s.GoesOn) ∧ last.Ends l'.exchange := by
  induction h with
  | nil => exact Or.inl fun s hs ↦ by cases hs
  | @cons _ _ _ _ _ _ s ss hsight hl hl₁ hlast hrest ih =>
    rcases hsight.goesOn_or_ends hl hl₁ with hs | hs
    · rcases ih with hall | ⟨before, last, rfl, hbefore, hends⟩
      · exact Or.inl (List.forall_mem_cons.mpr ⟨hs, hall⟩)
      · exact Or.inr ⟨s :: before, last, rfl, List.forall_mem_cons.mpr ⟨hs, hbefore⟩, hends⟩
    · -- A poll that ends the body is the last one of its step.
      obtain rfl : ss = [] := hlast hs.isDone
      cases hrest
      exact Or.inr ⟨[], s, rfl, by simp, hs⟩

/-! ## What fits a lane -/

/-- What the polls of the body of this lane have seen. -/
inductive Seen (l : Lane) : List Sight → Prop
  | unfinished {ss : List Sight} (hk : l.caller ≠ .holding true) (hss : ∀ s ∈ ss, s.GoesOn) :
      Seen l ss
  | finished {ss : List Sight} {last : Sight} {n : Nat} (hk : l.caller.isOpen = false)
      (hss : ∀ s ∈ ss, s.GoesOn) (hlast : last.Ends l.exchange) :
      Seen l (ss ++ last :: List.replicate n ⟨.ended, []⟩)

/-- What the caller of this lane has been shown. -/
inductive Told (l : Lane) : List Event → Prop
  | nothing (hk : l.caller = .waiting ∨ l.caller = .gone) : Told l []
  | refused {e : ClassifiedError} (hk : l.caller = .gone) (hf : l.exchange.failure? = some e) :
      Told l [.result (.error e)]
  | body {head : Head} {ss : List Sight} (hr : l.reply = .sent (.ok head))
      (hk : l.caller ≠ .waiting) (hss : Seen l ss) : Told l (.result (.ok head) :: ss.map .sight)

/-- What was seen of a body still fits when its lane has gone on or its caller has left. -/
private theorem Seen.mono (h : Seen l ss) (hf : l.Frame l')
    (hk : l'.caller = l.caller ∨ l'.caller = .gone) : Seen l' ss := by
  cases h with
  | unfinished hopen hss =>
    refine .unfinished ?_ hss
    rcases hk with hk | hk
    · rwa [hk]
    · simp [hk]
  | finished hclosed hss hlast =>
    refine .finished ?_ hss (hlast.congr (hf.progress hlast.isTerminal))
    rcases hk with hk | hk
    · rwa [hk]
    · rw [hk]
      rfl

/-- What was shown still fits when the lane has gone on or the caller has left. -/
private theorem Told.mono (h : Told l log) (hf : l.Frame l')
    (hk : l'.caller = l.caller ∨ l'.caller = .gone) : Told l' log := by
  have hgone (hgone : l.caller = .gone) : l'.caller = .gone := by
    rcases hk with hk | hk
    · exact hk.trans hgone
    · exact hk
  cases h with
  | nothing hbefore =>
    refine .nothing ?_
    rcases hk with hk | hk
    · rwa [hk]
    · exact Or.inr hk
  | refused hbefore he =>
    refine .refused (hgone hbefore) ?_
    rw [Exchange.failure?_eq_some_iff] at he ⊢
    rw [hf.progress (by rw [Exchange.phase, he]; rfl), he]
  | body hr hbefore hss =>
    refine .body ((hf.reply (by rw [hr]; rfl)).trans hr) ?_ (hss.mono hf hk)
    rcases hk with hk | hk
    · rwa [hk]
    · simp [hk]

/-- Nothing was shown of an exchange whose response is still waited for. -/
private theorem Told.eq_nil_of_waiting (h : Told l log) (hk : l.caller = .waiting) : log = [] := by
  cases h with
  | nothing => rfl
  | refused hgone =>
    rw [hk] at hgone
    cases hgone
  | body _ hne => exact absurd hk hne

/-- Whoever holds a body was shown the head before. -/
private theorem Told.of_hasBody (h : Told l log) (hb : l.caller.hasBody = true) :
    ∃ head ss, log = .result (.ok head) :: ss.map .sight ∧ l.reply = .sent (.ok head) ∧
      Seen l ss := by
  cases h with
  | nothing hk =>
    rcases hk with hk | hk
    · rw [hk] at hb
      cases hb
    · rw [hk] at hb
      cases hb
  | refused hk =>
    rw [hk] at hb
    cases hb
  | body hr _ hss => exact ⟨_, _, rfl, hr, hss⟩

/-! ## One step -/

theorem shown_peer (c : Connection) (i : Nat) (p : Channel.PeerStep) :
    c.shown i (.peer p) = [] := by
  simp [shown, bodySights, polling?, resting?]

theorem shown_of_polling {n : Nat} (h : c.polling? s = some (i, n)) :
    c.shown i s = (sights i n c).map .sight := by
  have hbody : c.bodySights i s = sights i n c := by
    rw [bodySights, h]
    exact if_pos rfl
  rw [shown.eq_def]
  split
  · cases h
  · rw [hbody]

theorem caller_of_polling {n : Nat} (h : c.polling? s = some (i, n))
    (hl : c.lanes[i]? = some l) : l.caller.hasBody = true ∧ l.caller.isOpen = true := by
  obtain ⟨k, l₀, -, hlane, hb, ho⟩ := polling?_eq_some h
  cases hl.symm.trans (laneOf?_eq_some_iff.mp hlane).2
  exact ⟨hb, ho⟩

/-- A step that leaves a body at rest has found it done. -/
private theorem PollEnd.isDone_of_resting {a : Answer} {k' : Caller} (h : PollEnd l ss s a k')
    (hk : k' = .holding true) : ∃ x ∈ ss, x.item.isDone = true := by
  cases h with
  | @read _ x _ hss => exact ⟨x, hss ▸ List.mem_singleton_self x, Caller.holding.inj hk⟩
  | drain _ hend =>
    cases hend with
    | pending | bytes | failed | violation => cases hk

/-- A step that polls a body does not wait for its response. -/
private theorem PollEnd.ne_waiting {a : Answer} {k' : Caller} (h : PollEnd l ss s a k') :
    k' ≠ .waiting := by
  cases h with
  | read => simp
  | drain _ hend =>
    cases hend with
    | pending | bytes | failed | violation => simp

/-- What the polls of a step see fits after what was seen before. -/
private theorem Seen.polled {before : List Sight} {l₁ : Lane} {a : Answer} {k' : Caller}
    (h : Seen l before) (ho : l.caller.isOpen = true) (hpolls : BodyPolls i c l ss c' l₁)
    (hend : PollEnd l ss s a k') (hk : l'.caller = k')
    (hp : l'.exchange.progress = l₁.exchange.progress) : Seen l' (before ++ ss) := by
  cases h with
  | finished hclosed =>
    rw [ho] at hclosed
    cases hclosed
  | unfinished _ hbefore =>
    rcases hpolls.goesOn_or_ends with hss | ⟨ss, last, rfl, hss, hlast⟩
    · refine .unfinished (fun hresting ↦ ?_) (List.forall_mem_append.mpr ⟨hbefore, hss⟩)
      obtain ⟨x, hx, hdone⟩ := hend.isDone_of_resting (hk ▸ hresting)
      rw [(hss x hx).1] at hdone
      cases hdone
    · rw [← List.append_assoc]
      refine @Seen.finished _ (before ++ ss) last 0 ?_
        (List.forall_mem_append.mpr ⟨hbefore, hss⟩) (hlast.congr hp)
      -- A body that may be polled again was not found done.
      by_contra hopen
      rw [Bool.not_eq_false, hk] at hopen
      have hgoes := hend.goes_on hopen last (List.mem_append_right _ (List.mem_singleton_self _))
      rw [hlast.isDone] at hgoes
      cases hgoes

/-- A body that is done is seen at its end again. -/
private theorem Seen.rested (h : Seen l ss) (hk : l.caller = .holding true) (hf : l.Frame l')
    (hk' : l'.caller.isOpen = false) : Seen l' (ss ++ [⟨.ended, []⟩]) := by
  cases h with
  | unfinished hne => exact absurd hk hne
  | @finished ss last n _ hss hlast =>
    rw [List.append_assoc, List.cons_append, ← List.replicate_succ']
    exact .finished hk' hss (hlast.congr (hf.progress hlast.isTerminal))

/-- What a step shows a caller fits after what was shown before. -/
theorem Told.step (h : Told l log) (hl : c.lanes[i]? = some l) (hs : LaneStep c i l s l')
    (hf : l.Frame l') : Told l' (log ++ c.shown i s) := by
  cases hs with
  | peer hk =>
    rw [shown_peer, List.append_nil]
    exact h.mono hf (Or.inl hk)
  | aside hshown hk =>
    rw [hshown, List.append_nil]
    exact h.mono hf (Or.inl hk)
  | left hshown hk =>
    rw [hshown, List.append_nil]
    exact h.mono hf (Or.inr hk)
  | resolved hk hshown hr hk' =>
    rw [h.eq_nil_of_waiting hk, hshown]
    refine @Told.body _ _ [] ((hf.reply (by rw [hr]; rfl)).trans hr) ?_ ?_
    · simp [hk']
    · exact .unfinished (by simp [hk']) (by simp)
  | refused hk hshown hk' hfailed =>
    rw [h.eq_nil_of_waiting hk, hshown]
    exact .refused hk' hfailed
  | polled hpolling hpolls hend hk' hp =>
    obtain ⟨hb, ho⟩ := caller_of_polling hpolling hl
    obtain ⟨head, ss, rfl, hr, hss⟩ := h.of_hasBody hb
    rw [shown_of_polling hpolling, List.cons_append, ← List.map_append]
    exact .body ((hf.reply (by rw [hr]; rfl)).trans hr) (hk' ▸ hend.ne_waiting)
      (hss.polled ho hpolls hend hk' hp)
  | rested hk hshown ha =>
    obtain ⟨head, ss, rfl, hr, hss⟩ := h.of_hasBody (by rw [hk]; rfl)
    have hk' : l'.caller = .holding true ∨ l'.caller = .gone := ha.imp And.right And.right
    rw [hshown, List.cons_append, ← List.map_singleton, ← List.map_append]
    refine .body ((hf.reply (by rw [hr]; rfl)).trans hr) ?_ (hss.rested hk hf ?_)
    · rcases hk' with hk' | hk'
      · simp [hk']
      · simp [hk']
    · rcases hk' with hk' | hk'
      · rw [hk']
        rfl
      · rw [hk']
        rfl

/-! ## A whole run -/

/-- What a run has shown the caller of a lane fits the lane. -/
theorem told_run (hh : HandedOver c) (hu : Unfinished c) (hl : c.lanes[i]? = some l)
    (hk : l.caller = .waiting) (steps : List Step) :
    ∃ l', (c.run steps).lanes[i]? = some l' ∧
      Told l' (history (fun c s ↦ c.shown i s) c steps) := by
  refine lane_run hh hu hl (P := fun done l ↦ Told l (history (fun c s ↦ c.shown i s) c done))
    (.nothing (Or.inl hk)) ?_ steps
  intro done s l l' _ hl hs hframe h
  rw [history_snoc]
  exact h.step hl hs hframe

/-- A request has just been admitted: its caller waits, and its write has no answer and no
payload. -/
structure JustAdmitted (c : Connection) (r : Request) (i : Nat) : Prop where
  lane : ∃ l, c.lanes[i]? = some l ∧ l.caller = .waiting
  write : ∃ f, (∀ head, f ≠ .answered head) ∧ c.channel.writes[i]? = some ⟨r, f, {}⟩

theorem justAdmitted_of_request (hn : Numbered c) {r : Request}
    (hk : (c.step (.caller (.request r))).2.calls[c.calls.size]? = some (.admitted i)) :
    JustAdmitted (c.step (.caller (.request r))).2 r i := by
  have hcalls : (c.step (.caller (.request r))).2.calls = (c.asFacade (c.request r)).2.calls :=
    Internal.calls (internal_reclaim (c.asFacade (c.request r)).2 : Internal Nobody _ _)
  rw [hcalls] at hk
  by_cases hf : c.facade = true
  · rw [asFacade, if_pos hf] at hk
    rcases request_cases hf r with ⟨why, e, -, heq⟩ | hadm
    · rw [heq] at hk
      change (c.calls.push (.refused e))[c.calls.size]? = _ at hk
      rw [Array.getElem?_push_size] at hk
      cases hk
    · rw [hadm.eq, admitted, Array.getElem?_push_size] at hk
      cases hk
      have hstep : (c.step (.caller (.request r))).2 = (c.admitted r).reclaim := by
        rw [← hadm.eq, step, act, callerStep, asFacade, if_pos hf]
      have hlane : (c.admitted r).lanes[c.lanes.size]? = some (c.newLane c.sequence.next.1) :=
        Array.getElem?_push_size
      obtain ⟨t, ht⟩ := lane?_reclaim hlane
      rw [hstep]
      refine ⟨⟨_, ht, ?_⟩, if c.channel.refuses then .refused else .queued, ?_, ?_⟩
      · rw [newLane]
        split <;> rfl
      · intro head
        split <;> simp
      · rw [channel_reclaim, ← hn.writes, Channel.size_requests]
        exact Array.getElem?_push_size
  · rw [asFacade, if_neg hf, Array.getElem?_size] at hk
    cases hk

/-- What the caller of an exchange has been shown, in the order in which it was shown. -/
structure Delivered (l : Lane) (log : List Event) : Prop where
  /-- The response yields one result at most. -/
  once : (resultsOf log).length ≤ 1
  /-- A result that is an error is the error with which the exchange failed, and there is no
  body. -/
  refused : ∀ e, .error e ∈ resultsOf log →
    l.exchange.failure? = some e ∧ l.caller.hasBody = false ∧ sightsOf log = []
  /-- The body is polled only after a head was shown, and nothing but the body is shown then. -/
  head : sightsOf log ≠ [] → ∃ head, log = .result (.ok head) :: (sightsOf log).map .sight
  /-- The body yields chunks, then one failure at most, and then its end for good. The failure is
  that of the exchange, and an end without a failure before it means that the exchange completed. -/
  stream : ∃ (live : List BodyItem) (failures : List ClassifiedError) (n : Nat),
    (sightsOf log).map Sight.item = live ++ failures.map .failed ++ List.replicate n .ended ∧
    (∀ item ∈ live, item = .pending ∨ ∃ bytes, item = .chunk bytes) ∧
    failures.length ≤ 1 ∧ (∀ e ∈ failures, l.exchange.failure? = some e) ∧
    (failures = [] → n ≠ 0 → l.exchange.progress = .completed)
  /-- There is one error at most, and it is that of the exchange. -/
  errors : (errorsOf log).length ≤ 1 ∧ ∀ e ∈ errorsOf log, l.exchange.failure? = some e
  /-- Nothing is looked at after a last word, be it that of the payload or of the terminal
  signal. -/
  looks : ((sightsOf log).flatMap Sight.looks).Pairwise fun look _ ↦ look.isLast = false

theorem Sight.GoesOn.item {s : Sight} (h : s.GoesOn) :
    s.item = .pending ∨ ∃ bytes, s.item = .chunk bytes := by
  have hdone := h.1
  cases hitem : s.item with
  | pending => exact Or.inl rfl
  | chunk bytes => exact Or.inr ⟨bytes, rfl⟩
  | failed | ended | violation =>
    rw [hitem] at hdone
    cases hdone

/-- No error is told by a poll that goes on. -/
theorem Sight.GoesOn.error? {s : Sight} (h : s.GoesOn) : (Event.sight s).error? = none := by
  obtain ⟨item, looks⟩ := s
  rcases h.item with hitem | ⟨bytes, hitem⟩
  · cases hitem
    rfl
  · cases hitem
    rfl

private theorem errorsOf_of_goesOn (hss : ∀ s ∈ ss, s.GoesOn) : errorsOf (ss.map .sight) = [] := by
  rw [errorsOf, List.filterMap_eq_nil_iff]
  intro event hevent
  obtain ⟨s, hs, rfl⟩ := List.mem_map.mp hevent
  exact (hss s hs).error?

/-- The failure that a poll tells that ends a body. -/
def Sight.failures (s : Sight) : List ClassifiedError := (Event.sight s).error?.toList

/-- The end that a poll tells that ends a body. -/
private theorem Sight.Ends.item {s : Sight} (h : s.Ends x) :
    ([s.item] = s.failures.map .failed ++ List.replicate (1 - s.failures.length) .ended) ∧
      (∀ e ∈ s.failures, x.failure? = some e) ∧
      (s.failures = [] → x.progress = .completed) ∧ s.failures.length ≤ 1 := by
  cases h with
  | failed hf =>
    refine ⟨rfl, ?_, ?_, Nat.le_refl 1⟩
    · intro e he
      cases List.mem_singleton.mp he
      exact hf
    · intro h
      cases h
  | ended hp => exact ⟨rfl, by simp [Sight.failures, Event.error?], fun _ ↦ hp, Nat.zero_le 1⟩

private theorem pairwise_of_dropLast {looks : List Look}
    (h : ∀ look ∈ looks.dropLast, look.isLast = false) :
    looks.Pairwise fun look _ ↦ look.isLast = false := by
  induction looks with
  | nil => exact .nil
  | cons look looks ih =>
    cases looks with
    | nil => exact List.pairwise_singleton _ look
    | cons next looks =>
      rw [List.dropLast_cons_cons, List.forall_mem_cons] at h
      exact List.pairwise_cons.mpr ⟨fun _ _ ↦ h.1, ih h.2⟩

/-- What was seen of a body, item by item. -/
private theorem Seen.stream (h : Seen l ss) :
    ∃ (live : List BodyItem) (n : Nat),
      ss.map Sight.item
        = live ++ (errorsOf (ss.map .sight)).map .failed ++ List.replicate n .ended ∧
      (∀ item ∈ live, item = .pending ∨ ∃ bytes, item = .chunk bytes) ∧
      (errorsOf (ss.map .sight)).length ≤ 1 ∧
      (∀ e ∈ errorsOf (ss.map .sight), l.exchange.failure? = some e) ∧
      (errorsOf (ss.map .sight) = [] → n ≠ 0 → l.exchange.progress = .completed) := by
  have hlive {ss : List Sight} (hss : ∀ s ∈ ss, s.GoesOn) (item : BodyItem)
      (hitem : item ∈ ss.map Sight.item) : item = .pending ∨ ∃ bytes, item = .chunk bytes := by
    obtain ⟨s, hs, rfl⟩ := List.mem_map.mp hitem
    exact (hss s hs).item
  cases h with
  | unfinished _ hss =>
    rw [errorsOf_of_goesOn hss]
    exact ⟨ss.map Sight.item, 0, by simp, hlive hss, by simp, by simp, fun _ h ↦ absurd rfl h⟩
  | @finished ss last n _ hss hlast =>
    obtain ⟨hitem, hfailed, hcompleted, hone⟩ := hlast.item
    have herrors : errorsOf ((ss ++ last :: List.replicate n ⟨.ended, []⟩).map .sight)
        = last.failures := by
      have hrest : errorsOf ((List.replicate n (⟨.ended, []⟩ : Sight)).map .sight) = [] := by
        rw [List.map_replicate, errorsOf, List.filterMap_replicate_of_none rfl]
      have hone : errorsOf [.sight last] = last.failures := by
        rw [errorsOf, Sight.failures, List.filterMap_cons]
        cases (Event.sight last).error? <;> rfl
      rw [List.map_append, List.map_cons, ← List.singleton_append, errorsOf_append,
        errorsOf_append, errorsOf_of_goesOn hss, hone, hrest, List.nil_append, List.append_nil]
    rw [herrors]
    refine ⟨ss.map Sight.item, 1 - last.failures.length + n, ?_, hlive hss, hone, hfailed,
      fun h _ ↦ hcompleted h⟩
    rw [List.map_append, List.map_cons, List.map_replicate, ← List.singleton_append, hitem,
      ← List.replicate_append_replicate]
    simp only [List.append_assoc]

/-- No error was told of a body that may still be polled. -/
theorem Told.errorsOf_of_isOpen (h : Told l log) (ho : l.caller.isOpen = true) :
    errorsOf log = [] := by
  cases h with
  | nothing => rfl
  | refused hk =>
    rw [hk] at ho
    cases ho
  | body _ _ hss =>
    cases hss with
    | unfinished _ hss => exact errorsOf_of_goesOn hss
    | finished hclosed =>
      rw [ho] at hclosed
      cases hclosed

/-- At most the last of these polls looks at anything that says its last word. -/
private theorem Seen.looks (h : Seen l ss) :
    (ss.flatMap Sight.looks).Pairwise fun look _ ↦ look.isLast = false := by
  have hbefore {ss : List Sight} (hss : ∀ s ∈ ss, s.GoesOn) :
      ∀ look ∈ ss.flatMap Sight.looks, look.isLast = false := by
    intro look hlook
    obtain ⟨s, hs, hlook⟩ := List.mem_flatMap.mp hlook
    exact (hss s hs).2 look hlook
  cases h with
  | unfinished _ hss =>
    exact List.pairwise_of_forall_mem_list fun look hlook _ _ ↦ hbefore hss look hlook
  | @finished ss last n _ hss hlast =>
    have hrest : (List.replicate n (⟨.ended, []⟩ : Sight)).flatMap Sight.looks = [] := by
      rw [List.flatMap_eq_nil_iff]
      intro s hs
      rw [List.eq_of_mem_replicate hs]
    have hends : last.looks.Pairwise fun look _ ↦ look.isLast = false := by
      cases hlast with
      | failed _ hlooks => exact pairwise_of_dropLast hlooks
      | ended => exact List.pairwise_singleton _ _
    rw [List.flatMap_append, List.flatMap_cons, hrest, List.append_nil, List.pairwise_append]
    exact ⟨List.pairwise_of_forall_mem_list fun look hlook _ _ ↦ hbefore hss look hlook, hends,
      fun look hlook _ _ ↦ hbefore hss look hlook⟩

/-- What fits a lane was shown in order. -/
theorem Told.delivered (h : Told l log) : Delivered l log := by
  cases h with
  | nothing =>
    refine ⟨Nat.zero_le 1, ?_, fun hne ↦ absurd rfl hne, ⟨[], [], 0, rfl, ?_⟩,
      ⟨Nat.zero_le 1, ?_⟩, .nil⟩
    · intro e he
      cases he
    · simp
    · intro e he
      cases he
  | @refused e hk hf =>
    have hsame (e' : ClassifiedError) (he' : e' = e) : l.exchange.failure? = some e' := he' ▸ hf
    refine ⟨Nat.le_refl 1, ?_, fun hne ↦ absurd rfl hne, ⟨[], [], 0, rfl, ?_⟩,
      ⟨Nat.le_refl 1, fun e' he ↦ hsame e' (List.mem_singleton.mp he)⟩, .nil⟩
    · intro e' he
      cases List.mem_singleton.mp he
      exact ⟨hf, by rw [hk]; rfl, rfl⟩
    · simp
  | @body head ss hr hk hss =>
    have hresults : resultsOf (.result (.ok head) :: ss.map .sight) = [.ok head] := by simp
    have hsights : sightsOf (.result (.ok head) :: ss.map .sight) = ss := by simp
    have herrors : errorsOf (.result (.ok head) :: ss.map .sight) = errorsOf (ss.map .sight) := rfl
    obtain ⟨live, n, hitems, hlive, hone, hfailed, hend⟩ := hss.stream
    refine ⟨?_, ?_, fun _ ↦ ⟨head, by rw [hsights]⟩, ?_, herrors ▸ ⟨hone, hfailed⟩, ?_⟩
    · rw [hresults]
      exact Nat.le_refl 1
    · intro e he
      rw [hresults] at he
      cases List.mem_singleton.mp he
    · rw [hsights]
      exact ⟨live, errorsOf (ss.map .sight), n, hitems, hlive, hone, hfailed, hend⟩
    · rw [hsights]
      exact hss.looks

/-- **What the caller of a request is shown.** Let a step of a run admit a request, and let any
steps follow. What its caller is shown then was delivered in order: one result at most; an error
only if the exchange failed with it, and then no body; after a head the polls of the body, which
yield chunks, then one failure at most, which is that of the exchange, and then the end for good,
which comes without a failure only if the exchange completed; one error at most in all; and nothing
that a poll looks at is looked at after its last word. -/
theorem delivered_in_order (d : Depth) (policy : ClosingPolicy) {before after : List Step}
    {r : Request} {i : Nat}
    (hk : ((ofDepth d policy).run (before ++ [.caller (.request r)])).calls[
      ((ofDepth d policy).run before).calls.size]? = some (.admitted i)) :
    ∃ l, ((ofDepth d policy).run (before ++ .caller (.request r) :: after)).lanes[i]? = some l ∧
      Delivered l (history (fun c s ↦ c.shown i s)
        ((ofDepth d policy).run (before ++ [.caller (.request r)])) after) := by
  have hstep : (ofDepth d policy).run (before ++ [.caller (.request r)])
      = (((ofDepth d policy).run before).step (.caller (.request r))).2 := run_append _ _ _
  have hrun : (ofDepth d policy).run (before ++ .caller (.request r) :: after)
      = ((ofDepth d policy).run (before ++ [.caller (.request r)])).run after := by
    rw [hstep, run_append, run_cons]
  have hh := handedOver_run d policy (before ++ [.caller (.request r)])
  have hu := unfinished_run d policy (before ++ [.caller (.request r)])
  rw [hrun]
  rw [hstep] at hk hh hu ⊢
  obtain ⟨⟨l, hl, hwaiting⟩, -⟩ := justAdmitted_of_request (numbered_run d policy before) hk
  obtain ⟨l', hl', htold⟩ := told_run hh hu hl hwaiting after
  exact ⟨l', hl', htold.delivered⟩

/-- A body is read to its end and once more. -/
theorem delivered_in_order_to_end :
    let before : List Step := [.caller (.request ⟨"GET", "/a", []⟩)]
    let after : List Step := [.peer .next, .peer (.respondWith 0 {} [104]), .poll (.dispatch 0),
      .caller (.await 0), .caller (.read 0), .caller (.read 0), .caller (.read 0)]
    let log := history (fun c s ↦ c.shown 0 s) ((ofDepth ⟨1, by decide⟩ .accept).run before) after
    log.length = 4 ∧ errorsOf log = [] ∧
    ∃ l, ((ofDepth ⟨1, by decide⟩ .accept).run (before ++ after)).lanes[0]? = some l ∧
      Delivered l log := by
  intro before after log
  refine ⟨by decide +kernel, by decide +kernel, ?_⟩
  exact @delivered_in_order ⟨1, by decide⟩ .accept [] after ⟨"GET", "/a", []⟩ 0 rfl

end Connection

end BoundedPipelining
