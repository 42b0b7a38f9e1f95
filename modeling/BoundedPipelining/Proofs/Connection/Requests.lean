import BoundedPipelining.Proofs.Connection.Frames
import BoundedPipelining.Proofs.Connection.Scope

/-!
# The decision on a request

A request is decided by the call that issues it, and the decision is the whole of what the call
does. A request that is turned away leaves a refusal for its caller, a mark of its reason, and
nothing else; an admitted one is written, takes a slot and gets the next number, and nothing else
happens in that step.

`request_decided` says so for every reachable state, and draws the conclusion for the whole run:
what was written are the requests that were admitted, in the order of their admission, and their
exchanges are numbered from one on without a gap.

## What is cleared up after a step

Once the tasks have been stopped, every step ends by giving back the slots of exchanges that nobody
holds. To know the state after a request exactly one has to know that there is nothing to give back
then: the step before has done it, and a request lets go of nothing.
-/

namespace BoundedPipelining

/-- What a ledger says about everything but rejections. -/
def Ledger.withoutRejections (m : Ledger) : Ledger :=
  { m with rejectedLimit := 0, rejectedClosing := 0, rejectedClosed := 0 }

/-- The lane of a call that was admitted. -/
def Call.lane? : Call → Option Nat
  | .admitted i => some i
  | .refused _ | .over => none

namespace Connection

variable {c c' : Connection} {r : Request} {s : Step}

/-! ## The policy -/

theorem Change.policy_eq (h : Change c c') : c'.policy = c.policy := by
  rcases h with m | h | h | h
  · cases m <;> rfl
  · rw [h.eq, admitted]
  · cases h
    rfl
  · rw [h]
    rfl

theorem Changes.policy_eq (h : Changes c c') : c'.policy = c.policy :=
  h.keeps (P := fun x ↦ x.policy = c.policy) (fun _ _ h hx ↦ h.policy_eq.trans hx) rfl

/-! ## Writes, lanes and calls -/

theorem Move.requests_eq (m : Move c c') : c'.channel.requests = c.channel.requests := by
  cases m with
  | peer s => exact Channel.requests_peerStep _ s
  | take => exact Channel.requests_read _ _
  | refuse | told | watches | heed | monitor | close | leave | lane => rfl

theorem Moves.requests_eq (m : Moves c c') : c'.channel.requests = c.channel.requests :=
  m.keeps (P := fun x ↦ x.channel.requests = c.channel.requests)
    (fun _ _ m h ↦ m.requests_eq.trans h) rfl

theorem Completion.requests_eq {i : Nat} (h : Completion c i c') :
    c'.channel.requests = c.channel.requests := by
  rw [h.channel]

private theorem BodyStep.requests_eq {k : Nat} {a : Answer} (h : BodyStep c k a c') :
    c'.channel.requests = c.channel.requests :=
  h.keeps (P := fun x ↦ x.channel.requests = c.channel.requests)
    (fun _ _ m h ↦ m.requests_eq.trans h) (fun _ _ _ hc h ↦ hc.requests_eq.trans h) rfl

/-- Every write is that of one lane, and the lanes are those of the admitted calls, in the order in
which the calls were issued. -/
structure Numbered (c : Connection) : Prop where
  writes : c.channel.requests.size = c.lanes.size
  calls : c.calls.toList.filterMap Call.lane? = List.range c.lanes.size

theorem numbered_ofDepth (d : Depth) (policy : ClosingPolicy) : Numbered (ofDepth d policy) :=
  ⟨by simp [ofDepth], rfl⟩

/-- A change that neither writes nor adds a lane keeps the numbering if it keeps the lanes of the
calls. -/
private theorem Numbered.congr (hc : Numbered c)
    (hrequests : c'.channel.requests = c.channel.requests) (hsize : c'.lanes.size = c.lanes.size)
    (hcalls : c'.calls.toList.filterMap Call.lane? = c.calls.toList.filterMap Call.lane?) :
    Numbered c' where
  writes := by rw [hrequests, hsize, hc.writes]
  calls := by rw [hcalls, hsize, hc.calls]

/-- A refusal has no lane, whether it was told or not. -/
private theorem filterMap_lane?_told {k : Nat} {e : ConnectionError}
    (h : c.calls[k]? = some (.refused e)) :
    (c.calls.set! k .over).toList.filterMap Call.lane? = c.calls.toList.filterMap Call.lane? := by
  have hmap : (c.calls.set! k .over).map Call.lane? = c.calls.map Call.lane? := by
    refine Array.ext_getElem? fun j ↦ ?_
    rw [Array.getElem?_map, Array.getElem?_map, Array.set!_eq_setIfInBounds,
      Array.getElem?_setIfInBounds]
    split
    · rename_i hkj
      rw [← hkj, h, if_pos (Array.getElem?_eq_some_iff.mp h).1]
      rfl
    · rfl
  have hlanes (calls : Array Call) :
      calls.toList.filterMap Call.lane? = (calls.map Call.lane?).toList.filterMap id := by
    rw [Array.toList_map, List.filterMap_map, Function.id_comp]
  rw [hlanes, hmap, ← hlanes]

private theorem Numbered.move (hc : Numbered c) (m : Move c c') : Numbered c' := by
  have hrequests := m.requests_eq
  cases m with
  | refuse =>
    refine hc.congr hrequests rfl ?_
    simp [turnAway, mark, Call.lane?]
  | told h => exact hc.congr hrequests rfl (filterMap_lane?_told h)
  | lane => exact hc.congr hrequests (size_lanes_put _ _ _ _) rfl
  | watches | peer | take | heed | monitor | close | leave => exact hc.congr hrequests rfl rfl

private theorem Numbered.admitted (hc : Numbered c) (r : Request) : Numbered (c.admitted r) where
  writes := by
    simp only [Connection.admitted, Channel.requests_write, Array.size_push, hc.writes]
  calls := by
    simp only [Connection.admitted, Array.toList_push, Array.size_push, List.filterMap_append,
      hc.calls, List.range_succ]
    rfl

theorem Numbered.change (hc : Numbered c) (h : Change c c') : Numbered c' := by
  rcases h with m | h | h | h
  · exact hc.move m
  · exact h.eq ▸ hc.admitted _
  · have hrequests := h.requests_eq
    cases h
    exact hc.congr hrequests (size_lanes_put _ _ _ _) rfl
  · rw [h]
    exact hc.congr rfl Array.size_map rfl

theorem numbered_run (d : Depth) (policy : ClosingPolicy) (steps : List Step) :
    Numbered ((ofDepth d policy).run steps) :=
  (run_changes _ steps).keeps (fun _ _ h hc ↦ hc.change h) (numbered_ofDepth d policy)

/-- The exchanges are numbered from one on, in the order of their lanes. -/
theorem Sound.numbers_eq (hc : Sound c) :
    c.lanes.toList.map (fun l ↦ l.exchange.id.number) = List.range' 1 c.lanes.size := by
  refine List.ext_getElem (by simp) fun i hi hi' ↦ ?_
  rw [List.length_map, Array.length_toList] at hi
  have hid := (hc.lane i _ (Array.getElem?_eq_getElem hi)).id
  rw [List.getElem_map, Array.getElem_toList, hid, List.getElem_range', Nat.one_mul, Nat.add_comm]

/-! ## Nothing is left to reclaim -/

/-- A lane after the slot of its exchange went back, if nobody holds the exchange. -/
def letGo (registryHeld : Bool) (l : Lane) : Lane :=
  if isHeld registryHeld l then l
  else { l with exchange := { l.exchange with ticket := false } }

private theorem letGo_letGo (held : Bool) (l : Lane) :
    letGo held (letGo held l) = letGo held l := by
  by_cases h : isHeld held l = true
  · rw [letGo, letGo, if_pos h, if_pos h]
  · rw [letGo, letGo, if_neg h]
    exact if_neg h

private theorem isLive_letGo (held : Bool) (l : Lane) :
    (letGo held l).watcher.isLive = l.watcher.isLive := by
  rw [letGo]
  split <;> rfl

private theorem giveBack_fst (x : Exchange) (b : Books) :
    (x.giveBack b).1 = { x with ticket := false } := by
  obtain ⟨_, _, ticket, _⟩ := x
  cases ticket <;> rfl

private theorem lanes_reclaimAt (held : Bool) (c : Connection) (i : Nat) :
    (reclaimAt held c i).lanes = c.lanes.modify i (letGo held) := by
  rw [reclaimAt]
  split
  · rename_i h
    exact congrArg Connection.lanes (onLane_of_none h (letGo held)).symm
  · rename_i l h
    refine Eq.trans ?_ (congrArg Connection.lanes (onLane_eq_put h (letGo held)).symm)
    by_cases hl : isHeld held l = true
    · rw [if_pos hl, letGo, if_pos hl, put_self h]
    · rw [if_neg hl, letGo, if_neg hl]
      simp only [putExchange_eq_put h, giveBack_fst]
      rfl

private theorem lane?_reclaimAll (held : Bool) (is : List Nat) (c : Connection) (j : Nat) :
    (is.foldl (reclaimAt held) c).lanes[j]?
      = (c.lanes[j]?).map fun l ↦ if j ∈ is then letGo held l else l := by
  induction is generalizing c with
  | nil => simp
  | cons i is ih =>
    rw [List.foldl_cons, ih, lanes_reclaimAt, Array.getElem?_modify]
    by_cases hij : i = j
    · subst hij
      rw [if_pos rfl, Option.map_map]
      refine congrArg (fun f ↦ Option.map f c.lanes[i]?) (funext fun l ↦ ?_)
      rw [Function.comp_apply, if_pos List.mem_cons_self]
      -- A slot that went back already does not go back again.
      split
      · exact letGo_letGo held l
      · rfl
    · rw [if_neg hij]
      simp only [List.mem_cons, Ne.symm hij, false_or]

theorem lanes_reclaim (hr : c.running = false) :
    c.reclaim.lanes = c.lanes.map (letGo c.isRegistryHeld) := by
  rw [reclaim, if_neg (by rw [hr]; exact Bool.false_ne_true)]
  refine Array.ext_getElem? fun i ↦ ?_
  rw [lane?_reclaimAll, Array.getElem?_map]
  cases hl : c.lanes[i]? with
  | none => rfl
  | some l =>
    have hi := List.mem_range.mpr (Array.getElem?_eq_some_iff.mp hl).1
    rw [Option.map_some, Option.map_some, if_pos hi]

/-- There is no slot to give back: the tasks are run, or somebody holds each exchange that still has
its ticket. -/
def Reclaimed (c : Connection) : Prop :=
  c.running = false → ∀ l ∈ c.lanes, letGo c.isRegistryHeld l = l

theorem Reclaimed.reclaim_eq (hc : Reclaimed c) : c.reclaim = c := by
  rw [reclaim]
  split
  · rfl
  · rename_i hr
    have hat (i : Nat) : reclaimAt c.isRegistryHeld c i = c := by
      rw [reclaimAt]
      split
      · rfl
      · rename_i l h
        split
        · rfl
        · rename_i hl
          have hself := hc (Bool.not_eq_true _ |>.mp hr) l (Array.mem_of_getElem? h)
          rw [letGo, if_neg hl] at hself
          have hticket : l.exchange.ticket = false := by rw [← hself]
          rw [Exchange.giveBack, if_neg (by rw [hticket]; exact Bool.false_ne_true)]
          exact (putExchange_eq_put h _ _).trans (put_exchange_self h)
    induction List.range c.lanes.size with
    | nil => rfl
    | cons i is ih => rw [List.foldl_cons, hat, ih]

theorem reclaimed_reclaim (c : Connection) : Reclaimed c.reclaim := by
  intro hr l hl
  obtain ⟨lanes, books, heq⟩ := reclaim_eq c
  have hrunning : c.running = false := by rw [heq] at hr; exact hr
  have hfacade : c.reclaim.facade = c.facade := by rw [heq]
  rw [lanes_reclaim hrunning] at hl
  obtain ⟨l₀, -, rfl⟩ := Array.mem_map.mp hl
  -- Giving slots back changes no watcher, so the registry is held as before.
  have hheld : c.reclaim.isRegistryHeld = c.isRegistryHeld := by
    rw [isRegistryHeld, isRegistryHeld, hfacade, lanes_reclaim hrunning, Array.any_map]
    simp only [Function.comp_def, isLive_letGo]
  rw [hheld, letGo_letGo]

theorem reclaimed_run (d : Depth) (policy : ClosingPolicy) (steps : List Step) :
    Reclaimed ((ofDepth d policy).run steps) := by
  have h (c : Connection) (hc : Reclaimed c) : Reclaimed (c.run steps) := by
    induction steps generalizing c with
    | nil => exact hc
    | cons s steps ih => exact ih _ (reclaimed_reclaim _)
  exact h _ fun hr ↦ by cases hr

/-- A request that is turned away holds nothing, so nothing is let go of. -/
private theorem Reclaimed.turnedAway (hc : Reclaimed c) (why : Rejection) (e : ConnectionError) :
    Reclaimed ((c.mark (.rejected why)).turnAway e).2 := hc

/-- A new exchange is held by its caller, and the facade holds all the others as before. -/
private theorem Reclaimed.admitted (hc : Reclaimed c) (hf : c.facade = true) (r : Request) :
    Reclaimed (c.admitted r) := by
  have hheld : c.isRegistryHeld = true := by rw [isRegistryHeld, hf, Bool.true_or]
  have hheld' : (c.admitted r).isRegistryHeld = true := by
    rw [isRegistryHeld, show (c.admitted r).facade = true from hf, Bool.true_or]
  intro hr l hl
  rw [hheld']
  rcases Array.mem_push.mp hl with hold | rfl
  · exact hheld ▸ hc hr l hold
  · have hcaller : (c.newLane c.sequence.next.1).caller = .waiting := by
      rw [newLane]
      split <;> rfl
    rw [letGo, if_pos (by simp [isHeld, hcaller, Caller.isHolding])]

/-! ## The decision -/

/-- A request is turned away: its caller is left the refusal, and its reason is counted. Nothing
else happens, and whenever the future is polled first, it is ready with the error. -/
structure TurnsAway (c : Connection) (r : Request) (why : Rejection) (e : ConnectionError) :
    Prop where
  step : c.step (.caller (.request r)) = (.call c.calls.size,
    { c with calls := c.calls.push (.refused e), books := c.books.mark (.rejected why) })
  counted : ∀ why', (c.books.mark (.rejected why)).ledger.rejected why'
    = c.books.ledger.rejected why' + if why' = why then 1 else 0
  uncounted : (c.books.mark (.rejected why)).ledger.withoutRejections
    = c.books.ledger.withoutRejections
  ready : ∀ later : List Step, .caller (.await c.calls.size) ∉ later →
    .caller (.dropResponse c.calls.size) ∉ later →
    (((c.step (.caller (.request r))).2.run later).step (.caller (.await c.calls.size))).1
      = .failed e

/-- A request is admitted: it is written, once and last, it takes one slot, and its exchange gets
the number after those of all writes before. -/
structure Admits (c : Connection) (r : Request) : Prop where
  step : c.step (.caller (.request r)) = (.call c.calls.size, c.admitted r)
  write : (c.admitted r).channel.requests = c.channel.requests.push r
  slot : (c.admitted r).inFlight = c.inFlight + 1
  lane : ∃ l, (c.admitted r).lanes = c.lanes.push l ∧ l.exchange.id = ⟨c.channel.writes.size + 1⟩ ∧
    l.exchange.progress = .dispatched ∧ l.registered = true
  call : (c.admitted r).calls = c.calls.push (.admitted c.lanes.size)

private theorem step_request {a : Answer} (hf : c.facade = true)
    (h : c.request r = (a, c')) (hc : Reclaimed c') :
    c.step (.caller (.request r)) = (a, c') := by
  have hact : c.act (.caller (.request r)) = (a, c') := by
    rw [act, callerStep, asFacade, if_pos hf, h]
  simp only [step, hact, hc.reclaim_eq]

private theorem await_of_refused {k : Nat} {e : ConnectionError}
    (h : c.calls[k]? = some (.refused e)) : (c.step (.caller (.await k))).1 = .failed e := by
  change (c.await k).1 = .failed e
  simp only [await, h]

theorem turnsAway_of_request {why : Rejection} {e : ConnectionError} (hc : Reclaimed c)
    (hf : c.facade = true) (h : c.request r = (c.mark (.rejected why)).turnAway e) :
    TurnsAway c r why e := by
  have hstep := step_request hf h (hc.turnedAway why e)
  refine ⟨hstep, fun why' ↦ ?_, ?_, fun later ha hd ↦ ?_⟩
  · cases why <;> cases why' <;> rfl
  · cases why <;> rfl
  · rw [hstep]
    exact await_of_refused (refused_run (c := ((c.mark (.rejected why)).turnAway e).2)
      Array.getElem?_push_size ha hd)

private theorem admits_of_request (hc : Sound c) (hn : Numbered c) (hr : Reclaimed c)
    (hf : c.facade = true) (hroom : c.inFlight < c.books.limiter.max.val)
    (h : c.request r = (.call c.calls.size, c.admitted r)) : Admits c r where
  step := step_request hf h (hr.admitted hf r)
  write := Channel.requests_write c.channel r
  slot := by
    rw [inFlight, admitted, Books.takeSlot_of_lt hroom]
    rfl
  lane := by
    refine ⟨_, rfl, ?_, ?_, ?_⟩
    · have hid : (c.newLane c.sequence.next.1).exchange.id = c.sequence.next.1 := by
        rw [newLane]
        split <;> rfl
      rw [hid, ExchangeSequence.next, hc.drawn, ← hn.writes, Channel.size_requests]
    · rw [newLane]
      split <;> rfl
    · rw [newLane]
      split <;> rfl
  call := rfl

/-! ## The requests that a run admits -/

/-- The request that a step admits: the call it issues is an admitted one. -/
def admittedBy? (c : Connection) : Step → Option Request
  | .caller (.request r) =>
    ((c.step (.caller (.request r))).2.calls[c.calls.size]?.bind Call.lane?).map fun _ ↦ r
  | _ => none

/-- The requests that a run admits, in order. -/
def admissions (c : Connection) : List Step → List Request
  | [] => []
  | s :: steps => (c.admittedBy? s).toList ++ admissions (c.step s).2 steps

private theorem admittedBy?_of_ne (hs : ∀ r, s ≠ .caller (.request r)) :
    c.admittedBy? s = none := by
  rw [admittedBy?]
  exact hs

/-- Only a request writes. -/
private theorem requests_step_of_ne (hs : ∀ r, s ≠ .caller (.request r)) (c : Connection) :
    (c.step s).2.channel.requests = c.channel.requests := by
  have hstep := step_cases c s
  generalize (c.step s).1 = a at hstep
  generalize (c.step s).2 = c' at hstep ⊢
  rcases hstep with ⟨-, m⟩ | - | ⟨-, h⟩ | m
  · exact m.requests_eq
  · exact absurd rfl (hs _)
  · exact h.requests_eq
  · exact m.requests_eq

/-- A step writes the request that it admits, and nothing else. -/
theorem requests_step (c : Connection) (s : Step) :
    (c.step s).2.channel.requests.toList
      = c.channel.requests.toList ++ (c.admittedBy? s).toList := by
  by_cases hs : ∀ r, s ≠ .caller (.request r)
  · rw [requests_step_of_ne hs, admittedBy?_of_ne hs, Option.toList_none, List.append_nil]
  obtain ⟨r, rfl⟩ : ∃ r, s = .caller (.request r) := by
    by_contra hnone
    exact hs fun r h ↦ hnone ⟨r, h⟩
  have hcalls : (c.step (.caller (.request r))).2.calls = (c.asFacade (c.request r)).2.calls :=
    Internal.calls (internal_reclaim (c.asFacade (c.request r)).2 : Internal Nobody _ _)
  have hchannel : (c.step (.caller (.request r))).2.channel
      = (c.asFacade (c.request r)).2.channel := channel_reclaim _
  rw [admittedBy?, hcalls, hchannel]
  by_cases hf : c.facade = true
  · rw [asFacade, if_pos hf]
    rcases request_cases hf r with ⟨why, e, -, heq⟩ | hadm
    · rw [heq]
      simp [turnAway, mark, Call.lane?]
    · simp [hadm.eq, admitted, Call.lane?]
  · rw [asFacade, if_neg hf]
    simp

theorem requests_run (c : Connection) (steps : List Step) :
    (c.run steps).channel.requests.toList
      = c.channel.requests.toList ++ c.admissions steps := by
  induction steps generalizing c with
  | nil => exact (List.append_nil _).symm
  | cons s steps ih =>
    rw [admissions, ← List.append_assoc, ← requests_step]
    exact ih _

/-! ## Every request and every run -/

/-- **The decision on a request.** In every reachable state whose facade is held, the call that
issues a request decides it: a closed connection turns it away with the terminal error, a closing
one that rejects turns it away with a graceful error that has no cause, a full gate turns it away,
and otherwise it is admitted. So what was written are the requests that the run admitted, in that
order; the admitted calls have the lanes from zero on, and their exchanges the numbers from one on,
one for each write. -/
theorem request_decided (d : Depth) (policy : ClosingPolicy) (steps : List Step) :
    let c := (ofDepth d policy).run steps
    (c.facade = true → ∀ r,
      (∀ e, c.tracker = .closed e → TurnsAway c r .closed (.closed e)) ∧
      (c.tracker = .closing → policy = .reject →
        TurnsAway c r .closing (.closed (classify true none))) ∧
      (c.tracker.isClosed = false → ¬ (policy = .reject ∧ c.tracker = .closing) →
        (c.inFlight = d.val → TurnsAway c r .limitExceeded (.limitExceeded ⟨d.val⟩)) ∧
        (c.inFlight ≠ d.val → Admits c r))) ∧
    c.channel.requests.toList = (ofDepth d policy).admissions steps ∧
    c.calls.toList.filterMap Call.lane? = List.range c.channel.writes.size ∧
    c.lanes.toList.map (fun l ↦ l.exchange.id.number) = List.range' 1 c.channel.writes.size := by
  intro c
  have hc : Sound c := sound_run d policy steps
  have hn : Numbered c := numbered_run d policy steps
  have hr : Reclaimed c := reclaimed_run d policy steps
  have hpolicy : c.policy = policy := (run_changes _ steps).policy_eq
  have hmax : c.books.limiter.max = d := (frame_run _ steps).gate.max
  have hwrites : c.channel.writes.size = c.lanes.size := by
    rw [← hn.writes, Channel.size_requests]
  refine ⟨fun hf r ↦ ⟨fun e ht ↦ ?_, fun ht hp ↦ ?_, fun ho hp ↦ ⟨fun hfull ↦ ?_, fun hroom ↦ ?_⟩⟩,
    ?_, ?_, ?_⟩
  · exact turnsAway_of_request hr hf (request_of_closed ht r)
  · exact turnsAway_of_request hr hf (request_of_closing (hpolicy.trans hp) ht r)
  · rw [← hpolicy] at hp
    rw [← hmax] at hfull ⊢
    exact turnsAway_of_request hr hf (request_of_full ho hp (Nat.le_of_eq hfull.symm))
  · rw [← hpolicy] at hp
    rw [← hmax] at hroom
    have hlt := Nat.lt_of_le_of_ne hc.room hroom
    exact admits_of_request hc hn hr hf hlt (request_of_room ho hp hlt)
  · have hfresh : (ofDepth d policy).channel.requests.toList = [] := by
      simp [ofDepth, Channel.requests]
    exact (requests_run (ofDepth d policy) steps).trans (by rw [hfresh, List.nil_append])
  · rw [hn.calls, hwrites]
  · rw [hc.numbers_eq, hwrites]

/-- The only slot is taken, so the second request is turned away unwritten, and so is a third. -/
theorem request_decided_full :
    let c := (ofDepth ⟨1, by decide⟩ .reject).run
      [.caller (.request ⟨"GET", "/a", []⟩), .caller (.request ⟨"GET", "/b", []⟩)]
    c.facade = true ∧ c.inFlight = 1 ∧
    TurnsAway c ⟨"GET", "/c", []⟩ .limitExceeded (.limitExceeded ⟨1⟩) ∧
    c.channel.requests.toList = [⟨"GET", "/a", []⟩] := by
  intro c
  obtain ⟨hdecided, hwritten, -, -⟩ := request_decided ⟨1, by decide⟩ .reject
    [.caller (.request ⟨"GET", "/a", []⟩), .caller (.request ⟨"GET", "/b", []⟩)]
  have hf : c.facade = true := by decide +kernel
  have hfull : c.inFlight = 1 := by decide +kernel
  obtain ⟨-, -, hgate⟩ := hdecided hf ⟨"GET", "/c", []⟩
  obtain ⟨hturned, -⟩ := hgate (by decide +kernel) (by decide +kernel)
  exact ⟨hf, hfull, hturned hfull, hwritten.trans (by decide +kernel)⟩

end Connection

end BoundedPipelining
