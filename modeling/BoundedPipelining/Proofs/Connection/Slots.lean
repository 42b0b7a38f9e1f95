import BoundedPipelining.Proofs.Connection.Frames
import Mathlib.Data.List.Basic

/-!
# The slots of a connection

Two guarantees about the number of slots taken. In every state it is the number of exchanges that
have not settled, and the list of pending exchanges lists just those (`slots_accounted`). And in
every step that leaves the connection unclosed, a slot comes back only from a body that was polled
to the end of its payload (`slot_returned_by_end`).

The second is about who does *not* give a slot back. A future, a response or a body may be dropped
at any point, and so may the exchange's entry in the registry; `Move.inFlight_eq` goes through all
of them once. Two moves do give a slot back, the failure of an exchange and the loss of an exchange
that nobody holds, and the invariant rules out both while the connection is not closed.
-/

namespace BoundedPipelining

namespace Connection

variable {c c' : Connection} {i : Nat} {l : Lane} {s : Step}

/-! ## Slots and exchanges -/

/-- While the tasks are run, a ticket is held by exactly those exchanges that have not settled. -/
theorem Sound.ticket_iff (hc : Sound c) (hr : c.running = true) (hl : l ∈ c.lanes) :
    l.exchange.ticket = true ↔ l.exchange.phase.holdsSlot = true := by
  obtain ⟨i, hi, rfl⟩ := Array.mem_iff_getElem.mp hl
  have hlane := hc.lane i _ (Array.getElem?_eq_getElem hi)
  exact ⟨hlane.ticket, hlane.held hr⟩

theorem Sound.inFlight_eq (hc : Sound c) (hr : c.running = true) :
    c.inFlight = c.lanes.countP fun l ↦ l.exchange.phase.holdsSlot := by
  rw [hc.slots]
  exact Array.countP_congr fun l hl ↦ hc.ticket_iff hr hl

/-- An exchange that has not settled is registered, so the list of pending exchanges lists it. -/
theorem Sound.pendingExchanges_eq (hc : Sound c) :
    c.pendingExchanges = (c.lanes.toList.filter fun l ↦ l.exchange.phase.holdsSlot).map
      fun l ↦ ⟨l.exchange.id, l.exchange.progress⟩ := by
  rw [pendingExchanges, ← List.filterMap_eq_map, List.filterMap_filter]
  refine List.filterMap_congr fun l hl ↦ ?_
  obtain ⟨i, hi, rfl⟩ := Array.mem_iff_getElem.mp (Array.mem_toList_iff.mp hl)
  have hlane := hc.lane i _ (Array.getElem?_eq_getElem hi)
  by_cases hs : c.lanes[i].exchange.phase.holdsSlot = true
  · rw [if_pos hs, hlane.listed hs, hs]
    rfl
  · rw [if_neg hs, if_neg (by simp [hs])]

/-- The lanes are numbered in the order of admission. -/
theorem Sound.pairwise_lanes (hc : Sound c) :
    c.lanes.toList.Pairwise fun l l' ↦ l.exchange.id.number < l'.exchange.id.number := by
  refine List.pairwise_iff_getElem.mpr fun i j hi hj hij ↦ ?_
  have hid (k : Nat) (hk : k < c.lanes.size) : c.lanes[k].exchange.id = ⟨k + 1⟩ :=
    (hc.lane k _ (Array.getElem?_eq_getElem hk)).id
  rw [Array.getElem_toList, Array.getElem_toList, hid i hi, hid j hj]
  exact Nat.succ_lt_succ hij

/-- **Slot accounting.** In every reachable state the slots taken are the exchanges that have not
settled, which are the exchanges that hold a ticket, and at most as many as the gate has room for;
and just those exchanges are listed as pending, each once and in the order of their numbers. -/
theorem slots_accounted (d : Depth) (policy : ClosingPolicy) {steps : List Step}
    (hs : .stopTasks ∉ steps) :
    let c := (ofDepth d policy).run steps
    c.inFlight = c.lanes.countP (fun l ↦ !l.exchange.phase.isTerminal) ∧
    c.inFlight = c.lanes.countP (fun l ↦ l.exchange.ticket) ∧
    c.books.limiter.max = d ∧ c.inFlight ≤ c.books.limiter.max.val ∧
    c.pendingExchanges = (c.lanes.toList.filter fun l ↦ !l.exchange.phase.isTerminal).map
      (fun l ↦ ⟨l.exchange.id, l.exchange.progress⟩) ∧
    (c.pendingExchanges.map fun p ↦ p.id.number).Pairwise (· < ·) := by
  intro c
  have hc : Sound c := sound_run d policy steps
  have hr : c.running = true := running_run hs _
  refine ⟨hc.inFlight_eq hr, hc.slots, (frame_run _ steps).gate.max, hc.room,
    hc.pendingExchanges_eq, ?_⟩
  rw [hc.pendingExchanges_eq, List.map_map, List.pairwise_map]
  exact hc.pairwise_lanes.filter _

/-- The second of two exchanges is left when the first has completed. -/
theorem slots_accounted_of_two :
    let c := (ofDepth ⟨2, by decide⟩ .accept).run
      [.caller (.request ⟨"GET", "/a", []⟩), .caller (.request ⟨"GET", "/b", []⟩),
        .peer .next, .peer (.respondWith 0 {} [104]), .poll (.dispatch 0), .caller (.await 0),
        .caller (.drain 0), .poll (.watcher 0)]
    c.inFlight = 1 ∧ c.pendingExchanges = [⟨⟨2⟩, .dispatched⟩] := by
  intro c
  obtain ⟨hcount, -, -, -, hpending, -⟩ :=
    @slots_accounted ⟨2, by decide⟩ .accept [
      .caller (.request ⟨"GET", "/a", []⟩), .caller (.request ⟨"GET", "/b", []⟩),
      .peer .next, .peer (.respondWith 0 {} [104]), .poll (.dispatch 0), .caller (.await 0),
      .caller (.drain 0), .poll (.watcher 0)] (by simp)
  exact ⟨hcount.trans (by decide +kernel), hpending.trans (by decide +kernel)⟩

/-! ## Who gives a slot back -/

/-- No move changes the number of slots taken, unless it finds or leaves the connection closed. -/
theorem Move.inFlight_eq (hc : Sound c) (m : Move c c') (ho : c'.tracker.isClosed = false) :
    c'.inFlight = c.inFlight := by
  have hopen := m.frame.isClosed_of ho
  cases m with
  | lane h m =>
    cases m with
    | fail ht =>
      rw [ht] at hopen
      cases hopen
    | giveBack _ hh ht =>
      -- An exchange with a ticket is registered, and the facade holds the registry.
      exfalso
      have hlane := hc.lane _ _ h
      rcases hh with hf | hreg
      · rw [hc.facade hf] at hopen
        cases hopen
      · rw [hlane.listed (hlane.ticket ht)] at hreg
        cases hreg
    | head | failure | lost | draining | caller | watch | unwatch => rfl
  | refuse | told | watches | peer | take | heed | monitor | close | leave => rfl

theorem Moves.inFlight_eq (hc : Sound c) (m : Moves c c') (ho : c'.tracker.isClosed = false) :
    c'.inFlight = c.inFlight := by
  induction m with
  | refl => rfl
  | tail h m ih => exact (m.inFlight_eq (hc.moves h) ho).trans (ih (m.frame.isClosed_of ho))

theorem Admission.inFlight_eq {r : Request} (h : Admission c r c') :
    c'.inFlight = c.inFlight + 1 := by
  rw [h.eq, admitted, Books.takeSlot_of_lt h.room]
  rfl

theorem Completion.inFlight_le (h : Completion c i c') :
    c'.inFlight ≤ c.inFlight ∧ c.inFlight ≤ c'.inFlight + 1 := by
  obtain ⟨-, -, -, -, -⟩ := h
  rw [inFlight, inFlight, put, Exchange.limiter_settle]
  split
  · rw [Limiter.inFlight_giveBack]
    omega
  · omega

/-- An exchange that completes in the middle of a step had not settled before the step, and has
completed after it. -/
theorem Completion.within {c₁ c₂ : Connection} (hi : i < c.lanes.size) (m : Moves c c₁)
    (h : Completion c₁ i c₂) (m' : Moves c₂ c') :
    ∃ l l', c.lanes[i]? = some l ∧ l.exchange.phase.isTerminal = false ∧
      c'.lanes[i]? = some l' ∧ l'.exchange.phase = .completed := by
  have hl : c.lanes[i]? = some c.lanes[i] := Array.getElem?_eq_getElem hi
  obtain ⟨l₁, hl₁, hframe₁⟩ := m.frame.lane i _ hl
  obtain ⟨l₂, hl₂, -, hp₂⟩ := h.lane?
  obtain ⟨l', hl', hframe'⟩ := m'.frame.lane i l₂ hl₂
  refine ⟨_, l', hl, ?_, hl', ?_⟩
  · -- A settled exchange would still be as it was when it completed.
    by_contra hterminal
    rw [Bool.not_eq_false] at hterminal
    have hsame := hframe₁.progress hterminal
    obtain ⟨hlane, -, -, hs, -⟩ := h
    rw [hl₁] at hlane
    cases hlane
    rw [Exchange.phase, hsame] at hs
    rw [Exchange.phase] at hterminal
    simp [Phase.holdsSlot, hterminal] at hs
  · rw [Exchange.phase, hframe'.progress (by rw [Exchange.phase, hp₂]; rfl), hp₂]
    rfl

theorem Completion.ended (h : Completion c i c') : (c.channel.read i).1 = .ended := by
  obtain ⟨-, -, -, -, ended⟩ := h
  exact ended

/-- What one step does to the slots, if it leaves the connection unclosed. -/
inductive SlotStep (c : Connection) (s : Step) (a : Answer) (c' : Connection) : Prop
  | kept (h : c'.inFlight = c.inFlight)
  | taken {r : Request} (hs : s = .caller (.request r)) (h : c'.inFlight = c.inFlight + 1)
  | ended {k i : Nat} {l l' : Lane} (hs : s.bodyCall? = some k)
      (hk : c.calls[k]? = some (.admitted i)) (ha : a.isEnd = true)
      (ended : (c'.channel.read i).1 = .ended)
      (hl : c.lanes[i]? = some l) (hopen : l.exchange.phase.isTerminal = false)
      (hl' : c'.lanes[i]? = some l') (hdone : l'.exchange.phase = .completed)
      (hle : c'.inFlight ≤ c.inFlight) (hge : c.inFlight ≤ c'.inFlight + 1)

private theorem BodyStep.slots {k : Nat} {a : Answer} (hc : Sound c) (hs : s.bodyCall? = some k)
    (h : BodyStep c k a c') (ho : c'.tracker.isClosed = false) : SlotStep c s a c' := by
  rcases h with ⟨hk, hi, ha, m, h, m', hch⟩ | ⟨m, -, m'⟩ | ⟨m, -⟩ | ⟨m, -, -⟩
  · have ho₂ := m'.frame.isClosed_of ho
    have heq := m.inFlight_eq hc (h.frame.isClosed_of ho₂)
    have heq' := m'.inFlight_eq ((hc.moves m).completion h) ho
    obtain ⟨hle, hge⟩ := h.inFlight_le
    obtain ⟨l, l', hl, hopen, hl', hdone⟩ := h.within hi m m'
    exact .ended hs hk ha (hch ▸ h.ended) hl hopen hl' hdone (by omega) (by omega)
  · have heq := m.inFlight_eq hc (m'.frame.isClosed_of ho)
    exact .kept ((m'.inFlight_eq (hc.moves m) ho).trans heq)
  · exact .kept (m.inFlight_eq hc ho)
  · exact .kept (m.inFlight_eq hc ho)

theorem step_slots (hc : Sound c) (s : Step) (ho : (c.step s).2.tracker.isClosed = false) :
    SlotStep c s (c.step s).1 (c.step s).2 := by
  have hstep := step_cases c s
  generalize (c.step s).1 = a at hstep ⊢
  generalize (c.step s).2 = c' at hstep ho ⊢
  rcases hstep with ⟨-, m⟩ | ⟨h, m⟩ | ⟨hs, h⟩ | m
  · exact .kept (m.inFlight_eq hc ho)
  · exact .taken rfl ((m.inFlight_eq (hc.admission h) ho).trans h.inFlight_eq)
  · exact h.slots hc hs ho
  · have hstopped : Sound c.stopTasks := hc.change (.stop rfl)
    have heq := Moves.inFlight_eq hstopped m ho
    exact .kept heq

/-- **Only a finished payload gives a slot back.** A step that leaves the connection unclosed lowers
the number of slots taken by one at most, and only if it polled a body to the end of its payload:
then the exchange, which had not settled before, has completed. A step that polls no body never
lowers the number, and one that is no request never raises it. -/
theorem slot_returned_by_end (d : Depth) (policy : ClosingPolicy) (steps : List Step) (s : Step) :
    let c := (ofDepth d policy).run steps
    let c' := (c.step s).2
    c'.tracker.isClosed = false →
      c.inFlight ≤ c'.inFlight + 1 ∧
      (c'.inFlight < c.inFlight → ∃ k i l l',
        s.bodyCall? = some k ∧ c.calls[k]? = some (.admitted i) ∧
        (c.step s).1.isEnd = true ∧ (c'.channel.read i).1 = .ended ∧
        c.lanes[i]? = some l ∧ l.exchange.phase.isTerminal = false ∧
        c'.lanes[i]? = some l' ∧ l'.exchange.phase = .completed) ∧
      (s.bodyCall? = none → c.inFlight ≤ c'.inFlight) ∧
      ((∀ r, s ≠ .caller (.request r)) → c'.inFlight ≤ c.inFlight) := by
  intro c c' ho
  have hc : Sound c := sound_run d policy steps
  rcases step_slots hc s ho with heq | ⟨rfl, heq⟩ |
    ⟨hs, hk, ha, ended, hl, hopen, hl', hdone, hle, hge⟩
  · change c'.inFlight = c.inFlight at heq
    refine ⟨by omega, fun hlt ↦ ?_, fun _ ↦ by omega, fun _ ↦ by omega⟩
    omega
  · change c'.inFlight = c.inFlight + 1 at heq
    refine ⟨by omega, fun hlt ↦ ?_, fun _ ↦ by omega, fun hne ↦ absurd rfl (hne _)⟩
    omega
  · refine ⟨hge, fun _ ↦ ⟨_, _, _, _, hs, hk, ha, ended, hl, hopen, hl', hdone⟩, fun hnone ↦ ?_,
      fun _ ↦ hle⟩
    rw [hs] at hnone
    cases hnone

/-- The drain of a body whose payload has ended gives the only slot back. -/
theorem slot_returned_by_drain :
    let c := (ofDepth ⟨1, by decide⟩ .reject).run [.caller (.request ⟨"GET", "/a", []⟩),
      .peer .next, .peer (.respondWith 0 {} [104]), .poll (.dispatch 0), .caller (.await 0)]
    let c' := (c.step (.caller (.drain 0))).2
    c'.tracker.isClosed = false ∧ c'.inFlight < c.inFlight ∧
      ∃ i l, c.calls[0]? = some (.admitted i) ∧ c'.lanes[i]? = some l ∧
        l.exchange.phase = .completed := by
  intro c c'
  have hopen : c'.tracker.isClosed = false := by decide +kernel
  obtain ⟨-, hend, -, -⟩ := slot_returned_by_end ⟨1, by decide⟩ .reject [
    .caller (.request ⟨"GET", "/a", []⟩), .peer .next, .peer (.respondWith 0 {} [104]),
    .poll (.dispatch 0), .caller (.await 0)] (.caller (.drain 0)) hopen
  have hlt : c'.inFlight < c.inFlight := by decide +kernel
  obtain ⟨k, i, -, l, hk, hcall, -, -, -, -, hl, hdone⟩ := hend hlt
  cases hk
  exact ⟨hopen, hlt, i, l, hcall, hl, hdone⟩

end Connection

end BoundedPipelining
