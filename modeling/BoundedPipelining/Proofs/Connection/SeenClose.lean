import BoundedPipelining.Proofs.Connection.Announcements
import BoundedPipelining.Proofs.Connection.Requests

/-!
# A close that a caller has seen

An announcement of the peer may be overtaken by a close as long as nobody has looked at it. A head
that asks for a close is different: it travels through the dispatch task, which heeds it in the poll
that hands it over. So once a caller holds such a head there is nothing left to overtake, whether or
not the monitor was ever polled.

`Heeding` carries the argument. It speaks of every head that was handed over, not only of those that
a caller has already taken, because any number of steps may lie between the two. It lasts because a
tracker never becomes open again.
-/

namespace BoundedPipelining

theorem Tracker.markClosing_ne_opened (t : Tracker) : t.markClosing ≠ .opened := by
  cases t <;> simp [markClosing]

/-- A tracker that has left its first state and is not closed has heeded an announcement. -/
theorem Tracker.eq_closing {t : Tracker} (h : t ≠ .opened) (ho : t.isClosed = false) :
    t = .closing := by
  cases t with
  | opened => exact absurd rfl h
  | closing => rfl
  | closed e => cases ho

namespace Connection

variable {c c' : Connection} {i : Nat} {l l' : Lane} {b : Books}

/-! ## No way back -/

theorem Change.ne_opened (h : Change c c') (hc : c.tracker ≠ .opened) : c'.tracker ≠ .opened := by
  rcases h with m | h | h | h
  · cases m with
    | heed => exact c.tracker.markClosing_ne_opened
    | close =>
      rw [tracker_close]
      simp
    | refuse | told | watches | peer | take | monitor | leave | lane => exact hc
  · rw [h.eq]
    exact hc
  · rw [h.tracker]
    exact hc
  · rw [h]
    exact hc

theorem Changes.ne_opened (h : Changes c c') (hc : c.tracker ≠ .opened) : c'.tracker ≠ .opened :=
  h.keeps (P := fun x ↦ x.tracker ≠ .opened) (fun _ _ h ↦ h.ne_opened) hc

/-! ## Heads that were handed over -/

/-- Every head that was handed over and asks for a close has been heeded. -/
def Heeding (c : Connection) : Prop :=
  ∀ (i : Nat) (l : Lane) (head : Head), c.lanes[i]? = some l → l.reply = .sent (.ok head) →
    head.wantsClose = true → c.tracker ≠ .opened

theorem heeding_ofDepth (d : Depth) (policy : ClosingPolicy) : Heeding (ofDepth d policy) := by
  intro i l head h
  simp [ofDepth] at h

/-- A head that a lane has after a move was handed over before, or the move hands it over. -/
private theorem LaneMove.handed (m : LaneMove c i l l' b) {head : Head}
    (h : l'.reply = .sent (.ok head)) (hw : head.wantsClose = true) :
    l.reply = .sent (.ok head) ∨ c.tracker ≠ .opened := by
  cases m with
  | head _ _ _ heeded =>
    cases h
    exact Or.inr (heeded hw)
  | failure | lost => cases h
  | draining | caller | watch | unwatch | fail | giveBack => exact Or.inl h

private theorem Heeding.put (hc : Heeding c) (h : c.lanes[i]? = some l)
    (hreply : ∀ head, l'.reply = .sent (.ok head) → head.wantsClose = true →
      l.reply = .sent (.ok head) ∨ c.tracker ≠ .opened) : Heeding (c.put i l' b) := by
  intro j l₁ head hj hr hw
  rcases lane?_put_cases h hj with ⟨rfl, rfl⟩ | ⟨-, hj⟩
  · rcases hreply head hr hw with hold | hleft
    · exact hc j l head h hold hw
    · exact hleft
  · exact hc j l₁ head hj hr hw

theorem Heeding.change (hc : Heeding c) (h : Change c c') : Heeding c' := by
  -- As long as the lanes are the same, it is enough that the tracker does not go back.
  have hsame (hlanes : c'.lanes = c.lanes) : Heeding c' := fun i l head hl hr hw ↦
    h.ne_opened (hc i l head (hlanes ▸ hl) hr hw)
  rcases h with m | h | h | h
  · cases m with
    | lane h m => exact hc.put h fun _ ↦ m.handed
    | refuse | told | watches | peer | take | heed | monitor | close | leave => exact hsame rfl
  · rw [h.eq]
    intro i l head hl hr hw
    change (c.lanes.push _)[i]? = some l at hl
    rw [Array.getElem?_push] at hl
    split at hl
    · cases hl
      rw [newLane] at hr
      split at hr <;> cases hr
    · exact hc i l head hl hr hw
  · cases h with
    | intro h _ _ _ _ => exact hc.put h fun _ hr _ ↦ Or.inl hr
  · rw [h]
    intro i l head hl hr hw
    simp only [stopTasks, Array.getElem?_map, Option.map_eq_some_iff] at hl
    obtain ⟨l₀, h₀, rfl⟩ := hl
    refine hc i l₀ head h₀ ?_ hw
    by_cases ha : l₀.reply.isAwaited = true
    · rw [if_pos ha] at hr
      cases hr
    · rwa [if_neg ha] at hr

theorem heeding_run (d : Depth) (policy : ClosingPolicy) (steps : List Step) :
    Heeding ((ofDepth d policy).run steps) :=
  (run_changes _ steps).keeps (fun _ _ h hc ↦ hc.change h) (heeding_ofDepth d policy)

/-- A response future that resolves with a head takes it from its dispatch task. -/
theorem reply_of_await {k : Nat} {head : Head}
    (h : (c.step (.caller (.await k))).1 = .head head) :
    ∃ i l, c.laneOf? k = some (i, l) ∧ l.reply = .sent (.ok head) := by
  change (c.await k).1 = .head head at h
  rw [await] at h
  split at h
  · cases h
  · split at h
    · rename_i i l hlane
      split at h
      · rw [awaitLane] at h
        split at h
        · cases h
        · rename_i head' hr
          cases h
          exact ⟨i, l, hlane, hr⟩
        · cases h
        · split at h <;> cases h
      · cases h
    · cases h

/-! ## Every run -/

/-- **A close that a caller has seen has taken effect.** When a response future resolves with a head
that asks for a close, the tracker has left its open state before. From then on, whatever steps come
and in whatever order, the connection is closing or closed; under the policy that rejects, every
request is turned away with the error of the close; and if the connection was not closed when the
head was seen, then all of these errors are those of a graceful close, whoever closes it and with
whatever cause. -/
theorem seen_close_in_effect (d : Depth) (policy : ClosingPolicy) {before : List Step} {k : Nat}
    {head : Head}
    (hseen : (((ofDepth d policy).run before).step (.caller (.await k))).1 = .head head)
    (hw : head.wantsClose = true) (later : List Step) :
    let c := (ofDepth d policy).run before
    let c' := (ofDepth d policy).run (before ++ .caller (.await k) :: later)
    c.tracker ≠ .opened ∧
    (c'.tracker = .closing ∨ ∃ e, c'.tracker = .closed e) ∧
    (c.tracker.isClosed = false →
      ∀ e, c'.tracker = .closed e → e.reason = .gracefulCloseInterrupted) ∧
    (policy = .reject → c'.facade = true → ∀ r, ∃ why e,
      TurnsAway c' r why (.closed e) ∧
      (c.tracker.isClosed = false → e.reason = .gracefulCloseInterrupted)) := by
  intro c c'
  have hchanges : Changes c c' := by
    have hrun : c' = c.run (.caller (.await k) :: later) := run_append _ _ _
    rw [hrun]
    exact run_changes c _
  obtain ⟨i, l, hlane, hreply⟩ := reply_of_await hseen
  have hleft : c.tracker ≠ .opened :=
    heeding_run d policy before i l head (laneOf?_eq_some_iff.mp hlane).2 hreply hw
  have hleft' : c'.tracker ≠ .opened := hchanges.ne_opened hleft
  have hgraceful (ho : c.tracker.isClosed = false) (e : ClassifiedError)
      (he : c'.tracker = .closed e) : e.reason = .gracefulCloseInterrupted := by
    have hheeded : c'.tracker.Heeded :=
      hchanges.heeded (by rw [Tracker.eq_closing hleft ho]; trivial)
    rwa [he] at hheeded
  refine ⟨hleft, ?_, hgraceful, fun hp hf r ↦ ?_⟩
  · cases ht : c'.tracker with
    | opened => exact absurd ht hleft'
    | closing => exact Or.inl rfl
    | closed e => exact Or.inr ⟨e, rfl⟩
  · have hr : Reclaimed c' := reclaimed_run d policy _
    have hpolicy : c'.policy = policy := (run_changes _ _).policy_eq
    cases ht : c'.tracker with
    | opened => exact absurd ht hleft'
    | closing =>
      exact ⟨.closing, _, turnsAway_of_request hr hf (request_of_closing (hpolicy.trans hp) ht r),
        fun _ ↦ rfl⟩
    | closed e =>
      exact ⟨.closed, e, turnsAway_of_request hr hf (request_of_closed ht r),
        fun ho ↦ hgraceful ho e ht⟩

/-- The monitor is never polled: the caller sees a head that asks for a close, the next request is
turned away, and a payload that fails closes the connection gracefully. -/
theorem seen_close_in_effect_of_payload :
    let before : List Step := [.caller (.request ⟨"GET", "/a", []⟩), .peer .next,
      .peer (.respond 0 { fields := [⟨"connection", [99, 108, 111, 115, 101]⟩] }),
      .poll (.dispatch 0)]
    let later : List Step := [.peer (.failPayload 0 (.protocol "bad chunk")), .caller (.read 0)]
    let c := (ofDepth ⟨2, by decide⟩ .reject).run (before ++ .caller (.await 0) :: later)
    (∃ e, c.tracker = .closed e ∧ e.reason = .gracefulCloseInterrupted) ∧
    ∃ why e, TurnsAway c ⟨"GET", "/b", []⟩ why (.closed e) ∧
      e.reason = .gracefulCloseInterrupted := by
  intro before later c
  have hseen : (((ofDepth ⟨2, by decide⟩ .reject).run before).step (.caller (.await 0))).1
      = .head { fields := [⟨"connection", [99, 108, 111, 115, 101]⟩] } := by
    with_unfolding_all rfl
  have hopen : ((ofDepth ⟨2, by decide⟩ .reject).run before).tracker.isClosed = false := by
    decide +kernel
  have hclosed : c.tracker = .closed (classify true (some (.protocol "bad chunk"))) := by
    decide +kernel
  obtain ⟨-, -, hgraceful, hrefused⟩ :=
    seen_close_in_effect ⟨2, by decide⟩ .reject hseen (by decide +kernel) later
  obtain ⟨why, e, hturned, he⟩ := hrefused rfl (by decide +kernel) ⟨"GET", "/b", []⟩
  exact ⟨⟨_, hclosed, hgraceful hopen _ hclosed⟩, why, e, hturned, he hopen⟩

end Connection

end BoundedPipelining
