import BoundedPipelining.Proofs.Connection.Draining
import BoundedPipelining.Proofs.Connection.Scope

/-!
# What a close leaves outstanding

A close does not fail the exchanges that are outstanding. It publishes the terminal error, and each
exchange settles when one of those who work on it is polled next: its close watcher and its dispatch
task fail it with the terminal error, and so does its body, unless the payload was there to its end.
Whoever comes first settles the exchange.

So an exchange that is outstanding at the close may still complete, but in one way only: before its
watcher is polled, its caller takes the body to the end of a payload that the peer had finished.
`outstanding_after_close` says so, and `outstanding_completes` that this can happen.

The argument is an inversion, `hasCompleted_step`: whatever a step is, an exchange that has
completed after it had completed before, or the step took its body to the end. The step that closes
the connection is not exempt, because a poll of a body that finds the end leaves the tracker alone.
-/

namespace BoundedPipelining

namespace Connection

variable {c c' : Connection} {i : Nat} {l l' : Lane} {b : Books} {s : Step} {e : ClassifiedError}

/-! ## Who completes an exchange -/

/-- The exchange of lane `i` has completed. -/
def HasCompleted (c : Connection) (i : Nat) : Prop :=
  ∃ l, c.lanes[i]? = some l ∧ l.exchange.progress = .completed

/-- A step of a caller takes the body of an outstanding exchange to its end: the step polls the body
of the exchange's call, the answer says that it ended, and the payload has nothing left. -/
structure TakesEnd (c : Connection) (s : Step) (i : Nat) : Prop where
  call : ∃ k, s.bodyCall? = some k ∧ c.calls[k]? = some (.admitted i)
  answer : (c.step s).1.isEnd = true
  payload : ((c.step s).2.channel.read i).1 = .ended
  outstanding : ∃ l, c.lanes[i]? = some l ∧ l.exchange.phase.isTerminal = false

private theorem LaneMove.completed_of (m : LaneMove c i l l' b)
    (h : l'.exchange.progress = .completed) : l.exchange.progress = .completed := by
  cases m with
  | head => cases h
  | draining => exact Exchange.completed_draining_iff.mp h
  | fail =>
    rw [Exchange.progress_settle] at h
    cases h
  | failure | lost | caller | watch | unwatch | giveBack => exact h

/-- No move completes an exchange. -/
theorem Move.hasCompleted_of (m : Move c c') (h : HasCompleted c' i) : HasCompleted c i := by
  cases m with
  | @lane j _ _ _ hl m =>
    obtain ⟨l', hl', hp⟩ := h
    by_cases hji : j = i
    · subst hji
      rw [lane?_put_self hl] at hl'
      cases hl'
      exact ⟨_, hl, m.completed_of hp⟩
    · exact ⟨l', (lane?_put_ne hji _ _ _).symm.trans hl', hp⟩
  | refuse | told | watches | peer | take | heed | monitor | close | leave => exact h

theorem Moves.hasCompleted_of (m : Moves c c') (h : HasCompleted c' i) : HasCompleted c i := by
  induction m with
  | refl => exact h
  | tail _ m ih => exact ih (m.hasCompleted_of h)

private theorem Admission.hasCompleted_of {r : Request} (h : Admission c r c')
    (hc : HasCompleted c' i) : HasCompleted c i := by
  rw [h.eq] at hc
  obtain ⟨l, hl, hp⟩ := hc
  rw [admitted, Array.getElem?_push] at hl
  split at hl
  · cases hl
    rw [newLane] at hp
    split at hp <;> cases hp
  · exact ⟨l, hl, hp⟩

private theorem Completion.hasCompleted_of {j : Nat} (h : Completion c j c') (hji : j ≠ i)
    (hc : HasCompleted c' i) : HasCompleted c i := by
  cases h
  obtain ⟨l, hl, hp⟩ := hc
  exact ⟨l, (lane?_put_ne hji _ _ _).symm.trans hl, hp⟩

private theorem hasCompleted_of_stopTasks (hc : HasCompleted c.stopTasks i) :
    HasCompleted c i := by
  obtain ⟨l, hl, hp⟩ := hc
  rw [stopTasks, Array.getElem?_map, Option.map_eq_some_iff] at hl
  obtain ⟨l₀, hl₀, rfl⟩ := hl
  exact ⟨l₀, hl₀, hp⟩

private theorem BodyStep.hasCompleted_of {k : Nat} {a : Answer} (h : BodyStep c k a c')
    (hc : HasCompleted c' i) :
    HasCompleted c i ∨ (c.calls[k]? = some (.admitted i) ∧ a.isEnd = true ∧
      (c'.channel.read i).1 = .ended ∧
      (∃ l, c.lanes[i]? = some l ∧ l.exchange.phase.isTerminal = false) ∧
      c'.tracker = c.tracker) := by
  rcases h with @⟨_, j, _, _, _, hk, hj, ha, m, h, m', hch, ht⟩ | ⟨m, -, m'⟩ | ⟨m, -⟩ | ⟨m, -, -⟩
  · by_cases hji : j = i
    · subst hji
      obtain ⟨l, _, hl, hout, -⟩ := h.within hj m m'
      exact Or.inr ⟨hk, ha, hch ▸ h.ended, ⟨l, hl, hout⟩, ht⟩
    · exact Or.inl (m.hasCompleted_of (h.hasCompleted_of hji (m'.hasCompleted_of hc)))
  · exact Or.inl (m.hasCompleted_of (m'.hasCompleted_of hc))
  · exact Or.inl (m.hasCompleted_of hc)
  · exact Or.inl (m.hasCompleted_of hc)

/-- An exchange that has completed after a step had completed before it, or the step took its body
to the end and left the tracker alone. -/
theorem hasCompleted_step (h : HasCompleted (c.step s).2 i) :
    HasCompleted c i ∨ TakesEnd c s i ∧ (c.step s).2.tracker = c.tracker := by
  rcases step_cases c s with ⟨-, m⟩ | ⟨hadm, m⟩ | ⟨hs, hbody⟩ | m
  · exact Or.inl (m.hasCompleted_of h)
  · exact Or.inl (hadm.hasCompleted_of (m.hasCompleted_of h))
  · rcases hbody.hasCompleted_of h with hbefore | ⟨hk, ha, hended, hout, ht⟩
    · exact Or.inl hbefore
    · exact Or.inr ⟨⟨⟨_, hs, hk⟩, ha, hended, hout⟩, ht⟩
  · exact Or.inl (hasCompleted_of_stopTasks (m.hasCompleted_of h))

private theorem not_hasCompleted (hl : c.lanes[i]? = some l)
    (hout : l.exchange.phase.isTerminal = false) : ¬ HasCompleted c i := by
  rintro ⟨l₀, hl₀, hp⟩
  cases hl.symm.trans hl₀
  rw [Exchange.phase, hp] at hout
  cases hout

/-! ## After the close -/

/-- What one step makes of an outstanding exchange, if the connection is closed after it. -/
private theorem Sound.outstanding_step (hc : Sound c) (ht : (c.step s).2.tracker = .closed e)
    (hl : c.lanes[i]? = some l) (hout : l.exchange.phase.isTerminal = false) :
    ∃ l', (c.step s).2.lanes[i]? = some l' ∧
      (l'.exchange.phase.isTerminal = false ∨ l'.exchange.progress = .failed e ∨
        l'.exchange.progress = .completed ∧ TakesEnd c s i ∧
          (c.step s).2.tracker = c.tracker) := by
  obtain ⟨l', hl', -⟩ := (frame_step c s).lane i l hl
  refine ⟨l', hl', ?_⟩
  cases hp : l'.exchange.progress with
  | dispatched | headersReceived | payloadDraining =>
    refine Or.inl ?_
    rw [Exchange.phase, hp]
    rfl
  | failed e' =>
    have hfailed := ((hc.step s).lane i l' hl').failure e' (Exchange.failure?_eq_some_iff.mpr hp)
    cases hfailed.symm.trans ht
    exact Or.inr (Or.inl rfl)
  | completed =>
    rcases hasCompleted_step ⟨l', hl', hp⟩ with hbefore | hend
    · exact absurd hbefore (not_hasCompleted hl hout)
    · exact Or.inr (Or.inr ⟨rfl, hend⟩)

/-- A watcher that is polled after the close leaves no exchange outstanding. -/
private theorem Sound.not_polls_of_outstanding (hc : Sound (c.step s).2)
    (hr : (c.step s).2.running = true) (ht : c.tracker.isClosed = true)
    (hl : (c.step s).2.lanes[i]? = some l) (hout : l.exchange.phase.isTerminal = false) :
    s.polls (.watcher i) = false := by
  by_contra hp
  have hended := isAlive_step ht (t := .watcher i) (by simp) (Bool.not_eq_false _ |>.mp hp)
  have hlane := hc.lane i l hl
  have hslot : l.exchange.phase.holdsSlot = true := by simp [Phase.holdsSlot, hout]
  have hlive := hlane.watched hr (hlane.listed hslot)
  rw [isAlive_watcher_eq_false.mp hended l hl] at hlive
  cases hlive

/-- What has settled stays as it is. -/
private theorem progress_run (hl : c.lanes[i]? = some l) (hp : l.exchange.phase.isTerminal = true)
    (steps : List Step) : ∃ l', (c.run steps).lanes[i]? = some l' ∧
      l'.exchange.progress = l.exchange.progress := by
  obtain ⟨l', hl', hframe⟩ := (frame_run c steps).lane i l hl
  exact ⟨l', hl', hframe.progress hp⟩

/-- What becomes of an exchange that is outstanding in a closed connection. -/
private theorem Sound.outstanding_run (hc : Sound c) (ht : c.tracker = .closed e)
    (hl : c.lanes[i]? = some l) (hout : l.exchange.phase.isTerminal = false) (steps : List Step) :
    ∃ l', (c.run steps).lanes[i]? = some l' ∧
      (l'.exchange.phase.isTerminal = false ∨ l'.exchange.progress = .failed e ∨
        l'.exchange.progress = .completed ∧ ∃ mid t rest, steps = mid ++ t :: rest ∧
          TakesEnd (c.run mid) t i ∧ (c.running = true → .stopTasks ∉ mid →
            ∀ x ∈ mid, x.polls (.watcher i) = false)) := by
  induction steps generalizing c l with
  | nil => exact ⟨l, hl, Or.inl hout⟩
  | cons t steps ih =>
    have hc' : Sound (c.step t).2 := hc.step t
    have ht' := (frame_step c t).tracker e ht
    obtain ⟨l₁, hl₁, hout₁ | hp | ⟨hp, hend, -⟩⟩ := hc.outstanding_step ht' hl hout
    · -- The exchange is outstanding still, so this step did not poll its watcher.
      obtain ⟨l', hl', hcase⟩ := ih hc' ht' hl₁ hout₁
      refine ⟨l', hl', hcase.imp_right (Or.imp_right (And.imp_right ?_))⟩
      rintro ⟨mid, t', rest, rfl, hend, hmid⟩
      refine ⟨t :: mid, t', rest, rfl, hend, fun hr hstop ↦ ?_⟩
      rw [List.mem_cons, not_or] at hstop
      have hr' := (running_step (Ne.symm hstop.1) c).trans hr
      rw [List.forall_mem_cons]
      exact ⟨hc'.not_polls_of_outstanding hr' (by rw [ht]; rfl) hl₁ hout₁, hmid hr' hstop.2⟩
    · obtain ⟨l', hl', hp'⟩ := progress_run hl₁ (by rw [Exchange.phase, hp]; rfl) steps
      exact ⟨l', hl', Or.inr (Or.inl (hp'.trans hp))⟩
    · obtain ⟨l', hl', hp'⟩ := progress_run hl₁ (by rw [Exchange.phase, hp]; rfl) steps
      exact ⟨l', hl', Or.inr (Or.inr ⟨hp'.trans hp, [], t, steps, rfl, hend, by simp⟩)⟩

/-- **What a close leaves outstanding.** Let an exchange be outstanding when a step closes the
connection. Whatever steps follow, it is still outstanding, or it has failed with the terminal
error, or it has completed; and it has completed only if after the close a poll of its body by its
caller found the payload at its end, while the exchange was outstanding and, as long as the tasks
are run, before its watcher was polled. -/
theorem outstanding_after_close (d : Depth) (policy : ClosingPolicy) {before after : List Step}
    {s : Step} {i : Nat} {l : Lane} {e : ClassifiedError}
    (ho : ((ofDepth d policy).run before).tracker.isClosed = false)
    (he : ((ofDepth d policy).run (before ++ [s])).tracker = .closed e)
    (hl : ((ofDepth d policy).run before).lanes[i]? = some l)
    (hout : l.exchange.phase.isTerminal = false) :
    ∃ l', ((ofDepth d policy).run (before ++ s :: after)).lanes[i]? = some l' ∧
      (l'.exchange.phase.isTerminal = false ∨ l'.exchange.progress = .failed e ∨
        l'.exchange.progress = .completed ∧ ∃ mid t rest, after = mid ++ t :: rest ∧
          TakesEnd ((ofDepth d policy).run (before ++ s :: mid)) t i ∧
          (.stopTasks ∉ before ++ mid → ∀ x ∈ mid, x.polls (.watcher i) = false)) := by
  have hc : Sound ((ofDepth d policy).run before) := sound_run d policy before
  have hclosed : (((ofDepth d policy).run before).step s).2.tracker = .closed e := by
    rwa [run_append, run_cons] at he
  rw [run_append, run_cons]
  obtain ⟨l₁, hl₁, hout₁ | hp | ⟨-, -, hsame⟩⟩ := hc.outstanding_step hclosed hl hout
  · obtain ⟨l', hl', hcase⟩ := (hc.step s).outstanding_run hclosed hl₁ hout₁ after
    refine ⟨l', hl', hcase.imp_right (Or.imp_right (And.imp_right ?_))⟩
    rintro ⟨mid, t, rest, hafter, hend, hmid⟩
    refine ⟨mid, t, rest, hafter, by rwa [run_append, run_cons], fun hstop ↦ ?_⟩
    rw [List.mem_append, not_or] at hstop
    -- The step that closed the connection is not the end of all tasks, which closes nothing.
    have hs : s ≠ .stopTasks := by
      rintro rfl
      rw [← tracker_step (s := .stopTasks) rfl, hclosed] at ho
      cases ho
    exact hmid ((running_step hs _).trans (running_run hstop.1 _)) hstop.2
  · obtain ⟨l', hl', hp'⟩ := progress_run hl₁ (by rw [Exchange.phase, hp]; rfl) after
    exact ⟨l', hl', Or.inr (Or.inl (hp'.trans hp))⟩
  · -- A step that takes a body to its end does not close the connection.
    rw [← hsame, hclosed] at ho
    cases ho

/-- Two exchanges are outstanding when the facade is dropped, and the watcher of the second is
polled. Nobody takes its body, so it has failed with the terminal error. -/
theorem outstanding_after_drop :
    let before : List Step := [.caller (.request ⟨"GET", "/a", []⟩),
      .caller (.request ⟨"GET", "/b", []⟩), .peer .next, .peer (.respondWith 0 {} [104]),
      .poll (.dispatch 0), .caller (.await 0)]
    ∃ l, ((ofDepth ⟨2, by decide⟩ .accept).run
        (before ++ .caller .drop :: [.poll (.watcher 1)])).lanes[1]? = some l ∧
      l.exchange.progress = .failed (classify false none) := by
  intro before
  have hlane : ((ofDepth ⟨2, by decide⟩ .accept).run before).lanes[1]?.map
      (fun l ↦ l.exchange.phase.isTerminal) = some false := by decide +kernel
  obtain ⟨l, hl, hout⟩ := Option.map_eq_some_iff.mp hlane
  obtain ⟨l', hl', hcase⟩ := @outstanding_after_close ⟨2, by decide⟩ .accept before
    [.poll (.watcher 1)] (.caller .drop) 1 l (classify false none) (by decide +kernel)
    (by decide +kernel) hl hout
  refine ⟨l', hl', ?_⟩
  rcases hcase with hout' | hfailed | ⟨-, mid, t, rest, hafter, hend, -⟩
  · have hsettled : ((ofDepth ⟨2, by decide⟩ .accept).run
        (before ++ .caller .drop :: [.poll (.watcher 1)])).lanes[1]?.map
          (fun l ↦ l.exchange.phase.isTerminal) = some true := by decide +kernel
    rw [hl', Option.map_some, hout'] at hsettled
    cases hsettled
  · exact hfailed
  · -- The only step that follows polls no body.
    obtain ⟨k, hk, -⟩ := hend.call
    have ht : t ∈ [Step.poll (.watcher 1)] := hafter ▸ by simp
    rw [List.mem_singleton.mp ht] at hk
    cases hk

/-- A response is there to its end when the facade is dropped, and its caller drains it after the
close: the exchange was outstanding at the close, and has completed. -/
theorem outstanding_completes :
    let before : List Step := [.caller (.request ⟨"GET", "/a", []⟩), .peer .next,
      .peer (.respondWith 0 {} [104]), .poll (.dispatch 0), .caller (.await 0)]
    let c := (ofDepth ⟨1, by decide⟩ .accept).run before
    let c₁ := (ofDepth ⟨1, by decide⟩ .accept).run (before ++ [.caller .drop])
    let c₂ := (ofDepth ⟨1, by decide⟩ .accept).run (before ++ .caller .drop :: [.caller (.drain 0)])
    c.tracker = .opened ∧ c₁.tracker = .closed (classify false none) ∧
    c₁.lanes[0]?.map (fun l ↦ l.exchange.progress) = some .headersReceived ∧
    c₂.lanes[0]?.map (fun l ↦ l.exchange.progress) = some .completed := by
  decide +kernel

end Connection

end BoundedPipelining
