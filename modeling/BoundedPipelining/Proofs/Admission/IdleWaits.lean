import BoundedPipelining.Proofs.Admission.Tickets

/-!
# Waiting for an idle gate

A wait that found its gate busy does not look again before it hears that the gate has fallen empty.
Hearing is all it does: by the time it looks, the gate may have filled up again, and then it goes on
waiting from there. So two things could go wrong. A wait could sleep through the moment at which the
gate was idle, and one could be told of an idle gate that is busy. `idle_answered` says that neither
happens: whatever else is done in between, a poll finds the gate idle exactly if no slot is taken.

## The invariant

A wait notes how often its gate has fallen empty, and then looks at the count. While that number
stands, nothing was missed (`IdleWait.Alert`): the count was positive at the look, it can get to
zero only by falling to it, and whenever it falls to zero the number goes up.
-/

namespace BoundedPipelining

namespace IdleWait

variable {l : Limiter} {w w' : IdleWait}

/-- A wait has missed nothing at its gate: if it has heard nothing since it looked, the gate is
still busy. -/
inductive Alert (l : Limiter) : IdleWait → Prop
  | fresh : Alert l .fresh
  | since {n : Nat} (past : n ≤ l.emptied) (busy : n = l.emptied → 0 < l.inFlight) :
      Alert l (.since n)

theorem look_eq_none_iff : look l = none ↔ l.inFlight = 0 := by
  rw [look]
  split
  · simp_all
  · simp_all

theorem alert_of_look (h : look l = some w) : Alert l w := by
  rw [look] at h
  split at h
  · cases h
  · rename_i hbusy
    cases h
    exact .since (Nat.le_refl _) fun _ ↦ Nat.pos_of_ne_zero hbusy

/-- A poll of a wait that has missed nothing ends it exactly if the gate is idle. -/
theorem Alert.poll_eq_none_iff (hw : w.Alert l) : w.poll l = none ↔ l.inFlight = 0 := by
  cases hw with
  | fresh => exact look_eq_none_iff
  | since past busy =>
    rw [poll]
    split
    · rename_i hn
      have := busy hn
      simp only [reduceCtorEq, false_iff]
      omega
    · exact look_eq_none_iff

theorem Alert.poll (hw : w.Alert l) (h : w.poll l = some w') : w'.Alert l := by
  cases hw with
  | fresh => exact alert_of_look h
  | since past busy =>
    rw [IdleWait.poll] at h
    split at h
    · cases h
      exact .since past busy
    · exact alert_of_look h

theorem Alert.enter (hw : w.Alert l) : w.Alert { l with inFlight := l.inFlight + 1 } := by
  cases hw with
  | fresh => exact .fresh
  | since past busy => exact .since past fun _ ↦ Nat.succ_pos _

theorem Alert.giveBack (hw : w.Alert l) : w.Alert l.giveBack := by
  cases hw with
  | fresh => exact .fresh
  | since past busy =>
    rw [Limiter.giveBack]
    split
    · -- The gate falls empty, and the number the wait has noted is behind.
      exact .since (Nat.le_succ_of_le past) fun hn ↦ by simp only at hn; omega
    · exact .since past fun _ ↦ by simp only; omega

end IdleWait

namespace Gates

variable {g g' : Gates} {s : Step} {a : Answer} {i j k t : Nat} {l : Limiter} {w : IdleWait}

/-! ## Every wait has missed nothing -/

theorem wait?_setWait (h : g.wait? k = some (i, w)) (p : Option (Nat × IdleWait)) (j : Nat) :
    (g.setWait k p).wait? j = if k = j then p else g.wait? j := by
  have hk : k < g.waits.size :=
    (Array.getElem?_eq_some_iff.mp (Option.join_eq_some_iff.mp h)).1
  rw [wait?, setWait, Array.set!_eq_setIfInBounds, Array.getElem?_setIfInBounds, if_pos hk]
  split
  · rfl
  · rfl

theorem wait?_push (g : Gates) (p : Nat × IdleWait) (j : Nat) :
    ({ g with waits := g.waits.push (some p) } : Gates).wait? j =
      if j = g.waits.size then some p else g.wait? j := by
  rw [wait?, Array.getElem?_push]
  split
  · rfl
  · rfl

/-- Every wait that is neither over nor dropped is for a gate that there is, and has missed
nothing there. -/
def Attentive (g : Gates) : Prop :=
  ∀ k i w, g.wait? k = some (i, w) → ∃ l, g.limiters[i]? = some l ∧ w.Alert l

theorem attentive_ofDepths (depths : List Depth) : Attentive (ofDepths depths) := by
  intro k i w h
  simp [ofDepths, wait?] at h

private theorem Attentive.giveUp (hg : Attentive g) (t i : Nat) : Attentive (g.giveUp t i) := by
  intro k j w hk
  obtain ⟨l, hl, hw⟩ := hg k j w hk
  rw [limiter?_giveUp, hl]
  split
  · exact ⟨_, rfl, hw.giveBack⟩
  · exact ⟨l, rfl, hw⟩

theorem Attentive.effect (hg : Attentive g) (h : Effect g s a g') : Attentive g' := by
  intro k j w hk
  cases h with
  | gone | refused => exact hg k j w hk
  | admitted hl _ =>
    obtain ⟨l', hl', hw⟩ := hg k j w hk
    rw [limiter?_admitted hl]
    split
    · rename_i hij
      cases hl.symm.trans (hij ▸ hl')
      exact ⟨_, rfl, hw.enter⟩
    · exact ⟨l', hl', hw⟩
  | released | dropped => exact hg.giveUp _ _ k j w hk
  | waiting hi =>
    rw [wait?_push] at hk
    split at hk
    · cases hk
      exact ⟨_, Array.getElem?_eq_getElem hi, .fresh⟩
    · exact hg k j w hk
  | idle h _ _ | waitDropped h =>
    rw [wait?_setWait h] at hk
    split at hk
    · cases hk
    · exact hg k j w hk
  | pending h hl hpoll =>
    rw [wait?_setWait h] at hk
    split at hk
    · cases hk
      obtain ⟨l', hl', hw⟩ := hg _ _ _ h
      cases hl.symm.trans hl'
      exact ⟨_, hl, hw.poll hpoll⟩
    · exact hg k j w hk

theorem attentive_run (depths : List Depth) (steps : List Step) :
    Attentive ((ofDepths depths).run steps) := by
  induction steps using List.reverseRecOn with
  | nil => exact attentive_ofDepths depths
  | append_singleton steps s ih =>
    rw [run_snoc]
    exact ih.effect (effect_step _ s)

/-! ## How long a wait goes on -/

/-- Whether a step ends the wait `k`: it is told that the gate is idle, or it is dropped. -/
def Step.ends (k : Nat) : Step → Answer → Bool
  | .pollIdle j, .idle | .dropIdle j, .dropped => j == k
  | _, _ => false

/-- In these steps the wait `k` was made for the gate `i`, and nothing has ended it since. -/
inductive Awaits (g : Gates) (k i : Nat) : List Step → Prop
  | made {steps : List Step} (h : ((g.run steps).step (.waitIdle i)).1 = .waiting k) :
      Awaits g k i (steps ++ [.waitIdle i])
  | kept {steps : List Step} {s : Step} (h : Awaits g k i steps)
      (hs : s.ends k ((g.run steps).step s).1 = false) : Awaits g k i (steps ++ [s])

theorem not_awaits_nil : ¬ Awaits g k i [] := by
  intro h
  generalize hnil : ([] : List Step) = steps at h
  cases h with
  | made | kept => simp at hnil

theorem awaits_snoc {steps : List Step} : Awaits g k i (steps ++ [s]) ↔
    (s = .waitIdle i ∧ ((g.run steps).step s).1 = .waiting k) ∨
    (Awaits g k i steps ∧ s.ends k ((g.run steps).step s).1 = false) := by
  constructor
  · intro h
    generalize hsnoc : steps ++ [s] = all at h
    cases h with
    | made h =>
      obtain ⟨rfl, hs⟩ := List.append_inj' hsnoc rfl
      cases hs
      exact Or.inl ⟨rfl, h⟩
    | kept h hs =>
      obtain ⟨rfl, hs'⟩ := List.append_inj' hsnoc rfl
      cases hs'
      exact Or.inr ⟨h, hs⟩
  · rintro (⟨rfl, h⟩ | ⟨h, hs⟩)
    · exact .made h
    · exact .kept h hs

/-- A wait goes on after a step exactly if the step made it, or if it went on before and the step
did not end it. -/
private theorem Effect.goesOn_iff (h : Effect g s a g') :
    (∃ w, g'.wait? k = some (i, w)) ↔
      (s = .waitIdle i ∧ a = .waiting k) ∨
      ((∃ w, g.wait? k = some (i, w)) ∧ s.ends k a = false) := by
  -- What moves no wait neither makes nor ends one.
  have hkept (hwait : g'.wait? k = g.wait? k) (hmade : ¬ (s = .waitIdle i ∧ a = .waiting k))
      (hends : s.ends k a = false) : (∃ w, g'.wait? k = some (i, w)) ↔
        (s = .waitIdle i ∧ a = .waiting k) ∨
        ((∃ w, g.wait? k = some (i, w)) ∧ s.ends k a = false) := by
    rw [hwait, or_iff_right hmade, hends, and_iff_left rfl]
  cases h with
  | gone => exact hkept rfl (by simp) (by cases s <;> rfl)
  | admitted | refused | released | dropped => exact hkept rfl (by simp) rfl
  | waiting hi =>
    rw [wait?_push]
    split
    · rename_i hk
      subst hk
      have hnew : g.wait? g.waits.size = none := by
        rw [wait?, Array.getElem?_eq_none (Nat.le_refl _)]
        rfl
      simp [hnew]
    · rename_i hk
      simp [Step.ends, Ne.symm hk]
  | idle h _ _ | waitDropped h =>
    rw [wait?_setWait h]
    split
    · rename_i hk
      simp [Step.ends, hk]
    · rename_i hk
      simp [Step.ends, hk]
  | pending h hl hpoll =>
    rw [wait?_setWait h]
    split
    · rename_i hk
      rw [← hk, h]
      simp [Step.ends]
    · simp [Step.ends]

/-- The waits that go on are those that the gates still keep. -/
theorem awaits_iff {depths : List Depth} {steps : List Step} :
    Awaits (ofDepths depths) k i steps ↔
      ∃ w, ((ofDepths depths).run steps).wait? k = some (i, w) := by
  induction steps using List.reverseRecOn with
  | nil => simp [not_awaits_nil, run, ofDepths, wait?]
  | append_singleton steps s ih =>
    rw [run_snoc, (effect_step _ s).goesOn_iff, awaits_snoc, ih]

/-! ## The answer -/

/-- **The answer to a wait.** Whatever is done with any number of gates, tickets and waits, and in
whatever order: a wait that goes on is told that its gate is idle exactly if no slot of the gate is
taken at that moment, and is left pending otherwise; and no other wait is told anything. -/
theorem idle_answered (depths : List Depth) (steps : List Step) (k : Nat) :
    let g := (ofDepths depths).run steps
    (∀ i, Awaits (ofDepths depths) k i steps → ∃ l, g.limiters[i]? = some l ∧
      (g.step (.pollIdle k)).1 = if l.inFlight = 0 then .idle else .pending) ∧
    ((∀ i, ¬ Awaits (ofDepths depths) k i steps) → (g.step (.pollIdle k)).1 = .gone) := by
  intro g
  have hg : Attentive g := attentive_run depths steps
  constructor
  · intro i hi
    obtain ⟨w, hk⟩ := awaits_iff.mp hi
    obtain ⟨l, hl, hw⟩ := hg k i w hk
    refine ⟨l, hl, ?_⟩
    have hpoll := hw.poll_eq_none_iff
    change (g.waits[k]?).join = some (i, w) at hk
    cases hw' : w.poll l with
    | none => simp only [step, hk, hl, hw', if_pos (hpoll.mp hw')]
    | some w' =>
      have hbusy : l.inFlight ≠ 0 := fun h ↦ by simp [hpoll.mpr h] at hw'
      simp only [step, hk, hl, hw', if_neg hbusy]
  · intro hnone
    have hk : (g.waits[k]?).join = none := by
      refine Option.eq_none_iff_forall_ne_some.mpr fun p hp ↦ ?_
      exact hnone p.1 (awaits_iff.mpr ⟨p.2, hp⟩)
    simp only [step, hk]

/-- The gate falls empty and fills up again before the wait looks, so the wait goes on; it is told
when the gate has fallen empty once more. -/
theorem idle_answered_after_refill :
    let g := ofDepths [⟨1, by decide⟩]
    let steps : List Step := [.enter 0, .waitIdle 0, .pollIdle 0, .drop 0, .enter 0]
    let later : List Step := steps ++ [.pollIdle 0, .drop 1]
    Awaits g 0 0 steps ∧ ((g.run steps).step (.pollIdle 0)).1 = .pending ∧
      Awaits g 0 0 later ∧ ((g.run later).step (.pollIdle 0)).1 = .idle := by
  intro g steps later
  have hsteps : Awaits g 0 0 steps := awaits_iff.mpr ⟨.since 0, by decide +kernel⟩
  have hlater : Awaits g 0 0 later := awaits_iff.mpr ⟨.since 1, by decide +kernel⟩
  obtain ⟨l, hl, hpending⟩ := (idle_answered [⟨1, by decide⟩] steps 0).1 0 hsteps
  obtain ⟨l', hl', hidle⟩ := (idle_answered [⟨1, by decide⟩] later 0).1 0 hlater
  obtain rfl : l = { max := ⟨1, by decide⟩, inFlight := 1, emptied := 1 } :=
    Option.some.inj (hl.symm.trans (by decide +kernel))
  obtain rfl : l' = { max := ⟨1, by decide⟩, inFlight := 0, emptied := 2 } :=
    Option.some.inj (hl'.symm.trans (by decide +kernel))
  exact ⟨hsteps, hpending, hlater, hidle⟩

end Gates

end BoundedPipelining
