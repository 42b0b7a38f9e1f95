import BoundedPipelining.Admission.Gates
import Mathlib.Data.List.Induction

/-!
# The tickets of several gates

A gate keeps no more than a number. What the number counts are the tickets that the gate has issued
and that nobody has given up, and those are wherever their holders took them. A ticket knows its
issuer, so its slot goes back to the gate it was taken from, even if the ticket was released at
another gate by mistake; and a ticket that was given up names nothing any more, so the slot goes
back once.

`Effect` says all that a step can do to gates, tickets and waits. The invariant `Sound` follows from
it, and with it the account that every run keeps, `tickets_accounted`.
-/

namespace BoundedPipelining

namespace Gates

variable {g g' : Gates} {s : Step} {a : Answer} {i j k t u : Nat} {l : Limiter} {w : IdleWait}

/-! ## What a step does -/

/-- The gate that a wait is for and the state of the wait, unless it is over or dropped. -/
def wait? (g : Gates) (k : Nat) : Option (Nat × IdleWait) := (g.waits[k]?).join

/-- The gates after the gate `i`, which stood at `l`, has issued a ticket. -/
def admitted (g : Gates) (i : Nat) (l : Limiter) : Gates :=
  { g with
    limiters := g.limiters.set! i { l with inFlight := l.inFlight + 1 }
    tickets := g.tickets.push (some i)
    ledger := (g.ledger.mark .admitted).mark .slotTaken }

/-- The gates after a request was refused. -/
def refused (g : Gates) : Gates := { g with ledger := g.ledger.mark (.rejected .limitExceeded) }

/-- The gates with the wait `k` in a new state, or over. -/
def setWait (g : Gates) (k : Nat) (w : Option (Nat × IdleWait)) : Gates :=
  { g with waits := g.waits.set! k w }

/-- The step names a gate that there is not, or a ticket or a wait that is over or never was. -/
def Missing (g : Gates) : Step → Prop
  | .enter i | .waitIdle i => g.limiters[i]? = none
  | .release i t => g.issuer? t = none ∨ g.limiters[i]? = none
  | .drop t => g.issuer? t = none
  | .pollIdle k => ∀ i w, g.wait? k = some (i, w) → g.limiters[i]? = none
  | .dropIdle k => g.wait? k = none

/-- All that a step can do, with the answer it gets. -/
inductive Effect (g : Gates) : Step → Answer → Gates → Prop
  | gone {s : Step} (h : g.Missing s) : Effect g s .gone g
  | admitted {i : Nat} {l : Limiter} (h : g.limiters[i]? = some l)
      (room : l.inFlight < l.max.val) :
      Effect g (.enter i) (.ticket g.tickets.size) (g.admitted i l)
  | refused {i : Nat} {l : Limiter} (h : g.limiters[i]? = some l)
      (full : l.max.val ≤ l.inFlight) : Effect g (.enter i) (.refused ⟨l.max.val⟩) g.refused
  | released {gate t i : Nat} (h : g.issuer? t = some i) (hgate : gate < g.limiters.size) :
      Effect g (.release gate t) (if gate = i then .released else .foreignTicket) (g.giveUp t i)
  | dropped {t i : Nat} (h : g.issuer? t = some i) : Effect g (.drop t) .dropped (g.giveUp t i)
  | waiting {i : Nat} (h : i < g.limiters.size) : Effect g (.waitIdle i) (.waiting g.waits.size)
      { g with waits := g.waits.push (some (i, .fresh)) }
  | idle {k i : Nat} {w : IdleWait} {l : Limiter} (h : g.wait? k = some (i, w))
      (hl : g.limiters[i]? = some l) (hw : w.poll l = none) :
      Effect g (.pollIdle k) .idle (g.setWait k none)
  | pending {k i : Nat} {w w' : IdleWait} {l : Limiter} (h : g.wait? k = some (i, w))
      (hl : g.limiters[i]? = some l) (hw : w.poll l = some w') :
      Effect g (.pollIdle k) .pending (g.setWait k (some (i, w')))
  | waitDropped {k i : Nat} {w : IdleWait} (h : g.wait? k = some (i, w)) :
      Effect g (.dropIdle k) .dropped (g.setWait k none)

-- One equation for each kind of step, so that the lemmas below need not open `step`.

theorem step_enter (g : Gates) (gate : Nat) : g.step (.enter gate) = g.enter gate := rfl

theorem step_release (g : Gates) (gate t : Nat) : g.step (.release gate t) =
    match g.issuer? t with
    | none => (.gone, g)
    | some issuer =>
      if gate < g.limiters.size then
        (if gate = issuer then .released else .foreignTicket, g.giveUp t issuer)
      else (.gone, g) := rfl

theorem step_drop (g : Gates) (t : Nat) : g.step (.drop t) =
    match g.issuer? t with
    | none => (.gone, g)
    | some issuer => (.dropped, g.giveUp t issuer) := rfl

theorem step_waitIdle (g : Gates) (gate : Nat) : g.step (.waitIdle gate) =
    if gate < g.limiters.size then
      (.waiting g.waits.size, { g with waits := g.waits.push (some (gate, .fresh)) })
    else (.gone, g) := rfl

theorem step_pollIdle (g : Gates) (k : Nat) : g.step (.pollIdle k) =
    match (g.waits[k]?).join with
    | none => (.gone, g)
    | some (gate, w) =>
      match g.limiters[gate]? with
      | none => (.gone, g)
      | some l =>
        match w.poll l with
        | none => (.idle, { g with waits := g.waits.set! k none })
        | some w => (.pending, { g with waits := g.waits.set! k (some (gate, w)) }) := rfl

theorem step_dropIdle (g : Gates) (k : Nat) : g.step (.dropIdle k) =
    match (g.waits[k]?).join with
    | none => (.gone, g)
    | some _ => (.dropped, { g with waits := g.waits.set! k none }) := rfl

theorem step_enter_of_lt (hl : g.limiters[i]? = some l) (h : l.inFlight < l.max.val) :
    g.step (.enter i) = (.ticket g.tickets.size, g.admitted i l) := by
  have htake := Books.takeSlot_of_lt (b := ⟨l, g.ledger⟩) h
  simp only [step_enter, enter, hl, htake]
  rfl

theorem step_enter_of_le (hl : g.limiters[i]? = some l) (h : l.max.val ≤ l.inFlight) :
    g.step (.enter i) = (.refused ⟨l.max.val⟩, g.refused) := by
  have htake := Books.takeSlot_of_le (b := ⟨l, g.ledger⟩) h
  simp only [step_enter, enter, hl, htake]
  rfl

theorem step_drop_of_issuer? (h : g.issuer? t = some i) :
    g.step (.drop t) = (.dropped, g.giveUp t i) := by
  simp only [step_drop, h]

theorem step_release_of_issuer? (h : g.issuer? t = some i) {gate : Nat}
    (hgate : gate < g.limiters.size) :
    g.step (.release gate t) = (if gate = i then .released else .foreignTicket, g.giveUp t i) := by
  simp only [step_release, h, if_pos hgate]

private theorem effect_enter (g : Gates) (i : Nat) :
    g.Effect (.enter i) (g.step (.enter i)).1 (g.step (.enter i)).2 := by
  cases hl : g.limiters[i]? with
  | none =>
    simp only [step_enter, enter, hl]
    exact .gone hl
  | some l =>
    by_cases hroom : l.inFlight < l.max.val
    · rw [step_enter_of_lt hl hroom]
      exact .admitted hl hroom
    · rw [step_enter_of_le hl (Nat.le_of_not_lt hroom)]
      exact .refused hl (Nat.le_of_not_lt hroom)

private theorem effect_release (g : Gates) (gate t : Nat) :
    g.Effect (.release gate t) (g.step (.release gate t)).1 (g.step (.release gate t)).2 := by
  cases h : g.issuer? t with
  | none =>
    simp only [step_release, h]
    exact .gone (Or.inl h)
  | some i =>
    by_cases hgate : gate < g.limiters.size
    · rw [step_release_of_issuer? h hgate]
      exact .released h hgate
    · simp only [step_release, h, if_neg hgate]
      exact .gone (Or.inr (Array.getElem?_eq_none (Nat.le_of_not_lt hgate)))

private theorem effect_pollIdle (g : Gates) (k : Nat) :
    g.Effect (.pollIdle k) (g.step (.pollIdle k)).1 (g.step (.pollIdle k)).2 := by
  simp only [step_pollIdle]
  cases h : (g.waits[k]?).join with
  | none => exact .gone fun i w hw ↦ by simp [wait?, h] at hw
  | some p =>
    obtain ⟨i, w⟩ := p
    have hwait : g.wait? k = some (i, w) := h
    cases hl : g.limiters[i]? with
    | none =>
      simp only [hl]
      refine .gone fun i' w' hw ↦ ?_
      cases hwait.symm.trans hw
      exact hl
    | some l =>
      cases hw : w.poll l with
      | none =>
        simp only [hl, hw]
        exact .idle hwait hl hw
      | some w' =>
        simp only [hl, hw]
        exact .pending hwait hl hw

/-- Every step has one of these effects. -/
theorem effect_step (g : Gates) (s : Step) : g.Effect s (g.step s).1 (g.step s).2 := by
  cases s with
  | enter i => exact effect_enter g i
  | release gate t => exact effect_release g gate t
  | drop t =>
    cases h : g.issuer? t with
    | none =>
      simp only [step_drop, h]
      exact .gone h
    | some i =>
      rw [step_drop_of_issuer? h]
      exact .dropped h
  | waitIdle i =>
    simp only [step_waitIdle]
    by_cases h : i < g.limiters.size
    · simp only [if_pos h]
      exact .waiting h
    · simp only [if_neg h]
      exact .gone (Array.getElem?_eq_none (Nat.le_of_not_lt h))
  | pollIdle k => exact effect_pollIdle g k
  | dropIdle k =>
    simp only [step_dropIdle]
    cases h : (g.waits[k]?).join with
    | none => exact .gone h
    | some p => exact .waitDropped (i := p.1) (w := p.2) h

/-- A step issues a ticket, has one given up, or moves neither gates nor tickets. -/
theorem Effect.moves (h : Effect g s a g') :
    (∃ i l, s = .enter i ∧ a = .ticket g.tickets.size ∧ g.limiters[i]? = some l ∧
      l.inFlight < l.max.val ∧ g' = g.admitted i l) ∨
    (∃ t i, g.issuer? t = some i ∧ g' = g.giveUp t i) ∨
    (g'.limiters = g.limiters ∧ g'.tickets = g.tickets) := by
  cases h with
  | admitted h room => exact Or.inl ⟨_, _, rfl, rfl, h, room, rfl⟩
  | released h _ | dropped h => exact Or.inr (Or.inl ⟨_, _, h, rfl⟩)
  | gone | refused | waiting | idle | pending | waitDropped => exact Or.inr (Or.inr ⟨rfl, rfl⟩)

/-! ## Gates and tickets afterwards -/

theorem limiter?_admitted (h : g.limiters[i]? = some l) (j : Nat) :
    (g.admitted i l).limiters[j]? =
      if i = j then some { l with inFlight := l.inFlight + 1 } else g.limiters[j]? := by
  have hi : i < g.limiters.size := (Array.getElem?_eq_some_iff.mp h).1
  rw [admitted, Array.set!_eq_setIfInBounds, Array.getElem?_setIfInBounds, if_pos hi]

theorem limiter?_giveUp (g : Gates) (t i j : Nat) :
    (g.giveUp t i).limiters[j]? =
      if i = j then (g.limiters[j]?).map Limiter.giveBack else g.limiters[j]? :=
  Array.getElem?_modify

theorem issuer?_admitted (g : Gates) (i : Nat) (l : Limiter) (t : Nat) :
    (g.admitted i l).issuer? t = if t = g.tickets.size then some i else g.issuer? t := by
  rw [issuer?, admitted, Array.getElem?_push]
  split
  · rfl
  · rfl

theorem issuer?_giveUp (g : Gates) (t i u : Nat) :
    (g.giveUp t i).issuer? u = if t = u then none else g.issuer? u := by
  rw [issuer?, giveUp, Array.set!_eq_setIfInBounds, Array.getElem?_setIfInBounds]
  split
  · split <;> rfl
  · rfl

/-- The number of tickets of gate `i` that have not been given up. -/
def outstanding (g : Gates) (i : Nat) : Nat := g.tickets.count (some i)

theorem outstanding_admitted (g : Gates) (i : Nat) (l : Limiter) (j : Nat) :
    (g.admitted i l).outstanding j = g.outstanding j + if i = j then 1 else 0 := by
  rw [outstanding, admitted, Array.count_push, outstanding]
  simp

/-- A ticket that is given up was one of its issuer's. -/
theorem outstanding_giveUp (h : g.issuer? t = some i) (j : Nat) :
    (g.giveUp t i).outstanding j + (if i = j then 1 else 0) = g.outstanding j := by
  obtain ⟨ht, hissuer⟩ := Array.getElem?_eq_some_iff.mp (Option.join_eq_some_iff.mp h)
  have hcount : (g.giveUp t i).outstanding j =
      g.outstanding j - if i = j then 1 else 0 := by
    rw [outstanding, giveUp, Array.set!_eq_setIfInBounds, Array.setIfInBounds, dif_pos ht,
      Array.count_set, hissuer, outstanding]
    simp
  have hpos : i = j → 0 < g.outstanding j := by
    rintro rfl
    exact Array.count_pos_iff.mpr (hissuer ▸ Array.getElem_mem ht)
  split at hcount
  · rename_i hij
    have := hpos hij
    rw [if_pos hij]
    omega
  · rename_i hij
    rw [if_neg hij]
    omega

/-! ## What every run keeps -/

/-- The gates of these depths, whose slots are taken by the tickets they have issued. -/
structure Sound (depths : List Depth) (g : Gates) : Prop where
  max : ∀ i : Nat, (g.limiters[i]?).map Limiter.max = depths[i]?
  slots : ∀ (i : Nat) (l : Limiter), g.limiters[i]? = some l → l.inFlight = g.outstanding i
  room : ∀ (i : Nat) (l : Limiter), g.limiters[i]? = some l → l.inFlight ≤ l.max.val
  issuer : ∀ t i, g.issuer? t = some i → ∃ l, g.limiters[i]? = some l

variable {depths : List Depth}

theorem sound_ofDepths (depths : List Depth) : Sound depths (ofDepths depths) where
  max i := by simp [ofDepths, Function.comp_def]
  slots i l h := by
    obtain ⟨d, -, rfl⟩ := List.mem_map.mp (List.mem_toArray.mp (Array.mem_of_getElem? h))
    rfl
  room i l h := by
    obtain ⟨d, -, rfl⟩ := List.mem_map.mp (List.mem_toArray.mp (Array.mem_of_getElem? h))
    exact Nat.zero_le _
  issuer t i h := by simp [ofDepths, issuer?] at h

theorem Sound.admitted (hg : Sound depths g) (h : g.limiters[i]? = some l)
    (hroom : l.inFlight < l.max.val) : Sound depths (g.admitted i l) where
  max j := by
    rw [limiter?_admitted h, ← hg.max j]
    split
    · rename_i hij
      rw [← hij, h]
      rfl
    · rfl
  slots j l' hl' := by
    rw [limiter?_admitted h] at hl'
    rw [outstanding_admitted]
    split at hl'
    · rename_i hij
      subst hij
      cases hl'
      rw [if_pos rfl, ← hg.slots i l h]
    · rename_i hij
      rw [if_neg hij, Nat.add_zero]
      exact hg.slots j l' hl'
  room j l' hl' := by
    rw [limiter?_admitted h] at hl'
    split at hl'
    · cases hl'
      exact hroom
    · exact hg.room j l' hl'
  issuer t j ht := by
    rw [limiter?_admitted h]
    split
    · exact ⟨_, rfl⟩
    · rename_i hij
      rw [issuer?_admitted] at ht
      split at ht
      · cases ht
        exact absurd rfl hij
      · exact hg.issuer t j ht

theorem Sound.giveUp (hg : Sound depths g) (h : g.issuer? t = some i) :
    Sound depths (g.giveUp t i) where
  max j := by
    rw [limiter?_giveUp, ← hg.max j]
    split
    · cases g.limiters[j]? <;> simp
    · rfl
  slots j l' hl' := by
    have hcount := outstanding_giveUp h j
    rw [limiter?_giveUp] at hl'
    split at hl'
    · rename_i hij
      obtain ⟨l, hl, rfl⟩ := Option.map_eq_some_iff.mp hl'
      have hslots := hg.slots j l hl
      rw [if_pos hij] at hcount
      rw [Limiter.inFlight_giveBack]
      omega
    · rename_i hij
      rw [if_neg hij, Nat.add_zero] at hcount
      exact (hg.slots j l' hl').trans hcount.symm
  room j l' hl' := by
    rw [limiter?_giveUp] at hl'
    split at hl'
    · obtain ⟨l, hl, rfl⟩ := Option.map_eq_some_iff.mp hl'
      have hroom := hg.room j l hl
      rw [Limiter.inFlight_giveBack, Limiter.max_giveBack]
      omega
    · exact hg.room j l' hl'
  issuer u j hu := by
    rw [issuer?_giveUp] at hu
    split at hu
    · cases hu
    · obtain ⟨l, hl⟩ := hg.issuer u j hu
      rw [limiter?_giveUp, hl]
      split
      · exact ⟨_, rfl⟩
      · exact ⟨_, rfl⟩

theorem Sound.effect (hg : Sound depths g) (h : Effect g s a g') : Sound depths g' := by
  rcases h.moves with ⟨i, l, -, -, hl, hroom, rfl⟩ | ⟨t, i, ht, rfl⟩ | ⟨hlimiters, htickets⟩
  · exact hg.admitted hl hroom
  · exact hg.giveUp ht
  · have hissuer (t : Nat) : g'.issuer? t = g.issuer? t := by rw [issuer?, htickets, issuer?]
    have hout (i : Nat) : g'.outstanding i = g.outstanding i := by
      rw [outstanding, htickets, outstanding]
    exact {
      max := fun i ↦ by rw [hlimiters, hg.max]
      slots := fun i l hl ↦ by rw [hout, hg.slots i l (hlimiters ▸ hl)]
      room := fun i l hl ↦ hg.room i l (hlimiters ▸ hl)
      issuer := fun t i ht ↦ by
        rw [hlimiters]
        exact hg.issuer t i (hissuer t ▸ ht) }

theorem run_snoc (g : Gates) (steps : List Step) (s : Step) :
    g.run (steps ++ [s]) = ((g.run steps).step s).2 := List.foldl_append

theorem sound_run (depths : List Depth) (steps : List Step) :
    Sound depths ((ofDepths depths).run steps) := by
  induction steps using List.reverseRecOn with
  | nil => exact sound_ofDepths depths
  | append_singleton steps s ih =>
    rw [run_snoc]
    exact ih.effect (effect_step _ s)

/-! ## Where tickets come from and where they go -/

/-- A ticket that is held was issued, by the step that answered with its number. -/
theorem issued_of_issuer? {steps : List Step}
    (h : ((ofDepths depths).run steps).issuer? t = some i) :
    ∃ before after, steps = before ++ .enter i :: after ∧
      (((ofDepths depths).run before).step (.enter i)).1 = .ticket t := by
  induction steps using List.reverseRecOn with
  | nil => simp [run, ofDepths, issuer?] at h
  | append_singleton steps s ih =>
    have hearlier (hold : ((ofDepths depths).run steps).issuer? t = some i) :
        ∃ before after, steps ++ [s] = before ++ .enter i :: after ∧
          (((ofDepths depths).run before).step (.enter i)).1 = .ticket t := by
      obtain ⟨before, after, rfl, hticket⟩ := ih hold
      exact ⟨before, after ++ [s], by simp, hticket⟩
    have heffect := effect_step ((ofDepths depths).run steps) s
    rw [run_snoc] at h
    generalize hnext : ((ofDepths depths).run steps).step s = p at heffect h
    rcases heffect.moves with ⟨j, l, rfl, ha, -, -, hp⟩ | ⟨u, j, -, hp⟩ | ⟨-, htickets⟩
    · rw [hp, issuer?_admitted] at h
      split at h
      · rename_i ht
        cases h
        exact ⟨steps, [], rfl, by rw [hnext, ha, ht]⟩
      · exact hearlier h
    · rw [hp, issuer?_giveUp] at h
      split at h
      · cases h
      · exact hearlier h
    · rw [issuer?, htickets] at h
      exact hearlier h

/-- A ticket that has been given up. -/
def Spent (g : Gates) (t : Nat) : Prop := t < g.tickets.size ∧ g.issuer? t = none

theorem Spent.effect (ht : g.Spent t) (h : Effect g s a g') : g'.Spent t := by
  obtain ⟨hlt, hnone⟩ := ht
  rcases h.moves with ⟨i, l, -, -, -, -, rfl⟩ | ⟨u, i, -, rfl⟩ | ⟨-, htickets⟩
  · refine ⟨?_, ?_⟩
    · rw [Gates.admitted, Array.size_push]
      omega
    · rw [issuer?_admitted, if_neg (by omega), hnone]
  · refine ⟨?_, ?_⟩
    · rwa [Gates.giveUp, Array.set!_eq_setIfInBounds, Array.size_setIfInBounds]
    · rw [issuer?_giveUp, hnone, ite_self]
  · exact ⟨htickets ▸ hlt, by rw [issuer?, htickets, ← issuer?, hnone]⟩

/-- A ticket that has been given up stays so. -/
theorem Spent.run (ht : g.Spent t) (steps : List Step) : (g.run steps).Spent t := by
  induction steps generalizing g with
  | nil => exact ht
  | cons s steps ih => exact ih (ht.effect (effect_step g s))

/-- The ticket `t` is given up for good, and its slot went back to the gate `i` and to no other. -/
structure Returned (g : Gates) (t i : Nat) (g' : Gates) : Prop where
  /-- The gate has one slot less taken, and there was one to give back. -/
  slot : ∃ l l', g.limiters[i]? = some l ∧ g'.limiters[i]? = some l' ∧ l'.max = l.max ∧
    l.inFlight = l'.inFlight + 1
  /-- Every other gate is as it was. -/
  others : ∀ j, j ≠ i → g'.limiters[j]? = g.limiters[j]?
  /-- Every other ticket is as it was. -/
  tickets : ∀ u, u ≠ t → g'.issuer? u = g.issuer? u
  /-- The ticket names nothing from now on. -/
  spent : ∀ later, (g'.run later).issuer? t = none

theorem Sound.returned (hg : Sound depths g) (h : g.issuer? t = some i) :
    Returned g t i (g.giveUp t i) where
  slot := by
    obtain ⟨l, hl⟩ := hg.issuer t i h
    refine ⟨l, l.giveBack, hl, ?_, l.max_giveBack, ?_⟩
    · rw [limiter?_giveUp, if_pos rfl, hl]
      rfl
    · -- The ticket that is given up is one of those the slots are taken by.
      have hcount := outstanding_giveUp h i
      rw [if_pos rfl] at hcount
      have hslots := hg.slots i l hl
      rw [Limiter.inFlight_giveBack]
      omega
  others j hj := by rw [limiter?_giveUp, if_neg (Ne.symm hj)]
  tickets u hu := by rw [issuer?_giveUp, if_neg (Ne.symm hu)]
  spent later := by
    refine (Spent.run ⟨?_, ?_⟩ later).2
    · rw [Gates.giveUp, Array.set!_eq_setIfInBounds, Array.size_setIfInBounds]
      exact (Array.getElem?_eq_some_iff.mp (Option.join_eq_some_iff.mp h)).1
    · rw [issuer?_giveUp, if_pos rfl]

/-! ## The account -/

/-- How gates of these depths stand after these steps, and what they do next. -/
structure Accounted (depths : List Depth) (steps : List Step) (g : Gates) : Prop where
  /-- Each gate has the depth it was made with. -/
  max : ∀ i : Nat, (g.limiters[i]?).map Limiter.max = depths[i]?
  /-- The tickets that are held were issued, each by its gate and under its number. -/
  issued : ∀ t i, g.issuer? t = some i → ∃ before after, steps = before ++ .enter i :: after ∧
    (((ofDepths depths).run before).step (.enter i)).1 = .ticket t
  /-- The slots taken at a gate are the tickets it has issued and that are still held. -/
  slots : ∀ (i : Nat) (l : Limiter), g.limiters[i]? = some l → l.inFlight = g.outstanding i
  /-- A gate has room for them. -/
  room : ∀ (i : Nat) (l : Limiter), g.limiters[i]? = some l → l.inFlight ≤ l.max.val
  /-- A gate that is not full issues a ticket and takes one slot, which it has room for; every other
  gate is as it was. -/
  admits : ∀ (i : Nat) (l : Limiter), g.limiters[i]? = some l → l.inFlight < l.max.val →
    (g.step (.enter i)).1 = .ticket g.tickets.size ∧
    (g.step (.enter i)).2.limiters[i]? = some { l with inFlight := l.inFlight + 1 } ∧
    l.inFlight + 1 ≤ l.max.val ∧
    ∀ j, j ≠ i → (g.step (.enter i)).2.limiters[j]? = g.limiters[j]?
  /-- A full gate refuses and says how many slots it has; no gate and no ticket changes. -/
  refuses : ∀ (i : Nat) (l : Limiter), g.limiters[i]? = some l → l.max.val ≤ l.inFlight →
    (g.step (.enter i)).1 = .refused ⟨l.max.val⟩ ∧
    (g.step (.enter i)).2.limiters = g.limiters ∧ (g.step (.enter i)).2.tickets = g.tickets
  /-- A ticket that is dropped goes back to its issuer. -/
  drops : ∀ t i, g.issuer? t = some i →
    (g.step (.drop t)).1 = .dropped ∧ Returned g t i (g.step (.drop t)).2
  /-- A ticket that is released goes back to its issuer too, wherever it is released; to release it
  at another gate is a fault. -/
  releases : ∀ t i gate, g.issuer? t = some i → gate < g.limiters.size →
    (g.step (.release gate t)).1 = (if gate = i then .released else .foreignTicket) ∧
    Returned g t i (g.step (.release gate t)).2
  /-- A ticket that has been given up gives nothing back. -/
  spent : ∀ t, g.issuer? t = none →
    g.step (.drop t) = (.gone, g) ∧ ∀ gate, g.step (.release gate t) = (.gone, g)

/-- **Tickets and slots.** Whatever is done with any number of gates, tickets and waits, and in
whatever order: each gate has as many slots taken as it has tickets about, and never more than it
has room for; it admits exactly while it has room; and every ticket gives one slot back to the gate
that issued it, once, even if it is released at another gate. -/
theorem tickets_accounted (depths : List Depth) (steps : List Step) :
    Accounted depths steps ((ofDepths depths).run steps) := by
  have hg := sound_run depths steps
  have hissued (t i : Nat) (ht : ((ofDepths depths).run steps).issuer? t = some i) :=
    issued_of_issuer? ht
  generalize (ofDepths depths).run steps = g at hg hissued
  refine {
    max := hg.max
    issued := hissued
    slots := hg.slots
    room := hg.room
    admits := fun i l hl hroom ↦ ?_
    refuses := fun i l hl hfull ↦ ?_
    drops := fun t i ht ↦ ?_
    releases := fun t i gate ht hgate ↦ ?_
    spent := fun t ht ↦ ?_ }
  · rw [step_enter_of_lt hl hroom]
    refine ⟨rfl, ?_, hroom, fun j hj ↦ ?_⟩
    · rw [limiter?_admitted hl, if_pos rfl]
    · rw [limiter?_admitted hl, if_neg (Ne.symm hj)]
  · rw [step_enter_of_le hl hfull]
    exact ⟨rfl, rfl, rfl⟩
  · rw [step_drop_of_issuer? ht]
    exact ⟨rfl, hg.returned ht⟩
  · rw [step_release_of_issuer? ht hgate]
    exact ⟨rfl, hg.returned ht⟩
  · exact ⟨by simp only [step, ht], fun gate ↦ by simp only [step, ht]⟩

/-- The second gate is asked to take back a ticket of the first: it keeps its own slot, and the
first gate has its slot back. -/
example :
    let g := (ofDepths [⟨1, by decide⟩, ⟨1, by decide⟩]).run [.enter 0, .enter 1]
    (g.step (.release 1 0)).1 = .foreignTicket ∧
      (g.step (.release 1 0)).2.limiters.map Limiter.inFlight = #[0, 1] := by
  constructor <;> decide +kernel

end Gates

end BoundedPipelining
