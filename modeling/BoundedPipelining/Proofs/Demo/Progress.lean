import BoundedPipelining.Proofs.Demo.Course

/-!
# A demonstration comes to its end

Whatever happens to a demonstration on its course, it stays on it and comes no further from its end
(`Course.run`). It comes closer whenever the monitor is polled, every dispatch task is polled after
that, and it may move after that (`Course.lap`): by then the monitor has told the tracker of a
teardown, and the dispatch task that the demonstration waits for has found either a head or the
closed tracker, so no wakeup is lost.

A schedule in which the monitor, the dispatch tasks and the moves keep recurring, in whatever order
and however far apart, is an endless sequence of such laps. The watchers of the responses do not
matter for this.
-/

namespace BoundedPipelining

open Connection (Task Confined)

namespace Demo

variable {s : Scenario} {m : Depth} {n r p : Nat} {d : Demo}

/-! ## What the polls of a lap achieve -/

namespace Setting

variable {t : Tally} {c : Connection} {i : Nat}

theorem confined_polls (h : Setting s m t c) (tasks : List Task) : Confined c (c.polls tasks) := by
  induction tasks generalizing c with
  | nil => exact .refl c
  | cons task tasks ih =>
    exact (Connection.confined_poll h.reached.handedOver task).trans (ih (h.poll task))

/-- A dispatch task that is polled after the monitor has handed over what there was to hand over, be
it the head of its response or the news that the channel is torn down. -/
theorem isAlive_polls (h : Setting s m t c) {first second third : List Task}
    (hmonitor : .monitor ∈ first) (hdispatch : .dispatch i ∈ second)
    (hready : c.channel.result? i ≠ none ∨ (Tracker.told c.channel.notices).isClosed = true) :
    (c.polls (first ++ second ++ third)).isAlive (.dispatch i) = false := by
  obtain ⟨f₁, f₂, rfl⟩ := List.append_of_mem hmonitor
  obtain ⟨g₁, g₂, rfl⟩ := List.append_of_mem hdispatch
  let c₁ := c.polls f₁
  let c₂ := c₁.poll .monitor
  let c₃ := c₂.polls (f₂ ++ g₁)
  let c₄ := c₃.poll (.dispatch i)
  have h₁ : Setting s m t c₁ := h.polls f₁
  have h₂ : Setting s m t c₂ := h₁.poll .monitor
  have h₃ : Setting s m t c₃ := h₂.polls (f₂ ++ g₁)
  have h₄ : Setting s m t c₄ := h₃.poll (.dispatch i)
  have hpolls : c.polls (f₁ ++ .monitor :: f₂ ++ (g₁ ++ .dispatch i :: g₂) ++ third)
      = c₄.polls (g₂ ++ third) := by
    simp [c₁, c₂, c₃, c₄, Connection.polls, List.foldl_append]
  have hch₁ : c₁.channel = c.channel := (h.confined_polls f₁).channel
  have hch₃ : c₃.channel = c.channel := (h₂.confined_polls (f₂ ++ g₁)).channel.trans hch₁
  have htold : c₂.tracker = .told c.channel.notices := by
    rw [← hch₁]
    exact Connection.tracker_pollMonitor h₁.reached.vigilant h₁.reached.warranted h₁.closed
      h₁.reached.running
  have hready₃ : c₃.channel.result? i ≠ none ∨ c₃.tracker.isClosed = true := by
    rw [hch₃]
    refine hready.imp_right fun hclosed ↦ ?_
    rw [← htold] at hclosed
    exact (Connection.polls_moves c₂ _).frame.isClosed hclosed
  have hended : c₄.isAlive (.dispatch i) = false :=
    Connection.isAlive_pollDispatch h₃.reached.handedOver hready₃
  rw [hpolls]
  exact (h₄.confined_polls _).isAlive (Connection.polls_moves c₄ _).frame hended

end Setting

/-! ## Whatever happens -/

/-- A demonstration whose background tasks were polled. -/
def polled (d : Demo) (tasks : List Task) : Demo :=
  { d with connection := d.connection.polls tasks }

/-- The tasks that are polled in a list of events. -/
def tasksOf (events : List Event) : List Task :=
  events.filterMap fun
    | .move => none
    | .poll t => some t

theorem run_append (d : Demo) (events events' : List Event) :
    d.run (events ++ events') = (d.run events).run events' := List.foldl_append

theorem mem_tasksOf {events : List Event} {t : Task} : t ∈ tasksOf events ↔ .poll t ∈ events := by
  rw [tasksOf, List.mem_filterMap]
  constructor
  · rintro ⟨e, he, ht⟩
    cases e with
    | move => cases ht
    | poll t' =>
      cases ht
      exact he
  · intro h
    exact ⟨_, h, rfl⟩

namespace Course

/-- Behind every demonstration on its course there is a tally. -/
theorem setting (h : Course s m n d r) : ∃ t, t.issued ≤ n ∧ Setting s m t d.connection := by
  cases h with
  | issuing hj h => exact ⟨_, hj, h⟩
  | answering _ _ h | turning _ _ _ h | awaiting _ _ _ h | draining _ _ _ h | resting h | done h =>
    exact ⟨_, Nat.le_refl n, h⟩

theorem size_lanes_le (h : Course s m n d r) : d.connection.lanes.size ≤ n := by
  obtain ⟨t, hissued, hsetting⟩ := h.setting
  rw [hsetting.size]
  exact Nat.le_trans (Nat.min_le_left _ _) hissued

theorem polled (h : Course s m n d r) (tasks : List Task) : Course s m n (d.polled tasks) r :=
  h.polls tasks

theorem step_poll (h : Course s m n d r) (t : Task) : d.step (.poll t) = d.polled [t] := by
  obtain ⟨_, -, hsetting⟩ := h.setting
  change { d with connection := (d.connection.step (.poll t)).2 } = _
  rw [Connection.step_poll hsetting.reached.running]
  rfl

theorem run_polls (h : Course s m n d r) (tasks : List Task) :
    d.run (tasks.map .poll) = d.polled tasks := by
  induction tasks generalizing d with
  | nil => rfl
  | cons t tasks ih =>
    change (d.step (.poll t)).run (tasks.map .poll) = _
    rw [h.step_poll]
    exact ih (h.polled [t])

/-- A list of events brings a demonstration closer to its end, or it comes to no more than its
polls. -/
theorem run_cases (h : Course s m n d r) (events : List Event) :
    (∃ r' < r, Course s m n (d.run events) r') ∨ d.run events = d.polled (tasksOf events) := by
  induction events generalizing d r with
  | nil => exact Or.inr rfl
  | cons e events ih =>
    change (∃ r' < r, Course s m n ((d.step e).run events) r') ∨ (d.step e).run events = _
    cases e with
    | poll t =>
      rw [h.step_poll]
      exact ih (h.polled [t])
    | move =>
      change (∃ r' < r, Course s m n (d.move.run events) r') ∨ d.move.run events = _
      rcases h.move_cases with ⟨r', hlt, h'⟩ | ⟨hsame, -⟩
      · refine Or.inl ?_
        rcases ih h' with ⟨r'', hlt', h''⟩ | hpolled
        · exact ⟨r'', Nat.lt_trans hlt' hlt, h''⟩
        · exact ⟨r', hlt, hpolled ▸ h'.polled _⟩
      · rw [hsame]
        exact ih h

/-- No event brings a demonstration off its course or further from its end. -/
theorem run (h : Course s m n d r) (events : List Event) :
    ∃ r' ≤ r, Course s m n (d.run events) r' := by
  rcases h.run_cases events with ⟨r', hlt, h'⟩ | hpolled
  · exact ⟨r', Nat.le_of_lt hlt, h'⟩
  · exact ⟨r, Nat.le_refl r, hpolled ▸ h.polled _⟩

end Course

/-! ## One lap -/

/-- Events in which the monitor is polled, then every dispatch task up to `p`, and then the
demonstration may move. -/
def Lap (p : Nat) (events : List Event) : Prop :=
  ∃ first second third, events = first ++ second ++ third ∧ .poll .monitor ∈ first ∧
    (∀ i < p, .poll (.dispatch i) ∈ second) ∧ .move ∈ third

/-- No demonstration is blocked after the polls of a lap. -/
theorem Course.not_isBlocked (h : Course s m n d r) {first second third : List Task}
    (hmonitor : .monitor ∈ first)
    (hdispatch : ∀ i < d.connection.lanes.size, .dispatch i ∈ second) :
    ¬ (d.polled (first ++ second ++ third)).IsBlocked := by
  rintro ⟨j, hj, halive⟩
  change d.stage = .awaiting j at hj
  change (d.connection.polls _).isAlive (.dispatch j) = true at halive
  obtain ⟨t, -, hsetting⟩ := h.setting
  have hlt : j < d.connection.lanes.size := by
    rw [← (hsetting.confined_polls (first ++ second ++ third)).size]
    by_contra hge
    rw [Connection.isAlive, Array.getElem?_eq_none (Nat.not_lt.mp hge)] at halive
    cases halive
  rw [hsetting.isAlive_polls hmonitor (hdispatch j hlt) (h.ready_of_blocked hj hlt)] at halive
  cases halive

/-- A lap brings a demonstration closer to its end, unless it has come there. -/
theorem Course.lap (h : Course s m n d r) (hp : d.connection.lanes.size ≤ p) {events : List Event}
    (hlap : Lap p events) (hundone : d.stage ≠ .done) :
    ∃ r' < r, Course s m n (d.run events) r' := by
  obtain ⟨first, second, third, rfl, hmonitor, hdispatch, hmove⟩ := hlap
  obtain ⟨before, rest, rfl⟩ := List.append_of_mem hmove
  have hsplit : d.run (first ++ second ++ (before ++ .move :: rest))
      = ((d.run (first ++ second ++ before)).move).run rest := by
    rw [← List.append_assoc, run_append]
    rfl
  rw [hsplit]
  -- Whatever comes closer on the way stays as close to the end of the lap.
  have hcloser {r₁ : Nat} {d₁ : Demo} (hlt : r₁ < r) (h₁ : Course s m n d₁ r₁) :
      ∃ r' < r, Course s m n (d₁.run rest) r' := by
    obtain ⟨r', hle, h'⟩ := h₁.run rest
    exact ⟨r', Nat.lt_of_le_of_lt hle hlt, h'⟩
  rcases h.run_cases (first ++ second ++ before) with ⟨r₁, hlt, h₁⟩ | hpolled
  · obtain ⟨r₂, hle, h₂⟩ := h₁.run [.move]
    exact hcloser (Nat.lt_of_le_of_lt hle hlt) h₂
  · rw [hpolled]
    rcases (h.polled (tasksOf (first ++ second ++ before))).move_cases with
      ⟨r₁, hlt, h₁⟩ | ⟨-, hdone | hblocked⟩
    · exact hcloser hlt h₁
    · exact absurd hdone hundone
    · rw [tasksOf, List.filterMap_append, List.filterMap_append, ← tasksOf, ← tasksOf, ← tasksOf]
        at hblocked
      refine absurd hblocked (h.not_isBlocked (mem_tasksOf.mpr hmonitor) fun i hi ↦ ?_)
      exact mem_tasksOf.mpr (hdispatch i (Nat.lt_of_lt_of_le hi hp))

/-! ## An endless schedule -/

/-- The first events of an endless schedule. -/
def prefixOf (σ : Nat → Event) (k : Nat) : List Event :=
  (List.range k).map σ

/-- An endless schedule neglects neither the demonstration nor its monitor nor any of `p` dispatch
tasks: each of them comes again after every point. -/
structure Fair (p : Nat) (σ : Nat → Event) : Prop where
  move : ∀ k, ∃ k' ≥ k, σ k' = .move
  monitor : ∀ k, ∃ k' ≥ k, σ k' = .poll .monitor
  dispatch : ∀ i < p, ∀ k, ∃ k' ≥ k, σ k' = .poll (.dispatch i)

variable {σ : Nat → Event}

/-- So many events of an endless schedule from one of them on. -/
def stretch (σ : Nat → Event) (k length : Nat) : List Event :=
  (List.range length).map fun i ↦ σ (k + i)

theorem stretch_add (σ : Nat → Event) (k l l' : Nat) :
    stretch σ k (l + l') = stretch σ k l ++ stretch σ (k + l) l' := by
  simp only [stretch, List.range_add, List.map_append, List.map_map, Function.comp_def,
    Nat.add_assoc]

theorem prefixOf_add (σ : Nat → Event) (k l : Nat) :
    prefixOf σ (k + l) = prefixOf σ k ++ stretch σ k l := by
  rw [prefixOf, List.range_add, List.map_append, List.map_map]
  rfl

/-- What recurs in a schedule is found in every long enough stretch of it. -/
private theorem exists_stretch {e : Event} (h : ∀ k, ∃ k' ≥ k, σ k' = e) (k : Nat) :
    ∃ l, ∀ l' ≥ l, e ∈ stretch σ k l' := by
  obtain ⟨k', hle, rfl⟩ := h k
  refine ⟨k' - k + 1, fun l' hl' ↦ List.mem_map.mpr ⟨k' - k, List.mem_range.mpr hl', ?_⟩⟩
  rw [Nat.add_sub_cancel' hle]

private theorem exists_stretch_dispatch (h : Fair p σ) (k : Nat) :
    ∃ l, ∀ i < p, .poll (.dispatch i) ∈ stretch σ k l := by
  have hstretch (q : Nat) (hq : q ≤ p) :
      ∃ l, ∀ l' ≥ l, ∀ i < q, .poll (.dispatch i) ∈ stretch σ k l' := by
    induction q with
    | zero => exact ⟨0, fun _ _ i hi ↦ absurd hi (Nat.not_lt_zero i)⟩
    | succ q ih =>
      obtain ⟨l, hl⟩ := ih (Nat.le_of_succ_le hq)
      obtain ⟨l₁, hl₁⟩ := exists_stretch (h.dispatch q hq) k
      refine ⟨max l l₁, fun l' hl' i hi ↦ ?_⟩
      rcases Nat.lt_succ_iff_lt_or_eq.mp hi with hlt | rfl
      · exact hl l' (Nat.le_trans (Nat.le_max_left _ _) hl') i hlt
      · exact hl₁ l' (Nat.le_trans (Nat.le_max_right _ _) hl')
  obtain ⟨l, hl⟩ := hstretch p (Nat.le_refl p)
  exact ⟨l, hl l (Nat.le_refl l)⟩

/-- A lap begins at every point of a fair schedule. -/
theorem Fair.lap (h : Fair p σ) (k : Nat) :
    ∃ l, Lap p (stretch σ k l) := by
  obtain ⟨l₁, hmonitor⟩ := exists_stretch h.monitor k
  obtain ⟨l₂, hdispatch⟩ := exists_stretch_dispatch h (k + l₁)
  obtain ⟨l₃, hmove⟩ := exists_stretch h.move (k + l₁ + l₂)
  refine ⟨l₁ + l₂ + l₃, _, _, _, ?_, hmonitor l₁ (Nat.le_refl _), hdispatch,
    hmove l₃ (Nat.le_refl _)⟩
  rw [stretch_add, stretch_add, Nat.add_assoc k l₁ l₂]

namespace Course

/-- A demonstration that has come to its end stays there. -/
theorem run_done (h : Course s m n d 0) (events : List Event) : Course s m n (d.run events) 0 := by
  obtain ⟨r, hle, h'⟩ := h.run events
  obtain rfl := Nat.le_zero.mp hle
  exact h'

private theorem eventually_done_from (hfair : Fair n σ) (k : Nat)
    (h : Course s m n (d.run (prefixOf σ k)) r) :
    ∃ k', Course s m n (d.run (prefixOf σ k')) 0 := by
  induction r using Nat.strongRecOn generalizing k with
  | ind r ih =>
    by_cases hdone : (d.run (prefixOf σ k)).stage = .done
    · obtain rfl := h.stage_eq_done_iff.mp hdone
      exact ⟨k, h⟩
    · obtain ⟨l, hlap⟩ := hfair.lap k
      obtain ⟨r', hlt, h'⟩ := h.lap h.size_lanes_le hlap hdone
      rw [← run_append, ← prefixOf_add] at h'
      exact ih r' hlt (k + l) h'

/-- Under a fair schedule every demonstration comes to its end, and stays there. -/
theorem eventually_done (h : Course s m n d r) (hfair : Fair n σ) :
    ∃ k, ∀ k' ≥ k, Course s m n (d.run (prefixOf σ k')) 0 := by
  obtain ⟨k, hdone⟩ := eventually_done_from hfair 0 h
  refine ⟨k, fun k' hle ↦ ?_⟩
  obtain ⟨l, rfl⟩ := Nat.exists_eq_add_of_le hle
  rw [prefixOf_add, run_append]
  exact hdone.run_done _

/-! ## Moves between settled tasks -/

/-- To let the tasks settle before a move makes a lap. -/
theorem settled_move (h : Course s m n d r) :
    ∃ events, Lap d.connection.lanes.size events ∧ (d.act .settle).2.move = d.run events := by
  obtain ⟨tasks, hsettle, hdispatch⟩ := Connection.settle_eq_polls d.connection
  have hpolled : (d.act .settle).2 = d.polled (.monitor :: tasks) := by
    obtain ⟨t, -, hsetting⟩ := h.setting
    have hact : d.connection.act .settle = (.ok, d.connection.polls (.monitor :: tasks)) := by
      rw [← hsettle]
      rfl
    rw [act, Connection.step_of_running hact (hsetting.polls _).reached.running]
    rfl
  refine ⟨[.poll .monitor] ++ tasks.map .poll ++ [.move], ⟨_, _, _, rfl, ?_, ?_, ?_⟩, ?_⟩
  · exact List.mem_singleton_self _
  · intro i hi
    exact List.mem_map_of_mem (hdispatch i hi)
  · exact List.mem_singleton_self _
  · rw [hpolled, run_append]
    exact congrArg Demo.move (h.run_polls (.monitor :: tasks)).symm

/-- As many moves as the distance to the end, each with settled tasks, bring a demonstration
there. -/
theorem play (h : Course s m n d r) {fuel : Nat} (hr : r ≤ fuel) :
    Course s m n (d.play fuel) 0 := by
  induction fuel generalizing d r with
  | zero =>
    obtain rfl := Nat.le_zero.mp hr
    exact h
  | succ fuel ih =>
    rw [Demo.play]
    split
    · rename_i hdone
      obtain rfl := h.stage_eq_done_iff.mp hdone
      exact h
    · rename_i hundone
      obtain ⟨events, hlap, hmove⟩ := h.settled_move
      obtain ⟨r', hlt, h'⟩ := h.lap (Nat.le_refl _) hlap hundone
      rw [hmove]
      exact ih h' (by omega)

end Course

end Demo

end BoundedPipelining
