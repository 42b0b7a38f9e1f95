import BoundedPipelining.Proofs.Demo.Turns

/-!
# The course of a demonstration

`Course` says at which stages a demonstration can be, what its connection, its notes and its view of
the connection are at each of them, and how many moves are still to come at most. A poll of a
background task keeps it on its course. A move either brings it closer to its end or changes
nothing, and the latter happens only at a response whose dispatch task has not handed anything over
(`Course.move_cases`).
-/

namespace BoundedPipelining

open Connection (Task)

namespace Demo

/-- The number of writes that the peer of a scenario answers. -/
def served (s : Scenario) (m : Depth) (n : Nat) : Nat :=
  match s with
  | .drain => min n m.val
  | .graceful => min n 1
  | .abrupt => 0

/-- What comes of a request. -/
def noted (s : Scenario) (m : Depth) (n request : Nat) : String :=
  if m.val ≤ request then failedWith (.limitExceeded ⟨m.val⟩)
  else if request < served s m n then answeredWith (bodyOf s request)
  else failedWith (.closed (closeError s))

/-- The view of the connection when all requests were issued. -/
def opening (m : Depth) (n : Nat) : ConnectionStats :=
  { state := .opened
    inFlight := min n m.val
    max := m.val
    pending := (List.range (min n m.val)).map fun i ↦ ⟨⟨i + 1⟩, .dispatched⟩ }

/-- How a connection stands when the peer has given all its answers and `resolved` calls were told
how their responses begin, of which `dealt` are done. -/
abbrev Served (s : Scenario) (m : Depth) (n resolved dealt : Nat) (torn : Bool) (c : Connection) :
    Prop :=
  Setting s m { issued := n, answered := served s m n, resolved, dealt, torn } c

/-- A demonstration of `n` requests is on its course, with at most so many moves before it. -/
inductive Course (s : Scenario) (m : Depth) (n : Nat) : Demo → Nat → Prop
  | issuing {c : Connection} {j : Nat} {b : ConnectionStats} (hj : j ≤ n)
      (h : Setting s m { issued := j } c) :
      Course s m n ⟨s, n, c, .issuing j, 0, [], b⟩ (n - j + served s m n + 3 * n + 4)
  | answering {c : Connection} {a : Nat} (ha : a ≤ served s m n) (hs : s ≠ .drain → a = 0)
      (h : Setting s m { issued := n, answered := a } c) :
      Course s m n ⟨s, n, c, .answering, 0, [], opening m n⟩ (served s m n - a + 3 * n + 3)
  | turning {c : Connection} {j x : Nat} {torn : Bool} (hj : j ≤ n)
      (hx : s = .graceful → x = served s m n)
      (ht : s ≠ .drain → (s = .graceful → served s m n < j) → torn = true)
      (h : Served s m n j j torn c) :
      Course s m n ⟨s, n, c, .turning j, x, (List.range j).map (noted s m n), opening m n⟩
        (3 * (n - j) + 2)
  | awaiting {c : Connection} {j x : Nat} {torn : Bool} (hj : j < n)
      (hx : s = .graceful → x = served s m n)
      (ht : s ≠ .drain → served s m n ≤ j → torn = true) (h : Served s m n j j torn c) :
      Course s m n ⟨s, n, c, .awaiting j, x, (List.range j).map (noted s m n), opening m n⟩
        (3 * (n - j) + 1)
  | draining {c : Connection} {j x : Nat} {torn : Bool} (hj : j < min n m.val)
      (hx : s = .graceful → x = served s m n)
      (ht : s ≠ .drain → served s m n ≤ j → torn = true) (h : Served s m n (j + 1) j torn c) :
      Course s m n ⟨s, n, c, .draining j, x, (List.range j).map (noted s m n), opening m n⟩
        (3 * (n - j))
  | resting {c : Connection} {x : Nat} {torn : Bool} (h : Served s m n n n torn c) :
      Course s m n ⟨s, n, c, .resting, x, (List.range n).map (noted s m n), opening m n⟩ 1
  | done {c : Connection} {x : Nat} {torn : Bool} (h : Served s m n n n torn c) :
      Course s m n ⟨s, n, c, .done, x, (List.range n).map (noted s m n), opening m n⟩ 0

variable {s : Scenario} {m : Depth} {n r : Nat} {d : Demo}

/-- A demonstration begins on its course. -/
theorem course_start (s : Scenario) (m : Depth) (n : Nat) (policy : ClosingPolicy) :
    Course s m n { scenario := s, requests := n, connection := Connection.ofDepth m policy }
      (n + served s m n + 3 * n + 4) :=
  .issuing (Nat.zero_le n) (setting_ofDepth s m policy)

namespace Course

/-- The polls of the background tasks neither help nor hinder. -/
theorem polls (h : Course s m n d r) (tasks : List Task) :
    Course s m n { d with connection := d.connection.polls tasks } r := by
  cases h with
  | issuing hj h => exact .issuing hj (h.polls tasks)
  | answering ha hs h => exact .answering ha hs (h.polls tasks)
  | turning hj hx ht h => exact .turning hj hx ht (h.polls tasks)
  | awaiting hj hx ht h => exact .awaiting hj hx ht (h.polls tasks)
  | draining hj hx ht h => exact .draining hj hx ht (h.polls tasks)
  | resting h => exact .resting (h.polls tasks)
  | done h => exact .done (h.polls tasks)

/-- A demonstration is done when no move is before it. -/
theorem stage_eq_done_iff (h : Course s m n d r) : d.stage = .done ↔ r = 0 := by
  cases h with
  | done => exact ⟨fun _ ↦ rfl, fun _ ↦ rfl⟩
  | draining hj _ _ _ =>
    refine ⟨fun hstage ↦ (by cases hstage), ?_⟩
    intro hr
    omega
  | issuing | answering | turning | awaiting | resting =>
    exact ⟨fun hstage ↦ (by cases hstage), fun hr ↦ absurd hr (Nat.succ_ne_zero _)⟩

end Course

/-! ## One move -/

/-- Whether a demonstration awaits a response whose dispatch task has not handed anything over. -/
def IsBlocked (d : Demo) : Prop :=
  ∃ j, d.stage = .awaiting j ∧ d.connection.isAlive (.dispatch j) = true

variable {c : Connection} {j x : Nat} {torn : Bool}

theorem act_eq {c' : Connection} {step : Connection.Step} {a : Connection.Answer}
    (h : c.step step = (a, c')) (stage : Stage) (outcomes : List String) (b : ConnectionStats) :
    act ⟨s, n, c, stage, x, outcomes, b⟩ step = (a, ⟨s, n, c', stage, x, outcomes, b⟩) := by
  rw [act, h]

private theorem issuing_move {b : ConnectionStats} (hj : j ≤ n)
    (h : Setting s m { issued := j } c) :
    ∃ r' < n - j + served s m n + 3 * n + 4,
      Course s m n (Demo.move ⟨s, n, c, .issuing j, 0, [], b⟩) r' := by
  change ∃ r' < _, Course s m n (Demo.issue ⟨s, n, c, .issuing j, 0, [], b⟩ j) r'
  rw [issue]
  by_cases hlt : j < n
  · rw [if_pos hlt]
    exact ⟨_, by omega, .issuing hlt h.issue⟩
  · obtain rfl : j = n := by omega
    rw [if_neg hlt, show c.stats = opening m j from h.stats_issued]
    exact ⟨_, by omega, .answering (Nat.zero_le _) (fun _ ↦ rfl) h⟩

/-- The peer has given all its answers, and the caller turns to the first response. -/
private theorem turning_zero (hx : s = .graceful → x = served s m n)
    (ht : s = .abrupt → torn = true) (h : Served s m n 0 0 torn c) :
    Course s m n ⟨s, n, c, .turning 0, x, [], opening m n⟩ (3 * n + 2) := by
  refine .turning (Nat.zero_le n) hx ?_ h
  intro hdrain hgraceful
  cases s with
  | drain => exact absurd rfl hdrain
  | graceful => exact absurd (hgraceful rfl) (Nat.not_lt_zero _)
  | abrupt => exact ht rfl

private theorem answering_move {a : Nat} (ha : a ≤ served s m n) (hs : s ≠ .drain → a = 0)
    (h : Setting s m { issued := n, answered := a } c) :
    ∃ r' < served s m n - a + 3 * n + 3,
      Course s m n (Demo.move ⟨s, n, c, .answering, 0, [], opening m n⟩) r' := by
  change ∃ r' < _, Course s m n (Demo.answer ⟨s, n, c, .answering, 0, [], opening m n⟩) r'
  cases s with
  | abrupt =>
    obtain rfl : a = 0 := hs (by simp)
    have htorn := h.tear (p := .reset resetError) ⟨Nat.le_refl _, by simp, by simp⟩
      (Or.inr ⟨rfl, rfl⟩)
    exact ⟨_, by omega, turning_zero (by simp) (fun _ ↦ rfl) htorn⟩
  | drain =>
    rcases Nat.lt_or_ge a c.lanes.size with hlt | hge
    · obtain ⟨p, c₁, hnext, hserved⟩ := h.serve (by simp) rfl hlt
      have hle : a + 1 ≤ served .drain m n := by
        have hsize : c.lanes.size = min n m.val := h.size
        simp only [served]
        omega
      simp only [answer, act_eq hnext]
      exact ⟨_, by omega, .answering hle (by simp) hserved⟩
    · have hall : a = c.lanes.size := Nat.le_antisymm h.answered hge
      obtain rfl : a = served .drain m n := hall.trans h.size
      simp only [answer, act_eq (h.serve_nothing hall)]
      exact ⟨_, by omega, turning_zero (by simp) (by simp) h⟩
  | graceful =>
    obtain rfl : a = 0 := hs (by simp)
    rcases Nat.eq_zero_or_pos n with rfl | hn
    · have hall : 0 = c.lanes.size := by
        rw [h.size, Nat.zero_min]
      simp only [answer, act_eq (h.serve_nothing hall)]
      exact ⟨_, by omega, turning_zero (by simp [served]) (by simp) h⟩
    · have hlt : 0 < c.lanes.size := by
        rw [h.size]
        exact Nat.lt_min.mpr ⟨hn, m.pos⟩
      obtain ⟨p, c₁, hnext, hserved⟩ := h.serve (by simp) rfl hlt
      have hone : served .graceful m n = 1 := Nat.min_eq_right hn
      have hturned : Served .graceful m n 0 0 false
          (c₁.step (.peer (.respondWith p (headOf .graceful) (bodyOf .graceful 0)))).2 := by
        rw [Served, hone]
        exact hserved
      simp only [answer, act_eq hnext]
      exact ⟨_, by omega, turning_zero (fun _ ↦ hone.symm) (by simp) hturned⟩

private theorem turning_move (hj : j ≤ n) (hx : s = .graceful → x = served s m n)
    (ht : s ≠ .drain → (s = .graceful → served s m n < j) → torn = true)
    (h : Served s m n j j torn c) :
    ∃ r' < 3 * (n - j) + 2, Course s m n
      (Demo.move ⟨s, n, c, .turning j, x, (List.range j).map (noted s m n), opening m n⟩) r' := by
  change ∃ r' < _, Course s m n
    (Demo.turn ⟨s, n, c, .turning j, x, (List.range j).map (noted s m n), opening m n⟩ j) r'
  rw [turn]
  by_cases hlt : j < n
  · rw [if_pos hlt]
    split
    · rename_i hclose
      obtain ⟨rfl, hjx⟩ : s = .graceful ∧ j = x := hclose
      rw [hx rfl] at hjx
      have hpos : 0 < served .graceful m n := Nat.lt_min.mpr ⟨by omega, Nat.one_pos⟩
      have htorn := h.tear (p := .close) ⟨Nat.le_of_eq hjx.symm, by simp, fun _ ↦ hpos⟩
        (Or.inl ⟨rfl, rfl⟩)
      exact ⟨_, by omega, .awaiting hlt hx (fun _ _ ↦ rfl) htorn⟩
    · rename_i hclose
      refine ⟨_, by omega, .awaiting hlt hx (fun hdrain hle ↦ ht hdrain ?_) h⟩
      -- The peer has closed before, because it was not yet to close here.
      intro hgraceful
      refine Nat.lt_of_le_of_ne hle ?_
      rw [← hx hgraceful]
      rintro rfl
      exact hclose ⟨hgraceful, rfl⟩
  · obtain rfl : j = n := by omega
    rw [if_neg hlt]
    exact ⟨_, by omega, .resting h⟩

/-- The caller is done with a call and turns to the next. -/
private theorem noted_turning {o : String} (hj : j < n) (ho : o = noted s m n j)
    (hx : s = .graceful → x = served s m n)
    (ht : s ≠ .drain → served s m n ≤ j → torn = true) (h : Served s m n (j + 1) (j + 1) torn c) :
    Course s m n
      ⟨s, n, c, .turning (j + 1), x, (List.range j).map (noted s m n) ++ [o], opening m n⟩
      (3 * (n - (j + 1)) + 2) := by
  have houtcomes : (List.range j).map (noted s m n) ++ [o]
      = (List.range (j + 1)).map (noted s m n) := by
    rw [List.range_succ, List.map_append, List.map_singleton, ho]
  rw [houtcomes]
  refine .turning hj hx ?_ h
  intro hdrain hgraceful
  apply ht hdrain
  cases s with
  | drain => exact absurd rfl hdrain
  | graceful => exact Nat.le_of_lt_succ (hgraceful rfl)
  | abrupt => exact Nat.zero_le j

private theorem awaiting_move (hj : j < n) (hx : s = .graceful → x = served s m n)
    (ht : s ≠ .drain → served s m n ≤ j → torn = true) (h : Served s m n j j torn c) :
    let d : Demo := ⟨s, n, c, .awaiting j, x, (List.range j).map (noted s m n), opening m n⟩
    (∃ r' < 3 * (n - j) + 1, Course s m n d.move r') ∨ d.move = d ∧ d.IsBlocked := by
  intro d
  rcases Nat.lt_or_ge j m.val with hm | hm
  · have hlt : j < c.lanes.size := by
      have hsize : c.lanes.size = min n m.val := h.size
      omega
    have hl : c.lanes[j]? = some c.lanes[j] := Array.getElem?_eq_getElem hlt
    generalize c.lanes[j] = l at hl
    by_cases hreply : l.reply = .awaited
    · have hstep := h.await_pending rfl hl hreply
      refine Or.inr ⟨?_, j, rfl, ?_⟩
      · simp only [d, move, act_eq hstep]
      · simp [d, Connection.isAlive, hl, hreply, Reply.isAwaited]
    · rcases h.await_replied rfl hl hreply with ⟨-, c', hstep, h'⟩ | ⟨hserved, c', hstep, h'⟩
      · refine Or.inl ⟨3 * (n - j), Nat.lt_succ_self _, ?_⟩
        simp only [d, move, act_eq hstep]
        exact .draining (Nat.lt_min.mpr ⟨hj, hm⟩) hx ht h'
      · refine Or.inl ⟨3 * (n - (j + 1)) + 2, by omega, ?_⟩
        have ho : failedWith (.closed (closeError s)) = noted s m n j := by
          rw [noted, if_neg (Nat.not_le.mpr hm), if_neg (Nat.not_lt.mpr hserved)]
        simp only [d, move, act_eq hstep]
        exact noted_turning hj ho hx ht h'
  · obtain ⟨c', hstep, h'⟩ := h.await_refused hm hj
    refine Or.inl ⟨3 * (n - (j + 1)) + 2, by omega, ?_⟩
    simp only [d, move, act_eq hstep]
    exact noted_turning hj (if_pos hm).symm hx ht h'

private theorem draining_move (hj : j < min n m.val) (hx : s = .graceful → x = served s m n)
    (ht : s ≠ .drain → served s m n ≤ j → torn = true) (h : Served s m n (j + 1) j torn c) :
    ∃ r' < 3 * (n - j), Course s m n
      (Demo.move ⟨s, n, c, .draining j, x, (List.range j).map (noted s m n), opening m n⟩) r' := by
  obtain ⟨hn, hm⟩ := Nat.lt_min.mp hj
  have hlt : j < c.lanes.size := by
    have hsize : c.lanes.size = min n m.val := h.size
    omega
  obtain ⟨hserved, c', hstep, h'⟩ := h.drain rfl hlt
  have ho : answeredWith (bodyOf s j) = noted s m n j := by
    rw [noted, if_neg (Nat.not_le.mpr hm), if_pos hserved]
  refine ⟨3 * (n - (j + 1)) + 2, by omega, ?_⟩
  simp only [move, act_eq hstep]
  exact noted_turning hn ho hx ht h'

/-- A move brings a demonstration closer to its end, or it changes nothing, because the
demonstration is done or blocked. -/
theorem Course.move_cases (h : Course s m n d r) :
    (∃ r' < r, Course s m n d.move r') ∨ d.move = d ∧ (d.stage = .done ∨ d.IsBlocked) := by
  cases h with
  | issuing hj h => exact Or.inl (issuing_move hj h)
  | answering ha hs h => exact Or.inl (answering_move ha hs h)
  | turning hj hx ht h => exact Or.inl (turning_move hj hx ht h)
  | awaiting hj hx ht h =>
    rcases awaiting_move hj hx ht h with hcloser | ⟨hsame, hblocked⟩
    · exact Or.inl hcloser
    · exact Or.inr ⟨hsame, Or.inr hblocked⟩
  | draining hj hx ht h => exact Or.inl (draining_move hj hx ht h)
  | resting h =>
    refine Or.inl ⟨0, Nat.one_pos, ?_⟩
    simp only [move, act_eq (h.waitIdle rfl)]
    exact .done h
  | done h => exact Or.inr ⟨rfl, Or.inl rfl⟩

/-- What a blocked demonstration waits for is there: the head of the response, or the teardown. -/
theorem Course.ready_of_blocked (h : Course s m n d r) {j : Nat} (hj : d.stage = .awaiting j)
    (hlt : j < d.connection.lanes.size) :
    d.connection.channel.result? j ≠ none ∨
      (Tracker.told d.connection.channel.notices).isClosed = true := by
  cases h with
  | awaiting hjn hx ht h =>
    cases hj
    by_cases hserved : j < served s m n
    · refine Or.inl ?_
      rw [h.result?_eq, if_pos hserved]
      simp
    · refine Or.inr ?_
      rw [h.told_eq]
      have hdrain : s ≠ .drain := by
        rintro rfl
        exact hserved (Nat.lt_of_lt_of_eq hlt h.size)
      rw [if_pos (ht hdrain (Nat.not_lt.mp hserved))]
      rfl
  | issuing | answering | turning | draining | resting | done => cases hj

end Demo

end BoundedPipelining
