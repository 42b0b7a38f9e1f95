import BoundedPipelining.Proofs.Connection.Steps

/-!
# The invariant of a connection

The number of slots taken, the tickets inside the exchanges and the registry are three pieces of
state that the tasks and the callers update at different moments. `Sound` is what ties them
together in every reachable state, and what ties every error that an exchange has stored to the
tracker's.

## What each clause is for

* The slots taken are exactly the tickets held, so a ticket given up is a slot given back. While
  the tasks are run, a ticket is held exactly as long as its exchange has not settled; once they
  are stopped, an exchange may vanish with its ticket.
* The notice of an exchange that has not settled is quiet. Without this clause the invariant would
  not be preserved: a watcher that is woken too early would end and leave an exchange behind that
  nobody fails at the close.
* Whoever watches an exchange keeps it registered, and an exchange leaves the registry only after
  it has settled.
* An error is stored in an exchange, or on its way to a caller, only if the tracker closed with it.
-/

namespace BoundedPipelining

namespace Connection

/-- What holds of lane `i` of a connection whose tasks are run or not and whose tracker is `t`. -/
structure LaneSound (running : Bool) (t : Tracker) (i : Nat) (l : Lane) : Prop where
  id : l.exchange.id = ⟨i + 1⟩
  ticket : l.exchange.ticket = true → l.exchange.phase.holdsSlot = true
  held : running = true → l.exchange.phase.holdsSlot = true → l.exchange.ticket = true
  quiet : l.exchange.phase.holdsSlot = true → l.exchange.settled.IsQuiet
  failure : ∀ e, l.exchange.failure? = some e → t = .closed e
  reply : ∀ e, l.reply = .sent (.error e) → t = .closed e
  listed : l.exchange.phase.holdsSlot = true → l.registered = true
  watched : running = true → l.registered = true → l.watcher.isLive = true

/-- The invariant of a connection. -/
structure Sound (c : Connection) : Prop where
  lane : ∀ i l, c.lanes[i]? = some l → LaneSound c.running c.tracker i l
  slots : c.inFlight = c.lanes.countP fun l ↦ l.exchange.ticket
  room : c.inFlight ≤ c.books.limiter.max.val
  drawn : c.sequence.drawn = c.lanes.size
  facade : c.facade = false → c.tracker.isClosed = true

variable {c c' : Connection} {i : Nat} {l l' : Lane} {b : Books}

theorem sound_ofDepth (d : Depth) (policy : ClosingPolicy) : Sound (ofDepth d policy) where
  lane := by simp [ofDepth]
  slots := by simp [ofDepth, inFlight]
  room := by simp [ofDepth, inFlight]
  drawn := rfl
  facade := by simp [ofDepth]

/-! ## What a change of a lane does to its slot -/

/-- A lane keeps its ticket and the gate its slots, or both give up one. -/
def SlotKept (g g' : Limiter) (l l' : Lane) : Prop :=
  (l'.exchange.ticket = l.exchange.ticket ∧ g' = g) ∨
    (l.exchange.ticket = true ∧ l'.exchange.ticket = false ∧ g' = g.giveBack)

theorem slotKept_settle (g : Books) (l : Lane) (p : Progress) (how : Settlement) :
    SlotKept g.limiter (({ l.exchange with progress := p }).settle how g).2.limiter l
      { l with exchange := (({ l.exchange with progress := p }).settle how g).1 } := by
  by_cases ht : l.exchange.ticket = true
  · exact Or.inr ⟨ht, Exchange.ticket_settle _ how g, by rw [Exchange.limiter_settle, if_pos ht]⟩
  · refine Or.inl ⟨?_, by rw [Exchange.limiter_settle, if_neg ht]⟩
    rw [Exchange.ticket_settle, Bool.not_eq_true _ |>.mp ht]

theorem LaneMove.slotKept (m : LaneMove c i l l' b) :
    SlotKept c.books.limiter b.limiter l l' := by
  cases m with
  | head | failure | lost | caller | watch | unwatch => exact Or.inl ⟨rfl, rfl⟩
  | draining => exact Or.inl ⟨Exchange.ticket_draining _, rfl⟩
  | fail => exact slotKept_settle _ _ _ _
  | giveBack _ _ ht => exact Or.inr ⟨ht, rfl, rfl⟩

theorem countP_put (h : c.lanes[i]? = some l) (l' : Lane) (b : Books) (p : Lane → Bool) :
    (c.put i l' b).lanes.countP p + (if p l then 1 else 0)
      = c.lanes.countP p + (if p l' then 1 else 0) := by
  obtain ⟨hi, hl⟩ := Array.getElem?_eq_some_iff.mp h
  -- The count is taken down by one before it is taken up again, so it must not be zero.
  have hpos : (if p l then 1 else 0) ≤ c.lanes.countP p := by
    split
    · rename_i hp
      exact Array.countP_pos_iff.mpr ⟨l, hl ▸ Array.getElem_mem hi, hp⟩
    · exact Nat.zero_le _
  rw [put, Array.setIfInBounds_def, dif_pos hi, Array.countP_set hi, hl]
  omega

/-- Putting a sound lane in place keeps a connection sound, if the books follow the lane. -/
private theorem Sound.put (hc : Sound c) (h : c.lanes[i]? = some l)
    (hl : LaneSound c.running c.tracker i l') (hs : SlotKept c.books.limiter b.limiter l l') :
    Sound (c.put i l' b) where
  lane j l₁ hj := by
    rcases lane?_put_cases h hj with ⟨rfl, rfl⟩ | ⟨-, hj⟩
    · exact hl
    · exact hc.lane j l₁ hj
  slots := by
    -- The lane's ticket is counted once before and once after, and the gate follows it.
    have hcount := countP_put h l' b fun l ↦ l.exchange.ticket
    have hslots := hc.slots
    rw [inFlight] at hslots
    change b.limiter.inFlight = _
    rcases hs with ⟨ht, hb⟩ | ⟨ht, ht', hb⟩
    · rw [ht] at hcount
      rw [hb]
      omega
    · rw [ht, ht'] at hcount
      rw [hb, Limiter.inFlight_giveBack]
      simp only [if_true, Bool.false_eq_true, if_false] at hcount
      omega
  room := by
    have hroom := hc.room
    rw [inFlight] at hroom
    change b.limiter.inFlight ≤ b.limiter.max.val
    rcases hs with ⟨-, hb⟩ | ⟨-, -, hb⟩
    · rw [hb]
      exact hroom
    · rw [hb, Limiter.inFlight_giveBack, Limiter.max_giveBack]
      omega
  drawn := by
    rw [size_lanes_put]
    exact hc.drawn
  facade := hc.facade

/-! ## Every change keeps the invariant -/

private theorem LaneSound.settle (hl : LaneSound c.running c.tracker i l) {p : Progress}
    (hp : p.phase.isTerminal = true) (he : ∀ e, p = .failed e → c.tracker = .closed e)
    (how : Settlement) :
    LaneSound c.running c.tracker i
      { l with exchange := (({ l.exchange with progress := p }).settle how c.books).1 } := by
  have hslot : (({ l.exchange with progress := p }).settle how c.books).1.phase.holdsSlot
      = false := by
    simp [Exchange.phase, Phase.holdsSlot, hp]
  refine ⟨by simpa using hl.id, by simp, by simp [hslot], by simp [hslot], fun e hf ↦ ?_,
    hl.reply, by simp [hslot], hl.watched⟩
  rw [Exchange.failure?_eq_some_iff, Exchange.progress_settle] at hf
  exact he e hf

private theorem LaneSound.move (hl : LaneSound c.running c.tracker i l)
    (m : LaneMove c i l l' b) : LaneSound c.running c.tracker i l' := by
  cases m with
  | head _ hp _ _ =>
    have hslot : l.exchange.phase.holdsSlot = true := by
      rw [Exchange.phase, hp]
      rfl
    refine ⟨hl.id, fun _ ↦ rfl, fun hr _ ↦ hl.held hr hslot, fun _ ↦ hl.quiet hslot, ?_, ?_,
      fun _ ↦ hl.listed hslot, hl.watched⟩
    · rintro e hf
      cases hf
    · rintro e hr
      cases hr
  | failure _ h =>
    refine ⟨hl.id, hl.ticket, hl.held, hl.quiet, hl.failure, ?_, hl.listed, hl.watched⟩
    rintro e' hr
    cases hr
    rcases h with hf | ⟨-, ht⟩
    · exact hl.failure _ hf
    · exact ht
  | lost =>
    refine ⟨hl.id, hl.ticket, hl.held, hl.quiet, hl.failure, ?_, hl.listed, hl.watched⟩
    rintro e hr
    cases hr
  | draining =>
    exact {
      id := by simpa using hl.id
      ticket := by simpa using hl.ticket
      held := by simpa using hl.held
      quiet := by simpa using hl.quiet
      failure := by simpa using hl.failure
      reply := hl.reply
      listed := by simpa using hl.listed
      watched := hl.watched }
  | caller =>
    exact ⟨hl.id, hl.ticket, hl.held, hl.quiet, hl.failure, hl.reply, hl.listed, hl.watched⟩
  | watch _ hw hn =>
    exact ⟨hl.id, hl.ticket, hl.held, fun hs ↦ hn (hl.quiet hs), hl.failure, hl.reply, hl.listed,
      fun _ _ ↦ hw⟩
  | unwatch _ h =>
    -- The notice of an exchange that still holds its slot is quiet, so this one has settled.
    have hslot : ¬ l.exchange.phase.holdsSlot = true := by
      intro hs
      rcases h with ht | hq
      · simp [Phase.holdsSlot, ht] at hs
      · exact hq (hl.quiet hs)
    refine ⟨hl.id, hl.ticket, hl.held, fun hs ↦ absurd hs hslot, hl.failure, hl.reply,
      fun hs ↦ absurd hs hslot, fun _ hregistered ↦ ?_⟩
    cases hregistered
  | fail ht _ =>
    refine hl.settle rfl (fun e he ↦ ?_) _
    cases he
    exact ht
  | giveBack hr _ _ =>
    refine ⟨hl.id, fun ht ↦ ?_, fun hr' ↦ ?_, hl.quiet, hl.failure, hl.reply, hl.listed,
      hl.watched⟩
    · cases ht
    · rw [hr] at hr'
      cases hr'

/-- A tracker that has closed stays as it is when it is told to close or to heed an
announcement. -/
theorem closed_markClosing {t : Tracker} {e : ClassifiedError} (h : t = .closed e) :
    t.markClosing = .closed e := by
  rw [h]
  rfl

theorem tracker_close (c : Connection) (cause : Option TransportError) :
    (c.close cause).2.tracker = .closed (c.tracker.closeError cause) := by
  simp [close]

theorem closed_close {e : ClassifiedError} (h : c.tracker = .closed e)
    (cause : Option TransportError) : (c.close cause).2.tracker = .closed e := by
  rw [tracker_close, h]
  rfl

/-- Only the parts that the invariant speaks of matter to it, and of the tracker only that it keeps
the error it closed with. -/
private theorem Sound.congr (hc : Sound c) (hlanes : c'.lanes = c.lanes)
    (hrunning : c'.running = c.running) (hgate : c'.books.limiter = c.books.limiter)
    (hsequence : c'.sequence = c.sequence)
    (htracker : ∀ e, c.tracker = .closed e → c'.tracker = .closed e)
    (hfacade : c'.facade = false → c.facade = false ∨ c.tracker.isClosed = true) : Sound c' where
  lane i l h := by
    have hl := hc.lane i l (hlanes ▸ h)
    rw [hrunning]
    exact { hl with
      failure := fun e hf ↦ htracker e (hl.failure e hf)
      reply := fun e hr ↦ htracker e (hl.reply e hr) }
  slots := by
    rw [hlanes, inFlight, hgate]
    exact hc.slots
  room := by
    rw [inFlight, hgate]
    exact hc.room
  drawn := by
    rw [hlanes, hsequence]
    exact hc.drawn
  facade h := by
    have hclosed : c.tracker.isClosed = true := (hfacade h).elim hc.facade id
    cases ht : c.tracker with
    | opened | closing => simp [ht, Tracker.isClosed] at hclosed
    | closed e =>
      rw [htracker e ht]
      rfl

private theorem Sound.stopTasks (hc : Sound c) : Sound c.stopTasks where
  lane i l h := by
    simp only [Connection.stopTasks, Array.getElem?_map, Option.map_eq_some_iff] at h
    obtain ⟨l₀, h₀, rfl⟩ := h
    have hl := hc.lane i l₀ h₀
    -- A dispatch task that is stopped leaves no result, so no error either.
    refine ⟨hl.id, hl.ticket, fun hr ↦ ?_, hl.quiet, hl.failure, fun e hr ↦ hl.reply e ?_,
      hl.listed, fun hr ↦ ?_⟩
    · cases hr
    · by_cases ha : l₀.reply.isAwaited = true
      · rw [if_pos ha] at hr
        cases hr
      · rwa [if_neg ha] at hr
    · cases hr
  slots := by
    rw [Connection.stopTasks, Array.countP_map]
    exact hc.slots
  room := hc.room
  drawn := by
    rw [Connection.stopTasks, Array.size_map]
    exact hc.drawn
  facade := hc.facade

theorem Sound.move (hc : Sound c) (m : Move c c') : Sound c' := by
  cases m with
  | refuse | told | watches | peer | take | monitor =>
    exact hc.congr rfl rfl rfl rfl (fun _ ↦ id) Or.inl
  | heed => exact hc.congr rfl rfl rfl rfl (fun _ ↦ closed_markClosing) Or.inl
  | close => exact hc.congr rfl rfl rfl rfl (fun _ h ↦ closed_close h _) Or.inl
  | leave h => exact hc.congr rfl rfl rfl rfl (fun _ ↦ id) fun _ ↦ Or.inr h
  | lane h m => exact hc.put h ((hc.lane _ _ h).move m) m.slotKept

theorem Sound.completion (hc : Sound c) (h : Completion c i c') : Sound c' := by
  cases h with
  | intro h _ _ _ _ =>
    refine hc.put h ((hc.lane _ _ h).settle rfl (fun e he ↦ ?_) _) (slotKept_settle _ _ _ _)
    cases he

/-- The lane of a newly admitted request. -/
private theorem laneSound_newLane (c : Connection) (t : Tracker) (i : Nat) :
    LaneSound c.running t i (c.newLane ⟨i + 1⟩) := by
  by_cases hr : c.running = true
  · rw [newLane, if_pos hr]
    refine ⟨rfl, fun _ ↦ rfl, fun _ _ ↦ rfl, fun _ ↦ Notice.isQuiet_fresh, fun e hf ↦ ?_,
      fun e hr ↦ ?_, fun _ ↦ rfl, fun _ _ ↦ rfl⟩
    · cases hf
    · cases hr
  · rw [newLane, if_neg hr]
    refine ⟨rfl, fun _ ↦ rfl, fun hr' ↦ absurd hr' hr, fun _ ↦ Notice.isQuiet_fresh,
      fun e hf ↦ ?_, fun e hr ↦ ?_, fun _ ↦ rfl, fun hr' ↦ absurd hr' hr⟩
    · cases hf
    · cases hr

theorem ticket_newLane (c : Connection) (id : ExchangeId) :
    (c.newLane id).exchange.ticket = true := by
  rw [newLane]
  split <;> rfl

theorem Sound.admission {r : Request} (hc : Sound c) (h : Admission c r c') : Sound c' := by
  have hroom := h.room
  rw [h.eq, admitted, Books.takeSlot_of_lt hroom]
  exact {
    lane := fun j l hj ↦ by
      rw [Array.getElem?_push] at hj
      split at hj
      · rename_i hsize
        cases hj
        have hid : c.sequence.next.1 = ⟨j + 1⟩ := by
          rw [ExchangeSequence.next, hc.drawn, hsize]
        rw [hid]
        exact laneSound_newLane c c.tracker j
      · exact hc.lane j l hj
    slots := by
      simp only [inFlight, Array.countP_push, ticket_newLane, if_true]
      rw [← hc.slots]
      rfl
    room := hroom
    drawn := by
      simp only [ExchangeSequence.next, Array.size_push, hc.drawn]
    facade := hc.facade }

theorem Sound.change (hc : Sound c) (h : Change c c') : Sound c' := by
  cases h with
  | move m => exact hc.move m
  | admission h => exact hc.admission h
  | completion h => exact hc.completion h
  | stop h => exact h ▸ hc.stopTasks

theorem Sound.moves (hc : Sound c) (m : Moves c c') : Sound c' :=
  m.keeps (fun _ _ m hc ↦ hc.move m) hc

theorem Sound.changes (hc : Sound c) (h : Changes c c') : Sound c' :=
  h.keeps (fun _ _ h hc ↦ hc.change h) hc

theorem Sound.step (hc : Sound c) (s : Step) : Sound (c.step s).2 :=
  hc.changes (step_changes c s)

/-- The invariant holds in every reachable state. -/
theorem sound_run (d : Depth) (policy : ClosingPolicy) (steps : List Step) :
    Sound ((ofDepth d policy).run steps) :=
  (sound_ofDepth d policy).changes (run_changes _ steps)

end Connection

end BoundedPipelining
