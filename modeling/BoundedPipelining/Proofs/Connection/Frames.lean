import BoundedPipelining.Proofs.Connection.Soundness

/-!
# What lasts

A guarantee over a whole run rests on the little that no step may take back. `Frame c c'` collects
it: a connection that has closed stays closed with its error, a settled exchange stays as it is, a
result that was handed over stays handed over, a task that has ended stays ended, and the gate
remembers that it fell empty. Frames compose, so what every change keeps, every run keeps.

After the close the frame says more. No request is admitted any more, so the lanes are those that
were there at the close, and slots are only given back.
-/

namespace BoundedPipelining

open Relation (ReflTransGen)

/-! ## The gate -/

/-- What lasts of a gate. A gate that was busy is still busy, or it has fallen empty since. -/
structure Limiter.Frame (g g' : Limiter) : Prop where
  max : g'.max = g.max
  emptied : g.emptied < g'.emptied ∨ g.emptied = g'.emptied ∧ (0 < g.inFlight → 0 < g'.inFlight)

namespace Limiter

theorem Frame.refl (g : Limiter) : g.Frame g := ⟨rfl, Or.inr ⟨rfl, id⟩⟩

theorem Frame.trans {g₁ g₂ g₃ : Limiter} (h₁ : g₁.Frame g₂) (h₂ : g₂.Frame g₃) : g₁.Frame g₃ := by
  refine ⟨h₂.max.trans h₁.max, ?_⟩
  -- Once it has fallen empty, it has fallen empty since.
  rcases h₁.emptied with hlt | ⟨heq, hbusy⟩
  · rcases h₂.emptied with hlt' | ⟨heq', -⟩
    · exact Or.inl (Nat.lt_trans hlt hlt')
    · exact Or.inl (heq' ▸ hlt)
  · rcases h₂.emptied with hlt' | ⟨heq', hbusy'⟩
    · exact Or.inl (heq ▸ hlt')
    · exact Or.inr ⟨heq.trans heq', fun h ↦ hbusy' (hbusy h)⟩

theorem frame_giveBack (g : Limiter) : g.Frame g.giveBack := by
  refine ⟨g.max_giveBack, ?_⟩
  by_cases h : g.inFlight ≤ 1
  · rw [giveBack, if_pos h]
    exact Or.inl (Nat.lt_succ_self _)
  · rw [giveBack, if_neg h]
    refine Or.inr ⟨rfl, fun _ ↦ ?_⟩
    change 0 < g.inFlight - 1
    omega

end Limiter

/-- A wait is *behind* a gate if the gate was busy when the wait last looked at it: since then the
gate has fallen empty, or it is busy still. -/
def IdleWait.IsBehind (g : Limiter) : IdleWait → Prop
  | fresh => True
  | since n => n < g.emptied ∨ n = g.emptied ∧ 0 < g.inFlight

namespace IdleWait

theorem IsBehind.mono {g g' : Limiter} (h : g.Frame g') {w : IdleWait} (hw : w.IsBehind g) :
    w.IsBehind g' := by
  cases w with
  | fresh => trivial
  | since n =>
    rcases hw with hlt | ⟨rfl, hbusy⟩
    · rcases h.emptied with hlt' | ⟨heq, -⟩
      · exact Or.inl (Nat.lt_trans hlt hlt')
      · exact Or.inl (heq ▸ hlt)
    · rcases h.emptied with hlt' | ⟨heq, hbusy'⟩
      · exact Or.inl hlt'
      · exact Or.inr ⟨heq, hbusy' hbusy⟩

private theorem isBehind_look {g : Limiter} {w : IdleWait} (h : look g = some w) :
    w.IsBehind g := by
  rw [look] at h
  split at h
  · cases h
  · rename_i hbusy
    cases h
    exact Or.inr ⟨rfl, Nat.pos_of_ne_zero hbusy⟩

/-- A wait that goes on after a poll is behind the gate it looked at. -/
theorem IsBehind.poll {g : Limiter} {w w' : IdleWait} (hw : w.IsBehind g)
    (h : w.poll g = some w') : w'.IsBehind g := by
  cases w with
  | fresh => exact isBehind_look h
  | since n =>
    rw [IdleWait.poll] at h
    split at h
    · cases h
      exact hw
    · exact isBehind_look h

/-- A wait is over at an idle gate. -/
theorem IsBehind.poll_of_idle {g : Limiter} {w : IdleWait} (hw : w.IsBehind g)
    (h : g.inFlight = 0) : w.poll g = none := by
  cases w with
  | fresh => rw [IdleWait.poll, look, if_pos h]
  | since n =>
    have hne : n ≠ g.emptied := by
      rcases hw with hlt | ⟨-, hbusy⟩ <;> omega
    rw [IdleWait.poll, if_neg hne, look, if_pos h]

end IdleWait

/-! ## A lane and a call -/

/-- What lasts of a lane. -/
structure Lane.Frame (l l' : Lane) : Prop where
  progress : l.exchange.phase.isTerminal = true → l'.exchange.progress = l.exchange.progress
  reply : l.reply.isAwaited = false → l'.reply = l.reply
  watcher : l.watcher.isLive = false → l'.watcher.isLive = false
  gone : l.caller.isHolding = false → l'.caller.isHolding = false

namespace Lane

theorem Frame.refl (l : Lane) : l.Frame l := ⟨fun _ ↦ rfl, fun _ ↦ rfl, id, id⟩

theorem Frame.trans {l₁ l₂ l₃ : Lane} (h₁ : l₁.Frame l₂) (h₂ : l₂.Frame l₃) : l₁.Frame l₃ where
  progress h := by
    have hsame := h₁.progress h
    refine (h₂.progress ?_).trans hsame
    rw [Exchange.phase, hsame]
    exact h
  reply h := by
    have hsame := h₁.reply h
    exact (h₂.reply (hsame ▸ h)).trans hsame
  watcher h := h₂.watcher (h₁.watcher h)
  gone h := h₂.gone (h₁.gone h)

end Lane

/-- What lasts of a call: a refusal until its caller was told, everything else for good. -/
def Call.Frame (x y : Call) : Prop :=
  y = x ∨ (∃ e, x = .refused e) ∧ y = .over

theorem Call.Frame.trans {x y z : Call} (h₁ : x.Frame y) (h₂ : y.Frame z) : x.Frame z := by
  rcases h₁ with rfl | ⟨hx, rfl⟩
  · exact h₂
  · rcases h₂ with rfl | ⟨⟨e, he⟩, -⟩
    · exact Or.inr ⟨hx, rfl⟩
    · cases he

namespace Connection

/-! ## A connection -/

/-- What lasts of a connection. -/
structure Frame (c c' : Connection) : Prop where
  tracker : ∀ e, c.tracker = .closed e → c'.tracker = .closed e
  facade : c.facade = false → c'.facade = false
  gate : c.books.limiter.Frame c'.books.limiter
  lane : ∀ (i : Nat) (l : Lane), c.lanes[i]? = some l → ∃ l', c'.lanes[i]? = some l' ∧ l.Frame l'
  call : ∀ (k : Nat) (x : Call), c.calls[k]? = some x → ∃ y, c'.calls[k]? = some y ∧ x.Frame y
  size : c.tracker.isClosed = true → c'.lanes.size = c.lanes.size
  slots : c.tracker.isClosed = true → c'.inFlight ≤ c.inFlight

variable {c c' c₁ c₂ c₃ : Connection} {i : Nat} {l l' : Lane} {b : Books}

theorem Frame.isClosed (h : Frame c c') (hc : c.tracker.isClosed = true) :
    c'.tracker.isClosed = true := by
  obtain ⟨e, he⟩ := Option.isSome_iff_exists.mp ((Tracker.terminal?_isSome _).trans hc)
  rw [h.tracker e (Tracker.terminal?_eq_some_iff.mp he)]
  rfl

theorem Frame.isClosed_of (h : Frame c c') (hc : c'.tracker.isClosed = false) :
    c.tracker.isClosed = false := by
  by_contra hnot
  rw [h.isClosed (Bool.not_eq_false _ |>.mp hnot)] at hc
  cases hc

theorem Frame.refl (c : Connection) : Frame c c where
  tracker _ h := h
  facade h := h
  gate := .refl _
  lane _ l h := ⟨l, h, .refl l⟩
  call _ x h := ⟨x, h, Or.inl rfl⟩
  size _ := rfl
  slots _ := Nat.le_refl _

theorem Frame.trans (h₁ : Frame c₁ c₂) (h₂ : Frame c₂ c₃) : Frame c₁ c₃ where
  tracker e h := h₂.tracker e (h₁.tracker e h)
  facade h := h₂.facade (h₁.facade h)
  gate := h₁.gate.trans h₂.gate
  lane i l h := by
    obtain ⟨l₂, hl₂, hframe⟩ := h₁.lane i l h
    obtain ⟨l₃, hl₃, hframe'⟩ := h₂.lane i l₂ hl₂
    exact ⟨l₃, hl₃, hframe.trans hframe'⟩
  call k x h := by
    obtain ⟨y, hy, hframe⟩ := h₁.call k x h
    obtain ⟨z, hz, hframe'⟩ := h₂.call k y hy
    exact ⟨z, hz, hframe.trans hframe'⟩
  size h := (h₂.size (h₁.isClosed h)).trans (h₁.size h)
  slots h := Nat.le_trans (h₂.slots (h₁.isClosed h)) (h₁.slots h)

/-- A change of neither lanes nor gate keeps what lasts if it keeps the tracker's error, the calls
and the absence of the facade. -/
private theorem Frame.of_lanes (hlanes : c'.lanes = c.lanes)
    (hgate : c'.books.limiter = c.books.limiter)
    (htracker : ∀ e, c.tracker = .closed e → c'.tracker = .closed e)
    (hfacade : c.facade = false → c'.facade = false)
    (hcall : ∀ (k : Nat) (x : Call), c.calls[k]? = some x →
      ∃ y, c'.calls[k]? = some y ∧ x.Frame y) :
    Frame c c' where
  tracker := htracker
  facade := hfacade
  gate := hgate ▸ .refl _
  lane i l h := ⟨l, hlanes ▸ h, .refl l⟩
  call := hcall
  size _ := by rw [hlanes]
  slots _ := Nat.le_of_eq (congrArg Limiter.inFlight hgate)

private theorem same_calls (hcalls : c'.calls = c.calls) (k : Nat) (x : Call)
    (h : c.calls[k]? = some x) : ∃ y, c'.calls[k]? = some y ∧ x.Frame y :=
  ⟨x, hcalls ▸ h, Or.inl rfl⟩

/-- A new call changes nothing about those before it. -/
private theorem push_calls (y : Call) (k : Nat) (x : Call) (h : c.calls[k]? = some x) :
    ∃ z, (c.calls.push y)[k]? = some z ∧ x.Frame z := by
  have hk := (Array.getElem?_eq_some_iff.mp h).1
  exact ⟨x, by rw [Array.getElem?_push, if_neg (Nat.ne_of_lt hk), h], Or.inl rfl⟩

private theorem told_calls {k : Nat} {e : ConnectionError} (h : c.calls[k]? = some (.refused e))
    (j : Nat) (x : Call) (hj : c.calls[j]? = some x) :
    ∃ y, (c.calls.set! k .over)[j]? = some y ∧ x.Frame y := by
  have hk := (Array.getElem?_eq_some_iff.mp h).1
  by_cases hkj : k = j
  · subst hkj
    rw [h] at hj
    cases hj
    exact ⟨.over, Array.getElem?_setIfInBounds_self_of_lt hk, Or.inr ⟨⟨e, rfl⟩, rfl⟩⟩
  · exact ⟨x, (Array.getElem?_setIfInBounds_ne hkj).trans hj, Or.inl rfl⟩

theorem SlotKept.frame {g g' : Limiter} (h : SlotKept g g' l l') : g.Frame g' := by
  rcases h with ⟨-, rfl⟩ | ⟨-, -, rfl⟩
  · exact .refl _
  · exact g.frame_giveBack

theorem SlotKept.inFlight_le {g g' : Limiter} (h : SlotKept g g' l l') :
    g'.inFlight ≤ g.inFlight := by
  rcases h with ⟨-, rfl⟩ | ⟨-, -, rfl⟩
  · exact Nat.le_refl _
  · rw [Limiter.inFlight_giveBack]
    exact Nat.sub_le _ _

private theorem Frame.put (h : c.lanes[i]? = some l) (hl : l.Frame l')
    (hs : SlotKept c.books.limiter b.limiter l l') : Frame c (c.put i l' b) where
  tracker _ h := h
  facade h := h
  gate := hs.frame
  lane j l₀ hj := by
    by_cases hij : i = j
    · subst hij
      rw [h] at hj
      cases hj
      exact ⟨l', lane?_put_self h l' b, hl⟩
    · exact ⟨l₀, by rw [lane?_put_ne hij, hj], .refl l₀⟩
  call _ x h := ⟨x, h, Or.inl rfl⟩
  size _ := size_lanes_put c i l' b
  slots _ := hs.inFlight_le

private theorem LaneMove.frame (m : LaneMove c i l l' b) : l.Frame l' := by
  cases m with
  | head hr hp =>
    refine ⟨fun h ↦ ?_, fun h ↦ ?_, id, id⟩
    · rw [Exchange.phase, hp] at h
      cases h
    · rw [hr] at h
      cases h
  | failure hr =>
    refine ⟨fun _ ↦ rfl, fun h ↦ ?_, id, id⟩
    rw [hr] at h
    cases h
  | lost hr =>
    refine ⟨fun _ ↦ rfl, fun h ↦ ?_, id, id⟩
    rw [hr] at h
    cases h
  | draining =>
    exact ⟨fun h ↦ by rw [Exchange.draining_of_isTerminal h], fun _ ↦ rfl, id, id⟩
  | @caller k hk =>
    refine ⟨fun _ ↦ rfl, fun _ ↦ rfl, id, fun h ↦ ?_⟩
    by_contra hnot
    rw [hk (Bool.not_eq_false _ |>.mp hnot)] at h
    cases h
  | watch hl =>
    refine ⟨fun _ ↦ rfl, fun _ ↦ rfl, fun h ↦ ?_, id⟩
    rw [hl] at h
    cases h
  | unwatch => exact ⟨fun _ ↦ rfl, fun _ ↦ rfl, fun _ ↦ rfl, id⟩
  | fail _ hs =>
    refine ⟨fun h ↦ ?_, fun _ ↦ rfl, id, id⟩
    simp [Phase.holdsSlot, h] at hs
  | giveBack => exact ⟨fun _ ↦ rfl, fun _ ↦ rfl, id, id⟩

theorem Move.frame (m : Move c c') : Frame c c' := by
  cases m with
  | refuse => exact .of_lanes rfl rfl (fun _ ↦ id) id (push_calls _)
  | told h => exact .of_lanes rfl rfl (fun _ ↦ id) id (told_calls h)
  | watches | peer | take | monitor =>
    exact .of_lanes rfl rfl (fun _ ↦ id) id (same_calls rfl)
  | heed => exact .of_lanes rfl rfl (fun _ ↦ closed_markClosing) id (same_calls rfl)
  | close => exact .of_lanes rfl rfl (fun _ h ↦ closed_close h _) id (same_calls rfl)
  | leave => exact .of_lanes rfl rfl (fun _ ↦ id) (fun _ ↦ rfl) (same_calls rfl)
  | lane h m => exact .put h m.frame m.slotKept

theorem Completion.frame (h : Completion c i c') : Frame c c' := by
  obtain ⟨h, -, -, hs, -⟩ := h
  refine .put h ⟨fun ht ↦ ?_, fun _ ↦ rfl, id, id⟩ (slotKept_settle _ _ _ _)
  simp [Phase.holdsSlot, ht] at hs

theorem Admission.frame {r : Request} (h : Admission c r c') : Frame c c' := by
  have hroom := h.room
  -- What a frame says of a closed connection holds because this one is not closed.
  have hopen := h.isOpen
  rw [h.eq, admitted, Books.takeSlot_of_lt hroom]
  exact {
    tracker := fun _ ht ↦ ht
    facade := fun hf ↦ hf
    gate := ⟨rfl, Or.inr ⟨rfl, fun _ ↦ Nat.succ_pos _⟩⟩
    lane := fun i l hi ↦ by
      have hsize := (Array.getElem?_eq_some_iff.mp hi).1
      exact ⟨l, by rw [Array.getElem?_push, if_neg (Nat.ne_of_lt hsize), hi], .refl l⟩
    call := push_calls _
    size := fun hclosed ↦ by
      rw [hopen] at hclosed
      cases hclosed
    slots := fun hclosed ↦ by
      rw [hopen] at hclosed
      cases hclosed }

theorem frame_stopTasks (c : Connection) : Frame c c.stopTasks where
  tracker _ h := h
  facade h := h
  gate := .refl _
  lane i l h := by
    refine ⟨{ l with
      reply := if l.reply.isAwaited then .lost else l.reply
      watcher := .finished }, ?_, fun _ ↦ rfl, fun hr ↦ ?_, fun _ ↦ rfl, id⟩
    · rw [Connection.stopTasks, Array.getElem?_map, h]
      rfl
    · exact if_neg (by rw [hr]; exact Bool.false_ne_true)
  call _ x h := ⟨x, h, Or.inl rfl⟩
  size _ := Array.size_map
  slots _ := Nat.le_refl _

theorem Change.frame (h : Change c c') : Frame c c' := by
  cases h with
  | move m => exact m.frame
  | admission h => exact h.frame
  | completion h => exact h.frame
  | stop h => exact h ▸ frame_stopTasks c

theorem Changes.frame (h : Changes c c') : Frame c c' := by
  induction h with
  | refl => exact .refl c
  | tail _ h ih => exact ih.trans h.frame

theorem Moves.frame (m : Moves c c') : Frame c c' := m.changes.frame

theorem frame_step (c : Connection) (s : Step) : Frame c (c.step s).2 := (step_changes c s).frame

theorem frame_run (c : Connection) (steps : List Step) : Frame c (c.run steps) :=
  (run_changes c steps).frame

/-! ## Whether the tasks are run -/

theorem Move.running_eq (m : Move c c') : c'.running = c.running := by
  cases m <;> rfl

theorem Completion.running_eq (h : Completion c i c') : c'.running = c.running := by
  cases h
  rfl

theorem Moves.running_eq (m : Moves c c') : c'.running = c.running :=
  m.keeps (P := fun x ↦ x.running = c.running) (fun _ _ m h ↦ m.running_eq.trans h) rfl

private theorem BodyStep.running_eq {k : Nat} {a : Answer} (h : BodyStep c k a c') :
    c'.running = c.running :=
  h.keeps (P := fun x ↦ x.running = c.running) (fun _ _ m h ↦ m.running_eq.trans h)
    (fun _ _ _ hc h ↦ hc.running_eq.trans h) rfl

/-- Only the end of all tasks ends them. -/
theorem running_step {s : Step} (hs : s ≠ .stopTasks) (c : Connection) :
    (c.step s).2.running = c.running := by
  have hstep := step_cases c s
  generalize (c.step s).1 = a at hstep
  generalize (c.step s).2 = c' at hstep ⊢
  rcases hstep with ⟨-, m⟩ | ⟨h, m⟩ | ⟨-, h⟩ | m
  · exact m.running_eq
  · refine m.running_eq.trans ?_
    rw [h.eq, admitted]
  · exact h.running_eq
  · exact absurd rfl hs

theorem running_run {steps : List Step} (hs : .stopTasks ∉ steps) (c : Connection) :
    (c.run steps).running = c.running := by
  induction steps generalizing c with
  | nil => rfl
  | cons s steps ih =>
    rw [List.mem_cons, not_or] at hs
    exact (ih hs.2 _).trans (running_step (Ne.symm hs.1) c)

end Connection

end BoundedPipelining
