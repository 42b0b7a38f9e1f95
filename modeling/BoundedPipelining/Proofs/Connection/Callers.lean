import BoundedPipelining.Proofs.Connection.Looks
import BoundedPipelining.Proofs.Connection.Outstanding
import BoundedPipelining.Proofs.Connection.Requests
import Mathlib.Data.List.Induction

/-!
# What a step shows the caller of one exchange

A caller learns of its exchange through two handles only, first the response future and then the
body. `shown` lists what a step of a run shows through them: the result of the response, and one
sight for each poll of the body. A body that is done is still there to be polled, and then shows its
end again without a look at anything.

`lane_step` says what a step makes of one lane as its caller sees it. There is one case for each way
in which a step shows the caller something or takes a handle away, one for the steps of the peer,
which reach the write of the lane, and one for all others, which leave the caller and the write
aside. Whatever is said later about the callers of a run is a statement about these cases.

The same inversion gives the invariant that the polls of a body rest on: as long as the caller may
still take something out, the exchange has not completed (`Unfinished`). It is no invariant of
single moves, because the body that completes its exchange is done a move later.
-/

namespace BoundedPipelining

/-- Whether the caller may still be told something new. -/
def Caller.isOpen : Caller → Bool
  | waiting | holding false | draining _ => true
  | holding true | gone => false

namespace Connection

/-- Something that the caller of an exchange is shown. -/
inductive Event where
  /-- The response future resolved. -/
  | result (r : Except ClassifiedError Head)
  /-- The body was polled. -/
  | sight (s : Sight)

/-- The lane whose body a step polls, if that body is done. -/
def resting? (c : Connection) : Step → Option Nat
  | .caller (.read k) | .caller (.drain k) =>
    match c.laneOf? k with
    | some (i, l) =>
      match l.caller with
      | .holding true => some i
      | _ => none
    | none => none
  | _ => none

/-- What a step sees of the body of lane `i`. -/
def bodySights (c : Connection) (i : Nat) (s : Step) : List Sight :=
  match c.polling? s with
  | some (j, n) => if j = i then sights i n c else []
  | none => if c.resting? s = some i then [⟨.ended, []⟩] else []

/-- What an answer tells of a response. -/
def Answer.result? : Answer → Option (Except ClassifiedError Head)
  | .head h => some (.ok h)
  | .failed (.closed e) => some (.error e)
  | _ => none

/-- What a step shows the caller of lane `i`. -/
def shown (c : Connection) (i : Nat) (s : Step) : List Event :=
  match s with
  | .caller (.await k) =>
    if (c.laneOf? k).map Prod.fst = some i then
      ((c.step s).1.result?.map Event.result).toList
    else []
  | _ => (c.bodySights i s).map .sight

variable {c c' : Connection} {i k : Nat} {l l' : Lane} {s : Step}

/-! ## Lanes after a step -/

/-- Clearing up takes tickets away and nothing else. -/
theorem lane?_reclaim (h : c.lanes[i]? = some l) :
    ∃ t, c.reclaim.lanes[i]? = some { l with exchange := { l.exchange with ticket := t } } := by
  by_cases hr : c.running = true
  · rw [reclaim, if_pos hr]
    exact ⟨l.exchange.ticket, h⟩
  · rw [lanes_reclaim (Bool.not_eq_true _ |>.mp hr), Array.getElem?_map, h, Option.map_some, letGo]
    split
    · exact ⟨l.exchange.ticket, rfl⟩
    · exact ⟨false, rfl⟩

theorem lane?_setCaller (h : c.lanes[i]? = some l) (k : Caller) :
    (c.setCaller i k).lanes[i]? = some { l with caller := k } := by
  rw [setCaller_eq_put h]
  exact lane?_put_self h _ _

theorem laneOf?_of_admitted (hk : c.calls[k]? = some (.admitted i)) (hl : c.lanes[i]? = some l) :
    c.laneOf? k = some (i, l) := laneOf?_eq_some_iff.mpr ⟨hk, hl⟩

/-- The write of lane `i` is as it was. -/
def WriteKept (c c' : Connection) (i : Nat) : Prop :=
  ∀ w, c.channel.writes[i]? = some w → c'.channel.writes[i]? = some w

/-- How a step ends for lane `i` and its caller. -/
inductive LaneStep (c : Connection) (i : Nat) (l : Lane) : Step → Lane → Prop
  | peer {p : Channel.PeerStep} {l' : Lane} (hk : l'.caller = l.caller)
      (hp : l'.exchange.progress = .completed → l.exchange.progress = .completed) :
      LaneStep c i l (.peer p) l'
  | aside {s : Step} {l' : Lane} (hshown : c.shown i s = []) (hk : l'.caller = l.caller)
      (hp : l'.exchange.progress = .completed → l.exchange.progress = .completed)
      (hw : WriteKept c (c.step s).2 i) : LaneStep c i l s l'
  /-- The response future resolved with a head. -/
  | resolved {k : Nat} {head : Head} {l' : Lane} (hk : l.caller = .waiting)
      (hshown : c.shown i (.caller (.await k)) = [.result (.ok head)])
      (hr : l.reply = .sent (.ok head)) (hk' : l'.caller = .holding false)
      (hp : l'.exchange.progress = .completed → l.exchange.progress = .completed)
      (hw : WriteKept c (c.step (.caller (.await k))).2 i) :
      LaneStep c i l (.caller (.await k)) l'
  /-- The response future resolved with the error of the exchange. -/
  | refused {k : Nat} {e : ClassifiedError} {l' : Lane} (hk : l.caller = .waiting)
      (hshown : c.shown i (.caller (.await k)) = [.result (.error e)]) (hk' : l'.caller = .gone)
      (hf : l'.exchange.failure? = some e)
      (hw : WriteKept c (c.step (.caller (.await k))).2 i) :
      LaneStep c i l (.caller (.await k)) l'
  /-- The caller lets go of its handle. -/
  | left {s : Step} {l' : Lane} (hshown : c.shown i s = []) (hk' : l'.caller = .gone)
      (hw : WriteKept c (c.step s).2 i) : LaneStep c i l s l'
  | polled {s : Step} {n : Nat} {l₁ l' : Lane} {k' : Caller} (hpolling : c.polling? s = some (i, n))
      (hpolls : BodyPolls i c l (sights i n c) (polled i n c) l₁)
      (hend : PollEnd l (sights i n c) s (c.step s).1 k') (hk' : l'.caller = k')
      (hp : l'.exchange.progress = l₁.exchange.progress)
      (hch : (c.step s).2.channel = (polled i n c).channel) : LaneStep c i l s l'
  /-- A body that is done is polled again. -/
  | rested {s : Step} {l' : Lane} (hk : l.caller = .holding true)
      (hshown : c.shown i s = [.sight ⟨.ended, []⟩])
      (ha : (c.step s).1 = .ended ∧ l'.caller = .holding true ∨
        (c.step s).1 = .drained [] ∧ l'.caller = .gone)
      (hw : WriteKept c (c.step s).2 i) : LaneStep c i l s l'

/-! ## Which lane a step is about -/

theorem Step.call?_of_bodyCall? (h : s.bodyCall? = some k) : s.call? = some k := by
  match s with
  | .caller (.read _) | .caller (.drain _) => exact h

/-- A step polls the body of an admitted call, and its caller holds that body. -/
theorem polling?_eq_some {n : Nat} (h : c.polling? s = some (i, n)) :
    ∃ k l, s.bodyCall? = some k ∧ c.laneOf? k = some (i, l) ∧ l.caller.hasBody = true ∧
      l.caller.isOpen = true := by
  rw [polling?.eq_def] at h
  split at h
  · rename_i k
    split at h
    · rename_i j l hlane
      split at h
      · rename_i hk
        cases h
        exact ⟨k, l, rfl, hlane, by rw [hk]; rfl, by rw [hk]; rfl⟩
      · cases h
    · cases h
  · rename_i k
    split at h
    · rename_i j l hlane
      split at h
      · rename_i hk
        cases h
        exact ⟨k, l, rfl, hlane, by rw [hk]; rfl, by rw [hk]; rfl⟩
      · rename_i hk
        cases h
        exact ⟨k, l, rfl, hlane, by rw [hk]; rfl, by rw [hk]; rfl⟩
      · cases h
    · cases h
  · cases h

/-- A step polls a body that is done, and its caller still holds that body. -/
theorem resting?_eq_some (h : c.resting? s = some i) :
    ∃ k l, s.bodyCall? = some k ∧ c.laneOf? k = some (i, l) ∧ l.caller = .holding true := by
  rw [resting?.eq_def] at h
  split at h
  · rename_i k
    split at h
    · rename_i j l hlane
      split at h
      · rename_i hk
        cases h
        exact ⟨k, l, rfl, hlane, hk⟩
      · cases h
    · cases h
  · rename_i k
    split at h
    · rename_i j l hlane
      split at h
      · rename_i hk
        cases h
        exact ⟨k, l, rfl, hlane, hk⟩
      · cases h
    · cases h
  · cases h

/-- A step that is not addressed to lane `i` shows its caller nothing. -/
private theorem shown_of_not_addresses (hs : ¬ c.Addresses s i) : c.shown i s = [] := by
  have hbody : c.bodySights i s = [] := by
    rw [bodySights]
    split
    · rename_i j n hpolling
      rw [if_neg]
      rintro rfl
      obtain ⟨k, l, hk, hlane, -⟩ := polling?_eq_some hpolling
      exact hs ⟨k, Step.call?_of_bodyCall? hk, (laneOf?_eq_some_iff.mp hlane).1⟩
    · rw [if_neg]
      intro hresting
      obtain ⟨k, l, hk, hlane, -⟩ := resting?_eq_some hresting
      exact hs ⟨k, Step.call?_of_bodyCall? hk, (laneOf?_eq_some_iff.mp hlane).1⟩
  rw [shown.eq_def]
  split
  · rename_i k
    rw [if_neg]
    intro hnumber
    obtain ⟨⟨j, l⟩, hlane, hj⟩ := Option.map_eq_some_iff.mp hnumber
    cases hj
    exact hs ⟨k, rfl, (laneOf?_eq_some_iff.mp hlane).1⟩
  · rw [hbody]
    rfl

/-- A step that is not addressed to lane `i` leaves its caller aside. -/
private theorem laneStep_of_not_addresses (hl : c.lanes[i]? = some l)
    (hs : ¬ c.Addresses s i) :
    ∃ l', (c.step s).2.lanes[i]? = some l' ∧ LaneStep c i l s l' := by
  have hcompleted {l' : Lane} (hl' : (c.step s).2.lanes[i]? = some l')
      (hp : l'.exchange.progress = .completed) : l.exchange.progress = .completed := by
    rcases hasCompleted_step ⟨l', hl', hp⟩ with ⟨l₀, hl₀, hp₀⟩ | ⟨htakes, -⟩
    · cases hl.symm.trans hl₀
      exact hp₀
    · obtain ⟨k, hk, hcalls⟩ := htakes.call
      exact absurd ⟨k, Step.call?_of_bodyCall? hk, hcalls⟩ hs
  have haside {who : Nat → Prop} (h : Aside who c (c.step s).2) (hi : ¬ who i) :
      ∃ l', (c.step s).2.lanes[i]? = some l' ∧ LaneStep c i l s l' := by
    obtain ⟨l', hl', hk⟩ := h.caller i l hi hl
    exact ⟨l', hl', .aside (shown_of_not_addresses hs) hk (hcompleted hl')
      fun w hw ↦ h.write i w hi hw⟩
  have hscope := step_scope c s
  generalize hc' : (c.step s).2 = c' at hscope
  rcases hscope with h | ⟨-, hcaller, -⟩ | ⟨-, h⟩ | ⟨-, -, -, h⟩
  · exact hc' ▸ haside (hc' ▸ h.toAside) hs
  · obtain ⟨l', hl', hk⟩ := hcaller i l hl
    subst hc'
    exact ⟨l', hl', .peer hk (hcompleted hl')⟩
  · exact hc' ▸ haside (hc' ▸ h) id
  · exact hc' ▸ haside (hc' ▸ h) id

/-! ## The steps of the caller -/

/-- After an act that left lane `i` like this, the step leaves it like this too. -/
private theorem lane?_step {a : Answer} {c₁ : Connection} {l₁ : Lane} (hact : c.act s = (a, c₁))
    (hl₁ : c₁.lanes[i]? = some l₁) :
    (c.step s).1 = a ∧ (c.step s).2.channel = c₁.channel ∧
      ∃ l', (c.step s).2.lanes[i]? = some l' ∧ l'.caller = l₁.caller ∧
        l'.exchange.progress = l₁.exchange.progress := by
  have hstep : c.step s = (a, c₁.reclaim) := by rw [step, hact]
  obtain ⟨t, ht⟩ := lane?_reclaim hl₁
  rw [hstep]
  exact ⟨rfl, channel_reclaim c₁, _, ht, rfl, rfl⟩

private theorem writeKept_of_channel (h : c'.channel = c.channel) : WriteKept c c' i := by
  intro w hw
  rw [h, hw]

/-- A step that does nothing but answer leaves the lane aside. -/
private theorem laneStep_of_idle {a : Answer} (hl : c.lanes[i]? = some l) (hact : c.act s = (a, c))
    (hshown : (c.step s).1 = a → c.shown i s = []) :
    ∃ l', (c.step s).2.lanes[i]? = some l' ∧ LaneStep c i l s l' := by
  obtain ⟨ha, hch, l', hl', hk, hp⟩ := lane?_step hact hl
  exact ⟨l', hl', .aside (hshown ha) hk (fun h ↦ hp ▸ h) (writeKept_of_channel hch)⟩

/-- A step by which the caller lets go of its handle. -/
private theorem laneStep_of_left (hl : c.lanes[i]? = some l)
    (hact : c.act s = (.ok, c.setCaller i .gone)) (hshown : c.shown i s = []) :
    ∃ l', (c.step s).2.lanes[i]? = some l' ∧ LaneStep c i l s l' := by
  obtain ⟨-, hch, l', hl', hk, -⟩ := lane?_step hact (lane?_setCaller hl .gone)
  exact ⟨l', hl', .left hshown hk (writeKept_of_channel hch)⟩

/-- An exchange of which nothing was handed over fails, and tells the error it failed with. -/
private theorem fail_of_unsent {x : Exchange} {e : ClassifiedError} {b : Books}
    (h : x.progress = .dispatched ∨ ∃ e, x.failure? = some e) :
    (x.fail e b).2.1.failure? = some (x.fail e b).1 := by
  rcases x.fail_cases e b with ⟨kept, hf, heq⟩ | ⟨hp, -⟩ | ⟨-, heq⟩
  · rw [heq, hf]
  · rcases h with hp' | ⟨e', hf⟩
    · cases hp.symm.trans hp'
    · cases hp.symm.trans (Exchange.failure?_eq_some_iff.mp hf)
  · rw [heq, Exchange.failure?_eq_some_iff, Exchange.progress_settle]

private theorem laneStep_await (hh : HandedOver c) (hk : c.calls[k]? = some (.admitted i))
    (hl : c.lanes[i]? = some l) :
    ∃ l', (c.step (.caller (.await k))).2.lanes[i]? = some l' ∧
      LaneStep c i l (.caller (.await k)) l' := by
  have hlane := laneOf?_of_admitted hk hl
  have hshown {a : Answer} (ha : (c.step (.caller (.await k))).1 = a) :
      c.shown i (.caller (.await k)) = (a.result?.map Event.result).toList := by
    rw [← ha, shown, hlane]
    exact if_pos rfl
  have hhanded := hh i l hl
  cases hcaller : l.caller with
  | holding _ | draining _ | gone =>
    refine laneStep_of_idle (a := .gone) hl ?_ hshown
    simp only [act, callerStep, await, hk, hlane, hcaller]
  | waiting =>
    have hact : c.act (.caller (.await k)) = c.awaitLane i l := by
      simp only [act, callerStep, await, hk, hlane, hcaller]
    -- The future resolves with an error, and lane `i` is left with an exchange that failed with it.
    have hrefused {e : ClassifiedError} {c₁ : Connection} {l₁ : Lane}
        (hact : c.act (.caller (.await k)) = (.failed (.closed e), c₁))
        (hl₁ : c₁.lanes[i]? = some l₁) (hk₁ : l₁.caller = .gone)
        (hf₁ : l₁.exchange.failure? = some e) (hch₁ : c₁.channel = c.channel) :
        ∃ l', (c.step (.caller (.await k))).2.lanes[i]? = some l' ∧
          LaneStep c i l (.caller (.await k)) l' := by
      obtain ⟨ha, hch, l', hl', hk', hp'⟩ := lane?_step hact hl₁
      refine ⟨l', hl', .refused hcaller (hshown ha) (hk'.trans hk₁) ?_
        (writeKept_of_channel (hch.trans hch₁))⟩
      rw [Exchange.failure?, hp']
      exact hf₁
    cases hr : l.reply with
    | awaited =>
      refine laneStep_of_idle (a := .pending) hl ?_ hshown
      simp only [hact, awaitLane, hr]
    | sent result =>
      cases result with
      | ok head =>
        have hact' : c.act (.caller (.await k)) = (.head head, c.setCaller i (.holding false)) := by
          simp only [hact, awaitLane, hr]
        obtain ⟨ha, hch, l', hl', hk', hp'⟩ := lane?_step hact' (lane?_setCaller hl _)
        exact ⟨l', hl', .resolved hcaller (hshown ha) hr hk' (fun h ↦ hp' ▸ h)
          (writeKept_of_channel hch)⟩
      | error e =>
        have hact' : c.act (.caller (.await k)) = (.failed (.closed e), c.setCaller i .gone) := by
          simp only [hact, awaitLane, hr]
        exact hrefused hact' (lane?_setCaller hl .gone) rfl (hhanded.error e hr) rfl
    | lost =>
      cases ht : c.tracker.terminal? with
      | none =>
        refine laneStep_of_idle (a := .pending) hl ?_ hshown
        simp only [hact, awaitLane, hr, ht]
      | some e =>
        have hfailed := fail_of_unsent (e := e) (b := c.books) (hhanded.none (by simp [hr]))
        have hlane' := lane?_put_self hl { l with exchange := (l.exchange.fail e c.books).2.1 }
          (l.exchange.fail e c.books).2.2
        have hlost : c.awaitLane i l = (.failed (.closed (c.failExchange i e).1),
            (c.failExchange i e).2.setCaller i .gone) := by
          simp only [awaitLane, hr, ht]
        have hact' : c.act (.caller (.await k)) = (.failed (.closed (l.exchange.fail e c.books).1),
            c.put i { l with exchange := (l.exchange.fail e c.books).2.1, caller := .gone }
              (l.exchange.fail e c.books).2.2) := by
          rw [hact, hlost, failExchange_eq_put hl, setCaller_eq_put hlane', put_put]
          rfl
        exact hrefused hact' (lane?_put_self hl _ _) rfl hfailed rfl

private theorem laneStep_dropResponse (hk : c.calls[k]? = some (.admitted i))
    (hl : c.lanes[i]? = some l) :
    ∃ l', (c.step (.caller (.dropResponse k))).2.lanes[i]? = some l' ∧
      LaneStep c i l (.caller (.dropResponse k)) l' := by
  have hlane := laneOf?_of_admitted hk hl
  have hshown : c.shown i (.caller (.dropResponse k)) = [] := by
    simp [shown, bodySights, polling?, resting?]
  cases hcaller : l.caller with
  | waiting =>
    refine laneStep_of_left hl ?_ hshown
    simp only [act, callerStep, dropResponse, hk, hlane, hcaller]
  | holding _ | draining _ | gone =>
    refine laneStep_of_idle (a := .gone) hl ?_ fun _ ↦ hshown
    simp only [act, callerStep, dropResponse, hk, hlane, hcaller]

private theorem laneStep_dropBody (hk : c.calls[k]? = some (.admitted i))
    (hl : c.lanes[i]? = some l) :
    ∃ l', (c.step (.caller (.dropBody k))).2.lanes[i]? = some l' ∧
      LaneStep c i l (.caller (.dropBody k)) l' := by
  have hlane := laneOf?_of_admitted hk hl
  have hshown : c.shown i (.caller (.dropBody k)) = [] := by
    simp [shown, bodySights, polling?, resting?]
  cases hcaller : l.caller with
  | holding _ | draining _ =>
    refine laneStep_of_left hl ?_ hshown
    simp only [act, callerStep, dropBody, hlane, hcaller]
  | waiting | gone =>
    refine laneStep_of_idle (a := .gone) hl ?_ fun _ ↦ hshown
    simp only [act, callerStep, dropBody, hlane, hcaller]

private theorem laneStep_of_polling {n : Nat} (h : c.polling? s = some (i, n))
    (hl : c.lanes[i]? = some l) (hp : l.exchange.progress ≠ .completed) :
    ∃ l', (c.step s).2.lanes[i]? = some l' ∧ LaneStep c i l s l' := by
  obtain ⟨l₁, hl₁, hpolls⟩ := bodyPolls_sights hl hp n
  obtain ⟨k', hend, heq⟩ := step_of_polling h hl hp
  obtain ⟨t, ht⟩ := lane?_reclaim (lane?_setCaller hl₁ k')
  rw [← heq] at ht
  refine ⟨_, ht, .polled h hpolls hend rfl rfl ?_⟩
  rw [heq, channel_reclaim]
  rfl

/-- A body that is done shows its end again. -/
private theorem shown_of_resting (hs : s.bodyCall? = some k) (hk : c.calls[k]? = some (.admitted i))
    (hl : c.lanes[i]? = some l) (hcaller : l.caller = .holding true) :
    c.shown i s = [.sight ⟨.ended, []⟩] := by
  have hlane := laneOf?_of_admitted hk hl
  match s, hs with
  | .caller (.read _), rfl | .caller (.drain _), rfl =>
    simp [shown, bodySights, polling?, resting?, hlane, hcaller]

/-- A step that polls no body shows nothing of one. -/
private theorem shown_of_not_polling (hs : s.bodyCall? = some k)
    (hcaller : c.polling? s = none ∧ c.resting? s = none) : c.shown i s = [] := by
  match s, hs with
  | .caller (.read _), rfl | .caller (.drain _), rfl =>
    simp [shown, bodySights, hcaller]

private theorem laneStep_read (hk : c.calls[k]? = some (.admitted i)) (hl : c.lanes[i]? = some l)
    (hu : l.caller.isOpen = true → l.exchange.progress ≠ .completed) :
    ∃ l', (c.step (.caller (.read k))).2.lanes[i]? = some l' ∧
      LaneStep c i l (.caller (.read k)) l' := by
  have hlane := laneOf?_of_admitted hk hl
  cases hcaller : l.caller with
  | holding done =>
    cases done with
    | false =>
      refine laneStep_of_polling (n := 1) ?_ hl (hu (by rw [hcaller]; rfl))
      simp only [polling?, hlane, hcaller]
    | true =>
      have hact : c.act (.caller (.read k)) = (.ended, c) := by
        obtain ⟨x, r, w, caller, registered⟩ := l
        cases hcaller
        simp only [act, callerStep, read, hlane, readLane, if_true]
      obtain ⟨ha, hch, l', hl', hk', -⟩ := lane?_step hact hl
      exact ⟨l', hl', .rested hcaller (shown_of_resting rfl hk hl hcaller)
        (Or.inl ⟨ha, hk'.trans hcaller⟩) (writeKept_of_channel hch)⟩
  | waiting | draining _ | gone =>
    refine laneStep_of_idle (a := .gone) hl ?_ fun _ ↦ shown_of_not_polling rfl ?_
    · obtain ⟨x, r, w, caller, registered⟩ := l
      cases hcaller
      simp only [act, callerStep, read, hlane]
    · simp only [polling?, resting?, hlane, hcaller, and_self]

private theorem laneStep_drain (hk : c.calls[k]? = some (.admitted i)) (hl : c.lanes[i]? = some l)
    (hu : l.caller.isOpen = true → l.exchange.progress ≠ .completed) :
    ∃ l', (c.step (.caller (.drain k))).2.lanes[i]? = some l' ∧
      LaneStep c i l (.caller (.drain k)) l' := by
  have hlane := laneOf?_of_admitted hk hl
  have hpolled (ho : l.caller.isOpen = true)
      (h : c.polling? (.caller (.drain k)) = some (i, c.waitingItems i + 1)) :
      ∃ l', (c.step (.caller (.drain k))).2.lanes[i]? = some l' ∧
        LaneStep c i l (.caller (.drain k)) l' := laneStep_of_polling h hl (hu ho)
  cases hcaller : l.caller with
  | holding done =>
    cases done with
    | false =>
      refine hpolled (by rw [hcaller]; rfl) ?_
      simp only [polling?, hlane, hcaller]
    | true =>
      have hact : c.act (.caller (.drain k)) = (.drained [], c.setCaller i .gone) := by
        simp only [act, callerStep, drain, hlane, hcaller]
      obtain ⟨ha, hch, l', hl', hk', -⟩ := lane?_step hact (lane?_setCaller hl .gone)
      exact ⟨l', hl', .rested hcaller (shown_of_resting rfl hk hl hcaller) (Or.inr ⟨ha, hk'⟩)
        (writeKept_of_channel hch)⟩
  | draining collected =>
    refine hpolled (by rw [hcaller]; rfl) ?_
    simp only [polling?, hlane, hcaller]
  | waiting | gone =>
    refine laneStep_of_idle (a := .gone) hl ?_ fun _ ↦ shown_of_not_polling rfl ?_
    · simp only [act, callerStep, drain, hlane, hcaller]
    · simp only [polling?, resting?, hlane, hcaller, and_self]

/-- What a step makes of one lane and its caller. -/
theorem lane_step (hh : HandedOver c) (hl : c.lanes[i]? = some l)
    (hu : l.caller.isOpen = true → l.exchange.progress ≠ .completed) (s : Step) :
    ∃ l', (c.step s).2.lanes[i]? = some l' ∧ LaneStep c i l s l' := by
  by_cases hs : c.Addresses s i
  · obtain ⟨k, hcall, hk⟩ := hs
    match s, hcall with
    | .caller (.await _), rfl => exact laneStep_await hh hk hl
    | .caller (.dropResponse _), rfl => exact laneStep_dropResponse hk hl
    | .caller (.read _), rfl => exact laneStep_read hk hl hu
    | .caller (.drain _), rfl => exact laneStep_drain hk hl hu
    | .caller (.dropBody _), rfl => exact laneStep_dropBody hk hl
  · exact laneStep_of_not_addresses hl hs

/-! ## Bodies that may still be polled -/

/-- An exchange has not completed as long as its caller may be told something new. -/
def Unfinished (c : Connection) : Prop :=
  ∀ (i : Nat) (l : Lane), c.lanes[i]? = some l →
    l.caller.isOpen = true → l.exchange.progress ≠ .completed

/-- A body is left as it may be polled again only by polls that did not find it done. -/
theorem PollEnd.goes_on {ss : List Sight} {a : Answer} {k' : Caller} (h : PollEnd l ss s a k')
    (hk : k'.isOpen = true) : ∀ x ∈ ss, x.item.isDone = false := by
  cases h with
  | @read _ x _ hss =>
    subst hss
    intro y hy
    rw [List.mem_singleton.mp hy]
    cases hdone : x.item.isDone with
    | false => rfl
    | true =>
      rw [hdone] at hk
      cases hk
  | drain _ hend =>
    cases hend with
    | pending h => exact h
    | bytes | failed | violation => cases hk

/-- Polls that do not find a body done complete nothing. -/
theorem BodyPolls.completed_of {ss : List Sight} (h : BodyPolls i c l ss c' l')
    (hss : ∀ x ∈ ss, x.item.isDone = false) (hp : l'.exchange.progress = .completed) :
    l.exchange.progress = .completed := by
  induction h with
  | nil => exact hp
  | cons hsight hl hl₁ _ _ ih =>
    obtain ⟨x, hx, hkept⟩ := hsight.lane? hl
    cases hx.symm.trans hl₁
    have hbefore := ih (fun y hy ↦ hss y (List.mem_cons_of_mem _ hy)) hp
    rw [hkept (hss _ List.mem_cons_self)] at hbefore
    exact Exchange.completed_draining_iff.mp hbefore

theorem Unfinished.step (hc : Unfinished c) (hh : HandedOver c) (s : Step) :
    Unfinished (c.step s).2 := by
  intro i l' hl' ho hp
  -- The lane is not new, because a new exchange has not completed.
  obtain ⟨l, hl⟩ : ∃ l, c.lanes[i]? = some l := by
    rcases hasCompleted_step ⟨l', hl', hp⟩ with ⟨l, hl, -⟩ | ⟨⟨-, -, -, ⟨l, hl, -⟩⟩, -⟩
    · exact ⟨l, hl⟩
    · exact ⟨l, hl⟩
  obtain ⟨l₁, hl₁, hstep⟩ := lane_step hh hl (hc i l hl) s
  cases hl'.symm.trans hl₁
  have hkept (hk : l'.caller = l.caller)
      (hp' : l'.exchange.progress = .completed → l.exchange.progress = .completed) : False :=
    hc i l hl (hk ▸ ho) (hp' hp)
  cases hstep with
  | peer hk hp' => exact hkept hk hp'
  | aside _ hk hp' => exact hkept hk hp'
  | resolved hk _ _ _ hp' => exact hc i l hl (by rw [hk]; rfl) (hp' hp)
  | refused _ _ hk' | left _ hk' =>
    rw [hk'] at ho
    cases ho
  | polled h hpolls hend hk' hp' =>
    obtain ⟨k, l₀, -, hlane, -, ho₀⟩ := polling?_eq_some h
    cases hl.symm.trans (laneOf?_eq_some_iff.mp hlane).2
    exact hc i l hl ho₀ (hpolls.completed_of (hend.goes_on (hk' ▸ ho)) (hp' ▸ hp))
  | rested _ _ ha =>
    rcases ha with ⟨-, hk'⟩ | ⟨-, hk'⟩
    · rw [hk'] at ho
      cases ho
    · rw [hk'] at ho
      cases ho

theorem unfinished_run (d : Depth) (policy : ClosingPolicy) (steps : List Step) :
    Unfinished ((ofDepth d policy).run steps) := by
  induction steps using List.reverseRecOn with
  | nil =>
    intro i l hl
    simp [run, ofDepth] at hl
  | append_singleton steps s ih =>
    rw [run_append]
    exact ih.step (handedOver_run d policy steps) s

/-- What every step keeps of one lane and the steps done so far, every run keeps. -/
theorem lane_run {P : List Step → Lane → Prop} (hh : HandedOver c) (hu : Unfinished c)
    (hl : c.lanes[i]? = some l) (h : P [] l)
    (hstep : ∀ (done : List Step) (s : Step) (l l' : Lane), HandedOver (c.run done) →
      (c.run done).lanes[i]? = some l → LaneStep (c.run done) i l s l' → l.Frame l' →
      P done l → P (done ++ [s]) l') (steps : List Step) :
    ∃ l', (c.run steps).lanes[i]? = some l' ∧ P steps l' := by
  have hrun : HandedOver (c.run steps) ∧ Unfinished (c.run steps) ∧
      ∃ l', (c.run steps).lanes[i]? = some l' ∧ P steps l' := by
    induction steps using List.reverseRecOn with
    | nil => exact ⟨hh, hu, l, hl, h⟩
    | append_singleton done s ih =>
      obtain ⟨hh', hu', l₁, hl₁, h₁⟩ := ih
      obtain ⟨l₂, hl₂, hs⟩ := lane_step hh' hl₁ (hu' i l₁ hl₁) s
      obtain ⟨l₃, hl₃, hframe⟩ := (frame_step (c.run done) s).lane i l₁ hl₁
      cases hl₂.symm.trans hl₃
      rw [run_append]
      exact ⟨hh'.step s, hu'.step hh' s, l₂, hl₂, hstep done s l₁ l₂ hh' hl₁ hs hframe h₁⟩
  exact hrun.2.2

end Connection

end BoundedPipelining
