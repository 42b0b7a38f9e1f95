import BoundedPipelining.Exchange.Held
import BoundedPipelining.Proofs.Exchange.Calls
import Mathlib.Logic.Function.Basic

/-!
# What is done with exchanges that are held

A step concerns at most one exchange, and at most one of those who wait for it. `Effect` says what a
step can do to either: it calls an exchange, or it polls or drops a wait, which also changes the
notice of the exchange that the wait is for. Everything else about a step is left out, such as the
books and the registry.

After every step the slots of unheld exchanges go back. That takes their tickets and nothing else.
-/

namespace BoundedPipelining

/-! ## A poll of a watcher -/

namespace Watch

variable {w w' : SettledWait} {who : Waiter} {x : Exchange} {b : Books}

/-- A watcher that sees the exchange settled is done. -/
theorem poll_of_none (h : (w.poll who x).1 = none) (terminal : Option ClassifiedError) :
    (waiting w).poll who x terminal b = (finished, (w.poll who x).2, b) := by
  rw [poll]
  split
  · rename_i heq
    rw [heq]
  · rename_i heq
    rw [heq] at h
    cases h

theorem poll_of_opened (h : (w.poll who x).1 = some w') :
    (waiting w).poll who x none b = (waiting w', (w.poll who x).2, b) := by
  rw [poll]
  split
  · rename_i heq
    rw [heq] at h
    cases h
  · rename_i heq
    rw [heq] at h ⊢
    cases h
    rfl

/-- A watcher that sees the connection closed stops waiting for the exchange, and fails it. -/
theorem poll_of_closed (h : (w.poll who x).1 = some w') (e : ClassifiedError) :
    (waiting w).poll who x (some e) b =
      (finished, ((w'.drop who (w.poll who x).2).fail e b).2) := by
  rw [poll]
  split
  · rename_i heq
    rw [heq] at h
    cases h
  · rename_i heq
    rw [heq] at h ⊢
    cases h
    rfl

end Watch

namespace Held

variable {h h' : Held} {s : Step} {i j k : Nat} {x x' : Exchange} {who : Waiter}
  {w w' : SettledWait}

/-! ## Exchanges and waits -/

/-- The exchange `i`. -/
def exchange? (h : Held) (i : Nat) : Option Exchange := (h.holdings[i]?).map Holding.exchange

/-- The wait of a waiter and the exchange it is for; nothing but its number is left of a wait that
is over. -/
def place? (h : Held) : Waiter → Option (Option (Nat × SettledWait))
  | .caller k => h.waits[k]?
  | .watcher k => (h.watches[k]?).map fun
    | (i, .waiting w) => some (i, w)
    | (_, .finished) => none

/-- The wait of a waiter is over: it has been answered, or was dropped. -/
def Over (h : Held) (who : Waiter) : Prop := h.place? who = some none

/-- The waiter goes away without an answer: a watcher is done once the connection has closed. -/
def isCut (h : Held) : Waiter → Bool
  | .caller _ => false
  | .watcher _ => h.tracker.terminal?.isSome

theorem exchange?_eq_some_iff :
    h.exchange? i = some x ↔ ∃ held, h.holdings[i]? = some held ∧ held.exchange = x :=
  Option.map_eq_some_iff

theorem exchange?_of_owned? (ho : h.owned? i = some x) : h.exchange? i = some x := by
  rw [owned?] at ho
  split at ho
  · rename_i held hheld
    split at ho
    · exact exchange?_eq_some_iff.mpr ⟨held, hheld, Option.some.inj ho⟩
    · cases ho
  · cases ho

theorem exchange?_put (hx : h.exchange? i = some x) (y : Exchange) :
    (h.put i y).exchange? = Function.update h.exchange? i (some y) := by
  obtain ⟨held, hheld, -⟩ := exchange?_eq_some_iff.mp hx
  funext j
  rw [exchange?, put, Array.getElem?_modify, Function.update_apply]
  by_cases hj : i = j
  · subst hj
    rw [if_pos rfl, if_pos rfl, hheld]
    rfl
  · rw [if_neg hj, if_neg (Ne.symm hj)]
    rfl

/-- To give up an exchange changes none. -/
theorem exchange?_disown (h : Held) (i : Nat) :
    ({ h with holdings := h.holdings.modify i fun held ↦ { held with owned := false } } :
      Held).exchange? = h.exchange? := by
  funext j
  rw [exchange?, Array.getElem?_modify]
  split
  · rw [Option.map_map]
    rfl
  · rfl

theorem place?_set_caller {o : Option (Nat × SettledWait)} (ho : h.place? (.caller k) = some o)
    (o' : Option (Nat × SettledWait)) :
    ({ h with waits := h.waits.set! k o' } : Held).place? =
      Function.update h.place? (.caller k) (some o') := by
  have hk : k < h.waits.size := (Array.getElem?_eq_some_iff.mp ho).1
  funext who
  cases who with
  | caller j =>
    rw [place?, Array.set!_eq_setIfInBounds, Array.getElem?_setIfInBounds, if_pos hk,
      Function.update_apply]
    by_cases hj : k = j
    · rw [if_pos hj, if_pos (congrArg Waiter.caller hj.symm)]
    · rw [if_neg hj, if_neg fun heq ↦ hj (Waiter.caller.inj heq).symm]
      rfl
  | watcher j =>
    rw [Function.update_of_ne (by simp)]
    rfl

/-- A watch that is at work or done, as a wait. -/
theorem place?_set_watcher {p : Nat × Watch} (hp : h.watches[k]? = some p) (i : Nat) (v : Watch) :
    ({ h with watches := h.watches.set! k (i, v) } : Held).place? =
      Function.update h.place? (.watcher k) (some (match v with
        | .waiting w => some (i, w)
        | .finished => none)) := by
  have hk : k < h.watches.size := (Array.getElem?_eq_some_iff.mp hp).1
  funext who
  cases who with
  | caller j =>
    rw [Function.update_of_ne (by simp)]
    rfl
  | watcher j =>
    rw [place?, Array.set!_eq_setIfInBounds, Array.getElem?_setIfInBounds, if_pos hk,
      Function.update_apply]
    by_cases hj : k = j
    · rw [if_pos hj, if_pos (congrArg Waiter.watcher hj.symm)]
      cases v <;> rfl
    · rw [if_neg hj, if_neg fun heq ↦ hj (Waiter.watcher.inj heq).symm]
      rfl

theorem place?_push_caller (h : Held) (p : Nat × SettledWait) :
    ({ h with waits := h.waits.push (some p) } : Held).place? =
      Function.update h.place? (.caller h.waits.size) (some (some p)) := by
  funext who
  cases who with
  | caller j =>
    rw [place?, Array.getElem?_push, Function.update_apply]
    by_cases hj : j = h.waits.size
    · rw [if_pos hj, if_pos (congrArg Waiter.caller hj)]
    · rw [if_neg hj, if_neg fun heq ↦ hj (Waiter.caller.inj heq)]
      rfl
  | watcher j =>
    rw [Function.update_of_ne (by simp)]
    rfl

theorem place?_push_watcher (h : Held) (i : Nat) :
    ({ h with watches := h.watches.push (i, .fresh) } : Held).place? =
      Function.update h.place? (.watcher h.watches.size) (some (some (i, .fresh))) := by
  funext who
  cases who with
  | caller j =>
    rw [Function.update_of_ne (by simp)]
    rfl
  | watcher j =>
    rw [place?, Array.getElem?_push, Function.update_apply]
    by_cases hj : j = h.watches.size
    · rw [if_pos hj, if_pos (congrArg Waiter.watcher hj)]
      rfl
    · rw [if_neg hj, if_neg fun heq ↦ hj (Waiter.watcher.inj heq)]
      rfl

theorem place?_watcher_eq_some_iff :
    h.place? (.watcher k) = some (some (i, w)) ↔ h.watches[k]? = some (i, .waiting w) := by
  rw [place?, Option.map_eq_some_iff]
  constructor
  · rintro ⟨⟨j, v⟩, hv, heq⟩
    cases v with
    | waiting w' =>
      cases heq
      exact hv
    | finished => cases heq
  · exact fun hk ↦ ⟨_, hk, rfl⟩

/-! ## What a step does -/

/-- The waiter that a step polls or drops. -/
def Step.waiter? : Step → Option Waiter
  | .pollSettled k | .dropSettled k => some (.caller k)
  | .pollWatch k | .dropWatch k => some (.watcher k)
  | _ => none

/-- To poll a waiter. -/
def pollOf : Waiter → Step
  | .caller k => .pollSettled k
  | .watcher k => .pollWatch k

/-- To drop a waiter. -/
def dropOf : Waiter → Step
  | .caller k => .dropSettled k
  | .watcher k => .dropWatch k

/-- All that a step can do to exchanges and to those who wait for them. -/
inductive Effect (h : Held) : Step → Held → Prop
  /-- The step leaves them alone; if it names a waiter, the wait of that waiter is over. -/
  | still {s : Step} {h' : Held}
      (hs : ∀ who i w, s.waiter? = some who → h.place? who ≠ some (some (i, w)))
      (hx' : h'.exchange? = h.exchange?) (hp' : h'.place? = h.place?) : Effect h s h'
  | new {s : Step} {h' : Held} {i : Nat} (id : ExchangeId) (hs : s.waiter? = none)
      (hfree : h.exchange? i = none)
      (hx' : h'.exchange? = Function.update h.exchange? i (some { id }))
      (hp' : h'.place? = h.place?) : Effect h s h'
  | called {s : Step} {h' : Held} {i : Nat} {x : Exchange} (c : Exchange.Call)
      (hs : s.waiter? = none) (hx : h.exchange? i = some x)
      (hx' : h'.exchange? = Function.update h.exchange? i (some (x.called h.books c).1))
      (hp' : h'.place? = h.place?) : Effect h s h'
  /-- Somebody begins to wait, and has not looked yet. -/
  | joined {s : Step} {h' : Held} {i : Nat} {x : Exchange} {who : Waiter} (hs : s.waiter? = none)
      (hx : h.exchange? i = some x) (hfree : h.place? who = none)
      (hx' : h'.exchange? = h.exchange?)
      (hp' : h'.place? = Function.update h.place? who (some (some (i, .fresh)))) : Effect h s h'
  /-- A poll with an answer, or one after which the waiter stays. -/
  | polled {h' : Held} {i : Nat} {x : Exchange} {who : Waiter} {w : SettledWait}
      (hp : h.place? who = some (some (i, w))) (hx : h.exchange? i = some x)
      (hcut : (w.poll who x).1 = none ∨ h.isCut who = false)
      (hx' : h'.exchange? = Function.update h.exchange? i (some (w.poll who x).2))
      (hp' : h'.place? =
        Function.update h.place? who (some ((w.poll who x).1.map fun w ↦ (i, w)))) :
      Effect h (pollOf who) h'
  /-- A poll without an answer, after which the waiter goes away and fails the exchange. -/
  | cut {h' : Held} {i : Nat} {x : Exchange} {who : Waiter} {w w' : SettledWait}
      (e : ClassifiedError) (hp : h.place? who = some (some (i, w))) (hx : h.exchange? i = some x)
      (hcut : h.isCut who = true) (hpoll : (w.poll who x).1 = some w')
      (hx' : h'.exchange? = Function.update h.exchange? i
        (some ((w'.drop who (w.poll who x).2).called h.books (.fail e)).1))
      (hp' : h'.place? = Function.update h.place? who (some none)) : Effect h (pollOf who) h'
  | dropped {h' : Held} {i : Nat} {x : Exchange} {who : Waiter} {w : SettledWait}
      (hp : h.place? who = some (some (i, w))) (hx : h.exchange? i = some x)
      (hx' : h'.exchange? = Function.update h.exchange? i (some (w.drop who x)))
      (hp' : h'.place? = Function.update h.place? who (some none)) : Effect h (dropOf who) h'

/-- Every wait that goes on is for an exchange that there is. -/
def Known (h : Held) : Prop :=
  ∀ who i w, h.place? who = some (some (i, w)) → ∃ x, h.exchange? i = some x

-- The steps that are looked into more than once, as one equation each, so that the lemmas below
-- need not open `act`.

theorem act_new_eq (h : Held) : h.act .new =
    match h.books.takeSlot with
    | (.error e, books) => (.refused e, { h with books })
    | (.ok _, books) =>
      let (id, sequence) := h.sequence.next
      (.exchange h.holdings.size,
        { h with
          books, sequence
          registry := h.registry ++ [id]
          holdings := h.holdings.push { exchange := { id } } }) := rfl

theorem act_pollSettled_eq (h : Held) (k : Nat) : h.act (.pollSettled k) =
    match (h.waits[k]?).join with
    | none => (.gone, h)
    | some (i, s) =>
      match h.holdings[i]? with
      | none => (.gone, h)
      | some held =>
        let (s, x) := s.poll (.caller k) held.exchange
        (if s.isSome then .pending else .done,
          { h.put i x with waits := h.waits.set! k (s.map fun s ↦ (i, s)) }) := rfl

theorem act_pollWatch_eq (h : Held) (k : Nat) : h.act (.pollWatch k) =
    match h.watches[k]? with
    | some (i, .waiting s) =>
      match h.holdings[i]? with
      | none => (.gone, h)
      | some held =>
        let (w, x, books) :=
          (Watch.waiting s).poll (.watcher k) held.exchange h.tracker.terminal? h.books
        let h := { h.put i x with books, watches := h.watches.set! k (i, w) }
        if w.isLive then (.pending, h) else (.done, { h with registry := h.registry.erase x.id })
    | _ => (.gone, h) := rfl

theorem act_dropSettled_eq (h : Held) (k : Nat) : h.act (.dropSettled k) =
    match (h.waits[k]?).join with
    | none => (.gone, h)
    | some (i, s) =>
      match h.holdings[i]? with
      | none => (.gone, h)
      | some held =>
        (.dropped,
          { h.put i (s.drop (.caller k) held.exchange) with waits := h.waits.set! k none }) := rfl

theorem act_dropWatch_eq (h : Held) (k : Nat) : h.act (.dropWatch k) =
    match h.watches[k]? with
    | some (i, .waiting s) =>
      match h.holdings[i]? with
      | none => (.gone, h)
      | some held =>
        (.dropped,
          { h.put i (s.drop (.watcher k) held.exchange) with
            watches := h.watches.set! k (i, .finished) })
    | _ => (.gone, h) := rfl

private theorem effect_called (hx : h.exchange? i = some x) (c : Exchange.Call)
    (hs : s.waiter? = none) (books : Books) :
    h.Effect s { h.put i (x.called h.books c).1 with books } :=
  .called c hs hx (exchange?_put hx _) rfl

/-- Nothing is done to an exchange whose owner has given it up. -/
private theorem effect_owned {f : Exchange → Answer × Held} (hs : s.waiter? = none)
    (hf : ∀ x, h.exchange? i = some x → h.Effect s (f x).2) :
    h.Effect s (match h.owned? i with | none => (Answer.gone, h) | some x => f x).2 := by
  cases ho : h.owned? i with
  | none => exact .still (by simp [hs]) rfl rfl
  | some x => exact hf x (exchange?_of_owned? ho)

private theorem effect_new (h : Held) : h.Effect .new (h.act .new).2 := by
  simp only [act_new_eq]
  split
  · exact .still (by simp [Step.waiter?]) rfl rfl
  · refine .new (i := h.holdings.size) h.sequence.next.1 rfl (by simp [exchange?]) ?_ rfl
    funext j
    rw [exchange?, Array.getElem?_push, Function.update_apply]
    split
    · rfl
    · rfl

/-- Nothing is done to a waiter whose wait is over. -/
private theorem effect_idle {who : Waiter} (hs : s.waiter? = some who)
    (hp : ∀ i w, h.place? who ≠ some (some (i, w))) : h.Effect s h := by
  refine .still (fun who' i w hwho ↦ ?_) rfl rfl
  cases hs.symm.trans hwho
  exact hp i w

private theorem effect_pollSettled (hk : h.Known) (k : Nat) :
    h.Effect (.pollSettled k) (h.act (.pollSettled k)).2 := by
  simp only [act_pollSettled_eq]
  cases hw : (h.waits[k]?).join with
  | none =>
    refine effect_idle rfl fun i w hp ↦ ?_
    cases hw.symm.trans (Option.join_eq_some_iff.mpr hp)
  | some p =>
    obtain ⟨i, w⟩ := p
    have hp : h.place? (.caller k) = some (some (i, w)) := Option.join_eq_some_iff.mp hw
    obtain ⟨x, hx⟩ := hk _ _ _ hp
    obtain ⟨held, hheld, rfl⟩ := exchange?_eq_some_iff.mp hx
    simp only [hheld]
    exact .polled hp hx (Or.inr rfl) (exchange?_put hx _) (place?_set_caller hp _)

private theorem effect_dropSettled (hk : h.Known) (k : Nat) :
    h.Effect (.dropSettled k) (h.act (.dropSettled k)).2 := by
  simp only [act_dropSettled_eq]
  cases hw : (h.waits[k]?).join with
  | none =>
    refine effect_idle rfl fun i w hp ↦ ?_
    cases hw.symm.trans (Option.join_eq_some_iff.mpr hp)
  | some p =>
    obtain ⟨i, w⟩ := p
    have hp : h.place? (.caller k) = some (some (i, w)) := Option.join_eq_some_iff.mp hw
    obtain ⟨x, hx⟩ := hk _ _ _ hp
    obtain ⟨held, hheld, rfl⟩ := exchange?_eq_some_iff.mp hx
    simp only [hheld]
    exact .dropped hp hx (exchange?_put hx _) (place?_set_caller hp _)

private theorem effect_pollWatch (hk : h.Known) (k : Nat) :
    h.Effect (.pollWatch k) (h.act (.pollWatch k)).2 := by
  simp only [act_pollWatch_eq]
  split
  · rename_i i w hv
    have hp : h.place? (.watcher k) = some (some (i, w)) := place?_watcher_eq_some_iff.mpr hv
    obtain ⟨x, hx⟩ := hk _ _ _ hp
    obtain ⟨held, hheld, rfl⟩ := exchange?_eq_some_iff.mp hx
    simp only [hheld]
    cases hpoll : (w.poll (.watcher k) held.exchange).1 with
    | none =>
      rw [Watch.poll_of_none hpoll]
      refine .polled hp hx (Or.inl hpoll) (exchange?_put hx _) ?_
      rw [hpoll]
      exact place?_set_watcher hv i .finished
    | some w' =>
      cases ht : h.tracker.terminal? with
      | none =>
        rw [Watch.poll_of_opened hpoll]
        refine .polled hp hx (Or.inr (by simp [isCut, ht])) (exchange?_put hx _) ?_
        rw [hpoll]
        exact place?_set_watcher hv i (.waiting w')
      | some e =>
        rw [Watch.poll_of_closed hpoll]
        exact .cut e hp hx (by simp [isCut, ht]) hpoll (exchange?_put hx _)
          (place?_set_watcher hv i .finished)
  · rename_i hv
    exact effect_idle rfl fun i w hp ↦ hv _ _ (place?_watcher_eq_some_iff.mp hp)

private theorem effect_dropWatch (hk : h.Known) (k : Nat) :
    h.Effect (.dropWatch k) (h.act (.dropWatch k)).2 := by
  simp only [act_dropWatch_eq]
  split
  · rename_i i w hv
    have hp : h.place? (.watcher k) = some (some (i, w)) := place?_watcher_eq_some_iff.mpr hv
    obtain ⟨x, hx⟩ := hk _ _ _ hp
    obtain ⟨held, hheld, rfl⟩ := exchange?_eq_some_iff.mp hx
    simp only [hheld]
    exact .dropped hp hx (exchange?_put hx _) (place?_set_watcher hv i .finished)
  · rename_i hv
    exact effect_idle rfl fun i w hp ↦ hv _ _ (place?_watcher_eq_some_iff.mp hp)

/-- Every step has one of these effects, before the unheld exchanges are reclaimed. -/
theorem effect_act (hk : h.Known) (s : Step) : h.Effect s (h.act s).2 := by
  cases s with
  | new => exact effect_new h
  | headers i => exact effect_owned rfl fun x hx ↦ effect_called hx .headersReceived rfl _
  | complete i => exact effect_owned rfl fun x hx ↦ effect_called hx .complete rfl _
  | draining i => exact effect_owned rfl fun x hx ↦ effect_called hx .draining rfl _
  | fail i announced cause =>
    exact effect_owned rfl fun x hx ↦ effect_called hx (.fail (classify announced cause)) rfl _
  | failure i | snapshot i | describe i | unregister i =>
    exact effect_owned rfl fun x hx ↦ .still (by simp [Step.waiter?]) rfl rfl
  | drop i =>
    exact effect_owned rfl fun x hx ↦ .still (by simp [Step.waiter?]) (exchange?_disown h i) rfl
  | waitSettled i =>
    have hfree : h.place? (.caller h.waits.size) = none := by simp [place?]
    exact effect_owned rfl fun x hx ↦ .joined rfl hx hfree rfl (place?_push_caller h _)
  | watch i =>
    have hfree : h.place? (.watcher h.watches.size) = none := by simp [place?]
    exact effect_owned rfl fun x hx ↦ .joined rfl hx hfree rfl (place?_push_watcher h i)
  | pollSettled k => exact effect_pollSettled hk k
  | pollWatch k => exact effect_pollWatch hk k
  | dropSettled k => exact effect_dropSettled hk k
  | dropWatch k => exact effect_dropWatch hk k
  | markClosing | close => exact .still (by simp [Step.waiter?]) rfl rfl

/-- The answer to a poll. -/
theorem act_pollOf (hp : h.place? who = some (some (i, w))) (hx : h.exchange? i = some x) :
    (h.act (pollOf who)).1 =
      if (w.poll who x).1 = none ∨ h.isCut who = true then .done else .pending := by
  obtain ⟨held, hheld, rfl⟩ := exchange?_eq_some_iff.mp hx
  cases who with
  | caller k =>
    have hw : (h.waits[k]?).join = some (i, w) := Option.join_eq_some_iff.mpr hp
    simp only [pollOf, act_pollSettled_eq, hw, hheld, isCut]
    cases (w.poll (.caller k) held.exchange).1 <;> simp
  | watcher k =>
    have hv : h.watches[k]? = some (i, .waiting w) := place?_watcher_eq_some_iff.mp hp
    simp only [pollOf, act_pollWatch_eq, hv, hheld, isCut]
    cases hpoll : (w.poll (.watcher k) held.exchange).1 with
    | none => simp [Watch.poll_of_none hpoll, Watch.isLive]
    | some w' =>
      obtain ht | ⟨e, ht⟩ := h.tracker.terminal?.eq_none_or_eq_some
      · simp [ht, Watch.poll_of_opened hpoll, Watch.isLive]
      · simp [ht, Watch.poll_of_closed hpoll, Watch.isLive]

theorem act_pollOf_of_over (hp : ∀ i w, h.place? who ≠ some (some (i, w))) :
    h.act (pollOf who) = (.gone, h) := by
  cases who with
  | caller k =>
    have hw : (h.waits[k]?).join = none :=
      Option.eq_none_iff_forall_ne_some.mpr fun p hw ↦ hp p.1 p.2 (Option.join_eq_some_iff.mp hw)
    simp only [pollOf, act_pollSettled_eq, hw]
  | watcher k =>
    simp only [pollOf, act_pollWatch_eq]
    split
    · rename_i hv
      exact absurd (place?_watcher_eq_some_iff.mpr hv) (hp _ _)
    · rfl

/-! ## Unheld exchanges -/

@[simp] theorem place?_reclaimAt (h : Held) (i : Nat) : (h.reclaimAt i).place? = h.place? := by
  rw [reclaimAt]
  split
  · rfl
  · split
    · rfl
    · rfl

/-- To reclaim an exchange takes its ticket, or nothing. -/
theorem exchange?_reclaimAt (h : Held) (j i : Nat) :
    (h.reclaimAt j).exchange? i = h.exchange? i ∨
      ∃ x, h.exchange? i = some x ∧
        (h.reclaimAt j).exchange? i = some { x with ticket := false } := by
  rw [reclaimAt]
  split
  · exact Or.inl rfl
  · rename_i held hheld
    split
    · exact Or.inl rfl
    · have hx : h.exchange? j = some held.exchange := exchange?_eq_some_iff.mpr ⟨held, hheld, rfl⟩
      change (h.put j (held.exchange.giveBack h.books).1).exchange? i = h.exchange? i ∨
        ∃ x, h.exchange? i = some x ∧
          (h.put j (held.exchange.giveBack h.books).1).exchange? i = some { x with ticket := false }
      rw [exchange?_put hx, Function.update_apply]
      split
      · rename_i hij
        rw [hij, hx, Exchange.giveBack]
        split
        · exact Or.inr ⟨_, rfl, rfl⟩
        · exact Or.inl rfl
      · exact Or.inl rfl

@[simp] theorem place?_reclaim (h : Held) : h.reclaim.place? = h.place? := by
  rw [reclaim]
  generalize List.range h.holdings.size = js
  induction js using List.reverseRecOn with
  | nil => rfl
  | append_singleton js j ih =>
    rw [List.foldl_append, List.foldl_cons, List.foldl_nil, place?_reclaimAt, ih]

theorem exchange?_reclaim (h : Held) (i : Nat) :
    h.reclaim.exchange? i = h.exchange? i ∨
      ∃ x, h.exchange? i = some x ∧ h.reclaim.exchange? i = some { x with ticket := false } := by
  rw [reclaim]
  generalize List.range h.holdings.size = js
  induction js using List.reverseRecOn with
  | nil => exact Or.inl rfl
  | append_singleton js j ih =>
    rw [List.foldl_append, List.foldl_cons, List.foldl_nil]
    rcases exchange?_reclaimAt (js.foldl reclaimAt h) j i with heq | ⟨y, hy, heq⟩
    · rw [heq]
      exact ih
    · rw [heq]
      rcases ih with hsame | ⟨x, hx, hsame⟩
      · exact Or.inr ⟨y, hsame ▸ hy, rfl⟩
      · cases hsame.symm.trans hy
        exact Or.inr ⟨x, hx, rfl⟩

/-! ## One step after the other -/

theorem run_snoc (h : Held) (steps : List Step) (s : Step) :
    h.run (steps ++ [s]) = ((h.run steps).step s).2 := List.foldl_append

/-- No exchange is ever lost. -/
theorem Effect.exchange?_mono (he : h.Effect s h') (hx : h.exchange? i = some x) :
    ∃ y, h'.exchange? i = some y := by
  have hupdate (j : Nat) (y : Exchange)
      (hx' : h'.exchange? = Function.update h.exchange? j (some y)) :
      ∃ y, h'.exchange? i = some y := by
    rw [hx', Function.update_apply]
    split
    · exact ⟨y, rfl⟩
    · exact ⟨x, hx⟩
  cases he with
  | still _ hx' | joined _ _ _ hx' => exact ⟨x, hx' ▸ hx⟩
  | new _ _ _ hx' | called _ _ _ hx' | polled _ _ _ hx' | cut _ _ _ _ _ hx' | dropped _ _ hx' =>
    exact hupdate _ _ hx'

theorem not_over (hp : h.place? who = some (some (i, w))) : ¬ h.Over who := by
  intro hover
  cases hp.symm.trans hover

theorem over_mono {p : Option (Nat × SettledWait)} (hnot : ¬ h.Over who)
    (hp' : h'.place? = Function.update h.place? who (some p)) (v : Waiter) (hv : h.Over v) :
    h'.Over v := by
  have hwho : v ≠ who := fun heq ↦ hnot (heq ▸ hv)
  rw [Over, hp', Function.update_of_ne hwho]
  exact hv

/-- A wait that is over stays so. -/
theorem Effect.stays_over {v : Waiter} (he : h.Effect s h') (hv : h.Over v) : h'.Over v := by
  cases he with
  | still _ _ hp' | new _ _ _ _ hp' | called _ _ _ _ hp' => exact (congrFun hp' v).trans hv
  | joined _ _ hfree _ hp' => exact over_mono (fun hover ↦ by cases hfree.symm.trans hover) hp' v hv
  | polled hp _ _ _ hp' | cut _ hp _ _ _ _ hp' | dropped hp _ _ hp' =>
    exact over_mono (not_over hp) hp' v hv

theorem known_ofDepth (d : Depth) : (ofDepth d).Known := by
  intro who i w hp
  cases who <;> simp [ofDepth, place?] at hp

theorem Known.effect (hk : h.Known) (he : h.Effect s h') : h'.Known := by
  intro who i w hp
  suffices hx : ∃ x, h.exchange? i = some x from hx.elim fun _ hx ↦ he.exchange?_mono hx
  have hupdate (who' : Waiter) (p : Option (Nat × SettledWait))
      (hp' : h'.place? = Function.update h.place? who' (some p))
      (hknown : ∀ j w, p = some (j, w) → ∃ x, h.exchange? j = some x) :
      ∃ x, h.exchange? i = some x := by
    rw [hp', Function.update_apply] at hp
    split at hp
    · exact hknown i w (Option.some.inj hp)
    · exact hk who i w hp
  cases he with
  | still _ _ hp' | new _ _ _ _ hp' | called _ _ _ _ hp' => exact hk who i w (hp' ▸ hp)
  | joined _ hx _ _ hp' =>
    refine hupdate _ _ hp' fun j w' hj ↦ ?_
    cases hj
    exact ⟨_, hx⟩
  | polled _ hx _ _ hp' =>
    refine hupdate _ _ hp' fun j w' hj ↦ ?_
    obtain ⟨w'', -, hj⟩ := Option.map_eq_some_iff.mp hj
    cases hj
    exact ⟨_, hx⟩
  | cut _ _ _ _ _ _ hp' | dropped _ _ _ hp' => exact hupdate _ _ hp' (by simp)

theorem Known.reclaim (hk : h.Known) : h.reclaim.Known := by
  intro who i w hp
  rw [place?_reclaim] at hp
  obtain ⟨x, hx⟩ := hk who i w hp
  rcases h.exchange?_reclaim i with heq | ⟨y, -, heq⟩
  · exact ⟨x, heq.trans hx⟩
  · exact ⟨_, heq⟩

theorem known_run (d : Depth) (steps : List Step) : ((ofDepth d).run steps).Known := by
  induction steps using List.reverseRecOn with
  | nil => exact known_ofDepth d
  | append_singleton steps s ih =>
    rw [run_snoc]
    exact (ih.effect (effect_act ih s)).reclaim

end Held

end BoundedPipelining
