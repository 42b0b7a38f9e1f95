import BoundedPipelining.Proofs.Exchange.Line

/-!
# Watchers and the registry

An exchange is listed in the registry when it is made, and its close watcher takes it out. A watcher
that is the only one to wait for its exchange does so at the right moment: at the first poll at
which the exchange has settled or the connection has closed, and not before.

## What carries the proof

The line at the exchange says when the watcher is answered. Only those who have waited for the
exchange ever stand in it, so a watcher that waits alone stands behind nobody, and settling the
exchange wakes it, whether it has looked before or not.

Two facts about all exchanges are needed beside it. They are numbered in the order in which they
were made, so taking out one number takes out one exchange (`Numbered`). And a poll of a watcher is
followed by giving back the slots of unheld exchanges; no slot moves then, since a settled exchange
has given up its ticket and nobody else has been let go of (`Reclaimed`).
-/

namespace BoundedPipelining

/-! ## What no operation changes -/

theorem Exchange.id_called (x : Exchange) (b : Books) (c : Exchange.Call) :
    (x.called b c).1.id = x.id := by
  rcases x.called_cases b c with heq | ⟨p, -, -, -, heq⟩ | ⟨p, how, -, -, heq⟩
  · rw [heq]
  · rw [heq]
  · rw [heq, id_settle]

/-- A call that leaves an exchange settled leaves it without a ticket. -/
theorem Exchange.ticket_called {x : Exchange} (hx : x.phase.isTerminal = true → x.ticket = false)
    (b : Books) (c : Exchange.Call) (hp : (x.called b c).1.phase.isTerminal = true) :
    (x.called b c).1.ticket = false := by
  rcases x.called_cases b c with heq | ⟨p, -, hs, -, heq⟩ | ⟨p, how, -, -, heq⟩
  · rw [heq] at hp ⊢
    exact hx hp
  · rw [heq] at hp
    exact absurd hp (Bool.eq_false_iff.mp (Phase.holdsSlot_eq_true_iff.mp hs))
  · rw [heq, ticket_settle]

theorem Exchange.fail_of_open {x : Exchange} (hopen : x.phase.isTerminal = false)
    (e : ClassifiedError) (b : Books) :
    ∃ y b', (x.fail e b).2 = (y, b') ∧ y.id = x.id ∧ y.progress = .failed e ∧
      y.ticket = false := by
  rcases x.fail_cases e b with ⟨kept, hkept, -⟩ | ⟨hp, -⟩ | ⟨-, heq⟩
  · exact absurd (isTerminal_of_failure? hkept) (Bool.eq_false_iff.mp hopen)
  · rw [phase, hp] at hopen
    cases hopen
  · exact ⟨_, _, congrArg Prod.snd heq, id_settle _ _ _, progress_settle _ _ _,
      ticket_settle _ _ _⟩

/-- A wait changes the notice of the exchange and nothing else. -/
theorem SettledWait.poll_eq (w : SettledWait) (who : Waiter) (x : Exchange) :
    ∃ n, (w.poll who x).2 = { x with settled := n } := by
  obtain ⟨n, -, ⟨hpoll, -⟩ | hpoll⟩ := w.poll_cases who x
  · exact ⟨n, by rw [hpoll]⟩
  · exact ⟨n, by rw [hpoll]⟩

theorem SettledWait.id_poll (w : SettledWait) (who : Waiter) (x : Exchange) :
    (w.poll who x).2.id = x.id := by
  obtain ⟨n, hpoll⟩ := w.poll_eq who x
  rw [hpoll]

theorem SettledWait.id_drop (w : SettledWait) (who : Waiter) (x : Exchange) :
    (w.drop who x).id = x.id := by
  obtain ⟨n, -, hdrop⟩ := w.drop_eq who x
  rw [hdrop]

theorem Watch.id_poll (v : Watch) (who : Waiter) (x : Exchange)
    (terminal : Option ClassifiedError) (b : Books) : (v.poll who x terminal b).2.1.id = x.id := by
  cases v with
  | finished => rfl
  | waiting w =>
    obtain ⟨n, -, ⟨hpoll, -⟩ | ⟨-, hpoll⟩ | ⟨e, -, hpoll⟩⟩ :=
      Watch.poll_cases (w := .waiting w) rfl who x terminal b
    · rw [hpoll]
    · rw [hpoll]
    · rw [hpoll]
      exact Exchange.id_called { x with settled := n } b (.fail e)

namespace Held

variable {h h' : Held} {s : Step} {i j k : Nat} {q : List Waiter} {x y : Exchange} {who : Waiter}
  {w : SettledWait} {held : Holding}

/-! ## Who stands in line -/

/-- Nobody but the watcher `k` has waited for exchange `i` in any state of this run. -/
def WatchedOnlyBy (h : Held) (steps : List Step) (i k : Nat) : Prop :=
  ∀ before, before <+: steps → ∀ who, (h.run before).waitsFor? who = some i → who = .watcher k

theorem mem_lineAfter (hv : who ∈ h.lineAfter i q s) : who ∈ q ∨ h.waitsFor? who = some i := by
  have hpoll (v : Waiter) (hv : who ∈ h.lineAfterPoll i q v) :
      who ∈ q ∨ h.waitsFor? who = some i := by
    rw [lineAfterPoll] at hv
    split at hv
    · rename_i hwaits
      split at hv
      · exact Or.inl (List.mem_of_mem_erase hv)
      · rcases mem_lineUp.mp hv with hold | rfl
        · exact Or.inl hold
        · exact Or.inr hwaits.1
    · exact Or.inl hv
  have hdrop (v : Waiter) (hv : who ∈ h.lineAfterDrop i q v) : who ∈ q := by
    rw [lineAfterDrop] at hv
    split at hv
    · exact List.mem_of_mem_erase hv
    · exact hv
  cases s with
  | pollSettled k => exact hpoll (.caller k) hv
  | pollWatch k => exact hpoll (.watcher k) hv
  | dropSettled k => exact Or.inl (hdrop (.caller k) hv)
  | dropWatch k => exact Or.inl (hdrop (.watcher k) hv)
  | _ => exact Or.inl hv

/-- Whoever stands in line has waited for the exchange. -/
theorem waited_of_mem_line {steps : List Step} (hv : who ∈ h.line i steps) :
    ∃ before, before <+: steps ∧ (h.run before).waitsFor? who = some i := by
  induction steps using List.reverseRecOn with
  | nil => exact absurd hv List.not_mem_nil
  | append_singleton steps s ih =>
    rw [line_snoc] at hv
    rcases mem_lineAfter hv with hold | hwaits
    · obtain ⟨before, hprefix, hwaits⟩ := ih hold
      exact ⟨before, hprefix.trans (List.prefix_append _ _), hwaits⟩
    · exact ⟨steps, List.prefix_append _ _, hwaits⟩

/-- A watcher that waits alone stands behind nobody. -/
theorem WatchedOnlyBy.not_mem_tail {steps : List Step} (hsole : h.WatchedOnlyBy steps i k)
    (hnodup : (h.line i steps).Nodup) : .watcher k ∉ (h.line i steps).tail := by
  intro hmem
  have hall (v : Waiter) (hv : v ∈ h.line i steps) : v = .watcher k := by
    obtain ⟨before, hprefix, hwaits⟩ := waited_of_mem_line hv
    exact hsole before hprefix v hwaits
  match hq : h.line i steps, hmem, hnodup with
  | first :: rest, hmem, hnodup =>
    have hfirst : first = .watcher k := hall first (hq ▸ List.mem_cons_self)
    exact (List.nodup_cons.mp hnodup).1 (hfirst ▸ hmem)

/-! ## The numbers of exchanges -/

/-- The numbers of all exchanges, in the order in which they were made. -/
def ids (h : Held) : List ExchangeId := h.holdings.toList.map fun held ↦ held.exchange.id

theorem getElem?_ids (hx : h.exchange? i = some x) : h.ids[i]? = some x.id := by
  rw [ids, List.getElem?_map, Array.getElem?_toList]
  obtain ⟨held, hheld, rfl⟩ := exchange?_eq_some_iff.mp hx
  rw [hheld, Option.map_some]

theorem ids_modify (h : Held) (i : Nat) {f : Holding → Holding}
    (hf : ∀ held, h.holdings[i]? = some held → (f held).exchange.id = held.exchange.id) :
    ({ h with holdings := h.holdings.modify i f } : Held).ids = h.ids := by
  refine List.ext_getElem? fun j ↦ ?_
  rw [ids, ids, List.getElem?_map, List.getElem?_map, Array.getElem?_toList, Array.getElem?_toList,
    Array.getElem?_modify]
  split
  · rename_i hij
    subst hij
    cases hheld : h.holdings[i]? with
    | none => rfl
    | some held => exact congrArg some (hf held hheld)
  · rfl

theorem ids_put (hx : h.exchange? i = some x) (hy : y.id = x.id) : (h.put i y).ids = h.ids := by
  refine h.ids_modify i fun held hheld ↦ ?_
  obtain ⟨held', hheld', rfl⟩ := exchange?_eq_some_iff.mp hx
  cases hheld.symm.trans hheld'
  exact hy

/-- What is done to an exchange through its owner leaves a property alone if it does so for every
exchange; for one that has been given up there is nothing to do. -/
private theorem of_owned {P : Held → Prop} {f : Exchange → Answer × Held} (hgone : P h)
    (hf : ∀ x, h.exchange? i = some x → P (f x).2) :
    P (match h.owned? i with | none => (Answer.gone, h) | some x => f x).2 := by
  split
  · exact hgone
  · rename_i x ho
    exact hf x (exchange?_of_owned? ho)

/-- All that a step can do to the registry. -/
inductive Listing (h : Held) : Step → Held → Prop
  | kept {s : Step} {h' : Held} (hi : h'.ids = h.ids) (hs : h'.sequence = h.sequence)
      (hr : h'.registry = h.registry) : Listing h s h'
  | listed {h' : Held} (hi : h'.ids = h.ids ++ [h.sequence.next.1])
      (hs : h'.sequence = h.sequence.next.2)
      (hr : h'.registry = h.registry ++ [h.sequence.next.1]) : Listing h .new h'
  | withdrawn {h' : Held} {i : Nat} {x : Exchange} (hx : h.exchange? i = some x)
      (hi : h'.ids = h.ids) (hs : h'.sequence = h.sequence)
      (hr : h'.registry = h.registry.erase x.id) : Listing h (.unregister i) h'
  /-- A watcher is done with its exchange. -/
  | watched {h' : Held} {i k : Nat} {x : Exchange} (hp : h.waitsFor? (.watcher k) = some i)
      (hx : h.exchange? i = some x) (hi : h'.ids = h.ids) (hs : h'.sequence = h.sequence)
      (hr : h'.registry = h.registry.erase x.id) : Listing h (.pollWatch k) h'

private theorem listing_put (hx : h.exchange? i = some x) (hy : y.id = x.id) (s : Step)
    (books : Books) (waits : Array (Option (Nat × SettledWait))) (watches : Array (Nat × Watch)) :
    h.Listing s { h.put i y with books, waits, watches } :=
  .kept (ids_put hx hy) rfl rfl

private theorem listing_called (hx : h.exchange? i = some x) (c : Exchange.Call) (s : Step)
    (books : Books) : h.Listing s { h.put i (x.called h.books c).1 with books } :=
  listing_put hx (x.id_called h.books c) s books h.waits h.watches

private theorem listing_new (h : Held) : h.Listing .new (h.act .new).2 := by
  simp only [act_new_eq]
  split
  · exact .kept rfl rfl rfl
  · exact .listed (by simp [ids]) rfl rfl

private theorem listing_pollSettled (h : Held) (k : Nat) :
    h.Listing (.pollSettled k) (h.act (.pollSettled k)).2 := by
  simp only [act_pollSettled_eq]
  split
  · exact .kept rfl rfl rfl
  · split
    · exact .kept rfl rfl rfl
    · rename_i held hheld
      exact listing_put (exchange?_eq_some_iff.mpr ⟨held, hheld, rfl⟩)
        (SettledWait.id_poll _ _ _) _ _ _ _

private theorem listing_dropSettled (h : Held) (k : Nat) :
    h.Listing (.dropSettled k) (h.act (.dropSettled k)).2 := by
  simp only [act_dropSettled_eq]
  split
  · exact .kept rfl rfl rfl
  · split
    · exact .kept rfl rfl rfl
    · rename_i held hheld
      exact listing_put (exchange?_eq_some_iff.mpr ⟨held, hheld, rfl⟩)
        (SettledWait.id_drop _ _ _) _ _ _ _

private theorem listing_dropWatch (h : Held) (k : Nat) :
    h.Listing (.dropWatch k) (h.act (.dropWatch k)).2 := by
  simp only [act_dropWatch_eq]
  split
  · split
    · exact .kept rfl rfl rfl
    · rename_i held hheld
      exact listing_put (exchange?_eq_some_iff.mpr ⟨held, hheld, rfl⟩)
        (SettledWait.id_drop _ _ _) _ _ _ _
  · exact .kept rfl rfl rfl

private theorem listing_pollWatch (h : Held) (k : Nat) :
    h.Listing (.pollWatch k) (h.act (.pollWatch k)).2 := by
  simp only [act_pollWatch_eq]
  split
  · rename_i i w hv
    split
    · exact .kept rfl rfl rfl
    · rename_i held hheld
      have hx : h.exchange? i = some held.exchange := exchange?_eq_some_iff.mpr ⟨held, hheld, rfl⟩
      have hp : h.waitsFor? (.watcher k) = some i :=
        waitsFor?_of_place? (place?_watcher_eq_some_iff.mpr hv)
      have hid := Watch.id_poll (.waiting w) (.watcher k) held.exchange h.tracker.terminal? h.books
      split
      · exact listing_put hx hid _ _ _ _
      · exact .watched hp hx (ids_put hx hid) rfl (congrArg h.registry.erase hid)
  · exact .kept rfl rfl rfl

theorem listing_act (h : Held) (s : Step) : h.Listing s (h.act s).2 := by
  cases s with
  | new => exact listing_new h
  | headers i =>
    exact of_owned (.kept rfl rfl rfl) fun x hx ↦ listing_called hx .headersReceived _ _
  | complete i => exact of_owned (.kept rfl rfl rfl) fun x hx ↦ listing_called hx .complete _ _
  | draining i => exact of_owned (.kept rfl rfl rfl) fun x hx ↦ listing_called hx .draining _ _
  | fail i announced cause =>
    exact of_owned (.kept rfl rfl rfl) fun x hx ↦
      listing_called hx (.fail (classify announced cause)) _ _
  | failure i | snapshot i | describe i =>
    exact of_owned (.kept rfl rfl rfl) fun x hx ↦ .kept rfl rfl rfl
  | unregister i =>
    exact of_owned (.kept rfl rfl rfl) fun x hx ↦ .withdrawn hx rfl rfl rfl
  | drop i =>
    exact of_owned (.kept rfl rfl rfl) fun x hx ↦ .kept (h.ids_modify i fun _ _ ↦ rfl) rfl rfl
  | waitSettled i | watch i =>
    exact of_owned (.kept rfl rfl rfl) fun x hx ↦ .kept rfl rfl rfl
  | pollSettled k => exact h.listing_pollSettled k
  | pollWatch k => exact h.listing_pollWatch k
  | dropSettled k => exact h.listing_dropSettled k
  | dropWatch k => exact h.listing_dropWatch k
  | markClosing | close => exact .kept rfl rfl rfl

/-! ## Unheld exchanges -/

/-- A holding after its slot went back if nobody holds the exchange. -/
def letGo (h : Held) (i : Nat) (held : Holding) : Holding :=
  if h.isHeld i held then held
  else { held with exchange := { held.exchange with ticket := false } }

@[simp] theorem id_letGo (h : Held) (i : Nat) (held : Holding) :
    (h.letGo i held).exchange.id = held.exchange.id := by
  rw [letGo]
  split <;> rfl

@[simp] theorem owned_letGo (h : Held) (i : Nat) (held : Holding) :
    (h.letGo i held).owned = held.owned := by
  rw [letGo]
  split <;> rfl

theorem letGo_letGo (h : Held) (i : Nat) (held : Holding) :
    h.letGo i (h.letGo i held) = h.letGo i held := by
  have hheld : h.isHeld i (h.letGo i held) = h.isHeld i held := by
    rw [isHeld, isHeld, id_letGo, owned_letGo]
  rw [letGo, hheld]
  split
  · rfl
  · rename_i hnot
    rw [letGo, if_neg hnot]

private theorem modify_congr {f g : Holding → Holding}
    (hfg : ∀ held, h.holdings[i]? = some held → f held = g held) :
    h.holdings.modify i f = h.holdings.modify i g := by
  refine Array.ext_getElem? fun j ↦ ?_
  rw [Array.getElem?_modify, Array.getElem?_modify]
  split
  · rename_i hij
    subst hij
    exact Option.map_congr hfg
  · rfl

private theorem modify_id (h : Held) (i : Nat) : h.holdings.modify i id = h.holdings := by
  refine Array.ext_getElem? fun j ↦ ?_
  rw [Array.getElem?_modify, Option.map_id_fun, id_eq, ite_self]

/-- To reclaim an exchange is to let go of it; nothing else changes but the books. -/
theorem reclaimAt_eq (h : Held) (i : Nat) :
    ∃ books, h.reclaimAt i = { h with holdings := h.holdings.modify i (h.letGo i), books } := by
  have hsame (hself : ∀ held, h.holdings[i]? = some held → h.letGo i held = held) :
      h = { h with holdings := h.holdings.modify i (h.letGo i) } := by
    rw [modify_congr (g := id) hself, modify_id]
  rw [reclaimAt]
  split
  · rename_i hnone
    exact ⟨h.books, hsame fun held hheld ↦ by cases hnone.symm.trans hheld⟩
  · rename_i held hheld
    split
    · rename_i hkept
      refine ⟨h.books, hsame fun held' hheld' ↦ ?_⟩
      cases hheld.symm.trans hheld'
      exact if_pos hkept
    · rename_i hleft
      have hback : held.exchange.giveBack h.books =
          ({ held.exchange with ticket := false }, (held.exchange.giveBack h.books).2) := by
        rw [Exchange.giveBack]
        split
        · rfl
        · rename_i hticket
          rw [← Bool.eq_false_iff.mpr hticket]
      have hput : h.holdings.modify i (fun held' ↦
            { held' with exchange := { held.exchange with ticket := false } }) =
          h.holdings.modify i (h.letGo i) := by
        refine modify_congr fun held' hheld' ↦ ?_
        cases hheld.symm.trans hheld'
        exact (if_neg hleft).symm
      rw [hback]
      exact ⟨_, congrArg (fun hs ↦ ({ h with holdings := hs, books := _ } : Held)) hput⟩

/-- To reclaim all exchanges is to let go of each. -/
theorem reclaim_eq (h : Held) :
    ∃ holdings books, h.reclaim = { h with holdings, books } ∧
      ∀ i, holdings[i]? = (h.holdings[i]?).map (h.letGo i) := by
  suffices hfold : ∀ js : List Nat, ∃ holdings books,
      js.foldl reclaimAt h = { h with holdings, books } ∧
        ∀ i, holdings[i]? = if i ∈ js then (h.holdings[i]?).map (h.letGo i) else h.holdings[i]? by
    obtain ⟨holdings, books, heq, hget⟩ := hfold (List.range h.holdings.size)
    refine ⟨holdings, books, heq, fun i ↦ ?_⟩
    rw [hget]
    split
    · rfl
    · rename_i hi
      rw [Array.getElem?_eq_none (Nat.le_of_not_lt fun hlt ↦ hi (List.mem_range.mpr hlt)),
        Option.map_none]
  intro js
  induction js using List.reverseRecOn with
  | nil => exact ⟨h.holdings, h.books, rfl, fun i ↦ by rw [if_neg List.not_mem_nil]⟩
  | append_singleton js j ih =>
    obtain ⟨holdings, books, heq, hget⟩ := ih
    obtain ⟨books', hstep⟩ := ({ h with holdings, books } : Held).reclaimAt_eq j
    refine ⟨holdings.modify j (h.letGo j), books', ?_, fun i ↦ ?_⟩
    · rw [List.foldl_append, heq]
      exact hstep
    · rw [Array.getElem?_modify, hget]
      simp only [List.mem_append, List.mem_singleton]
      by_cases hij : j = i
      · subst hij
        rw [if_pos rfl, if_pos (Or.inr rfl)]
        split
        · rw [Option.map_map]
          exact Option.map_congr fun held _ ↦ h.letGo_letGo j held
        · rfl
      · rw [if_neg hij]
        simp only [Ne.symm hij, or_false]

@[simp] theorem registry_reclaim (h : Held) : h.reclaim.registry = h.registry := by
  obtain ⟨_, _, heq, -⟩ := h.reclaim_eq
  rw [heq]

@[simp] theorem sequence_reclaim (h : Held) : h.reclaim.sequence = h.sequence := by
  obtain ⟨_, _, heq, -⟩ := h.reclaim_eq
  rw [heq]

@[simp] theorem ids_reclaim (h : Held) : h.reclaim.ids = h.ids := by
  obtain ⟨holdings, books, heq, hget⟩ := h.reclaim_eq
  refine List.ext_getElem? fun i ↦ ?_
  rw [heq, ids, ids, List.getElem?_map, List.getElem?_map, Array.getElem?_toList,
    Array.getElem?_toList, hget, Option.map_map]
  exact Option.map_congr fun held _ ↦ h.id_letGo i held

/-- Every exchange that nobody holds has given its slot back. -/
def Reclaimed (h : Held) : Prop :=
  ∀ i held, h.holdings[i]? = some held → h.isHeld i held = false → held.exchange.ticket = false

theorem reclaimed_reclaim (h : Held) : h.reclaim.Reclaimed := by
  obtain ⟨holdings, books, heq, hget⟩ := h.reclaim_eq
  rw [heq]
  intro i held hheld hleft
  obtain ⟨held₀, -, rfl⟩ := Option.map_eq_some_iff.mp ((hget i).symm.trans hheld)
  -- Who holds an exchange does not depend on its ticket.
  have hleft₀ : h.isHeld i held₀ = false := by
    rw [← hleft, isHeld, isHeld, id_letGo, owned_letGo]
  rw [letGo, if_neg (Bool.eq_false_iff.mp hleft₀)]

/-- Where nobody is to be let go of, reclaiming changes nothing. -/
theorem Reclaimed.reclaim_eq_self (hr : h.Reclaimed) : h.reclaim = h := by
  have hat (i : Nat) : h.reclaimAt i = h := by
    rw [reclaimAt]
    split
    · rfl
    · rename_i held hheld
      split
      · rfl
      · rename_i hleft
        have hticket := hr i held hheld (Bool.eq_false_iff.mpr hleft)
        rw [Exchange.giveBack, hticket, if_neg Bool.false_ne_true]
        have hsame : h.holdings.modify i (fun held' ↦ { held' with exchange := held.exchange }) =
            h.holdings := by
          rw [modify_congr (g := id) fun held' hheld' ↦ ?_, modify_id]
          cases hheld.symm.trans hheld'
          rfl
        exact congrArg (fun hs ↦ ({ h with holdings := hs } : Held)) hsame
  rw [reclaim]
  generalize List.range h.holdings.size = js
  induction js with
  | nil => rfl
  | cons j js ih => rw [List.foldl_cons, hat j, ih]

theorem reclaimed_run (d : Depth) (steps : List Step) : ((ofDepth d).run steps).Reclaimed := by
  induction steps using List.reverseRecOn with
  | nil => exact fun i held hheld ↦ by simp [run, ofDepth] at hheld
  | append_singleton steps s =>
    rw [run_snoc]
    exact reclaimed_reclaim _

/-! ## Numbers and tickets in every run -/

/-- The exchanges are numbered in the order in which they were made, and the registry lists some of
these numbers, none of them twice. -/
structure Numbered (h : Held) : Prop where
  ids_eq : h.ids = (List.range h.sequence.drawn).map fun n ↦ ⟨n + 1⟩
  nodup : h.registry.Nodup
  drawn : ∀ id ∈ h.registry, id.number ≤ h.sequence.drawn

theorem Numbered.id_eq (hn : h.Numbered) (hx : h.exchange? i = some x) : x.id = ⟨i + 1⟩ := by
  have hid := getElem?_ids hx
  rw [hn.ids_eq, List.getElem?_map] at hid
  obtain ⟨n, hget, hid⟩ := Option.map_eq_some_iff.mp hid
  obtain ⟨hi, rfl⟩ := List.getElem?_eq_some_iff.mp hget
  rw [← hid, List.getElem_range]

theorem numbered_ofDepth (d : Depth) : (ofDepth d).Numbered where
  ids_eq := rfl
  nodup := List.nodup_nil
  drawn := by simp [ofDepth]

theorem Numbered.listing (hn : h.Numbered) (hl : h.Listing s h') : h'.Numbered := by
  have herase {id : ExchangeId} (hi : h'.ids = h.ids) (hs : h'.sequence = h.sequence)
      (hr : h'.registry = h.registry.erase id) : h'.Numbered := by
    refine ⟨by rw [hi, hs, hn.ids_eq], hr ▸ hn.nodup.erase id, fun id' hid ↦ ?_⟩
    rw [hr] at hid
    rw [hs]
    exact hn.drawn id' (List.mem_of_mem_erase hid)
  rcases hl with ⟨hi, hs, hr⟩ | ⟨hi, hs, hr⟩ | ⟨-, hi, hs, hr⟩ | ⟨-, -, hi, hs, hr⟩
  · exact ⟨by rw [hi, hs, hn.ids_eq], hr ▸ hn.nodup, hr ▸ hs ▸ hn.drawn⟩
  · refine ⟨?_, ?_, fun id hid ↦ ?_⟩
    · rw [hi, hs, hn.ids_eq, ExchangeSequence.next, List.range_succ, List.map_append]
      rfl
    · -- The new number is greater than all that were drawn before.
      rw [hr, List.nodup_append]
      refine ⟨hn.nodup, by simp, fun id hid new hnew heq ↦ ?_⟩
      have hle := hn.drawn id hid
      rw [heq, List.mem_singleton.mp hnew, ExchangeSequence.next] at hle
      exact Nat.not_succ_le_self _ hle
    · rw [hs]
      rw [hr, List.mem_append, List.mem_singleton] at hid
      rcases hid with hold | rfl
      · exact Nat.le_succ_of_le (hn.drawn id hold)
      · exact Nat.le_refl _
  · exact herase hi hs hr
  · exact herase hi hs hr

theorem numbered_run (d : Depth) (steps : List Step) : ((ofDepth d).run steps).Numbered := by
  induction steps using List.reverseRecOn with
  | nil => exact numbered_ofDepth d
  | append_singleton steps s ih =>
    rw [run_snoc]
    have hact := ih.listing (listing_act _ s)
    exact ⟨by simpa [step] using hact.ids_eq, by simpa [step] using hact.nodup,
      by simpa [step] using hact.drawn⟩

/-- Every exchange that has settled has given up its ticket. -/
def GivenUp (h : Held) : Prop :=
  ∀ i x, h.exchange? i = some x → x.phase.isTerminal = true → x.ticket = false

theorem GivenUp.effect (hg : h.GivenUp) (he : h.Effect s h') : h'.GivenUp := by
  have hupdate (j : Nat) (y : Exchange)
      (hx' : h'.exchange? = Function.update h.exchange? j (some y))
      (hy : y.phase.isTerminal = true → y.ticket = false) : h'.GivenUp := by
    intro i x hx
    rw [hx', Function.update_apply] at hx
    split at hx
    · cases hx
      exact hy
    · exact hg i x hx
  cases he with
  | still _ hx' | joined _ _ _ hx' => exact fun i x hx ↦ hg i x (hx' ▸ hx)
  | new _ _ _ hx' => exact hupdate _ _ hx' fun hp ↦ by cases hp
  | called c _ hx hx' => exact hupdate _ _ hx' (Exchange.ticket_called (hg _ _ hx) _ c)
  | @polled _ _ _ who w _ hx _ hx' =>
    have hold := hg _ _ hx
    obtain ⟨n, hpoll⟩ := w.poll_eq who _
    exact hupdate _ _ hx' (by rw [hpoll]; exact hold)
  | @cut _ _ _ who w w' e _ hx _ _ hx' =>
    have hold := hg _ _ hx
    obtain ⟨n, hpoll⟩ := w.poll_eq who _
    obtain ⟨m, -, hdrop⟩ := w'.drop_eq who _
    exact hupdate _ _ hx' (Exchange.ticket_called (by rw [hdrop, hpoll]; exact hold) _ (.fail e))
  | @dropped _ _ _ who w _ hx hx' =>
    have hold := hg _ _ hx
    obtain ⟨m, -, hdrop⟩ := w.drop_eq who _
    exact hupdate _ _ hx' (by rw [hdrop]; exact hold)

theorem givenUp_run (d : Depth) (steps : List Step) : ((ofDepth d).run steps).GivenUp := by
  induction steps using List.reverseRecOn with
  | nil => exact fun i x hx ↦ by simp [run, ofDepth, exchange?] at hx
  | append_singleton steps s ih =>
    rw [run_snoc]
    intro i x hx hp
    have hact := ih.effect (effect_act (known_run d steps) s)
    rcases exchange?_reclaim _ i with heq | ⟨y, -, heq⟩
    · exact hact i x (heq ▸ hx) hp
    · cases heq.symm.trans hx
      rfl

/-! ## A poll of a watcher -/

/-- An exchange is held by its owner, by the registry and by those who wait for it. -/
theorem isHeld_iff : h.isHeld i held = true ↔
    held.owned = true ∨ held.exchange.id ∈ h.registry ∨ ∃ who, h.waitsFor? who = some i := by
  have hcallers : h.waits.any (fun w ↦ w.any fun w ↦ w.1 == i) = true ↔
      ∃ k, h.waitsFor? (.caller k) = some i := by
    rw [Array.any_eq_true']
    simp only [Array.mem_iff_getElem?, waitsFor?_eq_some_iff, place?]
    constructor
    · rintro ⟨_ | ⟨j, w⟩, ⟨k, hk⟩, hj⟩
      · cases hj
      · exact ⟨k, w, beq_iff_eq.mp hj ▸ hk⟩
    · rintro ⟨k, w, hk⟩
      exact ⟨_, ⟨k, hk⟩, beq_iff_eq.mpr rfl⟩
  have hwatchers : h.watches.any (fun w ↦ w.1 == i && w.2.isLive) = true ↔
      ∃ k, h.waitsFor? (.watcher k) = some i := by
    rw [Array.any_eq_true']
    simp only [Array.mem_iff_getElem?, waitsFor?_eq_some_iff, place?_watcher_eq_some_iff,
      Bool.and_eq_true, beq_iff_eq]
    constructor
    · rintro ⟨⟨j, w | _⟩, ⟨k, hk⟩, rfl, hlive⟩
      · exact ⟨k, w, hk⟩
      · cases hlive
    · rintro ⟨k, w, hk⟩
      exact ⟨_, ⟨k, hk⟩, rfl, rfl⟩
  rw [isHeld, Bool.or_eq_true, Bool.or_eq_true, Bool.or_eq_true, hcallers, hwatchers,
    List.contains_iff_mem, or_assoc, or_assoc]
  refine or_congr_right (or_congr_right ?_)
  constructor
  · rintro (⟨k, hk⟩ | ⟨k, hk⟩)
    · exact ⟨_, hk⟩
    · exact ⟨_, hk⟩
  · rintro ⟨k | k, hk⟩
    · exact Or.inl ⟨k, hk⟩
    · exact Or.inr ⟨k, hk⟩

/-- The state after a poll of watcher `k`, which leaves the watcher as `v`, its exchange `i` as `y`
and the books as `b`; unheld exchanges have not been reclaimed. -/
def watched (h : Held) (k i : Nat) (v : Watch) (y : Exchange) (b : Books) : Held :=
  { h.put i y with
    books := b
    watches := h.watches.set! k (i, v)
    registry := if v.isLive then h.registry else h.registry.erase y.id }

theorem act_pollWatch (hp : h.place? (.watcher k) = some (some (i, w)))
    (hx : h.exchange? i = some x) {v : Watch} {b : Books}
    (hpoll : (Watch.waiting w).poll (.watcher k) x h.tracker.terminal? h.books = (v, y, b)) :
    h.act (.pollWatch k) = (if v.isLive then .pending else .done, h.watched k i v y b) := by
  obtain ⟨held, hheld, rfl⟩ := exchange?_eq_some_iff.mp hx
  simp only [act_pollWatch_eq, place?_watcher_eq_some_iff.mp hp, hheld, hpoll, watched]
  split
  · rfl
  · rfl

theorem exchange?_watched (hx : h.exchange? i = some x) (k : Nat) (v : Watch) (y : Exchange)
    (b : Books) : (h.watched k i v y b).exchange? = Function.update h.exchange? i (some y) :=
  exchange?_put hx y

theorem waitsFor?_watched (hp : h.place? (.watcher k) = some (some (i, w))) (v : Watch)
    (y : Exchange) (b : Books) : (h.watched k i v y b).waitsFor? =
      Function.update h.waitsFor? (.watcher k) (if v.isLive then some i else none) := by
  have hplace := place?_set_watcher (place?_watcher_eq_some_iff.mp hp) i v
  funext who
  change (((({ h with watches := h.watches.set! k (i, v) } : Held).place? who).join).map _) = _
  rw [hplace, Function.update_apply, Function.update_apply]
  split
  · cases v with
    | waiting w => rfl
    | finished => rfl
  · rfl

/-- A watcher that is done with a settled exchange leaves no slot to be given back. -/
theorem Reclaimed.watched (hr : h.Reclaimed) (hn : h.Numbered)
    (hp : h.place? (.watcher k) = some (some (i, w))) (hx : h.exchange? i = some x)
    (hid : y.id = x.id) {v : Watch} (hv : v.isLive = false → y.ticket = false) (b : Books) :
    (h.watched k i v y b).Reclaimed := by
  have hwaits := waitsFor?_watched hp v y b
  intro j held' hheld' hleft
  rw [← Bool.not_eq_true, isHeld_iff, not_or, not_or] at hleft
  obtain ⟨howned, hlisted, hwaiting⟩ := hleft
  change (h.holdings.modify i _)[j]? = some held' at hheld'
  rw [Array.getElem?_modify] at hheld'
  by_cases hj : i = j
  · -- A watcher that stays holds its exchange.
    subst hj
    obtain ⟨held, -, rfl⟩ := Option.map_eq_some_iff.mp (if_pos rfl ▸ hheld')
    refine hv (Bool.eq_false_iff.mpr fun hlive ↦ hwaiting ⟨.watcher k, ?_⟩)
    rw [hwaits, Function.update_self, if_pos hlive]
  · rw [if_neg hj] at hheld'
    have hne : held'.exchange.id ≠ y.id := by
      rw [hid, hn.id_eq hx, hn.id_eq (exchange?_eq_some_iff.mpr ⟨held', hheld', rfl⟩)]
      exact fun heq ↦ hj (Nat.succ.inj (ExchangeId.mk.inj heq)).symm
    refine hr j held' hheld' (Bool.eq_false_iff.mpr fun hheld ↦ ?_)
    rcases isHeld_iff.mp hheld with ho | hmem | ⟨who, hwho⟩
    · exact howned ho
    · refine hlisted ?_
      change _ ∈ if v.isLive then h.registry else h.registry.erase y.id
      split
      · exact hmem
      · exact (List.mem_erase_of_ne hne).mpr hmem
    · refine hwaiting ⟨who, ?_⟩
      rw [hwaits, Function.update_of_ne, hwho]
      rintro rfl
      exact hj (Option.some.inj ((waitsFor?_of_place? hp).symm.trans hwho))

/-! ## A watcher that waits alone -/

/-- Watcher `k` is the only one to wait for exchange `i`, which is `x`, and `w` is its wait. What is
said of all exchanges here holds in every run. -/
structure Attends (h : Held) (k i : Nat) (w : SettledWait) (x : Exchange) : Prop where
  place : h.place? (.watcher k) = some (some (i, w))
  exchange : h.exchange? i = some x
  line : ∃ q, Lines h i q ∧ .watcher k ∉ q.tail
  alone : ∀ who, h.waitsFor? who = some i → who = .watcher k
  known : h.Known
  numbered : h.Numbered
  reclaimed : h.Reclaimed
  givenUp : h.GivenUp

theorem attends_run {d : Depth} {steps : List Step}
    (hwatch : ((ofDepth d).run steps).waitsFor? (.watcher k) = some i)
    (hsole : (ofDepth d).WatchedOnlyBy steps i k) :
    ∃ w x, ((ofDepth d).run steps).Attends k i w x := by
  obtain ⟨w, hp⟩ := waitsFor?_eq_some_iff.mp hwatch
  have hknown := known_run d steps
  obtain ⟨x, hx⟩ := hknown _ _ _ hp
  have hl : Lines ((ofDepth d).run steps) i ((ofDepth d).line i steps) := lines_run d i steps
  exact ⟨w, x, {
    place := hp
    exchange := hx
    line := ⟨_, hl, hsole.not_mem_tail hl.nodup⟩
    alone := hsole steps (List.prefix_refl steps)
    known := hknown
    numbered := numbered_run d steps
    reclaimed := reclaimed_run d steps
    givenUp := givenUp_run d steps }⟩

namespace Attends

/-- A poll that leaves no slot behind is followed by no other change. -/
theorem step_poll (ha : h.Attends k i w x) {v : Watch} {b : Books}
    (hv : v.isLive = false → y.ticket = false)
    (hpoll : (Watch.waiting w).poll (.watcher k) x h.tracker.terminal? h.books = (v, y, b)) :
    h.step (.pollWatch k) = (if v.isLive then .pending else .done, h.watched k i v y b) := by
  have hid : y.id = x.id := by
    have hid := (Watch.waiting w).id_poll (.watcher k) x h.tracker.terminal? h.books
    rwa [hpoll] at hid
  have hreclaimed := ha.reclaimed.watched ha.numbered ha.place ha.exchange hid hv b
  simp only [step, act_pollWatch ha.place ha.exchange hpoll, hreclaimed.reclaim_eq_self]

/-- The exchange has settled, whether or not the connection has closed. -/
theorem step_settled (ha : h.Attends k i w x) (hdone : x.phase.isTerminal = true) :
    ∃ n, h.step (.pollWatch k) =
      (.done, h.watched k i .finished { x with settled := n } h.books) := by
  obtain ⟨q, hl, hq⟩ := ha.line
  have hready : (w.poll (.watcher k) x).1 = none :=
    (hl.poll_eq_none_iff ha.place ha.exchange).mpr ⟨hdone, hq⟩
  obtain ⟨n, hpoll⟩ := w.poll_eq (.watcher k) x
  have hticket := ha.givenUp i x ha.exchange hdone
  exact ⟨n, ha.step_poll (v := .finished) (y := { x with settled := n }) (fun _ ↦ hticket)
    (by rw [Watch.poll_of_none hready, hpoll])⟩

/-- An open exchange does not answer the watcher, so the connection decides. -/
theorem poll_open (ha : h.Attends k i w x) (hopen : x.phase.isTerminal = false) :
    ∃ n,
      (h.tracker.terminal? = none ∧
        (Watch.waiting w).poll (.watcher k) x h.tracker.terminal? h.books =
          (.waiting .registered, { x with settled := n }, h.books)) ∨
      ∃ e, h.tracker.terminal? = some e ∧
        (Watch.waiting w).poll (.watcher k) x h.tracker.terminal? h.books =
          (.finished, (({ x with settled := n } : Exchange).fail e h.books).2) := by
  obtain ⟨q, hl, -⟩ := ha.line
  have hquiet : x.settled.IsQuiet := by
    rw [(hl.keeps x ha.exchange).eq_of_open hopen]
    exact ⟨rfl, rfl⟩
  obtain ⟨n, -, ⟨-, hterminal | hloud⟩ | hpending | hfailed⟩ :=
    Watch.poll_cases (w := .waiting w) rfl (.watcher k) x h.tracker.terminal? h.books
  · exact absurd hterminal (Bool.eq_false_iff.mp hopen)
  · exact absurd hquiet hloud
  · exact ⟨n, Or.inl hpending⟩
  · exact ⟨n, Or.inr hfailed⟩

/-- Neither has the exchange settled nor the connection closed. -/
theorem step_pending (ha : h.Attends k i w x) (hopen : x.phase.isTerminal = false)
    (ht : h.tracker.terminal? = none) :
    ∃ n, h.step (.pollWatch k) =
      (.pending, h.watched k i (.waiting .registered) { x with settled := n } h.books) := by
  obtain ⟨n, ⟨-, hpoll⟩ | ⟨e, he, -⟩⟩ := ha.poll_open hopen
  · exact ⟨n, ha.step_poll (fun hv ↦ by cases hv) hpoll⟩
  · cases ht.symm.trans he

/-- The connection has closed, and the exchange fails with its error. -/
theorem step_failed (ha : h.Attends k i w x) (hopen : x.phase.isTerminal = false)
    {e : ClassifiedError} (ht : h.tracker.terminal? = some e) :
    ∃ y b, y.id = x.id ∧ y.progress = .failed e ∧
      h.step (.pollWatch k) = (.done, h.watched k i .finished y b) := by
  obtain ⟨n, ⟨hnone, -⟩ | ⟨e', he, hpoll⟩⟩ := ha.poll_open hopen
  · cases ht.symm.trans hnone
  · cases ht.symm.trans he
    obtain ⟨y, b, hfail, hid, hfailed, hticket⟩ :=
      Exchange.fail_of_open (x := { x with settled := n }) hopen e h.books
    exact ⟨y, b, hid, hfailed, ha.step_poll (v := .finished) (fun _ ↦ hticket)
      (by rw [hpoll, hfail])⟩

end Attends

/-! ## The registry is kept exactly -/

/-- How watcher `k` keeps the registry for its exchange `i`, which now is `x`. -/
structure KeepsEntry (h : Held) (k i : Nat) (x : Exchange) : Prop where
  /-- Neither the exchange has settled nor the connection closed: the watcher waits on, and nothing
  is changed but the notice it waits with. -/
  waits : x.phase.isTerminal = false → h.tracker.isClosed = false →
    (h.step (.pollWatch k)).1 = .pending ∧
    (h.step (.pollWatch k)).2.waitsFor? (.watcher k) = some i ∧
    (∃ n, (h.step (.pollWatch k)).2.exchange? =
      Function.update h.exchange? i (some { x with settled := n })) ∧
    (h.step (.pollWatch k)).2.registry = h.registry ∧
    (h.step (.pollWatch k)).2.books = h.books
  /-- Otherwise the watcher is done. It leaves the exchange settled and takes its entry out of the
  registry, and no other. -/
  ends : x.phase.isTerminal = true ∨ h.tracker.isClosed = true →
    (h.step (.pollWatch k)).1 = .done ∧
    (h.step (.pollWatch k)).2.Over (.watcher k) ∧
    (h.step (.pollWatch k)).2.hasSettled i = true ∧
    (∀ id, id ∈ (h.step (.pollWatch k)).2.registry ↔ id ∈ h.registry ∧ id ≠ x.id) ∧
    ∀ j, j ≠ i → (h.step (.pollWatch k)).2.exchange? j = h.exchange? j
  /-- An exchange that had settled stays as it was, and so do the books, whether or not the
  connection has closed. -/
  spares : x.phase.isTerminal = true →
    (∃ n, (h.step (.pollWatch k)).2.exchange? i = some { x with settled := n }) ∧
    (h.step (.pollWatch k)).2.books = h.books
  /-- An exchange that had not settled fails with the error of the connection. -/
  fails : x.phase.isTerminal = false → ∀ e, h.tracker.terminal? = some e →
    ∃ y, (h.step (.pollWatch k)).2.exchange? i = some y ∧ y.progress = .failed e
  /-- No other step ends the watcher, unless it is dropped. -/
  stays : ∀ s, s ≠ .pollWatch k → s ≠ .dropWatch k →
    (h.step s).2.waitsFor? (.watcher k) = some i
  /-- No other step takes the entry out of the registry, unless the owner does so himself. -/
  listed : x.id ∈ h.registry → ∀ s, s ≠ .pollWatch k → s ≠ .unregister i →
    x.id ∈ (h.step s).2.registry

theorem Effect.place?_of_ne (he : h.Effect s h') (hs : s.waiter? ≠ some who)
    (hp : h.place? who ≠ none) : h'.place? who = h.place? who := by
  cases he with
  | still _ _ hp' | new _ _ _ _ hp' | called _ _ _ _ hp' => rw [hp']
  | joined _ _ hfree _ hp' =>
    rw [hp', Function.update_of_ne]
    rintro rfl
    exact hp hfree
  | polled _ _ _ _ hp' | cut _ _ _ _ _ _ hp' =>
    rw [hp', Function.update_of_ne]
    rintro rfl
    exact hs (waiter?_pollOf _)
  | dropped _ _ _ hp' =>
    rw [hp', Function.update_of_ne]
    rintro rfl
    exact hs (waiter?_dropOf _)

theorem waiter?_ne_watcher (hpoll : s ≠ .pollWatch k) (hdrop : s ≠ .dropWatch k) :
    s.waiter? ≠ some (.watcher k) := by
  cases s with
  | pollWatch j =>
    rintro ⟨⟩
    exact hpoll rfl
  | dropWatch j =>
    rintro ⟨⟩
    exact hdrop rfl
  | _ => rintro ⟨⟩

/-- The entry of an exchange stays if its watcher is not polled and its owner does not take it. -/
theorem Listing.mem_registry (hl : h.Listing s h') (hn : h.Numbered) (hx : h.exchange? i = some x)
    (halone : ∀ who, h.waitsFor? who = some i → who = .watcher k) (hs : s ≠ .pollWatch k)
    (hs' : s ≠ .unregister i) (hmem : x.id ∈ h.registry) : x.id ∈ h'.registry := by
  have hne {j : Nat} {y : Exchange} (hy : h.exchange? j = some y) (hj : j ≠ i) : x.id ≠ y.id := by
    rw [hn.id_eq hx, hn.id_eq hy]
    exact fun heq ↦ hj (Nat.succ.inj (ExchangeId.mk.inj heq)).symm
  cases hl with
  | kept _ _ hr => exact hr ▸ hmem
  | listed _ _ hr => exact hr ▸ List.mem_append_left _ hmem
  | withdrawn hy _ _ hr =>
    rw [hr]
    exact (List.mem_erase_of_ne (hne hy fun hj ↦ hs' (congrArg Step.unregister hj))).mpr hmem
  | watched hp hy _ _ hr =>
    rw [hr]
    refine (List.mem_erase_of_ne (hne hy ?_)).mpr hmem
    rintro rfl
    exact hs (congrArg Step.pollWatch (Waiter.watcher.inj (halone _ hp)))

namespace Attends

/-- A watcher that is done leaves no entry of its exchange. -/
theorem ends_of_step (ha : h.Attends k i w x) (hid : y.id = x.id)
    (hy : y.phase.isTerminal = true) {b : Books}
    (hstep : h.step (.pollWatch k) = (.done, h.watched k i .finished y b)) :
    (h.step (.pollWatch k)).1 = .done ∧
    (h.step (.pollWatch k)).2.Over (.watcher k) ∧
    (h.step (.pollWatch k)).2.hasSettled i = true ∧
    (∀ id, id ∈ (h.step (.pollWatch k)).2.registry ↔ id ∈ h.registry ∧ id ≠ x.id) ∧
    ∀ j, j ≠ i → (h.step (.pollWatch k)).2.exchange? j = h.exchange? j := by
  have hexchange := exchange?_watched ha.exchange k .finished y b
  rw [hstep]
  refine ⟨rfl, ?_, ?_, fun id ↦ ?_, fun j hj ↦ ?_⟩
  · have hplace := place?_set_watcher (place?_watcher_eq_some_iff.mp ha.place) i .finished
    exact (congrFun hplace (.watcher k)).trans (Function.update_self _ _ _)
  · rw [hasSettled_eq (x := y) (by rw [hexchange, Function.update_self]), hy]
  · change id ∈ h.registry.erase y.id ↔ _
    rw [hid, ha.numbered.nodup.mem_erase_iff, and_comm]
  · rw [hexchange, Function.update_of_ne hj]

theorem stays (ha : h.Attends k i w x) (hpoll : s ≠ .pollWatch k) (hdrop : s ≠ .dropWatch k) :
    (h.step s).2.waitsFor? (.watcher k) = some i := by
  have hact := (effect_act ha.known s).place?_of_ne (waiter?_ne_watcher hpoll hdrop)
    (by simp [ha.place])
  exact waitsFor?_of_place? ((congrFun (place?_reclaim _) _).trans (hact.trans ha.place))

theorem listed (ha : h.Attends k i w x) (hmem : x.id ∈ h.registry) (hpoll : s ≠ .pollWatch k)
    (hs : s ≠ .unregister i) : x.id ∈ (h.step s).2.registry := by
  change x.id ∈ (h.act s).2.reclaim.registry
  rw [registry_reclaim]
  exact (listing_act h s).mem_registry ha.numbered ha.exchange ha.alone hpoll hs hmem

end Attends

/-- **Watchers and the registry.** Whatever is done with exchanges and with the connection, and in
whatever order, a watcher that is the only one to wait for its exchange keeps the registry exact. As
long as the exchange has not settled and the connection not closed it waits on and leaves the entry
alone. The first poll that finds either ends it: the exchange has settled then, its entry is gone
and no other entry is, and an exchange that had settled by itself is as it was, even if the
connection has closed too. -/
theorem registry_kept (d : Depth) (steps : List Step) (i k : Nat)
    (hwatch : ((ofDepth d).run steps).waitsFor? (.watcher k) = some i)
    (hsole : (ofDepth d).WatchedOnlyBy steps i k) :
    ∃ x, ((ofDepth d).run steps).exchange? i = some x ∧
      ((ofDepth d).run steps).KeepsEntry k i x := by
  obtain ⟨w, x, ha⟩ := attends_run hwatch hsole
  generalize (ofDepth d).run steps = h at ha ⊢
  refine ⟨x, ha.exchange, ?_⟩
  constructor
  case waits =>
    intro hopen hc
    have ht : h.tracker.terminal? = none := Tracker.terminal?_eq_none_iff.mpr hc
    obtain ⟨n, hstep⟩ := ha.step_pending hopen ht
    rw [hstep]
    refine ⟨rfl, ?_, ⟨n, exchange?_watched ha.exchange k _ _ _⟩, rfl, rfl⟩
    rw [waitsFor?_watched ha.place, Function.update_self]
    rfl
  case ends =>
    intro hends
    cases hphase : x.phase.isTerminal with
    | true =>
      obtain ⟨n, hstep⟩ := ha.step_settled hphase
      exact ha.ends_of_step (y := { x with settled := n }) rfl hphase hstep
    | false =>
      -- The exchange is open, so it is the connection that has closed.
      have hclosed : h.tracker.terminal?.isSome = true := by
        rw [Tracker.terminal?_isSome]
        exact hends.resolve_left (Bool.eq_false_iff.mp hphase)
      obtain ⟨e, ht⟩ := Option.isSome_iff_exists.mp hclosed
      obtain ⟨y, b, hid, hfailed, hstep⟩ := ha.step_failed hphase ht
      exact ha.ends_of_step hid (by rw [Exchange.phase, hfailed]; rfl) hstep
  case spares =>
    intro hdone
    obtain ⟨n, hstep⟩ := ha.step_settled hdone
    rw [hstep, exchange?_watched ha.exchange, Function.update_self]
    exact ⟨⟨n, rfl⟩, rfl⟩
  case fails =>
    intro hopen e ht
    obtain ⟨y, b, -, hfailed, hstep⟩ := ha.step_failed hopen ht
    rw [hstep, exchange?_watched ha.exchange, Function.update_self]
    exact ⟨y, rfl, hfailed⟩
  case stays => exact fun s ↦ ha.stays
  case listed => exact fun hmem s ↦ ha.listed hmem

/-- With one watcher and no other wait, nobody else waits. -/
private theorem sole_of_size (hwaits : h.waits.size = 0) (hwatches : h.watches.size ≤ 1)
    (hwho : h.waitsFor? who = some i) : who = .watcher 0 := by
  obtain ⟨w, hp⟩ := waitsFor?_eq_some_iff.mp hwho
  match who, hp with
  | .caller k, hp =>
    have hk : k < h.waits.size := (Array.getElem?_eq_some_iff.mp hp).1
    omega
  | .watcher k, hp =>
    have hk : k < h.watches.size :=
      (Array.getElem?_eq_some_iff.mp (place?_watcher_eq_some_iff.mp hp)).1
    rw [show k = 0 by omega]

/-- An exchange completes and the connection closes before its watcher looks at all: the watcher
is done, the exchange stays completed, and the entry of the other exchange stays. -/
theorem registry_kept_after_late_close :
    let steps : List Step := [.new, .new, .watch 0, .headers 0, .complete 0, .close none]
    let h := (ofDepth ⟨2, by decide⟩).run steps
    h.waitsFor? (.watcher 0) = some 0 ∧
      (ofDepth ⟨2, by decide⟩).WatchedOnlyBy steps 0 0 ∧
      (h.step (.pollWatch 0)).1 = .done ∧
      (∃ y, (h.step (.pollWatch 0)).2.exchange? 0 = some y ∧ y.phase = .completed) ∧
      ⟨1⟩ ∉ (h.step (.pollWatch 0)).2.registry ∧ ⟨2⟩ ∈ (h.step (.pollWatch 0)).2.registry := by
  intro steps h
  have hwatch : h.waitsFor? (.watcher 0) = some 0 := by decide +kernel
  have hsole : (ofDepth ⟨2, by decide⟩).WatchedOnlyBy steps 0 0 := by
    intro before hprefix who hwho
    have hsizes : ∀ n ≤ 6, ((ofDepth ⟨2, by decide⟩).run (steps.take n)).waits.size = 0 ∧
        ((ofDepth ⟨2, by decide⟩).run (steps.take n)).watches.size ≤ 1 := by decide +kernel
    obtain ⟨hwaits, hwatches⟩ := hsizes before.length hprefix.length_le
    rw [← List.prefix_iff_eq_take.mp hprefix] at hwaits hwatches
    exact sole_of_size hwaits hwatches hwho
  obtain ⟨x, hx, hkeeps⟩ := registry_kept ⟨2, by decide⟩ steps 0 0 hwatch hsole
  have hphase : (h.exchange? 0).map (fun x ↦ (x.id, x.phase)) = some (⟨1⟩, .completed) := by
    decide +kernel
  rw [hx] at hphase
  have hid : x.id = ⟨1⟩ := congrArg Prod.fst (Option.some.inj hphase)
  have hcompleted : x.phase = .completed := congrArg Prod.snd (Option.some.inj hphase)
  have hterminal : x.phase.isTerminal = true := by rw [hcompleted]; rfl
  obtain ⟨hdone, -, -, hregistry, -⟩ := hkeeps.ends (Or.inl hterminal)
  obtain ⟨⟨n, hy⟩, -⟩ := hkeeps.spares hterminal
  refine ⟨hwatch, hsole, hdone, ⟨_, hy, hcompleted⟩, fun hmem ↦ ?_, (hregistry ⟨2⟩).mpr ⟨?_, ?_⟩⟩
  · exact ((hregistry ⟨1⟩).mp hmem).2 hid.symm
  · decide +kernel
  · rw [hid]
    decide

end Held

end BoundedPipelining
