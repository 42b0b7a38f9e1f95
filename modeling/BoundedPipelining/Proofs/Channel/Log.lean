import BoundedPipelining.Channel.Handles
import BoundedPipelining.Proofs.Channel.Fates
import Mathlib.Data.List.Induction
import Mathlib.Data.List.TakeWhile

/-!
# What a log tells of a channel

The log of a bare channel lists its steps with their answers. Everything about the channel can be
read off it: what was written, what the peer did with effect, which requests it took, and from these
what it has signalled, whether it is still there and what became of every write. So the log also
says which steps of the peer will take effect, by `Holds`.

## Why numbers suffice

Nothing is queued after the channel was torn down or the peer was dropped, so the queued writes are
the first ones, and the peer takes them in order. Hence its request number `j` is write number `j`,
and what it does to the request is done to that write. This is where the answers of two writes could
be mixed up, and it is what `Told.taken` and `Told.order` keep.
-/

namespace BoundedPipelining

namespace Channel.PeerStep

/-- Whether nothing written afterwards is queued. -/
def tearsDown : PeerStep → Bool
  | close | reset _ | drop => true
  | _ => false

/-- What a step hands into the payload of the `i`-th request. -/
def puts (i : Nat) : PeerStep → List Put
  | respondWith j _ body => if j = i then [.chunk body, .finish] else []
  | send j chunk => if j = i then [.chunk chunk] else []
  | finish j => if j = i then [.finish] else []
  | failPayload j e => if j = i then [.fail e] else []
  | _ => []

theorem result?_of_verdict {s : PeerStep} {i : Nat} {f : Fate} (h : s.verdict? i = some f) :
    f.result?.isSome = true := by
  cases s with
  | respond | respondWith | failWrite | dropPending =>
    obtain ⟨-, hf⟩ := Option.ite_none_right_eq_some.mp h
    cases hf
    rfl
  | _ => cases h

end Channel.PeerStep

namespace Handles

open Channel (PeerStep)

/-! ## Reading a log -/

/-- Steps with their answers, in order. -/
abbrev Log := List (Step × Answer)

/-- The log of a list of steps. -/
def log (h : Handles) : List Step → Log
  | [] => []
  | s :: steps => (s, (h.step s).1) :: log (h.step s).2 steps

/-- The request of a write. -/
def called? : Step × Answer → Option Request
  | (.write r, .write _) => some r
  | _ => none

/-- The step of the peer, if it took effect. -/
def effect? : Step × Answer → Option PeerStep
  | (.peer s, .peer .ok) => some s
  | _ => none

/-- The request that the peer took. -/
def took? : Step × Answer → Option Request
  | (.peer _, .peer (.request _ r)) => some r
  | _ => none

/-- The item that was read from the payload of write `i`. -/
def removed? (i : Nat) : Step × Answer → Option (Except TransportError Bytes)
  | (.read k, .chunk bytes) => if k = i then some (.ok bytes) else none
  | (.read k, .error e) => if k = i then some (.error e) else none
  | _ => none

/-- The requests that were written. -/
def calls (l : Log) : List Request := l.filterMap called?

/-- What the peer did with effect. -/
def effects (l : Log) : List PeerStep := l.filterMap effect?

/-- The requests that the peer took. -/
def takes (l : Log) : List Request := l.filterMap took?

/-- The requests that were queued: those written before the channel was torn down, by a close or a
reset, or lost its peer. -/
def queue (l : Log) : List Request :=
  calls (l.takeWhile fun x ↦ !(effect? x).any PeerStep.tearsDown)

/-- What became of write `i`. It was refused unless it was queued. The peer took the first of those
queued; the others wait for it, or are lost once it is dropped. A request that it took is in its
hands until the first step that concludes it. -/
def fateOf (l : Log) (i : Nat) : Fate :=
  if (queue l).length ≤ i then .refused
  else if (takes l).length ≤ i then if .drop ∈ effects l then .lost else .queued
  else ((effects l).findSome? (PeerStep.verdict? i)).getD .taken

/-- What was handed into the payload of write `i`. -/
def puts (i : Nat) (l : Log) : List Put := (effects l).flatMap (PeerStep.puts i)

/-- What was read from the payload of write `i`. -/
def reads (i : Nat) (l : Log) : List (Except TransportError Bytes) := l.filterMap (removed? i)

/-- What a step of the peer needs in order to take effect: an unanswered request in the peer's
hands, a payload that has not come to its end, or the peer itself. A look for the next request takes
none. -/
def Holds (l : Log) : PeerStep → Prop
  | .next | .await => False
  | .respond j _ | .respondWith j _ _ | .failWrite j _ | .dropPending j => fateOf l j = .taken
  | .send j _ | .finish j | .failPayload j _ =>
    (∃ head, fateOf l j = .answered head) ∧ (puts j l).any Put.isLast = false
  | .announce | .close | .reset _ => .drop ∉ effects l
  | .drop => True

variable {l : Log} {x : Step × Answer} {hs hs' : Handles} {i : Nat}

theorem log_snoc (h : Handles) (steps : List Step) (s : Step) :
    h.log (steps ++ [s]) = h.log steps ++ [(s, ((h.run steps).step s).1)] := by
  induction steps generalizing h with
  | nil => rfl
  | cons s' steps ih =>
    rw [List.cons_append, log, ih, log, List.cons_append]
    rfl

theorem run_snoc (h : Handles) (steps : List Step) (s : Step) :
    h.run (steps ++ [s]) = ((h.run steps).step s).2 := by
  rw [run, List.foldl_append]
  rfl

/-- What holds of a new channel with its empty log and is kept by a step holds of every run. -/
theorem run_induction {P : Log → Handles → Prop} (hnil : P [] {})
    (hstep : ∀ l h, P l h → ∀ s, P (l ++ [(s, (h.step s).1)]) (h.step s).2) (steps : List Step) :
    P (({} : Handles).log steps) (({} : Handles).run steps) := by
  induction steps using List.reverseRecOn with
  | nil => exact hnil
  | append_singleton steps s ih =>
    rw [log_snoc, run_snoc]
    exact hstep _ _ ih s

private theorem filterMap_snoc {α β : Type} (f : α → Option β) (as : List α) (a : α) :
    (as ++ [a]).filterMap f = as.filterMap f ++ (f a).toList := by
  rw [List.filterMap_append]
  cases h : f a with
  | none => rw [List.filterMap_cons_none h]; rfl
  | some b => rw [List.filterMap_cons_some h]; rfl

theorem calls_snoc (l : Log) (x : Step × Answer) :
    calls (l ++ [x]) = calls l ++ (called? x).toList := filterMap_snoc _ _ _

theorem effects_snoc (l : Log) (x : Step × Answer) :
    effects (l ++ [x]) = effects l ++ (effect? x).toList := filterMap_snoc _ _ _

theorem takes_snoc (l : Log) (x : Step × Answer) :
    takes (l ++ [x]) = takes l ++ (took? x).toList := filterMap_snoc _ _ _

theorem reads_snoc (i : Nat) (l : Log) (x : Step × Answer) :
    reads i (l ++ [x]) = reads i l ++ (removed? i x).toList := filterMap_snoc _ _ _

theorem puts_snoc (i : Nat) (l : Log) (x : Step × Answer) :
    puts i (l ++ [x]) = puts i l ++ (effect? x).elim [] (PeerStep.puts i) := by
  rw [puts, effects_snoc, List.flatMap_append, puts]
  cases effect? x with
  | none => rfl
  | some s => rw [Option.toList_some, List.flatMap_singleton]; rfl

theorem calls_of_none (hx : called? x = none) : calls (l ++ [x]) = calls l := by
  rw [calls_snoc, hx]
  exact List.append_nil _

theorem effects_of_none (hx : effect? x = none) : effects (l ++ [x]) = effects l := by
  rw [effects_snoc, hx]
  exact List.append_nil _

theorem puts_of_none (hx : effect? x = none) (i : Nat) : puts i (l ++ [x]) = puts i l := by
  rw [puts, effects_of_none hx, puts]

theorem takes_of_none (hx : took? x = none) : takes (l ++ [x]) = takes l := by
  rw [takes_snoc, hx]
  exact List.append_nil _

/-- A write is no step of the peer. -/
theorem called?_of_effect {s : PeerStep} (hx : effect? x = some s) : called? x = none := by
  obtain ⟨s', a⟩ := x
  cases s' with
  | write r => cases hx
  | _ => rfl

theorem queue_cons (x : Step × Answer) (l : Log) :
    queue (x :: l)
      = if (effect? x).any PeerStep.tearsDown then [] else (called? x).toList ++ queue l := by
  rw [queue, List.takeWhile_cons]
  cases (effect? x).any PeerStep.tearsDown with
  | true => rfl
  | false =>
    rw [Bool.not_false, if_pos rfl, if_neg Bool.false_ne_true, calls, List.filterMap_cons]
    cases called? x <;> rfl

/-- The queue grows by what is written, as long as nothing was torn down. -/
theorem queue_snoc (l : Log) (x : Step × Answer) :
    queue (l ++ [x])
      = queue l ++ if (effects l).any PeerStep.tearsDown then [] else (called? x).toList := by
  induction l with
  | nil =>
    rw [List.nil_append, queue_cons]
    cases hx : effect? x with
    | none => simp [queue, calls, effects]
    | some s => simp [called?_of_effect hx, queue, calls, effects]
  | cons y l ih =>
    rw [List.cons_append, queue_cons, queue_cons, ih]
    cases hy : effect? y with
    | none =>
      have heffects : effects (y :: l) = effects l := List.filterMap_cons_none hy
      rw [heffects]
      simp
    | some s =>
      have heffects : effects (y :: l) = s :: effects l := List.filterMap_cons_some hy
      rw [heffects, List.any_cons, Option.any_some]
      cases s.tearsDown <;> simp

theorem queue_of_none (hx : called? x = none) : queue (l ++ [x]) = queue l := by
  rw [queue_snoc, hx]
  split <;> exact List.append_nil _

/-- The queued requests are the first of those written. -/
theorem queue_prefix_calls (l : Log) : queue l <+: calls l :=
  (List.takeWhile_prefix _).filterMap _

/-- Nothing was refused before something was torn down. -/
theorem queue_eq_calls (hl : (effects l).any PeerStep.tearsDown = false) : queue l = calls l := by
  have hkept : ∀ x ∈ l, (!(effect? x).any PeerStep.tearsDown) = true := by
    intro x hx
    cases heffect : effect? x with
    | none => rfl
    | some s =>
      have hs : s ∈ effects l := List.mem_filterMap.mpr ⟨x, hx, heffect⟩
      simpa using List.any_eq_false.mp hl s hs
  rw [queue, List.takeWhile_eq_self_iff.mpr hkept]

theorem any_tearsDown_iff {es : List PeerStep} :
    es.any PeerStep.tearsDown = true ↔
      .close ∈ es ∨ (es.filterMap PeerStep.reset?).getLast?.isSome = true ∨ .drop ∈ es := by
  induction es with
  | nil => simp
  | cons s es ih =>
    rw [List.any_cons, Bool.or_eq_true, ih]
    cases s <;> simp [PeerStep.tearsDown, PeerStep.reset?, List.getLast?_isSome]

/-! ## The fates told -/

/-- What the peer makes of a request is final. -/
private theorem result?_of_findSome {es : List PeerStep} {f : Fate}
    (h : es.findSome? (PeerStep.verdict? i) = some f) : f.result?.isSome = true := by
  obtain ⟨s, -, hs⟩ := List.exists_of_findSome?_eq_some h
  exact PeerStep.result?_of_verdict hs

theorem fateOf_eq_queued_iff : fateOf l i = .queued ↔
    i < (queue l).length ∧ (takes l).length ≤ i ∧ .drop ∉ effects l := by
  rw [fateOf]
  split
  · exact iff_of_false (by simp) (by omega)
  · split
    · rename_i hq ht
      split
      · rename_i hdrop
        exact iff_of_false (by simp) fun h ↦ h.2.2 hdrop
      · rename_i hdrop
        exact iff_of_true rfl ⟨by omega, ht, hdrop⟩
    · refine iff_of_false ?_ (by omega)
      cases hfound : (effects l).findSome? (PeerStep.verdict? i) with
      | none => simp
      | some f =>
        rintro rfl
        cases result?_of_findSome hfound

theorem fateOf_eq_taken_iff : fateOf l i = .taken ↔
    i < (queue l).length ∧ i < (takes l).length ∧
      (effects l).findSome? (PeerStep.verdict? i) = none := by
  rw [fateOf]
  split
  · exact iff_of_false (by simp) (by omega)
  · split
    · refine iff_of_false ?_ (by omega)
      split <;> simp
    · cases hfound : (effects l).findSome? (PeerStep.verdict? i) with
      | none => exact iff_of_true rfl ⟨by omega, by omega, rfl⟩
      | some f =>
        refine iff_of_false ?_ fun h ↦ nomatch h.2.2
        rintro rfl
        cases result?_of_findSome hfound

/-! ## What the log tells -/

/-- The errors of the resets. -/
def resets (l : Log) : List TransportError := (effects l).filterMap PeerStep.reset?

/-- The log tells what became of the writes and what the peer holds. -/
structure FatesTold (l : Log) (c : Channel) : Prop where
  peer : c.peer = decide (.drop ∉ effects l)
  /-- The peer's request number `j` is write number `j`. -/
  taken : c.taken.toList = List.range (takes l).length
  order : takes l <+: queue l
  fates : ∀ i, c.fate? i = if i < (calls l).length then some (fateOf l i) else none
  /-- The peer has only concluded what it had taken. -/
  named : ∀ s ∈ effects l, ∀ j, s.verdict? j ≠ none → j < (takes l).length

/-- The log tells all there is to know of the channel. -/
structure Told (l : Log) (hs : Handles) : Prop extends FatesTold l hs.channel where
  requests : hs.channel.requests.toList = calls l
  handles : hs.writes.size = (calls l).length
  signals : hs.channel.signals =
    { closing := (effects l).any PeerStep.announces
      closed := decide (.close ∈ effects l)
      error := (resets l).getLast? }
  carried : ∀ i w, hs.channel.writes[i]? = some w → ∃ rs, Carried w rs (puts i l) (reads i l)
  /-- Nothing was handed in or read before there was a write for it. -/
  unused : ∀ i, (calls l).length ≤ i → puts i l = [] ∧ reads i l = []

theorem told_nil : Told [] {} where
  requests := by simp [Channel.requests, calls]
  handles := rfl
  signals := rfl
  peer := rfl
  taken := rfl
  order := List.prefix_rfl
  fates _ := rfl
  named _ hs := nomatch hs
  carried _ _ hw := nomatch hw
  unused _ _ := ⟨rfl, rfl⟩

namespace FatesTold

variable {c c' : Channel}

/-- Each request's number is the number of its write. -/
theorem eq_of_taken {j : Nat} (h : FatesTold l c) (hj : c.taken[j]? = some i) :
    i = j ∧ j < (takes l).length := by
  rw [← Array.getElem?_toList, h.taken] at hj
  obtain ⟨hlt, hget⟩ := List.getElem?_eq_some_iff.mp hj
  rw [List.length_range] at hlt
  rw [List.getElem_range] at hget
  exact ⟨hget.symm, hlt⟩

theorem eq_of_pending {j : Nat} (h : FatesTold l c) (hj : c.pending? j = some i) :
    i = j ∧ j < (takes l).length := by
  obtain ⟨w, hw, -⟩ := Channel.pending?_eq_some_iff.mp hj
  exact h.eq_of_taken (Channel.taken_of_takenWrite hw)

theorem eq_of_sending {j : Nat} (h : FatesTold l c) (hj : c.sending? j = some i) :
    i = j ∧ j < (takes l).length := by
  obtain ⟨w, hw, -⟩ := Channel.sending?_eq_some_iff.mp hj
  exact h.eq_of_taken (Channel.taken_of_takenWrite hw)

theorem fate?_eq_queued_iff (h : FatesTold l c) : c.fate? i = some .queued ↔
    i < (queue l).length ∧ (takes l).length ≤ i ∧ c.peer = true := by
  have hcalls := (queue_prefix_calls l).length_le
  rw [h.fates, h.peer, decide_eq_true_iff]
  split
  · rw [Option.some_inj, fateOf_eq_queued_iff]
  · exact iff_of_false (by simp) (by omega)

theorem fate?_eq_taken_iff (h : FatesTold l c) : c.fate? i = some .taken ↔
    i < (takes l).length ∧ (effects l).findSome? (PeerStep.verdict? i) = none := by
  have hcalls := (queue_prefix_calls l).length_le
  have htakes := h.order.length_le
  rw [h.fates]
  split
  · rw [Option.some_inj, fateOf_eq_taken_iff]
    refine ⟨fun hi ↦ hi.2, fun hi ↦ ⟨by omega, hi⟩⟩
  · exact iff_of_false (by simp) (by omega)

/-- A fate other than that of a refused write is that of a write. -/
theorem fate?_eq_some_iff {f : Fate} (h : FatesTold l c) (hf : f ≠ .refused) :
    c.fate? i = some f ↔ fateOf l i = f := by
  rw [h.fates]
  split
  · rw [Option.some_inj]
  · rename_i hi
    have hqueue : (queue l).length ≤ i := (queue_prefix_calls l).length_le.trans (Nat.not_lt.mp hi)
    refine iff_of_false (by simp) ?_
    rw [fateOf, if_pos hqueue]
    exact hf.symm

theorem takenWrite?_eq {w : Write} (h : FatesTold l c) (hi : i < (takes l).length)
    (hw : c.writes[i]? = some w) : c.takenWrite? i = some (i, w) := by
  have htaken : c.taken[i]? = some i := by
    rw [← Array.getElem?_toList, h.taken, List.getElem?_range hi]
  simp only [Channel.takenWrite?, htaken, hw, Option.map_some]

/-- The next request for the peer is the first of those queued that it has not taken. -/
theorem nextQueued?_eq (h : FatesTold l c) (hpeer : c.peer = true) :
    c.nextQueued?
      = if (takes l).length < (queue l).length then some (takes l).length else none := by
  split
  · rename_i hlt
    refine Channel.nextQueued?_eq_some_iff.mpr
      ⟨h.fate?_eq_queued_iff.mpr ⟨hlt, Nat.le_refl _, hpeer⟩, fun k hk hfate ↦ ?_⟩
    exact Nat.not_le.mpr hk (h.fate?_eq_queued_iff.mp hfate).2.1
  · rename_i hnlt
    refine Channel.nextQueued?_eq_none_iff.mpr fun k hfate ↦ ?_
    obtain ⟨hk, hle, -⟩ := h.fate?_eq_queued_iff.mp hfate
    omega

/-- A fate that the log told as `f` is told as `f` again. -/
private theorem fate?_eq_map {f : Fate} (h : FatesTold l c)
    (hf : i < (calls l).length → fateOf l i = f) : c.fate? i = (c.fate? i).map fun _ ↦ f := by
  rw [h.fates]
  split
  · rename_i hi
    rw [Option.map_some, hf hi]
  · rfl

/-- A step by which the peer takes nothing. -/
private theorem untaken (h : FatesTold l c) (hcalled : called? x = none) (htook : took? x = none)
    (ht : c'.taken = c.taken) (hp : c'.peer = decide (.drop ∉ effects (l ++ [x])))
    (hf : ∀ i, c'.fate? i = (c.fate? i).map fun _ ↦ fateOf (l ++ [x]) i)
    (hnamed : ∀ s, effect? x = some s → ∀ j, s.verdict? j ≠ none → j < (takes l).length) :
    FatesTold (l ++ [x]) c' := by
  constructor
  case peer => exact hp
  case taken => rw [ht, h.taken, takes_of_none htook]
  case order =>
    rw [takes_of_none htook, queue_of_none hcalled]
    exact h.order
  case fates =>
    intro i
    rw [hf, h.fates, calls_of_none hcalled]
    split <;> rfl
  case named =>
    intro s hs j hj
    rw [takes_of_none htook]
    rw [effects_snoc, List.mem_append, Option.mem_toList] at hs
    rcases hs with hs | hs
    · exact h.named s hs j hj
    · exact hnamed s hs j hj

/-- A step that concludes nothing, or has no effect at all, leaves the fates alone. -/
private theorem kept (h : FatesTold l c) (hcalled : called? x = none) (htook : took? x = none)
    (heffect : ∀ s, effect? x = some s → s ≠ .drop ∧ ∀ j, s.verdict? j = none)
    (ht : c'.taken = c.taken) (hp : c'.peer = c.peer) (hf : ∀ i, c'.fate? i = c.fate? i) :
    FatesTold (l ++ [x]) c' := by
  have hdrop : .drop ∈ effects (l ++ [x]) ↔ .drop ∈ effects l := by
    rw [effects_snoc, List.mem_append, Option.mem_toList, or_iff_left]
    exact fun hx ↦ (heffect _ hx).1 rfl
  have hverdict (i : Nat) : (effects (l ++ [x])).findSome? (PeerStep.verdict? i)
      = (effects l).findSome? (PeerStep.verdict? i) := by
    rw [effects_snoc, List.findSome?_append]
    cases hx : effect? x with
    | none => exact Option.or_none
    | some s => simp [(heffect s hx).2]
  apply h.untaken hcalled htook ht
  · rw [hp, h.peer]
    simp only [hdrop]
  · intro i
    rw [hf]
    refine h.fate?_eq_map fun _ ↦ ?_
    simp only [fateOf, queue_of_none hcalled, takes_of_none htook, hdrop, hverdict]
  · intro s hs j hj
    exact absurd ((heffect s hs).2 j) hj

private theorem concluded {j : Nat} {f : Fate} {s : PeerStep} (h : FatesTold l c)
    (hcalled : called? x = none) (htook : took? x = none) (heffect : effect? x = some s)
    (hj : c.pending? j = some i) (hs : ∀ k, s.verdict? k = if j = k then some f else none)
    (hne : s ≠ .drop) (ht : c'.taken = c.taken) (hp : c'.peer = c.peer)
    (hf : ∀ k, c'.fate? k = if i = k then (c.fate? k).map fun _ ↦ f else c.fate? k) :
    FatesTold (l ++ [x]) c' := by
  -- The peer names a request of its own, and this is write `i`.
  obtain ⟨rfl, hlt⟩ := h.eq_of_pending hj
  have hnone := (h.fate?_eq_taken_iff.mp (Channel.fate?_of_pending hj)).2
  have heffects : effects (l ++ [x]) = effects l ++ [s] := by
    rw [effects_snoc, heffect]
    rfl
  have hdrop : .drop ∈ effects (l ++ [x]) ↔ .drop ∈ effects l := by
    rw [heffects, List.mem_append, List.mem_singleton]
    exact or_iff_left hne.symm
  have hverdict (k : Nat) : (effects (l ++ [x])).findSome? (PeerStep.verdict? k)
      = if i = k then some f else (effects l).findSome? (PeerStep.verdict? k) := by
    rw [heffects, List.findSome?_append, List.findSome?_singleton, hs]
    split
    · rename_i hik
      rw [← hik, hnone]
      rfl
    · exact Option.or_none
  apply h.untaken hcalled htook ht
  · rw [hp, h.peer]
    simp only [hdrop]
  · intro k
    rw [hf]
    split
    · rename_i hik
      have hqueue := h.order.length_le
      rw [fateOf, queue_of_none hcalled, takes_of_none htook, if_neg (by omega), if_neg (by omega),
        hverdict, if_pos hik]
      rfl
    · rename_i hik
      refine h.fate?_eq_map fun _ ↦ ?_
      simp only [fateOf, queue_of_none hcalled, takes_of_none htook, hdrop, hverdict, if_neg hik]
  · intro s' hs' k hk
    obtain rfl : s = s' := Option.some.inj (heffect.symm.trans hs')
    rw [hs] at hk
    by_cases hik : i = k
    · exact hik ▸ hlt
    · exact absurd (if_neg hik) hk

private theorem dropped (h : FatesTold l c) (hcalled : called? x = none) (htook : took? x = none)
    (heffect : effect? x = some .drop) (ht : c'.taken = c.taken) (hp : c'.peer = false)
    (hf : ∀ i, c'.fate? i = (c.fate? i).map fun f ↦ if f = .queued then .lost else f) :
    FatesTold (l ++ [x]) c' := by
  have heffects : effects (l ++ [x]) = effects l ++ [.drop] := by
    rw [effects_snoc, heffect]
    rfl
  have hdrop : .drop ∈ effects (l ++ [x]) := by simp [heffects]
  have hverdict (k : Nat) : (effects (l ++ [x])).findSome? (PeerStep.verdict? k)
      = (effects l).findSome? (PeerStep.verdict? k) := by
    rw [heffects, List.findSome?_append]
    exact Option.or_none
  have hfate (i : Nat) : fateOf (l ++ [x]) i
      = if fateOf l i = .queued then .lost else fateOf l i := by
    split
    · rename_i hqueued
      obtain ⟨hlt, hle, -⟩ := fateOf_eq_queued_iff.mp hqueued
      rw [fateOf, queue_of_none hcalled, takes_of_none htook, if_neg (by omega), if_pos hle,
        if_pos hdrop]
    · rename_i hqueued
      rw [fateOf_eq_queued_iff] at hqueued
      simp only [fateOf, queue_of_none hcalled, takes_of_none htook, hverdict, if_pos hdrop]
      split
      · rfl
      · split
        · rw [if_pos]
          by_contra hnot
          exact hqueued ⟨by omega, by omega, hnot⟩
        · rfl
  apply h.untaken hcalled htook ht
  · rw [hp]
    simp [hdrop]
  · intro i
    rw [hf, h.fates, hfate]
    split <;> rfl
  · intro s hs j hj
    obtain rfl : .drop = s := Option.some.inj (heffect.symm.trans hs)
    exact absurd rfl hj

/-- The peer takes the first request that it has not taken yet. -/
private theorem took {r : Request} (h : FatesTold l c) (hcalled : called? x = none)
    (htook : took? x = some r) (heffect : effect? x = none) (hpeer : c.peer = true)
    (hi : c.nextQueued? = some i) (hr : (calls l)[i]? = some r) (ht : c'.taken = c.taken.push i)
    (hp : c'.peer = c.peer)
    (hf : ∀ k, c'.fate? k = if i = k then (c.fate? k).map fun _ ↦ .taken else c.fate? k) :
    FatesTold (l ++ [x]) c' := by
  have htakes : takes (l ++ [x]) = takes l ++ [r] := by
    rw [takes_snoc, htook]
    rfl
  have heffects := effects_of_none (l := l) heffect
  obtain ⟨hlt, rfl⟩ : (takes l).length < (queue l).length ∧ (takes l).length = i := by
    rwa [h.nextQueued?_eq hpeer, Option.ite_none_right_eq_some, Option.some_inj] at hi
  -- What the peer takes now it has not concluded before.
  have hnone : (effects l).findSome? (PeerStep.verdict? (takes l).length) = none := by
    rw [List.findSome?_eq_none_iff]
    intro s hs
    by_contra hsome
    exact Nat.lt_irrefl _ (h.named s hs _ hsome)
  have htaken : fateOf (l ++ [x]) (takes l).length = .taken := by
    rw [fateOf_eq_taken_iff, queue_of_none hcalled, htakes, heffects, List.length_append]
    exact ⟨hlt, Nat.lt_succ_self _, hnone⟩
  have hother {k : Nat} (hk : (takes l).length ≠ k) : fateOf (l ++ [x]) k = fateOf l k := by
    have hle : (takes l).length + 1 ≤ k ↔ (takes l).length ≤ k := by omega
    simp only [fateOf, queue_of_none hcalled, htakes, heffects, List.length_append,
      List.length_singleton, hle]
  constructor
  case peer => rw [hp, h.peer, heffects]
  case taken =>
    rw [ht, Array.toList_push, h.taken, htakes, List.length_append, List.length_singleton,
      List.range_succ]
  case order =>
    obtain ⟨later, hlater⟩ := queue_prefix_calls l
    obtain ⟨rest, hrest⟩ := h.order
    rw [← hlater, List.getElem?_append_left hlt, ← hrest,
      List.getElem?_append_right (Nat.le_refl _), Nat.sub_self] at hr
    rw [htakes, queue_of_none hcalled, ← hrest]
    cases rest with
    | nil => cases hr
    | cons r' rest' =>
      obtain rfl : r' = r := Option.some.inj hr
      exact ⟨rest', List.append_assoc ..⟩
  case fates =>
    intro k
    rw [hf, h.fates, calls_of_none hcalled]
    by_cases hk : (takes l).length = k
    · rw [if_pos hk, ← hk, htaken]
      split <;> rfl
    · rw [if_neg hk, hother hk]
  case named =>
    intro s hs j hj
    rw [htakes, List.length_append]
    rw [heffects] at hs
    exact Nat.lt_add_right _ (h.named s hs j hj)

/-- A new write is the last one, and whether it is queued depends on what the peer did before. -/
private theorem write {r : Request} (h : FatesTold l c) (hcalled : called? x = some r)
    (htook : took? x = none) (heffect : effect? x = none)
    (hsize : c.writes.size = (calls l).length)
    (hrefuses : c.refuses = (effects l).any PeerStep.tearsDown) :
    FatesTold (l ++ [x]) (c.write r) := by
  have heffects := effects_of_none (l := l) heffect
  have hcalls : (calls (l ++ [x])).length = (calls l).length + 1 := by
    rw [calls_snoc, hcalled]
    exact List.length_append
  have hqueue := queue_snoc l x
  rw [hcalled, ← hrefuses] at hqueue
  have hle := (queue_prefix_calls l).length_le
  have hfull (htorn : c.refuses = false) : queue l = calls l := queue_eq_calls (hrefuses ▸ htorn)
  have hold : ∀ i < (calls l).length, fateOf (l ++ [x]) i = fateOf l i := by
    intro i hi
    have hlt : (queue (l ++ [x])).length ≤ i ↔ (queue l).length ≤ i := by
      rw [hqueue]
      cases htorn : c.refuses with
      | true => simp
      | false =>
        -- As long as nothing was torn down all writes are queued, so this one is.
        rw [hfull htorn]
        simp
        omega
    simp only [fateOf, hlt, takes_of_none htook, heffects]
  have hnew : fateOf (l ++ [x]) (calls l).length = if c.refuses then .refused else .queued := by
    cases htorn : c.refuses with
    | true =>
      rw [htorn, if_pos rfl, List.append_nil] at hqueue
      rw [if_pos rfl, fateOf, hqueue, if_pos hle]
    | false =>
      rw [htorn, if_neg Bool.false_ne_true, hfull htorn] at hqueue
      rw [if_neg Bool.false_ne_true, fateOf_eq_queued_iff, hqueue, takes_of_none htook, heffects]
      refine ⟨by simp, h.order.length_le.trans hle, fun hdrop ↦ ?_⟩
      rw [hrefuses, any_tearsDown_iff.mpr (Or.inr (Or.inr hdrop))] at htorn
      cases htorn
  constructor
  case peer =>
    rw [heffects]
    exact h.peer
  case taken =>
    rw [takes_of_none htook]
    exact h.taken
  case order =>
    rw [takes_of_none htook, hqueue]
    exact h.order.trans (List.prefix_append _ _)
  case fates =>
    intro i
    rw [Channel.fate?_write, h.fates, hsize, hcalls]
    by_cases hi : i = (calls l).length
    · subst hi
      rw [if_pos rfl, if_pos (Nat.lt_succ_self _), hnew]
    · rw [if_neg hi]
      by_cases hlt : i < (calls l).length
      · rw [if_pos hlt, if_pos (by omega), hold i hlt]
      · rw [if_neg hlt, if_neg (by omega)]
  case named =>
    rw [takes_of_none htook, heffects]
    exact h.named

end FatesTold

namespace Told

theorem size_eq (h : Told l hs) : hs.channel.writes.size = (calls l).length := by
  rw [← h.requests, Array.length_toList, Channel.size_requests]

theorem taken_length (h : Told l hs) : hs.channel.taken.size = (takes l).length := by
  rw [← Array.length_toList, h.taken, List.length_range]

theorem refuses_eq (h : Told l hs) :
    hs.channel.refuses = (effects l).any PeerStep.tearsDown := by
  rw [Bool.eq_iff_iff, any_tearsDown_iff, Channel.refuses, h.signals, h.peer]
  simp [resets, or_assoc]

/-! ## What the peer holds -/

private theorem isSome_pending?_iff (h : Told l hs) :
    (hs.channel.pending? i).isSome = true ↔ fateOf l i = .taken := by
  rw [← h.fate?_eq_some_iff (by simp)]
  constructor
  · intro hsome
    obtain ⟨k, hk⟩ := Option.isSome_iff_exists.mp hsome
    obtain rfl := (h.eq_of_pending hk).1
    exact Channel.fate?_of_pending hk
  · intro hfate
    have hi := (h.fate?_eq_taken_iff.mp hfate).1
    obtain ⟨w, hw, hwfate⟩ := Option.map_eq_some_iff.mp hfate
    exact Option.isSome_iff_exists.mpr
      ⟨i, Channel.pending?_eq_some_iff.mpr ⟨w, h.takenWrite?_eq hi hw, hwfate⟩⟩

private theorem isSome_sending?_iff (h : Told l hs) : (hs.channel.sending? i).isSome = true ↔
    (∃ head, fateOf l i = .answered head) ∧ (puts i l).any Put.isLast = false := by
  have hfate (head : Head) : fateOf l i = .answered head ↔
      ∃ w, hs.channel.writes[i]? = some w ∧ w.fate = .answered head := by
    rw [← h.fate?_eq_some_iff (by simp), Channel.fate?, Option.map_eq_some_iff]
  constructor
  · intro hsome
    obtain ⟨k, hk⟩ := Option.isSome_iff_exists.mp hsome
    obtain rfl := (h.eq_of_sending hk).1
    obtain ⟨w, hw, hopen⟩ := Channel.sending?_eq_some_iff.mp hk
    have hw := Channel.takenWrite?_eq_some hw
    obtain ⟨rs, hcarried⟩ := h.carried k w hw
    obtain ⟨⟨head, hanswered⟩, hlast⟩ := hcarried.isOpen_iff.mp hopen
    exact ⟨⟨head, (hfate head).mpr ⟨w, hw, hanswered⟩⟩, hlast⟩
  · rintro ⟨⟨head, hanswered⟩, hlast⟩
    obtain ⟨w, hw, hwfate⟩ := (hfate head).mp hanswered
    obtain ⟨rs, hcarried⟩ := h.carried i w hw
    have hopen := hcarried.isOpen_iff.mpr ⟨⟨head, hwfate⟩, hlast⟩
    -- A write that the peer has not taken is not answered.
    have hi : i < (takes l).length := by
      by_contra hle
      rw [fateOf, if_pos (Nat.not_lt.mp hle)] at hanswered
      split at hanswered
      · cases hanswered
      · split at hanswered <;> cases hanswered
    exact Option.isSome_iff_exists.mpr
      ⟨i, Channel.sending?_eq_some_iff.mpr ⟨w, h.takenWrite?_eq hi hw, hopen⟩⟩

theorem heeds_iff (h : Told l hs) (s : PeerStep) : hs.channel.heeds s = true ↔ Holds l s := by
  cases s with
  | next | await => exact iff_of_false Bool.false_ne_true id
  | respond j _ | respondWith j _ _ | failWrite j _ | dropPending j => exact h.isSome_pending?_iff
  | send j _ | finish j | failPayload j _ => exact h.isSome_sending?_iff
  | announce | close | reset _ =>
    rw [Channel.heeds, h.peer, decide_eq_true_iff]
    rfl
  | drop => exact iff_of_true rfl trivial

/-- A step of the peer takes effect exactly if the peer holds what it needs, and is told so. -/
theorem peer_ok_iff (h : Told l hs) (s : PeerStep) :
    (hs.step (.peer s)).1 = .peer .ok ↔ Holds l s := by
  rw [← h.heeds_iff, ← Channel.peerStep_eq_ok_iff]
  exact ⟨Answer.peer.inj, congrArg Answer.peer⟩

/-- A step without what it needs changes nothing. -/
theorem peer_of_not_holds (h : Told l hs) {s : PeerStep} (hs' : ¬ Holds l s) (hnext : s ≠ .next)
    (hawait : s ≠ .await) : hs.step (.peer s) = (.peer .gone, hs) := by
  rw [← h.heeds_iff] at hs'
  rw [Handles.step, Channel.peerStep_of_not_heeds hs' hnext hawait]

/-! ## A step of the peer -/

/-- The entry that a step of the peer leaves in the log. -/
private def entry (hs : Handles) (s : PeerStep) : Step × Answer :=
  (.peer s, .peer (hs.channel.peerStep s).1)

private theorem effect?_entry (hs : Handles) (s : PeerStep) :
    effect? (entry hs s) = if hs.channel.heeds s then some s else none := by
  split
  · rename_i hheeds
    rw [entry, (Channel.peerStep_eq_ok_iff _ _).mpr hheeds]
    rfl
  · rename_i hheeds
    have hne := mt (Channel.peerStep_eq_ok_iff _ _).mp hheeds
    rw [entry]
    cases ha : (hs.channel.peerStep s).1 with
    | ok => exact absurd ha hne
    | _ => rfl

private theorem signals_peerStep (h : Told l hs) (s : PeerStep) :
    (hs.channel.peerStep s).2.signals =
      { closing := (effects (l ++ [entry hs s])).any PeerStep.announces
        closed := decide (.close ∈ effects (l ++ [entry hs s]))
        error := (resets (l ++ [entry hs s])).getLast? } := by
  rw [resets, effects_snoc, effect?_entry, List.filterMap_append, List.getLast?_append]
  cases hheeds : hs.channel.heeds s with
  | true =>
    rw [Channel.signals_of_heeds hheeds, h.signals]
    cases s <;> simp [resets, PeerStep.reset?]
  | false =>
    rw [Channel.signals_of_not_heeds hheeds, h.signals]
    simp [resets]

private theorem puts_peerStep (h : Told l hs) (s : PeerStep) (i : Nat) :
    puts i (l ++ [entry hs s]) = puts i l ++ hs.channel.puts i s := by
  rw [puts_snoc, effect?_entry]
  cases s with
  | respondWith j head body =>
    cases hj : hs.channel.pending? j with
    | none => simp [Channel.puts, Channel.heeds, hj]
    | some k =>
      obtain rfl := (h.eq_of_pending hj).1
      simp [Channel.puts, Channel.heeds, hj, PeerStep.puts]
  | send j chunk | finish j | failPayload j e =>
    cases hj : hs.channel.sending? j with
    | none => simp [Channel.puts, Channel.heeds, hj]
    | some k =>
      obtain rfl := (h.eq_of_sending hj).1
      simp [Channel.puts, Channel.heeds, hj, PeerStep.puts]
  | _ =>
    refine congrArg (puts i l ++ ·) ?_
    split <;> rfl

/-- A step of the peer is no read. -/
private theorem reads_peerStep (l : Log) (hs : Handles) (s : PeerStep) (i : Nat) :
    reads i (l ++ [entry hs s]) = reads i l := by
  rw [reads_snoc]
  exact List.append_nil _

private theorem carried_peerStep (h : Told l hs) (s : PeerStep) {w : Write}
    (hw : (hs.channel.peerStep s).2.writes[i]? = some w) :
    ∃ rs, Carried w rs (puts i (l ++ [entry hs s])) (reads i (l ++ [entry hs s])) := by
  have hsize : (hs.channel.peerStep s).2.writes.size = hs.channel.writes.size := by
    rw [← Channel.size_requests, Channel.requests_peerStep, Channel.size_requests]
  have hi : i < hs.channel.writes.size := hsize ▸ (Array.getElem?_eq_some_iff.mp hw).1
  have hold : hs.channel.writes[i]? = some hs.channel.writes[i] := Array.getElem?_eq_getElem hi
  obtain ⟨w', hw', hstep⟩ := Channel.writeStep_peerStep hold s
  obtain rfl : w' = w := Option.some.inj (hw'.symm.trans hw)
  obtain ⟨rs, hcarried⟩ := h.carried i _ hold
  rw [h.puts_peerStep, reads_peerStep]
  exact ⟨_, hcarried.peerStep hstep⟩

private theorem unused_peerStep (h : Told l hs) (s : PeerStep) (hi : (calls l).length ≤ i) :
    puts i (l ++ [entry hs s]) = [] ∧ reads i (l ++ [entry hs s]) = [] := by
  have hnone : hs.channel.writes[i]? = none := by
    rw [Array.getElem?_eq_none_iff, h.size_eq]
    exact hi
  obtain ⟨hputs, hreads⟩ := h.unused i hi
  rw [h.puts_peerStep, reads_peerStep, hputs, hreads, List.nil_append]
  exact ⟨Channel.puts_of_none hnone s, rfl⟩

/-- The log of a step of the peer tells what the step made of the fates. -/
private theorem fates_peerStep (h : Told l hs) (s : PeerStep) :
    FatesTold (l ++ [entry hs s]) (hs.channel.peerStep s).2 := by
  have hturns := hs.channel.turns_peerStep s
  rw [entry]
  generalize (hs.channel.peerStep s).1 = a at hturns ⊢
  generalize (hs.channel.peerStep s).2 = c' at hturns ⊢
  cases hturns with
  | kept ht hp hf ha hkept =>
    refine h.toFatesTold.kept rfl ?_ (fun s' hs' ↦ ?_) ht hp hf
    · cases a with
      | request j r => exact absurd rfl (ha j r)
      | _ => rfl
    · cases a with
      | ok =>
        obtain rfl : s = s' := Option.some.inj hs'
        exact hkept rfl
      | _ => cases hs'
  | took hpeer hi hr ht hp hf =>
    refine h.toFatesTold.took rfl rfl rfl hpeer hi ?_ ht hp hf
    rw [← h.requests, Array.getElem?_toList, hr]
  | concluded hj hs hne ht hp hf => exact h.toFatesTold.concluded rfl rfl rfl hj hs hne ht hp hf
  | dropped hs ht hp hf =>
    subst hs
    exact h.toFatesTold.dropped rfl rfl rfl ht hp hf

theorem peerStep (h : Told l hs) (s : PeerStep) :
    Told (l ++ [entry hs s]) { hs with channel := (hs.channel.peerStep s).2 } where
  toFatesTold := h.fates_peerStep s
  requests := by rw [Channel.requests_peerStep, h.requests, calls_of_none rfl]
  handles := by rw [h.handles, calls_of_none rfl]
  signals := h.signals_peerStep s
  carried _ _ hw := h.carried_peerStep s hw
  unused _ hi := h.unused_peerStep s (by rwa [calls_of_none rfl] at hi)

/-! ## The other steps -/

private theorem write (h : Told l hs) (r : Request) :
    Told (l ++ [(.write r, .write hs.writes.size)])
      { hs with channel := hs.channel.write r, writes := hs.writes.push .future } where
  toFatesTold := h.toFatesTold.write rfl rfl rfl h.size_eq h.refuses_eq
  requests := by
    rw [Channel.requests_write, Array.toList_push, h.requests, calls_snoc]
    rfl
  handles := by
    rw [Array.size_push, h.handles, calls_snoc, List.length_append]
    rfl
  signals := by
    rw [resets, effects_of_none rfl, ← resets]
    exact h.signals
  carried i w hw := by
    rw [puts_of_none rfl, reads_snoc]
    change ∃ rs, Carried w rs (puts i l) (reads i l ++ [])
    rw [List.append_nil]
    rw [Channel.write, Array.getElem?_push] at hw
    split at hw
    · rename_i hi
      obtain ⟨hputs, hreads⟩ := h.unused i (by rw [hi, h.size_eq])
      obtain rfl := Option.some.inj hw
      rw [hputs, hreads]
      exact ⟨[], Carried.fresh r (by split <;> simp)⟩
    · exact h.carried i w hw
  unused i hi := by
    rw [calls_snoc, List.length_append] at hi
    rw [puts_of_none rfl, reads_snoc, (h.unused i (Nat.le_of_add_right_le hi)).1,
      (h.unused i (Nat.le_of_add_right_le hi)).2]
    exact ⟨rfl, rfl⟩

private theorem read {k : Nat} {item : PayloadItem} {c : Channel} {handles : Array WriteHandle}
    (h : Told l hs) (hread : hs.channel.read k = (item, c)) (hk : k < hs.writes.size)
    (hsize : handles.size = hs.writes.size) (hcalled : called? x = none) (htook : took? x = none)
    (heffect : effect? x = none)
    (hremoved : ∀ i, removed? i x = if k = i then item.item? else none) :
    Told (l ++ [x]) { hs with channel := c, writes := handles } := by
  obtain ⟨rfl, rfl⟩ : (hs.channel.read k).1 = item ∧ (hs.channel.read k).2 = c := by
    rw [hread]
    exact ⟨rfl, rfl⟩
  have hreads {i : Nat} (hi : k ≠ i) : reads i (l ++ [x]) = reads i l := by
    rw [reads_snoc, hremoved, if_neg hi]
    exact List.append_nil _
  have hkept (c : Channel) : (c.read k).2.taken = c.taken ∧ (c.read k).2.peer = c.peer := by
    rw [Channel.read]
    split <;> exact ⟨rfl, rfl⟩
  exact {
    toFatesTold := h.toFatesTold.kept hcalled htook (by simp [heffect]) (hkept _).1 (hkept _).2
      (Channel.fate?_read _ k)
    requests := by rw [Channel.requests_read, h.requests, calls_of_none hcalled]
    handles := by rw [calls_of_none hcalled, hsize, h.handles]
    signals := by
      rw [Channel.signals_read, resets, effects_of_none heffect, ← resets]
      exact h.signals
    carried := fun i w hw ↦ by
      rw [puts_of_none heffect]
      by_cases hki : k = i
      · subst hki
        have hlt : k < hs.channel.writes.size := by rwa [h.size_eq, ← h.handles]
        have hold : hs.channel.writes[k]? = some hs.channel.writes[k] :=
          Array.getElem?_eq_getElem hlt
        obtain ⟨hitem, hnew⟩ := Channel.read_eq hold
        obtain rfl := Option.some.inj (hnew.symm.trans hw)
        obtain ⟨rs, hcarried⟩ := h.carried k _ hold
        rw [reads_snoc, hremoved, if_pos rfl, hitem]
        exact ⟨rs, hcarried.next⟩
      · rw [hreads hki]
        exact h.carried i w ((Channel.write?_read_ne hki _).symm.trans hw)
    unused := fun i hi ↦ by
      rw [calls_of_none hcalled] at hi
      rw [puts_of_none heffect, hreads (by have := h.handles; omega)]
      exact h.unused i hi }

/-- A step that neither reaches the channel nor reads a payload. -/
private theorem quiet (h : Told l hs) (hcalled : called? x = none) (htook : took? x = none)
    (heffect : effect? x = none) (hremoved : ∀ i, removed? i x = none)
    (hwrites : hs'.channel.writes = hs.channel.writes)
    (htaken : hs'.channel.taken = hs.channel.taken) (hpeer : hs'.channel.peer = hs.channel.peer)
    (hsignals : hs'.channel.signals = hs.channel.signals)
    (hsize : hs'.writes.size = hs.writes.size) : Told (l ++ [x]) hs' := by
  have hreads (i : Nat) : reads i (l ++ [x]) = reads i l := by
    rw [reads_snoc, hremoved]
    exact List.append_nil _
  exact {
    toFatesTold := h.toFatesTold.kept hcalled htook (by simp [heffect]) htaken hpeer
      fun i ↦ by rw [Channel.fate?, hwrites, Channel.fate?]
    requests := by
      rw [Channel.requests, hwrites, calls_of_none hcalled]
      exact h.requests
    handles := by rw [calls_of_none hcalled, hsize, h.handles]
    signals := by
      rw [hsignals, resets, effects_of_none heffect, ← resets]
      exact h.signals
    carried := fun i w hw ↦ by
      rw [hwrites] at hw
      rw [puts_of_none heffect, hreads]
      exact h.carried i w hw
    unused := fun i hi ↦ by
      rw [calls_of_none hcalled] at hi
      rw [puts_of_none heffect, hreads]
      exact h.unused i hi }

theorem step (h : Told l hs) (s : Step) : Told (l ++ [(s, (hs.step s).1)]) (hs.step s).2 := by
  have hquiet {hs' : Handles} {x : Step × Answer} (hcalled : called? x = none)
      (htook : took? x = none) (heffect : effect? x = none) (hremoved : ∀ i, removed? i x = none)
      (hc : hs'.channel = hs.channel) (hsize : hs'.writes.size = hs.writes.size) :
      Told (l ++ [x]) hs' :=
    h.quiet hcalled htook heffect hremoved (by rw [hc]) (by rw [hc]) (by rw [hc]) (by rw [hc]) hsize
  cases s with
  | peer s => exact h.peerStep s
  | write r =>
    rw [Handles.step]
    split
    · exact h.write r
    · exact hquiet rfl rfl rfl (fun _ ↦ rfl) rfl rfl
  | poll i =>
    rw [Handles.step, poll]
    split
    · split
      · exact hquiet rfl rfl rfl (fun _ ↦ rfl) rfl rfl
      · exact hquiet rfl rfl rfl (fun _ ↦ rfl) rfl (Array.size_setIfInBounds ..)
      · exact hquiet rfl rfl rfl (fun _ ↦ rfl) rfl (Array.size_setIfInBounds ..)
    · exact hquiet rfl rfl rfl (fun _ ↦ rfl) rfl rfl
  | dropWrite i | dropBody i =>
    rw [Handles.step]
    split
    · exact hquiet rfl rfl rfl (fun _ ↦ rfl) rfl (Array.size_setIfInBounds ..)
    · exact hquiet rfl rfl rfl (fun _ ↦ rfl) rfl rfl
  | read i =>
    rw [Handles.step, Handles.read]
    split
    · rename_i hpayload
      have hi := (Array.getElem?_eq_some_iff.mp hpayload).1
      obtain ⟨⟨item, c⟩, hread⟩ : ∃ found, hs.channel.read i = found := ⟨_, rfl⟩
      rw [hread]
      cases item with
      | chunk bytes | error e => exact h.read hread hi rfl rfl rfl rfl fun _ ↦ rfl
      | pending => exact h.read hread hi rfl rfl rfl rfl fun _ ↦ (ite_self _).symm
      | ended =>
        exact h.read hread hi (Array.size_setIfInBounds ..) rfl rfl rfl fun _ ↦ (ite_self _).symm
    · exact hquiet rfl rfl rfl (fun _ ↦ rfl) rfl rfl
  | watch n =>
    rw [Handles.step]
    split
    · exact hquiet rfl rfl rfl (fun _ ↦ rfl) rfl rfl
    · exact hquiet rfl rfl rfl (fun _ ↦ rfl) rfl rfl
  | pollWatch k =>
    rw [Handles.step]
    split
    · exact hquiet rfl rfl rfl (fun _ ↦ rfl) rfl rfl
    · split
      · exact hquiet rfl rfl rfl (fun _ ↦ rfl) rfl rfl
      · exact hquiet rfl rfl rfl (fun _ ↦ rfl) rfl rfl
  | dropTransport => exact h.quiet rfl rfl rfl (fun _ ↦ rfl) rfl rfl rfl rfl rfl

end Told

theorem told_run (steps : List Step) :
    Told (({} : Handles).log steps) (({} : Handles).run steps) :=
  run_induction told_nil (fun _ _ h s ↦ h.step s) steps

end Handles

end BoundedPipelining
