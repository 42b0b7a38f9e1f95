import BoundedPipelining.Channel.Handles
import Mathlib.Data.List.Induction

/-!
# What an observer does with its notifications

An observer waits on three notifications at once. A poll looks at them one after the other, in a
fixed order, until it finds one ready, acts on it and, if that was the announcement of a close,
starts over without it. `reference` says the same without the loop: the announcement first, if it
is news, then the first teardown.

## What carries the proof

`looks` writes down every look that a poll takes at a notification, in the order that it picks by,
and `poll_eq_foldl` says that a poll is what its looks find, so nothing happens that no look
explains. Between polls the tracker may be marked, closed or asked by anybody else, and the
notifications may become ready in any way. None of that reaches the observer: where it stands
depends on what its polls found alone, by `after`, and this is what makes it close the tracker once,
at the first poll that finds a teardown. A notification that was found ready is not looked at again
because the observer's place remembers it: the announcement has been heeded, or the observer is
finished.
-/

namespace BoundedPipelining

/-- The teardown that is found first, as the cause it is reported with. -/
def Notices.teardown? (n : Notices) : Option (Option TransportError) :=
  if n.close then some none else n.error.map some

namespace Observer

variable {o : Observer} {seen : Bool} {n : Notices} {t : Tracker} {m : Ledger}

/-! ## One poll -/

/-- What a poll has to do. An announcement that is news moves an open tracker on; the first teardown
closes the tracker and ends the observer. -/
def reference (seen : Bool) (n : Notices) (t : Tracker) (m : Ledger) :
    Observer × Tracker × Ledger :=
  let t := if n.closing ∧ ¬ seen ∧ t = .opened then .closing else t
  match n.teardown? with
  | some cause => (.finished, (t.close cause m).2)
  | none => (.watching (seen || n.closing), t, m)

/-- A poll heeds an announcement that it has not seen, and then looks for a teardown. -/
theorem poll_watching (seen : Bool) (n : Notices) (t : Tracker) (m : Ledger) :
    (watching seen).poll n t m =
      if n.closing = true ∧ ¬ seen = true then conclude true (pick true n) t.markClosing m
      else conclude seen (pick seen n) t m := by
  by_cases h : n.closing = true ∧ ¬ seen = true
  · rw [if_pos h, poll, show pick seen n = .closing by rw [pick_eq, if_pos h]]
  · have hne : pick seen n ≠ .closing := by
      rw [pick_eq, if_neg h]
      split
      · simp
      · split <;> simp
    rw [if_neg h, poll]
    cases hp : pick seen n with
    | closing => exact absurd hp hne
    | close | error e | nothing => rfl

/-- Once an announcement that is there has been seen, a close is looked for before an error. -/
theorem conclude_pick {seen : Bool} {n : Notices} (hs : n.closing = true → seen = true)
    (t : Tracker) (m : Ledger) :
    conclude seen (pick seen n) t m =
      if n.close = true then (.finished, (t.close none m).2)
      else match n.error with
        | some e => (.finished, (t.close (some e) m).2)
        | none => (.watching seen, t, m) := by
  rw [pick_eq, if_neg fun h : n.closing = true ∧ ¬ seen = true ↦ h.2 (hs h.1)]
  by_cases hclose : n.close = true
  · rw [if_pos hclose, if_pos hclose]
    rfl
  · rw [if_neg hclose, if_neg hclose]
    cases n.error <;> rfl

/-- A poll does what it has to do. -/
theorem poll_eq_reference (seen : Bool) (n : Notices) (t : Tracker) (m : Ledger) :
    (watching seen).poll n t m = reference seen n t m := by
  have hconclude {seen' : Bool} (hs : n.closing = true → seen' = true) (t : Tracker) :
      conclude seen' (pick seen' n) t m
        = match n.teardown? with
          | some cause => (.finished, (t.close cause m).2)
          | none => (.watching seen', t, m) := by
    rw [conclude_pick hs, Notices.teardown?]
    cases n.close with
    | true => rfl
    | false => cases n.error <;> rfl
  rw [poll_watching]
  split
  · rename_i hnews
    have hmark : t.markClosing = if t = .opened then .closing else t := by cases t <;> rfl
    rw [hconclude fun _ ↦ rfl, hmark, reference]
    simp only [hnews, Bool.false_eq_true, not_false_eq_true, true_and, Bool.or_true]
  · rename_i hnews
    have hs (h : n.closing = true) : seen = true := by_contra fun hnot ↦ hnews ⟨h, hnot⟩
    have hsame : (seen || n.closing) = seen := by
      cases seen with
      | true => rfl
      | false => simpa using hs
    rw [hconclude hs, reference, if_neg fun h ↦ hnews ⟨h.1, h.2.1⟩, hsame]

/-! ## The looks of a poll -/

namespace Look

/-- The notification that was looked at. -/
def notification : Look → Notification
  | closing _ => .closing
  | close _ => .close
  | error _ => .error

/-- Whether it was ready. -/
def isReady (l : Look) : Bool :=
  l.pick?.isSome

@[simp] theorem isReady_closing (ready : Bool) : (closing ready).isReady = ready := by
  cases ready <;> rfl

@[simp] theorem isReady_close (ready : Bool) : (close ready).isReady = ready := by
  cases ready <;> rfl

@[simp] theorem isReady_error (found : Option TransportError) :
    (error found).isReady = found.isSome := by
  cases found <;> rfl

/-- The cause that the tracker is closed with after this look. -/
def cause? : Look → Option (Option TransportError)
  | close true => some none
  | error (some e) => some (some e)
  | closing _ | close false | error none => none

end Look

/-- Looks at one notification after the other, until one is ready. -/
def untilReady : List Look → List Look
  | [] => []
  | l :: rest => if l.isReady then [l] else l :: untilReady rest

/-- The looks of a pick: none is taken after one that finds something ready. -/
def round (seen : Bool) (n : Notices) : List Look :=
  untilReady (inOrder seen n)

/-- The looks of a poll: a second round follows an announcement. -/
def looks : Observer → Notices → List Look
  | .finished, _ => []
  | .watching seen, n =>
    round seen n ++ if .closing true ∈ round seen n then round true n else []

/-- What is done upon a look. -/
def found (x : Observer × Tracker × Ledger) : Look → Observer × Tracker × Ledger
  | .closing true => (.watching true, x.2.1.markClosing, x.2.2)
  | .close true => (.finished, (x.2.1.close none x.2.2).2)
  | .error (some e) => (.finished, (x.2.1.close (some e) x.2.2).2)
  | .closing false | .close false | .error none => x

/-- The two looks that a heeded announcement leaves. -/
theorem round_true (n : Notices) :
    round true n = if n.close then [.close true] else [.close false, .error n.error] := by
  obtain ⟨closing, close, error⟩ := n
  cases close <;> cases error <;> rfl

theorem round_false (n : Notices) :
    round false n = if n.closing then [.closing true] else .closing false :: round true n := by
  obtain ⟨closing, close, error⟩ := n
  cases closing <;> rfl

theorem looks_true (n : Notices) : (watching true).looks n = round true n := by
  have hnone : Look.closing true ∉ round true n := by
    rw [round_true]
    split <;> simp
  rw [looks, if_neg hnone, List.append_nil]

theorem looks_false (n : Notices) :
    (watching false).looks n = .closing n.closing :: round true n := by
  rw [looks, round_false]
  cases n.closing with
  | true => rfl
  | false =>
    rw [if_neg Bool.false_ne_true, if_neg, List.append_nil]
    rw [round_true]
    split <;> simp

/-- What a round of looks at the teardowns amounts to. -/
private theorem foldl_round_true (x : Observer × Tracker × Ledger) (n : Notices) :
    (round true n).foldl found x
      = match n.teardown? with
        | some cause => (.finished, (x.2.1.close cause x.2.2).2)
        | none => x := by
  rw [round_true, Notices.teardown?]
  cases n.close with
  | true => rfl
  | false => cases n.error <;> rfl

/-- A poll does what its looks find, in their order. -/
theorem poll_eq_foldl (o : Observer) (n : Notices) (t : Tracker) (m : Ledger) :
    o.poll n t m = (o.looks n).foldl found (o, t, m) := by
  cases o with
  | finished => rfl
  | watching seen =>
    rw [poll_eq_reference, reference]
    cases seen with
    | true =>
      rw [looks_true, foldl_round_true, if_neg (by simp)]
      rfl
    | false =>
      rw [looks_false, List.foldl_cons, foldl_round_true]
      cases n.closing with
      | true => cases t <;> rfl
      | false => rfl

/-- The close that the looks of a poll bring about. -/
theorem causes_looks (seen : Bool) (n : Notices) :
    ((watching seen).looks n).filterMap Look.cause? = n.teardown?.toList := by
  have hround : (round true n).filterMap Look.cause? = n.teardown?.toList := by
    rw [round_true, Notices.teardown?]
    cases n.close with
    | true => rfl
    | false => cases n.error <;> rfl
  cases seen with
  | true => rw [looks_true, hround]
  | false =>
    rw [looks_false, List.filterMap_cons_none (by cases n.closing <;> rfl), hround]

/-- A poll looks at each notification at most once, so it does not matter whether they become ready
during the poll. -/
theorem looks_distinct (o : Observer) (n : Notices) :
    (o.looks n).Pairwise fun l l' ↦ l.notification ≠ l'.notification := by
  have hround : (round true n).Pairwise fun l l' ↦ l.notification ≠ l'.notification := by
    rw [round_true]
    split <;> simp [Look.notification]
  cases o with
  | finished => exact .nil
  | watching seen =>
    cases seen with
    | true => rwa [looks_true]
    | false =>
      rw [looks_false]
      refine .cons ?_ hround
      rw [round_true]
      split <;> simp [Look.notification]

/-! ## An observer among others -/

/-- What happens to a tracker that is observed. -/
inductive Turn where
  /-- The observer is polled, with these notifications ready. -/
  | poll (n : Notices)
  /-- Somebody else marks the tracker as closing. -/
  | markClosing
  /-- Somebody else closes it. -/
  | close (cause : Option TransportError)
  /-- Somebody asks for its state, its error or its signal. -/
  | ask

/-- An observer, its tracker and the ledger after one turn. -/
def turn (x : Observer × Tracker × Ledger) : Turn → Observer × Tracker × Ledger
  | .poll n => x.1.poll n x.2.1 x.2.2
  | .markClosing => (x.1, x.2.1.markClosing, x.2.2)
  | .close cause => (x.1, (x.2.1.close cause x.2.2).2)
  | .ask => x

/-- What a turn lets the observer find ready. -/
def Turn.poll? : Turn → Option Notices
  | poll n => some n
  | markClosing | close _ | ask => none

/-- The looks that the observer takes in a turn. -/
def looksAt (o : Observer) (s : Turn) : List Look :=
  s.poll?.elim [] o.looks

/-- Every look that the observer takes in some turns. -/
def looked (x : Observer × Tracker × Ledger) : List Turn → List Look
  | [] => []
  | s :: ts => x.1.looksAt s ++ looked (turn x s) ts

/-- Where an observer stands whose polls found these notifications. -/
def after (past : List Notices) : Observer :=
  if past.any fun n ↦ n.teardown?.isSome then .finished
  else .watching (past.any fun n ↦ n.closing)

theorem looked_snoc (x : Observer × Tracker × Ledger) (ts : List Turn) (s : Turn) :
    looked x (ts ++ [s]) = looked x ts ++ (ts.foldl turn x).1.looksAt s := by
  induction ts generalizing x with
  | nil => exact List.append_nil _
  | cons s' ts ih =>
    rw [List.cons_append, looked, ih, looked, List.append_assoc, List.foldl_cons]

/-- Where an observer stands after a poll depends on where it stood and on what it found. -/
theorem fst_poll_watching (seen : Bool) (n : Notices) (t : Tracker) (m : Ledger) :
    ((watching seen).poll n t m).1
      = if n.teardown?.isSome then .finished else .watching (seen || n.closing) := by
  rw [poll_eq_reference, reference]
  cases n.teardown? <;> rfl

/-- A turn moves the observer if it is a poll. -/
theorem fst_turn (x : Observer × Tracker × Ledger) (s : Turn) :
    (turn x s).1 = s.poll?.elim x.1 fun n ↦ (x.1.poll n x.2.1 x.2.2).1 := by
  cases s with
  | poll n | markClosing | close _ | ask => rfl

/-- The observer knows what its polls found, and nothing else. -/
theorem fst_turns (t : Tracker) (m : Ledger) (ts : List Turn) :
    (ts.foldl turn (.watching false, t, m)).1 = after (ts.filterMap Turn.poll?) := by
  induction ts using List.reverseRecOn with
  | nil => rfl
  | append_singleton ts s ih =>
    rw [List.foldl_append, List.foldl_cons, List.foldl_nil, fst_turn, ih, List.filterMap_append]
    cases hs : s.poll? with
    | none => rw [List.filterMap_cons_none hs, List.filterMap_nil, List.append_nil]; rfl
    | some n =>
      rw [List.filterMap_cons_some hs, List.filterMap_nil, Option.elim_some, after, after,
        List.any_append, List.any_append]
      cases (ts.filterMap Turn.poll?).any fun n ↦ n.teardown?.isSome with
      | true => rfl
      | false =>
        rw [if_neg Bool.false_ne_true, fst_poll_watching]
        simp

/-! ## No second look at what was ready -/

/-- The observer will not look at this notification any more. -/
def Ignores (o : Observer) (k : Notification) : Prop :=
  o = .finished ∨ k = .closing ∧ o = .watching true

private theorem mem_round_true {l : Look} (h : l ∈ round true n) :
    l.notification ≠ .closing ∧ (l.isReady = true → n.teardown?.isSome = true) := by
  rw [round_true] at h
  split at h
  · rename_i hclose
    obtain rfl := List.mem_singleton.mp h
    simp [Look.notification, Notices.teardown?, hclose]
  · rename_i hclose
    rcases List.mem_cons.mp h with rfl | h
    · simp [Look.notification]
    · obtain rfl := List.mem_singleton.mp h
      simp [Look.notification, Notices.teardown?, hclose]

theorem Ignores.notification_ne {k : Notification} {l : Look} (h : o.Ignores k)
    (hl : l ∈ o.looks n) : k ≠ l.notification := by
  rcases h with rfl | ⟨rfl, rfl⟩
  · cases hl
  · rw [looks_true] at hl
    exact (mem_round_true hl).1.symm

theorem Ignores.poll {k : Notification} (h : o.Ignores k) (n : Notices) (t : Tracker) (m : Ledger) :
    (o.poll n t m).1.Ignores k := by
  rcases h with rfl | ⟨rfl, rfl⟩
  · exact Or.inl rfl
  · rw [fst_poll_watching]
    split
    · exact Or.inl rfl
    · exact Or.inr ⟨rfl, rfl⟩

/-- A poll heeds what it finds ready. -/
theorem ignores_poll {l : Look} (hl : l ∈ o.looks n) (hready : l.isReady = true) (t : Tracker)
    (m : Ledger) : (o.poll n t m).1.Ignores l.notification := by
  cases o with
  | finished => cases hl
  | watching seen =>
    rw [fst_poll_watching]
    have hteardown (h : l ∈ round true n) : n.teardown?.isSome = true := (mem_round_true h).2 hready
    cases seen with
    | true =>
      rw [looks_true] at hl
      rw [if_pos (hteardown hl)]
      exact Or.inl rfl
    | false =>
      rw [looks_false] at hl
      rcases List.mem_cons.mp hl with rfl | hl
      · have hclosing : n.closing = true := (Look.isReady_closing _).symm.trans hready
        rw [hclosing]
        split
        · exact Or.inl rfl
        · exact Or.inr ⟨rfl, rfl⟩
      · rw [if_pos (hteardown hl)]
        exact Or.inl rfl

/-- A notification that was found ready has been heeded ever since, so no later look is at it. -/
theorem looked_pairwise (x : Observer × Tracker × Ledger) (ts : List Turn) :
    ((looked x ts).Pairwise fun l l' ↦ l.isReady = true → l.notification ≠ l'.notification) ∧
      ∀ l ∈ looked x ts, l.isReady = true → (ts.foldl turn x).1.Ignores l.notification := by
  induction ts using List.reverseRecOn with
  | nil => exact ⟨.nil, fun _ hl ↦ nomatch hl⟩
  | append_singleton ts s ih =>
    obtain ⟨hpairs, hignores⟩ := ih
    rw [looked_snoc, List.foldl_append, List.foldl_cons, List.foldl_nil, fst_turn, looksAt]
    generalize ts.foldl turn x = y at hignores ⊢
    cases s.poll? with
    | none =>
      rw [Option.elim_none, Option.elim_none, List.append_nil]
      exact ⟨hpairs, hignores⟩
    | some n =>
      rw [Option.elim_some, Option.elim_some]
      constructor
      · refine List.pairwise_append.mpr ⟨hpairs, ?_, fun l hl l' hl' hready ↦ ?_⟩
        · exact (y.1.looks_distinct n).imp fun {l _} hne (_ : l.isReady = true) ↦ hne
        · exact (hignores l hl hready).notification_ne hl'
      · intro l hl hready
        rcases List.mem_append.mp hl with hl | hl
        · exact (hignores l hl hready).poll n _ _
        · exact ignores_poll hl hready _ _

/-! ## Every life of an observer -/

/-- The closes that an observer calls for: one, at the first poll that finds a teardown. -/
theorem causes_looked (t : Tracker) (m : Ledger) (ts : List Turn) :
    (looked (.watching false, t, m) ts).filterMap Look.cause?
      = ((ts.filterMap Turn.poll?).findSome? Notices.teardown?).toList := by
  induction ts using List.reverseRecOn with
  | nil => rfl
  | append_singleton ts s ih =>
    rw [looked_snoc, List.filterMap_append, ih, fst_turns, List.filterMap_append,
      List.findSome?_append, looksAt]
    cases hs : s.poll? with
    | none => simp [List.filterMap_cons_none hs]
    | some n =>
      rw [List.filterMap_cons_some hs, List.filterMap_nil, Option.elim_some, after]
      split
      · rename_i hany
        obtain ⟨n', hn', hsome⟩ := List.any_eq_true.mp hany
        obtain ⟨cause, hcause⟩ := Option.isSome_iff_exists.mp
          (List.findSome?_isSome_iff.mpr ⟨n', hn', hsome⟩)
        rw [hcause]
        rfl
      · rename_i hany
        have hnone : (ts.filterMap Turn.poll?).findSome? Notices.teardown? = none := by
          rw [List.findSome?_eq_none_iff]
          intro n' hn'
          by_contra hsome
          exact hany (List.any_eq_true.mpr ⟨n', hn', Option.isSome_iff_ne_none.mpr hsome⟩)
        rw [hnone, causes_looks]
        simp

/-- The life of an observer that was made for the tracker `t`, with the ledger `m`, and stands at
`x` after some turns. -/
structure Follows (t : Tracker) (m : Ledger) (ts : List Turn) (x : Observer × Tracker × Ledger) :
    Prop where
  /-- Until a poll finds a teardown, the next poll is as the reference has it: the announcement
  first, if no poll found it before, then the first teardown. -/
  refines : (∀ n ∈ ts.filterMap Turn.poll?, n.teardown? = none) → ∀ n,
    turn x (.poll n)
      = reference ((ts.filterMap Turn.poll?).any fun n ↦ n.closing) n x.2.1 x.2.2
  /-- The observer is finished exactly if a poll found a teardown. -/
  finished : x.1 = .finished ↔ ∃ n ∈ ts.filterMap Turn.poll?, n.teardown?.isSome = true
  /-- A finished observer does nothing and looks at nothing. -/
  idle : x.1 = .finished → ∀ n, turn x (.poll n) = x ∧ x.1.looks n = []
  /-- A poll does what its looks find, and looks at each notification at most once. -/
  explained : ∀ n, turn x (.poll n) = (x.1.looks n).foldl found x ∧
    (x.1.looks n).Pairwise fun l l' ↦ l.notification ≠ l'.notification
  /-- All its looks have closed the tracker once, if at all: when a poll first found a teardown. -/
  closes : (looked (.watching false, t, m) ts).filterMap Look.cause?
    = ((ts.filterMap Turn.poll?).findSome? Notices.teardown?).toList
  /-- A tracker that somebody closed keeps its error, and nothing is counted again. -/
  spares : x.2.1.isClosed = true → ∀ n, (turn x (.poll n)).2 = x.2
  /-- A notification that was found ready is never looked at again. -/
  once : (looked (.watching false, t, m) ts).Pairwise
    fun l l' ↦ l.isReady = true → l.notification ≠ l'.notification

/-- **The life of an observer.** Whatever its tracker was when it was made, whenever the three
notifications become ready, and however its polls alternate with what others do to the tracker, the
observer does what the reference does: it heeds the announcement once, closes the tracker once, and
leaves alone what it has found ready. -/
theorem observe_turns (t : Tracker) (m : Ledger) (ts : List Turn) :
    Follows t m ts (ts.foldl turn (.watching false, t, m)) := by
  have hplace := fst_turns t m ts
  generalize ts.foldl turn (.watching false, t, m) = x at hplace ⊢
  obtain ⟨o, t', m'⟩ := x
  obtain rfl : o = after (ts.filterMap Turn.poll?) := hplace
  constructor
  case refines =>
    intro hnone n
    have hany : ((ts.filterMap Turn.poll?).any fun n ↦ n.teardown?.isSome) = false := by
      rw [List.any_eq_false]
      intro n hn
      simp [hnone n hn]
    rw [after, hany, if_neg Bool.false_ne_true]
    exact poll_eq_reference _ n t' m'
  case finished =>
    rw [after, ← List.any_eq_true]
    split
    · rename_i hany
      exact iff_of_true rfl hany
    · rename_i hany
      exact iff_of_false (by simp) hany
  case idle =>
    intro hfinished n
    dsimp only at hfinished
    rw [hfinished]
    exact ⟨rfl, rfl⟩
  case explained => exact fun n ↦ ⟨poll_eq_foldl _ n _ _, looks_distinct _ n⟩
  case closes => exact causes_looked t m ts
  case spares =>
    intro hclosed n
    cases t' with
    | opened | closing => cases hclosed
    | closed e =>
      cases after (ts.filterMap Turn.poll?) with
      | finished => rfl
      | watching seen =>
        -- The announcement moves no closed tracker, and its close changes nothing.
        change ((watching seen).poll n _ _).2 = _
        rw [poll_eq_reference, reference, if_neg (by simp)]
        cases n.teardown? <;> rfl
  case once => exact (looked_pairwise _ ts).1

/-- The announcement and the teardown are found by one poll, in this order. -/
example (m : Ledger) : (turn (.watching false, .opened, m)
    (.poll { closing := true, close := true })).2.1 = .closed (classify true none) := rfl

end Observer

end BoundedPipelining
