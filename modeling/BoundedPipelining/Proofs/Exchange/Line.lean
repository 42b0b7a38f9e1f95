import BoundedPipelining.Proofs.Exchange.Holders

/-!
# The line at an exchange

Those who wait for an exchange to settle stand in line. A waiter that asks for the first time finds
an exchange that has settled, or else takes its place at the end of the line. Settling then wakes
one waiter only, the first in line; if that one goes away before it has noticed, the next is woken
in its place. But whoever has noticed wakes nobody, so those behind it are told nothing any more.

The line is followed from the outside here, by `line`, which knows no permits and nobody that is
woken: a waiter that is answered keeps its place, and one that goes away leaves it. `Lines` is the
invariant that ties the line to the notice of the exchange. It follows that a poll is answered
exactly if the exchange has settled and the waiter stands behind nobody (`settled_answered`), and
that whoever stands behind one that was answered is left pending for good (`pending_behind`).
-/

namespace BoundedPipelining

/-! ## Standing in line -/

/-- Takes a place at the end of the line, unless one has a place in it. -/
def lineUp (q : List Waiter) (who : Waiter) : List Waiter := if who ∈ q then q else q ++ [who]

theorem mem_lineUp {q : List Waiter} {who v : Waiter} : v ∈ lineUp q who ↔ v ∈ q ∨ v = who := by
  rw [lineUp]
  split
  · rename_i hmem
    exact ⟨Or.inl, fun hv ↦ hv.elim id fun heq ↦ heq ▸ hmem⟩
  · simp

theorem nodup_lineUp {q : List Waiter} (h : q.Nodup) (who : Waiter) : (lineUp q who).Nodup := by
  rw [lineUp]
  split
  · exact h
  · rename_i hmem
    refine List.nodup_append.mpr ⟨h, by simp, fun v hv u hu heq ↦ hmem ?_⟩
    rwa [← List.mem_singleton.mp hu, ← heq]

theorem erase_lineUp (q : List Waiter) (who : Waiter) : (lineUp q who).erase who = q.erase who := by
  rw [lineUp]
  split
  · rfl
  · rename_i hmem
    rw [List.erase_append_right _ hmem, List.erase_of_not_mem hmem]
    simp

namespace Exchange

variable {gone gone' : Waiter → Prop} {q : List Waiter} {x : Exchange} {who : Waiter}
  {w : SettledWait}

/-! ## The notice of one exchange -/

/-- The notice of an exchange keeps the line `q`, in which some may have been answered, those of
`gone`. -/
inductive KeepsLine (gone : Waiter → Prop) (q : List Waiter) (x : Exchange) : Prop
  /-- Everybody in line is waiting. -/
  | unsettled (hp : x.phase.isTerminal = false) (hn : x.settled = { waiting := q })
  /-- The first in line has been woken and has not noticed. -/
  | due (hp : x.phase.isTerminal = true) (hwoken : x.settled.woken = q.take 1)
      (hwaiting : x.settled.waiting = q.tail)
  /-- The first in line has noticed. -/
  | spent (hp : x.phase.isTerminal = true) {first : Waiter} (hq : q = first :: x.settled.waiting)
      (hgone : gone first) (hwoken : x.settled.woken = [])

theorem keepsLine_new (gone : Waiter → Prop) (id : ExchangeId) : KeepsLine gone [] { id } :=
  .unsettled rfl rfl

theorem KeepsLine.mono (hx : KeepsLine gone q x) (h : ∀ v, gone v → gone' v) :
    KeepsLine gone' q x := by
  cases hx with
  | unsettled hp hn => exact .unsettled hp hn
  | due hp hwoken hwaiting => exact .due hp hwoken hwaiting
  | spent hp hq hgone hwoken => exact .spent hp hq (h _ hgone) hwoken

theorem KeepsLine.setTicket (hx : KeepsLine gone q x) (t : Bool) :
    KeepsLine gone q { x with ticket := t } := by
  cases hx with
  | unsettled hp hn => exact .unsettled hp hn
  | due hp hwoken hwaiting => exact .due hp hwoken hwaiting
  | spent hp hq hgone hwoken => exact .spent hp hq hgone hwoken

theorem KeepsLine.eq_of_open (hx : KeepsLine gone q x) (hp : x.phase.isTerminal = false) :
    x.settled = { waiting := q } := by
  cases hx with
  | unsettled _ hn => exact hn
  | due hp' | spent hp' => simp [hp] at hp'

/-- A call wakes the first in line if it settles the exchange, and nobody otherwise. -/
theorem KeepsLine.called (hx : KeepsLine gone q x) (b : Books) (c : Call) :
    KeepsLine gone q (x.called b c).1 := by
  rcases x.called_cases b c with heq | ⟨p, hs, hp, -, heq⟩ | ⟨p, how, hs, hp, heq⟩
  · rw [heq]
    exact hx
  · rw [heq]
    exact .unsettled (Phase.holdsSlot_eq_true_iff.mp hp)
      (hx.eq_of_open (Phase.holdsSlot_eq_true_iff.mp hs))
  · have hterminal : (({ x with progress := p }).settle how b).1.phase.isTerminal = true := by
      rw [← Bool.not_eq_false, isTerminal_eq_false_iff, outcome?_settle, hp]
      simp
    have hn : x.settled = { waiting := q } := hx.eq_of_open (Phase.holdsSlot_eq_true_iff.mp hs)
    rw [heq]
    refine .due hterminal ?_ ?_
    · rw [settled_settle, hn]
      cases q <;> rfl
    · rw [settled_settle, hn]
      cases q <;> rfl

/-- A poll of a waiter that stands behind nobody is answered once the exchange has settled. -/
theorem KeepsLine.poll_due (hx : KeepsLine gone q x) (hgone : ¬ gone who)
    (hw : w = .registered ↔ who ∈ q) (hp : x.phase.isTerminal = true) (hq : who ∉ q.tail) :
    ∃ n, w.poll who x = (none, { x with settled := n }) ∧
      ∀ gone' : Waiter → Prop, (∀ v, gone v → gone' v) → gone' who →
        KeepsLine gone' q { x with settled := n } := by
  cases w with
  | fresh => exact ⟨x.settled, by simp [SettledWait.poll, hp], fun _ hmono _ ↦ hx.mono hmono⟩
  | registered =>
    have hmem : who ∈ q := hw.mp rfl
    cases q with
    | nil => simp at hmem
    | cons first rest =>
      obtain rfl : who = first := (List.mem_cons.mp hmem).resolve_right hq
      cases hx with
      | unsettled hp' => simp [hp] at hp'
      | due _ hwoken hwaiting =>
        refine ⟨{ x.settled with woken := [] }, ?_, ?_⟩
        · simp [SettledWait.poll, Notice.poll, hwoken]
        · exact fun _ _ hwho ↦ .spent hp (congrArg (who :: ·) hwaiting.symm) hwho rfl
      | spent _ hq' hfirst =>
        obtain rfl := (List.cons.inj hq').1
        exact absurd hfirst hgone

/-- Any other poll leaves the waiter in line. -/
theorem KeepsLine.poll_behind (hx : KeepsLine gone q x) (hw : w = .registered ↔ who ∈ q)
    (hnodup : q.Nodup) (hbehind : ¬ (x.phase.isTerminal = true ∧ who ∉ q.tail)) :
    ∃ n, w.poll who x = (some .registered, { x with settled := n }) ∧
      KeepsLine gone (lineUp q who) { x with settled := n } := by
  cases w with
  | fresh =>
    have hmem : who ∉ q := fun hmem ↦ by simpa using hw.mpr hmem
    have hp : x.phase.isTerminal = false := by
      rw [← Bool.not_eq_true]
      exact fun hp ↦ hbehind ⟨hp, fun htail ↦ hmem (List.mem_of_mem_tail htail)⟩
    have hn := hx.eq_of_open hp
    refine ⟨{ waiting := q ++ [who] }, ?_, ?_⟩
    · simp [SettledWait.poll, Notice.register, hp, hn]
    · rw [lineUp, if_neg hmem]
      exact .unsettled hp rfl
  | registered =>
    have hmem : who ∈ q := hw.mp rfl
    have hwoken : who ∉ x.settled.woken := by
      cases hx with
      | unsettled _ hn => simp [hn]
      | due hp hwoken _ =>
        -- The first in line stands behind nobody.
        rw [hwoken]
        cases q with
        | nil => simp at hmem
        | cons first rest =>
          rintro hfirst
          obtain rfl := List.mem_singleton.mp hfirst
          exact hbehind ⟨hp, (List.nodup_cons.mp hnodup).1⟩
      | spent _ _ _ hwoken => simp [hwoken]
    refine ⟨x.settled, ?_, ?_⟩
    · simp [SettledWait.poll, Notice.poll, hwoken]
    · rw [lineUp, if_pos hmem]
      exact hx

/-- A waiter that goes away leaves the line. -/
theorem KeepsLine.drop (hx : KeepsLine gone q x) (hgone : ¬ gone who)
    (hw : w = .registered ↔ who ∈ q) : KeepsLine gone (q.erase who) (w.drop who x) := by
  cases w with
  | fresh =>
    have hmem : who ∉ q := fun hmem ↦ by simpa using hw.mpr hmem
    rw [List.erase_of_not_mem hmem]
    exact hx
  | registered =>
    have hmem : who ∈ q := hw.mp rfl
    rw [SettledWait.drop, Notice.forget]
    cases hx with
    | unsettled hp hn =>
      rw [hn, if_neg (by simp)]
      exact .unsettled hp rfl
    | due hp hwoken hwaiting =>
      cases q with
      | nil => simp at hmem
      | cons first rest =>
        by_cases hfirst : who = first
        · -- The wake-up goes to the next in line.
          subst hfirst
          rw [if_pos (by simp [hwoken]), List.erase_cons_head]
          refine .due hp ?_ ?_ <;> cases rest <;> simp [Notice.notifyOne, hwoken, hwaiting]
        · rw [if_neg (by simpa [hwoken] using hfirst),
            List.erase_cons_tail (by simpa using Ne.symm hfirst)]
          exact .due hp hwoken (by rw [hwaiting]; rfl)
    | @spent hp first hq hfirst hwoken =>
      have hne : first ≠ who := fun heq ↦ hgone (heq ▸ hfirst)
      rw [if_neg (by simp [hwoken]), hq, List.erase_cons_tail (by simpa using hne)]
      exact .spent hp rfl hfirst hwoken

end Exchange

namespace Held

variable {h h' : Held} {s : Step} {i j : Nat} {q q' : List Waiter} {x y : Exchange}
  {who : Waiter} {w : SettledWait}

/-! ## Following the line -/

/-- The exchange that a waiter waits for, until its wait is over. -/
def waitsFor? (h : Held) (who : Waiter) : Option Nat := ((h.place? who).join).map Prod.fst

/-- Whether the exchange `i` has settled. -/
def hasSettled (h : Held) (i : Nat) : Bool := (h.exchange? i).any fun x ↦ x.phase.isTerminal

/-- The line at exchange `i` after a poll: one that is answered keeps its place, one that goes away
unanswered leaves, and everyone else is in line from then on. -/
def lineAfterPoll (h : Held) (i : Nat) (q : List Waiter) (who : Waiter) : List Waiter :=
  if h.waitsFor? who = some i ∧ ¬ (h.hasSettled i = true ∧ who ∉ q.tail) then
    if h.isCut who then q.erase who else lineUp q who
  else q

/-- The line at exchange `i` after a waiter was dropped. -/
def lineAfterDrop (h : Held) (i : Nat) (q : List Waiter) (who : Waiter) : List Waiter :=
  if h.waitsFor? who = some i then q.erase who else q

/-- The line at exchange `i` after a step. -/
def lineAfter (h : Held) (i : Nat) (q : List Waiter) : Step → List Waiter
  | .pollSettled k => h.lineAfterPoll i q (.caller k)
  | .pollWatch k => h.lineAfterPoll i q (.watcher k)
  | .dropSettled k => h.lineAfterDrop i q (.caller k)
  | .dropWatch k => h.lineAfterDrop i q (.watcher k)
  | _ => q

/-- The line at exchange `i` after a list of steps; nobody is in line before them. -/
def line (h : Held) (i : Nat) (steps : List Step) : List Waiter :=
  (steps.foldl (fun p s ↦ ((p.1.step s).2, p.1.lineAfter i p.2 s)) (h, [])).2

theorem line_snoc (h : Held) (i : Nat) (steps : List Step) (s : Step) :
    h.line i (steps ++ [s]) = (h.run steps).lineAfter i (h.line i steps) s := by
  have hrun : (steps.foldl (fun p s ↦ ((p.1.step s).2, p.1.lineAfter i p.2 s)) (h, [])).1 =
      h.run steps := by
    induction steps using List.reverseRecOn with
    | nil => rfl
    | append_singleton steps s ih => rw [List.foldl_append, run_snoc, ← ih]; rfl
  rw [line, List.foldl_append, ← hrun]
  rfl

theorem waitsFor?_of_place? (hp : h.place? who = some (some (i, w))) :
    h.waitsFor? who = some i := by
  rw [waitsFor?, hp]
  rfl

theorem waitsFor?_eq_some_iff :
    h.waitsFor? who = some i ↔ ∃ w, h.place? who = some (some (i, w)) := by
  rw [waitsFor?, Option.map_eq_some_iff]
  constructor
  · rintro ⟨⟨_, w⟩, hp, rfl⟩
    exact ⟨w, Option.join_eq_some_iff.mp hp⟩
  · rintro ⟨w, hp⟩
    exact ⟨(i, w), Option.join_eq_some_iff.mpr hp, rfl⟩

/-- A step that concerns no waiter of the exchange leaves its line alone. -/
theorem lineAfter_of_elsewhere (hs : ∀ who, s.waiter? = some who → h.waitsFor? who ≠ some i) :
    h.lineAfter i q s = q := by
  cases s with
  | pollSettled k | pollWatch k => exact if_neg fun hwho ↦ hs _ rfl hwho.1
  | dropSettled k | dropWatch k => exact if_neg (hs _ rfl)
  | _ => rfl

theorem lineAfter_pollOf (h : Held) (i : Nat) (q : List Waiter) (who : Waiter) :
    h.lineAfter i q (pollOf who) = h.lineAfterPoll i q who := by
  cases who <;> rfl

theorem lineAfter_dropOf (h : Held) (i : Nat) (q : List Waiter) (who : Waiter) :
    h.lineAfter i q (dropOf who) = h.lineAfterDrop i q who := by
  cases who <;> rfl

theorem waiter?_pollOf (who : Waiter) : (pollOf who).waiter? = some who := by
  cases who <;> rfl

theorem waiter?_dropOf (who : Waiter) : (dropOf who).waiter? = some who := by
  cases who <;> rfl

theorem hasSettled_eq (hx : h.exchange? i = some x) : h.hasSettled i = x.phase.isTerminal := by
  rw [hasSettled, hx]
  rfl

/-! ## The line and the notice -/

/-- The line at exchange `i` is the one that its notice keeps: those who have looked stand in it,
and nobody stands in it twice. -/
structure Lines (h : Held) (i : Nat) (q : List Waiter) : Prop where
  keeps : ∀ x, h.exchange? i = some x → x.KeepsLine h.Over q
  absent : h.exchange? i = none → q = []
  registered : ∀ who w, h.place? who = some (some (i, w)) → (w = .registered ↔ who ∈ q)
  member : ∀ who ∈ q, h.Over who ∨ h.waitsFor? who = some i
  nodup : q.Nodup

theorem lines_ofDepth (d : Depth) (i : Nat) : Lines (ofDepth d) i [] where
  keeps x hx := by simp [ofDepth, exchange?] at hx
  absent _ := rfl
  registered who w hp := by cases who <;> simp [ofDepth, place?] at hp
  member := by simp
  nodup := List.nodup_nil

/-- Nobody has moved. -/
theorem Lines.stay (hl : Lines h i q) (hp' : h'.place? = h.place?)
    (hkeeps : ∀ x, h'.exchange? i = some x → x.KeepsLine h.Over q)
    (habsent : h'.exchange? i = none → h.exchange? i = none) : Lines h' i q := by
  have hover : h'.Over = h.Over := by
    funext who
    rw [Over, Over, hp']
  refine ⟨fun x hx ↦ hover ▸ hkeeps x hx, fun hx ↦ hl.absent (habsent hx),
    fun who w hp ↦ hl.registered who w (hp' ▸ hp), fun who hwho ↦ ?_, hl.nodup⟩
  rw [hover, waitsFor?, hp']
  exact hl.member who hwho

theorem Lines.reclaim (hl : Lines h i q) : Lines h.reclaim i q := by
  refine hl.stay h.place?_reclaim (fun x hx ↦ ?_) fun hx ↦ ?_
  · rcases h.exchange?_reclaim i with heq | ⟨y, hy, heq⟩
    · exact hl.keeps x (heq ▸ hx)
    · cases heq.symm.trans hx
      exact (hl.keeps y hy).setTicket false
  · rcases h.exchange?_reclaim i with heq | ⟨y, hy, heq⟩
    · exact heq ▸ hx
    · cases heq.symm.trans hx

/-- A waiter of the exchange has moved, and the exchange with it. -/
theorem Lines.here (hl : Lines h i q) {p : Option (Nat × SettledWait)}
    (hx' : h'.exchange? = Function.update h.exchange? i (some y))
    (hp' : h'.place? = Function.update h.place? who (some p)) (hkeeps : y.KeepsLine h'.Over q')
    (hp : p = none ∨ p = some (i, .registered) ∧ who ∈ q')
    (hothers : ∀ v, v ≠ who → (v ∈ q' ↔ v ∈ q)) (hnodup : q'.Nodup) : Lines h' i q' := by
  have hself : h'.place? who = some p := by rw [hp', Function.update_self]
  have hplace (v : Waiter) (hv : v ≠ who) : h'.place? v = h.place? v := by
    rw [hp', Function.update_of_ne hv]
  refine ⟨fun x hx ↦ ?_, fun hx ↦ ?_, fun v w hv ↦ ?_, fun v hv ↦ ?_, hnodup⟩
  · rw [hx', Function.update_self] at hx
    cases hx
    exact hkeeps
  · rw [hx', Function.update_self] at hx
    cases hx
  · by_cases hwho : v = who
    · subst hwho
      cases hself.symm.trans hv
      rcases hp with hp | ⟨hp, hmem⟩
      · cases hp
      · cases hp
        simp [hmem]
    · rw [hothers v hwho]
      exact hl.registered v w (hplace v hwho ▸ hv)
  · by_cases hwho : v = who
    · subst hwho
      rcases hp with rfl | ⟨rfl, -⟩
      · exact Or.inl hself
      · exact Or.inr (waitsFor?_of_place? hself)
    · rw [Over, waitsFor?, hplace v hwho]
      exact hl.member v ((hothers v hwho).mp hv)

/-- Somebody has moved who is not in line. -/
theorem Lines.outside (hl : Lines h i q) (hnot : who ∉ q) (hover : ¬ h.Over who)
    {p : Option (Nat × SettledWait)} (hx' : h'.exchange? i = h.exchange? i)
    (hp' : h'.place? = Function.update h.place? who (some p)) (hp : p ≠ some (i, .registered)) :
    Lines h' i q := by
  have hplace (v : Waiter) (hv : v ≠ who) : h'.place? v = h.place? v := by
    rw [hp', Function.update_of_ne hv]
  refine ⟨fun x hx ↦ ?_, fun hx ↦ hl.absent (hx' ▸ hx), fun v w hv ↦ ?_, fun v hv ↦ ?_, hl.nodup⟩
  · refine (hl.keeps x (hx' ▸ hx)).mono fun v hv ↦ ?_
    exact (hplace v fun heq ↦ hover (heq ▸ hv)).trans hv
  · by_cases hwho : v = who
    · subst hwho
      rw [hp', Function.update_self] at hv
      cases hv
      exact iff_of_false (fun hw ↦ hp (by rw [hw])) hnot
    · exact hl.registered v w (hplace v hwho ▸ hv)
  · rw [Over, waitsFor?, hplace v fun heq ↦ hnot (heq ▸ hv)]
    exact hl.member v hv

/-- Whoever waits for another exchange is not in this line. -/
theorem Lines.not_mem (hl : Lines h i q) (hp : h.place? who = some (some (j, w))) (hij : j ≠ i) :
    who ∉ q := by
  intro hmem
  rcases hl.member who hmem with hover | hwaits
  · cases hp.symm.trans hover
  · rw [waitsFor?_of_place? hp] at hwaits
    exact hij (Option.some.inj hwaits)

/-- Nobody has moved, and one exchange was called or is new. -/
theorem Lines.set (hl : Lines h i q) (hx' : h'.exchange? = Function.update h.exchange? j (some y))
    (hp' : h'.place? = h.place?) (hy : i = j → y.KeepsLine h.Over q) : Lines h' i q := by
  refine hl.stay hp' (fun x hx ↦ ?_) fun hx ↦ ?_
  · rw [hx', Function.update_apply] at hx
    split at hx
    · rename_i hij
      cases hx
      exact hy hij
    · exact hl.keeps x hx
  · rw [hx', Function.update_apply] at hx
    split at hx
    · cases hx
    · exact hx

/-! ## Every step keeps the line -/

/-- A poll of a waiter of the exchange that does not send it away. -/
private theorem Lines.polled (hl : Lines h i q) (hp : h.place? who = some (some (i, w)))
    (hx : h.exchange? i = some x) (hcut : (w.poll who x).1 = none ∨ h.isCut who = false)
    (hx' : h'.exchange? = Function.update h.exchange? i (some (w.poll who x).2))
    (hp' : h'.place? =
      Function.update h.place? who (some ((w.poll who x).1.map fun w ↦ (i, w)))) :
    Lines h' i (h.lineAfterPoll i q who) := by
  have hkeeps := hl.keeps x hx
  have hw := hl.registered who w hp
  have hmono := over_mono (not_over hp) hp'
  rw [lineAfterPoll, waitsFor?_of_place? hp, hasSettled_eq hx]
  by_cases hdue : x.phase.isTerminal = true ∧ who ∉ q.tail
  · rw [if_neg fun hbehind ↦ hbehind.2 hdue]
    obtain ⟨n, hpoll, hn⟩ := hkeeps.poll_due (not_over hp) hw hdue.1 hdue.2
    rw [hpoll] at hx' hp'
    have hwho : h'.Over who := by
      rw [Over, hp', Function.update_self]
      rfl
    exact hl.here hx' hp' (hn _ hmono hwho) (Or.inl rfl) (fun _ _ ↦ Iff.rfl) hl.nodup
  · obtain ⟨n, hpoll, hn⟩ := hkeeps.poll_behind hw hl.nodup hdue
    rw [hpoll] at hcut hx' hp'
    rw [if_pos ⟨rfl, hdue⟩, hcut.resolve_left (by simp), if_neg Bool.false_ne_true]
    exact hl.here hx' hp' (hn.mono hmono) (Or.inr ⟨rfl, mem_lineUp.mpr (Or.inr rfl)⟩)
      (fun v hv ↦ mem_lineUp.trans (or_iff_left hv)) (nodup_lineUp hl.nodup who)

/-- A poll that sends a watcher away from the exchange, which then fails. -/
private theorem Lines.cut (hl : Lines h i q) (e : ClassifiedError) {w' : SettledWait}
    (hp : h.place? who = some (some (i, w))) (hx : h.exchange? i = some x)
    (hcut : h.isCut who = true) (hpoll : (w.poll who x).1 = some w')
    (hx' : h'.exchange? = Function.update h.exchange? i
      (some ((w'.drop who (w.poll who x).2).called h.books (.fail e)).1))
    (hp' : h'.place? = Function.update h.place? who (some none)) :
    Lines h' i (h.lineAfterPoll i q who) := by
  have hkeeps := hl.keeps x hx
  have hw := hl.registered who w hp
  by_cases hdue : x.phase.isTerminal = true ∧ who ∉ q.tail
  · obtain ⟨n, hpoll', -⟩ := hkeeps.poll_due (not_over hp) hw hdue.1 hdue.2
    simp [hpoll'] at hpoll
  · obtain ⟨n, hpoll', hn⟩ := hkeeps.poll_behind hw hl.nodup hdue
    rw [hpoll'] at hx' hpoll
    cases hpoll
    -- It had lined up first, if it had not looked before.
    have hgone := hn.drop (not_over hp) (iff_of_true rfl (mem_lineUp.mpr (Or.inr rfl)))
    rw [erase_lineUp] at hgone
    rw [lineAfterPoll, waitsFor?_of_place? hp, hasSettled_eq hx, if_pos ⟨rfl, hdue⟩, if_pos hcut]
    exact hl.here hx' hp' ((hgone.called _ _).mono (over_mono (not_over hp) hp')) (Or.inl rfl)
      (fun v hv ↦ List.mem_erase_of_ne hv) (hl.nodup.erase who)

/-- A waiter of the exchange goes away. -/
private theorem Lines.dropped (hl : Lines h i q) (hp : h.place? who = some (some (i, w)))
    (hx : h.exchange? i = some x)
    (hx' : h'.exchange? = Function.update h.exchange? i (some (w.drop who x)))
    (hp' : h'.place? = Function.update h.place? who (some none)) :
    Lines h' i (h.lineAfterDrop i q who) := by
  have hmono := over_mono (not_over hp) hp'
  have hkeeps := (hl.keeps x hx).drop (not_over hp) (hl.registered who w hp)
  rw [lineAfterDrop, if_pos (waitsFor?_of_place? hp)]
  exact hl.here hx' hp' (hkeeps.mono hmono) (Or.inl rfl) (fun v hv ↦ List.mem_erase_of_ne hv)
    (hl.nodup.erase who)

theorem Lines.effect (hl : Lines h i q) (he : h.Effect s h') : Lines h' i (h.lineAfter i q s) := by
  have hnobody (hs : s.waiter? = none) : h.lineAfter i q s = q :=
    lineAfter_of_elsewhere (by simp [hs])
  cases he with
  | still hs hx' hp' =>
    rw [lineAfter_of_elsewhere fun who hwho hi ↦ ?_]
    · exact hl.stay hp' (fun x hx ↦ hl.keeps x (hx' ▸ hx)) fun hx ↦ hx' ▸ hx
    · obtain ⟨w, hw⟩ := waitsFor?_eq_some_iff.mp hi
      exact hs who i w hwho hw
  | new id hs hfree hx' hp' =>
    rw [hnobody hs]
    refine hl.set hx' hp' fun hij ↦ ?_
    rw [hl.absent (hij ▸ hfree)]
    exact Exchange.keepsLine_new _ id
  | called c hs hx hx' hp' =>
    rw [hnobody hs]
    exact hl.set hx' hp' fun hij ↦ (hl.keeps _ (hij ▸ hx)).called _ c
  | joined hs hx hfree hx' hp' =>
    rw [hnobody hs]
    refine hl.outside (fun hmem ↦ ?_) ?_ (by rw [hx']) hp' (by simp)
    · rcases hl.member _ hmem with hover | hwaits
      · cases hfree.symm.trans hover
      · obtain ⟨w, hw⟩ := waitsFor?_eq_some_iff.mp hwaits
        cases hfree.symm.trans hw
    · exact fun hover ↦ by cases hfree.symm.trans hover
  | @polled _ j x who w hp hx hcut hx' hp' =>
    by_cases hij : j = i
    · subst hij
      rw [lineAfter_pollOf]
      exact hl.polled hp hx hcut hx' hp'
    · rw [lineAfter_of_elsewhere (by simp [waiter?_pollOf, waitsFor?_of_place? hp, hij])]
      refine hl.outside (hl.not_mem hp hij) (not_over hp) ?_ hp' ?_
      · rw [hx', Function.update_of_ne (Ne.symm hij)]
      · simp [hij]
  | @cut _ j x who w w' e hp hx hcut hpoll hx' hp' =>
    by_cases hij : j = i
    · subst hij
      rw [lineAfter_pollOf]
      exact hl.cut e hp hx hcut hpoll hx' hp'
    · rw [lineAfter_of_elsewhere (by simp [waiter?_pollOf, waitsFor?_of_place? hp, hij])]
      refine hl.outside (hl.not_mem hp hij) (not_over hp) ?_ hp' (by simp)
      rw [hx', Function.update_of_ne (Ne.symm hij)]
  | @dropped _ j x who w hp hx hx' hp' =>
    by_cases hij : j = i
    · subst hij
      rw [lineAfter_dropOf]
      exact hl.dropped hp hx hx' hp'
    · rw [lineAfter_of_elsewhere (by simp [waiter?_dropOf, waitsFor?_of_place? hp, hij])]
      refine hl.outside (hl.not_mem hp hij) (not_over hp) ?_ hp' (by simp)
      rw [hx', Function.update_of_ne (Ne.symm hij)]

theorem lines_run (d : Depth) (i : Nat) (steps : List Step) :
    Lines ((ofDepth d).run steps) i ((ofDepth d).line i steps) := by
  induction steps using List.reverseRecOn with
  | nil => exact lines_ofDepth d i
  | append_singleton steps s ih =>
    rw [run_snoc, line_snoc]
    exact (ih.effect (effect_act (known_run d steps) s)).reclaim

/-! ## The answer -/

/-- A wait is answered exactly if the exchange has settled and the waiter stands behind nobody. -/
theorem Lines.poll_eq_none_iff (hl : Lines h i q) (hp : h.place? who = some (some (i, w)))
    (hx : h.exchange? i = some x) :
    (w.poll who x).1 = none ↔ x.phase.isTerminal = true ∧ who ∉ q.tail := by
  have hkeeps := hl.keeps x hx
  have hw := hl.registered who w hp
  by_cases hdue : x.phase.isTerminal = true ∧ who ∉ q.tail
  · obtain ⟨n, hpoll, -⟩ := hkeeps.poll_due (not_over hp) hw hdue.1 hdue.2
    exact iff_of_true (by rw [hpoll]) hdue
  · obtain ⟨n, hpoll, -⟩ := hkeeps.poll_behind hw hl.nodup hdue
    exact iff_of_false (by simp [hpoll]) hdue

/-- **The answer to a wait.** Whatever is done with exchanges and those who wait for them, and in
whatever order: a wait that goes on is answered exactly if its exchange has settled and the waiter
stands behind nobody in line. Otherwise it is left pending, or sent away by the close of the
connection if it is a watcher's. -/
theorem settled_answered (d : Depth) (steps : List Step) (who : Waiter) :
    let h := (ofDepth d).run steps
    (∀ i, h.waitsFor? who = some i → ∃ x w, h.exchange? i = some x ∧
      h.place? who = some (some (i, w)) ∧
      ((w.poll who x).1 = none ↔
        x.phase.isTerminal = true ∧ who ∉ ((ofDepth d).line i steps).tail) ∧
      (h.step (pollOf who)).1 =
        if (w.poll who x).1 = none ∨ h.isCut who = true then .done else .pending) ∧
    (h.waitsFor? who = none → (h.step (pollOf who)).1 = .gone) := by
  intro h
  constructor
  · intro i hi
    have hl : Lines h i ((ofDepth d).line i steps) := lines_run d i steps
    obtain ⟨w, hp⟩ := waitsFor?_eq_some_iff.mp hi
    obtain ⟨x, hx⟩ := known_run d steps who i w hp
    exact ⟨x, w, hx, hp, hl.poll_eq_none_iff hp hx, act_pollOf hp hx⟩
  · intro hnone
    have hover : ∀ i w, h.place? who ≠ some (some (i, w)) := fun i w hp ↦ by
      cases hnone.symm.trans (waitsFor?_of_place? hp)
    change (h.act (pollOf who)).1 = .gone
    rw [act_pollOf_of_over hover]

/-- A watcher and a caller wait for an exchange that completes: the watcher is answered, and the
caller behind it is not. -/
theorem settled_answered_in_line :
    let h := ofDepth ⟨1, by decide⟩
    let steps : List Step := [.new, .watch 0, .pollWatch 0, .waitSettled 0, .pollSettled 0,
      .headers 0, .complete 0]
    h.line 0 steps = [.watcher 0, .caller 0] ∧
      ((h.run steps).step (pollOf (.watcher 0))).1 = .done ∧
      ((h.run steps).step (pollOf (.caller 0))).1 = .pending := by
  intro h steps
  have hline : h.line 0 steps = [.watcher 0, .caller 0] := by decide +kernel
  have hsettled : (h.run steps).hasSettled 0 = true := by decide +kernel
  obtain ⟨x, w, hx, -, hfirst, hdone⟩ :=
    (settled_answered ⟨1, by decide⟩ steps (.watcher 0)).1 0 (by decide +kernel)
  obtain ⟨y, v, -, -, hbehind, hpending⟩ :=
    (settled_answered ⟨1, by decide⟩ steps (.caller 0)).1 0 (by decide +kernel)
  refine ⟨hline, hdone.trans (if_pos (Or.inl (hfirst.mpr ⟨?_, ?_⟩))), hpending.trans (if_neg ?_)⟩
  · exact (hasSettled_eq hx).symm.trans hsettled
  · exact hline ▸ by decide
  · rintro (hready | hcut)
    · exact (hbehind.mp hready).2 (hline ▸ by decide)
    · exact Bool.false_ne_true hcut

/-- It is not so that a wait is answered as soon as its exchange has settled. -/
theorem waiter_passed_over :
    ¬ ∀ (d : Depth) (steps : List Step) (k i : Nat),
      ((ofDepth d).run steps).waitsFor? (.caller k) = some i →
      ((((ofDepth d).run steps).step (.pollSettled k)).1 = .done ↔
        ((ofDepth d).run steps).hasSettled i = true) := by
  intro hall
  have hdone := (hall ⟨1, by decide⟩ [.new, .watch 0, .pollWatch 0, .headers 0, .waitSettled 0,
    .pollSettled 0, .draining 0, .complete 0, .pollWatch 0] 0 0 (by decide +kernel)).mpr
      (by decide +kernel)
  revert hdone
  decide +kernel

/-! ## Those who are passed over -/

/-- One that was answered keeps its place at the head of the line. -/
theorem lineAfter_of_over {first : Waiter} {rest : List Waiter} (hover : h.Over first) (s : Step) :
    ∃ rest', h.lineAfter i (first :: rest) s = first :: rest' := by
  have hne (who : Waiter) (hwho : h.waitsFor? who = some i) : first ≠ who := by
    rintro rfl
    obtain ⟨w, hp⟩ := waitsFor?_eq_some_iff.mp hwho
    exact not_over hp hover
  have herase (who : Waiter) (hwho : h.waitsFor? who = some i) :
      (first :: rest).erase who = first :: rest.erase who :=
    List.erase_cons_tail (by simpa using hne who hwho)
  have hpoll (who : Waiter) : ∃ rest', h.lineAfterPoll i (first :: rest) who = first :: rest' := by
    rw [lineAfterPoll]
    split
    · rename_i hwho
      split
      · exact ⟨_, herase who hwho.1⟩
      · rw [lineUp]
        split
        · exact ⟨_, rfl⟩
        · exact ⟨_, List.cons_append⟩
    · exact ⟨_, rfl⟩
  have hdrop (who : Waiter) : ∃ rest', h.lineAfterDrop i (first :: rest) who = first :: rest' := by
    rw [lineAfterDrop]
    split
    · rename_i hwho
      exact ⟨_, herase who hwho⟩
    · exact ⟨_, rfl⟩
  cases s with
  | pollSettled k | pollWatch k => exact hpoll _
  | dropSettled k | dropWatch k => exact hdrop _
  | _ => exact ⟨_, rfl⟩

theorem head_stays (d : Depth) (steps later : List Step) {first : Waiter} {rest : List Waiter}
    (hq : (ofDepth d).line i steps = first :: rest) (hover : ((ofDepth d).run steps).Over first) :
    ((ofDepth d).run (steps ++ later)).Over first ∧
      ∃ rest', (ofDepth d).line i (steps ++ later) = first :: rest' := by
  induction later using List.reverseRecOn with
  | nil => exact ⟨by rwa [List.append_nil], rest, by rwa [List.append_nil]⟩
  | append_singleton later s ih =>
    obtain ⟨hover', rest', hline⟩ := ih
    rw [← List.append_assoc, run_snoc, line_snoc, hline]
    refine ⟨?_, lineAfter_of_over hover' s⟩
    have hact := (effect_act (known_run d (steps ++ later)) s).stays_over hover'
    exact (congrFun (place?_reclaim _) first).trans hact

/-- Once the first in line has been answered, nobody else in line is answered any more, whatever is
done later. -/
theorem pending_behind (d : Depth) (steps later : List Step) {first : Waiter} {rest : List Waiter}
    (hq : (ofDepth d).line i steps = first :: rest) (hover : ((ofDepth d).run steps).Over first)
    (k : Nat) (hk : .caller k ∈ (ofDepth d).line i (steps ++ later))
    (hwaits : ((ofDepth d).run (steps ++ later)).waitsFor? (.caller k) = some i) :
    (((ofDepth d).run (steps ++ later)).step (.pollSettled k)).1 = .pending := by
  obtain ⟨hover', rest', hline⟩ := head_stays d steps later hq hover
  obtain ⟨w, hp⟩ := waitsFor?_eq_some_iff.mp hwaits
  obtain ⟨x, hx⟩ := known_run d (steps ++ later) _ _ _ hp
  have hne : .caller k ≠ first := by
    rintro rfl
    exact not_over hp hover'
  have hbehind : (w.poll (.caller k) x).1 ≠ none := fun hready ↦ by
    refine (((lines_run d i (steps ++ later)).poll_eq_none_iff hp hx).mp hready).2 ?_
    rw [hline] at hk ⊢
    exact (List.mem_cons.mp hk).resolve_left hne
  exact (act_pollOf hp hx).trans (if_neg (by simp [isCut, hbehind]))

end Held

end BoundedPipelining
