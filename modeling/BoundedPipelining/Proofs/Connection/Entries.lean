import BoundedPipelining.Proofs.Connection.GateUse
import BoundedPipelining.Proofs.Connection.Scope

/-!
# What a connection enters in the ledger

The ledger is written in many places: by the gate, by an exchange that settles, by the tracker that
closes and by a call that turns a request away. `Entered es c c'` says for all of them at once that
`es` is what was entered on the way from one state to the other, and that the state moved by just
those marks: each call that was decided, each slot, each settled exchange and the close is there as
often as it was entered.

So the numbers of a state are counts of marks, as those of a ledger are, and what relates the two is
not the single step but the list. Entries compose by appending their lists, and `step_entered` needs
no more than the entries of one change.

A slot is counted down at the gate and in the ledger, but the gate stops at zero. That the two agree
all the same is where the invariant comes in: a ticket that is given up stands for a slot taken.
-/

namespace BoundedPipelining

/-! ## Marks and numbers -/

namespace Ledger

/-- The ledger after these marks. -/
def enter (m : Ledger) (es : List Mark) : Ledger := es.foldl mark m

theorem enter_append (m : Ledger) (es es' : List Mark) :
    m.enter (es ++ es') = (m.enter es).enter es' := List.foldl_append

/-- A number that goes up by one with each mark of one kind counts these marks. -/
private theorem number_enter {f : Ledger → Nat} {a : Mark}
    (h : ∀ m e, f (mark m e) = f m + if e = a then 1 else 0) (m : Ledger) (es : List Mark) :
    f (m.enter es) = f m + es.count a := by
  induction es generalizing m with
  | nil => rfl
  | cons e es ih =>
    refine (ih (m.mark e)).trans ?_
    rw [h, List.count_cons]
    simp only [beq_iff_eq]
    omega

theorem admitted_enter (m : Ledger) (es : List Mark) :
    (m.enter es).admitted = m.admitted + es.count .admitted :=
  number_enter (f := admitted) admitted_mark m es

theorem rejected_enter (m : Ledger) (es : List Mark) (why : Rejection) :
    (m.enter es).rejected why = m.rejected why + es.count (.rejected why) :=
  number_enter (f := fun m ↦ m.rejected why) (fun m e ↦ m.rejected_mark e why) m es

theorem settled_enter (m : Ledger) (es : List Mark) (how : Settlement) :
    (m.enter es).settled how = m.settled how + es.count (.settled how) :=
  number_enter (f := fun m ↦ m.settled how) (fun m e ↦ m.settled_mark e how) m es

theorem connectionsClosed_enter (m : Ledger) (es : List Mark) (why : CloseReason) :
    (m.enter es).connectionsClosed why
      = m.connectionsClosed why + es.count (.connectionClosed why) :=
  number_enter (f := fun m ↦ m.connectionsClosed why)
    (fun m e ↦ m.connectionsClosed_mark e why) m es

theorem slotsInUse_enter (m : Ledger) (es : List Mark) :
    (m.enter es).slotsInUse
      = m.slotsInUse + es.count .slotTaken - es.count .slotReturned := by
  induction es generalizing m with
  | nil => simp [enter]
  | cons e es ih =>
    refine (ih (m.mark e)).trans ?_
    rw [slotsInUse_mark, List.count_cons, List.count_cons]
    simp only [beq_iff_eq]
    split <;> split <;> omega

end Ledger

/-! ## What an exchange enters -/

namespace Exchange

theorem outcome?_draining (x : Exchange) : x.draining.outcome? = x.outcome? := by
  obtain ⟨_, progress, _, _⟩ := x
  cases progress <;> rfl

/-- One for an exchange that ended in this way, and nothing otherwise. -/
def endedAs (how : Settlement) (x : Exchange) : Nat := if x.outcome? = some how then 1 else 0

/-- These marks were entered on the way from one exchange and books to the others, all of them about
the exchange's slot and its end. -/
structure Entered (es : List Mark) (b b' : Books) (x x' : Exchange) : Prop where
  ledger : b'.ledger = b.ledger.enter es
  slots : (b'.limiter.inFlight : Int) = b.limiter.inFlight - es.count .slotReturned
  ended : ∀ how, x'.endedAs how = x.endedAs how + es.count (.settled how)
  taken : es.count .slotTaken = 0
  admitted : es.count .admitted = 0
  rejected : ∀ why, es.count (.rejected why) = 0
  closed : ∀ why, es.count (.connectionClosed why) = 0

variable {x x' : Exchange} {b : Books}

/-- Nothing is entered while an exchange neither ends nor gives up its ticket. -/
theorem entered_nil (b : Books) (h : x'.outcome? = x.outcome?) : Entered [] b b x x' where
  ledger := rfl
  slots := by simp
  ended how := by simp [endedAs, h]
  taken := rfl
  admitted := rfl
  rejected _ := rfl
  closed _ := rfl

/-- A ticket that is given up is entered once. -/
theorem entered_giveBack (hpos : 0 < b.limiter.inFlight) :
    Entered [.slotReturned] b b.giveBack x { x with ticket := false } where
  ledger := rfl
  slots := by
    rw [Books.giveBack, Limiter.inFlight_giveBack]
    simp only [List.count_singleton_self]
    omega
  ended _ := rfl
  taken := rfl
  admitted := rfl
  rejected _ := rfl
  closed _ := rfl

/-- The marks of an exchange that settles. -/
def settling (ticket : Bool) (how : Settlement) : List Mark :=
  (if ticket then [.slotReturned] else []) ++ [.settled how]

/-- An exchange that settles enters its end once, and its slot if it still has its ticket. -/
theorem entered_settle (hs : x.phase.holdsSlot = true) {p : Progress} {how : Settlement}
    (hp : ({ x with progress := p } : Exchange).outcome? = some how)
    (hpos : x.ticket = true → 0 < b.limiter.inFlight) :
    Entered (settling x.ticket how) b (({ x with progress := p }).settle how b).2 x
      (({ x with progress := p }).settle how b).1 := by
  have hended (how' : Settlement) : (({ x with progress := p }).settle how b).1.endedAs how'
      = x.endedAs how' + if how = how' then 1 else 0 := by
    have hafter : (({ x with progress := p }).settle how b).1.outcome? = some how := by
      rw [outcome?, progress_settle]
      exact hp
    rw [endedAs, endedAs, hafter, outcome?_eq_none_iff.mpr hs]
    simp
  obtain ⟨id, progress, ticket, settled⟩ := x
  cases ticket with
  | true =>
    refine ⟨rfl, ?_, fun how' ↦ ?_, rfl, rfl, fun _ ↦ rfl, fun _ ↦ rfl⟩
    · have h := hpos rfl
      rw [limiter_settle, if_pos rfl, Limiter.inFlight_giveBack]
      simp [settling]
      omega
    · rw [hended]
      simp [settling, List.count_cons]
  | false =>
    refine ⟨rfl, ?_, fun how' ↦ ?_, rfl, rfl, fun _ ↦ rfl, fun _ ↦ rfl⟩
    · rw [limiter_settle, if_neg Bool.false_ne_true]
      simp [settling]
    · rw [hended]
      simp [settling, List.count_cons]

end Exchange

namespace Connection

variable {c c' : Connection} {i : Nat} {l l' : Lane} {b : Books}

/-! ## What a change enters -/

/-- The number of exchanges that ended in this way. -/
def endedAs (c : Connection) (how : Settlement) : Nat :=
  c.lanes.countP fun l ↦ l.exchange.outcome? == some how

/-- One for a connection that closed for this reason, and nothing otherwise. -/
def closedFor (c : Connection) (why : CloseReason) : Nat :=
  if c.tracker.terminal?.map ClassifiedError.reason = some why then 1 else 0

/-- These marks were entered on the way from one state to the other, and the state moved by just
these marks. -/
structure Entered (es : List Mark) (c c' : Connection) : Prop where
  ledger : c'.books.ledger = c.books.ledger.enter es
  calls : c'.calls.size = c.calls.size + es.count .admitted + es.count (.rejected .limitExceeded)
    + es.count (.rejected .closing) + es.count (.rejected .closed)
  lanes : c'.lanes.size = c.lanes.size + es.count .admitted
  slots : (c'.inFlight : Int) = c.inFlight + es.count .slotTaken - es.count .slotReturned
  ended : ∀ how, c'.endedAs how = c.endedAs how + es.count (.settled how)
  closed : ∀ why, c'.closedFor why = c.closedFor why + es.count (.connectionClosed why)

theorem Entered.trans {es es' : List Mark} {c₁ c₂ c₃ : Connection} (h : Entered es c₁ c₂)
    (h' : Entered es' c₂ c₃) : Entered (es ++ es') c₁ c₃ where
  ledger := by rw [h'.ledger, h.ledger, Ledger.enter_append]
  calls := by
    rw [h'.calls, h.calls]
    simp only [List.count_append]
    omega
  lanes := by
    rw [h'.lanes, h.lanes, List.count_append]
    omega
  slots := by
    rw [h'.slots, h.slots, List.count_append, List.count_append]
    omega
  ended how := by
    rw [h'.ended, h.ended, List.count_append]
    omega
  closed why := by
    rw [h'.closed, h.closed, List.count_append]
    omega

/-- A change that leaves all that is counted alone enters nothing. -/
private theorem entered_nothing (hbooks : c'.books = c.books)
    (hcalls : c'.calls.size = c.calls.size) (hlanes : c'.lanes = c.lanes)
    (ht : c'.tracker.terminal? = c.tracker.terminal?) :
    Entered [] c c' where
  ledger := by rw [hbooks]; rfl
  calls := hcalls
  lanes := by rw [hlanes]; rfl
  slots := by simp [inFlight, hbooks]
  ended how := by simp [endedAs, hlanes]
  closed why := by simp [closedFor, ht]

private theorem entered_put {es : List Mark} (h : c.lanes[i]? = some l)
    (hx : Exchange.Entered es c.books b l.exchange l'.exchange) : Entered es c (c.put i l' b) where
  ledger := hx.ledger
  calls := by
    rw [hx.admitted, hx.rejected, hx.rejected, hx.rejected]
    rfl
  lanes := by
    rw [hx.admitted]
    exact size_lanes_put c i l' b
  slots := by
    rw [hx.taken]
    change (b.limiter.inFlight : Int) = c.books.limiter.inFlight + (0 : Nat) - _
    rw [hx.slots]
    omega
  ended how := by
    -- The lane is counted once before and once after.
    have hcount := countP_put h l' b fun l ↦ l.exchange.outcome? == some how
    have hended := hx.ended how
    rw [Exchange.endedAs, Exchange.endedAs] at hended
    simp only [beq_iff_eq] at hcount
    rw [endedAs, endedAs]
    omega
  closed why := by
    rw [hx.closed]
    rfl

private theorem LaneMove.entered (hc : Sound c) (h : c.lanes[i]? = some l)
    (m : LaneMove c i l l' b) :
    ∃ es, Exchange.Entered es c.books b l.exchange l'.exchange := by
  cases m with
  | head _ hp _ _ =>
    refine ⟨[], Exchange.entered_nil _ ?_⟩
    rw [Exchange.outcome?, Exchange.outcome?, hp]
  | draining => exact ⟨[], Exchange.entered_nil _ (Exchange.outcome?_draining _)⟩
  | failure | lost | caller | watch | unwatch => exact ⟨[], Exchange.entered_nil _ rfl⟩
  | fail _ hs => exact ⟨_, Exchange.entered_settle hs rfl (hc.inFlight_pos h)⟩
  | giveBack _ _ ht => exact ⟨_, Exchange.entered_giveBack (hc.inFlight_pos h ht)⟩

private theorem entered_close (c : Connection) (cause : Option TransportError) :
    ∃ es, Entered es c (c.close cause).2 := by
  cases ht : c.tracker with
  | closed e =>
    have hsame : (c.close cause).2 = c := by
      obtain ⟨_, _, tracker, _, _, _, _, _, _, _, _⟩ := c
      obtain rfl : tracker = .closed e := ht
      rfl
    rw [hsame]
    exact ⟨[], entered_nothing rfl rfl rfl rfl⟩
  | opened | closing =>
    refine ⟨[.connectionClosed (c.tracker.closeError cause).reason], ?_, rfl, rfl, ?_, fun _ ↦ rfl,
      fun why ↦ ?_⟩
    · simp only [close, Tracker.close, ht]
      rfl
    · simp [close, inFlight]
    · rw [closedFor, tracker_close, closedFor, ht, List.count_cons]
      simp [Tracker.terminal?]

theorem Change.entered (hc : Sound c) (h : Change c c') : ∃ es, Entered es c c' := by
  rcases h with m | h | h | h
  · cases m with
    | @refuse why _ _ =>
      refine ⟨[.rejected why], rfl, ?_, rfl, ?_, fun _ ↦ rfl, fun _ ↦ rfl⟩
      · cases why <;> simp [turnAway, mark]
      · simp [turnAway, mark, inFlight, Books.mark]
    | told => exact ⟨[], entered_nothing rfl (by simp) rfl rfl⟩
    | heed =>
      refine ⟨[], entered_nothing rfl rfl rfl ?_⟩
      cases c.tracker <;> rfl
    | close => exact entered_close c _
    | lane h m =>
      obtain ⟨es, hes⟩ := m.entered hc h
      exact ⟨es, entered_put h hes⟩
    | watches | peer | take | monitor | leave => exact ⟨[], entered_nothing rfl rfl rfl rfl⟩
  · refine ⟨[.admitted, .slotTaken], ?_⟩
    rw [h.eq, admitted, Books.takeSlot_of_lt h.room]
    have hnew : (c.newLane c.sequence.next.1).exchange.outcome? = none := by
      rw [newLane]
      split <;> rfl
    refine ⟨rfl, by simp, by simp, ?_, fun how ↦ ?_, fun _ ↦ rfl⟩
    · simp [inFlight]
    · simp [endedAs, hnew]
  · cases h with
    | intro h _ _ hs _ =>
      exact ⟨_, entered_put h (Exchange.entered_settle hs rfl (hc.inFlight_pos h))⟩
  · rw [h]
    refine ⟨[], rfl, rfl, by simp [stopTasks], ?_, fun how ↦ ?_, fun _ ↦ rfl⟩
    · simp [stopTasks, inFlight]
    · rw [endedAs, endedAs, stopTasks, Array.countP_map]
      rfl

theorem Changes.entered (hc : Sound c) (h : Changes c c') : ∃ es, Entered es c c' := by
  induction h with
  | refl => exact ⟨[], entered_nothing rfl rfl rfl rfl⟩
  | tail hbefore h ih =>
    obtain ⟨es, hes⟩ := ih
    obtain ⟨es', hes'⟩ := h.entered (hc.changes hbefore)
    exact ⟨es ++ es', hes.trans hes'⟩

/-- What a step counts in the ledger is what it changes in the state. -/
theorem step_entered (hc : Sound c) (s : Step) : ∃ es, Entered es c (c.step s).2 :=
  (step_changes c s).entered hc

/-! ## Which calls were made -/

/-- Whether a step is a call that issues a request. -/
def issues (c : Connection) : Step → Bool
  | .caller (.request _) => c.facade
  | _ => false

private theorem size_calls_request (c : Connection) (r : Request) :
    (c.step (.caller (.request r))).2.calls.size
      = c.calls.size + if c.facade then 1 else 0 := by
  have hcalls : (c.step (.caller (.request r))).2.calls = (c.asFacade (c.request r)).2.calls :=
    Internal.calls (internal_reclaim (c.asFacade (c.request r)).2 : Internal Nobody _ _)
  rw [hcalls, asFacade]
  by_cases hf : c.facade = true
  · rw [if_pos hf, if_pos hf]
    rcases request_cases hf r with ⟨why, e, -, heq⟩ | hadm
    · rw [heq]
      simp [turnAway, mark]
    · simp [hadm.eq, admitted]
  · rw [if_neg hf, if_neg hf, Nat.add_zero]

/-- A call is there for each step that issued a request. -/
theorem size_calls_step (c : Connection) (s : Step) :
    (c.step s).2.calls.size = c.calls.size + if c.issues s then 1 else 0 := by
  by_cases hs : ∃ r, s = .caller (.request r)
  · obtain ⟨r, rfl⟩ := hs
    exact size_calls_request c r
  · have hissues : c.issues s = false := by
      rw [issues]
      exact fun r h ↦ hs ⟨r, h⟩
    rw [hissues, if_neg Bool.false_ne_true, Nat.add_zero]
    have hscope := step_scope c s
    generalize (c.step s).2 = c' at hscope
    cases hscope with
    | internal h => rw [h.calls]
    | peer hcalls _ _ => rw [hcalls]
    | issued _ _ => exact absurd ⟨_, rfl⟩ hs
    | told _ _ hcalls _ => rw [hcalls]; simp

end Connection

end BoundedPipelining
