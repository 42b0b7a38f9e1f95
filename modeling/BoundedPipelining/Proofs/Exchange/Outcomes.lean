import BoundedPipelining.Exchange.Basic

/-!
# What the operations of an exchange can do

Each operation of an exchange is inverted once: which cases there are, what holds in each and what
becomes of the exchange and of the books. Later arguments go by these cases and never look into an
operation again.

The close watcher is woken by a notice, so whether it can end early depends on the notice alone. A
notice is *quiet* while it holds no permit and has woken nobody, and the notice of an exchange that
has not settled is always quiet; that is what keeps a watcher at work until the exchange settles.
-/

namespace BoundedPipelining

/-! ## Quiet notices -/

namespace Notice

variable {ω : Type}

/-- Nobody has been woken and no permit is kept. -/
structure IsQuiet (n : Notice ω) : Prop where
  permit : n.permit = false
  woken : n.woken = []

theorem isQuiet_fresh : ({} : Notice ω).IsQuiet := ⟨rfl, rfl⟩

theorem IsQuiet.register {n : Notice ω} (h : n.IsQuiet) (w : ω) : (n.register w).2.IsQuiet := by
  rw [Notice.register, if_neg (by simp [h.permit])]
  exact ⟨h.permit, h.woken⟩

theorem IsQuiet.register_fst {n : Notice ω} (h : n.IsQuiet) (w : ω) :
    (n.register w).1 = false := by
  rw [Notice.register, if_neg (by simp [h.permit])]

variable [DecidableEq ω]

theorem IsQuiet.poll {n : Notice ω} (h : n.IsQuiet) (w : ω) : n.poll w = (false, n) := by
  rw [Notice.poll, if_neg (by simp [h.woken])]

theorem IsQuiet.forget {n : Notice ω} (h : n.IsQuiet) (w : ω) : (n.forget w).IsQuiet := by
  rw [Notice.forget, if_neg (by simp [h.woken])]
  exact ⟨h.permit, h.woken⟩

end Notice

namespace Exchange

theorem failure?_eq_some_iff {x : Exchange} {e : ClassifiedError} :
    x.failure? = some e ↔ x.progress = .failed e := by
  rw [failure?]
  cases x.progress <;> simp [Progress.error?]

theorem isTerminal_of_failure? {x : Exchange} {e : ClassifiedError} (h : x.failure? = some e) :
    x.phase.isTerminal = true := by
  rw [phase, failure?_eq_some_iff.mp h]
  rfl

/-- How a settled exchange ended. -/
def outcome? (x : Exchange) : Option Settlement :=
  match x.progress with
  | .completed => some .completed
  | .failed _ => some .failed
  | .dispatched | .headersReceived | .payloadDraining => none

theorem outcome?_eq_none_iff {x : Exchange} : x.outcome? = none ↔ x.phase.holdsSlot = true := by
  obtain ⟨_, progress, _, _⟩ := x
  cases progress <;> simp [outcome?, phase, Progress.phase, Phase.holdsSlot, Phase.isTerminal]

/-! ## Settling -/

@[simp] theorem id_settle (x : Exchange) (how : Settlement) (b : Books) :
    (x.settle how b).1.id = x.id := by
  obtain ⟨_, _, ticket, _⟩ := x
  cases ticket <;> rfl

@[simp] theorem progress_settle (x : Exchange) (how : Settlement) (b : Books) :
    (x.settle how b).1.progress = x.progress := by
  obtain ⟨_, _, ticket, _⟩ := x
  cases ticket <;> rfl

@[simp] theorem ticket_settle (x : Exchange) (how : Settlement) (b : Books) :
    (x.settle how b).1.ticket = false := by
  obtain ⟨_, _, ticket, _⟩ := x
  cases ticket <;> rfl

@[simp] theorem settled_settle (x : Exchange) (how : Settlement) (b : Books) :
    (x.settle how b).1.settled = x.settled.notifyOne := by
  obtain ⟨_, _, ticket, _⟩ := x
  cases ticket <;> rfl

/-- Settling an exchange gives back the slot it holds, and only that one. -/
theorem limiter_settle (x : Exchange) (how : Settlement) (b : Books) :
    (x.settle how b).2.limiter = if x.ticket then b.limiter.giveBack else b.limiter := by
  obtain ⟨_, _, ticket, _⟩ := x
  cases ticket <;> rfl

/-! ## Failing and advancing -/

/-- An exchange that has settled stays as it is, and one that has not fails and settles. -/
theorem fail_cases (x : Exchange) (e : ClassifiedError) (b : Books) :
    (∃ kept, x.failure? = some kept ∧ x.fail e b = (kept, x, b)) ∨
    (x.progress = .completed ∧ x.fail e b = (e, x, b)) ∨
    (x.phase.holdsSlot = true ∧
      x.fail e b = (e, ({ x with progress := .failed e }).settle .failed b)) := by
  obtain ⟨_, progress, _, _⟩ := x
  cases progress with
  | completed => exact Or.inr (Or.inl ⟨rfl, rfl⟩)
  | failed kept => exact Or.inl ⟨kept, rfl, rfl⟩
  | dispatched | headersReceived | payloadDraining => exact Or.inr (Or.inr ⟨rfl, rfl⟩)

/-- A failed exchange keeps its first error. -/
theorem fail_of_failure? {x : Exchange} {kept : ClassifiedError} (h : x.failure? = some kept)
    (e : ClassifiedError) (b : Books) : x.fail e b = (kept, x, b) := by
  simp only [fail, h]

/-- Headers are taken by a dispatched exchange only. -/
theorem headersReceived_cases (x : Exchange) (b : Books) :
    (∃ e, x.failure? = some e ∧ x.headersReceived b = (.failed e, x, b)) ∨
    (x.progress = .dispatched ∧
      x.headersReceived b = (.ok, { x with progress := .headersReceived }, b)) ∨
    (x.progress ≠ .dispatched ∧ x.failure? = none ∧
      ∃ e, x.headersReceived b = (.violation e, x, b)) := by
  obtain ⟨_, progress, _, _⟩ := x
  cases progress with
  | dispatched => exact Or.inr (Or.inl ⟨rfl, rfl⟩)
  | failed e => exact Or.inl ⟨e, rfl, rfl⟩
  | headersReceived | payloadDraining | completed =>
    exact Or.inr (Or.inr ⟨by simp, rfl, _, rfl⟩)

/-- An exchange completes from every phase in which it still holds its slot. -/
theorem complete_cases (x : Exchange) (b : Books) :
    (∃ e, x.failure? = some e ∧ x.complete b = (.failed e, x, b)) ∨
    (x.phase.holdsSlot = true ∧
      x.complete b = (.ok, ({ x with progress := .completed }).settle .completed b)) ∨
    (x.progress = .completed ∧ ∃ e, x.complete b = (.violation e, x, b)) := by
  obtain ⟨_, progress, _, _⟩ := x
  cases progress with
  | failed e => exact Or.inl ⟨e, rfl, rfl⟩
  | completed => exact Or.inr (Or.inr ⟨rfl, _, rfl⟩)
  | dispatched | headersReceived | payloadDraining => exact Or.inr (Or.inl ⟨rfl, rfl⟩)

@[simp] theorem id_draining (x : Exchange) : x.draining.id = x.id := by
  obtain ⟨_, progress, _, _⟩ := x
  cases progress <;> rfl

@[simp] theorem ticket_draining (x : Exchange) : x.draining.ticket = x.ticket := by
  obtain ⟨_, progress, _, _⟩ := x
  cases progress <;> rfl

@[simp] theorem settled_draining (x : Exchange) : x.draining.settled = x.settled := by
  obtain ⟨_, progress, _, _⟩ := x
  cases progress <;> rfl

@[simp] theorem failure?_draining (x : Exchange) : x.draining.failure? = x.failure? := by
  obtain ⟨_, progress, _, _⟩ := x
  cases progress <;> rfl

@[simp] theorem isTerminal_draining (x : Exchange) :
    x.draining.phase.isTerminal = x.phase.isTerminal := by
  obtain ⟨_, progress, _, _⟩ := x
  cases progress <;> rfl

@[simp] theorem holdsSlot_draining (x : Exchange) :
    x.draining.phase.holdsSlot = x.phase.holdsSlot := by
  rw [Phase.holdsSlot, isTerminal_draining, Phase.holdsSlot]

/-- Taking the payload completes nothing. -/
theorem completed_draining_iff {x : Exchange} :
    x.draining.progress = .completed ↔ x.progress = .completed := by
  obtain ⟨_, progress, _, _⟩ := x
  cases progress <;> simp [draining]

theorem draining_of_isTerminal {x : Exchange} (h : x.phase.isTerminal = true) :
    x.draining = x := by
  obtain ⟨_, progress, _, _⟩ := x
  cases progress <;> simp_all [phase, Progress.phase, Phase.isTerminal, draining]

end Exchange

/-! ## Waiting and watching -/

/-- A wait ends only if the exchange has settled or its notice is not quiet, and changes nothing
but the notice, which it leaves quiet. -/
theorem SettledWait.poll_cases (s : SettledWait) (who : Waiter) (x : Exchange) :
    ∃ n, (x.settled.IsQuiet → n.IsQuiet) ∧
      ((s.poll who x = (none, { x with settled := n }) ∧
          (x.phase.isTerminal = true ∨ ¬ x.settled.IsQuiet)) ∨
        s.poll who x = (some .registered, { x with settled := n })) := by
  cases s with
  | fresh =>
    by_cases ht : x.phase.isTerminal = true
    · exact ⟨x.settled, id, Or.inl ⟨by simp [poll, ht], Or.inl ht⟩⟩
    · refine ⟨(x.settled.register who).2, fun h ↦ h.register who, ?_⟩
      cases hr : (x.settled.register who).1 with
      | true => exact Or.inl ⟨by simp [poll, ht, hr], Or.inr fun h ↦ by
          simp [h.register_fst] at hr⟩
      | false => exact Or.inr (by simp [poll, ht, hr])
  | registered =>
    refine ⟨(x.settled.poll who).2, fun h ↦ by rwa [h.poll], ?_⟩
    cases hr : (x.settled.poll who).1 with
    | true => exact Or.inl ⟨by simp [poll, hr], Or.inr fun h ↦ by simp [h.poll] at hr⟩
    | false => exact Or.inr (by simp [poll, hr])

theorem SettledWait.drop_eq (s : SettledWait) (who : Waiter) (x : Exchange) :
    ∃ n, (x.settled.IsQuiet → n.IsQuiet) ∧ s.drop who x = { x with settled := n } := by
  cases s with
  | fresh => exact ⟨x.settled, id, rfl⟩
  | registered => exact ⟨x.settled.forget who, fun h ↦ h.forget who, rfl⟩

/-- A poll of a watcher that is at work ends it if the exchange has settled or its notice is not
quiet, ends it with a failure of the exchange if the connection has closed, and otherwise leaves it
registered. -/
theorem Watch.poll_cases {w : Watch} (hw : w.isLive = true) (who : Waiter) (x : Exchange)
    (terminal : Option ClassifiedError) (b : Books) :
    ∃ n, (x.settled.IsQuiet → n.IsQuiet) ∧
      ((w.poll who x terminal b = (.finished, { x with settled := n }, b) ∧
          (x.phase.isTerminal = true ∨ ¬ x.settled.IsQuiet)) ∨
        (terminal = none ∧
          w.poll who x terminal b = (.waiting .registered, { x with settled := n }, b)) ∨
        ∃ e, terminal = some e ∧
          w.poll who x terminal b = (.finished, (({ x with settled := n }).fail e b).2)) := by
  cases w with
  | finished => simp [isLive] at hw
  | waiting s =>
    obtain ⟨n, hn, ⟨hpoll, hwhy⟩ | hpoll⟩ := s.poll_cases who x
    · exact ⟨n, hn, Or.inl ⟨by simp [poll, hpoll], hwhy⟩⟩
    · cases terminal with
      | none => exact ⟨n, hn, Or.inr (Or.inl ⟨rfl, by simp [poll, hpoll]⟩)⟩
      | some e =>
        obtain ⟨m, hm, hdrop⟩ :=
          SettledWait.registered.drop_eq who { x with settled := n }
        refine ⟨m, fun h ↦ hm (hn h), Or.inr (Or.inr ⟨e, rfl, ?_⟩)⟩
        simp only [poll, hpoll, hdrop]

end BoundedPipelining
