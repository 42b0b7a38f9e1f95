import BoundedPipelining.Proofs.Exchange.Outcomes
import Mathlib.Data.List.Induction

/-!
# The calls made on an exchange

Four calls move an exchange, and they come from several sides: its headers arrive, its payload is
taken, drained to the end, or fails, and a close may fail it at any time. The first of them to
settle the exchange decides how it ended, and gives back the slot; whoever comes later finds it
settled. A call that comes at the wrong time is a fault, and does no harm: the exchange stays as it
is, and can be used as before.

`called_cases` says what a call can do. The run that `settles_once` is about is cut into turns: a
call on the exchange, or whatever others do with the books in the meantime.
-/

namespace BoundedPipelining

/-- An exchange holds its slot first and has settled then. -/
theorem Phase.le_of_holdsSlot {p q : Phase} (hp : p.holdsSlot = true) (hq : ¬ q.holdsSlot = true) :
    p ≤ q := by
  cases p <;> cases q <;> revert hp hq <;> decide

theorem Phase.holdsSlot_eq_true_iff {p : Phase} : p.holdsSlot = true ↔ p.isTerminal = false := by
  rw [holdsSlot, Bool.not_eq_true']

/-- In numbers, what is different in the books once an exchange has settled: one slot is free again,
one more exchange has ended in this way, and all the rest is as it was. -/
structure Books.CountsEnd (how : Settlement) (b b' : Books) : Prop where
  max : b'.limiter.max = b.limiter.max
  inFlight : b'.limiter.inFlight = b.limiter.inFlight - 1
  emptied : b'.limiter.emptied = b.limiter.emptied + if b.limiter.inFlight ≤ 1 then 1 else 0
  slots : b'.ledger.slotsInUse = b.ledger.slotsInUse - 1
  settled : ∀ how', b'.ledger.settled how' = b.ledger.settled how' + if how' = how then 1 else 0
  admitted : b'.ledger.admitted = b.ledger.admitted
  rejected : ∀ why, b'.ledger.rejected why = b.ledger.rejected why
  closed : ∀ why, b'.ledger.connectionsClosed why = b.ledger.connectionsClosed why

theorem Books.countsEnd (b : Books) (how : Settlement) :
    b.CountsEnd how (b.giveBack.mark (.settled how)) where
  max := b.limiter.max_giveBack
  inFlight := b.limiter.inFlight_giveBack
  emptied := by
    simp only [Books.mark, Books.giveBack, Limiter.giveBack]
    split <;> rfl
  slots := by simp [Books.mark, Books.giveBack, Ledger.slotsInUse_mark]
  settled how' := by simp [Books.mark, Books.giveBack, Ledger.settled_mark, eq_comm]
  admitted := by simp [Books.mark, Books.giveBack, Ledger.admitted_mark]
  rejected why := by simp [Books.mark, Books.giveBack, Ledger.rejected_mark]
  closed why := by simp [Books.mark, Books.giveBack, Ledger.connectionsClosed_mark]

namespace Exchange

variable {x : Exchange} {b : Books} {e : ClassifiedError}

theorem isTerminal_eq_false_iff : x.phase.isTerminal = false ↔ x.outcome? = none := by
  rw [outcome?_eq_none_iff, Phase.holdsSlot_eq_true_iff]

/-! ## One call -/

/-- A call that may move an exchange. -/
inductive Call where
  | headersReceived
  | draining
  | complete
  | fail (e : ClassifiedError)

/-- The exchange and the books after a call. -/
def called (x : Exchange) (b : Books) : Call → Exchange × Books
  | .headersReceived => (x.headersReceived b).2
  | .draining => (x.draining, b)
  | .complete => (x.complete b).2
  | .fail e => (x.fail e b).2

/-- A call leaves the exchange as it is, moves it forward while it keeps its slot, or settles it. -/
theorem called_cases (x : Exchange) (b : Books) (c : Call) :
    x.called b c = (x, b) ∨
    (∃ p, x.phase.holdsSlot = true ∧ p.phase.holdsSlot = true ∧ x.phase ≤ p.phase ∧
      x.called b c = ({ x with progress := p }, b)) ∨
    (∃ p how, x.phase.holdsSlot = true ∧ ({ x with progress := p } : Exchange).outcome? = some how ∧
      x.called b c = ({ x with progress := p }).settle how b) := by
  cases c with
  | headersReceived =>
    rcases x.headersReceived_cases b with ⟨_, -, heq⟩ | ⟨hp, heq⟩ | ⟨-, -, _, heq⟩
    · exact Or.inl (by rw [called, heq])
    · refine Or.inr (Or.inl ⟨.headersReceived, ?_, rfl, ?_, by rw [called, heq]⟩)
      · rw [phase, hp]
        rfl
      · rw [phase, hp]
        decide
    · exact Or.inl (by rw [called, heq])
  | draining =>
    obtain ⟨_, progress, _, _⟩ := x
    cases progress with
    | headersReceived =>
      have hle : Phase.headersReceived ≤ Phase.payloadDraining := by decide
      exact Or.inr (Or.inl ⟨.payloadDraining, rfl, rfl, hle, rfl⟩)
    | dispatched | payloadDraining | completed | failed => exact Or.inl rfl
  | complete =>
    rcases x.complete_cases b with ⟨_, -, heq⟩ | ⟨hs, heq⟩ | ⟨-, _, heq⟩
    · exact Or.inl (by rw [called, heq])
    · exact Or.inr (Or.inr ⟨.completed, .completed, hs, rfl, by rw [called, heq]⟩)
    · exact Or.inl (by rw [called, heq])
  | fail e =>
    rcases x.fail_cases e b with ⟨_, -, heq⟩ | ⟨-, heq⟩ | ⟨hs, heq⟩
    · exact Or.inl (by rw [called, heq])
    · exact Or.inl (by rw [called, heq])
    · exact Or.inr (Or.inr ⟨.failed e, .failed, hs, rfl, by rw [called, heq]⟩)

theorem draining_eq (x : Exchange) : x.draining =
    if x.phase = .headersReceived then { x with progress := .payloadDraining } else x := by
  obtain ⟨_, progress, _, _⟩ := x
  cases progress <;> rfl

/-- Headers are out of order once they have come. -/
theorem headersReceived_eq (h : x.failure? = none) (b : Books) : x.headersReceived b =
    if .headersReceived ≤ x.phase then (.violation ⟨x.phase, .headersReceived⟩, x, b)
    else (.ok, { x with progress := .headersReceived }, b) := by
  obtain ⟨_, progress, _, _⟩ := x
  cases progress with
  | failed e => cases h
  | dispatched | headersReceived | payloadDraining | completed => rfl

/-- The end is out of order once it has come. -/
theorem complete_eq (h : x.failure? = none) (b : Books) : x.complete b =
    if .completed ≤ x.phase then (.violation ⟨x.phase, .completed⟩, x, b)
    else (.ok, ({ x with progress := .completed }).settle .completed b) := by
  obtain ⟨_, progress, _, _⟩ := x
  cases progress with
  | failed e => cases h
  | dispatched | headersReceived | payloadDraining | completed => rfl

theorem fail_of_completed (h : x.phase = .completed) (e : ClassifiedError) (b : Books) :
    x.fail e b = (e, x, b) := by
  obtain ⟨_, progress, _, _⟩ := x
  cases progress with
  | completed => rfl
  | dispatched | headersReceived | payloadDraining | failed => cases h

/-- An exchange that holds its ticket gives its slot back as it settles, and its end is counted. -/
theorem settle_snd (h : x.ticket = true) (how : Settlement) (b : Books) :
    (x.settle how b).2 = b.giveBack.mark (.settled how) := by
  rw [settle, giveBack, if_pos h]

theorem outcome?_settle (x : Exchange) (how : Settlement) (b : Books) :
    (x.settle how b).1.outcome? = x.outcome? := by
  rw [outcome?, progress_settle, outcome?]

/-- A settled exchange is not moved by a call. -/
theorem called_of_outcome? {how : Settlement} (h : x.outcome? = some how) (b : Books) (c : Call) :
    x.called b c = (x, b) := by
  have hs : ¬ x.phase.holdsSlot = true := by
    rw [← outcome?_eq_none_iff, h]
    simp
  rcases x.called_cases b c with heq | ⟨_, hs', -⟩ | ⟨_, _, hs', -⟩
  · exact heq
  · exact absurd hs' hs
  · exact absurd hs' hs

/-- A call never moves an exchange back. -/
theorem phase_le_called (x : Exchange) (b : Books) (c : Call) :
    x.phase ≤ (x.called b c).1.phase := by
  rcases x.called_cases b c with heq | ⟨p, -, -, hle, heq⟩ | ⟨p, how, hs, hp, heq⟩
  · rw [heq]
    exact Nat.le_refl _
  · rw [heq]
    exact hle
  · have hdone : ¬ (({ x with progress := p }).settle how b).1.phase.holdsSlot = true := by
      rw [← outcome?_eq_none_iff, outcome?_settle, hp]
      simp
    rw [heq]
    exact Phase.le_of_holdsSlot hs hdone

/-! ## One call after the other -/

/-- A call on an exchange, or what others do with the books in the meantime. -/
inductive Turn where
  | call (c : Call)
  | others (f : Books → Books)

/-- The exchange and the books after a turn. -/
def turn (p : Exchange × Books) : Turn → Exchange × Books
  | .call c => p.1.called p.2 c
  | .others f => (p.1, f p.2)

/-- The exchange and the books after a list of turns. -/
def turns (x : Exchange) (b : Books) (ts : List Turn) : Exchange × Books := ts.foldl turn (x, b)

/-- What others make of the books in these turns. -/
def others (b : Books) (ts : List Turn) : Books :=
  ts.foldl (fun b t ↦ match t with | .call _ => b | .others f => f b) b

theorem turns_snoc (x : Exchange) (b : Books) (ts : List Turn) (t : Turn) :
    x.turns b (ts ++ [t]) = turn (x.turns b ts) t := List.foldl_append

theorem others_append (b : Books) (ts ts' : List Turn) :
    others b (ts ++ ts') = others (others b ts) ts' := List.foldl_append

theorem phase_le_turns (x : Exchange) (b : Books) (ts : List Turn) :
    x.phase ≤ (x.turns b ts).1.phase := by
  induction ts using List.reverseRecOn with
  | nil => exact Nat.le_refl _
  | append_singleton ts t ih =>
    rw [turns_snoc]
    cases t with
    | call c => exact Nat.le_trans ih (phase_le_called _ _ c)
    | others f => exact ih

/-- An exchange that has settled stays as it is. -/
theorem turns_of_outcome? {how : Settlement} (h : x.outcome? = some how) (b : Books)
    (ts : List Turn) : (x.turns b ts).1 = x := by
  induction ts using List.reverseRecOn with
  | nil => rfl
  | append_singleton ts t ih =>
    rw [turns_snoc]
    cases t with
    | call c =>
      rw [turn, called_of_outcome? (by rw [ih, h])]
      exact ih
    | others f => exact ih

/-! ## The first to settle -/

/-- In these turns one call settled a new exchange in this way; it was the first that did, and with
it the slot went back and the end was counted, and nothing else came of it. -/
def SettledBy (id : ExchangeId) (b : Books) (ts : List Turn) (how : Settlement) (b' : Books) :
    Prop :=
  ∃ before c after, ts = before ++ .call c :: after ∧
    (({ id } : Exchange).turns b before).1.outcome? = none ∧
    (({ id } : Exchange).turns b (before ++ [.call c])).1.outcome? = some how ∧
    ∃ settled, settled = (others b before).giveBack.mark (.settled how) ∧
      (others b before).CountsEnd how settled ∧ b' = others settled after

theorem SettledBy.snoc {id : ExchangeId} {ts : List Turn} {how : Settlement} {b' : Books}
    (h : SettledBy id b ts how b') (t : Turn) :
    SettledBy id b (ts ++ [t]) how (others b' [t]) := by
  obtain ⟨before, c, after, rfl, hopen, hdone, settled, hsettled, hcounts, rfl⟩ := h
  exact ⟨before, c, after ++ [t], by simp, hopen, hdone, settled, hsettled, hcounts,
    (others_append _ _ _).symm⟩

/-- What is known of an exchange that was new, and of the books, after these turns. -/
structure Kept (id : ExchangeId) (b : Books) (ts : List Turn) (x : Exchange) (b' : Books) :
    Prop where
  ticket : x.ticket = x.phase.holdsSlot
  pending : x.outcome? = none → b' = others b ts
  settled : ∀ how, x.outcome? = some how → SettledBy id b ts how b'

private theorem Kept.call {id : ExchangeId} {ts : List Turn} {b' : Books} (h : Kept id b ts x b')
    (hx : (({ id } : Exchange).turns b ts) = (x, b')) (c : Call) :
    Kept id b (ts ++ [.call c]) (x.called b' c).1 (x.called b' c).2 := by
  have hothers : others b (ts ++ [.call c]) = others b ts := others_append b ts [.call c]
  rcases x.called_cases b' c with heq | ⟨p, hs, hp, -, heq⟩ | ⟨p, how, hs, hp, heq⟩
  · rw [heq]
    exact ⟨h.ticket, fun ho ↦ hothers ▸ h.pending ho, fun how ho ↦ (h.settled how ho).snoc _⟩
  · have hopen : x.outcome? = none := outcome?_eq_none_iff.mpr hs
    have hopen' : ({ x with progress := p } : Exchange).outcome? = none :=
      outcome?_eq_none_iff.mpr hp
    rw [heq]
    refine ⟨?_, fun _ ↦ hothers ▸ h.pending hopen, fun how ho ↦ ?_⟩
    · exact (h.ticket.trans hs).trans hp.symm
    · rw [hopen'] at ho
      cases ho
  · have hopen : x.outcome? = none := outcome?_eq_none_iff.mpr hs
    have hdone : (({ x with progress := p }).settle how b').1.outcome? = some how := by
      rw [outcome?_settle, hp]
    have hticket : ({ x with progress := p } : Exchange).ticket = true := h.ticket.trans hs
    rw [heq]
    refine ⟨?_, fun ho ↦ ?_, fun how' ho ↦ ?_⟩
    · rw [ticket_settle, eq_comm, ← Bool.not_eq_true, ← outcome?_eq_none_iff, hdone]
      simp
    · rw [hdone] at ho
      cases ho
    · rw [hdone] at ho
      cases ho
      refine ⟨ts, c, [], rfl, by rw [hx]; exact hopen, ?_, _, rfl, Books.countsEnd _ how, ?_⟩
      · rw [turns_snoc, hx, turn, heq, hdone]
      · rw [settle_snd hticket, h.pending hopen]
        rfl

theorem kept_turns (id : ExchangeId) (b : Books) (ts : List Turn) :
    Kept id b ts (({ id } : Exchange).turns b ts).1 (({ id } : Exchange).turns b ts).2 := by
  induction ts using List.reverseRecOn with
  | nil => exact ⟨rfl, fun _ ↦ rfl, fun how ho ↦ by cases ho⟩
  | append_singleton ts t ih =>
    rw [turns_snoc]
    cases t with
    | call c => exact ih.call rfl c
    | others f =>
      refine ⟨ih.ticket, fun ho ↦ ?_, fun how ho ↦ (ih.settled how ho).snoc _⟩
      rw [others_append, ← ih.pending ho]
      rfl

/-! ## The life of an exchange -/

/-- How an exchange that was new stands after these turns, and what later calls meet. -/
structure Settling (id : ExchangeId) (b : Books) (ts : List Turn) (x : Exchange) (b' : Books) :
    Prop where
  /-- The ticket is held as long as the exchange has not settled. -/
  ticket : x.ticket = true ↔ x.phase.isTerminal = false
  /-- There is an error exactly if the exchange has failed. -/
  error : x.failure?.isSome = true ↔ x.phase = .failed
  /-- The phase only moves forward. -/
  forward : ∀ books later, x.phase ≤ (x.turns books later).1.phase
  /-- The books are as others have left them, as long as the exchange has not settled. -/
  pending : x.phase.isTerminal = false → b' = others b ts
  /-- Once it has settled, one slot went back and one outcome was counted, both with the first call
  that settled it. -/
  settled : x.phase.isTerminal = true → ∃ how, x.outcome? = some how ∧ SettledBy id b ts how b'
  /-- A failed exchange keeps its error and gives it to everybody. -/
  failed : ∀ e, x.failure? = some e → ∀ books later, (x.turns books later).1 = x ∧
    ∀ b, x.headersReceived b = (.failed e, x, b) ∧ x.complete b = (.failed e, x, b) ∧
      ∀ e', x.fail e' b = (e, x, b)
  /-- A completed exchange cannot be failed any more. -/
  completed : x.phase = .completed → ∀ e b, x.fail e b = (e, x, b)
  /-- Taking the payload matters right after the headers only. -/
  draining : x.draining =
    if x.phase = .headersReceived then { x with progress := .payloadDraining } else x
  /-- Headers come once, and not after the payload: a call at the wrong time is a fault that changes
  nothing. -/
  headers : x.failure? = none → ∀ b, x.headersReceived b =
    if .headersReceived ≤ x.phase then (.violation ⟨x.phase, .headersReceived⟩, x, b)
    else (.ok, { x with progress := .headersReceived }, b)
  /-- An exchange completes once: to complete it again is a fault that changes nothing. -/
  completes : x.failure? = none → ∀ b, x.complete b =
    if .completed ≤ x.phase then (.violation ⟨x.phase, .completed⟩, x, b)
    else (.ok, ({ x with progress := .completed }).settle .completed b)

/-- **The life of an exchange.** Whatever is called on a new exchange, in whatever order and by
whomever, rightly or wrongly: it keeps its slot until the first call that settles it, which gives
the slot back and counts how the exchange ended, and nothing that is called later changes it
again. -/
theorem settles_once (id : ExchangeId) (b : Books) (ts : List Turn) :
    Settling id b ts (({ id } : Exchange).turns b ts).1 (({ id } : Exchange).turns b ts).2 := by
  have hkept := kept_turns id b ts
  generalize (({ id } : Exchange).turns b ts).1 = x at hkept ⊢
  generalize (({ id } : Exchange).turns b ts).2 = b' at hkept ⊢
  refine {
    ticket := by rw [hkept.ticket, Phase.holdsSlot_eq_true_iff]
    error := Progress.error?_isSome_iff
    forward := fun books later ↦ phase_le_turns x books later
    pending := fun hopen ↦ hkept.pending (isTerminal_eq_false_iff.mp hopen)
    settled := fun hdone ↦ ?_
    failed := fun e he books later ↦ ⟨?_, fun b ↦ ⟨?_, ?_, fun e' ↦ fail_of_failure? he e' b⟩⟩
    completed := fun hp e b ↦ fail_of_completed hp e b
    draining := x.draining_eq
    headers := fun hf b ↦ headersReceived_eq hf b
    completes := fun hf b ↦ complete_eq hf b }
  · cases ho : x.outcome? with
    | none => simp [isTerminal_eq_false_iff.mpr ho] at hdone
    | some how => exact ⟨how, rfl, hkept.settled how ho⟩
  · have ho : x.outcome? = some .failed := by rw [outcome?, failure?_eq_some_iff.mp he]
    exact turns_of_outcome? ho books later
  · simp only [headersReceived, advance, he]
  · simp only [complete, advance, he]

/-- Headers that come too late are a fault, and the exchange fails after it as it would have before;
then it is too late to complete it. -/
example (id : ExchangeId) (b : Books) (e : ClassifiedError) :
    let x := (({ id } : Exchange).turns b
      [.call .headersReceived, .call .headersReceived, .call (.fail e)]).1
    x.progress = .failed e ∧ (x.complete b).1 = .failed e := ⟨rfl, rfl⟩

end Exchange

end BoundedPipelining
