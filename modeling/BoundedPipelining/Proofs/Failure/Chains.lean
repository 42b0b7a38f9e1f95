import BoundedPipelining.Failure.Refusal

/-!
# Errors and what is behind them

An error has a text, and it may have a source, the error behind it. Whoever reports an error goes
from source to source and writes down the texts; `Traces` says so step by step, and knows nothing of
nested errors. `chain` on the other hand is computed along the nesting.

## What carries the proof

The two do not go in step. A failed operation that carries another error shows that error's text as
its own, and so does not name the error as its source but what is behind it: each round of nesting
is passed by one link, and the error that is carried never stands in the chain itself. What an
operation shows and what is behind it is therefore what the error that it carries shows and has
behind it (`Traces.congr`), and this is how the texts of the one become those of the other, with one
mark less in front.
-/

namespace BoundedPipelining

/-! ## Links of a chain -/

/-- A failed operation, as it stands inside of the transport error that reports it. -/
inductive FailedOperation where
  | bare (kind : IoKind)
  | text (kind : IoKind) (text : String)
  | over (kind : IoKind) (inner : TransportError)

/-- What an operation says about itself; one that carries an error says what that error says. -/
def FailedOperation.message : FailedOperation → String
  | .bare kind => kind.sentence
  | .text _ saying => saying
  | .over _ inner => inner.message

/-- The failed operation that a transport error reports. -/
def TransportError.operation? : TransportError → Option FailedOperation
  | closed | protocol _ => none
  | ioBare kind => some (.bare kind)
  | ioText kind text => some (.text kind text)
  | ioOver kind inner => some (.over kind inner)

/-- An error that can stand in a chain. -/
inductive ErrorLink where
  | request (e : ConnectionError)
  | classified (e : ClassifiedError)
  | channel (c : ChannelClosed)
  | transport (e : TransportError)
  | operation (o : FailedOperation)

namespace ErrorLink

/-- The text of an error. -/
def text (connection : String) : ErrorLink → String
  | request e => e.message connection
  | classified e => e.message
  | channel c => c.message
  | transport e => e.message
  | operation o => o.message

/-- The error behind an error. A failed request passes on what it wraps, and a failed operation has
behind it what the error that it carries has behind it. -/
def source? : ErrorLink → Option ErrorLink
  | request (.limitExceeded _) => none
  | request (.closed e) | classified e => some (.channel e.channel)
  | channel c => c.cause.map transport
  | transport e => e.operation?.map operation
  | operation (.over _ inner) => inner.operation?.map operation
  | operation (.bare _) | operation (.text _ _) => none

/-- The texts from an error on, from source to source up to the one that has none. -/
inductive Traces (connection : String) : ErrorLink → List String → Prop
  | last {l : ErrorLink} (h : l.source? = none) : Traces connection l [l.text connection]
  | next {l m : ErrorLink} {texts : List String} (h : l.source? = some m)
      (hm : Traces connection m texts) : Traces connection l (l.text connection :: texts)

variable {connection : String} {l l' : ErrorLink} {texts texts' : List String}

theorem Traces.unique (h : Traces connection l texts) (h' : Traces connection l texts') :
    texts = texts' := by
  induction h generalizing texts' with
  | last hnone =>
    cases h' with
    | last _ => rfl
    | next hsome _ => cases hnone.symm.trans hsome
  | next hsome _ ih =>
    cases h' with
    | last hnone => cases hnone.symm.trans hsome
    | next hsome' hm' =>
      cases hsome.symm.trans hsome'
      rw [ih hm']

/-- Two errors with one text and one source have the same chain. -/
theorem Traces.congr (h : Traces connection l texts)
    (htext : l.text connection = l'.text connection)
    (hsource : l.source? = l'.source?) : Traces connection l' texts := by
  induction h with
  | last hnone =>
    rw [htext]
    exact .last (hsource.symm.trans hnone)
  | next hsome hm =>
    rw [htext]
    exact .next (hsource.symm.trans hsome) hm

/-- The source of an error determines its chain. -/
theorem Traces.iff_eq (h : Traces connection l texts) :
    Traces connection l texts' ↔ texts' = texts :=
  ⟨fun h' ↦ h'.unique h, fun heq ↦ heq ▸ h⟩

theorem traces_transport (e : TransportError) : Traces connection (.transport e) e.chain := by
  induction e with
  | closed | protocol _ => exact .last rfl
  | ioBare kind => exact .next (m := .operation (.bare kind)) rfl (.last rfl)
  | ioText kind text => exact .next (m := .operation (.text kind text)) rfl (.last rfl)
  | ioOver kind inner ih =>
    have hoperation : Traces connection (.operation (.over kind inner)) inner.chain :=
      ih.congr rfl rfl
    exact .next rfl hoperation

theorem traces_channel (c : ChannelClosed) : Traces connection (.channel c) c.chain := by
  obtain ⟨reason, cause⟩ := c
  cases cause with
  | none => exact .last rfl
  | some e => exact .next rfl (traces_transport e)

theorem traces_classified (e : ClassifiedError) : Traces connection (.classified e) e.chain :=
  .next rfl (traces_channel e.channel)

theorem traces_request (e : ConnectionError) :
    Traces connection (.request e) (e.chain connection) := by
  cases e with
  | limitExceeded e => exact .last rfl
  | closed e => exact (traces_classified e).congr rfl rfl

end ErrorLink

/-! ## The chain of a transport error -/

namespace TransportError

/-- A number of marks, one behind the other. -/
def ioMarks : Nat → String
  | 0 => ""
  | n + 1 => ioMark ++ ioMarks n

/-- What the innermost error says about itself, without any mark. -/
def innermost : TransportError → String
  | closed => closed.message
  | protocol text => (protocol text).message
  | ioBare kind => kind.sentence
  | ioText _ text => text
  | ioOver _ inner => inner.innermost

/-- One step further, a mark less. -/
private theorem mark_message_iff {j : Nat} {inner t : String} :
    ioMark ++ inner = ioMarks (j + 1) ++ t ↔ inner = ioMarks j ++ t := by
  rw [ioMarks, String.append_assoc, String.append_right_inj]

private theorem getElem?_chain_zero_iff {e : TransportError} {t : String} :
    e.chain[0]? = some t ↔ 0 ≤ e.layers ∧ e.message = ioMarks 0 ++ t := by
  rw [← List.head?_eq_getElem?, head?_chain, Option.some.injEq, ioMarks, String.empty_append,
    and_iff_right (Nat.zero_le _)]

/-- A failed operation that carries no error shows one mark. -/
private theorem getElem?_chain_one_iff {e : TransportError} {saying t : String}
    (hchain : e.chain = [e.message, saying]) (hmessage : e.message = ioMark ++ saying) :
    e.chain[1]? = some t ↔ 1 ≤ e.layers ∧ e.message = ioMarks 1 ++ t := by
  have hlayers : 1 = e.layers :=
    Nat.succ.inj ((congrArg List.length hchain).symm.trans e.length_chain)
  rw [hchain, hmessage, mark_message_iff, ← hlayers, and_iff_right (Nat.le_refl 1), ioMarks,
    String.empty_append, List.getElem?_cons_succ, List.getElem?_cons_zero, Option.some.injEq]

/-- The texts of a chain are the message of its error with more and more of the marks taken away. -/
theorem getElem?_chain_iff (e : TransportError) (j : Nat) (t : String) :
    e.chain[j]? = some t ↔ j ≤ e.layers ∧ e.message = ioMarks j ++ t := by
  induction e generalizing j with
  | closed | protocol _ =>
    rcases j with _ | j
    · exact getElem?_chain_zero_iff
    · simp [chain, layers]
  | ioBare kind =>
    rcases j with _ | _ | j
    · exact getElem?_chain_zero_iff
    · exact getElem?_chain_one_iff rfl rfl
    · simp [chain, layers]
  | ioText kind text =>
    rcases j with _ | _ | j
    · exact getElem?_chain_zero_iff
    · exact getElem?_chain_one_iff rfl rfl
    · simp [chain, layers]
  | ioOver kind inner ih =>
    rcases j with _ | j
    · exact getElem?_chain_zero_iff
    · have hmessage : (ioOver kind inner).message = ioMark ++ inner.message := rfl
      rw [chain, List.getElem?_cons_succ, ih, layers, hmessage, mark_message_iff,
        Nat.add_le_add_iff_right]

theorem getLast?_chain (e : TransportError) : e.chain.getLast? = some e.innermost := by
  induction e with
  | closed | protocol _ | ioBare _ | ioText _ _ => rfl
  | ioOver kind inner ih => rw [chain, List.getLast?_cons, ih, Option.getD_some, innermost]

end TransportError

/-! ## The chain of a classified error -/

/-- A classified error offers a retry, whatever happened. -/
theorem message_classify (announced : Bool) (cause : Option TransportError) :
    (classify announced cause).message =
      "connection closed: " ++ (classify announced cause).reason.tag ++ " (retryable: true)" := by
  -- The texts around the reason are evaluated apart from it.
  have hregroup (a b c d e : String) : a ++ b ++ c ++ d ++ e = a ++ b ++ (c ++ d ++ e) := by
    simp only [String.append_assoc]
  have hflag : " (retryable: " ++ toString true ++ ")" = " (retryable: true)" := by
    decide +kernel
  rw [← hflag]
  exact hregroup _ _ _ _ _

theorem detail_classify (announced : Bool) (cause : Option TransportError) :
    (classify announced cause).channel.detail =
      (classify announced cause).reason.clause ++
        (cause.elim "" fun c ↦ " (" ++ c.message ++ ")") := by
  cases cause with
  | none => exact String.append_empty.symm
  | some c =>
    rw [ChannelClosed.detail, classify_cause, classify_channel_reason]
    simp only [Option.elim, String.append_assoc]

open ErrorLink (Traces) in
/-- **The cause is kept whole.** The chain of a classification, and of a request that fails with it,
is its tagged message, then the marker and the detail, which quotes the message of the cause, and
then the chain of the cause; that is the message of the cause, and the same with one mark after the
other taken away from its front, as many as there are failed operations, down to what the innermost
error says. The reason is the same inside and outside, and the cause is the one that was given. -/
theorem classify_conveys (announced : Bool) (cause : Option TransportError) (connection : String) :
    let e := classify announced cause
    (∀ texts, (Traces connection (.classified e) texts ↔ texts = e.chain) ∧
      (Traces connection (.request (.closed e)) texts ↔ texts = e.chain)) ∧
    e.chain =
      ("connection closed: " ++ e.reason.tag ++ " (retryable: true)") ::
      (e.reason.marker ++ ": " ++ e.channel.detail) :: cause.elim [] TransportError.chain ∧
    e.channel.detail = e.reason.clause ++ (cause.elim "" fun c ↦ " (" ++ c.message ++ ")") ∧
    (∀ c ∈ cause, (∀ texts, Traces connection (.transport c) texts ↔ texts = c.chain) ∧
      c.chain.length = c.layers + 1 ∧
      (∀ j t, c.chain[j]? = some t ↔ j ≤ c.layers ∧ c.message = TransportError.ioMarks j ++ t) ∧
      c.chain.getLast? = some c.innermost) ∧
    e.channel.reason = e.reason ∧ (e.reason = .gracefulCloseInterrupted ↔ announced = true) ∧
    e.channel.cause = cause := by
  intro e
  have hrequest : Traces connection (.request (.closed e)) e.chain :=
    ErrorLink.traces_request (.closed e)
  refine ⟨fun texts ↦ ⟨(ErrorLink.traces_classified e).iff_eq, hrequest.iff_eq⟩, ?_,
    detail_classify announced cause, ?_, classify_channel_reason announced cause,
    classify_reason_eq_graceful_iff, classify_cause announced cause⟩
  · rw [← message_classify announced cause, ClassifiedError.chain, ChannelClosed.chain]
    cases cause <;> rfl
  · intro c _
    exact ⟨fun texts ↦ (ErrorLink.traces_transport c).iff_eq, c.length_chain, c.getElem?_chain_iff,
      c.getLast?_chain⟩

/-- Two rounds of nesting are two links, and the error in the middle is never a link itself. -/
example : (classify true (some (.ioOver .other (.ioText .timedOut "no answer")))).chain =
    ["connection closed: graceful peer close, request interrupted (retryable: true)",
      "PROTOCOL_CLOSING_INBOUND: channel closed after the peer signalled a graceful close "
        ++ "(I/O error: I/O error: no answer)",
      "I/O error: I/O error: no answer", "I/O error: no answer", "no answer"] := by
  decide +kernel

end BoundedPipelining
