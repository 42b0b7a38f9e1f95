import BoundedPipelining.Failure.Cause

/-!
# Why a connection closed

A teardown is classified by one question: had the peer announced a graceful close before the
channel went away? `classify` answers it with a `ClassifiedError`, which keeps the raw cause, and
the texts of the error are read off its three parts. Both answers may be retried elsewhere.
-/

namespace BoundedPipelining

/-- Why a connection stopped serving exchanges. -/
inductive CloseReason where
  /-- The peer announced a graceful close before the channel went away. -/
  | gracefulCloseInterrupted
  /-- The channel went away without any announcement. -/
  | abruptChannelClosed
  deriving DecidableEq

namespace CloseReason

/-- The name of a reason. -/
def name : CloseReason → String
  | gracefulCloseInterrupted => "GracefulCloseInterrupted"
  | abruptChannelClosed => "AbruptChannelClosed"

/-- The reason in words, which is also how it is displayed. -/
def tag : CloseReason → String
  | gracefulCloseInterrupted => "graceful peer close, request interrupted"
  | abruptChannelClosed => "abrupt channel close"

/-- The marker in front of the message of a closed channel. -/
def marker : CloseReason → String
  | gracefulCloseInterrupted => "PROTOCOL_CLOSING_INBOUND"
  | abruptChannelClosed => "CHANNEL_CLOSED_INBOUND"

/-- The short label under which closes are counted. -/
def label : CloseReason → String
  | gracefulCloseInterrupted => "graceful"
  | abruptChannelClosed => "abrupt"

/-- What happened to the channel, as a clause. -/
def clause : CloseReason → String
  | gracefulCloseInterrupted => "channel closed after the peer signalled a graceful close"
  | abruptChannelClosed => "channel closed unexpectedly"

/-- The reason with a given name. -/
def ofName? (s : String) : Option CloseReason :=
  [gracefulCloseInterrupted, abruptChannelClosed].find? fun r ↦ r.name == s

end CloseReason

/-- The closed channel that every classified error wraps. -/
structure ChannelClosed where
  reason : CloseReason
  cause : Option TransportError
  deriving DecidableEq

namespace ChannelClosed

/-- The clause of the reason, followed by the cause's message in parentheses if there is one. -/
def detail (c : ChannelClosed) : String :=
  match c.cause with
  | none => c.reason.clause
  | some e => c.reason.clause ++ " (" ++ e.message ++ ")"

/-- The marker and the detail. -/
def message (c : ChannelClosed) : String :=
  c.reason.marker ++ ": " ++ c.detail

/-- The message, then the chain of the cause. -/
def chain (c : ChannelClosed) : List String :=
  c.message :: match c.cause with
    | none => []
    | some e => e.chain

/-- The structure of a closed channel, for diagnostics. -/
def structureText (c : ChannelClosed) : String :=
  "ChannelClosedError \x7b reason: " ++ c.reason.name ++ ", detail: " ++ Quoted.encode c.detail
    ++ ", cause: "
    ++ (match c.cause with
      | none => "None"
      | some e => "Some(" ++ e.structureText ++ ")")
    ++ " \x7d"

end ChannelClosed

/-- The one failure that callers of a closed connection see, tagged for retry. -/
structure ClassifiedError where
  reason : CloseReason
  retryable : Bool
  channel : ChannelClosed
  deriving DecidableEq

namespace ClassifiedError

/-- The reason and whether the request may be retried. -/
def message (e : ClassifiedError) : String :=
  "connection closed: " ++ e.reason.tag ++ " (retryable: " ++ toString e.retryable ++ ")"

/-- The message, then the chain of the closed channel. -/
def chain (e : ClassifiedError) : List String :=
  e.message :: e.channel.chain

/-- The structure of a classified error, for diagnostics. -/
def structureText (e : ClassifiedError) : String :=
  "ClassifiedError \x7b reason: " ++ e.reason.name ++ ", retryable: " ++ toString e.retryable
    ++ ", cause: " ++ e.channel.structureText ++ " \x7d"

end ClassifiedError

/-- The classification of a teardown: graceful exactly when a graceful close had been announced.
Either way the request may be retried on another connection. -/
def classify (announced : Bool) (cause : Option TransportError) : ClassifiedError :=
  let reason : CloseReason :=
    if announced then .gracefulCloseInterrupted else .abruptChannelClosed
  { reason, retryable := true, channel := { reason, cause } }

@[simp] theorem classify_cause (announced : Bool) (cause : Option TransportError) :
    (classify announced cause).channel.cause = cause := rfl

@[simp] theorem classify_channel_reason (announced : Bool) (cause : Option TransportError) :
    (classify announced cause).channel.reason = (classify announced cause).reason := rfl

@[simp] theorem classify_retryable (announced : Bool) (cause : Option TransportError) :
    (classify announced cause).retryable = true := rfl

theorem classify_reason_eq_graceful_iff {announced : Bool} {cause : Option TransportError} :
    (classify announced cause).reason = .gracefulCloseInterrupted ↔ announced = true := by
  cases announced <;> simp [classify]

end BoundedPipelining
