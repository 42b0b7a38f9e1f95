import BoundedPipelining.Failure.Classified

/-!
# What a caller of a connection can be told

A request fails in one of two ways: the connection already carries as many exchanges as it may,
or it closed, or is closing, under the request. Only the second may be retried elsewhere, and
only the first names the connection in its text; the connection's name is passed in, because the
error itself holds the number alone.
-/

namespace BoundedPipelining

/-- Admission was refused: the connection already carries `max` exchanges. -/
structure LimitExceeded where
  max : Nat
  deriving DecidableEq

/-- The refusal's text on the connection called `connection`. -/
def LimitExceeded.message (e : LimitExceeded) (connection : String) : String :=
  "max pipelined requests exceeded: " ++ toString e.max ++ " already in flight on " ++ connection

/-- Everything a request can fail with. -/
inductive ConnectionError where
  | limitExceeded (refusal : LimitExceeded)
  | closed (error : ClassifiedError)
  deriving DecidableEq

/-- The coarse kinds of request failures. -/
inductive ErrorKind where
  | limitExceeded
  | gracefulCloseInterrupted
  | abruptChannelClosed
  deriving DecidableEq

/-- The name of a kind. -/
def ErrorKind.name : ErrorKind → String
  | limitExceeded => "LimitExceeded"
  | gracefulCloseInterrupted => "GracefulCloseInterrupted"
  | abruptChannelClosed => "AbruptChannelClosed"

namespace ConnectionError

/-- The kind of a failure: that of its reason if the connection closed. -/
def kind : ConnectionError → ErrorKind
  | limitExceeded _ => .limitExceeded
  | closed e =>
    match e.reason with
    | .gracefulCloseInterrupted => .gracefulCloseInterrupted
    | .abruptChannelClosed => .abruptChannelClosed

/-- Whether the request may be retried on another connection. -/
def isRetryable : ConnectionError → Bool
  | limitExceeded _ => false
  | closed e => e.retryable

/-- The classified error inside, if the connection closed. -/
def classified? : ConnectionError → Option ClassifiedError
  | limitExceeded _ => none
  | closed e => some e

/-- The text of a failure, which is the text of what it wraps. -/
def message (connection : String) : ConnectionError → String
  | limitExceeded e => e.message connection
  | closed e => e.message

/-- The chain of a failure, which is the chain of what it wraps. -/
def chain (connection : String) : ConnectionError → List String
  | limitExceeded e => [e.message connection]
  | closed e => e.chain

end ConnectionError

end BoundedPipelining
