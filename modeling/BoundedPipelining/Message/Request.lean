import BoundedPipelining.Message.Head
import BoundedPipelining.Message.Target

/-!
# Requests

A request has a method, which is a token, a target and a body.
-/

namespace BoundedPipelining

/-- A request as it travels to the peer. -/
structure Request where
  method : String
  target : String
  body : Bytes
  deriving DecidableEq

namespace Request

/-- The request of a method, a target and a body, absent if the method is no token or the target
is malformed. -/
def ofParts? (method target : String) (body : Bytes) : Option Request :=
  if isToken method then (Target.normal? target).map fun t ↦ ⟨method, t, body⟩ else none

/-- The structure of a request that waits for its answer, for diagnostics. -/
def structureText (r : Request) : String :=
  "PendingRequest \x7b method: " ++ r.method ++ ", uri: " ++ r.target ++ " \x7d"

end Request

end BoundedPipelining
