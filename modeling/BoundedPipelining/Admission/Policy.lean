/-!
# The policy of a closing connection

Once the peer announced a graceful close, a connection serves what is in flight. Whether it still
takes new requests is a choice made when the connection is set up.
-/

namespace BoundedPipelining

/-- What to do with a new request once the peer announced a graceful close. -/
inductive ClosingPolicy where
  /-- Go on admitting; new exchanges race the close. -/
  | accept
  /-- Turn new requests away unwritten. -/
  | reject
  deriving DecidableEq

end BoundedPipelining
