import BoundedPipelining.Connection.Step
import BoundedPipelining.Demo.Arguments
import BoundedPipelining.Lifecycle.Identity

/-!
# A demonstration run

A demonstration issues requests over a fresh connection, lets the peer answer as its scenario says,
and then awaits the responses one by one, noting what came of each. It is a sequence of moves, each
one action of the caller or the peer, between which the background tasks may be polled in any order;
a move that finds nothing ready leaves everything as it is and is made again later.
-/

namespace BoundedPipelining

/-- What a demonstration does next. -/
inductive Stage where
  /-- Issues the requests, of which some are issued. -/
  | issuing (issued : Nat)
  /-- Lets the peer act. -/
  | answering
  /-- Turns to the response of a request, or past the last of them. -/
  | turning (request : Nat)
  | awaiting (request : Nat)
  | draining (request : Nat)
  /-- Waits until nothing is in flight. -/
  | resting
  | done
  deriving DecidableEq

/-- A demonstration under way. -/
structure Demo where
  scenario : Scenario
  /-- The number of requests to issue. -/
  requests : Nat
  connection : Connection
  stage : Stage := .issuing 0
  /-- The number of requests that a graceful peer answered. -/
  answered : Nat := 0
  /-- What came of the requests so far, in order. -/
  outcomes : List String := []
  /-- The connection when all requests were issued. -/
  before : ConnectionStats := connection.stats

/-- What can happen next to a demonstration: a move of its own, or a poll of a background task. -/
inductive Demo.Event where
  | move
  | poll (t : Connection.Task)

namespace Demo

/-- How messages name the connection of a demonstration, which is the first of its process. -/
def connectionId : ConnectionId :=
  (({} : ConnectionSequence).next).1

/-- The bytes of an ASCII text. -/
def asciiBytes (s : String) : Bytes :=
  s.toList.map fun c ↦ UInt8.ofNat c.toNat

/-- The ASCII text that bytes stand for. -/
def asciiText (b : Bytes) : String :=
  String.ofList (b.map fun x ↦ Char.ofNat x.toNat)

/-- The target of a request. -/
def target (request : Nat) : String :=
  "/item/" ++ toString request

/-- The request with a number. -/
def requestOf (request : Nat) : Request :=
  { method := "GET", target := target request, body := [] }

/-- The body of the answer to a request. -/
def answerTo (r : Request) : Bytes :=
  asciiBytes ("payload for " ++ r.target)

/-- The head that announces a close. -/
def closingHead : Head :=
  { fields := [⟨"connection", asciiBytes "close"⟩] }

/-- The error of an abrupt peer. -/
def resetError : TransportError :=
  .ioText .connectionReset "connection reset by peer"

/-- What is noted of a request whose answer was read to its end. -/
def answeredWith (body : Bytes) : String :=
  "ok: " ++ asciiText body

/-- What is noted of a request whose answer failed half-way. -/
def brokenOffBy (e : ClassifiedError) : String :=
  "payload failed: " ++ e.message

/-- What is noted of a request that failed. -/
def failedWith (e : ConnectionError) : String :=
  e.kind.name ++ " (retryable: " ++ toString e.isRetryable ++ "): "
    ++ e.message connectionId.text

/-- Lets something happen to the connection. -/
def act (d : Demo) (s : Connection.Step) : Connection.Answer × Demo :=
  let (a, connection) := d.connection.step s
  (a, { d with connection })

/-- Goes on to a stage. -/
def goTo (d : Demo) (stage : Stage) : Demo :=
  { d with stage }

/-- Notes what came of a request, and turns to the next. -/
def note (d : Demo) (request : Nat) (outcome : String) : Demo :=
  { d with outcomes := d.outcomes ++ [outcome], stage := .turning (request + 1) }

/-- Issues the next request, or goes on when all are issued. -/
def issue (d : Demo) (issued : Nat) : Demo :=
  if issued < d.requests then
    ((d.act (.caller (.request (requestOf issued)))).2).goTo (.issuing (issued + 1))
  else { d with before := d.connection.stats, stage := .answering }

/-- Lets the peer take one request and answer it, or reset the channel. -/
def answer (d : Demo) : Demo :=
  match d.scenario with
  | .abrupt => ((d.act (.peer (.reset resetError))).2).goTo (.turning 0)
  | .drain =>
    match d.act (.peer .next) with
    | (.peer (.request p r), d) => (d.act (.peer (.respondWith p {} (answerTo r)))).2
    | (_, d) => d.goTo (.turning 0)
  | .graceful =>
    match d.act (.peer .next) with
    | (.peer (.request p _), d) =>
      let d := (d.act (.peer (.respondWith p closingHead (asciiBytes "last one")))).2
      { d with answered := 1, stage := .turning 0 }
    | (_, d) => d.goTo (.turning 0)

/-- Turns to the response of a request. A graceful peer closes when the last response it gave has
been dealt with. -/
def turn (d : Demo) (request : Nat) : Demo :=
  if request < d.requests then
    if d.scenario = .graceful ∧ request = d.answered then
      ((d.act (.peer .close)).2).goTo (.awaiting request)
    else d.goTo (.awaiting request)
  else d.goTo .resting

/-- One move. -/
def move (d : Demo) : Demo :=
  match d.stage with
  | .issuing issued => d.issue issued
  | .answering => d.answer
  | .turning request => d.turn request
  | .awaiting request =>
    match d.act (.caller (.await request)) with
    | (.head _, d) => d.goTo (.draining request)
    | (.failed e, d) => d.note request (failedWith e)
    | (_, d) => d
  | .draining request =>
    match d.act (.caller (.drain request)) with
    | (.drained body, d) => d.note request (answeredWith body)
    | (.bodyFailed e, d) => d.note request (brokenOffBy e)
    | (_, d) => d
  | .resting =>
    match d.act (.caller .waitIdle) with
    | (.idle true, d) => d.goTo .done
    | (_, d) => d
  | .done => d

/-- What happens to a demonstration at an event. -/
def step (d : Demo) : Event → Demo
  | .move => d.move
  | .poll t => (d.act (.poll t)).2

/-- The demonstration after a list of events. -/
def run (d : Demo) (events : List Event) : Demo :=
  events.foldl step d

/-- At most `n` moves, each after the background tasks have got as far as they can. -/
def play (d : Demo) : Nat → Demo
  | 0 => d
  | n + 1 => if d.stage = .done then d else ((d.act .settle).2.move).play n

/-- As many moves as a demonstration can need. -/
def moveCount (d : Demo) : Nat :=
  5 * d.requests + 6

/-- Plays a demonstration to its end. -/
def finish (d : Demo) : Demo :=
  d.play d.moveCount

end Demo

end BoundedPipelining
