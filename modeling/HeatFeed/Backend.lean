import HeatFeed.Backend.Recorded
import HeatFeed.Client

/-!
# Mock backend

A backend for tests. Heatmap requests are answered from a queue, oldest reply first, and from the
default reply once the queue is empty. The echo route answers with the request that it received,
under the status that the query asks for, if the server reads the body of the request and the query
is one for this route. Heatmap requests are recorded on arrival, and so are the echo requests that
are answered so; all other requests leave no trace.
-/

namespace HeatFeed

open Http

/-- A canned answer of the heatmap route. -/
structure Reply where
  status : Nat
  body : String
  /-- How long the answer is held back, in milliseconds. -/
  delay : Nat
  deriving DecidableEq

/-- The response that a reply gives. A status that no response may carry becomes a server error. -/
def Reply.response (r : Reply) : Response :=
  ⟨⟨if Status.isCode r.status then r.status else 500⟩, Utf8.bytes r.body⟩

/-- How a server reads the body of a request as a text. If it does not, it gives the response at
once. -/
abbrev BodyReader := Arrival → Except Response String

/-- The greatest number of octets that a body may have. -/
def maxBody : Nat := 262144

/-- Reads bodies of a bounded length as UTF-8, whatever the request says about them. -/
def BodyReader.utf8 : BodyReader := fun a =>
  if maxBody < a.body.length then .error ⟨⟨413⟩, Utf8.bytes "payload reached size limit"⟩
  else match Utf8.ofBytes? a.body with
    | some body => .ok body
    | none => .error ⟨⟨400⟩, Utf8.bytes "Can not decode body"⟩

/-- The state behind the routes. -/
structure Backend where
  queue : List Reply
  fallback : Reply
  requests : List RecordedRequest
  hits : Nat
  deriving DecidableEq

namespace Backend

/-- A backend that has seen nothing. -/
def fresh (fallback : Reply) : Backend := ⟨[], fallback, [], 0⟩

/-- Queues a reply. -/
def push (b : Backend) (r : Reply) : Backend := { b with queue := b.queue ++ [r] }

/-- Replaces the reply that is given once the queue is empty. -/
def setDefault (b : Backend) (r : Reply) : Backend := { b with fallback := r }

/-! ### Routes -/

/-- Characters that a recorded header value may have. -/
def isVisible (c : Char) : Bool := c == '\t' || (' ' ≤ c && c < '\x7f')

/-- A header value as it is recorded: empty if it is not visible ASCII. -/
def recordedValue (v : HeaderValue) : String := if v.text.toList.all isVisible then v.text else ""

/-- What is kept of a request. -/
def record (a : Arrival) (body : String) : RecordedRequest :=
  ⟨a.method, a.url.path, a.headers.map fun (name, values) => (name, values.map recordedValue), body⟩

/-- The pairs of a query. -/
def queryPairs (query : String) : List (String × String) :=
  (query.toList.splitOn '&').filter (· ≠ []) |>.map fun pair =>
    let (name, value) := Url.splitAt '=' pair
    let plain (cs : List Char) :=
      Percent.decode (String.ofList (cs.map fun c => if c = '+' then ' ' else c))
    (plain name, plain (value.getD []))

/-- The status that a query asks for; the pairs are looked at in order. -/
def queryStatus : Option Nat → List (String × String) → Except String (Option Nat)
  | found, [] => .ok found
  | found, (name, value) :: rest =>
    if name ≠ "status" then queryStatus found rest
    else if found.isSome then .error "duplicate field `status`"
    else match Digits.parse Digits.bound16 value.toList with
      | .ok n => queryStatus (some n) rest
      | .error e => .error e.message

/-- The routes. -/
inductive Route where
  | health
  | heatmap
  | echo
  | unknown
  deriving DecidableEq

/-- The route of a request. The path is compared after decoding, but an encoded slash divides
nothing. -/
def route (a : Arrival) : Route :=
  let path := Percent.decodePath a.url.path
  if path = "/api/health_check" ∧ a.method = "GET" then .health
  else if path = "/api/" ++ heatmapPath ∧ a.method = "GET" then .heatmap
  else if path = "/api/echo" then .echo
  else .unknown

/-- The reply to the next heatmap request, and the queue after it. -/
def nextReply (b : Backend) : Reply × List Reply :=
  match b.queue with
  | r :: rest => (r, rest)
  | [] => (b.fallback, [])

/-- Responses to `HEAD` and with these statuses come without a body. -/
def withoutBody (a : Arrival) (r : Response) : Response :=
  if a.method = "HEAD" ∨ r.status.code = 204 ∨ r.status.code = 304 then { r with body := [] } else r

/-- Answers a heatmap request. -/
def answerHeatmap (b : Backend) (a : Arrival) : Response × Backend :=
  let (reply, queue) := b.nextReply
  (reply.response,
    { b with queue, requests := b.requests ++ [record a ""], hits := b.hits + 1 })

/-- Answers an echo request. The body is looked at first, then the query. -/
def answerEcho (reader : BodyReader) (b : Backend) (a : Arrival) : Response × Backend :=
  match reader a, queryStatus none (queryPairs (a.url.query.getD "")) with
  | .error refusal, _ => (refusal, b)
  | .ok _, .error e => (⟨⟨400⟩, Utf8.bytes ("Query deserialize error: " ++ e)⟩, b)
  | .ok body, .ok asked =>
    let recorded := record a body
    let status := match asked with
      | some code => if Status.isCode code then code else 200
      | none => 200
    (⟨⟨status⟩, recorded.write⟩, { b with requests := b.requests ++ [recorded] })

/-- Answers a request. -/
def answer (reader : BodyReader) (b : Backend) (a : Arrival) : Response × Backend :=
  let (response, after) := match route a with
    | .health => (⟨.ok, Utf8.bytes "healthy"⟩, b)
    | .heatmap => b.answerHeatmap a
    | .echo => b.answerEcho reader a
    | .unknown => (⟨⟨404⟩, []⟩, b)
  (withoutBody a response, after)

/-! ### Calls -/

/-- A backend, how its server reads bodies, and the link over which it is reached. -/
structure Remote where
  backend : Backend
  reader : BodyReader
  link : Link

namespace Remote

/-- The network on which there is only the backend. -/
def network : Network Remote := fun r m =>
  match m.link.reach r, r.arrival with
  | .error failure, _ | _, .error failure => (.error failure, m)
  | .ok _, .ok a =>
    let (response, backend) := m.backend.answer m.reader a
    (.ok response, { m with backend })

/-- A call of a client: what comes of it, and the backend after it. -/
def call {α : Type} (m : Remote) (c : Call α) : Exchange α × Remote := c.run network m

end Remote

/-- Whether a call failed with a status. -/
def hasStatus {α : Type} (result : Except ClientError α) (code : Nat) : Bool :=
  match result with
  | .error (.api status _) => status.code == code
  | _ => false

/-- Said if fewer heatmap requests have arrived than were waited for. -/
def missingHits (expected : Nat) (b : Backend) : Option String :=
  if expected ≤ b.hits then none
  else some ("expected " ++ toString expected ++ " heatmap requests, got " ++ toString b.hits)

end Backend

end HeatFeed
