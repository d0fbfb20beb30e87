import HeatFeed.Client.Answer
import HeatFeed.Log
import HeatFeed.Snapshot.Reader
import HeatFeed.Text.Blank

/-!
# Client

The client of the backend. A call is told step by step: it hands a request over, goes on with what
comes back, reports, and ends. Whoever runs it over a network keeps each request as it is handed
over, so the requests of a call stand beside its result and its reports, as many as they are.
-/

namespace HeatFeed

open Http

/-- A client of the backend at an address. -/
structure Client where
  address : String
  deriving DecidableEq

/-! ### Calls -/

/-- What a call did and what came of it: the requests that it handed over, in order, its result, and
what it reported, in order. -/
structure Exchange (α : Type) where
  attempted : List Request
  result : Except ClientError α
  log : List Event

/-- A call, from its next step on. -/
inductive Call (α : Type) where
  | done (result : Except ClientError α)
  | report (event : Event) (next : Call α)
  | send (r : Request) (next : Except Failure Response → Call α)

namespace Call

/-- Runs a call over a network in some state. -/
def run {α σ : Type} (network : Network σ) : Call α → σ → Exchange α × σ
  | .done result, s => (⟨[], result, []⟩, s)
  | .report event next, s =>
    let (e, after) := next.run network s
    ({ e with log := event :: e.log }, after)
  | .send r next, s =>
    let (outcome, s) := network r s
    let (e, after) := (next outcome).run network s
    ({ e with attempted := r :: e.attempted }, after)

/-- Runs a call over a transport. -/
def through {α : Type} (call : Call α) (transport : Transport) : Exchange α :=
  (call.run transport.network ()).1

end Call

/-- What arrived at hosts of the requests of a call. -/
def Exchange.arrivals {α : Type} (e : Exchange α) (transport : Transport) : List Arrival :=
  e.attempted.filterMap fun r =>
    match transport r, r.arrival with
    | .ok _, .ok a => some a
    | _, _ => none

/-- The path of the heatmap below the scope of the interface. -/
def heatmapPath : String := "analysis/heatmap"

/-! ### Headers -/

/-- The value under which a token is sent; it must not be shown. -/
def bearer? (token : String) : Option HeaderValue :=
  (HeaderValue.ofText? ("Bearer " ++ token)).map fun v => { v with sensitive := true }

/-- The headers that a request has by itself. -/
def defaultHeaders (token : Option String) : Except ClientError Headers :=
  let plain := Headers.set [] "content-type" ⟨"application/json", false⟩
  match token with
  | none => .ok plain
  | some t =>
    match bearer? t with
    | some v => .ok (plain.set authorizationName v)
    | none => .error (.invalidHeader authorizationName)

/-- The headers of a request: each name that the caller gives has the caller's values only. -/
def mergeHeaders (token : Option String) (overrides : Headers) : Except ClientError Headers :=
  (defaultHeaders token).map (·.override overrides)

namespace Client

/-! ### Addresses -/

/-- The URL of a resource of the interface. -/
def apiUrl (c : Client) (path : String) : String := c.address ++ "/api/" ++ path

/-- URLs with a web scheme in lower case. -/
def isAbsolute (url : String) : Bool := "http://".isPrefixOf url || "https://".isPrefixOf url

/-- The URL that is requested: absolute ones as they are, all others below the address. -/
def resolve (c : Client) (url : String) : String :=
  if isAbsolute url then url
  else Text.trimEndSlashes c.address ++ "/" ++ Text.trimStartSlashes url

/-! ### Calls of a client -/

/-- The request of an authenticated call. -/
def prepare (c : Client) (url : String) (o : RequestOptions) (token : Option String) :
    Except ClientError Request :=
  (mergeHeaders token o.headers).map fun headers => ⟨o.method, c.resolve url, headers, o.body⟩

/-- An authenticated call after its request. A response is passed on whatever its status. -/
def conclude (r : Request) : Except Failure Response → Call Response
  | .error failure => .report (.requestFailed r.url failure) (.done (.error (.network failure)))
  | .ok response =>
    if response.status = .unauthorized then .report (.unauthorized r.url) (.done (.ok response))
    else .done (.ok response)

/-- An authenticated call. -/
def request (c : Client) (url : String) (o : RequestOptions) (token : Option String) :
    Call Response :=
  match c.prepare url o token with
  | .error e => .done (.error e)
  | .ok r => .send r (conclude r)

/-- The request for a resource of the interface. -/
def getRequest (c : Client) (path : String) : Request := ⟨"GET", c.apiUrl path, [], none⟩

/-- Asks for a resource of the interface. -/
def getResource {α : Type} (c : Client) (path : String) (read : Response → Except ClientError α) :
    Call α :=
  .send (c.getRequest path) fun
    | .error failure => .done (.error (.network failure))
    | .ok response => .done (read response)

/-- What the response of a health check says. -/
def readHealth (r : Response) : Except ClientError Unit :=
  if r.status.isSuccess then .ok () else .error (.api r.status (Utf8.lossy r.body))

/-- What the response of a heatmap request says: the timeframes are put into canonical order. -/
def readHeatmap (r : Response) : Except ClientError Snapshot :=
  (r.read Snapshot.ofBytes heatmapFallback).map Snapshot.normalized

/-- Asks whether the backend is there. -/
def healthCheck (c : Client) : Call Unit := c.getResource "health_check" readHealth

/-- Fetches a snapshot. -/
def getHeatmap (c : Client) : Call Snapshot := c.getResource heatmapPath readHeatmap

end Client

end HeatFeed
