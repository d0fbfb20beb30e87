import HeatFeed.Http.Request
import HeatFeed.Http.Url
import HeatFeed.Text.Base64

/-!
# Transports

A transport takes a request somewhere and brings back a response, or fails. Texts that are no URL,
URLs of other schemes and URLs that cannot be sent fail before anything is sent. All else is up to
the network, on which what comes of a request may depend on the requests before it.
-/

namespace HeatFeed.Http

/-- Why a request brought no response. Where sending failed, the network gives the causes. -/
inductive Failure where
  | unreadable (fault : UrlFault)
  | foreignScheme (url : String)
  | unsendable (url : String)
  | unsent (url : String) (causes : List String)
  deriving DecidableEq

/-- The messages of the failure, the outermost first. -/
def Failure.messages : Failure → List String
  | .unreadable fault => ["builder error", fault.message]
  | .foreignScheme url => ["builder error for url (" ++ url ++ ")", "URL scheme is not allowed"]
  | .unsendable url => ["builder error for url (" ++ url ++ ")", "Parsed Url is not a valid Uri"]
  | .unsent url causes => ("error sending request for url (" ++ url ++ ")") :: causes

/-- The outermost message. -/
def Failure.message (f : Failure) : String := f.messages.headD ""

/-- Takes requests somewhere. Each is taken as if it were the only one. -/
abbrev Transport := Request → Except Failure Response

/-- Takes requests somewhere. What comes of one depends on the state of the network, and leaves
another state. -/
abbrev Network (σ : Type) := Request → σ → Except Failure Response × σ

/-- A transport is a network without a state. -/
def Transport.network (transport : Transport) : Network Unit := fun r s => (transport r, s)

/-- The URL of a request, if its text is one. -/
def Request.read (r : Request) : Except Failure Url := (Url.ofText r.url).mapError .unreadable

/-- The URL of a request, if a connection can be tried for it. -/
def Request.destination (r : Request) : Except Failure Url := do
  let u := (← r.read).withoutLogin
  if !u.isRequestable then .error (.foreignScheme u.text)
  if !u.isSendable then .error (.unsendable u.text)
  return u

/-- A network that is asked only if a connection can be tried. -/
def Network.checked {σ : Type} (network : Network σ) : Network σ := fun r s =>
  match r.destination with
  | .error failure => (.error failure, s)
  | .ok _ => network r s

/-! ### Links -/

/-- Whether hosts can be reached. Connections over a link are not encrypted. -/
inductive Link where
  | up
  | down
  deriving DecidableEq

namespace Link

/-- Why a secure URL is not connected to. -/
def insecure : List String := ["client error (Connect)", "invalid URL, scheme is not http"]

/-- Why no host is connected to while the link is down. -/
def unreachable : List String :=
  ["client error (Connect)", "tcp connect error: Network is unreachable (os error 101)"]

/-- The URL that a request reaches over a link. -/
def reach (link : Link) (r : Request) : Except Failure Url := do
  let u ← r.destination
  if u.scheme = "https" then .error (.unsent u.text insecure)
  match link with
  | .up => return u
  | .down => .error (.unsent u.text unreachable)

/-- The transport over a link to hosts that all give the same response. -/
def transport (link : Link) (response : Response) : Transport := fun r => do
  let _ ← link.reach r
  return response

end Link

/-! ### Requests under way -/

/-- A request as it arrives at a host. -/
structure Arrival where
  url : Url
  method : String
  headers : Headers
  body : List UInt8
  deriving DecidableEq

/-- Adds a header that the request has not got. -/
def Headers.default (hs : Headers) (name text : String) : Headers :=
  if hs.values name = [] then hs.set name ⟨text, false⟩ else hs

/-- The text under which a user and a password are sent. -/
def basic (user password : String) : String :=
  "Basic " ++ String.ofList (Text.Base64.encode (Utf8.bytes (user ++ ":" ++ password)))

/-- What arrives of a request. The transport adds the user and the password of the URL, the host,
what the client accepts and the length of the body, unless they are given. -/
def Request.arrival (r : Request) : Except Failure Arrival := do
  let login := (← r.read).login?
  let url ← r.destination
  let body := Utf8.bytes (r.body.getD "")
  let headers := login.elim r.headers fun (user, password) =>
    r.headers.default authorizationName (basic user password)
  let headers := (headers.default "host" url.authority).default "accept" "*/*"
  let headers :=
    if body = [] then headers else headers.default "content-length" (toString body.length)
  return { url, method := r.method, headers, body }

end HeatFeed.Http
