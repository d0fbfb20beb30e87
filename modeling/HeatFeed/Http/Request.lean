import HeatFeed.Http.Header
import HeatFeed.Http.Status
import HeatFeed.Json.Printer

/-!
# Requests and responses

What the client hands to the transport and what it gets back, and the options from which callers
build a request step by step. A step with a word that is no method, header name or header value
fails.
-/

namespace HeatFeed.Http

/-- A request as handed to the transport. -/
structure Request where
  method : String
  url : String
  headers : Headers
  body : Option String
  deriving DecidableEq

/-- A response. -/
structure Response where
  status : Status
  body : List UInt8
  deriving DecidableEq

/-- A word that may not stand where it was given: a method, the name of a header, or the value of
the header with a name. -/
inductive Malformed where
  | method (word : String)
  | headerName (name : String)
  | headerValue (name : String)
  deriving DecidableEq

/-- The method or the name that is at fault. -/
def Malformed.word : Malformed → String
  | .method word | .headerName word | .headerValue word => word

/-- The name and the value of a header; the name is looked at first. -/
def checkHeader (name value : String) : Except Malformed HeaderValue :=
  if !isToken name then .error (.headerName name)
  else match HeaderValue.ofText? value with
    | some v => .ok v
    | none => .error (.headerValue name)

/-- Headers given as names and values, in order. -/
def Headers.ofPairs (pairs : List (String × String)) : Except Malformed Headers :=
  pairs.foldlM (fun hs (name, value) => do return hs.append name (← checkHeader name value)) []

/-- What the caller of a request decides. -/
structure RequestOptions where
  method : String
  headers : Headers
  body : Option String
  deriving DecidableEq

namespace RequestOptions

/-- A request that asks. -/
def get : RequestOptions := ⟨"GET", [], none⟩

/-- A request that sends a value. -/
def post (v : Json.Value) : RequestOptions := ⟨"POST", [], some v.text⟩

/-- One step in building options. -/
inductive Step where
  | get
  | post (value : Json.Value)
  | method (name : String)
  | header (name value : String)
  | append (name value : String)
  | body (text : String)

/-- Options after one more step. The first two start over. -/
def step (o : RequestOptions) : Step → Except Malformed RequestOptions
  | .get => .ok .get
  | .post v => .ok (.post v)
  | .method name => if isToken name then .ok { o with method := name } else .error (.method name)
  | .header name value => do
    let v ← checkHeader name value
    return { o with headers := o.headers.set name v }
  | .append name value => do
    let v ← checkHeader name value
    return { o with headers := o.headers.append name v }
  | .body text => .ok { o with body := some text }

/-- The options after all steps. -/
def build (steps : List Step) : Except Malformed RequestOptions := steps.foldlM step get

/-- The options after each step, up to the first that fails. -/
def trace (o : RequestOptions) : List Step → List (Except Malformed RequestOptions)
  | [] => [.ok o]
  | s :: rest =>
    match o.step s with
    | .ok next => .ok o :: trace next rest
    | .error e => [.ok o, .error e]

end RequestOptions

end HeatFeed.Http
