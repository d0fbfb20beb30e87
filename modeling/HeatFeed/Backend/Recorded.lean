import HeatFeed.Json.Skip
import HeatFeed.Json.Printer
import HeatFeed.Http.Header

/-!
# Recorded requests

What the mock backend keeps of a request. As JSON it is an object with four fields, all of them
required, or a list of the four values in order; members without a field are passed over.
-/

namespace HeatFeed

open Json Json.Reader

/-- A request that the mock backend has seen. -/
structure RecordedRequest where
  method : String
  path : String
  headers : Members (List String)
  body : String
  deriving DecidableEq

namespace RecordedRequest

/-- The first value of a header; only the name asked for is put into lower case. -/
def header (r : RecordedRequest) (name : String) : Option String :=
  (Members.get? (Http.lowerName name) r.headers).bind List.head?

/-- The members of an object with the value under each name. -/
def headerMembers (hs : Members (List String)) : List (String × Value) :=
  hs.map fun (name, values) => (name, .strings values)

/-- The request in its compact form, as octets. -/
def write (r : RecordedRequest) : List UInt8 :=
  writeObject [
    writeMember "method" (StringLiteral.write r.method),
    writeMember "path" (StringLiteral.write r.path),
    writeMember "headers" (Value.object (headerMembers r.headers)).write,
    writeMember "body" (StringLiteral.write r.body)]

/-- The compact form as a text. -/
def text (r : RecordedRequest) : String := Utf8.lossy r.write

/-! ### Reading -/

/-- What messages expect in place of other values. -/
def shape : String := "struct RecordedRequest"

/-- The members read so far. -/
structure Fields where
  method : Option String
  path : Option String
  headers : Option (Members (List String))
  body : Option String

/-- No members. -/
def Fields.empty : Fields := ⟨none, none, none, none⟩

/-- The headers: a list of texts under each name. -/
def readHeaders : Reader (Members (List String)) := map (sequence string)

/-- Reads the value of one member. -/
def readField (f : Fields) (key : String) : Reader Fields := fun bs =>
  if key = "method" then do
    let (s, rest) ← once key f.method string bs
    return ({ f with method := some s }, rest)
  else if key = "path" then do
    let (s, rest) ← once key f.path string bs
    return ({ f with path := some s }, rest)
  else if key = "headers" then do
    let (hs, rest) ← once key f.headers readHeaders bs
    return ({ f with headers := some hs }, rest)
  else if key = "body" then do
    let (s, rest) ← once key f.body string bs
    return ({ f with body := some s }, rest)
  else do
    let rest ← Skip.value (← colon bs)
    return (f, rest)

/-- A field that has to be there. -/
def required {α : Type} (name : String) : Option α → Except Error α
  | some a => .ok a
  | none => .error (.missingField name)

/-- The request, if no field is missing. -/
def Fields.request (f : Fields) : Except Error RecordedRequest := do
  return {
    method := ← required "method" f.method
    path := ← required "path" f.path
    headers := ← required "headers" f.headers
    body := ← required "body" f.body }

/-- Reads the object, of which the opening bracket has been read. -/
def readObject : Reader RecordedRequest := fun bs => do
  let (f, rest) ← object readField .empty bs
  return (← f.request, rest)

/-- Reads the value in place `index` of the list. -/
def readPlace {α : Type} (index : Nat) (item : Reader α) : Reader α := fun bs => do
  match ← nextElement (index == 0) bs with
  | .done _ => .error (.invalidLength index (shape ++ " with 4 elements"))
  | .item bs => item bs

/-- Reads the list, of which the opening bracket has been read. -/
def readList : Reader RecordedRequest := fun bs => do
  let (method, bs) ← readPlace 0 string bs
  let (path, bs) ← readPlace 1 string bs
  let (headers, bs) ← readPlace 2 readHeaders bs
  let (body, bs) ← readPlace 3 string bs
  return (⟨method, path, headers, body⟩, ← endOfRecord bs)

/-- Reads an object or a list. -/
def read : Reader RecordedRequest := fun bs =>
  match skipSpace bs with
  | [] => .error .endInValue
  | b :: bs =>
    if b = ascii '[' then readList bs
    else if b = ascii '\x7b' then readObject bs
    else .error (mismatch shape b bs)

/-- The request that a whole text spells. -/
def ofBytes (bs : List UInt8) : Except Error RecordedRequest := whole read bs

end RecordedRequest

end HeatFeed
