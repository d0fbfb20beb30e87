import HeatFeed.Json.Skip
import HeatFeed.Json.Printer

/-!
# Error details

The body with which the backend explains a failure: an object with a text under `detail`, which may
be null or missing. A list of that one text stands for the object too.
-/

namespace HeatFeed

/-- Why the backend could not answer. -/
structure ErrorDetail where
  detail : Option String
  deriving DecidableEq

namespace ErrorDetail

open Json Json.Reader

/-- What messages expect in place of other values. -/
def shape : String := "struct ErrorDetail"

/-- Reads the value of one member; members that are not `detail` are passed over. -/
def readField (before : Option (Option String)) (key : String) :
    Reader (Option (Option String)) := fun bs =>
  if key = "detail" then do
    let (d, rest) ← once key before (optional string) bs
    return (some d, rest)
  else do
    let rest ← Skip.value (← colon bs)
    return (before, rest)

/-- Reads the object, of which the opening bracket has been read. -/
def readObject : Reader ErrorDetail := fun bs => do
  let (d, rest) ← object readField none bs
  return (⟨d.getD none⟩, rest)

/-- Reads the list, of which the opening bracket has been read. -/
def readList : Reader ErrorDetail := fun bs => do
  match ← nextElement true bs with
  | .done _ => .error (.invalidLength 0 (shape ++ " with 1 element"))
  | .item bs =>
    let (d, rest) ← optional string bs
    return (⟨d⟩, ← endOfRecord rest)

/-- Reads an object or a list. -/
def read : Reader ErrorDetail := fun bs =>
  match skipSpace bs with
  | [] => .error .endInValue
  | b :: bs =>
    if b = ascii '[' then readList bs
    else if b = ascii '\x7b' then readObject bs
    else .error (mismatch shape b bs)

/-- The error detail that a whole text spells. -/
def ofBytes (bs : List UInt8) : Except Error ErrorDetail := whole read bs

/-- The error detail as a value. -/
def toValue (d : ErrorDetail) : Value := .object [("detail", .ofOption .string d.detail)]

end ErrorDetail

end HeatFeed
