import HeatFeed.Json.Value
import HeatFeed.Json.StringLiteral
import HeatFeed.Number.Shortest

/-!
# Writing values

The compact form: no white space, members in the order of the object. Integers are written in
full, floating-point numbers with the fewest digits that are read back.
-/

namespace HeatFeed.Json

/-- An integer, as octets. -/
def integerText (n : Int) : List UInt8 :=
  (if n < 0 then [ascii '-'] else []) ++ Digits.ofNat n.natAbs

/-- A number, as octets. -/
def Number.write : Number → List UInt8
  | .integer n => integerText n
  | .float x => x.text

/-- Parts with commas between them. -/
def separated : List (List UInt8) → List UInt8
  | [] => []
  | [x] => x
  | x :: y :: rest => x ++ ascii ',' :: separated (y :: rest)

/-- A key, a colon and what is written for the value. -/
def writeMember (key : String) (value : List UInt8) : List UInt8 :=
  StringLiteral.write key ++ ascii ':' :: value

/-- Parts between the brackets of a list. -/
def writeList (parts : List (List UInt8)) : List UInt8 :=
  ascii '[' :: separated parts ++ [ascii ']']

/-- Parts between the brackets of an object. -/
def writeObject (parts : List (List UInt8)) : List UInt8 :=
  ascii '\x7b' :: separated parts ++ [ascii '\x7d']

namespace Value

mutual

/-- The compact form of a value, as octets. -/
def write : Value → List UInt8
  | .null => Utf8.bytes "null"
  | .bool b => Utf8.bytes (if b then "true" else "false")
  | .number n => n.write
  | .string s => StringLiteral.write s
  | .array items => writeList (writeItems items)
  | .object members => writeObject (writeMembers members)

/-- The compact forms of values. -/
def writeItems : List Value → List (List UInt8)
  | [] => []
  | x :: xs => write x :: writeItems xs

/-- The compact forms of members. -/
def writeMembers : List (String × Value) → List (List UInt8)
  | [] => []
  | (k, x) :: xs => writeMember k (write x) :: writeMembers xs

end

/-- The compact form as a text. -/
def text (v : Value) : String := Utf8.lossy v.write

end Value

end HeatFeed.Json
