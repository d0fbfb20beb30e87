import HeatFeed.Members
import HeatFeed.Number.Binary64

/-!
# JSON values

Numbers written without point and exponent are integers, all others floating-point numbers, and the
two kinds stay apart: the integer one differs from the floating-point one. The two floating-point
zeros are equal.
-/

namespace HeatFeed.Json

/-- Numbers of the two kinds. -/
inductive Number where
  | integer (n : Int)
  | float (x : Binary64)
  deriving DecidableEq

/-- Values. -/
inductive Value where
  | null
  | bool (b : Bool)
  | number (n : Number)
  | string (s : String)
  | array (items : List Value)
  | object (members : List (String × Value))

/-- Equality of numbers. -/
def Number.same : Number → Number → Bool
  | .integer a, .integer b => a == b
  | .float x, .float y => x.same y
  | _, _ => false

/-- The number as a floating-point number. -/
def Number.toFloat : Number → Binary64
  | .integer n => .ofInt n
  | .float x => x

namespace Value

mutual

/-- Equality of values. -/
def same : Value → Value → Bool
  | .null, .null => true
  | .bool a, .bool b => a == b
  | .number a, .number b => a.same b
  | .string a, .string b => a == b
  | .array xs, .array ys => sameItems xs ys
  | .object xs, .object ys => sameMembers xs ys
  | _, _ => false

/-- Equality of lists of values. -/
def sameItems : List Value → List Value → Bool
  | [], [] => true
  | x :: xs, y :: ys => same x y && sameItems xs ys
  | _, _ => false

/-- Equality of lists of members. -/
def sameMembers : List (String × Value) → List (String × Value) → Bool
  | [], [] => true
  | (k, x) :: xs, (l, y) :: ys => k == l && same x y && sameMembers xs ys
  | _, _ => false

end

mutual

/-- How many brackets are open at the deepest place. -/
def depth : Value → Nat
  | .array items => itemsDepth items + 1
  | .object members => membersDepth members + 1
  | _ => 0

/-- The greatest depth of a list of values. -/
def itemsDepth : List Value → Nat
  | [] => 0
  | x :: xs => max (depth x) (itemsDepth xs)

/-- The greatest depth of a list of members. -/
def membersDepth : List (String × Value) → Nat
  | [] => 0
  | (_, x) :: xs => max (depth x) (membersDepth xs)

end

/-- The text of a string. -/
def string? : Value → Option String
  | .string s => some s
  | _ => none

/-- The number of a number. -/
def float? : Value → Option Binary64
  | .number n => some n.toFloat
  | _ => none

/-- The value of a member. -/
def member? (v : Value) (key : String) : Option Value :=
  match v with
  | .object members => Members.get? key members
  | _ => none

/-- An object with these members; later values win. -/
def ofMembers (pairs : List (String × Value)) : Value := .object (Members.ofList pairs)

/-- A value, or null. -/
def ofOption {α : Type} (f : α → Value) : Option α → Value
  | none => .null
  | some a => f a

/-- A list of texts. -/
def strings (xs : List String) : Value := .array (xs.map .string)

/-- A natural number. -/
def nat (n : Nat) : Value := .number (.integer n)

end Value

end HeatFeed.Json
