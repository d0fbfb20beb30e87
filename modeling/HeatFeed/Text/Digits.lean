/-!
# Decimal digits

The digits of a natural number as octets, and reading a number of bounded size from a text. A text
is read from the left, so the first thing that is wrong with it decides which error it has: a
character that is no digit, or the digit with which the number grows past the bound.
-/

namespace HeatFeed.Digits

/-- The octet of a digit below ten. -/
def octet (d : Nat) : UInt8 := UInt8.ofNat (48 + d)

/-- The digits of a number, most significant first. -/
def ofNat (n : Nat) : List UInt8 :=
  if n < 10 then [octet n] else ofNat (n / 10) ++ [octet (n % 10)]

/-- The value of an octet that is a digit. -/
def value? (b : UInt8) : Option Nat := if 48 ≤ b ∧ b ≤ 57 then some (b.toNat - 48) else none

/-- Why a text is not a number. -/
inductive ParseError where
  | empty
  | invalidDigit
  | overflow
  deriving DecidableEq

/-- The text of the error. -/
def ParseError.message : ParseError → String
  | .empty => "cannot parse integer from empty string"
  | .invalidDigit => "invalid digit found in string"
  | .overflow => "number too large to fit in target type"

/-- The value of a character that is an ASCII digit. -/
def charValue? (c : Char) : Option Nat := if '0' ≤ c ∧ c ≤ '9' then some (c.toNat - 48) else none

/-- Adds one digit to a number that stays below `bound`. -/
def push (bound : Nat) (n : Nat) (c : Char) : Except ParseError Nat :=
  match charValue? c with
  | none => .error .invalidDigit
  | some d => if n * 10 + d < bound then .ok (n * 10 + d) else .error .overflow

/-- The number below `bound` that a list of characters spells: one optional plus sign, then at least
one ASCII digit. -/
def parse (bound : Nat) : List Char → Except ParseError Nat
  | [] => .error .empty
  | '+' :: cs => if cs = [] then .error .invalidDigit else cs.foldlM (push bound) 0
  | cs => cs.foldlM (push bound) 0

/-- One more than the largest 64-bit number. -/
def bound64 : Nat := Nat.pow 2 64

/-- One more than the largest 16-bit number. -/
def bound16 : Nat := Nat.pow 2 16

end HeatFeed.Digits
