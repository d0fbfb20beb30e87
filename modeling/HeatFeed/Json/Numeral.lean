import HeatFeed.Json.Error
import HeatFeed.Json.Value

/-!
# Numerals

A numeral keeps the digits that fit into 64 bits: the first digit with which they would not fit and
all later ones of the same part are dropped, and each one dropped before the point multiplies the
number by ten. A numeral with neither point nor exponent nor dropped digits is an integer, if
negative only down to `-2 ^ 63`; minus zero is a floating-point number.

A floating-point number is the nearest one to the kept digits, multiplied or divided by a power of
ten, rounded at each step.
-/

namespace HeatFeed.Json

/-- A number as it was written. -/
structure Numeral where
  negative : Bool
  significand : Nat
  exponent : Int
  /-- It has neither point nor exponent nor dropped digits. -/
  plain : Bool
  deriving DecidableEq

/-- The greatest power of ten below the largest floating-point number. -/
def greatestPower : Nat := 308

/-- The magnitude `x · 10 ^ exponent`, rounded after every step. A magnitude too small for one step
is first divided by the greatest power, as often as needed. -/
def scaleByTen (x : Binary64) (exponent : Int) : Except Error Binary64 :=
  if 0 ≤ exponent then
    if exponent ≤ greatestPower then
      match x.mul? (.powerOfTen exponent.toNat) with
      | some y => .ok y
      | none => .error .numberOutOfRange
    else if x.isZero then .ok x
    else .error .numberOutOfRange
  else if -exponent ≤ greatestPower then
    .ok ((x.div? (.powerOfTen (-exponent).toNat)).getD x)
  else if x.isZero then .ok x
  else scaleByTen ((x.div? (.powerOfTen greatestPower)).getD x) (exponent + greatestPower)
termination_by exponent.natAbs
decreasing_by simp only [greatestPower] at *; omega

namespace Numeral

/-- The number that a numeral stands for. -/
def number (n : Numeral) : Except Error Number :=
  if n.plain then
    if !n.negative then .ok (.integer n.significand)
    else if n.significand = 0 ∨ Nat.pow 2 63 < n.significand then
      .ok (.float ((Binary64.ofNat n.significand).withSign true))
    else .ok (.integer (-n.significand))
  else
    match scaleByTen (.ofNat n.significand) n.exponent with
    | .ok x => .ok (.float (x.withSign n.negative))
    | .error e => .error e

/-- Digits that fit into 64 bits, taken after those of `kept`, and how many were taken. -/
def absorb (kept : Nat) : List Nat → Nat × Nat
  | [] => (kept, 0)
  | d :: ds =>
    if kept * 10 + d < Digits.bound64 then
      let (all, taken) := absorb (kept * 10 + d) ds
      (all, taken + 1)
    else (kept, 0)

/-- The digits at the start of a text, and the rest. -/
def spanDigits : List UInt8 → List Nat × List UInt8
  | [] => ([], [])
  | b :: bs =>
    match Digits.value? b with
    | none => ([], b :: bs)
    | some d => (d :: (spanDigits bs).1, (spanDigits bs).2)

/-- Digits of which there has to be at least one. -/
def someDigits (bs : List UInt8) : Except Error (List Nat × List UInt8) :=
  match spanDigits bs with
  | ([], []) => .error .endInValue
  | ([], _ :: _) => .error .invalidNumber
  | found => .ok found

/-- The digits before the point: a zero stands alone. -/
def wholeDigits (bs : List UInt8) : Except Error (List Nat × List UInt8) :=
  match someDigits bs with
  | .ok (0 :: _ :: _, _) => .error .invalidNumber
  | found => found

/-- The sign of an exponent, plus if none is written. -/
def exponentSign : List UInt8 → Bool × List UInt8
  | b :: bs => if b = ascii '-' then (true, bs) else (false, if b = ascii '+' then bs else b :: bs)
  | [] => (false, [])

/-- Reads an exponent, if one follows. -/
def readExponent (n : Numeral) : List UInt8 → Except Error (Numeral × List UInt8)
  | b :: bs =>
    if b = ascii 'e' ∨ b = ascii 'E' then
      let (negative, bs) := exponentSign bs
      match someDigits bs with
      | .error e => .error e
      | .ok (ds, rest) =>
        let size : Int := (ds.foldl (· * 10 + ·) 0 : Nat)
        .ok ({ n with exponent := n.exponent + (if negative then -size else size), plain := false },
          rest)
    else .ok (n, b :: bs)
  | [] => .ok (n, [])

/-- Reads the point and the digits behind it, if they follow. -/
def readFraction (n : Numeral) : List UInt8 → Except Error (Numeral × List UInt8)
  | b :: bs =>
    if b = ascii '.' then
      match someDigits bs with
      | .error e => .error e
      | .ok (ds, rest) =>
        let (significand, taken) := absorb n.significand ds
        .ok ({ n with significand, exponent := n.exponent - taken, plain := false }, rest)
    else .ok (n, b :: bs)
  | [] => .ok (n, [])

/-- Reads what follows the sign. -/
def readUnsigned (negative : Bool) (bs : List UInt8) : Except Error (Numeral × List UInt8) := do
  let (ds, rest) ← wholeDigits bs
  let (significand, taken) := absorb 0 ds
  let dropped := ds.length - taken
  let (n, rest) ← readFraction ⟨negative, significand, dropped, dropped == 0⟩ rest
  readExponent n rest

/-- Reads a numeral, which starts with a sign or a digit. -/
def read : List UInt8 → Except Error (Numeral × List UInt8)
  | b :: bs => if b = ascii '-' then readUnsigned true bs else readUnsigned false (b :: bs)
  | [] => .error .endInValue

end Numeral

end HeatFeed.Json
