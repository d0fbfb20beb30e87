import HeatFeed.Number.Binary64
import HeatFeed.Text.Blank
import HeatFeed.Text.Digits

/-!
# Shortest decimal text

The text of a floating-point number: the fewest digits, at most seventeen, that are read back as
the number, and of several such texts the nearest. A decimal is read back as the number if it lies
between the midpoints to the two neighbours; the midpoints themselves belong to the number with the
even rank.

The point stands in its place while the decimal exponent is from -5 to 15, and then at least one
decimal is written; otherwise the exponent is written after the digits, with its sign.
-/

namespace HeatFeed.Binary64

/-- A decimal number: digits and the power of ten that they count. -/
structure Decimal where
  digits : Nat
  exponent : Int
  deriving DecidableEq

/-- The decimal as a quotient. -/
def Decimal.ratio (d : Decimal) : Nat × Nat :=
  if 0 ≤ d.exponent then (d.digits * Nat.pow 10 d.exponent.toNat, 1)
  else (d.digits, Nat.pow 10 (-d.exponent).toNat)

/-- Twice the units at the lower and at the upper midpoint. -/
def midpoints (x : Binary64) : Nat × Nat :=
  (unitsOfRank (x.rank - 1) + x.units, x.units + unitsOfRank (x.rank + 1))

/-- A decimal that is read back as the magnitude of `x`. -/
def readsBack (x : Binary64) (d : Decimal) : Bool :=
  let (num, den) := d.ratio
  let value := 2 * one * num
  let (low, high) := x.midpoints
  if x.rank % 2 = 0 then low * den ≤ value && value ≤ high * den
  else low * den < value && value < high * den

/-- The exponent of the first digit of a number above zero. The smallest magnitude is above
`10 ^ -324`, so moving the point by that much makes the number at least one. -/
def leadingExponent (x : Binary64) : Int :=
  (Digits.ofNat (x.units * Nat.pow 10 324 / one)).length - 325

/-- The magnitude counted in steps of a power of ten: the whole steps, and twice the rest against
one step. -/
def steps (x : Binary64) (exponent : Int) : Nat × Ordering :=
  let (num, den) :=
    if 0 ≤ exponent then (x.units, one * Nat.pow 10 exponent.toNat)
    else (x.units * Nat.pow 10 (-exponent).toNat, one)
  (num / den, compare (2 * (num % den)) den)

/-- The two decimals next to `x` that count a power of ten, the nearer one first. -/
def neighbours (x : Binary64) (exponent : Int) : List Decimal :=
  let (whole, rest) := x.steps exponent
  let below : Decimal := ⟨whole, exponent⟩
  let above : Decimal := ⟨whole + 1, exponent⟩
  match rest with
  | .lt => [below, above]
  | .gt => [above, below]
  | .eq => if whole % 2 = 0 then [below, above] else [above, below]

/-- The powers of ten that the last of one to seventeen digits may count, the greatest first. -/
def lastExponents (x : Binary64) : List Int :=
  let leading := x.leadingExponent
  (List.range 17).map fun (more : Nat) => leading - more

/-- The decimal that stands for a number above zero. -/
def shortest (x : Binary64) : Decimal :=
  (x.lastExponents.findSome? fun e => (x.neighbours e).find? x.readsBack).getD ⟨x.units, 0⟩

/-- The digits of a decimal without the zeros at their end, and the exponent of the first one. -/
def Decimal.scientific (d : Decimal) : List UInt8 × Int :=
  let digits := Digits.ofNat d.digits
  (Text.dropEndWhile (· == 48) digits, d.exponent + digits.length - 1)

/-- Digits with the point behind the first one, and the exponent. -/
def exponentText (digits : List UInt8) (exponent : Int) : List UInt8 :=
  digits.take 1 ++ (if digits.length ≤ 1 then [] else 46 :: digits.drop 1) ++
    [101, if exponent < 0 then 45 else 43] ++ Digits.ofNat exponent.natAbs

/-- Digits with the point in its place, and zeros where digits are missing. -/
def positionalText (digits : List UInt8) (exponent : Int) : List UInt8 :=
  if exponent < 0 then
    [48, 46] ++ List.replicate (exponent.natAbs - 1) 48 ++ digits
  else
    let wholeLength := exponent.toNat + 1
    let fraction := digits.drop wholeLength
    digits.take wholeLength ++ List.replicate (wholeLength - digits.length) 48 ++
      46 :: (if fraction = [] then [48] else fraction)

/-- The text of a number, as octets. -/
def text (x : Binary64) : List UInt8 :=
  let sign : List UInt8 := if x.negative then [45] else []
  if x.isZero then sign ++ [48, 46, 48]
  else
    let (digits, exponent) := x.shortest.scientific
    sign ++ if exponent < -5 ∨ 16 ≤ exponent then exponentText digits exponent
      else positionalText digits exponent

end HeatFeed.Binary64
