/-!
# Floating-point numbers

The finite numbers of the 64-bit binary format. The magnitudes that the format has are counted from
zero upwards, and a number is its sign and the rank of its magnitude. So every number has one
form, greater magnitudes have greater ranks, and the next magnitude has the next rank. All
magnitudes are whole multiples of `2 ^ -1074`, the smallest one above zero.

Every result is rounded once, from an exact quotient to the nearest number, ties to the even rank;
a result beyond the largest number is no number.
-/

namespace HeatFeed

/-- The integer nearest to `num / den`, of two equally near ones the even one. -/
def roundQuotient (num den : Nat) : Nat :=
  let whole := num / den
  let rest := num % den
  if 2 * rest < den ∨ (2 * rest = den ∧ whole % 2 = 0) then whole else whole + 1

/-- A quotient without a rest is not changed. -/
theorem roundQuotient_mul (n : Nat) {den : Nat} (h : 0 < den) :
    roundQuotient (n * den) den = n := by
  simp [roundQuotient, Nat.mul_div_cancel n h, h]

/-- How many magnitudes share one spacing. -/
def Binary64.binade : Nat := Nat.pow 2 52

/-- How many magnitudes the format has. -/
def Binary64.rankLimit : Nat := 2047 * binade

/-- A finite number of the 64-bit binary format. -/
structure Binary64 where
  negative : Bool
  rank : Nat
  rank_lt : rank < Binary64.rankLimit
  deriving DecidableEq

namespace Binary64

/-- How many units of `2 ^ -1074` the magnitude of a rank is. -/
def unitsOfRank (rank : Nat) : Nat :=
  if rank < binade then rank else (binade + rank % binade) * Nat.pow 2 (rank / binade - 1)

/-- The magnitude in units of `2 ^ -1074`. -/
def units (x : Binary64) : Nat := unitsOfRank x.rank

/-- How many units make one. -/
def one : Nat := Nat.pow 2 1074

/-- The rank of the magnitude nearest to `num / den`. Below `2 ^ 53` units every integer is a
magnitude; above, the spacing doubles with each power of two. -/
def nearestRank (num den : Nat) : Nat :=
  let scaled := num * one
  let doublings := Nat.log2 (scaled / den) - 52
  doublings * binade + roundQuotient scaled (den * Nat.pow 2 doublings)

/-- The number nearest to `num / den` with the given sign, if the format reaches it. -/
def ofRatio? (negative : Bool) (num den : Nat) : Option Binary64 :=
  if h : nearestRank num den < rankLimit then some ⟨negative, nearestRank num den, h⟩ else none

/-- Zero with a sign. -/
def zero (negative : Bool) : Binary64 := ⟨negative, 0, by decide⟩

/-- The largest number. -/
def largest : Binary64 := ⟨false, rankLimit - 1, by decide⟩

/-- The number nearest to a natural number, which must be in the range of the format. -/
def ofNat (n : Nat) : Binary64 := (ofRatio? false n 1).getD largest

/-- The number nearest to an integer. -/
def ofInt (n : Int) : Binary64 := { ofNat n.natAbs with negative := n < 0 }

/-- The same magnitude with a sign. -/
def withSign (negative : Bool) (x : Binary64) : Binary64 := { x with negative := negative }

/-- The rounded product, if the format reaches it. -/
def mul? (x y : Binary64) : Option Binary64 :=
  ofRatio? (x.negative != y.negative) (x.units * y.units) (one * one)

/-- The rounded quotient by a number that is not zero, if the format reaches it. -/
def div? (x y : Binary64) : Option Binary64 := ofRatio? (x.negative != y.negative) x.units y.units

/-- The number nearest to a power of ten. -/
def powerOfTen (n : Nat) : Binary64 := ofNat (Nat.pow 10 n)

/-- Both zeros. -/
def isZero (x : Binary64) : Bool := x.rank == 0

/-- Equality of values: the two zeros are equal. -/
def same (x y : Binary64) : Bool := x == y || (x.isZero && y.isZero)

/-- Above zero. -/
def isPositive (x : Binary64) : Bool := !x.negative && !x.isZero

/-- Below zero. -/
def isNegative (x : Binary64) : Bool := x.negative && !x.isZero

/-- The magnitude is at least one half. -/
def atLeastHalf (x : Binary64) : Bool := one ≤ 2 * x.units

/-! ### Two decimals -/

/-- The magnitude in whole hundredths. -/
def hundredths (x : Binary64) : Nat := roundQuotient (x.units * 100) one

/-- A number with its sign and two decimals, rounded from the exact value. The sign is also written
where the digits are all zero. -/
def signedFixed (x : Binary64) : String :=
  let h := x.hundredths
  (if x.negative then "-" else "+") ++ toString (h / 100) ++ "." ++
    String.ofList [Nat.digitChar (h % 100 / 10), Nat.digitChar (h % 10)]

/-! ### Laws -/

theorem same_refl (x : Binary64) : same x x = true := by simp [same]

theorem same_symm (x y : Binary64) : same x y = same y x := by
  rw [same, same, Bool.and_comm, Bool.beq_comm]

end Binary64

end HeatFeed
