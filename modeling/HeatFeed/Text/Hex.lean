import HeatFeed.Text.Utf8

/-!
# Hexadecimal digits

Octets that are hexadecimal digits. Digits are written in lower case and read in either.
-/

namespace HeatFeed.Hex

/-- The octet of a digit below sixteen. -/
def octet (n : Nat) : UInt8 := ascii (Nat.digitChar n)

/-- The value of an octet that is a digit. -/
def value? (b : UInt8) : Option Nat :=
  let n := b.toNat
  if 48 ≤ n ∧ n ≤ 57 then some (n - 48)
  else if 97 ≤ n ∧ n ≤ 102 then some (n - 87)
  else if 65 ≤ n ∧ n ≤ 70 then some (n - 55)
  else none

/-- The number that digits spell, the most significant first. -/
def number? (digits : List UInt8) : Option Nat :=
  digits.foldlM (fun n b => (value? b).map (n * 16 + ·)) 0

theorem value?_octet : ∀ n < 16, value? (octet n) = some n := by decide

end HeatFeed.Hex
