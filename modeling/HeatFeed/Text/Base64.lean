/-!
# Octets in base sixty-four

Three octets are written as four digits of base sixty-four. Where octets are missing at the end,
their digits are `=`, so the length of what is written is a multiple of four (`length_encode`).
-/

namespace HeatFeed.Text.Base64

/-- The digit of a value below sixty-four. -/
def digit (n : Nat) : Char :=
  if n < 26 then Char.ofNat (65 + n)
  else if n < 52 then Char.ofNat (71 + n)
  else if n < 62 then Char.ofNat (n - 4)
  else if n = 62 then '+'
  else '/'

/-- The last digits of a number, the most significant first. -/
def digits (count n : Nat) : List Char :=
  ((List.range count).map fun i => digit (n / Nat.pow 64 i % 64)).reverse

/-- Octets as digits. -/
def encode : List UInt8 → List Char
  | a :: b :: c :: rest => digits 4 ((a.toNat * 256 + b.toNat) * 256 + c.toNat) ++ encode rest
  | [a, b] => digits 3 ((a.toNat * 256 + b.toNat) * 4) ++ ['=']
  | [a] => digits 2 (a.toNat * 16) ++ ['=', '=']
  | [] => []

theorem length_digits (count n : Nat) : (digits count n).length = count := by simp [digits]

theorem length_encode (bs : List UInt8) : (encode bs).length = 4 * ((bs.length + 2) / 3) := by
  fun_induction encode bs with
  | case1 a b c rest ih => simp only [List.length_append, length_digits, List.length_cons, ih]; omega
  | case2 => simp [length_digits]
  | case3 => simp [length_digits]
  | case4 => rfl

end HeatFeed.Text.Base64
