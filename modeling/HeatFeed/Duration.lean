import HeatFeed.Text.Blank

/-!
# Durations

Lengths of time in whole milliseconds, and the text in which log lines show them: `0ns`, `5ms`,
`1s`, `1.5s`. From one second on the unit is the second, with as many of the three decimals as
are needed.
-/

namespace HeatFeed

/-- A length of time in milliseconds. -/
structure Duration where
  milliseconds : Nat
  deriving DecidableEq

namespace Duration

/-- The decimals behind whole seconds: three digits, less the zeros at their end. -/
def decimals (fraction : Nat) : List Char :=
  Text.dropEndWhile (· == '0')
    ([fraction / 100, fraction / 10 % 10, fraction % 10].map Nat.digitChar)

/-- The text of a duration. -/
def text (d : Duration) : String :=
  let ms := d.milliseconds
  if ms = 0 then "0ns"
  else if ms < 1000 then toString ms ++ "ms"
  else if ms % 1000 = 0 then toString (ms / 1000) ++ "s"
  else toString (ms / 1000) ++ "." ++ String.ofList (decimals (ms % 1000)) ++ "s"

end Duration

end HeatFeed
