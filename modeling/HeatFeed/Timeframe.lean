/-!
# Timeframes

Charting intervals and their canonical order. A feed names intervals by code; a code that no
interval has is kept, but weighs more than every known one. Sorting is stable, so unknown codes
stay in the order in which they came, behind all known ones.
-/

namespace HeatFeed

/-- Charting intervals, in canonical order. -/
inductive Timeframe where
  | m1 | m5 | m15 | m30 | h1 | h4 | d1 | w1 | mn
  deriving DecidableEq, Ord

namespace Timeframe

/-- All intervals, shortest first. -/
def all : List Timeframe := [.m1, .m5, .m15, .m30, .h1, .h4, .d1, .w1, .mn]

/-- Length of the interval in minutes. A month counts as thirty days. -/
def minutes : Timeframe → Nat
  | .m1 => 1
  | .m5 => 5
  | .m15 => 15
  | .m30 => 30
  | .h1 => 60
  | .h4 => 240
  | .d1 => 1440
  | .w1 => 10080
  | .mn => 43200

/-- The code that the feed uses for the interval. -/
def code : Timeframe → String
  | .m1 => "M1"
  | .m5 => "M5"
  | .m15 => "M15"
  | .m30 => "M30"
  | .h1 => "H1"
  | .h4 => "H4"
  | .d1 => "D1"
  | .w1 => "W1"
  | .mn => "MN"

/-- The interval with this exact code. -/
def ofCode? (code : String) : Option Timeframe := all.find? (·.code == code)

/-- Said of a code that no interval has. -/
def unknownMessage (code : String) : String := "Unknown timeframe code: " ++ code

/-- Weight of a code that no interval has: the largest 32-bit number. -/
def unknownWeight : Nat := 4294967295

/-- Sort weight of a code: the minutes of its interval. -/
def weight (code : String) : Nat := ((ofCode? code).map minutes).getD unknownWeight

/-- Codes in canonical order; codes of equal weight keep their order. -/
def sortCodes (codes : List String) : List String :=
  codes.mergeSort fun a b => weight a ≤ weight b

end Timeframe

end HeatFeed
