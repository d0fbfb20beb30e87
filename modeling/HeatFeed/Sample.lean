import HeatFeed.Json.Printer
import HeatFeed.Log

/-!
# Sample data

Snapshots as a backend would send them. The timeframes are served out of canonical order, one with a
code that no interval has. Scores depend on a generation, so that successive snapshots differ; they
are computed in 64 bits, and a generation for which that is too little has no snapshot.
-/

namespace HeatFeed.Sample

open Json

/-- The symbols, in the order in which they are served. -/
def symbols : List String := ["BTCUSD", "ETHUSD", "EURUSD", "XAUUSD", "SPX"]

/-- The timeframes, in the order in which they are served. -/
def timeframes : List String := ["D1", "M1", "H4", "TICK", "M5", "H1"]

/-- Why a score cannot be computed. -/
inductive Overflow where
  | product
  | sum
  deriving DecidableEq

/-- The text of the error. -/
def Overflow.message : Overflow → String
  | .product => "attempt to multiply with overflow"
  | .sum => "attempt to add with overflow"

/-- The number behind a score. -/
def seed (symbol timeframe generation : Nat) : Nat := symbol * 31 + timeframe * 17 + generation * 7

/-- The number behind a score, as far as it fits into 64 bits. -/
def seed? (symbol timeframe generation : Nat) : Except Overflow Nat :=
  if Nat.pow 2 64 ≤ generation * 7 then .error .product
  else if Nat.pow 2 64 ≤ seed symbol timeframe generation then .error .sum
  else .ok (seed symbol timeframe generation)

/-- The score that belongs to a seed, in hundredths. -/
def hundredths (seed : Nat) : Int := (seed % 201 : Nat) - 100

/-- The number nearest to some hundredths. -/
def score (hundredths : Int) : Binary64 :=
  (Binary64.ofRatio? (hundredths < 0) hundredths.natAbs 100).getD (.zero false)

/-- The cell of a symbol and a timeframe. -/
def cell (symbol timeframe : String × Nat) (generation : Nat) : Except Overflow Value := do
  let seed ← seed? symbol.2 timeframe.2 generation
  return .object [
    ("score", .number (.float (score (hundredths seed)))),
    ("symbol", .string symbol.1),
    ("timeframe", .string timeframe.1)]

/-- The cells of a generation, symbol by symbol. -/
def cells (generation : Nat) : Except Overflow (List Value) :=
  (symbols.zipIdx.flatMap fun s => timeframes.zipIdx.map fun t => (s, t)).mapM fun (s, t) =>
    cell s t generation

/-- The snapshot of a generation. -/
def snapshot (timestamp : String) (generation : Nat) : Except Overflow Value := do
  return .object [
    ("cells", .array (← cells generation)),
    ("symbols", .strings symbols),
    ("timeframes", .strings timeframes),
    ("timestamp", .string timestamp)]

/-! ### A data set that evolves -/

/-- The generation that was served last. -/
structure Dataset where
  generation : Nat
  deriving DecidableEq

namespace Dataset

/-- Nothing has been served. -/
def initial : Dataset := ⟨0⟩

/-- The data set after one more snapshot. -/
def next (d : Dataset) : Dataset := ⟨d.generation + 1⟩

/-- The snapshot that is served now. -/
def current (d : Dataset) (timestamp : String) : Except Overflow Value :=
  snapshot timestamp d.generation

/-- What is reported of the data set. -/
def report (d : Dataset) : List Event := [
  .dataset "📊 Mock heatmap dataset:",
  .dataset ("   Symbols: " ++ ", ".intercalate symbols),
  .dataset ("   Timeframes (as served): " ++ ", ".intercalate timeframes),
  .dataset ("   Snapshots served: " ++ toString d.generation)]

end Dataset

end HeatFeed.Sample
