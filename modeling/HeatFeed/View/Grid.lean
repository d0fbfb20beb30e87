import HeatFeed.Number.Binary64
import HeatFeed.Snapshot
import HeatFeed.View.Html

/-!
# Grid

A table of scores with a row for each symbol and a column for each timeframe, in the order of the
snapshot. Cells are free-form: the score of a place is the number of the first cell that names the
symbol and the timeframe and has one.
-/

namespace HeatFeed.View

open Json

/-- The value of one member, or of another where there is no such member. -/
def memberOr (cell : Value) (name other : String) : Option Value :=
  match cell.member? name with
  | some v => some v
  | none => cell.member? other

/-- The number of a cell, if it is one of the symbol and the timeframe. -/
def scoreOf (symbol timeframe : String) (cell : Value) : Option Binary64 :=
  if (cell.member? "symbol").bind Value.string? = some symbol ∧
      (memberOr cell "timeframe" "tf").bind Value.string? = some timeframe then
    (memberOr cell "score" "value").bind Value.float?
  else none

/-- The score of a place. -/
def cellScore (cells : List Value) (symbol timeframe : String) : Option Binary64 :=
  cells.findSome? (scoreOf symbol timeframe)

/-- The colours of a score. -/
def scoreClass : Option Binary64 → String
  | none => ""
  | some x =>
    if x.isPositive then
      if x.atLeastHalf then "bg-green-200 dark:bg-green-900" else "bg-green-50 dark:bg-green-950"
    else if x.isNegative then
      if x.atLeastHalf then "bg-red-200 dark:bg-red-900" else "bg-red-50 dark:bg-red-950"
    else ""

/-- What is shown of a score. -/
def scoreText : Option Binary64 → String
  | none => "-"
  | some x => x.signedFixed

/-- The class of a place: that of all places, and the colours. -/
def placeClass (score : Option Binary64) : String :=
  let colours := scoreClass score
  if colours = "" then "px-3 py-2 text-center" else "px-3 py-2 text-center " ++ colours

/-- One place of the table. -/
def place (score : Option Binary64) : Html :=
  .styled "td" (placeClass score) [.text (scoreText score)]

/-- The row of a symbol. -/
def gridRow (cells : List Value) (timeframes : List String) (symbol : String) : Html :=
  .plain "tr" (.styled "td" "px-3 py-2 font-medium" [.text symbol] ::
    timeframes.map fun timeframe => place (cellScore cells symbol timeframe))

/-- The row with the names of the columns. -/
def headerRow (timeframes : List String) : Html :=
  .plain "tr" (.styled "th" "px-3 py-2 text-left" [.text "Symbol"] ::
    timeframes.map fun timeframe => .styled "th" "px-3 py-2 text-center" [.text timeframe])

/-- The table of a snapshot, or a note if it has no rows or no columns. -/
def grid (s : Snapshot) : Html :=
  if s.symbols = [] ∨ s.timeframeCodes = [] then
    .styled "p" "text-neutral-600 dark:text-neutral-400" [.text "No heatmap data"]
  else
    .styled "table" "min-w-full text-sm border-collapse" [
      .plain "thead" [headerRow s.timeframeCodes],
      .plain "tbody" (s.symbols.map (gridRow s.cells s.timeframeCodes))]

end HeatFeed.View
