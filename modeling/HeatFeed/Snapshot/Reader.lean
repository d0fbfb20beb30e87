import HeatFeed.Json.Reader
import HeatFeed.Snapshot

/-!
# Reading snapshots

A snapshot is read from an object. Each of its four fields may occur once, in any place, and has a
default; every other member is kept, the last one if a name is repeated.
-/

namespace HeatFeed.Snapshot

open Json Json.Reader

/-- The members read so far. -/
structure Fields where
  symbols : Option (List String)
  timeframes : Option (Option (List String))
  cells : Option (List Value)
  timestamp : Option String
  extra : Members Value

/-- No members. -/
def Fields.empty : Fields := ⟨none, none, none, none, []⟩

/-- The snapshot with defaults for the fields that are missing. -/
def Fields.snapshot (f : Fields) : Snapshot where
  symbols := f.symbols.getD []
  timeframes := f.timeframes.getD none
  cells := f.cells.getD []
  timestamp := f.timestamp.getD ""
  extra := f.extra

/-- Reads the value of one member. The object itself has opened one bracket, the list of cells opens
another. -/
def readField (f : Fields) (key : String) : Reader Fields := fun bs =>
  if key = "symbols" then do
    let (xs, rest) ← once key f.symbols (sequence string) bs
    return ({ f with symbols := some xs }, rest)
  else if key = "timeframes" then do
    let (xs, rest) ← once key f.timeframes (optional (sequence string)) bs
    return ({ f with timeframes := some xs }, rest)
  else if key = "cells" then do
    let (xs, rest) ← once key f.cells (sequence (value (levels - 2))) bs
    return ({ f with cells := some xs }, rest)
  else if key = "timestamp" then do
    let (s, rest) ← once key f.timestamp string bs
    return ({ f with timestamp := some s }, rest)
  else do
    let (ms, rest) ← insertMember (value (levels - 1)) f.extra key bs
    return ({ f with extra := ms }, rest)

/-- Reads the members of a snapshot. -/
def readFields : Reader Fields :=
  starting (ascii '\x7b') "struct HeatmapSnapshot" (object readField .empty)

/-- The snapshot that a whole text spells. -/
def ofBytes (bs : List UInt8) : Except Error Snapshot := (whole readFields bs).map Fields.snapshot

end HeatFeed.Snapshot
