import HeatFeed.Json.Value
import HeatFeed.Timeframe

/-!
# Snapshots

One heatmap payload. The cells are carried as they came, and so are the members that no field is
for. Normalizing puts the timeframes into canonical order and changes nothing else.
-/

namespace HeatFeed

/-- One heatmap payload. -/
structure Snapshot where
  symbols : List String
  timeframes : Option (List String)
  cells : List Json.Value
  timestamp : String
  extra : Members Json.Value

namespace Snapshot

/-- The snapshot with its timeframes in canonical order. -/
def normalized (s : Snapshot) : Snapshot :=
  { s with timeframes := s.timeframes.map Timeframe.sortCodes }

/-- Equality of payloads. -/
def same (a b : Snapshot) : Bool :=
  a.symbols == b.symbols && a.timeframes == b.timeframes &&
    Json.Value.sameItems a.cells b.cells && a.timestamp == b.timestamp &&
    Json.Value.sameMembers a.extra b.extra

/-- The timeframes, none if the payload has no such field. -/
def timeframeCodes (s : Snapshot) : List String := s.timeframes.getD []

end Snapshot

end HeatFeed
