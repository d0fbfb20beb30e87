import HeatFeed.Json.Printer
import HeatFeed.Snapshot

/-!
# Writing snapshots

The four fields come first, the timeframes only if there are any to speak of, then all other members
in the order of their names.
-/

namespace HeatFeed.Snapshot

open Json

/-- A list of texts, as octets. -/
def writeTexts (xs : List String) : List UInt8 := writeList (xs.map StringLiteral.write)

/-- The members of the object that stands for a snapshot, each in its written form. -/
def writtenMembers (s : Snapshot) : List (List UInt8) :=
  [writeMember "symbols" (writeTexts s.symbols)] ++
    (s.timeframes.toList.map fun ts => writeMember "timeframes" (writeTexts ts)) ++
    [writeMember "cells" (writeList (Value.writeItems s.cells)),
      writeMember "timestamp" (StringLiteral.write s.timestamp)] ++
    Value.writeMembers s.extra

/-- The compact form of a snapshot, as octets. -/
def write (s : Snapshot) : List UInt8 := writeObject s.writtenMembers

/-- The compact form as a text. -/
def text (s : Snapshot) : String := Utf8.lossy s.write

end HeatFeed.Snapshot
