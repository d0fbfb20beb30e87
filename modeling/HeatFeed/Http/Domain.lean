import HeatFeed.Http.Domain.Joining
import HeatFeed.Http.Domain.Plain
import HeatFeed.Http.Domain.SpacingMark
import HeatFeed.Text.Composition
import HeatFeed.Text.Punycode

/-!
# Domain names

A domain name is a sequence of labels between full stops. For a request it is written in ASCII: its
characters are replaced by plain ones and composed, and a label with characters beyond ASCII is then
written in ASCII behind the mark `xn--`. Each label has to follow the rules for marks, for invisible
joiners and, if any part of the name is written from right to left, for the direction of its
characters. A label that comes with the mark has to be one that could have been written so.
-/

namespace HeatFeed.Http.Domain

/-! ### Characters -/

/-- ASCII characters that no host name may have. -/
def isForbidden (c : Char) : Bool := c ≤ ' ' || c == '\x7f' || "%#/:<>?@[\\]^|".toList.contains c

/-- The mark of labels that are written in ASCII. -/
def mark : List Char := "xn--".toList

/-- Whether all characters are in ASCII. -/
def isAscii (cs : List Char) : Bool := cs.all (·.toNat < 128)

/-- The joiner that keeps letters apart. -/
def nonJoiner : Char := '\u200c'

/-- The joiner that brings letters together. -/
def joiner : Char := '\u200d'

/-- Whether a character is the sign that a consonant has no vowel. -/
def isVirama (c : Char) : Bool := Text.markClass c == 9

/-! ### Labels -/

/-- Whether the first character that is not transparent satisfies `p`. -/
def leads (p : Char → Bool) (cs : List Char) : Bool :=
  ((cs.dropWhile isTransparent).head?.map p).getD false

/-- Whether each joiner stands where it has an effect. The characters before are given from their
end. -/
def joinersFit : List Char → List Char → Bool
  | _, [] => true
  | before, c :: cs =>
    (if c = nonJoiner then
        (before.head?.map isVirama).getD false ||
          (leads joinsForward before && leads joinsBackward cs)
      else if c = joiner then (before.head?.map isVirama).getD false
      else true) &&
      joinersFit (c :: before) cs

/-- Whether a label does not start with a mark and its joiners stand where they may. -/
def isLabel (cs : List Char) : Bool :=
  !(cs.head?.map isMark).getD false && joinersFit [] cs

/-- Whether characters are written from right to left, or are digits of such a script. -/
def isRightward (c : Char) : Bool := direction c = .right || direction c = .arabic

/-- The directions that may occur in a label that starts from the left. -/
def fitsLeft (d : Direction) : Bool :=
  d = .left || d = .european || d = .neutral || d = .mark

/-- The directions that may occur in a label that starts from the right. -/
def fitsRight (d : Direction) : Bool :=
  d = .right || d = .arabic || d = .european || d = .neutral || d = .mark

/-- The directions of a label, from its end, without the marks there. -/
def fromEnd (ds : List Direction) : List Direction := ds.reverse.dropWhile (· = .mark)

/-- Whether the directions in a label go together. -/
def directionsFit (ds : List Direction) : Bool :=
  match ds.head?, (fromEnd ds).head? with
  | none, _ => true
  | some .left, last => ds.all fitsLeft && (last = some .left || last = some .european)
  | some .right, last =>
    ds.all fitsRight && !(ds.contains .european && ds.contains .arabic) &&
      (last = some .right || last = some .european || last = some .arabic)
  | _, _ => false

/-! ### Names -/

/-- A label: as it is read, and as it is written in ASCII. -/
structure Label where
  read : List Char
  written : List Char

/-- The greatest number of characters of a label that can be written in ASCII. -/
def maxRead : Nat := 1000

/-- The greatest number of characters behind the mark. -/
def maxWritten : Nat := 2000

/-- A label that comes with the mark. -/
def Label.ofMarked? (cs : List Char) : Option Label := do
  let written := cs.drop mark.length
  if maxWritten < written.length then none
  let read ← Text.Punycode.decode written
  if isAscii cs && !isAscii read && read.all isPlain && Text.compose read = read then
    some ⟨read, cs⟩
  else none

/-- A label that comes without the mark. -/
def Label.ofUnmarked? (cs : List Char) : Option Label :=
  if isAscii cs then some ⟨cs, cs⟩
  else if cs.length ≤ maxRead then some ⟨cs, mark ++ Text.Punycode.encode cs⟩
  else none

/-- The label that plain characters spell. -/
def Label.ofPlain? (cs : List Char) : Option Label := do
  let label ← if mark.isPrefixOf cs then ofMarked? cs else ofUnmarked? cs
  if isLabel label.read then some label else none

/-- The labels joined by full stops. -/
def join (labels : List (List Char)) : List Char := (labels.intersperse ['.']).flatten

/-- A domain name in ASCII. -/
def toAscii? (cs : List Char) : Option (List Char) := do
  let plain := Text.compose (← cs.mapM plain?).flatten
  if plain.any isForbidden then none
  let labels ← (plain.splitOn '.').mapM Label.ofPlain?
  if labels.any (·.read.any isRightward) &&
      !labels.all (fun l => directionsFit (l.read.map direction)) then
    none
  some (join (labels.map (·.written)))

end HeatFeed.Http.Domain
