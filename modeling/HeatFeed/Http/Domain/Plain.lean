import HeatFeed.Http.Domain.Allowed
import HeatFeed.Http.Domain.Runs
import HeatFeed.Http.Domain.Several
import HeatFeed.Http.Domain.Stretches
import HeatFeed.Text.Blank

/-!
# Plain characters

A domain name can be typed in several ways that mean the same: in capitals, with wide or styled
letters, with signs for several letters at once. `plain?` says what each character stands for. ASCII
characters stand for themselves, capitals for small letters; whether they may occur is not decided
here.
-/

namespace HeatFeed.Http.Domain

/-- What a run gives for a number. -/
def inRun? (n : Nat) : Nat × Nat × Nat × Nat × Nat → Option Nat
  | (first, count, step, image, imageStep) =>
    if first ≤ n ∧ (n - first) % step = 0 ∧ (n - first) / step < count then
      some (image + (n - first) / step * imageStep)
    else none

/-- What a stretch gives for a number. -/
def inStretch? {α : Type} (n : Nat) : Nat × List α → Option α
  | (first, images) => if first ≤ n then images[n - first]? else none

/-- The characters by which one is replaced, if it is not kept. -/
def replacement? (n : Nat) : Option (List Nat) :=
  let single := ((runsLow ++ runsHigh).findSome? (inRun? n)).orElse fun _ =>
    (stretchesLow ++ stretchesCompatible ++ stretchesHigh ++ stretchesSupplement).findSome?
      (inStretch? n)
  (single.map ([·])).orElse fun _ =>
    (severalLow ++ severalSquared ++ severalForms ++ severalHigh).findSome? (inStretch? n)

/-- The plain characters that one stands for, if it may be written at all. -/
def plain? (c : Char) : Option (List Char) :=
  if c.toNat < 128 then some [c.toLower]
  else if Text.inRanges passedOver c then some []
  else if Text.inRanges (allowedLow ++ allowedHigh) c then
    some (((replacement? c.toNat).map (·.map Char.ofNat)).getD [c])
  else none

/-- Characters that stand for themselves. -/
def isPlain (c : Char) : Bool := plain? c = some [c]

end HeatFeed.Http.Domain
