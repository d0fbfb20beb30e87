import HeatFeed.Text.Composition.MarkClass
import HeatFeed.Text.Composition.Pairs

/-!
# Canonical composition

A letter with marks can be written in several ways that mean the same. `compose` brings a text into
the shortest of them: letters are taken apart, the marks after each are put into the order of their
classes, and each mark that can be is joined to its letter again. It covers the characters that a
domain name may have.
-/

namespace HeatFeed.Text

/-! ### Syllables -/

/-- The first syllable of the Hangul script. -/
def syllableBase : Nat := 0xAC00

/-- The first letter that a syllable can start with. -/
def leadBase : Nat := 0x1100

/-- The first letter that can follow it. -/
def middleBase : Nat := 0x1161

/-- The number before that of the first letter that can close a syllable. -/
def closingBase : Nat := 0x11A7

/-- The letters of a syllable, if the number is that of one. -/
def syllableLetters? (n : Nat) : Option (List Nat) :=
  if syllableBase ≤ n ∧ n < syllableBase + 11172 then
    let k := n - syllableBase
    some ([leadBase + k / 588, middleBase + k % 588 / 28] ++
      if k % 28 = 0 then [] else [closingBase + k % 28])
  else none

/-- The syllable of a leading and a middle letter, or of an open syllable and a closing letter. -/
def syllable? (a b : Nat) : Option Nat :=
  if leadBase ≤ a ∧ a < leadBase + 19 ∧ middleBase ≤ b ∧ b < middleBase + 21 then
    some (syllableBase + ((a - leadBase) * 21 + (b - middleBase)) * 28)
  else if syllableBase ≤ a ∧ a < syllableBase + 11172 ∧ (a - syllableBase) % 28 = 0 ∧
      closingBase < b ∧ b < closingBase + 28 then
    some (a + (b - closingBase))
  else none

/-! ### Taking apart -/

/-- The two characters of which one is composed. -/
def parts? (n : Nat) : Option (Nat × Nat) :=
  ((composedLow ++ composedHigh).find? (·.1 = n)).map (·.2)

/-- Takes the first part of a character apart, and that one's first part, up to a depth. -/
def takeApart : Nat → Nat → List Nat
  | 0, n => [n]
  | depth + 1, n =>
    match parts? n with
    | none => [n]
    | some (first, second) => takeApart depth first ++ [second]

/-- No character is composed of more than four others. -/
def depth : Nat := 3

/-- The characters of which a text consists. -/
def decompose (cs : List Char) : List Char :=
  cs.flatMap fun c =>
    ((syllableLetters? c.toNat).getD (takeApart depth c.toNat)).map Char.ofNat

/-! ### Order -/

/-- Puts a character behind those of a text, which is given from its end. A mark moves before marks
of higher classes. -/
def place (c : Char) : List Char → List Char
  | [] => [c]
  | d :: before =>
    if 0 < markClass c ∧ markClass c < markClass d then d :: place c before else c :: d :: before

/-- The text with its marks in order. -/
def sortMarks (cs : List Char) : List Char := (cs.foldl (fun placed c => place c placed) []).reverse

/-! ### Joining -/

/-- The character that two others compose. -/
def joined? (a b : Char) : Option Char :=
  ((syllable? a.toNat b.toNat).orElse fun _ =>
    ((composedLow ++ composedHigh).find? (·.2 = (a.toNat, b.toNat))).map (·.1)).map Char.ofNat

/-- A text that is being joined, from its end: what is finished, the last character of class zero,
and the marks after it that could not be joined to it. -/
structure Joining where
  finished : List Char
  letter : Option Char
  marks : List Char

namespace Joining

/-- Everything, from its end. -/
def all (j : Joining) : List Char := j.marks ++ j.letter.toList ++ j.finished

/-- Whether a mark left over after the letter keeps a character from it. -/
def blocks (j : Joining) (c : Char) : Bool :=
  match j.marks with
  | [] => false
  | m :: _ => markClass c ≤ markClass m

/-- One more character. -/
def add (j : Joining) (c : Char) : Joining :=
  match j.letter.bind fun letter => if j.blocks c then none else joined? letter c with
  | some letter => { j with letter := some letter }
  | none => if markClass c = 0 then ⟨j.all, some c, []⟩ else { j with marks := c :: j.marks }

end Joining

/-- The shortest form of a text. -/
def compose (cs : List Char) : List Char :=
  ((sortMarks (decompose cs)).foldl Joining.add ⟨[], none, []⟩).all.reverse

end HeatFeed.Text
