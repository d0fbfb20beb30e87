/-!
# Characters beyond ASCII in ASCII

A text is written in ASCII by setting its ASCII characters first and then, after a hyphen, where
each other character goes: in ascending order of their numbers, the distance from one to the next as
a number of variable length in base thirty-six, whose digits are thresholded by a bias that follows
the distances so far. `decode` reads what `encode` writes.
-/

namespace HeatFeed.Text.Punycode

/-! ### Numbers of variable length -/

/-- The digit of a value below thirty-six. -/
def digit (n : Nat) : Char := if n < 26 then Char.ofNat (97 + n) else Char.ofNat (22 + n)

/-- The value of a digit, in either case. -/
def value? (c : Char) : Option Nat :=
  if 'a' ≤ c ∧ c ≤ 'z' then some (c.toNat - 97)
  else if 'A' ≤ c ∧ c ≤ 'Z' then some (c.toNat - 65)
  else if '0' ≤ c ∧ c ≤ '9' then some (c.toNat - 22)
  else none

theorem value?_digit : ∀ n < 36, value? (digit n) = some n := by decide

/-- The value from which on the digit in a place does not end the number. -/
def threshold (bias place : Nat) : Nat := max 1 (min 26 (place - bias))

theorem threshold_bounds (bias place : Nat) :
    1 ≤ threshold bias place ∧ threshold bias place ≤ 26 := by
  rw [threshold]; omega

/-- The digits of a number, the least significant first. -/
def number (bias place n : Nat) : List Char :=
  let t := threshold bias place
  if h : n < t then [digit n]
  else digit (t + (n - t) % (36 - t)) :: number bias (place + 36) ((n - t) / (36 - t))
termination_by n
decreasing_by
  obtain ⟨h1, _⟩ := threshold_bounds bias place
  exact Nat.lt_of_le_of_lt (Nat.div_le_self _ _) (by omega)

/-- Reads a number into the sum of what precedes it, and returns the rest. -/
def readNumber (bias : Nat) : Nat → Nat → Nat → List Char → Option (Nat × List Char)
  | _, _, _, [] => none
  | place, weight, sum, c :: cs =>
    match value? c with
    | none => none
    | some d =>
      if d < threshold bias place then some (sum + d * weight, cs)
      else readNumber bias (place + 36) (weight * (36 - threshold bias place)) (sum + d * weight) cs

theorem length_readNumber {bias place weight sum n : Nat} {cs rest : List Char}
    (h : readNumber bias place weight sum cs = some (n, rest)) : rest.length < cs.length := by
  induction cs generalizing place weight sum with
  | nil => simp [readNumber] at h
  | cons c cs ih =>
    rw [readNumber] at h
    split at h
    · cases h
    · split at h
      · cases h; simp
      · exact Nat.lt_succ_of_lt (ih h)

/-! ### The bias -/

/-- Divides a distance until it is small, and counts the places. -/
def shrink (distance places : Nat) : Nat × Nat :=
  if 455 < distance then shrink (distance / 35) (places + 36) else (distance, places)
termination_by distance
decreasing_by exact Nat.div_lt_self (by omega) (by omega)

/-- The bias after a distance, the first of its kind or not, in a text that is now so long. -/
def adapt (distance length : Nat) (isFirst : Bool) : Nat :=
  let scaled := if isFirst then distance / 700 else distance / 2
  let (small, places) := shrink (scaled + scaled / length) 0
  places + 36 * small / (small + 38)

/-- The bias before the first distance. -/
def firstBias : Nat := 72

/-- The first number beyond ASCII. -/
def firstNumber : Nat := 128

/-! ### Writing -/

/-- Writing in progress: what is written, the distance that is being counted, the bias, and how many
characters have their place. -/
structure Writing where
  written : List Char
  distance : Nat
  bias : Nat
  placed : Nat

/-- Passes one character of the text while characters with number `n` get their place. -/
def Writing.pass (basic n : Nat) (w : Writing) (c : Char) : Writing :=
  if c.toNat < n then { w with distance := w.distance + 1 }
  else if c.toNat = n then
    ⟨w.written ++ number w.bias 36 w.distance, 0,
      adapt w.distance (w.placed + 1) (w.placed == basic), w.placed + 1⟩
  else w

/-- Gives all characters with each of the numbers their place. -/
def Writing.run (cs : List Char) (basic : Nat) : Nat → List Nat → Writing → Writing
  | _, [], w => w
  | last, n :: numbers, w =>
    let w := { w with distance := w.distance + (n - last) * (w.placed + 1) }
    let w := cs.foldl (Writing.pass basic n) w
    Writing.run cs basic (n + 1) numbers { w with distance := w.distance + 1 }

/-- The numbers of the characters beyond ASCII, ascending and each once. -/
def numbers (cs : List Char) : List Nat :=
  (((cs.map Char.toNat).filter (firstNumber ≤ ·)).mergeSort).eraseDups

/-- A text in ASCII. -/
def encode (cs : List Char) : List Char :=
  let basic := cs.filter (·.toNat < firstNumber)
  let start : Writing := ⟨[], 0, firstBias, basic.length⟩
  basic ++ (if basic = [] then [] else ['-']) ++
    (Writing.run cs basic.length firstNumber (numbers cs) start).written

/-! ### Reading -/

/-- Puts the characters that the numbers give into a text. -/
def insertAll (bias n index : Nat) (text : List Char) (cs : List Char) : Option (List Char) :=
  match cs with
  | [] => some text
  | c :: more =>
    match h : readNumber bias 36 1 index (c :: more) with
    | none => none
    | some (sum, rest) =>
      let length := text.length + 1
      let n := n + sum / length
      let place := sum % length
      if n.isValidChar then
        insertAll (adapt (sum - index) length (index == 0)) n (place + 1)
          (text.insertIdx place (Char.ofNat n)) rest
      else none
termination_by cs.length
decreasing_by exact length_readNumber h

/-- What stands before the last hyphen and what stands behind it. A hyphen at the start divides
nothing. -/
def splitLastHyphen (cs : List Char) : List Char × List Char :=
  match cs.reverse.span (· ≠ '-') with
  | (rest, _ :: c :: before) => ((c :: before).reverse, rest.reverse)
  | _ => ([], cs)

/-- The text that is written in ASCII. -/
def decode (cs : List Char) : Option (List Char) :=
  let (basic, rest) := splitLastHyphen cs
  insertAll firstBias firstNumber 0 basic rest

end HeatFeed.Text.Punycode
