/-!
# Numeric addresses

Hosts that are given by their number. An address of four octets may be written with fewer parts, of
which the last one takes all octets that are left, and each part in decimal, octal behind `0` or
hexadecimal behind `0x`. An address of eight words is written in hexadecimal between colons; two
colons stand for zeros, and the last two words may be written as an address of four octets. Each
address has one written form.
-/

namespace HeatFeed.Http

/-- An address of four octets, as a number. -/
structure Address4 where
  number : Nat
  deriving DecidableEq

/-- An address of eight words. -/
structure Address6 where
  words : List Nat
  deriving DecidableEq

/-! ### Numbers -/

/-- The value of a digit, in either case. -/
def digitValue? (c : Char) : Option Nat :=
  if '0' ≤ c ∧ c ≤ '9' then some (c.toNat - 48)
  else if 'a' ≤ c ∧ c ≤ 'f' then some (c.toNat - 87)
  else if 'A' ≤ c ∧ c ≤ 'F' then some (c.toNat - 55)
  else none

/-- The number that digits in a base spell; none is zero. -/
def numberIn? (base : Nat) (cs : List Char) : Option Nat :=
  cs.foldlM (fun n c => do
    let d ← digitValue? c
    if d < base then some (n * base + d) else none) 0

namespace Address4

/-- The number that one part spells. -/
def part? : List Char → Option Nat
  | [] => none
  | '0' :: 'x' :: cs | '0' :: 'X' :: cs => numberIn? 16 cs
  | '0' :: c :: cs => numberIn? 8 (c :: cs)
  | cs => numberIn? 10 cs

/-- The parts between full stops. A full stop at the end does not count. -/
def parts (cs : List Char) : List (List Char) :=
  let ps := cs.splitOn '.'
  if ps.getLast? = some [] ∧ 1 < ps.length then ps.dropLast else ps

/-- Whether a host name ends in a number, and so has to be an address. -/
def endsInNumber (cs : List Char) : Bool :=
  match (parts cs).getLast? with
  | none => false
  | some last => (last ≠ [] && last.all Char.isDigit) || (part? last).isSome

/-- The address that parts give: all but the last are octets, the last one takes what is left. -/
def ofParts? : List Nat → Option Address4
  | [] => none
  | first :: rest =>
    let ns := first :: rest
    let octets := ns.dropLast
    let last := ns.getLast (by simp [ns])
    if ns.length ≤ 4 ∧ octets.all (· < 256) ∧ last < Nat.pow 256 (5 - ns.length) then
      some ⟨(octets.foldl (fun n o => n * 256 + o) 0) * Nat.pow 256 (5 - ns.length) + last⟩
    else none

/-- The address that a host name spells. -/
def ofChars? (cs : List Char) : Option Address4 := do ofParts? (← (parts cs).mapM part?)

/-- The four octets. -/
def octets (a : Address4) : List Nat :=
  [a.number / 16777216, a.number / 65536 % 256, a.number / 256 % 256, a.number % 256]

/-- The written form. -/
def text (a : Address4) : String := ".".intercalate (a.octets.map toString)

end Address4

namespace Address6

/-- An octet in decimal, without zeros in front. -/
def octet? (cs : List Char) : Option Nat :=
  match cs with
  | [] => none
  | '0' :: _ :: _ => none
  | cs => (numberIn? 10 cs).filter (· < 256)

/-- The two words that an address of four octets gives. -/
def dotted? (cs : List Char) : Option (List Nat) :=
  match (cs.splitOn '.').mapM octet? with
  | some [a, b, c, d] => some [a * 256 + b, c * 256 + d]
  | _ => none

/-- A word: up to four digits. -/
def word? (cs : List Char) : Option Nat :=
  if cs ≠ [] ∧ cs.length ≤ 4 then numberIn? 16 cs else none

/-- The words of pieces, the last of which may be an address of four octets if that is allowed. -/
def words? (dotted : Bool) : List (List Char) → Option (List Nat)
  | [] => some []
  | [last] => ((word? last).map ([·])).orElse fun _ => if dotted then dotted? last else none
  | piece :: rest => do
    let word ← word? piece
    return word :: (← words? dotted rest)

/-- The words that are written between colons; nothing is none. -/
def group? (dotted : Bool) (cs : List Char) : Option (List Nat) :=
  if cs = [] then some [] else words? dotted (cs.splitOn ':')

/-- What stands before and behind the first two colons in a row. -/
def splitZeros : List Char → List Char × Option (List Char)
  | ':' :: ':' :: rest => ([], some rest)
  | c :: rest =>
    let (before, behind) := splitZeros rest
    (c :: before, behind)
  | [] => ([], none)

/-- The address that a text spells. Two colons stand for at least one zero. -/
def ofChars? (cs : List Char) : Option Address6 :=
  match splitZeros cs with
  | (all, none) => do
    let words ← group? true all
    if words.length = 8 then some ⟨words⟩ else none
  | (before, some behind) => do
    let first ← group? false before
    let last ← group? true behind
    let known := first.length + last.length
    if known < 8 then some ⟨first ++ List.replicate (8 - known) 0 ++ last⟩ else none

/-! ### Writing -/

/-- How many zeros a list starts with. -/
def zerosAt (words : List Nat) : Nat := (words.takeWhile (· = 0)).length

/-- Where the first of the longest stretches of zeros starts, and how long it is. -/
def longestZeros (words : List Nat) : Nat × Nat :=
  (List.range words.length).foldl (fun best i =>
    let n := zerosAt (words.drop i)
    if best.2 < n then (i, n) else best) (0, 0)

/-- Words between colons. -/
def group (words : List Nat) : String :=
  ":".intercalate (words.map fun w => String.ofList (Nat.toDigits 16 w))

/-- The written form: the first of the longest stretches of zeros, if it has more than one, is left
out. -/
def text (a : Address6) : String :=
  let (start, length) := longestZeros a.words
  if length < 2 then group a.words
  else group (a.words.take start) ++ "::" ++ group (a.words.drop (start + length))

end Address6

end HeatFeed.Http
