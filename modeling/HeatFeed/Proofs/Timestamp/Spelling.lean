import HeatFeed.Timestamp
import Mathlib.Tactic.Ring

/-!
# Spellings of points in time

How a point in time may be written down: with the seconds and an offset in full, as RFC 3339 has it,
or in the other forms of ISO 8601, which leave out parts or the marks between them, put a sign in
front of the year or notes behind the offset. A spelling has a text and a point in time. The numbers
in it have a fixed number of digits each, and are read back from them.
-/

namespace HeatFeed.Timestamp

/-! ### Spellings -/

/-- The digits of a number in so many places. -/
def figures : Nat → Nat → List Char
  | 0, _ => []
  | places + 1, n => Nat.digitChar (n / 10 ^ places) :: figures places (n % 10 ^ places)

/-- A character, if it is there. -/
def optional (given : Bool) (c : Char) : List Char := if given then [c] else []

/-- A year in four places, or in six behind a sign. -/
inductive Year where
  | plain (year : Nat)
  | signed (negative : Bool) (year : Nat)

/-- The mark and the digits of a fraction of a second. -/
structure Fraction where
  mark : Char
  digits : List Char

/-- Hours, and minutes and seconds as far as they are given, with colons between them or without. -/
inductive Amount where
  | hours (hours : Nat)
  | minutes (colons : Bool) (hours minutes : Nat)
  | seconds (colons : Bool) (hours minutes seconds : Nat) (fraction : Option Fraction)

/-- An offset from UTC as it is given: a letter for none, or an amount with a sign. -/
inductive Offset where
  | utc (letter : Char)
  | shifted (behind : Bool) (amount : Amount)

/-- A zone by its offset or by its names. -/
inductive Place where
  | offset (behind : Bool) (amount : Amount)
  | named (names : List (List Char))

/-- A note of a zone. -/
structure Zone where
  critical : Bool
  place : Place

/-- A note of something else. -/
structure Tag where
  key : List Char
  values : List (List Char)

/-- A point in time as it is written down. -/
structure Spelling where
  year : Year
  hyphens : Bool
  month : Nat
  day : Nat
  separator : Char
  time : Amount
  offset : Offset
  zone : Option Zone
  tags : List Tag

/-- Between words of a text there is always the same separator. -/
def joined (separator : Char) (words : List (List Char)) : List Char :=
  [separator].intercalate words

namespace Year

/-- The text of a year. -/
def text : Year → List Char
  | plain n => figures 4 n
  | signed negative n => (if negative then '-' else '+') :: figures 6 n

/-- The year that is given. -/
def value : Year → Int
  | plain n => n
  | signed negative n => if negative then -n else n

/-- Years of four digits, which are no negative zero. -/
def InRange : Year → Prop
  | plain n => n < 10 ^ 4
  | signed negative n => n < 10 ^ 4 ∧ (negative = true → n ≠ 0)

end Year

namespace Fraction

/-- The text of a fraction. -/
def text (f : Fraction) : List Char := f.mark :: f.digits

/-- A point or a comma with digits behind it. -/
structure InRange (f : Fraction) : Prop where
  mark : f.mark = '.' ∨ f.mark = ','
  digits : ∀ c ∈ f.digits, c.isDigit = true
  nonempty : f.digits ≠ []

end Fraction

namespace Amount

/-- The text of an amount. -/
def text : Amount → List Char
  | hours h => figures 2 h
  | minutes colons h m => figures 2 h ++ (optional colons ':' ++ figures 2 m)
  | seconds colons h m s fraction =>
    figures 2 h ++ (optional colons ':' ++ (figures 2 m ++ (optional colons ':' ++
      (figures 2 s ++ (fraction.map Fraction.text).getD []))))

/-- The hours. -/
def hour : Amount → Nat
  | hours h | minutes _ h _ | seconds _ h _ _ _ => h

/-- The minutes, none if they are left out. -/
def minute : Amount → Nat
  | hours _ => 0
  | minutes _ _ m | seconds _ _ m _ _ => m

/-- The seconds, none if they are left out. -/
def second : Amount → Nat
  | hours _ | minutes .. => 0
  | seconds _ _ _ s _ => s

/-- The fraction of a second, if there is one. -/
def fraction : Amount → Option Fraction
  | hours _ | minutes .. => none
  | seconds _ _ _ _ fraction => fraction

/-- The digits of the fraction. -/
def digits (a : Amount) : List Char := (a.fraction.map Fraction.digits).getD []

/-- Fewer hours and seconds than these, and fewer minutes than an hour has. -/
structure Below (hours seconds : Nat) (a : Amount) : Prop where
  hour : a.hour < hours
  minute : a.minute < 60
  second : a.second < seconds
  fraction : ∀ f ∈ a.fraction, f.InRange

/-- The seconds since midnight, of a time of day. A leap second counts as the second before it. -/
def sinceMidnight (a : Amount) : Nat := a.hour * 3600 + a.minute * 60 + min a.second 59

/-- The second that a fraction counts as: that of half a second and more does. -/
def carry : List Char → Nat
  | d :: _ => if '5' ≤ d then 1 else 0
  | [] => 0

/-- The seconds of an offset, to the nearest. -/
def rounded (a : Amount) : Nat := a.hour * 3600 + a.minute * 60 + a.second + carry a.digits

/-- Nothing is left out but a fraction, which is behind a point. -/
def IsFullTime : Amount → Prop
  | seconds colons _ _ _ fraction => colons = true ∧ ∀ f ∈ fraction, f.mark = '.'
  | _ => False

/-- Hours of a day with the minutes behind a colon. -/
def IsFullOffset : Amount → Prop
  | minutes colons h _ => colons = true ∧ h < 24
  | _ => False

/-- Seconds are left out. -/
def IsShort : Amount → Prop
  | seconds .. => False
  | _ => True

end Amount

namespace Offset

/-- The text of an amount with a sign. -/
def signedText (behind : Bool) (amount : Amount) : List Char :=
  (if behind then '-' else '+') :: amount.text

/-- The text of an offset. -/
def text : Offset → List Char
  | utc letter => [letter]
  | shifted behind amount => signedText behind amount

/-- The seconds that a clock is ahead of UTC. -/
def seconds : Offset → Int
  | utc _ => 0
  | shifted behind amount => if behind then -(amount.rounded : Int) else amount.rounded

/-- The letters for UTC, and amounts that an offset may have. -/
def InRange : Offset → Prop
  | utc letter => letter = 'Z' ∨ letter = 'z'
  | shifted _ amount => amount.Below 26 60

/-- The digits of a fraction. -/
def digits : Offset → List Char
  | utc _ => []
  | shifted _ amount => amount.digits

/-- UTC, or an amount in full. -/
def IsFull : Offset → Prop
  | utc _ => True
  | shifted _ amount => amount.IsFullOffset

end Offset

/-- A word has a first character and further ones. -/
def IsWord (first further : Char → Prop) (word : List Char) : Prop :=
  ∃ c cs, word = c :: cs ∧ first c ∧ ∀ d ∈ cs, further d

namespace Zone

/-- The text of a zone. -/
def text (z : Zone) : List Char :=
  optional z.critical '!' ++
    match z.place with
    | .offset behind amount => Offset.signedText behind amount
    | .named names => joined '/' names

/-- A part of a zone's name. -/
def IsName (name : List Char) : Prop :=
  IsWord (fun c => c.isAlpha ∨ c = '.' ∨ c = '_')
    (fun c => c.isAlphanum ∨ c = '.' ∨ c = '_' ∨ c = '+' ∨ c = '-') name

/-- An offset without seconds, or names. -/
def InRange (z : Zone) : Prop :=
  match z.place with
  | .offset _ amount => amount.Below 26 60 ∧ amount.IsShort
  | .named names => names ≠ [] ∧ ∀ name ∈ names, IsName name

end Zone

namespace Tag

/-- The text of a tag. -/
def text (t : Tag) : List Char := t.key ++ '=' :: joined '-' t.values

/-- A key in lower case, and words of letters and digits. -/
structure InRange (t : Tag) : Prop where
  key : IsWord (fun c => c.isLower ∨ c = '_')
    (fun c => c.isLower ∨ c.isDigit ∨ c = '_' ∨ c = '-') t.key
  nonempty : t.values ≠ []
  values : ∀ value ∈ t.values, IsWord (fun c => c.isAlphanum) (fun c => c.isAlphanum) value

end Tag

/-- A note in its brackets. -/
def bracketed (note : List Char) : List Char := '[' :: (note ++ [']'])

namespace Spelling

/-- The day. -/
def date (s : Spelling) : Date := ⟨s.year.value, s.month, s.day⟩

/-- The texts of the notes. -/
def notes (s : Spelling) : List (List Char) := (s.zone.map Zone.text).toList ++ s.tags.map Tag.text

/-- The text of a spelling. -/
def text (s : Spelling) : List Char :=
  s.year.text ++ (optional s.hyphens '-' ++ (figures 2 s.month ++ (optional s.hyphens '-' ++
    (figures 2 s.day ++ s.separator :: (s.time.text ++ (s.offset.text ++
      s.notes.flatMap bracketed))))))

/-- The point in time that is spelt. -/
def instant (s : Spelling) : Timestamp :=
  ⟨s.date.toDays * 86400 + s.time.sinceMidnight - s.offset.seconds⟩

/-- Each part is one that it may be. -/
structure InRange (s : Spelling) : Prop where
  year : s.year.InRange
  date : s.date.isValid = true
  separator : s.separator = 'T' ∨ s.separator = 't' ∨ s.separator = ' '
  time : s.time.Below 24 61
  offset : s.offset.InRange
  zone : ∀ z ∈ s.zone, z.InRange
  tags : ∀ t ∈ s.tags, t.InRange

/-- A year without a sign, no marks left out, time and offset in full, and nothing behind them. -/
structure IsFull (s : Spelling) : Prop where
  year : ∃ n, s.year = .plain n
  hyphens : s.hyphens = true
  time : s.time.IsFullTime
  offset : s.offset.IsFull
  notes : s.notes = []

/-- No fraction is too fine, the offset is not too large after rounding, and the point in time is
neither too early nor too late. -/
structure Fits (s : Spelling) : Prop where
  time : s.time.digits.length ≤ 9
  offset : s.offset.digits.length ≤ 9
  rounded : s.offset.seconds.natAbs ≤ greatestOffset
  early : earliest ≤ s.instant.seconds
  late : s.instant.seconds ≤ latest

end Spelling

/-- The text of an RFC 3339 date-time. -/
def IsRfc3339 (raw : String) : Prop := ∃ s : Spelling, s.InRange ∧ s.IsFull ∧ s.text = raw.toList

/-! ### Digits -/

end HeatFeed.Timestamp
