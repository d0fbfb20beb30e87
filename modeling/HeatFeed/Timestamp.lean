/-!
# Timestamps

Points in time in whole seconds, read from a date, a time of day and an offset from UTC, and shown
as weekday, date, time and zone. Reading takes the forms of ISO 8601 with a `T` or a space between
date and time: dates with and without hyphens, years of four digits or of six with a sign, times and
offsets with and without colons, which may leave out the seconds, or the minutes too, and end with a
fraction of a second. A leap second is taken for the second before it. Behind the offset a zone and
further notes may stand in brackets, which change nothing. A text that is no timestamp is shown as
it is.
-/

namespace HeatFeed

/-- Seconds since the start of 1970 in UTC. -/
structure Timestamp where
  seconds : Int
  deriving DecidableEq

/-- A day of the Gregorian calendar. -/
structure Date where
  year : Int
  month : Nat
  day : Nat
  deriving DecidableEq

namespace Date

/-- Years with a leap day. -/
def isLeapYear (year : Int) : Bool := year % 4 == 0 && (year % 100 != 0 || year % 400 == 0)

/-- The number of days of a month. -/
def monthLength (year : Int) (month : Nat) : Nat :=
  if month = 2 then (if isLeapYear year then 29 else 28)
  else if month = 4 ∨ month = 6 ∨ month = 9 ∨ month = 11 then 30
  else 31

/-- Dates that the calendar has. -/
def isValid (d : Date) : Bool :=
  1 ≤ d.month && d.month ≤ 12 && 1 ≤ d.day && d.day ≤ monthLength d.year d.month

/-- Days before a month, in years that start with March. -/
def daysBeforeMonth (monthFromMarch : Nat) : Nat := (153 * monthFromMarch + 2) / 5

/-- Days since the start of 1970. Years are counted from March, so that the leap day comes last, and
400 of them have 146097 days. -/
def toDays (d : Date) : Int :=
  let year := if d.month ≤ 2 then d.year - 1 else d.year
  let yearOfEra := (year % 400).toNat
  let dayOfYear := daysBeforeMonth ((d.month + 9) % 12) + d.day - 1
  let dayOfEra := yearOfEra * 365 + yearOfEra / 4 - yearOfEra / 100 + dayOfYear
  year / 400 * 146097 + dayOfEra - 719468

/-- The day that many days after the start of 1970. -/
def ofDays (days : Int) : Date :=
  let shifted := days + 719468
  let dayOfEra := (shifted % 146097).toNat
  let yearOfEra :=
    (dayOfEra - dayOfEra / 1460 + dayOfEra / 36524 - dayOfEra / 146096) / 365
  let dayOfYear := dayOfEra - (365 * yearOfEra + yearOfEra / 4 - yearOfEra / 100)
  let monthFromMarch := (5 * dayOfYear + 2) / 153
  let month := if monthFromMarch < 10 then monthFromMarch + 3 else monthFromMarch - 9
  let year := shifted / 146097 * 400 + yearOfEra
  ⟨if month ≤ 2 then year + 1 else year, month, dayOfYear - daysBeforeMonth monthFromMarch + 1⟩

/-- The short names of the weekdays, from that of the first day of 1970 on. -/
def weekdays : List String := ["Thu", "Fri", "Sat", "Sun", "Mon", "Tue", "Wed"]

/-- The short names of the months. -/
def months : List String :=
  ["Jan", "Feb", "Mar", "Apr", "May", "Jun", "Jul", "Aug", "Sep", "Oct", "Nov", "Dec"]

end Date

namespace Timestamp

/-! ### Reading -/

/-- Reads so many digits. -/
def digits : Nat → Nat → List Char → Option (Nat × List Char)
  | 0, n, cs => some (n, cs)
  | count + 1, n, c :: cs => if c.isDigit then digits count (n * 10 + (c.toNat - 48)) cs else none
  | _ + 1, _, [] => none

/-- Reads two digits. -/
def two (cs : List Char) : Option (Nat × List Char) := digits 2 0 cs

/-- Reads one character. -/
def mark (c : Char) : List Char → Option (List Char)
  | d :: cs => if d = c then some cs else none
  | [] => none

/-- Reads one character, where it is expected. -/
def markIf (expected : Bool) (c : Char) (cs : List Char) : Option (List Char) :=
  if expected then mark c cs else some cs

/-- The greatest year of a date, and without its sign the least one too. -/
def greatestYear : Nat := 9999

/-- Reads a year: four digits, or six behind a sign. There is no year that is less than nothing and
yet zero. -/
def readYear : List Char → Option (Int × List Char)
  | '+' :: cs => do
    let (n, cs) ← digits 6 0 cs
    if n ≤ greatestYear then some (Int.ofNat n, cs) else none
  | '-' :: cs => do
    let (n, cs) ← digits 6 0 cs
    if n ≠ 0 ∧ n ≤ greatestYear then some (-Int.ofNat n, cs) else none
  | cs => (digits 4 0 cs).map fun (n, cs) => (Int.ofNat n, cs)

/-- Reads a date. There are hyphens between its parts if there is one behind the year. -/
def readDate (cs : List Char) : Option (Date × List Char) := do
  let (year, cs) ← readYear cs
  let hyphens := cs.head? == some '-'
  let (month, cs) ← two (← markIf hyphens '-' cs)
  let (day, cs) ← two (← markIf hyphens '-' cs)
  let d : Date := ⟨year, month, day⟩
  if d.isValid then some (d, cs) else none

/-- Reads what stands between date and time. -/
def readSeparator : List Char → Option (List Char)
  | c :: cs => if c = 'T' ∨ c = 't' ∨ c = ' ' then some cs else none
  | [] => none

/-- Hours, and minutes and seconds as far as they are given, with the digits of a fraction. -/
structure Parts where
  hours : Nat
  minutes : Option Nat
  seconds : Option Nat
  fraction : List Char

/-- Reads the digits of a fraction of a second, one to nine, if there is a mark for one. -/
def readFraction : List Char → Option (List Char × List Char)
  | '.' :: cs | ',' :: cs =>
    let (found, rest) := cs.span Char.isDigit
    if 1 ≤ found.length ∧ found.length ≤ 9 then some (found, rest) else none
  | cs => some ([], cs)

/-- Reads two more digits. With colons they are given if there is a colon, and else if there are
two digits. -/
def readPart (colons : Bool) (cs : List Char) : Option (Option Nat × List Char) :=
  if colons then
    match mark ':' cs with
    | some cs => (two cs).map fun (n, rest) => (some n, rest)
    | none => some (none, cs)
  else
    match two cs with
    | some (n, rest) => some (some n, rest)
    | none => some (none, cs)

/-- Reads hours, minutes and seconds. There are colons between them if there is one behind the
hours. -/
def readParts (cs : List Char) : Option (Parts × List Char) := do
  let (hours, cs) ← two cs
  let colons := cs.head? == some ':'
  match ← readPart colons cs with
  | (none, cs) => return (⟨hours, none, none, []⟩, cs)
  | (some minutes, cs) =>
    match ← readPart colons cs with
    | (none, cs) => return (⟨hours, minutes, none, []⟩, cs)
    | (some seconds, cs) =>
      let (fraction, cs) ← readFraction cs
      return (⟨hours, minutes, seconds, fraction⟩, cs)

/-- Reads a time of day, in seconds. A leap second is the second before it, and a fraction is left
out. -/
def readTime (cs : List Char) : Option (Nat × List Char) := do
  let (p, cs) ← readParts cs
  let minutes := p.minutes.getD 0
  let seconds := p.seconds.getD 0
  if 24 ≤ p.hours ∨ 60 ≤ minutes ∨ 61 ≤ seconds then none
  return (p.hours * 3600 + minutes * 60 + min seconds 59, cs)

/-- The greatest offset in seconds. -/
def greatestOffset : Nat := 93599

/-- Reads the amount of an offset, in seconds. A fraction of half a second or more counts as one. -/
def readAmount (cs : List Char) : Option (Nat × List Char) := do
  let (p, cs) ← readParts cs
  let minutes := p.minutes.getD 0
  let seconds := p.seconds.getD 0
  if 26 ≤ p.hours ∨ 60 ≤ minutes ∨ 60 ≤ seconds then none
  let carry := if p.fraction.head?.any ('5' ≤ ·) then 1 else 0
  let amount := p.hours * 3600 + minutes * 60 + seconds + carry
  if amount ≤ greatestOffset then some (amount, cs) else none

/-- Reads an offset, in seconds. -/
def readOffset : List Char → Option (Int × List Char)
  | 'Z' :: cs | 'z' :: cs => some (0, cs)
  | '+' :: cs => (readAmount cs).map fun (n, cs) => (Int.ofNat n, cs)
  | '-' :: cs => (readAmount cs).map fun (n, cs) => (-Int.ofNat n, cs)
  | _ => none

/-! ### Notes in brackets -/

/-- The first characters of the parts of a zone's name. -/
def startsName (c : Char) : Bool := c.isAlpha || c == '.' || c == '_'

/-- Characters of a zone's name. -/
def isOfName (c : Char) : Bool := startsName c || c.isDigit || c == '+' || c == '-'

/-- The first characters of a key. -/
def startsKey (c : Char) : Bool := c.isLower || c == '_'

/-- Characters of a key. -/
def isOfKey (c : Char) : Bool := startsKey c || c.isDigit || c == '-'

/-- Texts with such a first character and such further ones. -/
def isWord (first further : Char → Bool) : List Char → Bool
  | c :: cs => first c && cs.all further
  | [] => false

/-- Offsets that a zone may be given as: without seconds. -/
def isZoneOffset (cs : List Char) : Bool :=
  match readParts cs with
  | some (p, []) => p.hours < 26 && p.minutes.getD 0 < 60 && p.seconds.isNone
  | _ => false

/-- Zones: an offset, or names with slashes between them. A mark may say that they are critical. -/
def isZone (note : List Char) : Bool :=
  match (mark '!' note).getD note with
  | '+' :: cs | '-' :: cs => isZoneOffset cs
  | cs => (cs.splitOn '/').all (isWord startsName isOfName)

/-- Further notes: a key with values. -/
def isTag (note : List Char) : Bool :=
  match note.splitOn '=' with
  | [key, values] =>
    isWord startsKey isOfKey key &&
      (values.splitOn '-').all (isWord Char.isAlphanum Char.isAlphanum)
  | _ => false

/-- The notes that a text is made of, each in brackets. -/
def notes? (cs : List Char) : Option (List (List Char)) :=
  let pieces := cs.splitOn ']'
  if pieces.getLast? = some [] then pieces.dropLast.mapM (mark '[') else none

/-- Texts of notes of which the first may be a zone. -/
def areNotes (cs : List Char) : Bool :=
  match notes? cs with
  | some (note :: notes) => (isZone note || isTag note) && notes.all isTag
  | some [] => true
  | none => false

/-! ### Points in time -/

/-- The first second that is a timestamp. -/
def earliest : Int := -377705023201

/-- The last second that is a timestamp. -/
def latest : Int := 253402207200

/-- The point in time that a text spells. -/
def ofText? (s : String) : Option Timestamp := do
  let (date, cs) ← readDate s.toList
  let (time, cs) ← readTime (← readSeparator cs)
  let (offset, cs) ← readOffset cs
  if !areNotes cs then none
  let seconds := date.toDays * 86400 + time - offset
  if earliest ≤ seconds ∧ seconds ≤ latest then some ⟨seconds⟩ else none

/-! ### Writing -/

/-- A number with at least so many digits. -/
def padded (width n : Nat) : String :=
  let s := toString n
  String.ofList (List.replicate (width - s.length) '0') ++ s

/-- A year in at least four places, one of which the sign of a negative year takes. -/
def yearText (year : Int) : String :=
  if year < 0 then "-" ++ padded 3 year.natAbs else padded 4 year.natAbs

/-- The name of a zone with a fixed offset: the parts that are needed. -/
def zoneText (offset : Int) : String :=
  let n := offset.natAbs
  if n = 0 then "UTC"
  else
    (if offset < 0 then "-" else "+") ++ padded 2 (n / 3600) ++
      (if n % 3600 = 0 then "" else ":" ++ padded 2 (n / 60 % 60)) ++
      (if n % 60 = 0 then "" else ":" ++ padded 2 (n % 60))

/-- The text of a point in time in a zone with a fixed offset. -/
def textAt (offset : Int) (t : Timestamp) : String :=
  let shifted := t.seconds + offset
  let days := shifted / 86400
  let second := (shifted % 86400).toNat
  let d := Date.ofDays days
  Date.weekdays.getD (days % 7).toNat "" ++ ", " ++ padded 2 d.day ++ " " ++
    Date.months.getD (d.month - 1) "" ++ " " ++ yearText d.year ++ " " ++
    padded 2 (second / 3600) ++ ":" ++ padded 2 (second / 60 % 60) ++ ":" ++
    padded 2 (second % 60) ++ " " ++ zoneText offset

/-- The text of a point in time in UTC. -/
def text (t : Timestamp) : String := t.textAt 0

/-- How a snapshot's timestamp is shown. -/
def display (raw : String) : String := ((ofText? raw).map text).getD raw

end Timestamp

end HeatFeed
