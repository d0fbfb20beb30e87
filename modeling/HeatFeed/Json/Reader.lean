import HeatFeed.Json.Numeral
import HeatFeed.Json.StringLiteral

/-!
# Reading values

A reader takes what it recognises from the front of an octet list and leaves the rest. White space
is skipped before every token. Lists and objects are read by one loop each, `elements` and
`members`, that take the reader of one item as an argument; `value` ties them together and may open
as many brackets as its first argument says.
-/

namespace HeatFeed.Json

/-- Reads something from the front of a text. -/
abbrev Reader (α : Type) := List UInt8 → Except Error (α × List UInt8)

namespace Reader

/-- Space, tab, line feed and carriage return. -/
def isSpace (b : UInt8) : Bool :=
  b == ascii ' ' || b == ascii '\t' || b == ascii '\n' || b == ascii '\r'

/-- What follows the white space. -/
def skipSpace (bs : List UInt8) : List UInt8 := bs.dropWhile isSpace

/-- Reads the letters of a word. -/
def letters : List UInt8 → List UInt8 → Except Error (List UInt8)
  | [], bs => .ok bs
  | _ :: _, [] => .error .endInValue
  | e :: es, b :: bs => if b = e then letters es bs else .error .expectedLetter

/-- Digits and the minus sign start a numeral. -/
def startsNumeral (b : UInt8) : Bool := b == ascii '-' || (Digits.value? b).isSome

/-- Reads a value without brackets, of which `b` is the first octet. -/
def scalar (b : UInt8) (bs : List UInt8) : Except Error (Value × List UInt8) :=
  if b = ascii 'n' then
    return (.null, ← letters (Utf8.bytes "ull") bs)
  else if b = ascii 't' then
    return (.bool true, ← letters (Utf8.bytes "rue") bs)
  else if b = ascii 'f' then
    return (.bool false, ← letters (Utf8.bytes "alse") bs)
  else if b = ascii '"' then do
    let (s, rest) ← StringLiteral.read bs
    return (.string s, rest)
  else if startsNumeral b then do
    let (n, rest) ← Numeral.read (b :: bs)
    return (.number (← n.number), rest)
  else .error .expectedValue

/-! ### Items and members -/

/-- After an opening bracket or an item: the end, or the text of the next item. -/
inductive Next where
  | done (rest : List UInt8)
  | item (rest : List UInt8)

/-- Finds the next element of a list. -/
def nextElement (first : Bool) (bs : List UInt8) : Except Error Next :=
  match skipSpace bs with
  | [] => .error .endInList
  | b :: bs =>
    if b = ascii ']' then .ok (.done bs)
    else if first then .ok (.item (b :: bs))
    else if b = ascii ',' then
      match skipSpace bs with
      | [] => .error .endInValue
      | c :: bs => if c = ascii ']' then .error .trailingComma else .ok (.item (c :: bs))
    else .error .expectedListEnd

/-- Finds the next member of an object: the text behind the quote that opens its key. -/
def nextMember (first : Bool) (bs : List UInt8) : Except Error Next :=
  match skipSpace bs with
  | [] => .error .endInObject
  | b :: bs =>
    if b = ascii '\x7d' then .ok (.done bs)
    else if first then
      if b = ascii '"' then .ok (.item bs) else .error .keyNotString
    else if b = ascii ',' then
      match skipSpace bs with
      | [] => .error .endInValue
      | c :: bs =>
        if c = ascii '"' then .ok (.item bs)
        else if c = ascii '\x7d' then .error .trailingComma
        else .error .keyNotString
    else .error .expectedObjectEnd

/-- The elements of a list up to its closing bracket. Every round takes at least one octet, so as
many rounds as there are octets are enough. -/
def elements {α : Type} (item : Reader α) : Nat → Bool → Reader (List α)
  | 0, _, _ => .error .endInList
  | rounds + 1, first, bs =>
    match nextElement first bs with
    | .error e => .error e
    | .ok (.done rest) => .ok ([], rest)
    | .ok (.item bs) =>
      match item bs with
      | .error e => .error e
      | .ok (x, bs) =>
        match elements item rounds false bs with
        | .error e => .error e
        | .ok (xs, rest) => .ok (x :: xs, rest)

/-- The elements of a list, of which the opening bracket has been read. -/
def list {α : Type} (item : Reader α) : Reader (List α) := fun bs =>
  elements item (bs.length + 1) true bs

/-- The members of an object up to its closing bracket, gathered by `member`, which is given the
key and the text behind it. -/
def members {σ : Type} (member : σ → String → Reader σ) : Nat → Bool → σ → Reader σ
  | 0, _, _, _ => .error .endInObject
  | rounds + 1, first, gathered, bs =>
    match nextMember first bs with
    | .error e => .error e
    | .ok (.done rest) => .ok (gathered, rest)
    | .ok (.item bs) =>
      match StringLiteral.read bs with
      | .error e => .error e
      | .ok (key, bs) =>
        match member gathered key bs with
        | .error e => .error e
        | .ok (gathered, bs) => members member rounds false gathered bs

/-- The members of an object, of which the opening bracket has been read. -/
def object {σ : Type} (member : σ → String → Reader σ) (start : σ) : Reader σ := fun bs =>
  members member (bs.length + 1) true start bs

/-- What follows the colon. -/
def colon (bs : List UInt8) : Except Error (List UInt8) :=
  match skipSpace bs with
  | [] => .error .endInObject
  | b :: bs => if b = ascii ':' then .ok bs else .error .expectedColon

/-- A colon and what `item` reads behind it. -/
def afterColon {α : Type} (item : Reader α) : Reader α := fun bs => do item (← colon bs)

/-! ### Values -/

/-- Adds one member to those of an object. -/
def insertMember {α : Type} (item : Reader α) (ms : Members α) (key : String) :
    Reader (Members α) := fun bs => do
  let (v, rest) ← afterColon item bs
  return (ms.insert key v, rest)

/-- Any value in which at most `levels` brackets are open at once. -/
def value : Nat → Reader Value
  | levels, bs =>
    match skipSpace bs with
    | [] => .error .endInValue
    | b :: bs =>
      if b = ascii '[' then
        match levels with
        | 0 => .error .tooDeep
        | levels + 1 => do
          let (items, rest) ← list (value levels) bs
          return (.array items, rest)
      else if b = ascii '\x7b' then
        match levels with
        | 0 => .error .tooDeep
        | levels + 1 => do
          let (ms, rest) ← object (insertMember (value levels)) [] bs
          return (.object ms, rest)
      else scalar b bs

/-- How many brackets may be open at once. -/
def levels : Nat := 127

/-! ### Expected shapes -/

/-- How a message names a value without brackets. -/
def foundScalar : Value → Found
  | .bool b => .boolean b
  | .number (.integer n) => .integer n
  | .number (.float x) => .float x
  | .string s => .string s
  | _ => .null

/-- The error for a value that is not what was expected, of which `b` is the first octet. A value
without brackets is read in full first. -/
def mismatch (expected : String) (b : UInt8) (bs : List UInt8) : Error :=
  if b = ascii '[' then .invalidType .sequence expected
  else if b = ascii '\x7b' then .invalidType .map expected
  else match scalar b bs with
    | .error e => e
    | .ok (v, _) => .invalidType (foundScalar v) expected

/-- Reads what has to start with the octet `mark`. -/
def starting {α : Type} (mark : UInt8) (expected : String) (read : Reader α) : Reader α :=
  fun bs =>
    match skipSpace bs with
    | [] => .error .endInValue
    | b :: bs => if b = mark then read bs else .error (mismatch expected b bs)

/-- A string. -/
def string : Reader String := starting (ascii '"') "a string" StringLiteral.read

/-- A list. -/
def sequence {α : Type} (item : Reader α) : Reader (List α) :=
  starting (ascii '[') "a sequence" (list item)

/-- An object whose values are all of one shape. -/
def map {α : Type} (item : Reader α) : Reader (Members α) :=
  starting (ascii '\x7b') "a map" (object (insertMember item) [])

/-- What `item` reads, or nothing for null. -/
def optional {α : Type} (item : Reader α) : Reader (Option α) := fun bs =>
  match skipSpace bs with
  | [] => .error .endInValue
  | b :: bs =>
    if b = ascii 'n' then return (none, ← letters (Utf8.bytes "ull") bs)
    else do
      let (x, rest) ← item (b :: bs)
      return (some x, rest)

/-- A colon and the value of a field that must not have been read before. -/
def once {α : Type} (name : String) (before : Option α) (item : Reader α) : Reader α := fun bs =>
  if before.isSome then .error (.duplicateField name) else afterColon item bs

/-- The closing bracket of a list that stands for a record with a fixed number of fields. -/
def endOfRecord (bs : List UInt8) : Except Error (List UInt8) :=
  match skipSpace bs with
  | [] => .error .endInList
  | b :: bs =>
    if b = ascii ']' then .ok bs
    else if b = ascii ',' ∧ (skipSpace bs).head? = some (ascii ']') then .error .trailingComma
    else .error .trailingCharacters

/-- A whole text: nothing but white space may follow. -/
def whole {α : Type} (read : Reader α) (bs : List UInt8) : Except Error α :=
  match read bs with
  | .error e => .error e
  | .ok (x, rest) => if skipSpace rest = [] then .ok x else .error .trailingCharacters

end Reader

/-- The value that a whole text spells. -/
def Value.ofBytes (bs : List UInt8) : Except Error Value :=
  Reader.whole (Reader.value Reader.levels) bs

end HeatFeed.Json
