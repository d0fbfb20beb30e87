import HeatFeed.Json.Reader

/-!
# Skipping values

A value that nobody asked for is passed over without being built. Only its outline is checked:
numbers may have any size, escapes need not name characters, octets need not be UTF-8, and brackets
may nest to any depth.
-/

namespace HeatFeed.Json.Skip

/-- The digits at the front of a text are passed; there has to be one. -/
def digits (bs : List UInt8) : Except Error (List UInt8) :=
  match Numeral.spanDigits bs with
  | ([], _) => .error .invalidNumber
  | (_, rest) => .ok rest

/-- Passes an exponent, if one follows. -/
def exponent : List UInt8 → Except Error (List UInt8)
  | b :: bs =>
    if b = ascii 'e' ∨ b = ascii 'E' then digits (Numeral.exponentSign bs).2 else .ok (b :: bs)
  | [] => .ok []

/-- Passes a point and the digits behind it, if they follow, and an exponent. -/
def fraction : List UInt8 → Except Error (List UInt8)
  | b :: bs =>
    if b = ascii '.' then do exponent (← digits bs) else exponent (b :: bs)
  | [] => .ok []

/-- Passes a numeral behind its sign. -/
def unsigned (bs : List UInt8) : Except Error (List UInt8) :=
  match Numeral.spanDigits bs with
  | ([], _) => .error .invalidNumber
  | (0 :: _ :: _, _) => .error .invalidNumber
  | (_, rest) => fraction rest

/-- Passes a value without brackets, of which `b` is the first octet. -/
def scalar (b : UInt8) (bs : List UInt8) : Except Error (List UInt8) :=
  if b = ascii 'n' then Reader.letters (Utf8.bytes "ull") bs
  else if b = ascii 't' then Reader.letters (Utf8.bytes "rue") bs
  else if b = ascii 'f' then Reader.letters (Utf8.bytes "alse") bs
  else if b = ascii '"' then StringLiteral.skip .text bs
  else if b = ascii '-' then unsigned bs
  else if (Digits.value? b).isSome then unsigned (b :: bs)
  else .error .expectedValue

/-- A bracket that is open. -/
inductive Open where
  | list
  | object
  deriving DecidableEq

/-- The octet that closes the bracket. -/
def Open.closing : Open → UInt8
  | .list => ascii ']'
  | .object => ascii '\x7d'

/-- Said of a text that ends inside the bracket. -/
def Open.unfinished : Open → Error
  | .list => .endInList
  | .object => .endInObject

/-- Said of what is neither a comma nor the closing bracket. -/
def Open.expectedEnd : Open → Error
  | .list => .expectedListEnd
  | .object => .expectedObjectEnd

/-- What comes next inside the innermost open bracket. -/
inductive Expect where
  | value
  | firstItem
  | afterItem

/-- Passes a key and the colon behind it. -/
def key (bs : List UInt8) : Except Error (List UInt8) :=
  match Reader.skipSpace bs with
  | [] => .error .endInObject
  | b :: bs =>
    if b = ascii '"' then do Reader.colon (← StringLiteral.skip .text bs) else .error .keyNotString

/-- Passes what stands before the value of an item. -/
def beforeValue : Open → List UInt8 → Except Error (List UInt8)
  | .list, bs => .ok bs
  | .object, bs => key bs

/-- Passes one value, with `brackets` open around the place. A round takes an octet or is followed
by one that does, so twice as many rounds as there are octets are enough. -/
def run : Nat → Expect → List Open → List UInt8 → Except Error (List UInt8)
  | 0, _, _, _ => .error .endInValue
  | rounds + 1, .value, brackets, bs =>
    match Reader.skipSpace bs with
    | [] => .error .endInValue
    | b :: bs =>
      if b = ascii '[' then run rounds .firstItem (.list :: brackets) bs
      else if b = ascii '\x7b' then run rounds .firstItem (.object :: brackets) bs
      else match scalar b bs with
        | .error e => .error e
        | .ok rest => run rounds .afterItem brackets rest
  | _ + 1, .firstItem, [], bs => .ok bs
  | rounds + 1, .firstItem, bracket :: brackets, bs =>
    match Reader.skipSpace bs with
    | [] => .error bracket.unfinished
    | b :: bs =>
      if b = bracket.closing then run rounds .afterItem brackets bs
      else match beforeValue bracket (b :: bs) with
        | .error e => .error e
        | .ok bs => run rounds .value (bracket :: brackets) bs
  | _ + 1, .afterItem, [], bs => .ok bs
  | rounds + 1, .afterItem, bracket :: brackets, bs =>
    match Reader.skipSpace bs with
    | [] => .error bracket.unfinished
    | b :: bs =>
      if b = ascii ',' then
        match beforeValue bracket bs with
        | .error e => .error e
        | .ok bs => run rounds .value (bracket :: brackets) bs
      else if b = bracket.closing then run rounds .afterItem brackets bs
      else .error bracket.expectedEnd

/-- Passes any value. -/
def value (bs : List UInt8) : Except Error (List UInt8) := run (2 * bs.length + 2) .value [] bs

end HeatFeed.Json.Skip
