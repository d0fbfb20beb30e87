import HeatFeed.Json.Error
import HeatFeed.Text.Hex

/-!
# String literals

Strings are written between quotes, octet by octet, with escapes for the quote, the backslash and
the control characters only. Reading also knows escapes by hexadecimal UTF-16 unit, of which a
leading surrogate has to be followed by a trailing one. What was read must be valid UTF-8.

The reader is an automaton over the octets: `step` says what an octet adds and what is begun after
it.
-/

namespace HeatFeed.Json.StringLiteral

/-! ### Writing -/

/-- The letters of the short escapes, each with the octet that it stands for. -/
def shortEscapes : List (UInt8 × UInt8) := [
  (ascii '"', 34), (ascii '\\', 92), (ascii 'b', 8), (ascii 't', 9), (ascii 'n', 10),
  (ascii 'f', 12), (ascii 'r', 13)]

/-- The written form of an octet. -/
def escape (b : UInt8) : List UInt8 :=
  match shortEscapes.find? (·.2 == b) with
  | some (letter, _) => [ascii '\\', letter]
  | none =>
    if b < 0x20 then
      [ascii '\\', ascii 'u', ascii '0', ascii '0', Hex.octet (b.toNat / 16),
        Hex.octet (b.toNat % 16)]
    else [b]

/-- A text between quotes, as octets. -/
def write (s : String) : List UInt8 :=
  ascii '"' :: (Utf8.bytes s).flatMap escape ++ [ascii '"']

/-! ### Reading -/

/-- What has begun inside a literal. -/
inductive Begun where
  | text
  | escape
  | hex (lead : Option Nat) (digits : List UInt8)
  | secondEscape (lead : Nat)
  | secondLetter (lead : Nat)
  deriving DecidableEq

/-- The octets of a code point. -/
def encode (code : Nat) : List UInt8 := Utf8.bytes (String.singleton (Char.ofNat code))

/-- What a UTF-16 unit adds. -/
def unit (lead : Option Nat) (n : Nat) : Except Error (List UInt8 × Begun) :=
  match lead with
  | some high =>
    if 0xDC00 ≤ n ∧ n ≤ 0xDFFF then
      .ok (encode ((high - 0xD800) * 1024 + (n - 0xDC00) + 0x10000), .text)
    else .error .loneSurrogate
  | none =>
    if 0xDC00 ≤ n ∧ n ≤ 0xDFFF then .error .loneSurrogate
    else if 0xD800 ≤ n ∧ n ≤ 0xDBFF then .ok ([], .secondEscape n)
    else .ok (encode n, .text)

/-- The octet that the letter of a short escape stands for. Reading also knows the slash. -/
def shortEscape? (letter : UInt8) : Option UInt8 :=
  if letter = ascii '/' then some letter else (shortEscapes.find? (·.1 == letter)).map (·.2)

/-- One octet, which is not the closing quote: the octets that it adds, and what has begun. -/
def step : Begun → UInt8 → Except Error (List UInt8 × Begun)
  | .text, b =>
    if b = ascii '\\' then .ok ([], .escape)
    else if b < 0x20 then .error .controlCharacter
    else .ok ([b], .text)
  | .escape, b =>
    if b = ascii 'u' then .ok ([], .hex none [])
    else match shortEscape? b with
      | some c => .ok ([c], .text)
      | none => .error .invalidEscape
  | .hex lead digits, b =>
    if digits.length < 3 then .ok ([], .hex lead (digits ++ [b]))
    else match Hex.number? (digits ++ [b]) with
      | some n => unit lead n
      | none => .error .invalidEscape
  | .secondEscape lead, b =>
    if b = ascii '\\' then .ok ([], .secondLetter lead) else .error .unfinishedPair
  | .secondLetter lead, b =>
    if b = ascii 'u' then .ok ([], .hex (some lead) []) else .error .unfinishedPair

/-- Reads to the closing quote: the octets of the text, and the rest. -/
def octets : Begun → List UInt8 → Except Error (List UInt8 × List UInt8)
  | _, [] => .error .endInString
  | begun, b :: bs =>
    if begun = .text ∧ b = ascii '"' then .ok ([], bs)
    else match step begun b with
      | .error e => .error e
      | .ok (out, begun) =>
        match octets begun bs with
        | .error e => .error e
        | .ok (more, rest) => .ok (out ++ more, rest)

/-- Reads what follows the opening quote. -/
def read (bs : List UInt8) : Except Error (String × List UInt8) :=
  match octets .text bs with
  | .error e => .error e
  | .ok (found, rest) =>
    match Utf8.ofBytes? found with
    | some s => .ok (s, rest)
    | none => .error .invalidCharacter

/-! ### Skipping -/

/-- What has begun inside a literal that is skipped. -/
inductive Passed where
  | text
  | escape
  | hex (digits : List UInt8)
  deriving DecidableEq

/-- One octet of a skipped literal. Any four hexadecimal digits will do. -/
def pass : Passed → UInt8 → Except Error Passed
  | .text, b =>
    if b = ascii '\\' then .ok .escape else if b < 0x20 then .error .controlCharacter else .ok .text
  | .escape, b =>
    if b = ascii 'u' then .ok (.hex [])
    else if (shortEscape? b).isSome then .ok .text
    else .error .invalidEscape
  | .hex digits, b =>
    if digits.length < 3 then .ok (.hex (digits ++ [b]))
    else if (Hex.number? (digits ++ [b])).isSome then .ok .text
    else .error .invalidEscape

/-- Skips to the closing quote. -/
def skip : Passed → List UInt8 → Except Error (List UInt8)
  | _, [] => .error .endInString
  | begun, b :: bs =>
    if begun = .text ∧ b = ascii '"' then .ok bs
    else match pass begun b with
      | .error e => .error e
      | .ok begun => skip begun bs

end HeatFeed.Json.StringLiteral
