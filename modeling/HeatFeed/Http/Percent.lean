import HeatFeed.Text.Hex
import HeatFeed.Text.Utf8

/-!
# Percent encoding

Characters that may not stand in a part of a URL are written as their octets, each of them as `%`
and two hexadecimal digits. Which characters those are depends on the part; a `%` is always left as
it is.
-/

namespace HeatFeed.Http.Percent

/-- An octet as `%` and two hexadecimal digits. -/
def encodeOctet (b : UInt8) : List Char :=
  ['%', (Nat.digitChar (b.toNat / 16)).toUpper, (Nat.digitChar (b.toNat % 16)).toUpper]

/-- Writes some characters as octets. -/
def encode (reserved : Char → Bool) (cs : List Char) : List Char :=
  cs.flatMap fun c =>
    if reserved c then (Utf8.bytes (String.singleton c)).flatMap encodeOctet else [c]

/-- Octets in which `%` and two hexadecimal digits stand for one octet. The octets to keep stay as
they are written. -/
def decodeOctets (kept : UInt8 → Bool) : List UInt8 → List UInt8
  | a :: b :: c :: rest =>
    if a = ascii '%' then
      match ((Hex.number? [b, c]).map UInt8.ofNat).filter fun octet => !kept octet with
      | some octet => octet :: decodeOctets kept rest
      | none => a :: decodeOctets kept (b :: c :: rest)
    else a :: decodeOctets kept (b :: c :: rest)
  | short => short

/-- No octets. -/
def keepNone : UInt8 → Bool := fun _ => false

/-- The text that a percent-encoded text stands for, if it is one. -/
def decode? (s : String) : Option String := Utf8.ofBytes? (decodeOctets keepNone (Utf8.bytes s))

/-- The text that a percent-encoded text stands for; invalid octets are replaced. -/
def decode (s : String) : String := Utf8.lossy (decodeOctets keepNone (Utf8.bytes s))

/-- Octets that stay encoded in a path when it is compared with a route. -/
def keptInRoute (b : UInt8) : Bool := b == ascii '%' || b == ascii '/' || b == ascii '+'

/-- The path that is compared with the routes; invalid octets are replaced. -/
def decodePath (s : String) : String := Utf8.lossy (decodeOctets keptInRoute (Utf8.bytes s))

/-! ### Parts of URLs -/

/-- Control characters and all characters beyond ASCII. -/
def isControl (c : Char) : Bool := c < ' ' || '\x7f' ≤ c

/-- Characters that are encoded in a fragment. -/
def inFragment (c : Char) : Bool :=
  isControl c || c == ' ' || c == '"' || c == '<' || c == '>' || c == '\x60'

/-- Characters that are encoded in a query. -/
def inQuery (c : Char) : Bool :=
  isControl c || c == ' ' || c == '"' || c == '#' || c == '<' || c == '>'

/-- Characters that are encoded in the query of a web URL. -/
def inWebQuery (c : Char) : Bool := inQuery c || c == '\''

/-- Characters that are encoded in a path. -/
def inPath (c : Char) : Bool :=
  inFragment c || c == '#' || c == '?' || c == '\x7b' || c == '\x7d'

/-- Characters that are encoded in a user name or password. -/
def inCredentials (c : Char) : Bool := inPath c || "/:;=@[\\]^|".toList.contains c

end HeatFeed.Http.Percent
