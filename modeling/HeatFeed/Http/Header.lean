import HeatFeed.Members

/-!
# Headers

Header names are kept in lower case, each with its values in order. A value may hold any characters
but control characters, of which the tab alone is allowed. A value that must not be shown is marked
as sensitive.
-/

namespace HeatFeed.Http

/-- Characters of header names and methods. -/
def isTokenChar (c : Char) : Bool :=
  c.isAlphanum || "!#$%&'*+-.^_|~".toList.contains c || c == '\x60'

/-- One or more such characters. -/
def isToken (s : String) : Bool := s ≠ "" && s.toList.all isTokenChar

/-- Characters of header values. -/
def isValueChar (c : Char) : Bool := c == '\t' || (' ' ≤ c && c ≠ '\x7f')

/-- The value of a header. -/
structure HeaderValue where
  text : String
  sensitive : Bool
  deriving DecidableEq

/-- The value with a text, if it may be one. -/
def HeaderValue.ofText? (text : String) : Option HeaderValue :=
  if text.toList.all isValueChar then some ⟨text, false⟩ else none

/-- The form in which a name is kept. -/
def lowerName (name : String) : String := String.ofList (name.toList.map Char.toLower)

/-- The name of the header that says who asks. -/
def authorizationName : String := "authorization"

/-- Names with their values. -/
abbrev Headers := Members (List HeaderValue)

namespace Headers

/-- All values of a name, in any letter case. -/
def values (hs : Headers) (name : String) : List HeaderValue :=
  (Members.get? (lowerName name) hs).getD []

/-- Puts one value in place of all values of a name. -/
def set (hs : Headers) (name : String) (value : HeaderValue) : Headers :=
  Members.insert (lowerName name) [value] hs

/-- Adds a value to those of a name. -/
def append (hs : Headers) (name : String) (value : HeaderValue) : Headers :=
  Members.insert (lowerName name) (hs.values name ++ [value]) hs

/-- The first headers, with all names of the second ones replaced. -/
def override (hs overrides : Headers) : Headers :=
  overrides.foldl (fun all (name, values) => Members.insert name values all) hs

end Headers

end HeatFeed.Http
