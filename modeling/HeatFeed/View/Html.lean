/-!
# HTML

Trees of elements and texts, and their written form. In texts the characters that could start a tag
or an entity are written as entities, so a text never adds or ends a tag.
-/

namespace HeatFeed.View

/-- A node of a page. -/
inductive Html where
  | text (s : String)
  | element (tag : String) (attributes : List (String × String)) (children : List Html)

namespace Html

/-- The written form of a character of a text. -/
def escapeChar (c : Char) : List Char :=
  if c = '&' then "&amp;".toList
  else if c = '<' then "&lt;".toList
  else if c = '>' then "&gt;".toList
  else [c]

/-- The written form of a text. -/
def escape (s : String) : String := String.ofList (s.toList.flatMap escapeChar)

/-- Elements that have no content and no end tag. -/
def isVoid (tag : String) : Bool := tag == "input"

/-- A start tag. -/
def startTag (tag : String) (attributes : List (String × String)) : String :=
  "<" ++ tag ++
    String.join (attributes.map fun (name, value) => " " ++ name ++ "=\"" ++ value ++ "\"") ++
    ">"

/-- An end tag. -/
def endTag (tag : String) : String := "</" ++ tag ++ ">"

mutual

/-- The written form of a node. -/
def render : Html → String
  | .text s => escape s
  | .element tag attributes children =>
    if isVoid tag then startTag tag attributes
    else startTag tag attributes ++ renderAll children ++ endTag tag

/-- The written form of nodes in a row. -/
def renderAll : List Html → String
  | [] => ""
  | x :: xs => render x ++ renderAll xs

end

/-- An element that has no attributes. -/
def plain (tag : String) (children : List Html) : Html := .element tag [] children

/-- An element with a class. -/
def styled (tag : String) (style : String) (children : List Html) : Html :=
  .element tag [("class", style)] children

end Html

end HeatFeed.View
