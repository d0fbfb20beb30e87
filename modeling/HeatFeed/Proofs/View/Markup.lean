import HeatFeed.Proofs.Text.Trim
import HeatFeed.View.Html

/-!
# Markup

The written form of nodes, split at its tags: a text in front of the first tag, and each tag with the
text between it and the next one. Texts are written with entities for the characters that could start
or end a tag, so splitting gives back the tags and the texts that were written, and no text is taken
for a tag. Nodes are written as the tags and texts that they consist of.
-/

namespace HeatFeed.View

/-- A tag without its brackets, and the text between it and the next one. -/
structure Mark where
  tag : String
  behind : String
  deriving DecidableEq

/-- The text in front of the first tag, and the tags. -/
structure Markup where
  lead : String
  marks : List Mark
  deriving DecidableEq

/-- A tag that has no brackets inside. -/
def IsTag (tag : String) : Prop := ∀ c ∈ tag.toList, c ≠ '<' ∧ c ≠ '>'

instance (tag : String) : Decidable (IsTag tag) := List.decidableBAll _ _

theorem IsTag.append {s t : String} (hs : IsTag s) (ht : IsTag t) : IsTag (s ++ t) := by
  intro c mem
  rw [String.toList_append, List.mem_append] at mem
  exact mem.elim (hs c) (ht c)

namespace Markup

/-! ### Writing and reading -/

/-- Markup with a text in front of it. -/
def consText (s : String) (p : Markup) : Markup := ⟨s ++ p.lead, p.marks⟩

/-- Markup with a tag in front of it. -/
def consTag (tag : String) (p : Markup) : Markup := ⟨"", ⟨tag, p.lead⟩ :: p.marks⟩

/-- The written form of tags with texts behind them. -/
def writeMarks : List Mark → String
  | [] => ""
  | m :: ms => "<" ++ m.tag ++ ">" ++ Html.escape m.behind ++ writeMarks ms

/-- The written form. -/
def write (p : Markup) : String := Html.escape p.lead ++ writeMarks p.marks

/-- A text with each entity put back as the character that it stands for. -/
def unescape : List Char → List Char
  | '&' :: 'a' :: 'm' :: 'p' :: ';' :: cs => '&' :: unescape cs
  | '&' :: 'l' :: 't' :: ';' :: cs => '<' :: unescape cs
  | '&' :: 'g' :: 't' :: ';' :: cs => '>' :: unescape cs
  | c :: cs => c :: unescape cs
  | [] => []

/-- What stands between two opening brackets: a tag, its closing bracket, and the text behind it. -/
def readMark (piece : List Char) : Mark :=
  let (tag, rest) := piece.span (· != '>')
  ⟨String.ofList tag, String.ofList (unescape (rest.drop 1))⟩

/-- A text split at its tags. -/
def read (text : String) : Markup :=
  match text.toList.splitOn '<' with
  | [] => ⟨"", []⟩
  | lead :: pieces => ⟨String.ofList (unescape lead), pieces.map readMark⟩

/-! ### Texts -/

theorem unescape_cons {c : Char} (h : c ≠ '&') (cs : List Char) :
    unescape (c :: cs) = c :: unescape cs := by
  rw [unescape] <;> exact fun _ amp => absurd amp h

theorem unescape_escapeChar (c : Char) (cs : List Char) :
    unescape (Html.escapeChar c ++ cs) = c :: unescape cs := by
  rw [Html.escapeChar]
  split_ifs with amp lt gt
  · rw [amp]; rfl
  · rw [lt]; rfl
  · rw [gt]; rfl
  · exact unescape_cons amp cs

theorem toList_escape (s : String) : (Html.escape s).toList = s.toList.flatMap Html.escapeChar :=
  String.toList_ofList

/-- Every text can be told from its written form. -/
theorem unescape_escape (s : String) : unescape (Html.escape s).toList = s.toList := by
  rw [toList_escape]
  induction s.toList with
  | nil => rfl
  | cons c cs ih => rw [List.flatMap_cons, unescape_escapeChar, ih]

/-- The written form of a text has no brackets. -/
theorem not_mem_escape (s : String) : '<' ∉ (Html.escape s).toList := by
  rw [toList_escape, List.mem_flatMap]
  rintro ⟨c, -, mem⟩
  rw [Html.escapeChar] at mem
  split_ifs at mem with amp lt gt
  · revert mem; decide
  · revert mem; decide
  · revert mem; decide
  · exact lt (List.mem_singleton.1 mem).symm

/-! ### Tags -/

/-- The characters between two opening brackets. -/
def piece (m : Mark) : List Char := m.tag.toList ++ '>' :: (Html.escape m.behind).toList

theorem readMark_piece {m : Mark} (h : IsTag m.tag) : readMark (piece m) = m := by
  have tag : ∀ c ∈ m.tag.toList, (c != '>') = true := fun c mem => bne_iff_ne.2 (h c mem).2
  have stop : ∀ c ∈ ('>' :: (Html.escape m.behind).toList).head?, (c != '>') = false := by
    rintro c ⟨⟩
    rfl
  rw [readMark, piece, Text.span_append tag stop]
  show Mark.mk (String.ofList m.tag.toList) (String.ofList (unescape (Html.escape m.behind).toList)) = m
  rw [unescape_escape, String.ofList_toList, String.ofList_toList]

theorem not_mem_piece {m : Mark} (h : IsTag m.tag) : '<' ∉ piece m := by
  rw [piece, List.mem_append, List.mem_cons]
  rintro (tag | close | text)
  · exact (h _ tag).1 rfl
  · exact absurd close (by decide)
  · exact not_mem_escape _ text

theorem splitOn_writeMarks {marks : List Mark} (h : ∀ m ∈ marks, IsTag m.tag) {front : List Char}
    (bare : '<' ∉ front) :
    (front ++ (writeMarks marks).toList).splitOn '<' = front :: marks.map piece := by
  induction marks generalizing front with
  | nil =>
    rw [writeMarks, String.toList_empty, List.append_nil, List.splitOn_eq_singleton bare, List.map_nil]
  | cons m ms ih =>
    obtain ⟨first, rest⟩ := List.forall_mem_cons.1 h
    have split : (writeMarks (m :: ms)).toList = '<' :: (piece m ++ (writeMarks ms).toList) := by
      simp [writeMarks, piece, String.toList_append]
    rw [split, List.splitOn_append_cons_self_of_not_mem bare, ih rest (not_mem_piece first),
      List.map_cons]

/-- What was written is read back, whatever the texts are. -/
theorem read_write {p : Markup} (h : ∀ m ∈ p.marks, IsTag m.tag) : read p.write = p := by
  have marks : (p.marks.map piece).map readMark = p.marks := by
    rw [List.map_map]
    exact (List.map_congr_left fun m mem => readMark_piece (h m mem)).trans (List.map_id _)
  rw [read, write, String.toList_append, splitOn_writeMarks h (not_mem_escape p.lead)]
  simp only [unescape_escape, String.ofList_toList, marks]

theorem escape_append (s t : String) : Html.escape (s ++ t) = Html.escape s ++ Html.escape t := by
  simp [Html.escape, String.toList_append]

theorem write_consText (s : String) (p : Markup) :
    (consText s p).write = Html.escape s ++ p.write := by
  rw [consText, write, write, escape_append, String.append_assoc]

theorem write_consTag (tag : String) (p : Markup) :
    (consTag tag p).write = "<" ++ tag ++ ">" ++ p.write := by
  have empty : Html.escape "" = "" := rfl
  rw [consTag, write, write, writeMarks, empty, String.empty_append]
  simp only [String.append_assoc]

end Markup

namespace Html

open Markup

/-! ### Nodes -/

/-- A start tag without its brackets. -/
def opening (tag : String) (attributes : List (String × String)) : String :=
  tag ++ String.join (attributes.map fun (name, value) => " " ++ name ++ "=\"" ++ value ++ "\"")

mutual

/-- Markup with a node in front of it. -/
def inFront : Html → Markup → Markup
  | .text s, p => consText s p
  | .element tag attributes children, p =>
    if isVoid tag then consTag (opening tag attributes) p
    else consTag (opening tag attributes) (allInFront children (consTag ("/" ++ tag) p))

/-- Markup with nodes in a row in front of it. -/
def allInFront : List Html → Markup → Markup
  | [], p => p
  | x :: xs, p => inFront x (allInFront xs p)

end

/-- The tags and texts of a node. -/
def markup (x : Html) : Markup := x.inFront ⟨"", []⟩

theorem startTag_eq (tag : String) (attributes : List (String × String)) :
    startTag tag attributes = "<" ++ opening tag attributes ++ ">" := by
  simp [startTag, opening, String.append_assoc]

theorem endTag_eq (tag : String) : endTag tag = "<" ++ ("/" ++ tag) ++ ">" := rfl

mutual

theorem write_inFront (p : Markup) : ∀ x : Html, (x.inFront p).write = x.render ++ p.write
  | .text s => by rw [inFront, write_consText, render]
  | .element tag attributes children => by
    rw [inFront, render]
    split
    · rw [write_consTag, startTag_eq]
    · rw [write_consTag, write_allInFront _ children, write_consTag, startTag_eq, endTag_eq]
      simp only [String.append_assoc]

theorem write_allInFront (p : Markup) :
    ∀ xs : List Html, (allInFront xs p).write = renderAll xs ++ p.write
  | [] => by rw [allInFront, renderAll, String.empty_append]
  | x :: xs => by
    rw [allInFront, write_inFront _ x, write_allInFront p xs, renderAll, String.append_assoc]

end

/-- The tags and texts of a node are read from its written form, if its tags have no brackets. -/
theorem read_render {x : Html} (h : ∀ m ∈ x.markup.marks, IsTag m.tag) :
    Markup.read x.render = x.markup := by
  have written : x.markup.write = x.render := by
    rw [markup, write_inFront]
    exact String.append_empty
  rw [← written, read_write h]

end Html

end HeatFeed.View
