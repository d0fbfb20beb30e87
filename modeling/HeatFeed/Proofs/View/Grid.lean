import HeatFeed.Proofs.View.Markup
import HeatFeed.View.Grid

/-!
# The written grid

Splitting the written grid at its tags gives back the table: the names of its columns, and for each
symbol a row with its scores. Which tags there are, and in what order, depends on the number of
columns and on the colours of each row alone, whatever characters the symbols and timeframes have.
-/

namespace HeatFeed.View

/-- The name of a tag. -/
def Mark.name (m : Mark) : String := String.ofList (m.tag.toList.takeWhile (· != ' '))

namespace Markup

/-- Puts what starts at a tag in front of the cells of the row under way and the rows behind it. -/
def gather (m : Mark) (found : List String × List (List String)) :
    List String × List (List String) :=
  if m.name = "tr" then ([], found.1 :: found.2)
  else if m.name = "th" ∨ m.name = "td" then (m.behind :: found.1, found.2)
  else found

/-- The cells of the row under way, and the rows behind it. -/
def table (p : Markup) : List String × List (List String) := p.marks.foldr gather ([], [])

/-- The texts of the cells, row by row. -/
def rows (p : Markup) : List (List String) := p.table.2

/-- The tags in order. -/
def tags (p : Markup) : List String := p.marks.map Mark.tag

/-- All text stands in cells. -/
structure Tidy (p : Markup) : Prop where
  lead : p.lead = ""
  cells : ∀ m ∈ p.marks, m.behind ≠ "" → m.name = "th" ∨ m.name = "td"

end Markup

/-- The two tags of an element with a class. -/
def styledTags (tag style : String) : List String :=
  [tag ++ " class=\"" ++ style ++ "\"", "/" ++ tag]

/-- The tags of a row with the tags of its cells. -/
def rowTags (cells : List (List String)) : List String := "tr" :: cells.flatten ++ ["/tr"]

/-- The tags of the row with the names of so many columns. -/
def headerTags (columns : Nat) : List String :=
  rowTags (styledTags "th" "px-3 py-2 text-left" ::
    List.replicate columns (styledTags "th" "px-3 py-2 text-center"))

/-- The tags of the row of a symbol whose scores have these colours. -/
def symbolTags (colours : List String) : List String :=
  rowTags (styledTags "td" "px-3 py-2 font-medium" :: colours.map fun colour => styledTags "td"
    (if colour = "" then "px-3 py-2 text-center" else "px-3 py-2 text-center " ++ colour))

/-- The tags of a grid with so many columns and with these colours, row by row. -/
def gridTags (columns : Nat) (colours : List (List String)) : List String :=
  if colours = [] ∨ columns = 0 then styledTags "p" "text-neutral-600 dark:text-neutral-400"
  else
    ["table class=\"min-w-full text-sm border-collapse\"", "thead"] ++ headerTags columns ++
    ["/thead", "tbody"] ++ colours.flatMap symbolTags ++ ["/tbody", "/table"]

namespace Html

open Markup

/-! ### Tags of nodes -/

mutual

/-- The tags of a node. -/
def tags : Html → List String
  | .text _ => []
  | .element tag attributes children =>
    if isVoid tag then [opening tag attributes]
    else opening tag attributes :: allTags children ++ ["/" ++ tag]

/-- The tags of nodes in a row. -/
def allTags : List Html → List String
  | [] => []
  | x :: xs => tags x ++ allTags xs

end

theorem tags_consTag (tag : String) (p : Markup) : (consTag tag p).tags = tag :: p.tags := rfl

mutual

theorem tags_inFront (p : Markup) : ∀ x : Html, (x.inFront p).tags = x.tags ++ p.tags
  | .text s => rfl
  | .element tag attributes children => by
    rw [inFront, tags]
    split
    · rfl
    · rw [tags_consTag, tags_allInFront _ children, tags_consTag]
      simp only [List.cons_append, List.append_assoc, List.nil_append]

theorem tags_allInFront (p : Markup) :
    ∀ xs : List Html, (allInFront xs p).tags = allTags xs ++ p.tags
  | [] => rfl
  | x :: xs => by
    rw [allInFront, tags_inFront _ x, tags_allInFront p xs, allTags, List.append_assoc]

end

theorem tags_markup (x : Html) : x.markup.tags = x.tags := by
  rw [markup, tags_inFront]
  exact List.append_nil _

theorem allTags_map {α : Type} (f : α → Html) (xs : List α) :
    allTags (xs.map f) = xs.flatMap fun x => (f x).tags := by
  induction xs with
  | nil => rfl
  | cons x xs ih => rw [List.map_cons, allTags, ih, List.flatMap_cons]

theorem opening_class (tag style : String) :
    opening tag [("class", style)] = tag ++ " class=\"" ++ style ++ "\"" := by
  rw [opening, List.map_cons, List.map_nil, String.join_cons, String.join_nil, String.append_empty]
  show tag ++ (" class=\"" ++ style ++ "\"") = _
  rw [String.append_assoc, String.append_assoc, String.append_assoc]

theorem tags_plain {tag : String} (h : isVoid tag = false) (children : List Html) :
    (plain tag children).tags = tag :: allTags children ++ ["/" ++ tag] := by
  have bare : opening tag [] = tag := String.append_empty
  rw [plain, tags, h, bare]
  rfl

theorem tags_styled {tag : String} (h : isVoid tag = false) (style : String)
    (children : List Html) : (styled tag style children).tags =
      (tag ++ " class=\"" ++ style ++ "\"") :: allTags children ++ ["/" ++ tag] := by
  rw [styled, tags, h, opening_class]
  rfl

theorem tags_styled_text {tag : String} (h : isVoid tag = false) (style s : String) :
    (styled tag style [.text s]).tags = styledTags tag style := tags_styled h style [.text s]

/-! ### Cells of nodes -/

theorem inFront_plain {tag : String} (h : isVoid tag = false) (children : List Html) (p : Markup) :
    (plain tag children).inFront p =
      consTag tag (allInFront children (consTag ("/" ++ tag) p)) := by
  have bare : opening tag [] = tag := String.append_empty
  rw [plain, inFront, h, bare]
  rfl

theorem inFront_styled {tag : String} (h : isVoid tag = false) (style : String)
    (children : List Html) (p : Markup) : (styled tag style children).inFront p =
      consTag (tag ++ " class=\"" ++ style ++ "\"") (allInFront children (consTag ("/" ++ tag) p)) := by
  rw [styled, inFront, h, opening_class]
  rfl

theorem inFront_styled_text {tag : String} (h : isVoid tag = false) (style s : String)
    (p : Markup) : (styled tag style [.text s]).inFront p =
      consTag (tag ++ " class=\"" ++ style ++ "\"") (consText s (consTag ("/" ++ tag) p)) :=
  inFront_styled h style [.text s] p

theorem table_consTag (tag : String) (p : Markup) :
    (consTag tag p).table = gather ⟨tag, p.lead⟩ p.table := rfl

theorem table_consText (s : String) (p : Markup) : (consText s p).table = p.table := rfl

/-- A tag without attributes. -/
def IsWord (tag : String) : Prop := ∀ c ∈ tag.toList, (c != ' ') = true

instance (tag : String) : Decidable (IsWord tag) := List.decidableBAll _ _

theorem name_word {tag : String} (h : IsWord tag) (behind : String) :
    (Mark.mk tag behind).name = tag := by
  rw [Mark.name, List.takeWhile_eq_self_iff.2 h, String.ofList_toList]

theorem name_styled {tag : String} (h : IsWord tag) (style behind : String) :
    (Mark.mk (tag ++ " class=\"" ++ style ++ "\"") behind).name = tag := by
  have split : (tag ++ " class=\"" ++ style ++ "\"").toList =
      tag.toList ++ ' ' :: ("class=\"" ++ style ++ "\"").toList := by
    simp [String.toList_append]
  rw [Mark.name, split, List.takeWhile_append_of_pos h, List.takeWhile_cons_of_neg (by decide),
    List.append_nil, String.ofList_toList]

theorem gather_row {m : Mark} (h : m.name = "tr") (found : List String × List (List String)) :
    gather m found = ([], found.1 :: found.2) := if_pos h

theorem gather_cell {m : Mark} (h : m.name = "th" ∨ m.name = "td")
    (found : List String × List (List String)) :
    gather m found = (m.behind :: found.1, found.2) := by
  have row : m.name ≠ "tr" := by
    rcases h with name | name <;> rw [name] <;> decide
  rw [gather, if_neg row, if_pos h]

theorem gather_other {m : Mark} (h : m.name ∉ ["tr", "th", "td"])
    (found : List String × List (List String)) : gather m found = found := by
  simp only [List.mem_cons, List.not_mem_nil, or_false, not_or] at h
  rw [gather, if_neg h.1, if_neg (not_or.2 h.2)]

/-- A text in a cell is a cell of the row under way. -/
theorem table_cell {tag : String} (h : tag = "th" ∨ tag = "td") (style s : String) (p : Markup) :
    ((styled tag style [.text s]).inFront p).table = (s :: p.table.1, p.table.2) := by
  have void : isVoid tag = false := by
    rcases h with rfl | rfl <;> rfl
  have word : IsWord tag := by
    rcases h with rfl | rfl <;> decide
  have close : (consTag ("/" ++ tag) p).table = p.table := by
    rw [table_consTag]
    rcases h with rfl | rfl
    · exact gather_other (by rw [name_word (by decide)]; decide) _
    · exact gather_other (by rw [name_word (by decide)]; decide) _
  have lead : (consText s (consTag ("/" ++ tag) p)).lead = s := String.append_empty
  have named : (Mark.mk (tag ++ " class=\"" ++ style ++ "\"") s).name = tag :=
    name_styled word style s
  rw [inFront_styled_text void, table_consTag, lead, gather_cell (by rw [named]; exact h),
    table_consText, close]

theorem table_cells {α : Type} {f : α → Html} {g : α → String}
    (h : ∀ a p, ((f a).inFront p).table = (g a :: p.table.1, p.table.2)) (xs : List α)
    (p : Markup) : (allInFront (xs.map f) p).table = (xs.map g ++ p.table.1, p.table.2) := by
  induction xs with
  | nil => rfl
  | cons x xs ih =>
    rw [List.map_cons, allInFront, h, ih]
    rfl

theorem table_other {tag : String} (h : IsWord tag) (other : tag ∉ ["tr", "th", "td"])
    (p : Markup) : (consTag tag p).table = p.table := by
  rw [table_consTag, gather_other (by rw [name_word h]; exact other)]

/-- A row takes all its cells, and what follows it are whole rows. -/
theorem table_row {children : List Html} {p : Markup} {texts : List String}
    (h : ∀ q : Markup, (allInFront children q).table = (texts ++ q.table.1, q.table.2))
    (whole : p.table.1 = []) :
    ((plain "tr" children).inFront p).table = ([], texts :: p.table.2) := by
  have close : (consTag ("/" ++ "tr") p).table = p.table := table_other (by decide) (by decide) p
  rw [inFront_plain rfl, table_consTag, gather_row (name_word (by decide) _), h, close, whole,
    List.append_nil]

theorem table_rows {α : Type} {f : α → Html} {g : α → List String}
    (h : ∀ a p, p.table.1 = [] → ((f a).inFront p).table = ([], g a :: p.table.2)) (xs : List α)
    {p : Markup} (whole : p.table.1 = []) :
    (allInFront (xs.map f) p).table = ([], xs.map g ++ p.table.2) := by
  induction xs with
  | nil => rw [List.map_nil, allInFront, List.map_nil, List.nil_append, ← whole]
  | cons x xs ih =>
    rw [List.map_cons, allInFront, h _ _ (by rw [ih]), ih]
    rfl

/-! ### Texts outside of cells -/

/-- A node that keeps markup tidy. -/
def Keeps (x : Html) : Prop := ∀ p : Markup, p.Tidy → (x.inFront p).Tidy

theorem tidy_consTag {p : Markup} (h : p.Tidy) (tag : String) : (consTag tag p).Tidy :=
  ⟨rfl, List.forall_mem_cons.2 ⟨fun text => absurd h.lead text, h.cells⟩⟩

theorem tidy_allInFront {xs : List Html} (h : ∀ x ∈ xs, x.Keeps) {p : Markup} (tidy : p.Tidy) :
    (allInFront xs p).Tidy := by
  induction xs with
  | nil => exact tidy
  | cons x xs ih =>
    obtain ⟨first, rest⟩ := List.forall_mem_cons.1 h
    exact first _ (ih rest)

theorem keeps_element {children : List Html} (h : ∀ x ∈ children, x.Keeps) (tag : String)
    (attributes : List (String × String)) : (element tag attributes children).Keeps := by
  intro p tidy
  rw [inFront]
  split
  · exact tidy_consTag tidy _
  · exact tidy_consTag (tidy_allInFront h (tidy_consTag tidy _)) _

theorem keeps_cell {tag : String} (h : tag = "th" ∨ tag = "td") (style s : String) :
    (styled tag style [.text s]).Keeps := by
  intro p tidy
  have void : isVoid tag = false := by
    rcases h with rfl | rfl <;> rfl
  have word : IsWord tag := by
    rcases h with rfl | rfl <;> decide
  rw [inFront_styled_text void]
  refine ⟨rfl, List.forall_mem_cons.2 ⟨fun _ => ?_, (tidy_consTag tidy _).cells⟩⟩
  rw [name_styled word]
  exact h

end Html

open Html Markup

/-! ### The grid -/

/-- The texts of the row of a symbol. -/
def rowTexts (cells : List Json.Value) (timeframes : List String) (symbol : String) : List String :=
  symbol :: timeframes.map fun timeframe =>
    (cellScore cells symbol timeframe).elim "-" Binary64.signedFixed

/-- The colours of the row of a symbol. -/
def rowColours (cells : List Json.Value) (timeframes : List String) (symbol : String) :
    List String :=
  timeframes.map fun timeframe => scoreClass (cellScore cells symbol timeframe)

theorem scoreText_eq (score : Option Binary64) :
    scoreText score = score.elim "-" Binary64.signedFixed := by
  cases score <;> rfl

theorem table_gridRow (cells : List Json.Value) (timeframes : List String) (symbol : String)
    (p : Markup) (whole : p.table.1 = []) :
    ((gridRow cells timeframes symbol).inFront p).table =
      ([], rowTexts cells timeframes symbol :: p.table.2) := by
  refine table_row (fun q => ?_) whole
  have places : ∀ timeframe q, ((place (cellScore cells symbol timeframe)).inFront q).table =
      ((cellScore cells symbol timeframe).elim "-" Binary64.signedFixed :: q.table.1, q.table.2) := by
    intro timeframe q
    rw [place, table_cell (.inr rfl), scoreText_eq]
  rw [allInFront, table_cell (.inr rfl), table_cells places]
  rfl

theorem table_headerRow (timeframes : List String) (p : Markup) (whole : p.table.1 = []) :
    ((headerRow timeframes).inFront p).table = ([], ("Symbol" :: timeframes) :: p.table.2) := by
  refine table_row (fun q => ?_) whole
  rw [allInFront, table_cell (.inl rfl), table_cells fun timeframe q => table_cell (.inl rfl) _ _ q,
    List.map_id']
  rfl

theorem keeps_gridRow (cells : List Json.Value) (timeframes : List String) (symbol : String) :
    (gridRow cells timeframes symbol).Keeps := by
  refine keeps_element (List.forall_mem_cons.2 ⟨keeps_cell (.inr rfl) _ _, ?_⟩) _ _
  exact List.forall_mem_map.2 fun timeframe _ => keeps_cell (.inr rfl) _ _

theorem keeps_headerRow (timeframes : List String) : (headerRow timeframes).Keeps := by
  refine keeps_element (List.forall_mem_cons.2 ⟨keeps_cell (.inl rfl) _ _, ?_⟩) _ _
  exact List.forall_mem_map.2 fun timeframe _ => keeps_cell (.inl rfl) _ _

theorem tags_gridRow (cells : List Json.Value) (timeframes : List String) (symbol : String) :
    (gridRow cells timeframes symbol).tags = symbolTags (rowColours cells timeframes symbol) := by
  rw [gridRow, tags_plain rfl, allTags, allTags_map, tags_styled_text rfl, symbolTags, rowTags,
    List.flatten_cons, rowColours, List.map_map, ← List.flatMap_def]
  simp only [place, tags_styled_text (rfl : isVoid "td" = false)]
  rfl

theorem tags_headerRow (timeframes : List String) :
    (headerRow timeframes).tags = headerTags timeframes.length := by
  rw [headerRow, tags_plain rfl, allTags, allTags_map, tags_styled_text rfl, headerTags, rowTags,
    List.flatten_cons, List.flatMap_def]
  simp only [tags_styled_text (rfl : isVoid "th" = false), List.map_const']
  rfl

/-- A grid with nothing in its rows or its columns is a note. -/
theorem grid_of_empty {s : Snapshot} (h : s.symbols = [] ∨ s.timeframeCodes = []) :
    grid s = styled "p" "text-neutral-600 dark:text-neutral-400" [.text "No heatmap data"] :=
  if_pos h

theorem grid_of_full {s : Snapshot} (h : ¬(s.symbols = [] ∨ s.timeframeCodes = [])) :
    grid s = styled "table" "min-w-full text-sm border-collapse" [
      plain "thead" [headerRow s.timeframeCodes],
      plain "tbody" (s.symbols.map (gridRow s.cells s.timeframeCodes))] :=
  if_neg h

/-- The colours of all rows. -/
def gridColours (s : Snapshot) : List (List String) :=
  s.symbols.map (rowColours s.cells s.timeframeCodes)

theorem tags_grid (s : Snapshot) :
    (grid s).tags = gridTags s.timeframeCodes.length (gridColours s) := by
  have empty : (gridColours s = [] ∨ s.timeframeCodes.length = 0) ↔
      (s.symbols = [] ∨ s.timeframeCodes = []) := by
    rw [gridColours, List.map_eq_nil_iff, List.length_eq_zero_iff]
  by_cases h : s.symbols = [] ∨ s.timeframeCodes = []
  · rw [grid_of_empty h, gridTags, if_pos (empty.2 h), tags_styled_text rfl]
  · have start : "table" ++ " class=\"" ++ "min-w-full text-sm border-collapse" ++ "\"" =
        "table class=\"min-w-full text-sm border-collapse\"" := rfl
    have rows : allTags (s.symbols.map (gridRow s.cells s.timeframeCodes)) =
        (gridColours s).flatMap symbolTags := by
      rw [allTags_map, gridColours, List.flatMap_map]
      simp only [tags_gridRow]
    rw [grid_of_full h, gridTags, if_neg (mt empty.1 h), tags_styled rfl, start, allTags, allTags,
      allTags, tags_plain rfl, tags_plain rfl, allTags, allTags, tags_headerRow, rows]
    simp only [List.cons_append, List.append_assoc, List.nil_append, List.append_nil]
    rfl

theorem table_head (timeframes : List String) {p : Markup} (whole : p.table.1 = []) :
    ((plain "thead" [headerRow timeframes]).inFront p).table =
      ([], ("Symbol" :: timeframes) :: p.table.2) := by
  have close : (consTag ("/" ++ "thead") p).table = p.table :=
    table_other (by decide) (by decide) p
  rw [inFront_plain rfl, table_other (by decide) (by decide), allInFront, allInFront,
    table_headerRow _ _ (by rw [close, whole]), close]

theorem table_body (s : Snapshot) {p : Markup} (whole : p.table.1 = []) :
    ((plain "tbody" (s.symbols.map (gridRow s.cells s.timeframeCodes))).inFront p).table =
      ([], s.symbols.map (rowTexts s.cells s.timeframeCodes) ++ p.table.2) := by
  have close : (consTag ("/" ++ "tbody") p).table = p.table :=
    table_other (by decide) (by decide) p
  rw [inFront_plain rfl, table_other (by decide) (by decide),
    table_rows (table_gridRow s.cells s.timeframeCodes) s.symbols (by rw [close, whole]), close]

theorem table_grid {s : Snapshot} (h : ¬(s.symbols = [] ∨ s.timeframeCodes = [])) :
    (grid s).markup.rows =
      ("Symbol" :: s.timeframeCodes) :: s.symbols.map (rowTexts s.cells s.timeframeCodes) := by
  have named (behind : String) : (Mark.mk ("table" ++ " class=\"" ++
      "min-w-full text-sm border-collapse" ++ "\"") behind).name ∉ ["tr", "th", "td"] := by
    rw [name_styled (by decide)]
    decide
  have ended : (consTag ("/" ++ "table") ⟨"", []⟩).table = ([], []) :=
    table_other (by decide) (by decide) _
  have body := table_body s (congrArg Prod.fst ended)
  rw [Html.markup, grid_of_full h, inFront_styled rfl, Markup.rows, table_consTag,
    gather_other (named _), allInFront, allInFront, allInFront,
    table_head _ (congrArg Prod.fst body), body, ended, List.append_nil]

theorem tidy_grid {s : Snapshot} (h : ¬(s.symbols = [] ∨ s.timeframeCodes = [])) :
    (grid s).markup.Tidy := by
  have keeps : (grid s).Keeps := by
    rw [grid_of_full h]
    refine keeps_element (List.forall_mem_cons.2 ⟨keeps_element ?_ _ _, ?_⟩) _ _
    · exact List.forall_mem_singleton.2 (keeps_headerRow _)
    · refine List.forall_mem_singleton.2 (keeps_element (List.forall_mem_map.2 ?_) _ _)
      exact fun symbol _ => keeps_gridRow _ _ symbol
  exact keeps _ ⟨rfl, nofun⟩

theorem isTag_styledTags {tag style : String} (ht : IsTag tag) (hs : IsTag style) :
    ∀ t ∈ styledTags tag style, IsTag t := by
  have start : IsTag (tag ++ " class=\"" ++ style ++ "\"") :=
    ((ht.append (by decide)).append hs).append (by decide)
  have stop : IsTag ("/" ++ tag) := IsTag.append (by decide) ht
  exact List.forall_mem_cons.2 ⟨start, List.forall_mem_singleton.2 stop⟩

theorem isTag_rowTags {cells : List (List String)} (h : ∀ cell ∈ cells, ∀ t ∈ cell, IsTag t) :
    ∀ t ∈ rowTags cells, IsTag t := by
  intro t mem
  rw [rowTags, List.mem_append, List.mem_cons, List.mem_flatten, List.mem_singleton] at mem
  rcases mem with (rfl | ⟨cell, cells, mem⟩) | rfl
  · decide
  · exact h cell cells t mem
  · decide

theorem isTag_headerTags (columns : Nat) : ∀ t ∈ headerTags columns, IsTag t := by
  refine isTag_rowTags (List.forall_mem_cons.2 ⟨by decide, fun cell mem => ?_⟩)
  rw [List.eq_of_mem_replicate mem]
  decide

theorem isTag_symbolTags {colours : List String} (h : ∀ colour ∈ colours, IsTag colour) :
    ∀ t ∈ symbolTags colours, IsTag t := by
  refine isTag_rowTags (List.forall_mem_cons.2 ⟨by decide, List.forall_mem_map.2 ?_⟩)
  intro colour mem
  refine isTag_styledTags (by decide) ?_
  split
  · decide
  · exact IsTag.append (by decide) (h colour mem)

theorem isTag_gridTags {columns : Nat} {colours : List (List String)}
    (h : ∀ row ∈ colours, ∀ colour ∈ row, IsTag colour) :
    ∀ t ∈ gridTags columns colours, IsTag t := by
  intro t mem
  rw [gridTags] at mem
  split at mem
  · exact isTag_styledTags (by decide) (by decide) t mem
  · simp only [List.mem_append, List.mem_flatMap] at mem
    rcases mem with (((start | header) | middle) | ⟨row, inRows, mem⟩) | stop
    · revert t; decide
    · exact isTag_headerTags columns t header
    · revert t; decide
    · exact isTag_symbolTags (h row inRows) t mem
    · revert t; decide

theorem isTag_scoreClass (score : Option Binary64) : IsTag (scoreClass score) := by
  cases score with
  | none => decide
  | some x =>
    rw [scoreClass]
    split_ifs <;> decide

theorem read_grid (s : Snapshot) : Markup.read (grid s).render = (grid s).markup := by
  refine read_render fun m mem => ?_
  have tag : m.tag ∈ (grid s).markup.tags := List.mem_map_of_mem mem
  rw [tags_markup, tags_grid] at tag
  refine isTag_gridTags (fun row inRows colour inRow => ?_) _ tag
  obtain ⟨symbol, -, rfl⟩ := List.mem_map.1 inRows
  obtain ⟨timeframe, -, rfl⟩ := List.mem_map.1 inRow
  exact isTag_scoreClass _

theorem timeframeCodes_eq_nil_iff {s : Snapshot} :
    s.timeframeCodes = [] ↔ s.timeframes = none ∨ s.timeframes = some [] := by
  rw [Snapshot.timeframeCodes]
  cases s.timeframes <;> simp

/-- The written grid is a note if there are no symbols or no timeframes. Else it is a table, and
split at its tags it gives back the header with the timeframes and for each symbol a row with its
scores, a dash where there is none, all in the order of the snapshot, and no text elsewhere. The
tags, in their order, are those for the number of columns and the colours of each row, so no text of
a symbol or a timeframe adds or removes one. -/
theorem grid_read (s : Snapshot) :
    let written := (grid s).render
    let score symbol timeframe := cellScore s.cells symbol timeframe
    (s.symbols = [] ∨ s.timeframes = none ∨ s.timeframes = some [] →
      written = "<p class=\"text-neutral-600 dark:text-neutral-400\">No heatmap data</p>") ∧
    (∀ timeframes, s.symbols ≠ [] → s.timeframes = some timeframes → timeframes ≠ [] →
      (Markup.read written).rows = ("Symbol" :: timeframes) :: s.symbols.map (fun symbol =>
        symbol :: timeframes.map fun timeframe =>
          (score symbol timeframe).elim "-" Binary64.signedFixed) ∧
      (Markup.read written).Tidy) ∧
    (Markup.read written).tags = gridTags s.timeframeCodes.length (s.symbols.map fun symbol =>
      s.timeframeCodes.map fun timeframe => scoreClass (score symbol timeframe)) := by
  intro written score
  refine ⟨fun empty => ?_, fun timeframes symbols given filled => ?_, ?_⟩
  · rw [← timeframeCodes_eq_nil_iff] at empty
    rw [show written = (grid s).render from rfl, grid_of_empty empty]
    rfl
  · have codes : s.timeframeCodes = timeframes := by
      rw [Snapshot.timeframeCodes, given]
      rfl
    have full : ¬(s.symbols = [] ∨ s.timeframeCodes = []) :=
      not_or.2 ⟨symbols, codes ▸ filled⟩
    rw [read_grid, table_grid full, codes]
    exact ⟨rfl, tidy_grid full⟩
  · rw [read_grid, tags_markup, tags_grid]
    rfl

/-- A symbol that looks like tags, twice, and a timeframe that looks like an entity. -/
theorem grid_read_brackets :
    let score : Json.Value := .object [("score", .nat 1), ("symbol", .string "</td><td>"),
      ("timeframe", .string "M1")]
    let s : Snapshot := ⟨["</td><td>", "</td><td>"], some ["M1", "&lt;"], [score], "", []⟩
    s.symbols ≠ [] ∧ s.timeframes = some ["M1", "&lt;"] ∧
    (Markup.read (grid s).render).rows =
      [["Symbol", "M1", "&lt;"], ["</td><td>", "+1.00", "-"], ["</td><td>", "+1.00", "-"]] ∧
    (grid { s with timeframes := some [] }).render =
      "<p class=\"text-neutral-600 dark:text-neutral-400\">No heatmap data</p>" := by
  intro score s
  obtain ⟨-, table, -⟩ := grid_read s
  obtain ⟨note, -, -⟩ := grid_read { s with timeframes := some [] }
  have symbols : s.symbols ≠ [] := List.cons_ne_nil _ _
  obtain ⟨rows, -⟩ := table _ symbols rfl (List.cons_ne_nil _ _)
  exact ⟨symbols, rfl, rows.trans (by decide +kernel), note (.inr (.inr rfl))⟩

end HeatFeed.View
