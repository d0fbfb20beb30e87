import HeatFeed.Proofs.Json.Literal
import HeatFeed.Proofs.Json.Numeral

/-!
# Items between brackets

What stands between the brackets of a list or an object: items with commas between them and white
space around every token. A reader of lists accepts exactly the rows of what the reader of one item
accepts, and a reader of objects the rows of members, of which it gathers one after another.
-/

namespace HeatFeed.Json

open Numeral (Ends)
open StringLiteral (Literal)

/-- White space. -/
def Blank (bs : List UInt8) : Prop := ∀ b ∈ bs, Reader.isSpace b = true

/-- Items with commas between them, behind an opening bracket or behind an item. -/
inductive Items {α : Type} (R : α → List UInt8 → Prop) : Bool → List α → List UInt8 → Prop where
  | none {first : Bool} {ws : List UInt8} : Blank ws → Items R first [] ws
  | first {x : α} {xs : List α} {before text tail : List UInt8} :
    Blank before → R x text → Items R false xs tail →
    Items R true (x :: xs) (before ++ (text ++ tail))
  | later {x : α} {xs : List α} {before after text tail : List UInt8} :
    Blank before → Blank after → R x text → Items R false xs tail →
    Items R false (x :: xs) (before ++ ascii ',' :: (after ++ (text ++ tail)))

/-- A row of items. -/
abbrev Row {α : Type} (R : α → List UInt8 → Prop) : List α → List UInt8 → Prop := Items R true

/-- A key, a colon and the text of a value. -/
def MemberText {β : Type} (R : β → List UInt8 → Prop) (m : String × β) (text : List UInt8) : Prop :=
  ∃ key before after value, Literal m.1 key ∧ Blank before ∧ Blank after ∧ R m.2 value ∧
    text = key ++ (before ++ ascii ':' :: (after ++ value))

/-! ### White space -/

theorem blank_nil : Blank [] := nofun

theorem Blank.append {xs ys : List UInt8} (hx : Blank xs) (hy : Blank ys) : Blank (xs ++ ys) :=
  List.forall_mem_append.2 ⟨hx, hy⟩

theorem skipSpace_append {ws : List UInt8} (h : Blank ws) (bs : List UInt8) :
    Reader.skipSpace (ws ++ bs) = Reader.skipSpace bs := List.dropWhile_append_of_pos h

theorem skipSpace_blank {ws bs : List UInt8} (h : Blank ws) {b : UInt8}
    (hb : Reader.isSpace b = false) : Reader.skipSpace (ws ++ b :: bs) = b :: bs := by
  rw [skipSpace_append h]
  exact List.dropWhile_cons_of_neg (by rw [hb]; nofun)

theorem exists_blank (bs : List UInt8) : ∃ ws, Blank ws ∧ bs = ws ++ Reader.skipSpace bs :=
  ⟨bs.takeWhile Reader.isSpace, fun _ hb => List.mem_takeWhile_imp hb,
    List.takeWhile_append_dropWhile.symm⟩

/-- What goes on with the first octet behind white space finds one. -/
theorem exists_token {α : Type} {e : Error} {f : UInt8 → List UInt8 → Except Error α}
    {bs : List UInt8} {r : α} (h : (match Reader.skipSpace bs with
      | [] => .error e
      | b :: rest => f b rest : Except Error α) = .ok r) :
    ∃ ws b rest, Blank ws ∧ bs = ws ++ b :: rest ∧ f b rest = .ok r := by
  obtain ⟨ws, blank, split⟩ := exists_blank bs
  generalize Reader.skipSpace bs = behind at h split
  subst split
  cases behind with
  | nil => cases h
  | cons b rest => exact ⟨ws, b, rest, blank, rfl, h⟩

theorem mem_of_isSpace {b : UInt8} (h : Reader.isSpace b = true) :
    b ∈ [ascii ' ', ascii '\t', ascii '\n', ascii '\r'] := by
  simp only [Reader.isSpace, Bool.or_eq_true, beq_iff_eq, or_assoc] at h
  simpa using h

/-- Neither white space nor the punctuation behind an item goes on with a numeral. -/
theorem ends_cons {b : UInt8} (h : b ∈ [ascii ' ', ascii '\t', ascii '\n', ascii '\r',
    ascii ',', ascii ']', ascii '\x7d']) (rest : List UInt8) : Ends (b :: rest) := by
  have marks : ∀ b ∈ [ascii ' ', ascii '\t', ascii '\n', ascii '\r', ascii ',', ascii ']',
      ascii '\x7d'], Digits.value? b = none ∧ b ≠ ascii '.' ∧ b ≠ ascii 'e' ∧ b ≠ ascii 'E' :=
    forall_mem_of_all (by decide)
  rintro c hc
  cases hc
  exact marks b h

theorem Blank.ends {ws rest : List UInt8} (h : Blank ws) (ends : Ends rest) :
    Ends (ws ++ rest) := by
  cases ws with
  | nil => exact ends
  | cons b ws => exact ends_cons (List.mem_append_left [_, _, _] (mem_of_isSpace (h b (.head _)))) _

/-- What closes a bracket. -/
def IsClosing (b : UInt8) : Prop := b = ascii ']' ∨ b = ascii '\x7d'

theorem IsClosing.ends {b : UInt8} (h : IsClosing b) (rest : List UInt8) : Ends (b :: rest) := by
  rcases h with rfl | rfl
  · exact ends_cons (by decide) rest
  · exact ends_cons (by decide) rest

/-! ### Items -/

namespace Items

variable {α β : Type} {R S : α → List UInt8 → Prop}

/-- What follows an item ends it. -/
theorem ends {xs : List α} {tail : List UInt8} (h : Items R false xs tail) {b : UInt8}
    (closing : IsClosing b) (rest : List UInt8) : Ends (tail ++ b :: rest) := by
  cases h with
  | none blank => exact blank.ends (closing.ends rest)
  | later blank _ _ _ =>
    rw [List.append_assoc, List.cons_append]
    exact blank.ends (ends_cons (by decide) _)

theorem length_le (pos : ∀ {x text}, R x text → 0 < text.length) {first : Bool} {xs : List α}
    {inner : List UInt8} (h : Items R first xs inner) : xs.length ≤ inner.length := by
  induction h with
  | none _ => exact Nat.zero_le _
  | first _ hx _ ih =>
    have := pos hx
    simp only [List.length_cons, List.length_append]
    omega
  | later _ _ _ _ ih =>
    simp only [List.length_cons, List.length_append]
    omega

/-- Rows of one kind are rows of another kind that holds of as many texts. -/
theorem imp (imp : ∀ x text, R x text → S x text) {first : Bool} {xs : List α}
    {inner : List UInt8} (h : Items R first xs inner) : Items S first xs inner := by
  induction h with
  | none blank => exact .none blank
  | first before hx _ ih => exact .first before (imp _ _ hx) ih
  | later before after hx _ ih => exact .later before after (imp _ _ hx) ih

theorem exists_text {first : Bool} {xs : List α} {inner : List UInt8} (h : Items R first xs inner)
    {x : α} (hx : x ∈ xs) : ∃ text, R x text := by
  induction h with
  | none _ => cases hx
  | first _ text _ ih =>
    rcases List.mem_cons.1 hx with rfl | hx
    · exact ⟨_, text⟩
    · exact ih hx
  | later _ _ text _ ih =>
    rcases List.mem_cons.1 hx with rfl | hx
    · exact ⟨_, text⟩
    · exact ih hx

/-- A row of what a function makes of the items. -/
theorem map_iff {f : β → α} {first : Bool} {xs : List β} {inner : List UInt8} :
    Items R first (xs.map f) inner ↔ Items (fun x => R (f x)) first xs inner := by
  constructor
  · intro h
    generalize same : xs.map f = ys at h
    induction h generalizing xs with
    | none blank =>
      rw [List.map_eq_nil_iff.1 same]
      exact .none blank
    | first before hx _ ih =>
      obtain ⟨x, xs, rfl, rfl, later⟩ := List.map_eq_cons_iff.1 same
      exact .first before hx (ih later)
    | later before after hx _ ih =>
      obtain ⟨x, xs, rfl, rfl, later⟩ := List.map_eq_cons_iff.1 same
      exact .later before after hx (ih later)
  · intro h
    induction h with
    | none blank => exact .none blank
    | first before hx _ ih => exact .first before hx ih
    | later before after hx _ ih => exact .later before after hx ih

end Items

/-! ### Lists -/

section

variable {α : Type} {item : Reader α} {R : α → List UInt8 → Prop}

/-- A reader of one item accepts certain texts behind white space, and nothing else. -/
structure Reads (item : Reader α) (R : α → List UInt8 → Prop) : Prop where
  sound {bs rest : List UInt8} {x : α} : item bs = .ok (x, rest) →
    ∃ ws text, Blank ws ∧ R x text ∧ bs = ws ++ (text ++ rest)
  complete {x : α} {ws text rest : List UInt8} : R x text → Blank ws → Ends rest →
    item (ws ++ (text ++ rest)) = .ok (x, rest)
  start {x : α} {text : List UInt8} : R x text → ∃ b behind, text = b :: behind ∧
    Reader.isSpace b = false ∧ b ≠ ascii ']'

open Reader (nextElement elements list)

/-- After an opening bracket comes the end or an item, after an item the end or a comma. -/
inductive Onward (closing : UInt8) (mark : List UInt8) :
    Bool → List UInt8 → Reader.Next → Prop where
  | done {first : Bool} {ws rest : List UInt8} : Blank ws →
    Onward closing mark first (ws ++ closing :: rest) (.done rest)
  | first {ws rest : List UInt8} : Blank ws →
    Onward closing mark true (ws ++ (mark ++ rest)) (.item rest)
  | later {before after rest : List UInt8} : Blank before → Blank after →
    Onward closing mark false (before ++ ascii ',' :: (after ++ (mark ++ rest))) (.item rest)

theorem onward_of_nextElement {first : Bool} {bs : List UInt8} {next : Reader.Next}
    (h : nextElement first bs = .ok next) : Onward (ascii ']') [] first bs next := by
  rw [nextElement] at h
  obtain ⟨ws, b, rest, blank, rfl, found⟩ := exists_token h
  split at found
  · rename_i closing
    cases found
    rw [closing]
    exact .done blank
  split at found
  · rename_i isFirst
    cases found
    rw [isFirst]
    exact .first blank
  rename_i later
  split at found
  · rename_i comma
    obtain ⟨ws', c, rest, blank', rfl, item⟩ := exists_token found
    split at item
    · cases item
    · cases item
      rw [comma, Bool.eq_false_iff.2 later]
      exact .later blank blank'
  · cases found

theorem nextElement_done {first : Bool} {ws rest : List UInt8} (blank : Blank ws) :
    nextElement first (ws ++ ascii ']' :: rest) = .ok (.done rest) := by
  rw [nextElement, skipSpace_blank blank (by decide)]
  exact if_pos rfl

theorem nextElement_first (rest : List UInt8) {ws : List UInt8} {b : UInt8} (blank : Blank ws)
    (space : Reader.isSpace b = false) (closing : b ≠ ascii ']') :
    nextElement true (ws ++ b :: rest) = .ok (.item (b :: rest)) := by
  rw [nextElement, skipSpace_blank blank space]
  exact (if_neg closing).trans (if_pos rfl)

theorem nextElement_later (rest : List UInt8) {before after : List UInt8} {b : UInt8}
    (hb : Blank before) (ha : Blank after) (space : Reader.isSpace b = false)
    (closing : b ≠ ascii ']') :
    nextElement false (before ++ ascii ',' :: (after ++ b :: rest)) = .ok (.item (b :: rest)) := by
  rw [nextElement, skipSpace_blank hb (by decide)]
  dsimp only
  rw [if_neg (by decide), if_neg nofun, if_pos rfl, skipSpace_blank ha space]
  exact if_neg closing

theorem items_of_elements (h : Reads item R) {rounds : Nat} {first : Bool} {bs rest : List UInt8}
    {xs : List α} (read : elements item rounds first bs = .ok (xs, rest)) :
    ∃ inner, Items R first xs inner ∧ bs = inner ++ ascii ']' :: rest := by
  induction rounds generalizing first bs xs with
  | zero => cases read
  | succ rounds ih =>
    rw [elements] at read
    split at read
    · cases read
    · rename_i done
      cases read
      cases onward_of_nextElement done with
      | done blank => exact ⟨_, .none blank, rfl⟩
    · rename_i next
      split at read
      · cases read
      · rename_i found
        split at read
        · cases read
        · rename_i others
          cases read
          obtain ⟨ws, text, blank, hx, rfl⟩ := h.sound found
          obtain ⟨tail, more, rfl⟩ := ih others
          cases onward_of_nextElement next with
          | first before =>
            refine ⟨_, .first (before.append blank) hx more, ?_⟩
            simp only [List.append_assoc, List.nil_append]
          | later before after =>
            refine ⟨_, .later before (after.append blank) hx more, ?_⟩
            simp only [List.append_assoc, List.cons_append, List.nil_append]

/-- What is read as the elements of a list is a row of items. -/
theorem row_of_list (h : Reads item R) {bs rest : List UInt8} {xs : List α}
    (read : list item bs = .ok (xs, rest)) :
    ∃ inner, Row R xs inner ∧ bs = inner ++ ascii ']' :: rest := items_of_elements h read

/-- One element, and those behind it. -/
theorem elements_cons (h : Reads item R) {rounds : Nat} {first : Bool}
    {bs text tail rest : List UInt8} {x : α} {xs : List α}
    (next : nextElement first bs = .ok (.item (text ++ (tail ++ ascii ']' :: rest))))
    (hx : R x text) (more : Items R false xs tail)
    (ih : elements item rounds false (tail ++ ascii ']' :: rest) = .ok (xs, rest)) :
    elements item (rounds + 1) first bs = .ok (x :: xs, rest) := by
  have read : item (text ++ (tail ++ ascii ']' :: rest)) = .ok (x, tail ++ ascii ']' :: rest) :=
    h.complete hx blank_nil (more.ends (.inl rfl) rest)
  rw [elements, next]
  dsimp only
  rw [read]
  dsimp only
  rw [ih]

theorem elements_of_items (h : Reads item R) {first : Bool} {xs : List α} {inner : List UInt8}
    (items : Items R first xs inner) (rounds : Nat) (rest : List UInt8) :
    elements item (rounds + xs.length + 1) first (inner ++ ascii ']' :: rest) = .ok (xs, rest) := by
  induction items with
  | none blank => rw [elements, nextElement_done blank]
  | @first x xs before text tail hb hx more ih =>
    refine elements_cons h ?_ hx more ih
    obtain ⟨b, behind, rfl, space, closing⟩ := h.start hx
    rw [List.append_assoc, List.append_assoc]
    exact nextElement_first _ hb space closing
  | @later x xs before after text tail hb ha hx more ih =>
    refine elements_cons h ?_ hx more ih
    obtain ⟨b, behind, rfl, space, closing⟩ := h.start hx
    rw [List.append_assoc, List.cons_append, List.append_assoc, List.append_assoc]
    exact nextElement_later _ hb ha space closing

/-- A row of items is read as the elements of a list. -/
theorem list_of_row (h : Reads item R) {xs : List α} {inner : List UInt8} (row : Row R xs inner)
    (rest : List UInt8) : list item (inner ++ ascii ']' :: rest) = .ok (xs, rest) := by
  have pos {x : α} {text : List UInt8} (hx : R x text) : 0 < text.length := by
    obtain ⟨b, behind, rfl, -, -⟩ := h.start hx
    exact Nat.zero_lt_succ _
  have enough : xs.length ≤ (inner ++ ascii ']' :: rest).length := by
    rw [List.length_append]
    exact Nat.le_add_right_of_le (row.length_le pos)
  obtain ⟨rounds, split⟩ := Nat.exists_eq_add_of_le' enough
  rw [list, split]
  exact elements_of_items h row rounds rest

end

/-! ### Objects -/

section

variable {σ β : Type} {member : σ → String → Reader σ} {R : β → List UInt8 → Prop}
  {put : σ → String → β → σ → Prop}

open Reader (nextMember members object)

/-- A reader of members accepts a colon and certain texts behind every key, and `put` says what it
makes of them. -/
structure Gathers (member : σ → String → Reader σ) (R : β → List UInt8 → Prop)
    (put : σ → String → β → σ → Prop) : Prop where
  sound {s s' : σ} {key : String} {bs rest : List UInt8} : member s key bs = .ok (s', rest) →
    ∃ before after v text, Blank before ∧ Blank after ∧ R v text ∧ put s key v s' ∧
      bs = before ++ ascii ':' :: (after ++ (text ++ rest))
  complete {s s' : σ} {key : String} {v : β} {before after text rest : List UInt8} :
    R v text → put s key v s' → Blank before → Blank after → Ends rest →
    member s key (before ++ ascii ':' :: (after ++ (text ++ rest))) = .ok (s', rest)

/-- What is made of several members, one after another. -/
inductive Puts (put : σ → String → β → σ → Prop) : σ → List (String × β) → σ → Prop where
  | nil {s : σ} : Puts put s [] s
  | cons {s s' s'' : σ} {key : String} {v : β} {ms : List (String × β)} :
    put s key v s' → Puts put s' ms s'' → Puts put s ((key, v) :: ms) s''

theorem onward_of_nextMember {first : Bool} {bs : List UInt8} {next : Reader.Next}
    (h : nextMember first bs = .ok next) : Onward (ascii '\x7d') [ascii '"'] first bs next := by
  rw [nextMember] at h
  obtain ⟨ws, b, rest, blank, rfl, found⟩ := exists_token h
  split at found
  · rename_i closing
    cases found
    rw [closing]
    exact .done blank
  split at found
  · rename_i isFirst
    split at found
    · rename_i quote
      cases found
      rw [isFirst, quote]
      exact .first blank
    · cases found
  rename_i later
  split at found
  · rename_i comma
    obtain ⟨ws', c, rest, blank', rfl, item⟩ := exists_token found
    split at item
    · rename_i quote
      cases item
      rw [comma, quote, Bool.eq_false_iff.2 later]
      exact .later blank blank'
    split at item
    · cases item
    · cases item
  · cases found

theorem nextMember_done {first : Bool} {ws rest : List UInt8} (blank : Blank ws) :
    nextMember first (ws ++ ascii '\x7d' :: rest) = .ok (.done rest) := by
  rw [nextMember, skipSpace_blank blank (by decide)]
  exact if_pos rfl

theorem nextMember_first (rest : List UInt8) {ws : List UInt8} (blank : Blank ws) :
    nextMember true (ws ++ ascii '"' :: rest) = .ok (.item rest) := by
  rw [nextMember, skipSpace_blank blank (by decide)]
  rfl

theorem nextMember_later (rest : List UInt8) {before after : List UInt8} (hb : Blank before)
    (ha : Blank after) :
    nextMember false (before ++ ascii ',' :: (after ++ ascii '"' :: rest)) = .ok (.item rest) := by
  rw [nextMember, skipSpace_blank hb (by decide)]
  dsimp only
  rw [if_neg (by decide), if_neg nofun, if_pos rfl, skipSpace_blank ha (by decide)]
  rfl

/-- A key and what the reader of members takes behind it. -/
theorem memberText_of_read (h : Gathers member R put) {s s' : σ} {key : String}
    {bs behind rest : List UInt8} (name : StringLiteral.read bs = .ok (key, behind))
    (read : member s key behind = .ok (s', rest)) :
    ∃ v text, MemberText R (key, v) text ∧ put s key v s' ∧ ascii '"' :: bs = text ++ rest := by
  obtain ⟨keyText, split, literal⟩ := StringLiteral.literal_of_read name
  obtain ⟨before, after, v, text, hb, ha, hv, hput, rfl⟩ := h.sound read
  refine ⟨v, _, ⟨keyText, before, after, text, literal, hb, ha, hv, rfl⟩, hput, ?_⟩
  rw [split]
  simp only [List.append_assoc, List.cons_append]

theorem items_of_members (h : Gathers member R put) {rounds : Nat} {first : Bool} {s s' : σ}
    {bs rest : List UInt8} (read : members member rounds first s bs = .ok (s', rest)) :
    ∃ ms inner, Items (MemberText R) first ms inner ∧ Puts put s ms s' ∧
      bs = inner ++ ascii '\x7d' :: rest := by
  induction rounds generalizing first bs s with
  | zero => cases read
  | succ rounds ih =>
    rw [members] at read
    split at read
    · cases read
    · rename_i done
      cases read
      cases onward_of_nextMember done with
      | done blank => exact ⟨[], _, .none blank, .nil, rfl⟩
    · rename_i next
      split at read
      · cases read
      · rename_i name
        split at read
        · cases read
        · rename_i found
          obtain ⟨v, text, isMember, hput, split⟩ := memberText_of_read h name found
          obtain ⟨ms, tail, more, puts, rfl⟩ := ih read
          cases onward_of_nextMember next with
          | first before =>
            refine ⟨_, _, .first before isMember more, .cons hput puts, ?_⟩
            rw [List.singleton_append, split]
            simp only [List.append_assoc]
          | later before after =>
            refine ⟨_, _, .later before after isMember more, .cons hput puts, ?_⟩
            rw [List.singleton_append, split]
            simp only [List.append_assoc, List.cons_append]

/-- What is read as the members of an object is a row of members. -/
theorem row_of_object (h : Gathers member R put) {s s' : σ} {bs rest : List UInt8}
    (read : object member s bs = .ok (s', rest)) :
    ∃ ms inner, Row (MemberText R) ms inner ∧ Puts put s ms s' ∧
      bs = inner ++ ascii '\x7d' :: rest := items_of_members h read

theorem MemberText.exists_quote {m : String × β} {text : List UInt8} (h : MemberText R m text) :
    ∃ behind, text = ascii '"' :: behind := by
  obtain ⟨_, before, after, value, ⟨content, rfl, -⟩, -, -, -, rfl⟩ := h
  exact ⟨_, rfl⟩

/-- One member, and those behind it. -/
theorem members_cons (h : Gathers member R put) {rounds : Nat} {first : Bool} {s s' s'' : σ}
    {key : String} {v : β} {ms : List (String × β)} {bs behind tail rest : List UInt8}
    (next : nextMember first bs = .ok (.item (behind ++ (tail ++ ascii '\x7d' :: rest))))
    (isMember : MemberText R (key, v) (ascii '"' :: behind)) (hput : put s key v s')
    (more : Items (MemberText R) false ms tail)
    (ih : members member rounds false s' (tail ++ ascii '\x7d' :: rest) = .ok (s'', rest)) :
    members member (rounds + 1) first s bs = .ok (s'', rest) := by
  obtain ⟨keyText, before, after, value, literal, hb, ha, hv, split⟩ := isMember
  obtain ⟨inside, rfl, read⟩ := StringLiteral.read_of_literal literal
    (before ++ ascii ':' :: (after ++ (value ++ (tail ++ ascii '\x7d' :: rest))))
  obtain rfl : behind = inside ++ (before ++ ascii ':' :: (after ++ value)) :=
    (List.cons.inj split).2
  have gathered := h.complete hv hput hb ha (more.ends (.inr rfl) rest)
  rw [members, next]
  simp only [List.append_assoc, List.cons_append]
  rw [read]
  dsimp only
  rw [gathered]
  exact ih

theorem members_of_items (h : Gathers member R put) {first : Bool} {ms : List (String × β)}
    {inner : List UInt8} (items : Items (MemberText R) first ms inner) {s s' : σ}
    (puts : Puts put s ms s') (rounds : Nat) (rest : List UInt8) :
    members member (rounds + ms.length + 1) first s (inner ++ ascii '\x7d' :: rest) =
      .ok (s', rest) := by
  induction items generalizing s with
  | none blank =>
    cases puts
    rw [members, nextMember_done blank]
  | @first m ms before text tail hb isMember more ih =>
    obtain ⟨behind, rfl⟩ := isMember.exists_quote
    cases puts with
    | cons hput puts =>
      refine members_cons h ?_ isMember hput more (ih puts)
      rw [List.append_assoc, List.append_assoc]
      exact nextMember_first _ hb
  | @later m ms before after text tail hb ha isMember more ih =>
    obtain ⟨behind, rfl⟩ := isMember.exists_quote
    cases puts with
    | cons hput puts =>
      refine members_cons h ?_ isMember hput more (ih puts)
      rw [List.append_assoc, List.cons_append, List.append_assoc, List.append_assoc]
      exact nextMember_later _ hb ha

/-- A row of members is read as the members of an object. -/
theorem object_of_row (h : Gathers member R put) {ms : List (String × β)} {inner : List UInt8}
    (row : Row (MemberText R) ms inner) {s s' : σ} (puts : Puts put s ms s') (rest : List UInt8) :
    object member s (inner ++ ascii '\x7d' :: rest) = .ok (s', rest) := by
  have pos {m : String × β} {text : List UInt8} (hm : MemberText R m text) : 0 < text.length := by
    obtain ⟨behind, rfl⟩ := hm.exists_quote
    exact Nat.zero_lt_succ _
  have enough : ms.length ≤ (inner ++ ascii '\x7d' :: rest).length := by
    rw [List.length_append]
    exact Nat.le_add_right_of_le (row.length_le pos)
  obtain ⟨rounds, split⟩ := Nat.exists_eq_add_of_le' enough
  rw [object, split]
  exact members_of_items h row puts rounds rest

end

end HeatFeed.Json
