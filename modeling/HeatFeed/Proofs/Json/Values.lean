import HeatFeed.Proofs.Json.Rows
import HeatFeed.Proofs.Members

/-!
# Values as they are written

What the texts look like that spell a value, with so many brackets open at once and no more. The
reader of values accepts exactly these texts, and so do the readers of values of an expected shape.
-/

namespace HeatFeed.Json

open Numeral (Ends Written)
open StringLiteral (Literal)

/-- What spells a value without brackets. -/
inductive Scalar : Value → List UInt8 → Prop where
  | null : Scalar .null (Utf8.bytes "null")
  | bool (b : Bool) : Scalar (.bool b) (Utf8.bytes (if b then "true" else "false"))
  | number {m : Numeral} {n : Number} {text : List UInt8} : Written text →
    Numeral.read text = .ok (m, []) → m.number = .ok n → Scalar (.number n) text
  | string {s : String} {text : List UInt8} : Literal s text → Scalar (.string s) text

/-- Items between the brackets of a list. -/
def ListText {α : Type} (R : α → List UInt8 → Prop) (xs : List α) (text : List UInt8) : Prop :=
  ∃ inner, Row R xs inner ∧ text = ascii '[' :: (inner ++ [ascii ']'])

/-- Members between the brackets of an object. -/
def ObjectText {β : Type} (R : β → List UInt8 → Prop) (ms : List (String × β))
    (text : List UInt8) : Prop :=
  ∃ inner, Row (MemberText R) ms inner ∧ text = ascii '\x7b' :: (inner ++ [ascii '\x7d'])

/-- What spells a list or an object. -/
inductive Bracketed (R : Value → List UInt8 → Prop) : Value → List UInt8 → Prop where
  | array {items : List Value} {text : List UInt8} : ListText R items text →
    Bracketed R (.array items) text
  | object {ms : List (String × Value)} {text : List UInt8} : ObjectText R ms text →
    Bracketed R (.ofMembers ms) text

/-- What spells a value, with at most so many brackets open at once. -/
def Spells : Nat → Value → List UInt8 → Prop
  | 0, v, text => Scalar v text
  | levels + 1, v, text => Scalar v text ∨ Bracketed (Spells levels) v text

theorem spells_iff {levels : Nat} {v : Value} {text : List UInt8} : Spells levels v text ↔
    Scalar v text ∨ ∃ fewer, levels = fewer + 1 ∧ Bracketed (Spells fewer) v text := by
  cases levels with
  | zero => exact ⟨.inl, fun h => h.resolve_right nofun⟩
  | succ levels =>
    refine or_congr_right ⟨fun h => ⟨levels, rfl, h⟩, ?_⟩
    rintro ⟨_, same, h⟩
    cases same
    exact h

theorem spells_null {levels : Nat} {text : List UInt8} :
    Spells levels .null text ↔ text = Utf8.bytes "null" := by
  rw [spells_iff]
  refine ⟨?_, fun h => .inl (h ▸ .null)⟩
  rintro (scalar | ⟨_, _, bracketed⟩)
  · cases scalar
    rfl
  · cases bracketed

theorem spells_string {levels : Nat} {s : String} {text : List UInt8} :
    Spells levels (.string s) text ↔ Literal s text := by
  rw [spells_iff]
  refine ⟨?_, fun h => .inl (.string h)⟩
  rintro (scalar | ⟨_, _, bracketed⟩)
  · cases scalar with
    | string literal => exact literal
  · cases bracketed

theorem spells_array {levels : Nat} {xs : List Value} {text : List UInt8} :
    Spells (levels + 1) (.array xs) text ↔ ListText (Spells levels) xs text := by
  refine ⟨?_, fun h => .inr (.array h)⟩
  rintro (scalar | bracketed)
  · cases scalar
  · cases bracketed with
    | array inside => exact inside

theorem spells_strings {levels : Nat} {xs : List String} {text : List UInt8} :
    Spells (levels + 1) (.strings xs) text ↔ ListText Literal xs text := by
  rw [Value.strings, spells_array]
  refine exists_congr fun inner => and_congr_left fun _ => ?_
  rw [Row, Items.map_iff]
  exact ⟨Items.imp fun _ _ => spells_string.1, Items.imp fun _ _ => spells_string.2⟩

/-! ### Values without brackets -/

theorem letters_append (es rest : List UInt8) : Reader.letters es (es ++ rest) = .ok rest := by
  induction es with
  | nil => rfl
  | cons e es ih => exact (if_pos rfl).trans ih

theorem eq_of_letters {es bs rest : List UInt8} (h : Reader.letters es bs = .ok rest) :
    bs = es ++ rest := by
  induction es generalizing bs with
  | nil => cases h; rfl
  | cons e es ih =>
    cases bs with
    | nil => cases h
    | cons b bs =>
      rw [Reader.letters] at h
      split at h
      · rename_i same
        rw [same, ih h, List.cons_append]
      · cases h

theorem starts_iff {b : UInt8} : Numeral.Starts b ↔ Reader.startsNumeral b = true := by
  rw [Reader.startsNumeral, Bool.or_eq_true, beq_iff_eq]
  exact Iff.rfl

/-- What is read as a value without brackets spells it. -/
theorem scalar_of_read {b : UInt8} {bs rest : List UInt8} {v : Value}
    (h : Reader.scalar b bs = .ok (v, rest)) : ∃ text, Scalar v text ∧ b :: bs = text ++ rest := by
  rw [Reader.scalar] at h
  split at h
  · rename_i mark
    obtain ⟨later, letters, h⟩ := bind_eq_ok.1 h
    cases h
    exact ⟨_, .null, by rw [mark, eq_of_letters letters]; rfl⟩
  split at h
  · rename_i mark
    obtain ⟨later, letters, h⟩ := bind_eq_ok.1 h
    cases h
    exact ⟨_, .bool true, by rw [mark, eq_of_letters letters]; rfl⟩
  split at h
  · rename_i mark
    obtain ⟨later, letters, h⟩ := bind_eq_ok.1 h
    cases h
    exact ⟨_, .bool false, by rw [mark, eq_of_letters letters]; rfl⟩
  split at h
  · rename_i mark
    obtain ⟨⟨s, later⟩, read, h⟩ := bind_eq_ok.1 h
    cases h
    obtain ⟨text, split, literal⟩ := StringLiteral.literal_of_read read
    exact ⟨text, .string literal, by rw [mark, split]⟩
  split at h
  · obtain ⟨⟨m, later⟩, read, h⟩ := bind_eq_ok.1 h
    obtain ⟨n, number, h⟩ := bind_eq_ok.1 h
    cases h
    obtain ⟨text, written, split, again⟩ := Numeral.written_of_read read
    have alone := again [] Numeral.ends_nil
    rw [List.append_nil] at alone
    exact ⟨text, .number written alone number, split⟩
  · cases h

/-- Octets with which the text of a value without brackets starts. -/
def startsScalar (b : UInt8) : Prop :=
  b ∈ [ascii 'n', ascii 't', ascii 'f', ascii '"'] ∨ Numeral.Starts b

theorem startsScalar_cases {b : UInt8} (h : startsScalar b) :
    Reader.isSpace b = false ∧ b ≠ ascii '[' ∧ b ≠ ascii '\x7b' ∧ b ≠ ascii ']' := by
  have marks : ∀ b ∈ [ascii 'n', ascii 't', ascii 'f', ascii '"', ascii '-'],
      Reader.isSpace b = false ∧ b ≠ ascii '[' ∧ b ≠ ascii '\x7b' ∧ b ≠ ascii ']' :=
    forall_mem_of_all (by decide)
  rcases h with mark | rfl | digit
  · exact marks b (List.mem_append_left [ascii '-'] mark)
  · exact marks _ (by decide)
  · have noDigit : ∀ b ∈ [ascii ' ', ascii '\t', ascii '\n', ascii '\r', ascii '[', ascii '\x7b',
        ascii ']'], Digits.value? b = none := forall_mem_of_all (by decide)
    have other {c : UInt8} (h : Digits.value? c = none) : b ≠ c := by
      rintro rfl
      rw [h] at digit
      cases digit
    refine ⟨?_, other rfl, other rfl, other rfl⟩
    rw [Bool.eq_false_iff]
    intro space
    exact other (noDigit b (List.mem_append_left [_, _, _] (mem_of_isSpace space))) rfl

/-- What spells a value without brackets is read as it. -/
theorem read_of_scalar {v : Value} {text rest : List UInt8} (h : Scalar v text)
    (ends : Ends rest) : ∃ b behind, text = b :: behind ∧ startsScalar b ∧
      Reader.scalar b (behind ++ rest) = .ok (v, rest) := by
  cases h with
  | null =>
    refine ⟨ascii 'n', Utf8.bytes "ull", rfl, .inl (.head _), ?_⟩
    rw [Reader.scalar, if_pos rfl, letters_append]
    rfl
  | bool b =>
    cases b with
    | true =>
      refine ⟨ascii 't', Utf8.bytes "rue", rfl, .inl (.tail _ (.head _)), ?_⟩
      rw [Reader.scalar, if_neg (by decide), if_pos rfl, letters_append]
      rfl
    | false =>
      refine ⟨ascii 'f', Utf8.bytes "alse", rfl, .inl (.tail _ (.tail _ (.head _))), ?_⟩
      rw [Reader.scalar, if_neg (by decide), if_neg (by decide), if_pos rfl, letters_append]
      rfl
  | string literal =>
    obtain ⟨behind, rfl, read⟩ := StringLiteral.read_of_literal literal rest
    refine ⟨ascii '"', behind, rfl, .inl (by decide), ?_⟩
    rw [Reader.scalar, if_neg (by decide), if_neg (by decide), if_neg (by decide), if_pos rfl, read]
    rfl
  | @number m n text written alone number =>
    obtain ⟨m', read⟩ := Numeral.read_append written
    obtain rfl : m' = m := by
      have := read [] Numeral.ends_nil
      rw [List.append_nil, alone] at this
      exact ((Prod.mk.inj (Except.ok.inj this)).1).symm
    obtain ⟨b, behind, rfl, starts⟩ := written.exists_start
    have noDigit {c : UInt8} (h : Reader.startsNumeral c = false) : b ≠ c := by
      rintro rfl
      rw [starts_iff.1 starts] at h
      cases h
    refine ⟨b, behind, rfl, .inr starts, ?_⟩
    rw [Reader.scalar, if_neg (noDigit rfl), if_neg (noDigit rfl), if_neg (noDigit rfl),
      if_neg (noDigit rfl), if_pos (starts_iff.1 starts), ← List.cons_append, read rest ends]
    show (m'.number >>= fun n => pure (Value.number n, rest)) = _
    rw [number]
    rfl

/-! ### Members -/

section

variable {α : Type} {item : Reader α} {R : α → List UInt8 → Prop}

theorem blank_of_colon {bs rest : List UInt8} (h : Reader.colon bs = .ok rest) :
    ∃ ws, Blank ws ∧ bs = ws ++ ascii ':' :: rest := by
  rw [Reader.colon] at h
  obtain ⟨ws, b, behind, blank, rfl, found⟩ := exists_token h
  split at found
  · rename_i mark
    cases found
    exact ⟨ws, blank, by rw [mark]⟩
  · cases found

theorem colon_blank {ws : List UInt8} (blank : Blank ws) (bs : List UInt8) :
    Reader.colon (ws ++ ascii ':' :: bs) = .ok bs := by
  rw [Reader.colon, skipSpace_blank blank (by decide)]
  rfl

theorem afterColon_of_read (h : Reads item R) {bs rest : List UInt8} {x : α}
    (read : Reader.afterColon item bs = .ok (x, rest)) : ∃ before after text, Blank before ∧
      Blank after ∧ R x text ∧ bs = before ++ ascii ':' :: (after ++ (text ++ rest)) := by
  obtain ⟨later, colon, found⟩ := bind_eq_ok.1 read
  obtain ⟨before, blank, rfl⟩ := blank_of_colon colon
  obtain ⟨after, text, blank', hx, rfl⟩ := h.sound found
  exact ⟨before, after, text, blank, blank', hx, rfl⟩

theorem read_afterColon (h : Reads item R) {x : α} {before after text rest : List UInt8}
    (hx : R x text) (hb : Blank before) (ha : Blank after) (ends : Ends rest) :
    Reader.afterColon item (before ++ ascii ':' :: (after ++ (text ++ rest))) = .ok (x, rest) := by
  rw [Reader.afterColon, colon_blank hb]
  exact h.complete hx ha ends

/-- The value of a field that has not been read before. -/
theorem once_of_read (h : Reads item R) {name : String} {filled : Option α} {bs rest : List UInt8}
    {x : α} (read : Reader.once name filled item bs = .ok (x, rest)) : filled = none ∧
    ∃ before after text, Blank before ∧ Blank after ∧ R x text ∧
      bs = before ++ ascii ':' :: (after ++ (text ++ rest)) := by
  cases filled with
  | some y => cases read
  | none => exact ⟨rfl, afterColon_of_read h read⟩

theorem read_once (h : Reads item R) (name : String) {x : α} {before after text rest : List UInt8}
    (hx : R x text) (hb : Blank before) (ha : Blank after) (ends : Ends rest) :
    Reader.once name none item (before ++ ascii ':' :: (after ++ (text ++ rest))) =
      .ok (x, rest) := read_afterColon h hx hb ha ends

/-- What is read for a field that has not been read before is one member, of which `put` says what
it makes of the fields. -/
theorem member_of_once {σ β : Type} {S : β → List UInt8 → Prop} {put : σ → String → β → σ → Prop}
    (h : Reads item R) {s s' : σ} {key : String} {filled : Option α} {bs rest : List UInt8}
    (fill : α → σ)
    (puts : ∀ x text, filled = none → R x text → ∃ v, S v text ∧ put s key v (fill x))
    (read : (Reader.once key filled item bs >>= fun (x, rest) => pure (fill x, rest)) =
      .ok (s', rest)) :
    ∃ before after v text, Blank before ∧ Blank after ∧ S v text ∧ put s key v s' ∧
      bs = before ++ ascii ':' :: (after ++ (text ++ rest)) := by
  obtain ⟨⟨x, later⟩, found, read⟩ := bind_eq_ok.1 read
  cases read
  obtain ⟨free, before, after, text, hb, ha, hx, rfl⟩ := once_of_read h found
  obtain ⟨v, hv, hput⟩ := puts x text free hx
  exact ⟨before, after, v, text, hb, ha, hv, hput, rfl⟩

/-- Members are added to those that there are. -/
theorem gathers_insertMember (h : Reads item R) :
    Gathers (Reader.insertMember item) R fun ms key x ms' => ms' = ms.insert key x where
  sound read := by
    obtain ⟨⟨x, later⟩, found, read⟩ := bind_eq_ok.1 read
    cases read
    obtain ⟨before, after, text, hb, ha, hx, rfl⟩ := afterColon_of_read h found
    exact ⟨before, after, x, text, hb, ha, hx, rfl, rfl⟩
  complete hx put hb ha ends := by
    rw [Reader.insertMember, read_afterColon h hx hb ha ends, put]
    rfl

theorem puts_insert {ms ms' : Members α} {pairs : List (String × α)} :
    Puts (fun ms key x ms' => ms' = Members.insert key x ms) ms pairs ms' ↔
      ms' = ms.insertAll pairs := by
  induction pairs generalizing ms with
  | nil => exact ⟨fun h => by cases h; rfl, fun h => h ▸ .nil⟩
  | cons m pairs ih =>
    refine ⟨fun h => ?_, fun h => .cons rfl (ih.2 h)⟩
    cases h with
    | cons put puts =>
      subst put
      exact ih.1 puts

theorem puts_ofList {ms : Members α} {pairs : List (String × α)} :
    Puts (fun ms key x ms' => ms' = Members.insert key x ms) [] pairs ms ↔
      ms = Members.ofList pairs := by
  rw [puts_insert, Members.ofList_eq]

/-! ### Expected shapes -/

/-- What starts with a mark that is no white space. -/
theorem starting_cons {mark : UInt8} {expected : String} {read : Reader α} {ws : List UInt8}
    (space : Reader.isSpace mark = false) (blank : Blank ws) (bs : List UInt8) :
    Reader.starting mark expected read (ws ++ mark :: bs) = read bs := by
  rw [Reader.starting, skipSpace_blank blank space]
  exact if_pos rfl

theorem exists_mark {mark : UInt8} {expected : String} {read : Reader α} {bs rest : List UInt8}
    {x : α} (h : Reader.starting mark expected read bs = .ok (x, rest)) :
    ∃ ws later, Blank ws ∧ bs = ws ++ mark :: later ∧ read later = .ok (x, rest) := by
  rw [Reader.starting] at h
  obtain ⟨ws, b, later, blank, rfl, found⟩ := exists_token h
  split at found
  · rename_i same
    exact ⟨ws, later, blank, by rw [same], found⟩
  · cases found

theorem Reads.congr {S : α → List UInt8 → Prop} (h : Reads item R)
    (same : ∀ x text, R x text ↔ S x text) : Reads item S := by
  obtain rfl : R = S := funext fun x => funext fun text => propext (same x text)
  exact h

theorem reads_string : Reads Reader.string Literal where
  sound read := by
    obtain ⟨ws, later, blank, rfl, found⟩ := exists_mark read
    obtain ⟨text, split, literal⟩ := StringLiteral.literal_of_read found
    exact ⟨ws, text, blank, literal, by rw [split]⟩
  complete {s ws text rest} literal blank _ := by
    obtain ⟨behind, rfl, read⟩ := StringLiteral.read_of_literal literal rest
    rw [Reader.string, List.cons_append, starting_cons (by decide) blank, read]
  start literal := by
    obtain ⟨content, rfl, -⟩ := literal
    exact ⟨_, _, rfl, by decide, by decide⟩

theorem reads_sequence (h : Reads item R) : Reads (Reader.sequence item) (ListText R) where
  sound read := by
    obtain ⟨ws, later, blank, rfl, found⟩ := exists_mark read
    obtain ⟨inner, row, rfl⟩ := row_of_list h found
    exact ⟨ws, _, blank, ⟨inner, row, rfl⟩, by simp⟩
  complete {xs ws text rest} hx blank _ := by
    obtain ⟨inner, row, rfl⟩ := hx
    rw [Reader.sequence, List.cons_append, starting_cons (by decide) blank, List.append_assoc]
    exact list_of_row h row rest
  start hx := by
    obtain ⟨inner, -, rfl⟩ := hx
    exact ⟨_, _, rfl, by decide, by decide⟩

/-- An object is read with a reader of its members. -/
theorem reads_object {σ β : Type} {member : σ → String → Reader σ} {R : β → List UInt8 → Prop}
    {put : σ → String → β → σ → Prop} (h : Gathers member R put) (expected : String) (start : σ) :
    Reads (Reader.starting (ascii '\x7b') expected (Reader.object member start)) fun s text =>
      ∃ ms, ObjectText R ms text ∧ Puts put start ms s where
  sound read := by
    obtain ⟨ws, later, blank, rfl, found⟩ := exists_mark read
    obtain ⟨ms, inner, row, puts, rfl⟩ := row_of_object h found
    exact ⟨ws, _, blank, ⟨ms, ⟨inner, row, rfl⟩, puts⟩, by simp⟩
  complete {s ws text rest} hs blank _ := by
    obtain ⟨ms, ⟨inner, row, rfl⟩, puts⟩ := hs
    rw [List.cons_append, starting_cons (by decide) blank, List.append_assoc]
    exact object_of_row h row puts rest
  start hs := by
    obtain ⟨ms, ⟨inner, -, rfl⟩, -⟩ := hs
    exact ⟨_, _, rfl, by decide, by decide⟩

/-- What a value looks like that may be null. -/
inductive Optional (R : α → List UInt8 → Prop) : Option α → List UInt8 → Prop where
  | none : Optional R none (Utf8.bytes "null")
  | some {x : α} {text : List UInt8} : R x text → Optional R (some x) text

theorem reads_optional (h : Reads item R)
    (other : ∀ {x text}, R x text → text.head? ≠ some (ascii 'n')) :
    Reads (Reader.optional item) (Optional R) where
  sound {bs rest o} read := by
    rw [Reader.optional] at read
    obtain ⟨ws, b, behind, blank, rfl, found⟩ := exists_token read
    split at found
    · rename_i mark
      obtain ⟨later, letters, done⟩ := bind_eq_ok.1 found
      cases done
      exact ⟨ws, _, blank, .none, by rw [mark, eq_of_letters letters]; rfl⟩
    · obtain ⟨⟨x, later⟩, item, done⟩ := bind_eq_ok.1 found
      cases done
      obtain ⟨ws', text, blank', hx, split⟩ := h.sound item
      exact ⟨ws ++ ws', text, blank.append blank', .some hx, by rw [split, List.append_assoc]⟩
  complete {o ws text rest} ho blank ends := by
    cases ho with
    | none =>
      have null : Utf8.bytes "null" ++ rest = ascii 'n' :: (Utf8.bytes "ull" ++ rest) := rfl
      rw [Reader.optional, null, skipSpace_blank blank (by decide)]
      dsimp only
      rw [if_pos rfl, letters_append]
      rfl
    | @some x _ hx =>
      obtain ⟨b, behind, rfl, space, -⟩ := h.start hx
      have read : item (b :: behind ++ rest) = .ok (x, rest) := h.complete hx blank_nil ends
      rw [Reader.optional, List.cons_append, skipSpace_blank blank space]
      dsimp only
      rw [if_neg fun mark => other hx (congrArg _ mark), ← List.cons_append, read]
      rfl
  start ho := by
    cases ho with
    | none => exact ⟨_, _, rfl, by decide, by decide⟩
    | some hx => exact h.start hx

end

/-! ### Values -/

theorem value_scalar {levels : Nat} {ws bs : List UInt8} {b : UInt8} (blank : Blank ws)
    (starts : startsScalar b) : Reader.value levels (ws ++ b :: bs) = Reader.scalar b bs := by
  obtain ⟨space, bracket, brace, -⟩ := startsScalar_cases starts
  rw [Reader.value, skipSpace_blank blank space]
  dsimp only
  rw [if_neg bracket, if_neg brace]

theorem value_list {levels : Nat} {ws : List UInt8} (blank : Blank ws) (bs : List UInt8) :
    Reader.value (levels + 1) (ws ++ ascii '[' :: bs) =
      (Reader.list (Reader.value levels) bs >>= fun (items, rest) =>
        pure (.array items, rest)) := by
  rw [Reader.value, skipSpace_blank blank (by decide)]
  rfl

theorem value_object {levels : Nat} {ws : List UInt8} (blank : Blank ws) (bs : List UInt8) :
    Reader.value (levels + 1) (ws ++ ascii '\x7b' :: bs) =
      (Reader.object (Reader.insertMember (Reader.value levels)) [] bs >>= fun (ms, rest) =>
        pure (.object ms, rest)) := by
  rw [Reader.value, skipSpace_blank blank (by decide)]
  rfl

/-- What is read as a value: brackets and what stands between them, or a value without. -/
theorem value_cases {levels : Nat} {bs rest : List UInt8} {v : Value}
    (h : Reader.value levels bs = .ok (v, rest)) : ∃ ws b later, Blank ws ∧ bs = ws ++ b :: later ∧
      (Reader.scalar b later = .ok (v, rest) ∨
        ∃ fewer, levels = fewer + 1 ∧ (b = ascii '[' ∨ b = ascii '\x7b')) := by
  rw [Reader.value] at h
  obtain ⟨ws, b, later, blank, rfl, found⟩ := exists_token h
  refine ⟨ws, b, later, blank, rfl, ?_⟩
  split at found
  · rename_i mark
    split at found
    · cases found
    · exact .inr ⟨_, rfl, .inl mark⟩
  split at found
  · rename_i mark
    split at found
    · cases found
    · exact .inr ⟨_, rfl, .inr mark⟩
  exact .inl found

/-- Exactly the texts that spell a value are read as it. -/
theorem reads_value (levels : Nat) : Reads (Reader.value levels) (Spells levels) := by
  induction levels using Nat.strongRecOn with | ind levels ih => ?_
  refine ⟨fun {bs rest v} read => ?_, fun {v ws text rest} hv blank ends => ?_, fun hv => ?_⟩
  · obtain ⟨ws, b, later, blank, rfl, scalar | ⟨fewer, rfl, mark⟩⟩ := value_cases read
    · obtain ⟨text, hv, split⟩ := scalar_of_read scalar
      exact ⟨ws, text, blank, spells_iff.2 (.inl hv), by rw [split]⟩
    · have ih := ih fewer (Nat.lt_succ_self fewer)
      rcases mark with rfl | rfl
      · rw [value_list blank] at read
        obtain ⟨⟨items, later⟩, found, read⟩ := bind_eq_ok.1 read
        cases read
        obtain ⟨inner, row, rfl⟩ := row_of_list ih found
        exact ⟨ws, _, blank, .inr (.array ⟨inner, row, rfl⟩), by simp⟩
      · rw [value_object blank] at read
        obtain ⟨⟨ms, later⟩, found, read⟩ := bind_eq_ok.1 read
        cases read
        obtain ⟨pairs, inner, row, puts, rfl⟩ := row_of_object (gathers_insertMember ih) found
        obtain rfl := puts_ofList.1 puts
        exact ⟨ws, _, blank, .inr (.object ⟨inner, row, rfl⟩), by simp⟩
  · rcases spells_iff.1 hv with hv | ⟨fewer, rfl, bracketed⟩
    · obtain ⟨b, behind, rfl, starts, read⟩ := read_of_scalar hv ends
      rw [List.cons_append, value_scalar blank starts, read]
    · have ih := ih fewer (Nat.lt_succ_self fewer)
      cases bracketed with
      | array inside =>
        obtain ⟨inner, row, rfl⟩ := inside
        rw [List.cons_append, value_list blank, List.append_assoc, List.singleton_append,
          list_of_row ih row]
        rfl
      | object inside =>
        obtain ⟨inner, row, rfl⟩ := inside
        rw [List.cons_append, value_object blank, List.append_assoc, List.singleton_append,
          object_of_row (gathers_insertMember ih) row (puts_ofList.2 rfl)]
        rfl
  · rcases spells_iff.1 hv with hv | ⟨fewer, rfl, bracketed⟩
    · obtain ⟨b, behind, rfl, starts, -⟩ := read_of_scalar hv Numeral.ends_nil
      obtain ⟨space, -, -, closing⟩ := startsScalar_cases starts
      exact ⟨b, behind, rfl, space, closing⟩
    · cases bracketed with
      | array inside =>
        obtain ⟨inner, -, rfl⟩ := inside
        exact ⟨_, _, rfl, by decide, by decide⟩
      | object inside =>
        obtain ⟨inner, -, rfl⟩ := inside
        exact ⟨_, _, rfl, by decide, by decide⟩

/-! ### Whole texts -/

/-- A text with white space around it. -/
def Whole {α : Type} (R : α → List UInt8 → Prop) (x : α) (bs : List UInt8) : Prop :=
  ∃ before text after, Blank before ∧ Blank after ∧ R x text ∧ bs = before ++ (text ++ after)

theorem skipSpace_eq_nil {bs : List UInt8} : Reader.skipSpace bs = [] ↔ Blank bs :=
  List.dropWhile_eq_nil_iff

/-- Exactly the texts with white space around them are read as a whole. -/
theorem whole_iff {α : Type} {item : Reader α} {R : α → List UInt8 → Prop} (h : Reads item R)
    {bs : List UInt8} {x : α} : Reader.whole item bs = .ok x ↔ Whole R x bs := by
  refine ⟨fun read => ?_, fun whole => ?_⟩
  · rw [Reader.whole] at read
    split at read
    · cases read
    · rename_i found
      split at read
      · rename_i blank
        cases read
        obtain ⟨before, text, blank', hx, rfl⟩ := h.sound found
        exact ⟨before, text, _, blank', skipSpace_eq_nil.1 blank, hx, rfl⟩
      · cases read
  · obtain ⟨before, text, after, hb, ha, hx, rfl⟩ := whole
    have ends : Ends after := by
      have := ha.ends Numeral.ends_nil
      rwa [List.append_nil] at this
    rw [Reader.whole, h.complete hx hb ends]
    exact if_pos (skipSpace_eq_nil.2 ha)

/-- A text with members between brackets spells the object of these members. -/
theorem ofBytes_of_whole {ms : List (String × Value)} {bs : List UInt8}
    (h : Whole (ObjectText (Spells (Reader.levels - 1))) ms bs) :
    Value.ofBytes bs = .ok (.ofMembers ms) := by
  obtain ⟨before, text, after, hb, ha, object, rfl⟩ := h
  exact (whole_iff (reads_value Reader.levels)).2
    ⟨before, text, after, hb, ha, .inr (.object object), rfl⟩

end HeatFeed.Json
