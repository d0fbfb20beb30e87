import HeatFeed.Client.Answer
import HeatFeed.Proofs.Json.Outline

/-!
# Explanations of failures

Which bodies explain a failure, and with what text: objects in which the name `detail` stands once,
and lists of one text. Members with other names are passed over. In every other case the fallback
is said.
-/

namespace HeatFeed.ErrorDetail

open Json Json.Reader
open Numeral (Ends)
open StringLiteral (Literal)

/-- The text of a member's value. -/
def RawValue (raw text : List UInt8) : Prop := raw = text ∧ Outline .value text

/-- What one member makes of the detail that was read before it. -/
inductive Put : Option (Option String) → String → List UInt8 → Option (Option String) → Prop where
  | null : Put none "detail" (Utf8.bytes "null") (some none)
  | text {d : String} {raw : List UInt8} : Literal d raw → Put none "detail" raw (some (some d))
  | other {before : Option (Option String)} {key : String} {raw : List UInt8} :
    key ≠ "detail" → Put before key raw before

/-- What spells an error detail: an object, or a list of what would stand under the one name. -/
inductive Spelt : ErrorDetail → List UInt8 → Prop where
  | object {ms : List (String × List UInt8)} {found : Option (Option String)} {text : List UInt8} :
    ObjectText RawValue ms text → Puts Put none ms found → Spelt ⟨found.getD none⟩ text
  | list {d : Option String} {before text after : List UInt8} :
    Blank before → Optional Literal d text → Blank after →
    Spelt ⟨d⟩ (ascii '[' :: (before ++ (text ++ (after ++ [ascii ']']))))

/-! ### Reading an error detail -/

theorem outline_of_literal {s : String} {text : List UInt8} (h : Literal s text) :
    Outline .value text := by
  obtain ⟨content, rfl, stands⟩ := h
  exact .scalar (.string stands.outlined)

theorem reads_detail : Reads (optional string) (Optional Literal) := by
  refine reads_optional reads_string fun {s text} h => ?_
  obtain ⟨content, rfl, -⟩ := h
  exact nofun

/-- Each member is read as what it makes of the detail. -/
theorem gathers_readField : Gathers readField RawValue Put where
  sound {filled filled' key bs rest} read := by
    rw [readField] at read
    split at read
    · rename_i name
      subst name
      refine member_of_once reads_detail some (fun d text free hd => ⟨text, ?_⟩) read
      subst free
      cases hd with
      | none => exact ⟨⟨rfl, .scalar .null⟩, .null⟩
      | some literal => exact ⟨⟨rfl, outline_of_literal literal⟩, .text literal⟩
    · rename_i name
      obtain ⟨rfl, before, after, text, hb, ha, outline, rfl⟩ := member_of_skip read
      exact ⟨before, after, text, text, hb, ha, ⟨rfl, outline⟩, .other name, rfl⟩
  complete {filled filled' key raw before after text rest} hraw put hb ha ends := by
    obtain ⟨rfl, outline⟩ := hraw
    cases put with
    | null =>
      rw [readField, if_pos rfl, read_once reads_detail _ .none hb ha ends]
      rfl
    | text literal =>
      rw [readField, if_pos rfl, read_once reads_detail _ (.some literal) hb ha ends]
      rfl
    | other name =>
      rw [readField, if_neg name]
      exact skip_member filled outline hb ha ends

theorem endOfRecord_of_read {bs rest : List UInt8} (h : endOfRecord bs = .ok rest) :
    ∃ ws, Blank ws ∧ bs = ws ++ ascii ']' :: rest := by
  rw [endOfRecord] at h
  obtain ⟨ws, b, behind, blank, rfl, found⟩ := exists_token h
  split at found
  · rename_i mark
    cases found
    exact ⟨ws, blank, by rw [mark]⟩
  split at found
  · cases found
  · cases found

theorem endOfRecord_blank {ws : List UInt8} (blank : Blank ws) (rest : List UInt8) :
    endOfRecord (ws ++ ascii ']' :: rest) = .ok rest := by
  rw [endOfRecord, skipSpace_blank blank (by decide)]
  exact if_pos rfl

theorem spelt_of_readObject {bs rest : List UInt8} {e : ErrorDetail}
    (h : readObject bs = .ok (e, rest)) :
    ∃ text, Spelt e text ∧ ascii '\x7b' :: bs = text ++ rest := by
  obtain ⟨⟨found, later⟩, object, h⟩ := bind_eq_ok.1 h
  cases h
  obtain ⟨ms, inner, row, puts, rfl⟩ := row_of_object gathers_readField object
  exact ⟨_, .object ⟨inner, row, rfl⟩ puts, by simp⟩

theorem spelt_of_readList {bs rest : List UInt8} {e : ErrorDetail}
    (h : readList bs = .ok (e, rest)) :
    ∃ text, Spelt e text ∧ ascii '[' :: bs = text ++ rest := by
  obtain ⟨next, element, h⟩ := bind_eq_ok.1 h
  cases onward_of_nextElement element with
  | done _ => cases h
  | first blank =>
    obtain ⟨⟨d, later⟩, found, h⟩ := bind_eq_ok.1 h
    obtain ⟨behind, closing, h⟩ := bind_eq_ok.1 h
    cases h
    obtain ⟨ws, text, blank', hd, rfl⟩ := reads_detail.sound found
    obtain ⟨after, ha, rfl⟩ := endOfRecord_of_read closing
    exact ⟨_, .list (blank.append blank') hd ha, by simp⟩

/-- Exactly what spells an error detail is read as it. -/
theorem reads_read : Reads read Spelt where
  sound {bs rest e} h := by
    rw [read] at h
    obtain ⟨ws, b, behind, blank, rfl, found⟩ := exists_token h
    split at found
    · rename_i mark
      obtain ⟨text, spelt, split⟩ := spelt_of_readList found
      exact ⟨ws, text, blank, spelt, by rw [mark, split]⟩
    split at found
    · rename_i mark
      obtain ⟨text, spelt, split⟩ := spelt_of_readObject found
      exact ⟨ws, text, blank, spelt, by rw [mark, split]⟩
    · cases found
  complete {e ws text rest} h blank _ := by
    cases h with
    | object object puts =>
      obtain ⟨inner, row, rfl⟩ := object
      rw [read, List.cons_append, skipSpace_blank blank (by decide)]
      dsimp only
      rw [if_neg (by decide), if_pos rfl, readObject, List.append_assoc, List.singleton_append,
        object_of_row gathers_readField row puts]
      rfl
    | @list d before text after hb hd ha =>
      obtain ⟨b, behind, rfl, space, closing⟩ := reads_detail.start hd
      have next := nextElement_first (behind ++ (after ++ ascii ']' :: rest)) hb space closing
      have ends : Ends (after ++ ascii ']' :: rest) := ha.ends (ends_cons (by decide) rest)
      have detail : optional string (b :: behind ++ (after ++ ascii ']' :: rest)) =
          .ok (d, after ++ ascii ']' :: rest) := reads_detail.complete hd blank_nil ends
      rw [read, List.cons_append, skipSpace_blank blank (by decide)]
      dsimp only
      rw [if_pos rfl]
      simp only [List.append_assoc, List.cons_append, List.nil_append] at detail ⊢
      exact bind_eq_ok.2 ⟨_, next, bind_eq_ok.2 ⟨_, detail,
        bind_eq_ok.2 ⟨_, endOfRecord_blank ha rest, rfl⟩⟩⟩
  start h := by
    cases h with
    | object object _ =>
      obtain ⟨inner, -, rfl⟩ := object
      exact ⟨_, _, rfl, by decide, by decide⟩
    | list _ _ _ => exact ⟨_, _, rfl, by decide, by decide⟩

/-! ### The text under the name -/

/-- The members with the name `detail`. -/
def details (ms : List (String × List UInt8)) : List (String × List UInt8) :=
  ms.filter fun m => m.1 = "detail"

theorem details_cons_self (raw : List UInt8) (ms : List (String × List UInt8)) :
    details (("detail", raw) :: ms) = ("detail", raw) :: details ms := List.filter_cons_of_pos rfl

theorem details_cons_of_ne {key : String} (h : key ≠ "detail") (raw : List UInt8)
    (ms : List (String × List UInt8)) : details ((key, raw) :: ms) = details ms :=
  List.filter_cons_of_neg (by simpa using h)

/-- Once there is a detail, no other may follow. -/
theorem puts_some {d : Option String} {ms : List (String × List UInt8)}
    {found : Option (Option String)} (h : Puts Put (some d) ms found) :
    found = some d ∧ details ms = [] := by
  generalize filled : some d = before at h ⊢
  induction h with
  | nil => exact ⟨rfl, rfl⟩
  | cons put _ ih =>
    cases put with
    | null => cases filled
    | text _ => cases filled
    | other name =>
      rw [details_cons_of_ne name]
      exact ih filled

theorem puts_others {before : Option (Option String)} {ms : List (String × List UInt8)}
    (h : details ms = []) : Puts Put before ms before := by
  induction ms with
  | nil => exact .nil
  | cons m ms ih =>
    obtain ⟨key, raw⟩ := m
    by_cases name : key = "detail"
    · rw [name, details_cons_self] at h
      cases h
    · rw [details_cons_of_ne name] at h
      exact .cons (.other name) (ih h)

/-- A text is found if the name stands once, before a literal of the text. -/
theorem puts_text_iff {ms : List (String × List UInt8)} {d : String} :
    Puts Put none ms (some (some d)) ↔ ∃ raw, details ms = [("detail", raw)] ∧ Literal d raw := by
  induction ms with
  | nil => exact ⟨nofun, nofun⟩
  | cons m ms ih =>
    obtain ⟨key, raw⟩ := m
    refine ⟨fun h => ?_, fun ⟨raw', single, literal⟩ => ?_⟩
    · cases h with
      | cons put puts =>
        cases put with
        | null => cases (puts_some puts).1
        | text literal =>
          obtain ⟨same, others⟩ := puts_some puts
          cases same
          exact ⟨raw, by rw [details_cons_self, others], literal⟩
        | other name =>
          rw [details_cons_of_ne name]
          exact ih.1 puts
    · by_cases name : key = "detail"
      · rw [name, details_cons_self] at single
        obtain ⟨same, others⟩ := List.cons.inj single
        cases same
        rw [name]
        exact .cons (.text literal) (puts_others others)
      · rw [details_cons_of_ne name] at single
        exact .cons (.other name) (ih.2 ⟨raw', single, literal⟩)

/-- An object in which the name `detail` stands once, and with this text. -/
def Named (d : String) (body : List UInt8) : Prop :=
  ∃ ms raw, Whole (ObjectText RawValue) ms body ∧ details ms = [("detail", raw)] ∧ Literal d raw

/-- A list of this one text. -/
def Listed (d : String) (body : List UInt8) : Prop := Whole (ListText Literal) [d] body

theorem listText_singleton {d : String} {text : List UInt8} : ListText Literal [d] text ↔
    ∃ before literal after, Blank before ∧ Literal d literal ∧ Blank after ∧
      text = ascii '[' :: (before ++ (literal ++ (after ++ [ascii ']']))) := by
  constructor
  · rintro ⟨inner, row, rfl⟩
    cases row with
    | first blank literal more =>
      cases more with
      | none blank' => exact ⟨_, _, _, blank, literal, blank', by simp⟩
  · rintro ⟨before, literal, after, blank, h, blank', rfl⟩
    exact ⟨_, .first blank h (.none blank'), by simp⟩

/-- The bodies from which a text is read. -/
theorem ofBytes_eq_ok {body : List UInt8} {d : String} :
    ofBytes body = .ok ⟨some d⟩ ↔ Named d body ∨ Listed d body := by
  rw [ofBytes, whole_iff reads_read]
  constructor
  · rintro ⟨before, text, after, hb, ha, spelt, rfl⟩
    generalize same : (⟨some d⟩ : ErrorDetail) = e at spelt
    cases spelt with
    | @object ms found _ object puts =>
      have found_eq : found = some (some d) := by
        obtain _ | _ | d' := found
        · cases same
        · cases same
        · cases same
          rfl
      rw [found_eq] at puts
      obtain ⟨raw, single, literal⟩ := puts_text_iff.1 puts
      exact .inl ⟨ms, raw, ⟨before, text, after, hb, ha, object, rfl⟩, single, literal⟩
    | list blank detail blank' =>
      cases same
      cases detail with
      | some literal =>
        exact .inr ⟨before, _, after, hb, ha,
          listText_singleton.2 ⟨_, _, _, blank, literal, blank', rfl⟩, rfl⟩
  · rintro (⟨ms, raw, ⟨before, text, after, hb, ha, object, rfl⟩, single, literal⟩ | listed)
    · have puts := puts_text_iff.2 ⟨raw, single, literal⟩
      exact ⟨before, text, after, hb, ha, .object object puts, rfl⟩
    · obtain ⟨before, text, after, hb, ha, list, rfl⟩ := listed
      obtain ⟨_, _, _, blank, literal, blank', rfl⟩ := listText_singleton.1 list
      exact ⟨before, _, after, hb, ha, .list blank (.some literal) blank', rfl⟩

/-! ### What is said of a failure -/

theorem failureMessage_of_read {body : List UInt8} {d : String} (h : ofBytes body = .ok ⟨some d⟩)
    (nonempty : d ≠ "") (fallback : String) : failureMessage fallback body = d := by
  rw [failureMessage, h]
  exact if_neg nonempty

theorem failureMessage_of_not_read {body : List UInt8}
    (h : ∀ d, d ≠ "" → ofBytes body ≠ .ok ⟨some d⟩) (fallback : String) :
    failureMessage fallback body = fallback := by
  rw [failureMessage]
  split
  · rename_i d read
    split
    · rfl
    · rename_i nonempty
      exact absurd read (h d nonempty)
  · rfl

/-- A response without success is an error with its status. It says what stands under the one
`detail` of an object, or alone in a list, unless that is empty, and the fallback in every other
case. -/
theorem read_failure {α : Type} (decode : List UInt8 → Except Json.Error α) (fallback : String)
    {r : Http.Response} (h : r.status.isSuccess = false) :
    ∃ message, r.read decode fallback = .error (.api r.status message) ∧
      (∀ d, d ≠ "" → Named d r.body ∨ Listed d r.body → message = d) ∧
      ((∀ d, d ≠ "" → ¬Named d r.body ∧ ¬Listed d r.body) → message = fallback) := by
  refine ⟨failureMessage fallback r.body, ?_, fun d nonempty given => ?_, fun none => ?_⟩
  · rw [Http.Response.read, h]
    rfl
  · exact failureMessage_of_read (ofBytes_eq_ok.2 given) nonempty fallback
  · refine failureMessage_of_not_read (fun d nonempty read => ?_) fallback
    rcases ofBytes_eq_ok.1 read with named | listed
    · exact (none d nonempty).1 named
    · exact (none d nonempty).2 listed

/-- An object with a detail. -/
theorem read_failure_named : ∃ message,
    Http.Response.read ofBytes "fallback"
      ⟨⟨500⟩, Utf8.bytes "\x7b\"code\":1e999,\"detail\":\"boom\"\x7d"⟩ =
      .error (.api ⟨500⟩ message) ∧ message = "boom" := by
  have read : ofBytes (Utf8.bytes "\x7b\"code\":1e999,\"detail\":\"boom\"\x7d") =
      .ok ⟨some "boom"⟩ := by rfl
  obtain ⟨message, error, given, -⟩ := @read_failure _ ofBytes "fallback"
    ⟨⟨500⟩, Utf8.bytes "\x7b\"code\":1e999,\"detail\":\"boom\"\x7d"⟩ rfl
  exact ⟨message, error, given "boom" (by decide) (ofBytes_eq_ok.1 read)⟩

/-- A list of one text is taken for an object with that text. -/
theorem listed_taken_for_named : ¬∀ (fallback : String) (body : List UInt8),
    (∀ d, d ≠ "" → ¬Named d body) → failureMessage fallback body = fallback := by
  intro h
  have said : failureMessage "fb" (Utf8.bytes "[\"boom\"]") = "boom" := by rfl
  have same := said.symm.trans (h "fb" (Utf8.bytes "[\"boom\"]") fun d _ named => ?_)
  · exact absurd same (by decide)
  · obtain ⟨ms, raw, ⟨before, text, after, blank, -, ⟨inner, -, rfl⟩, body⟩, -⟩ := named
    cases before with
    | nil => cases body
    | cons b before =>
      -- the bracket of a list is no white space
      have space := blank b (.head before)
      have first : ascii '[' = b := congrArg (fun bs => bs.headD 0) body
      rw [← first] at space
      cases space

end HeatFeed.ErrorDetail
