import HeatFeed.Backend.Recorded
import HeatFeed.Proofs.Json.Outline
import HeatFeed.Proofs.Json.RoundTrip

/-!
# Recorded requests that are written and read back

Which members fill the fields of a recorded request, and that the members which are written for it
fill them with what it holds. Texts are escaped and read back whatever they hold, and the headers
come back as they are in order.
-/

namespace HeatFeed.RecordedRequest

open Json Json.Reader
open Numeral (Ends)
open StringLiteral (Literal literal_write)

/-- The names of the four fields. -/
def fieldNames : List String := ["method", "path", "headers", "body"]

/-- What spells the headers: an object with a list of texts under each name. -/
def HeadersText (hs : Members (List String)) (text : List UInt8) : Prop :=
  ∃ ms, ObjectText (ListText Literal) ms text ∧ hs = Members.ofList ms

/-- What one member makes of the fields read before it. -/
inductive Fields.Put : Fields → String → List UInt8 → Fields → Prop where
  | method {f : Fields} {s : String} {raw : List UInt8} : f.method = none → Literal s raw →
    Put f "method" raw { f with method := some s }
  | path {f : Fields} {s : String} {raw : List UInt8} : f.path = none → Literal s raw →
    Put f "path" raw { f with path := some s }
  | headers {f : Fields} {hs : Members (List String)} {raw : List UInt8} : f.headers = none →
    HeadersText hs raw → Put f "headers" raw { f with headers := some hs }
  | body {f : Fields} {s : String} {raw : List UInt8} : f.body = none → Literal s raw →
    Put f "body" raw { f with body := some s }
  | other {f : Fields} {key : String} {raw : List UInt8} : key ∉ fieldNames →
    Outline .value raw → Put f key raw f

/-! ### Reading one member -/

theorem reads_headers : Reads readHeaders HeadersText :=
  (reads_object (gathers_insertMember (reads_sequence reads_string)) "a map" []).congr
    fun _ _ => exists_congr fun _ => and_congr_right fun _ => puts_ofList

/-- Each member is read as what it makes of the fields. -/
theorem gathers_readField : Gathers readField Eq Fields.Put where
  sound {f f' key bs rest} read := by
    rw [readField] at read
    split at read
    · rename_i name
      subst name
      exact member_of_once reads_string (fun s => { f with method := some s })
        (fun _ _ free literal => ⟨_, rfl, .method free literal⟩) read
    split at read
    · rename_i name
      subst name
      exact member_of_once reads_string (fun s => { f with path := some s })
        (fun _ _ free literal => ⟨_, rfl, .path free literal⟩) read
    split at read
    · rename_i name
      subst name
      exact member_of_once reads_headers (fun hs => { f with headers := some hs })
        (fun _ _ free spelt => ⟨_, rfl, .headers free spelt⟩) read
    split at read
    · rename_i name
      subst name
      exact member_of_once reads_string (fun s => { f with body := some s })
        (fun _ _ free literal => ⟨_, rfl, .body free literal⟩) read
    · rename_i method path headers body
      obtain ⟨rfl, before, after, text, hb, ha, outline, rfl⟩ := member_of_skip read
      refine ⟨before, after, text, text, hb, ha, rfl, .other ?_ outline, rfl⟩
      simp [fieldNames, method, path, headers, body]
  complete {f f' key raw before after text rest} same put hb ha ends := by
    subst same
    cases put with
    | method free literal =>
      rw [readField, if_pos rfl, free, read_once reads_string _ literal hb ha ends]
      rfl
    | path free literal =>
      rw [readField, if_neg (by decide), if_pos rfl, free,
        read_once reads_string _ literal hb ha ends]
      rfl
    | headers free spelt =>
      rw [readField, if_neg (by decide), if_neg (by decide), if_pos rfl, free,
        read_once reads_headers _ spelt hb ha ends]
      rfl
    | body free literal =>
      rw [readField, if_neg (by decide), if_neg (by decide), if_neg (by decide), if_pos rfl, free,
        read_once reads_string _ literal hb ha ends]
      rfl
    | other name outline =>
      simp only [fieldNames, List.mem_cons, List.not_mem_nil, or_false, not_or] at name
      obtain ⟨method, path, headers, body⟩ := name
      rw [readField, if_neg method, if_neg path, if_neg headers, if_neg body]
      exact skip_member f outline hb ha ends

/-- An object whose members fill all fields is read as what they hold. -/
theorem ofBytes_of_puts {ms : List (String × List UInt8)} {f : Fields} {text : List UInt8}
    {r : RecordedRequest} (object : ObjectText Eq ms text) (puts : Puts Fields.Put .empty ms f)
    (filled : f.request = .ok r) : ofBytes text = .ok r := by
  obtain ⟨inner, row, rfl⟩ := object
  have found : readObject (inner ++ [ascii '\x7d']) = .ok (r, []) :=
    bind_eq_ok.2 ⟨_, object_of_row gathers_readField row puts [],
      bind_eq_ok.2 ⟨r, filled, rfl⟩⟩
  have brace : Reader.skipSpace (ascii '\x7b' :: (inner ++ [ascii '\x7d'])) =
      ascii '\x7b' :: (inner ++ [ascii '\x7d']) := skipSpace_blank blank_nil (by decide)
  rw [ofBytes, whole, read, brace]
  dsimp only
  rw [if_neg (by decide), if_pos rfl, found]
  rfl

/-! ### Written requests -/

/-- The members that are written, with the texts of their values. -/
def members (r : RecordedRequest) : List (String × List UInt8) := [
  ("method", StringLiteral.write r.method),
  ("path", StringLiteral.write r.path),
  ("headers", (Value.object (headerMembers r.headers)).write),
  ("body", StringLiteral.write r.body)]

theorem objectText_members (r : RecordedRequest) : ObjectText Eq r.members r.write :=
  have row : Row (MemberText Eq) r.members
      (separated (r.members.map fun m => writeMember m.1 m.2)) :=
    row_separated fun _ _ => memberText_write rfl
  ⟨_, row, rfl⟩

/-- What is written for headers in order spells them. -/
theorem headersText_write {hs : Members (List String)} (h : Members.Sorted hs) :
    HeadersText hs (Value.object (headerMembers hs)).write := by
  refine ⟨hs, ?_, (Members.ofList_of_sorted h).symm⟩
  have row : Row (MemberText (ListText Literal)) hs
      (separated (hs.map fun m => writeMember m.1 (Value.strings m.2).write)) :=
    row_separated fun m _ => memberText_write (listText_strings m.2)
  rw [Value.write, Value.writeMembers_eq, headerMembers, List.map_map]
  exact ⟨_, row, rfl⟩

/-- A recorded request whose headers are in order is read back from what is written for it. -/
theorem ofBytes_write {r : RecordedRequest} (h : Members.Sorted r.headers) :
    ofBytes r.write = .ok r :=
  have puts : Puts Fields.Put .empty r.members
      ⟨some r.method, some r.path, some r.headers, some r.body⟩ :=
    .cons (.method rfl (literal_write r.method)) (.cons (.path rfl (literal_write r.path))
      (.cons (.headers rfl (headersText_write h)) (.cons (.body rfl (literal_write r.body)) .nil)))
  ofBytes_of_puts r.objectText_members puts rfl

end HeatFeed.RecordedRequest
