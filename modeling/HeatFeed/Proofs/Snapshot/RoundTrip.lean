import HeatFeed.Proofs.Json.RoundTrip
import HeatFeed.Proofs.Json.Text
import HeatFeed.Proofs.Snapshot.Body
import HeatFeed.Snapshot.Printer

/-!
# Snapshots that are written and read back

A snapshot that has been read is written as an object whose members make the same fields again. If
it holds no floating-point number, the values of these members are spelt by what is written for
them, so what is written for the snapshot is read as the snapshot.
-/

namespace HeatFeed.Snapshot

open Json Json.Reader
open StringLiteral (literal_write)

/-! ### Written members -/

/-- The members of the object that stands for a snapshot, in the order in which they are written. -/
def members (s : Snapshot) : List (String × Value) :=
  [("symbols", .strings s.symbols)] ++
    (s.timeframes.toList.map fun ts => ("timeframes", .strings ts)) ++
    [("cells", .array s.cells), ("timestamp", .string s.timestamp)] ++ s.extra

theorem write_strings (xs : List String) : (Value.strings xs).write = writeTexts xs := by
  rw [Value.strings, Value.write, Value.writeItems_eq, List.map_map]
  rfl

theorem write_eq (s : Snapshot) : s.write = writeObject (Value.writeMembers s.members) := by
  rw [write, writtenMembers, Value.writeMembers_eq, Value.writeMembers_eq, members]
  simp only [List.map_append, List.map_cons, List.map_nil, List.map_map, Function.comp_def,
    write_strings, Value.write]

/-- The text of a snapshot has the octets that are written for it. -/
theorem bytes_text (s : Snapshot) : Utf8.bytes s.text = s.write := by
  rw [text, write_eq]
  exact Utf8.bytes_lossy (isText_writeObject (isText_writeMembers s.members))

/-- No number in it is a floating-point number. -/
def integral (s : Snapshot) : Bool :=
  Value.integralItems s.cells && Value.integralMembers s.extra

/-! ### What has been read -/

/-- What reading ensures of a snapshot. -/
structure Readable (s : Snapshot) : Prop where
  sorted : Members.Sorted s.extra
  names : ∀ m ∈ s.extra, m.1 ∉ fieldNames
  cells : ∃ text, MemberValue (.array s.cells) text
  extra : ∀ m ∈ s.extra, ∃ text, MemberValue m.2 text

/-- Only the timeframes differ after normalizing. -/
theorem Readable.normalized {s : Snapshot} (h : s.Readable) : s.normalized.Readable :=
  ⟨h.sorted, h.names, h.cells, h.extra⟩

theorem exists_text_of_body {ms : List (String × Value)} {bs : List UInt8} (h : Body ms bs)
    {m : String × Value} (hm : m ∈ ms) : ∃ text, MemberValue m.2 text := by
  obtain ⟨_, _, _, _, _, ⟨_, row, _⟩, _⟩ := h
  obtain ⟨_, _, _, _, text, _, _, _, hv, _⟩ := row.exists_text hm
  exact ⟨text, hv⟩

theorem readable_of_ofBytes {bs : List UInt8} {s : Snapshot} (h : ofBytes bs = .ok s) :
    s.Readable := by
  obtain ⟨ms, f, body, puts, rfl⟩ := ofBytes_eq_ok.1 h
  have hold := hold_of_puts puts
  have extra {m : String × Value} (hm : m ∈ f.extra) : m ∈ ms ∧ m.1 ∉ fieldNames := by
    rw [hold.extra] at hm
    have := List.mem_filter.1 (Members.mem_of_mem_ofList hm)
    exact ⟨this.1, by simpa using this.2⟩
  refine ⟨?_, fun m hm => (extra hm).2, ?_, fun m hm => exists_text_of_body body (extra hm).1⟩
  · show Members.Sorted f.extra
    rw [hold.extra]
    exact Members.sorted_ofList _
  · show ∃ text, MemberValue (.array (f.cells.getD [])) text
    have cells := hold.cells
    cases given : f.cells with
    | none => exact ⟨_, spells_array.2 ⟨[], .none blank_nil, rfl⟩⟩
    | some xs =>
      rw [given] at cells
      exact exists_text_of_body body (Members.mem_of_last? cells.symm)

/-! ### Written snapshots -/

/-- Every member is spelt by what is written for it. -/
theorem Readable.spells {s : Snapshot} (h : s.Readable) (integral : s.integral = true) :
    ∀ m ∈ s.members, MemberValue m.2 m.2.write := by
  rw [Snapshot.integral, Bool.and_eq_true, Value.integralMembers_iff] at integral
  intro m hm
  rcases List.mem_append.1 hm with hm | hm
  · rcases List.mem_append.1 hm with hm | hm
    · rcases List.mem_append.1 hm with hm | hm
      · obtain rfl := List.mem_singleton.1 hm
        exact spells_write_strings _ s.symbols
      · obtain ⟨ts, _, rfl⟩ := List.mem_map.1 hm
        exact spells_write_strings _ ts
    · rcases List.mem_cons.1 hm with rfl | hm
      · obtain ⟨text, cells⟩ := h.cells
        refine spells_write cells ?_
        rw [Value.integral]
        exact integral.1
      · obtain rfl := List.mem_singleton.1 hm
        rw [Value.write]
        exact spells_string.2 (literal_write s.timestamp)
  · obtain ⟨text, hv⟩ := h.extra m hm
    exact spells_write hv (integral.2 m hm)

theorem puts_extra {f : Fields} {ms : List (String × Value)} (h : ∀ m ∈ ms, m.1 ∉ fieldNames) :
    Puts Fields.Put f ms { f with extra := f.extra.insertAll ms } := by
  induction ms generalizing f with
  | nil => exact .nil
  | cons m ms ih =>
    exact .cons (.other (h m (.head ms))) (ih fun n hn => h n (.tail m hn))

/-- The fields that hold a snapshot. -/
def fields (s : Snapshot) : Fields :=
  ⟨some s.symbols, s.timeframes.map some, some s.cells, some s.timestamp, s.extra⟩

theorem snapshot_fields (s : Snapshot) : s.fields.snapshot = s := by
  obtain ⟨symbols, timeframes, cells, timestamp, extra⟩ := s
  cases timeframes with
  | none => rfl
  | some ts => rfl

/-- The written members make the fields of the snapshot. -/
theorem Readable.puts {s : Snapshot} (h : s.Readable) :
    Puts Fields.Put .empty s.members s.fields := by
  obtain ⟨symbols, timeframes, cells, timestamp, extra⟩ := s
  have last (f : Fields) (none : f.extra = []) :
      Puts Fields.Put f extra { f with extra := extra } := by
    have all : Puts Fields.Put f extra { f with extra := f.extra.insertAll extra } :=
      puts_extra h.names
    rwa [none, ← Members.ofList_eq, Members.ofList_of_sorted h.sorted] at all
  cases timeframes with
  | none => exact .cons (.symbols rfl) (.cons (.cells rfl) (.cons (.timestamp rfl) (last _ rfl)))
  | some ts =>
    exact .cons (.symbols rfl) (.cons (.timeframeList rfl ts)
      (.cons (.cells rfl) (.cons (.timestamp rfl) (last _ rfl))))

/-- What is written for a snapshot that has been read is read as the snapshot. -/
theorem Readable.read_back {s : Snapshot} (h : s.Readable) (integral : s.integral = true) :
    ofBytes s.write = .ok s := by
  have body : Body s.members s.write := by
    rw [write_eq]
    exact ⟨[], _, [], blank_nil, blank_nil, objectText_write (h.spells integral),
      (List.append_nil _).symm⟩
  exact ofBytes_eq_ok.2 ⟨s.members, s.fields, body, h.puts, s.snapshot_fields.symm⟩

/-- A snapshot that has been read has no field's name among its other members. If it holds no
floating-point number, it is read back from its text, and so is its normal form. -/
theorem ofBytes_text {body : List UInt8} {s : Snapshot} (h : ofBytes body = .ok s) :
    (∀ m ∈ s.extra, m.1 ∉ fieldNames) ∧
    (s.integral = true → ofBytes (Utf8.bytes s.text) = .ok s ∧
      ofBytes (Utf8.bytes s.normalized.text) = .ok s.normalized) := by
  have readable := readable_of_ofBytes h
  refine ⟨readable.names, fun integral => ?_⟩
  rw [bytes_text, bytes_text]
  exact ⟨readable.read_back integral, readable.normalized.read_back integral⟩

/-- A body with a negative integer, the largest one, an escape and a list inside an object. -/
theorem ofBytes_text_integers : ∃ s,
    ofBytes (Utf8.bytes "\x7b\"cells\":[-7,\x7b\"a\":[\"\\n\"]\x7d],\"note\":18446744073709551615\x7d") =
      .ok s ∧ s.integral = true ∧ ofBytes (Utf8.bytes s.text) = .ok s := by
  have read : ofBytes (Utf8.bytes
      "\x7b\"cells\":[-7,\x7b\"a\":[\"\\n\"]\x7d],\"note\":18446744073709551615\x7d") =
      .ok ⟨[], none, [.number (.integer (-7)), .object [("a", .array [.string "\n"])]], "",
        [("note", .number (.integer 18446744073709551615))]⟩ := by rfl
  exact ⟨_, read, rfl, ((ofBytes_text read).2 rfl).1⟩

end HeatFeed.Snapshot
