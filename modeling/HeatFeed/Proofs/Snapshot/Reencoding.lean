import HeatFeed.Proofs.Snapshot.RoundTrip
import HeatFeed.Proofs.Timeframe

/-!
# Snapshots that are passed on

What becomes of the members of a body that is read as a snapshot, normalized and written again: the
fields have their defaults, the timeframes their order, and all other members are as they were.
-/

namespace HeatFeed.Snapshot

open Json
open Members (last? ofList)
open Timeframe (StablySorted weight sortCodes)

/-- What becomes of the timeframes: null is left out, and a list is put into canonical order. -/
inductive Reordered : Option Value → Option Value → Prop where
  | absent : Reordered none none
  | null : Reordered (some .null) none
  | sorted {given sorted : List String} : StablySorted given sorted →
    Reordered (some (.strings given)) (some (.strings sorted))

/-- Members with which nothing is done: no field is missing, and the timeframes are missing or
stand in canonical order. -/
def Settled (ms : List (String × Value)) : Prop :=
  (last? "symbols" ms).isSome = true ∧ (last? "cells" ms).isSome = true ∧
    (last? "timestamp" ms).isSome = true ∧
    (last? "timeframes" ms = none ∨ ∃ codes, last? "timeframes" ms = some (.strings codes) ∧
      codes.Pairwise fun a b => weight a ≤ weight b)

/-- The members of a body and those with which it is passed on. -/
structure Reencodes (ms out : List (String × Value)) : Prop where
  distinct : (Members.keys out).Nodup
  others : ∀ name ∉ fieldNames, last? name out = last? name ms
  symbols : last? "symbols" out = some ((last? "symbols" ms).getD (.array []))
  cells : last? "cells" out = some ((last? "cells" ms).getD (.array []))
  timestamp : last? "timestamp" out = some ((last? "timestamp" ms).getD (.string ""))
  timeframes : Reordered (last? "timeframes" ms) (last? "timeframes" out)
  same : Value.ofMembers out = Value.ofMembers ms ↔ Settled ms

theorem strings_injective {xs ys : List String} (h : Value.strings xs = Value.strings ys) :
    xs = ys := (List.map_inj_right fun _ _ => Value.string.inj).1 (Value.array.inj h)

theorem ofMembers_eq_iff {ms ns : List (String × Value)} :
    Value.ofMembers ms = Value.ofMembers ns ↔ ∀ name, last? name ms = last? name ns := by
  rw [← Members.ofList_eq_iff]
  exact ⟨Value.object.inj, congrArg Value.object⟩

theorem last?_others {name : String} (h : name ∉ fieldNames) (ms : List (String × Value)) :
    last? name (others ms) = last? name ms := Members.last?_filter (fun _ => by simpa using h) ms

theorem last?_others_field {name : String} (h : name ∈ fieldNames) (ms : List (String × Value)) :
    last? name (others ms) = none := by
  refine Members.last?_eq_none fun mem => ?_
  obtain ⟨m, hm, rfl⟩ := List.mem_map.1 mem
  have := (List.mem_filter.1 hm).2
  exact of_decide_eq_true this h

namespace Fields.Hold

variable {f : Fields} {ms ns : List (String × Value)}

/-- What fields hold is told by the last value under each name. -/
theorem congr (hold : f.Hold ms) (same : ∀ name, last? name ms = last? name ns) : f.Hold ns := by
  obtain ⟨symbols, timeframes, cells, timestamp, extra⟩ := hold
  refine ⟨symbols.trans (same _), timeframes.trans (same _), cells.trans (same _),
    timestamp.trans (same _), extra.trans (Members.ofList_eq_iff.2 fun name => ?_)⟩
  by_cases h : name ∈ fieldNames
  · rw [last?_others_field h, last?_others_field h]
  · rw [last?_others h, last?_others h, same]

/-- Members whose names no field has are kept. -/
theorem get?_extra (hold : f.Hold ms) {name : String} (h : name ∉ fieldNames) :
    Members.get? name f.extra = last? name ms := by
  rw [hold.extra, Members.get?_ofList, last?_others h]

end Fields.Hold

/-- The members of a body are determined up to their order and to those that are repeated. -/
theorem last?_eq_of_body {ms ns : List (String × Value)} {bs : List UInt8} (hm : Body ms bs)
    (hn : Body ns bs) (name : String) : last? name ms = last? name ns := by
  have same : Value.ofMembers ms = Value.ofMembers ns :=
    Except.ok.inj ((ofBytes_of_whole hm).symm.trans (ofBytes_of_whole hn))
  exact ofMembers_eq_iff.1 same name

/-- No two members have the same name. -/
theorem Readable.nodup_keys {s : Snapshot} (h : s.Readable) : (Members.keys s.members).Nodup := by
  have apart {names : List String} (sub : names ⊆ fieldNames) (nodup : names.Nodup) :
      (names ++ Members.keys s.extra).Nodup := by
    refine List.nodup_append.2 ⟨nodup, h.sorted.nodup_keys, ?_⟩
    rintro name hname _ hkey rfl
    obtain ⟨m, hm, rfl⟩ := List.mem_map.1 hkey
    exact h.names m hm (sub hname)
  obtain ⟨symbols, timeframes, cells, timestamp, extra⟩ := s
  cases timeframes with
  | none =>
    have sub : ["symbols", "cells", "timestamp"] ⊆ fieldNames := by decide
    exact apart sub (by decide)
  | some ts => exact apart (List.Subset.refl fieldNames) (by decide)

/-! ### From a body to what is passed on -/

section

variable {f : Fields} {ms out : List (String × Value)}

theorem symbols_of_hold (hold : f.Hold ms) (written : f.snapshot.normalized.fields.Hold out) :
    last? "symbols" out = some ((last? "symbols" ms).getD (.array [])) := by
  rw [← hold.symbols, ← written.symbols]
  exact congrArg some (Option.getD_map _ _ _).symm

theorem cells_of_hold (hold : f.Hold ms) (written : f.snapshot.normalized.fields.Hold out) :
    last? "cells" out = some ((last? "cells" ms).getD (.array [])) := by
  rw [← hold.cells, ← written.cells]
  exact congrArg some (Option.getD_map _ _ _).symm

theorem timestamp_of_hold (hold : f.Hold ms) (written : f.snapshot.normalized.fields.Hold out) :
    last? "timestamp" out = some ((last? "timestamp" ms).getD (.string "")) := by
  rw [← hold.timestamp, ← written.timestamp]
  exact congrArg some (Option.getD_map _ _ _).symm

theorem reordered_of_hold (hold : f.Hold ms) (written : f.snapshot.normalized.fields.Hold out) :
    Reordered (last? "timeframes" ms) (last? "timeframes" out) := by
  rw [← hold.timeframes, ← written.timeframes]
  obtain ⟨symbols, timeframes, cells, timestamp, extra⟩ := f
  rcases timeframes with _ | _ | codes
  · exact .absent
  · exact .null
  · exact .sorted (Timeframe.stablySorted_sortCodes codes)

theorem settled_of_same (hold : f.Hold ms) (written : f.snapshot.normalized.fields.Hold out)
    (same : ∀ name, last? name out = last? name ms) : Settled ms := by
  have timeframes := written.timeframes.trans (same "timeframes")
  refine ⟨?_, ?_, ?_, ?_⟩
  · rw [← same, ← written.symbols]
    rfl
  · rw [← same, ← written.cells]
    rfl
  · rw [← same, ← written.timestamp]
    rfl
  · rw [← hold.timeframes] at timeframes ⊢
    obtain ⟨_, given, _, _, _⟩ := f
    rcases given with _ | _ | codes
    · exact .inl rfl
    · cases timeframes
    · have sorted : sortCodes codes = codes := strings_injective (Option.some.inj timeframes)
      refine .inr ⟨codes, rfl, ?_⟩
      have := (Timeframe.stablySorted_sortCodes codes).ascending
      rwa [sorted] at this

theorem timeframes_of_settled (hold : f.Hold ms)
    (written : f.snapshot.normalized.fields.Hold out) (settled : Settled ms) :
    last? "timeframes" out = last? "timeframes" ms := by
  obtain ⟨-, -, -, settled⟩ := settled
  rw [← hold.timeframes] at settled
  rw [← hold.timeframes, ← written.timeframes]
  obtain ⟨symbols, timeframes, cells, timestamp, extra⟩ := f
  rcases timeframes with _ | _ | codes
  · rfl
  · rcases settled with absent | ⟨codes, null, -⟩
    · cases absent
    · cases null
  · rcases settled with absent | ⟨codes', same, ascending⟩
    · cases absent
    · obtain rfl : codes = codes' := strings_injective (Option.some.inj same)
      show some (Value.strings (sortCodes codes)) = some (.strings codes)
      rw [Timeframe.sortCodes_of_pairwise ascending]

theorem same_of_settled (hold : f.Hold ms) (written : f.snapshot.normalized.fields.Hold out)
    (settled : Settled ms) (name : String) : last? name out = last? name ms := by
  have given {o : Option Value} {d : Value} (h : o.isSome = true) : some (o.getD d) = o := by
    obtain ⟨v, rfl⟩ := Option.isSome_iff_exists.1 h
    rfl
  by_cases h : name ∈ fieldNames
  · simp only [fieldNames, List.mem_cons, List.not_mem_nil, or_false] at h
    rcases h with rfl | rfl | rfl | rfl
    · exact (symbols_of_hold hold written).trans (given settled.1)
    · exact timeframes_of_settled hold written settled
    · exact (cells_of_hold hold written).trans (given settled.2.1)
    · exact (timestamp_of_hold hold written).trans (given settled.2.2.1)
  · exact (written.get?_extra h).symm.trans (hold.get?_extra h)

end

/-- A body that is read as a snapshot is an object; passed on in normal form, it is an object with
the members of the body, but for the defaults of the fields and the order of the timeframes. -/
theorem reencodes {body : List UInt8} {s : Snapshot} (h : ofBytes body = .ok s) :
    s.normalized.write = writeObject (Value.writeMembers s.normalized.members) ∧
    (∃ ms, Body ms body) ∧ ∀ ms, Body ms body → Reencodes ms s.normalized.members := by
  have readable := (readable_of_ofBytes h).normalized
  have written := hold_of_puts readable.puts
  obtain ⟨ns, f, isBody, puts, rfl⟩ := ofBytes_eq_ok.1 h
  refine ⟨write_eq _, ⟨ns, isBody⟩, fun ms isBody' => ?_⟩
  have hold := (hold_of_puts puts).congr (last?_eq_of_body isBody isBody')
  refine ⟨readable.nodup_keys, fun name h => (written.get?_extra h).symm.trans (hold.get?_extra h),
    symbols_of_hold hold written, cells_of_hold hold written, timestamp_of_hold hold written,
    reordered_of_hold hold written, ?_⟩
  rw [ofMembers_eq_iff]
  exact ⟨settled_of_same hold written, same_of_settled hold written⟩

/-- A repeated name, timeframes out of order, and three fields missing. -/
theorem reencodes_repeated : ∃ s ms,
    ofBytes (Utf8.bytes "\x7b\"timeframes\":[\"H1\",\"M5\"],\"note\":1,\"note\":null\x7d") = .ok s ∧
    Body ms (Utf8.bytes "\x7b\"timeframes\":[\"H1\",\"M5\"],\"note\":1,\"note\":null\x7d") ∧
    Reencodes ms s.normalized.members := by
  have read : ofBytes (Utf8.bytes
      "\x7b\"timeframes\":[\"H1\",\"M5\"],\"note\":1,\"note\":null\x7d") =
      .ok ⟨[], some ["H1", "M5"], [], "", [("note", .null)]⟩ := by rfl
  obtain ⟨-, ⟨ms, body⟩, all⟩ := reencodes read
  exact ⟨_, ms, read, body, all ms body⟩

end HeatFeed.Snapshot
