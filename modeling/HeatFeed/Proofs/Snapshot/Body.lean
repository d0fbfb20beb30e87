import HeatFeed.Proofs.Json.Values
import HeatFeed.Snapshot.Reader

/-!
# Bodies of snapshots

Which texts are read as a snapshot, and what is read from them. Each member of the object either
fills one of the four fields, which must not have been filled before, or goes to the other members.
What the fields hold after a row of members is told by the values that the row has under their
names.
-/

namespace HeatFeed.Snapshot

open Json Json.Reader

/-- The names of the four fields. -/
def fieldNames : List String := ["symbols", "timeframes", "cells", "timestamp"]

/-- What one member makes of the fields read before it. -/
inductive Fields.Put : Fields → String → Value → Fields → Prop where
  | symbols {f : Fields} {xs : List String} : f.symbols = none →
    Put f "symbols" (.strings xs) { f with symbols := some xs }
  | timeframes {f : Fields} {ts : Option (List String)} : f.timeframes = none →
    Put f "timeframes" (.ofOption .strings ts) { f with timeframes := some ts }
  | cells {f : Fields} {xs : List Value} : f.cells = none →
    Put f "cells" (.array xs) { f with cells := some xs }
  | timestamp {f : Fields} {s : String} : f.timestamp = none →
    Put f "timestamp" (.string s) { f with timestamp := some s }
  | other {f : Fields} {key : String} {v : Value} : key ∉ fieldNames →
    Put f key v { f with extra := f.extra.insert key v }

theorem Fields.Put.timeframeList {f : Fields} (free : f.timeframes = none) (ts : List String) :
    f.Put "timeframes" (.strings ts) { f with timeframes := some (some ts) } :=
  @timeframes f (some ts) free

/-! ### Reading one member -/

/-- A value with at most one bracket less than a whole text may have. -/
abbrev MemberValue : Value → List UInt8 → Prop := Spells (levels - 1)

theorem reads_symbols : Reads (sequence string) fun xs => MemberValue (.strings xs) :=
  (reads_sequence reads_string).congr fun _ _ => spells_strings.symm

theorem reads_timeframes :
    Reads (optional (sequence string)) fun ts => MemberValue (.ofOption .strings ts) := by
  have other {xs : List String} {text : List UInt8} (h : MemberValue (.strings xs) text) :
      text.head? ≠ some (ascii 'n') := by
    obtain ⟨inner, -, rfl⟩ := spells_strings.1 h
    exact nofun
  refine (reads_optional reads_symbols other).congr fun ts text => ?_
  cases ts with
  | none =>
    refine ⟨fun h => ?_, fun h => ?_⟩
    · cases h
      exact spells_null.2 rfl
    · rw [spells_null.1 h]
      exact .none
  | some xs =>
    refine ⟨fun h => ?_, fun h => .some h⟩
    cases h with
    | some hx => exact hx

theorem reads_cells :
    Reads (sequence (value (levels - 2))) fun xs => MemberValue (.array xs) :=
  (reads_sequence (reads_value (levels - 2))).congr fun _ _ => spells_array.symm

theorem reads_timestamp : Reads string fun s => MemberValue (.string s) :=
  reads_string.congr fun _ _ => spells_string.symm

/-- Each member is read as what it makes of the fields. -/
theorem gathers_readField : Gathers readField MemberValue Fields.Put where
  sound {f f' key bs rest} read := by
    rw [readField] at read
    split at read
    · rename_i name
      subst name
      exact member_of_once reads_symbols (fun xs => { f with symbols := some xs })
        (fun _ _ free hv => ⟨_, hv, .symbols free⟩) read
    split at read
    · rename_i name
      subst name
      exact member_of_once reads_timeframes (fun ts => { f with timeframes := some ts })
        (fun _ _ free hv => ⟨_, hv, .timeframes free⟩) read
    split at read
    · rename_i name
      subst name
      exact member_of_once reads_cells (fun xs => { f with cells := some xs })
        (fun _ _ free hv => ⟨_, hv, .cells free⟩) read
    split at read
    · rename_i name
      subst name
      exact member_of_once reads_timestamp (fun s => { f with timestamp := some s })
        (fun _ _ free hv => ⟨_, hv, .timestamp free⟩) read
    · rename_i symbols timeframes cells timestamp
      obtain ⟨⟨ms, later⟩, found, read⟩ := bind_eq_ok.1 read
      cases read
      obtain ⟨before, after, v, text, hb, ha, hv, rfl, rfl⟩ :=
        (gathers_insertMember (reads_value (levels - 1))).sound found
      refine ⟨before, after, v, text, hb, ha, hv, .other ?_, rfl⟩
      simp [fieldNames, symbols, timeframes, cells, timestamp]
  complete {f f' key v before after text rest} hv put hb ha ends := by
    cases put with
    | symbols free =>
      rw [readField, if_pos rfl, free,
        read_once reads_symbols _ hv hb ha ends]
      rfl
    | timeframes free =>
      rw [readField, if_neg (by decide), if_pos rfl, free,
        read_once reads_timeframes _ hv hb ha ends]
      rfl
    | cells free =>
      rw [readField, if_neg (by decide), if_neg (by decide), if_pos rfl, free,
        read_once reads_cells _ hv hb ha ends]
      rfl
    | timestamp free =>
      rw [readField, if_neg (by decide), if_neg (by decide), if_neg (by decide), if_pos rfl, free,
        read_once reads_timestamp _ hv hb ha ends]
      rfl
    | other name =>
      simp only [fieldNames, List.mem_cons, List.not_mem_nil, or_false, not_or] at name
      obtain ⟨symbols, timeframes, cells, timestamp⟩ := name
      rw [readField, if_neg symbols, if_neg timeframes, if_neg cells, if_neg timestamp,
        (gathers_insertMember (reads_value (levels - 1))).complete hv rfl hb ha ends]
      rfl

/-! ### Bodies -/

/-- A text with these members between the brackets of an object. -/
def Body (ms : List (String × Value)) (bs : List UInt8) : Prop :=
  Whole (ObjectText MemberValue) ms bs

/-- Exactly the objects are read as snapshots whose members fill no field twice and have values of
the fields' shapes. -/
theorem ofBytes_eq_ok {bs : List UInt8} {s : Snapshot} : ofBytes bs = .ok s ↔
    ∃ ms f, Body ms bs ∧ Puts Fields.Put .empty ms f ∧ s = f.snapshot := by
  have reads := reads_object gathers_readField "struct HeatmapSnapshot" .empty
  refine ⟨fun h => ?_, ?_⟩
  · cases found : whole readFields bs with
    | error e => rw [ofBytes, found] at h; cases h
    | ok f =>
      rw [ofBytes, found] at h
      cases h
      obtain ⟨before, text, after, hb, ha, ⟨ms, object, puts⟩, rfl⟩ := (whole_iff reads).1 found
      exact ⟨ms, f, ⟨before, text, after, hb, ha, object, rfl⟩, puts, rfl⟩
  · rintro ⟨ms, f, ⟨before, text, after, hb, ha, object, rfl⟩, puts, rfl⟩
    have found : whole readFields (before ++ (text ++ after)) = .ok f :=
      (whole_iff reads).2 ⟨before, text, after, hb, ha, ⟨ms, object, puts⟩, rfl⟩
    rw [ofBytes, found]
    rfl

/-! ### Fields and values -/

open Members (last? ofList last?_concat_self last?_concat_of_ne)

/-- The members that no field is for. -/
def others (ms : List (String × Value)) : List (String × Value) :=
  ms.filter fun m => m.1 ∉ fieldNames

theorem others_concat_field {key : String} (h : key ∈ fieldNames) (v : Value)
    (ms : List (String × Value)) : others (ms ++ [(key, v)]) = others ms := by
  rw [others, List.filter_append, List.filter_cons_of_neg (by simpa using h), List.filter_nil,
    List.append_nil, others]

theorem others_concat {key : String} (h : key ∉ fieldNames) (v : Value)
    (ms : List (String × Value)) : others (ms ++ [(key, v)]) = others ms ++ [(key, v)] := by
  rw [others, List.filter_append, List.filter_cons_of_pos (by simpa using h), List.filter_nil,
    others]

/-- What the fields hold after certain members: the values under their names, which have them once
at most, and all members with other names. -/
structure Fields.Hold (f : Fields) (ms : List (String × Value)) : Prop where
  symbols : f.symbols.map .strings = last? "symbols" ms
  timeframes : f.timeframes.map (.ofOption .strings) = last? "timeframes" ms
  cells : f.cells.map .array = last? "cells" ms
  timestamp : f.timestamp.map .string = last? "timestamp" ms
  extra : f.extra = ofList (others ms)

theorem Fields.Put.hold {f f' : Fields} {key : String} {v : Value} (h : f.Put key v f')
    {ms : List (String × Value)} (hold : f.Hold ms) : f'.Hold (ms ++ [(key, v)]) := by
  obtain ⟨symbols, timeframes, cells, timestamp, extra⟩ := hold
  have kept {name : String} (ne : key ≠ name) := last?_concat_of_ne ne v ms
  cases h with
  | symbols _ =>
    exact ⟨(last?_concat_self _ _ ms).symm, timeframes.trans (kept (by decide)).symm,
      cells.trans (kept (by decide)).symm, timestamp.trans (kept (by decide)).symm,
      by rw [others_concat_field (by decide)]; exact extra⟩
  | timeframes _ =>
    exact ⟨symbols.trans (kept (by decide)).symm, (last?_concat_self _ _ ms).symm,
      cells.trans (kept (by decide)).symm, timestamp.trans (kept (by decide)).symm,
      by rw [others_concat_field (by decide)]; exact extra⟩
  | cells _ =>
    exact ⟨symbols.trans (kept (by decide)).symm, timeframes.trans (kept (by decide)).symm,
      (last?_concat_self _ _ ms).symm, timestamp.trans (kept (by decide)).symm,
      by rw [others_concat_field (by decide)]; exact extra⟩
  | timestamp _ =>
    exact ⟨symbols.trans (kept (by decide)).symm, timeframes.trans (kept (by decide)).symm,
      cells.trans (kept (by decide)).symm, (last?_concat_self _ _ ms).symm,
      by rw [others_concat_field (by decide)]; exact extra⟩
  | other name =>
    have ne {field : String} (h : field ∈ fieldNames) : key ≠ field := by
      rintro rfl
      exact name h
    refine ⟨symbols.trans (kept (ne ?_)).symm, timeframes.trans (kept (ne ?_)).symm,
      cells.trans (kept (ne ?_)).symm, timestamp.trans (kept (ne ?_)).symm, ?_⟩
    · decide
    · decide
    · decide
    · decide
    · show f.extra.insert key v = _
      rw [others_concat name, Members.ofList_concat, extra]

theorem puts_hold {f f' : Fields} {before ms : List (String × Value)} (hold : f.Hold before)
    (h : Puts Fields.Put f ms f') : f'.Hold (before ++ ms) := by
  induction h generalizing before with
  | nil => rwa [List.append_nil]
  | cons put _ ih =>
    have := ih (put.hold hold)
    rwa [List.append_assoc] at this

/-- What the fields hold after all members of a body. -/
theorem hold_of_puts {f : Fields} {ms : List (String × Value)}
    (h : Puts Fields.Put .empty ms f) : f.Hold ms := by
  have empty : Fields.empty.Hold [] := ⟨rfl, rfl, rfl, rfl, rfl⟩
  exact puts_hold empty h

end HeatFeed.Snapshot
