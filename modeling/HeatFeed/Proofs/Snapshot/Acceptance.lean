import HeatFeed.Proofs.Snapshot.Reencoding

/-!
# Which bodies are snapshots

The members of an object are determined by its text, with repeats and in order. Whether they are
those of a snapshot is decided by the names and the values of those that a field is for: no such
name stands twice, and each such value has the shape of its field. What is read is the same for all
orders of members with different names.
-/

namespace HeatFeed.Snapshot

open Json Json.Reader
open Members (last? keys)

/-- A member that no field is for, or whose value has the shape of its field. -/
structure Fits (m : String × Value) : Prop where
  symbols : m.1 = "symbols" → ∃ xs, m.2 = .strings xs
  timeframes : m.1 = "timeframes" → m.2 = .null ∨ ∃ xs, m.2 = .strings xs
  cells : m.1 = "cells" → ∃ xs, m.2 = .array xs
  timestamp : m.1 = "timestamp" → ∃ s, m.2 = .string s

/-- No field is given twice. -/
def Once (ms : List (String × Value)) : Prop := ∀ name ∈ fieldNames, (keys ms).count name ≤ 1

/-- Members of which a snapshot can be made. -/
structure Acceptable (ms : List (String × Value)) : Prop where
  once : Once ms
  fits : ∀ m ∈ ms, Fits m

/-- The same members, but for the order of those with different names. -/
def SameByName (ms ns : List (String × Value)) : Prop :=
  ∀ name, ms.filter (·.1 = name) = ns.filter (·.1 = name)

/-! ### The members of a text -/

/-- Keeps every member. -/
def collect (ms : List (String × Value)) (key : String) : Reader (List (String × Value)) :=
  fun bs => do
    let (v, rest) ← afterColon (value (levels - 1)) bs
    return (ms ++ [(key, v)], rest)

theorem gathers_collect :
    Gathers collect MemberValue fun ms key v ms' => ms' = ms ++ [(key, v)] where
  sound read := by
    obtain ⟨⟨v, later⟩, found, read⟩ := bind_eq_ok.1 read
    cases read
    obtain ⟨before, after, text, hb, ha, hv, rfl⟩ :=
      afterColon_of_read (reads_value (levels - 1)) found
    exact ⟨before, after, v, text, hb, ha, hv, rfl, rfl⟩
  complete hv put hb ha ends := by
    rw [collect, read_afterColon (reads_value (levels - 1)) hv hb ha ends, put]
    rfl

theorem puts_collect {before ms all : List (String × Value)} :
    Puts (fun ms key v ms' => ms' = ms ++ [(key, v)]) before ms all ↔ all = before ++ ms := by
  induction ms generalizing before with
  | nil =>
    rw [List.append_nil]
    exact ⟨fun h => by cases h; rfl, fun h => h ▸ .nil⟩
  | cons m ms ih =>
    rw [List.append_cons]
    refine ⟨fun h => ?_, fun h => .cons rfl (ih.2 h)⟩
    cases h with
    | cons put puts =>
      subst put
      exact ih.1 puts

/-- The members of a text that spells an object. -/
def membersOf (bs : List UInt8) : Except Error (List (String × Value)) :=
  whole (starting (ascii '\x7b') "a map" (object collect [])) bs

theorem membersOf_eq_ok {ms : List (String × Value)} {bs : List UInt8} :
    membersOf bs = .ok ms ↔ Body ms bs := by
  rw [membersOf, whole_iff (reads_object gathers_collect "a map" [])]
  constructor
  · rintro ⟨before, text, after, hb, ha, ⟨ns, object, puts⟩, rfl⟩
    obtain rfl : ms = ns := puts_collect.1 puts
    exact ⟨before, text, after, hb, ha, object, rfl⟩
  · rintro ⟨before, text, after, hb, ha, object, rfl⟩
    exact ⟨before, text, after, hb, ha, ⟨ms, object, puts_collect.2 rfl⟩, rfl⟩

/-- A text has one list of members at most. -/
theorem Body.unique {ms ns : List (String × Value)} {bs : List UInt8} (hm : Body ms bs)
    (hn : Body ns bs) : ms = ns :=
  Except.ok.inj ((membersOf_eq_ok.2 hm).symm.trans (membersOf_eq_ok.2 hn))

/-- A text has members iff it spells an object. -/
theorem exists_body_iff {bs : List UInt8} :
    (∃ ms, Body ms bs) ↔ ∃ ns, Value.ofBytes bs = .ok (.object ns) := by
  constructor
  · rintro ⟨ms, body⟩
    exact ⟨_, ofBytes_of_whole body⟩
  · rintro ⟨ns, read⟩
    obtain ⟨before, text, after, hb, ha, spells, rfl⟩ := (whole_iff (reads_value levels)).1 read
    rcases spells_iff.1 spells with scalar | ⟨fewer, same, bracketed⟩
    · cases scalar
    · generalize shape : Value.object ns = v at bracketed
      cases bracketed with
      | array inside => cases shape
      | object inside =>
        obtain rfl : 126 = fewer := Nat.succ.inj same
        exact ⟨_, before, text, after, hb, ha, inside, rfl⟩

/-! ### Acceptance -/

/-- Null is the shape of no field but the timeframes. -/
theorem fits_null_iff {name : String} :
    Fits (name, .null) ↔ name ∉ ["symbols", "cells", "timestamp"] := by
  constructor
  · intro fits mem
    simp only [List.mem_cons, List.not_mem_nil, or_false] at mem
    rcases mem with rfl | rfl | rfl
    · obtain ⟨xs, none⟩ := fits.symbols rfl
      cases none
    · obtain ⟨xs, none⟩ := fits.cells rfl
      cases none
    · obtain ⟨s, none⟩ := fits.timestamp rfl
      cases none
  · intro other
    refine ⟨?_, fun _ => .inl rfl, ?_, ?_⟩
    · rintro rfl
      exact absurd (by decide) other
    · rintro rfl
      exact absurd (by decide) other
    · rintro rfl
      exact absurd (by decide) other

theorem fits_of_not_mem {key : String} (h : key ∉ fieldNames) (v : Value) : Fits (key, v) := by
  have ne {field : String} (mem : field ∈ fieldNames) : key ≠ field := by
    rintro rfl
    exact h mem
  exact ⟨fun same => absurd same (ne (by decide)), fun same => absurd same (ne (by decide)),
    fun same => absurd same (ne (by decide)), fun same => absurd same (ne (by decide))⟩

/-- A field is still free iff no member before had its name. -/
theorem free_iff {α : Type} {filled : Option α} {shape : α → Value} {name : String}
    {ms : List (String × Value)} (h : filled.map shape = last? name ms) :
    filled = none ↔ name ∉ keys ms := by
  rw [← Members.last?_eq_none_iff, ← h, Option.map_eq_none_iff]

theorem Fields.Put.fits {f f' : Fields} {key : String} {v : Value} (h : f.Put key v f') :
    Fits (key, v) := by
  cases h with
  | symbols _ => exact ⟨fun _ => ⟨_, rfl⟩, by simp, by simp, by simp⟩
  | @timeframes ts _ =>
    refine ⟨by simp, fun _ => ?_, by simp, by simp⟩
    cases ts with
    | none => exact .inl rfl
    | some xs => exact .inr ⟨xs, rfl⟩
  | cells _ => exact ⟨by simp, by simp, fun _ => ⟨_, rfl⟩, by simp⟩
  | timestamp _ => exact ⟨by simp, by simp, by simp, fun _ => ⟨_, rfl⟩⟩
  | other name => exact fits_of_not_mem name v

/-- A member that is put is the first with the name of a field. -/
theorem Fields.Hold.fresh {f f' : Fields} {before : List (String × Value)} (hold : f.Hold before)
    {key : String} {v : Value} (h : f.Put key v f') (field : key ∈ fieldNames) :
    key ∉ keys before := by
  cases h with
  | symbols free => exact (free_iff hold.symbols).1 free
  | timeframes free => exact (free_iff hold.timeframes).1 free
  | cells free => exact (free_iff hold.cells).1 free
  | timestamp free => exact (free_iff hold.timestamp).1 free
  | other name => exact absurd field name

theorem Fields.Hold.exists_put {f : Fields} {before : List (String × Value)}
    (hold : f.Hold before) {key : String} {v : Value} (fits : Fits (key, v))
    (fresh : key ∈ fieldNames → key ∉ keys before) : ∃ f', f.Put key v f' := by
  by_cases field : key ∈ fieldNames
  · have fresh := fresh field
    simp only [fieldNames, List.mem_cons, List.not_mem_nil, or_false] at field
    rcases field with rfl | rfl | rfl | rfl
    · obtain ⟨xs, rfl⟩ := fits.symbols rfl
      exact ⟨_, .symbols ((free_iff hold.symbols).2 fresh)⟩
    · have free := (free_iff hold.timeframes).2 fresh
      rcases fits.timeframes rfl with null | ⟨xs, list⟩
      · obtain rfl : v = .ofOption .strings none := null
        exact ⟨_, .timeframes free⟩
      · obtain rfl : v = .ofOption .strings (some xs) := list
        exact ⟨_, .timeframes free⟩
    · obtain ⟨xs, rfl⟩ := fits.cells rfl
      exact ⟨_, .cells ((free_iff hold.cells).2 fresh)⟩
    · obtain ⟨s, rfl⟩ := fits.timestamp rfl
      exact ⟨_, .timestamp ((free_iff hold.timestamp).2 fresh)⟩
  · exact ⟨_, .other field⟩

theorem Once.of_append {ms ns : List (String × Value)} (h : Once (ms ++ ns)) : Once ms := by
  intro name mem
  have := h name mem
  rw [keys, List.map_append, List.count_append] at this
  exact (Nat.le_add_right _ _).trans this

theorem once_concat_iff {key : String} {ms : List (String × Value)} (once : Once ms) (v : Value) :
    Once (ms ++ [(key, v)]) ↔ (key ∈ fieldNames → key ∉ keys ms) := by
  have count (name : String) : (keys (ms ++ [(key, v)])).count name =
      (keys ms).count name + if key = name then 1 else 0 := by
    rw [keys, List.map_append, List.count_append, List.map_singleton, List.count_singleton, keys]
    simp only [beq_iff_eq]
  constructor
  · intro both mem
    have := both key mem
    rw [count, if_pos rfl] at this
    exact List.count_eq_zero.1 (by omega)
  · intro fresh name mem
    rw [count]
    split
    · rename_i same
      subst same
      rw [List.count_eq_zero.2 (fresh mem)]
    · exact once name mem

/-- Which members can be put after which others, one after another. -/
theorem exists_puts_iff {f : Fields} {before ms : List (String × Value)} (hold : f.Hold before)
    (once : Once before) : (∃ f', Puts Fields.Put f ms f') ↔
      (∀ m ∈ ms, Fits m) ∧ Once (before ++ ms) := by
  -- The fields hold what has been put, so they tell which names have been given.
  induction ms generalizing f before with
  | nil =>
    rw [List.append_nil]
    exact iff_of_true ⟨f, .nil⟩ ⟨nofun, once⟩
  | cons m ms ih =>
    obtain ⟨key, v⟩ := m
    rw [List.append_cons, List.forall_mem_cons]
    constructor
    · rintro ⟨f'', puts⟩
      cases puts with
      | cons put puts =>
        have next := (once_concat_iff once v).2 (hold.fresh put)
        obtain ⟨rest, all⟩ := (ih (put.hold hold) next).1 ⟨_, puts⟩
        exact ⟨⟨put.fits, rest⟩, all⟩
    · rintro ⟨⟨fits, rest⟩, all⟩
      have next := all.of_append
      obtain ⟨f', put⟩ := hold.exists_put fits ((once_concat_iff once v).1 next)
      obtain ⟨f'', puts⟩ := (ih (put.hold hold) next).2 ⟨rest, all⟩
      exact ⟨f'', .cons put puts⟩

theorem acceptable_iff {ms : List (String × Value)} :
    Acceptable ms ↔ ∃ f, Puts Fields.Put .empty ms f := by
  have empty : Fields.empty.Hold [] := ⟨rfl, rfl, rfl, rfl, rfl⟩
  rw [exists_puts_iff empty fun _ _ => Nat.zero_le 1]
  exact ⟨fun h => ⟨h.fits, h.once⟩, fun h => ⟨h.2, h.1⟩⟩

/-! ### Order -/

section

variable {ms ns : List (String × Value)}

theorem SameByName.symm (h : SameByName ms ns) : SameByName ns ms := fun name => (h name).symm

theorem sameByName_swap {m n : String × Value} (xs ys : List (String × Value))
    (h : m.1 ≠ n.1) : SameByName (xs ++ m :: n :: ys) (xs ++ n :: m :: ys) := by
  intro name
  rw [List.filter_append, List.filter_append]
  congr 1
  by_cases first : m.1 = name
  · have second : n.1 ≠ name := fun same => h (first.trans same.symm)
    simp [List.filter_cons, second]
  · simp [List.filter_cons, first]

theorem SameByName.mem (h : SameByName ms ns) {m : String × Value} (mem : m ∈ ms) : m ∈ ns := by
  have kept : m ∈ ms.filter (·.1 = m.1) := List.mem_filter.2 ⟨mem, decide_eq_true rfl⟩
  rw [h m.1] at kept
  exact (List.mem_filter.1 kept).1

theorem count_keys (name : String) (ms : List (String × Value)) :
    (keys ms).count name = (ms.filter (·.1 = name)).length := by
  rw [keys, List.count, List.countP_map, List.countP_eq_length_filter]
  rfl

theorem SameByName.last?_eq (h : SameByName ms ns) (name : String) :
    last? name ms = last? name ns := by
  have kept (ms : List (String × Value)) : last? name (ms.filter (·.1 = name)) = last? name ms :=
    Members.last?_filter (fun _ => decide_eq_true rfl) ms
  rw [← kept ms, h name, kept ns]

theorem filter_field {name : String} (h : name ∈ fieldNames) (ms : List (String × Value)) :
    (ms.filter (·.1 ∈ fieldNames)).filter (·.1 = name) = ms.filter (·.1 = name) := by
  rw [List.filter_filter]
  refine List.filter_congr fun m _ => ?_
  by_cases same : m.1 = name
  · simp [same, h]
  · simp [same]

/-- Members that no field is for play no part. -/
theorem acceptable_filter : Acceptable (ms.filter (·.1 ∈ fieldNames)) ↔ Acceptable ms := by
  have once : Once (ms.filter (·.1 ∈ fieldNames)) ↔ Once ms := by
    refine forall₂_congr fun name mem => ?_
    rw [count_keys, count_keys, filter_field mem]
  refine ⟨fun h => ⟨once.1 h.once, fun m mem => ?_⟩, fun h => ⟨once.2 h.once, fun m mem => ?_⟩⟩
  · by_cases field : m.1 ∈ fieldNames
    · exact h.fits m (List.mem_filter.2 ⟨mem, decide_eq_true field⟩)
    · exact fits_of_not_mem field m.2
  · exact h.fits m (List.mem_filter.1 mem).1

theorem Acceptable.of_same (h : Acceptable ms) (same : SameByName ms ns) : Acceptable ns where
  once name mem := by
    rw [count_keys, ← same name, ← count_keys]
    exact h.once name mem
  fits m mem := h.fits m (same.symm.mem mem)

theorem ofOption_strings_injective : Function.Injective (Value.ofOption Value.strings) := by
  rintro (_ | xs) (_ | ys) same
  · rfl
  · cases same
  · cases same
  · exact congrArg some (strings_injective same)

/-- Fields are determined by the members that they hold. -/
theorem Fields.Hold.unique {f f' : Fields} (h : f.Hold ms) (h' : f'.Hold ms) : f = f' := by
  obtain ⟨symbols, timeframes, cells, timestamp, extra⟩ := f
  obtain ⟨symbols', timeframes', cells', timestamp', extra'⟩ := f'
  have symbols := Option.map_injective @strings_injective (h.symbols.trans h'.symbols.symm)
  have timeframes :=
    Option.map_injective ofOption_strings_injective (h.timeframes.trans h'.timeframes.symm)
  have cells := Option.map_injective (fun _ _ => Value.array.inj) (h.cells.trans h'.cells.symm)
  have timestamp :=
    Option.map_injective (fun _ _ => Value.string.inj) (h.timestamp.trans h'.timestamp.symm)
  have extra := h.extra.trans h'.extra.symm
  cases symbols
  cases timeframes
  cases cells
  cases timestamp
  cases extra
  rfl

theorem ofBytes_of_same {bs bs' : List UInt8} (hm : Body ms bs) (hn : Body ns bs')
    (same : SameByName ms ns) {s : Snapshot} (read : ofBytes bs = .ok s) :
    ofBytes bs' = .ok s := by
  obtain ⟨ms', f, hm', puts, rfl⟩ := ofBytes_eq_ok.1 read
  obtain rfl := hm.unique hm'
  obtain ⟨f', puts'⟩ := acceptable_iff.1 ((acceptable_iff.2 ⟨f, puts⟩).of_same same)
  have hold := (hold_of_puts puts).congr same.last?_eq
  obtain rfl := hold.unique (hold_of_puts puts')
  exact ofBytes_eq_ok.2 ⟨ns, f, hn, puts', rfl⟩

end

/-- A text is read as a snapshot iff it spells an object in which no field is given twice and the
value of each that is given has its shape. Null is the shape of no field but the timeframes, and
other members play no part. What is read does not depend on the order of members with different
names. -/
theorem accepted_iff (bs : List UInt8) :
    ((∃ s, ofBytes bs = .ok s) ↔ ∃ ms, Body ms bs ∧ Acceptable ms) ∧
    ((∃ ms, Body ms bs) ↔ ∃ ns, Value.ofBytes bs = .ok (.object ns)) ∧
    (∀ ms ns, Body ms bs → Body ns bs → ms = ns) ∧
    (∀ name, Fits (name, .null) ↔ name ∉ ["symbols", "cells", "timestamp"]) ∧
    (∀ ms, Acceptable ms ↔ Acceptable (ms.filter (·.1 ∈ fieldNames))) ∧
    ∀ ms ns bs', Body ms bs → Body ns bs' → SameByName ms ns →
      ∀ s, ofBytes bs = .ok s ↔ ofBytes bs' = .ok s := by
  refine ⟨⟨?_, ?_⟩, exists_body_iff, fun ms ns hm hn => hm.unique hn,
    fun name => fits_null_iff, fun ms => acceptable_filter.symm,
    fun ms ns bs' hm hn same s => ⟨ofBytes_of_same hm hn same, ofBytes_of_same hn hm same.symm⟩⟩
  · rintro ⟨s, read⟩
    obtain ⟨ms, f, body, puts, -⟩ := ofBytes_eq_ok.1 read
    exact ⟨ms, body, acceptable_iff.2 ⟨f, puts⟩⟩
  · rintro ⟨ms, body, acceptable⟩
    obtain ⟨f, puts⟩ := acceptable_iff.1 acceptable
    exact ⟨f.snapshot, ofBytes_eq_ok.2 ⟨ms, f, body, puts, rfl⟩⟩

/-- A name that is repeated, before and after a field. -/
theorem accepted_iff_reordered :
    let bs := Utf8.bytes "\x7b\"note\":1,\"timeframes\":null,\"note\":null\x7d"
    let bs' := Utf8.bytes "\x7b\"note\":1,\"note\":null,\"timeframes\":null\x7d"
    let note : Value := .number (.integer 1)
    let ms := [("note", note), ("timeframes", .null), ("note", .null)]
    let ns := [("note", note), ("note", .null), ("timeframes", .null)]
    Body ms bs ∧ Body ns bs' ∧ Acceptable ms ∧ SameByName ms ns ∧
      ∃ s, ofBytes bs = .ok s ∧ ofBytes bs' = .ok s := by
  intro bs bs' note ms ns
  obtain ⟨accepted, -, unique, -, -, order⟩ := accepted_iff bs
  have body : Body ms bs := membersOf_eq_ok.1 (by rfl)
  have body' : Body ns bs' := membersOf_eq_ok.1 (by rfl)
  have same : SameByName ms ns := sameByName_swap [("note", note)] [] (by decide)
  have read : ofBytes bs = .ok ⟨[], none, [], "", [("note", .null)]⟩ := by rfl
  obtain ⟨_, found, acceptable⟩ := accepted.1 ⟨_, read⟩
  obtain rfl := unique _ _ body found
  exact ⟨body, body', acceptable, same, _, read, (order ms ns bs' body body' same _).1 read⟩

end HeatFeed.Snapshot
