import HeatFeed.View.Grid
import Mathlib.Data.List.Basic

/-!
# The score of a place

Cells may be any values. A cell counts for a place if it is an object that names the symbol and the
timeframe and has a number, and the score is the number of the first cell that counts. All others are
passed over, wherever they stand and however close they come to counting.
-/

namespace HeatFeed.View

open Json

/-- The value of a member with one of two names. The second name is looked at only if there is no
member with the first one. -/
inductive Holds (members : Members Value) (name other : String) (v : Value) : Prop where
  | first (found : Members.get? name members = some v)
  | second (absent : Members.get? name members = none) (found : Members.get? other members = some v)

/-- The floating-point number that a number stands for: itself, or the one nearest to an integer. -/
inductive StandsFor : Number → Binary64 → Prop where
  | float (x : Binary64) : StandsFor (.float x) x
  | integer (n : Int) : StandsFor (.integer n) (.ofInt n)

/-- A cell that counts for the place of a symbol and a timeframe, with its number. -/
structure Counts (symbol timeframe : String) (members : Members Value) (x : Binary64) : Prop where
  symbol : Members.get? "symbol" members = some (.string symbol)
  timeframe : Holds members "timeframe" "tf" (.string timeframe)
  score : ∃ n : Number, Holds members "score" "value" (.number n) ∧ StandsFor n x

/-- A value that is a cell which counts. -/
def Qualifies (symbol timeframe : String) (cell : Value) (x : Binary64) : Prop :=
  ∃ members, cell = .object members ∧ Counts symbol timeframe members x

/-- A value that is passed over. -/
def Passed (symbol timeframe : String) (cell : Value) : Prop :=
  ∀ x, ¬Qualifies symbol timeframe cell x

/-! ### One cell -/

theorem string?_eq_some_iff {v : Value} {s : String} : v.string? = some s ↔ v = .string s := by
  cases v <;> simp [Value.string?]

theorem standsFor_iff {n : Number} {x : Binary64} : StandsFor n x ↔ x = n.toFloat := by
  constructor
  · rintro (_ | _)
    · rfl
    · rfl
  · rintro rfl
    cases n with
    | integer n => exact .integer n
    | float x => exact .float x

theorem float?_eq_some_iff {v : Value} {x : Binary64} :
    v.float? = some x ↔ ∃ n : Number, v = .number n ∧ StandsFor n x := by
  cases v <;> simp [Value.float?, standsFor_iff, eq_comm]

theorem memberOr_eq_some_iff {members : Members Value} {name other : String} {v : Value} :
    memberOr (.object members) name other = some v ↔ Holds members name other v := by
  rw [memberOr, Value.member?, Value.member?]
  cases found : Members.get? name members with
  | some w =>
    refine ⟨fun same => .first (found.trans same), fun holds => ?_⟩
    cases holds with
    | first same => exact found.symm.trans same
    | second absent => exact absurd (found.symm.trans absent) nofun
  | none =>
    refine ⟨fun same => .second found same, fun holds => ?_⟩
    cases holds with
    | first same => exact absurd (found.symm.trans same) nofun
    | second _ same => exact same

theorem scoreOf_object_iff {symbol timeframe : String} {members : Members Value} {x : Binary64} :
    scoreOf symbol timeframe (.object members) = some x ↔ Counts symbol timeframe members x := by
  rw [scoreOf, Option.ite_none_right_eq_some]
  simp only [Option.bind_eq_some_iff, string?_eq_some_iff, float?_eq_some_iff,
    memberOr_eq_some_iff, exists_eq_right, Value.member?]
  constructor
  · rintro ⟨⟨symbol, timeframe⟩, v, holds, n, rfl, value⟩
    exact ⟨symbol, timeframe, n, holds, value⟩
  · rintro ⟨symbol, timeframe, n, holds, value⟩
    exact ⟨⟨symbol, timeframe⟩, _, holds, n, rfl, value⟩

/-- Only objects have members. -/
theorem scoreOf_of_not_object {symbol timeframe : String} {cell : Value}
    (h : ∀ members, cell ≠ .object members) : scoreOf symbol timeframe cell = none := by
  have absent : cell.member? "symbol" = none := by
    cases cell with
    | object members => exact absurd rfl (h members)
    | _ => rfl
  rw [scoreOf, absent]
  rfl

theorem scoreOf_eq_some_iff {symbol timeframe : String} {cell : Value} {x : Binary64} :
    scoreOf symbol timeframe cell = some x ↔ Qualifies symbol timeframe cell x := by
  by_cases object : ∃ members, cell = .object members
  · obtain ⟨members, rfl⟩ := object
    rw [scoreOf_object_iff, Qualifies]
    simp
  · rw [scoreOf_of_not_object (not_exists.1 object)]
    refine iff_of_false nofun ?_
    rintro ⟨members, rfl, -⟩
    exact object ⟨members, rfl⟩

theorem scoreOf_eq_none_iff {symbol timeframe : String} {cell : Value} :
    scoreOf symbol timeframe cell = none ↔ Passed symbol timeframe cell := by
  simp [Passed, Option.eq_none_iff_forall_ne_some, scoreOf_eq_some_iff]

/-- An object is passed over iff one of the three is not there. -/
theorem passed_object_iff {symbol timeframe : String} (members : Members Value) :
    Passed symbol timeframe (.object members) ↔
      Members.get? "symbol" members ≠ some (.string symbol) ∨
        ¬Holds members "timeframe" "tf" (.string timeframe) ∨
        ∀ n, ¬Holds members "score" "value" (.number n) := by
  constructor
  · intro passed
    by_contra complete
    push Not at complete
    obtain ⟨symbol, timeframe, n, holds⟩ := complete
    exact passed n.toFloat ⟨members, rfl, symbol, timeframe, n, holds, standsFor_iff.2 rfl⟩
  · rintro fault x ⟨_, ⟨⟩, counts⟩
    obtain ⟨n, holds, -⟩ := counts.score
    rcases fault with other | other | noNumber
    · exact other counts.symbol
    · exact other counts.timeframe
    · exact noNumber n holds

/-! ### All cells -/

/-- Cells that are passed over may stand anywhere. -/
theorem cellScore_append_passed {symbol timeframe : String} {more : List Value}
    (h : ∀ cell ∈ more, Passed symbol timeframe cell) (front back : List Value) :
    cellScore (front ++ (more ++ back)) symbol timeframe =
      cellScore (front ++ back) symbol timeframe := by
  have none : more.findSome? (scoreOf symbol timeframe) = none :=
    List.findSome?_eq_none_iff.2 fun cell mem => scoreOf_eq_none_iff.2 (h cell mem)
  simp only [cellScore, List.findSome?_append, none, Option.none_or]

/-- Nothing behind a cell that counts is looked at. -/
theorem cellScore_append_qualifies {symbol timeframe : String} {cell : Value} {x : Binary64}
    (h : Qualifies symbol timeframe cell x) (front back : List Value) :
    cellScore (front ++ cell :: back) symbol timeframe =
      (cellScore front symbol timeframe).or (some x) := by
  rw [cellScore, List.findSome?_append, List.findSome?_cons, scoreOf_eq_some_iff.2 h, cellScore]

/-- There is a score iff some cell counts, and then it is the number of the first one. Cells that do
not count may be put in or taken out anywhere, and all cells behind the first one that counts may be
replaced. What is no object does not count, and an object does not iff it is one of another symbol
or timeframe or has no number; a later cell that counts is found all the same. -/
theorem cellScore_first (symbol timeframe : String) :
    (∀ cells x, cellScore cells symbol timeframe = some x ↔
      ∃ before cell after, cells = before ++ cell :: after ∧
        (∀ c ∈ before, Passed symbol timeframe c) ∧ Qualifies symbol timeframe cell x) ∧
    (∀ cells, cellScore cells symbol timeframe = none ↔ ∀ c ∈ cells, Passed symbol timeframe c) ∧
    (∀ front more back, (∀ c ∈ more, Passed symbol timeframe c) →
      cellScore (front ++ (more ++ back)) symbol timeframe =
        cellScore (front ++ back) symbol timeframe) ∧
    (∀ front cell x back others, Qualifies symbol timeframe cell x →
      cellScore (front ++ cell :: back) symbol timeframe =
        cellScore (front ++ cell :: others) symbol timeframe) ∧
    (∀ cell, (∀ members, cell ≠ .object members) → Passed symbol timeframe cell) ∧
    ∀ members : Members Value, Passed symbol timeframe (.object members) ↔
      Members.get? "symbol" members ≠ some (.string symbol) ∨
        ¬Holds members "timeframe" "tf" (.string timeframe) ∨
        ∀ n, ¬Holds members "score" "value" (.number n) := by
  refine ⟨fun cells x => ?_, fun cells => ?_, fun front more back passed => ?_,
    fun front cell x back others counts => ?_, fun cell other => ?_, passed_object_iff⟩
  · rw [cellScore, List.findSome?_eq_some_iff]
    simp only [scoreOf_eq_some_iff, scoreOf_eq_none_iff, and_comm]
  · simp only [cellScore, List.findSome?_eq_none_iff, scoreOf_eq_none_iff]
  · exact cellScore_append_passed passed front back
  · rw [cellScore_append_qualifies counts, cellScore_append_qualifies counts]
  · exact scoreOf_eq_none_iff.1 (scoreOf_of_not_object other)

/-- A cell with a timeframe that is no text, though its second name would fit, and one with a score
that is no number come before one that counts for minus a quarter, and another one behind it. -/
theorem cellScore_first_malformed :
    let quarter : Binary64 := ⟨true, 0x3FD0000000000000, by decide⟩
    let noTimeframe : Members Value :=
      [("score", .nat 3), ("symbol", .string "A"), ("tf", .string "M1"), ("timeframe", .null)]
    let noNumber : Members Value :=
      [("score", .string "high"), ("symbol", .string "A"), ("tf", .string "M1"), ("value", .nat 4)]
    let good : Members Value :=
      [("symbol", .string "A"), ("tf", .string "M1"), ("value", .number (.float quarter))]
    let later : Members Value :=
      [("score", .nat 2), ("symbol", .string "A"), ("timeframe", .string "M1")]
    quarter.signedFixed = "-0.25" ∧
    (∀ c ∈ [.object noTimeframe, .object noNumber], Passed "A" "M1" c) ∧
    Qualifies "A" "M1" (.object good) quarter ∧
    cellScore [.object noTimeframe, .object noNumber, .object good, .object later] "A" "M1" =
      some quarter ∧
    cellScore [.object noTimeframe, .object noNumber, .object later] "A" "M1" =
      some (.ofInt 2) := by
  intro quarter noTimeframe noNumber good later
  obtain ⟨found, -, -, -, -, faults⟩ := cellScore_first "A" "M1"
  have timeframe : Passed "A" "M1" (.object noTimeframe) := by
    refine (faults _).2 (.inr (.inl ?_))
    rintro (found | ⟨absent, -⟩)
    · simp [noTimeframe, Members.get?] at found
    · simp [noTimeframe, Members.get?] at absent
  have number : Passed "A" "M1" (.object noNumber) := by
    refine (faults _).2 (.inr (.inr ?_))
    rintro n (found | ⟨absent, -⟩)
    · simp [noNumber, Members.get?] at found
    · simp [noNumber, Members.get?] at absent
  have counts : Qualifies "A" "M1" (.object good) quarter :=
    ⟨good, rfl, rfl, .second rfl rfl, _, .second rfl rfl, .float quarter⟩
  have behind : Qualifies "A" "M1" (.object later) (.ofInt 2) :=
    ⟨later, rfl, rfl, .first rfl, _, .first rfl, .integer 2⟩
  have passed : ∀ c ∈ [.object noTimeframe, .object noNumber], Passed "A" "M1" c := by
    simp [timeframe, number]
  exact ⟨by decide +kernel, passed, counts,
    (found _ _).2 ⟨[_, _], _, [_], rfl, passed, counts⟩,
    (found _ _).2 ⟨[_, _], _, [], rfl, passed, behind⟩⟩

end HeatFeed.View
