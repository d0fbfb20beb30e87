import HeatFeed.Proofs.Sample.Snapshot

/-!
# Sample snapshots that are built

The number behind a score is seven times the generation and a part that belongs to the place. The
last place has the largest part, so a snapshot is built iff the number of its last place fits into
64 bits. If it does not, then either seven times the generation does not fit, which fails at the
first place, or it is the sum that fails, at the first place where that is too large. The scores
themselves need no such numbers: those of a generation are the scores of its remainder modulo 201,
and that always has a snapshot.
-/

namespace HeatFeed.Sample

open Json

/-- What fails where `fixed` and seven times the generation are added up in 64 bits. -/
def Overflow.Arises (fixed generation : Nat) : Overflow → Prop
  | .product => 2 ^ 64 ≤ 7 * generation
  | .sum => 7 * generation < 2 ^ 64 ∧ 2 ^ 64 ≤ fixed + 7 * generation

/-- The cell of a symbol and a timeframe, with the number nearest to some hundredths. -/
def ScoredCell (symbol timeframe : String) (hundredths : Int) (v : Value) : Prop :=
  ∃ x, Exact x hundredths ∧ v = .object [
    ("score", .number (.float x)),
    ("symbol", .string symbol),
    ("timeframe", .string timeframe)]

/-- The snapshot of a timestamp whose cells, symbol by symbol, have the scores of a generation. -/
def Scored (timestamp : String) (generation : Nat) (v : Value) : Prop :=
  ∃ cells : List Value,
    v = .object [
      ("cells", .array cells),
      ("symbols", .strings symbols),
      ("timeframes", .strings timeframes),
      ("timestamp", .string timestamp)] ∧
    cells.length = 30 ∧
    ∀ i j symbol timeframe, symbols[i]? = some symbol → timeframes[j]? = some timeframe →
      ∃ cell, cells[6 * i + j]? = some cell ∧
        ScoredCell symbol timeframe (((31 * i + 17 * j + 7 * generation) % 201 : Nat) - 100) cell

/-! ### Overflow -/

section

variable {fixed other g : Nat} {o p : Overflow}

theorem fits_or_arises (fixed g : Nat) :
    fixed + 7 * g < 2 ^ 64 ∨ ∃ o : Overflow, o.Arises fixed g := by
  by_cases product : 2 ^ 64 ≤ 7 * g
  · exact .inr ⟨.product, product⟩
  · by_cases sum : 2 ^ 64 ≤ fixed + 7 * g
    · exact .inr ⟨.sum, Nat.lt_of_not_le product, sum⟩
    · exact .inl (Nat.lt_of_not_le sum)

theorem Overflow.Arises.not_fits (h : o.Arises fixed g) : ¬fixed + 7 * g < 2 ^ 64 := by
  cases o with
  | product =>
    have product : 2 ^ 64 ≤ 7 * g := h
    omega
  | sum => exact Nat.not_lt_of_le h.2

/-- What fails is a matter of the generation alone. -/
theorem Overflow.Arises.unique (ho : o.Arises fixed g) (hp : p.Arises other g) : o = p := by
  cases o with
  | product =>
    cases p with
    | product => rfl
    | sum => exact absurd ho (Nat.not_le_of_lt hp.1)
  | sum =>
    cases p with
    | product => exact absurd hp (Nat.not_le_of_lt ho.1)
    | sum => rfl

/-- A computation that is told for both cases has no other outcomes. -/
theorem outcome_iff {α : Type} {x : Except Overflow α} {a : α}
    (fits : fixed + 7 * g < 2 ^ 64 → x = .ok a)
    (arises : ∀ o : Overflow, o.Arises fixed g → x = .error o) :
    (∀ r, x = .ok r ↔ fixed + 7 * g < 2 ^ 64 ∧ r = a) ∧
      ∀ o : Overflow, x = .error o ↔ o.Arises fixed g := by
  rcases fits_or_arises fixed g with small | ⟨p, large⟩
  · rw [fits small]
    refine ⟨fun r => ?_, fun o => ⟨nofun, fun h => absurd small h.not_fits⟩⟩
    rw [Except.ok.injEq, and_iff_right small, eq_comm]
  · rw [arises p large]
    refine ⟨fun r => ⟨nofun, fun h => absurd h.1 large.not_fits⟩, fun o => ?_⟩
    rw [Except.error.injEq]
    exact ⟨fun same => same ▸ large, fun h => large.unique h⟩

end

/-! ### Cells -/

section

variable {i j g : Nat} {s t : String × Nat} {o : Overflow}

theorem seed?_of_arises (h : o.Arises (31 * i + 17 * j) g) : seed? i j g = .error o := by
  cases o with
  | product =>
    have product : Nat.pow 2 64 ≤ g * 7 := Nat.mul_comm 7 g ▸ h
    rw [seed?, if_pos product]
  | sum =>
    have product : ¬Nat.pow 2 64 ≤ g * 7 := Nat.mul_comm 7 g ▸ Nat.not_le_of_lt h.1
    have sum : Nat.pow 2 64 ≤ seed i j g := seed_eq i j g ▸ h.2
    rw [seed?, if_neg product, if_pos sum]

theorem cell_of_arises (h : o.Arises (31 * s.2 + 17 * t.2) g) : cell s t g = .error o := by
  rw [cell, seed?_of_arises h]
  rfl

theorem cell_outcome (s t : String × Nat) (g : Nat) :
    (∀ v, cell s t g = .ok v ↔
      31 * s.2 + 17 * t.2 + 7 * g < 2 ^ 64 ∧ v = .object (cellMembers s t g)) ∧
      ∀ o : Overflow, cell s t g = .error o ↔ o.Arises (31 * s.2 + 17 * t.2) g :=
  outcome_iff (fun fits => cell_eq fits) fun _ => cell_of_arises

/-- The hundredths of a cell fix its number. -/
theorem ScoredCell.unique {symbol timeframe : String} {k : Int} {v w : Value}
    (hv : ScoredCell symbol timeframe k v) (hw : ScoredCell symbol timeframe k w) : v = w := by
  obtain ⟨x, exact, rfl⟩ := hv
  obtain ⟨y, exact', rfl⟩ := hw
  have number : x = y := Option.some.inj (exact.nearest.symm.trans exact'.nearest)
  rw [number]

theorem scoredCell_members (s t : String × Nat) (g : Nat) :
    ScoredCell s.1 t.1 (((31 * s.2 + 17 * t.2 + 7 * g) % 201 : Nat) - 100)
      (.object (cellMembers s t g)) :=
  ⟨scoreAt s.2 t.2 g, exact_scoreAt s.2 t.2 g, rfl⟩

theorem scoredCell_iff {v : Value} :
    ScoredCell s.1 t.1 (((31 * s.2 + 17 * t.2 + 7 * g) % 201 : Nat) - 100) v ↔
      v = .object (cellMembers s t g) :=
  ⟨fun h => h.unique (scoredCell_members s t g), fun h => h ▸ scoredCell_members s t g⟩

end

/-! ### Snapshots -/

theorem getElem?_places : ∀ k < 30, places[k]? =
    symbols[k / 6]?.bind fun s => timeframes[k % 6]?.map fun t => ((s, k / 6), (t, k % 6)) := by
  decide +kernel

section

variable {timestamp : String} {g : Nat}

theorem snapshot_of_arises {o : Overflow} (h : o.Arises (31 * 4 + 17 * 5) g) :
    snapshot timestamp g = .error o := by
  have last : (("SPX", 4), ("H1", 5)) ∈ places := mem_places.2 ⟨rfl, rfl⟩
  have failed : cells g = .error o := by
    -- the last place fails, and any before it that fails does so in the same way
    refine mapM_error ⟨_, last, cell_of_arises h⟩ fun place _ d failed => ?_
    exact (((cell_outcome place.1 place.2 g).2 d).1 failed).unique h
  rw [snapshot, failed]
  rfl

theorem scored_members (timestamp : String) (g : Nat) :
    Scored timestamp g (.object (members timestamp g)) := by
  refine ⟨allCells g, rfl, rfl, fun i j symbol timeframe hs ht => ?_⟩
  have row : i < 5 := (List.getElem?_eq_some_iff.1 hs).1
  have column : j < 6 := (List.getElem?_eq_some_iff.1 ht).1
  have row' : (6 * i + j) / 6 = i := by omega
  have column' : (6 * i + j) % 6 = j := by omega
  refine ⟨_, ?_, scoredCell_members (symbol, i) (timeframe, j) g⟩
  rw [allCells, List.getElem?_map, getElem?_places (6 * i + j) (by omega), row', column', hs, ht]
  rfl

/-- The places are all that there is in a snapshot. -/
theorem Scored.unique {v w : Value} (hv : Scored timestamp g v) (hw : Scored timestamp g w) :
    v = w := by
  obtain ⟨cells, rfl, length, scores⟩ := hv
  obtain ⟨others, rfl, length', scores'⟩ := hw
  have same : cells = others := by
    refine List.ext_getElem? fun k => ?_
    by_cases inside : k < 30
    · -- each cell within is that of a place, by its row and its column
      have row : k / 6 < symbols.length := Nat.div_lt_of_lt_mul inside
      have column : k % 6 < timeframes.length := Nat.mod_lt k (by decide)
      have hs := List.getElem?_eq_getElem row
      have ht := List.getElem?_eq_getElem column
      obtain ⟨cell, at_k, scored⟩ := scores _ _ _ _ hs ht
      obtain ⟨cell', at_k', scored'⟩ := scores' _ _ _ _ hs ht
      rw [Nat.div_add_mod] at at_k at_k'
      rw [at_k, at_k', scored.unique scored']
    · rw [List.getElem?_eq_none (by omega), List.getElem?_eq_none (by omega)]
  rw [same]

theorem scored_iff {v : Value} :
    Scored timestamp g v ↔ v = .object (members timestamp g) :=
  ⟨fun h => h.unique (scored_members timestamp g), fun h => h ▸ scored_members timestamp g⟩

theorem members_mod (timestamp : String) (g : Nat) :
    members timestamp (g % 201) = members timestamp g := by
  rw [members, members, allCells_congr (Nat.mod_mod g 201)]

end

/-- A cell has its exact score iff the number behind that fits into 64 bits, and a snapshot is built
iff the number of its last place does; it has all exact scores then. Else the product fails with a
generation that is too large by itself, and the sum with any other. The exact scores of every
generation are those of a snapshot that is built. -/
theorem snapshot_outcome (timestamp : String) (g : Nat) :
    (∀ i j symbol timeframe, symbols[i]? = some symbol → timeframes[j]? = some timeframe →
      (∀ v, cell (symbol, i) (timeframe, j) g = .ok v ↔
        31 * i + 17 * j + 7 * g < 2 ^ 64 ∧
          ScoredCell symbol timeframe (((31 * i + 17 * j + 7 * g) % 201 : Nat) - 100) v) ∧
      ∀ o : Overflow, cell (symbol, i) (timeframe, j) g = .error o ↔
        o.Arises (31 * i + 17 * j) g) ∧
    (∀ v, snapshot timestamp g = .ok v ↔
      31 * 4 + 17 * 5 + 7 * g < 2 ^ 64 ∧ Scored timestamp g v) ∧
    (∀ o : Overflow, snapshot timestamp g = .error o ↔ o.Arises (31 * 4 + 17 * 5) g) ∧
    ∃ v, snapshot timestamp (g % 201) = .ok v ∧ Scored timestamp g v := by
  obtain ⟨built, failed⟩ := outcome_iff (x := snapshot timestamp g)
    (fun fits => snapshot_eq fits) fun _ => snapshot_of_arises
  refine ⟨fun i j symbol timeframe _ _ => ?_, fun v => ?_, failed, ?_⟩
  · obtain ⟨filled, overflown⟩ := cell_outcome (symbol, i) (timeframe, j) g
    refine ⟨fun v => ?_, overflown⟩
    rw [filled, ← scoredCell_iff]
  · rw [built, scored_iff]
  · have small : 31 * 4 + 17 * 5 + 7 * (g % 201) < 2 ^ 64 := by omega
    refine ⟨_, snapshot_eq small, ?_⟩
    rw [members_mod]
    exact scored_members timestamp g

/-- The first generation without a snapshot: each number behind a score fits but the last one. -/
theorem last_place_overflows :
    let timestamp := "2025-01-01T00:00:00Z"
    let g := 2635249153387078773
    g < 2 ^ 64 ∧
      (∀ p ∈ places, (∃ v, cell p.1 p.2 g = .ok v) ↔ p ≠ (("SPX", 4), ("H1", 5))) ∧
      cell ("SPX", 4) ("H1", 5) g = .error .sum ∧ snapshot timestamp g = .error .sum ∧
      ¬∃ v, snapshot timestamp g = .ok v ∧ Scored timestamp g v := by
  intro timestamp g
  have overflow : Overflow.sum.Arises (31 * 4 + 17 * 5) g := ⟨by decide, by decide⟩
  have failed : snapshot timestamp g = .error .sum := snapshot_of_arises overflow
  refine ⟨by decide, fun p mem => ?_, cell_of_arises overflow, failed, ?_⟩
  · have fits : 31 * p.1.2 + 17 * p.2.2 + 7 * g < 2 ^ 64 ↔ p ≠ (("SPX", 4), ("H1", 5)) := by
      revert p
      decide +kernel
    simp only [(cell_outcome p.1 p.2 g).1, exists_eq_right, fits]
  · rintro ⟨v, built, -⟩
    rw [failed] at built
    cases built

end HeatFeed.Sample
