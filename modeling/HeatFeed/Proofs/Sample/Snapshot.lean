import HeatFeed.Proofs.Sample.Score
import HeatFeed.Proofs.Snapshot.RoundTrip
import HeatFeed.Proofs.View.Score
import Mathlib.Data.Nat.ModEq
import Mathlib.Logic.Function.Iterate

/-!
# Sample snapshots that are read

A sample snapshot is read as it is meant: every place of its grid has a cell of its own, and so the
score that the grid shows there is the one that was computed for the place. Scores of one place
follow the generations modulo 201, and as 7 has an inverse modulo 201, no two of 201 generations in
a row have the same score there.
-/

namespace HeatFeed.Sample

open Json Json.Reader
open StringLiteral (literal_write)

/-- The places of the grid, symbol by symbol, with the indices of the names. -/
def places : List ((String × Nat) × String × Nat) :=
  symbols.zipIdx.flatMap fun s => timeframes.zipIdx.map fun t => (s, t)

/-- The score of a place. -/
def scoreAt (symbol timeframe generation : Nat) : Binary64 :=
  score (hundredths (seed symbol timeframe generation))

/-- The members of the cell of a place. -/
def cellMembers (symbol timeframe : String × Nat) (generation : Nat) : Members Value := [
  ("score", .number (.float (scoreAt symbol.2 timeframe.2 generation))),
  ("symbol", .string symbol.1),
  ("timeframe", .string timeframe.1)]

/-- The cells of a generation whose scores fit into 64 bits. -/
def allCells (generation : Nat) : List Value :=
  places.map fun p => .object (cellMembers p.1 p.2 generation)

/-- The members of the snapshot of such a generation. -/
def members (timestamp : String) (generation : Nat) : Members Value := [
  ("cells", .array (allCells generation)),
  ("symbols", .strings symbols),
  ("timeframes", .strings timeframes),
  ("timestamp", .string timestamp)]

/-- What is read from it. -/
def served (timestamp : String) (generation : Nat) : Snapshot :=
  ⟨symbols, some timeframes, allCells generation, timestamp, []⟩

/-! ### Places -/

theorem mem_places {p : (String × Nat) × String × Nat} :
    p ∈ places ↔ symbols[p.1.2]? = some p.1.1 ∧ timeframes[p.2.2]? = some p.2.1 := by
  obtain ⟨⟨s, i⟩, t, j⟩ := p
  simp only [places, List.mem_flatMap, List.mem_map, List.mem_zipIdx_iff_getElem?]
  constructor
  · rintro ⟨_, symbol, _, timeframe, same⟩
    cases same
    exact ⟨symbol, timeframe⟩
  · rintro ⟨symbol, timeframe⟩
    exact ⟨(s, i), symbol, (t, j), timeframe, rfl⟩

theorem lt_of_mem_places {p : (String × Nat) × String × Nat} (h : p ∈ places) :
    p.1.2 < 5 ∧ p.2.2 < 6 := by
  obtain ⟨symbol, timeframe⟩ := mem_places.1 h
  exact ⟨(List.getElem?_eq_some_iff.1 symbol).1, (List.getElem?_eq_some_iff.1 timeframe).1⟩

/-! ### Scores -/

theorem natAbs_hundredths_lt (seed : Nat) : (hundredths seed).natAbs < 101 := by
  rw [hundredths]
  omega

theorem seed_eq (i j g : Nat) : seed i j g = 31 * i + 17 * j + 7 * g := by
  rw [seed, Nat.mul_comm 31, Nat.mul_comm 17, Nat.mul_comm 7]

theorem seed?_of_fits {i j g : Nat} (fits : 31 * i + 17 * j + 7 * g < Nat.pow 2 64) :
    seed? i j g = .ok (seed i j g) := by
  have product : ¬Nat.pow 2 64 ≤ g * 7 := by omega
  have sum : ¬Nat.pow 2 64 ≤ seed i j g := by
    rw [seed_eq]
    exact Nat.not_le_of_lt fits
  rw [seed?, if_neg product, if_neg sum]

/-- 7 can be cancelled modulo 201, so scores of one place tell generations apart modulo 201. -/
theorem hundredths_seed_iff {i j g h : Nat} :
    hundredths (seed i j g) = hundredths (seed i j h) ↔ g % 201 = h % 201 := by
  have same : hundredths (seed i j g) = hundredths (seed i j h) ↔
      seed i j g ≡ seed i j h [MOD 201] := by
    rw [hundredths, hundredths, Nat.ModEq]
    omega
  rw [same, seed, seed]
  constructor
  · intro agree
    exact Nat.ModEq.cancel_right_of_coprime (by decide) (Nat.ModEq.add_left_cancel' _ agree)
  · intro agree
    exact Nat.ModEq.add_left _ (Nat.ModEq.mul_right 7 agree)

/-! ### What is served -/

section

variable {timestamp : String} {g : Nat}

theorem cell_eq {s t : String × Nat} (fits : 31 * s.2 + 17 * t.2 + 7 * g < Nat.pow 2 64) :
    cell s t g = .ok (.object (cellMembers s t g)) := by
  rw [cell, seed?_of_fits fits]
  rfl

theorem cells_eq (small : 31 * 4 + 17 * 5 + 7 * g < Nat.pow 2 64) :
    cells g = .ok (allCells g) := by
  refine mapM_ok fun p mem => ?_
  obtain ⟨lt_s, lt_t⟩ := lt_of_mem_places mem
  exact cell_eq (by omega)

theorem snapshot_eq (small : 31 * 4 + 17 * 5 + 7 * g < Nat.pow 2 64) :
    snapshot timestamp g = .ok (.object (members timestamp g)) := by
  rw [snapshot, cells_eq small]
  rfl

end

/-! ### Reading -/

theorem spells_cell (levels : Nat) (s t : String × Nat) (g : Nat) :
    Spells (levels + 1) (.object (cellMembers s t g)) (Value.object (cellMembers s t g)).write := by
  have names : ["score", "symbol", "timeframe"].Pairwise (· < ·) := by decide
  have sorted : Members.Sorted (cellMembers s t g) := List.pairwise_map.1 names
  have written : ObjectText (Spells levels) (cellMembers s t g)
      (Value.object (cellMembers s t g)).write := by
    rw [Value.write]
    refine objectText_write fun m mem => spells_iff.2 (.inl ?_)
    simp only [cellMembers, List.mem_cons, List.not_mem_nil, or_false] at mem
    rcases mem with rfl | rfl | rfl
    · rw [Value.write]
      exact scalar_score (natAbs_hundredths_lt _)
    · rw [Value.write]
      exact .string (literal_write _)
    · rw [Value.write]
      exact .string (literal_write _)
  have object := Bracketed.object written
  rw [Value.ofMembers, Members.ofList_of_sorted sorted] at object
  exact .inr object

theorem ofBytes_write (timestamp : String) (g : Nat) :
    Snapshot.ofBytes (Value.object (members timestamp g)).write = .ok (served timestamp g) := by
  have spells : ∀ m ∈ members timestamp g, Snapshot.MemberValue m.2 m.2.write := by
    intro m mem
    simp only [members, List.mem_cons, List.not_mem_nil, or_false] at mem
    rcases mem with rfl | rfl | rfl | rfl
    · rw [Value.write]
      refine spells_array.2 (listText_write fun cell mem => ?_)
      obtain ⟨p, -, rfl⟩ := List.mem_map.1 mem
      exact spells_cell _ p.1 p.2 g
    · exact spells_write_strings _ symbols
    · exact spells_write_strings _ timeframes
    · rw [Value.write]
      exact spells_string.2 (literal_write timestamp)
  have body : Snapshot.Body (members timestamp g) (Value.object (members timestamp g)).write := by
    rw [Value.write]
    exact ⟨[], _, [], blank_nil, blank_nil, objectText_write spells, (List.append_nil _).symm⟩
  have puts : Puts Snapshot.Fields.Put .empty (members timestamp g)
      ⟨some symbols, some (some timeframes), some (allCells g), some timestamp, []⟩ :=
    .cons (.cells rfl) (.cons (.symbols rfl)
      (.cons (.timeframeList rfl timeframes) (.cons (.timestamp rfl) .nil)))
  exact Snapshot.ofBytes_eq_ok.2 ⟨_, _, body, puts, rfl⟩

/-! ### Looking up -/

theorem scoreOf_cell (symbol timeframe : String) (s t : String × Nat) (g : Nat) :
    View.scoreOf symbol timeframe (.object (cellMembers s t g)) =
      if s.1 = symbol ∧ t.1 = timeframe then some (scoreAt s.2 t.2 g) else none := by
  simp [View.scoreOf, View.memberOr, cellMembers, Value.member?, Members.get?, Value.string?,
    Value.float?, Number.toFloat]

/-- The names of a place are those of one cell only. -/
theorem cellScore_allCells {i j : Nat} {symbol timeframe : String}
    (hs : symbols[i]? = some symbol) (ht : timeframes[j]? = some timeframe) (g : Nat) :
    View.cellScore (allCells g) symbol timeframe = some (scoreAt i j g) := by
  have place : ((symbol, i), (timeframe, j)) ∈ places := mem_places.2 ⟨hs, ht⟩
  have found : ∃ x, View.cellScore (allCells g) symbol timeframe = some x := by
    refine Option.isSome_iff_exists.1 (List.findSome?_isSome_iff.2 ?_)
    refine ⟨_, List.mem_map_of_mem place, ?_⟩
    rw [scoreOf_cell, if_pos ⟨rfl, rfl⟩]
    rfl
  obtain ⟨x, found⟩ := found
  obtain ⟨cell, mem, score⟩ := List.exists_of_findSome?_eq_some found
  obtain ⟨⟨s, t⟩, other, rfl⟩ := List.mem_map.1 mem
  obtain ⟨hs', ht'⟩ := mem_places.1 other
  rw [scoreOf_cell, Option.ite_none_right_eq_some] at score
  obtain ⟨⟨rfl, rfl⟩, same⟩ := score
  have symbolsNodup : symbols.Nodup := by decide
  have timeframesNodup : timeframes.Nodup := by decide
  have row : i = s.2 := (List.getElem?_inj (List.getElem?_eq_some_iff.1 hs).1 symbolsNodup).1
    (hs.trans hs'.symm)
  have column : j = t.2 := (List.getElem?_inj (List.getElem?_eq_some_iff.1 ht).1 timeframesNodup).1
    (ht.trans ht'.symm)
  rw [found, ← same, row, column]

theorem exact_scoreAt (i j g : Nat) :
    Exact (scoreAt i j g) (((31 * i + 17 * j + 7 * g) % 201 : Nat) - 100) := by
  rw [← seed_eq]
  exact exact_score (natAbs_hundredths_lt _)

/-- Scores of one place are equal iff the generations are congruent. -/
theorem same_scoreAt_iff {i j g h : Nat} :
    (scoreAt i j g).same (scoreAt i j h) = true ↔ g % 201 = h % 201 := by
  have first := exact_score (natAbs_hundredths_lt (seed i j g))
  have second := exact_score (natAbs_hundredths_lt (seed i j h))
  exact (first.same_iff second).trans hundredths_seed_iff

theorem allCells_congr {g h : Nat} (agree : g % 201 = h % 201) : allCells g = allCells h := by
  refine List.map_congr_left fun p _ => ?_
  rw [cellMembers, cellMembers, scoreAt, scoreAt, hundredths_seed_iff.2 agree]

/-! ### Generations -/

theorem generation_iterate (n : Nat) : (Dataset.next^[n] .initial).generation = n := by
  induction n with
  | zero => rfl
  | succ n ih =>
    rw [Function.iterate_succ_apply']
    exact congrArg (· + 1) ih

/-- The snapshot of a generation, which is the one that is served after so many others, is read with
all symbols and timeframes. At each place the grid then shows the hundredths of the generation, in
[-1, 1]. Two generations have the same score at a place iff they are congruent modulo 201: of fewer
than 202 snapshots in a row no two agree at any place, and then they come again. -/
theorem snapshot_scores (timestamp other : String) {g h : Nat}
    (small : 31 * 4 + 17 * 5 + 7 * max g h < 2 ^ 64) :
    ∃ v w s r,
      snapshot timestamp g = .ok v ∧ (Dataset.next^[g] .initial).current timestamp = .ok v ∧
      snapshot other h = .ok w ∧ (Dataset.next^[h] .initial).current other = .ok w ∧
      Snapshot.ofBytes v.write = .ok s ∧ Snapshot.ofBytes w.write = .ok r ∧
      s.normalized.symbols = symbols ∧ s.normalized.timeframeCodes.Perm timeframes ∧
      (∀ i j symbol timeframe, symbols[i]? = some symbol → timeframes[j]? = some timeframe →
        ∃ x y, View.cellScore s.normalized.cells symbol timeframe = some x ∧
          View.cellScore r.normalized.cells symbol timeframe = some y ∧
          Exact x (((31 * i + 17 * j + 7 * g) % 201 : Nat) - 100) ∧
          (x.same y = true ↔ g % 201 = h % 201) ∧
          (g < h → h < g + 201 → x.same y = false)) ∧
      (h = g + 201 → s.normalized.cells = r.normalized.cells) := by
  have first : 31 * 4 + 17 * 5 + 7 * g < Nat.pow 2 64 :=
    Nat.lt_of_le_of_lt (by have := Nat.le_max_left g h; omega) small
  have second : 31 * 4 + 17 * 5 + 7 * h < Nat.pow 2 64 :=
    Nat.lt_of_le_of_lt (by have := Nat.le_max_right g h; omega) small
  have current (n : Nat) (text : String) :
      (Dataset.next^[n] .initial).current text = snapshot text n := by
    rw [Dataset.current, generation_iterate]
  refine ⟨.object (members timestamp g), .object (members other h), served timestamp g,
    served other h, snapshot_eq first, ?_, snapshot_eq second, ?_, ofBytes_write timestamp g,
    ofBytes_write other h, rfl, ?_, fun i j symbol timeframe hs ht => ?_, fun later => ?_⟩
  · rw [current]
    exact snapshot_eq first
  · rw [current]
    exact snapshot_eq second
  · exact List.mergeSort_perm _ _
  · refine ⟨_, _, cellScore_allCells hs ht g, cellScore_allCells hs ht h, exact_scoreAt i j g,
      same_scoreAt_iff, fun before within => ?_⟩
    refine eq_false_of_ne_true fun same => ?_
    have := same_scoreAt_iff.1 same
    omega
  · exact allCells_congr (by omega)

/-- The first snapshot that is served and the one that comes 201 snapshots later. -/
theorem snapshot_scores_again :
    ∃ v w s r x, (Dataset.next^[1] .initial).current "first" = .ok v ∧
      (Dataset.next^[202] .initial).current "later" = .ok w ∧
      Snapshot.ofBytes v.write = .ok s ∧ Snapshot.ofBytes w.write = .ok r ∧
      View.cellScore s.normalized.cells "ETHUSD" "H1" = some x ∧ Exact x 23 ∧
      s.normalized.cells = r.normalized.cells := by
  have small : 31 * 4 + 17 * 5 + 7 * max 1 202 < 2 ^ 64 := by decide
  obtain ⟨v, w, s, r, -, first, -, later, readFirst, readLater, -, -, scores, again⟩ :=
    snapshot_scores "first" "later" small
  obtain ⟨x, -, shown, -, value, -⟩ := scores 1 5 "ETHUSD" "H1" rfl rfl
  exact ⟨v, w, s, r, x, first, later, readFirst, readLater, shown, value, again rfl⟩

end HeatFeed.Sample
