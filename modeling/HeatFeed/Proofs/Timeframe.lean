import HeatFeed.Timeframe
import Mathlib.Data.List.Basic

/-!
# Canonical order

Codes in canonical order are the given ones, in ascending order of their weights, and those of equal
weight stand in the order in which they were given. So they fall into groups: one for each interval,
in the order of the intervals, and then one of all codes that no interval has.
-/

namespace HeatFeed.Timeframe

/-- The given codes in ascending order of their weights, those of equal weight as given. -/
structure StablySorted (given sorted : List String) : Prop where
  perm : sorted.Perm given
  ascending : sorted.Pairwise fun a b => weight a ≤ weight b
  stable : ∀ w, sorted.filter (weight · = w) = given.filter (weight · = w)

theorem weight_le_trans (a b c : String) (hab : decide (weight a ≤ weight b) = true)
    (hbc : decide (weight b ≤ weight c) = true) : decide (weight a ≤ weight c) = true := by
  simp only [decide_eq_true_eq] at *
  exact Nat.le_trans hab hbc

theorem weight_le_total (a b : String) :
    (decide (weight a ≤ weight b) || decide (weight b ≤ weight a)) = true := by
  simpa using Nat.le_total (weight a) (weight b)

theorem stablySorted_sortCodes (codes : List String) : StablySorted codes (sortCodes codes) := by
  have perm : (sortCodes codes).Perm codes := List.mergeSort_perm codes _
  have ascending := List.pairwise_mergeSort weight_le_trans weight_le_total codes
  refine ⟨perm, ascending.imp of_decide_eq_true, fun w => ?_⟩
  -- codes of one weight are in order, so sorting keeps them as a sublist
  have equal : (codes.filter (weight · = w)).Pairwise
      fun a b => decide (weight a ≤ weight b) = true := by
    refine List.pairwise_filter.2 (List.pairwise_of_forall fun a b ha hb => ?_)
    simp only [decide_eq_true_eq] at *
    exact Nat.le_of_eq (ha.trans hb.symm)
  have kept : (codes.filter (weight · = w)).Sublist (sortCodes codes) :=
    List.sublist_mergeSort weight_le_trans weight_le_total equal List.filter_sublist
  have again := kept.filter (weight · = w)
  simp only [List.filter_filter, Bool.and_self] at again
  exact (again.eq_of_length (perm.filter _).length_eq.symm).symm

/-- Codes that are in order stay as they are. -/
theorem sortCodes_of_pairwise {codes : List String}
    (h : codes.Pairwise fun a b => weight a ≤ weight b) : sortCodes codes = codes :=
  List.mergeSort_of_pairwise (h.imp decide_eq_true)

/-! ### Groups -/

section
variable {α : Type} {key : α → Nat}

/-- The elements with the smallest key come first. -/
theorem filter_append_of_ascending {k : Nat} : ∀ {xs : List α},
    xs.Pairwise (fun a b => key a ≤ key b) → (∀ x ∈ xs, k ≤ key x) →
    xs.filter (key · = k) ++ xs.filter (key · ≠ k) = xs
  | [], _, _ => rfl
  | x :: xs, ascending, least => by
    obtain ⟨below, ascending⟩ := List.pairwise_cons.1 ascending
    have rest : ∀ y ∈ xs, k ≤ key y := fun y mem => least y (List.mem_cons_of_mem x mem)
    by_cases first : key x = k
    · have ih := filter_append_of_ascending ascending rest
      simp [first] at ih ⊢
      exact ih
    · -- all that follows weighs more than `k` as well
      have more : ∀ y ∈ x :: xs, key y ≠ k := by
        have := least x (List.mem_cons_self)
        intro y mem
        rcases List.mem_cons.1 mem with rfl | mem
        · exact first
        · have := below y mem
          omega
      rw [List.filter_eq_nil_iff.2, List.filter_eq_self.2, List.nil_append]
      · simpa using more
      · simpa using more

/-- A list in ascending order of its keys consists of its groups. -/
theorem eq_flatMap_filter_of_ascending : ∀ {keys : List Nat} {xs : List α},
    keys.Pairwise (· < ·) → xs.Pairwise (fun a b => key a ≤ key b) → (∀ x ∈ xs, key x ∈ keys) →
    xs = keys.flatMap fun k => xs.filter (key · = k)
  | [], [], _, _, _ => rfl
  | [], x :: _, _, _, known => absurd (known x List.mem_cons_self) List.not_mem_nil
  | k :: keys, xs, increasing, ascending, known => by
    obtain ⟨above, increasing⟩ := List.pairwise_cons.1 increasing
    have least : ∀ x ∈ xs, k ≤ key x := by
      intro x mem
      rcases List.mem_cons.1 (known x mem) with same | later
      · omega
      · exact Nat.le_of_lt (above _ later)
    have others : xs.filter (key · ≠ k) =
        keys.flatMap fun j => (xs.filter (key · ≠ k)).filter (key · = j) := by
      refine eq_flatMap_filter_of_ascending increasing (ascending.filter _) fun x mem => ?_
      obtain ⟨mem, other⟩ := List.mem_filter.1 mem
      exact (List.mem_cons.1 (known x mem)).resolve_left (by simpa using other)
    have same : ∀ j ∈ keys, (xs.filter (key · ≠ k)).filter (key · = j) = xs.filter (key · = j) := by
      intro j mem
      have := above j mem
      rw [List.filter_filter]
      refine List.filter_congr fun x _ => ?_
      by_cases at_j : key x = j
      · simp [at_j]; omega
      · simp [at_j]
    rw [List.flatMap_cons, ← List.flatMap_congr same, ← others,
      filter_append_of_ascending ascending least]
end


/-! ### Known codes -/

/-- The codes that an interval has. -/
def IsKnown (code : String) : Prop := ∃ t : Timeframe, code = t.code

theorem mem_all (t : Timeframe) : t ∈ all := by cases t <;> decide

theorem minutes_injective {s t : Timeframe} (h : s.minutes = t.minutes) : s = t := by
  cases s <;> cases t <;> first | rfl | exact absurd h (by decide)

theorem minutes_lt (t : Timeframe) : t.minutes < unknownWeight := by cases t <;> decide

/-- The order of the intervals is that of their lengths. -/
theorem compare_eq (s t : Timeframe) : compare s t = compare s.minutes t.minutes := by
  cases s <;> cases t <;> rfl

theorem ofCode?_eq_some_iff {code : String} {t : Timeframe} :
    ofCode? code = some t ↔ code = t.code := by
  constructor
  · intro found
    have same := List.find?_some found
    exact (of_decide_eq_true same).symm
  · rintro rfl
    cases t <;> decide

theorem ofCode?_eq_none_iff {code : String} : ofCode? code = none ↔ ¬IsKnown code := by
  simp [Option.eq_none_iff_forall_ne_some, ofCode?_eq_some_iff, IsKnown]

theorem weight_code (t : Timeframe) : weight t.code = t.minutes := by
  rw [weight, ofCode?_eq_some_iff.2 rfl]
  rfl

theorem weight_of_not_known {code : String} (h : ¬IsKnown code) : weight code = unknownWeight := by
  rw [weight, ofCode?_eq_none_iff.2 h]
  rfl

theorem isKnown_iff {code : String} : IsKnown code ↔ weight code < unknownWeight := by
  constructor
  · rintro ⟨t, rfl⟩
    rw [weight_code]
    exact minutes_lt t
  · intro light
    by_contra unknown
    rw [weight_of_not_known unknown] at light
    omega

theorem weight_eq_minutes_iff {code : String} {t : Timeframe} :
    weight code = t.minutes ↔ code = t.code := by
  constructor
  · intro same
    obtain ⟨s, rfl⟩ : IsKnown code := isKnown_iff.2 (same ▸ minutes_lt t)
    rw [weight_code] at same
    rw [minutes_injective same]
  · rintro rfl
    exact weight_code t

theorem weight_eq_unknownWeight_iff {code : String} :
    weight code = unknownWeight ↔ ∀ t ∈ all, code ≠ t.code := by
  have unknown : (∀ t ∈ all, code ≠ t.code) ↔ ¬IsKnown code := by simp [IsKnown, mem_all]
  rw [unknown]
  refine ⟨fun heavy known => ?_, weight_of_not_known⟩
  have := isKnown_iff.1 known
  omega

/-- All weights, in ascending order. -/
def weights : List Nat := all.map minutes ++ [unknownWeight]

theorem weights_increasing : weights.Pairwise (· < ·) := by decide

theorem weight_mem_weights (code : String) : weight code ∈ weights := by
  by_cases known : IsKnown code
  · obtain ⟨t, rfl⟩ := known
    rw [weight_code]
    exact List.mem_append_left _ (List.mem_map_of_mem (mem_all t))
  · rw [weight_of_not_known known]
    exact List.mem_append_right _ List.mem_cons_self

theorem isLE_compare_iff {s t : Timeframe} :
    (compare s t).isLE = true ↔ s.minutes ≤ t.minutes := by
  rw [compare_eq, Nat.isLE_compare]

/-- The known ones among the codes are sorted as their intervals are. -/
theorem filterMap_sortCodes (codes : List String) :
    (sortCodes codes).filterMap ofCode? =
      (codes.filterMap ofCode?).mergeSort fun s t => (compare s t).isLE := by
  have stable := stablySorted_sortCodes codes
  have perm : ((sortCodes codes).filterMap ofCode?).Perm
      ((codes.filterMap ofCode?).mergeSort fun s t => (compare s t).isLE) :=
    (stable.perm.filterMap ofCode?).trans (List.mergeSort_perm _ _).symm
  refine perm.eq_of_pairwise (fun s t _ _ hst hts => ?_) ?_ (List.pairwise_mergeSort ?_ ?_ _)
  · -- intervals of one length are the same
    rw [isLE_compare_iff] at hst hts
    exact minutes_injective (Nat.le_antisymm hst hts)
  · refine List.pairwise_filterMap.2 (stable.ascending.imp fun {a b} le s hs t ht => ?_)
    rw [ofCode?_eq_some_iff] at hs ht
    rw [hs, ht, weight_code, weight_code] at le
    exact isLE_compare_iff.2 le
  · intro r s t hrs hst
    rw [isLE_compare_iff] at *
    exact Nat.le_trans hrs hst
  · intro s t
    rw [Bool.or_eq_true, isLE_compare_iff, isLE_compare_iff]
    exact Nat.le_total _ _

/-- The codes in canonical order are all occurrences of the first known code, all of the second, and
so on, and then all other codes as they were given. So they are the given codes in ascending order
of their weights, those in order stay as they are, known ones are sorted as their intervals are, and
no unknown one stands before a known one. -/
theorem sortCodes_eq_groups (codes : List String) :
    sortCodes codes = all.flatMap (fun t => codes.filter (· = t.code)) ++
      codes.filter (fun c => ∀ t ∈ all, c ≠ t.code) ∧
    (sortCodes codes).Perm codes ∧
    (sortCodes codes).Pairwise (fun a b => weight a ≤ weight b) ∧
    sortCodes (sortCodes codes) = sortCodes codes ∧
    (sortCodes codes).filterMap ofCode? =
      (codes.filterMap ofCode?).mergeSort (fun s t => (compare s t).isLE) ∧
    (sortCodes codes).Pairwise fun a b => IsKnown b → IsKnown a := by
  obtain ⟨perm, ascending, stable⟩ := stablySorted_sortCodes codes
  refine ⟨?_, perm, ascending, sortCodes_of_pairwise ascending, filterMap_sortCodes codes, ?_⟩
  · calc sortCodes codes
      _ = weights.flatMap fun w => (sortCodes codes).filter (weight · = w) :=
        eq_flatMap_filter_of_ascending weights_increasing ascending fun c _ => weight_mem_weights c
      _ = weights.flatMap fun w => codes.filter (weight · = w) := by simp only [stable]
      _ = _ := by
        simp only [weights, List.flatMap_append, List.flatMap_map, List.flatMap_singleton,
          weight_eq_minutes_iff, weight_eq_unknownWeight_iff]
  · refine ascending.imp fun {a b} le known => ?_
    rw [isKnown_iff] at known ⊢
    omega

example : sortCodes ["X1", "MN", "X2", "M1", "m1"] = ["M1", "MN", "X1", "X2", "m1"] := by cbv

end HeatFeed.Timeframe
