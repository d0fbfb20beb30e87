import HeatFeed.Number.Binary64
import HeatFeed.Proofs.Json.Values
import HeatFeed.Sample

/-!
# Scores of the sample data

A score is the number nearest to some hundredths, at most 100 of them with either sign, and these
are what is left of it when it is rounded to two decimals. So no two scores are equal. The text of a
score is the hundredths as a decimal, and from there the score is read again.
-/

namespace HeatFeed

/-! ### The first digit of a number -/

theorem Digits.length_ofNat {n m : Nat} (low : Nat.pow 10 m ≤ n) (high : n < Nat.pow 10 (m + 1)) :
    (Digits.ofNat n).length = m + 1 := by
  induction m generalizing n with
  | zero =>
    have single : n < 10 := high
    rw [Digits.ofNat, if_pos single, List.length_singleton]
  | succ m ih =>
    have low : Nat.pow 10 m * 10 ≤ n := low
    have high : n < 10 * Nat.pow 10 (m + 1) := Nat.mul_comm (Nat.pow 10 (m + 1)) 10 ▸ high
    have several : ¬n < 10 := by
      have : 0 < Nat.pow 10 m := Nat.pow_pos (by decide)
      omega
    have front : (Digits.ofNat (n / 10)).length = m + 1 :=
      ih ((Nat.le_div_iff_mul_le (by decide)).2 low) (Nat.div_lt_of_lt_mul high)
    rw [Digits.ofNat, if_neg several, List.length_append, front, List.length_singleton]

/-! ### Quotients -/

theorem roundQuotient_mul_right (num den : Nat) {c : Nat} (h : 0 < c) :
    roundQuotient (num * c) (den * c) = roundQuotient num den := by
  have twice (rest : Nat) : 2 * (rest * c) = 2 * rest * c := (Nat.mul_assoc 2 rest c).symm
  simp only [roundQuotient, Nat.mul_div_mul_right num den h, Nat.mul_mod_mul_right, twice,
    Nat.mul_lt_mul_right h, Nat.mul_left_inj (Nat.ne_of_gt h)]

namespace Binary64

theorem one_pos : 0 < one := by decide +kernel

/-- Natural numbers with few digits are exact. -/
theorem units_ofNat : ∀ n < 101, (ofNat n).units = n * one ∧ (ofNat n).negative = false := by
  decide +kernel

theorem ofRatio?_mul_right (negative : Bool) (num den : Nat) {c : Nat} (h : 0 < c) :
    ofRatio? negative (num * c) (den * c) = ofRatio? negative num den := by
  have scaled : num * c * one = num * one * c := Nat.mul_right_comm ..
  have step (d : Nat) : den * c * d = den * d * c := Nat.mul_right_comm ..
  have same : nearestRank (num * c) (den * c) = nearestRank num den := by
    simp only [nearestRank, scaled, step, Nat.mul_div_mul_right _ _ h,
      roundQuotient_mul_right _ _ h]
  simp only [ofRatio?, same]

/-- A quotient of such numbers is rounded once. -/
theorem div?_ofNat {m n : Nat} (hm : m < 101) (hn : n < 101) :
    (ofNat m).div? (ofNat n) = ofRatio? false m n := by
  obtain ⟨units, sign⟩ := units_ofNat m hm
  obtain ⟨units', sign'⟩ := units_ofNat n hn
  rw [div?, units, units', sign, sign']
  exact ofRatio?_mul_right _ m n one_pos

/-! ### Shortest texts -/

theorem leadingExponent_eq {x : Binary64} {m : Nat}
    (low : Nat.pow 10 m ≤ x.units * Nat.pow 10 324 / one)
    (high : x.units * Nat.pow 10 324 / one < Nat.pow 10 (m + 1)) :
    x.leadingExponent = (m : Int) - 324 := by
  rw [leadingExponent, Digits.length_ofNat low high]
  omega

theorem shortest_eq {x : Binary64} {leading : Int} {d : Decimal} (h : x.leadingExponent = leading)
    (found : ((List.range 17).map fun (more : Nat) => leading - more).findSome?
      (fun e => (x.neighbours e).find? x.readsBack) = some d) : x.shortest = d := by
  rw [shortest, lastExponents, h, found]
  rfl

/-! ### Signs -/

/-- A rounded quotient with a sign has the magnitude of the one without. -/
theorem ofRatio?_eq (negative : Bool) (num den : Nat) :
    ofRatio? negative num den = (ofRatio? false num den).map (withSign negative) := by
  rw [ofRatio?, ofRatio?]
  split
  · rfl
  · rfl

theorem units_withSign (negative : Bool) (x : Binary64) :
    (x.withSign negative).units = x.units := rfl

theorem hundredths_withSign (negative : Bool) (x : Binary64) :
    (x.withSign negative).hundredths = x.hundredths := by
  rw [hundredths, hundredths, units_withSign]

theorem leadingExponent_withSign (negative : Bool) (x : Binary64) :
    (x.withSign negative).leadingExponent = x.leadingExponent := by
  rw [leadingExponent, leadingExponent, units_withSign]

theorem readsBack_withSign (negative : Bool) (x : Binary64) :
    (x.withSign negative).readsBack = x.readsBack := by
  funext d
  rw [readsBack, readsBack, midpoints, midpoints, units_withSign]
  rfl

theorem neighbours_withSign (negative : Bool) (x : Binary64) (exponent : Int) :
    (x.withSign negative).neighbours exponent = x.neighbours exponent := by
  rw [neighbours, neighbours, steps, steps, units_withSign]

theorem shortest_withSign (negative : Bool) (x : Binary64) :
    (x.withSign negative).shortest = x.shortest := by
  simp only [shortest, lastExponents, leadingExponent_withSign, neighbours_withSign,
    readsBack_withSign, units_withSign]

theorem text_withSign (negative : Bool) {x : Binary64} (h : x.negative = false) :
    (x.withSign negative).text = (if negative then [ascii '-'] else []) ++ x.text := by
  have zero : (x.withSign negative).isZero = x.isZero := rfl
  rw [text, text, shortest_withSign, zero, h]
  generalize x.shortest.scientific = parts, x.isZero = isZero
  obtain ⟨digits, exponent⟩ := parts
  cases isZero with
  | true => rfl
  | false => rfl

theorem hundredths_of_isZero {x : Binary64} (h : x.isZero = true) : x.hundredths = 0 := by
  have rank : x.rank = 0 := eq_of_beq h
  have units : x.units * 100 = 0 * one := by
    rw [Binary64.units, rank, Nat.zero_mul]
    rfl
  rw [hundredths, units]
  exact roundQuotient_mul 0 one_pos

end Binary64

namespace Sample

open Json

/-! ### Values -/

/-- A number that is nearest to some hundredths and is rounded to them, in [-1, 1]. -/
structure Exact (x : Binary64) (k : Int) : Prop where
  nearest : Binary64.ofRatio? (k < 0) k.natAbs 100 = some x
  hundredths : x.hundredths = k.natAbs
  le_one : x.units ≤ Binary64.one

theorem magnitudes : ∀ n < 101, Binary64.ofRatio? false n 100 = some (score (n : Nat)) ∧
    (score (n : Nat)).hundredths = n ∧ (score (n : Nat)).units ≤ Binary64.one := by
  decide +kernel

/-- A score is that of its magnitude, with a sign. -/
theorem score_eq {k : Int} (h : k.natAbs < 101) :
    score k = (score k.natAbs).withSign (k < 0) := by
  rw [score, Binary64.ofRatio?_eq, (magnitudes _ h).1, Option.map_some, Option.getD_some]

theorem exact_score {k : Int} (h : k.natAbs < 101) : Exact (score k) k := by
  obtain ⟨nearest, rounded, le⟩ := magnitudes _ h
  rw [score_eq h]
  refine ⟨?_, ?_, ?_⟩
  · rw [Binary64.ofRatio?_eq, nearest, Option.map_some]
  · rw [Binary64.hundredths_withSign, rounded]
  · rw [Binary64.units_withSign]
    exact le

theorem Exact.negative {x : Binary64} {k : Int} (h : Exact x k) : x.negative = decide (k < 0) := by
  have nearest := h.nearest
  rw [Binary64.ofRatio?_eq] at nearest
  obtain ⟨magnitude, -, rfl⟩ := Option.map_eq_some_iff.1 nearest
  rfl

/-- Numbers of different hundredths are different. -/
theorem Exact.same_iff {x y : Binary64} {k l : Int} (hx : Exact x k) (hy : Exact y l) :
    x.same y = true ↔ k = l := by
  rw [Binary64.same, Bool.or_eq_true, Bool.and_eq_true, beq_iff_eq]
  constructor
  · rintro (rfl | ⟨zero, zero'⟩)
    · have := hx.hundredths.symm.trans hy.hundredths
      have := decide_eq_decide.1 (hx.negative.symm.trans hy.negative)
      omega
    · have := hx.hundredths.symm.trans (Binary64.hundredths_of_isZero zero)
      have := hy.hundredths.symm.trans (Binary64.hundredths_of_isZero zero')
      omega
  · rintro rfl
    exact .inl (Option.some.inj (hx.nearest.symm.trans hy.nearest))

/-! ### Texts -/

/-- Where the first digit stands, counted from the last place that any number has. -/
def leading (n : Nat) : Nat := if n < 10 then 322 else if n < 100 then 323 else 324

/-- The decimal with the fewest digits for some hundredths. -/
def decimal (n : Nat) : Binary64.Decimal :=
  if n = 100 then ⟨1, 0⟩ else if n % 10 = 0 then ⟨n / 10, -1⟩ else ⟨n, -2⟩

/-- Some hundredths with the point in its place, and at least one decimal. -/
def decimalText (n : Nat) : List UInt8 :=
  [Digits.octet (n / 100), ascii '.', Digits.octet (n / 10 % 10)] ++
    if n % 10 = 0 then [] else [Digits.octet (n % 10)]

theorem shortest_score : ∀ n < 101, n ≠ 0 → (score (n : Nat)).shortest = decimal n := by
  have all : ∀ n < 101, n ≠ 0 →
      (Nat.pow 10 (leading n) ≤ (score (n : Nat)).units * Nat.pow 10 324 / Binary64.one ∧
        (score (n : Nat)).units * Nat.pow 10 324 / Binary64.one < Nat.pow 10 (leading n + 1)) ∧
      ((List.range 17).map fun (more : Nat) => ((leading n : Int) - 324) - more).findSome?
        (fun e => ((score (n : Nat)).neighbours e).find? (score (n : Nat)).readsBack) =
          some (decimal n) := by decide +kernel
  intro n lt pos
  obtain ⟨⟨low, high⟩, found⟩ := all n lt pos
  exact Binary64.shortest_eq (Binary64.leadingExponent_eq low high) found

theorem text_magnitude {n : Nat} (lt : n < 101) : (score (n : Nat)).text = decimalText n := by
  have value : Exact (score (n : Nat)) n := exact_score (by omega)
  have positive : (score (n : Nat)).negative = false :=
    value.negative.trans (decide_eq_false (by omega))
  have zero : (score (n : Nat)).isZero = true ↔ n = 0 := by
    constructor
    · intro zero
      exact value.hundredths.symm.trans (Binary64.hundredths_of_isZero zero)
    · rintro rfl
      decide +kernel
  have texts : ∀ n < 101, n ≠ 0 →
      (if (decimal n).scientific.2 < -5 ∨ 16 ≤ (decimal n).scientific.2 then
        Binary64.exponentText (decimal n).scientific.1 (decimal n).scientific.2
      else Binary64.positionalText (decimal n).scientific.1 (decimal n).scientific.2) =
        decimalText n := by decide +kernel
  rw [Binary64.text, positive]
  split
  · rename_i isZero
    rw [zero.1 isZero]
    rfl
  · rename_i isZero
    have pos : n ≠ 0 := fun same => isZero (zero.2 same)
    rw [shortest_score n lt pos]
    exact texts n lt pos

/-! ### Reading -/

/-- Two decimals are moved behind the point at once. -/
theorem scaleByTen_ofNat {n e : Nat} (small : n < 101) (pos : 0 < e) (few : e ≤ 2) :
    scaleByTen (.ofNat n) (-(e : Int)) =
      .ok ((Binary64.ofRatio? false n (Nat.pow 10 e)).getD (.ofNat n)) := by
  have negative : ¬(0 : Int) ≤ -(e : Int) := by omega
  have within : - -(e : Int) ≤ greatestPower := by simp only [greatestPower]; omega
  have size : (- -(e : Int)).toNat = e := by omega
  have power : Nat.pow 10 e < 101 :=
    Nat.lt_of_le_of_lt (Nat.pow_le_pow_right (by decide) few) (by decide)
  rw [scaleByTen, if_neg negative, if_pos within, size, Binary64.powerOfTen,
    Binary64.div?_ofNat small power]

/-- How hundredths are read from their text. -/
def numeral (negative : Bool) (n : Nat) : Numeral :=
  if n % 10 = 0 then ⟨negative, n / 10, -1, false⟩ else ⟨negative, n, -2, false⟩

theorem read_decimalText : ∀ negative, ∀ n < 101,
    Numeral.read ((if negative then [ascii '-'] else []) ++ decimalText n) =
      .ok (numeral negative n, []) := by decide +kernel

/-- The digits are moved behind the point by one division, which rounds as a score does. -/
theorem number_numeral (negative : Bool) {n : Nat} (lt : n < 101) :
    (numeral negative n).number = .ok (.float ((score (n : Nat)).withSign negative)) := by
  have digits : ∃ m e : Nat, numeral negative n = ⟨negative, m, -(e : Int), false⟩ ∧ m < 101 ∧
      0 < e ∧ e ≤ 2 ∧ Binary64.ofRatio? false m (Nat.pow 10 e) = Binary64.ofRatio? false n 100 := by
    by_cases tenths : n % 10 = 0
    · refine ⟨n / 10, 1, if_pos tenths, by omega, by decide, by decide, ?_⟩
      have whole : n / 10 * 10 = n := by omega
      have tenfold : Binary64.ofRatio? false (n / 10 * 10) (10 * 10) =
          Binary64.ofRatio? false (n / 10) 10 := Binary64.ofRatio?_mul_right _ _ _ (by decide)
      rw [whole] at tenfold
      exact tenfold.symm
    · exact ⟨n, 2, if_neg tenths, lt, by decide, by decide, rfl⟩
  obtain ⟨m, e, same, small, pos, few, ratio⟩ := digits
  have scaled := scaleByTen_ofNat small pos few
  rw [ratio, (magnitudes n lt).1, Option.getD_some] at scaled
  rw [same, Numeral.number, if_neg Bool.false_ne_true, scaled]

/-- A score is read from its text. -/
theorem scalar_score {k : Int} (h : k.natAbs < 101) :
    Scalar (.number (.float (score k))) (score k).text := by
  have positive : (score k.natAbs).negative = false :=
    (exact_score (k := k.natAbs) (by omega)).negative.trans (decide_eq_false (by omega))
  have read := read_decimalText (decide (k < 0)) _ h
  rw [← text_magnitude h, ← Binary64.text_withSign _ positive, ← score_eq h] at read
  obtain ⟨text, written, split, -⟩ := Numeral.written_of_read read
  rw [List.append_nil] at split
  refine .number (split ▸ written) read ?_
  rw [number_numeral _ h, ← score_eq h]

end Sample

end HeatFeed
