import HeatFeed.Json.Printer
import HeatFeed.Proofs.Json.Numeral

/-!
# Integers as they are written

Integers of 64 bits, with a sign down to `-2 ^ 63` and without one up to `2 ^ 64 - 1`, are read as
they were written, and no others are read as integers.
-/

namespace HeatFeed.Json

/-- Integers that fit into 64 bits, with or without a sign. -/
def IsWord (n : Int) : Prop := -9223372036854775808 ≤ n ∧ n < 18446744073709551616

/-! ### Digits of a natural number -/

theorem value_octet : ∀ d < 10, Digits.value? (Digits.octet d) = some d := by decide

theorem ofNat_of_lt {n : Nat} (h : n < 10) : Digits.ofNat n = [Digits.octet n] := by
  rw [Digits.ofNat, if_pos h]

theorem isDigits_ofNat (n : Nat) : Numeral.IsDigits (Digits.ofNat n) := by
  fun_induction Digits.ofNat n with
  | case1 n lt =>
    refine ⟨List.cons_ne_nil _ _, fun b hb => ?_⟩
    rw [List.mem_singleton.1 hb, value_octet n lt]
    rfl
  | case2 n le ih =>
    refine ⟨List.append_ne_nil_of_left_ne_nil ih.1 _, fun b hb => ?_⟩
    rcases List.mem_append.1 hb with hb | hb
    · exact ih.2 b hb
    · rw [List.mem_singleton.1 hb, value_octet _ (Nat.mod_lt n (by decide))]
      rfl

/-- The digits spell the number. -/
theorem foldl_ofNat (n : Nat) :
    ((Digits.ofNat n).filterMap Digits.value?).foldl (· * 10 + ·) 0 = n := by
  fun_induction Digits.ofNat n with
  | case1 n lt =>
    rw [List.filterMap_cons_some (value_octet n lt)]
    exact Nat.zero_add n
  | case2 n le ih =>
    have last := value_octet (n % 10) (Nat.mod_lt n (by decide))
    rw [List.filterMap_append, List.foldl_append, ih, List.filterMap_cons_some last]
    show n / 10 * 10 + n % 10 = n
    omega

theorem head_ofNat {n : Nat} (pos : 0 < n) : (Digits.ofNat n).head? ≠ some (ascii '0') := by
  fun_induction Digits.ofNat n with
  | case1 n lt =>
    intro zero
    have value := value_octet n lt
    rw [Option.some.inj zero] at value
    cases value
    exact Nat.lt_irrefl 0 pos
  | case2 n le ih =>
    obtain ⟨d, ds, digits⟩ := List.exists_cons_of_ne_nil (isDigits_ofNat (n / 10)).1
    rw [digits] at ih ⊢
    exact ih (by omega)

theorem isWhole_ofNat (n : Nat) : Numeral.IsWhole (Digits.ofNat n) := by
  refine ⟨isDigits_ofNat n, fun zero => ?_⟩
  rcases Nat.eq_zero_or_pos n with rfl | pos
  · rw [ofNat_of_lt (by decide)]
    rfl
  · exact absurd zero (head_ofNat pos)

namespace Numeral

/-! ### Digits that fit -/

theorem le_foldl (ds : List Nat) (kept : Nat) : kept ≤ ds.foldl (· * 10 + ·) kept := by
  induction ds generalizing kept with
  | nil => exact Nat.le_refl kept
  | cons d ds ih => exact Nat.le_trans (by omega) (ih (kept * 10 + d))

/-- Digits that spell a number of 64 bits are all kept. -/
theorem absorb_of_lt {ds : List Nat} {kept : Nat}
    (h : ds.foldl (· * 10 + ·) kept < Digits.bound64) :
    absorb kept ds = (ds.foldl (· * 10 + ·) kept, ds.length) := by
  induction ds generalizing kept with
  | nil => rfl
  | cons d ds ih =>
    have first : kept * 10 + d < Digits.bound64 := Nat.lt_of_le_of_lt (le_foldl ds _) h
    rw [absorb, if_pos first, ih h]
    rfl

theorem absorb_lt {kept : Nat} (h : kept < Digits.bound64) (ds : List Nat) :
    (absorb kept ds).1 < Digits.bound64 := by
  induction ds generalizing kept with
  | nil => exact h
  | cons d ds ih =>
    rw [absorb]
    split
    · rename_i lt
      exact ih lt
    · exact h

/-- The digits that were kept are less than 64 bits. -/
theorem significand_lt {negative : Bool} {bs rest : List UInt8} {m : Numeral}
    (h : readUnsigned negative bs = .ok (m, rest)) : m.significand < Digits.bound64 := by
  rw [readUnsigned] at h
  obtain ⟨⟨ns, behind⟩, -, h⟩ := bind_eq_ok.1 h
  obtain ⟨⟨n, later⟩, fraction, exponent⟩ := bind_eq_ok.1 h
  have whole := absorb_lt (by decide : 0 < Digits.bound64) ns
  have point : n.significand < Digits.bound64 := by
    rcases behind with _ | ⟨b, behind⟩
    · cases fraction
      exact whole
    · rw [readFraction] at fraction
      split at fraction
      · split at fraction
        · cases fraction
        · cases fraction
          exact absorb_lt whole _
      · cases fraction
        exact whole
  rcases later with _ | ⟨b, later⟩
  · cases exponent
    exact point
  · change readExponent n (b :: later) = .ok (m, rest) at exponent
    rw [readExponent] at exponent
    split at exponent
    · dsimp only at exponent
      split at exponent
      · cases exponent
      · cases exponent
        exact point
    · cases exponent
      exact point

/-- Only integers of 64 bits are read as integers. -/
theorem isWord_of_read {bs rest : List UInt8} {m : Numeral} {n : Int}
    (h : read bs = .ok (m, rest)) (number : m.number = .ok (.integer n)) : IsWord n := by
  have lt : m.significand < 18446744073709551616 := by
    cases bs with
    | nil => cases h
    | cons b bs =>
      rw [read] at h
      split at h
      · exact significand_lt h
      · exact significand_lt h
  rw [Numeral.number] at number
  split at number
  · split at number
    · cases number
      exact ⟨by omega, by omega⟩
    · split at number
      · cases number
      · rename_i small
        cases number
        have le : m.significand ≤ 9223372036854775808 :=
          Nat.not_lt.1 fun large => small (.inr large)
        exact ⟨by omega, by omega⟩
  · split at number
    · cases number
    · cases number

/-! ### Reading what has been written -/

theorem begun_ofNat (negative : Bool) {n : Nat} (h : n < Digits.bound64) :
    begun negative (Digits.ofNat n) = ⟨negative, n, 0, true⟩ := by
  have fits : ((Digits.ofNat n).filterMap Digits.value?).foldl (· * 10 + ·) 0 < Digits.bound64 := by
    rw [foldl_ofNat]
    exact h
  rw [begun, absorb_of_lt fits, foldl_ofNat]
  dsimp only
  rw [Nat.sub_self]
  rfl

theorem readUnsigned_ofNat (negative : Bool) {n : Nat} (h : n < Digits.bound64) {rest : List UInt8}
    (ends : Ends rest) :
    readUnsigned negative (Digits.ofNat n ++ rest) = .ok (⟨negative, n, 0, true⟩, rest) := by
  rw [readUnsigned_whole (isWhole_ofNat n) ends.noDigit, begun_ofNat negative h,
    readFraction_other _ fun b hb => (ends b hb).2.1]
  exact readExponent_other _ fun b hb => not_or.2 (ends b hb).2.2

theorem isUnsigned_ofNat (n : Nat) : IsUnsigned (Digits.ofNat n) :=
  ⟨_, [], [], isWhole_ofNat n, .inl rfl, .inl rfl, by simp⟩

theorem written_integerText (n : Int) : Written (integerText n) := by
  rw [integerText]
  split
  · exact .inr ⟨_, isUnsigned_ofNat _, rfl⟩
  · exact .inl (isUnsigned_ofNat _)

/-- Integers of 64 bits are read as they were written. -/
theorem read_integerText {n : Int} (h : IsWord n) :
    ∃ m : Numeral, read (integerText n) = .ok (m, []) ∧ m.number = .ok (.integer n) := by
  obtain ⟨low, high⟩ := h
  rw [integerText]
  split
  · rename_i negative
    refine ⟨⟨true, n.natAbs, 0, true⟩, ?_, ?_⟩
    · have lt : n.natAbs < 18446744073709551616 := by omega
      have := readUnsigned_ofNat true lt ends_nil
      rw [List.append_nil] at this
      exact this
    · have small : ¬(n.natAbs = 0 ∨ Nat.pow 2 63 < n.natAbs) := by
        rintro (zero | large)
        · omega
        · have : 9223372036854775808 < n.natAbs := large
          omega
      have value : -(n.natAbs : Int) = n := by omega
      rw [Numeral.number, if_pos rfl, if_neg nofun, if_neg small, value]
  · rename_i negative
    refine ⟨⟨false, n.natAbs, 0, true⟩, ?_, ?_⟩
    · have lt : n.natAbs < 18446744073709551616 := by omega
      have := readUnsigned_ofNat false lt ends_nil
      rw [List.append_nil] at this
      obtain ⟨d, ds, digits, digit⟩ := (isUnsigned_ofNat n.natAbs).exists_digit
      have minus : d ≠ ascii '-' := by rintro rfl; cases digit
      rw [List.nil_append, digits, read, if_neg minus, ← digits]
      exact this
    · have value : (n.natAbs : Int) = n := by omega
      show Except.ok (Number.integer n.natAbs) = Except.ok (Number.integer n)
      rw [value]

end Numeral

end HeatFeed.Json
