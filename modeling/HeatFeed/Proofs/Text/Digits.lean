import HeatFeed.Proofs.Except
import HeatFeed.Text.Digits
import Mathlib.Data.Nat.Digits.Defs

/-!
# Numbers in texts

A text spells a number with at most one plus sign and then ASCII digits, at least one, the most
significant first. It may start with zeros. Such a text is read iff its number is below the bound:
the number grows with each digit, so no digit on the way exceeds the bound before the last one does.
-/

namespace HeatFeed.Digits

/-- The text of a number: one optional plus sign, then at least one ASCII digit. -/
def Spells (cs : List Char) (n : Nat) : Prop :=
  ∃ sign digits, (sign = [] ∨ sign = ['+']) ∧ digits ≠ [] ∧ (∀ c ∈ digits, c.isDigit = true) ∧
    cs = sign ++ digits ∧ n = Nat.ofDigitChars 10 digits 0

theorem charValue?_eq (c : Char) :
    charValue? c = if c.isDigit = true then some (c.toNat - '0'.toNat) else none := by
  rw [charValue?]
  refine if_congr ?_ rfl rfl
  rw [Char.isDigit, Bool.and_eq_true, decide_eq_true_iff, decide_eq_true_iff]
  rfl

theorem push_eq_ok_iff {bound n next : Nat} {c : Char} : push bound n c = .ok next ↔
    c.isDigit = true ∧ next = 10 * n + (c.toNat - '0'.toNat) ∧ next < bound := by
  rw [push, charValue?_eq, Nat.mul_comm 10 n]
  by_cases digit : c.isDigit = true
  · simp only [digit, if_true, true_and]
    split
    · rename_i fits
      constructor
      · rintro ⟨⟩
        exact ⟨rfl, fits⟩
      · rintro ⟨rfl, -⟩
        rfl
    · rename_i large
      refine iff_of_false nofun ?_
      rintro ⟨rfl, fits⟩
      exact large fits
  · rw [if_neg digit]
    exact iff_of_false nofun fun all => digit all.1

/-- Digits behind a number never make it smaller. -/
theorem le_ofDigitChars (cs : List Char) (n : Nat) : n ≤ Nat.ofDigitChars 10 cs n := by
  induction cs generalizing n with
  | nil => exact Nat.le_refl n
  | cons c cs ih =>
    rw [Nat.ofDigitChars_cons]
    exact Nat.le_trans (by omega) (ih _)

/-- Digits are read behind a number iff the number with them is below the bound. -/
theorem foldlM_push_iff {bound : Nat} (cs : List Char) {n m : Nat} (h : n < bound) :
    cs.foldlM (push bound) n = .ok m ↔
      (∀ c ∈ cs, c.isDigit = true) ∧ m = Nat.ofDigitChars 10 cs n ∧ m < bound := by
  induction cs generalizing n with
  | nil =>
    constructor
    · rintro ⟨⟩
      exact ⟨nofun, rfl, h⟩
    · rintro ⟨-, rfl, -⟩
      rfl
  | cons c cs ih =>
    rw [List.foldlM_cons, bind_eq_ok, List.forall_mem_cons, Nat.ofDigitChars_cons]
    constructor
    · rintro ⟨next, first, rest⟩
      obtain ⟨digit, rfl, fits⟩ := push_eq_ok_iff.1 first
      obtain ⟨digits, value⟩ := (ih fits).1 rest
      exact ⟨⟨digit, digits⟩, value⟩
    · rintro ⟨⟨digit, digits⟩, value, fits⟩
      have below : 10 * n + (c.toNat - '0'.toNat) < bound :=
        Nat.lt_of_le_of_lt (le_ofDigitChars cs _) (value ▸ fits)
      exact ⟨_, push_eq_ok_iff.2 ⟨digit, rfl, below⟩, (ih below).2 ⟨digits, value, fits⟩⟩

theorem spells_plus_iff {cs : List Char} {n : Nat} : Spells ('+' :: cs) n ↔
    cs ≠ [] ∧ (∀ c ∈ cs, c.isDigit = true) ∧ n = Nat.ofDigitChars 10 cs 0 := by
  constructor
  · rintro ⟨sign, digits, rfl | rfl, filled, all, same, value⟩
    · -- the plus sign is no digit
      rw [List.nil_append] at same
      exact absurd (all '+' (same ▸ List.mem_cons_self)) (by decide)
    · cases same
      exact ⟨filled, all, value⟩
  · rintro ⟨filled, all, value⟩
    exact ⟨['+'], cs, .inr rfl, filled, all, rfl, value⟩

theorem spells_iff_of_first {cs : List Char} {n : Nat} (h : cs.head? ≠ some '+') : Spells cs n ↔
    cs ≠ [] ∧ (∀ c ∈ cs, c.isDigit = true) ∧ n = Nat.ofDigitChars 10 cs 0 := by
  constructor
  · rintro ⟨sign, digits, rfl | rfl, filled, all, rfl, value⟩
    · exact ⟨filled, all, value⟩
    · exact absurd rfl h
  · rintro ⟨filled, all, value⟩
    exact ⟨[], cs, .inl rfl, filled, all, rfl, value⟩

/-- A text is read as a number iff it spells the number and this is below the bound. -/
theorem parse_eq_ok_iff {bound : Nat} {cs : List Char} {n : Nat} (h : 0 < bound) :
    parse bound cs = .ok n ↔ Spells cs n ∧ n < bound := by
  fun_cases parse bound cs with
  | case1 =>
    have first : ([] : List Char).head? ≠ some '+' := nofun
    refine iff_of_false nofun fun all => ?_
    exact ((spells_iff_of_first first).1 all.1).1 rfl
  | case2 =>
    refine iff_of_false nofun fun all => ?_
    exact (spells_plus_iff.1 all.1).1 rfl
  | case3 cs filled =>
    rw [foldlM_push_iff cs h, spells_plus_iff, and_assoc, and_assoc]
    exact (and_iff_right filled).symm
  | case4 cs filled other =>
    have first : cs.head? ≠ some '+' := by
      intro plus
      obtain ⟨rest, rfl⟩ := List.head?_eq_some_iff.1 plus
      exact other rest rfl
    rw [foldlM_push_iff cs h, spells_iff_of_first first, and_assoc, and_assoc]
    exact (and_iff_right filled).symm

/-- The decimal form of a number spells it. -/
theorem spells_toString (n : Nat) : Spells (toString n).toList n := by
  rw [Nat.toString_eq_repr, Nat.toList_repr]
  exact ⟨[], Nat.toDigits 10 n, .inl rfl, Nat.toDigits_ne_nil,
    fun c => Nat.isDigit_of_mem_toDigits (by decide) (by decide), rfl,
    Nat.ofDigitChars_ten_toDigits.symm⟩

end HeatFeed.Digits
