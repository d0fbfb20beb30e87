import HeatFeed.Json.Skip
import HeatFeed.Proofs.Except
import Mathlib.Data.List.TakeWhile

/-!
# Numerals as they are written

The written form of a numeral: a sign, the digits before the point, of which a zero stands alone,
the point with digits behind it, and an exponent. Reading and skipping accept exactly these forms.
Which octets belong to a numeral can be seen only from what follows, so what follows must not go on with
it.
-/

namespace HeatFeed.Json

namespace Numeral

/-- Octets that are digits. -/
def AllDigits (bs : List UInt8) : Prop := ∀ b ∈ bs, (Digits.value? b).isSome = true

/-- At least one digit. -/
def IsDigits (bs : List UInt8) : Prop := bs ≠ [] ∧ AllDigits bs

/-- The digits before the point. -/
def IsWhole (bs : List UInt8) : Prop :=
  IsDigits bs ∧ (bs.head? = some (ascii '0') → bs = [ascii '0'])

/-- Nothing, or a point and digits. -/
def IsFraction (bs : List UInt8) : Prop := bs = [] ∨ ∃ ds, IsDigits ds ∧ bs = ascii '.' :: ds

/-- No sign, or one of the two. -/
def IsSign (bs : List UInt8) : Prop := bs = [] ∨ bs = [ascii '+'] ∨ bs = [ascii '-']

/-- Nothing, or an exponent. -/
def IsExponent (bs : List UInt8) : Prop :=
  bs = [] ∨ ∃ mark sign ds, (mark = ascii 'e' ∨ mark = ascii 'E') ∧ IsSign sign ∧ IsDigits ds ∧
    bs = mark :: (sign ++ ds)

/-- What is written behind the sign. -/
def IsUnsigned (bs : List UInt8) : Prop :=
  ∃ whole fraction exponent, IsWhole whole ∧ IsFraction fraction ∧ IsExponent exponent ∧
    bs = whole ++ (fraction ++ exponent)

/-- The written form of a numeral. -/
def Written (bs : List UInt8) : Prop :=
  IsUnsigned bs ∨ ∃ rest, IsUnsigned rest ∧ bs = ascii '-' :: rest

/-- What follows starts with no digit. -/
def NoDigit (rest : List UInt8) : Prop := ∀ b, rest.head? = some b → Digits.value? b = none

/-- What follows does not go on with a numeral. -/
def Ends (rest : List UInt8) : Prop :=
  ∀ b, rest.head? = some b →
    Digits.value? b = none ∧ b ≠ ascii '.' ∧ b ≠ ascii 'e' ∧ b ≠ ascii 'E'

theorem Ends.noDigit {rest : List UInt8} (h : Ends rest) : NoDigit rest := fun b hb => (h b hb).1

theorem ends_nil : Ends [] := nofun

/-! ### Digits -/

theorem spanDigits_append {ds rest : List UInt8} (digits : AllDigits ds) (h : NoDigit rest) :
    spanDigits (ds ++ rest) = (ds.filterMap Digits.value?, rest) := by
  induction ds with
  | nil =>
    cases rest with
    | nil => rfl
    | cons b rest => rw [List.nil_append, spanDigits, h b rfl]; rfl
  | cons d ds ih =>
    obtain ⟨n, value⟩ := Option.isSome_iff_exists.1 (digits d (.head _))
    have ih := ih fun b hb => digits b (.tail _ hb)
    rw [List.cons_append, spanDigits, value, ih, List.filterMap_cons_some value]

/-- The digits at the start of a text, up to what is no digit. -/
theorem exists_spanDigits (bs : List UInt8) :
    ∃ ds rest, bs = ds ++ rest ∧ AllDigits ds ∧ NoDigit rest := by
  refine ⟨bs.takeWhile fun b => (Digits.value? b).isSome,
    bs.dropWhile fun b => (Digits.value? b).isSome, List.takeWhile_append_dropWhile.symm, ?_, ?_⟩
  · exact fun b hb => List.mem_takeWhile_imp (p := fun b => (Digits.value? b).isSome) hb
  · intro b hb
    have := List.head?_dropWhile_not (fun b => (Digits.value? b).isSome) bs
    rw [hb] at this
    simpa using this

theorem someDigits_append {ds rest : List UInt8} (digits : IsDigits ds) (h : NoDigit rest) :
    someDigits (ds ++ rest) = .ok (ds.filterMap Digits.value?, rest) := by
  rw [someDigits, spanDigits_append digits.2 h]
  cases ds with
  | nil => exact absurd rfl digits.1
  | cons d ds =>
    obtain ⟨n, value⟩ := Option.isSome_iff_exists.1 (digits.2 d (.head _))
    rw [List.filterMap_cons_some value]

/-- Digits are read up to what is no digit. -/
theorem someDigits_eq_ok {bs rest : List UInt8} {ns : List Nat}
    (h : someDigits bs = .ok (ns, rest)) :
    ∃ ds, bs = ds ++ rest ∧ IsDigits ds ∧ NoDigit rest ∧ ns = ds.filterMap Digits.value? := by
  obtain ⟨ds, rest', rfl, digits, none⟩ := exists_spanDigits bs
  rcases ds with _ | ⟨d, ds⟩
  · rw [someDigits, spanDigits_append digits none] at h
    cases rest' with
    | nil => cases h
    | cons b rest' => cases h
  · have isDigits : IsDigits (d :: ds) := ⟨List.cons_ne_nil d ds, digits⟩
    rw [someDigits_append isDigits none] at h
    cases h
    exact ⟨d :: ds, rfl, isDigits, none, rfl⟩

/-! ### Exponents -/

theorem exponentSign_append {sign ds : List UInt8} (h : IsSign sign) (digits : IsDigits ds)
    (rest : List UInt8) :
    exponentSign (sign ++ (ds ++ rest)) = (sign == [ascii '-'], ds ++ rest) := by
  obtain ⟨ne, digits⟩ := digits
  rcases ds with _ | ⟨d, ds⟩
  · exact absurd rfl ne
  · have digit := digits d (.head _)
    have minus : d ≠ ascii '-' := by rintro rfl; cases digit
    have plus : d ≠ ascii '+' := by rintro rfl; cases digit
    rcases h with rfl | rfl | rfl
    · rw [List.nil_append, List.cons_append, exponentSign, if_neg minus, if_neg plus]
      rfl
    · rfl
    · rfl

theorem exponentSign_cases (bs : List UInt8) :
    ∃ sign, IsSign sign ∧ bs = sign ++ (exponentSign bs).2 := by
  cases bs with
  | nil => exact ⟨[], .inl rfl, rfl⟩
  | cons b bs =>
    rw [exponentSign]
    split
    · rename_i minus
      exact ⟨[ascii '-'], .inr (.inr rfl), by rw [minus]; rfl⟩
    · dsimp only
      split
      · rename_i plus
        exact ⟨[ascii '+'], .inr (.inl rfl), by rw [plus]; rfl⟩
      · exact ⟨[], .inl rfl, rfl⟩

/-- The numeral with an exponent behind it. -/
def raised (n : Numeral) (negative : Bool) (ds : List UInt8) : Numeral :=
  let size : Int := ((ds.filterMap Digits.value?).foldl (· * 10 + ·) 0 : Nat)
  { n with exponent := n.exponent + (if negative then -size else size), plain := false }

theorem readExponent_mark (n : Numeral) {mark : UInt8} {sign ds rest : List UInt8}
    (isMark : mark = ascii 'e' ∨ mark = ascii 'E') (isSign : IsSign sign) (digits : IsDigits ds)
    (none : NoDigit rest) : readExponent n (mark :: (sign ++ (ds ++ rest))) =
      .ok (n.raised (sign == [ascii '-']) ds, rest) := by
  rw [readExponent, if_pos isMark, exponentSign_append isSign digits]
  dsimp only
  rw [someDigits_append digits none]
  rfl

theorem readExponent_other (n : Numeral) {rest : List UInt8}
    (h : ∀ b, rest.head? = some b → ¬(b = ascii 'e' ∨ b = ascii 'E')) :
    readExponent n rest = .ok (n, rest) := by
  cases rest with
  | nil => rfl
  | cons b rest => rw [readExponent, if_neg (h b rfl)]

/-- An exponent is read to its last digit, whatever follows. -/
theorem readExponent_append (n : Numeral) {text : List UInt8} (h : IsExponent text) :
    ∃ m, ∀ rest, Ends rest → readExponent n (text ++ rest) = .ok (m, rest) := by
  rcases h with rfl | ⟨mark, sign, ds, isMark, isSign, digits, rfl⟩
  · refine ⟨n, fun rest ends => readExponent_other n fun b hb => ?_⟩
    exact not_or.2 (ends b hb).2.2
  · refine ⟨n.raised (sign == [ascii '-']) ds, fun rest ends => ?_⟩
    rw [List.cons_append, List.append_assoc]
    exact readExponent_mark n isMark isSign digits ends.noDigit

/-- What is read is an exponent or nothing. -/
theorem isExponent_of_read {n m : Numeral} {bs rest : List UInt8}
    (h : readExponent n bs = .ok (m, rest)) : ∃ text, IsExponent text ∧ bs = text ++ rest ∧
      ∀ more, Ends more → readExponent n (text ++ more) = .ok (m, more) := by
  by_cases isMark : ∃ mark later, bs = mark :: later ∧ (mark = ascii 'e' ∨ mark = ascii 'E')
  · obtain ⟨mark, later, rfl, isMark⟩ := isMark
    obtain ⟨sign, isSign, split⟩ := exponentSign_cases later
    have digits : ∃ ns, someDigits (exponentSign later).2 = .ok (ns, rest) := by
      rw [readExponent, if_pos isMark] at h
      dsimp only at h
      split at h
      · cases h
      · rename_i ns rest' found
        cases h
        exact ⟨ns, found⟩
    obtain ⟨ns, found⟩ := digits
    obtain ⟨ds, behind, digits, none, -⟩ := someDigits_eq_ok found
    rw [split, behind] at h ⊢
    rw [readExponent_mark n isMark isSign digits none] at h
    cases h
    refine ⟨mark :: (sign ++ ds), .inr ⟨mark, sign, ds, isMark, isSign, digits, rfl⟩, by simp, ?_⟩
    intro more ends
    rw [List.cons_append, List.append_assoc]
    exact readExponent_mark n isMark isSign digits ends.noDigit
  · rw [readExponent_other] at h
    · cases h
      refine ⟨[], .inl rfl, rfl, fun more ends => readExponent_other n fun b hb => ?_⟩
      exact not_or.2 (ends b hb).2.2
    · intro b hb mark
      obtain ⟨later, rfl⟩ := List.head?_eq_some_iff.1 hb
      exact isMark ⟨b, later, rfl, mark⟩

/-! ### Fractions -/

/-- The numeral with digits behind the point. -/
def refined (n : Numeral) (ds : List UInt8) : Numeral :=
  let (significand, taken) := absorb n.significand (ds.filterMap Digits.value?)
  { n with significand, exponent := n.exponent - taken, plain := false }

theorem readFraction_point (n : Numeral) {ds rest : List UInt8} (digits : IsDigits ds)
    (none : NoDigit rest) :
    readFraction n (ascii '.' :: (ds ++ rest)) = .ok (n.refined ds, rest) := by
  rw [readFraction, if_pos rfl, someDigits_append digits none]
  rfl

theorem readFraction_other (n : Numeral) {rest : List UInt8}
    (h : ∀ b, rest.head? = some b → b ≠ ascii '.') : readFraction n rest = .ok (n, rest) := by
  cases rest with
  | nil => rfl
  | cons b rest => rw [readFraction, if_neg (h b rfl)]

/-- No digit and no point follows. -/
def NoPoint (rest : List UInt8) : Prop :=
  ∀ b, rest.head? = some b → Digits.value? b = none ∧ b ≠ ascii '.'

theorem readFraction_append (n : Numeral) {text : List UInt8} (h : IsFraction text) :
    ∃ m, ∀ rest, NoPoint rest → readFraction n (text ++ rest) = .ok (m, rest) := by
  rcases h with rfl | ⟨ds, digits, rfl⟩
  · exact ⟨n, fun rest none => readFraction_other n fun b hb => (none b hb).2⟩
  · exact ⟨n.refined ds, fun rest none => readFraction_point n digits fun b hb => (none b hb).1⟩

theorem isFraction_of_read {n m : Numeral} {bs rest : List UInt8}
    (h : readFraction n bs = .ok (m, rest)) : ∃ text, IsFraction text ∧ bs = text ++ rest ∧
      ∀ more, NoPoint more → readFraction n (text ++ more) = .ok (m, more) := by
  by_cases point : ∃ later, bs = ascii '.' :: later
  · obtain ⟨later, rfl⟩ := point
    have digits : ∃ ns, someDigits later = .ok (ns, rest) := by
      rw [readFraction, if_pos rfl] at h
      split at h
      · cases h
      · rename_i ns rest' found
        cases h
        exact ⟨ns, found⟩
    obtain ⟨ns, found⟩ := digits
    obtain ⟨ds, rfl, digits, none, -⟩ := someDigits_eq_ok found
    rw [readFraction_point n digits none] at h
    cases h
    exact ⟨ascii '.' :: ds, .inr ⟨ds, digits, rfl⟩, rfl,
      fun more none => readFraction_point n digits fun b hb => (none b hb).1⟩
  · rw [readFraction_other] at h
    · cases h
      exact ⟨[], .inl rfl, rfl,
        fun more none => readFraction_other n fun b hb => (none b hb).2⟩
    · rintro b hb rfl
      obtain ⟨later, rfl⟩ := List.head?_eq_some_iff.1 hb
      exact point ⟨later, rfl⟩

/-! ### Whole numerals -/

theorem eq_zero_of_value {b : UInt8} (h : Digits.value? b = some 0) : b = ascii '0' := by
  rw [Digits.value?] at h
  split at h
  · rename_i range
    have low : 48 ≤ b.toNat := range.1
    have zero : b.toNat - 48 = 0 := Option.some.inj h
    exact UInt8.toNat_inj.1 (show b.toNat = 48 by omega)
  · cases h

theorem wholeDigits_append {ds rest : List UInt8} (h : IsWhole ds) (none : NoDigit rest) :
    wholeDigits (ds ++ rest) = .ok (ds.filterMap Digits.value?, rest) := by
  rw [wholeDigits, someDigits_append h.1 none]
  split
  · rename_i second more _ eq
    -- a first zero would stand alone
    obtain ⟨⟨ne, digits⟩, alone⟩ := h
    rcases ds with _ | ⟨d, ds⟩
    · exact absurd rfl ne
    · obtain ⟨n, value⟩ := Option.isSome_iff_exists.1 (digits d (.head _))
      rw [List.filterMap_cons_some value] at eq
      obtain ⟨rfl, later⟩ := List.cons.inj (Prod.mk.inj (Except.ok.inj eq)).1
      obtain rfl := eq_zero_of_value value
      cases alone rfl
      cases later
  · rfl

theorem isWhole_of_read {bs rest : List UInt8} {ns : List Nat}
    (h : wholeDigits bs = .ok (ns, rest)) : ∃ ds, IsWhole ds ∧ bs = ds ++ rest ∧ NoDigit rest ∧
      ns = ds.filterMap Digits.value? := by
  rw [wholeDigits] at h
  split at h
  · cases h
  · rename_i several
    obtain ⟨ds, rfl, digits, none, rfl⟩ := someDigits_eq_ok h
    refine ⟨ds, ⟨digits, fun zero => ?_⟩, rfl, none, rfl⟩
    obtain ⟨more, rfl⟩ := List.head?_eq_some_iff.1 zero
    rcases more with _ | ⟨d, more⟩
    · rfl
    · -- a second digit behind a first zero is refused
      obtain ⟨n, value⟩ := Option.isSome_iff_exists.1 (digits.2 d (.tail _ (.head _)))
      have zero : Digits.value? (ascii '0') = some 0 := rfl
      rw [List.filterMap_cons_some zero, List.filterMap_cons_some value] at h
      exact (several _ _ _ h).elim

/-- The numeral that digits before the point begin. -/
def begun (negative : Bool) (ds : List UInt8) : Numeral :=
  let ns := ds.filterMap Digits.value?
  let (significand, taken) := absorb 0 ns
  ⟨negative, significand, (ns.length - taken : Nat), ns.length - taken == 0⟩

theorem readUnsigned_whole {negative : Bool} {ds rest : List UInt8} (h : IsWhole ds)
    (none : NoDigit rest) : readUnsigned negative (ds ++ rest) =
      readFraction (begun negative ds) rest >>= fun (n, rest) => readExponent n rest := by
  rw [readUnsigned, wholeDigits_append h none]
  rfl

/-- Behind the digits before the point comes no digit. -/
theorem noPoint_exponent {text rest : List UInt8} (h : IsExponent text) (ends : Ends rest) :
    NoPoint (text ++ rest) := by
  intro b hb
  rcases h with rfl | ⟨mark, sign, ds, isMark, -, -, rfl⟩
  · exact ⟨(ends b hb).1, (ends b hb).2.1⟩
  · cases hb
    rcases isMark with rfl | rfl
    · exact ⟨rfl, by decide⟩
    · exact ⟨rfl, by decide⟩

theorem noDigit_fraction {text rest : List UInt8} (h : IsFraction text) (none : NoPoint rest) :
    NoDigit (text ++ rest) := by
  intro b hb
  rcases h with rfl | ⟨ds, -, rfl⟩
  · exact (none b hb).1
  · cases hb
    rfl

theorem readUnsigned_append (negative : Bool) {text : List UInt8} (h : IsUnsigned text) :
    ∃ m, ∀ rest, Ends rest → readUnsigned negative (text ++ rest) = .ok (m, rest) := by
  obtain ⟨whole, fraction, exponent, isWhole, isFraction, isExponent, rfl⟩ := h
  obtain ⟨n, readFraction⟩ := readFraction_append (begun negative whole) isFraction
  obtain ⟨m, readExponent⟩ := readExponent_append n isExponent
  refine ⟨m, fun rest ends => ?_⟩
  have none := noPoint_exponent isExponent ends
  rw [List.append_assoc, List.append_assoc,
    readUnsigned_whole isWhole (noDigit_fraction isFraction none), readFraction _ none]
  exact readExponent rest ends

theorem isUnsigned_of_read {negative : Bool} {m : Numeral} {bs rest : List UInt8}
    (h : readUnsigned negative bs = .ok (m, rest)) : ∃ text, IsUnsigned text ∧ bs = text ++ rest ∧
      ∀ more, Ends more → readUnsigned negative (text ++ more) = .ok (m, more) := by
  have whole : ∃ ns behind, wholeDigits bs = .ok (ns, behind) := by
    rw [readUnsigned] at h
    obtain ⟨⟨ns, behind⟩, found, -⟩ := bind_eq_ok.1 h
    exact ⟨ns, behind, found⟩
  obtain ⟨ns, behind, found⟩ := whole
  obtain ⟨ds, isWhole, rfl, none, -⟩ := isWhole_of_read found
  rw [readUnsigned_whole isWhole none] at h
  obtain ⟨⟨n, later⟩, fraction, exponent⟩ := bind_eq_ok.1 h
  obtain ⟨f, isFraction, rfl, again⟩ := isFraction_of_read fraction
  obtain ⟨e, isExponent, rfl, last⟩ := isExponent_of_read exponent
  refine ⟨ds ++ (f ++ e), ⟨ds, f, e, isWhole, isFraction, isExponent, rfl⟩, by simp, ?_⟩
  intro more ends
  have none := noPoint_exponent isExponent ends
  rw [List.append_assoc, List.append_assoc,
    readUnsigned_whole isWhole (noDigit_fraction isFraction none), again _ none]
  exact last more ends

/-- What a numeral starts with. -/
def Starts (b : UInt8) : Prop := b = ascii '-' ∨ (Digits.value? b).isSome = true

theorem IsUnsigned.exists_digit {text : List UInt8} (h : IsUnsigned text) :
    ∃ b rest, text = b :: rest ∧ (Digits.value? b).isSome = true := by
  obtain ⟨whole, fraction, exponent, ⟨⟨ne, digits⟩, -⟩, -, -, rfl⟩ := h
  rcases whole with _ | ⟨d, whole⟩
  · exact absurd rfl ne
  · exact ⟨d, _, rfl, digits d (.head _)⟩

theorem Written.exists_start {text : List UInt8} (h : Written text) :
    ∃ b rest, text = b :: rest ∧ Starts b := by
  rcases h with h | ⟨rest, -, rfl⟩
  · obtain ⟨b, rest, rfl, digit⟩ := h.exists_digit
    exact ⟨b, rest, rfl, .inr digit⟩
  · exact ⟨_, rest, rfl, .inl rfl⟩

theorem read_append {text : List UInt8} (h : Written text) :
    ∃ m, ∀ rest, Ends rest → read (text ++ rest) = .ok (m, rest) := by
  rcases h with h | ⟨behind, h, rfl⟩
  · obtain ⟨m, readUnsigned⟩ := readUnsigned_append false h
    obtain ⟨b, behind, rfl, digit⟩ := h.exists_digit
    refine ⟨m, fun rest ends => ?_⟩
    have minus : b ≠ ascii '-' := by rintro rfl; cases digit
    rw [List.cons_append, read, if_neg minus]
    exact readUnsigned rest ends
  · obtain ⟨m, readUnsigned⟩ := readUnsigned_append true h
    refine ⟨m, fun rest ends => ?_⟩
    rw [List.cons_append, read, if_pos rfl]
    exact readUnsigned rest ends

/-- What is read as a numeral is one, and nothing else. -/
theorem written_of_read {m : Numeral} {bs rest : List UInt8} (h : read bs = .ok (m, rest)) :
    ∃ text, Written text ∧ bs = text ++ rest ∧
      ∀ more, Ends more → read (text ++ more) = .ok (m, more) := by
  cases bs with
  | nil => cases h
  | cons b bs =>
    rw [read] at h
    split at h
    · rename_i minus
      obtain ⟨text, isUnsigned, rfl, again⟩ := isUnsigned_of_read h
      refine ⟨b :: text, .inr ⟨text, isUnsigned, by rw [minus]⟩, rfl, fun more ends => ?_⟩
      rw [List.cons_append, read, if_pos minus]
      exact again more ends
    · rename_i minus
      obtain ⟨text, isUnsigned, split, again⟩ := isUnsigned_of_read h
      refine ⟨text, .inl isUnsigned, split, fun more ends => ?_⟩
      obtain ⟨d, behind, rfl, digit⟩ := isUnsigned.exists_digit
      obtain ⟨rfl, -⟩ := List.cons.inj split
      rw [List.cons_append, read, if_neg minus]
      exact again more ends

end Numeral

end HeatFeed.Json
