import HeatFeed.Proofs.Text.Trim
import HeatFeed.Proofs.Timestamp.Spelling

/-!
# Amounts of time that are read

Times of day and offsets are written alike, as hours and what is given of minutes, seconds and a
fraction. Their text goes on as long as it can: whether there is more depends on the next characters
only. So an amount is read back from its text where nothing behind it could belong to it.
-/

namespace HeatFeed.Timestamp

/-- No amount of time goes on with these characters. -/
def Ends (rest : List Char) : Prop :=
  ∀ c ∈ rest.head?, c ≠ ':' ∧ c ≠ '.' ∧ c ≠ ',' ∧ c.isDigit = false

theorem ends_nil : Ends [] := nofun

/-! ### Parts -/

/-- What is read of an amount. -/
def Amount.parts : Amount → Parts
  | hours h => ⟨h, none, none, []⟩
  | minutes _ h m => ⟨h, some m, none, []⟩
  | seconds _ h m s fraction => ⟨h, some m, some s, (fraction.map Fraction.digits).getD []⟩

theorem readFraction_append {fraction : Option Fraction} {rest : List Char}
    (range : ∀ f ∈ fraction, f.InRange)
    (short : ((fraction.map Fraction.digits).getD []).length ≤ 9) (ends : Ends rest) :
    readFraction ((fraction.map Fraction.text).getD [] ++ rest) =
      some ((fraction.map Fraction.digits).getD [], rest) := by
  cases fraction with
  | none =>
    show readFraction rest = some ([], rest)
    unfold readFraction
    split
    · exact absurd rfl (ends '.' rfl).2.1
    · exact absurd rfl (ends ',' rfl).2.2.1
    · rfl
  | some f =>
    obtain ⟨mark, digits⟩ := f
    obtain ⟨marks, all, nonempty⟩ := range _ rfl
    have found := Text.span_append all fun c hc => (ends c hc).2.2.2
    have length : 1 ≤ digits.length ∧ digits.length ≤ 9 := ⟨List.length_pos_iff.2 nonempty, short⟩
    show readFraction (mark :: (digits ++ rest)) = _
    rcases marks with rfl | rfl
    · rw [readFraction, found]
      exact if_pos length
    · rw [readFraction, found]
      exact if_pos length

theorem Amount.Below.mono {hours seconds : Nat} {a : Amount} (h : a.Below hours seconds)
    (wide : hours ≤ 100 ∧ seconds ≤ 100) : a.Below 100 100 :=
  ⟨Nat.lt_of_lt_of_le h.hour wide.1, h.minute, Nat.lt_of_lt_of_le h.second wide.2, h.fraction⟩

theorem Amount.Below.not {hours seconds : Nat} {a : Amount} (h : a.Below hours seconds) :
    ¬(hours ≤ a.hour ∨ 60 ≤ a.minute ∨ seconds ≤ a.second) := by
  simp only [not_or, Nat.not_le]
  exact ⟨h.hour, h.minute, h.second⟩

end HeatFeed.Timestamp
