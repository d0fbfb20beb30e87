import HeatFeed.Proofs.Json.Values

/-!
# Outlines of values

What the texts look like that are passed over as a value: brackets that nest to any depth, keys and
strings of which only the escapes are checked, and numerals of any size. The stack of open brackets
is gone from this description; a part of a text is what stands between one moment of the run and the
one at which the innermost bracket has been closed again.
-/

namespace HeatFeed.Json

open Numeral (Ends IsUnsigned Written)
open StringLiteral (Outlined skip_of_outlined outlined_of_skip)

/-- What is passed over as a value without brackets. -/
inductive ScalarOutline : List UInt8 → Prop where
  | null : ScalarOutline (Utf8.bytes "null")
  | bool (b : Bool) : ScalarOutline (Utf8.bytes (if b then "true" else "false"))
  | number {text : List UInt8} : Written text → ScalarOutline text
  | string {content : List UInt8} : Outlined content →
    ScalarOutline (ascii '"' :: content ++ [ascii '"'])

/-- The octet that opens a bracket. -/
def Skip.Open.opening : Skip.Open → UInt8
  | .list => ascii '['
  | .object => ascii '\x7b'

/-- What stands before the value of an item: in an object, a key and a colon. -/
inductive Lead : Skip.Open → List UInt8 → Prop where
  | item : Lead .list []
  | member {content ws : List UInt8} : Outlined content → Blank ws →
    Lead .object (ascii '"' :: content ++ [ascii '"'] ++ (ws ++ [ascii ':']))

/-- Where a part of a text starts: at a value, behind an opening bracket, or behind an item. -/
inductive Part where
  | value
  | first (bracket : Skip.Open)
  | next (bracket : Skip.Open)

/-- The outlines of values, and what follows in a bracket up to its end. -/
inductive Outline : Part → List UInt8 → Prop where
  | scalar {text : List UInt8} : ScalarOutline text → Outline .value text
  | bracket {o : Skip.Open} {inner : List UInt8} :
    Outline (.first o) inner → Outline .value (o.opening :: inner)
  | empty {o : Skip.Open} {ws : List UInt8} : Blank ws → Outline (.first o) (ws ++ [o.closing])
  | first {o : Skip.Open} {before after lead text tail : List UInt8} :
    Blank before → Lead o lead → Blank after → Outline .value text → Outline (.next o) tail →
    Outline (.first o) (before ++ (lead ++ (after ++ (text ++ tail))))
  | last {o : Skip.Open} {ws : List UInt8} : Blank ws → Outline (.next o) (ws ++ [o.closing])
  | next {o : Skip.Open} {before between after lead text tail : List UInt8} :
    Blank before → Blank between → Lead o lead → Blank after → Outline .value text →
    Outline (.next o) tail →
    Outline (.next o)
      (before ++ ascii ',' :: (between ++ (lead ++ (after ++ (text ++ tail)))))

/-! ### Numerals -/

/-- Readers that leave the same behind, whatever they make of what they have read. -/
theorem ok_iff_of_ok {ε α : Type} {rest behind : List UInt8} (x : α) :
    (Except.ok behind : Except ε (List UInt8)) = .ok rest ↔
      ∃ y, (Except.ok (x, behind) : Except ε (α × List UInt8)) = .ok (y, rest) := by
  constructor
  · intro h
    cases h
    exact ⟨x, rfl⟩
  · rintro ⟨y, h⟩
    cases h
    rfl

theorem error_iff_of_error {ε α : Type} {rest : List UInt8} (e e' : ε) :
    (Except.error e : Except ε (List UInt8)) = .ok rest ↔
      ∃ y : α, Except.error e' = .ok (y, rest) := by
  constructor
  · intro h
    cases h
  · rintro ⟨y, h⟩
    cases h

theorem skip_digits_iff {bs rest : List UInt8} :
    Skip.digits bs = .ok rest ↔ ∃ ns, Numeral.someDigits bs = .ok (ns, rest) := by
  rw [Skip.digits, Numeral.someDigits]
  rcases Numeral.spanDigits bs with ⟨_ | ⟨n, ns⟩, _ | ⟨b, behind⟩⟩
  · exact error_iff_of_error _ _
  · exact error_iff_of_error _ _
  · exact ok_iff_of_ok _
  · exact ok_iff_of_ok _

theorem skip_exponent_iff (n : Numeral) {bs rest : List UInt8} :
    Skip.exponent bs = .ok rest ↔ ∃ m, Numeral.readExponent n bs = .ok (m, rest) := by
  cases bs with
  | nil => exact ok_iff_of_ok n
  | cons b bs =>
    rw [Skip.exponent, Numeral.readExponent]
    split
    · rw [skip_digits_iff]
      dsimp only
      cases Numeral.someDigits (Numeral.exponentSign bs).2 with
      | error e =>
        constructor
        · rintro ⟨ns, h⟩
          cases h
        · rintro ⟨m, h⟩
          cases h
      | ok found =>
        constructor
        · rintro ⟨ns, h⟩
          cases h
          exact ⟨_, rfl⟩
        · rintro ⟨m, h⟩
          cases h
          exact ⟨_, rfl⟩
    · exact ok_iff_of_ok n

theorem skip_fraction_iff (n : Numeral) {bs rest : List UInt8} : Skip.fraction bs = .ok rest ↔
    ∃ m, (Numeral.readFraction n bs >>= fun (n, rest) => Numeral.readExponent n rest) =
      .ok (m, rest) := by
  cases bs with
  | nil => exact ok_iff_of_ok n
  | cons b bs =>
    rw [Skip.fraction, Numeral.readFraction]
    split
    · constructor
      · intro h
        obtain ⟨behind, digits, exponent⟩ := bind_eq_ok.1 h
        obtain ⟨ns, found⟩ := skip_digits_iff.1 digits
        rw [found]
        exact (skip_exponent_iff _).1 exponent
      · rintro ⟨m, h⟩
        cases found : Numeral.someDigits bs with
        | error e =>
          rw [found] at h
          cases h
        | ok digits =>
          rw [found] at h
          exact bind_eq_ok.2 ⟨digits.2, skip_digits_iff.2 ⟨digits.1, found⟩,
            (skip_exponent_iff _).2 ⟨m, h⟩⟩
    · exact skip_exponent_iff n

/-- The digits before the point are passed over where they would be read. -/
theorem skip_unsigned_cases (bs : List UInt8) :
    (∃ ns behind, Numeral.wholeDigits bs = .ok (ns, behind) ∧
      Skip.unsigned bs = Skip.fraction behind) ∨
    (∃ e e', Numeral.wholeDigits bs = .error e ∧ Skip.unsigned bs = .error e') := by
  rw [Skip.unsigned, Numeral.wholeDigits, Numeral.someDigits]
  rcases Numeral.spanDigits bs with ⟨_ | ⟨_ | n, _ | ⟨d, ns⟩⟩, behind⟩
  · cases behind with
    | nil => exact .inr ⟨_, _, rfl, rfl⟩
    | cons b behind => exact .inr ⟨_, _, rfl, rfl⟩
  · exact .inl ⟨_, _, rfl, rfl⟩
  · exact .inr ⟨_, _, rfl, rfl⟩
  · exact .inl ⟨_, _, rfl, rfl⟩
  · exact .inl ⟨_, _, rfl, rfl⟩

/-- Numerals are passed over where they would be read. -/
theorem skip_unsigned_iff (negative : Bool) {bs rest : List UInt8} :
    Skip.unsigned bs = .ok rest ↔ ∃ m, Numeral.readUnsigned negative bs = .ok (m, rest) := by
  rw [Numeral.readUnsigned]
  rcases skip_unsigned_cases bs with ⟨ns, behind, whole, skip⟩ | ⟨e, e', whole, skip⟩
  · rw [whole, skip]
    exact skip_fraction_iff _
  · rw [whole, skip]
    exact error_iff_of_error e' e

theorem isUnsigned_of_skip {bs rest : List UInt8} (h : Skip.unsigned bs = .ok rest) :
    ∃ text, IsUnsigned text ∧ bs = text ++ rest := by
  obtain ⟨m, read⟩ := (skip_unsigned_iff false).1 h
  obtain ⟨text, isUnsigned, split, -⟩ := Numeral.isUnsigned_of_read read
  exact ⟨text, isUnsigned, split⟩

theorem skip_of_isUnsigned {text rest : List UInt8} (h : IsUnsigned text) (ends : Ends rest) :
    Skip.unsigned (text ++ rest) = .ok rest := by
  obtain ⟨m, read⟩ := Numeral.readUnsigned_append false h
  exact (skip_unsigned_iff false).2 ⟨m, read rest ends⟩

/-! ### Values without brackets -/

theorem scalarOutline_of_skip {b : UInt8} {bs rest : List UInt8}
    (h : Skip.scalar b bs = .ok rest) : ∃ text, ScalarOutline text ∧ b :: bs = text ++ rest := by
  rw [Skip.scalar] at h
  split at h
  · rename_i mark
    exact ⟨_, .null, by rw [mark, eq_of_letters h]; rfl⟩
  split at h
  · rename_i mark
    exact ⟨_, .bool true, by rw [mark, eq_of_letters h]; rfl⟩
  split at h
  · rename_i mark
    exact ⟨_, .bool false, by rw [mark, eq_of_letters h]; rfl⟩
  split at h
  · rename_i mark
    obtain ⟨content, rfl, outlined⟩ := outlined_of_skip .text h
    exact ⟨_, .string outlined, by rw [mark]; simp⟩
  split at h
  · rename_i mark
    obtain ⟨text, isUnsigned, rfl⟩ := isUnsigned_of_skip h
    exact ⟨_, .number (.inr ⟨text, isUnsigned, rfl⟩), by rw [mark]; rfl⟩
  split at h
  · obtain ⟨text, isUnsigned, split⟩ := isUnsigned_of_skip h
    exact ⟨text, .number (.inl isUnsigned), split⟩
  · cases h

theorem skip_of_scalarOutline {text rest : List UInt8} (h : ScalarOutline text)
    (ends : Ends rest) : ∃ b behind, text = b :: behind ∧ startsScalar b ∧
      Skip.scalar b (behind ++ rest) = .ok rest := by
  cases h with
  | null =>
    refine ⟨ascii 'n', Utf8.bytes "ull", rfl, .inl (.head _), ?_⟩
    rw [Skip.scalar, if_pos rfl, letters_append]
  | bool b =>
    cases b with
    | true =>
      refine ⟨ascii 't', Utf8.bytes "rue", rfl, .inl (.tail _ (.head _)), ?_⟩
      rw [Skip.scalar, if_neg (by decide), if_pos rfl, letters_append]
    | false =>
      refine ⟨ascii 'f', Utf8.bytes "alse", rfl, .inl (.tail _ (.tail _ (.head _))), ?_⟩
      rw [Skip.scalar, if_neg (by decide), if_neg (by decide), if_pos rfl, letters_append]
  | @string content outlined =>
    refine ⟨ascii '"', content ++ [ascii '"'], rfl, .inl (by decide), ?_⟩
    rw [Skip.scalar, if_neg (by decide), if_neg (by decide), if_neg (by decide), if_pos rfl,
      List.append_assoc]
    exact skip_of_outlined outlined
  | number written =>
    rcases written with isUnsigned | ⟨behind, isUnsigned, rfl⟩
    · obtain ⟨b, behind, rfl, digit⟩ := isUnsigned.exists_digit
      have other {c : UInt8} (h : (Digits.value? c).isSome = false) : b ≠ c := by
        rintro rfl
        rw [h] at digit
        cases digit
      refine ⟨b, behind, rfl, .inr (.inr digit), ?_⟩
      rw [Skip.scalar, if_neg (other rfl), if_neg (other rfl), if_neg (other rfl),
        if_neg (other rfl), if_neg (other rfl), if_pos digit]
      exact skip_of_isUnsigned isUnsigned ends
    · refine ⟨ascii '-', behind, rfl, .inr (.inl rfl), ?_⟩
      rw [Skip.scalar, if_neg (by decide), if_neg (by decide), if_neg (by decide),
        if_neg (by decide), if_pos rfl]
      exact skip_of_isUnsigned isUnsigned ends

/-! ### Passing over a value -/

theorem lead_of_beforeValue {o : Skip.Open} {bs rest : List UInt8}
    (h : Skip.beforeValue o bs = .ok rest) :
    ∃ ws lead, Blank ws ∧ Lead o lead ∧ bs = ws ++ (lead ++ rest) := by
  cases o with
  | list =>
    cases h
    exact ⟨[], [], blank_nil, .item, rfl⟩
  | object =>
    rw [Skip.beforeValue, Skip.key] at h
    obtain ⟨ws, b, behind, blank, rfl, found⟩ := exists_token h
    split at found
    · rename_i quote
      obtain ⟨later, skip, colon⟩ := bind_eq_ok.1 found
      obtain ⟨content, rfl, outlined⟩ := outlined_of_skip .text skip
      obtain ⟨ws', blank', rfl⟩ := blank_of_colon colon
      exact ⟨ws, _, blank, .member outlined blank', by rw [quote]; simp⟩
    · cases found

/-- What stands before a value is passed over, but for the white space before an item of a list. -/
theorem beforeValue_of_lead {o : Skip.Open} {lead ws : List UInt8} (h : Lead o lead)
    (blank : Blank ws) (rest : List UInt8) :
    ∃ ws', Blank ws' ∧ Skip.beforeValue o (ws ++ (lead ++ rest)) = .ok (ws' ++ rest) := by
  cases h with
  | item => exact ⟨ws, blank, rfl⟩
  | @member content ws' outlined blank' =>
    refine ⟨[], blank_nil, ?_⟩
    rw [Skip.beforeValue, Skip.key]
    simp only [List.cons_append, List.append_assoc, List.nil_append]
    rw [skipSpace_blank blank (by decide)]
    dsimp only
    rw [if_pos rfl, skip_of_outlined outlined]
    exact colon_blank blank' rest

/-- A run that passes over a part of a text and goes on behind it, with fewer rounds left. -/
def PassesOver (part : Part) (rounds : Nat) (brackets : List Skip.Open)
    (bs rest : List UInt8) : Prop :=
  ∃ text behind fewer, Outline part text ∧ bs = text ++ behind ∧ fewer < rounds ∧
    Skip.run fewer .afterItem brackets behind = .ok rest

/-- What is passed over by as many rounds. -/
structure Sound (rounds : Nat) : Prop where
  value {brackets : List Skip.Open} {bs rest : List UInt8} :
    Skip.run rounds .value brackets bs = .ok rest →
      ∃ ws later, Blank ws ∧ bs = ws ++ later ∧ PassesOver .value rounds brackets later rest
  first {o : Skip.Open} {brackets : List Skip.Open} {bs rest : List UInt8} :
    Skip.run rounds .firstItem (o :: brackets) bs = .ok rest →
      PassesOver (.first o) rounds brackets bs rest
  next {o : Skip.Open} {brackets : List Skip.Open} {bs rest : List UInt8} :
    Skip.run rounds .afterItem (o :: brackets) bs = .ok rest →
      PassesOver (.next o) rounds brackets bs rest

/-- A value inside a bracket, and what follows it up to the end of the bracket. -/
theorem item_of_run {rounds : Nat} (sound : ∀ fewer ≤ rounds, Sound fewer) {o : Skip.Open}
    {brackets : List Skip.Open} {bs rest : List UInt8}
    (h : Skip.run rounds .value (o :: brackets) bs = .ok rest) :
    ∃ ws text tail behind fewer, Blank ws ∧ Outline .value text ∧ Outline (.next o) tail ∧
      bs = ws ++ (text ++ (tail ++ behind)) ∧ fewer < rounds ∧
      Skip.run fewer .afterItem brackets behind = .ok rest := by
  obtain ⟨ws, _, blank, rfl, text, _, fewer, value, rfl, lt, h⟩ :=
    (sound rounds (Nat.le_refl rounds)).value h
  obtain ⟨tail, behind, fewest, next, rfl, lt', h⟩ := (sound fewer (Nat.le_of_lt lt)).next h
  exact ⟨ws, text, tail, behind, fewest, blank, value, next, rfl, Nat.lt_trans lt' lt, h⟩

/-- What a run passes over has the outline of a value. -/
theorem sound_run (rounds : Nat) : Sound rounds := by
  induction rounds using Nat.strongRecOn with | ind rounds ih => ?_
  cases rounds with
  | zero => exact ⟨nofun, nofun, nofun⟩
  | succ rounds =>
    have ih : ∀ fewer ≤ rounds, Sound fewer := fun fewer le => ih fewer (Nat.lt_succ_of_le le)
    refine ⟨fun {brackets bs rest} h => ?_, fun {o brackets bs rest} h => ?_,
      fun {o brackets bs rest} h => ?_⟩
    · rw [Skip.run] at h
      obtain ⟨ws, b, behind, blank, rfl, found⟩ := exists_token h
      refine ⟨ws, b :: behind, blank, rfl, ?_⟩
      split at found
      · rename_i opening
        obtain ⟨inner, behind, fewer, outline, rfl, lt, run⟩ :=
          (ih rounds (Nat.le_refl rounds)).first found
        exact ⟨_, behind, fewer, .bracket outline, by rw [opening]; rfl, Nat.lt_succ_of_lt lt, run⟩
      split at found
      · rename_i opening
        obtain ⟨inner, behind, fewer, outline, rfl, lt, run⟩ :=
          (ih rounds (Nat.le_refl rounds)).first found
        exact ⟨_, behind, fewer, .bracket outline, by rw [opening]; rfl, Nat.lt_succ_of_lt lt, run⟩
      split at found
      · cases found
      · rename_i scalar
        obtain ⟨text, outline, split⟩ := scalarOutline_of_skip scalar
        exact ⟨text, _, rounds, .scalar outline, split, Nat.lt_succ_self rounds, found⟩
    · rw [Skip.run] at h
      obtain ⟨ws, b, behind, blank, rfl, found⟩ := exists_token h
      split at found
      · rename_i closing
        exact ⟨_, behind, rounds, .empty blank, by rw [closing]; simp, Nat.lt_succ_self rounds,
          found⟩
      split at found
      · cases found
      · rename_i before
        obtain ⟨ws', lead, blank', isLead, split⟩ := lead_of_beforeValue before
        obtain ⟨after, text, tail, behind, fewer, ha, value, next, rfl, lt, run⟩ :=
          item_of_run ih found
        exact ⟨_, behind, fewer, .first (blank.append blank') isLead ha value next,
          by rw [split]; simp, Nat.lt_succ_of_lt lt, run⟩
    · rw [Skip.run] at h
      obtain ⟨ws, b, behind, blank, rfl, found⟩ := exists_token h
      split at found
      · rename_i comma
        split at found
        · cases found
        · rename_i before
          obtain ⟨ws', lead, blank', isLead, rfl⟩ := lead_of_beforeValue before
          obtain ⟨after, text, tail, behind, fewer, ha, value, next, rfl, lt, run⟩ :=
            item_of_run ih found
          exact ⟨_, behind, fewer, .next blank blank' isLead ha value next,
            by rw [comma]; simp, Nat.lt_succ_of_lt lt, run⟩
      split at found
      · rename_i closing
        exact ⟨_, behind, rounds, .last blank, by rw [closing]; simp, Nat.lt_succ_self rounds,
          found⟩
      · cases found

/-! ### Passing over every value -/

theorem outline_start {text : List UInt8} (h : Outline .value text) :
    ∃ b behind, text = b :: behind ∧ Reader.isSpace b = false ∧ b ≠ ascii ']' := by
  cases h with
  | scalar outline =>
    obtain ⟨b, behind, rfl, starts, -⟩ := skip_of_scalarOutline outline Numeral.ends_nil
    obtain ⟨space, -, -, closing⟩ := startsScalar_cases starts
    exact ⟨b, behind, rfl, space, closing⟩
  | @bracket o inner _ =>
    refine ⟨o.opening, inner, rfl, ?_⟩
    cases o with
    | list => exact ⟨by decide, by decide⟩
    | object => exact ⟨by decide, by decide⟩

theorem isClosing_closing (o : Skip.Open) : IsClosing o.closing := by
  cases o with
  | list => exact .inl rfl
  | object => exact .inr rfl

theorem isSpace_closing (o : Skip.Open) : Reader.isSpace o.closing = false := by
  cases o with
  | list => rfl
  | object => rfl

/-- What follows an item ends it. -/
theorem ends_of_next {o : Skip.Open} {tail : List UInt8} (h : Outline (.next o) tail)
    (rest : List UInt8) : Ends (tail ++ rest) := by
  cases h with
  | last blank =>
    rw [List.append_assoc]
    exact blank.ends ((isClosing_closing o).ends _)
  | next blank _ _ _ _ _ =>
    rw [List.append_assoc, List.cons_append]
    exact blank.ends (ends_cons (by decide) _)

/-- Behind an opening bracket, what stands before the value of an item is passed over. -/
theorem beforeValue_first {o : Skip.Open} {before lead after text : List UInt8}
    (hb : Blank before) (isLead : Lead o lead) (ha : Blank after) (value : Outline .value text)
    (rest : List UInt8) : ∃ b behind ws,
      Reader.skipSpace (before ++ (lead ++ (after ++ (text ++ rest)))) = b :: behind ∧
      b ≠ o.closing ∧ Blank ws ∧ Skip.beforeValue o (b :: behind) = .ok (ws ++ (text ++ rest)) := by
  cases isLead with
  | item =>
    obtain ⟨b, behind, rfl, space, closing⟩ := outline_start value
    refine ⟨b, behind ++ rest, [], ?_, closing, blank_nil, rfl⟩
    rw [List.nil_append, skipSpace_append hb, List.cons_append, skipSpace_blank ha space]
  | @member content ws outlined blank =>
    obtain ⟨ws', blank', skip⟩ := beforeValue_of_lead (.member outlined blank) blank_nil
      (after ++ (text ++ rest))
    refine ⟨ascii '"', content ++ (ascii '"' :: (ws ++ (ascii ':' :: (after ++ (text ++ rest))))),
      ws' ++ after, ?_, by decide, blank'.append ha, ?_⟩
    · simp only [List.append_assoc, List.cons_append, List.nil_append]
      exact skipSpace_blank hb (by decide)
    · simp only [List.append_assoc, List.cons_append, List.nil_append] at skip ⊢
      exact skip

/-- A run passes over a part of a text in so many rounds, whatever follows. -/
def Complete : Part → List UInt8 → Nat → Prop
  | .value, text, cost => ∀ ws rest rounds brackets, Blank ws → Ends rest →
    Skip.run (rounds + cost) .value brackets (ws ++ (text ++ rest)) =
      Skip.run rounds .afterItem brackets rest
  | .first o, text, cost => ∀ rest rounds brackets,
    Skip.run (rounds + cost) .firstItem (o :: brackets) (text ++ rest) =
      Skip.run rounds .afterItem brackets rest
  | .next o, text, cost => ∀ rest rounds brackets,
    Skip.run (rounds + cost) .afterItem (o :: brackets) (text ++ rest) =
      Skip.run rounds .afterItem brackets rest

/-- Whatever has the outline of a value is passed over, in less than two rounds for each octet. -/
theorem complete_of_outline {part : Part} {text : List UInt8} (h : Outline part text) :
    ∃ cost, cost < 2 * text.length ∧ Complete part text cost := by
  induction h with
  | scalar outline =>
    obtain ⟨b, behind, rfl, starts, -⟩ := skip_of_scalarOutline outline Numeral.ends_nil
    refine ⟨1, by rw [List.length_cons]; omega, fun ws rest rounds brackets blank ends => ?_⟩
    obtain ⟨_, _, same, -, skip⟩ := skip_of_scalarOutline outline ends
    cases same
    obtain ⟨space, bracket, brace, -⟩ := startsScalar_cases starts
    rw [List.cons_append, Skip.run, skipSpace_blank blank space]
    dsimp only
    rw [if_neg bracket, if_neg brace, skip]
  | @bracket o inner _ ih =>
    obtain ⟨cost, lt, ih⟩ := ih
    refine ⟨cost + 1, by rw [List.length_cons]; omega, fun ws rest rounds brackets blank _ => ?_⟩
    rw [List.cons_append, ← Nat.add_assoc, Skip.run]
    cases o with
    | list =>
      rw [skipSpace_blank blank (by decide)]
      exact ih rest rounds brackets
    | object =>
      rw [skipSpace_blank blank (by decide)]
      exact ih rest rounds brackets
  | @empty o ws blank =>
    refine ⟨1, by rw [List.length_append, List.length_singleton]; omega,
      fun rest rounds brackets => ?_⟩
    rw [List.append_assoc, List.singleton_append, Skip.run,
      skipSpace_blank blank (isSpace_closing o)]
    exact if_pos rfl
  | @first o before after lead text tail hb isLead ha value next ihValue ihNext =>
    obtain ⟨costValue, ltValue, ihValue⟩ := ihValue
    obtain ⟨costNext, ltNext, ihNext⟩ := ihNext
    refine ⟨costNext + costValue + 1, by simp only [List.length_append]; omega,
      fun rest rounds brackets => ?_⟩
    obtain ⟨b, behind, ws, start, other, blank, skip⟩ :=
      beforeValue_first hb isLead ha value (tail ++ rest)
    rw [← Nat.add_assoc, ← Nat.add_assoc]
    simp only [List.append_assoc]
    rw [Skip.run, start]
    dsimp only
    rw [if_neg other, skip]
    dsimp only
    rw [ihValue ws (tail ++ rest) _ _ blank (ends_of_next next rest), ihNext]
  | @last o ws blank =>
    refine ⟨1, by rw [List.length_append, List.length_singleton]; omega,
      fun rest rounds brackets => ?_⟩
    have comma : o.closing ≠ ascii ',' := by
      cases o with
      | list => decide
      | object => decide
    rw [List.append_assoc, List.singleton_append, Skip.run,
      skipSpace_blank blank (isSpace_closing o)]
    exact (if_neg comma).trans (if_pos rfl)
  | @next o before between after lead text tail hb hc isLead ha value next ihValue ihNext =>
    obtain ⟨costValue, ltValue, ihValue⟩ := ihValue
    obtain ⟨costNext, ltNext, ihNext⟩ := ihNext
    refine ⟨costNext + costValue + 1,
      by simp only [List.length_append, List.length_cons]; omega, fun rest rounds brackets => ?_⟩
    obtain ⟨ws, blank, skip⟩ := beforeValue_of_lead isLead hc (after ++ (text ++ (tail ++ rest)))
    rw [← Nat.add_assoc, ← Nat.add_assoc]
    simp only [List.append_assoc, List.cons_append]
    rw [Skip.run, skipSpace_blank hb (by decide)]
    dsimp only
    rw [if_pos rfl, skip, ← List.append_assoc]
    dsimp only
    rw [ihValue _ (tail ++ rest) _ _ (blank.append ha) (ends_of_next next rest), ihNext]

/-! ### Whole values -/

/-- What is passed over as a value has the outline of one. -/
theorem outline_of_skip {bs rest : List UInt8} (h : Skip.value bs = .ok rest) :
    ∃ ws text, Blank ws ∧ Outline .value text ∧ bs = ws ++ (text ++ rest) := by
  obtain ⟨ws, _, blank, rfl, text, behind, fewer, outline, rfl, -, h⟩ := (sound_run _).value h
  refine ⟨ws, text, blank, outline, ?_⟩
  cases fewer with
  | zero => cases h
  | succ fewer =>
    cases h
    rfl

/-- What has the outline of a value is passed over. -/
theorem skip_of_outline {ws text rest : List UInt8} (h : Outline .value text) (blank : Blank ws)
    (ends : Ends rest) : Skip.value (ws ++ (text ++ rest)) = .ok rest := by
  obtain ⟨cost, lt, complete⟩ := complete_of_outline h
  have enough : 2 * (ws ++ (text ++ rest)).length + 2 =
      (2 * (ws ++ (text ++ rest)).length + 1 - cost) + 1 + cost := by
    simp only [List.length_append]
    omega
  rw [Skip.value, enough, complete ws rest _ [] blank ends, Skip.run]

/-! ### Members that are passed over -/

/-- A member that is passed over changes nothing. -/
theorem member_of_skip {σ : Type} {s s' : σ} {bs rest : List UInt8}
    (read : (Reader.colon bs >>= fun bs => Skip.value bs >>= fun rest => pure (s, rest)) =
      .ok (s', rest)) :
    s' = s ∧ ∃ before after text, Blank before ∧ Blank after ∧ Outline .value text ∧
      bs = before ++ ascii ':' :: (after ++ (text ++ rest)) := by
  obtain ⟨later, colon, read⟩ := bind_eq_ok.1 read
  obtain ⟨behind, skip, read⟩ := bind_eq_ok.1 read
  cases read
  obtain ⟨before, hb, rfl⟩ := blank_of_colon colon
  obtain ⟨after, text, ha, outline, rfl⟩ := outline_of_skip skip
  exact ⟨rfl, before, after, text, hb, ha, outline, rfl⟩

theorem skip_member {σ : Type} (s : σ) {before after text rest : List UInt8}
    (h : Outline .value text) (hb : Blank before) (ha : Blank after) (ends : Ends rest) :
    (Reader.colon (before ++ ascii ':' :: (after ++ (text ++ rest))) >>= fun bs =>
      Skip.value bs >>= fun rest => pure (s, rest)) = .ok (s, rest) :=
  bind_eq_ok.2 ⟨_, colon_blank hb _, bind_eq_ok.2 ⟨_, skip_of_outline h ha ends, rfl⟩⟩

end HeatFeed.Json
