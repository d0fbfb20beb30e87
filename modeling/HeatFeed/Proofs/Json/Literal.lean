import HeatFeed.Json.StringLiteral

/-!
# String literals as they are written

What may stand between the quotes of a string literal, and the octets of the text that it stands
for: every octet but the quote, the backslash and the control characters stands for itself, an
escape for one octet or for one character, which may take two escapes by UTF-16 unit. Reading
accepts exactly these literals, and skipping those whose escapes need not be of characters. What is
written for a text stands for it.
-/

namespace HeatFeed.Json

/-- What is checked of the elements of a list, one after another. -/
theorem forall_mem_of_all {α : Type} {p : α → Prop} [DecidablePred p] {xs : List α}
    (h : xs.all (fun x => decide (p x)) = true) : ∀ x ∈ xs, p x := fun x hx =>
  of_decide_eq_true (List.all_eq_true.1 h x hx)

namespace StringLiteral

/-- Four hexadecimal digits that spell a number. -/
def Spell (digits : List UInt8) (n : Nat) : Prop :=
  digits.length = 4 ∧ Hex.number? digits = some n

/-- UTF-16 units that lead a pair. -/
def IsHigh (n : Nat) : Prop := 0xD800 ≤ n ∧ n ≤ 0xDBFF

/-- UTF-16 units that end a pair. -/
def IsLow (n : Nat) : Prop := 0xDC00 ≤ n ∧ n ≤ 0xDFFF

/-- The escape by a UTF-16 unit. -/
def hexEscape (digits : List UInt8) : List UInt8 := ascii '\\' :: ascii 'u' :: digits

/-- An octet that stands for itself. -/
def IsPlain (b : UInt8) : Prop := ¬b < 0x20 ∧ b ≠ ascii '"' ∧ b ≠ ascii '\\'

/-- What stands between the quotes, and the octets of the text that it stands for. -/
inductive Stands : List UInt8 → List UInt8 → Prop where
  | nil : Stands [] []
  | plain {b : UInt8} {rest out : List UInt8} :
    IsPlain b → Stands rest out → Stands (b :: rest) (b :: out)
  | short {letter b : UInt8} {rest out : List UInt8} :
    shortEscape? letter = some b → Stands rest out →
    Stands (ascii '\\' :: letter :: rest) (b :: out)
  | unit {digits rest out : List UInt8} {n : Nat} :
    Spell digits n → ¬IsHigh n → ¬IsLow n → Stands rest out →
    Stands (hexEscape digits ++ rest) (encode n ++ out)
  | pair {first second rest out : List UInt8} {high low : Nat} :
    Spell first high → IsHigh high → Spell second low → IsLow low → Stands rest out →
    Stands (hexEscape first ++ hexEscape second ++ rest)
      (encode ((high - 0xD800) * 1024 + (low - 0xDC00) + 0x10000) ++ out)

/-- What stands between the quotes of a literal that is skipped. -/
inductive Outlined : List UInt8 → Prop where
  | nil : Outlined []
  | plain {b : UInt8} {rest : List UInt8} : IsPlain b → Outlined rest → Outlined (b :: rest)
  | short {letter b : UInt8} {rest : List UInt8} :
    shortEscape? letter = some b → Outlined rest → Outlined (ascii '\\' :: letter :: rest)
  | unit {digits rest : List UInt8} {n : Nat} :
    Spell digits n → Outlined rest → Outlined (hexEscape digits ++ rest)

/-- A literal, with the quotes, that stands for a text. -/
def Literal (s : String) (text : List UInt8) : Prop :=
  ∃ content, text = ascii '"' :: content ++ [ascii '"'] ∧ Stands content (Utf8.bytes s)

theorem Stands.outlined {content out : List UInt8} (h : Stands content out) :
    Outlined content := by
  induction h with
  | nil => exact .nil
  | plain hb _ ih => exact .plain hb ih
  | short hb _ ih => exact .short hb ih
  | unit hd _ _ _ ih => exact .unit hd ih
  | pair first _ second _ _ ih =>
    rw [List.append_assoc]
    exact .unit first (.unit second ih)

/-! ### Reading a literal -/

theorem spell_cases {digits : List UInt8} {n : Nat} (h : Spell digits n) :
    ∃ a b c d, digits = [a, b, c, d] := by
  obtain ⟨length, -⟩ := h
  match digits, length with
  | [a, b, c, d], _ => exact ⟨a, b, c, d, rfl⟩

theorem octets_cons {begun next : Begun} {b : UInt8} {bs out more rest : List UInt8}
    (inside : begun = .text → b ≠ ascii '"') (h : step begun b = .ok (out, next))
    (later : octets next bs = .ok (more, rest)) :
    octets begun (b :: bs) = .ok (out ++ more, rest) := by
  rw [octets, if_neg fun both => inside both.1 both.2, h]
  dsimp only
  rw [later]

theorem octets_hex {lead : Option Nat} {digits bs out more rest : List UInt8} {n : Nat}
    {next : Begun} (h : Spell digits n) (hu : unit lead n = .ok (out, next))
    (later : octets next bs = .ok (more, rest)) :
    octets (.hex lead []) (digits ++ bs) = .ok (out ++ more, rest) := by
  obtain ⟨a, b, c, d, rfl⟩ := spell_cases h
  have number : Hex.number? ([a, b, c] ++ [d]) = some n := h.2
  have last : step (.hex lead [a, b, c]) d = .ok (out, next) := by
    rw [step, if_neg (show ¬[a, b, c].length < 3 from Nat.lt_irrefl 3), number]
    exact hu
  have third : octets (.hex lead [a, b, c]) (d :: bs) = .ok (out ++ more, rest) :=
    octets_cons nofun last later
  have second : octets (.hex lead [a, b]) (c :: d :: bs) = .ok ([] ++ (out ++ more), rest) :=
    octets_cons nofun rfl third
  have first : octets (.hex lead [a]) (b :: c :: d :: bs) = .ok ([] ++ (out ++ more), rest) :=
    octets_cons nofun rfl second
  have all : octets (.hex lead []) (a :: b :: c :: d :: bs) = .ok ([] ++ (out ++ more), rest) :=
    octets_cons nofun rfl first
  exact all

/-- A backslash, and what is read behind it. -/
theorem octets_backslash {bs out rest : List UInt8} (later : octets .escape bs = .ok (out, rest)) :
    octets .text (ascii '\\' :: bs) = .ok (out, rest) := by
  have all : octets .text (ascii '\\' :: bs) = .ok ([] ++ out, rest) :=
    octets_cons (fun _ => by decide) rfl later
  exact all

/-- A backslash and the letter of the escape by unit. -/
theorem octets_hexEscape {digits bs out rest : List UInt8}
    (later : octets (.hex none []) (digits ++ bs) = .ok (out, rest)) :
    octets .text (hexEscape digits ++ bs) = .ok (out, rest) := by
  have letter : octets .escape (ascii 'u' :: (digits ++ bs)) = .ok ([] ++ out, rest) :=
    octets_cons nofun rfl later
  exact octets_backslash letter

/-- The same between the two units of a pair. -/
theorem octets_secondEscape {high : Nat} {digits bs out rest : List UInt8}
    (later : octets (.hex (some high) []) (digits ++ bs) = .ok (out, rest)) :
    octets (.secondEscape high) (hexEscape digits ++ bs) = .ok (out, rest) := by
  have letter : octets (.secondLetter high) (ascii 'u' :: (digits ++ bs)) =
      .ok ([] ++ out, rest) := octets_cons nofun rfl later
  have all : octets (.secondEscape high) (ascii '\\' :: ascii 'u' :: (digits ++ bs)) =
      .ok ([] ++ out, rest) := octets_cons nofun rfl letter
  exact all

theorem unit_of_not_surrogate {n : Nat} (high : ¬IsHigh n) (low : ¬IsLow n) :
    unit none n = .ok (encode n, .text) := (if_neg low).trans (if_neg high)

theorem unit_of_high {n : Nat} (h : IsHigh n) : unit none n = .ok ([], .secondEscape n) := by
  have low : ¬IsLow n := fun low => by
    have := h.2
    have := low.1
    omega
  exact (if_neg low).trans (if_pos h)

theorem unit_of_low {n : Nat} (h : IsLow n) (high : Nat) : unit (some high) n =
    .ok (encode ((high - 0xD800) * 1024 + (n - 0xDC00) + 0x10000), .text) := if_pos h

theorem octets_of_stands {content out : List UInt8} (h : Stands content out) (rest : List UInt8) :
    octets .text (content ++ ascii '"' :: rest) = .ok (out, rest) := by
  induction h with
  | nil => exact if_pos ⟨rfl, rfl⟩
  | @plain b _ out hb _ ih =>
    obtain ⟨control, quote, backslash⟩ := hb
    have itself : step .text b = .ok ([b], .text) := by
      rw [step, if_neg backslash, if_neg control]
    exact octets_cons (fun _ => quote) itself ih
  | @short letter b _ out hb _ ih =>
    have itself : step .escape letter = .ok ([b], .text) := by
      have notHex : letter ≠ ascii 'u' := by
        rintro rfl
        cases hb
      rw [step, if_neg notHex, hb]
    have escaped : octets .escape (letter :: _) = .ok ([b] ++ out, rest) :=
      octets_cons nofun itself ih
    exact octets_backslash escaped
  | unit hd high low _ ih =>
    rw [List.append_assoc]
    exact octets_hexEscape (octets_hex hd (unit_of_not_surrogate high low) ih)
  | @pair _ _ _ _ high _ first isHigh second isLow _ ih =>
    have ending := octets_secondEscape (octets_hex second (unit_of_low isLow high) ih)
    have both := octets_hexEscape (octets_hex first (unit_of_high isHigh) ending)
    rw [List.nil_append] at both
    rw [List.append_assoc, List.append_assoc]
    exact both

theorem read_of_literal {s : String} {text : List UInt8} (h : Literal s text)
    (rest : List UInt8) :
    ∃ behind, text = ascii '"' :: behind ∧ read (behind ++ rest) = .ok (s, rest) := by
  obtain ⟨content, rfl, stands⟩ := h
  refine ⟨content ++ [ascii '"'], rfl, ?_⟩
  rw [List.append_assoc, read]
  have found := octets_of_stands stands rest
  rw [show [ascii '"'] ++ rest = ascii '"' :: rest from rfl, found]
  dsimp only
  rw [Utf8.ofBytes?_bytes]

/-! ### What has been read -/

/-- What has been read since the last octet of text. -/
inductive Behind : Begun → List UInt8 → Prop where
  | text : Behind .text []
  | escape : Behind .escape [ascii '\\']
  | hex {digits : List UInt8} : digits.length ≤ 3 → Behind (.hex none digits) (hexEscape digits)
  | secondEscape {first : List UInt8} {high : Nat} : Spell first high → IsHigh high →
    Behind (.secondEscape high) (hexEscape first)
  | secondLetter {first : List UInt8} {high : Nat} : Spell first high → IsHigh high →
    Behind (.secondLetter high) (hexEscape first ++ [ascii '\\'])
  | secondHex {first digits : List UInt8} {high : Nat} : Spell first high → IsHigh high →
    digits.length ≤ 3 → Behind (.hex (some high) digits) (hexEscape first ++ hexEscape digits)

/-- The digits of a unit: fewer than four are followed by another, and the fourth completes it. -/
theorem step_hex_cases {lead : Option Nat} {digits out : List UInt8} {b : UInt8} {next : Begun}
    (le : digits.length ≤ 3) (h : step (.hex lead digits) b = .ok (out, next)) :
    ((digits ++ [b]).length ≤ 3 ∧ out = [] ∧ next = .hex lead (digits ++ [b])) ∨
    ∃ n, Spell (digits ++ [b]) n ∧ unit lead n = .ok (out, next) := by
  have length : (digits ++ [b]).length = digits.length + 1 := List.length_append
  rw [step] at h
  split at h
  · cases h
    exact .inl ⟨by omega, rfl, rfl⟩
  · split at h
    · rename_i n number
      exact .inr ⟨n, ⟨by omega, number⟩, h⟩
    · cases h

theorem unit_cases {n : Nat} {out : List UInt8} {next : Begun} (h : unit none n = .ok (out, next)) :
    (IsHigh n ∧ out = [] ∧ next = .secondEscape n) ∨
    (¬IsHigh n ∧ ¬IsLow n ∧ out = encode n ∧ next = .text) := by
  rw [unit] at h
  split at h
  · cases h
  · rename_i low
    split at h
    · rename_i high
      cases h
      exact .inl ⟨high, rfl, rfl⟩
    · rename_i high
      cases h
      exact .inr ⟨high, low, rfl, rfl⟩

/-- An octet goes on with what has been begun, or completes it. -/
theorem step_cases {begun next : Begun} {before out : List UInt8} {b : UInt8}
    (h : Behind begun before) (inside : begun = .text → b ≠ ascii '"')
    (hstep : step begun b = .ok (out, next)) :
    (out = [] ∧ Behind next (before ++ [b])) ∨
    (next = .text ∧ ∀ rest more, Stands rest more →
      Stands (before ++ [b] ++ rest) (out ++ more)) := by
  cases h with
  | text =>
    rw [step] at hstep
    split at hstep
    · rename_i backslash
      cases hstep
      rw [backslash]
      exact .inl ⟨rfl, .escape⟩
    · rename_i backslash
      split at hstep
      · cases hstep
      · rename_i control
        cases hstep
        exact .inr ⟨rfl, fun _ _ => .plain ⟨control, inside rfl, backslash⟩⟩
  | escape =>
    rw [step] at hstep
    split at hstep
    · rename_i letter
      cases hstep
      rw [letter]
      exact .inl ⟨rfl, .hex (Nat.zero_le 3)⟩
    · split at hstep
      · rename_i c found
        cases hstep
        exact .inr ⟨rfl, fun _ _ => .short found⟩
      · cases hstep
  | hex le =>
    rcases step_hex_cases le hstep with ⟨le, rfl, rfl⟩ | ⟨n, spell, hunit⟩
    · exact .inl ⟨rfl, .hex le⟩
    · rcases unit_cases hunit with ⟨high, rfl, rfl⟩ | ⟨high, low, rfl, rfl⟩
      · exact .inl ⟨rfl, .secondEscape spell high⟩
      · exact .inr ⟨rfl, fun _ _ => .unit spell high low⟩
  | secondEscape spell high =>
    rw [step] at hstep
    split at hstep
    · rename_i backslash
      cases hstep
      rw [backslash]
      exact .inl ⟨rfl, .secondLetter spell high⟩
    · cases hstep
  | @secondLetter first _ spell high =>
    rw [step] at hstep
    split at hstep
    · rename_i letter
      cases hstep
      refine .inl ⟨rfl, ?_⟩
      rw [letter, List.append_assoc]
      exact .secondHex spell high (Nat.zero_le 3)
    · cases hstep
  | secondHex first high le =>
    rw [List.append_assoc]
    rcases step_hex_cases le hstep with ⟨le, rfl, rfl⟩ | ⟨n, second, hunit⟩
    · exact .inl ⟨rfl, .secondHex first high le⟩
    · rw [unit] at hunit
      split at hunit
      · rename_i low
        obtain ⟨rfl, rfl⟩ := Prod.mk.inj (Except.ok.inj hunit)
        exact .inr ⟨rfl, fun _ _ => .pair first high second low⟩
      · cases hunit

theorem stands_of_octets {begun : Begun} {before bs out rest : List UInt8}
    (h : Behind begun before) (hread : octets begun bs = .ok (out, rest)) :
    ∃ content, bs = content ++ ascii '"' :: rest ∧ Stands (before ++ content) out := by
  induction bs generalizing begun before out with
  | nil => cases hread
  | cons b bs ih =>
    rw [octets] at hread
    split at hread
    · rename_i closing
      cases hread
      obtain ⟨rfl, rfl⟩ := closing
      cases h
      exact ⟨[], rfl, .nil⟩
    · rename_i closing
      split at hread
      · cases hread
      · rename_i first next hstep
        split at hread
        · cases hread
        · rename_i more rest later
          cases hread
          have inside : begun = .text → b ≠ ascii '"' := fun text quote => closing ⟨text, quote⟩
          rcases step_cases h inside hstep with ⟨rfl, behind⟩ | ⟨rfl, complete⟩
          · obtain ⟨content, rfl, stands⟩ := ih behind later
            refine ⟨b :: content, rfl, ?_⟩
            rw [List.append_assoc] at stands
            exact stands
          · obtain ⟨content, rfl, stands⟩ := ih .text later
            refine ⟨b :: content, rfl, ?_⟩
            have := complete content more stands
            rw [List.append_assoc] at this
            exact this

/-- Reading behind the opening quote accepts the literals of texts, and nothing else. -/
theorem literal_of_read {s : String} {bs rest : List UInt8} (h : read bs = .ok (s, rest)) :
    ∃ text, ascii '"' :: bs = text ++ rest ∧ Literal s text := by
  rw [read] at h
  split at h
  · cases h
  · rename_i found rest' octets
    split at h
    · rename_i s' valid
      cases h
      obtain ⟨content, rfl, stands⟩ := stands_of_octets .text octets
      refine ⟨ascii '"' :: content ++ [ascii '"'], by simp, content, rfl, ?_⟩
      rw [← Utf8.ofBytes?_eq_some_iff.1 valid]
      exact stands
    · cases h

/-! ### Skipping a literal -/

theorem skip_cons {begun next : Passed} {b : UInt8} {bs rest : List UInt8}
    (inside : begun = .text → b ≠ ascii '"') (h : pass begun b = .ok next)
    (later : skip next bs = .ok rest) : skip begun (b :: bs) = .ok rest := by
  rw [skip, if_neg fun both => inside both.1 both.2, h]
  exact later

theorem skip_hex {digits bs rest : List UInt8} {n : Nat} (h : Spell digits n)
    (later : skip .text bs = .ok rest) : skip (.hex []) (digits ++ bs) = .ok rest := by
  obtain ⟨a, b, c, d, rfl⟩ := spell_cases h
  have number : Hex.number? ([a, b, c] ++ [d]) = some n := h.2
  have last : pass (.hex [a, b, c]) d = .ok .text := by
    rw [pass, if_neg (show ¬[a, b, c].length < 3 from Nat.lt_irrefl 3), number]
    rfl
  have third : skip (.hex [a, b, c]) (d :: bs) = .ok rest := skip_cons nofun last later
  have second : skip (.hex [a, b]) (c :: d :: bs) = .ok rest := skip_cons nofun rfl third
  have first : skip (.hex [a]) (b :: c :: d :: bs) = .ok rest := skip_cons nofun rfl second
  have all : skip (.hex []) (a :: b :: c :: d :: bs) = .ok rest := skip_cons nofun rfl first
  exact all

/-- A backslash, and what is skipped behind it. -/
theorem skip_backslash {bs rest : List UInt8} (later : skip .escape bs = .ok rest) :
    skip .text (ascii '\\' :: bs) = .ok rest := by
  have first : pass .text (ascii '\\') = .ok .escape := rfl
  exact skip_cons (fun _ => by decide) first later

theorem skip_of_outlined {content rest : List UInt8} (h : Outlined content) :
    skip .text (content ++ ascii '"' :: rest) = .ok rest := by
  induction h with
  | nil => exact if_pos ⟨rfl, rfl⟩
  | @plain b _ hb _ ih =>
    obtain ⟨control, quote, backslash⟩ := hb
    have itself : pass .text b = .ok .text := by
      rw [pass, if_neg backslash, if_neg control]
    exact skip_cons (fun _ => quote) itself ih
  | @short letter b _ hb _ ih =>
    have itself : pass .escape letter = .ok .text := by
      have notHex : letter ≠ ascii 'u' := by
        rintro rfl
        cases hb
      rw [pass, if_neg notHex, hb]
      rfl
    have escaped : skip .escape (letter :: _) = .ok rest := skip_cons nofun itself ih
    exact skip_backslash escaped
  | unit hd _ ih =>
    have letter : skip .escape (ascii 'u' :: _) = .ok rest := skip_cons nofun rfl (skip_hex hd ih)
    rw [List.append_assoc]
    exact skip_backslash letter

/-- What has been skipped since the last octet of text. -/
inductive Left : Passed → List UInt8 → Prop where
  | text : Left .text []
  | escape : Left .escape [ascii '\\']
  | hex {digits : List UInt8} : digits.length ≤ 3 → Left (.hex digits) (hexEscape digits)

theorem pass_cases {begun next : Passed} {before : List UInt8} {b : UInt8}
    (h : Left begun before) (inside : begun = .text → b ≠ ascii '"')
    (hpass : pass begun b = .ok next) :
    Left next (before ++ [b]) ∨
    (next = .text ∧ ∀ rest, Outlined rest → Outlined (before ++ [b] ++ rest)) := by
  cases h with
  | text =>
    rw [pass] at hpass
    split at hpass
    · rename_i backslash
      cases hpass
      rw [backslash]
      exact .inl .escape
    · rename_i backslash
      split at hpass
      · cases hpass
      · rename_i control
        cases hpass
        exact .inr ⟨rfl, fun _ => .plain ⟨control, inside rfl, backslash⟩⟩
  | escape =>
    rw [pass] at hpass
    split at hpass
    · rename_i letter
      cases hpass
      rw [letter]
      exact .inl (.hex (Nat.zero_le 3))
    · split at hpass
      · rename_i found
        cases hpass
        obtain ⟨c, found⟩ := Option.isSome_iff_exists.1 found
        exact .inr ⟨rfl, fun _ => .short found⟩
      · cases hpass
  | @hex digits le =>
    have length : (digits ++ [b]).length = digits.length + 1 := List.length_append
    rw [pass] at hpass
    split at hpass
    · cases hpass
      exact .inl (.hex (by omega))
    · split at hpass
      · rename_i number
        cases hpass
        obtain ⟨n, number⟩ := Option.isSome_iff_exists.1 number
        have spell : Spell (digits ++ [b]) n := ⟨by omega, number⟩
        exact .inr ⟨rfl, fun _ => .unit spell⟩
      · cases hpass

theorem outlined_of_skip {begun : Passed} {before bs rest : List UInt8} (h : Left begun before)
    (hskip : skip begun bs = .ok rest) :
    ∃ content, bs = content ++ ascii '"' :: rest ∧ Outlined (before ++ content) := by
  induction bs generalizing begun before with
  | nil => cases hskip
  | cons b bs ih =>
    rw [skip] at hskip
    split at hskip
    · rename_i closing
      cases hskip
      obtain ⟨rfl, rfl⟩ := closing
      cases h
      exact ⟨[], rfl, .nil⟩
    · rename_i closing
      split at hskip
      · cases hskip
      · rename_i next hpass
        have inside : begun = .text → b ≠ ascii '"' := fun text quote => closing ⟨text, quote⟩
        rcases pass_cases h inside hpass with left | ⟨rfl, complete⟩
        · obtain ⟨content, rfl, outlined⟩ := ih left hskip
          refine ⟨b :: content, rfl, ?_⟩
          rw [List.append_assoc] at outlined
          exact outlined
        · obtain ⟨content, rfl, outlined⟩ := ih .text hskip
          refine ⟨b :: content, rfl, ?_⟩
          have := complete content outlined
          rw [List.append_assoc] at this
          exact this

/-! ### Writing a literal -/

theorem shortEscape_of_mem : ∀ p ∈ shortEscapes, shortEscape? p.1 = some p.2 :=
  forall_mem_of_all (by decide)

/-- The written form of a control character. -/
theorem spell_control : ∀ n < 32,
    Hex.number? [ascii '0', ascii '0', Hex.octet (n / 16), Hex.octet (n % 16)] = some n ∧
      encode n = [UInt8.ofNat n] := by decide

theorem stands_escape (b : UInt8) {rest out : List UInt8} (h : Stands rest out) :
    Stands (escape b ++ rest) (b :: out) := by
  rw [escape]
  split
  · rename_i letter c found
    obtain rfl : c = b := by simpa using List.find?_some found
    exact .short (shortEscape_of_mem _ (List.mem_of_find?_eq_some found)) h
  · rename_i none
    have other : ∀ p ∈ shortEscapes, p.2 ≠ b := by simpa using List.find?_eq_none.1 none
    split
    · rename_i control
      have lt : b.toNat < 32 := control
      obtain ⟨number, octet⟩ := spell_control b.toNat lt
      have high : ¬IsHigh b.toNat := fun high => by have := high.1; omega
      have low : ¬IsLow b.toNat := fun low => by have := low.1; omega
      have := Stands.unit ⟨rfl, number⟩ high low h
      rw [octet, UInt8.ofNat_toNat] at this
      exact this
    · rename_i control
      refine .plain ⟨control, ?_, ?_⟩ h
      · rintro rfl
        exact other (ascii '"', 34) (.head _) rfl
      · rintro rfl
        exact other (ascii '\\', 92) (.tail _ (.head _)) rfl

theorem stands_write (bs : List UInt8) : Stands (bs.flatMap escape) bs := by
  induction bs with
  | nil => exact .nil
  | cons b bs ih => exact stands_escape b ih

/-- What is written for a text is a literal of it. -/
theorem literal_write (s : String) : Literal s (write s) := ⟨_, rfl, stands_write _⟩

end StringLiteral

end HeatFeed.Json
