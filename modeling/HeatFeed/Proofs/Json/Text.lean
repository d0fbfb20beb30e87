import HeatFeed.Json.Printer
import HeatFeed.Proofs.Json.Literal

/-!
# The compact form as a text

What is written for a value is UTF-8, so its text has these octets: escapes, marks and numbers are
ASCII, and the octets of all other characters stand for themselves.
-/

namespace HeatFeed

namespace Utf8

/-- The octets of a text. -/
def IsText (bs : List UInt8) : Prop := ∃ s, bs = bytes s

theorem IsText.append {bs cs : List UInt8} (hb : IsText bs) (hc : IsText cs) :
    IsText (bs ++ cs) := by
  obtain ⟨s, rfl⟩ := hb
  obtain ⟨t, rfl⟩ := hc
  exact ⟨s ++ t, (bytes_append s t).symm⟩

theorem isText_nil : IsText [] := ⟨"", rfl⟩

theorem isText_flatMap {α : Type} {f : α → List UInt8} {xs : List α} (h : ∀ x ∈ xs, IsText (f x)) :
    IsText (xs.flatMap f) := by
  induction xs with
  | nil => exact isText_nil
  | cons x xs ih => exact (h x (.head xs)).append (ih fun y hy => h y (.tail x hy))

theorem bytes_singleton (c : Char) : bytes (String.singleton c) = String.utf8EncodeChar c := by
  simp [bytes, String.toByteArray_singleton, List.utf8Encode]

theorem bytes_ofList (cs : List Char) :
    bytes (String.ofList cs) = cs.flatMap String.utf8EncodeChar := by
  simp [bytes, String.toByteArray_ofList, List.utf8Encode]

theorem encode_ascii : ∀ n < 128, String.utf8EncodeChar (Char.ofNat n) = [UInt8.ofNat n] := by
  decide

/-- ASCII octets only. -/
def Ascii (bs : List UInt8) : Prop := ∀ b ∈ bs, b.toNat < 128

instance (bs : List UInt8) : Decidable (Ascii bs) :=
  decidable_of_iff (bs.all fun b => b.toNat < 128) (by simp [Ascii])

theorem Ascii.append {bs cs : List UInt8} (hb : Ascii bs) (hc : Ascii cs) : Ascii (bs ++ cs) :=
  List.forall_mem_append.2 ⟨hb, hc⟩

/-- ASCII octets are a text. -/
theorem isText_of_ascii {bs : List UInt8} (h : Ascii bs) : IsText bs := by
  induction bs with
  | nil => exact isText_nil
  | cons b bs ih =>
    have first : IsText [b] := by
      refine ⟨String.singleton (Char.ofNat b.toNat), ?_⟩
      rw [bytes_singleton, encode_ascii _ (h b (.head bs)), UInt8.ofNat_toNat]
    exact first.append (ih fun c hc => h c (.tail b hc))

/-- The octets of a character are one ASCII octet, or none of them is ASCII. -/
theorem encode_cases (c : Char) :
    (∃ n < 128, String.utf8EncodeChar c = [UInt8.ofNat n]) ∨
      ∀ b ∈ String.utf8EncodeChar c, 128 ≤ b.toNat := by
  by_cases small : c.val.toNat ≤ 127
  · refine .inl ⟨c.val.toNat, by omega, ?_⟩
    rw [String.utf8EncodeChar, if_pos small]
  · right
    rw [String.utf8EncodeChar, if_neg small]
    have octet {n : Nat} (low : 128 ≤ n) (high : n < 256) : 128 ≤ (UInt8.ofNat n).toNat := by
      rw [UInt8.toNat_ofNat', Nat.mod_eq_of_lt high]
      exact low
    intro b hb
    split at hb
    · simp only [List.mem_cons, List.not_mem_nil, or_false] at hb
      rcases hb with rfl | rfl
      · exact octet (by omega) (by omega)
      · exact octet (by omega) (by omega)
    split at hb
    · simp only [List.mem_cons, List.not_mem_nil, or_false] at hb
      rcases hb with rfl | rfl | rfl
      · exact octet (by omega) (by omega)
      · exact octet (by omega) (by omega)
      · exact octet (by omega) (by omega)
    · simp only [List.mem_cons, List.not_mem_nil, or_false] at hb
      rcases hb with rfl | rfl | rfl | rfl
      · exact octet (by omega) (by omega)
      · exact octet (by omega) (by omega)
      · exact octet (by omega) (by omega)
      · exact octet (by omega) (by omega)

theorem bytes_lossy {bs : List UInt8} (h : IsText bs) : bytes (lossy bs) = bs := by
  obtain ⟨s, rfl⟩ := h
  rw [lossy_bytes]

end Utf8

namespace Json

open Utf8 (Ascii IsText isText_nil isText_flatMap isText_of_ascii)

/-! ### Strings -/

theorem escape_ascii : ∀ n < 128, Ascii (StringLiteral.escape (UInt8.ofNat n)) := by decide

theorem escape_other {b : UInt8} (h : 128 ≤ b.toNat) : StringLiteral.escape b = [b] := by
  have low : ∀ p ∈ StringLiteral.shortEscapes, p.2.toNat < 128 := forall_mem_of_all (by decide)
  rw [StringLiteral.escape]
  split
  · rename_i letter c found
    have lt : c.toNat < 128 := low _ (List.mem_of_find?_eq_some found)
    have same : c = b := by simpa using List.find?_some found
    rw [same] at lt
    omega
  · have control : ¬b < 0x20 := fun lt => by
      have : b.toNat < 32 := lt
      omega
    rw [if_neg control]

theorem flatMap_escape_other {bs : List UInt8} (h : ∀ b ∈ bs, 128 ≤ b.toNat) :
    bs.flatMap StringLiteral.escape = bs := by
  induction bs with
  | nil => rfl
  | cons b bs ih =>
    rw [List.flatMap_cons, escape_other (h b (.head bs)), ih fun c hc => h c (.tail b hc)]
    rfl

theorem isText_literal (s : String) : IsText (StringLiteral.write s) := by
  have quote : IsText [ascii '"'] := ⟨"\"", rfl⟩
  have inside : IsText ((Utf8.bytes s).flatMap StringLiteral.escape) := by
    rw [← String.ofList_toList (s := s), Utf8.bytes_ofList, List.flatMap_assoc]
    refine isText_flatMap fun c _ => ?_
    rcases Utf8.encode_cases c with ⟨n, lt, single⟩ | other
    · rw [single, List.flatMap_singleton]
      exact isText_of_ascii (escape_ascii n lt)
    · rw [flatMap_escape_other other]
      exact ⟨String.singleton c, (Utf8.bytes_singleton c).symm⟩
  exact (quote.append inside).append quote

/-! ### Numbers -/

theorem ascii_ofNat (n : Nat) : Ascii (Digits.ofNat n) := by
  have octet : ∀ d < 10, Ascii [Digits.octet d] := by decide
  fun_induction Digits.ofNat n with
  | case1 n lt => exact octet n lt
  | case2 n le ih => exact ih.append (octet _ (Nat.mod_lt n (by decide)))

theorem ascii_integerText (n : Int) : Ascii (integerText n) := by
  refine Ascii.append ?_ (ascii_ofNat n.natAbs)
  split
  · decide
  · exact nofun

theorem ascii_exponentText {digits : List UInt8} (h : Ascii digits) (exponent : Int) :
    Ascii (Binary64.exponentText digits exponent) := by
  have first : Ascii (digits.take 1) := fun b hb => h b (List.mem_of_mem_take hb)
  refine Ascii.append (Ascii.append (first.append ?_) ?_) (ascii_ofNat _)
  · split
    · exact nofun
    · exact List.forall_mem_cons.2 ⟨by decide, fun b hb => h b (List.mem_of_mem_drop hb)⟩
  · split
    · decide
    · decide

theorem ascii_positionalText {digits : List UInt8} (h : Ascii digits) (exponent : Int) :
    Ascii (Binary64.positionalText digits exponent) := by
  have zeros (n : Nat) : Ascii (List.replicate n 48) := fun b hb => by
    rw [List.eq_of_mem_replicate hb]
    decide
  rw [Binary64.positionalText]
  split
  · exact ((show Ascii [48, 46] by decide).append (zeros _)).append h
  · refine Ascii.append (Ascii.append (fun b hb => h b (List.mem_of_mem_take hb)) (zeros _)) ?_
    refine List.forall_mem_cons.2 ⟨by decide, ?_⟩
    split
    · exact show Ascii [48] by decide
    · exact fun b hb => h b (List.mem_of_mem_drop hb)

theorem ascii_text (x : Binary64) : Ascii x.text := by
  have digits : Ascii x.shortest.scientific.1 := fun b hb =>
    ascii_ofNat _ b (List.mem_reverse.1 ((List.dropWhile_sublist _).mem (List.mem_reverse.1 hb)))
  have sign : Ascii (if x.negative then [45] else []) := by
    split
    · decide
    · exact nofun
  rw [Binary64.text]
  split
  · exact sign.append (by decide)
  · refine sign.append ?_
    split
    · exact ascii_exponentText digits _
    · exact ascii_positionalText digits _

theorem isText_number : (n : Number) → IsText n.write
  | .integer n => isText_of_ascii (ascii_integerText n)
  | .float x => isText_of_ascii (ascii_text x)

/-! ### Values -/

theorem isText_separated {parts : List (List UInt8)} (h : ∀ part ∈ parts, IsText part) :
    IsText (separated parts) := by
  fun_induction separated parts with
  | case1 => exact isText_nil
  | case2 x => exact h x (.head _)
  | case3 x y rest ih =>
    have comma : IsText [ascii ','] := ⟨",", rfl⟩
    exact (h x (.head _)).append (comma.append (ih fun part hp => h part (.tail x hp)))

theorem isText_writeList {parts : List (List UInt8)} (h : ∀ part ∈ parts, IsText part) :
    IsText (writeList parts) := by
  have left : IsText [ascii '['] := ⟨"[", rfl⟩
  have right : IsText [ascii ']'] := ⟨"]", rfl⟩
  exact (left.append (isText_separated h)).append right

theorem isText_writeObject {parts : List (List UInt8)} (h : ∀ part ∈ parts, IsText part) :
    IsText (writeObject parts) := by
  have left : IsText [ascii '\x7b'] := ⟨"\x7b", rfl⟩
  have right : IsText [ascii '\x7d'] := ⟨"\x7d", rfl⟩
  exact (left.append (isText_separated h)).append right

theorem isText_writeMember (key : String) {value : List UInt8} (h : IsText value) :
    IsText (writeMember key value) := by
  have colon : IsText [ascii ':'] := ⟨":", rfl⟩
  exact (isText_literal key).append (colon.append h)

mutual

theorem isText_write : (v : Value) → IsText v.write
  | .null => ⟨"null", by rw [Value.write]⟩
  | .bool b => ⟨_, by rw [Value.write]⟩
  | .number n => by
    rw [Value.write]
    exact isText_number n
  | .string s => by
    rw [Value.write]
    exact isText_literal s
  | .array items => by
    rw [Value.write]
    exact isText_writeList (isText_writeItems items)
  | .object members => by
    rw [Value.write]
    exact isText_writeObject (isText_writeMembers members)

theorem isText_writeItems : (xs : List Value) → ∀ part ∈ Value.writeItems xs, IsText part
  | [] => nofun
  | x :: xs => by
    rw [Value.writeItems]
    exact List.forall_mem_cons.2 ⟨isText_write x, isText_writeItems xs⟩

theorem isText_writeMembers :
    (ms : List (String × Value)) → ∀ part ∈ Value.writeMembers ms, IsText part
  | [] => nofun
  | (k, x) :: ms => by
    rw [Value.writeMembers]
    exact List.forall_mem_cons.2
      ⟨isText_writeMember k (isText_write x), isText_writeMembers ms⟩

end

end Json

end HeatFeed
