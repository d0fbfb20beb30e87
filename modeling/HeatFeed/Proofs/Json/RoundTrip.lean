import HeatFeed.Proofs.Json.Integer
import HeatFeed.Proofs.Json.Values

/-!
# Values that are written and read back

A value that has been read and holds no floating-point number is spelt by what is written for it,
within as many brackets as before.
-/

namespace HeatFeed.Json

open StringLiteral (Literal literal_write)

namespace Value

mutual

/-- No number in it is a floating-point number. -/
def integral : Value → Bool
  | .number (.float _) => false
  | .array items => integralItems items
  | .object members => integralMembers members
  | _ => true

/-- No number in a list of values is a floating-point number. -/
def integralItems : List Value → Bool
  | [] => true
  | x :: xs => integral x && integralItems xs

/-- No number in a list of members is a floating-point number. -/
def integralMembers : List (String × Value) → Bool
  | [] => true
  | (_, x) :: xs => integral x && integralMembers xs

end

theorem integralItems_iff {xs : List Value} :
    integralItems xs = true ↔ ∀ x ∈ xs, x.integral = true := by
  induction xs with
  | nil => exact ⟨fun _ => nofun, fun _ => rfl⟩
  | cons x xs ih => rw [integralItems, Bool.and_eq_true, ih, List.forall_mem_cons]

theorem integralMembers_iff {ms : List (String × Value)} :
    integralMembers ms = true ↔ ∀ m ∈ ms, m.2.integral = true := by
  induction ms with
  | nil => exact ⟨fun _ => nofun, fun _ => rfl⟩
  | cons m ms ih => rw [integralMembers, Bool.and_eq_true, ih, List.forall_mem_cons]

theorem writeItems_eq (xs : List Value) : writeItems xs = xs.map write := by
  induction xs with
  | nil => rfl
  | cons x xs ih => rw [writeItems, ih, List.map_cons]

theorem writeMembers_eq (ms : List (String × Value)) :
    writeMembers ms = ms.map fun m => writeMember m.1 m.2.write := by
  induction ms with
  | nil => rfl
  | cons m ms ih => rw [writeMembers, ih, List.map_cons]

end Value

/-! ### Parts with commas between them -/

section

variable {α : Type} {R : α → List UInt8 → Prop} {f : α → List UInt8}

theorem separated_cons (x : List UInt8) (xs : List (List UInt8)) :
    separated (x :: xs) = x ++ xs.flatMap (ascii ',' :: ·) := by
  induction xs generalizing x with
  | nil => exact (List.append_nil x).symm
  | cons y xs ih => rw [separated, ih, List.flatMap_cons, List.cons_append]

theorem items_flatMap {xs : List α} (h : ∀ x ∈ xs, R x (f x)) :
    Items R false xs ((xs.map f).flatMap (ascii ',' :: ·)) := by
  induction xs with
  | nil => exact .none blank_nil
  | cons x xs ih =>
    exact .later blank_nil blank_nil (h x (.head xs)) (ih fun y hy => h y (.tail x hy))

/-- Parts with commas between them are a row. -/
theorem row_separated {xs : List α} (h : ∀ x ∈ xs, R x (f x)) :
    Row R xs (separated (xs.map f)) := by
  cases xs with
  | nil => exact .none blank_nil
  | cons x xs =>
    rw [List.map_cons, separated_cons]
    exact .first blank_nil (h x (.head xs)) (items_flatMap fun y hy => h y (.tail x hy))

end

/-! ### Written values -/

theorem listText_write {R : Value → List UInt8 → Prop} {xs : List Value}
    (h : ∀ x ∈ xs, R x x.write) : ListText R xs (writeList (Value.writeItems xs)) := by
  rw [Value.writeItems_eq]
  exact ⟨_, row_separated h, rfl⟩

theorem listText_strings (xs : List String) : ListText Literal xs (Value.strings xs).write := by
  rw [Value.strings, Value.write, Value.writeItems_eq, List.map_map]
  exact ⟨_, row_separated fun x _ => literal_write x, rfl⟩

theorem spells_write_strings (levels : Nat) (xs : List String) :
    Spells (levels + 1) (.strings xs) (Value.strings xs).write :=
  spells_strings.2 (listText_strings xs)

theorem memberText_write {β : Type} {R : β → List UInt8 → Prop} {key : String} {v : β}
    {text : List UInt8} (h : R v text) : MemberText R (key, v) (writeMember key text) :=
  ⟨_, [], [], text, literal_write key, blank_nil, blank_nil, h, rfl⟩

theorem objectText_write {R : Value → List UInt8 → Prop} {ms : List (String × Value)}
    (h : ∀ m ∈ ms, R m.2 m.2.write) : ObjectText R ms (writeObject (Value.writeMembers ms)) := by
  rw [Value.writeMembers_eq]
  exact ⟨_, row_separated fun m hm => memberText_write (h m hm), rfl⟩

theorem scalar_write {v : Value} {text : List UInt8} (h : Scalar v text)
    (integral : v.integral = true) : Scalar v v.write := by
  cases h with
  | null =>
    rw [Value.write]
    exact .null
  | bool b =>
    rw [Value.write]
    exact .bool b
  | string _ =>
    rw [Value.write]
    exact .string (literal_write _)
  | @number m n _ _ read number =>
    cases n with
    | float x =>
      rw [Value.integral] at integral
      cases integral
    | integer n =>
      obtain ⟨m', again, number'⟩ := Numeral.read_integerText (Numeral.isWord_of_read read number)
      rw [Value.write]
      exact .number (Numeral.written_integerText n) again number'

/-- What has been read is spelt by what is written for it. -/
theorem spells_write {levels : Nat} {v : Value} {text : List UInt8} (h : Spells levels v text)
    (integral : v.integral = true) : Spells levels v v.write := by
  induction levels using Nat.strongRecOn generalizing v text with | ind levels ih => ?_
  refine spells_iff.2 ?_
  rcases spells_iff.1 h with scalar | ⟨fewer, rfl, bracketed⟩
  · exact .inl (scalar_write scalar integral)
  · refine .inr ⟨fewer, rfl, ?_⟩
    have ih {v : Value} {text : List UInt8} : Spells fewer v text → v.integral = true →
        Spells fewer v v.write := ih fewer (Nat.lt_succ_self fewer)
    cases bracketed with
    | @array items _ inside =>
      obtain ⟨inner, row, -⟩ := inside
      rw [Value.integral, Value.integralItems_iff] at integral
      rw [Value.write]
      refine .array (listText_write fun x hx => ?_)
      obtain ⟨text, hx'⟩ := row.exists_text hx
      exact ih hx' (integral x hx)
    | @object ms _ inside =>
      obtain ⟨inner, row, -⟩ := inside
      rw [Value.ofMembers, Value.integral, Value.integralMembers_iff] at integral
      have written : ObjectText (Spells fewer) (Members.ofList ms) (Value.ofMembers ms).write := by
        rw [Value.ofMembers, Value.write]
        refine objectText_write fun m hm => ?_
        obtain ⟨text, _, _, _, value, _, _, _, hv, _⟩ :=
          row.exists_text (Members.mem_of_mem_ofList hm)
        exact ih hv (integral m hm)
      -- gathering the members of an object again makes the same object
      have again : Value.ofMembers (Members.ofList ms) = Value.ofMembers ms := by
        rw [Value.ofMembers, Members.ofList_of_sorted (Members.sorted_ofList ms), Value.ofMembers]
      have object := Bracketed.object written
      rwa [again] at object

end HeatFeed.Json
