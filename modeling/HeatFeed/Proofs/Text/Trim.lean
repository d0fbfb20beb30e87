import HeatFeed.Text.Blank
import Mathlib.Data.List.DropRight
import Mathlib.Data.List.TakeDrop

/-!
# Trimmed texts

A text consists of some blanks, of what is left of it once it is trimmed, which neither starts nor
ends with a blank, and of some blanks again. No other part of the text is left.
-/

namespace HeatFeed.Text

/-- What is left of a text without the blanks around it. -/
structure Trimmed (text left : String) : Prop where
  around : ∃ before after, (∀ c ∈ before, isBlank c = true) ∧ (∀ c ∈ after, isBlank c = true) ∧
    text.toList = before ++ (left.toList ++ after)
  first : ∀ c ∈ left.toList.head?, isBlank c = false
  last : ∀ c ∈ left.toList.getLast?, isBlank c = false

section

variable {α : Type} {p : α → Bool}

theorem dropWhile_of_head {xs : List α} (h : ∀ x ∈ xs.head?, p x = false) :
    xs.dropWhile p = xs := by
  cases xs with
  | nil => rfl
  | cons x xs => exact List.dropWhile_cons_of_neg (by simpa using h x rfl)

theorem head?_dropWhile (xs : List α) : ∀ x ∈ (xs.dropWhile p).head?, p x = false := by
  intro x mem
  have := List.head?_dropWhile_not p xs
  rw [Option.mem_def.1 mem] at this
  exact this

/-- A text is split where the first character stands that is not of the kind. -/
theorem span_append {front back : List α} (all : ∀ x ∈ front, p x = true)
    (stop : ∀ x ∈ back.head?, p x = false) : (front ++ back).span p = (front, back) := by
  have none : back.takeWhile p = [] := by
    rw [List.takeWhile_eq_nil_iff]
    intro inside
    simpa using stop _ (List.head?_eq_getElem? ▸ List.getElem?_eq_getElem inside)
  rw [List.span_eq_takeWhile_dropWhile, List.takeWhile_append_of_pos all,
    List.dropWhile_append_of_pos all, none, dropWhile_of_head stop, List.append_nil]

theorem dropEndWhile_of_getLast {xs : List α} (h : ∀ x ∈ xs.getLast?, p x = false) :
    dropEndWhile p xs = xs := by
  rw [← List.head?_reverse] at h
  rw [dropEndWhile, dropWhile_of_head h, List.reverse_reverse]

theorem dropEndWhile_append {xs ys : List α} (h : ∀ y ∈ ys, p y = true) :
    dropEndWhile p (xs ++ ys) = dropEndWhile p xs := by
  have back : ∀ y ∈ ys.reverse, p y = true := fun y mem => h y (List.mem_reverse.1 mem)
  rw [dropEndWhile, List.reverse_append, List.dropWhile_append_of_pos back, dropEndWhile]

theorem getLast?_dropEndWhile (xs : List α) : ∀ x ∈ (dropEndWhile p xs).getLast?, p x = false := by
  rw [dropEndWhile, List.getLast?_reverse]
  exact head?_dropWhile xs.reverse

/-- What is dropped at the end stands behind what is left. -/
theorem exists_dropped (xs : List α) :
    ∃ after, (∀ x ∈ after, p x = true) ∧ xs = dropEndWhile p xs ++ after :=
  ⟨xs.rtakeWhile p, fun _ => List.mem_rtakeWhile_imp, List.rdropWhile_append_rtakeWhile.symm⟩

/-- Nothing is dropped before the last element that stays. -/
theorem dropEndWhile_append_cons {x : α} (h : p x = false) (xs ys : List α) :
    dropEndWhile p (xs ++ x :: ys) = xs ++ x :: dropEndWhile p ys := by
  obtain ⟨after, dropped, split⟩ := exists_dropped (p := p) ys
  have last : ∀ y ∈ (xs ++ x :: dropEndWhile p ys).getLast?, p y = false := by
    intro y mem
    rw [List.getLast?_append_cons, List.getLast?_cons] at mem
    cases mem
    cases shown : (dropEndWhile p ys).getLast? with
    | none => exact h
    | some z => exact getLast?_dropEndWhile ys z shown
  calc dropEndWhile p (xs ++ x :: ys)
    _ = dropEndWhile p ((xs ++ x :: dropEndWhile p ys) ++ after) := by
      rw [List.append_assoc, List.cons_append, ← split]
    _ = xs ++ x :: dropEndWhile p ys := by
      rw [dropEndWhile_append dropped, dropEndWhile_of_getLast last]

end

theorem toList_trim (text : String) :
    (trim text).toList = dropEndWhile isBlank (text.toList.dropWhile isBlank) :=
  String.toList_ofList

theorem trimmed_trim (text : String) : Trimmed text (trim text) := by
  obtain ⟨after, blank, split⟩ := exists_dropped (p := isBlank) (text.toList.dropWhile isBlank)
  have before : ∀ c ∈ text.toList.takeWhile isBlank, isBlank c = true :=
    fun _ => List.mem_takeWhile_imp
  refine ⟨⟨_, after, before, blank, ?_⟩, ?_, ?_⟩
  · rw [toList_trim, ← split, List.takeWhile_append_dropWhile]
  · -- what is left starts as the text does behind its first blanks
    intro c mem
    rw [toList_trim] at mem
    refine head?_dropWhile (p := isBlank) text.toList c ?_
    rw [split, List.head?_append, Option.mem_def.1 mem]
    rfl
  · rw [toList_trim]
    exact getLast?_dropEndWhile _

theorem Trimmed.eq_trim {text left : String} (h : Trimmed text left) : left = trim text := by
  obtain ⟨⟨before, after, hb, ha, split⟩, first, last⟩ := h
  rw [← String.toList_inj, toList_trim, split, List.dropWhile_append_of_pos hb]
  cases shown : left.toList with
  | nil => rw [List.nil_append, List.dropWhile_eq_nil_iff.2 ha]; rfl
  | cons c cs =>
    rw [shown] at first last
    have start : ∀ x ∈ (c :: cs ++ after).head?, isBlank x = false := first
    rw [dropWhile_of_head start, dropEndWhile_append ha, dropEndWhile_of_getLast last]

theorem trimmed_iff {text left : String} : Trimmed text left ↔ left = trim text :=
  ⟨Trimmed.eq_trim, fun h => h ▸ trimmed_trim text⟩

/-- A text without blanks is left as it is. -/
theorem trimmed_self {text : String} (h : ∀ c ∈ text.toList, isBlank c = false) :
    Trimmed text text where
  around := ⟨[], [], nofun, nofun, (List.append_nil _).symm⟩
  first c mem := h c (List.mem_of_mem_head? mem)
  last c mem := h c (List.mem_of_mem_getLast? mem)

/-- Nothing is left of blank texts only. -/
theorem trim_eq_empty_iff {text : String} :
    trim text = "" ↔ ∀ c ∈ text.toList, isBlank c = true := by
  refine ⟨fun empty c mem => ?_, fun blank => ?_⟩
  · obtain ⟨⟨before, after, hb, ha, split⟩, -, -⟩ := trimmed_trim text
    rw [split, empty] at mem
    exact (List.mem_append.1 mem).elim (hb c) (ha c)
  · have trimmed : Trimmed text "" :=
      ⟨⟨text.toList, [], blank, nofun, (List.append_nil _).symm⟩, nofun, nofun⟩
    exact trimmed.eq_trim.symm

end HeatFeed.Text
