import HeatFeed.Proofs.Text.Trim

/-!
# Slashes at the ends of texts

A text is what is left of it without the slashes at its end, and then these slashes. What is left
does not end with a slash, and nothing else is. The same holds at the start of a text.
-/

namespace HeatFeed.Text

/-- Some slashes. -/
def slashes (n : Nat) : String := String.ofList (List.replicate n '/')

/-- What is left of a text without the slashes at its end. -/
structure EndStripped (text left : String) : Prop where
  behind : ∃ n, text = left ++ slashes n
  last : left.toList.getLast? ≠ some '/'

/-- What is left of a text without the slashes at its start. -/
structure StartStripped (text left : String) : Prop where
  before : ∃ n, text = slashes n ++ left
  first : left.toList.head? ≠ some '/'

@[simp] theorem toList_slashes (n : Nat) : (slashes n).toList = List.replicate n '/' :=
  String.toList_ofList

theorem isSlash_of_mem_slashes {n : Nat} : ∀ c ∈ (slashes n).toList, (c == '/') = true := by
  intro c mem
  rw [toList_slashes] at mem
  simpa using List.eq_of_mem_replicate mem

theorem exists_slashes {cs : List Char} (h : ∀ c ∈ cs, (c == '/') = true) :
    ∃ n, cs = (slashes n).toList := by
  refine ⟨cs.length, ?_⟩
  rw [toList_slashes]
  exact List.eq_replicate_of_mem fun c mem => eq_of_beq (h c mem)

theorem not_slash_iff {found : Option Char} :
    found ≠ some '/' ↔ ∀ c ∈ found, (c == '/') = false := by
  cases found <;> simp

/-! ### At the end -/

theorem toList_trimEndSlashes (text : String) :
    (trimEndSlashes text).toList = dropEndWhile (· == '/') text.toList := String.toList_ofList

theorem trimEndSlashes_of_last {text : String} (h : text.toList.getLast? ≠ some '/') :
    trimEndSlashes text = text := by
  rw [← String.toList_inj, toList_trimEndSlashes, dropEndWhile_of_getLast (not_slash_iff.1 h)]

theorem trimEndSlashes_append (text : String) (n : Nat) :
    trimEndSlashes (text ++ slashes n) = trimEndSlashes text := by
  rw [← String.toList_inj, toList_trimEndSlashes, toList_trimEndSlashes, String.toList_append,
    dropEndWhile_append isSlash_of_mem_slashes]

theorem endStripped_trimEndSlashes (text : String) : EndStripped text (trimEndSlashes text) := by
  obtain ⟨after, onlySlashes, split⟩ := exists_dropped (p := (· == '/')) text.toList
  obtain ⟨n, rfl⟩ := exists_slashes onlySlashes
  refine ⟨⟨n, ?_⟩, ?_⟩
  · rw [← String.toList_inj, String.toList_append, toList_trimEndSlashes, ← split]
  · rw [toList_trimEndSlashes]
    exact not_slash_iff.2 (getLast?_dropEndWhile text.toList)

theorem endStripped_iff {text left : String} :
    EndStripped text left ↔ left = trimEndSlashes text := by
  constructor
  · rintro ⟨⟨n, rfl⟩, last⟩
    rw [trimEndSlashes_append, trimEndSlashes_of_last last]
  · rintro rfl
    exact endStripped_trimEndSlashes text

theorem endStripped_self_iff {text : String} :
    EndStripped text text ↔ text.toList.getLast? ≠ some '/' :=
  ⟨EndStripped.last, fun last => endStripped_iff.2 (trimEndSlashes_of_last last).symm⟩

/-! ### At the start -/

theorem toList_trimStartSlashes (text : String) :
    (trimStartSlashes text).toList = text.toList.dropWhile (· == '/') := String.toList_ofList

theorem trimStartSlashes_of_first {text : String} (h : text.toList.head? ≠ some '/') :
    trimStartSlashes text = text := by
  rw [← String.toList_inj, toList_trimStartSlashes, dropWhile_of_head (not_slash_iff.1 h)]

theorem trimStartSlashes_append (n : Nat) (text : String) :
    trimStartSlashes (slashes n ++ text) = trimStartSlashes text := by
  rw [← String.toList_inj, toList_trimStartSlashes, toList_trimStartSlashes, String.toList_append,
    List.dropWhile_append_of_pos isSlash_of_mem_slashes]

theorem startStripped_trimStartSlashes (text : String) :
    StartStripped text (trimStartSlashes text) := by
  have onlySlashes : ∀ c ∈ text.toList.takeWhile (· == '/'), (c == '/') = true :=
    fun _ => List.mem_takeWhile_imp
  obtain ⟨n, slashed⟩ := exists_slashes onlySlashes
  refine ⟨⟨n, ?_⟩, ?_⟩
  · rw [← String.toList_inj, String.toList_append, toList_trimStartSlashes, ← slashed,
      List.takeWhile_append_dropWhile]
  · rw [toList_trimStartSlashes]
    exact not_slash_iff.2 (head?_dropWhile text.toList)

end HeatFeed.Text
