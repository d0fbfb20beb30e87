/-!
# Members

One value for each key, in ascending order of the keys. Keys are compared character by character,
which is also the order of their UTF-8 octets. A later value for a key replaces the earlier one.
-/

namespace HeatFeed

/-- Keys with their values. -/
abbrev Members (α : Type) := List (String × α)

namespace Members

/-- Puts a value under a key. -/
def insert {α : Type} (key : String) (value : α) : Members α → Members α
  | [] => [(key, value)]
  | (k, v) :: rest =>
    if key < k then (key, value) :: (k, v) :: rest
    else if key = k then (key, value) :: rest
    else (k, v) :: insert key value rest

/-- The value under a key. -/
def get? {α : Type} (key : String) : Members α → Option α
  | [] => none
  | (k, v) :: rest => if k = key then some v else get? key rest

/-- The keys in order. -/
def keys {α : Type} (ms : Members α) : List String := ms.map (·.1)

/-- The members of a list of pairs; later values win. -/
def ofList {α : Type} (pairs : List (String × α)) : Members α :=
  pairs.foldl (fun ms (k, v) => ms.insert k v) []

/-- Each key is before all later ones. -/
def Sorted {α : Type} (ms : Members α) : Prop := ms.Pairwise fun a b => a.1 < b.1

theorem get?_insert_self {α : Type} (key : String) (value : α) (ms : Members α) :
    (ms.insert key value).get? key = some value := by
  induction ms with
  | nil => simp [insert, get?]
  | cons m rest ih =>
    simp only [insert]
    split
    · simp [get?]
    split
    · simp [get?]
    · rename_i h
      simp [get?, Ne.symm h, ih]

theorem get?_insert_of_ne {α : Type} {key other : String} (h : other ≠ key) (value : α)
    (ms : Members α) : (ms.insert key value).get? other = ms.get? other := by
  induction ms with
  | nil => simp [insert, get?, Ne.symm h]
  | cons m rest ih =>
    simp only [insert]
    split
    · simp [get?, Ne.symm h]
    split
    · rename_i hk
      simp [get?, ← hk, Ne.symm h]
    · simp [get?, ih]

end Members

end HeatFeed
