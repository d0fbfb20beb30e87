import HeatFeed.Members

/-!
# Members as a map

Members are in order and hold, for each key, the value that was put last. Two of them that hold the
same values are the same, so building members from members changes nothing.
-/

namespace HeatFeed.Members

variable {α : Type}

/-- The value that a list of pairs has last under a key. -/
def last? (key : String) (pairs : List (String × α)) : Option α := get? key pairs.reverse

/-- Puts one value after another. -/
def insertAll (ms : Members α) : List (String × α) → Members α
  | [] => ms
  | (k, v) :: pairs => insertAll (ms.insert k v) pairs

theorem foldl_insert (ms : Members α) (pairs : List (String × α)) :
    pairs.foldl (fun ms (k, v) => ms.insert k v) ms = ms.insertAll pairs := by
  induction pairs generalizing ms with
  | nil => rfl
  | cons m pairs ih => exact ih (ms.insert m.1 m.2)

theorem ofList_eq (pairs : List (String × α)) : ofList pairs = insertAll [] pairs :=
  foldl_insert [] pairs

/-! ### Lookup -/

theorem get?_cons (key k : String) (v : α) (ms : Members α) :
    get? key ((k, v) :: ms) = if k = key then some v else get? key ms := rfl

theorem get?_append (key : String) (ms ns : Members α) :
    get? key (ms ++ ns) = (get? key ms).or (get? key ns) := by
  induction ms with
  | nil => rfl
  | cons m ms ih =>
    rw [List.cons_append, get?, get?]
    split
    · rfl
    · exact ih

theorem get?_eq_none {key : String} {ms : Members α} (h : key ∉ keys ms) : get? key ms = none := by
  induction ms with
  | nil => rfl
  | cons m ms ih =>
    obtain ⟨first, later⟩ := not_or.1 (mt List.mem_cons.2 h)
    rw [get?, if_neg (Ne.symm first), ih later]

theorem get?_eq_none_iff {key : String} {ms : Members α} : get? key ms = none ↔ key ∉ keys ms := by
  refine ⟨fun none mem => ?_, get?_eq_none⟩
  induction ms with
  | nil => cases mem
  | cons m ms ih =>
    obtain ⟨k, v⟩ := m
    rw [get?_cons] at none
    split at none
    · cases none
    · rename_i other
      rcases List.mem_cons.1 mem with same | mem
      · exact other same.symm
      · exact ih none mem

theorem last?_append (key : String) (ms ns : List (String × α)) :
    last? key (ms ++ ns) = (last? key ns).or (last? key ms) := by
  rw [last?, List.reverse_append, get?_append, last?, last?]

theorem last?_singleton (key k : String) (v : α) :
    last? key [(k, v)] = if k = key then some v else none := rfl

theorem last?_concat_self (key : String) (v : α) (ms : List (String × α)) :
    last? key (ms ++ [(key, v)]) = some v := by
  rw [last?_append, last?_singleton, if_pos rfl]
  rfl

theorem last?_concat_of_ne {key other : String} (h : key ≠ other) (v : α)
    (ms : List (String × α)) : last? other (ms ++ [(key, v)]) = last? other ms := by
  rw [last?_append, last?_singleton, if_neg h]
  rfl

theorem last?_eq_none_iff {key : String} {ms : List (String × α)} :
    last? key ms = none ↔ key ∉ keys ms := by
  rw [last?, get?_eq_none_iff, keys, List.map_reverse, List.mem_reverse, keys]

theorem last?_eq_none {key : String} {ms : List (String × α)} (h : key ∉ keys ms) :
    last? key ms = none := last?_eq_none_iff.2 h

theorem get?_filter {key : String} {p : String × α → Bool} (h : ∀ v, p (key, v) = true)
    (ms : Members α) : get? key (ms.filter p) = get? key ms := by
  induction ms with
  | nil => rfl
  | cons m ms ih =>
    obtain ⟨k, v⟩ := m
    rw [get?_cons]
    by_cases same : k = key
    · rw [List.filter_cons_of_pos (same ▸ h v), get?_cons, if_pos same, if_pos same]
    · rw [if_neg same, ← ih, List.filter_cons]
      split
      · rw [get?_cons, if_neg same]
      · rfl

theorem last?_filter {key : String} {p : String × α → Bool} (h : ∀ v, p (key, v) = true)
    (ms : List (String × α)) : last? key (ms.filter p) = last? key ms := by
  rw [last?, ← List.filter_reverse, get?_filter h, last?]

theorem get?_map {β : Type} (f : α → β) (key : String) (ms : Members α) :
    get? key (ms.map fun (k, v) => (k, f v)) = (get? key ms).map f := by
  induction ms with
  | nil => rfl
  | cons m ms ih =>
    obtain ⟨k, v⟩ := m
    rw [List.map_cons, get?_cons, get?_cons, ih]
    split
    · rfl
    · rfl

theorem mem_of_get? {key : String} {v : α} {ms : Members α} (h : get? key ms = some v) :
    (key, v) ∈ ms := by
  induction ms with
  | nil => cases h
  | cons m ms ih =>
    obtain ⟨k, w⟩ := m
    rw [get?] at h
    split at h
    · rename_i same
      cases h
      rw [same]
      exact .head ms
    · exact .tail _ (ih h)

theorem mem_of_last? {key : String} {v : α} {ms : List (String × α)}
    (h : last? key ms = some v) : (key, v) ∈ ms := List.mem_reverse.1 (mem_of_get? h)

/-! ### Order -/

theorem mem_insert {m : String × α} {key : String} {v : α} {ms : Members α}
    (h : m ∈ ms.insert key v) : m = (key, v) ∨ m ∈ ms := by
  induction ms with
  | nil => exact .inl (List.mem_singleton.1 h)
  | cons n ms ih =>
    rw [insert] at h
    split at h
    · exact List.mem_cons.1 h
    split at h
    · exact (List.mem_cons.1 h).imp_right (.tail n)
    rcases List.mem_cons.1 h with rfl | h
    · exact .inr (.head ms)
    · exact (ih h).imp_right (.tail n)

theorem Sorted.insert {ms : Members α} (h : Sorted ms) (key : String) (v : α) :
    Sorted (ms.insert key v) := by
  induction ms with
  | nil => exact List.pairwise_singleton _ _
  | cons n ms ih =>
    obtain ⟨first, later⟩ := List.pairwise_cons.1 h
    rw [Members.insert]
    split
    · rename_i before
      refine List.pairwise_cons.2 ⟨fun m hm => ?_, h⟩
      rcases List.mem_cons.1 hm with rfl | hm
      · exact before
      · exact String.lt_trans before (first m hm)
    split
    · rename_i same
      exact List.pairwise_cons.2 ⟨fun m hm => same ▸ first m hm, later⟩
    · rename_i notBefore other
      refine List.pairwise_cons.2 ⟨fun m hm => ?_, ih later⟩
      rcases mem_insert hm with rfl | hm
      · exact Std.lt_of_le_of_ne (String.not_lt.1 notBefore) (Ne.symm other)
      · exact first m hm

theorem Sorted.map {β : Type} {ms : Members α} (h : Sorted ms) (f : α → β) :
    Sorted (ms.map fun (k, v) => (k, f v)) := List.pairwise_map.2 h

theorem Sorted.nodup_keys {ms : Members α} (h : Sorted ms) : (keys ms).Nodup := by
  refine List.pairwise_map.2 (h.imp ?_)
  intro a b before same
  exact String.lt_irrefl b.1 (by rwa [same] at before)

/-- A key behind all others is put at the end. -/
theorem insert_of_forall_lt {ms : Members α} {key : String} (h : ∀ m ∈ ms, m.1 < key) (v : α) :
    ms.insert key v = ms ++ [(key, v)] := by
  induction ms with
  | nil => rfl
  | cons n ms ih =>
    have first := h n (.head ms)
    have notBefore : ¬key < n.1 := fun before =>
      String.lt_irrefl key (String.lt_trans before first)
    have other : key ≠ n.1 := fun same => String.lt_irrefl key (by rwa [← same] at first)
    rw [insert, if_neg notBefore, if_neg other, ih fun m hm => h m (.tail n hm)]
    rfl

/-- Two members that hold the same values are the same. -/
theorem Sorted.ext {ms ns : Members α} (hm : Sorted ms) (hn : Sorted ns)
    (h : ∀ key, get? key ms = get? key ns) : ms = ns := by
  have absent {key : String} {ms : Members α} (after : ∀ m ∈ ms, key < m.1) :
      get? key ms = none := by
    refine get?_eq_none fun mem => ?_
    obtain ⟨m, hm, same⟩ := List.mem_map.1 mem
    exact String.lt_irrefl key (same ▸ after m hm)
  induction ms generalizing ns with
  | nil =>
    cases ns with
    | nil => rfl
    | cons n ns =>
      have := h n.1
      rw [get?, get?, if_pos rfl] at this
      cases this
  | cons m ms ih =>
    obtain ⟨k, v⟩ := m
    obtain ⟨firstM, laterM⟩ := List.pairwise_cons.1 hm
    cases ns with
    | nil =>
      have := h k
      rw [get?, get?, if_pos rfl] at this
      cases this
    | cons n ns =>
      obtain ⟨l, w⟩ := n
      obtain ⟨firstN, laterN⟩ := List.pairwise_cons.1 hn
      have notBefore {a b : String} {x y : α} {as bs : Members α} (before : a < b)
          (first : ∀ m ∈ bs, b < m.1) : get? a ((a, x) :: as) ≠ get? a ((b, y) :: bs) := by
        have other : b ≠ a := fun same => String.lt_irrefl a (by rwa [same] at before)
        rw [get?, if_pos rfl, get?, if_neg other,
          @absent a bs fun m hm => String.lt_trans before (first m hm)]
        exact Option.some_ne_none x
      have same : k = l := String.le_antisymm
        (String.not_lt.1 fun before => notBefore before firstM (h l).symm)
        (String.not_lt.1 fun before => notBefore before firstN (h k))
      subst same
      have value := h k
      rw [get?, get?, if_pos rfl, if_pos rfl] at value
      cases value
      rw [ih laterM laterN fun key => ?_]
      by_cases hk : k = key
      · rw [← hk, absent firstM, absent firstN]
      · have := h key
        rw [get?, get?, if_neg hk, if_neg hk] at this
        exact this

/-! ### Members of a list of pairs -/

theorem mem_insertAll {m : String × α} {pairs : List (String × α)} {ms : Members α}
    (h : m ∈ ms.insertAll pairs) : m ∈ pairs ∨ m ∈ ms := by
  induction pairs generalizing ms with
  | nil => exact .inr h
  | cons n pairs ih =>
    rcases ih h with hm | hm
    · exact .inl (.tail n hm)
    · rcases mem_insert hm with rfl | hm
      · exact .inl (.head pairs)
      · exact .inr hm

theorem mem_of_mem_ofList {m : String × α} {pairs : List (String × α)} (h : m ∈ ofList pairs) :
    m ∈ pairs := (mem_insertAll (ofList_eq pairs ▸ h)).resolve_right List.not_mem_nil

theorem Sorted.insertAll {ms : Members α} (h : Sorted ms) (pairs : List (String × α)) :
    Sorted (ms.insertAll pairs) := by
  induction pairs generalizing ms with
  | nil => exact h
  | cons m pairs ih => exact ih (h.insert m.1 m.2)

theorem sorted_ofList (pairs : List (String × α)) : Sorted (ofList pairs) := by
  rw [ofList_eq]
  exact Sorted.insertAll List.Pairwise.nil pairs

theorem ofList_concat (pairs : List (String × α)) (key : String) (v : α) :
    ofList (pairs ++ [(key, v)]) = (ofList pairs).insert key v := List.foldl_append

theorem get?_insertAll (key : String) (ms : Members α) (pairs : List (String × α)) :
    get? key (ms.insertAll pairs) = (last? key pairs).or (get? key ms) := by
  induction pairs generalizing ms with
  | nil => rfl
  | cons m pairs ih =>
    obtain ⟨k, v⟩ := m
    rw [insertAll, ih, ← List.singleton_append, last?_append, last?_singleton, Option.or_assoc]
    congr 1
    by_cases same : k = key
    · rw [if_pos same, ← same, get?_insert_self]
      rfl
    · rw [if_neg same, get?_insert_of_ne (Ne.symm same)]
      rfl

/-- Members hold what was put last. -/
theorem get?_ofList (key : String) (pairs : List (String × α)) :
    get? key (ofList pairs) = last? key pairs := by
  rw [ofList_eq, get?_insertAll, get?, Option.or_none]

theorem ofList_eq_iff {ms ns : List (String × α)} :
    ofList ms = ofList ns ↔ ∀ key, last? key ms = last? key ns := by
  refine ⟨fun h key => ?_, fun h => (sorted_ofList ms).ext (sorted_ofList ns) fun key => ?_⟩
  · rw [← get?_ofList, ← get?_ofList, h]
  · rw [get?_ofList, get?_ofList, h]

theorem insertAll_of_sorted {ms pairs : Members α} (h : Sorted (ms ++ pairs)) :
    ms.insertAll pairs = ms ++ pairs := by
  induction pairs generalizing ms with
  | nil => exact (List.append_nil ms).symm
  | cons m pairs ih =>
    have behind : ∀ n ∈ ms, n.1 < m.1 := fun n hn =>
      (List.pairwise_append.1 h).2.2 n hn m (.head pairs)
    have first : ms.insert m.1 m.2 = ms ++ [m] := insert_of_forall_lt behind m.2
    rw [insertAll, first, ih (by rwa [List.append_assoc]), List.append_assoc]
    rfl

/-- Members of members are the same. -/
theorem ofList_of_sorted {ms : Members α} (h : Sorted ms) : ofList ms = ms := by
  rw [ofList_eq]
  have all : Sorted ([] ++ ms) := h
  exact insertAll_of_sorted all

theorem Sorted.last?_eq {ms : Members α} (h : Sorted ms) (key : String) :
    last? key ms = get? key ms := by
  rw [← get?_ofList, ofList_of_sorted h]

end HeatFeed.Members
