import HeatFeed.FetchState
import Mathlib.Data.List.Induction
import Mathlib.Data.List.Nodup

/-!
# Fencing of overlapping results

Results come in one after another, each under the number of its cycle, in any order, with gaps and
repeats. A result is applied iff its number is positive and greater than every number before it, so
the applied results are the running maxima of the numbers. In the end the error is that of the last
of them and the snapshot that of the last success among them; the two may come from different
cycles.
-/

namespace HeatFeed.FetchState

/-- A result with the number of its cycle. -/
abbrev Numbered := Nat × Except String Snapshot

/-- The state once some results have come in one after another. -/
def resolveAll (s : FetchState) (results : List Numbered) : FetchState :=
  results.foldl (fun s r => s.resolve r.1 r.2) s

/-- The results, of some that come in one after another, that are applied. -/
def accepted (s : FetchState) : List Numbered → List Numbered
  | [] => []
  | r :: rest =>
    if s.accepts r.1 then r :: (s.resolve r.1 r.2).accepted rest
    else (s.resolve r.1 r.2).accepted rest

/-- The greatest number among some results, zero if there are none. -/
def topSeq (results : List Numbered) : Nat := (results.map Prod.fst).foldr max 0

/-- The error that a result leaves: none if it is a success. -/
def errorOf : Except String Snapshot → Option String
  | .ok _ => none
  | .error message => some (if message = "" then "Failed to fetch heatmap" else message)

/-- The snapshots that some results bring, each with the number of its cycle. -/
def snapshots (results : List Numbered) : List (Nat × Snapshot) :=
  results.filterMap fun r => r.2.toOption.map (r.1, ·)

/-- The snapshot that is shown after some results, with the number of its cycle: that of the last
success that was applied. -/
def shown (results : List Numbered) : Option (Nat × Snapshot) :=
  (snapshots (initial.accepted results)).getLast?

/-! ### One result -/

theorem resolve_of_accepts {s : FetchState} {seq : Nat} (h : s.accepts seq = true)
    (result : Except String Snapshot) : s.resolve seq result = s.apply seq result := if_pos h

theorem resolve_of_refuses {s : FetchState} {seq : Nat} (h : s.accepts seq = false)
    (result : Except String Snapshot) : s.resolve seq result = s := by
  rw [resolve, h]; rfl

theorem accepts_iff (s : FetchState) (seq : Nat) : s.accepts seq = true ↔ s.applied < seq :=
  decide_eq_true_iff

@[simp] theorem loading_apply (s : FetchState) (seq : Nat) :
    ∀ result, (s.apply seq result).loading = false
  | .ok _ => rfl
  | .error _ => rfl

@[simp] theorem error_apply (s : FetchState) (seq : Nat) :
    ∀ result, (s.apply seq result).error = errorOf result
  | .ok _ => rfl
  | .error _ => rfl

@[simp] theorem applied_apply (s : FetchState) (seq : Nat) :
    ∀ result, (s.apply seq result).applied = seq
  | .ok _ => rfl
  | .error _ => rfl

/-- The snapshot is replaced by that of a success and else kept. -/
@[simp] theorem data_apply (s : FetchState) (seq : Nat) :
    ∀ result, (s.apply seq result).data = result.toOption.or s.data
  | .ok _ => rfl
  | .error _ => rfl

@[simp] theorem applied_resolve (s : FetchState) (seq : Nat) (result : Except String Snapshot) :
    (s.resolve seq result).applied = max s.applied seq := by
  rcases h : s.accepts seq with _ | _
  · have : ¬s.applied < seq := fun lt => by rw [(accepts_iff s seq).2 lt] at h; cases h
    rw [resolve_of_refuses h]; omega
  · have := (accepts_iff s seq).1 h
    rw [resolve_of_accepts h, applied_apply]; omega

/-! ### Many results -/

theorem resolveAll_append (s : FetchState) (xs ys : List Numbered) :
    s.resolveAll (xs ++ ys) = (s.resolveAll xs).resolveAll ys := List.foldl_append

theorem resolveAll_concat (s : FetchState) (xs : List Numbered) (r : Numbered) :
    s.resolveAll (xs ++ [r]) = (s.resolveAll xs).resolve r.1 r.2 := resolveAll_append s xs [r]

theorem accepted_append : ∀ (s : FetchState) (xs ys : List Numbered),
    s.accepted (xs ++ ys) = s.accepted xs ++ (s.resolveAll xs).accepted ys
  | _, [], _ => rfl
  | s, r :: xs, ys => by
    have ih := accepted_append (s.resolve r.1 r.2) xs ys
    rw [List.cons_append, accepted, accepted, ih]
    split
    · rfl
    · rfl

theorem accepted_concat (s : FetchState) (xs : List Numbered) (r : Numbered) :
    s.accepted (xs ++ [r]) =
      s.accepted xs ++ if (s.resolveAll xs).accepts r.1 then [r] else [] := accepted_append s xs [r]

/-- A result is applied iff it is accepted by the state that the results before it have left. -/
theorem mem_accepted_iff (r : Numbered) : ∀ (s : FetchState) (xs : List Numbered),
    r ∈ s.accepted xs ↔
      ∃ earlier later, xs = earlier ++ r :: later ∧ (s.resolveAll earlier).accepts r.1 = true
  | s, [] => by simp [accepted]
  | s, x :: xs => by
    have ih := mem_accepted_iff r (s.resolve x.1 x.2) xs
    have split : r ∈ s.accepted (x :: xs) ↔
        r = x ∧ s.accepts x.1 = true ∨ r ∈ (s.resolve x.1 x.2).accepted xs := by
      rw [accepted]
      cases s.accepts x.1 <;> simp
    rw [split, ih]
    constructor
    · rintro (⟨rfl, h⟩ | ⟨earlier, later, rfl, h⟩)
      · exact ⟨[], xs, rfl, h⟩
      · exact ⟨x :: earlier, later, rfl, h⟩
    · rintro ⟨_ | ⟨e, earlier⟩, later, heq, h⟩
      · obtain ⟨rfl, rfl⟩ := List.cons.inj heq
        exact Or.inl ⟨rfl, h⟩
      · obtain ⟨rfl, rfl⟩ := List.cons.inj heq
        exact Or.inr ⟨earlier, later, rfl, h⟩

/-! ### Numbers -/

theorem topSeq_concat (xs : List Numbered) (r : Numbered) :
    topSeq (xs ++ [r]) = max (topSeq xs) r.1 := by
  induction xs with
  | nil => simp [topSeq]
  | cons x xs ih =>
    simp only [topSeq, List.cons_append, List.map_cons, List.foldr_cons] at ih ⊢
    rw [ih, Nat.max_assoc]

theorem topSeq_lt_iff (n : Nat) : ∀ xs : List Numbered,
    topSeq xs < n ↔ 0 < n ∧ ∀ r ∈ xs, r.1 < n
  | [] => by simp [topSeq]
  | x :: xs => by
    have ih := topSeq_lt_iff n xs
    have cons : topSeq (x :: xs) = max x.1 (topSeq xs) := rfl
    rw [cons, Nat.max_lt, ih, List.forall_mem_cons]
    tauto

theorem le_topSeq {xs : List Numbered} {r : Numbered} (h : r ∈ xs) : r.1 ≤ topSeq xs :=
  Nat.lt_succ_iff.1 (((topSeq_lt_iff _ xs).1 (Nat.lt_succ_self _)).2 r h)

theorem exists_mem_topSeq : ∀ (x : Numbered) (xs : List Numbered),
    ∃ r ∈ x :: xs, r.1 = topSeq (x :: xs)
  | x, [] => ⟨x, List.mem_singleton_self x, (Nat.max_zero x.1).symm⟩
  | x, y :: xs => by
    obtain ⟨r, hr, eq⟩ := exists_mem_topSeq y xs
    have cons : topSeq (x :: y :: xs) = max x.1 (topSeq (y :: xs)) := rfl
    rcases Nat.le_total x.1 (topSeq (y :: xs)) with le | le
    · exact ⟨r, List.mem_cons_of_mem _ hr, by rw [cons, Nat.max_eq_right le, eq]⟩
    · exact ⟨x, List.mem_cons_self .., by rw [cons, Nat.max_eq_left le]⟩

/-- The greatest number depends on nothing but which results there are. -/
theorem topSeq_congr {xs ys : List Numbered} (h : ∀ r, r ∈ xs ↔ r ∈ ys) :
    topSeq xs = topSeq ys := by
  have iff : ∀ n, topSeq xs < n ↔ topSeq ys < n := by
    intro n
    rw [topSeq_lt_iff, topSeq_lt_iff]
    simp only [h]
  have := (iff (topSeq ys + 1)).2 (by omega)
  have := (iff (topSeq xs + 1)).1 (by omega)
  omega

/-- The number applied last is the greatest that has come in. -/
theorem applied_resolveAll (xs : List Numbered) :
    (initial.resolveAll xs).applied = topSeq xs := by
  induction xs using List.reverseRecOn with
  | nil => rfl
  | append_singleton xs r ih => rw [resolveAll_concat, applied_resolve, ih, topSeq_concat]

/-- A result is applied iff its number is positive and greater than every number before it. -/
theorem accepts_resolveAll_iff (xs : List Numbered) (seq : Nat) :
    (initial.resolveAll xs).accepts seq = true ↔ 0 < seq ∧ ∀ r ∈ xs, r.1 < seq := by
  rw [accepts_iff, applied_resolveAll, topSeq_lt_iff]

/-! ### What is applied -/

/-- One more result is applied, as its number is greater than all before, or changes nothing. -/
theorem concat_cases (xs : List Numbered) (r : Numbered) :
    (initial.resolveAll (xs ++ [r]) = (initial.resolveAll xs).apply r.1 r.2 ∧
      initial.accepted (xs ++ [r]) = initial.accepted xs ++ [r] ∧ topSeq xs < r.1) ∨
    (initial.resolveAll (xs ++ [r]) = initial.resolveAll xs ∧
      initial.accepted (xs ++ [r]) = initial.accepted xs ∧ r.1 ≤ topSeq xs) := by
  rw [resolveAll_concat, accepted_concat]
  rcases h : (initial.resolveAll xs).accepts r.1 with _ | _
  · refine Or.inr ⟨resolve_of_refuses h r.2, by simp, ?_⟩
    rw [← applied_resolveAll]
    by_contra lt
    rw [(accepts_iff _ _).2 (Nat.lt_of_not_le lt)] at h
    cases h
  · refine Or.inl ⟨resolve_of_accepts h r.2, by simp, ?_⟩
    rw [← applied_resolveAll]
    exact (accepts_iff _ _).1 h

theorem mem_of_mem_accepted {xs : List Numbered} {r : Numbered} (h : r ∈ initial.accepted xs) :
    r ∈ xs := by
  obtain ⟨earlier, later, rfl, -⟩ := (mem_accepted_iff r initial xs).1 h
  exact List.mem_append_right _ (List.mem_cons_self ..)

/-- The numbers of the applied results increase. -/
theorem accepted_sorted (xs : List Numbered) :
    (initial.accepted xs).Pairwise fun a b => a.1 < b.1 := by
  induction xs using List.reverseRecOn with
  | nil => exact List.Pairwise.nil
  | append_singleton xs r ih =>
    rcases concat_cases xs r with ⟨-, h, lt⟩ | ⟨-, h, -⟩
    · rw [h, List.pairwise_append]
      refine ⟨ih, List.pairwise_singleton .., ?_⟩
      intro a ha b hb
      rw [List.mem_singleton.1 hb]
      exact Nat.lt_of_le_of_lt (le_topSeq (mem_of_mem_accepted ha)) lt
    · rw [h]; exact ih

/-- The applied result with the greatest number of all is the last applied. -/
theorem find_topSeq_accepted (xs : List Numbered) :
    (initial.accepted xs).find? (·.1 = topSeq xs) = (initial.accepted xs).getLast? := by
  induction xs using List.reverseRecOn with
  | nil => rfl
  | append_singleton xs r ih =>
    rcases concat_cases xs r with ⟨-, h, lt⟩ | ⟨-, h, le⟩
    · have none : (initial.accepted xs).find? (·.1 = r.1) = none := by
        refine List.find?_eq_none.2 fun a ha => ?_
        have := le_topSeq (mem_of_mem_accepted ha)
        simp only [decide_eq_true_eq]
        omega
      rw [h, topSeq_concat, Nat.max_eq_right (Nat.le_of_lt lt), List.find?_append, none]
      simp
    · rw [h, topSeq_concat, Nat.max_eq_left le, ih]

/-! ### Snapshots -/

theorem snapshots_append (xs ys : List Numbered) :
    snapshots (xs ++ ys) = snapshots xs ++ snapshots ys := List.filterMap_append

@[simp] theorem mem_snapshots {xs : List Numbered} {seq : Nat} {snapshot : Snapshot} :
    (seq, snapshot) ∈ snapshots xs ↔ (seq, .ok snapshot) ∈ xs := by
  rw [snapshots, List.mem_filterMap]
  constructor
  · rintro ⟨⟨n, message | other⟩, hr, heq⟩
    · cases heq
    · cases heq; exact hr
  · intro h; exact ⟨_, h, rfl⟩

theorem snapshots_sorted {xs : List Numbered} (h : xs.Pairwise fun a b => a.1 < b.1) :
    (snapshots xs).Pairwise fun a b => a.1 < b.1 := by
  rw [snapshots, List.pairwise_filterMap]
  refine h.imp ?_
  rintro ⟨m, _ | a⟩ ⟨n, _ | b⟩ lt _ ha _ hb
  · cases ha
  · cases ha
  · cases hb
  · cases ha; cases hb; exact lt

/-- The last member of an increasing list is the greatest. -/
theorem getLast_sorted_iff {l : List (Nat × Snapshot)} (h : l.Pairwise fun a b => a.1 < b.1)
    (c : Nat × Snapshot) : l.getLast? = some c ↔ c ∈ l ∧ ∀ d ∈ l, d.1 ≤ c.1 := by
  rcases List.eq_nil_or_concat l with rfl | ⟨init, last, rfl⟩
  · simp
  · rw [List.concat_eq_append] at h ⊢
    have lt : ∀ d ∈ init, d.1 < last.1 := fun d hd =>
      (List.pairwise_append.1 h).2.2 d hd last (List.mem_singleton_self last)
    rw [List.getLast?_concat, Option.some.injEq]
    constructor
    · rintro rfl
      refine ⟨by simp, fun d hd => ?_⟩
      rcases List.mem_append.1 hd with hd | hd
      · exact Nat.le_of_lt (lt d hd)
      · obtain rfl := List.mem_singleton.1 hd
        exact Nat.le_refl _
    · rintro ⟨hc, top⟩
      rcases List.mem_append.1 hc with hc | hc
      · have := lt c hc
        have := top last (by simp)
        omega
      · exact (List.mem_singleton.1 hc).symm

/-! ### The final state -/

theorem loading_resolveAll_iff (xs : List Numbered) :
    (initial.resolveAll xs).loading = true ↔ initial.accepted xs = [] := by
  induction xs using List.reverseRecOn with
  | nil => exact ⟨fun _ => rfl, fun _ => rfl⟩
  | append_singleton xs r ih =>
    rcases concat_cases xs r with ⟨hs, h, -⟩ | ⟨hs, h, -⟩
    · rw [hs, h]; simp
    · rw [hs, h]; exact ih

theorem error_resolveAll (xs : List Numbered) :
    (initial.resolveAll xs).error = (initial.accepted xs).getLast?.bind (errorOf ·.2) := by
  induction xs using List.reverseRecOn with
  | nil => rfl
  | append_singleton xs r ih =>
    rcases concat_cases xs r with ⟨hs, h, -⟩ | ⟨hs, h, -⟩
    · rw [hs, h, error_apply, List.getLast?_concat]; rfl
    · rw [hs, h]; exact ih

theorem data_resolveAll (xs : List Numbered) :
    (initial.resolveAll xs).data = (shown xs).map Prod.snd := by
  induction xs using List.reverseRecOn with
  | nil => rfl
  | append_singleton xs r ih =>
    rcases concat_cases xs r with ⟨hs, h, -⟩ | ⟨hs, h, -⟩
    · rw [hs, shown, h, data_apply, snapshots_append]
      obtain ⟨n, message | snapshot⟩ := r
      · simpa [shown, snapshots, Except.toOption] using ih
      · simp [snapshots, Except.toOption]
    · rw [hs, shown, h]; exact ih

/-- The number of the snapshot that is shown never decreases. -/
theorem shown_le {xs ys : List Numbered} {c d : Nat × Snapshot} (hc : shown xs = some c)
    (hd : shown (xs ++ ys) = some d) : c.1 ≤ d.1 := by
  have mem : c ∈ snapshots (initial.accepted (xs ++ ys)) := by
    rw [accepted_append, snapshots_append]
    exact List.mem_append_left _ (List.mem_of_getLast? hc)
  have sorted := snapshots_sorted (accepted_sorted (xs ++ ys))
  exact ((getLast_sorted_iff sorted d).1 hd).2 c mem

/-- Whatever the order, gaps and repeats of the numbers: a result is applied iff its number is
positive and greater than every number before it, and else changes nothing. In the end the number is
the greatest of all, loading is over once a result has been applied, the error is that of the
applied result with the greatest number, and the snapshot that of the last applied success. -/
theorem resolveAll_outcome (results : List Numbered) :
    (∀ earlier seq result later, results = earlier ++ (seq, result) :: later →
      ((initial.resolveAll earlier).accepts seq = true ↔ 0 < seq ∧ ∀ e ∈ earlier, e.1 < seq) ∧
      ((initial.resolveAll earlier).accepts seq = false →
        (initial.resolveAll earlier).resolve seq result = initial.resolveAll earlier)) ∧
    (initial.resolveAll results).applied = topSeq results ∧
    ((initial.resolveAll results).loading = true ↔ initial.accepted results = []) ∧
    (initial.resolveAll results).error =
      ((initial.accepted results).find? (·.1 = topSeq results)).bind (errorOf ·.2) ∧
    (initial.resolveAll results).data =
      (snapshots (initial.accepted results)).getLast?.map Prod.snd := by
  refine ⟨?_, applied_resolveAll results, loading_resolveAll_iff results, ?_,
    data_resolveAll results⟩
  · intro earlier seq result later _
    exact ⟨accepts_resolveAll_iff earlier seq, fun h => resolve_of_refuses h result⟩
  · rw [find_topSeq_accepted]
    exact error_resolveAll results

/-- A late failure is refused by a state that shows a later success. -/
theorem resolveAll_outcome_late :
    let later : Numbered := (2, .ok ⟨[], none, [], "t2", []⟩)
    let late : Numbered := (1, .error "late")
    [later, late] = [later] ++ late :: [] ∧
      (initial.resolveAll [later]).accepts 1 = false ∧
      (initial.resolveAll [later]).resolve 1 (.error "late") = initial.resolveAll [later] :=
  ⟨rfl, rfl, ((resolveAll_outcome _).1 _ 1 _ [] rfl).2 rfl⟩

end HeatFeed.FetchState
