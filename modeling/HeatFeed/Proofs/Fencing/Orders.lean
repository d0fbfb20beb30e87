import HeatFeed.Proofs.Fencing
import Mathlib.Data.List.Nodup

/-!
# Orders of completion

The same cycles, each with a number of its own, may end in any order. Over two orders the number
applied last, the error and the end of loading agree, the snapshot only where the cycle with the
greatest number succeeded. In each order the snapshot is that of the newest success among the cycles
that ended before every cycle with a greater number.
-/

namespace HeatFeed.FetchState

/-- The result came in before every result with a greater number. -/
def InTime (results : List Numbered) (r : Numbered) : Prop :=
  ∃ earlier later, results = earlier ++ r :: later ∧ ∀ e ∈ earlier, ¬r.1 < e.1

/-- The success with the greatest number among those that came in in time. -/
def Newest (results : List Numbered) (seq : Nat) (snapshot : Snapshot) : Prop :=
  InTime results (seq, .ok snapshot) ∧ ∀ n other, InTime results (n, .ok other) → n ≤ seq

/-- Cycles have numbers of their own, counted from one. -/
structure Cycles (results : List Numbered) : Prop where
  distinct : (results.map Prod.fst).Nodup
  positive : ∀ r ∈ results, 0 < r.1

/-! ### Cycles that have ended -/

theorem Cycles.perm {xs ys : List Numbered} (h : Cycles xs) (perm : xs.Perm ys) : Cycles ys :=
  ⟨(perm.map _).nodup_iff.1 h.distinct, fun r hr => h.positive r (perm.mem_iff.2 hr)⟩

theorem Cycles.of_append {xs ys : List Numbered} (h : Cycles (xs ++ ys)) : Cycles xs where
  distinct := by
    have distinct := h.distinct
    rw [List.map_append] at distinct
    exact distinct.of_append_left
  positive r hr := h.positive r (List.mem_append_left ys hr)

theorem Cycles.eq_of_fst {xs : List Numbered} (h : Cycles xs) {a b : Numbered} (ha : a ∈ xs)
    (hb : b ∈ xs) (eq : a.1 = b.1) : a = b := List.inj_on_of_nodup_map h.distinct ha hb eq

/-- The results that come in in time are the applied ones. -/
theorem Cycles.inTime_iff {xs : List Numbered} (h : Cycles xs) (r : Numbered) :
    InTime xs r ↔ r ∈ initial.accepted xs := by
  rw [mem_accepted_iff]
  constructor
  · rintro ⟨earlier, later, rfl, le⟩
    refine ⟨earlier, later, rfl, (accepts_resolveAll_iff earlier r.1).2 ⟨?_, ?_⟩⟩
    · exact h.positive r (List.mem_append_right _ (List.mem_cons_self ..))
    · intro e he
      have distinct := h.distinct
      rw [List.map_append, List.nodup_append] at distinct
      have ne : e.1 ≠ r.1 :=
        distinct.2.2 e.1 (List.mem_map_of_mem he) r.1 (List.mem_map_of_mem (List.mem_cons_self ..))
      have := le e he
      omega
  · rintro ⟨earlier, later, rfl, accepts⟩
    refine ⟨earlier, later, rfl, fun e he => ?_⟩
    have := ((accepts_resolveAll_iff earlier r.1).1 accepts).2 e he
    omega

/-- The cycle with the greatest number is the last that is applied, whenever it comes in. -/
theorem Cycles.getLast_accepted {xs : List Numbered} (h : Cycles xs) {r : Numbered} (hr : r ∈ xs)
    (top : ∀ e ∈ xs, e.1 ≤ r.1) : (initial.accepted xs).getLast? = some r := by
  have seq : topSeq xs = r.1 := by
    have := le_topSeq hr
    have lt : ∀ e ∈ xs, e.1 < r.1 + 1 := fun e he => Nat.lt_succ_of_le (top e he)
    have := (topSeq_lt_iff (r.1 + 1) xs).2 ⟨Nat.succ_pos _, lt⟩
    omega
  have mem : r ∈ initial.accepted xs := by
    obtain ⟨earlier, later, rfl⟩ := List.append_of_mem hr
    refine (h.inTime_iff r).1 ⟨earlier, later, rfl, fun e he => ?_⟩
    have := top e (List.mem_append_left _ he)
    omega
  rw [← find_topSeq_accepted]
  rcases hf : (initial.accepted xs).find? (·.1 = topSeq xs) with _ | a
  · have := List.find?_eq_none.1 hf r mem
    simp [seq] at this
  · have fst : a.1 = r.1 := by have := List.find?_some hf; simpa [seq] using this
    rw [hf, h.eq_of_fst (mem_of_mem_accepted (List.mem_of_find?_eq_some hf)) hr fst]

/-- The error is that of the cycle with the greatest number. -/
theorem Cycles.error_eq {xs : List Numbered} (h : Cycles xs) {r : Numbered} (hr : r ∈ xs)
    (top : ∀ e ∈ xs, e.1 ≤ r.1) : (initial.resolveAll xs).error = errorOf r.2 := by
  rw [error_resolveAll, h.getLast_accepted hr top]; rfl

/-- If the cycle with the greatest number succeeds, its snapshot is shown. -/
theorem Cycles.data_eq {xs : List Numbered} (h : Cycles xs) {seq : Nat} {snapshot : Snapshot}
    (hr : (seq, .ok snapshot) ∈ xs) (top : ∀ e ∈ xs, e.1 ≤ seq) :
    (initial.resolveAll xs).data = some snapshot := by
  obtain ⟨rest, hrest⟩ := List.getLast?_eq_some_iff.1 (h.getLast_accepted hr top)
  rw [data_resolveAll, shown, hrest, snapshots_append]
  simp [snapshots, Except.toOption]

/-- Loading is over once there is a cycle. -/
theorem Cycles.loading_iff {xs : List Numbered} (h : Cycles xs) :
    (initial.resolveAll xs).loading = true ↔ xs = [] := by
  rw [loading_resolveAll_iff]
  constructor
  · intro none
    rcases xs with _ | ⟨x, xs⟩
    · rfl
    · have := (h.inTime_iff x).1 ⟨[], xs, rfl, fun _ he => absurd he List.not_mem_nil⟩
      rw [none] at this
      exact absurd this List.not_mem_nil
  · rintro rfl; rfl

/-! ### The snapshot -/

/-- The snapshot is that of the newest success that came in in time. -/
theorem Cycles.shown_iff {xs : List Numbered} (h : Cycles xs) (seq : Nat)
    (snapshot : Snapshot) :
    shown xs = some (seq, snapshot) ↔ Newest xs seq snapshot := by
  rw [shown, getLast_sorted_iff (snapshots_sorted (accepted_sorted xs)), Newest, h.inTime_iff,
    mem_snapshots]
  refine and_congr_right fun _ => ?_
  constructor
  · intro top n other hn
    exact top (n, other) (mem_snapshots.2 ((h.inTime_iff _).1 hn))
  · intro top d hd
    exact top d.1 d.2 ((h.inTime_iff _).2 (mem_snapshots.1 hd))

theorem Cycles.data_eq_some_iff {xs : List Numbered} (h : Cycles xs) (snapshot : Snapshot) :
    (initial.resolveAll xs).data = some snapshot ↔ ∃ seq, Newest xs seq snapshot := by
  rw [data_resolveAll, Option.map_eq_some_iff]
  constructor
  · rintro ⟨⟨seq, _⟩, last, rfl⟩
    exact ⟨seq, (h.shown_iff seq _).1 last⟩
  · rintro ⟨seq, newest⟩
    exact ⟨_, (h.shown_iff seq snapshot).2 newest, rfl⟩

theorem Cycles.data_eq_none_iff {xs : List Numbered} (h : Cycles xs) :
    (initial.resolveAll xs).data = none ↔
      ∀ seq snapshot, ¬InTime xs (seq, .ok snapshot) := by
  rw [data_resolveAll, Option.map_eq_none_iff, shown, List.getLast?_eq_none_iff,
    List.eq_nil_iff_forall_not_mem]
  constructor
  · intro none seq snapshot inTime
    exact none (seq, snapshot) (mem_snapshots.2 ((h.inTime_iff _).1 inTime))
  · intro none c hc
    exact none c.1 c.2 ((h.inTime_iff _).2 (mem_snapshots.1 hc))

/-! ### Two orders -/

/-- A result with a smaller number than the snapshot that is shown changes nothing. -/
theorem Newest.resolve_eq {results : List Numbered} {n : Nat} {snapshot : Snapshot}
    (h : Newest results n snapshot) {r : Numbered} (lt : r.1 < n) :
    initial.resolveAll (results ++ [r]) = initial.resolveAll results := by
  obtain ⟨earlier, later, mem, -⟩ := h.1
  rw [resolveAll_concat]
  refine resolve_of_refuses (Bool.eq_false_iff.2 fun accepts => ?_) r.2
  have := ((accepts_resolveAll_iff results r.1).1 accepts).2 (n, .ok snapshot) (by simp [mem])
  exact absurd this (Nat.lt_asymm lt)

/-- Two orders of the same cycles end with the same number, the same error and the same end of
loading, and with the same snapshot if the cycle with the greatest number succeeded. At every moment
of each order, its end included, the snapshot is that of the newest success that came in before
every cycle with a greater number, and a result with a smaller number does not replace it. -/
theorem resolveAll_perm {first second : List Numbered} (cycles : Cycles first)
    (perm : first.Perm second) :
    (initial.resolveAll first).loading = (initial.resolveAll second).loading ∧
    (initial.resolveAll first).error = (initial.resolveAll second).error ∧
    (initial.resolveAll first).applied = (initial.resolveAll second).applied ∧
    ((∃ snapshot, (topSeq first, .ok snapshot) ∈ first) →
      (initial.resolveAll first).data = (initial.resolveAll second).data) ∧
    ∀ order ∈ [first, second], ∀ moment rest, order = moment ++ rest →
      (∀ snapshot, (initial.resolveAll moment).data = some snapshot ↔
        ∃ seq, Newest moment seq snapshot) ∧
      ((initial.resolveAll moment).data = none ↔
        ∀ seq snapshot, ¬InTime moment (seq, .ok snapshot)) ∧
      ∀ next later seq snapshot, rest = next :: later →
        Newest moment seq snapshot → next.1 < seq →
        (initial.resolveAll (moment ++ [next])).data = some snapshot := by
  have cycles' := cycles.perm perm
  have top : ∀ e ∈ second, e.1 ≤ topSeq first := fun e he => le_topSeq (perm.mem_iff.2 he)
  refine ⟨?_, ?_, ?_, ?_, ?_⟩
  · rw [Bool.eq_iff_iff, cycles.loading_iff, cycles'.loading_iff]
    exact ⟨fun nil => (nil ▸ perm).nil_eq.symm, fun nil => (nil ▸ perm).eq_nil⟩
  · rcases first with _ | ⟨x, rest⟩
    · rw [← perm.nil_eq]
    · obtain ⟨r, hr, hseq⟩ := exists_mem_topSeq x rest
      rw [cycles.error_eq hr fun e he => hseq ▸ le_topSeq he,
        cycles'.error_eq (perm.mem_iff.1 hr) fun e he => hseq ▸ top e he]
  · rw [applied_resolveAll, applied_resolveAll]
    exact topSeq_congr fun r => perm.mem_iff
  · rintro ⟨snapshot, hr⟩
    rw [cycles.data_eq hr fun e he => le_topSeq he, cycles'.data_eq (perm.mem_iff.1 hr) top]
  · rintro order mem moment rest rfl
    have h : Cycles (moment ++ rest) := by
      rcases List.mem_pair.1 mem with eq | eq
      · exact eq ▸ cycles
      · exact eq ▸ cycles'
    refine ⟨h.of_append.data_eq_some_iff, h.of_append.data_eq_none_iff, ?_⟩
    intro next later seq snapshot _ newest lt
    rw [newest.resolve_eq lt]
    exact (h.of_append.data_eq_some_iff snapshot).2 ⟨seq, newest⟩

/-- Three cycles of which the last one to start succeeds, in two orders. -/
theorem resolveAll_perm_three :
    let failed : Numbered := (1, .error "late")
    let older : Numbered := (2, .ok ⟨[], none, [], "t2", []⟩)
    let newer : Numbered := (3, .ok ⟨[], none, [], "t3", []⟩)
    Cycles [failed, older, newer] ∧ [failed, older, newer].Perm [newer, failed, older] ∧
      (initial.resolveAll [failed, older, newer]).error =
        (initial.resolveAll [newer, failed, older]).error ∧
      (initial.resolveAll [failed, older, newer]).data =
        (initial.resolveAll [newer, failed, older]).data := by
  intro failed older newer
  have cycles : Cycles [failed, older, newer] := ⟨by decide, by decide⟩
  have perm : ([failed, older] ++ [newer]).Perm ([newer] ++ [failed, older]) :=
    List.perm_append_comm
  have agree := resolveAll_perm cycles perm
  exact ⟨cycles, perm, agree.2.1, agree.2.2.2.1 ⟨_, List.mem_of_getLast? rfl⟩⟩

/-- Where the cycle with the greatest number fails, the snapshot depends on the order. -/
example :
    let success : Numbered := (1, .ok ⟨[], none, [], "t1", []⟩)
    let failure : Numbered := (2, .error "boom")
    (initial.resolveAll [success, failure]).data.isSome = true ∧
      (initial.resolveAll [failure, success]).data.isSome = false := ⟨rfl, rfl⟩

end HeatFeed.FetchState
