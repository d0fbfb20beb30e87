import HeatFeed.Poller.Clock

/-!
# The passage of time

Time passes in jumps from one due event to the next. What every jump keeps, and every stretch in
which nothing is due, is kept by a wait of any length and by a wait for a condition. A wait ends
when its time is over, a wait for a condition at its deadline at the latest.
-/

namespace HeatFeed.Clock

/-- Nothing is due after now and before a time. -/
structure Free (c : Clock) (time : Nat) : Prop where
  now_le : c.now ≤ time
  le_due : ∀ due ∈ c.dueTimes, c.now < due → time ≤ due

theorem free_of_nextDue {c : Clock} {limit time : Nat} (h : c.nextDue limit = some time) :
    c.Free time := by
  obtain ⟨lt, le⟩ := now_lt_of_nextDue h
  refine ⟨Nat.le_of_lt lt, fun due mem after => ?_⟩
  rcases Nat.lt_or_ge limit due with beyond | within
  · exact Nat.le_trans le (Nat.le_of_lt beyond)
  · have mem : due ∈ c.dueTimes.filter fun t => c.now < t ∧ t ≤ limit :=
      List.mem_filter.2 ⟨mem, by simp [after, within]⟩
    exact (List.min?_eq_some_iff.1 h).2 due mem

theorem lt_due_of_nextDue {c : Clock} {limit : Nat} (h : c.nextDue limit = none) :
    ∀ due ∈ c.dueTimes, c.now < due → limit < due := by
  intro due mem after
  have none := List.filter_eq_nil_iff.1 (List.min?_eq_none_iff.1 h) due mem
  simp only [decide_eq_true_eq, not_and, Nat.not_le] at none
  exact none after

/-! ### Waits -/

section

variable {P : Clock → Prop}

/-- A wait keeps what stretches without work and jumps keep. -/
theorem advance_induct
    (idle : ∀ c time, P c → c.now ≤ time → (∀ due ∈ c.dueTimes, c.now < due → time < due) →
      P { c with now := time })
    (jump : ∀ c time, P c → c.Free time → P (c.jump time))
    (c : Clock) (limit : Nat) (h : P c) (le : c.now ≤ limit) : P (c.advance limit) := by
  fun_induction advance c limit with
  | case1 c hnext => exact idle c limit h le (lt_due_of_nextDue hnext)
  | case2 c time hnext ih =>
    refine ih (jump c time h (free_of_nextDue hnext)) ?_
    rw [now_jump]
    exact (now_lt_of_nextDue hnext).2

/-- A wait for a condition keeps what jumps keep. -/
theorem waitFor_induct (jump : ∀ c time, P c → c.Free time → P (c.jump time))
    (c : Clock) (condition : FetchState → Bool) (deadline : Nat) (h : P c)
    (le : c.now ≤ deadline) : P (c.waitFor condition deadline).2 := by
  fun_induction waitFor c condition deadline with
  | case1 c met => exact h
  | case2 c unmet hnext =>
    refine jump c deadline h ⟨le, fun due mem after => ?_⟩
    have := lt_due_of_nextDue hnext due mem after
    omega
  | case3 c unmet time hnext ih =>
    refine ih (jump c time h (free_of_nextDue hnext)) ?_
    have := (now_lt_of_nextDue hnext).2
    rw [now_jump]
    omega

end

@[simp] theorem now_advance (c : Clock) (limit : Nat) : (c.advance limit).now = limit := by
  fun_induction advance c limit with
  | case1 c hnext => rfl
  | case2 c time hnext ih => exact ih

/-- A wait for a condition ends between now and its deadline. -/
theorem now_waitFor (c : Clock) (condition : FetchState → Bool) (deadline : Nat)
    (le : c.now ≤ deadline) : c.now ≤ (c.waitFor condition deadline).2.now ∧
      (c.waitFor condition deadline).2.now ≤ deadline := by
  fun_induction waitFor c condition deadline with
  | case1 c met => exact ⟨Nat.le_refl _, le⟩
  | case2 c unmet hnext => exact ⟨by rw [now_jump]; exact le, Nat.le_of_eq (now_jump c deadline)⟩
  | case3 c unmet time hnext ih =>
    have := now_lt_of_nextDue hnext
    rw [now_jump] at ih
    have := ih (by omega)
    omega

/-! ### Steps -/

/-- A step keeps what stretches without work, jumps, single cycles, new timers and the end keep. -/
theorem step_induct {P : Clock → Prop}
    (idle : ∀ c time, P c → c.now ≤ time → (∀ due ∈ c.dueTimes, c.now < due → time < due) →
      P { c with now := time })
    (jump : ∀ c time, P c → c.Free time → P (c.jump time))
    (launch : ∀ c, P c → P c.launch)
    (restart : ∀ c period, P c → P (c.restart period))
    (shutdown : ∀ c, P c → P c.shutdown)
    (c : Clock) (s : Step) (h : P c) : P (c.step s).2 := by
  cases s with
  | wait milliseconds => exact advance_induct idle jump c _ h (Nat.le_add_right ..)
  | refetch times =>
    show P ((List.range times).foldl (fun c _ => c.launch) c)
    generalize List.range times = l
    induction l generalizing c with
    | nil => exact h
    | cons _ _ ih => exact ih c.launch (launch c h)
  | setInterval period => exact restart c period h
  | waitFor condition timeout =>
    exact waitFor_induct jump c _ _ h (Nat.le_add_right ..)
  | shutdown => exact shutdown c h

@[simp] theorem now_settle (c : Clock) : c.settle.now = c.now := by simp [settle]

@[simp] theorem now_restart (c : Clock) (period : Duration) : (c.restart period).now = c.now := by
  unfold restart
  split
  · exact now_settle _
  · rfl

/-- Whether a step that begins at one time may end at another. -/
def Step.Spans : Step → Nat → Nat → Prop
  | .wait milliseconds, t, u => u = t + milliseconds
  | .waitFor _ timeout, t, u => t ≤ u ∧ u ≤ t + timeout
  | .refetch _, t, u | .setInterval _, t, u | .shutdown, t, u => u = t

theorem spans_step (c : Clock) (s : Step) : s.Spans c.now (c.step s).2.now := by
  cases s with
  | wait milliseconds => exact now_advance c _
  | refetch times =>
    show ((List.range times).foldl (fun c _ => c.launch) c).now = c.now
    generalize List.range times = l
    induction l generalizing c with
    | nil => rfl
    | cons _ _ ih => exact (ih c.launch).trans (now_launch c)
  | setInterval period => exact now_restart c period
  | waitFor condition timeout => exact now_waitFor c _ _ (Nat.le_add_right ..)
  | shutdown => rfl

/-! ### Calls of the source -/

theorem calls_launch (c : Clock) :
    c.launch.calls = if c.poller.running then c.calls.push c.now else c.calls := by
  unfold launch
  split
  · dsimp only
    split <;> rfl
  · rfl

theorem calls_prefix_launch (c : Clock) : c.calls.toList <+: c.launch.calls.toList := by
  rw [calls_launch]
  split
  · rw [Array.toList_push]; exact List.prefix_append ..
  · exact List.prefix_refl _

theorem tick_of_due {c : Clock} {t : Timer} (timer : c.timer = some t) (due : t.next ≤ c.now) :
    c.tick = launch { c with timer := some ⟨c.now + t.period, t.period⟩ } := by
  unfold tick
  rw [timer]
  exact if_pos due

theorem tick_of_not_due {c : Clock} (h : ∀ t, c.timer = some t → c.now < t.next) : c.tick = c := by
  unfold tick
  rcases timer : c.timer with _ | t
  · rfl
  · exact if_neg (Nat.not_le.2 (h t timer))

theorem calls_prefix_tick (c : Clock) : c.calls.toList <+: c.tick.calls.toList := by
  by_cases h : ∃ t, c.timer = some t ∧ t.next ≤ c.now
  · obtain ⟨t, timer, due⟩ := h
    rw [tick_of_due timer due]
    exact calls_prefix_launch { c with timer := some ⟨c.now + t.period, t.period⟩ }
  · have same : c.tick = c :=
      tick_of_not_due fun t timer => Nat.not_le.1 fun due => h ⟨t, timer, due⟩
    simp only [same, List.prefix_refl]

theorem calls_prefix_settle (c : Clock) : c.calls.toList <+: c.settle.calls.toList :=
  calls_prefix_tick c.finish

/-- Calls that have been made stay. -/
theorem calls_prefix_step (c : Clock) (s : Step) :
    c.calls.toList <+: (c.step s).2.calls.toList := by
  refine step_induct (P := fun d => c.calls.toList <+: d.calls.toList) ?_ ?_ ?_ ?_ ?_ c s
    (List.prefix_refl _)
  · exact fun d time h _ _ => h
  · exact fun d time h _ => h.trans (calls_prefix_settle { d with now := time })
  · exact fun d h => h.trans (calls_prefix_launch d)
  · intro d period h
    unfold restart
    split
    · exact h.trans (calls_prefix_settle
        { d with poller := d.poller.announce period, timer := some (.starting d.now period) })
    · exact h
  · exact fun d h => h

end HeatFeed.Clock
