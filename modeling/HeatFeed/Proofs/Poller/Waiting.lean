import HeatFeed.Proofs.Poller.Shutdown
import HeatFeed.Proofs.Poller.Waiter

/-!
# Waiting on a clock

Between any two steps all work of the current time is done: whatever is due is due later. From there
a wait for a state goes from one due time to the next, and so does the passage of time, which is why
a wait leaves the clock where time alone would have left it. What it sees is what is current once
the work of a time is done, as long as its deadline is not reached.
-/

namespace HeatFeed.Clock

/-- All work of now is done: what is due is due later, and the timer goes on. -/
structure Ahead (c : Clock) : Prop where
  later : ∀ due ∈ c.dueTimes, c.now < due
  positive : ∀ t, c.timer = some t → 0 < t.period

variable {c : Clock} {limit time : Nat}

/-! ### Times at which something is due -/

theorem mem_dueTimes {due : Nat} : due ∈ c.dueTimes ↔
    (∃ t, c.timer = some t ∧ t.next = due) ∨ ∃ cycle ∈ c.pending, cycle.due = due := by
  simp [dueTimes]

theorem nextDue_eq_some_iff : c.nextDue limit = some time ↔ time ∈ c.dueTimes ∧ c.now < time ∧
    time ≤ limit ∧ ∀ due ∈ c.dueTimes, c.now < due → time ≤ due := by
  constructor
  · intro next
    have mem := (List.mem_filter.1 (List.min?_mem next)).1
    obtain ⟨lt, le⟩ := now_lt_of_nextDue next
    exact ⟨mem, lt, le, (free_of_nextDue next).le_due⟩
  · rintro ⟨mem, lt, le, first⟩
    refine List.min?_eq_some_iff.2 ⟨List.mem_filter.2 ⟨mem, by simp [lt, le]⟩, fun due hdue => ?_⟩
    obtain ⟨hdue, within⟩ := List.mem_filter.1 hdue
    exact first due hdue (of_decide_eq_true within).1

theorem nextDue_eq_none (h : ∀ due ∈ c.dueTimes, c.now < due → limit < due) :
    c.nextDue limit = none := by
  rw [nextDue, List.min?_eq_none_iff, List.filter_eq_nil_iff]
  intro due mem within
  obtain ⟨after, le⟩ := of_decide_eq_true within
  exact absurd le (Nat.not_le_of_lt (h due mem after))

/-! ### Passing time -/

theorem advance_of_idle (h : ∀ due ∈ c.dueTimes, c.now < due → limit < due) :
    c.advance limit = { c with now := limit } := by
  rw [advance]
  split
  · rfl
  · rename_i next
    rw [nextDue_eq_none h] at next
    cases next

theorem advance_self (c : Clock) : c.advance c.now = c := advance_of_idle fun _ _ after => after

/-- What is due first is done on the way to any later time. -/
theorem advance_of_nextDue (next : c.nextDue limit = some time) {later : Nat} (le : time ≤ later) :
    c.advance later = (c.jump time).advance later := by
  obtain ⟨mem, lt, -, first⟩ := nextDue_eq_some_iff.1 next
  have next : c.nextDue later = some time := nextDue_eq_some_iff.2 ⟨mem, lt, le, first⟩
  rw [advance]
  split
  · rename_i none
    rw [next] at none
    cases none
  · rename_i some
    rw [next] at some
    cases some
    rfl

/-! ### All work done -/

theorem Ahead.idle (h : Ahead c) (lt : ∀ due ∈ c.dueTimes, c.now < due → time < due) :
    Ahead { c with now := time } :=
  ⟨fun due mem => lt due mem (h.later due mem), h.positive⟩

theorem Ahead.settle_eq (h : Ahead c) : c.settle = c := by
  have timer : ∀ t, c.timer = some t → c.now < t.next := fun t timer =>
    h.later t.next (mem_dueTimes.2 (.inl ⟨t, timer, rfl⟩))
  have cycles : ∀ cycle ∈ c.pending, ¬cycle.due ≤ c.now := fun cycle mem =>
    Nat.not_le_of_lt (h.later cycle.due (mem_dueTimes.2 (.inr ⟨cycle, mem, rfl⟩)))
  have none : c.pending.filter (·.due ≤ c.now) = [] := by
    rw [List.filter_eq_nil_iff]
    exact fun cycle mem due => cycles cycle mem (of_decide_eq_true due)
  have all : (c.pending.filter fun cycle => !(cycle.due ≤ c.now)) = c.pending := by
    rw [List.filter_eq_self]
    exact fun cycle mem => by simpa using cycles cycle mem
  rw [settle_of_not_due timer, finish_eq, none, all]
  rfl

theorem Ahead.launch (h : Ahead c) : Ahead c.launch := by
  refine ⟨fun due mem => ?_, fun t timer => h.positive t (timer_launch c ▸ timer)⟩
  rw [now_launch]
  rcases mem_dueTimes.1 mem with ⟨t, timer, rfl⟩ | ⟨cycle, flying, rfl⟩
  · exact h.later t.next (mem_dueTimes.2 (.inl ⟨t, timer_launch c ▸ timer, rfl⟩))
  · have old : cycle ∈ c.pending → c.now < cycle.due := fun before =>
      h.later cycle.due (mem_dueTimes.2 (.inr ⟨cycle, before, rfl⟩))
    clear mem
    unfold Clock.launch at flying
    split at flying
    · dsimp only at flying
      split at flying
      · exact old flying
      · rename_i delay
        rcases List.mem_append.1 flying with before | new
        · exact old before
        · rw [List.mem_singleton.1 new]
          exact Nat.lt_add_of_pos_right (Nat.pos_of_ne_zero delay)
    · exact old flying

/-- Once the work is done, all of it is. -/
theorem ahead_settle (positive : ∀ t, c.timer = some t → 0 < t.period) : Ahead c.settle := by
  have cycles : ∀ cycle ∈ c.finish.pending, c.now < cycle.due := fun cycle mem => by
    rw [finish_eq] at mem
    simpa using (List.mem_filter.1 mem).2
  by_cases due : ∃ t, c.timer = some t ∧ t.next ≤ c.now
  · obtain ⟨t, timer, due⟩ := due
    have tick : c.settle = launch { c.finish with timer := some ⟨c.now + t.period, t.period⟩ } :=
      tick_of_due (c := c.finish) timer due
    have period := positive t timer
    rw [tick]
    refine Ahead.launch ⟨fun due mem => ?_, ?_⟩
    · rcases mem_dueTimes.1 mem with ⟨_, ⟨⟩, rfl⟩ | ⟨cycle, flying, rfl⟩
      · exact Nat.lt_add_of_pos_right period
      · exact cycles cycle flying
    · rintro _ ⟨⟩
      exact period
  · have ahead : ∀ t, c.timer = some t → c.now < t.next := fun t timer =>
      Nat.not_le.1 fun le => due ⟨t, timer, le⟩
    rw [settle_of_not_due ahead]
    refine ⟨fun due mem => ?_, positive⟩
    rcases mem_dueTimes.1 mem with ⟨t, timer, rfl⟩ | ⟨cycle, flying, rfl⟩
    · exact ahead t timer
    · exact cycles cycle flying

theorem Ahead.step (h : Ahead c) (s : Step) : Ahead (c.step s).2 := by
  refine step_induct ?_ ?_ ?_ ?_ ?_ c s h
  · exact fun c time h _ lt => h.idle lt
  · exact fun c time h _ => ahead_settle h.positive
  · exact fun c h => h.launch
  · intro c period h
    unfold restart
    split
    · refine ahead_settle ?_
      rintro _ ⟨⟩
      exact Nat.le_max_right ..
    · exact h
  · intro c h
    refine ⟨fun due mem => ?_, nofun⟩
    rcases mem_dueTimes.1 mem with ⟨t, ⟨⟩, rfl⟩ | pending
    exact h.later due (mem_dueTimes.2 (.inr pending))

theorem Ahead.run {c : Clock} (h : Ahead c) : ∀ steps : List Step, Ahead (c.run steps)
  | [] => h
  | s :: rest => (h.step s).run rest

theorem ahead_spawn (source : Nat → Fetch) (period : Duration) :
    Ahead (spawn source period).settle := by
  refine ahead_settle ?_
  rintro _ ⟨⟩
  exact Nat.le_max_right ..

/-! ### Waits -/

/-- At a deadline before which nothing is due, time has only passed. -/
theorem Ahead.jump_eq (h : Ahead c) {deadline : Nat}
    (none : c.nextDue (deadline - 1) = none) : c.jump deadline = c.advance deadline := by
  have first : ∀ due ∈ c.dueTimes, deadline ≤ due := fun due mem => by
    have := h.later due mem
    have := lt_due_of_nextDue none due mem this
    omega
  by_cases due : deadline ∈ c.dueTimes
  · have next : c.nextDue deadline = some deadline :=
      nextDue_eq_some_iff.2 ⟨due, h.later _ due, Nat.le_refl _, fun due mem _ => first due mem⟩
    rw [advance_of_nextDue next (Nat.le_refl _)]
    have self := advance_self (c.jump deadline)
    rw [now_jump] at self
    exact self.symm
  · have idle : ∀ due ∈ c.dueTimes, c.now < due → deadline < due := fun other mem _ =>
      Nat.lt_of_le_of_ne (first other mem) fun same => due (same ▸ mem)
    rw [advance_of_idle idle]
    exact (h.idle idle).settle_eq

/-- How a wait may end that begins at one clock and ends at another. -/
structure Waited (condition : FetchState → Bool) (deadline : Nat) (c : Clock) (met : Bool)
    (d : Clock) : Prop where
  /-- Time has passed, and the wait has changed nothing in it. -/
  passed : d = c.advance d.now
  now_le : c.now ≤ d.now
  le_deadline : d.now ≤ deadline
  satisfied : met = true → condition d.poller.state = true
  expired : met = false → d.now = deadline
  /-- Before the end, nothing was what was waited for. -/
  first : ∀ t, c.now ≤ t → t < d.now → condition (c.advance t).poller.state = false

theorem Ahead.waited (h : Ahead c) (condition : FetchState → Bool) {deadline : Nat}
    (le : c.now ≤ deadline) : Waited condition deadline c (c.waitFor condition deadline).1
      (c.waitFor condition deadline).2 := by
  fun_induction waitFor c condition deadline with
  | case1 c met =>
    exact ⟨(advance_self c).symm, Nat.le_refl _, le, fun _ => met,
      fun unmet => absurd unmet.symm Bool.false_ne_true,
      fun t after before => absurd before (Nat.not_lt.2 after)⟩
  | case2 c unmet next =>
    have now : (c.jump deadline).now = deadline := now_jump c deadline
    refine ⟨?_, Nat.le_trans le (Nat.le_of_eq now.symm), Nat.le_of_eq now,
      fun met => absurd met Bool.false_ne_true, fun _ => now, fun t after before => ?_⟩
    · rw [now]
      exact h.jump_eq next
    · rw [now] at before
      rw [advance_of_idle fun due mem after => ?_]
      · exact eq_false_of_ne_true unmet
      · have := lt_due_of_nextDue next due mem after
        omega
  | case3 c unmet time next ih =>
    have within := now_lt_of_nextDue next
    have now : (c.jump time).now = time := now_jump c time
    have later : Waited condition deadline (c.jump time) _ _ :=
      ih (ahead_settle h.positive) (by omega)
    have after := later.now_le
    rw [now] at after
    refine ⟨?_, Nat.le_trans (Nat.le_of_lt within.1) after, later.le_deadline,
      later.satisfied, later.expired, fun t _ before => ?_⟩
    · rw [advance_of_nextDue next after]
      exact later.passed
    · rcases Nat.lt_or_ge t time with early | late
      · rw [advance_of_idle fun due mem after => ?_]
        · exact eq_false_of_ne_true unmet
        · exact Nat.lt_of_lt_of_le early ((free_of_nextDue next).le_due due mem after)
      · rw [advance_of_nextDue next late]
        exact later.first t (Nat.le_trans (Nat.le_of_eq now) late) before

/-- A wait on the clock is one way in which a wait may go. -/
theorem exists_moves (c : Clock) (condition : FetchState → Bool) {deadline : Nat}
    (le : c.now ≤ deadline) :
    ∃ moves, let w := (Waiter.call condition c.now c.poller).steps condition moves
      Waiter.Legal condition deadline (Waiter.call condition c.now c.poller) moves ∧
      w.now = (c.waitFor condition deadline).2.now ∧
      w.poller = (c.waitFor condition deadline).2.poller ∧
      w.result = some (w.now, if (c.waitFor condition deadline).1 then some w.poller.state
        else none) := by
  fun_induction waitFor c condition deadline with
  | case1 c met =>
    refine ⟨[], trivial, rfl, rfl, ?_⟩
    show (Waiter.call condition c.now c.poller).result = _
    rw [Waiter.call_of_met met]
    rfl
  | case2 c unmet next =>
    -- time is up before the work of the deadline is done
    obtain ⟨actions, run⟩ := exists_run_settle { c with now := deadline }
    have run : (c.jump deadline).poller = c.poller.run actions := run
    have unmet := eq_false_of_ne_true unmet
    rw [now_jump, run]
    rcases Nat.lt_or_eq_of_le le with lt | eq
    · refine ⟨.pass deadline :: .expire :: actions.map .act, ?_, ?_⟩
      · rw [Waiter.call_of_unmet unmet]
        exact ⟨⟨lt, .inr rfl, .inr (Nat.le_refl _)⟩, rfl, Waiter.legal_acts _ _⟩
      · rw [Waiter.steps_cons, Waiter.steps_cons, Waiter.steps_acts, Waiter.call_of_unmet unmet]
        exact ⟨rfl, rfl, rfl⟩
    · refine ⟨.expire :: actions.map .act, ⟨eq, Waiter.legal_acts _ _⟩, ?_⟩
      rw [Waiter.steps_expired unmet]
      exact ⟨eq, rfl, rfl⟩
  | case3 c unmet time next ih =>
    have within := now_lt_of_nextDue next
    have now : (c.jump time).now = time := now_jump c time
    obtain ⟨actions, run⟩ := exists_run_settle { c with now := time }
    have run : (c.jump time).poller = c.poller.run actions := run
    have unmet := eq_false_of_ne_true unmet
    have woken : (Waiter.call condition c.now c.poller).steps condition
        (.pass time :: actions.map .act ++ [.run]) =
          Waiter.call condition time (c.poller.run actions) := Waiter.steps_woken unmet actions
    obtain ⟨rest, legal, same⟩ := ih (by omega)
    rw [now, run, ← woken] at legal same
    refine ⟨.pass time :: actions.map .act ++ [.run] ++ rest, ?_, ?_⟩
    · rw [Waiter.legal_append, Waiter.legal_append]
      refine ⟨⟨?_, trivial, trivial⟩, legal⟩
      rw [Waiter.call_of_unmet unmet]
      exact ⟨⟨within.1, .inr rfl, .inr (by show time ≤ deadline; omega)⟩, Waiter.legal_acts _ _⟩
    · rw [Waiter.steps_append]
      exact same

/-- How a wait ends for somebody who calls at some time, after some moves. -/
structure Waiter.Outcome (condition : FetchState → Bool) (deadline now : Nat) (p : Poller)
    (moves : List Waiter.Move) (w : Waiter) : Prop where
  /-- To the poller the wait does nothing. -/
  poller_eq : w.poller = p.run (moves.filterMap Waiter.Move.action?)
  /-- Who finds the state there waits no time. -/
  at_once : condition p.state = true → w.result = some (now, some p.state)
  met : ∀ t s, w.result = some (t, some s) → t ≤ deadline ∧ condition s = true ∧
    (Waiter.call condition now p).IsCurrent condition moves t s
  /-- A state that is the last one of a time before the deadline is not missed. -/
  not_missed : ∀ t s, t < deadline → (Waiter.call condition now p).IsLast condition moves t s →
    condition s = true → ∃ u, u ≤ t ∧ ∃ s, w.result = some (u, some s)
  expired : ∀ t, w.result = some (t, none) → t = deadline
  expires : (∀ t s, t ≤ deadline →
      (Waiter.call condition now p).IsCurrent condition moves t s → condition s = false) →
    deadline < w.now → w.result = some (deadline, none)

/-- How a wait ends on a clock: the time that has passed, and the moves in which it went. -/
structure WaitOutcome (condition : FetchState → Bool) (deadline : Nat) (c : Clock) (met : Bool)
    (d : Clock) : Prop extends Waited condition deadline c met d where
  at_once : condition c.poller.state = true → met = true ∧ d = c
  not_missed : ∀ t, c.now ≤ t → t < deadline → condition (c.advance t).poller.state = true →
    met = true ∧ d.now ≤ t
  expires : (∀ t, c.now ≤ t → t ≤ deadline → condition (c.advance t).poller.state = false) →
    met = false
  moves : ∃ moves, let w := (Waiter.call condition c.now c.poller).steps condition moves
    Waiter.Legal condition deadline (Waiter.call condition c.now c.poller) moves ∧
    w.now = d.now ∧ w.poller = d.poller ∧
    w.result = some (w.now, if met then some w.poller.state else none)

theorem Waiter.outcome_of_legal {condition : FetchState → Bool} {deadline now : Nat}
    (le : now ≤ deadline) (p : Poller) {moves : List Waiter.Move}
    (legal : Waiter.Legal condition deadline (Waiter.call condition now p) moves) :
    Waiter.Outcome condition deadline now p moves
      ((Waiter.call condition now p).steps condition moves) := by
  have sound : Waiter.Sound condition deadline (Waiter.call condition now p) :=
    Waiter.sound_call condition p le
  have final := sound.steps legal
  have before {t s} : ((Waiter.call condition now p).steps condition moves).result =
      some (t, some s) → (Waiter.call condition now p).IsCurrent condition moves t s :=
    Waiter.isCurrent_of_met
  refine ⟨Waiter.poller_steps _ moves, fun met => ?_, fun t s result =>
    ⟨final.in_time t _ result, final.met t s result, before result⟩, ?_, final.expired,
    fun never late => ?_⟩
  · exact Waiter.result_steps (congrArg Waiter.result (Waiter.call_of_met met)) moves
  · rintro t s early ⟨earlier, time, ⟨rest, rfl⟩, rfl, rfl⟩ met
    rw [Waiter.legal_append, Waiter.legal_append] at legal
    obtain ⟨u, s, result, le⟩ := (sound.steps legal.1.1).met_of_pass legal.1.2.1 early met
    refine ⟨u, le, s, ?_⟩
    rw [Waiter.steps_append, Waiter.steps_append]
    exact Waiter.result_steps (Waiter.result_steps result _) _
  · refine final.expired_of_late late fun t s result => ?_
    have unmet := never t s (final.in_time t _ result) (before result)
    rw [final.met t s result] at unmet
    cases unmet

theorem Ahead.waitOutcome (h : Ahead c) (condition : FetchState → Bool) {deadline : Nat}
    (le : c.now ≤ deadline) : WaitOutcome condition deadline c (c.waitFor condition deadline).1
      (c.waitFor condition deadline).2 := by
  have waited := h.waited condition le
  have moves := exists_moves c condition le
  have at_once : condition c.poller.state = true → c.waitFor condition deadline = (true, c) :=
    fun met => by rw [waitFor, if_pos met]
  generalize c.waitFor condition deadline = result at waited moves at_once ⊢
  obtain ⟨met, d⟩ := result
  refine ⟨waited, fun met => ?_, fun t after early holds => ?_, fun never => ?_, moves⟩
  · cases at_once met
    exact ⟨rfl, rfl⟩
  · have le : d.now ≤ t := Nat.not_lt.1 fun before => by
      rw [waited.first t after before] at holds
      cases holds
    refine ⟨eq_true_of_ne_false fun unmet => ?_, le⟩
    have late : d.now = deadline := waited.expired unmet
    omega
  · refine eq_false_of_ne_true fun met => ?_
    have holds := waited.satisfied met
    have unmet := never d.now waited.now_le waited.le_deadline
    rw [← waited.passed, holds] at unmet
    cases unmet

/-- However the work of a poller and the looks of somebody who waits for a state fall within each
time: who finds the state there at once waits no time, and a state that ends a wait is current when
it does. A state that is the last one of a time before the deadline is not missed. Without success
the wait ends at the deadline, and it does so if nothing that is waited for is ever current. To the
poller the wait does nothing.

On a clock, where a wait goes in one such way, it leaves everything as if time alone had passed. -/
theorem waitFor_outcome (condition : FetchState → Bool) (timeout : Nat) (p : Poller) (now : Nat)
    (moves : List Waiter.Move) (source : Nat → Fetch) (period : Duration) (steps : List Step) :
    (Waiter.Legal condition (now + timeout) (Waiter.call condition now p) moves →
      Waiter.Outcome condition (now + timeout) now p moves
        ((Waiter.call condition now p).steps condition moves)) ∧
    let c := (spawn source period).settle.run steps
    let (met, d) := c.waitFor condition (c.now + timeout)
    WaitOutcome condition (c.now + timeout) c met d := by
  have ahead : Ahead ((spawn source period).settle.run steps) :=
    (ahead_spawn source period).run steps
  exact ⟨Waiter.outcome_of_legal (Nat.le_add_right ..) p,
    ahead.waitOutcome condition (Nat.le_add_right ..)⟩

/-- Two cycles end at one time, in the wrong order, and the one who waits for data runs after both:
the state that they leave is not missed, though the second of them has left no trace. -/
theorem waitFor_outcome_overtaken :
    let p := (Poller.spawn ⟨60000⟩).run [.tick, .refetch]
    let data : FetchState → Bool := fun s => s.hasData
    let moves : List Waiter.Move := [.run, .pass 5,
      .act (.complete 2 (.ok ⟨[], none, [], "t", []⟩)),
      .act (.complete 1 (.error (.api ⟨500⟩ "late failure"))), .run, .pass 9]
    let w := (Waiter.call data 0 p).steps data moves
    Waiter.Legal data 7 (Waiter.call data 0 p) moves ∧ w.result.map Prod.fst = some 5 ∧
      ∀ t s, w.result = some (t, some s) → t ≤ 7 ∧ s.hasData = true := by
  intro p data moves w
  have legal : Waiter.Legal data (0 + 7) (Waiter.call data 0 p) moves :=
    ⟨trivial, ⟨by decide, .inr rfl, .inr (by decide)⟩, trivial, trivial, trivial,
      ⟨by decide, .inl rfl, .inl rfl⟩, trivial⟩
  have outcome := (waitFor_outcome data 7 p 0 moves (fun _ => ⟨0, .error (.invalidHeader "")⟩)
    ⟨60000⟩ []).1 legal
  refine ⟨legal, rfl, fun t s result => ?_⟩
  obtain ⟨in_time, met, -⟩ := outcome.met t s result
  exact ⟨in_time, met⟩

end HeatFeed.Clock
