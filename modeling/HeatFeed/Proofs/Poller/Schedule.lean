import HeatFeed.Proofs.Poller.Passage
import Mathlib.Data.List.Forall2

/-!
# The schedule of a poller

A timer ticks at its start and then once per period, up to and including the time at which the
interval is changed or the poller is stopped. The calls of the source are exactly these ticks, and
one for each single refetch. So the steps and the times at which they are issued determine the
calls, whatever the source answers and however long it takes.
-/

namespace HeatFeed.Clock

/-- The life of one timer. -/
structure Epoch where
  start : Nat
  period : Nat
  stop : Nat

/-- When the timer ticks: at its start and then once per period, up to and including its end. -/
def Epoch.ticks (e : Epoch) : List Nat :=
  (List.range ((e.stop - e.start) / e.period + 1)).map fun k => e.start + k * e.period

/-- The timers of a run that ends at `finish`, given the steps with the times at which they are
issued. Whoever stops the poller cannot command it any more. -/
def epochs (start : Nat) (period : Duration) (finish : Nat) : List (Nat × Step) → List Epoch
  | [] => [⟨start, max period.milliseconds 1, finish⟩]
  | (t, .setInterval next) :: rest =>
    ⟨start, max period.milliseconds 1, t⟩ :: epochs t next finish rest
  | (t, .shutdown) :: _ => [⟨start, max period.milliseconds 1, t⟩]
  | (_, .wait _) :: rest | (_, .refetch _) :: rest | (_, .waitFor ..) :: rest =>
    epochs start period finish rest

/-- The times of the single refetches, up to the end of the poller. -/
def refetches : List (Nat × Step) → List Nat
  | [] => []
  | (t, .refetch times) :: rest => List.replicate times t ++ refetches rest
  | (_, .shutdown) :: _ => []
  | (_, .wait _) :: rest | (_, .setInterval _) :: rest | (_, .waitFor ..) :: rest => refetches rest

/-- The first tick after now of a timer that has started at `start`. -/
def nextTick (start period now : Nat) : Nat := start + ((now - start) / period + 1) * period

/-- The timer that has started at `start` has ticked as often as it should by now, and has its next
tick before it. All other calls are `earlier`. -/
structure OnSchedule (start period : Nat) (earlier : List Nat) (c : Clock) : Prop where
  running : c.poller.running = true
  positive : 0 < period
  start_le : start ≤ c.now
  timer : c.timer = some ⟨nextTick start period c.now, period⟩
  calls : c.calls.toList.Perm (earlier ++ (Epoch.mk start period c.now).ticks)

/-- No cycle will start any more. -/
structure Stopped (calls : List Nat) (c : Clock) : Prop where
  running : c.poller.running = false
  timer : c.timer = none
  calls : c.calls.toList = calls

/-! ### Ticks -/

theorem ticks_start (start period : Nat) : (Epoch.mk start period start).ticks = [start] := by
  simp [Epoch.ticks]

/-- Before the next tick no period is over. -/
theorem periods_of_lt {start period now time : Nat} (start_le : start ≤ now) (le : now ≤ time)
    (lt : time < nextTick start period now) : (time - start) / period = (now - start) / period := by
  have low := Nat.div_mul_le_self (now - start) period
  rw [nextTick] at lt
  exact Nat.div_eq_of_lt_le (by omega) (by omega)

/-- At the next tick one more period is over. -/
theorem periods_nextTick {start period now : Nat} (positive : 0 < period) :
    (nextTick start period now - start) / period = (now - start) / period + 1 := by
  rw [nextTick, Nat.add_sub_cancel_left, Nat.mul_div_cancel _ positive]

/-- At the next tick one tick is added. -/
theorem ticks_nextTick {start period now : Nat} (positive : 0 < period) :
    (Epoch.mk start period (nextTick start period now)).ticks =
      (Epoch.mk start period now).ticks ++ [nextTick start period now] := by
  simp only [Epoch.ticks, periods_nextTick positive]
  rw [List.range_succ, List.map_append]
  rfl

theorem lt_nextTick {start period now : Nat} (positive : 0 < period) :
    now < nextTick start period now := by
  have := Nat.lt_div_mul_add positive (a := now - start)
  rw [nextTick, Nat.succ_mul]
  omega

/-- A timer that ticks goes on one period later. -/
theorem nextTick_nextTick {start period now : Nat} (positive : 0 < period) :
    nextTick start period (nextTick start period now) = nextTick start period now + period := by
  rw [nextTick, periods_nextTick positive, Nat.succ_mul, ← Nat.add_assoc]
  rfl

/-! ### Work that is due -/

theorem running_finish (c : Clock) : c.finish.poller.running = c.poller.running := by
  unfold finish
  generalize c.pending.partition (·.due ≤ c.now) = parts
  show (parts.1.foldl _ c.poller).running = c.poller.running
  generalize parts.1 = due, c.poller = p
  induction due generalizing p with
  | nil => rfl
  | cons cycle rest ih => exact (ih _).trans (Poller.running_complete ..)

theorem running_launch (c : Clock) : c.launch.poller.running = c.poller.running := by
  unfold launch
  split
  · dsimp only
    split <;> simp
  · rfl

theorem timer_launch (c : Clock) : c.launch.timer = c.timer := by
  unfold launch
  split
  · dsimp only
    split <;> rfl
  · rfl

/-- A timer that is due ticks once, and next one period later. -/
theorem settle_of_due {c : Clock} {t : Timer} (running : c.poller.running = true)
    (timer : c.timer = some t) (due : t.next ≤ c.now) :
    c.settle.poller.running = true ∧ c.settle.timer = some ⟨c.now + t.period, t.period⟩ ∧
      c.settle.calls = c.calls.push c.now := by
  have running : c.finish.poller.running = true := (running_finish c).trans running
  have tick : c.settle = launch { c.finish with timer := some ⟨c.now + t.period, t.period⟩ } :=
    tick_of_due (c := c.finish) timer due
  rw [tick]
  exact ⟨(running_launch _).trans running, timer_launch _, (calls_launch _).trans (if_pos running)⟩

/-- Before the timer is due no cycle starts. -/
theorem settle_of_not_due {c : Clock} (h : ∀ t, c.timer = some t → c.now < t.next) :
    c.settle = c.finish := tick_of_not_due (c := c.finish) h

/-! ### A running poller -/

namespace OnSchedule

variable {start period : Nat} {earlier : List Nat} {c : Clock}

/-- A timer that starts ticks at once. -/
theorem of_starting (running : c.poller.running = true) (interval : Duration)
    (timer : c.timer = some (.starting c.now interval)) :
    OnSchedule c.now (max interval.milliseconds 1) c.calls.toList c.settle := by
  obtain ⟨running, next, calls⟩ := settle_of_due running timer (Nat.le_refl _)
  have now := now_settle c
  refine ⟨running, by omega, Nat.le_of_eq now.symm, ?_, ?_⟩
  · rw [next, now, nextTick, Nat.sub_self, Nat.zero_div, Nat.zero_add, Nat.one_mul]
    rfl
  · rw [calls, now, ticks_start, Array.toList_push]

/-- The timer is not due before its next tick. -/
theorem not_due (h : OnSchedule start period earlier c) {time : Nat}
    (lt : time < nextTick start period c.now) : ∀ t, c.timer = some t → time < t.next := by
  intro t timer
  rw [h.timer] at timer
  cases timer
  exact lt

theorem idle (h : OnSchedule start period earlier c) {time : Nat} (le : c.now ≤ time)
    (lt : time < nextTick start period c.now) :
    OnSchedule start period earlier { c with now := time } := by
  have same := periods_of_lt h.start_le le lt
  refine ⟨h.running, h.positive, Nat.le_trans h.start_le le, ?_, ?_⟩
  · have next : nextTick start period time = nextTick start period c.now := by
      simp only [nextTick, same]
    exact next ▸ h.timer
  · have ticks : (Epoch.mk start period time).ticks = (Epoch.mk start period c.now).ticks := by
      simp only [Epoch.ticks, same]
    rw [ticks]
    exact h.calls

theorem finish (h : OnSchedule start period earlier c) :
    OnSchedule start period earlier c.finish :=
  ⟨(running_finish c).trans h.running, h.positive, h.start_le, h.timer, h.calls⟩

/-- A jump to the next tick makes one call, and a jump to an earlier time none. -/
theorem jump (h : OnSchedule start period earlier c) {time : Nat} (le : c.now ≤ time)
    (le_next : time ≤ nextTick start period c.now) :
    OnSchedule start period earlier (c.jump time) := by
  rcases Nat.lt_or_eq_of_le le_next with lt | eq
  · have settled : c.jump time = { c with now := time }.finish :=
      settle_of_not_due (h.not_due lt)
    rw [settled]
    exact (h.idle le lt).finish
  · obtain ⟨running, next, calls⟩ := settle_of_due (c := { c with now := time }) h.running h.timer
      (Nat.le_of_eq eq.symm)
    have now : (c.jump time).now = time := now_jump c time
    have start_le : start ≤ (c.jump time).now := by
      rw [now]
      exact Nat.le_trans h.start_le le
    refine ⟨running, h.positive, start_le, ?_, ?_⟩
    · rw [now, eq, nextTick_nextTick h.positive, ← eq]
      exact next
    · show (c.jump time).calls.toList.Perm _
      rw [now, show (c.jump time).calls = c.calls.push time from calls, Array.toList_push, eq,
        ticks_nextTick h.positive, ← List.append_assoc]
      exact h.calls.append_right _

theorem next_mem_dueTimes (h : OnSchedule start period earlier c) :
    nextTick start period c.now ∈ c.dueTimes := by
  rw [dueTimes, h.timer]
  exact List.mem_append_left _ (List.mem_singleton_self _)

theorem advance (h : OnSchedule start period earlier c) {limit : Nat} (le : c.now ≤ limit) :
    OnSchedule start period earlier (c.advance limit) := by
  refine advance_induct ?_ ?_ c limit h le
  · intro c time h le lt
    exact h.idle le (lt _ h.next_mem_dueTimes (lt_nextTick h.positive))
  · intro c time h free
    exact h.jump free.now_le (free.le_due _ h.next_mem_dueTimes (lt_nextTick h.positive))

theorem waitFor (h : OnSchedule start period earlier c) (condition : FetchState → Bool)
    {deadline : Nat} (le : c.now ≤ deadline) :
    OnSchedule start period earlier (c.waitFor condition deadline).2 := by
  refine waitFor_induct ?_ c condition deadline h le
  intro c time h free
  exact h.jump free.now_le (free.le_due _ h.next_mem_dueTimes (lt_nextTick h.positive))

/-- A single refetch makes one call. -/
theorem launch (h : OnSchedule start period earlier c) :
    OnSchedule start period (earlier ++ [c.now]) c.launch := by
  refine ⟨(running_launch c).trans h.running, h.positive, ?_, ?_, ?_⟩
  · rw [now_launch]; exact h.start_le
  · rw [now_launch, timer_launch]; exact h.timer
  · rw [calls_launch, if_pos h.running, now_launch, Array.toList_push, List.append_assoc]
    refine (h.calls.append_right _).trans ?_
    rw [List.append_assoc]
    exact List.perm_append_comm.append_left _

theorem refetch (times : Nat) (h : OnSchedule start period earlier c) :
    OnSchedule start period (earlier ++ List.replicate times c.now)
      (c.step (.refetch times)).2 := by
  show OnSchedule _ _ _ ((List.range times).foldl (fun c _ => c.launch) c)
  induction times with
  | zero => rw [List.replicate_zero, List.append_nil]; exact h
  | succ times ih =>
    have now : ((List.range times).foldl (fun c _ => c.launch) c).now = c.now :=
      spans_step c (.refetch times)
    rw [List.range_succ, List.foldl_append, List.replicate_succ', ← List.append_assoc]
    have := ih.launch
    rw [now] at this
    exact this

/-- A change of the interval ends one timer and starts another. -/
theorem restart (h : OnSchedule start period earlier c) (interval : Duration) :
    OnSchedule c.now (max interval.milliseconds 1)
      (earlier ++ (Epoch.mk start period c.now).ticks) (c.restart interval) := by
  have fresh : OnSchedule c.now (max interval.milliseconds 1) c.calls.toList
      (c.restart interval) := by
    unfold Clock.restart
    rw [if_pos h.running]
    have running : (c.poller.announce interval).running = true :=
      (Poller.running_announce ..).trans h.running
    exact of_starting (c := { c with
      poller := c.poller.announce interval
      timer := some (.starting c.now interval) }) running interval rfl
  exact { fresh with calls := fresh.calls.trans (h.calls.append_right _) }

end OnSchedule

/-! ### A stopped poller -/

theorem launch_of_stopped {c : Clock} (h : c.poller.running = false) : c.launch = c := by
  rw [launch, h]
  rfl

theorem restart_of_stopped {c : Clock} (h : c.poller.running = false) (period : Duration) :
    c.restart period = c := by
  rw [restart, h]
  rfl

theorem stopped_shutdown (c : Clock) : Stopped c.calls.toList c.shutdown := ⟨rfl, rfl, rfl⟩

theorem Stopped.settle {calls : List Nat} {c : Clock} (h : Stopped calls c) :
    Stopped calls c.settle := by
  rw [settle_of_not_due fun t timer => by rw [h.timer] at timer; cases timer]
  exact ⟨(running_finish c).trans h.running, h.timer, h.calls⟩

theorem Stopped.step {calls : List Nat} {c : Clock} (h : Stopped calls c) (s : Step) :
    Stopped calls (c.step s).2 := by
  refine step_induct ?_ ?_ ?_ ?_ ?_ c s h
  · intro c time h _ _
    exact ⟨h.running, h.timer, h.calls⟩
  · intro c time h _
    exact Stopped.settle ⟨h.running, h.timer, h.calls⟩
  · intro c h
    rw [launch_of_stopped h.running]
    exact h
  · intro c period h
    rw [restart_of_stopped h.running]
    exact h
  · intro c h
    exact ⟨rfl, rfl, h.calls⟩

/-! ### What is seen of a run -/

theorem observations_cons (c : Clock) (s : Step) (rest : List Step) :
    c.observations (s :: rest) =
      observe c (c.step s).2 (c.step s).1 :: (c.step s).2.observations rest := rfl

theorem calls_observe (c : Clock) (s : Step) :
    c.calls.toList ++ (observe c (c.step s).2 (c.step s).1).calls = (c.step s).2.calls.toList :=
  List.prefix_iff_eq_append.1 (calls_prefix_step c s)

/-- Each step lasts as long as it should. -/
theorem spans_observations : ∀ (c : Clock) (steps : List Step),
    List.Forall₂ (fun s t => Step.Spans s t.1 t.2) steps
      ((c.now :: (c.observations steps).map (·.time)).zip ((c.observations steps).map (·.time)))
  | _, [] => List.Forall₂.nil
  | c, s :: rest => List.Forall₂.cons (spans_step c s) (spans_observations (c.step s).2 rest)

/-- After the end of the poller no call is seen. -/
theorem Stopped.observations {calls : List Nat} : ∀ {c : Clock} (_ : Stopped calls c)
    (steps : List Step), (c.observations steps).flatMap (·.calls) = []
  | _, _, [] => rfl
  | c, h, s :: rest => by
    have none : (observe c (c.step s).2 (c.step s).1).calls = [] := by
      have := calls_observe c s
      rw [(h.step s).calls, h.calls] at this
      exact List.append_right_eq_self.1 this
    rw [observations_cons, List.flatMap_cons, none, (h.step s).observations rest]
    rfl

/-- The calls so far and those that are seen from now on are those of all timers and refetches. -/
theorem OnSchedule.observations : ∀ (steps : List Step) {start : Nat} {period : Duration}
    {earlier : List Nat} {c : Clock},
    OnSchedule start (max period.milliseconds 1) earlier c →
    let times := (c.observations steps).map (·.time)
    let issued := (c.now :: times).zip steps
    (c.calls.toList ++ (c.observations steps).flatMap (·.calls)).Perm
      (earlier ++ ((epochs start period (times.getLastD c.now) issued).flatMap Epoch.ticks ++
        refetches issued))
  | [], start, period, earlier, c, h => by
    show (c.calls.toList ++ []).Perm (earlier ++ ((Epoch.mk start _ c.now).ticks ++ [] ++ []))
    rw [List.append_nil, List.append_nil, List.append_nil]
    exact h.calls
  | s :: rest, start, period, earlier, c, h => by
    intro times issued
    simp only [times, issued]
    rw [observations_cons, List.flatMap_cons, ← List.append_assoc, calls_observe, List.map_cons,
      List.getLastD_cons, List.zip_cons_cons]
    cases s with
    | wait milliseconds => exact observations rest (h.advance (Nat.le_add_right ..))
    | waitFor condition timeout => exact observations rest (h.waitFor _ (Nat.le_add_right ..))
    | refetch count =>
      refine (observations rest (h.refetch count)).trans ?_
      rw [List.append_assoc]
      refine List.Perm.append_left _ ?_
      -- the single calls go behind the ticks
      rw [epochs, refetches, ← List.append_assoc, ← List.append_assoc]
      exact List.perm_append_comm.append_right _
    | setInterval next =>
      refine (observations rest (h.restart next)).trans ?_
      rw [epochs, refetches, List.flatMap_cons, List.append_assoc, List.append_assoc]
      exact List.Perm.refl _
    | shutdown =>
      rw [show c.step .shutdown = (none, c.shutdown) from rfl,
        (stopped_shutdown c).observations rest, (stopped_shutdown c).calls, epochs, refetches,
        List.flatMap_cons, List.flatMap_nil, List.append_nil, List.append_nil, List.append_nil]
      exact h.calls

/-- The first look at a poller: its timer has started, and ticks at once. -/
theorem onSchedule_spawn (source : Nat → Fetch) (period : Duration) :
    OnSchedule 0 (max period.milliseconds 1) [] (spawn source period).settle :=
  OnSchedule.of_starting (c := spawn source period) rfl period rfl

/-- The source is called at the ticks of every timer, the end of its time included, and once for
each single refetch, and at no other time. Nothing in this depends on what the source answers or
when, but for the times at which waits for a condition end; all other steps take the time that they
say. -/
theorem script_calls_perm (source : Nat → Fetch) (period : Duration) (steps : List Step) :
    let seen := script source period steps
    let times := seen.map (·.time)
    let issued := times.zip steps
    times.head? = some 0 ∧
    List.Forall₂ (fun s t => Step.Spans s t.1 t.2) steps (times.zip times.tail) ∧
    (seen.flatMap (·.calls)).Perm
      ((epochs 0 period (times.getLastD 0) issued).flatMap Epoch.ticks ++ refetches issued) := by
  intro seen times issued
  have first : (spawn source period).settle.now = 0 := now_settle _
  have later : times = 0 :: ((spawn source period).settle.observations steps).map (·.time) :=
    congrArg (· :: _) first
  have spans := spans_observations (spawn source period).settle steps
  have calls := (onSchedule_spawn source period).observations steps
  rw [first] at spans calls
  refine ⟨congrArg some first, ?_, ?_⟩
  · rw [later]; exact spans
  · rw [show issued = times.zip steps from rfl, later, List.getLastD_cons]
    exact calls

/-- Where the old timer is due when the interval is changed, both timers tick. -/
example : (epochs 0 ⟨10⟩ 30 [(0, .wait 20), (20, .setInterval ⟨5⟩), (20, .wait 10)]).flatMap
    Epoch.ticks = [0, 10, 20, 20, 25, 30] := by decide

end HeatFeed.Clock
