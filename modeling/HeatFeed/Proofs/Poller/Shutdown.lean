import HeatFeed.Proofs.Poller.History
import HeatFeed.Proofs.Poller.Schedule

/-!
# The end of a poller

A poller that is stopped starts no cycle any more. The cycles that are in flight at that moment go
on: each ends once, under the same fence, when its response is due, and whoever still looks at the
state sees what their results leave after those that came in before. Once none is in flight, nothing
changes any more.
-/

namespace HeatFeed

namespace Poller

open FetchState

/-- The completions that a poller has seen and an earlier stage of it has not. -/
def since (p q : Poller) : List Completion := q.completed.toList.drop p.completed.size

/-- What a poller may become once it has been stopped. -/
structure Winds (p q : Poller) : Prop where
  stopped : q.running = false
  /-- No cycle has started. -/
  sequence : q.sequence = p.sequence
  earlier : q.completed.toList = p.completed.toList ++ since p q
  /-- A cycle that was in flight has ended, once, or still is. -/
  inFlight : ((since p q).map (·.seq) ++ q.inFlight).Perm p.inFlight
  state : q.state = p.state.resolveAll ((since p q).map Completion.numbered)
  fence : ((since p q).filter (·.applied)).map Completion.numbered =
    p.state.accepted ((since p q).map Completion.numbered)

theorem since_of_append {p q : Poller} {later : List Completion}
    (h : q.completed.toList = p.completed.toList ++ later) : since p q = later := by
  rw [since, h, ← Array.length_toList, List.drop_left]

theorem winds_stop (p : Poller) : Winds p p.stop := by
  have none : since p p.stop = [] := since_of_append (List.append_nil _).symm
  refine ⟨rfl, rfl, ?_, ?_, ?_, ?_⟩
  · rw [none, List.append_nil]; rfl
  · rw [none]; exact List.Perm.refl _
  · rw [none]; rfl
  · rw [none]; rfl

/-! ### After the stop -/

theorem start_of_stopped {p : Poller} (h : p.running = false) : p.start = p := by
  rw [start, h]; rfl

theorem announce_of_stopped {p : Poller} (h : p.running = false) (period : Duration) :
    p.announce period = p := by
  rw [announce, h]; rfl

theorem stop_of_stopped {p : Poller} (h : p.running = false) : p.stop = p := by
  cases p; cases h; rfl

theorem Winds.complete {p q : Poller} (h : Winds p q) (seq : Nat) (outcome : Outcome) :
    Winds p (q.complete seq outcome) := by
  by_cases mem : seq ∈ q.inFlight
  · have completed : (q.complete seq outcome).completed.toList =
        p.completed.toList ++ (since p q ++ [⟨seq, outcome, q.state.accepts seq⟩]) := by
      rw [completed_complete mem, h.earlier, List.append_assoc]
    have one := since_of_append completed
    refine ⟨?_, ?_, ?_, ?_, ?_, ?_⟩
    · rw [running_complete]; exact h.stopped
    · rw [sequence_complete]; exact h.sequence
    · rw [one]; exact completed
    · -- the number moves from the cycles in flight to those that have ended
      rw [one, complete_of_mem mem, List.map_append, List.append_assoc]
      exact ((List.perm_cons_erase mem).symm.append_left _).trans h.inFlight
    · rw [one, List.map_append, List.map_singleton, resolveAll_concat, ← h.state,
        complete_of_mem mem]
      rfl
    · rw [one, List.filter_append, List.map_append, h.fence, List.map_append, List.map_singleton,
        accepted_concat, ← h.state]
      cases accepts : q.state.accepts seq
      · simp [Completion.numbered, accepts]
      · simp [Completion.numbered, accepts]
  · rw [complete_of_not_mem mem]; exact h

/-- After the stop only completions do anything. -/
theorem Winds.act {p q : Poller} (h : Winds p q) : ∀ a : Action, Winds p (q.act a)
  | .tick | .refetch => by rw [Poller.act, start_of_stopped h.stopped]; exact h
  | .setInterval period => by rw [Poller.act, announce_of_stopped h.stopped]; exact h
  | .complete seq outcome => h.complete seq outcome
  | .shutdown => by rw [Poller.act, stop_of_stopped h.stopped]; exact h

theorem Winds.run {p q : Poller} (h : Winds p q) : ∀ actions : List Action, Winds p (q.run actions)
  | [] => h
  | a :: rest => (h.act a).run rest

/-- Once no cycle is in flight, nothing changes any more. -/
theorem run_of_idle {q : Poller} (stopped : q.running = false) (idle : q.inFlight = []) :
    ∀ actions : List Action, q.run actions = q
  | [] => rfl
  | a :: rest => by
    have same : q.act a = q := by
      cases a with
      | tick | refetch => exact start_of_stopped stopped
      | setInterval period => exact announce_of_stopped stopped period
      | complete seq outcome =>
        exact complete_of_not_mem (by rw [idle]; exact List.not_mem_nil) outcome
      | shutdown => exact stop_of_stopped stopped
    show (q.act a).run rest = q
    rw [same]
    exact run_of_idle stopped idle rest

theorem run_append (p : Poller) (xs ys : List Action) : p.run (xs ++ ys) = (p.run xs).run ys :=
  List.foldl_append

end Poller

namespace Clock

open Poller (since Winds)

/-- The clock after some steps. -/
def run (c : Clock) (steps : List Step) : Clock := steps.foldl (fun c s => (c.step s).2) c

/-- A cycle that ends with an outcome. -/
def Pending.ending (cycle : Pending) : Nat × Outcome := (cycle.seq, cycle.outcome)

/-- The cycles in flight are those that will end, each later than now. -/
structure Tracked (c : Clock) : Prop where
  history : Poller.History c.poller
  inFlight : c.poller.inFlight.Perm (c.pending.map Pending.seq)
  later : ∀ cycle ∈ c.pending, c.now < cycle.due

/-- What a clock may become once its poller has been stopped. -/
structure Drains (c d : Clock) : Prop where
  stopped : Stopped c.calls.toList d
  tracked : Tracked d
  winds : Winds c.poller d.poller
  /-- Of the cycles that were to end, those have ended whose time has come. -/
  ended : ∃ ended : List Pending, (ended ++ d.pending).Perm c.pending ∧
    (∀ cycle ∈ ended, cycle.due ≤ d.now) ∧
    (since c.poller d.poller).map (fun e => (e.seq, e.outcome)) = ended.map Pending.ending

/-! ### Cycles that end together -/

theorem finish_eq (c : Clock) : c.finish =
    { c with
      pending := c.pending.filter fun cycle => !(cycle.due ≤ c.now)
      poller := c.poller.run ((c.pending.filter (·.due ≤ c.now)).map
        fun cycle => .complete cycle.seq cycle.outcome) } := by
  unfold finish
  rw [List.partition_eq_filter_filter, Poller.run, List.foldl_map]
  rfl

/-- Cycles in flight that end one after another. -/
theorem run_endings (due : List Pending) {p : Poller} {rest : List Nat}
    (perm : p.inFlight.Perm (due.map Pending.seq ++ rest)) :
    let q := p.run (due.map fun cycle => .complete cycle.seq cycle.outcome)
    q.inFlight.Perm rest ∧ q.completed.toList.map (fun e => (e.seq, e.outcome)) =
      p.completed.toList.map (fun e => (e.seq, e.outcome)) ++ due.map Pending.ending := by
  induction due generalizing p with
  | nil => exact ⟨perm, (List.append_nil _).symm⟩
  | cons cycle due ih =>
    have mem : cycle.seq ∈ p.inFlight := perm.mem_iff.2 (List.mem_cons_self ..)
    have perm : (p.complete cycle.seq cycle.outcome).inFlight.Perm
        (due.map Pending.seq ++ rest) := by
      rw [Poller.complete_of_mem mem]
      exact List.cons_perm_iff_perm_erase.1 perm.symm |>.2.symm
    obtain ⟨inFlight, completed⟩ := ih perm
    refine ⟨inFlight, completed.trans ?_⟩
    rw [Poller.completed_complete mem, List.map_append, List.append_assoc]
    rfl

/-- The cycles that are due end, and all others go on. -/
theorem tracked_finish {c : Clock} (history : Poller.History c.poller)
    (inFlight : c.poller.inFlight.Perm (c.pending.map Pending.seq)) :
    Tracked c.finish ∧ c.finish.poller.completed.toList.map (fun e => (e.seq, e.outcome)) =
      c.poller.completed.toList.map (fun e => (e.seq, e.outcome)) ++
        (c.pending.filter (·.due ≤ c.now)).map Pending.ending := by
  have split : c.poller.inFlight.Perm ((c.pending.filter (·.due ≤ c.now)).map Pending.seq ++
      (c.pending.filter fun cycle => !(cycle.due ≤ c.now)).map Pending.seq) := by
    rw [← List.map_append]
    exact inFlight.trans ((List.filter_append_perm _ _).map _).symm
  obtain ⟨inFlight, completed⟩ := run_endings _ split
  rw [finish_eq]
  refine ⟨⟨history.run _, inFlight, fun cycle mem => ?_⟩, completed⟩
  have := (List.mem_filter.1 mem).2
  simpa using this

theorem Tracked.launch {c : Clock} (h : Tracked c) : Tracked c.launch := by
  rcases running : c.poller.running with _ | _
  · rw [launch_of_stopped running]; exact h
  · have new : c.poller.start.inFlight = c.poller.inFlight ++ [c.poller.sequence.issued + 1] := by
      rw [Poller.inFlight_start, if_pos running]
    have fresh : c.poller.sequence.issued + 1 ∉ c.poller.inFlight := fun mem => by
      have := (h.history.le_issued (List.mem_append_left _ mem)).2
      omega
    unfold Clock.launch
    rw [if_pos running]
    dsimp only
    split
    · -- a cycle that ends at once is in flight for no time
      refine ⟨h.history.start.complete _ _, ?_, h.later⟩
      rw [Poller.complete_of_mem (by rw [new]; exact List.mem_append_right _ (.head _))]
      show (c.poller.start.inFlight.erase _).Perm _
      rw [new, List.erase_append_right _ fresh, List.erase_cons_head, List.append_nil]
      exact h.inFlight
    · rename_i delay
      refine ⟨h.history.start, ?_, fun cycle mem => ?_⟩
      · show c.poller.start.inFlight.Perm _
        rw [new, List.map_append]
        exact h.inFlight.append_right _
      · rcases List.mem_append.1 mem with mem | mem
        · exact h.later cycle mem
        · rw [List.mem_singleton.1 mem]
          exact Nat.lt_add_of_pos_right (Nat.pos_of_ne_zero delay)

theorem Tracked.tick {c : Clock} (h : Tracked c) : Tracked c.tick := by
  unfold Clock.tick
  split
  · exact h
  · split
    · exact Tracked.launch ⟨h.history, h.inFlight, h.later⟩
    · exact h

theorem tracked_settle {c : Clock} (history : Poller.History c.poller)
    (inFlight : c.poller.inFlight.Perm (c.pending.map Pending.seq)) : Tracked c.settle :=
  (tracked_finish history inFlight).1.tick

theorem Tracked.idle {c : Clock} (h : Tracked c) {time : Nat}
    (lt : ∀ due ∈ c.dueTimes, c.now < due → time < due) : Tracked { c with now := time } :=
  ⟨h.history, h.inFlight, fun cycle mem =>
    lt cycle.due (List.mem_append_right _ (List.mem_map_of_mem mem)) (h.later cycle mem)⟩

theorem Tracked.step {c : Clock} (h : Tracked c) (s : Step) : Tracked (c.step s).2 := by
  refine step_induct ?_ ?_ ?_ ?_ ?_ c s h
  · intro c time h _ lt
    exact h.idle lt
  · intro c time h _
    exact tracked_settle h.history h.inFlight
  · intro c h
    exact h.launch
  · intro c period h
    unfold restart
    split
    · refine tracked_settle (h.history.announce period) ?_
      rw [Poller.inFlight_announce]
      exact h.inFlight
    · exact h
  · intro c h
    exact ⟨h.history.stop, h.inFlight, h.later⟩

theorem Tracked.run {c : Clock} (h : Tracked c) : ∀ steps : List Step, Tracked (c.run steps)
  | [] => h
  | s :: rest => (h.step s).run rest

theorem tracked_spawn (source : Nat → Fetch) (period : Duration) :
    Tracked (spawn source period).settle :=
  tracked_settle (Poller.history_spawn period) (List.Perm.refl _)

/-! ### After the stop -/

theorem drains_shutdown {c : Clock} (h : Tracked c) : Drains c c.shutdown where
  stopped := stopped_shutdown c
  tracked := ⟨h.history.stop, h.inFlight, h.later⟩
  winds := Poller.winds_stop c.poller
  ended := by
    refine ⟨[], List.Perm.refl _, fun _ mem => absurd mem List.not_mem_nil, ?_⟩
    have none : since c.poller c.shutdown.poller = [] :=
      Poller.since_of_append (List.append_nil _).symm
    rw [none]
    rfl

theorem Drains.jump {c d : Clock} (h : Drains c d) {time : Nat} (le : d.now ≤ time) :
    Drains c (d.jump time) := by
  have stopped : Stopped c.calls.toList (d.jump time) :=
    Stopped.settle ⟨h.stopped.running, h.stopped.timer, h.stopped.calls⟩
  have settled : d.jump time = { d with now := time }.finish :=
    settle_of_not_due fun t timer => by rw [h.stopped.timer] at timer; cases timer
  obtain ⟨tracked, completed⟩ :=
    tracked_finish (c := { d with now := time }) h.tracked.history h.tracked.inFlight
  obtain ⟨ended, perm, due, endings⟩ := h.ended
  have winds : Winds c.poller (d.jump time).poller := by
    rw [settled, finish_eq]
    exact h.winds.run _
  refine ⟨stopped, settled ▸ tracked, winds, ended ++ d.pending.filter (·.due ≤ time), ?_, ?_, ?_⟩
  · rw [settled, finish_eq, List.append_assoc]
    exact ((List.filter_append_perm _ _).append_left _).trans perm
  · rw [now_jump]
    intro cycle mem
    rcases List.mem_append.1 mem with mem | mem
    · exact Nat.le_trans (due cycle mem) le
    · simpa using (List.mem_filter.1 mem).2
  · rw [← settled, h.winds.earlier, winds.earlier, List.map_append, List.map_append,
      List.append_assoc] at completed
    rw [List.append_cancel_left completed, endings, List.map_append]

theorem Drains.step {c d : Clock} (h : Drains c d) (s : Step) : Drains c (d.step s).2 := by
  refine step_induct ?_ ?_ ?_ ?_ ?_ d s h
  · intro d time h le lt
    obtain ⟨ended, perm, due, endings⟩ := h.ended
    exact ⟨⟨h.stopped.running, h.stopped.timer, h.stopped.calls⟩, h.tracked.idle lt, h.winds,
      ended, perm, fun cycle mem => Nat.le_trans (due cycle mem) le, endings⟩
  · intro d time h free
    exact h.jump free.now_le
  · intro d h
    rw [launch_of_stopped h.stopped.running]
    exact h
  · intro d period h
    rw [restart_of_stopped h.stopped.running]
    exact h
  · intro d h
    refine ⟨⟨rfl, rfl, h.stopped.calls⟩, ⟨h.tracked.history.stop, h.tracked.inFlight,
      h.tracked.later⟩, h.winds.act .shutdown, h.ended⟩

theorem Drains.run {c d : Clock} (h : Drains c d) : ∀ steps : List Step, Drains c (d.run steps)
  | [] => h
  | s :: rest => (h.step s).run rest

/-! ### Runs on a clock -/

theorem exists_run_launch (c : Clock) : ∃ actions, c.launch.poller = c.poller.run actions := by
  unfold launch
  split
  · dsimp only
    split
    · exact ⟨[.tick, .complete _ _], rfl⟩
    · exact ⟨[.tick], rfl⟩
  · exact ⟨[], rfl⟩

/-- A run of a run is a run. -/
theorem exists_run_trans {p q r : Poller} (first : ∃ actions, q = p.run actions)
    (later : ∃ actions, r = q.run actions) : ∃ actions, r = p.run actions := by
  obtain ⟨xs, rfl⟩ := first
  obtain ⟨ys, rfl⟩ := later
  exact ⟨xs ++ ys, (Poller.run_append p xs ys).symm⟩

theorem exists_run_settle (c : Clock) : ∃ actions, c.settle.poller = c.poller.run actions := by
  refine exists_run_trans (q := c.finish.poller) ⟨_, congrArg Clock.poller (finish_eq c)⟩ ?_
  unfold settle Clock.tick
  split
  · exact ⟨[], rfl⟩
  · split
    · exact exists_run_launch _
    · exact ⟨[], rfl⟩

/-- What a step on a clock does to the poller is a run of it. -/
theorem exists_run_step (c : Clock) (s : Step) :
    ∃ actions, (c.step s).2.poller = c.poller.run actions := by
  refine step_induct (P := fun d => ∃ actions, d.poller = c.poller.run actions) ?_ ?_ ?_ ?_ ?_ c s
    ⟨[], rfl⟩
  · intro d time h _ _
    exact h
  · intro d time h _
    exact exists_run_trans h (exists_run_settle { d with now := time })
  · intro d h
    exact exists_run_trans h (exists_run_launch d)
  · intro d period h
    unfold restart
    split
    · refine exists_run_trans (exists_run_trans h ⟨[.setInterval period], rfl⟩) ?_
      exact exists_run_settle
        { d with poller := d.poller.announce period, timer := some (.starting d.now period) }
    · exact h
  · intro d h
    exact exists_run_trans h ⟨[.shutdown], rfl⟩

theorem exists_run (c : Clock) : ∀ steps : List Step,
    ∃ actions, (c.run steps).poller = c.poller.run actions
  | [] => ⟨[], rfl⟩
  | s :: rest => exists_run_trans (exists_run_step c s) (exists_run (c.step s).2 rest)

/-- Whatever has happened when a poller is stopped, and whatever happens then, ticks and commands
that were still to come included: no cycle starts any more. A cycle that was in flight ends once or
still is in flight, and the state is what the results that had come in before leave, followed by
those that have come in since. With no cycle in flight nothing changes any more.

On a clock, which is one such run, the source is not called any more however far time advances, and
the cycles that have ended since are those whose response has become due, with that response. -/
theorem shutdown_final (period : Duration) (before after : List Poller.Action)
    (source : Nat → Fetch) (steps later : List Step) :
    (let p := (Poller.spawn period).run before
      let q := (Poller.spawn period).run (before ++ .shutdown :: after)
      p.stop.starts after = [] ∧
      Winds p q ∧
      (q.completed.toList.map (·.seq)).Nodup ∧
      q.state = FetchState.initial.resolveAll
        (p.results ++ (since p q).map Poller.Completion.numbered) ∧
      (q.inFlight = [] → ∀ more, q.run more = q)) ∧
    (let c := (spawn source period).settle.run steps
      let d := c.shutdown.run later
      (∃ xs ys, c.poller = (Poller.spawn period).run xs ∧
        d.poller = (Poller.spawn period).run (xs ++ .shutdown :: ys)) ∧
      d.calls = c.calls ∧
      c.poller.inFlight.Perm (c.pending.map Pending.seq) ∧
      d.poller.inFlight.Perm (d.pending.map Pending.seq) ∧
      ∃ ended : List Pending, (ended ++ d.pending).Perm c.pending ∧
        (∀ cycle ∈ ended, cycle.due ≤ d.now) ∧ (∀ cycle ∈ d.pending, d.now < cycle.due) ∧
        (since c.poller d.poller).map (fun e => (e.seq, e.outcome)) =
          ended.map Pending.ending) := by
  refine ⟨?_, ?_⟩
  · intro p q
    have h : Poller.History p := (Poller.history_spawn period).run before
    have split : q = p.stop.run after := Poller.run_append _ before (.shutdown :: after)
    have winds : Winds p q := by
      rw [split]
      exact (Poller.winds_stop p).run after
    have history : Poller.History q := by
      rw [split]
      exact h.stop.run after
    refine ⟨(h.stop.run_starts after).1, winds, ?_, ?_, Poller.run_of_idle winds.stopped⟩
    · exact (history.started.nodup_iff.2 List.nodup_range').of_append_right
    · rw [FetchState.resolveAll_append, ← h.state]
      exact winds.state
  · intro c d
    have tracked : Tracked c := (tracked_spawn source period).run steps
    have drains : Drains c d := (drains_shutdown tracked).run later
    obtain ⟨first, settled⟩ := exists_run_settle (spawn source period)
    obtain ⟨xs, run⟩ := exists_run (spawn source period).settle steps
    obtain ⟨ys, stopped⟩ := exists_run c.shutdown later
    obtain ⟨ended, perm, due, endings⟩ := drains.ended
    have start : c.poller = (Poller.spawn period).run (first ++ xs) := by
      rw [Poller.run_append]
      exact run.trans (congrArg (·.run xs) settled)
    refine ⟨⟨first ++ xs, ys, start, ?_⟩, ?_, tracked.inFlight, drains.tracked.inFlight,
      ended, perm, due, drains.tracked.later, endings⟩
    · rw [Poller.run_append, ← start]
      exact stopped
    · exact Array.toList_inj.1 drains.stopped.calls

/-- Two cycles are in flight at the end of a poller. They come in in the wrong order, among ticks
and commands that were still to come, and then the success that was issued last is shown for good. -/
theorem shutdown_final_overtaken :
    let p := (Poller.spawn ⟨60000⟩).run [.tick, .refetch]
    let q := (Poller.spawn ⟨60000⟩).run ([.tick, .refetch] ++ .shutdown ::
      [.refetch, .complete 2 (.ok ⟨[], none, [], "t2", []⟩), .tick,
        .complete 1 (.error (.api ⟨500⟩ "late failure"))])
    p.inFlight = [1, 2] ∧ q.inFlight = [] ∧ q.state.error = none ∧
      q.run [.complete 1 (.error (.api ⟨500⟩ "again")), .tick] = q :=
  ⟨rfl, rfl, rfl, (shutdown_final ⟨60000⟩ _ _ (fun _ => ⟨0, .error (.invalidHeader "")⟩)
    [] []).1.2.2.2.2 rfl _⟩

end Clock

end HeatFeed
