import HeatFeed.Poller

/-!
# The poller on a clock

A poller with its timer and its source on a clock of whole milliseconds. Time jumps from one due
event to the next. At each time the cycles that end then come first, then the timer, whose next tick
is one period later whatever the cycles do. A cycle that the source answers at once ends within the
time at which it starts.
-/

namespace HeatFeed

/-- What the source gives to one call: an outcome, after a delay in milliseconds. -/
structure Fetch where
  delay : Nat
  outcome : Outcome

/-- A timer: when it ticks next, and the time between two ticks. -/
structure Timer where
  next : Nat
  period : Nat

/-- A timer that ticks at once and then once per period, which is at least one millisecond. -/
def Timer.starting (now : Nat) (period : Duration) : Timer := ⟨now, max period.milliseconds 1⟩

/-- A cycle that will end. -/
structure Pending where
  due : Nat
  seq : Nat
  outcome : Outcome

/-- A poller on a clock. -/
structure Clock where
  now : Nat
  poller : Poller
  timer : Option Timer
  pending : List Pending
  /-- The times at which the source was called. -/
  calls : Array Nat
  /-- What the source gives to each call, counted from zero. -/
  source : Nat → Fetch

namespace Clock

/-- A poller before any of its work is done. -/
def spawn (source : Nat → Fetch) (period : Duration) : Clock where
  now := 0
  poller := .spawn period
  timer := some (.starting 0 period)
  pending := []
  calls := #[]
  source := source

/-- Starts a cycle, unless the poller is stopped. -/
def launch (c : Clock) : Clock :=
  if c.poller.running then
    let fetch := c.source c.poller.sequence.issued
    let seq := c.poller.sequence.issued + 1
    let c := { c with poller := c.poller.start, calls := c.calls.push c.now }
    if fetch.delay = 0 then { c with poller := c.poller.complete seq fetch.outcome }
    else { c with pending := c.pending ++ [⟨c.now + fetch.delay, seq, fetch.outcome⟩] }
  else c

/-- Ends the cycles that are due. -/
def finish (c : Clock) : Clock :=
  let (due, later) := c.pending.partition (·.due ≤ c.now)
  { c with
    pending := later
    poller := due.foldl (fun p cycle => p.complete cycle.seq cycle.outcome) c.poller }

/-- Starts a cycle if the timer is due. -/
def tick (c : Clock) : Clock :=
  match c.timer with
  | none => c
  | some t =>
    if t.next ≤ c.now then launch { c with timer := some ⟨c.now + t.period, t.period⟩ } else c

/-- Does all work that is due. -/
def settle (c : Clock) : Clock := c.finish.tick

/-- The times at which something will be due. -/
def dueTimes (c : Clock) : List Nat := (c.timer.map Timer.next).toList ++ c.pending.map Pending.due

/-- The first time, after now and up to `limit`, at which something will be due. -/
def nextDue (c : Clock) (limit : Nat) : Option Nat :=
  (c.dueTimes.filter fun t => c.now < t ∧ t ≤ limit).min?

/-- The time set forward, and all work done that is due then. -/
def jump (c : Clock) (time : Nat) : Clock := settle { c with now := time }

/-! ### Waiting -/

theorem now_lt_of_nextDue {c : Clock} {limit t : Nat} (h : c.nextDue limit = some t) :
    c.now < t ∧ t ≤ limit := by
  have := List.min?_mem h
  simpa using (List.mem_filter.1 this).2

@[simp] theorem now_finish (c : Clock) : c.finish.now = c.now := rfl

@[simp] theorem now_launch (c : Clock) : c.launch.now = c.now := by
  unfold launch
  split
  · dsimp only
    split <;> rfl
  · rfl

@[simp] theorem now_tick (c : Clock) : c.tick.now = c.now := by
  unfold tick
  split
  · rfl
  · split
    · rw [now_launch]
    · rfl

@[simp] theorem now_jump (c : Clock) (time : Nat) : (c.jump time).now = time := by
  simp [jump, settle]

/-- Goes through all that is due up to `limit`, and sets the time to it. -/
def advance (c : Clock) (limit : Nat) : Clock :=
  match _h : c.nextDue limit with
  | none => { c with now := limit }
  | some time => (c.jump time).advance limit
termination_by limit - c.now
decreasing_by
  have := now_lt_of_nextDue _h
  simp only [now_jump]
  omega

/-- Waits until the state satisfies a condition, which is looked at once all work of a time is done.
At the deadline the wait ends without success, before the work that is due then. -/
def waitFor (c : Clock) (condition : FetchState → Bool) (deadline : Nat) : Bool × Clock :=
  if condition c.poller.state then (true, c)
  else match _h : c.nextDue (deadline - 1) with
    | none => (false, c.jump deadline)
    | some time => (c.jump time).waitFor condition deadline
termination_by deadline - c.now
decreasing_by
  have := now_lt_of_nextDue _h
  simp only [now_jump]
  omega

/-! ### Steps -/

/-- One step from outside. -/
inductive Step where
  | wait (milliseconds : Nat)
  | refetch (times : Nat)
  | setInterval (period : Duration)
  | waitFor (condition : FetchState → Bool) (timeout : Nat)
  | shutdown

/-- Restarts the timer, unless the poller is stopped. -/
def restart (c : Clock) (period : Duration) : Clock :=
  if c.poller.running then
    settle { c with poller := c.poller.announce period, timer := some (.starting c.now period) }
  else c

/-- Stops the poller and its timer. Cycles in flight go on. -/
def shutdown (c : Clock) : Clock := { c with poller := c.poller.stop, timer := none }

/-- Whether a wait was successful, where there was one, and the clock after a step. -/
def step (c : Clock) : Step → Option Bool × Clock
  | .wait milliseconds => (none, c.advance (c.now + milliseconds))
  | .refetch times => (none, (List.range times).foldl (fun c _ => c.launch) c)
  | .setInterval period => (none, c.restart period)
  | .waitFor condition timeout =>
    let (met, c) := c.waitFor condition (c.now + timeout)
    (some met, c)
  | .shutdown => (none, c.shutdown)

/-- What is seen after a step: the time, the calls and the events since the last look, the state,
and whether a wait was successful. -/
structure Observation where
  time : Nat
  calls : List Nat
  state : FetchState
  log : List Event
  met : Option Bool

/-- What is seen of a clock after it was last looked at. -/
def observe (before after : Clock) (met : Option Bool) : Observation where
  time := after.now
  calls := after.calls.toList.drop before.calls.size
  state := after.poller.state
  log := after.poller.log.toList.drop before.poller.log.size
  met := met

/-- What is seen after each step. -/
def observations (c : Clock) : List Step → List Observation
  | [] => []
  | s :: rest =>
    let (met, next) := c.step s
    observe c next met :: observations next rest

/-- What is seen of a poller from its start: first once all work of time zero is done. -/
def script (source : Nat → Fetch) (period : Duration) (steps : List Step) : List Observation :=
  let fresh := spawn source period
  let first := fresh.settle
  { observe fresh first none with log := first.poller.log.toList } :: observations first steps

end Clock

end HeatFeed
