import HeatFeed.FetchState

/-!
# Poller

A poller starts fetch cycles and publishes the state that comes of their results. Cycles are
numbered in the order in which they start, run side by side and may end in any order. Here time
plays no part: an action says what happens next, and the poller keeps which cycles are in flight
and, as history, every completion in order.
-/

namespace HeatFeed

/-- What a fetch cycle brings back. -/
abbrev Outcome := Except ClientError Snapshot

/-- The result with which a fetch state is resolved. -/
def Outcome.result : Outcome → Except String Snapshot
  | .ok snapshot => .ok snapshot
  | .error e => .error e.message

/-- What is reported when a cycle ends. -/
def Outcome.report : Outcome → List Event
  | .ok _ => []
  | .error e => [.fetchFailed e]

/-- A cycle that has ended. -/
structure Completion where
  seq : Nat
  outcome : Outcome
  /-- Whether its result was applied. -/
  applied : Bool

/-- A poller. -/
structure Poller where
  running : Bool
  sequence : RequestSequence
  inFlight : List Nat
  completed : Array Completion
  /-- The published state. -/
  state : FetchState
  /-- How often the published state has changed. Whoever looks at it remembers the version. -/
  version : Nat
  log : Array Event

namespace Poller

/-- A poller that has started no cycle. -/
def spawn (period : Duration) : Poller where
  running := true
  sequence := .initial
  inFlight := []
  completed := #[]
  state := .initial
  version := 0
  log := #[.pollingEvery period]

/-- Starts a cycle, unless the poller is stopped. -/
def start (p : Poller) : Poller :=
  if p.running then
    let (seq, sequence) := p.sequence.issue
    { p with sequence, inFlight := p.inFlight ++ [seq] }
  else p

/-- Ends cycle `seq`, if it is in flight. This goes on after the poller is stopped. -/
def complete (p : Poller) (seq : Nat) (outcome : Outcome) : Poller :=
  if seq ∈ p.inFlight then
    { p with
      inFlight := p.inFlight.erase seq
      completed := p.completed.push ⟨seq, outcome, p.state.accepts seq⟩
      state := p.state.resolve seq outcome.result
      version := p.version + (p.state.accepts seq).toNat
      log := p.log ++ outcome.report ++ p.state.report seq }
  else p

/-- Reports the period of a new timer, unless the poller is stopped. -/
def announce (p : Poller) (period : Duration) : Poller :=
  if p.running then { p with log := p.log.push (.pollingEvery period) } else p

/-- Starts no cycle from now on. -/
def stop (p : Poller) : Poller := { p with running := false }

/-! ### What an operation leaves alone -/

@[simp] theorem running_start (p : Poller) : p.start.running = p.running := by
  unfold start; split <;> rfl

@[simp] theorem running_announce (p : Poller) (period : Duration) :
    (p.announce period).running = p.running := by
  unfold announce; split <;> rfl

@[simp] theorem running_complete (p : Poller) (seq : Nat) (outcome : Outcome) :
    (p.complete seq outcome).running = p.running := by
  unfold complete; split <;> rfl

@[simp] theorem sequence_announce (p : Poller) (period : Duration) :
    (p.announce period).sequence = p.sequence := by
  unfold announce; split <;> rfl

@[simp] theorem sequence_complete (p : Poller) (seq : Nat) (outcome : Outcome) :
    (p.complete seq outcome).sequence = p.sequence := by
  unfold complete; split <;> rfl

@[simp] theorem inFlight_announce (p : Poller) (period : Duration) :
    (p.announce period).inFlight = p.inFlight := by
  unfold announce; split <;> rfl

/-! ### Runs -/

/-- What may happen to a poller. -/
inductive Action where
  | tick
  | refetch
  | setInterval (period : Duration)
  | complete (seq : Nat) (outcome : Outcome)
  | shutdown

/-- The poller after one action. A new timer ticks by an action of its own. -/
def act (p : Poller) : Action → Poller
  | .tick | .refetch => p.start
  | .setInterval period => p.announce period
  | .complete seq outcome => p.complete seq outcome
  | .shutdown => p.stop

/-- The poller after some actions. -/
def run (p : Poller) (actions : List Action) : Poller := actions.foldl act p

end Poller

end HeatFeed
