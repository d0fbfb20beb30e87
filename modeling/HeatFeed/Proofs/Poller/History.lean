import HeatFeed.Poller
import HeatFeed.Proofs.Fencing.Orders
import Mathlib.Data.List.Induction

/-!
# The history of a poller

What holds of a poller after any actions in any order. Cycles are numbered from one in the order in
which they start, and every cycle that has started is in flight or has ended, once. The published
state is that which the results of the ended cycles leave in the order in which they came in. Every
failure is reported once and every refused result once, and the version counts the applied results.
-/

namespace HeatFeed.Poller

open FetchState

/-- The result of a completion, with its number. -/
def Completion.numbered (c : Completion) : Numbered := (c.seq, c.outcome.result)

/-- The results of the cycles that have ended, in the order in which they came in. -/
def results (p : Poller) : List Numbered := p.completed.toList.map Completion.numbered

/-- The completions whose results were applied. -/
def applied (p : Poller) : List Completion := p.completed.toList.filter (·.applied)

/-- The completions whose results were refused. -/
def discarded (p : Poller) : List Completion := p.completed.toList.filter (!·.applied)

/-- What is reported of the failures. -/
def failures (p : Poller) : List Event :=
  p.completed.toList.filterMap fun c => match c.outcome with
    | .ok _ => none
    | .error e => some (.fetchFailed e)

/-- The number of a cycle whose result is reported as refused. -/
def refusedSeq : Event → Option Nat
  | .discarded seq _ => some seq
  | _ => none

/-- Whether an action asks for a cycle. -/
def Action.asks : Action → Bool
  | .tick | .refetch => true
  | .setInterval _ | .complete .. | .shutdown => false

/-- Whether an action stops the poller. -/
def Action.stops : Action → Bool
  | .shutdown => true
  | .tick | .refetch | .setInterval _ | .complete .. => false

/-- How many cycles some actions ask for before the poller is stopped. -/
def asked (actions : List Action) : Nat := (actions.takeWhile (!·.stops)).countP (·.asks)

/-- The numbers of the cycles that some actions start, in order: those that are in flight after an
action and were not before it. -/
def starts (p : Poller) : List Action → List Nat
  | [] => []
  | a :: rest => (p.act a).inFlight.filter (· ∉ p.inFlight) ++ (p.act a).starts rest

/-- What ties the parts of a poller together. -/
structure History (p : Poller) : Prop where
  /-- The cycles that have started, from one on, are in flight or have ended. -/
  started : (p.inFlight ++ p.completed.toList.map (·.seq)).Perm (List.range' 1 p.sequence.issued)
  state : p.state = initial.resolveAll p.results
  applied : p.applied.map Completion.numbered = initial.accepted p.results
  failures : p.log.toList.filter (·.level = .error) = p.failures
  discarded : p.log.toList.filterMap refusedSeq = p.discarded.map (·.seq)
  version : p.version = p.applied.length

theorem history_spawn (period : Duration) : History (spawn period) where
  started := List.Perm.refl _
  state := rfl
  applied := rfl
  failures := rfl
  discarded := rfl
  version := rfl

/-! ### What an operation leaves alone -/

@[simp] theorem results_start (p : Poller) : p.start.results = p.results := by
  unfold start; split <;> rfl

@[simp] theorem results_announce (p : Poller) (period : Duration) :
    (p.announce period).results = p.results := by
  unfold announce; split <;> rfl

theorem completed_start (p : Poller) : p.start.completed = p.completed := by
  unfold start; split <;> rfl

theorem applied_start (p : Poller) : p.start.applied = p.applied := by
  unfold start; split <;> rfl

theorem version_start (p : Poller) : p.start.version = p.version := by
  unfold start; split <;> rfl

theorem log_start (p : Poller) : p.start.log = p.log := by
  unfold start; split <;> rfl

/-! ### What an operation does -/

theorem issued_start (p : Poller) :
    p.start.sequence.issued = p.sequence.issued + if p.running then 1 else 0 := by
  unfold start; split <;> rfl

theorem inFlight_start (p : Poller) :
    p.start.inFlight = p.inFlight ++ if p.running then [p.sequence.issued + 1] else [] := by
  unfold start
  split
  · rfl
  · exact (List.append_nil _).symm

theorem inFlight_complete_subset (p : Poller) (seq : Nat) (outcome : Outcome) :
    (p.complete seq outcome).inFlight ⊆ p.inFlight := by
  unfold complete
  split
  · exact List.erase_subset
  · exact List.Subset.refl _

theorem version_le_complete (p : Poller) (seq : Nat) (outcome : Outcome) :
    p.version ≤ (p.complete seq outcome).version := by
  unfold complete
  split
  · exact Nat.le_add_right _ _
  · exact Nat.le_refl _

theorem complete_of_mem {p : Poller} {seq : Nat} (mem : seq ∈ p.inFlight) (outcome : Outcome) :
    p.complete seq outcome =
      { p with
        inFlight := p.inFlight.erase seq
        completed := p.completed.push ⟨seq, outcome, p.state.accepts seq⟩
        state := p.state.resolve seq outcome.result
        version := p.version + (p.state.accepts seq).toNat
        log := p.log ++ outcome.report ++ p.state.report seq } := if_pos mem

theorem complete_of_not_mem {p : Poller} {seq : Nat} (mem : seq ∉ p.inFlight) (outcome : Outcome) :
    p.complete seq outcome = p := if_neg mem

theorem completed_complete {p : Poller} {seq : Nat} (mem : seq ∈ p.inFlight) (outcome : Outcome) :
    (p.complete seq outcome).completed.toList =
      p.completed.toList ++ [⟨seq, outcome, p.state.accepts seq⟩] := by
  rw [complete_of_mem mem]
  exact Array.toList_push

theorem log_complete {p : Poller} {seq : Nat} (mem : seq ∈ p.inFlight) (outcome : Outcome) :
    (p.complete seq outcome).log.toList =
      p.log.toList ++ (outcome.report ++ p.state.report seq) := by
  rw [complete_of_mem mem]
  simp only [Array.toList_appendList, List.append_assoc]

theorem results_complete {p : Poller} {seq : Nat} (mem : seq ∈ p.inFlight) (outcome : Outcome) :
    (p.complete seq outcome).results = p.results ++ [(seq, outcome.result)] := by
  rw [results, completed_complete mem, List.map_append]
  rfl

theorem applied_complete {p : Poller} {seq : Nat} (mem : seq ∈ p.inFlight) (outcome : Outcome) :
    (p.complete seq outcome).applied =
      p.applied ++ if p.state.accepts seq then [⟨seq, outcome, p.state.accepts seq⟩] else [] := by
  rw [applied, completed_complete mem, List.filter_append]
  cases p.state.accepts seq
  · rfl
  · rfl

/-! ### One action -/

theorem History.start {p : Poller} (h : History p) : History p.start := by
  unfold Poller.start
  split
  · refine { h with started := ?_ }
    show (p.inFlight ++ [p.sequence.issued + 1] ++ p.completed.toList.map (·.seq)).Perm
      (List.range' 1 (p.sequence.issued + 1))
    rw [List.range'_concat, Nat.one_mul, Nat.add_comm 1, List.append_assoc]
    refine (List.perm_append_comm.append_left _).trans ?_
    rw [← List.append_assoc]
    exact h.started.append_right _
  · exact h

/-- The lines about a completion: one if it failed, and one if its result is refused. -/
theorem report_lines (outcome : Outcome) (s : FetchState) (seq : Nat) :
    (outcome.report ++ s.report seq).filter (·.level = .error) = outcome.report ∧
      (outcome.report ++ s.report seq).filterMap refusedSeq =
        if s.accepts seq then [] else [seq] := by
  unfold FetchState.report
  rcases outcome with e | snapshot
  · split
    · exact ⟨rfl, rfl⟩
    · exact ⟨rfl, rfl⟩
  · split
    · exact ⟨rfl, rfl⟩
    · exact ⟨rfl, rfl⟩

theorem History.complete {p : Poller} (h : History p) (seq : Nat) (outcome : Outcome) :
    History (p.complete seq outcome) := by
  by_cases mem : seq ∈ p.inFlight
  · have applied := applied_complete mem outcome
    have lines := report_lines outcome p.state seq
    refine ⟨?_, ?_, ?_, ?_, ?_, ?_⟩
    · -- the number moves from the cycles in flight to those that have ended
      rw [completed_complete mem, complete_of_mem mem, List.map_append]
      refine .trans ?_ h.started
      refine (List.perm_append_comm.append_left _).trans ?_
      rw [← List.append_assoc]
      refine List.Perm.append_right _ ?_
      exact List.perm_append_comm.trans (List.perm_cons_erase mem).symm
    · rw [results_complete mem, resolveAll_concat, ← h.state, complete_of_mem mem]
    · rw [results_complete mem, accepted_concat, ← h.applied, ← h.state, applied, List.map_append]
      cases p.state.accepts seq
      · rfl
      · rfl
    · rw [log_complete mem, List.filter_append, lines.1, h.failures, Poller.failures,
        Poller.failures, completed_complete mem, List.filterMap_append]
      cases outcome
      · rfl
      · rfl
    · rw [log_complete mem, List.filterMap_append, lines.2, h.discarded, Poller.discarded,
        Poller.discarded, completed_complete mem, List.filter_append, List.map_append]
      cases p.state.accepts seq
      · rfl
      · rfl
    · rw [applied, List.length_append, ← h.version, complete_of_mem mem]
      cases p.state.accepts seq
      · rfl
      · rfl
  · rw [complete_of_not_mem mem]; exact h

theorem History.announce {p : Poller} (h : History p) (period : Duration) :
    History (p.announce period) := by
  unfold Poller.announce
  split
  · refine { h with failures := ?_, discarded := ?_ }
    · rw [Array.toList_push, List.filter_append, h.failures]
      exact List.append_nil _
    · rw [Array.toList_push, List.filterMap_append, h.discarded]
      exact List.append_nil _
  · exact h

theorem History.stop {p : Poller} (h : History p) : History p.stop := { h with }

theorem History.act {p : Poller} (h : History p) : ∀ a : Action, History (p.act a)
  | .tick => h.start
  | .refetch => h.start
  | .setInterval period => h.announce period
  | .complete seq outcome => h.complete seq outcome
  | .shutdown => h.stop

/-! ### Numbers -/

theorem History.le_issued {p : Poller} (h : History p) {seq : Nat}
    (mem : seq ∈ p.inFlight ++ p.completed.toList.map (·.seq)) :
    0 < seq ∧ seq ≤ p.sequence.issued := by
  have := List.mem_range'_1.1 (h.started.mem_iff.1 mem)
  omega

theorem History.cycles {p : Poller} (h : History p) : Cycles p.results := by
  have seqs : p.results.map Prod.fst = p.completed.toList.map (·.seq) := by
    rw [results, List.map_map]; rfl
  constructor
  · rw [seqs]
    exact (h.started.nodup_iff.2 List.nodup_range').of_append_right
  · intro r hr
    have mem : r.1 ∈ p.completed.toList.map (·.seq) := seqs ▸ List.mem_map_of_mem hr
    exact (h.le_issued (List.mem_append_right _ mem)).1

/-- Nothing is new in a part. -/
theorem filter_not_mem_of_subset {xs ys : List Nat} (h : xs ⊆ ys) :
    xs.filter (· ∉ ys) = [] := by
  refine List.filter_eq_nil_iff.2 fun x hx => ?_
  simpa using h hx

theorem issued_act (p : Poller) (a : Action) :
    (p.act a).sequence.issued = p.sequence.issued + if p.running && a.asks then 1 else 0 := by
  cases a <;> simp [act, Action.asks, issued_start, stop]

theorem running_act (p : Poller) (a : Action) : (p.act a).running = (p.running && !a.stops) := by
  cases a <;> simp [act, Action.stops, stop]

/-- The next number is given to the cycle that an action asks for, as long as the poller runs. -/
theorem History.act_starts {p : Poller} (h : History p) (a : Action) :
    (p.act a).inFlight.filter (· ∉ p.inFlight) =
      if p.running && a.asks then [p.sequence.issued + 1] else [] := by
  have old : p.inFlight.filter (· ∉ p.inFlight) = [] :=
    filter_not_mem_of_subset (List.Subset.refl _)
  have new : p.sequence.issued + 1 ∉ p.inFlight := fun mem => by
    have := (h.le_issued (List.mem_append_left _ mem)).2
    omega
  have start : p.start.inFlight.filter (· ∉ p.inFlight) =
      if p.running then [p.sequence.issued + 1] else [] := by
    rw [inFlight_start, List.filter_append, old]
    cases p.running <;> simp [new]
  cases a with
  | tick | refetch => rw [Poller.act, Action.asks, Bool.and_true]; exact start
  | setInterval period => rw [Poller.act, inFlight_announce, old, Action.asks, Bool.and_false]; rfl
  | complete seq outcome =>
    rw [Poller.act, Action.asks, Bool.and_false]
    exact filter_not_mem_of_subset (inFlight_complete_subset p seq outcome)
  | shutdown => rw [Action.asks, Bool.and_false]; exact old

theorem asked_cons (a : Action) (rest : List Action) :
    asked (a :: rest) = if a.stops then 0 else (if a.asks then 1 else 0) + asked rest := by
  unfold asked
  rw [List.takeWhile_cons]
  cases a.stops
  · simp [List.countP_cons, Nat.add_comm]
  · simp

/-! ### Runs -/

theorem History.run {p : Poller} (h : History p) : ∀ actions : List Action, History (p.run actions)
  | [] => h
  | a :: rest => (h.act a).run rest

/-- A run starts as many cycles as it asks for while the poller runs, under the next numbers. -/
theorem History.run_starts {p : Poller} (h : History p) : ∀ actions : List Action,
    p.starts actions =
        List.range' (p.sequence.issued + 1) (if p.running then asked actions else 0) ∧
      (p.run actions).sequence.issued =
        p.sequence.issued + if p.running then asked actions else 0
  | [] => by
    cases p.running <;> exact ⟨rfl, rfl⟩
  | a :: rest => by
    obtain ⟨starts, issued⟩ := (h.act a).run_starts rest
    have run : (p.run (a :: rest)).sequence.issued = ((p.act a).run rest).sequence.issued := rfl
    rw [Poller.starts, h.act_starts, starts, run, issued, issued_act, running_act, asked_cons]
    cases p.running
    · exact ⟨rfl, rfl⟩
    · cases a <;> simp [Action.asks, Action.stops, Nat.add_comm 1, List.range'_succ] <;> omega

theorem results_act (p : Poller) (a : Action) : p.results <+: (p.act a).results := by
  cases a with
  | tick | refetch => simp only [act, results_start, List.prefix_refl]
  | setInterval period => simp only [act, results_announce, List.prefix_refl]
  | complete seq outcome =>
    by_cases mem : seq ∈ p.inFlight
    · rw [act, results_complete mem]
      exact List.prefix_append ..
    · simp only [act, complete_of_not_mem mem, List.prefix_refl]
  | shutdown => exact List.prefix_refl _

/-- What has come in stays. -/
theorem results_run (p : Poller) : ∀ actions : List Action, p.results <+: (p.run actions).results
  | [] => List.prefix_refl _
  | a :: rest => (results_act p a).trans (results_run (p.act a) rest)

theorem History.error_eq {p : Poller} (h : History p) {c : Completion}
    (mem : c ∈ p.completed.toList) (top : ∀ d ∈ p.completed.toList, d.seq ≤ c.seq) :
    p.state.error = errorOf c.outcome.result := by
  rw [h.state]
  refine h.cycles.error_eq (List.mem_map_of_mem mem) fun e he => ?_
  obtain ⟨d, hd, rfl⟩ := List.mem_map.1 he
  exact top d hd

theorem History.data_eq {p : Poller} (h : History p) {c : Completion}
    (mem : c ∈ p.completed.toList) (top : ∀ d ∈ p.completed.toList, d.seq ≤ c.seq)
    {snapshot : Snapshot} (ok : c.outcome.result = .ok snapshot) :
    p.state.data = some snapshot := by
  have brought : (c.seq, .ok snapshot) ∈ p.results := ok ▸ List.mem_map_of_mem mem
  rw [h.state]
  refine h.cycles.data_eq brought fun e he => ?_
  obtain ⟨d, hd, rfl⟩ := List.mem_map.1 he
  exact top d hd

/-- What some actions have made of a new poller. -/
structure Account (period : Duration) (actions : List Action) (p : Poller) : Prop where
  /-- Cycles have the numbers from one on in the order of their starts. -/
  starts : (spawn period).starts actions = List.range' 1 (asked actions)
  /-- Each of them is in flight, applied or discarded. -/
  partition : (p.inFlight ++ (p.applied.map (·.seq) ++ p.discarded.map (·.seq))).Perm
    (List.range' 1 (asked actions))
  /-- None ends twice. -/
  once : (p.completed.toList.map (·.seq)).Nodup
  state : p.state = initial.resolveAll p.results
  applied : p.applied.map Completion.numbered = initial.accepted p.results
  loading : p.state.loading = false ↔ p.completed.toList ≠ []
  no_error : p.completed.toList = [] → p.state.error = none
  /-- The error is that of the cycle with the greatest number. -/
  error : ∀ c ∈ p.completed.toList, (∀ d ∈ p.completed.toList, d.seq ≤ c.seq) →
    p.state.error = errorOf c.outcome.result
  data : p.state.data = (shown p.results).map Prod.snd
  /-- The number of the snapshot that is shown never decreases. -/
  newer : ∀ more c d, shown p.results = some c → shown (p.run more).results = some d → c.1 ≤ d.1
  failures : p.log.toList.filter (·.level = .error) = p.failures
  discarded : p.log.toList.filterMap refusedSeq = p.discarded.map (·.seq)
  version : p.version = p.applied.length

/-- Whatever happens in whatever order, also after the poller is stopped: cycles have the numbers
from one on in the order of their starts, and each of them is in flight, applied or discarded, and
ends once. The state is what the results leave in the order in which they came in: loading is over
once one has, and the error is that of the cycle with the greatest number, with the fallback for an
empty message. The number of the snapshot that is shown never decreases. Each failure is reported
once and each discarded result once, and the version has changed once for each applied result. -/
theorem run_history (period : Duration) (actions : List Action) :
    Account period actions ((spawn period).run actions) := by
  have h : History ((spawn period).run actions) := (history_spawn period).run actions
  obtain ⟨starts, issued⟩ := (history_spawn period).run_starts actions
  have issued : ((spawn period).run actions).sequence.issued = asked actions :=
    issued.trans (Nat.zero_add _)
  generalize (spawn period).run actions = p at h issued
  have split : (p.applied ++ p.discarded).Perm p.completed.toList := List.filter_append_perm _ _
  refine ⟨starts, ?_, ?_, h.state, h.applied, ?_, ?_, fun c mem top => h.error_eq mem top, ?_, ?_,
    h.failures, h.discarded, h.version⟩
  · rw [← issued, ← List.map_append]
    exact ((split.map _).append_left _).trans h.started
  · exact (h.started.nodup_iff.2 List.nodup_range').of_append_right
  · rw [← Bool.not_eq_true, h.state, h.cycles.loading_iff, results, List.map_eq_nil_iff]
  · intro nil
    rw [h.state, results, nil]
    rfl
  · rw [h.state]; exact data_resolveAll p.results
  · intro more c d hc hd
    obtain ⟨later, eq⟩ := results_run p more
    exact shown_le hc (eq ▸ hd)

/-- A slow first cycle that fails after it has been overtaken. -/
theorem run_history_overtaken :
    let slow : Completion := ⟨1, .error (.api ⟨500⟩ "late failure"), false⟩
    let fast : Completion := ⟨2, .ok ⟨[], none, [], "t2", []⟩, true⟩
    let p := (spawn ⟨60000⟩).run [.tick, .refetch, .complete 2 fast.outcome,
      .complete 1 slow.outcome]
    fast ∈ p.completed.toList ∧ (∀ d ∈ p.completed.toList, d.seq ≤ 2) ∧ p.state.error = none := by
  intro slow fast p
  have mem : fast ∈ p.completed.toList := List.mem_cons_self
  have top : ∀ d ∈ p.completed.toList, d.seq ≤ 2 :=
    List.forall_mem_cons.2 ⟨Nat.le_refl 2, List.forall_mem_singleton.2 (Nat.le_succ 1)⟩
  exact ⟨mem, top, (run_history _ _).error fast mem top⟩

/-- The error is not the message of the failure where that is empty. -/
theorem empty_message_not_shown :
    let failure : ClientError := .api ⟨500⟩ ""
    let p := (spawn ⟨60000⟩).run [.tick, .complete 1 (.error failure)]
    p.completed.toList.map (·.seq) = [1] ∧ p.state.error = some "Failed to fetch heatmap" ∧
      p.state.error ≠ some failure.message := ⟨rfl, rfl, by decide⟩

end HeatFeed.Poller
