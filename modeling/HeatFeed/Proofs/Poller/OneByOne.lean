import HeatFeed.Proofs.Client.Answer
import HeatFeed.Proofs.Poller.History

/-!
# Cycles one by one

Cycles of which at most one is in flight at every moment end in the order in which they start, so
every result is applied. Then the error is that of the last response, and the snapshot that of the
last response that brought one.
-/

namespace HeatFeed

namespace FetchState

/-! ### Results in turn -/

/-- Results that come in under the numbers from one on. -/
def inTurn (rs : List (Except String Snapshot)) : List Numbered := (List.range' 1 rs.length).zip rs

theorem inTurn_concat (rs : List (Except String Snapshot)) (r : Except String Snapshot) :
    inTurn (rs ++ [r]) = inTurn rs ++ [(rs.length + 1, r)] := by
  rw [inTurn, List.length_append, List.length_singleton, List.range'_concat,
    List.zip_append List.length_range', Nat.one_mul, Nat.add_comm 1]
  rfl

theorem map_fst_inTurn (rs : List (Except String Snapshot)) :
    (inTurn rs).map Prod.fst = List.range' 1 rs.length :=
  List.map_fst_zip (Nat.le_of_eq List.length_range')

theorem map_snd_inTurn (rs : List (Except String Snapshot)) : (inTurn rs).map Prod.snd = rs :=
  List.map_snd_zip (Nat.le_of_eq List.length_range'.symm)

/-- Results in turn are all applied. -/
theorem accepted_inTurn (rs : List (Except String Snapshot)) :
    initial.accepted (inTurn rs) = inTurn rs := by
  induction rs using List.reverseRecOn with
  | nil => rfl
  | append_singleton rs r ih =>
    have accepts : (initial.resolveAll (inTurn rs)).accepts (rs.length + 1) = true := by
      refine (accepts_resolveAll_iff _ _).2 ⟨Nat.succ_pos _, fun e he => ?_⟩
      have := List.mem_map_of_mem (f := Prod.fst) he
      rw [map_fst_inTurn, List.mem_range'_1] at this
      omega
    rw [inTurn_concat, accepted_concat, ih, accepts]
    rfl

theorem loading_inTurn (rs : List (Except String Snapshot)) :
    (initial.resolveAll (inTurn rs)).loading = true ↔ rs = [] := by
  rw [loading_resolveAll_iff, accepted_inTurn, ← List.map_eq_nil_iff, map_snd_inTurn]

/-- The error is that of the last result. -/
theorem error_inTurn (rs : List (Except String Snapshot)) :
    (initial.resolveAll (inTurn rs)).error = rs.getLast?.bind errorOf := by
  rw [error_resolveAll, accepted_inTurn]
  conv => rhs; rw [← map_snd_inTurn rs, List.getLast?_map, Option.bind_map]
  rfl

/-- The snapshot is that of the last success. -/
theorem data_inTurn (rs : List (Except String Snapshot)) :
    (initial.resolveAll (inTurn rs)).data = (rs.filterMap Except.toOption).getLast? := by
  rw [data_resolveAll, shown, accepted_inTurn, ← List.getLast?_map, snapshots, List.map_filterMap]
  conv => rhs; rw [← map_snd_inTurn rs, List.filterMap_map]
  congr 2
  funext r
  exact (Option.map_map ..).trans Option.map_id_apply

end FetchState

namespace Poller

open FetchState

/-- At most one cycle is in flight at every moment. -/
def Alone (p : Poller) (actions : List Action) : Prop :=
  ∀ earlier, earlier <+: actions → (p.run earlier).inFlight.length ≤ 1

/-- Each cycle that ends brings back what the client makes of the response with its number. -/
def Fetched (c : Client) (responses : List Http.Response) (actions : List Action) : Prop :=
  ∀ seq outcome, Action.complete seq outcome ∈ actions → ∃ transport r,
    responses[seq - 1]? = some r ∧ transport (c.getRequest heatmapPath) = .ok r ∧
      outcome = (c.getHeatmap.through transport).result

/-- The result that a response leads to. -/
def resultOf (r : Http.Response) : Except String Snapshot := Outcome.result (Client.readHeatmap r)

/-- The cycles that have ended brought back the first responses, in turn. -/
structure Served (responses : List Http.Response) (p : Poller) : Prop where
  size_le : p.completed.size ≤ responses.length
  results : p.results = inTurn ((responses.take p.completed.size).map resultOf)

theorem Alone.of_append {p : Poller} {xs ys : List Action} (h : Alone p (xs ++ ys)) : Alone p xs :=
  fun earlier part => h earlier (part.trans (List.prefix_append xs ys))

theorem run_concat (p : Poller) (xs : List Action) (a : Action) :
    p.run (xs ++ [a]) = (p.run xs).act a := List.foldl_append

theorem eq_singleton_of_mem {xs : List Nat} {n : Nat} (le : xs.length ≤ 1) (mem : n ∈ xs) :
    xs = [n] := by
  obtain ⟨m, rfl⟩ := List.length_eq_one_iff.1 (Nat.le_antisymm le (List.length_pos_of_mem mem))
  rw [List.mem_singleton.1 mem]

/-- If those that have ended have the numbers from one on, a cycle that is in flight alone has the
next number. -/
theorem History.seq_of_alone {p : Poller} (h : History p) {seq n : Nat} (alone : p.inFlight = [seq])
    (ended : p.completed.toList.map (·.seq) = List.range' 1 n) : seq = n + 1 := by
  have perm := h.started
  rw [alone, ended] at perm
  have issued : p.sequence.issued = n + 1 := by
    have := perm.length_eq
    rw [List.length_append, List.length_range', List.length_range', List.length_singleton] at this
    omega
  rw [issued, List.range'_concat, Nat.one_mul, Nat.add_comm 1] at perm
  have same := (List.perm_append_right_iff _).1 (perm.trans List.perm_append_comm)
  exact List.singleton_perm_singleton.1 same

/-- A cycle that ends alone brings back the next response. -/
theorem Served.complete {p : Poller} {responses : List Http.Response} (h : Served responses p)
    (history : History p) {seq : Nat} (alone : p.inFlight = [seq]) {outcome : Outcome}
    {r : Http.Response} (given : responses[seq - 1]? = some r)
    (fetched : outcome = Client.readHeatmap r) : Served responses (p.complete seq outcome) := by
  have mem : seq ∈ p.inFlight := alone ▸ List.mem_singleton_self seq
  have length : ((responses.take p.completed.size).map resultOf).length = p.completed.size := by
    rw [List.length_map, List.length_take, Nat.min_eq_left h.size_le]
  have next : seq = p.completed.size + 1 := by
    refine history.seq_of_alone alone ?_
    have seqs : p.completed.toList.map (·.seq) = p.results.map Prod.fst := by
      rw [Poller.results, List.map_map]; rfl
    rw [seqs, h.results, map_fst_inTurn, length]
  rw [next, Nat.add_sub_cancel] at given
  have size : (p.complete seq outcome).completed.size = p.completed.size + 1 := by
    rw [← Array.length_toList, completed_complete mem, List.length_append, Array.length_toList]
    rfl
  have lt : p.completed.size < responses.length := (List.getElem?_eq_some_iff.1 given).1
  refine ⟨by omega, ?_⟩
  rw [results_complete mem, size, List.take_add_one, given, Option.toList_some, List.map_append,
    List.map_singleton, inTurn_concat, ← h.results, length, next, fetched]
  rfl

theorem Served.congr {p q : Poller} {responses : List Http.Response} (h : Served responses p)
    (same : q.completed = p.completed) : Served responses q := by
  refine ⟨same ▸ h.size_le, ?_⟩
  rw [Poller.results, same]
  exact h.results

theorem completed_announce (p : Poller) (period : Duration) :
    (p.announce period).completed = p.completed := by
  unfold announce; split <;> rfl

/-- Cycles one by one bring back the responses in turn. -/
theorem served_run (c : Client) (period : Duration) (responses : List Http.Response)
    (actions : List Action) (alone : Alone (spawn period) actions)
    (fetched : Fetched c responses actions) : Served responses ((spawn period).run actions) := by
  induction actions using List.reverseRecOn with
  | nil => exact ⟨Nat.zero_le _, rfl⟩
  | append_singleton xs a ih =>
    have served := ih alone.of_append fun seq outcome mem =>
      fetched seq outcome (List.mem_append_left _ mem)
    have history : History ((spawn period).run xs) := (history_spawn period).run xs
    rw [run_concat]
    cases a with
    | tick | refetch => exact served.congr (completed_start _)
    | setInterval next => exact served.congr (completed_announce _ next)
    | shutdown => exact served.congr rfl
    | complete seq outcome =>
      -- a cycle that is in flight is so alone, and therefore has the next number
      by_cases mem : seq ∈ ((spawn period).run xs).inFlight
      · obtain ⟨transport, r, given, answer, rfl⟩ :=
          fetched seq outcome (List.mem_append_right _ (List.mem_singleton_self _))
        have single := eq_singleton_of_mem (alone xs (List.prefix_append xs _)) mem
        exact served.complete history single given (Client.getHeatmap_of_answer answer)
      · rw [act, complete_of_not_mem mem]
        exact served

/-! ### One cycle after another -/

/-- `n` cycles have started and ended, and another may start. -/
structure Rests (n : Nat) (p : Poller) : Prop where
  running : p.running = true
  issued : p.sequence.issued = n
  inFlight : p.inFlight = []
  size : p.completed.size = n

/-- While a cycle is in flight it is the only one, and then the poller rests again. -/
theorem Rests.cycle {n : Nat} {p : Poller} (h : Rests n p) (outcome : Outcome) :
    p.start.inFlight = [n + 1] ∧ Rests (n + 1) (p.start.complete (n + 1) outcome) := by
  have single : p.start.inFlight = [n + 1] := by
    rw [inFlight_start, h.inFlight, if_pos h.running, h.issued]
    rfl
  have mem : n + 1 ∈ p.start.inFlight := single ▸ List.mem_singleton_self _
  refine ⟨single, ?_, ?_, ?_, ?_⟩
  · rw [running_complete, running_start, h.running]
  · rw [sequence_complete, issued_start, if_pos h.running, h.issued]
  · rw [complete_of_mem mem]
    show p.start.inFlight.erase (n + 1) = []
    rw [single, List.erase_cons_head]
  · rw [← Array.length_toList, completed_complete mem, completed_start, List.length_append,
      Array.length_toList, h.size]
    rfl

/-- All responses can be fetched one after another. -/
theorem exists_fetched (c : Client) (period : Duration) (responses : List Http.Response) :
    ∃ actions, Alone (spawn period) actions ∧ Fetched c responses actions ∧
      Rests responses.length ((spawn period).run actions) := by
  induction responses using List.reverseRecOn with
  | nil =>
    refine ⟨[], fun earlier part => ?_, nofun, rfl, rfl, rfl, rfl⟩
    rw [List.prefix_nil.1 part]
    exact Nat.zero_le 1
  | append_singleton rs r ih =>
    obtain ⟨actions, alone, fetched, rests⟩ := ih
    -- the next cycle starts at rest, and ends before anything else happens
    let outcome := (c.getHeatmap.through fun _ => .ok r).result
    obtain ⟨single, next⟩ := rests.cycle outcome
    have run : (spawn period).run (actions ++ [.tick] ++ [.complete (rs.length + 1) outcome]) =
        ((spawn period).run actions).start.complete (rs.length + 1) outcome := by
      rw [run_concat, run_concat]
      rfl
    refine ⟨actions ++ [.tick] ++ [.complete (rs.length + 1) outcome], fun earlier part => ?_,
      fun seq ended mem => ?_, ?_⟩
    · rcases List.prefix_concat_iff.1 part with rfl | part
      · rw [run, next.inFlight]
        exact Nat.zero_le 1
      rcases List.prefix_concat_iff.1 part with rfl | part
      · rw [run_concat]
        exact Nat.le_of_eq (congrArg List.length single)
      · exact alone earlier part
    · rw [List.append_assoc] at mem
      rcases List.mem_append.1 mem with mem | mem
      · obtain ⟨transport, s, given, answer⟩ := fetched seq ended mem
        have lt := (List.getElem?_eq_some_iff.1 given).1
        exact ⟨transport, s, (List.getElem?_append_left lt).trans given, answer⟩
      · obtain ⟨rfl, rfl⟩ : seq = rs.length + 1 ∧ ended = outcome := by simpa using mem
        exact ⟨fun _ => .ok r, r, List.getElem?_concat_length, rfl, rfl⟩
    · rw [run, List.length_append, List.length_singleton]
      exact next

/-- What can be fetched of the first responses can be fetched of all. -/
theorem Fetched.of_take {c : Client} {responses : List Http.Response} {n : Nat}
    {actions : List Action} (h : Fetched c (responses.take n) actions) :
    Fetched c responses actions := by
  intro seq outcome mem
  obtain ⟨transport, r, given, answer⟩ := h seq outcome mem
  rw [List.getElem?_take] at given
  split at given
  · exact ⟨transport, r, given, answer⟩
  · cases given

/-! ### The state after some responses -/

/-- A response leads to the snapshot that it brings, or to an error that explains why it brings
none. -/
theorem resultOf_cases (r : Http.Response) :
    (∃ s, resultOf r = .ok s ∧ r.snapshot? = some s) ∨
      ∃ e, resultOf r = .error e.message ∧ Client.readHeatmap r = .error e ∧
        r.snapshot? = none ∧ r.Explained e.message := by
  rw [resultOf]
  rcases Client.readHeatmap_cases r with ⟨s, read, brings⟩ | ⟨e, read, brings, explained⟩
  · exact .inl ⟨s, by rw [read]; rfl, brings⟩
  · exact .inr ⟨e, by rw [read]; rfl, read, brings, explained⟩

theorem toOption_resultOf (r : Http.Response) : (resultOf r).toOption = r.snapshot? := by
  rcases resultOf_cases r with ⟨s, result, brings⟩ | ⟨e, result, -, brings, -⟩
  · rw [result, brings]; rfl
  · rw [result, brings]; rfl

section

variable {responses : List Http.Response} {p : Poller}

theorem Served.state_eq (h : Served responses p) (history : History p) :
    p.state =
      initial.resolveAll (inTurn ((responses.take p.completed.size).map resultOf)) := by
  rw [history.state, h.results]

theorem Served.loading_eq (h : Served responses p) (history : History p)
    (some : 0 < p.completed.size) : p.state.loading = false := by
  rw [← Bool.not_eq_true, h.state_eq history, loading_inTurn, List.map_eq_nil_iff,
    ← List.length_eq_zero_iff, List.length_take, Nat.min_eq_left h.size_le]
  exact Nat.ne_of_gt some

/-- The snapshot is that of the last response that brought one. -/
theorem Served.data_eq (h : Served responses p) (history : History p) :
    p.state.data =
      ((responses.take p.completed.size).filterMap Http.Response.snapshot?).getLast? := by
  rw [h.state_eq history, data_inTurn, List.filterMap_map]
  congr 2
  exact funext toOption_resultOf

/-- The error is that of the last response. -/
theorem Served.error_eq (h : Served responses p) (history : History p) {last : Http.Response}
    (isLast : (responses.take p.completed.size).getLast? = some last) :
    p.state.error = errorOf (resultOf last) := by
  rw [h.state_eq history, error_inTurn, List.getLast?_map, isLast]
  rfl

end

/-- Any number of responses can be fetched one after another by cycles of which at most one is in
flight. After each cycle that ends in such a run: loading is over, the snapshot is that of the last
response so far that brought one, its timeframes in canonical order, and there is an error iff the
last response brought none. That error is the text of the failure of the client, which says why, and
is never empty, so no fallback takes its place. -/
theorem run_fetched (c : Client) (period : Duration) (responses : List Http.Response) :
    (∀ n ≤ responses.length, ∃ actions, Alone (spawn period) actions ∧
      Fetched c responses actions ∧ ((spawn period).run actions).completed.size = n) ∧
    ∀ actions, Alone (spawn period) actions → Fetched c responses actions →
      let p := (spawn period).run actions
      let seen := responses.take p.completed.size
      0 < p.completed.size → ∃ last, responses[p.completed.size - 1]? = some last ∧
        p.state.loading = false ∧
        p.state.data = (seen.filterMap Http.Response.snapshot?).getLast? ∧
        (∀ s codes, p.state.data = some s → s.timeframes = some codes →
          codes.Pairwise fun a b => Timeframe.weight a ≤ Timeframe.weight b) ∧
        (p.state.error = none ↔ last.snapshot?.isSome = true) ∧
        ∀ text, p.state.error = some text → text ≠ "" ∧ last.Explained text ∧
          ∀ transport : Http.Transport, transport (c.getRequest heatmapPath) = .ok last →
            ∃ e, (c.getHeatmap.through transport).result = .error e ∧ e.message = text := by
  refine ⟨fun n le => ?_, fun actions alone fetched => ?_⟩
  · obtain ⟨actions, alone, fetched, rests⟩ := exists_fetched c period (responses.take n)
    refine ⟨actions, alone, fetched.of_take, rests.size.trans ?_⟩
    rw [List.length_take, Nat.min_eq_left le]
  · intro p seen positive
    have served : Served responses p := served_run c period responses actions alone fetched
    have history : History p := (history_spawn period).run actions
    have data := served.data_eq history
    have lt : p.completed.size - 1 < responses.length := by
      have := served.size_le
      omega
    have isLast : seen.getLast? = some responses[p.completed.size - 1] := by
      rw [List.getLast?_take, if_neg (Nat.ne_of_gt positive), List.getElem?_eq_getElem lt]
      rfl
    refine ⟨_, List.getElem?_eq_getElem lt, served.loading_eq history positive, data, ?_, ?_⟩
    · intro s codes shown
      rw [data] at shown
      obtain ⟨r, -, brings⟩ := List.mem_filterMap.1 (List.mem_of_getLast? shown)
      exact Client.ascending_of_snapshot? brings
    · rw [served.error_eq history isLast]
      generalize responses[p.completed.size - 1] = last
      rcases resultOf_cases last with ⟨s, result, brings⟩ | ⟨e, result, read, brings, explained⟩
      · rw [result, brings]
        exact ⟨iff_of_true rfl rfl, nofun⟩
      · -- a text that is not empty is shown as it is
        have nonempty := Client.ne_empty_of_explained explained
        rw [result, brings, errorOf, if_neg nonempty]
        refine ⟨iff_of_false (Option.some_ne_none _) Bool.false_ne_true, fun text said => ?_⟩
        obtain rfl := Option.some.inj said
        exact ⟨nonempty, explained, fun transport answer =>
          ⟨e, (Client.getHeatmap_of_answer answer).trans read, rfl⟩⟩

/-- A snapshot, and then a refusal. -/
theorem run_fetched_refused :
    let good : Http.Response := ⟨⟨200⟩, Utf8.bytes "\x7b\"timeframes\":[\"W1\",\"M5\"]\x7d"⟩
    let bad : Http.Response := ⟨⟨502⟩, Utf8.bytes "\x7b\"detail\":\"boom\"\x7d"⟩
    let shown : Snapshot := ⟨[], some ["M5", "W1"], [], "", []⟩
    let actions : List Action := [.tick, .complete 1 (.ok shown),
      .refetch, .complete 2 (.error (.api ⟨502⟩ "boom"))]
    let p := (spawn ⟨60000⟩).run actions
    Alone (spawn ⟨60000⟩) actions ∧ Fetched ⟨"http://backend"⟩ [good, bad] actions ∧
      p.completed.size = 2 ∧ p.state.loading = false ∧ p.state.data = some shown ∧
      p.state.error = some "boom" ∧ bad.Explained "boom" := by
  intro good bad shown actions p
  have decoded : Snapshot.ofBytes good.body = .ok ⟨[], some ["W1", "M5"], [], "", []⟩ := by rfl
  have ordered : Timeframe.sortCodes ["W1", "M5"] = ["M5", "W1"] := by
    have heavier : ¬Timeframe.weight "W1" ≤ Timeframe.weight "M5" := by decide
    simp [Timeframe.sortCodes, List.mergeSort, List.MergeSort.Internal.splitInTwo, heavier]
  have brings : good.snapshot? = some shown := by
    rw [Http.Response.snapshot?, decoded, if_pos (by decide)]
    exact congrArg (fun codes => some (Snapshot.mk [] (some codes) [] "" [])) ordered
  have read : Client.readHeatmap good = .ok shown := by
    rw [Client.readHeatmap, Http.Response.read, decoded]
    exact congrArg (fun codes => Except.ok (Snapshot.mk [] (some codes) [] "" [])) ordered
  have refused : Client.readHeatmap bad = .error (.api ⟨502⟩ "boom") := by rfl
  have alone : Alone (spawn ⟨60000⟩) actions := fun earlier part => by
    rw [List.prefix_iff_eq_take.1 part]
    generalize earlier.length = n
    obtain rfl | rfl | rfl | rfl | le : n = 0 ∨ n = 1 ∨ n = 2 ∨ n = 3 ∨ 4 ≤ n := by omega
    · exact Nat.zero_le 1
    · exact Nat.le_refl 1
    · exact Nat.zero_le 1
    · exact Nat.le_refl 1
    · rw [List.take_of_length_le le]
      exact Nat.zero_le 1
  have fetched : Fetched ⟨"http://backend"⟩ [good, bad] actions := fun seq outcome mem => by
    simp only [actions, List.mem_cons, List.not_mem_nil, reduceCtorEq, false_or, or_false,
      Action.complete.injEq] at mem
    rcases mem with ⟨rfl, rfl⟩ | ⟨rfl, rfl⟩
    · refine ⟨fun _ => .ok good, good, rfl, rfl, ?_⟩
      rw [Client.getHeatmap_of_answer rfl, read]
    · exact ⟨fun _ => .ok bad, bad, rfl, rfl, refused.symm⟩
  obtain ⟨last, isLast, loading, data, -, -, said⟩ :=
    (run_fetched ⟨"http://backend"⟩ ⟨60000⟩ [good, bad]).2 actions alone fetched Nat.two_pos
  refine ⟨alone, fetched, rfl, loading, data.trans ?_, ?_⟩
  · have spoils : bad.snapshot? = none := rfl
    show ([good, bad].filterMap Http.Response.snapshot?).getLast? = some shown
    rw [List.filterMap_cons_some brings, List.filterMap_cons_none spoils]
    rfl
  · obtain rfl := Option.some.inj isLast
    exact ⟨rfl, (said "boom" rfl).2.1⟩

end Poller

end HeatFeed
