import HeatFeed.Proofs.Client.Answer
import HeatFeed.Proofs.Poller.History
import HeatFeed.Watch

/-!
# Lines about changes

A look that finds the state changed gives one line, and nothing else gives any. The line is about
the cycle that was started last among those that have ended: the state has its error, or else its
snapshot, however many results have come in since the last look and in whatever order.
-/

namespace HeatFeed.Watch

open Http Poller

/-- Whether a line tells the state of the heatmap. -/
def tellsState : Event → Bool
  | .unavailable _ | .updated .. => true
  | _ => false

/-- The lines, of those that a watcher has reported, that tell the state. -/
def Watcher.told (w : Watcher) : List Event := w.log.filter tellsState

/-- The cycle that was started last among those that have ended. -/
structure Latest (p : Poller) (c : Completion) : Prop where
  ended : c ∈ p.completed.toList
  last : ∀ d ∈ p.completed.toList, d.seq ≤ c.seq

/-- A line that tells what a cycle has brought: a warning with the error, or a summary. -/
inductive Tells : Outcome → Event → Prop where
  | error {e : ClientError} {line : Event} : e.message ≠ "" → line.level = .warn →
    line.message = "Heatmap unavailable: " ++ e.message → Tells (.error e) line
  | snapshot {s : Snapshot} {line : Event} : line.level = .info →
    line.message = "Heatmap at " ++ s.timestamp ++ ": " ++ toString s.symbols.length ++
      " symbols, timeframes " ++ Text.quoteList s.timeframeCodes ++ ", " ++
      toString s.cells.length ++ " cells" →
    (s.timeframeCodes.Pairwise fun a b => Timeframe.weight a ≤ Timeframe.weight b) →
    Tells (.ok s) line

/-- The outcome of a cycle is what the client made of an answer to it. -/
def Answered (c : Client) (steps : List Step) (d : Completion) : Prop :=
  ∃ transport, .answer d.seq transport ∈ steps ∧ d.outcome = (c.getHeatmap.through transport).result

/-- What holds of a watcher after some steps. -/
structure Sound (c : Client) (steps : List Step) (w : Watcher) : Prop where
  history : History w.poller
  answered : ∀ d ∈ w.poller.completed.toList, Answered c steps d
  seen : w.seen ≤ w.poller.version

variable {c : Client} {steps : List Step} {w : Watcher}

/-! ### One step -/

theorem Answered.append {d : Completion} (h : Answered c steps d) (more : List Step) :
    Answered c (steps ++ more) d := by
  obtain ⟨transport, mem, brought⟩ := h
  exact ⟨transport, List.mem_append_left _ mem, brought⟩

theorem Sound.tick (h : Sound c steps w) : Sound c (steps ++ [.tick]) (w.step c .tick) where
  history := h.history.start
  answered d mem := (h.answered d (completed_start w.poller ▸ mem)).append _
  seen := by
    show w.seen ≤ w.poller.start.version
    rw [version_start]
    exact h.seen

theorem Sound.answer (h : Sound c steps w) (seq : Nat) (transport : Transport) :
    Sound c (steps ++ [.answer seq transport]) (w.step c (.answer seq transport)) where
  history := h.history.complete seq _
  answered d mem := by
    change d ∈ (w.poller.complete seq (c.getHeatmap.through transport).result).completed.toList at mem
    by_cases inFlight : seq ∈ w.poller.inFlight
    · rw [completed_complete inFlight, List.mem_append, List.mem_singleton] at mem
      rcases mem with mem | rfl
      · exact (h.answered d mem).append _
      · exact ⟨transport, List.mem_append_right _ (.head _), rfl⟩
    · rw [complete_of_not_mem inFlight] at mem
      exact (h.answered d mem).append _
  seen := h.seen.trans (version_le_complete ..)

theorem look_of_seen {w : Watcher} (h : w.poller.version ≤ w.seen) : w.look = w :=
  if_neg (Nat.not_lt_of_le h)

theorem look_of_changed {w : Watcher} (h : w.seen < w.poller.version) :
    w.look = { w with
      seen := w.poller.version
      log := w.log ++ (report w.poller.state).toList } := if_pos h

theorem poller_look (w : Watcher) : w.look.poller = w.poller := by
  unfold Watcher.look
  split
  · rfl
  · rfl

/-- After a look the version of the state is the one that has been seen. -/
theorem Sound.seen_look (h : Sound c steps w) : w.look.seen = w.poller.version := by
  rcases Nat.lt_or_ge w.seen w.poller.version with changed | same
  · rw [look_of_changed changed]
  · rw [look_of_seen same]
    exact Nat.le_antisymm h.seen same

theorem Sound.look (h : Sound c steps w) : Sound c (steps ++ [.look]) (w.step c .look) where
  history := by
    show History w.look.poller
    rw [poller_look]
    exact h.history
  answered d mem := by
    change d ∈ w.look.poller.completed.toList at mem
    rw [poller_look] at mem
    exact (h.answered d mem).append _
  seen := by
    show w.look.seen ≤ w.look.poller.version
    rw [h.seen_look, poller_look]

theorem Sound.step (h : Sound c steps w) : ∀ s, Sound c (steps ++ [s]) (w.step c s)
  | .tick => h.tick
  | .answer seq transport => h.answer seq transport
  | .look => h.look

/-! ### Runs -/

theorem run_append (c : Client) (w : Watcher) (xs ys : List Step) :
    w.run c (xs ++ ys) = (w.run c xs).run c ys := List.foldl_append

theorem sound_of (c : Client) (period : Duration) : Sound c [] (.of (.spawn period)) where
  history := history_spawn period
  answered := nofun
  seen := Nat.le_refl 0

theorem sound_watched (config : Config) (steps : List Step) :
    Sound ⟨config.backendUrl⟩ steps (watched config steps) := by
  induction steps using List.reverseRecOn with
  | nil => exact sound_of _ config.refresh
  | append_singleton steps s ih =>
    rw [watched, run_append]
    exact ih.step s

/-! ### Between looks -/

/-- Nothing has been told since, but more cycles may have ended. -/
structure Quiet (w next : Watcher) : Prop where
  told : next.told = w.told
  seen : next.seen = w.seen
  applied : w.poller.applied <+: next.poller.applied

theorem Quiet.refl (w : Watcher) : Quiet w w := ⟨rfl, rfl, List.prefix_refl _⟩

theorem Quiet.trans {a b c : Watcher} (ab : Quiet a b) (bc : Quiet b c) : Quiet a c :=
  ⟨bc.told.trans ab.told, bc.seen.trans ab.seen, ab.applied.trans bc.applied⟩

/-- No line of a poller tells the state. -/
theorem told_lines (outcome : Outcome) (s : FetchState) (seq : Nat) :
    (outcome.report ++ s.report seq).filter tellsState = [] := by
  unfold FetchState.report
  rcases outcome with e | snapshot
  · split
    · rfl
    · rfl
  · split
    · rfl
    · rfl

theorem told_follow {w : Watcher} {p : Poller} {lines : List Event}
    (log : p.log.toList = w.poller.log.toList ++ lines) (none : lines.filter tellsState = []) :
    (w.follow p).told = w.told := by
  rw [Watcher.told, Watcher.follow, log, ← Array.length_toList, List.drop_left, List.filter_append,
    none, List.append_nil]
  rfl

theorem quiet_tick (c : Client) (w : Watcher) : Quiet w (w.step c .tick) where
  told := by
    have log : w.poller.start.log.toList = w.poller.log.toList ++ [] := by
      rw [log_start, List.append_nil]
    exact told_follow log rfl
  seen := rfl
  applied := (applied_start w.poller).symm ▸ List.prefix_refl _

theorem quiet_answer (c : Client) (w : Watcher) (seq : Nat) (transport : Transport) :
    Quiet w (w.step c (.answer seq transport)) := by
  by_cases inFlight : seq ∈ w.poller.inFlight
  · refine ⟨told_follow (log_complete inFlight _) (told_lines ..), rfl, ?_⟩
    show w.poller.applied <+: (w.poller.complete seq (c.getHeatmap.through transport).result).applied
    rw [applied_complete inFlight]
    exact List.prefix_append ..
  · rw [Watcher.step, complete_of_not_mem inFlight]
    exact ⟨told_follow (List.append_nil _).symm rfl, rfl, List.prefix_refl _⟩

theorem quiet_run (c : Client) {quiet : List Step} (h : .look ∉ quiet) (w : Watcher) :
    Quiet w (w.run c quiet) := by
  induction quiet generalizing w with
  | nil => exact .refl w
  | cons s rest ih =>
    rw [List.mem_cons, not_or] at h
    have first : Quiet w (w.step c s) := by
      cases s with
      | tick => exact quiet_tick c w
      | answer seq transport => exact quiet_answer c w seq transport
      | look => exact absurd rfl h.1
    exact first.trans (ih h.2 (w.step c s))

/-! ### Looks -/

theorem exists_latest {p : Poller} (h : p.completed.toList ≠ []) : ∃ d, Latest p d := by
  obtain ⟨first, rest, done⟩ := List.exists_cons_of_ne_nil h
  obtain ⟨r, mem, top⟩ := FetchState.exists_mem_topSeq (Completion.numbered first)
    (rest.map Completion.numbered)
  rw [← List.map_cons, ← done] at mem top
  obtain ⟨d, ended, rfl⟩ := List.mem_map.1 mem
  refine ⟨d, ended, fun e he => ?_⟩
  exact (FetchState.le_topSeq (List.mem_map_of_mem he)).trans_eq top.symm

/-- The state after a completion is told by a line about the cycle that was started last. -/
theorem Sound.report_tells (h : Sound c steps w) {d : Completion} (latest : Latest w.poller d) :
    ∃ line, report w.poller.state = some line ∧ Tells d.outcome line ∧ tellsState line = true := by
  have error := h.history.error_eq latest.ended latest.last
  obtain ⟨transport, -, brought⟩ := h.answered d latest.ended
  rcases Client.getHeatmap_cases c transport with ⟨s, fetched, ascending⟩ | ⟨e, fetched, told⟩
  · have ok : d.outcome = .ok s := brought.trans fetched
    have data := h.history.data_eq latest.ended latest.last (congrArg Outcome.result ok)
    rw [ok] at error ⊢
    refine ⟨summary s, ?_, .snapshot rfl rfl ascending, rfl⟩
    rw [report, error, data]
    rfl
  · have failed : d.outcome = .error e := brought.trans fetched
    rw [failed] at error ⊢
    refine ⟨.unavailable e.message, ?_, .error told rfl rfl, rfl⟩
    rw [report, error]
    simp [Outcome.result, FetchState.errorOf, told]

/-- A look after steps without one tells the last cycle if a result has been applied since the look
before, in one line, and else tells nothing. -/
theorem told_look {seen next : Watcher} (h : Sound c steps next) (quiet : Quiet seen next)
    (looked : seen.seen = seen.poller.version) (before : History seen.poller) :
    (next.poller.applied = seen.poller.applied → next.look.told = seen.told) ∧
    (next.poller.applied ≠ seen.poller.applied → ∃ d line, Latest next.poller d ∧
      Answered c steps d ∧ Tells d.outcome line ∧ next.look.told = seen.told ++ [line]) := by
  -- The version counts the applied results, so the look finds out whether there are more of them.
  have since : next.seen = seen.poller.applied.length := by
    rw [quiet.seen, looked, before.version]
  constructor
  · intro same
    have version : next.poller.version ≤ next.seen := by
      rw [since, h.history.version, same]
    rw [look_of_seen version, quiet.told]
  · intro more
    have longer : seen.poller.applied.length < next.poller.applied.length := by
      refine Nat.lt_of_le_of_ne quiet.applied.length_le fun same => ?_
      exact more (quiet.applied.eq_of_length same).symm
    have changed : next.seen < next.poller.version := by
      rw [since, h.history.version]
      exact longer
    have ended : next.poller.completed.toList ≠ [] := by
      intro none
      have empty : next.poller.applied = [] := by
        rw [Poller.applied, none]
        rfl
      rw [empty] at longer
      exact absurd longer (Nat.not_lt_zero _)
    obtain ⟨d, latest⟩ := exists_latest ended
    obtain ⟨line, reported, tells, state⟩ := h.report_tells latest
    refine ⟨d, line, latest, h.answered d latest.ended, tells, ?_⟩
    rw [look_of_changed changed, reported, ← quiet.told, Watcher.told, List.filter_append]
    show next.told ++ [line].filter tellsState = _
    rw [List.filter_singleton, state]
    rfl

/-! ### The program -/

/-- What is reported of a request is not about the state. -/
theorem told_request (c : Client) (transport : Transport) (url : String) (o : RequestOptions)
    (token : Option String) :
    ((c.request url o token).through transport).log.filter tellsState = [] := by
  rw [Client.request]
  cases c.prepare url o token with
  | error e => rfl
  | ok r =>
    rw [Call.through, Call.run]
    simp only [Client.run_conclude]
    show (Client.reports r (transport r)).filter tellsState = []
    cases transport r with
    | error failure => rfl
    | ok response =>
      rw [Client.reports]
      split
      · rfl
      · rfl

theorem told_checkSession (config : Config) (transport : Transport) :
    (checkSession config transport).events.filter tellsState = [] := by
  rw [checkSession]
  cases config.token with
  | none => rfl
  | some token =>
    show (sessionEvents _).filter tellsState = []
    rw [sessionEvents, List.filter_append, told_request, List.nil_append]
    cases ((Client.request _ _ _ _).through transport).result with
    | ok response => rfl
    | error e => rfl

theorem told_program (config : Config) (transport : Transport) (steps : List Step) :
    ((program config transport steps).filter Event.isShown).filter tellsState =
      (watched config steps).told := by
  have shown : ∀ e : Event, (tellsState e && e.isShown) = tellsState e := by
    intro e
    cases e <;> rfl
  rw [List.filter_filter, funext shown, program, List.filter_append, List.filter_append,
    List.filter_append, told_checkSession]
  exact List.append_nil _

/-- Whatever is answered in whatever order, and whenever the program looks at the state and is
interrupted: the lines that it shows about the state come from looks alone. A look after steps
without one, since the start or the look before, adds no line if no result has been applied in them.
Otherwise it adds exactly one, which tells what an answer has brought to the cycle that was started
last among those that have ended: a warning with the error, which is not empty, or a summary of the
snapshot, whose timeframes are in canonical order. -/
theorem lines_about_changes (config : Config) (transport : Transport) :
    (∀ steps, ((program config transport steps).filter Event.isShown).filter tellsState =
      (watched config steps).told) ∧
    (∀ earlier s, s ≠ .look →
      (watched config (earlier ++ [s])).told = (watched config earlier).told) ∧
    ∀ earlier quiet, (earlier = [] ∨ ∃ before, earlier = before ++ [.look]) → .look ∉ quiet →
      let seen := watched config earlier
      let now := watched config (earlier ++ quiet)
      let looked := watched config (earlier ++ quiet ++ [.look])
      (now.poller.applied = seen.poller.applied → looked.told = seen.told) ∧
      (now.poller.applied ≠ seen.poller.applied → ∃ d line, Latest now.poller d ∧
        Answered ⟨config.backendUrl⟩ (earlier ++ quiet) d ∧ Tells d.outcome line ∧
        looked.told = seen.told ++ [line]) := by
  have between (earlier : List Step) {quiet : List Step} (none : .look ∉ quiet) :
      Quiet (watched config earlier) (watched config (earlier ++ quiet)) := by
    rw [watched, watched, run_append]
    exact quiet_run _ none _
  refine ⟨told_program config transport, fun earlier s other => ?_, ?_⟩
  · exact (between earlier (mt List.mem_singleton.1 other.symm)).told
  · intro earlier quiet start none seen now looked
    have look : looked = now.look := run_append _ _ (earlier ++ quiet) [.look]
    have sound := sound_watched config earlier
    have current : seen.seen = seen.poller.version := by
      rcases start with rfl | ⟨before, rfl⟩
      · rfl
      · have last : seen = (watched config before).look := run_append _ _ before [.look]
        rw [last, (sound_watched config before).seen_look, poller_look]
    rw [look]
    exact told_look (sound_watched config _) (between earlier none) current sound.history

/-- A slow first cycle that fails after the second one has brought a snapshot, of which the line
gives the timeframes in canonical order. -/
theorem lines_about_changes_overtaken :
    let config : Config := ⟨"http://backend", ⟨60000⟩, none⟩
    let fast : Transport := fun _ => .ok
      ⟨⟨200⟩, Utf8.bytes "\x7b\"timeframes\":[\"W1\",\"M5\"],\"timestamp\":\"t2\"\x7d"⟩
    let slow : Transport := fun _ => .ok ⟨⟨502⟩, Utf8.bytes "\x7b\"detail\":\"late\"\x7d"⟩
    let first : List Step := [.tick, .tick, .answer 2 fast]
    let second : List Step := [.answer 1 slow]
    .look ∉ first ∧ .look ∉ second ∧
    (watched config first).poller.applied ≠ (watched config []).poller.applied ∧
    (watched config (first ++ [.look] ++ second)).poller.applied =
      (watched config (first ++ [.look])).poller.applied ∧
    (∃ line, line.level = .info ∧
      line.message = "Heatmap at t2: 0 symbols, timeframes [\"M5\", \"W1\"], 0 cells" ∧
      (watched config (first ++ [.look])).told = [line] ∧
      (watched config (first ++ [.look] ++ second ++ [.look])).told = [line]) := by
  intro config fast slow first second
  obtain ⟨-, -, looks⟩ := lines_about_changes config fast
  have quiet : .look ∉ first := by simp [first]
  have later : .look ∉ second := by simp [second]
  have ordered : Timeframe.sortCodes ["W1", "M5"] = ["M5", "W1"] := by
    have heavier : ¬Timeframe.weight "W1" ≤ Timeframe.weight "M5" := by decide
    simp [Timeframe.sortCodes, List.mergeSort, List.MergeSort.Internal.splitInTwo, heavier]
  have brought : ((Client.getHeatmap ⟨"http://backend"⟩).through fast).result =
      .ok ⟨[], some (Timeframe.sortCodes ["W1", "M5"]), [], "t2", []⟩ := by rfl
  rw [ordered] at brought
  have ended : (watched config first).poller.completed.toList =
      [⟨2, .ok ⟨[], some ["M5", "W1"], [], "t2", []⟩, true⟩] := by
    show ((spawn config.refresh).start.start.complete 2
      ((Client.getHeatmap ⟨"http://backend"⟩).through fast).result).completed.toList = _
    rw [brought]
    rfl
  have more : (watched config first).poller.applied ≠ (watched config []).poller.applied := by
    rw [Poller.applied, ended]
    exact List.cons_ne_nil _ _
  have same : (watched config (first ++ [.look] ++ second)).poller.applied =
      (watched config (first ++ [.look])).poller.applied := by rfl
  have start := looks [] first (.inl rfl) quiet
  rw [List.nil_append] at start
  obtain ⟨d, line, latest, -, tells, told⟩ := start.2 more
  have again := looks (first ++ [.look]) second (.inr ⟨first, rfl⟩) later
  have kept := again.1 same
  have fetched := latest.ended
  rw [ended, List.mem_singleton] at fetched
  rw [fetched] at tells
  cases tells with
  | snapshot level message _ =>
    have printed : line.message =
        "Heatmap at t2: 0 symbols, timeframes [\"M5\", \"W1\"], 0 cells" :=
      message.trans (by decide +kernel)
    exact ⟨quiet, later, more, same, line, level, printed, told, kept.trans told⟩

end HeatFeed.Watch
