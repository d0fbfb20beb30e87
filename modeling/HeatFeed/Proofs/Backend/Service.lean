import HeatFeed.Backend.Service
import HeatFeed.Proofs.Backend.Requests
import Mathlib.Data.List.Induction
import Mathlib.Data.List.ReduceOption

/-!
# The mock backend over time

What the backend has done is told by what has happened to it, in whatever order. It counts and
records requests as they arrive, also while earlier answers are held back. The pushed replies are
given in the order in which they were pushed, each once: what is left of them is the queue.
-/

namespace HeatFeed.Backend

open Http

/-! ### What has happened -/

namespace Input

def arrival? : Input → Option Arrival
  | .request a => some a
  | _ => none

def pushed? : Input → Option Reply
  | .push r => some r
  | _ => none

def default? : Input → Option Reply
  | .setDefault r => some r
  | _ => none

/-- The time that passes. -/
def duration : Input → Nat
  | .wait ms => ms
  | _ => 0

end Input

/-- The requests in order of arrival. -/
def arrivals (inputs : List Input) : List Arrival := inputs.filterMap Input.arrival?

/-- The heatmap requests in order of arrival. -/
def heatmaps (inputs : List Input) : List Arrival :=
  (arrivals inputs).filter fun a => AtHeatmap a.method a.url.path

/-- The pushed replies, oldest first. -/
def pushes (inputs : List Input) : List Reply := inputs.filterMap Input.pushed?

/-- The default reply that was set last. -/
def lastDefault (fallback : Reply) (inputs : List Input) : Reply :=
  (inputs.filterMap Input.default?).getLastD fallback

/-- The time that has passed. -/
def clock (inputs : List Input) : Nat := (inputs.map Input.duration).sum

/-! ### Where replies come from -/

/-- The number of pushed replies among some sources. A source is the place of a reply among those
pushed, or none for a default reply. -/
def taken (sources : List (Option Nat)) : Nat := sources.reduceOption.length

/-- The number of pushed replies that were given before the request that follows some inputs. -/
def given (sources : List (Option Nat)) (before : List Input) : Nat :=
  taken (sources.take (heatmaps before).length)

/-- The place of the oldest pushed reply of which `n` were given, or none if that is all of them. -/
def nextSource (before : List Input) (n : Nat) : Option Nat :=
  if n < (pushes before).length then some n else none

/-- The oldest pushed reply of which `n` were given, or the default if that is all of them. -/
def dueReply (fallback : Reply) (before : List Input) (n : Nat) : Reply :=
  (pushes before)[n]?.getD (lastDefault fallback before)

/-- The answer to a heatmap request that follows some inputs: the status and the body of the reply
that is due. Statuses that no response may carry become a server error, and two others come without
a body. -/
def dueAnswer (fallback : Reply) (before : List Input) (a : Arrival) (n : Nat) : Answer :=
  let reply := dueReply fallback before n
  { asked := a
    arrived := clock before
    response := {
      status := ⟨if 100 ≤ reply.status ∧ reply.status ≤ 999 then reply.status else 500⟩
      body := if reply.status = 204 ∨ reply.status = 304 then [] else Utf8.bytes reply.body }
    due := clock before + reply.delay }

/-- How a heatmap request that follows some inputs is answered. -/
structure Replied (fallback : Reply) (before : List Input) (a : Arrival)
    (sources : List (Option Nat)) (answers : List Answer) : Prop where
  source : sources[(heatmaps before).length]? = some (nextSource before (given sources before))
  answer : answers[(arrivals before).length]? =
    some (dueAnswer fallback before a (given sources before))

/-- The sources of all answers to heatmap requests, in order of arrival. -/
structure Ledger (reader : BodyReader) (fallback : Reply) (inputs : List Input)
    (sources : List (Option Nat)) : Prop where
  length_eq : sources.length = (heatmaps inputs).length
  /-- Pushed replies are given in order, each once and none left out. -/
  in_order : sources.reduceOption = List.range (taken sources)
  taken_le : taken sources ≤ (pushes inputs).length
  queue : (Service.run reader fallback inputs).backend.queue = (pushes inputs).drop (taken sources)
  replied : ∀ before a after, inputs = before ++ .request a :: after →
    AtHeatmap a.method a.url.path →
    Replied fallback before a sources (Service.run reader fallback inputs).answers

/-! ### One more input -/

theorem filterMap_concat {α β : Type} (f : α → Option β) (xs : List α) (x : α) :
    (xs ++ [x]).filterMap f = xs.filterMap f ++ (f x).toList := by
  rw [List.filterMap_append]
  cases kept : f x <;> simp [kept]

section

variable (reader : BodyReader) (fallback : Reply) (inputs : List Input) (i : Input)

theorem run_concat : Service.run reader fallback (inputs ++ [i]) =
    (Service.run reader fallback inputs).step reader i := List.foldl_append

theorem arrivals_concat : arrivals (inputs ++ [i]) = arrivals inputs ++ i.arrival?.toList :=
  filterMap_concat ..

theorem heatmaps_concat : heatmaps (inputs ++ [i]) = heatmaps inputs ++
    i.arrival?.toList.filter fun a => AtHeatmap a.method a.url.path := by
  rw [heatmaps, arrivals_concat, List.filter_append, heatmaps]

theorem pushes_concat : pushes (inputs ++ [i]) = pushes inputs ++ i.pushed?.toList :=
  filterMap_concat ..

theorem pushes_concat_request (a : Arrival) :
    pushes (inputs ++ [.request a]) = pushes inputs :=
  (pushes_concat inputs (.request a)).trans (List.append_nil _)

theorem lastDefault_concat :
    lastDefault fallback (inputs ++ [i]) = i.default?.getD (lastDefault fallback inputs) := by
  rw [lastDefault, filterMap_concat]
  cases i.default? with
  | none => rw [Option.toList_none, List.append_nil]; rfl
  | some r => exact List.getLastD_concat ..

theorem clock_concat : clock (inputs ++ [i]) = clock inputs + i.duration := by
  simp [clock]

end

section

variable (reader : BodyReader) (s : Service) (i : Input)

theorem now_step : (s.step reader i).now = s.now + i.duration := by
  cases i <;> rfl

theorem fallback_step :
    (s.step reader i).backend.fallback = i.default?.getD s.backend.fallback := by
  cases i with
  | request a => exact fallback_answer a reader s.backend
  | _ => rfl

theorem asked_step : (s.step reader i).answers.map Answer.asked =
    s.answers.map Answer.asked ++ i.arrival?.toList := by
  cases i with
  | request a => exact List.map_append
  | _ => exact (List.append_nil _).symm

theorem hits_step : (s.step reader i).backend.hits = s.backend.hits +
    (i.arrival?.toList.filter fun a => AtHeatmap a.method a.url.path).length := by
  cases i with
  | request a =>
    refine (hits_answer a reader s.backend).trans ?_
    by_cases heatmap : AtHeatmap a.method a.url.path <;> simp [Input.arrival?, heatmap]
  | _ => rfl

theorem requests_step : (s.step reader i).backend.requests = s.backend.requests ++
    (i.arrival?.toList.filter fun a => Kept reader a).map (note reader) := by
  cases i with
  | request a =>
    refine (requests_answer a reader s.backend).trans ?_
    by_cases kept : Kept reader a <;> simp [Input.arrival?, kept]
  | _ => exact (List.append_nil _).symm

end

/-! ### Runs -/

variable (reader : BodyReader) (fallback : Reply) (inputs : List Input)

theorem now_run : (Service.run reader fallback inputs).now = clock inputs := by
  induction inputs using List.reverseRecOn with
  | nil => rfl
  | append_singleton inputs i ih => rw [run_concat, now_step, ih, clock_concat]

theorem fallback_run :
    (Service.run reader fallback inputs).backend.fallback = lastDefault fallback inputs := by
  induction inputs using List.reverseRecOn with
  | nil => rfl
  | append_singleton inputs i ih => rw [run_concat, fallback_step, ih, lastDefault_concat]

theorem asked_run :
    (Service.run reader fallback inputs).answers.map Answer.asked = arrivals inputs := by
  induction inputs using List.reverseRecOn with
  | nil => rfl
  | append_singleton inputs i ih => rw [run_concat, asked_step, ih, arrivals_concat]

theorem hits_run :
    (Service.run reader fallback inputs).backend.hits = (heatmaps inputs).length := by
  induction inputs using List.reverseRecOn with
  | nil => rfl
  | append_singleton inputs i ih =>
    rw [run_concat, hits_step, ih, heatmaps_concat, List.length_append]

theorem requests_run : (Service.run reader fallback inputs).backend.requests =
    ((arrivals inputs).filter fun a => Kept reader a).map (note reader) := by
  induction inputs using List.reverseRecOn with
  | nil => rfl
  | append_singleton inputs i ih =>
    rw [run_concat, requests_step, ih, arrivals_concat, List.filter_append, List.map_append]

/-- Of the recorded requests, those of the heatmap are as many as were counted. -/
theorem hits_eq_length_requests : (Service.run reader fallback inputs).backend.hits =
    ((Service.run reader fallback inputs).backend.requests.filter fun r =>
      AtHeatmap r.method r.path).length := by
  rw [hits_run, requests_run, List.filter_map, List.length_map, List.filter_filter, heatmaps]
  refine congrArg List.length (List.filter_congr fun a _ => ?_)
  change _ = (decide (AtHeatmap a.method a.url.path) && decide (Kept reader a))
  rw [← Bool.decide_and]
  exact decide_eq_decide.2 (iff_self_and.2 .inl)

/-! ### The ledger -/

variable {reader fallback inputs} {sources more : List (Option Nat)} {before : List Input}
  {a : Arrival}

theorem answers_request (s : Service) (a : Arrival) :
    (s.step reader (.request a)).answers = s.answers ++
      [⟨a, s.now, (s.backend.answer reader a).1, s.now + s.backend.delay a⟩] := rfl

theorem answers_step (s : Service) (i : Input) : s.answers <+: (s.step reader i).answers := by
  cases i with
  | request a => exact List.prefix_append ..
  | _ => exact List.prefix_rfl

theorem queue_step_of_other {i : Input} (s : Service)
    (h : ∀ a, i = .request a → ¬AtHeatmap a.method a.url.path) :
    (s.step reader i).backend.queue = s.backend.queue ++ i.pushed?.toList := by
  cases i with
  | push r => rfl
  | request a =>
    refine (queue_answer a reader s.backend).trans ?_
    rw [if_neg (h a rfl)]
    exact (List.append_nil _).symm
  | setDefault r => exact (List.append_nil _).symm
  | wait ms => exact (List.append_nil _).symm

/-- What a request was answered with does not change any more. -/
theorem Replied.mono {answers later : List Answer}
    (h : Replied fallback before a sources answers) (hs : sources <+: more)
    (ha : answers <+: later) : Replied fallback before a more later := by
  obtain ⟨source, answer⟩ := h
  obtain ⟨rest, rfl⟩ := hs
  obtain ⟨tail, rfl⟩ := ha
  obtain ⟨below, -⟩ := List.getElem?_eq_some_iff.1 source
  obtain ⟨early, -⟩ := List.getElem?_eq_some_iff.1 answer
  have same : given (sources ++ rest) before = given sources before := by
    rw [given, List.take_append_of_le_length (Nat.le_of_lt below), given]
  constructor
  · rw [same, List.getElem?_append_left below, source]
  · rw [same, List.getElem?_append_left early, answer]

/-- What was answered before stays, so only the last input needs a look. -/
theorem Ledger.replied_concat (h : Ledger reader fallback inputs sources) {i : Input}
    (hs : sources <+: more)
    (last : ∀ a, i = .request a → AtHeatmap a.method a.url.path →
      Replied fallback inputs a more (Service.run reader fallback (inputs ++ [i])).answers)
    {after : List Input} (split : inputs ++ [i] = before ++ .request a :: after)
    (heatmap : AtHeatmap a.method a.url.path) :
    Replied fallback before a more (Service.run reader fallback (inputs ++ [i])).answers := by
  -- the request is the last input, or it was there before
  rcases List.eq_nil_or_concat after with rfl | ⟨middle, j, rfl⟩
  · obtain ⟨rfl, rfl⟩ := List.append_singleton_inj.1 split
    exact last a rfl heatmap
  · rw [List.concat_eq_append, ← List.cons_append, ← List.append_assoc] at split
    obtain ⟨earlier, rfl⟩ := List.append_singleton_inj.1 split
    refine (h.replied before a middle earlier heatmap).mono hs ?_
    rw [run_concat]
    exact answers_step ..

theorem Ledger.concat_of_other (h : Ledger reader fallback inputs sources) {i : Input}
    (other : ∀ a, i = .request a → ¬AtHeatmap a.method a.url.path) :
    Ledger reader fallback (inputs ++ [i]) sources where
  length_eq := by
    have none : (i.arrival?.toList.filter fun a => AtHeatmap a.method a.url.path) = [] := by
      cases i with
      | request a => simpa [Input.arrival?] using other a rfl
      | _ => rfl
    rw [heatmaps_concat, none, List.append_nil, h.length_eq]
  in_order := h.in_order
  taken_le := by
    rw [pushes_concat, List.length_append]
    exact Nat.le_add_right_of_le h.taken_le
  queue := by
    rw [run_concat, queue_step_of_other _ other, h.queue, pushes_concat,
      List.drop_append_of_le_length h.taken_le]
  replied before a after split heatmap :=
    h.replied_concat List.prefix_rfl (fun a request asks => absurd asks (other a request)) split
      heatmap

theorem taken_concat_some (sources : List (Option Nat)) (n : Nat) :
    taken (sources ++ [some n]) = taken sources + 1 := by
  rw [taken, List.reduceOption_append, List.length_append]
  rfl

theorem taken_concat_none (sources : List (Option Nat)) :
    taken (sources ++ [none]) = taken sources := by
  rw [taken, List.reduceOption_append, List.length_append]
  rfl

/-- There is a pushed reply that has not been given, or there is none. -/
theorem nextSource_cases (before : List Input) (n : Nat) :
    (n < (pushes before).length ∧ nextSource before n = some n) ∨
    ((pushes before).length ≤ n ∧ nextSource before n = none) := by
  rcases Nat.lt_or_ge n (pushes before).length with left | none
  · exact .inl ⟨left, if_pos left⟩
  · exact .inr ⟨none, if_neg (Nat.not_lt_of_le none)⟩

/-- The response that a heatmap request gets for a reply. -/
theorem withoutBody_response (get : a.method = "GET") (r : Reply) :
    withoutBody a r.response = {
      status := ⟨if 100 ≤ r.status ∧ r.status ≤ 999 then r.status else 500⟩
      body := if r.status = 204 ∨ r.status = 304 then [] else Utf8.bytes r.body } := by
  have code : Status.isCode r.status = true ↔ 100 ≤ r.status ∧ r.status ≤ 999 := by
    rw [Status.isCode, Bool.and_eq_true, decide_eq_true_iff, decide_eq_true_iff]
  rw [withoutBody, Reply.response, get]
  simp only [code]
  by_cases valid : 100 ≤ r.status ∧ r.status ≤ 999
  · by_cases empty : r.status = 204 ∨ r.status = 304 <;> simp [valid, empty]
  · have full : ¬(r.status = 204 ∨ r.status = 304) := by omega
    simp [valid, full]

/-- A heatmap request is answered with what is first in the queue, or with the default. -/
theorem replied_concat_self (length_eq : sources.length = (heatmaps inputs).length)
    (queue : (Service.run reader fallback inputs).backend.queue =
      (pushes inputs).drop (taken sources))
    (heatmap : AtHeatmap a.method a.url.path) :
    Replied fallback inputs a (sources ++ [nextSource inputs (taken sources)])
      (Service.run reader fallback (inputs ++ [.request a])).answers := by
  have before : given (sources ++ [nextSource inputs (taken sources)]) inputs = taken sources := by
    rw [given, ← length_eq, List.take_left]
  have asked : (Service.run reader fallback inputs).answers.length = (arrivals inputs).length := by
    rw [← asked_run reader fallback, List.length_map]
  have next : (Service.run reader fallback inputs).backend.nextReply.1 =
      dueReply fallback inputs (taken sources) := by
    rw [nextReply_eq, queue, List.head?_drop, fallback_run, dueReply]
  constructor
  · rw [before, ← length_eq, List.getElem?_concat_length]
  · rw [before, run_concat, answers_request, ← asked, List.getElem?_concat_length,
      answer_of_heatmap reader _ heatmap, delay, if_pos (route_of_heatmap heatmap), next, now_run,
      withoutBody_response heatmap.1]
    rfl

theorem Ledger.concat_heatmap (h : Ledger reader fallback inputs sources)
    (heatmap : AtHeatmap a.method a.url.path) :
    Ledger reader fallback (inputs ++ [.request a])
      (sources ++ [nextSource inputs (taken sources)]) where
  length_eq := by
    rw [heatmaps_concat, List.length_append, List.length_append, h.length_eq]
    simp [Input.arrival?, heatmap]
  in_order := by
    rcases nextSource_cases inputs (taken sources) with ⟨left, next⟩ | ⟨none, next⟩
    · rw [next, taken_concat_some, List.reduceOption_append, h.in_order]
      exact List.range_succ.symm
    · rw [next, taken_concat_none, List.reduceOption_append, h.in_order]
      exact List.append_nil _
  taken_le := by
    rw [pushes_concat_request]
    rcases nextSource_cases inputs (taken sources) with ⟨left, next⟩ | ⟨none, next⟩
    · rw [next, taken_concat_some]
      exact left
    · rw [next, taken_concat_none]
      exact h.taken_le
  queue := by
    have rest : (Service.run reader fallback (inputs ++ [.request a])).backend.queue =
        (pushes inputs).drop (taken sources + 1) := by
      rw [run_concat, ← List.tail_drop, ← h.queue]
      exact (queue_answer a reader _).trans (if_pos heatmap)
    rw [rest, pushes_concat_request]
    rcases nextSource_cases inputs (taken sources) with ⟨left, next⟩ | ⟨none, next⟩
    · rw [next, taken_concat_some]
    · -- the queue is empty, and stays so
      rw [next, taken_concat_none, List.drop_of_length_le none,
        List.drop_of_length_le (Nat.le_succ_of_le none)]
  replied before b after split asks := by
    refine h.replied_concat (List.prefix_append ..) (fun c request heatmap => ?_) split asks
    cases request
    exact replied_concat_self h.length_eq h.queue heatmap

theorem ledger_nil : Ledger reader fallback [] [] where
  length_eq := rfl
  in_order := rfl
  taken_le := Nat.le_refl 0
  queue := rfl
  replied before a after split := absurd split (by simp)

theorem exists_ledger (reader : BodyReader) (fallback : Reply) (inputs : List Input) :
    ∃ sources, Ledger reader fallback inputs sources := by
  induction inputs using List.reverseRecOn with
  | nil => exact ⟨[], ledger_nil⟩
  | append_singleton inputs i ih =>
    obtain ⟨sources, ledger⟩ := ih
    by_cases heatmap : ∃ a, i = .request a ∧ AtHeatmap a.method a.url.path
    · obtain ⟨a, rfl, asks⟩ := heatmap
      exact ⟨_, ledger.concat_heatmap asks⟩
    · refine ⟨sources, ledger.concat_of_other fun a request asks => ?_⟩
      exact heatmap ⟨a, request, asks⟩

/-- However the server reads bodies and whatever has happened, in whatever order: each heatmap
request is answered with the oldest pushed reply that has not been given, or with the default that
was set last, and has been counted and recorded on arrival, however long the answer to it is held
back. The records are those of the heatmap and of the echo requests that are accepted. Other
requests change nothing. -/
theorem run_accounted (reader : BodyReader) (fallback : Reply) (inputs : List Input) :
    let s := Service.run reader fallback inputs
    (∃ sources, Ledger reader fallback inputs sources) ∧
    s.backend.fallback = lastDefault fallback inputs ∧
    s.answers.map Answer.asked = arrivals inputs ∧
    s.backend.hits = (heatmaps inputs).length ∧
    s.backend.hits = (s.backend.requests.filter fun r => AtHeatmap r.method r.path).length ∧
    s.backend.requests = ((arrivals inputs).filter fun a => Kept reader a).map (note reader) ∧
    ∀ (b : Backend) (a : Arrival),
      (AtHealth a → b.answer reader a = (⟨.ok, Utf8.bytes "healthy"⟩, b)) ∧
      (¬AtHealth a → ¬AtHeatmap a.method a.url.path → ¬AtEcho a →
        b.answer reader a = (⟨⟨404⟩, []⟩, b)) ∧
      (AtEcho a → ¬Acceptable a →
        (Readable reader a → (b.answer reader a).1.status = ⟨400⟩) ∧ (b.answer reader a).2 = b) ∧
      (AtEcho a → ∀ refusal, reader a = .error refusal →
        (b.answer reader a).1.status = refusal.status ∧ (b.answer reader a).2 = b) :=
  ⟨exists_ledger reader fallback inputs, fallback_run .., asked_run .., hits_run ..,
    hits_eq_length_requests .., requests_run .., fun b _ =>
      ⟨answer_of_health reader b, answer_of_none reader b, answer_of_rejected reader b,
        fun echo _ => answer_of_unread reader b echo⟩⟩

/-- A request of the host `h`. -/
def asking (method path : String) (query : Option String) (body : List UInt8) : Arrival :=
  ⟨⟨"http", "", "", some (.name "h"), none, path, query, none⟩, method, [], body⟩

/-- Two answers are held back, and both requests are counted. A default that is set after a request
has arrived is not for it. An encoded letter of the path is read, an encoded slash is not. A body
that is no text is refused, with whatever query. -/
theorem run_accounted_held_back :
    let slow : Reply := ⟨503, "x", 50⟩
    let quick : Reply := ⟨200, "y", 0⟩
    let get := asking "GET" "/api/analysis/%68eatmap" none []
    let echo (query : String) := asking "POST" "/api/echo" (some query)
    let inputs : List Input := [.push slow, .request get, .wait 10, .request get, .setDefault quick,
      .request (echo "status=%34%318" []), .request (echo "status=70000" []),
      .request (asking "GET" "/api%2Fecho" none []), .push slow, .push quick, .request get,
      .request (echo "status=201" [0xFF])]
    let s := Service.run .utf8 ⟨204, "d", 0⟩ inputs
    s.backend.hits = 3 ∧ s.outstanding.map Answer.due = [50, 60] ∧ s.backend.queue = [quick] ∧
    s.backend.requests.map RecordedRequest.path =
      [get.url.path, get.url.path, "/api/echo", get.url.path] ∧
    (∃ sources, Ledger .utf8 ⟨204, "d", 0⟩ inputs sources ∧ sources[0]? = some (some 0) ∧
      s.answers[0]? = some ⟨get, 0, ⟨⟨503⟩, Utf8.bytes "x"⟩, 50⟩) ∧
    s.answers.map (fun answer => answer.response.status.code) =
      [503, 204, 418, 400, 404, 503, 400] ∧
    (s.answers.map (fun answer => answer.response.body)).take 2 = [Utf8.bytes "x", []] ∧
    (s.backend.answer .utf8 (echo "status=1&status=1" [])).2 = s.backend ∧
    (s.backend.answer .utf8 (echo "" [0xFF])).2 = s.backend := by
  intro slow quick get echo inputs s
  obtain ⟨⟨sources, ledger⟩, -, -, -, -, -, unrecorded⟩ :=
    run_accounted .utf8 ⟨204, "d", 0⟩ inputs
  have first := ledger.replied [.push slow] get _ rfl (by decide +kernel)
  obtain ⟨-, -, rejected, -⟩ := unrecorded s.backend (echo "status=1&status=1" [])
  obtain ⟨-, -, -, unread⟩ := unrecorded s.backend (echo "" [0xFF])
  have refused : BodyReader.utf8 (echo "" [0xFF]) =
      .error ⟨⟨400⟩, Utf8.bytes "Can not decode body"⟩ := by decide +kernel
  exact ⟨by decide +kernel, by decide +kernel, by decide +kernel, by decide +kernel,
    ⟨sources, ledger, first.source, first.answer⟩, by decide +kernel, by decide +kernel,
    (rejected (by decide +kernel) (by decide +kernel)).2, (unread (by decide +kernel) _ refused).2⟩

end HeatFeed.Backend
