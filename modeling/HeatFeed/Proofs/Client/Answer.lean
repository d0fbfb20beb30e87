import HeatFeed.Proofs.Client.Call
import HeatFeed.Proofs.ErrorDetail
import HeatFeed.Proofs.Timeframe

/-!
# Answers to a heatmap request

A response brings a snapshot if it says success and its body is read as one. Otherwise there is an
error with a text, which is never empty: what the body gives as detail, or the fallback, or that the
body was not understood.
-/

namespace HeatFeed

open Http

/-- The snapshot that a response brings, with its timeframes in canonical order. -/
def Http.Response.snapshot? (r : Response) : Option Snapshot :=
  if 200 ≤ r.status.code ∧ r.status.code < 300 then
    (Snapshot.ofBytes r.body).toOption.map Snapshot.normalized
  else none

/-- What is said of a response that brings no snapshot. -/
inductive Http.Response.Explained (r : Response) : String → Prop where
  | detail {d : String} : ¬(200 ≤ r.status.code ∧ r.status.code < 300) → d ≠ "" →
    ErrorDetail.ofBytes r.body = .ok ⟨some d⟩ → Explained r d
  | fallback : ¬(200 ≤ r.status.code ∧ r.status.code < 300) →
    (∀ d, d ≠ "" → ErrorDetail.ofBytes r.body ≠ .ok ⟨some d⟩) →
    Explained r "Failed to fetch heatmap"
  | unexpected {cause : Json.Error} : 200 ≤ r.status.code ∧ r.status.code < 300 →
    Snapshot.ofBytes r.body = .error cause →
    Explained r ("Unexpected response from server: " ++ cause.message)

namespace Client

theorem isSuccess_iff (s : Status) : s.isSuccess = true ↔ 200 ≤ s.code ∧ s.code < 300 := by
  simp [Status.isSuccess]

theorem explained_failureMessage {r : Response}
    (h : ¬(200 ≤ r.status.code ∧ r.status.code < 300)) :
    r.Explained (failureMessage heatmapFallback r.body) := by
  by_cases given : ∃ d, d ≠ "" ∧ ErrorDetail.ofBytes r.body = .ok ⟨some d⟩
  · obtain ⟨d, nonempty, read⟩ := given
    rw [ErrorDetail.failureMessage_of_read read nonempty]
    exact .detail h nonempty read
  · have none (d : String) (nonempty : d ≠ "") : ErrorDetail.ofBytes r.body ≠ .ok ⟨some d⟩ :=
      fun read => given ⟨d, nonempty, read⟩
    rw [ErrorDetail.failureMessage_of_not_read none]
    exact .fallback h none

/-- A response brings a snapshot, or an error that explains why not. -/
theorem readHeatmap_cases (r : Response) :
    (∃ s, readHeatmap r = .ok s ∧ r.snapshot? = some s) ∨
      ∃ e, readHeatmap r = .error e ∧ r.snapshot? = none ∧ r.Explained e.message := by
  rw [readHeatmap, Response.read, Response.snapshot?]
  by_cases success : 200 ≤ r.status.code ∧ r.status.code < 300
  · rw [if_pos ((isSuccess_iff r.status).2 success), if_pos success]
    cases read : Snapshot.ofBytes r.body with
    | ok s => exact .inl ⟨s.normalized, rfl, rfl⟩
    | error cause => exact .inr ⟨.decode cause, rfl, rfl, .unexpected success read⟩
  · rw [if_neg (mt (isSuccess_iff r.status).1 success), if_neg success]
    exact .inr ⟨_, rfl, rfl, explained_failureMessage success⟩

theorem ne_empty_of_explained {r : Response} {text : String} (h : r.Explained text) :
    text ≠ "" := by
  cases h with
  | detail _ nonempty _ => exact nonempty
  | fallback _ _ => decide
  | unexpected _ _ =>
    intro empty
    have := congrArg String.length empty
    rw [String.length_append] at this
    exact absurd this (by simp)

/-- What is fetched depends on the response alone. -/
theorem getHeatmap_of_answer {c : Client} {transport : Transport} {r : Response}
    (h : transport (c.getRequest heatmapPath) = .ok r) :
    (c.getHeatmap.through transport).result = readHeatmap r := by
  rw [getHeatmap, Call.through, run_getResource, Transport.network, h]
  rfl

/-- The timeframes of a snapshot that a response brings stand in canonical order. -/
theorem ascending_of_snapshot? {r : Response} {s : Snapshot} (h : r.snapshot? = some s)
    {codes : List String} (given : s.timeframes = some codes) :
    codes.Pairwise fun a b => Timeframe.weight a ≤ Timeframe.weight b := by
  rw [Response.snapshot?] at h
  split at h
  · obtain ⟨raw, -, rfl⟩ := Option.map_eq_some_iff.1 h
    obtain ⟨unsorted, -, rfl⟩ := Option.map_eq_some_iff.1 given
    exact (Timeframe.stablySorted_sortCodes unsorted).ascending
  · cases h

theorem ascending_codes {r : Response} {s : Snapshot} (h : r.snapshot? = some s) :
    s.timeframeCodes.Pairwise fun a b => Timeframe.weight a ≤ Timeframe.weight b := by
  rw [Snapshot.timeframeCodes]
  cases given : s.timeframes with
  | none => exact List.Pairwise.nil
  | some codes => exact ascending_of_snapshot? h given

theorem network_message_ne_empty (failure : Failure) :
    (ClientError.network failure).message ≠ "" := by
  show "Network error. Please check your connection." ≠ ""
  decide

/-- Whatever becomes of the request: there is a snapshot in canonical order, or an error with a
text. -/
theorem getHeatmap_cases (c : Client) (transport : Transport) :
    (∃ s, (c.getHeatmap.through transport).result = .ok s ∧
      s.timeframeCodes.Pairwise fun a b => Timeframe.weight a ≤ Timeframe.weight b) ∨
    ∃ e, (c.getHeatmap.through transport).result = .error e ∧ e.message ≠ "" := by
  cases answer : transport (c.getRequest heatmapPath) with
  | error failure =>
    refine .inr ⟨.network failure, ?_, network_message_ne_empty failure⟩
    rw [getHeatmap, Call.through, run_getResource, Transport.network, answer]
    rfl
  | ok r =>
    rw [getHeatmap_of_answer answer]
    rcases readHeatmap_cases r with ⟨s, read, brought⟩ | ⟨e, read, -, explained⟩
    · exact .inl ⟨s, read, ascending_codes brought⟩
    · exact .inr ⟨e, read, ne_empty_of_explained explained⟩

end Client

end HeatFeed
