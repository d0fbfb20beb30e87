import HeatFeed.Proofs.Client.Headers

/-!
# Authenticated calls

What a call attempts, concludes and reports, whatever the network and its state. With a token that
cannot be sent nothing is attempted and nothing reported, whatever the URL. Otherwise there is one
request, which is never repeated, and what is concluded depends on what comes of it and on nothing
else.
-/

namespace HeatFeed

open Http

namespace Client

variable {σ : Type} (network : Network σ) (s : σ)

/-! ### Resources of the interface -/

/-- Asking for a resource takes one request. -/
theorem run_getResource {α : Type} (c : Client) (path : String)
    (read : Response → Except ClientError α) :
    (c.getResource path read).run network s =
      let (outcome, after) := network (c.getRequest path) s
      (⟨[c.getRequest path], outcome.mapError .network >>= read, []⟩, after) := by
  rw [getResource, Call.run]
  obtain ⟨outcome, after⟩ := network (c.getRequest path) s
  cases outcome with
  | error failure => rfl
  | ok response => rfl

/-! ### One authenticated call -/

/-- The request of a call whose token can be sent. -/
def prepared (c : Client) (url : String) (o : RequestOptions) (token : Option String) : Request :=
  ⟨o.method, c.resolve url, (standardHeaders token).override o.headers, o.body⟩

theorem prepare_of_sendable {token : Option String} (h : ∀ t, token = some t → Sendable t)
    (c : Client) (url : String) (o : RequestOptions) :
    c.prepare url o token = .ok (c.prepared url o token) := by
  rw [prepare, mergeHeaders_of_sendable h]
  rfl

theorem request_of_sendable {token : Option String} (h : ∀ t, token = some t → Sendable t)
    (c : Client) (url : String) (o : RequestOptions) :
    c.request url o token = .send (c.prepared url o token) (conclude (c.prepared url o token)) := by
  rw [request, prepare_of_sendable h]

theorem request_of_not_sendable {t : String} (h : ¬Sendable t) (c : Client) (url : String)
    (o : RequestOptions) :
    c.request url o (some t) = .done (.error (.invalidHeader "authorization")) := by
  rw [request, prepare, mergeHeaders_of_not_sendable h]
  rfl

/-- What an authenticated call reports after its request. -/
def reports (r : Request) : Except Failure Response → List Event
  | .error failure => [.requestFailed r.url failure]
  | .ok response => if response.status = .unauthorized then [.unauthorized r.url] else []

/-- After its request a call attempts no other and leaves the network alone. -/
theorem run_conclude (r : Request) (outcome : Except Failure Response) :
    (conclude r outcome).run network s =
      (⟨[], outcome.mapError .network, reports r outcome⟩, s) := by
  cases outcome with
  | error failure => rfl
  | ok response =>
    rw [conclude, reports]
    split
    · rfl
    · rfl

/-- One attempt, and what is concluded from it. -/
def attempt (r : Request) : Exchange Response × σ :=
  (⟨[r], (network r s).1.mapError .network, reports r (network r s).1⟩, (network r s).2)

theorem run_of_sendable {token : Option String} (h : ∀ t, token = some t → Sendable t)
    (c : Client) (url : String) (o : RequestOptions) :
    (c.request url o token).run network s = attempt network s (c.prepared url o token) := by
  rw [request_of_sendable h, Call.run]
  simp only [run_conclude]
  rfl

/-! ### What is said of a call -/

/-- How serious each reported event is, and what is said of it. -/
def said (log : List Event) : List (Level × String) := log.map fun e => (e.level, e.message)

theorem message_requestFailed (url : String) (failure : Failure) :
    (Event.requestFailed url failure).message =
      "Request to " ++ url ++ " failed: " ++ failure.message := by
  show "Request to " ++ url ++ " failed" ++ ": " ++ failure.message = _
  rw [@String.append_assoc ("Request to " ++ url) " failed" ": "]
  rfl

/-- A call that passes a response on, and warns if it says that the session is not accepted. -/
structure Passes (r : Request) (response : Response) (e : Exchange Response) : Prop where
  result : e.result = .ok response
  warned : said e.log = if response.status.code = 401 then
    [(.warn, "Unauthorized response from " ++ r.url)] else []

/-- A call that fails at the network, with one report and no warning. -/
structure Fails (r : Request) (failure : Failure) (e : Exchange Response) : Prop where
  result : e.result = .error (.network failure)
  reported : said e.log = [(.error, "Request to " ++ r.url ++ " failed: " ++ failure.message)]

/-- A call that attempts one request and no other, in a state of the network that this request alone
moves on. -/
structure Attempts (r : Request) (network : Network σ) (s : σ) (e : Exchange Response × σ) : Prop
    where
  attempted : e.1.attempted = [r]
  moved : e.2 = (network r s).2
  answered : ∀ response, (network r s).1 = .ok response → Passes r response e.1
  failed : ∀ failure, (network r s).1 = .error failure → Fails r failure e.1

theorem said_reports_ok (r : Request) (response : Response) :
    said (reports r (.ok response)) = if response.status.code = 401 then
      [(.warn, "Unauthorized response from " ++ r.url)] else [] := by
  obtain ⟨⟨code⟩, body⟩ := response
  by_cases unauthorized : code = 401
  · rw [unauthorized]
    rfl
  · have other : (⟨code⟩ : Status) ≠ .unauthorized :=
      fun same => unauthorized (congrArg Status.code same)
    rw [reports, if_neg other, if_neg unauthorized]
    rfl

theorem attempts_attempt (r : Request) : Attempts r network s (attempt network s r) := by
  refine ⟨rfl, rfl, fun response answer => ⟨?_, ?_⟩, fun failure answer => ⟨?_, ?_⟩⟩
  · rw [attempt, answer]
    rfl
  · rw [attempt, answer]
    exact said_reports_ok r response
  · rw [attempt, answer]
    rfl
  · rw [attempt, answer, ← message_requestFailed]
    rfl

/-- With a token that cannot be sent a call fails at its headers, whatever the URL and the network:
nothing is attempted and nothing reported. Otherwise one request is attempted, with the method and
the body of the caller and the merged headers. Its response is passed on, with a warning if it says
that the session is not accepted; where there is none, the call fails at the network, with one
report. No network that does the same with this one request could make a difference. If the URL is
not usable, the network is not even asked. -/
theorem request_outcome (c : Client) (url : String) (o : RequestOptions) (token : Option String) :
    let call := c.request url o token
    (∀ t, token = some t → HeaderValue.ofText? ("Bearer " ++ t) = none →
      call.run network s = (⟨[], .error (.invalidHeader "authorization"), []⟩, s)) ∧
    ((∀ t, token = some t → HeaderValue.ofText? ("Bearer " ++ t) ≠ none) →
      ∃ r, mergeHeaders token o.headers = .ok r.headers ∧
        r.method = o.method ∧ r.url = c.resolve url ∧ r.body = o.body ∧
        Attempts r network s (call.run network s) ∧
        (∀ other : Network σ, other r s = network r s → call.run other s = call.run network s) ∧
        ∀ failure, r.destination = .error failure →
          let e := call.run network.checked s
          e.1.attempted = [r] ∧ e.2 = s ∧ Fails r failure e.1) := by
  refine ⟨?_, fun sendable => ⟨c.prepared url o token,
    mergeHeaders_of_sendable sendable o.headers, rfl, rfl, rfl, ?_, fun other same => ?_,
    fun failure none => ?_⟩⟩
  · rintro t rfl bad
    rw [request_of_not_sendable (not_not_intro bad)]
    rfl
  · rw [run_of_sendable network s sendable]
    exact attempts_attempt ..
  · rw [run_of_sendable other s sendable, run_of_sendable network s sendable, attempt, same,
      attempt]
  · have refused : network.checked (c.prepared url o token) s = (.error failure, s) := by
      rw [Network.checked, none]
    rw [run_of_sendable network.checked s sendable]
    have attempts := attempts_attempt network.checked s (c.prepared url o token)
    exact ⟨attempts.attempted, attempts.moved.trans (congrArg Prod.snd refused),
      attempts.failed failure (congrArg Prod.fst refused)⟩

/-- A network that counts requests and answers all but the first. The first call fails and does not
ask again. The second one is answered. A client without an address asks in vain, and with a bad
token nobody does. -/
theorem request_outcome_flaky :
    let network : Network Nat := fun r n =>
      (if n = 0 then .error (.unsent r.url ["operation timed out"]) else .ok ⟨⟨401⟩, []⟩, n + 1)
    let call (address token : String) := request ⟨address⟩ "orders" .get (some token)
    Sendable "abc123" ∧ HeaderValue.ofText? ("Bearer " ++ "bad\ntoken") = none ∧
    ((call "http://h" "abc123").run network 0).2 = 1 ∧
    said ((call "http://h" "abc123").run network 0).1.log = [(.error,
      "Request to http://h/orders failed: error sending request for url (http://h/orders)")] ∧
    said ((call "http://h" "abc123").run network 1).1.log =
      [(.warn, "Unauthorized response from http://h/orders")] ∧
    ((call "" "abc123").run network.checked 7).2 = 7 ∧
    (call "" "bad\ntoken").run network 7 =
      (⟨[], .error (.invalidHeader "authorization"), []⟩, 7) := by
  intro network call
  have sendable : Sendable "abc123" := by decide
  have outcome (address : String) (n : Nat) :=
    (request_outcome network n ⟨address⟩ "orders" .get (some "abc123")).2
      (sendable_of_some sendable)
  obtain ⟨r, -, -, url, -, first, -, -⟩ := outcome "http://h" 0
  obtain ⟨q, -, -, same, -, second, -, -⟩ := outcome "http://h" 1
  obtain ⟨b, -, -, relative, -, -, -, unusable⟩ := outcome "" 7
  have resolved : resolve ⟨"http://h"⟩ "orders" = "http://h/orders" := by rfl
  have unreadable : b.destination = .error (.unreadable .relative) := by
    rw [Request.destination, Request.read, relative]
    rfl
  refine ⟨sendable, rfl, first.moved, ?_, ?_, (unusable _ unreadable).2.1,
    (request_outcome network 7 ⟨""⟩ "orders" .get (some "bad\ntoken")).1 _ rfl rfl⟩
  · rw [(first.failed _ rfl).reported, url, resolved]
    rfl
  · rw [(second.answered _ rfl).warned, same, resolved]
    rfl

end Client

end HeatFeed
