import HeatFeed.Proofs.Backend.Recorded
import HeatFeed.Proofs.Backend.Requests
import HeatFeed.Proofs.Client.Secrecy

/-!
# Requests that are echoed

The echo route answers with what it records, and what it records is what the caller of the client
decided: the method, the body, and under every name of the merged headers all values in order. The
headers that the transport adds take the place of none of these.
-/

namespace HeatFeed

open Http

/-- A token and headers of the caller of which every value arrives as it is. -/
structure Http.Legible (token : Option String) (overrides : Headers) : Prop where
  wellFormed : overrides.WellFormed
  token : ∀ t, token = some t → Visible t
  values : ∀ m ∈ overrides, ∀ v ∈ m.2, Visible v.text

namespace Backend

/-- A request whose query asks for no status. -/
def Unasked (a : Arrival) : Prop := statuses (queryPairs (a.url.query.getD "")) = []

instance (a : Arrival) : Decidable (Unasked a) := inferInstanceAs (Decidable (_ = _))

/-- What is recorded of a request with these options and headers. -/
structure Echoes (o : RequestOptions) (merged : Headers) (r : RecordedRequest) : Prop where
  method : r.method = o.method
  body : r.body = o.body.getD ""
  /-- Under each name, in lower case, stand all its values in order. -/
  headers : ∀ name, merged.Has name →
    Members.get? (lowerName name) r.headers = some ((merged.values name).map HeaderValue.text)
  /-- In any letter case, a name is looked up as the first of its values. -/
  first : ∀ name, merged.Has name →
    ∃ v later, merged.values name = v :: later ∧ r.header name = some v.text

/-- A call that takes a request to the echo route of a server. -/
structure Reaches (reader : BodyReader) (c : Client) (url : String) (o : RequestOptions)
    (token : Option String) (r : Request) (a : Arrival) : Prop where
  prepared : c.prepare url o token = .ok r
  arrived : r.arrival = .ok a
  plain : a.url.scheme ≠ "https"
  echo : AtEcho a
  unasked : Unasked a
  /-- The server reads the body as it was sent. -/
  delivered : reader a = .ok (o.body.getD "")

/-! ### Recorded values -/

/-- A header value can be formed with a visible token. -/
theorem sendable_of_visible {t : String} (h : Visible t) : Sendable t := by
  refine sendable_iff.2 fun c mem control => ?_
  rcases h c mem with rfl | ⟨lower, upper⟩
  · rcases control with ⟨-, other⟩ | delete
    · exact other rfl
    · exact absurd delete (by decide)
  · rcases control with ⟨below, -⟩ | delete
    · omega
    · omega

theorem visible_bearer {t : String} (h : Visible t) : Visible ("Bearer " ++ t) := by
  have scheme : Visible "Bearer " := by decide
  intro c mem
  rw [String.toList_append] at mem
  exact (List.mem_append.1 mem).elim (scheme c) (h c)

theorem visible_merged {token : Option String} {overrides : Headers}
    (h : Legible token overrides) (name : String) :
    ∀ v ∈ ((standardHeaders token).override overrides).values name, Visible v.text := by
  by_cases has : overrides.Has name
  · rw [Headers.values_override_of_has h.wellFormed _ has]
    intro v mem
    obtain ⟨m, given, mem⟩ := Headers.exists_mem_of_mem_values mem
    exact h.values m given v mem
  · rw [Headers.values_override_of_not_has h.wellFormed _ has, values_standardHeaders]
    split
    · exact List.forall_mem_singleton.2 (by decide)
    split
    · cases given : token with
      | none => exact nofun
      | some t => exact List.forall_mem_singleton.2 (visible_bearer (h.token t given))
    · exact nofun

theorem values_merged_none {overrides : Headers} (h : overrides.WellFormed)
    (absent : ¬overrides.Has authorizationName) :
    ((standardHeaders none).override overrides).values authorizationName = [] := by
  rw [Headers.values_override_of_not_has h _ absent, values_standardHeaders]
  rfl

/-! ### Recorded requests -/

theorem sorted_record {a : Arrival} (h : a.headers.WellFormed) (body : String) :
    Members.Sorted (record a body).headers := h.sorted.map (List.map recordedValue)

theorem get?_record (a : Arrival) (body key : String) :
    Members.get? key (record a body).headers =
      (Members.get? key a.headers).map (List.map recordedValue) :=
  Members.get?_map (List.map recordedValue) key a.headers

/-- Values that are visible are recorded as they are. -/
theorem get?_record_of_values {a : Arrival} {name : String} (there : a.headers.values name ≠ [])
    (visible : ∀ v ∈ a.headers.values name, Visible v.text) (body : String) :
    Members.get? (lowerName name) (record a body).headers =
      some ((a.headers.values name).map HeaderValue.text) := by
  obtain ⟨vs, found⟩ : ∃ vs, Members.get? (lowerName name) a.headers = some vs := by
    refine Option.ne_none_iff_exists'.1 fun none => there ?_
    rw [Headers.values, none]
    rfl
  rw [Headers.values_of_get? found] at visible ⊢
  rw [get?_record, found, Option.map_some, Option.some_inj]
  exact List.map_congr_left fun v mem => recordedValue_of_visible (visible v mem)

/-- A name without values has no entry. -/
theorem get?_record_of_no_values {a : Arrival} (h : a.headers.WellFormed) {name : String}
    (none : a.headers.values name = []) (body : String) :
    Members.get? (lowerName name) (record a body).headers = .none := by
  have absent : ¬a.headers.Has name := fun has => (h.has_iff name).1 has none
  rw [get?_record, Members.get?_eq_none absent]
  rfl

/-- The echo route answers with what it records. -/
theorem answer_of_unasked {reader : BodyReader} (b : Backend) {a : Arrival} {body : String}
    (read : reader a = .ok body) (echo : AtEcho a) (unasked : Unasked a)
    (method : a.method ≠ "HEAD") :
    b.answer reader a =
      (⟨.ok, (record a body).write⟩, { b with requests := b.requests ++ [record a body] }) := by
  have asked : queryStatus none (queryPairs (a.url.query.getD "")) = .ok none :=
    queryStatus_eq_ok_iff.2 (unasked ▸ .nothing)
  rw [answer, route_of_echo echo]
  simp only [answerEcho, read, asked]
  rw [withoutBody, if_neg]
  · rfl
  · rintro (head | empty | unchanged)
    · exact method head
    · cases empty
    · cases unchanged

/-! ### Calls -/

/-- What arrives of a request with merged headers is recorded with the values of these. -/
theorem echoes_record {o : RequestOptions} {token : Option String} {url : String} {a : Arrival}
    (legible : Legible token o.headers)
    (arrived : Request.arrival
      ⟨o.method, url, (standardHeaders token).override o.headers, o.body⟩ = .ok a) :
    Echoes o ((standardHeaders token).override o.headers) (record a (o.body.getD "")) := by
  have wellFormed : Headers.WellFormed ((standardHeaders token).override o.headers) :=
    (wellFormed_standardHeaders token).override legible.wellFormed
  have visible := visible_merged legible
  generalize (standardHeaders token).override o.headers = merged at arrived wellFormed visible
  obtain ⟨u, url, -, -, rfl⟩ := Request.arrival_eq_ok.1 arrived
  generalize Request.octets _ = octets
  have entry (name : String) (has : merged.Has name) : Members.get? (lowerName name)
      (record ⟨url, o.method, merged.arriving u.login? url octets, octets⟩
        (o.body.getD "")).headers = some ((merged.values name).map HeaderValue.text) := by
    have there : merged.values name ≠ [] := (wellFormed.has_iff name).1 has
    have kept := Headers.values_arriving_of_values u.login? url octets there
    rw [get?_record_of_values, kept]
    · rwa [kept]
    · rw [kept]
      exact visible name
  refine ⟨rfl, rfl, entry, fun name has => ?_⟩
  obtain ⟨v, later, values⟩ := List.exists_cons_of_ne_nil ((wellFormed.has_iff name).1 has)
  refine ⟨v, later, values, ?_⟩
  rw [RecordedRequest.header, entry name has, values]
  rfl

/-- A link that is up is passed with any destination that needs no encryption. -/
theorem reach_up {r : Request} {url : Url} (h : r.destination = .ok url)
    (plain : url.scheme ≠ "https") : Link.up.reach r = .ok url := by
  rw [Link.reach, h]
  show (if url.scheme = "https" then _ else _) = _
  rw [if_neg plain]
  rfl

/-- A call with any method but `HEAD` that takes a request to the echo route, where its body is read
as it was sent, is answered with the request as it was recorded. It has the method and the body of
the caller, and under every name of the merged headers their values. Without a token, and with no
authorization of the caller's own or in the URL, none is recorded. -/
theorem call_echo {m : Remote} (up : m.link = .up) {c : Client} {url : String} {o : RequestOptions}
    {token : Option String} (legible : Legible token o.headers) (method : o.method ≠ "HEAD")
    {r : Request} {a : Arrival} (reaches : Reaches m.reader c url o token r a) :
    ∃ merged response recorded, mergeHeaders token o.headers = .ok merged ∧
      m.call (c.request url o token) =
        (⟨[r], .ok response, []⟩, { m with backend := { m.backend with
          requests := m.backend.requests ++ [recorded] } }) ∧
      response.status = .ok ∧ RecordedRequest.ofBytes response.body = .ok recorded ∧
      Echoes o merged recorded ∧
      (token = none → ¬o.headers.Has "authorization" → (∀ u, r.read = .ok u → u.login? = none) →
        Members.get? "authorization" recorded.headers = none) := by
  obtain ⟨prepared, arrived, plain, echo, unasked, delivered⟩ := reaches
  have sendable : ∀ t, token = some t → Sendable t :=
    fun t given => sendable_of_visible (legible.token t given)
  have merging := mergeHeaders_of_sendable sendable o.headers
  obtain rfl : c.prepared url o token = r :=
    Except.ok.inj ((Client.prepare_of_sendable sendable c url o).symm.trans prepared)
  obtain ⟨u, target, read, destination, same⟩ := Request.arrival_eq_ok.1 arrived
  have wellFormed : a.headers.WellFormed := by
    rw [same]
    exact Headers.WellFormed.arriving _ _ _
      ((wellFormed_standardHeaders token).override legible.wellFormed)
  have reached : m.link.reach (c.prepared url o token) = .ok target := by
    rw [up]
    refine reach_up destination ?_
    rwa [same] at plain
  have answered : Remote.network (c.prepared url o token) m =
      (.ok ⟨.ok, (record a (o.body.getD "")).write⟩, { m with backend := { m.backend with
        requests := m.backend.requests ++ [record a (o.body.getD "")] } }) := by
    rw [Remote.network, reached, arrived]
    dsimp only
    rw [answer_of_unasked m.backend delivered echo unasked (by rw [same]; exact method)]
  refine ⟨_, ⟨.ok, (record a (o.body.getD "")).write⟩, record a (o.body.getD ""), merging, ?_, rfl,
    RecordedRequest.ofBytes_write (sorted_record wellFormed _), echoes_record legible arrived,
    fun noToken absent noLogin => ?_⟩
  · rw [Remote.call, Client.run_of_sendable _ _ sendable, Client.attempt, answered]
    rfl
  · subst noToken
    have values := (Request.values_arrival read (noLogin u read) arrived).trans
      (values_merged_none legible.wellFormed absent)
    have entry := get?_record_of_no_values wellFormed values (o.body.getD "")
    rwa [lowerName_authorization] at entry

/-- Two values under one name in two spellings, and a body with quotes and a line feed, with a token
and without. -/
theorem call_echo_quoted :
    let m : Remote := ⟨fresh ⟨200, "", 0⟩, .utf8, .up⟩
    let c : Client := ⟨"http://h"⟩
    let o : RequestOptions :=
      ⟨"PUT", [("x-tag", [⟨"one", false⟩, ⟨"two", false⟩])], some "\"é\"\n"⟩
    let called (token : Option String) :=
      (m.call (c.request "api/echo" o token)).1.result
    RequestOptions.build [.method "PUT", .append "X-Tag" "one", .append "x-tag" "two",
      .body "\"é\"\n"] = .ok o ∧ o.method ≠ "HEAD" ∧
    Legible (some "abc123") o.headers ∧ (∃ r a, Reaches .utf8 c "api/echo" o (some "abc123") r a) ∧
    (∃ response recorded, called (some "abc123") = .ok response ∧
      RecordedRequest.ofBytes response.body = .ok recorded ∧ recorded.body = "\"é\"\n" ∧
      Members.get? "x-tag" recorded.headers = some ["one", "two"] ∧
      recorded.header "Authorization" = some "Bearer abc123") ∧
    Legible none o.headers ∧ (∃ r a, Reaches .utf8 c "api/echo" o none r a) ∧
    (∃ response recorded, called none = .ok response ∧
      RecordedRequest.ofBytes response.body = .ok recorded ∧
      Members.get? "authorization" recorded.headers = none) := by
  intro m c o called
  have built : RequestOptions.build [.method "PUT", .append "X-Tag" "one",
      .append "x-tag" "two", .body "\"é\"\n"] = .ok o := by rfl
  have wellFormed : o.headers.WellFormed := RequestOptions.wellFormed_build built
  have put : o.method ≠ "HEAD" := by decide
  have visible : ∀ m ∈ o.headers, ∀ v ∈ m.2, Visible v.text := by decide
  have visibleToken : Visible "abc123" := by decide
  have signed : Legible (some "abc123") o.headers :=
    ⟨wellFormed, fun t given => Option.some.inj given ▸ visibleToken, visible⟩
  have unsigned : Legible none o.headers := ⟨wellFormed, nofun, visible⟩
  let u : Url := ⟨"http", "", "", some (.name "h"), none, "/api/echo", none, none⟩
  let arrival (token : Option String) : Arrival :=
    let octets := Utf8.bytes "\"é\"\n"
    ⟨u, "PUT", ((standardHeaders token).override o.headers).arriving none u octets, octets⟩
  have signedReaches : Reaches .utf8 c "api/echo" o (some "abc123")
      (c.prepared "api/echo" o (some "abc123")) (arrival (some "abc123")) :=
    ⟨Client.prepare_of_sendable (sendable_of_some (sendable_of_visible visibleToken)) c _ o,
      by decide +kernel, by decide, by decide +kernel, by decide +kernel, by decide +kernel⟩
  have unsignedReaches : Reaches .utf8 c "api/echo" o none (c.prepared "api/echo" o none)
      (arrival none) :=
    ⟨@Client.prepare_of_sendable none nofun c _ o,
      by decide +kernel, by decide, by decide +kernel, by decide +kernel, by decide +kernel⟩
  refine ⟨built, put, signed, ⟨_, _, signedReaches⟩, ?_, unsigned, ⟨_, _, unsignedReaches⟩, ?_⟩
  · obtain ⟨merged, response, recorded, merging, answered, -, decoded, echoes, -⟩ :=
      @call_echo m rfl c _ o _ signed put _ _ signedReaches
    have headers : mergeHeaders (some "abc123") o.headers = .ok
        [("authorization", [⟨"Bearer abc123", true⟩]),
          ("content-type", [⟨"application/json", false⟩]),
          ("x-tag", [⟨"one", false⟩, ⟨"two", false⟩])] := by decide +kernel
    cases headers.symm.trans merging
    obtain ⟨v, later, values, first⟩ := echoes.first "Authorization" (by decide)
    cases values
    exact ⟨response, recorded, congrArg (·.1.result) answered, decoded, echoes.body,
      echoes.headers "x-tag" (by decide), first⟩
  · obtain ⟨merged, response, recorded, -, answered, -, decoded, -, anonymous⟩ :=
      @call_echo m rfl c _ o _ unsigned put _ _ unsignedReaches
    have noLogin : ∀ w, (c.prepared "api/echo" o none).read = .ok w → w.login? = none := by
      intro w found
      have read : (c.prepared "api/echo" o none).read = .ok u := by decide +kernel
      cases read.symm.trans found
      rfl
    exact ⟨response, recorded, congrArg (·.1.result) answered, decoded,
      anonymous rfl (by decide) noLogin⟩

end Backend

end HeatFeed
