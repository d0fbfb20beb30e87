import HeatFeed.Proofs.Client.Call

/-!
# Tokens are kept secret

Two calls that differ in their tokens alone look the same to everybody who does not see the value of
the authorization: the requests, also as they arrive, the results and the reports agree. Where the
caller gives an authorization of its own, and where neither token can be sent, the calls do not
differ at all.
-/

namespace HeatFeed

open Http

namespace Http

/-- The headers that have nothing to do with a token. -/
def Headers.anonymous (hs : Headers) : Headers := hs.filter (·.1 ≠ authorizationName)

/-- A request to somebody who does not see the authorization. -/
def Request.anonymous (r : Request) : Request := { r with headers := r.headers.anonymous }

/-- An arrival to somebody who does not see the authorization. -/
def Arrival.anonymous (a : Arrival) : Arrival := { a with headers := a.headers.anonymous }

/-- A request that carries the token in its authorization and nothing else there, also when it
arrives. -/
structure Request.Signed (token : String) (r : Request) : Prop where
  sent : r.headers.values authorizationName = [⟨"Bearer " ++ token, true⟩]
  arrived : ∀ a, r.arrival = .ok a →
    a.headers.values authorizationName = [⟨"Bearer " ++ token, true⟩]

/-- Headers that agree but for the authorization, which both have. -/
structure Headers.Alike (hs ks : Headers) : Prop where
  sorted : Members.Sorted hs ∧ Members.Sorted ks
  signed : hs.values authorizationName ≠ [] ∧ ks.values authorizationName ≠ []
  others : ∀ key, key ≠ authorizationName → Members.get? key hs = Members.get? key ks

/-! ### Headers without the authorization -/

theorem Headers.get?_anonymous (hs : Headers) (key : String) :
    Members.get? key hs.anonymous =
      if key = authorizationName then none else Members.get? key hs := by
  split
  · rename_i same
    refine Members.get?_eq_none fun mem => ?_
    obtain ⟨m, hm, rfl⟩ := List.mem_map.1 mem
    have := (List.mem_filter.1 hm).2
    exact of_decide_eq_true this same
  · rename_i other
    exact Members.get?_filter (fun _ => decide_eq_true other) hs

theorem Headers.Alike.anonymous_eq {hs ks : Headers} (h : hs.Alike ks) :
    hs.anonymous = ks.anonymous := by
  refine Members.Sorted.ext (h.sorted.1.filter _) (h.sorted.2.filter _) fun key => ?_
  rw [get?_anonymous, get?_anonymous]
  split
  · rfl
  · rename_i other
    exact h.others key other

/-! ### What the transport adds -/

theorem Headers.default_of_values {hs : Headers} {name : String} (h : hs.values name ≠ [])
    (text : String) : hs.default name text = hs := if_neg h

theorem Headers.values_default {hs : Headers} {name other : String}
    (h : lowerName other ≠ lowerName name) (text : String) :
    (hs.default name text).values other = hs.values other := by
  rw [Headers.default]
  split
  · rw [values_set, if_neg h]
  · rfl

theorem Headers.values_default_of_values {hs : Headers} {other : String}
    (h : hs.values other ≠ []) (name text : String) :
    (hs.default name text).values other = hs.values other := by
  by_cases same : lowerName other = lowerName name
  · have there : hs.values name ≠ [] := by rwa [values, ← same, ← values]
    rw [default_of_values there]
  · exact values_default same text

theorem Headers.WellFormed.default {hs : Headers} (h : hs.WellFormed) (name text : String) :
    (hs.default name text).WellFormed := by
  rw [Headers.default]
  split
  · exact h.set name ⟨text, false⟩
  · exact h

theorem Headers.Alike.default {hs ks : Headers} (h : hs.Alike ks) {name : String}
    (other : lowerName name ≠ authorizationName) (text : String) :
    (hs.default name text).Alike (ks.default name text) := by
  have same : hs.values name = ks.values name := by rw [values, values, h.others _ other]
  have kept (hs : Headers) : (hs.default name text).values authorizationName =
      hs.values authorizationName :=
    values_default (lowerName_authorization ▸ Ne.symm other) text
  refine ⟨?_, ?_, fun key hkey => ?_⟩
  · rw [Headers.default, Headers.default, ← same]
    split
    · exact ⟨h.sorted.1.insert _ _, h.sorted.2.insert _ _⟩
    · exact h.sorted
  · rw [kept, kept]
    exact h.signed
  · rw [Headers.default, Headers.default, ← same]
    split
    · rw [set, set]
      by_cases new : key = lowerName name
      · rw [new, Members.get?_insert_self, Members.get?_insert_self]
      · rw [Members.get?_insert_of_ne new, Members.get?_insert_of_ne new, h.others key hkey]
    · exact h.others key hkey

/-- The headers with which a request arrives. -/
def Headers.arriving (login : Option (String × String)) (url : Url) (body : List UInt8)
    (hs : Headers) : Headers :=
  let hs := login.elim hs fun (user, password) => hs.default authorizationName (basic user password)
  let hs := (hs.default "host" url.authority).default "accept" "*/*"
  if body = [] then hs else hs.default "content-length" (toString body.length)

/-- The octets of the body with which a request arrives. -/
def Request.octets (r : Request) : List UInt8 := Utf8.bytes (r.body.getD "")

theorem Request.arrival_eq (r : Request) : r.arrival = do
    let login := (← r.read).login?
    let url ← r.destination
    return ⟨url, r.method, r.headers.arriving login url r.octets, r.octets⟩ := rfl

theorem Request.arrival_eq_ok {r : Request} {a : Arrival} : r.arrival = .ok a ↔
    ∃ u url, r.read = .ok u ∧ r.destination = .ok url ∧
      a = ⟨url, r.method, r.headers.arriving u.login? url r.octets, r.octets⟩ := by
  rw [arrival_eq]
  constructor
  · intro arrived
    obtain ⟨u, read, arrived⟩ := bind_eq_ok.1 arrived
    obtain ⟨url, destination, arrived⟩ := bind_eq_ok.1 arrived
    cases arrived
    exact ⟨u, url, read, destination, rfl⟩
  · rintro ⟨u, url, read, destination, rfl⟩
    exact bind_eq_ok.2 ⟨u, read, bind_eq_ok.2 ⟨url, destination, rfl⟩⟩

section

variable (login : Option (String × String)) (url : Url) (body : List UInt8)

/-- What the transport keeps when it adds a header, it keeps throughout. -/
theorem Headers.preserved_arriving {P : Headers → Prop}
    (keeps : ∀ hs name text, P hs → P (Headers.default hs name text)) {hs : Headers} (h : P hs) :
    P (hs.arriving login url body) := by
  have signed : P (login.elim hs fun (user, password) =>
      hs.default authorizationName (basic user password)) := by
    cases login with
    | none => exact h
    | some pair => exact keeps hs _ _ h
  have accepting := keeps _ "accept" "*/*" (keeps _ "host" url.authority signed)
  rw [arriving]
  split
  · exact accepting
  · exact keeps _ _ _ accepting

/-- Values that are there are left alone. -/
theorem Headers.values_arriving_of_values {hs : Headers} {name : String}
    (h : hs.values name ≠ []) : (hs.arriving login url body).values name = hs.values name := by
  refine preserved_arriving login url body (P := fun ks => ks.values name = hs.values name)
    (fun ks other text same => ?_) rfl
  have there : ks.values name ≠ [] := by rwa [same]
  rw [values_default_of_values there, same]

theorem Headers.WellFormed.arriving {hs : Headers} (h : hs.WellFormed) :
    (hs.arriving login url body).WellFormed :=
  preserved_arriving login url body (fun _ name text wf => wf.default name text) h

/-- No user and password of a URL take the place of an authorization. -/
theorem Headers.arriving_of_signed {hs : Headers} (signed : hs.values authorizationName ≠ []) :
    hs.arriving login url body = hs.arriving none url body := by
  cases login with
  | none => rfl
  | some pair =>
    obtain ⟨user, password⟩ := pair
    rw [arriving, Option.elim_some]
    dsimp only
    rw [default_of_values signed]
    rfl

/-- Without a user and a password in the URL the transport adds no authorization. -/
theorem Headers.values_arriving_none (hs : Headers) :
    (hs.arriving none url body).values authorizationName = hs.values authorizationName := by
  rw [arriving, Option.elim_none]
  split
  · rw [values_default (by decide), values_default (by decide)]
  · rw [values_default (by decide), values_default (by decide), values_default (by decide)]

theorem Headers.Alike.arriving {hs ks : Headers} (h : hs.Alike ks) :
    (hs.arriving login url body).Alike (ks.arriving login url body) := by
  rw [arriving_of_signed login url body h.signed.1, arriving_of_signed login url body h.signed.2,
    Headers.arriving, Headers.arriving, Option.elim_none, Option.elim_none]
  have host : lowerName "host" ≠ authorizationName := by decide
  have accept : lowerName "accept" ≠ authorizationName := by decide
  have length : lowerName "content-length" ≠ authorizationName := by decide
  have added := (h.default host url.authority).default accept "*/*"
  split
  · exact added
  · exact added.default length _

end

/-- Where requests to one place differ at most in their authorizations, so do their arrivals. -/
theorem Headers.Alike.arrival_eq {r s : Request} (h : r.headers.Alike s.headers)
    (same : s = { r with headers := s.headers }) :
    r.arrival.map Arrival.anonymous = s.arrival.map Arrival.anonymous := by
  rw [same, Request.arrival_eq, Request.arrival_eq]
  show Except.map _ (r.read >>= fun u => r.destination >>= fun url => _) =
    Except.map _ (r.read >>= fun u => r.destination >>= fun url => _)
  cases r.read with
  | error failure => rfl
  | ok u =>
    cases r.destination with
    | error failure => rfl
    | ok url =>
      have arriving := h.arriving u.login? url r.octets
      show Except.ok (Arrival.anonymous _) = Except.ok (Arrival.anonymous _)
      rw [Arrival.anonymous, Arrival.anonymous, arriving.anonymous_eq]
      rfl

theorem Request.signed_of_values {token : String} {r : Request}
    (h : r.headers.values authorizationName = [⟨"Bearer " ++ token, true⟩]) : r.Signed token := by
  refine ⟨h, fun a arrived => ?_⟩
  obtain ⟨u, url, -, -, rfl⟩ := arrival_eq_ok.1 arrived
  have signed : r.headers.values authorizationName ≠ [] := by
    rw [h]
    exact List.cons_ne_nil _ _
  exact (Headers.values_arriving_of_values _ _ _ signed).trans h

theorem Request.values_arrival {r : Request} {u : Url} {a : Arrival} (read : r.read = .ok u)
    (noLogin : u.login? = none) (arrived : r.arrival = .ok a) :
    a.headers.values authorizationName = r.headers.values authorizationName := by
  obtain ⟨u', url, read', -, rfl⟩ := arrival_eq_ok.1 arrived
  obtain rfl := Except.ok.inj (read.symm.trans read')
  dsimp only
  rw [noLogin, Headers.values_arriving_none]

end Http

/-! ### Two tokens -/

theorem get?_standardHeaders_of_ne {key : String} (h : key ≠ authorizationName) (t : String) :
    Members.get? key (standardHeaders (some t)) = Members.get? key (standardHeaders none) :=
  if_neg (Ne.symm h)

theorem sorted_merged (token : Option String) (overrides : Headers) :
    Members.Sorted ((standardHeaders token).override overrides) :=
  Headers.sorted_override (wellFormed_standardHeaders token).sorted overrides

/-- Whoever gives an authorization of their own sends the same headers with every token. -/
theorem merged_eq_of_has {overrides : Headers} (h : overrides.Has authorizationName)
    (t u : String) : (standardHeaders (some t)).override overrides =
      (standardHeaders (some u)).override overrides := by
  refine (sorted_merged _ _).ext (sorted_merged _ _) fun key => ?_
  rw [Headers.get?_override, Headers.get?_override]
  by_cases same : key = authorizationName
  · -- the value that the caller gives hides that of the token
    obtain ⟨v, given⟩ : ∃ v, Members.last? key overrides = some v := by
      refine Option.ne_none_iff_exists'.1 (mt Members.get?_eq_none_iff.1 (not_not_intro ?_))
      rw [Members.keys, List.map_reverse, List.mem_reverse, same]
      exact lowerName_authorization ▸ h
    rw [given, Option.some_or, Option.some_or]
  · rw [get?_standardHeaders_of_ne same t, get?_standardHeaders_of_ne same u]

theorem values_merged_authorization {overrides : Headers} (h : ¬overrides.Has authorizationName)
    (t : String) :
    ((standardHeaders (some t)).override overrides).values authorizationName =
      [⟨"Bearer " ++ t, true⟩] := by
  rw [Headers.values, Headers.get?_override, Members.last?_eq_none h]
  rfl

theorem alike_merged {overrides : Headers} (h : ¬overrides.Has authorizationName) (t u : String) :
    ((standardHeaders (some t)).override overrides).Alike
      ((standardHeaders (some u)).override overrides) := by
  refine ⟨⟨sorted_merged _ _, sorted_merged _ _⟩, ?_, fun key other => ?_⟩
  · rw [values_merged_authorization h, values_merged_authorization h]
    exact ⟨List.cons_ne_nil _ _, List.cons_ne_nil _ _⟩
  · rw [Headers.get?_override, Headers.get?_override, get?_standardHeaders_of_ne other t,
      get?_standardHeaders_of_ne other u]

namespace Client

variable (c : Client) (url : String) (o : RequestOptions) (t u : String)

/-- What is reported depends on the URL of the request and on nothing else that it holds. -/
theorem reports_prepared (outcome : Except Failure Response) :
    reports (c.prepared url o (some t)) outcome = reports (c.prepared url o (some u)) outcome := by
  cases outcome with
  | error failure => rfl
  | ok response => rfl

theorem prepared_eq_of_has {o : RequestOptions} (h : o.headers.Has authorizationName) :
    c.prepared url o (some t) = c.prepared url o (some u) := by
  rw [prepared, prepared, merged_eq_of_has h t u]

theorem anonymous_prepared :
    (c.prepared url o (some t)).anonymous = (c.prepared url o (some u)).anonymous ∧
      (c.prepared url o (some t)).arrival.map Arrival.anonymous =
        (c.prepared url o (some u)).arrival.map Arrival.anonymous := by
  by_cases given : o.headers.Has authorizationName
  · rw [c.prepared_eq_of_has url t u given]
    exact ⟨rfl, rfl⟩
  · have alike := alike_merged given t u
    refine ⟨?_, Headers.Alike.arrival_eq alike rfl⟩
    rw [Request.anonymous, Request.anonymous, prepared, prepared, alike.anonymous_eq]

/-- Two calls with tokens that can be sent make one request each, over any two networks. The
requests agree in everything but the value of the authorization, which is that of the token alone,
and they arrive so. With the same outcome the calls have the same result and the same reports. If
the caller gives an authorization, the requests are the same, and with two tokens that cannot be
sent the calls are. -/
theorem request_secrecy {σ τ : Type} (first : Network σ) (second : Network τ) (x : σ) (y : τ) :
    (Sendable t → Sendable u →
      let e := ((c.request url o (some t)).run first x).1
      let f := ((c.request url o (some u)).run second y).1
      ∃ r s, e.attempted = [r] ∧ f.attempted = [s] ∧
        r.anonymous = s.anonymous ∧
        r.arrival.map Arrival.anonymous = s.arrival.map Arrival.anonymous ∧
        (o.headers.Has "authorization" → r = s) ∧
        (¬o.headers.Has "authorization" → r.Signed t ∧ s.Signed u) ∧
        ((first r x).1 = (second s y).1 → e.result = f.result ∧ e.log = f.log)) ∧
    (¬Sendable t → ¬Sendable u → c.request url o (some t) = c.request url o (some u)) := by
  refine ⟨fun ht hu => ?_, fun ht hu => ?_⟩
  · rw [run_of_sendable first x (sendable_of_some ht),
      run_of_sendable second y (sendable_of_some hu)]
    obtain ⟨sent, arrived⟩ := c.anonymous_prepared url o t u
    refine ⟨c.prepared url o (some t), c.prepared url o (some u), rfl, rfl, sent, arrived,
      c.prepared_eq_of_has url t u, fun absent => ⟨?_, ?_⟩, fun outcome => ?_⟩
    · exact Request.signed_of_values (values_merged_authorization absent t)
    · exact Request.signed_of_values (values_merged_authorization absent u)
    · rw [attempt, attempt, outcome, c.reports_prepared url o t u]
      exact ⟨rfl, rfl⟩
  · rw [request_of_not_sendable ht, request_of_not_sendable hu]

/-- Two tokens, a caller with a header of its own, and a response that ends the session. -/
theorem request_secrecy_unauthorized :
    let o : RequestOptions := ⟨"POST", [("accept", [⟨"text/csv", false⟩])], some "x"⟩
    let call (token : String) := request ⟨"http://backend"⟩ "orders" o (some token)
    let network : Network Nat := fun _ n => (.ok ⟨.unauthorized, []⟩, n + 1)
    Sendable "abc123" ∧ Sendable "xyz" ∧ ¬o.headers.Has "authorization" ∧
    ((call "abc123").run network 0).1.log = ((call "xyz").run network 5).1.log ∧
    ¬Sendable "bad
token" ∧ ¬Sendable "" ∧ call "bad
token" = call "" := by
  intro o call network
  have first : Sendable "abc123" := by decide
  have second : Sendable "xyz" := by decide
  have newline : ¬Sendable "bad
token" := not_not_intro rfl
  have delete : ¬Sendable "" := not_not_intro rfl
  have secrecy := request_secrecy ⟨"http://backend"⟩ "orders" o
  obtain ⟨r, s, -, -, -, -, -, -, same⟩ :=
    (secrecy "abc123" "xyz" network network 0 5).1 first second
  exact ⟨first, second, by decide, (same rfl).2, newline, delete,
    (secrecy "bad
token" "" network network 0 0).2 newline delete⟩

end Client

end HeatFeed
