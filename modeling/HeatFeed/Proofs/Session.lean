import HeatFeed.Proofs.Client.Secrecy
import HeatFeed.Proofs.Text.Trim
import HeatFeed.Session

/-!
# Tokens of sessions

Only changes count: the token of a session is that of its last change, if that was a login with a
text that is not blank, however many requests were made before and after it. So a token is never
empty and has no blanks at its ends. It may hold control characters elsewhere, and then no request
is sent in its name.
-/

namespace HeatFeed.Session

open Http Text

/-- The changes among some uses. -/
def changes (uses : List Use) : List Action :=
  uses.filterMap fun
    | .change action => some action
    | .request .. => none

/-- What a login leaves as the token: the text without the blanks around it, unless it is blank. -/
def Leaves (text token : String) : Prop :=
  (∃ c ∈ text.toList, isBlank c = false) ∧ Trimmed text token

/-- What a request carries as authorization: what the caller gives, or else the token, or else
nothing. On its way to a host a request without any gets the user and the password of its URL, if
this has them, and stays without any if it has not. -/
structure Carries (token : Option String) (given : Headers) (r : Request) : Prop where
  overridden : given.Has "authorization" →
    r.headers.values "authorization" = given.values "authorization"
  signed : ¬given.Has "authorization" → ∀ t, token = some t → r.Signed t
  unsigned : ¬given.Has "authorization" → token = none →
    r.headers.values "authorization" = [] ∧
    ∀ url a, r.read = .ok url → url.login? = none → r.arrival = .ok a →
      a.headers.values "authorization" = []

/-! ### Changes -/

theorem useAll_eq_run (c : Client) (s : Session) (uses : List Use) :
    s.useAll c uses = s.run (changes uses) := by
  induction uses generalizing s with
  | nil => rfl
  | cons u uses ih =>
    cases u with
    | change action => exact ih (s.act action)
    | request transport url o => exact ih s

theorem not_blank_iff {text : String} :
    trim text ≠ "" ↔ ∃ c ∈ text.toList, isBlank c = false := by
  rw [ne_eq, trim_eq_empty_iff]
  push Not
  simp only [ne_eq, Bool.not_eq_true]

theorem token_act_iff (s : Session) (a : Action) (t : String) :
    (s.act a).token = some t ↔ ∃ text, a = .login text ∧ Leaves text t := by
  cases a with
  | logout => exact ⟨nofun, nofun⟩
  | login text =>
    have leaves : Leaves text t ↔ trim text ≠ "" ∧ t = trim text := by
      rw [Leaves, ← not_blank_iff, trimmed_iff]
    simp only [Action.login.injEq, exists_eq_left', leaves, act]
    by_cases blank : trim text = ""
    · simp [blank, loggedOut]
    · simp [blank, eq_comm]

/-- The token is that of the last change. -/
theorem token_run_iff (changes : List Action) (t : String) :
    (loggedOut.run changes).token = some t ↔
      ∃ earlier text, changes = earlier ++ [.login text] ∧ Leaves text t := by
  rcases List.eq_nil_or_concat changes with rfl | ⟨earlier, last, rfl⟩
  · simp [run, loggedOut]
  · rw [List.concat_eq_append]
    have run : loggedOut.run (earlier ++ [last]) = (loggedOut.run earlier).act last :=
      List.foldl_append
    rw [run, token_act_iff]
    constructor
    · rintro ⟨text, rfl, leaves⟩
      exact ⟨earlier, text, rfl, leaves⟩
    · rintro ⟨before, text, same, leaves⟩
      exact ⟨text, (List.append_singleton_inj.1 same).2, leaves⟩

theorem Leaves.ne_empty {text t : String} (h : Leaves text t) : t ≠ "" := by
  rw [h.2.eq_trim]
  exact not_blank_iff.2 h.1

/-! ### Requests -/

theorem carries_prepared (c : Client) (url : String) {o : RequestOptions}
    (h : o.headers.WellFormed) (token : Option String) :
    Carries token o.headers (c.prepared url o token) where
  overridden has := Headers.values_override_of_has h _ has
  signed absent t given := by
    rw [given]
    exact Request.signed_of_values (values_merged_authorization absent t)
  unsigned absent loggedOut := by
    have none : (c.prepared url o token).headers.values "authorization" = [] := by
      rw [loggedOut]
      exact Headers.values_override_of_not_has h _ absent
    refine ⟨none, fun u a read noLogin arrived => ?_⟩
    rw [← none]
    exact Request.values_arrival read noLogin arrived

/-- What comes of a request in the name of a session. -/
structure Answers (s : Session) (given : Headers) (e : Exchange Response) : Prop where
  /-- Nothing is sent iff the token holds a control character. -/
  unsent : e.attempted = [] ↔ ∃ t, s.token = some t ∧ ∃ ch ∈ t.toList, IsControl ch
  refused : ∀ name, e.result = .error (.invalidHeader name) ↔
    name = "authorization" ∧ ∃ t, s.token = some t ∧ ∃ ch ∈ t.toList, IsControl ch
  /-- Otherwise one request is sent. -/
  sent : e.attempted ≠ [] → ∃ r, e.attempted = [r] ∧ Carries s.token given r

theorem answers_request (s : Session) (c : Client) (transport : Transport) (url : String)
    {o : RequestOptions} (h : o.headers.WellFormed) :
    Answers s o.headers (s.request c transport url o) := by
  by_cases sendable : ∀ t, s.token = some t → Sendable t
  · have good : ¬∃ t, s.token = some t ∧ ∃ ch ∈ t.toList, IsControl ch := by
      rintro ⟨t, token, ch, mem, control⟩
      exact sendable_iff.1 (sendable t token) ch mem control
    rw [request, Call.through, Client.run_of_sendable _ _ sendable]
    refine ⟨iff_of_false (List.cons_ne_nil _ _) good, fun name => ?_, fun _ => ⟨_, rfl, ?_⟩⟩
    · refine iff_of_false ?_ (mt And.right good)
      show (transport (c.prepared url o s.token)).mapError ClientError.network ≠ _
      cases transport (c.prepared url o s.token) with
      | error failure => exact nofun
      | ok response => exact nofun
    · exact carries_prepared c url h s.token
  · push Not at sendable
    obtain ⟨t, token, bad⟩ := sendable
    have control : ∃ ch ∈ t.toList, IsControl ch := by
      by_contra none
      push Not at none
      exact bad (sendable_iff.2 none)
    rw [request, token, Client.request_of_not_sendable bad]
    refine ⟨iff_of_true rfl ⟨t, token, control⟩, fun name => ?_, fun sent => absurd rfl sent⟩
    constructor
    · rintro ⟨⟩
      exact ⟨rfl, t, token, control⟩
    · rintro ⟨rfl, -⟩
      rfl

/-- After any changes, with any requests between them, there is a token iff the last change is a
login with a text that is not blank, and the token is this text without the blanks around it: it is
not empty and has no blanks at its ends. A request then leaves the session as it is. It carries the
token as its only authorization, unless the caller gives one, and none without a token; only where
there is none and the URL has a user and a password are these added on the way to the host. It is
not sent, and is refused for its header, iff the token holds a control character other than the
tab. -/
theorem token_carried (c : Client) (uses : List Use) :
    let s := loggedOut.useAll c uses
    (∀ t, s.token = some t ↔
      ∃ earlier text, changes uses = earlier ++ [.login text] ∧ Leaves text t) ∧
    (∀ t, s.token = some t → t ≠ "" ∧
      (∀ ch ∈ t.toList.head?, isBlank ch = false) ∧ ∀ ch ∈ t.toList.getLast?, isBlank ch = false) ∧
    (s.isAuthenticated = true ↔ ∃ t, s.token = some t) ∧
    ∀ transport url (o : RequestOptions), o.headers.WellFormed →
      ∃ e, s.use c (.request transport url o) = (s, some e) ∧ Answers s o.headers e := by
  intro s
  have token : ∀ t, s.token = some t ↔
      ∃ earlier text, changes uses = earlier ++ [.login text] ∧ Leaves text t := by
    intro t
    rw [show s = loggedOut.run (changes uses) from useAll_eq_run c loggedOut uses, token_run_iff]
  refine ⟨token, fun t stored => ?_, Option.isSome_iff_exists, fun transport url o wellFormed => ?_⟩
  · obtain ⟨earlier, text, -, leaves⟩ := (token t).1 stored
    exact ⟨leaves.ne_empty, leaves.2.first, leaves.2.last⟩
  · exact ⟨_, rfl, answers_request s c transport url wellFormed⟩

/-- A token between blanks, a request in its name, and then a token with a line end inside. -/
theorem token_carried_padded :
    let c : Client := ⟨"http://backend"⟩
    let ask : Use := .request (fun _ => .ok ⟨⟨200⟩, []⟩) "orders" .get
    let first : List Use := [.change (.login "\u2003abc 123\n"), ask]
    let second : List Use := first ++ [.change (.login "a\nb")]
    RequestOptions.get.headers.WellFormed ∧
    (loggedOut.useAll c first).token = some "abc 123" ∧
    (∃ e r, (loggedOut.useAll c first).use c ask = (loggedOut.useAll c first, some e) ∧
      e.attempted = [r] ∧ r.Signed "abc 123") ∧
    ∃ e, (loggedOut.useAll c second).use c ask = (loggedOut.useAll c second, some e) ∧
      e.attempted = [] := by
  intro c ask first second
  have wellFormed : RequestOptions.get.headers.WellFormed := Headers.wellFormed_nil
  obtain ⟨token, -, -, requests⟩ := token_carried c first
  have padded : Trimmed "\u2003abc 123\n" "abc 123" :=
    ⟨⟨['\u2003'], ['\n'], List.forall_mem_singleton.2 rfl, List.forall_mem_singleton.2 rfl, rfl⟩,
      by rintro _ ⟨⟩; rfl, by rintro _ ⟨⟩; rfl⟩
  have stored := (token "abc 123").2 ⟨[], _, rfl, ⟨'a', by decide, by decide⟩, padded⟩
  obtain ⟨e, made, answers⟩ := requests _ "orders" .get wellFormed
  have clean : ¬∃ t, (loggedOut.useAll c first).token = some t ∧ ∃ ch ∈ t.toList, IsControl ch := by
    rintro ⟨t, same, ch, mem, control⟩
    obtain rfl := Option.some.inj (stored.symm.trans same)
    have good : Sendable "abc 123" := by decide
    exact sendable_iff.1 good ch mem control
  obtain ⟨r, sent, carries⟩ := answers.sent (mt answers.unsent.1 clean)
  have absent : ¬RequestOptions.get.headers.Has "authorization" := by decide
  refine ⟨wellFormed, stored, ⟨e, r, made, sent, carries.signed absent _ stored⟩, ?_⟩
  obtain ⟨token, -, -, requests⟩ := token_carried c second
  have inside : Trimmed "a\nb" "a\nb" :=
    ⟨⟨[], [], nofun, nofun, rfl⟩, by rintro _ ⟨⟩; rfl, by rintro _ ⟨⟩; rfl⟩
  have stored := (token "a\nb").2
    ⟨[.login "\u2003abc 123\n"], _, rfl, ⟨'a', by decide, by decide⟩, inside⟩
  obtain ⟨e, made, answers⟩ := requests _ "orders" .get wellFormed
  have lineEnd : IsControl '\n' := .inl ⟨by decide, by decide⟩
  exact ⟨e, made, answers.unsent.2 ⟨_, stored, '\n', by decide, lineEnd⟩⟩

end HeatFeed.Session
