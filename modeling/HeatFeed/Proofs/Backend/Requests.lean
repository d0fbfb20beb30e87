import HeatFeed.Backend
import HeatFeed.Proofs.Text.Digits

/-!
# Requests that leave a trace

Every heatmap request is recorded, and so is every echo request whose body the server reads and
whose query asks for no status or for one number of 16 bits. The backend stays as it is after any
other request.
-/

namespace HeatFeed

open Http

/-- Visible characters of ASCII, spaces and tabs. -/
def Http.Visible (text : String) : Prop :=
  ∀ c ∈ text.toList, c = '\t' ∨ 32 ≤ c.toNat ∧ c.toNat < 127

instance (text : String) : Decidable (Visible text) := List.decidableBAll _ _

namespace Backend

/-- The method and the path of a heatmap request. -/
def AtHeatmap (method path : String) : Prop :=
  method = "GET" ∧ Percent.decodePath path = "/api/" ++ heatmapPath

/-- A health check. -/
def AtHealth (a : Arrival) : Prop :=
  a.method = "GET" ∧ Percent.decodePath a.url.path = "/api/health_check"

/-- An echo request, with any method. -/
def AtEcho (a : Arrival) : Prop := Percent.decodePath a.url.path = "/api/echo"

/-- The texts that a query has for the status. -/
def statuses (pairs : List (String × String)) : List String :=
  (pairs.filter fun pair => pair.1 = "status").map Prod.snd

/-- What is asked for with texts: without any no status, and with one the number that it spells. -/
inductive AskFor : List String → Option Nat → Prop where
  | nothing : AskFor [] none
  | status {text : String} {code : Nat} : Digits.Spells text.toList code → code < 2 ^ 16 →
    AskFor [text] (some code)

/-- The query of a request asks for no status, or for a number of 16 bits. -/
def Acceptable (a : Arrival) : Prop :=
  ∃ asked, AskFor (statuses (queryPairs (a.url.query.getD ""))) asked

/-- The server reads the body of a request. -/
def Readable (reader : BodyReader) (a : Arrival) : Prop := ∃ body, reader a = .ok body

/-- A request that is recorded. -/
def Kept (reader : BodyReader) (a : Arrival) : Prop :=
  AtHeatmap a.method a.url.path ∨ AtEcho a ∧ Readable reader a ∧ Acceptable a

/-! ### The status in a query -/

theorem queryStatus_cons_of_ne {found : Option Nat} {name value : String}
    {rest : List (String × String)} (h : name ≠ "status") :
    queryStatus found ((name, value) :: rest) = queryStatus found rest := by
  rw [queryStatus, if_pos h]

theorem statuses_cons_of_ne {name value : String} {rest : List (String × String)}
    (h : name ≠ "status") : statuses ((name, value) :: rest) = statuses rest := by
  simp [statuses, h]

theorem statuses_cons_status (value : String) (rest : List (String × String)) :
    statuses (("status", value) :: rest) = value :: statuses rest := by
  simp [statuses]

/-- Behind a status that was found, a second one is refused. -/
theorem queryStatus_found_iff {code : Nat} {pairs : List (String × String)} {asked : Option Nat} :
    queryStatus (some code) pairs = .ok asked ↔ statuses pairs = [] ∧ asked = some code := by
  induction pairs with
  | nil => simp [queryStatus, statuses, eq_comm]
  | cons pair rest ih =>
    obtain ⟨name, value⟩ := pair
    by_cases named : name = "status"
    · subst named
      rw [statuses_cons_status]
      exact iff_of_false nofun nofun
    · rw [queryStatus_cons_of_ne named, statuses_cons_of_ne named, ih]

theorem askFor_cons_iff {text : String} {texts : List String} {asked : Option Nat} :
    AskFor (text :: texts) asked ↔ ∃ code, Digits.parse Digits.bound16 text.toList = .ok code ∧
      texts = [] ∧ asked = some code := by
  simp only [Digits.parse_eq_ok_iff (show 0 < Digits.bound16 by decide)]
  constructor
  · rintro (_ | ⟨spelt, fits⟩)
    exact ⟨_, ⟨spelt, fits⟩, rfl, rfl⟩
  · rintro ⟨code, ⟨spelt, fits⟩, rfl, rfl⟩
    exact .status spelt fits

/-- The pairs of a query are read as what is asked for with the texts that they have for the
status. -/
theorem queryStatus_eq_ok_iff {pairs : List (String × String)} {asked : Option Nat} :
    queryStatus none pairs = .ok asked ↔ AskFor (statuses pairs) asked := by
  induction pairs with
  | nil =>
    constructor
    · rintro ⟨⟩
      exact .nothing
    · rintro ⟨⟩
      rfl
  | cons pair rest ih =>
    obtain ⟨name, value⟩ := pair
    by_cases named : name = "status"
    · subst named
      rw [statuses_cons_status, askFor_cons_iff, queryStatus, if_neg (not_not_intro rfl),
        Option.isSome_none, if_neg Bool.false_ne_true]
      cases Digits.parse Digits.bound16 value.toList with
      | error e => simp
      | ok code => simp [queryStatus_found_iff]
    · rw [queryStatus_cons_of_ne named, statuses_cons_of_ne named, ih]

theorem acceptable_iff {a : Arrival} :
    Acceptable a ↔ (queryStatus none (queryPairs (a.url.query.getD ""))).isOk = true := by
  rw [Acceptable]
  simp only [← queryStatus_eq_ok_iff]
  cases queryStatus none (queryPairs (a.url.query.getD "")) with
  | error e => exact iff_of_false nofun nofun
  | ok asked => exact iff_of_true ⟨asked, rfl⟩ rfl

theorem readable_iff {reader : BodyReader} {a : Arrival} :
    Readable reader a ↔ (reader a).isOk = true := by
  rw [Readable]
  cases reader a with
  | error refusal => exact iff_of_false nofun nofun
  | ok body => exact iff_of_true ⟨body, rfl⟩ rfl

instance (method path : String) : Decidable (AtHeatmap method path) :=
  inferInstanceAs (Decidable (_ ∧ _))

instance (a : Arrival) : Decidable (AtEcho a) := inferInstanceAs (Decidable (_ = _))

instance (a : Arrival) : Decidable (Acceptable a) := decidable_of_iff _ acceptable_iff.symm

instance (reader : BodyReader) (a : Arrival) : Decidable (Readable reader a) :=
  decidable_of_iff _ readable_iff.symm

instance (reader : BodyReader) (a : Arrival) : Decidable (Kept reader a) :=
  inferInstanceAs (Decidable (_ ∨ _ ∧ _ ∧ _))

/-- The record of a request: with the values that are visible, and with the body as the server reads
it, but without that of a heatmap request. -/
def note (reader : BodyReader) (a : Arrival) : RecordedRequest where
  method := a.method
  path := a.url.path
  headers := a.headers.map fun (name, values) =>
    (name, values.map fun v => if Visible v.text then v.text else "")
  body := if AtHeatmap a.method a.url.path then "" else (reader a).toOption.getD ""

/-! ### Records -/

theorem isVisible_iff {c : Char} :
    isVisible c = true ↔ c = '\t' ∨ 32 ≤ c.toNat ∧ c.toNat < 127 := by
  have space : ' ' ≤ c ↔ 32 ≤ c.toNat := Iff.rfl
  have delete : c < '\x7f' ↔ c.toNat < 127 := Iff.rfl
  rw [isVisible, Bool.or_eq_true, Bool.and_eq_true, beq_iff_eq, decide_eq_true_iff,
    decide_eq_true_iff, space, delete]

theorem recordedValue_eq (v : HeaderValue) :
    recordedValue v = if Visible v.text then v.text else "" := by
  have visible : v.text.toList.all isVisible = true ↔ Visible v.text := by
    simp only [List.all_eq_true, isVisible_iff, Visible]
  exact if_congr visible rfl rfl

theorem recordedValue_of_visible {v : HeaderValue} (h : Visible v.text) :
    recordedValue v = v.text := by
  rw [recordedValue_eq, if_pos h]

theorem note_eq (reader : BodyReader) (a : Arrival) : note reader a =
    record a (if AtHeatmap a.method a.url.path then "" else (reader a).toOption.getD "") := by
  simp only [note, record, ← recordedValue_eq]

/-! ### Routes -/

section

variable {a : Arrival}

theorem route_of_health (h : AtHealth a) : route a = .health := by
  rw [route, if_pos ⟨h.2, h.1⟩]

theorem route_of_heatmap (h : AtHeatmap a.method a.url.path) : route a = .heatmap := by
  rw [route, h.2, if_neg fun both => absurd both.1 (by decide), if_pos ⟨rfl, h.1⟩]

theorem route_of_echo (h : AtEcho a) : route a = .echo := by
  rw [AtEcho] at h
  rw [route, h, if_neg fun both => absurd both.1 (by decide),
    if_neg fun both => absurd both.1 (by decide), if_pos rfl]

theorem route_of_none (health : ¬AtHealth a) (heatmap : ¬AtHeatmap a.method a.url.path)
    (echo : ¬AtEcho a) : route a = .unknown := by
  rw [AtEcho] at echo
  rw [route, if_neg fun both => health both.symm, if_neg fun both => heatmap both.symm,
    if_neg echo]

theorem not_atEcho_of_atHeatmap (h : AtHeatmap a.method a.url.path) : ¬AtEcho a := by
  intro echo
  have routes := (route_of_heatmap h).symm.trans (route_of_echo echo)
  cases routes

/-! ### Answers -/

variable (reader : BodyReader) (b : Backend)

theorem answer_of_heatmap (h : AtHeatmap a.method a.url.path) : b.answer reader a =
    (withoutBody a b.nextReply.1.response, { b with
      queue := b.nextReply.2, requests := b.requests ++ [note reader a], hits := b.hits + 1 }) := by
  rw [answer, route_of_heatmap h, note_eq, if_pos h]
  rfl

theorem answer_of_health (h : AtHealth a) :
    b.answer reader a = (⟨.ok, Utf8.bytes "healthy"⟩, b) := by
  rw [answer, route_of_health h]
  simp [withoutBody, h.1, Status.ok]

theorem answer_of_none (health : ¬AtHealth a) (heatmap : ¬AtHeatmap a.method a.url.path)
    (echo : ¬AtEcho a) : b.answer reader a = (⟨⟨404⟩, []⟩, b) := by
  rw [answer, route_of_none health heatmap echo]
  simp [withoutBody]

theorem status_withoutBody (r : Response) : (withoutBody a r).status = r.status := by
  rw [withoutBody]
  split
  · rfl
  · rfl

theorem answer_of_echo (h : AtEcho a) (readable : Readable reader a) (acceptable : Acceptable a) :
    (b.answer reader a).2 = { b with requests := b.requests ++ [note reader a] } := by
  obtain ⟨body, read⟩ := readable
  obtain ⟨asked, asks⟩ := acceptable
  rw [answer, route_of_echo h, note_eq, if_neg fun heatmap => not_atEcho_of_atHeatmap heatmap h]
  simp only [answerEcho, queryStatus_eq_ok_iff.2 asks, read]
  rfl

/-- What the server says about a body that it does not read is the answer. -/
theorem answer_of_unread (h : AtEcho a) {refusal : Response} (unread : reader a = .error refusal) :
    (b.answer reader a).1.status = refusal.status ∧ (b.answer reader a).2 = b := by
  rw [answer, route_of_echo h]
  simp only [answerEcho, unread, and_true]
  exact status_withoutBody refusal

theorem answer_of_rejected (h : AtEcho a) (rejected : ¬Acceptable a) :
    (Readable reader a → (b.answer reader a).1.status = ⟨400⟩) ∧ (b.answer reader a).2 = b := by
  cases read : reader a with
  | error refusal =>
    refine ⟨fun readable => ?_, (answer_of_unread reader b h read).2⟩
    obtain ⟨body, other⟩ := readable
    cases read.symm.trans other
  | ok body =>
    rw [acceptable_iff] at rejected
    rw [answer, route_of_echo h]
    simp only [answerEcho, read]
    cases asked : queryStatus none (queryPairs (a.url.query.getD "")) with
    | ok status =>
      rw [asked] at rejected
      exact absurd rfl rejected
    | error e => exact ⟨fun _ => status_withoutBody _, rfl⟩

/-- A request that is not kept leaves the backend as it was. -/
theorem answer_of_not_kept (h : ¬Kept reader a) : (b.answer reader a).2 = b := by
  obtain ⟨heatmap, echo⟩ := not_or.1 h
  by_cases health : AtHealth a
  · rw [answer_of_health reader b health]
  by_cases atEcho : AtEcho a
  · by_cases acceptable : Acceptable a
    · cases read : reader a with
      | error refusal => exact (answer_of_unread reader b atEcho read).2
      | ok body => exact absurd ⟨atEcho, ⟨body, read⟩, acceptable⟩ echo
    · exact (answer_of_rejected reader b atEcho acceptable).2
  · rw [answer_of_none reader b health heatmap atEcho]

/-- A request is a heatmap request, another one that is kept, or not kept. -/
theorem request_cases (a : Arrival) : AtHeatmap a.method a.url.path ∨
    (¬AtHeatmap a.method a.url.path ∧ AtEcho a ∧ Readable reader a ∧ Acceptable a) ∨
    (¬AtHeatmap a.method a.url.path ∧ ¬Kept reader a) := by
  by_cases heatmap : AtHeatmap a.method a.url.path
  · exact .inl heatmap
  · by_cases kept : Kept reader a
    · exact .inr (.inl ⟨heatmap, kept.resolve_left heatmap⟩)
    · exact .inr (.inr ⟨heatmap, kept⟩)

theorem nextReply_eq : b.nextReply = (b.queue.head?.getD b.fallback, b.queue.tail) := by
  rw [nextReply]
  cases b.queue with
  | nil => rfl
  | cons r rest => rfl

variable (a)

theorem queue_answer : (b.answer reader a).2.queue =
    if AtHeatmap a.method a.url.path then b.queue.tail else b.queue := by
  rcases request_cases reader a with heatmap | ⟨other, echo, readable, acceptable⟩ | ⟨other, lost⟩
  · rw [answer_of_heatmap reader b heatmap, if_pos heatmap, nextReply_eq]
  · rw [answer_of_echo reader b echo readable acceptable, if_neg other]
  · rw [answer_of_not_kept reader b lost, if_neg other]

theorem fallback_answer : (b.answer reader a).2.fallback = b.fallback := by
  rcases request_cases reader a with heatmap | ⟨other, echo, readable, acceptable⟩ | ⟨other, lost⟩
  · rw [answer_of_heatmap reader b heatmap]
  · rw [answer_of_echo reader b echo readable acceptable]
  · rw [answer_of_not_kept reader b lost]

theorem hits_answer : (b.answer reader a).2.hits =
    b.hits + if AtHeatmap a.method a.url.path then 1 else 0 := by
  rcases request_cases reader a with heatmap | ⟨other, echo, readable, acceptable⟩ | ⟨other, lost⟩
  · rw [answer_of_heatmap reader b heatmap, if_pos heatmap]
  · rw [answer_of_echo reader b echo readable acceptable, if_neg other, Nat.add_zero]
  · rw [answer_of_not_kept reader b lost, if_neg other, Nat.add_zero]

theorem requests_answer : (b.answer reader a).2.requests =
    b.requests ++ if Kept reader a then [note reader a] else [] := by
  rcases request_cases reader a with heatmap | ⟨other, echo, readable, acceptable⟩ | ⟨other, lost⟩
  · rw [answer_of_heatmap reader b heatmap, if_pos (.inl heatmap)]
  · rw [answer_of_echo reader b echo readable acceptable,
      if_pos (.inr ⟨echo, readable, acceptable⟩)]
  · rw [answer_of_not_kept reader b lost, if_neg lost, List.append_nil]

end

end Backend

end HeatFeed
