import HeatFeed.Proofs.Fencing
import HeatFeed.View.Page
import HeatFeed.View.Refetch

/-!
# What is shown of the feed

A feed has an optional snapshot, a flag and an optional error. Of their eight combinations only
those of three kinds of content are reached: nothing but the flag, nothing but an error, or a
snapshot with or without an error. Which one it is can be told from the applied results alone: it
depends on the last success among them, and on the failures after it. What is shown of a content is
told by the texts that can be read there, whatever stands around them.
-/

namespace HeatFeed.View

open FetchState

mutual

/-- The texts of a node, in the order in which they are read. -/
def Html.texts : Html → List String
  | .text s => [s]
  | .element _ _ children => Html.textsAll children

/-- The texts of nodes in a row. -/
def Html.textsAll : List Html → List String
  | [] => []
  | x :: xs => x.texts ++ Html.textsAll xs

end

/-- What views share once some results have come in one after another. -/
def Shared.dispatchAll (s : Shared) (results : List Numbered) : Shared :=
  results.foldl (fun s r => s.dispatch r.1 r.2) s

/-- What there is to show. A snapshot may have a notice that it could not be refreshed. -/
inductive Content where
  | loading
  | failed (text : String)
  | grid (snapshot : Snapshot) (notice : Option String)

/-- Failures only, at least one. The text tells the last one, and is not empty. -/
structure Failures (results : List Numbered) (text : String) : Prop where
  only : ∀ r ∈ results, ∃ message, r.2 = .error message
  last : ∃ r, results.getLast? = some r ∧ errorOf r.2 = some text
  told : text ≠ ""

theorem errorOf_ne_empty {result : Except String Snapshot} {text : String}
    (h : errorOf result = some text) : text ≠ "" := by
  cases result with
  | ok snapshot => cases h
  | error message =>
    rw [errorOf, Option.some.injEq] at h
    rw [← h]
    split
    · decide
    · assumption

/-- A failure after failures, or after nothing. -/
theorem Failures.concat (results : List Numbered) (seq : Nat) {message text : String}
    (only : ∀ r ∈ results, ∃ message, r.2 = .error message)
    (h : errorOf (.error message) = some text) :
    Failures (results ++ [(seq, .error message)]) text where
  only r mem := by
    rcases List.mem_append.1 mem with mem | mem
    · exact only r mem
    · rw [List.mem_singleton.1 mem]
      exact ⟨message, rfl⟩
  last := ⟨_, List.getLast?_concat, h⟩
  told := errorOf_ne_empty h

theorem Failures.ne_nil {results : List Numbered} {text : String} (h : Failures results text) :
    results ≠ [] := by
  rintro rfl
  obtain ⟨r, last, -⟩ := h.last
  cases last

theorem Failures.not_mem_ok {results : List Numbered} {text : String} (h : Failures results text)
    {seq : Nat} {snapshot : Snapshot} : (seq, .ok snapshot) ∉ results := by
  intro mem
  obtain ⟨message, failed⟩ := h.only _ mem
  cases failed

theorem Failures.unique {results : List Numbered} {a b : String} (ha : Failures results a)
    (hb : Failures results b) : a = b := by
  obtain ⟨r, last, told⟩ := ha.last
  obtain ⟨r', last', told'⟩ := hb.last
  obtain rfl := Option.some.inj (last.symm.trans last')
  exact Option.some.inj (told.symm.trans told')

namespace Content

/-- What there is to show once the given results, and no others, have been applied. -/
inductive After : List Numbered → Content → Prop where
  | nothing : After [] .loading
  | failures {results : List Numbered} {text : String} (h : Failures results text) :
      After results (.failed text)
  | success (earlier : List Numbered) (seq : Nat) (snapshot : Snapshot) :
      After (earlier ++ [(seq, .ok snapshot)]) (.grid snapshot none)
  | refreshes (earlier : List Numbered) (seq : Nat) (snapshot : Snapshot)
      {later : List Numbered} {text : String} (h : Failures later text) :
      After (earlier ++ (seq, .ok snapshot) :: later) (.grid snapshot (some text))

/-- The feed with this content. -/
def feed : Content → Feed
  | .loading => ⟨none, true, none⟩
  | .failed text => ⟨none, false, some text⟩
  | .grid snapshot notice => ⟨some snapshot, false, notice⟩

/-- A node shows a content, where `panel` says how a snapshot and its notice are shown. -/
inductive Shows (panel : Snapshot → Option String → Html → Prop) : Content → Html → Prop where
  | loading {node : Html} (h : node.texts = ["Loading heatmap..."]) : Shows panel .loading node
  | failed {text : String} {node : Html} (h : node.texts = ["Error loading heatmap: " ++ text]) :
      Shows panel (.failed text) node
  | grid {snapshot : Snapshot} {notice : Option String} {node : Html}
      (h : panel snapshot notice node) : Shows panel (.grid snapshot notice) node

theorem shows_feed {panel : Snapshot → Option String → Html → Prop}
    {shown : Snapshot → Option String → Html} (h : ∀ s notice, panel s notice (shown s notice)) :
    ∀ c : Content, c.Shows panel (c.feed.render shown)
  | .loading => .loading rfl
  | .failed _ => .failed rfl
  | .grid snapshot notice => .grid (h snapshot notice)

/-! ### Steps -/

theorem After.error {results : List Numbered} {c : Content} (h : After results c) (seq : Nat)
    (message : String) {text : String} (told : errorOf (.error message) = some text) :
    ∃ next, After (results ++ [(seq, .error message)]) next ∧
      next.feed = ⟨c.feed.data, false, some text⟩ := by
  cases h with
  | nothing => exact ⟨_, .failures (.concat [] seq nofun told), rfl⟩
  | failures failed => exact ⟨_, .failures (.concat _ seq failed.only told), rfl⟩
  | success earlier n snapshot =>
    rw [List.append_assoc, List.singleton_append]
    exact ⟨_, .refreshes earlier n snapshot (.concat [] seq nofun told), rfl⟩
  | refreshes earlier n snapshot failed =>
    rw [List.append_assoc, List.cons_append]
    exact ⟨_, .refreshes earlier n snapshot (.concat _ seq failed.only told), rfl⟩

/-- Once one more result has been applied there is again some content, and the state shows it. -/
theorem After.apply {results : List Numbered} {c : Content} (h : After results c) {s : FetchState}
    (same : Feed.ofState s = c.feed) (r : Numbered) :
    ∃ next, After (results ++ [r]) next ∧ Feed.ofState (s.apply r.1 r.2) = next.feed := by
  obtain ⟨seq, message | snapshot⟩ := r
  · obtain ⟨next, after, feed⟩ := h.error seq message rfl
    refine ⟨next, after, ?_⟩
    rw [feed, ← same]
    rfl
  · exact ⟨_, .success results seq snapshot, rfl⟩

theorem exists_after (results : List Numbered) :
    ∃ c, After (initial.accepted results) c ∧
      Feed.ofState (initial.resolveAll results) = c.feed := by
  -- The state and the content that are reached are told from the end: a result is applied or not.
  induction results using List.reverseRecOn with
  | nil => exact ⟨_, .nothing, rfl⟩
  | append_singleton results r ih =>
    obtain ⟨c, after, same⟩ := ih
    rcases concat_cases results r with ⟨state, applied, -⟩ | ⟨state, applied, -⟩
    · rw [state, applied]
      exact after.apply same r
    · rw [state, applied]
      exact ⟨c, after, same⟩

end Content

/-! ### Pages -/

/-- A page with what it shows of the feed. -/
def framed (session : Session) (shown : Html) : Html :=
  .styled "div" "space-y-6" [pageHeader, sessionPanel session, shown]

/-- A snapshot on the page: its grid, and above it the time and the notice, if there is one. -/
def Panel (snapshot : Snapshot) (notice : Option String) (node : Html) : Prop :=
  ∃ tag attributes above, node = .element tag attributes (above ++ [grid snapshot]) ∧
    Html.textsAll above = ("Updated " ++ Timestamp.display snapshot.timestamp) ::
      (notice.map ("Refresh failed: " ++ ·)).toList

theorem panel_snapshotPanel (snapshot : Snapshot) :
    ∀ notice, Panel snapshot notice (snapshotPanel snapshot notice)
  | none => ⟨_, _, _, rfl, rfl⟩
  | some _ => ⟨_, _, _, rfl, rfl⟩

theorem textsAll_append (xs ys : List Html) :
    Html.textsAll (xs ++ ys) = Html.textsAll xs ++ Html.textsAll ys := by
  induction xs with
  | nil => rfl
  | cons x xs ih => rw [List.cons_append, Html.textsAll, ih, Html.textsAll, List.append_assoc]

/-- The first that is read of a snapshot is its time. -/
theorem Panel.texts {snapshot : Snapshot} {notice : Option String} {node : Html}
    (h : Panel snapshot notice node) : ∃ rest,
      node.texts = ("Updated " ++ Timestamp.display snapshot.timestamp) :: rest := by
  obtain ⟨tag, attributes, above, rfl, texts⟩ := h
  rw [Html.texts, textsAll_append, texts]
  exact ⟨_, rfl⟩

namespace Content

/-- The placeholder cannot be taken for anything else. -/
theorem Shows.loading_iff {c : Content} {node : Html} (h : c.Shows Panel node) :
    node.texts = ["Loading heatmap..."] ↔ c = .loading := by
  cases h with
  | loading texts => exact iff_of_true texts rfl
  | failed texts =>
    rw [texts]
    exact iff_of_false (by simp [String.ext_iff]) nofun
  | grid panel =>
    obtain ⟨rest, texts⟩ := panel.texts
    rw [texts]
    exact iff_of_false (by simp [String.ext_iff]) nofun

/-- An error cannot be taken for anything else. -/
theorem Shows.failed_iff {c : Content} {node : Html} (h : c.Shows Panel node) (text : String) :
    node.texts = ["Error loading heatmap: " ++ text] ↔ c = .failed text := by
  cases h with
  | loading texts =>
    rw [texts]
    exact iff_of_false (by simp [String.ext_iff]) nofun
  | failed texts =>
    rw [texts]
    simp [eq_comm]
  | grid panel =>
    obtain ⟨rest, texts⟩ := panel.texts
    rw [texts]
    exact iff_of_false (by simp [String.ext_iff]) nofun

end Content

namespace Content

theorem After.loading_iff {results : List Numbered} {c : Content} (h : After results c) :
    c = .loading ↔ results = [] := by
  cases h with
  | nothing => exact iff_of_true rfl rfl
  | failures failed => exact iff_of_false nofun failed.ne_nil
  | success => simp
  | refreshes => simp

theorem After.failed_iff {results : List Numbered} {c : Content} (h : After results c)
    (text : String) : c = .failed text ↔ Failures results text := by
  cases h with
  | nothing => exact iff_of_false nofun fun failed => failed.ne_nil rfl
  | failures failed =>
    constructor
    · rintro ⟨⟩
      exact failed
    · intro other
      rw [failed.unique other]
  | success earlier seq snapshot =>
    exact iff_of_false nofun fun failed => failed.not_mem_ok (List.mem_append_right _ (.head _))
  | refreshes earlier seq snapshot =>
    exact iff_of_false nofun fun failed => failed.not_mem_ok (List.mem_append_right _ (.head _))

end Content

/-! ### The shared state -/

theorem dispatch_of_accepts {s : Shared} {seq : Nat} (h : s.state.accepts seq = true)
    (result : Except String Snapshot) :
    s.dispatch seq result = ⟨s.mark + 1, s.state.resolve seq result⟩ := if_pos h

theorem dispatch_eq_self_iff (s : Shared) (seq : Nat) (result : Except String Snapshot) :
    s.dispatch seq result = s ↔ s.state.accepts seq = false := by
  rcases h : s.state.accepts seq with _ | _
  · exact iff_of_true (by rw [Shared.dispatch, h]; rfl) rfl
  · refine iff_of_false (fun same => ?_) nofun
    rw [dispatch_of_accepts h] at same
    exact Nat.succ_ne_self _ (congrArg Shared.mark same)

theorem state_dispatch (s : Shared) (seq : Nat) (result : Except String Snapshot) :
    (s.dispatch seq result).state = s.state.resolve seq result := by
  rcases h : s.state.accepts seq with _ | _
  · rw [(dispatch_eq_self_iff s seq result).2 h, resolve_of_refuses h]
  · rw [dispatch_of_accepts h]

theorem state_dispatchAll (s : Shared) (results : List Numbered) :
    (s.dispatchAll results).state = s.state.resolveAll results := by
  induction results generalizing s with
  | nil => rfl
  | cons r rest ih =>
    calc (s.dispatchAll (r :: rest)).state
      _ = (s.dispatch r.1 r.2).state.resolveAll rest := ih (s.dispatch r.1 r.2)
      _ = (s.state.resolve r.1 r.2).resolveAll rest := by rw [state_dispatch]

/-- Whatever results come in, the shared state is that of a fetch state with the same results, and
one more result leaves the very same one behind iff it is not applied. What is shown is the content
after the applied results: the placeholder iff there are none; the error of the last one iff all of
them, and at least one, are failures; and else the grid of the last success, with a notice iff
failures came after it. An error is never shown without its text. -/
theorem content_dispatchAll (results : List Numbered) (session : Session) :
    let s := Shared.initial.dispatchAll results
    let applied := FetchState.initial.accepted results
    let f := Feed.ofState s.state
    s.state = FetchState.initial.resolveAll results ∧
    (∀ seq result, s.dispatch seq result = s ↔
      (FetchState.initial.resolveAll results).accepts seq = false) ∧
    (∃ c node, Content.After applied c ∧
      (∀ shown, c.Shows (fun snapshot notice node => shown snapshot notice = node)
        (f.render shown)) ∧
      page session f = framed session node ∧ c.Shows Panel node ∧
      (node.texts = ["Loading heatmap..."] ↔ applied = []) ∧
      ∀ text, node.texts = ["Error loading heatmap: " ++ text] ↔ Failures applied text) ∧
    ¬(f.data = none ∧ f.loading = false ∧ f.error = none) := by
  intro s applied f
  have state : s.state = FetchState.initial.resolveAll results :=
    state_dispatchAll Shared.initial results
  obtain ⟨c, after, same⟩ := Content.exists_after results
  have feed : f = c.feed := (congrArg Feed.ofState state).trans same
  have shows : c.Shows Panel (f.render snapshotPanel) := by
    rw [feed]
    exact c.shows_feed panel_snapshotPanel
  refine ⟨state, fun seq result => ?_, ⟨c, f.render snapshotPanel, after, fun shown => ?_, rfl,
    shows, ?_, fun text => ?_⟩, ?_⟩
  · rw [dispatch_eq_self_iff, state]
  · rw [feed]
    exact c.shows_feed fun _ _ => rfl
  · rw [shows.loading_iff, after.loading_iff]
  · rw [shows.failed_iff, after.failed_iff]
  · rw [feed]
    cases c <;> simp [Content.feed]

/-- A snapshot whose time is not understood, a refresh that fails, and a result that comes too
late. -/
theorem content_dispatchAll_refresh :
    let snapshot : Snapshot := ⟨["A"], some ["M1"], [], "soon", []⟩
    let late : Snapshot := ⟨[], none, [], "late", []⟩
    let results : List Numbered := [(1, .ok snapshot), (3, .error "boom"), (2, .ok late)]
    let f := Feed.ofState (Shared.initial.dispatchAll results).state
    ∃ tag attributes above,
      page .loggedOut f = framed .loggedOut (.element tag attributes (above ++ [grid snapshot])) ∧
      Html.textsAll above = ["Updated soon", "Refresh failed: boom"] := by
  intro snapshot late results f
  obtain ⟨-, -, ⟨c, node, after, -, page, shows, -⟩, -⟩ := content_dispatchAll results .loggedOut
  have applied : initial.accepted results = results.take 2 := by rfl
  have content : c = .grid snapshot (some "boom") := by
    rw [applied] at after
    generalize same : results.take 2 = applied at after
    cases after with
    | nothing => cases same
    | failures failed =>
      have mem : (1, .ok snapshot) ∈ results.take 2 := .head _
      exact absurd (same ▸ mem) failed.not_mem_ok
    | success earlier seq other =>
      have last := congrArg List.getLast? same
      rw [List.getLast?_concat] at last
      cases last
    | refreshes earlier seq other failed =>
      rcases earlier with _ | ⟨first, _ | ⟨second, rest⟩⟩
      · cases same
        obtain ⟨r, last, told⟩ := failed.last
        cases last
        cases told
        rfl
      · cases same
      · simp [results] at same
  rw [content] at shows
  cases shows with
  | grid panel =>
    obtain ⟨tag, attributes, above, rfl, texts⟩ := panel
    exact ⟨tag, attributes, above, page, texts.trans (by decide +kernel)⟩

end HeatFeed.View
