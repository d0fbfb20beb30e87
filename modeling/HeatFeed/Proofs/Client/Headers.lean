import HeatFeed.Client
import HeatFeed.Proofs.Http.Header

/-!
# Merged headers

A request has a content type and, with a token, an authorization. The headers that the caller gives
take the place of these by name, with all their values. No headers come of a token with which no
header value can be formed, also where the caller gives an authorization.
-/

namespace HeatFeed

open Http

/-- A header value can be formed with the token. -/
def Sendable (token : String) : Prop := HeaderValue.ofText? ("Bearer " ++ token) ≠ none

instance (token : String) : Decidable (Sendable token) :=
  inferInstanceAs (Decidable (HeaderValue.ofText? ("Bearer " ++ token) ≠ none))

/-- The control characters of ASCII but the tab. -/
def IsControl (c : Char) : Prop := c.toNat < 32 ∧ c ≠ '\t' ∨ c.toNat = 127

/-- The headers that a request has by itself, if its token can be sent. -/
def standardHeaders : Option String → Headers
  | none => [("content-type", [⟨"application/json", false⟩])]
  | some token =>
    [("authorization", [⟨"Bearer " ++ token, true⟩]),
      ("content-type", [⟨"application/json", false⟩])]

/-- What the headers of a request are, given those of the caller. Names stand for all spellings that
differ in letter case. -/
structure Merges (token : Option String) (overrides merged : Headers) : Prop where
  wellFormed : merged.WellFormed
  names : ∀ name, merged.Has name ↔ lowerName name = "content-type" ∨
    (token.isSome = true ∧ lowerName name = "authorization") ∨ overrides.Has name
  /-- A name that the caller gives has the caller's values and no other. -/
  overridden : ∀ name, overrides.Has name → merged.values name = overrides.values name
  contentType : ¬overrides.Has "content-type" →
    merged.values "content-type" = [⟨"application/json", false⟩]
  authorization : ∀ t, token = some t → ¬overrides.Has "authorization" →
    merged.values "authorization" = [⟨"Bearer " ++ t, true⟩]
  /-- Of values that are not to be shown, there is only that of the token. -/
  sensitive : (∀ name, ∀ v ∈ overrides.values name, v.sensitive = false) →
    ∀ name, ∀ v ∈ merged.values name, (v.sensitive = true ↔ ∃ t, token = some t ∧
      lowerName name = "authorization" ∧ ¬overrides.Has name ∧ v = ⟨"Bearer " ++ t, true⟩)

/-! ### Tokens that can be sent -/

theorem isValueChar_iff {c : Char} : isValueChar c = true ↔ ¬IsControl c := by
  have space : ' ' ≤ c ↔ 32 ≤ c.toNat := Iff.rfl
  have delete : c = '\x7f' ↔ c.toNat = 127 := Char.toNat_inj.symm
  have tab : c = '\t' → c.toNat = 9 := fun same => congrArg Char.toNat same
  rw [isValueChar, Bool.or_eq_true, Bool.and_eq_true, beq_iff_eq, decide_eq_true_iff,
    decide_eq_true_iff, space, ne_eq, delete, IsControl]
  by_cases isTab : c = '\t'
  · have := tab isTab
    simp only [isTab, true_or, ne_eq, not_true_eq_false, and_false, false_or, true_iff]
    decide
  · simp only [isTab, false_or, ne_eq, not_false_eq_true, and_true]
    omega

/-- A header value can be formed with exactly the tokens that hold no control character. -/
theorem sendable_iff {token : String} : Sendable token ↔ ∀ c ∈ token.toList, ¬IsControl c := by
  have scheme : "Bearer ".toList.all isValueChar = true := by decide
  have formed : Sendable token ↔ ("Bearer " ++ token).toList.all isValueChar = true := by
    rw [Sendable, HeaderValue.ofText?]
    split
    · rename_i h
      exact iff_of_true (Option.some_ne_none _) h
    · rename_i h
      exact iff_of_false (not_not_intro rfl) h
  rw [formed, String.toList_append, List.all_append, scheme, Bool.true_and, List.all_eq_true]
  exact forall₂_congr fun _ _ => isValueChar_iff

/-! ### Headers of a request by itself -/

theorem sendable_of_some {t : String} (h : Sendable t) : ∀ v, some t = some v → Sendable v :=
  fun _ given => Option.some.inj given ▸ h

theorem bearer?_of_sendable {t : String} (h : Sendable t) :
    bearer? t = some ⟨"Bearer " ++ t, true⟩ := by
  obtain ⟨v, formed⟩ := Option.ne_none_iff_exists'.1 h
  rw [bearer?, formed]
  rw [HeaderValue.ofText?] at formed
  split at formed
  · cases formed; rfl
  · cases formed

theorem bearer?_of_not_sendable {t : String} (h : ¬Sendable t) : bearer? t = none := by
  rw [bearer?, Decidable.not_not.1 h]; rfl

theorem defaultHeaders_of_sendable {token : Option String} (h : ∀ t, token = some t → Sendable t) :
    defaultHeaders token = .ok (standardHeaders token) := by
  cases token with
  | none => rfl
  | some t =>
    rw [defaultHeaders, bearer?_of_sendable (h t rfl)]
    rfl

theorem wellFormed_standardHeaders (token : Option String) :
    (standardHeaders token).WellFormed := by
  cases token with
  | none => exact ⟨List.pairwise_singleton _ _, by decide, by decide⟩
  | some t =>
    have before : "authorization" < "content-type" := by decide
    exact ⟨List.pairwise_pair.2 before, List.forall_mem_cons.2 ⟨lowerName_authorization, by decide⟩,
      List.forall_mem_cons.2 ⟨List.cons_ne_nil _ _, by decide⟩⟩

theorem values_standardHeaders (token : Option String) (name : String) :
    (standardHeaders token).values name =
      if lowerName name = "content-type" then [⟨"application/json", false⟩]
      else if lowerName name = "authorization" then
        (token.map fun t => ⟨"Bearer " ++ t, true⟩).toList
      else [] := by
  rw [Headers.values]
  generalize lowerName name = key
  cases token with
  | none =>
    rw [standardHeaders, Members.get?_cons, Members.get?]
    by_cases content : "content-type" = key
    · rw [if_pos content, if_pos content.symm]
      rfl
    · rw [if_neg content, if_neg (Ne.symm content)]
      exact (ite_self _).symm
  | some t =>
    rw [standardHeaders, Members.get?_cons, Members.get?_cons, Members.get?]
    by_cases content : "content-type" = key
    · rw [← content]
      rfl
    · rw [if_neg content, if_neg (Ne.symm content)]
      by_cases authorization : "authorization" = key
      · rw [if_pos authorization, if_pos authorization.symm]
        rfl
      · rw [if_neg authorization, if_neg (Ne.symm authorization)]
        rfl

theorem has_standardHeaders (token : Option String) (name : String) :
    (standardHeaders token).Has name ↔ lowerName name = "content-type" ∨
      (token.isSome = true ∧ lowerName name = "authorization") := by
  rw [(wellFormed_standardHeaders token).has_iff, values_standardHeaders]
  split
  · rename_i content
    simp [content]
  · rename_i other
    cases token <;> simp [other]

/-! ### Merging -/

theorem mergeHeaders_of_sendable {token : Option String} (h : ∀ t, token = some t → Sendable t)
    (overrides : Headers) :
    mergeHeaders token overrides = .ok ((standardHeaders token).override overrides) := by
  rw [mergeHeaders, defaultHeaders_of_sendable h]
  rfl

theorem mergeHeaders_of_not_sendable {t : String} (h : ¬Sendable t) (overrides : Headers) :
    mergeHeaders (some t) overrides = .error (.invalidHeader "authorization") := by
  rw [mergeHeaders, defaultHeaders, bearer?_of_not_sendable h]
  rfl

theorem merges_override (token : Option String) {overrides : Headers} (h : overrides.WellFormed) :
    Merges token overrides ((standardHeaders token).override overrides) where
  wellFormed := (wellFormed_standardHeaders token).override h
  names name := by
    rw [Headers.has_override h, has_standardHeaders]
    exact or_comm.trans or_assoc
  overridden name has := Headers.values_override_of_has h _ has
  contentType absent := by
    rw [Headers.values_override_of_not_has h _ absent, values_standardHeaders]
    rfl
  authorization t given absent := by
    rw [Headers.values_override_of_not_has h _ absent, values_standardHeaders, given]
    rfl
  sensitive plain name v mem := by
    by_cases has : overrides.Has name
    · rw [Headers.values_override_of_has h _ has] at mem
      simp [plain name v mem, has]
    · rw [Headers.values_override_of_not_has h _ has, values_standardHeaders] at mem
      split at mem
      · rename_i content
        obtain rfl := List.mem_singleton.1 mem
        simp
      · split at mem
        · rename_i authorization
          cases token with
          | none => cases mem
          | some t =>
            obtain rfl := List.mem_singleton.1 mem
            simp [authorization, has]
        · cases mem

/-- Merging fails iff there is a token with which no header value can be formed, whatever the caller
gives. Otherwise the names are the content type, the authorization if there is a token, and those of
the caller, whose values take the place of the values that a request has by itself. -/
theorem mergeHeaders_outcome (token : Option String) {overrides : Headers}
    (h : overrides.WellFormed) :
    (∀ e, mergeHeaders token overrides = .error e ↔ e = .invalidHeader "authorization" ∧
      ∃ t, token = some t ∧ HeaderValue.ofText? ("Bearer " ++ t) = none) ∧
    ((∀ t, token = some t → HeaderValue.ofText? ("Bearer " ++ t) ≠ none) →
      ∃ merged, mergeHeaders token overrides = .ok merged ∧ Merges token overrides merged) := by
  refine ⟨fun e => ⟨fun failed => ?_, ?_⟩, fun sendable => ?_⟩
  · by_cases sendable : ∀ t, token = some t → Sendable t
    · rw [mergeHeaders_of_sendable sendable] at failed
      cases failed
    · obtain ⟨t, given, bad⟩ : ∃ t, token = some t ∧ ¬Sendable t := by simpa using sendable
      rw [given, mergeHeaders_of_not_sendable bad] at failed
      cases failed
      exact ⟨rfl, t, given, Decidable.not_not.1 bad⟩
  · rintro ⟨rfl, t, rfl, bad⟩
    exact mergeHeaders_of_not_sendable (not_not_intro bad) overrides
  · exact ⟨_, mergeHeaders_of_sendable sendable overrides, merges_override token h⟩

/-- A caller who gives an authorization of its own and a name in two spellings, with a token that
can be sent and with one that cannot. -/
theorem mergeHeaders_outcome_spellings : ∃ overrides merged,
    Headers.ofPairs
      [("Accept", "text/csv"), ("aCCept", "text/plain"), ("AUTHORIZATION", "Basic x")] =
      .ok overrides ∧ overrides.WellFormed ∧ mergeHeaders (some "abc123") overrides = .ok merged ∧
    merged.values "ACCEPT" = [⟨"text/csv", false⟩, ⟨"text/plain", false⟩] ∧
    merged.values "Authorization" = [⟨"Basic x", false⟩] ∧
    mergeHeaders (some "bad\ntoken") overrides = .error (.invalidHeader "authorization") := by
  have built : Headers.ofPairs
      [("Accept", "text/csv"), ("aCCept", "text/plain"), ("AUTHORIZATION", "Basic x")] =
      .ok [("accept", [⟨"text/csv", false⟩, ⟨"text/plain", false⟩]),
        ("authorization", [⟨"Basic x", false⟩])] := by rfl
  have wellFormed := Headers.wellFormed_ofPairs built
  obtain ⟨merged, ok, merges⟩ := (mergeHeaders_outcome (some "abc123") wellFormed).2 (by decide)
  exact ⟨_, merged, built, wellFormed, ok, merges.overridden "ACCEPT" (by decide),
    merges.overridden "Authorization" (by decide),
    ((mergeHeaders_outcome (some "bad\ntoken") wellFormed).1 _).2 ⟨rfl, _, rfl, rfl⟩⟩

end HeatFeed
