import HeatFeed.Config
import HeatFeed.Proofs.Except
import HeatFeed.Proofs.Text.Slashes

/-!
# The address of the backend

The address of a configuration is the trimmed text of its setting without the slashes at the end.
The setting counts as missing before these slashes are taken off, and nothing is trimmed after that.
So the address never ends with a slash and never starts with a blank, but it may be empty, and it may
end with a blank that stood before the slashes. It is in its last form, and would be read again as it
is, iff neither is the case.
-/

namespace HeatFeed.Config

open Text

/-- The name of the setting with the address. -/
def addressName : String := "BACKEND_URL"

/-- An address that is read as it is. -/
structure Settled (url : String) : Prop where
  ne_empty : url ≠ ""
  first : ∀ c ∈ url.toList.head?, isBlank c = false
  last : ∀ c ∈ url.toList.getLast?, isBlank c = false
  stripped : url.toList.getLast? ≠ some '/'

/-- Settings that are those of a lookup, with another address. -/
structure Readdresses (lookup : Lookup) (url : String) (again : Lookup) : Prop where
  address : again addressName = some url
  others : ∀ name, name ≠ addressName → again name = lookup name

/-! ### Settings -/

theorem setting_eq_some_iff {lookup : Lookup} {name value : String} :
    setting lookup name = some value ↔
      ∃ text, lookup name = some text ∧ Trimmed text value ∧ value ≠ "" := by
  rw [setting, Option.filter_eq_some_iff, Option.map_eq_some_iff]
  constructor
  · rintro ⟨⟨text, found, rfl⟩, filled⟩
    exact ⟨text, found, trimmed_trim text, by simpa using filled⟩
  · rintro ⟨text, found, trimmed, filled⟩
    exact ⟨⟨text, found, trimmed.eq_trim.symm⟩, by simpa using filled⟩

theorem setting_eq_none_iff {lookup : Lookup} {name text : String} (h : lookup name = some text) :
    setting lookup name = none ↔ ∀ c ∈ text.toList, isBlank c = true := by
  rw [← trim_eq_empty_iff, setting, h]
  by_cases blank : trim text = "" <;> simp [blank]

theorem readBackendUrl_eq_ok_iff {lookup : Lookup} {url : String} :
    readBackendUrl lookup = .ok url ↔
      ∃ address, setting lookup addressName = some address ∧ EndStripped address url := by
  rw [readBackendUrl, addressName]
  cases setting lookup "BACKEND_URL" with
  | none => simp
  | some address => simp [endStripped_iff, eq_comm]

theorem ofLookup_eq_ok_iff {lookup : Lookup} {cfg : Config} :
    ofLookup lookup = .ok cfg ↔ readBackendUrl lookup = .ok cfg.backendUrl ∧
      readRefresh lookup = .ok cfg.refresh ∧ setting lookup "API_TOKEN" = cfg.token := by
  rw [ofLookup, bind_eq_ok]
  constructor
  · rintro ⟨url, address, rest⟩
    obtain ⟨period, refresh, same⟩ := bind_eq_ok.1 rest
    cases same
    exact ⟨address, refresh, rfl⟩
  · rintro ⟨address, refresh, token⟩
    refine ⟨_, address, bind_eq_ok.2 ⟨_, refresh, ?_⟩⟩
    rw [token]
    rfl

theorem readRefresh_ne_missing {lookup : Lookup} {name : String} :
    readRefresh lookup ≠ .error (.missing name) := by
  rw [readRefresh]
  split
  · simp
  · split <;> simp

/-- Only the address can be missing, and it is iff nothing is left of its text. -/
theorem ofLookup_eq_missing_iff {lookup : Lookup} :
    ofLookup lookup = .error (.missing addressName) ↔ setting lookup addressName = none := by
  rw [ofLookup, readBackendUrl, addressName]
  cases setting lookup "BACKEND_URL" with
  | none => exact iff_of_true rfl rfl
  | some address =>
    refine iff_of_false (fun failed => ?_) nofun
    cases refresh : readRefresh lookup with
    | ok period =>
      rw [refresh] at failed
      cases failed
    | error e =>
      rw [refresh] at failed
      cases failed
      exact readRefresh_ne_missing refresh

/-! ### Addresses -/

theorem Readdresses.setting_eq {lookup again : Lookup} {url name : String}
    (h : Readdresses lookup url again) (other : name ≠ addressName) :
    setting again name = setting lookup name := by
  rw [setting, setting, h.others name other]

theorem Settled.trimmed {url : String} (h : Settled url) : Trimmed url url :=
  ⟨⟨[], [], nofun, nofun, by simp⟩, h.first, h.last⟩

/-- An address is read as it is iff it is in its last form. -/
theorem readBackendUrl_self_iff {lookup : Lookup} {url : String}
    (h : lookup addressName = some url) : readBackendUrl lookup = .ok url ↔ Settled url := by
  simp only [readBackendUrl_eq_ok_iff, setting_eq_some_iff, h, Option.some.injEq,
    exists_eq_left']
  constructor
  · rintro ⟨address, ⟨trimmed, filled⟩, stripped⟩
    obtain ⟨before, after, -, -, outer⟩ := trimmed.around
    obtain ⟨n, rfl⟩ := stripped.behind
    -- the address is part of the text, and the text of the address, so nothing was taken off
    have lengths := congrArg List.length outer
    simp only [String.toList_append, toList_slashes, List.length_append,
      List.length_replicate] at lengths
    obtain rfl : n = 0 := by omega
    rw [show url ++ slashes 0 = url from String.append_empty] at trimmed filled
    exact ⟨filled, trimmed.first, trimmed.last, stripped.last⟩
  · intro settled
    exact ⟨url, ⟨settled.trimmed, settled.ne_empty⟩, endStripped_self_iff.2 settled.stripped⟩

theorem ofLookup_again_iff {lookup again : Lookup} {cfg : Config} (h : ofLookup lookup = .ok cfg)
    (readdressed : Readdresses lookup cfg.backendUrl again) :
    ofLookup again = .ok cfg ↔ Settled cfg.backendUrl := by
  obtain ⟨-, refresh, token⟩ := ofLookup_eq_ok_iff.1 h
  have same : readRefresh again = readRefresh lookup := by
    rw [readRefresh, readRefresh, readdressed.setting_eq (by decide)]
  rw [ofLookup_eq_ok_iff, same, readdressed.setting_eq (by decide), refresh, token,
    readBackendUrl_self_iff readdressed.address]
  simp

/-- The address of a configuration does not end with a slash. -/
theorem last_backendUrl {lookup : Lookup} {cfg : Config} (h : ofLookup lookup = .ok cfg) :
    cfg.backendUrl.toList.getLast? ≠ some '/' := by
  obtain ⟨address, -, stripped⟩ := readBackendUrl_eq_ok_iff.1 (ofLookup_eq_ok_iff.1 h).1
  exact stripped.last

theorem first_of_endStripped {text address url : String} (h : Trimmed text address)
    (stripped : EndStripped address url) : ∀ c ∈ url.toList.head?, isBlank c = false := by
  obtain ⟨⟨n, rfl⟩, -⟩ := stripped
  intro c mem
  refine h.first c ?_
  rw [String.toList_append, List.head?_append, Option.mem_def.1 mem]
  rfl

/-- An address is in its last form iff no slashes were taken off or a character that is not blank
stood before them. -/
theorem settled_iff {text address url : String} {n : Nat} (h : Trimmed text address)
    (filled : address ≠ "") (split : address = url ++ slashes n)
    (bare : url.toList.getLast? ≠ some '/') :
    Settled url ↔ n = 0 ∨ ∃ c ∈ url.toList.getLast?, isBlank c = false := by
  have first := first_of_endStripped h ⟨⟨n, split⟩, bare⟩
  constructor
  · intro settled
    obtain ⟨c, last⟩ : ∃ c, url.toList.getLast? = some c := by
      rw [← Option.isSome_iff_exists, List.getLast?_isSome]
      exact mt String.toList_eq_nil_iff.1 settled.ne_empty
    exact .inr ⟨c, last, settled.last c last⟩
  · rintro (rfl | ⟨c, last, notBlank⟩)
    · rw [show url ++ slashes 0 = url from String.append_empty] at split
      subst split
      exact ⟨filled, h.first, h.last, bare⟩
    · refine ⟨?_, first, fun d mem => ?_, bare⟩
      · rintro rfl
        cases last
      · cases last.symm.trans mem
        exact notBlank

/-- The address of a configuration is the trimmed text of its setting, which is not empty, without
the slashes at its end. It does not end with a slash and does not start with a blank. It is in its
last form iff there were no such slashes or a character that is not blank stood before them, and a
lookup with this address in the place of the text gives the configuration again iff that is so. A
text of blanks and slashes only counts as missing iff there is no slash in it. -/
theorem ofLookup_address (lookup : Lookup) :
    (∀ cfg, ofLookup lookup = .ok cfg → ∃ text address n,
      lookup addressName = some text ∧ Trimmed text address ∧ address ≠ "" ∧
      address = cfg.backendUrl ++ slashes n ∧ cfg.backendUrl.toList.getLast? ≠ some '/' ∧
      (∀ c ∈ cfg.backendUrl.toList.head?, isBlank c = false) ∧
      (Settled cfg.backendUrl ↔ n = 0 ∨ ∃ c ∈ cfg.backendUrl.toList.getLast?, isBlank c = false) ∧
      ∀ again, Readdresses lookup cfg.backendUrl again →
        (ofLookup again = .ok cfg ↔ Settled cfg.backendUrl)) ∧
    ∀ text, lookup addressName = some text → (∀ c ∈ text.toList, isBlank c = true ∨ c = '/') →
      (ofLookup lookup = .error (.missing addressName) ↔ '/' ∉ text.toList) := by
  constructor
  · intro cfg ok
    obtain ⟨address, found, stripped⟩ := readBackendUrl_eq_ok_iff.1 (ofLookup_eq_ok_iff.1 ok).1
    obtain ⟨text, given, trimmed, filled⟩ := setting_eq_some_iff.1 found
    obtain ⟨n, split⟩ := stripped.behind
    exact ⟨text, address, n, given, trimmed, filled, split, stripped.last,
      first_of_endStripped trimmed stripped, settled_iff trimmed filled split stripped.last,
      fun again readdressed => ofLookup_again_iff ok readdressed⟩
  · intro text given blankOrSlash
    rw [ofLookup_eq_missing_iff, setting_eq_none_iff given]
    constructor
    · intro blank slash
      exact absurd (blank '/' slash) (by decide)
    · intro noSlash c mem
      exact (blankOrSlash c mem).resolve_right fun same => noSlash (same ▸ mem)

/-- A lookup in which the address alone is set. -/
def addressed (url : String) : Lookup := fun name => if name = addressName then some url else none

/-- Blanks and then slashes are taken off, and the address that is left is read as it is. -/
theorem ofLookup_address_slashes :
    let cfg : Config := ⟨"http://h", defaultRefresh, none⟩
    ofLookup (addressed " http://h// ") = .ok cfg ∧ ofLookup (addressed "http://h") = .ok cfg ∧
      Settled "http://h" := by
  intro cfg
  have first : ofLookup (addressed " http://h// ") = .ok cfg := by cbv
  have again : ofLookup (addressed "http://h") = .ok cfg := by cbv
  obtain ⟨-, -, -, -, -, -, -, -, -, -, settled⟩ := (ofLookup_address _).1 cfg first
  have readdressed : Readdresses (addressed " http://h// ") "http://h" (addressed "http://h") :=
    ⟨rfl, fun name other => by rw [addressed, addressed, if_neg other, if_neg other]⟩
  exact ⟨first, again, (settled _ readdressed).1 again⟩

/-- A slash alone is an empty address and not a missing one, and a blank before the slashes at the
end stays at the end of the address, until that is read again. -/
theorem address_not_settled :
    ofLookup (addressed "/") = .ok ⟨"", defaultRefresh, none⟩ ∧ ¬Settled "" ∧
    ofLookup (addressed "") = .error (.missing addressName) ∧
    ofLookup (addressed "http://h /") = .ok ⟨"http://h ", defaultRefresh, none⟩ ∧
    ¬Settled "http://h " ∧
    ofLookup (addressed "http://h ") = .ok ⟨"http://h", defaultRefresh, none⟩ := by
  refine ⟨by cbv, fun settled => settled.ne_empty rfl, by cbv, by cbv, fun settled => ?_, by cbv⟩
  exact absurd (settled.last ' ' rfl) (by decide)

end HeatFeed.Config
