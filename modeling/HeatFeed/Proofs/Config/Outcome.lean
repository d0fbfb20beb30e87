import HeatFeed.Proofs.Config
import HeatFeed.Proofs.Text.Digits

/-!
# What becomes of a lookup

Three settings count and no others. A lookup without an address is refused for it, whatever else is
wrong with it. One with an address is refused iff its interval is set and does not spell a positive
number of 64 bits, and then the trimmed text of the interval is reported. All others are accepted.
-/

namespace HeatFeed.Config

open Text

/-- The name of the setting with the interval. -/
def refreshName : String := "REFRESH_INTERVAL_MS"

/-- The name of the setting with the token. -/
def tokenName : String := "API_TOKEN"

/-- A setting that is absent or has only blanks. -/
def Unset (lookup : Lookup) (name : String) : Prop :=
  ∀ text, lookup name = some text → ∀ c ∈ text.toList, isBlank c = true

/-- A setting that is not blank, and its text without the blanks around it. -/
def Given (lookup : Lookup) (name value : String) : Prop :=
  ∃ text, lookup name = some text ∧ Trimmed text value ∧ value ≠ ""

/-- The text of a positive number of milliseconds that fits into 64 bits. -/
structure IsInterval (value : String) (ms : Nat) : Prop where
  spelt : Digits.Spells value.toList ms
  positive : 1 ≤ ms
  fits : ms < 2 ^ 64

theorem setting_eq_some {lookup : Lookup} {name value : String} :
    setting lookup name = some value ↔ Given lookup name value := setting_eq_some_iff

theorem setting_eq_none {lookup : Lookup} {name : String} :
    setting lookup name = none ↔ Unset lookup name := by
  cases found : lookup name with
  | none =>
    refine iff_of_true (by rw [setting, found]; rfl) fun text given => ?_
    exact absurd (found.symm.trans given) (Option.some_ne_none text).symm
  | some text =>
    rw [setting_eq_none_iff found]
    constructor
    · intro blank other given
      obtain rfl := Option.some.inj (found.symm.trans given)
      exact blank
    · exact fun unset => unset text found

/-- A setting is given as soon as it is not unset. -/
theorem not_unset_iff {lookup : Lookup} {name : String} :
    ¬Unset lookup name ↔ ∃ value, Given lookup name value := by
  rw [← setting_eq_none, ← ne_eq, Option.ne_none_iff_exists']
  simp only [setting_eq_some]

/-- A setting is read as some value, or as none. -/
theorem setting_eq_iff {lookup : Lookup} {name : String} {token : Option String} :
    setting lookup name = token ↔ Unset lookup name ∧ token = none ∨
      ∃ value, Given lookup name value ∧ token = some value := by
  cases token with
  | none => simp [setting_eq_none]
  | some value => simp [setting_eq_some]

/-! ### The interval -/

section

variable {lookup : Lookup} {value : String}

theorem readRefresh_of_unset (h : Unset lookup refreshName) :
    readRefresh lookup = .ok defaultRefresh := by
  rw [readRefresh, show "REFRESH_INTERVAL_MS" = refreshName from rfl, setting_eq_none.2 h]

theorem readRefresh_of_interval {ms : Nat} (h : Given lookup refreshName value)
    (interval : IsInterval value ms) : readRefresh lookup = .ok ⟨ms⟩ := by
  obtain ⟨spelt, positive, fits⟩ := interval
  have parsed : Digits.parse Digits.bound64 value.toList = .ok ms :=
    (Digits.parse_eq_ok_iff (by decide)).2 ⟨spelt, fits⟩
  obtain ⟨n, rfl⟩ := Nat.exists_eq_add_of_le' positive
  rw [readRefresh, show "REFRESH_INTERVAL_MS" = refreshName from rfl, setting_eq_some.2 h]
  simp only [parsed]

theorem readRefresh_of_not_interval (h : Given lookup refreshName value)
    (other : ∀ ms, ¬IsInterval value ms) :
    readRefresh lookup = .error (.invalid refreshName value) := by
  rw [readRefresh, show "REFRESH_INTERVAL_MS" = refreshName from rfl, setting_eq_some.2 h]
  cases parsed : Digits.parse Digits.bound64 value.toList with
  | error e => simp only [parsed]
  | ok ms =>
    obtain ⟨spelt, fits⟩ := (Digits.parse_eq_ok_iff (by decide)).1 parsed
    cases ms with
    | zero => simp only [parsed]
    | succ n => exact absurd ⟨spelt, Nat.le_add_left 1 n, fits⟩ (other (n + 1))

/-- An interval is unset, or it is given, and then it is a good one or not. -/
theorem interval_cases (lookup : Lookup) :
    Unset lookup refreshName ∨
    (∃ value ms, Given lookup refreshName value ∧ IsInterval value ms) ∨
    ∃ value, Given lookup refreshName value ∧ ∀ ms, ¬IsInterval value ms := by
  by_cases unset : Unset lookup refreshName
  · exact .inl unset
  · obtain ⟨value, given⟩ := not_unset_iff.1 unset
    by_cases interval : ∃ ms, IsInterval value ms
    · obtain ⟨ms, interval⟩ := interval
      exact .inr (.inl ⟨value, ms, given, interval⟩)
    · exact .inr (.inr ⟨value, given, not_exists.1 interval⟩)

theorem readRefresh_eq_ok_iff {d : Duration} : readRefresh lookup = .ok d ↔
    Unset lookup refreshName ∧ d = defaultRefresh ∨
      ∃ value, Given lookup refreshName value ∧ IsInterval value d.milliseconds := by
  constructor
  · intro ok
    rcases interval_cases lookup with unset | ⟨value, ms, given, interval⟩ | ⟨value, given, other⟩
    · rw [readRefresh_of_unset unset] at ok
      exact .inl ⟨unset, (Except.ok.inj ok).symm⟩
    · rw [readRefresh_of_interval given interval] at ok
      cases ok
      exact .inr ⟨value, given, interval⟩
    · rw [readRefresh_of_not_interval given other] at ok
      cases ok
  · rintro (⟨unset, rfl⟩ | ⟨value, given, interval⟩)
    · exact readRefresh_of_unset unset
    · exact readRefresh_of_interval given interval

theorem readRefresh_eq_error_iff {e : ConfigError} : readRefresh lookup = .error e ↔
    ∃ value, e = .invalid refreshName value ∧ Given lookup refreshName value ∧
      ∀ ms, ¬IsInterval value ms := by
  constructor
  · intro failed
    rcases interval_cases lookup with unset | ⟨value, ms, given, interval⟩ | ⟨value, given, other⟩
    · rw [readRefresh_of_unset unset] at failed
      cases failed
    · rw [readRefresh_of_interval given interval] at failed
      cases failed
    · rw [readRefresh_of_not_interval given other] at failed
      cases failed
      exact ⟨value, rfl, given, other⟩
  · rintro ⟨value, rfl, given, other⟩
    exact readRefresh_of_not_interval given other

theorem exists_readRefresh_iff : (∃ d, readRefresh lookup = .ok d) ↔
    ∀ value, Given lookup refreshName value → ∃ ms, IsInterval value ms := by
  constructor
  · rintro ⟨d, ok⟩ value given
    by_contra other
    have failed := readRefresh_eq_error_iff.2 ⟨value, rfl, given, not_exists.1 other⟩
    rw [ok] at failed
    cases failed
  · intro good
    cases refresh : readRefresh lookup with
    | ok d => exact ⟨d, rfl⟩
    | error e =>
      obtain ⟨value, -, given, other⟩ := readRefresh_eq_error_iff.1 refresh
      obtain ⟨ms, interval⟩ := good value given
      exact absurd interval (other ms)

end

/-! ### The whole lookup -/

theorem readBackendUrl_eq_error_iff {lookup : Lookup} {e : ConfigError} :
    readBackendUrl lookup = .error e ↔ e = .missing addressName ∧ Unset lookup addressName := by
  rw [← setting_eq_none, readBackendUrl, show "BACKEND_URL" = addressName from rfl]
  cases setting lookup addressName with
  | none => simp [eq_comm]
  | some address => simp

theorem exists_readBackendUrl_iff {lookup : Lookup} :
    (∃ url, readBackendUrl lookup = .ok url) ↔ ¬Unset lookup addressName := by
  rw [← setting_eq_none, readBackendUrl, show "BACKEND_URL" = addressName from rfl]
  cases setting lookup addressName with
  | none => simp
  | some address => simp

/-- A fault of the interval counts only if there is an address. -/
theorem ofLookup_eq_error_iff {lookup : Lookup} {e : ConfigError} :
    ofLookup lookup = .error e ↔ readBackendUrl lookup = .error e ∨
      ¬Unset lookup addressName ∧ readRefresh lookup = .error e := by
  rw [ofLookup, bind_eq_error, ← exists_readBackendUrl_iff]
  refine or_congr_right ?_
  constructor
  · rintro ⟨url, address, rest⟩
    rcases bind_eq_error.1 rest with refresh | ⟨period, -, done⟩
    · exact ⟨⟨url, address⟩, refresh⟩
    · cases done
  · rintro ⟨⟨url, address⟩, refresh⟩
    exact ⟨url, address, bind_eq_error.2 (.inl refresh)⟩

theorem exists_ofLookup_iff {lookup : Lookup} : (∃ cfg, ofLookup lookup = .ok cfg) ↔
    ¬Unset lookup addressName ∧ ∃ d, readRefresh lookup = .ok d := by
  rw [← exists_readBackendUrl_iff]
  constructor
  · rintro ⟨cfg, ok⟩
    obtain ⟨address, refresh, -⟩ := ofLookup_eq_ok_iff.1 ok
    exact ⟨⟨_, address⟩, _, refresh⟩
  · rintro ⟨⟨url, address⟩, d, refresh⟩
    exact ⟨⟨url, d, _⟩, ofLookup_eq_ok_iff.2 ⟨address, refresh, rfl⟩⟩

/-- The settings that count. -/
def names : List String := [addressName, refreshName, tokenName]

theorem ofLookup_congr {lookup again : Lookup} (h : ∀ name ∈ names, again name = lookup name) :
    ofLookup again = ofLookup lookup := by
  have same : ∀ name ∈ names, setting again name = setting lookup name := fun name mem => by
    rw [setting, setting, h name mem]
  have address := same addressName (by decide)
  have refresh := same refreshName (by decide)
  have token := same tokenName (by decide)
  rw [ofLookup, ofLookup, readBackendUrl, readBackendUrl, readRefresh, readRefresh]
  simp only [addressName, refreshName, tokenName] at address refresh token
  rw [address, refresh, token]

theorem isBlank_of_isDigit {c : Char} (h : c.isDigit = true) : isBlank c = false := by
  have range : 48 ≤ c.toNat ∧ c.toNat ≤ 57 := Char.isDigit_iff_toNat.1 h
  simp only [isBlank, Bool.or_eq_false_iff, Bool.and_eq_false_iff, decide_eq_false_iff_not,
    beq_eq_false_iff_ne]
  omega

/-- The decimal form of an interval is read as it. -/
theorem given_toString {lookup : Lookup} {name : String} {n : Nat}
    (h : lookup name = some (toString n)) : Given lookup name (toString n) := by
  rw [Nat.toString_eq_repr] at h ⊢
  have filled : n.repr ≠ "" := by
    rw [← String.toList_inj.ne, Nat.toList_repr]
    exact Nat.toDigits_ne_nil
  refine ⟨n.repr, h, trimmed_self fun c mem => ?_, filled⟩
  rw [Nat.toList_repr] at mem
  exact isBlank_of_isDigit (Nat.isDigit_of_mem_toDigits (by decide) (by decide) mem)

/-- Only the address, the interval and the token count. An address that is absent or blank is
reported as missing, whatever the others are. If there is one, an interval is reported as invalid,
with its trimmed text, iff it is given and does not spell a number from 1 to `2 ^ 64 - 1`. In all
other cases there is a configuration: its address is the trimmed one without the slashes at its end,
its interval is the number that is spelt, or ten seconds if none is given, and its token is the
trimmed one, or none. So the interval is never zero, and each one is read back from its decimal
form. -/
theorem ofLookup_outcome (lookup : Lookup) :
    (∀ again, (∀ name ∈ names, again name = lookup name) → ofLookup again = ofLookup lookup) ∧
    (∀ name, ofLookup lookup = .error (.missing name) ↔
      name = addressName ∧ Unset lookup addressName) ∧
    (∀ name value, ofLookup lookup = .error (.invalid name value) ↔
      name = refreshName ∧ ¬Unset lookup addressName ∧ Given lookup refreshName value ∧
        ∀ ms, ¬IsInterval value ms) ∧
    ((∃ cfg, ofLookup lookup = .ok cfg) ↔
      ¬Unset lookup addressName ∧
        ∀ value, Given lookup refreshName value → ∃ ms, IsInterval value ms) ∧
    (∀ cfg, ofLookup lookup = .ok cfg →
      (∃ address, Given lookup addressName address ∧ EndStripped address cfg.backendUrl) ∧
      (Unset lookup refreshName ∧ cfg.refresh = ⟨10000⟩ ∨
        ∃ value, Given lookup refreshName value ∧ IsInterval value cfg.refresh.milliseconds) ∧
      (Unset lookup tokenName ∧ cfg.token = none ∨
        ∃ token, Given lookup tokenName token ∧ cfg.token = some token) ∧
      cfg.refresh.milliseconds ≠ 0) ∧
    ∀ ms, 1 ≤ ms → ms < 2 ^ 64 → ¬Unset lookup addressName →
      lookup refreshName = some (toString ms) →
      ∃ cfg, ofLookup lookup = .ok cfg ∧ cfg.refresh = ⟨ms⟩ := by
  refine ⟨fun again same => ofLookup_congr same, fun name => ?_, fun name value => ?_, ?_,
    fun cfg ok => ?_, fun ms positive fits address decimal => ?_⟩
  · simp [ofLookup_eq_error_iff, readBackendUrl_eq_error_iff, readRefresh_eq_error_iff]
  · rw [ofLookup_eq_error_iff, readBackendUrl_eq_error_iff, readRefresh_eq_error_iff]
    constructor
    · rintro (⟨⟨⟩, -⟩ | ⟨address, _, ⟨⟩, given, other⟩)
      exact ⟨rfl, address, given, other⟩
    · rintro ⟨rfl, address, given, other⟩
      exact .inr ⟨address, value, rfl, given, other⟩
  · rw [exists_ofLookup_iff, exists_readRefresh_iff]
  · obtain ⟨address, refresh, token⟩ := ofLookup_eq_ok_iff.1 ok
    obtain ⟨text, found, stripped⟩ := readBackendUrl_eq_ok_iff.1 address
    have period := readRefresh_eq_ok_iff.1 refresh
    refine ⟨⟨text, setting_eq_some.1 found, stripped⟩, period, setting_eq_iff.1 token, ?_⟩
    rcases period with ⟨-, ten⟩ | ⟨value, -, interval⟩
    · rw [ten]
      decide
    · exact Nat.one_le_iff_ne_zero.1 interval.positive
  · obtain ⟨url, found⟩ := exists_readBackendUrl_iff.2 address
    have refresh := readRefresh_of_interval (given_toString decimal)
      ⟨Digits.spells_toString ms, positive, fits⟩
    exact ⟨⟨url, ⟨ms⟩, _⟩, ofLookup_eq_ok_iff.2 ⟨found, refresh, rfl⟩, rfl⟩

/-- A lookup with three settings. -/
def settings (address refresh token : String) : Lookup := fun name =>
  if name = addressName then some address
  else if name = refreshName then some refresh
  else if name = tokenName then some token
  else none

/-- The longest interval is read back, one more is refused, and a blank address is missed first. A
plus sign, zeros and blanks around an interval change nothing, nor does a setting of another name. -/
theorem ofLookup_outcome_intervals :
    let padded := settings " http://h " "\t+00250\n" "\u2003abc"
    let cfg : Config := ⟨"http://h", ⟨250⟩, some "abc"⟩
    let longest := settings "http://h" (toString 18446744073709551615) ""
    ofLookup padded = .ok cfg ∧ cfg.refresh.milliseconds ≠ 0 ∧
    ofLookup (fun name => if name = "PORT" then some "1" else padded name) = .ok cfg ∧
    (∃ last, ofLookup longest = .ok last ∧ last.refresh = ⟨18446744073709551615⟩) ∧
    ofLookup (settings "http://h" "18446744073709551616" "") =
      .error (.invalid refreshName "18446744073709551616") ∧
    ofLookup (settings "\u00a0" "x" "") = .error (.missing addressName) := by
  intro padded cfg longest
  have ok : ofLookup padded = .ok cfg := by decide +kernel
  obtain ⟨congr, -, -, -, parts, -⟩ := ofLookup_outcome padded
  obtain ⟨-, -, -, -, -, decimal⟩ := ofLookup_outcome longest
  have address : ¬Unset longest addressName := fun unset =>
    absurd (unset "http://h" rfl 'h' (by decide)) (by decide)
  have given : longest refreshName = some (toString 18446744073709551615) := by
    simp [longest, settings, refreshName, addressName]
  refine ⟨ok, (parts cfg ok).2.2.2, ?_, decimal _ (by decide) (by decide) address given,
    by decide +kernel, ?_⟩
  · rw [congr _ ?_, ok]
    simp [names, addressName, refreshName, tokenName]
  · obtain ⟨-, missing, -⟩ := ofLookup_outcome (settings "\u00a0" "x" "")
    refine (missing addressName).2 ⟨rfl, ?_⟩
    rintro _ ⟨⟩
    exact List.forall_mem_singleton.2 (by decide)

end HeatFeed.Config
