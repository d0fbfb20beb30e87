import HeatFeed.Duration
import HeatFeed.Text.Blank
import HeatFeed.Text.Digits

/-!
# Configuration

The settings of the watcher, from named texts such as environment variables. Values are trimmed,
and a blank value counts as not set.
-/

namespace HeatFeed

/-- Why there is no configuration. -/
inductive ConfigError where
  | missing (name : String)
  | invalid (name value : String)
  deriving DecidableEq

/-- The text of the error. -/
def ConfigError.message : ConfigError → String
  | .missing name => "Missing required environment variable " ++ name
  | .invalid name value => "Invalid value for " ++ name ++ ": " ++ value

/-- The settings of the watcher. -/
structure Config where
  backendUrl : String
  refresh : Duration
  token : Option String
  deriving DecidableEq

namespace Config

/-- The time between two fetch cycles, unless it is set. -/
def defaultRefresh : Duration := ⟨10000⟩

/-- Names with their texts. -/
abbrev Lookup := String → Option String

/-- A value without the blanks at its ends, if anything is left. -/
def setting (lookup : Lookup) (name : String) : Option String :=
  ((lookup name).map Text.trim).filter (· ≠ "")

/-- The address of the backend, without slashes at its end. -/
def readBackendUrl (lookup : Lookup) : Except ConfigError String :=
  match setting lookup "BACKEND_URL" with
  | none => .error (.missing "BACKEND_URL")
  | some url => .ok (Text.trimEndSlashes url)

/-- The time between two fetch cycles: a positive number of milliseconds. -/
def readRefresh (lookup : Lookup) : Except ConfigError Duration :=
  match setting lookup "REFRESH_INTERVAL_MS" with
  | none => .ok defaultRefresh
  | some value =>
    match Digits.parse Digits.bound64 value.toList with
    | .ok (ms + 1) => .ok ⟨ms + 1⟩
    | _ => .error (.invalid "REFRESH_INTERVAL_MS" value)

/-- The settings; the address is looked at first. -/
def ofLookup (lookup : Lookup) : Except ConfigError Config := do
  return {
    backendUrl := ← readBackendUrl lookup
    refresh := ← readRefresh lookup
    token := setting lookup "API_TOKEN" }

end Config

end HeatFeed
