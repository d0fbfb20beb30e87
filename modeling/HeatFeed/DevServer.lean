import HeatFeed.Backend
import HeatFeed.Config
import HeatFeed.Sample
import HeatFeed.Snapshot.Printer

/-!
# Development server

A program that serves sample data from a mock backend, with a new snapshot at every tick of a timer.
-/

namespace HeatFeed.DevServer

/-- The settings of the server. -/
structure Settings where
  port : Nat
  interval : Duration
  deriving DecidableEq

/-- A setting below a bound; blanks around it do not count. -/
def setting (lookup : Config.Lookup) (name : String) (bound default : Nat) :
    Except Digits.ParseError Nat :=
  match lookup name with
  | none => .ok default
  | some value => Digits.parse bound (Text.trim value).toList

/-- The settings; the port is looked at first. Snapshots change at most once per millisecond. -/
def Settings.ofLookup (lookup : Config.Lookup) : Except Digits.ParseError Settings := do
  let port ← setting lookup "PORT" Digits.bound16 0
  let interval ← setting lookup "SNAPSHOT_INTERVAL_MS" Digits.bound64 5000
  return ⟨port, ⟨max interval 1⟩⟩

/-- What a run reports, from its start to its interruption. -/
def report (settings : Settings) (address : String) : List Event := [
  .server "🚀 Starting heatmap development server",
  .server ("✅ Mock backend running on " ++ address)] ++
  Sample.Dataset.initial.report ++ [
  .server "🎯 Development server ready!",
  .server ("   UI:  cd ui && BACKEND_URL=" ++ address ++ " trunk serve"),
  .server ("   CLI: BACKEND_URL=" ++ address ++ " cargo run --bin heatmap-watch"),
  .server "👋 Press Ctrl+C to shutdown",
  .server ("⏱️ Snapshot task started - updating every " ++ settings.interval.text),
  .server "🛑 Shutting down development server"]

/-- The backend once the first snapshot is served. -/
def backend (timestamp : String) : Except Sample.Overflow Backend := do
  return .fresh ⟨200, (← Sample.Dataset.initial.next.current timestamp).text, 0⟩

/-- The snapshot that a client fetches from the server, if it reaches it. -/
def served (link : Http.Link) (address timestamp : String) : Option Snapshot :=
  match backend timestamp with
  | .error _ => none
  | .ok b => (Backend.Remote.call ⟨b, .utf8, link⟩ (Client.getHeatmap ⟨address⟩)).1.result.toOption

end HeatFeed.DevServer
