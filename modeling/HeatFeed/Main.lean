import HeatFeed.DevServer
import HeatFeed.Watch

/-!
# Programs

The two programs behind one command: `watch`, which is also run without an argument, and `serve`.
Settings come from the environment. There is no network below this command, so every host is out of
reach, and a run ends after its first round.
-/

namespace HeatFeed

/-- The settings that the programs know. -/
def settingNames : List String :=
  ["BACKEND_URL", "REFRESH_INTERVAL_MS", "API_TOKEN", "PORT", "SNAPSHOT_INTERVAL_MS"]

/-- What a program shows, and its exit code. -/
structure Transcript where
  lines : List String
  code : UInt32

/-- What a program shows if it cannot start. -/
def Transcript.failed (message : String) : Transcript := ⟨["Error: " ++ message], 1⟩

/-- A run of the watcher. -/
def watchTranscript (lookup : Config.Lookup) : Transcript :=
  match Config.ofLookup lookup with
  | .error e => .failed e.message
  | .ok config =>
    let transport := Http.Link.down.transport ⟨.ok, []⟩
    ⟨(Watch.run config transport).shown.map Event.fullLine, 0⟩

/-- A run of the development server. -/
def serveTranscript (lookup : Config.Lookup) : Transcript :=
  match DevServer.Settings.ofLookup lookup with
  | .error e => .failed e.message
  | .ok settings =>
    let address := "http://127.0.0.1:" ++ toString settings.port
    ⟨(DevServer.report settings address).map Event.fullLine, 0⟩

/-- The program that the arguments name. -/
def transcript (args : List String) (lookup : Config.Lookup) : Transcript :=
  if args = ["serve"] then serveTranscript lookup else watchTranscript lookup

/-- The values of the settings in the environment. -/
def environment : IO (List (String × String)) := do
  let found ← settingNames.mapM fun name => do
    return (← IO.getEnv name).map fun value => (name, value)
  return found.filterMap id

end HeatFeed

/-- Runs the program that the arguments name. -/
def main (args : List String) : IO UInt32 := do
  let settings ← HeatFeed.environment
  let t := HeatFeed.transcript args fun name => settings.lookup name
  for line in t.lines do
    IO.eprintln line
  return t.code
