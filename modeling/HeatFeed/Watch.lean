import HeatFeed.Client
import HeatFeed.Config
import HeatFeed.Poller

/-!
# Watcher

A program that checks the session once, if there is a token, then polls the heatmap and reports
every change of its state in one line: a warning while the latest fetch has failed, a summary of the
snapshot otherwise.
-/

namespace HeatFeed.Watch

open Http

/-- What is reported of a snapshot. -/
def summary (s : Snapshot) : Event :=
  .updated s.timestamp s.symbols.length s.timeframeCodes s.cells.length

/-- What is reported of a state. -/
def report (s : FetchState) : Option Event :=
  match s.error, s.data with
  | some e, _ => some (.unavailable e)
  | none, some snapshot => some (summary snapshot)
  | none, none => none

/-- A poller under watch. -/
structure Watcher where
  poller : Poller
  /-- The version of the state at the last look. -/
  seen : Nat
  /-- What has been reported, by the poller and after looks. -/
  log : List Event

/-- What may happen: the timer starts a cycle, the request of a cycle is answered, or the watcher
looks at the state. -/
inductive Step where
  | tick
  | answer (seq : Nat) (transport : Transport)
  | look

namespace Watcher

/-- A watcher that has not looked yet. It takes the state before any change as seen. -/
def of (p : Poller) : Watcher := ⟨p, 0, p.log.toList⟩

/-- Goes on to the next poller, with what it has reported since. -/
def follow (w : Watcher) (p : Poller) : Watcher :=
  { w with poller := p, log := w.log ++ p.log.toList.drop w.poller.log.size }

/-- Looks at the state as it is now, and reports it if it has changed since the last look. Changes
between two looks are reported as one. -/
def look (w : Watcher) : Watcher :=
  if w.seen < w.poller.version then
    { w with seen := w.poller.version, log := w.log ++ (report w.poller.state).toList }
  else w

/-- The watcher after one step, where cycles fetch with the client. -/
def step (c : Client) (w : Watcher) : Step → Watcher
  | .tick => w.follow w.poller.start
  | .answer seq transport => w.follow (w.poller.complete seq (c.getHeatmap.through transport).result)
  | .look => w.look

/-- The watcher after some steps. -/
def run (c : Client) (w : Watcher) (steps : List Step) : Watcher := steps.foldl (step c) w

end Watcher

/-- What a run of the program reports, and the requests that arrived somewhere. -/
structure Run where
  events : List Event
  arrivals : List Arrival

/-- What the check of the session reports. -/
def sessionEvents (e : Exchange Response) : List Event :=
  e.log ++ [match e.result with
    | .ok response => .sessionChecked response.status
    | .error error => .failed error.messages]

/-- Checks the session, if there is a token. -/
def checkSession (config : Config) (transport : Transport) : Run :=
  match config.token with
  | none => ⟨[], []⟩
  | some token =>
    let call := Client.request ⟨config.backendUrl⟩ "/api/health_check" .get (some token)
    let e := call.through transport
    ⟨sessionEvents e, e.arrivals transport⟩

/-- The watcher that a configuration asks for, after some steps. -/
def watched (config : Config) (steps : List Step) : Watcher :=
  (Watcher.of (.spawn config.refresh)).run ⟨config.backendUrl⟩ steps

/-- What the program reports that is interrupted after some steps. -/
def program (config : Config) (transport : Transport) (steps : List Step) : List Event :=
  (checkSession config transport).events ++ [.watching config.backendUrl config.refresh] ++
    (watched config steps).log ++ [.watchStopped]

/-- The first fetch cycle, and a look at the state after it. -/
def firstCycle (transport : Transport) : List Step := [.tick, .answer 1 transport, .look]

/-- A run that is interrupted after the first change. -/
def run (config : Config) (transport : Transport) : Run where
  events := program config transport (firstCycle transport)
  arrivals := (checkSession config transport).arrivals ++
    ((Client.getHeatmap ⟨config.backendUrl⟩).through transport).arrivals transport

/-- The events of a run that are shown. -/
def Run.shown (r : Run) : List Event := r.events.filter Event.isShown

end HeatFeed.Watch
