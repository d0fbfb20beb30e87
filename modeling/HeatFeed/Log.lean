import HeatFeed.Client.Error
import HeatFeed.Duration

/-!
# Log

What the parts of the program report, as causes. A line shows the level of the event, the part that
reports it, and a message.
-/

namespace HeatFeed

/-- How serious an event is. -/
inductive Level where
  | error
  | warn
  | info
  | debug
  deriving DecidableEq

/-- The text of a level. -/
def Level.text : Level → String
  | .error => "ERROR"
  | .warn => "WARN"
  | .info => "INFO"
  | .debug => "DEBUG"

/-- Events that are reported. -/
inductive Event where
  | requestFailed (url : String) (failure : Http.Failure)
  | unauthorized (url : String)
  | discarded (seq applied : Nat)
  | pollingEvery (period : Duration)
  | fetchFailed (error : ClientError)
  | failed (messages : List String)
  | sessionChecked (status : Http.Status)
  | watching (url : String) (period : Duration)
  | unavailable (message : String)
  | updated (timestamp : String) (symbols : Nat) (timeframes : List String) (cells : Nat)
  | watchStopped
  | dataset (line : String)
  | server (line : String)
  deriving DecidableEq

namespace Event

/-- How serious the event is. -/
def level : Event → Level
  | .requestFailed .. | .fetchFailed _ | .failed _ => .error
  | .unauthorized _ | .unavailable _ => .warn
  | .discarded .. | .pollingEvery _ => .debug
  | _ => .info

/-- The part of the program that reports the event. -/
def target : Event → String
  | .requestFailed .. | .unauthorized _ => "payloads::api_client"
  | .discarded .. => "payloads::fetch_state"
  | .pollingEvery _ | .fetchFailed _ => "poller::poller"
  | .failed _ => "poller::telemetry"
  | .dataset _ => "test_helpers::mock"
  | .server _ => "dev_server"
  | _ => "heatmap_watch"

/-- The message without the cause of a failed request. -/
def summary : Event → String
  | .requestFailed url _ => "Request to " ++ url ++ " failed"
  | .unauthorized url => "Unauthorized response from " ++ url
  | .discarded seq applied =>
    "Discarding heatmap result " ++ toString seq ++ " (already applied " ++ toString applied ++ ")"
  | .pollingEvery period => "Heatmap polling every " ++ period.text
  | .fetchFailed error => "Heatmap fetch failed: " ++ error.message
  | .failed messages => ": ".intercalate messages
  | .sessionChecked status => "Session check returned " ++ status.text
  | .watching url period => "Watching " ++ url ++ " every " ++ period.text
  | .unavailable message => "Heatmap unavailable: " ++ message
  | .updated timestamp symbols timeframes cells =>
    "Heatmap at " ++ timestamp ++ ": " ++ toString symbols ++ " symbols, timeframes " ++
      Text.quoteList timeframes ++ ", " ++ toString cells ++ " cells"
  | .watchStopped => "🛑 Stopping heatmap watcher"
  | .dataset line | .server line => line

/-- The message. -/
def message : Event → String
  | .requestFailed url failure => (requestFailed url failure).summary ++ ": " ++ failure.message
  | e => e.summary

/-- A line with level and message. -/
def line (e : Event) : String := e.level.text ++ " " ++ e.summary

/-! ### Lines for a terminal -/

/-- How a character is shown on a terminal: those to which it would react are spelled out. -/
def shownChar (c : Char) : List Char :=
  let n := c.toNat
  if n = 0x07 ∨ n = 0x08 ∨ n = 0x0C ∨ n = 0x1B ∨ n = 0x7F then
    ['\\', 'x', Nat.digitChar (n / 16), Nat.digitChar (n % 16)]
  else if 0x80 ≤ n ∧ n < 0xA0 then ['\\', 'u', '\x7b'] ++ Nat.toDigits 16 n ++ ['\x7d']
  else [c]

/-- A text as it is shown on a terminal: its first line. -/
def shown (s : String) : String := String.ofList ((s.toList.takeWhile (· ≠ '\n')).flatMap shownChar)

/-- A line with level, origin and full message. -/
def fullLine (e : Event) : String := e.level.text ++ " " ++ e.target ++ ": " ++ shown e.message

/-- Events that are shown where only serious ones are wanted. -/
def isShown (e : Event) : Bool := e.level != .debug

end Event

end HeatFeed
