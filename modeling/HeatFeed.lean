import HeatFeed.Main
import HeatFeed.Backend.Service
import HeatFeed.Json.Skip
import HeatFeed.Poller.Clock
import HeatFeed.Session
import HeatFeed.View.Page
import HeatFeed.View.Refetch
import HeatFeed.View.Route
import HeatFeed.Proofs.Poller.History
import HeatFeed.Proofs.Poller.Passage
import HeatFeed.Proofs.Poller.Schedule
import HeatFeed.Proofs.Poller.Shutdown
import HeatFeed.Proofs.Json.Integer
import HeatFeed.Proofs.Json.Literal
import HeatFeed.Proofs.Json.Rows
import HeatFeed.Proofs.Json.Values
import HeatFeed.Proofs.Json.RoundTrip
import HeatFeed.Proofs.Snapshot.Body
import HeatFeed.Proofs.Snapshot.RoundTrip
import HeatFeed.Proofs.Snapshot.Reencoding
import HeatFeed.Proofs.Json.Outline
import HeatFeed.Proofs.ErrorDetail
import HeatFeed.Proofs.Http.Header
import HeatFeed.Proofs.Client.Headers
import HeatFeed.Proofs.Client.Call
import HeatFeed.Proofs.Client.Secrecy
import HeatFeed.Proofs.Client.Answer
import HeatFeed.Proofs.Poller.OneByOne
import HeatFeed.Proofs.Text.Trim
import HeatFeed.Proofs.Session
import HeatFeed.Proofs.View.Feed
import HeatFeed.Proofs.Watch
import HeatFeed.Proofs.Snapshot.Acceptance
import HeatFeed.Proofs.Timeframe
import HeatFeed.Proofs.Text.Slashes
import HeatFeed.Proofs.Text.Digits
import HeatFeed.Proofs.Config
import HeatFeed.Proofs.Config.Outcome
import HeatFeed.Proofs.Http.Url
import HeatFeed.Proofs.Client.Address
import HeatFeed.Proofs.View.Score
import HeatFeed.Proofs.View.Markup
import HeatFeed.Proofs.View.Grid
import HeatFeed.Proofs.Backend.Requests
import HeatFeed.Proofs.Backend.Service
import HeatFeed.Proofs.Backend.Recorded
import HeatFeed.Proofs.Backend.Echo
import HeatFeed.Proofs.Timestamp.Spelling
import HeatFeed.Proofs.Timestamp.Amounts
import HeatFeed.Proofs.Timestamp.Notes
import HeatFeed.Proofs.Timestamp.Reading
import HeatFeed.Proofs.Poller.Waiter
import HeatFeed.Proofs.Poller.Waiting
import HeatFeed.Proofs.Sample.Score
import HeatFeed.Proofs.Sample.Snapshot
import HeatFeed.Proofs.Sample.Overflow
