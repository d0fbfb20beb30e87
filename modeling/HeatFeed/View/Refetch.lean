import HeatFeed.Client
import HeatFeed.View.Feed

/-!
# Refetching

The feed of a page that is refetched by hand. Each refetch is numbered, and its result is applied
like that of any fetch cycle, in the order in which results come in. Views share the state by
reference, and are drawn again when they are given another reference. A response may be held back
under a name and let go later.
-/

namespace HeatFeed.View

open Http

/-- A state that views share. Each state that is made gets a mark of its own, so two references are
to the same one iff their marks are equal. -/
structure Shared where
  mark : Nat
  state : FetchState

namespace Shared

/-- Nothing is known. -/
def initial : Shared := ⟨0, .initial⟩

/-- What views share once the result of cycle `seq` has come in: the next state under a mark of its
own, or the very same one if the result is not applied. -/
def dispatch (s : Shared) (seq : Nat) (result : Except String Snapshot) : Shared :=
  if s.state.accepts seq then ⟨s.mark + 1, s.state.resolve seq result⟩ else s

end Shared

/-- A response that is held back: its name, the number of its cycle, and what it will bring. -/
structure Held where
  name : String
  seq : Nat
  result : Except ClientError Snapshot

/-- A feed that is refetched by hand. -/
structure Refetcher where
  shared : Shared
  sequence : RequestSequence
  held : List Held

namespace Refetcher

/-- Nothing has been fetched. -/
def initial : Refetcher := ⟨.initial, .initial, []⟩

/-- What is known of the heatmap. -/
def state (f : Refetcher) : FetchState := f.shared.state

/-- The feed once a result has come in, and what is reported. -/
def settle (f : Refetcher) (seq : Nat) (result : Except ClientError Snapshot) :
    Refetcher × List Event :=
  let (shown, events) : Except String Snapshot × List Event := match result with
    | .ok s => (.ok s, [])
    | .error e => (.error e.message, [.fetchFailed e])
  ({ f with shared := f.shared.dispatch seq shown }, events ++ f.state.report seq)

/-- Fetches once. A response with a name is held back. -/
def refetch (f : Refetcher) (c : Client) (transport : Transport) (hold : Option String) :
    Refetcher × List Event :=
  let (seq, sequence) := f.sequence.issue
  let result := (c.getHeatmap.through transport).result
  let f := { f with sequence }
  match hold with
  | some name => ({ f with held := f.held ++ [⟨name, seq, result⟩] }, [])
  | none => f.settle seq result

/-- Lets a response go. -/
def release (f : Refetcher) (name : String) : Refetcher × List Event :=
  match f.held.find? (·.name == name) with
  | none => (f, [])
  | some h => { f with held := f.held.filter (·.name != name) }.settle h.seq h.result

end Refetcher

end HeatFeed.View
