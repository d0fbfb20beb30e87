import HeatFeed.Client.Answer
import HeatFeed.Log
import HeatFeed.Snapshot

/-!
# Fetch state

What is known of the heatmap. Results carry the number of the fetch cycle that they come from, and a
result is applied only if no cycle with the same or a greater number has been: a slow response never
replaces a later one. A failure keeps the snapshot that was there before.
-/

namespace HeatFeed

/-- What is known of the heatmap. -/
structure FetchState where
  data : Option Snapshot
  /-- No result has been applied yet. -/
  loading : Bool
  error : Option String
  /-- The number of the cycle whose result was applied last. -/
  applied : Nat

namespace FetchState

/-- Nothing is known. -/
def initial : FetchState := ⟨none, true, none, 0⟩

/-- A message, or the fallback where it is empty. -/
def shownMessage (message : String) : String := if message = "" then heatmapFallback else message

/-- The state after the result of cycle `seq`. -/
def apply (s : FetchState) (seq : Nat) : Except String Snapshot → FetchState
  | .ok snapshot => ⟨some snapshot, false, none, seq⟩
  | .error message => ⟨s.data, false, some (shownMessage message), seq⟩

/-- Whether the result of cycle `seq` is applied. -/
def accepts (s : FetchState) (seq : Nat) : Bool := s.applied < seq

/-- The state once the result of cycle `seq` has come in. -/
def resolve (s : FetchState) (seq : Nat) (result : Except String Snapshot) : FetchState :=
  if s.accepts seq then s.apply seq result else s

/-- What is reported when the result of cycle `seq` comes in. -/
def report (s : FetchState) (seq : Nat) : List Event :=
  if s.accepts seq then [] else [.discarded seq s.applied]

/-- Whether there is a snapshot. -/
def hasData (s : FetchState) : Bool := s.data.isSome

/-- Equality of optional snapshots. -/
def sameData : Option Snapshot → Option Snapshot → Bool
  | none, none => true
  | some a, some b => a.same b
  | _, _ => false

/-- Equality of states. -/
def same (a b : FetchState) : Bool :=
  sameData a.data b.data && a.loading == b.loading && a.error == b.error && a.applied == b.applied

end FetchState

/-- Hands out the numbers of fetch cycles. -/
structure RequestSequence where
  issued : Nat
  deriving DecidableEq

namespace RequestSequence

/-- No cycle has been numbered. -/
def initial : RequestSequence := ⟨0⟩

/-- The next number, and the sequence after it. -/
def issue (s : RequestSequence) : Nat × RequestSequence := (s.issued + 1, ⟨s.issued + 1⟩)

end RequestSequence

end HeatFeed
