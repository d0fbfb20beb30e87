import HeatFeed.FetchState
import HeatFeed.View.Html

/-!
# Feed

What pages see of the heatmap, and what they show: the snapshot if there is one, also after a
refresh has failed; before the first result a placeholder; and the error if there never was a
snapshot.
-/

namespace HeatFeed.View

/-- What pages see of the heatmap. -/
structure Feed where
  data : Option Snapshot
  loading : Bool
  error : Option String

/-- What pages see of a fetch state. -/
def Feed.ofState (s : FetchState) : Feed := ⟨s.data, s.loading, s.error⟩

/-- The placeholder. -/
def loadingNote : Html :=
  .styled "div" "text-center py-12" [
    .styled "p" "text-neutral-600 dark:text-neutral-400" [.text "Loading heatmap..."]]

/-- The panel with an error. -/
def errorPanel (message : String) : Html :=
  .styled "div"
    "p-4 rounded-md bg-red-50 dark:bg-red-900/20 border border-red-200 dark:border-red-800" [
    .styled "p" "text-sm text-red-700 dark:text-red-400"
      [.text ("Error loading heatmap: " ++ message)]]

/-- The state of the feed, where `shown` shows a snapshot and the error of a failed refresh. -/
def Feed.render (f : Feed) (shown : Snapshot → Option String → Html) : Html :=
  match f.data with
  | some snapshot => shown snapshot f.error
  | none => if f.loading then loadingNote else errorPanel (f.error.getD "no data")

end HeatFeed.View
