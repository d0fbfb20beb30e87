import HeatFeed.Timestamp
import HeatFeed.View.Feed
import HeatFeed.View.Grid
import HeatFeed.View.SessionPanel

/-!
# Page

The heatmap page: a header with a button to refresh, the session panel, and the state of the feed. A
snapshot is shown as a grid under its timestamp, with a notice between them if the last refresh has
failed. Pages must stand below the one provider of the feed.
-/

namespace HeatFeed.View

/-- The header of the page. -/
def pageHeader : Html :=
  .styled "div" "flex items-center justify-between" [
    .styled "h1" "text-2xl font-semibold" [.text "Market Heatmap"],
    button "Refresh"]

/-- The notice that a refresh has failed. -/
def refreshNotice (error : String) : Html :=
  .styled "div" "p-3 rounded-md bg-red-50 dark:bg-red-900/20" [
    .styled "p" "text-sm text-red-700 dark:text-red-400" [.text ("Refresh failed: " ++ error)]]

/-- A snapshot on the page. -/
def snapshotPanel (s : Snapshot) (error : Option String) : Html :=
  .styled "div" "space-y-3" (
    [.styled "p" "text-sm text-neutral-600 dark:text-neutral-400" [
      .text ("Updated " ++ Timestamp.display s.timestamp)]] ++
    (error.map refreshNotice).toList ++
    [grid s])

/-- The page. -/
def page (session : Session) (f : Feed) : Html :=
  .styled "div" "space-y-6" [pageHeader, sessionPanel session, f.render snapshotPanel]

/-- Said by what stands outside the provider of the feed. -/
def outsideProvider : String := "use_aethelgard must be used within an AethelgardProvider"

end HeatFeed.View
