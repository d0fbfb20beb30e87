import HeatFeed.Session
import HeatFeed.View.Html

/-!
# Session panel

While nobody is logged in the panel asks for a token; otherwise it offers to check the session and
to end it. The token itself is never shown.
-/

namespace HeatFeed.View

/-- The class of buttons. -/
def buttonClass : String := "px-3 py-1 rounded border"

/-- A button with a text. -/
def button (label : String) : Html := .styled "button" buttonClass [.text label]

/-- The form that asks for a token. -/
def tokenForm : Html :=
  .styled "form" "flex gap-2" [
    .element "input" [
      ("type", "password"), ("placeholder", "API token"), ("class", "px-2 py-1 rounded border")] [],
    .element "button" [("type", "submit"), ("class", buttonClass)] [.text "Use token"]]

/-- What the panel offers to somebody who is logged in. -/
def sessionControls : List Html := [
  .styled "span" "text-neutral-600 dark:text-neutral-400" [.text "Token set"],
  button "Check session",
  button "Log out"]

/-- The panel. -/
def sessionPanel (s : Session) : Html :=
  .styled "div" "flex flex-wrap items-center gap-3 text-sm"
    (if s.isAuthenticated then sessionControls else [tokenForm])

end HeatFeed.View
