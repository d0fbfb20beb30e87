/-!
# Routes

The pages of the interface and their paths. The home page is at the root; every other path leads to
the page that says so. A path is walked along the paths of the pages, character by character, and
characters are compared by their numbers less one; so a path with a NUL where a page might go on
leads nowhere.
-/

namespace HeatFeed.View

/-- The pages. -/
inductive Route where
  | home
  | notFound
  deriving DecidableEq

namespace Route

/-- The path under which a page is shown. -/
def path : Route → String
  | .home => "/"
  | .notFound => "/404"

/-- Said of a path with a NUL where a page might go on. -/
def noPage : String := "attempt to subtract with overflow"

/-- The path without a slash at its end and one at its start, which do not count. -/
def inner (path : String) : List Char :=
  let cs := path.toList
  let cs := if cs.getLast? = some '/' then cs.dropLast else cs
  if cs.head? = some '/' then cs.tail else cs

/-- Whether a path has a NUL where another one, walked along with it, goes on. -/
def meetsNul : List Char → List Char → Bool
  | p :: ps, c :: cs => c == '\x00' || (c == p && meetsNul ps cs)
  | _, _ => false

/-- The page of a path. -/
def ofPath (path : String) : Except String Route :=
  if meetsNul (inner notFound.path) (inner path) then .error noPage
  else .ok (if inner path = [] then .home else .notFound)

end Route

end HeatFeed.View
