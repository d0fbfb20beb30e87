import HeatFeed.Client

/-!
# Session

Who is logged in. A token is kept without the blanks at its ends, and logging in with a blank one
logs out. Requests in the name of a session carry its token and leave it as it is, whatever comes of
them.
-/

namespace HeatFeed

/-- The session: the token, while logged in. -/
structure Session where
  token : Option String
  deriving DecidableEq

namespace Session

/-- Nobody is logged in. -/
def loggedOut : Session := ⟨none⟩

/-- What changes a session. -/
inductive Action where
  | login (text : String)
  | logout

/-- The session after an action. -/
def act (_ : Session) : Action → Session
  | .login text => if Text.trim text = "" then loggedOut else ⟨some (Text.trim text)⟩
  | .logout => loggedOut

/-- The session after some actions. -/
def run (s : Session) (actions : List Action) : Session := actions.foldl act s

/-- Whether somebody is logged in. -/
def isAuthenticated (s : Session) : Bool := s.token.isSome

/-- A call of a client in the name of the session. -/
def request (s : Session) (c : Client) (transport : Http.Transport) (url : String)
    (o : Http.RequestOptions) : Exchange Http.Response :=
  (c.request url o s.token).through transport

/-! ### Changes and requests in turn -/

/-- What is done in a session: it is changed, or a request is made in its name. -/
inductive Use where
  | change (action : Action)
  | request (transport : Http.Transport) (url : String) (o : Http.RequestOptions)

/-- The session after a use, and what came of the request if it was one. -/
def use (s : Session) (c : Client) : Use → Session × Option (Exchange Http.Response)
  | .change action => (s.act action, none)
  | .request transport url o => (s, some (s.request c transport url o))

/-- The session after some uses. -/
def useAll (s : Session) (c : Client) (uses : List Use) : Session :=
  uses.foldl (fun s u => (s.use c u).1) s

end Session

end HeatFeed
