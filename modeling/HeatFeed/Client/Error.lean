import HeatFeed.Http.Transport
import HeatFeed.Json.Error

/-!
# Client errors

Why the client has no answer: the backend refused, the request brought no response, the response
was not understood, or a header could not be formed.
-/

namespace HeatFeed

/-- Causes for which the client has no answer. -/
inductive ClientError where
  | api (status : Http.Status) (message : String)
  | network (failure : Http.Failure)
  | decode (cause : Json.Error)
  | invalidHeader (name : String)
  deriving DecidableEq

namespace ClientError

/-- The text of the error. -/
def message : ClientError → String
  | .api _ message => message
  | .network _ => "Network error. Please check your connection."
  | .decode cause => "Unexpected response from server: " ++ cause.message
  | .invalidHeader name => "Invalid value for header " ++ name

/-- The text of the error and those of its causes, the outermost first. -/
def messages : ClientError → List String
  | .network failure => (network failure).message :: failure.messages
  | .decode cause => [(decode cause).message, cause.message]
  | e => [e.message]

end ClientError

end HeatFeed
