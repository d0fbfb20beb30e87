import HeatFeed.Backend

/-!
# The mock backend over time

The backend records a request, counts it and picks its reply as soon as it arrives. Only then is the
response held back, for as long as the reply says, and meanwhile other requests come and go.
-/

namespace HeatFeed.Backend

open Http

/-- How long the response to a request is held back, in milliseconds. -/
def delay (b : Backend) (a : Arrival) : Nat :=
  if route a = .heatmap then b.nextReply.1.delay else 0

/-- A request with the time of its arrival, the response to it and the time at which this is due. -/
structure Answer where
  asked : Arrival
  arrived : Nat
  response : Response
  due : Nat
  deriving DecidableEq

/-- What happens to a backend. -/
inductive Input where
  | push (r : Reply)
  | setDefault (r : Reply)
  | request (a : Arrival)
  /-- Some milliseconds pass. -/
  | wait (ms : Nat)
  deriving DecidableEq

/-- A backend, the time since its start and its answers in order of arrival. -/
structure Service where
  backend : Backend
  now : Nat
  answers : List Answer
  deriving DecidableEq

namespace Service

/-- A backend that has just started. -/
def start (fallback : Reply) : Service := ⟨.fresh fallback, 0, []⟩

/-- One thing happens. -/
def step (reader : BodyReader) (s : Service) : Input → Service
  | .push r => { s with backend := s.backend.push r }
  | .setDefault r => { s with backend := s.backend.setDefault r }
  | .request a =>
    let (response, backend) := s.backend.answer reader a
    let answer := ⟨a, s.now, response, s.now + s.backend.delay a⟩
    { s with backend, answers := s.answers ++ [answer] }
  | .wait ms => { s with now := s.now + ms }

/-- Some things happen one after the other. -/
def run (reader : BodyReader) (fallback : Reply) (inputs : List Input) : Service :=
  inputs.foldl (step reader) (start fallback)

/-- The answers that are held back. -/
def outstanding (s : Service) : List Answer := s.answers.filter fun answer => s.now < answer.due

end Service

end HeatFeed.Backend
