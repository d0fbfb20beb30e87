import HeatFeed.Client.Error
import HeatFeed.ErrorDetail

/-!
# Answers

What a response says: on success a body of the expected kind, otherwise the text under `detail`, or
a fallback where the body has no such text.
-/

namespace HeatFeed

open Http

/-- Said where a failed heatmap request has no usable detail. -/
def heatmapFallback : String := "Failed to fetch heatmap"

/-- The text with which a body explains a failure. -/
def failureMessage (fallback : String) (body : List UInt8) : String :=
  match ErrorDetail.ofBytes body with
  | .ok ⟨some detail⟩ => if detail = "" then fallback else detail
  | _ => fallback

/-- What a response says, where `decode` reads the body of a success. -/
def Http.Response.read {α : Type} (decode : List UInt8 → Except Json.Error α) (fallback : String)
    (r : Response) : Except ClientError α :=
  if r.status.isSuccess then
    match decode r.body with
    | .ok a => .ok a
    | .error e => .error (.decode e)
  else .error (.api r.status (failureMessage fallback r.body))

end HeatFeed
