import MountOwnership.Http.Target
import MountOwnership.Json.Basic

/-!
# Requests and responses
-/

namespace MountOwnership.Http

/-- What a request asks for. -/
inductive Method where
  /-- To read. -/
  | get
  /-- To replace what is there. -/
  | put
deriving DecidableEq, Repr

/-- The name of a method. -/
def Method.name : Method → String
  | .get => "GET"
  | .put => "PUT"

/-- A request. -/
structure Request where
  /-- What is asked for. -/
  method : Method
  /-- Where it is. -/
  target : Target
  /-- What is sent along. -/
  body : Option Json

/-- A response. -/
structure Response where
  /-- The status code. -/
  status : Nat
  /-- What is sent along. -/
  body : String
deriving DecidableEq, Repr

/-- Whether the status says that the request failed, by fault of either side. -/
def Response.isFailure (r : Response) : Bool := 400 ≤ r.status && r.status < 600

end MountOwnership.Http
