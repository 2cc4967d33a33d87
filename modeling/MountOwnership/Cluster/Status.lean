import MountOwnership.Cluster.Error
import MountOwnership.Http.Message
import MountOwnership.Json.Reader

/-!
# Statuses of the API server

What the API server says about a call that it refuses: a code, a message and a
reason. A refusal in any other form counts as a status with the code of the
response and its whole body as the message.

The reason tells whether an object is absent, the code whether a write lost a
race; the two need not agree with each other.
-/

namespace MountOwnership

/-- A status of the API server. -/
structure Status where
  /-- The code. -/
  code : Nat
  /-- The message. -/
  message : String
  /-- The reason, in one word. -/
  reason : String
deriving DecidableEq, Repr

namespace Status

/-- The only member of a name, or none; a repeated name is refused. -/
def single? (name : String) (members : List (String × Json)) : Option (Option Json) :=
  match members.filter fun m => m.1 = name with
  | [] => some none
  | [m] => some (some m.2)
  | _ => none

/-- A code of 16 bits. -/
def code? (j : Json) : Option Nat := j.nat?.filter fun n => n < 65536

/-- A text that may be absent and is empty then. -/
def text? : Option Json → Option String
  | none => some ""
  | some j => j.str?

/-- Read a status, as an object or as the list of its values. -/
def ofJson? : Json → Option Status
  | .obj members => do
    let _ ← (← (← single? "status" members)).str?
    let code ← code? (← (← single? "code" members))
    let message ← text? (← single? "message" members)
    let reason ← text? (← single? "reason" members)
    return ⟨code, message, reason⟩
  | .arr [.str _, .str message, .str reason, code] =>
    (code? code).map fun code => ⟨code, message, reason⟩
  | _ => none

/-- The status of a refusal in another form. -/
def ofUnreadable (r : Http.Response) : Status where
  code := r.status
  message := Text.quoted r.body
  reason := "Failed to parse error data"

/-- The status of a failed response. -/
def ofResponse (r : Http.Response) : Status :=
  ((Json.read? r.body).bind ofJson?).getD (ofUnreadable r)

/-- Whether the object of the call is absent. -/
def isAbsence (s : Status) : Bool := s.reason == "NotFound"

/-- The code of a write that lost a race. -/
def codeConflict : Nat := 409

/-- The error of a call that was refused with a status. -/
def error (s : Status) : ClusterError :=
  if s.code = codeConflict then .conflict s.message
  else .api (s.message ++ " (HTTP " ++ toString s.code ++ ")")

end Status

end MountOwnership
