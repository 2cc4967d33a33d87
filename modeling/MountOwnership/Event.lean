import MountOwnership.Object.ReplicaSet
import MountOwnership.Watermark

/-!
# Events and their admission

A change of the watched objects, and which changes start any work: only the
creation of a ReplicaSet that is newer than the controller.
-/

namespace MountOwnership

/-- What the work on a ReplicaSet is known by: its namespace, which may be unset, and its name. -/
structure WorkloadKey where
  /-- The namespace. -/
  ns : Option String
  /-- The name. -/
  name : String
deriving DecidableEq, Repr

/-- Why an object has no key. -/
inductive KeyFault where
  /-- The object has no name. -/
  | noName
deriving DecidableEq, Repr

/-- The wording of a key fault. -/
def KeyFault.message : KeyFault → String
  | .noName => ".metadata.name missing"

/-- The key of a ReplicaSet, which has to have a name. -/
def ReplicaSet.key (rs : ReplicaSet) : Except KeyFault WorkloadKey :=
  match rs.metadata.name with
  | some name => .ok ⟨rs.metadata.ns, name⟩
  | none => .error .noName

/-- A key as log lines show it. -/
def WorkloadKey.render (k : WorkloadKey) : String :=
  "ReplicaSet.v1.apps/" ++ k.name ++ (match k.ns with | some ns => "." ++ ns | none => "")

/-- The object of an event. -/
inductive Payload where
  /-- A ReplicaSet. -/
  | workload (rs : ReplicaSet)
  /-- An object of another kind. -/
  | other (kind : String)

/-- The ReplicaSet of a payload. -/
def Payload.workload? : Payload → Option ReplicaSet
  | .workload rs => some rs
  | .other _ => none

/-- A change of a watched object. -/
inductive WorkloadEvent where
  /-- The object is new. -/
  | create (payload : Payload)
  /-- The object changed. -/
  | update (old new : Payload)
  /-- The object is gone. -/
  | delete (payload : Payload)
  /-- Something happened to the object. -/
  | generic (payload : Payload)

namespace WorkloadEvent

/-- The object that the event is about, as it is after the event. -/
def payload : WorkloadEvent → Payload
  | .create p => p
  | .update _ new => new
  | .delete p => p
  | .generic p => p

/-- The key of the ReplicaSet that the event is about, if it is about one. -/
def key (e : WorkloadEvent) : Except KeyFault (Option WorkloadKey) :=
  match e.payload.workload? with
  | some rs => rs.key.map some
  | none => .ok none

/-- Whether an event starts any work. -/
def isAdmitted (e : WorkloadEvent) (start : Time.Instant) : Bool :=
  match e with
  | .create p => p.workload?.any fun rs => rs.metadata.isCreatedAfter start
  | .update .. | .delete _ | .generic _ => false

end WorkloadEvent

end MountOwnership
