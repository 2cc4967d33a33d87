import MountOwnership.Object.Metadata

/-!
# Errors of the cluster

Why a call to the cluster failed. That an object is absent is no error: a lookup
then answers with nothing.
-/

namespace MountOwnership

/-- Why a call did not get an answer from the API server that can be used. -/
inductive TransportFault where
  /-- A stream of events had no line end. -/
  | noLineEnd
  /-- The address asks for encryption, and there is none. -/
  | noEncryption
  /-- The request could not be built from the name. -/
  | badRequest
  /-- The answer is not the object that was asked for. -/
  | badAnswer
  /-- No configuration of a cluster was found. -/
  | noConfiguration
deriving DecidableEq, Repr

/-- The wording of a transport fault. -/
def TransportFault.message : TransportFault → String
  | .noLineEnd => "Error finding newline character"
  | .noEncryption => "TLS required but no TLS stack selected"
  | .badRequest => "Error building the request"
  | .badAnswer => "Error deserializing response"
  | .noConfiguration => "Failed to infer configuration"

/-- Why a request cannot be built from an object. -/
inductive RequestFault where
  /-- The object has no namespace. -/
  | noNamespace
  /-- The object has no name. -/
  | noName
  /-- Another reason, in words. -/
  | other (reason : String)
deriving DecidableEq, Repr

/-- The wording of a request fault. -/
def RequestFault.message : RequestFault → String
  | .noNamespace => "object has no namespace"
  | .noName => "object has no name"
  | .other reason => reason

/-- Why a call to the cluster failed. -/
inductive ClusterError where
  /-- The API server was not reached, or its answer cannot be used. -/
  | transport (fault : TransportFault)
  /-- The write lost a race against another one. -/
  | conflict (message : String)
  /-- The API server refused the call for another reason. -/
  | api (message : String)
  /-- The request could not be built from the object. -/
  | invalidRequest (fault : RequestFault)
deriving DecidableEq, Repr

namespace ClusterError

/-- Whether a write lost a race. -/
def isConflict : ClusterError → Bool
  | .conflict _ => true
  | _ => false

/-- The wording of an error. -/
def message : ClusterError → String
  | .transport fault => "Kubernetes error: " ++ fault.message
  | .conflict text => "Conflict: " ++ text
  | .api text => "API error: " ++ text
  | .invalidRequest fault => "Invalid request: " ++ fault.message

end ClusterError

/-- Namespace and name under which a cluster keeps an object. -/
structure ObjectKey where
  /-- The namespace. -/
  ns : String
  /-- The name. -/
  name : String
deriving DecidableEq, Repr

/-- The key of an object, both parts of which have to be set. -/
def Metadata.key (m : Metadata) : Except ClusterError ObjectKey :=
  match m.ns, m.name with
  | none, _ => .error (.invalidRequest .noNamespace)
  | some _, none => .error (.invalidRequest .noName)
  | some ns, some name => .ok ⟨ns, name⟩

/-- The key under which an object is put into a store, where an unset part is empty. -/
def Metadata.storeKey (m : Metadata) : ObjectKey :=
  ⟨m.ns.getD "", m.name.getD ""⟩

end MountOwnership
