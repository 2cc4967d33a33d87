import MountOwnership.Cluster.Call
import MountOwnership.Cluster.Status

/-!
# The client of an API server

Every call is one request, and the response decides its result. A name goes
into the target as it is. A call whose object has no place on the server, or
whose target is malformed, fails without a request.

A lookup whose status says that the object is absent finds nothing; every other
failure is the same error for lookups and writes.
-/

namespace MountOwnership.Client

/-- How a client shows itself in diagnostics; its state is hidden. -/
def diagnostic : String := "KubeClusterClient \x7b .. \x7d"

/-! ### Requests -/

/-- A request about the object of a name in a collection. -/
def objectRequest (method : Http.Method) (collection name ending : String) (body : Option Json) :
    Except ClusterError Http.Request :=
  if name.isEmpty then .error (.transport .badRequest)
  else
    match Http.Target.ofText? (collection ++ "/" ++ name ++ ending) with
    | some target => .ok ⟨method, target, body⟩
    | none => .error (.transport .badRequest)

/-- The path of the ReplicaSets of a namespace. -/
def replicaSets (ns : String) : String := "/apis/apps/v1/namespaces/" ++ ns ++ "/replicasets"

/-- The path of the ConfigMaps of a namespace. -/
def configMaps (ns : String) : String := "/api/v1/namespaces/" ++ ns ++ "/configmaps"

/-- The request of a call. A replace has options, none of which is set. -/
def request : Call → Except ClusterError Http.Request
  | .readReplicaSet k => objectRequest .get (replicaSets k.ns) k.name "" none
  | .readConfigMap k => objectRequest .get (configMaps k.ns) k.name "" none
  | .replaceConfigMap c =>
    match c.metadata.key with
    | .error e => .error e
    | .ok k => objectRequest .put (configMaps k.ns) k.name "?" (some c.toJson)

/-! ### Results -/

/-- The object of a response that did not fail. -/
def object {α : Type} (read : Json → Option α) (r : Http.Response) : Except ClusterError α :=
  match (Json.read? r.body).bind read with
  | some a => .ok a
  | none => .error (.transport .badAnswer)

/-- The result of a lookup. -/
def found {α : Type} (read : Json → Option α) (r : Http.Response) :
    Except ClusterError (Option α) :=
  if r.isFailure then
    let status := Status.ofResponse r
    if status.isAbsence then .ok none else .error status.error
  else (object read r).map some

/-- The result of a write. -/
def written {α : Type} (read : Json → Option α) (r : Http.Response) : Except ClusterError α :=
  if r.isFailure then .error (Status.ofResponse r).error else object read r

/-- The result of a call that got a response. -/
def result : (c : Call) → Http.Response → Except ClusterError c.Result
  | .readReplicaSet _, r => found ReplicaSet.ofJson? r
  | .readConfigMap _, r => found ConfigMap.ofJson? r
  | .replaceConfigMap _, r => written ConfigMap.ofJson? r

/-- Make a call to a server: the requests that are sent, and the result. -/
def perform (server : Http.Request → Http.Response) (c : Call) :
    List Http.Request × Except ClusterError c.Result :=
  match request c with
  | .error e => ([], .error e)
  | .ok r => ([r], result c (server r))

end MountOwnership.Client
