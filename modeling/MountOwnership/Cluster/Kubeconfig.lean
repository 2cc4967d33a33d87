import MountOwnership.Json.Shape
import MountOwnership.Yaml.Reader

/-!
# Configurations of clusters

A configuration names clusters, users and contexts. A context picks a cluster
and, if it likes, a user; the current context tells which cluster is reached and
how.
-/

namespace MountOwnership

/-- How a cluster is reached. -/
structure Access where
  /-- The address of its API server. -/
  server : String
deriving DecidableEq, Repr

namespace Kubeconfig

/-- The JSON form of clusters. -/
def clusterShape : Json.Shape := .record
  [("server", .text), ("insecure-skip-tls-verify", .flag), ("certificate-authority", .text),
    ("certificate-authority-data", .text), ("proxy-url", .text), ("tls-server-name", .text),
    ("disable-compression", .flag)]

/-- The JSON form of contexts. -/
def contextShape : Json.Shape := .record
  [("cluster", .text), ("user", .text), ("namespace", .text)]

/-- The JSON form of users. -/
def userShape : Json.Shape := .record
  [("username", .text), ("password", .text), ("token", .text), ("tokenFile", .text),
    ("client-certificate", .text), ("client-certificate-data", .text), ("client-key", .text),
    ("client-key-data", .text), ("as", .text), ("as-groups", .list .text)]

/-- A named entry whose content stands under a key and may be absent. -/
def named? (key : String) (shape : Json.Shape) (j : Json) : Option (String × Option Json) := do
  let name ← (j.member? "name").bind Json.str?
  match j.field? key with
  | none => some (name, none)
  | some content => if shape.accepts content then some (name, some content) else none

/-- The named entries of a list that may be absent. -/
def entries? (list key : String) (shape : Json.Shape) (j : Json) :
    Option (List (String × Option Json)) :=
  match j.field? list with
  | none => some []
  | some (.arr items) => items.mapM (named? key shape)
  | some _ => none

/-- The content of the first entry of a name. -/
def find? (entries : List (String × Option Json)) (name : String) : Option Json :=
  (entries.find? fun e => e.1 = name).bind (·.2)

/-- A text that may be absent; anything else is refused. -/
def text? (name : String) (j : Json) : Option (Option String) :=
  match j.field? name with
  | none => some none
  | some (.str s) => some (some s)
  | some _ => none

/-- Whether a character may stand in an address. -/
def isAddressChar (c : Char) : Bool :=
  0x21 ≤ c.toNat && c.toNat < 0x7F &&
    !(['"', '<', '>', '\\', '^', '\x60', '{', '|', '}'].contains c)

/-- Whether a text may be the address of a server. -/
def isAddress (s : String) : Bool := !s.isEmpty && s.toList.all isAddressChar

/-- The access that a configuration gives. -/
def ofJson? (j : Json) : Option Access := do
  let clusters ← entries? "clusters" "cluster" clusterShape j
  let users ← entries? "users" "user" userShape j
  let contexts ← entries? "contexts" "context" contextShape j
  let current ← ← text? "current-context" j
  let context ← find? contexts current
  let cluster ← find? clusters (← (context.field? "cluster").bind Json.str?)
  let server ← (cluster.field? "server").bind Json.str?
  match (context.field? "user").bind Json.str? with
  | none => if isAddress server then some ⟨server⟩ else none
  | some user =>
    let _ ← find? users user
    if isAddress server then some ⟨server⟩ else none

/-- The access that the text of a configuration gives. -/
def access? (text : String) : Option Access := (Yaml.read? text).bind ofJson?

end Kubeconfig

end MountOwnership
