import MountOwnership.Json.Printer
import MountOwnership.Json.Shape

/-!
# Metadata of cluster objects

The part of an object that tells what it is called, when it was created and who
owns it. A field that is absent or `null` is `none`; a list that is there may
be empty, and stays different from an absent one.
-/

namespace MountOwnership

/-- A record in an object's metadata that names one of its owners. -/
structure OwnerReference where
  /-- The API group and version of the owner. -/
  apiVersion : String
  /-- The kind of the owner. -/
  kind : String
  /-- The name of the owner. -/
  name : String
  /-- The identity of the owner over its whole life. -/
  uid : String
  /-- Whether the owner manages the object. -/
  controller : Option Bool
  /-- Whether the owner's deletion waits for the object. -/
  blockOwnerDeletion : Option Bool
deriving DecidableEq, Repr

/-- A record in an object's metadata that tells which fields a manager has set. -/
structure ManagedFields where
  /-- The API group and version that the fields belong to. -/
  apiVersion : Option String
  /-- The format in which the fields are given. -/
  fieldsType : Option String
  /-- The fields, as any JSON value. -/
  fields : Option Json
  /-- The manager. -/
  manager : Option String
  /-- The kind of change that set the fields. -/
  operation : Option String
  /-- The part of the object that was changed. -/
  subresource : Option String
  /-- When the fields were last changed. -/
  time : Option Time.Instant
deriving DecidableEq

/-- A map from text to text, sorted by key. -/
abbrev TextMap := List (String × String)

/-- The metadata of a cluster object. -/
structure Metadata where
  /-- The namespace. -/
  ns : Option String := none
  /-- The name. -/
  name : Option String := none
  /-- The identity over the object's whole life. -/
  uid : Option String := none
  /-- The version that the last write gave. -/
  resourceVersion : Option String := none
  /-- When the object was created. -/
  creationTimestamp : Option Time.Instant := none
  /-- Labels. -/
  labels : Option TextMap := none
  /-- Annotations. -/
  annotations : Option TextMap := none
  /-- The owners. -/
  ownerReferences : Option (List OwnerReference) := none
  /-- The start of a name that the server completes. -/
  generateName : Option String := none
  /-- The number of the desired state. -/
  generation : Option Int := none
  /-- What has to happen before a deletion. -/
  finalizers : Option (List String) := none
  /-- When the object will be gone. -/
  deletionTimestamp : Option Time.Instant := none
  /-- The seconds that a deletion may take. -/
  deletionGracePeriodSeconds : Option Int := none
  /-- The path of the object. -/
  selfLink : Option String := none
  /-- Which manager has set which fields. -/
  managedFields : Option (List ManagedFields) := none
deriving DecidableEq

namespace OwnerReference

/-- The JSON form of owner references. -/
def shape : Json.Shape := .record
  [("apiVersion", .text), ("kind", .text), ("name", .text), ("uid", .text),
    ("controller", .flag), ("blockOwnerDeletion", .flag)]

/-- Read an owner reference that has the right shape; absent texts are empty. -/
def read (j : Json) : OwnerReference where
  apiVersion := ((j.field? "apiVersion").bind Json.str?).getD ""
  kind := ((j.field? "kind").bind Json.str?).getD ""
  name := ((j.field? "name").bind Json.str?).getD ""
  uid := ((j.field? "uid").bind Json.str?).getD ""
  controller := (j.field? "controller").bind Json.bool?
  blockOwnerDeletion := (j.field? "blockOwnerDeletion").bind Json.bool?

/-- Read an owner reference. -/
def ofJson? (j : Json) : Option OwnerReference :=
  if shape.accepts j then some (read j) else none

end OwnerReference

namespace ManagedFields

/-- The JSON form of records of managed fields; the fields themselves may be any value. -/
def shape : Json.Shape := .record
  [("apiVersion", .text), ("fieldsType", .text), ("manager", .text), ("operation", .text),
    ("subresource", .text), ("time", .time)]

/-- Read a record of managed fields that has the right shape. -/
def read (j : Json) : ManagedFields where
  apiVersion := (j.field? "apiVersion").bind Json.str?
  fieldsType := (j.field? "fieldsType").bind Json.str?
  fields := (j.field? "fieldsV1").map Json.sorted
  manager := (j.field? "manager").bind Json.str?
  operation := (j.field? "operation").bind Json.str?
  subresource := (j.field? "subresource").bind Json.str?
  time := ((j.field? "time").bind Json.str?).bind Time.Instant.parse?

end ManagedFields

namespace Json

/-- A member that is left out when there is nothing to write. -/
def optional {α : Type} (name : String) (write : α → Json) : Option α → List (String × Json)
  | some a => [(name, write a)]
  | none => []

/-- The text map of an object with text values: sorted by key, the last of each key. -/
def textMap? : Json → Option TextMap
  | .obj members =>
    some ((sortedMembers members []).map fun m => (m.1, (m.2.str?).getD ""))
  | _ => none

/-- An object with text values. -/
def ofTextMap (entries : TextMap) : Json := .obj (entries.map fun e => (e.1, .str e.2))

/-- The texts of a list. -/
def texts? (j : Json) : Option (List String) := j.arr?.map fun items => items.filterMap str?

end Json

/-- An owner reference as JSON. -/
def OwnerReference.toJson (o : OwnerReference) : Json :=
  .obj ([("apiVersion", .str o.apiVersion)]
    ++ Json.optional "blockOwnerDeletion" .bool o.blockOwnerDeletion
    ++ Json.optional "controller" .bool o.controller
    ++ [("kind", .str o.kind), ("name", .str o.name), ("uid", .str o.uid)])

/-- A record of managed fields as JSON, absent fields left out. -/
def ManagedFields.toJson (m : ManagedFields) : Json :=
  .obj (Json.optional "apiVersion" .str m.apiVersion
    ++ Json.optional "fieldsType" .str m.fieldsType
    ++ Json.optional "fieldsV1" id m.fields
    ++ Json.optional "manager" .str m.manager
    ++ Json.optional "operation" .str m.operation
    ++ Json.optional "subresource" .str m.subresource
    ++ Json.optional "time" (fun t : Time.Instant => .str t.render) m.time)

namespace Metadata

/-- The JSON form of metadata. -/
def shape : Json.Shape := .record
  [("namespace", .text), ("name", .text), ("uid", .text), ("resourceVersion", .text),
    ("creationTimestamp", .time), ("labels", .map .text), ("annotations", .map .text),
    ("ownerReferences", .list OwnerReference.shape), ("generateName", .text),
    ("generation", .int64), ("finalizers", .list .text), ("deletionTimestamp", .time),
    ("deletionGracePeriodSeconds", .int64), ("selfLink", .text),
    ("managedFields", .list ManagedFields.shape)]

/-- Read metadata that has the right shape. -/
def read (j : Json) : Metadata where
  ns := (j.field? "namespace").bind Json.str?
  name := (j.field? "name").bind Json.str?
  uid := (j.field? "uid").bind Json.str?
  resourceVersion := (j.field? "resourceVersion").bind Json.str?
  creationTimestamp := ((j.field? "creationTimestamp").bind Json.str?).bind Time.Instant.parse?
  labels := (j.field? "labels").bind Json.textMap?
  annotations := (j.field? "annotations").bind Json.textMap?
  ownerReferences :=
    ((j.field? "ownerReferences").bind Json.arr?).map fun items => items.map OwnerReference.read
  generateName := (j.field? "generateName").bind Json.str?
  generation := (j.field? "generation").bind Json.int?
  finalizers := (j.field? "finalizers").bind Json.texts?
  deletionTimestamp := ((j.field? "deletionTimestamp").bind Json.str?).bind Time.Instant.parse?
  deletionGracePeriodSeconds := (j.field? "deletionGracePeriodSeconds").bind Json.int?
  selfLink := (j.field? "selfLink").bind Json.str?
  managedFields :=
    ((j.field? "managedFields").bind Json.arr?).map fun items => items.map ManagedFields.read

/-- Read metadata. -/
def ofJson? (j : Json) : Option Metadata :=
  if shape.accepts j then some (read j) else none

/-- Metadata as JSON, absent fields left out. -/
def toJson (m : Metadata) : Json :=
  let time (t : Time.Instant) : Json := .str t.render
  .obj (Json.optional "annotations" Json.ofTextMap m.annotations
    ++ Json.optional "creationTimestamp" time m.creationTimestamp
    ++ Json.optional "deletionGracePeriodSeconds" .int m.deletionGracePeriodSeconds
    ++ Json.optional "deletionTimestamp" time m.deletionTimestamp
    ++ Json.optional "finalizers" Json.ofStrings m.finalizers
    ++ Json.optional "generateName" .str m.generateName
    ++ Json.optional "generation" .int m.generation
    ++ Json.optional "labels" Json.ofTextMap m.labels
    ++ Json.optional "managedFields"
      (fun records : List ManagedFields => .arr (records.map ManagedFields.toJson))
      m.managedFields
    ++ Json.optional "name" .str m.name
    ++ Json.optional "namespace" .str m.ns
    ++ Json.optional "ownerReferences"
      (fun owners : List OwnerReference => .arr (owners.map OwnerReference.toJson))
      m.ownerReferences
    ++ Json.optional "resourceVersion" .str m.resourceVersion
    ++ Json.optional "selfLink" .str m.selfLink
    ++ Json.optional "uid" .str m.uid)

/-- The fields that identify an object and its version. -/
def summaryJson (m : Metadata) : Json :=
  .obj [("namespace", .ofOption m.ns), ("name", .ofOption m.name), ("uid", .ofOption m.uid),
    ("rv", .ofOption m.resourceVersion)]

end Metadata

end MountOwnership
