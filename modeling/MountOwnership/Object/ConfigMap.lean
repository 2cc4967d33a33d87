import MountOwnership.Object.Metadata

/-!
# ConfigMaps
-/

namespace MountOwnership

/-- A ConfigMap: named configuration that pods mount. -/
structure ConfigMap where
  /-- The metadata. -/
  metadata : Metadata := {}
  /-- The texts it holds. -/
  data : Option TextMap := none
  /-- The bytes it holds, in Base64. -/
  binaryData : Option TextMap := none
  /-- Whether the contents may never change. -/
  immutable : Option Bool := none
deriving DecidableEq

namespace ConfigMap

/-- The JSON form of ConfigMaps. -/
def shape : Json.Shape := .record
  [("apiVersion", .exactly "v1"), ("kind", .exactly "ConfigMap"), ("metadata", Metadata.shape),
    ("data", .map .text), ("binaryData", .map .bytes), ("immutable", .flag)]

/-- Read a ConfigMap that has the right shape; absent metadata is empty. -/
def read (j : Json) : ConfigMap where
  metadata := ((j.field? "metadata").map Metadata.read).getD {}
  data := (j.field? "data").bind Json.textMap?
  binaryData := (j.field? "binaryData").bind Json.textMap?
  immutable := (j.field? "immutable").bind Json.bool?

/-- Read a ConfigMap. -/
def ofJson? (j : Json) : Option ConfigMap :=
  if shape.accepts j then some (read j) else none

/-- A ConfigMap as JSON, absent fields left out. -/
def toJson (c : ConfigMap) : Json :=
  .obj ([("apiVersion", .str "v1")]
    ++ Json.optional "binaryData" Json.ofTextMap c.binaryData
    ++ Json.optional "data" Json.ofTextMap c.data
    ++ Json.optional "immutable" .bool c.immutable
    ++ [("kind", .str "ConfigMap"), ("metadata", c.metadata.toJson)])

/-- The ConfigMap with another resource version. -/
def withVersion (c : ConfigMap) (version : Option String) : ConfigMap :=
  { c with metadata := { c.metadata with resourceVersion := version } }

/-- The ConfigMap with other owner references. -/
def withOwners (c : ConfigMap) (owners : Option (List OwnerReference)) : ConfigMap :=
  { c with metadata := { c.metadata with ownerReferences := owners } }

/-- The owner references; absent ones read as none. -/
def owners (c : ConfigMap) : List OwnerReference := c.metadata.ownerReferences.getD []

end ConfigMap

end MountOwnership
