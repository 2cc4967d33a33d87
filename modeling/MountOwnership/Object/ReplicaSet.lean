import MountOwnership.Object.Metadata

/-!
# ReplicaSets and their pod templates

Of a pod template only what decides which ConfigMaps are mounted is kept: the
volumes with their sources, and for each container the volumes it mounts, in the
order of declaration.
-/

namespace MountOwnership

/-- A container of a pod, with the names of the volumes it mounts. -/
structure Container where
  /-- The mounted volumes in order of declaration. -/
  mounts : List String
deriving DecidableEq, Repr

/-- A volume of a pod. -/
structure Volume where
  /-- The name by which containers mount it. -/
  name : String
  /-- The name of the ConfigMap it shows, if it shows one. -/
  configMap : Option String
deriving DecidableEq, Repr

/-- What a pod runs and mounts. -/
structure PodSpec where
  /-- The primary containers. -/
  containers : List Container := []
  /-- The containers that run before the primary ones. -/
  initContainers : List Container := []
  /-- The volumes. -/
  volumes : List Volume := []
deriving DecidableEq, Repr

/-- The template from which pods are made. -/
structure PodTemplate where
  /-- The pod to make. -/
  spec : Option PodSpec
deriving DecidableEq, Repr

/-- The desired state of a ReplicaSet. -/
structure ReplicaSetSpec where
  /-- The template of its pods. -/
  template : Option PodTemplate
deriving DecidableEq, Repr

/-- A ReplicaSet: the workload that owns the ConfigMaps its pods mount. -/
structure ReplicaSet where
  /-- The metadata. -/
  metadata : Metadata := {}
  /-- The desired state. -/
  spec : Option ReplicaSetSpec := none
deriving DecidableEq

/-! ### JSON form -/

namespace PodSpec

/-- The JSON form of lists of items that a path is made for. -/
def itemsShape : Json.Shape :=
  .list (.record [("key", .text), ("mode", .int32), ("path", .text)])

/-- The JSON form of volumes. -/
def volumeShape : Json.Shape := .record
  [("name", .text),
    ("configMap", .record
      [("name", .text), ("optional", .flag), ("defaultMode", .int32), ("items", itemsShape)]),
    ("secret", .record
      [("secretName", .text), ("optional", .flag), ("defaultMode", .int32),
        ("items", itemsShape)]),
    ("emptyDir", .record [("medium", .text), ("sizeLimit", .text)]),
    ("hostPath", .record [("path", .text), ("type", .text)]),
    ("persistentVolumeClaim", .record [("claimName", .text), ("readOnly", .flag)]),
    ("projected", .record [("defaultMode", .int32), ("sources", .list (.record []))])]

/-- The JSON form of containers. -/
def containerShape : Json.Shape := .record
  [("name", .text), ("image", .text), ("imagePullPolicy", .text), ("args", .list .text),
    ("command", .list .text), ("workingDir", .text), ("restartPolicy", .text),
    ("stdin", .flag), ("stdinOnce", .flag), ("tty", .flag),
    ("terminationMessagePath", .text), ("terminationMessagePolicy", .text),
    ("env", .list (.record [("name", .text), ("value", .text)])),
    ("envFrom", .list (.record [])),
    ("ports", .list (.record
      [("containerPort", .int32), ("hostPort", .int32), ("hostIP", .text), ("name", .text),
        ("protocol", .text)])),
    ("volumeDevices", .list (.record [("devicePath", .text), ("name", .text)])),
    ("volumeMounts", .list (.record
      [("name", .text), ("mountPath", .text), ("mountPropagation", .text), ("readOnly", .flag),
        ("recursiveReadOnly", .text), ("subPath", .text), ("subPathExpr", .text)]))]

/-- The JSON form of pod specifications. -/
def shape : Json.Shape := .record
  [("containers", .list containerShape), ("initContainers", .list containerShape),
    ("ephemeralContainers", .list (.record [("name", .text), ("image", .text)])),
    ("volumes", .list volumeShape), ("activeDeadlineSeconds", .int64),
    ("automountServiceAccountToken", .flag), ("dnsPolicy", .text), ("enableServiceLinks", .flag),
    ("hostIPC", .flag), ("hostNetwork", .flag), ("hostPID", .flag), ("hostUsers", .flag),
    ("hostname", .text), ("imagePullSecrets", .list (.record [("name", .text)])),
    ("nodeName", .text), ("nodeSelector", .map .text), ("os", .record [("name", .text)]),
    ("preemptionPolicy", .text), ("priority", .int32), ("priorityClassName", .text),
    ("restartPolicy", .text), ("runtimeClassName", .text), ("schedulerName", .text),
    ("securityContext", .record []), ("serviceAccount", .text), ("serviceAccountName", .text),
    ("setHostnameAsFQDN", .flag), ("shareProcessNamespace", .flag), ("subdomain", .text),
    ("terminationGracePeriodSeconds", .int64), ("affinity", .record []),
    ("tolerations", .list (.record
      [("effect", .text), ("key", .text), ("operator", .text), ("tolerationSeconds", .int64),
        ("value", .text)]))]

/-- The items of a list member; an absent list is empty. -/
def listField (name : String) (j : Json) : List Json :=
  ((j.field? name).bind Json.arr?).getD []

/-- The text of a member; an absent text is empty. -/
def textField (name : String) (j : Json) : String :=
  ((j.field? name).bind Json.str?).getD ""

/-- Read a container that has the right shape. -/
def readContainer (j : Json) : Container where
  mounts := (listField "volumeMounts" j).map (textField "name")

/-- Read a volume that has the right shape. -/
def readVolume (j : Json) : Volume where
  name := textField "name" j
  configMap := (j.field? "configMap").map (textField "name")

/-- Read a pod specification that has the right shape. -/
def read (j : Json) : PodSpec where
  containers := (listField "containers" j).map readContainer
  initContainers := (listField "initContainers" j).map readContainer
  volumes := (listField "volumes" j).map readVolume

/-- Read a pod specification. -/
def ofJson? (j : Json) : Option PodSpec :=
  if shape.accepts j then some (read j) else none

end PodSpec

namespace ReplicaSet

/-- The JSON form of label selectors. -/
def selectorShape : Json.Shape := .record
  [("matchLabels", .map .text),
    ("matchExpressions", .list (.record
      [("key", .text), ("operator", .text), ("values", .list .text)]))]

/-- The JSON form of ReplicaSets. -/
def shape : Json.Shape := .record
  [("apiVersion", .exactly "apps/v1"), ("kind", .exactly "ReplicaSet"),
    ("metadata", Metadata.shape),
    ("spec", .record
      [("minReadySeconds", .int32), ("replicas", .int32), ("selector", selectorShape),
        ("template", .record [("metadata", Metadata.shape), ("spec", PodSpec.shape)])]),
    ("status", .record
      [("availableReplicas", .int32), ("fullyLabeledReplicas", .int32),
        ("observedGeneration", .int64), ("readyReplicas", .int32), ("replicas", .int32)])]

/-- Read the desired state that has the right shape. -/
def readSpec (j : Json) : ReplicaSetSpec where
  template := (j.field? "template").map fun t => { spec := (t.field? "spec").map PodSpec.read }

/-- Read a ReplicaSet that has the right shape; absent metadata is empty. -/
def read (j : Json) : ReplicaSet where
  metadata := ((j.field? "metadata").map Metadata.read).getD {}
  spec := (j.field? "spec").map readSpec

/-- Read a ReplicaSet. -/
def ofJson? (j : Json) : Option ReplicaSet :=
  if shape.accepts j then some (read j) else none

end ReplicaSet

end MountOwnership
