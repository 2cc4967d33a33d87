import MountOwnership.Classifier

/-!
# Triggers

The stream of a watch narrowed down to what starts work: the ReplicaSets whose
creation is admitted, and the errors of the watch. An admitted creation without
a name ends the stream with a fault, since the work on it has no key. So does any
other event about an object without a name, if the log shows trace lines: one of
them says which key is ignored.
-/

namespace MountOwnership

/-- Why a watch failed for a moment. -/
inductive WatchFault where
  /-- A report had no resource version to go on from. -/
  | noResourceVersion
  /-- The API server refused the watch. -/
  | refused (code : Nat)
deriving DecidableEq, Repr

/-- The wording of a watch fault. -/
def WatchFault.message : WatchFault → String
  | .noResourceVersion =>
    "no metadata.resourceVersion in watch result (does resource support watch?)"
  | .refused code => "error returned by apiserver during watch: " ++ toString code

/-- An item of a watch's stream: a report or a fault. -/
abbrev WatchItem := Except WatchFault WatchEvent

/-- A trigger: a ReplicaSet to work on, or a fault to report. -/
abbrev Trigger := Except WatchFault ReplicaSet

/-- The ReplicaSet of an admitted event, whose key the log tells. The key of an event that is not
admitted is told as well if the log shows trace lines. -/
def WorkloadEvent.admitted? (e : WorkloadEvent) (tracing : Bool) (start : Time.Instant) :
    Except KeyFault (Option ReplicaSet) :=
  if e.isAdmitted start then e.key.map fun _ => e.payload.workload?
  else if tracing then e.key.map fun _ => none
  else .ok none

namespace Classifier

/-- Take in an item of the stream, and give the trigger it is, if it is one. -/
def trigger (c : Classifier) (tracing : Bool) (start : Time.Instant) :
    WatchItem → Except KeyFault (Classifier × Option Trigger)
  | .error fault => .ok (c, some (.error fault))
  | .ok event =>
    match c.classify event with
    | (c, none) => .ok (c, none)
    | (c, some e) => (e.admitted? tracing start).map fun rs => (c, rs.map .ok)

/-- The triggers of a stream. -/
def triggers (c : Classifier) (tracing : Bool) (start : Time.Instant) :
    List WatchItem → Except KeyFault (List Trigger)
  | [] => .ok []
  | item :: items =>
    match c.trigger tracing start item with
    | .error fault => .error fault
    | .ok (c, found) => (c.triggers tracing start items).map fun rest => found.toList ++ rest

end Classifier

/-- The triggers of a stream that a new classifier takes in; `tracing` says whether the log shows
trace lines. -/
def admittedCreations (tracing : Bool) (start : Time.Instant) (items : List WatchItem) :
    Except KeyFault (List Trigger) :=
  Classifier.triggers {} tracing start items

end MountOwnership
