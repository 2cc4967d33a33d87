import MountOwnership.Event
import MountOwnership.Table

/-!
# Telling creations from updates

A watch reports the present state of an object and not what happened to it. The
classifier remembers every uid it has seen: an object with a new uid was
created, one with a known uid was updated.

A watch that lists all objects anew reports them between two marks. An object
that was known before stays known if the list has it; what the list does not
have is forgotten at its end. Deletions and reports that come in between count
for both.
-/

namespace MountOwnership

/-- A report of a watch. -/
inductive WatchEvent where
  /-- The present state of an object. -/
  | apply (rs : ReplicaSet)
  /-- The state of an object in a list. -/
  | initApply (rs : ReplicaSet)
  /-- An object is gone. -/
  | delete (rs : ReplicaSet)
  /-- A list begins. -/
  | init
  /-- A list is complete. -/
  | initDone

/-- What the classifier remembers. -/
structure Classifier where
  /-- The last state of every known object, by uid. -/
  known : Table String ReplicaSet := {}
  /-- The objects that the present list has had so far, if one has begun. -/
  relist : Option (Table String ReplicaSet) := none

namespace Classifier

/-- Take in the present state of an object. -/
def observe (c : Classifier) (rs : ReplicaSet) : Classifier × WorkloadEvent :=
  match rs.metadata.uid with
  | none => (c, .generic (.workload rs))
  | some uid =>
    let c' : Classifier :=
      { known := c.known.insert uid rs
        relist := c.relist.map fun t => t.insert uid rs }
    match c.known.get? uid with
    | some old => (c', .update (.workload old) (.workload rs))
    | none => (c', .create (.workload rs))

/-- Forget an object that is gone. -/
def forget (c : Classifier) (rs : ReplicaSet) : Classifier :=
  match rs.metadata.uid with
  | none => c
  | some uid =>
    { known := c.known.erase uid
      relist := c.relist.map fun t => t.erase uid }

/-- Take in a report and say what happened, if anything did. -/
def classify (c : Classifier) : WatchEvent → Classifier × Option WorkloadEvent
  | .apply rs | .initApply rs =>
    let (c, e) := c.observe rs
    (c, some e)
  | .delete rs => (c.forget rs, some (.delete (.workload rs)))
  | .init => ({ c with relist := some {} }, none)
  | .initDone => ({ known := c.relist.getD c.known, relist := none }, none)

/-- Take in reports in order, and say what happened at each. -/
def classifyAll (c : Classifier) : List WatchEvent → List (Option WorkloadEvent)
  | [] => []
  | e :: es =>
    let (c, happened) := c.classify e
    happened :: c.classifyAll es

end Classifier

end MountOwnership
