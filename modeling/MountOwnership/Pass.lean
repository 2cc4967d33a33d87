import MountOwnership.Cluster.Store
import MountOwnership.NamespaceFilter
import MountOwnership.Ownership
import MountOwnership.References
import MountOwnership.Watermark

/-!
# A pass over a ReplicaSet

A pass makes every ConfigMap that a ReplicaSet mounts list it as an owner. It is
a tree of calls: `Pass.call` asks the cluster something and says how the pass
goes on with the result. So a pass can be run to its end, cut off between two
calls, or taken apart and mixed with other passes call by call.

What a pass has written stays written when it fails later; the next pass finds
those ConfigMaps owned already.
-/

namespace MountOwnership

/-- What the passes of a controller have in common. -/
structure Context where
  /-- The namespaces to work in. -/
  filter : NamespaceFilter
  /-- Whether to report changes instead of writing them. -/
  dryRun : Bool
  /-- Objects that are not newer than this are left alone. -/
  start : Time.Instant

/-- Why a ReplicaSet was left alone. -/
inductive SkipReason where
  /-- Its namespace is not selected. -/
  | namespaceExcluded
  /-- It does not exist. -/
  | workloadNotFound
  /-- It is not newer than the controller. -/
  | createdBeforeStart
  /-- It mounts no ConfigMap. -/
  | noConfigMapVolumes
deriving DecidableEq, Repr

/-- The wording of a skip reason. -/
def SkipReason.message : SkipReason → String
  | .namespaceExcluded => "namespace not selected"
  | .workloadNotFound => "replicaset not found"
  | .createdBeforeStart => "created before controller start"
  | .noConfigMapVolumes => "no mounted configmaps"

/-- What became of the ConfigMaps that a ReplicaSet mounts. -/
structure Summary where
  /-- The ReplicaSet was written into these. -/
  linked : List String := []
  /-- The ReplicaSet was there already. -/
  alreadyOwned : List String := []
  /-- These do not exist. -/
  missing : List String := []
  /-- The ReplicaSet would have been written into these. -/
  dryRun : List String := []
deriving DecidableEq, Repr

/-- The wording of a summary. -/
def Summary.message (s : Summary) : String :=
  "linked=" ++ toString s.linked.length ++ " already_owned=" ++ toString s.alreadyOwned.length ++
    " missing=" ++ toString s.missing.length ++ " dry_run=" ++ toString s.dryRun.length

/-- The result of a pass that did not fail. -/
inductive Outcome where
  /-- The ReplicaSet was left alone. -/
  | skipped (reason : SkipReason)
  /-- Its ConfigMaps were worked on. -/
  | applied (summary : Summary)
deriving DecidableEq, Repr

/-- A pass, as the calls it makes and what it does with their results. -/
inductive Pass where
  /-- The pass is over. -/
  | done (result : Except ControllerError Outcome)
  /-- The pass makes a call and goes on with its result. -/
  | call (c : Call) (next : c.Result → Pass)

namespace Pass

/-- Work on ConfigMaps in order, after those that the summary tells of. -/
def link (ctx : Context) (ns : String) (rs : ReplicaSet) (s : Summary) : List String → Pass
  | [] => .done (.ok (.applied s))
  | name :: names =>
    .call (.readConfigMap ⟨ns, name⟩) fun
      | none => link ctx ns rs { s with missing := s.missing ++ [name] } names
      | some c =>
        if c.isOwnedBy rs then
          link ctx ns rs { s with alreadyOwned := s.alreadyOwned ++ [name] } names
        else if ctx.dryRun then link ctx ns rs { s with dryRun := s.dryRun ++ [name] } names
        else
          match c.setOwner rs with
          | .error fault => .done (.error (.ownerReference fault))
          | .ok c =>
            .call (.replaceConfigMap c) fun _ =>
              link ctx ns rs { s with linked := s.linked ++ [name] } names

/-- Work on a ReplicaSet that was found. -/
def apply (ctx : Context) (ns : String) (rs : ReplicaSet) : Pass :=
  if rs.metadata.isCreatedAfter ctx.start then
    match rs.configMaps with
    | [] => .done (.ok (.skipped .noConfigMapVolumes))
    | names => link ctx ns rs {} names
  else .done (.ok (.skipped .createdBeforeStart))

/-- The pass over the ReplicaSet of a namespace and name. -/
def reconcile (ctx : Context) (ns name : String) : Pass :=
  if ctx.filter.selects ns then
    .call (.readReplicaSet ⟨ns, name⟩) fun
      | none => .done (.ok (.skipped .workloadNotFound))
      | some rs => apply ctx ns rs
  else .done (.ok (.skipped .namespaceExcluded))

/-- How far a run of a pass came. -/
inductive Ending where
  /-- The pass is over. -/
  | returned (result : Except ControllerError Outcome)
  /-- The pass waits for a call that never completes. -/
  | waiting

/-- Run a pass that is cancelled after a number of calls, or never. -/
def run (callsLeft : Option Nat) (s : Store) : Pass → Store × Ending
  | .done result => (s, .returned result)
  | .call c next =>
    if callsLeft = some 0 then (s, .returned (.error .cancelled))
    else
      match s.perform c with
      | (s, .stalled) => (s, .waiting)
      | (s, .failed e) => (s, .returned (.error (.cluster e)))
      | (s, .ok result) => (next result).run (callsLeft.map (· - 1)) s

end Pass

end MountOwnership
