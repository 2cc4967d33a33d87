import Mathlib.Logic.Function.Iterate
import MountOwnership.Proofs.Cluster.Copies
import MountOwnership.Proofs.Pass.Course
import MountOwnership.Proofs.References

/-!
# Passes that take turns

A pass can be taken through its calls one at a time, with whatever others do to the
store in between (`Pass.turn`); if they do nothing, that is its run
(`Pass.exists_turns`).  At every moment a pass is at one of few stages
(`Job.Stage`): it is about to look up its ReplicaSet or a ConfigMap, it is about to
write a ConfigMap that it read, or it is over.

What a pass has read stays tracked while others take their turns.  So its next turn
either leaves the objects alone, or puts the record of its ReplicaSet among the
owners of a ConfigMap that nobody wrote meanwhile (`Job.Stage.turn`).
-/

namespace MountOwnership

/-! ### Turns -/

namespace Pass

/-- How a pass goes on with an answer.  A pass whose call never completes is given up. -/
def resume {α : Type} (next : α → Pass) : Answer α → Pass
  | .ok result => next result
  | .failed e => .done (.error (.cluster e))
  | .stalled => .done (.error .cancelled)

/-- The store and a pass after its next call. -/
def turn (s : Store) : Pass → Store × Pass
  | .done result => (s, .done result)
  | .call c next => ((s.perform c).1, resume next (s.perform c).2)

/-- The key of the ConfigMap that a replace was carried out for. -/
def committed? : Answer ConfigMap → Option ObjectKey
  | .ok written => some written.metadata.storeKey
  | .failed _ => none
  | .stalled => none

/-- The key of the ConfigMap that the next call of a pass replaces, if it does. -/
def commit? (s : Store) : Pass → Option ObjectKey
  | .call (.replaceConfigMap c) _ => committed? (s.replaceConfigMap c).2
  | _ => none

/-- A pass that is about to make a call goes on with the answer to it. -/
lemma turn_call {s t : Store} {c : Call} {a : Answer c.Result} (hp : s.perform c = (t, a))
    (next : c.Result → Pass) : (Pass.call c next).turn s = (t, resume next a) := by
  unfold turn
  dsimp only
  rw [hp]

/-- The result of a pass that is given up where it would wait. -/
def Ending.result : Ending → Except ControllerError Outcome
  | .returned result => result
  | .waiting => .error .cancelled

/-- A pass that is given turns and nothing else happens does what its run does. -/
lemma exists_turns (p : Pass) (s : Store) :
    ∃ n, (fun x : Store × Pass => x.2.turn x.1)^[n] (s, p) =
      ((p.run none s).1, .done (p.run none s).2.result) := by
  induction p generalizing s with
  | done result => exact ⟨0, rfl⟩
  | call c next ih =>
    rcases hp : s.perform c with ⟨t, result | e | _⟩
    · obtain ⟨n, hn⟩ := ih result t
      refine ⟨n + 1, ?_⟩
      rw [Function.iterate_succ_apply, run_call_of_ok hp, turn_call hp]
      exact hn
    · refine ⟨1, ?_⟩
      rw [Function.iterate_one, turn_call hp, run, if_neg (Option.some_ne_none 0).symm, hp]
      rfl
    · refine ⟨1, ?_⟩
      rw [Function.iterate_one, turn_call hp, run, if_neg (Option.some_ne_none 0).symm, hp]
      rfl

end Pass

/-- A pass that is to be made: over which ReplicaSet, and for which controller. -/
structure Job where
  context : Context
  ns : String
  name : String

namespace Job

/-- The pass of a job. -/
def start (j : Job) : Pass := Pass.reconcile j.context j.ns j.name

/-- The ReplicaSet of a job. -/
def replicaSet? (j : Job) (s : Store) : Option ReplicaSet := s.replicaSets.get? ⟨j.ns, j.name⟩

/-- The record that a job writes. -/
def record? (j : Job) (s : Store) : Option OwnerReference :=
  (j.replicaSet? s).bind fun rs => rs.ownerRecord.toOption

/-- How far a pass of a job can be. -/
inductive Stage (j : Job) (s : Store) : Pass → Prop
  /-- It has made no call. -/
  | fresh : Stage j s j.start
  /-- It is over. -/
  | finished (result : Except ControllerError Outcome) : Stage j s (.done result)
  /-- It goes on with the next ConfigMap. -/
  | linking {rs : ReplicaSet} {sum : Summary} {names : List String}
      (hget : j.replicaSet? s = some rs) (hsub : ∀ name ∈ names, name ∈ rs.configMaps) :
      Stage j s (Pass.link j.context j.ns rs sum names)
  /-- It writes a ConfigMap that it has read, and then goes on with the next. -/
  | writing {rs : ReplicaSet} {sum : Summary} {names : List String} {name : String}
      {c : ConfigMap} {owner : OwnerReference}
      (hget : j.replicaSet? s = some rs) (hsub : ∀ name ∈ names, name ∈ rs.configMaps)
      (hr : rs.ownerRecord = .ok owner) (hc : s.Tracks ⟨j.ns, name⟩ c) :
      Stage j s (.call (.replaceConfigMap (c.withOwner owner)) fun _ =>
        Pass.link j.context j.ns rs sum names)

variable {j : Job} {s t : Store} {p : Pass}

/-- Whatever others do, a pass stays at its stage. -/
lemma Stage.later (h : j.Stage s p) (hst : s.Later t) : j.Stage t p := by
  have hkept : j.replicaSet? t = j.replicaSet? s := by
    unfold replicaSet?
    rw [hst.replicaSets_eq]
  cases h with
  | fresh => exact .fresh
  | finished result => exact .finished result
  | linking hget hsub => exact .linking (hkept.trans hget) hsub
  | writing hget hsub hr hc => exact .writing (hkept.trans hget) hsub hr (hc.later hst)

/-- What a turn does, with the key of the ConfigMap that it commits, and the store and the pass
after it.  It leaves the objects alone, or it puts the record of the ReplicaSet among the owners
of the ConfigMap that is stored. -/
inductive Turn (j : Job) (s : Store) : Option ObjectKey → Store → Pass → Prop
  | quiet {t : Store} {p : Pass} (h : s.Quiet t) (hp : j.Stage t p) : Turn j s none t p
  | commit {k : ObjectKey} {c : ConfigMap} {owner : OwnerReference} {p : Pass}
      (hget : s.configMap? k = some c) (hr : j.record? s = some owner)
      (hp : j.Stage (s.overwrite k (c.withOwner owner)) p) :
      Turn j s (some k) (s.overwrite k (c.withOwner owner)) p

/-- A ReplicaSet that was found is gone through from its first ConfigMap. -/
lemma stage_apply {rs : ReplicaSet} (hget : j.replicaSet? s = some rs) :
    j.Stage s (Pass.apply j.context j.ns rs) := by
  unfold Pass.apply
  split
  · split
    · exact .finished _
    · exact .linking hget fun name hn => hn
  · exact .finished _

/-- The first turn of a pass looks up its ReplicaSet. -/
lemma turn_start (j : Job) (s : Store) :
    j.Turn s (j.start.commit? s) (j.start.turn s).1 (j.start.turn s).2 := by
  unfold start Pass.reconcile
  split
  · rcases s.perform_readReplicaSet_cases ⟨j.ns, j.name⟩ with ⟨e, hp⟩ | hp
    · rw [Pass.turn_call hp]
      exact .quiet (.refl s) (.finished _)
    · rw [Pass.turn_call hp]
      refine .quiet (.refl s) ?_
      cases hget : s.replicaSets.get? ⟨j.ns, j.name⟩ with
      | none => exact .finished _
      | some rs => exact stage_apply hget
  · exact .quiet (.refl s) (.finished _)

/-- A turn over ConfigMaps looks up the first one. -/
lemma turn_link (hs : s.Consistent) {rs : ReplicaSet} (hget : j.replicaSet? s = some rs)
    (sum : Summary) {names : List String} (hsub : ∀ name ∈ names, name ∈ rs.configMaps) :
    j.Turn s ((Pass.link j.context j.ns rs sum names).commit? s)
      ((Pass.link j.context j.ns rs sum names).turn s).1
      ((Pass.link j.context j.ns rs sum names).turn s).2 := by
  cases names with
  | nil => exact .quiet (.refl s) (.finished _)
  | cons name names =>
    have hrest : ∀ other ∈ names, other ∈ rs.configMaps := by
      intro other hn
      exact hsub other (List.mem_cons_of_mem name hn)
    rw [Pass.link_cons]
    rcases s.perform_readConfigMap_cases ⟨j.ns, name⟩ with ⟨e, hp⟩ | hp | hp
    · rw [Pass.turn_call hp]
      exact .quiet (.refl s) (.finished _)
    · rw [Pass.turn_call hp]
      exact .quiet ⟨rfl, rfl, Nat.le_refl _⟩ (.finished _)
    · rw [Pass.turn_call hp]
      refine .quiet (.refl s) ?_
      change j.Stage s (Pass.handle j.context j.ns rs sum name names (s.configMap? ⟨j.ns, name⟩))
      have hhandled := Pass.handled j.context j.ns rs sum name names (s.configMap? ⟨j.ns, name⟩)
      generalize Pass.handle j.context j.ns rs sum name names (s.configMap? ⟨j.ns, name⟩) = rest
        at hhandled ⊢
      generalize hfound : s.configMap? ⟨j.ns, name⟩ = found at hhandled
      cases hhandled with
      | missing => exact .linking hget hrest
      | alreadyOwned => exact .linking hget hrest
      | dryRun => exact .linking hget hrest
      | noRecord => exact .finished _
      | write _ _ hr => exact .writing hget hrest hr (hs.tracks hfound)

/-- A turn that writes succeeds only if the ConfigMap is as it was read. -/
lemma turn_write {rs : ReplicaSet} (hget : j.replicaSet? s = some rs)
    {sum : Summary} {names : List String} (hsub : ∀ name ∈ names, name ∈ rs.configMaps)
    {name : String} {c : ConfigMap} {owner : OwnerReference} (hr : rs.ownerRecord = .ok owner)
    (hc : s.Tracks ⟨j.ns, name⟩ c) :
    j.Turn s (Pass.committed? (s.replaceConfigMap (c.withOwner owner)).2)
      (s.replaceConfigMap (c.withOwner owner)).1
      (Pass.resume (fun _ => Pass.link j.context j.ns rs sum names)
        (s.replaceConfigMap (c.withOwner owner)).2) := by
  have hrecord : j.record? s = some owner := by
    unfold record?
    rw [hget, Option.bind_some, hr]
    rfl
  generalize hrep : s.replaceConfigMap (c.withOwner owner) = r
  obtain ⟨t, a⟩ := r
  have hreplaced := Store.replaced_of_eq hrep
  rcases hreplaced.quiet_or_overwrite with ⟨hquiet, hno⟩ | ⟨k, hk, rfl, rfl⟩
  · cases a with
    | ok written => exact absurd rfl (hno written)
    | failed e => exact .quiet hquiet (.finished _)
    | stalled => exact .quiet hquiet (.finished _)
  · obtain ⟨hstored, _⟩ := hc.of_accepted (c.withOwner_resourceVersion owner) hc.key hreplaced
    obtain rfl : k = ⟨j.ns, name⟩ := (Metadata.storeKey_of_key hk).symm.trans hc.key
    have hlater : s.Later (s.overwrite ⟨j.ns, name⟩ (c.withOwner owner)) := .overwrite _ _ _
    have hkey : Pass.committed? (.ok ((c.withOwner owner).withVersion
        (some (Store.versionText (s.version + 1))))) = some ⟨j.ns, name⟩ :=
      congrArg some hc.key
    rw [hkey]
    exact .commit hstored hrecord ((Stage.linking hget hsub).later hlater)

/-- **One turn.**  Every turn of a pass keeps it at one of the stages, and does one of two things to
the store. -/
lemma Stage.turn (h : j.Stage s p) (hs : s.Consistent) :
    j.Turn s (p.commit? s) (p.turn s).1 (p.turn s).2 := by
  cases h with
  | fresh => exact turn_start j s
  | finished result => exact .quiet (.refl s) (.finished result)
  | linking hget hsub => exact turn_link hs hget _ hsub
  | writing hget hsub hr hc => exact turn_write hget hsub hr hc

/-- No pass goes through ConfigMaps by writing first. -/
lemma link_ne_write {ctx : Context} {ns : String} {rs : ReplicaSet} {sum : Summary}
    {names : List String} {copy : ConfigMap} {next : ConfigMap → Pass} :
    Pass.link ctx ns rs sum names ≠ .call (.replaceConfigMap copy) next := by
  cases names with
  | nil => exact nofun
  | cons name names => exact nofun

/-- A pass that looks up a ConfigMap and is to write next has found it, and writes what it found
with a record put among its owners. -/
lemma Stage.write_after_read {k : ObjectKey} {next : Option ConfigMap → Pass} {copy : ConfigMap}
    {next' : ConfigMap → Pass} (h : j.Stage s (.call (.readConfigMap k) next))
    (hw : ((Pass.call (.readConfigMap k) next).turn s).2 = .call (.replaceConfigMap copy) next') :
    ((Pass.call (.readConfigMap k) next).turn s).1 = s ∧ k.name ≠ "" ∧
      ∃ c owner, s.configMap? k = some c ∧ copy = c.withOwner owner := by
  generalize hp : Pass.call (.readConfigMap k) next = p at h hw ⊢
  cases h with
  | fresh =>
    unfold start Pass.reconcile at hp
    split at hp <;> exact nomatch hp
  | finished result => exact nomatch hp
  | writing => exact nomatch hp
  | @linking rs sum names hget hsub =>
    cases names with
    | nil => exact nomatch hp
    | cons name names =>
      obtain rfl : k = ⟨j.ns, name⟩ := Call.readConfigMap.inj (Pass.call.inj hp).1
      have hname : name ≠ "" :=
        ReplicaSet.ne_empty_of_mem_configMaps (hsub name List.mem_cons_self)
      rw [Pass.link_cons] at hw ⊢
      rcases s.perform_readConfigMap_cases ⟨j.ns, name⟩ with ⟨e, hread⟩ | hread | hread
      · rw [Pass.turn_call hread] at hw
        exact nomatch hw
      · rw [Pass.turn_call hread] at hw
        exact nomatch hw
      · rw [Pass.turn_call hread] at hw ⊢
        refine ⟨rfl, hname, ?_⟩
        change Pass.handle j.context j.ns rs sum name names (s.configMap? ⟨j.ns, name⟩) = _ at hw
        have hhandled := Pass.handled j.context j.ns rs sum name names (s.configMap? ⟨j.ns, name⟩)
        rw [hw] at hhandled
        generalize s.configMap? ⟨j.ns, name⟩ = found at hhandled ⊢
        generalize hrest : Pass.call (.replaceConfigMap copy) next' = rest at hhandled
        cases hhandled with
        | missing => exact absurd hrest.symm link_ne_write
        | alreadyOwned => exact absurd hrest.symm link_ne_write
        | dryRun => exact absurd hrest.symm link_ne_write
        | noRecord => exact nomatch hrest
        | @write c owner _ _ _ =>
          exact ⟨c, owner, rfl, Call.replaceConfigMap.inj (Pass.call.inj hrest).1⟩

end Job

end MountOwnership
