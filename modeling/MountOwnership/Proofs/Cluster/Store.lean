import Mathlib.Tactic.Common
import MountOwnership.Cluster.Store
import MountOwnership.Proofs.Ownership

/-!
# What a store does to its objects

Every change of a ConfigMap in a store is one operation, `Store.put`: it uses up
the next version and stores the ConfigMap under it.  All else that a call or a
fault does leaves the objects alone (`Store.Quiet`).  So each property of stores
is shown for these two kinds of steps, and holds for every call.

`Store.Replaced` lists the ways in which a replace can end, and `Store.perform_cases`
tells the two kinds of calls apart.  Where calls are answered (`Store.Legible`,
`Store.Writable`), they do what they are meant to.
-/

namespace MountOwnership

/-- The key of the ConfigMap that a call is to replace, if it is a replace and the key can be
built. -/
def Call.replacedKey? : Call → Option ObjectKey
  | .replaceConfigMap c => c.metadata.key.toOption
  | _ => none

/-- A replace is about the key of the ConfigMap that it carries. -/
lemma Call.replacedKey?_replace_eq_some_iff {c : ConfigMap} {k : ObjectKey} :
    (Call.replaceConfigMap c).replacedKey? = some k ↔ c.metadata.key = .ok k := by
  change c.metadata.key.toOption = some k ↔ _
  cases c.metadata.key with
  | error e => exact ⟨nofun, nofun⟩
  | ok k' => exact ⟨fun h => congrArg Except.ok (Option.some.inj h), fun h => by cases h; rfl⟩

namespace Store

/-- Different versions have different texts. -/
lemma versionText_injective {n m : Nat} (h : versionText n = versionText m) : n = m := by
  have hdigits : Nat.toDigits 10 n = Nat.toDigits 10 m := by
    rw [← Nat.toList_repr, ← Nat.toList_repr]
    exact congrArg String.toList h
  rw [← Nat.ofDigitChars_ten_toDigits (n := n), hdigits, Nat.ofDigitChars_ten_toDigits]

/-! ### The two kinds of steps -/

/-- Store a ConfigMap under the next version. -/
def put (s : Store) (k : ObjectKey) (c : ConfigMap) : Store :=
  { s with
    version := s.version + 1
    configMaps := s.configMaps.insert k (c.withVersion (some (versionText (s.version + 1)))) }

/-- A ConfigMap that is put into a store is found with a new version, and no other one changes. -/
lemma put_configMap? (s : Store) (k k' : ObjectKey) (c : ConfigMap) :
    (s.put k c).configMap? k' =
      if k = k' then some (c.withVersion (some (versionText (s.version + 1))))
      else s.configMap? k' := by
  unfold configMap? put
  exact Table.get?_insert _ _ _ _

/-- One store has the objects of another, and may have used up more versions. -/
structure Quiet (s t : Store) : Prop where
  replicaSets_eq : t.replicaSets = s.replicaSets
  configMaps_eq : t.configMaps = s.configMaps
  version_le : s.version ≤ t.version

/-- Nothing is the least that can be done to a store. -/
lemma Quiet.refl (s : Store) : s.Quiet s := ⟨rfl, rfl, Nat.le_refl _⟩

/-- What is only noted changes no ConfigMap. -/
lemma Quiet.configMap?_eq {s t : Store} (h : s.Quiet t) (k : ObjectKey) :
    t.configMap? k = s.configMap? k := by
  unfold configMap?
  rw [h.configMaps_eq]

/-- Adding a ConfigMap stores it under its own key. -/
lemma addConfigMap_eq_put (s : Store) (c : ConfigMap) :
    s.addConfigMap c = s.put c.metadata.storeKey c := rfl

/-- A touch stores the ConfigMap of its key anew, if there is one. -/
lemma touch_cases (s : Store) (k : ObjectKey) :
    (∃ c, s.configMap? k = some c ∧ s.touch k = s.put k c) ∨
      (s.configMap? k = none ∧ s.Quiet (s.touch k)) := by
  unfold touch configMap?
  dsimp only
  cases s.configMaps.get? k with
  | none => exact Or.inr ⟨rfl, rfl, rfl, Nat.le_succ _⟩
  | some c => exact Or.inl ⟨c, rfl, rfl⟩

/-! ### Replacing a ConfigMap -/

/-- The store with a replace of a name recorded. -/
def noted (s : Store) (name : String) : Store :=
  { s with replaceCalls := s.replaceCalls ++ [name] }

/-- The store after a replace that was carried out. -/
def overwrite (s : Store) (k : ObjectKey) (c : ConfigMap) : Store := (s.noted k.name).put k c

/-- The ways in which a replace can end, with the store and the answer. -/
inductive Replaced (s : Store) (c : ConfigMap) : Store → Answer ConfigMap → Prop
  /-- The ConfigMap has no key. -/
  | invalid {e : ClusterError} (hk : c.metadata.key = .error e) : Replaced s c s (.failed e)
  /-- The call never completes. -/
  | stalled {k : ObjectKey} (hk : c.metadata.key = .ok k) (hf : s.faults.stallReplaces = true) :
      Replaced s c (s.noted k.name).stall .stalled
  /-- A conflict is injected. -/
  | injected {k : ObjectKey} (hk : c.metadata.key = .ok k) (hf : s.faults.stallReplaces = false)
      (hc : 0 < s.faults.conflicts) :
      Replaced s c
        { s.noted k.name with faults := { s.faults with conflicts := s.faults.conflicts - 1 } }
        (.failed (conflict k.name "injected conflict"))
  /-- There is no such ConfigMap. -/
  | absent {k : ObjectKey} (hk : c.metadata.key = .ok k) (hf : s.faults.stallReplaces = false)
      (hc : s.faults.conflicts = 0) (hget : s.configMap? k = none) :
      Replaced s c { s.noted k.name with version := s.version + 1 }
        (.failed (.api ("configmaps \"" ++ k.name ++ "\" not found")))
  /-- The ConfigMap was written since the copy was read. -/
  | stale {k : ObjectKey} {stored : ConfigMap} (hk : c.metadata.key = .ok k)
      (hf : s.faults.stallReplaces = false) (hc : s.faults.conflicts = 0)
      (hget : s.configMap? k = some stored)
      (hv : isStale c.metadata.resourceVersion stored.metadata.resourceVersion = true) :
      Replaced s c { s.noted k.name with version := s.version + 1 }
        (.failed (conflict k.name "the object has been modified"))
  /-- The ConfigMap is written. -/
  | accepted {k : ObjectKey} {stored : ConfigMap} (hk : c.metadata.key = .ok k)
      (hf : s.faults.stallReplaces = false) (hc : s.faults.conflicts = 0)
      (hget : s.configMap? k = some stored)
      (hv : isStale c.metadata.resourceVersion stored.metadata.resourceVersion = false) :
      Replaced s c (s.overwrite k c)
        (.ok (c.withVersion (some (versionText (s.version + 1)))))

/-- Every replace ends in one of the listed ways. -/
lemma replaced (s : Store) (c : ConfigMap) :
    s.Replaced c (s.replaceConfigMap c).1 (s.replaceConfigMap c).2 := by
  unfold replaceConfigMap
  cases hk : c.metadata.key with
  | error e => exact .invalid hk
  | ok k =>
    dsimp only
    by_cases hf : s.faults.stallReplaces = true
    · rw [if_pos hf]
      exact .stalled hk hf
    · have hf' : s.faults.stallReplaces = false := by simpa using hf
      rw [if_neg hf]
      by_cases hc : 0 < s.faults.conflicts
      · rw [if_pos hc]
        exact .injected hk hf' hc
      · have hc' : s.faults.conflicts = 0 := Nat.eq_zero_of_not_pos hc
        rw [if_neg hc]
        unfold commit
        dsimp only
        cases hget : s.configMaps.get? k with
        | none => exact .absent hk hf' hc' hget
        | some stored =>
          dsimp only
          by_cases hv : isStale c.metadata.resourceVersion stored.metadata.resourceVersion = true
          · rw [if_pos hv]
            exact .stale hk hf' hc' hget hv
          · rw [if_neg hv]
            exact .accepted hk hf' hc' hget (by simpa using hv)

/-- A replace with a known end has ended in one of the listed ways. -/
lemma replaced_of_eq {s t : Store} {c : ConfigMap} {a : Answer ConfigMap}
    (h : s.replaceConfigMap c = (t, a)) : s.Replaced c t a := by
  have hrep := s.replaced c
  rwa [h] at hrep

/-- A replace that neither stalls nor meets an injected conflict is carried out if it can be. -/
lemma replaceConfigMap_eq_commit {s : Store} {c : ConfigMap} {k : ObjectKey}
    (hk : c.metadata.key = .ok k) (hf : s.faults.stallReplaces = false)
    (hc : s.faults.conflicts = 0) : s.replaceConfigMap c = (s.noted k.name).commit k c := by
  unfold replaceConfigMap
  rw [hk]
  exact (if_neg (by simp [hf])).trans (if_neg (by simp [hc]))

/-- A replace ends in the way whose conditions are met. -/
lemma Replaced.eq {s t : Store} {c : ConfigMap} {a : Answer ConfigMap} (h : s.Replaced c t a) :
    s.replaceConfigMap c = (t, a) := by
  have hcommit : ∀ k found, s.configMap? k = found → (s.noted k.name).configMaps.get? k = found :=
    fun _ _ hget => hget
  cases h with
  | invalid hk =>
    unfold replaceConfigMap
    rw [hk]
  | stalled hk hf =>
    unfold replaceConfigMap
    rw [hk]
    exact if_pos hf
  | injected hk hf hc =>
    unfold replaceConfigMap
    rw [hk]
    exact (if_neg (by simp [hf])).trans (if_pos hc)
  | absent hk hf hc hget =>
    rw [replaceConfigMap_eq_commit hk hf hc, commit, hcommit _ _ hget]
    rfl
  | stale hk hf hc hget hv =>
    rw [replaceConfigMap_eq_commit hk hf hc, commit, hcommit _ _ hget]
    exact if_pos hv
  | accepted hk hf hc hget hv =>
    rw [replaceConfigMap_eq_commit hk hf hc, commit, hcommit _ _ hget]
    exact if_neg (by simp [hv])

/-- A replace leaves the objects alone, unless it is carried out. -/
lemma Replaced.quiet_or_overwrite {s t : Store} {c : ConfigMap} {a : Answer ConfigMap}
    (h : s.Replaced c t a) :
    (s.Quiet t ∧ ∀ stored, a ≠ .ok stored) ∨
      ∃ k, c.metadata.key = .ok k ∧ t = s.overwrite k c ∧
        a = .ok (c.withVersion (some (versionText (s.version + 1)))) := by
  cases h with
  | invalid => exact Or.inl ⟨Quiet.refl s, fun _ => nofun⟩
  | stalled => exact Or.inl ⟨⟨rfl, rfl, Nat.le_refl _⟩, fun _ => nofun⟩
  | injected => exact Or.inl ⟨⟨rfl, rfl, Nat.le_refl _⟩, fun _ => nofun⟩
  | absent => exact Or.inl ⟨⟨rfl, rfl, Nat.le_succ _⟩, fun _ => nofun⟩
  | stale => exact Or.inl ⟨⟨rfl, rfl, Nat.le_succ _⟩, fun _ => nofun⟩
  | accepted hk => exact Or.inr ⟨_, hk, rfl, rfl⟩

/-! ### Calls -/

/-- A look-up of a ReplicaSet fails, or finds what is stored. -/
lemma perform_readReplicaSet_cases (s : Store) (k : ObjectKey) :
    (∃ e, s.perform (.readReplicaSet k) = (s, .failed e)) ∨
      s.perform (.readReplicaSet k) = (s, .ok (s.replicaSets.get? k)) := by
  unfold perform readReplicaSet
  dsimp only
  by_cases h : s.faults.replicaSetsUnreadable = true
  · rw [if_pos h]
    exact Or.inl ⟨_, rfl⟩
  · rw [if_neg h]
    exact Or.inr rfl

/-- A look-up of a ConfigMap fails, never completes, or finds what is stored. -/
lemma perform_readConfigMap_cases (s : Store) (k : ObjectKey) :
    (∃ e, s.perform (.readConfigMap k) = (s, .failed e)) ∨
      s.perform (.readConfigMap k) = (s.stall, .stalled) ∨
      s.perform (.readConfigMap k) = (s, .ok (s.configMap? k)) := by
  unfold perform readConfigMap
  dsimp only
  by_cases h : s.faults.unreadable.contains k.name = true
  · rw [if_pos h]
    exact Or.inl ⟨_, rfl⟩
  · rw [if_neg h]
    by_cases hstall : s.faults.stallReads = true
    · rw [if_pos hstall]
      exact Or.inr (Or.inl rfl)
    · rw [if_neg hstall]
      exact Or.inr (Or.inr rfl)

/-- A look-up of a ReplicaSet leaves the objects alone. -/
lemma quiet_readReplicaSet (s : Store) (k : ObjectKey) :
    s.Quiet (s.perform (.readReplicaSet k)).1 := by
  rcases s.perform_readReplicaSet_cases k with ⟨e, hp⟩ | hp <;> rw [hp] <;> exact .refl s

/-- A look-up of a ConfigMap leaves the objects alone. -/
lemma quiet_readConfigMap (s : Store) (k : ObjectKey) :
    s.Quiet (s.perform (.readConfigMap k)).1 := by
  rcases s.perform_readConfigMap_cases k with ⟨e, hp⟩ | hp | hp <;> rw [hp]
  · exact .refl s
  · exact ⟨rfl, rfl, Nat.le_refl _⟩
  · exact .refl s

/-- A call leaves the objects alone, unless it is a replace that is carried out. -/
lemma perform_cases (s : Store) (c : Call) :
    s.Quiet (s.perform c).1 ∨ ∃ k copy, copy.metadata.key = .ok k ∧
      (s.perform c).1 = s.overwrite k copy := by
  cases c with
  | readReplicaSet k => exact Or.inl (s.quiet_readReplicaSet k)
  | readConfigMap k => exact Or.inl (s.quiet_readConfigMap k)
  | replaceConfigMap copy =>
    rcases (s.replaced copy).quiet_or_overwrite with ⟨hquiet, _⟩ | ⟨k, hk, hs, _⟩
    · exact Or.inl hquiet
    · exact Or.inr ⟨k, copy, hk, hs⟩

/-- A call records the name of the ConfigMap that it is to replace, however it is answered. -/
lemma perform_replaceCalls (s : Store) (c : Call) :
    (s.perform c).1.replaceCalls =
      s.replaceCalls ++ (c.replacedKey?.map ObjectKey.name).toList := by
  cases c with
  | readReplicaSet k =>
    have hnone : (Call.readReplicaSet k).replacedKey? = none := rfl
    rcases s.perform_readReplicaSet_cases k with ⟨e, hp⟩ | hp <;> simp [hp, hnone]
  | readConfigMap k =>
    have hnone : (Call.readConfigMap k).replacedKey? = none := rfl
    rcases s.perform_readConfigMap_cases k with ⟨e, hp⟩ | hp | hp <;> simp [hp, hnone, stall]
  | replaceConfigMap copy =>
    have hrep := s.replaced copy
    change (s.replaceConfigMap copy).1.replaceCalls =
      s.replaceCalls ++ (copy.metadata.key.toOption.map ObjectKey.name).toList
    generalize s.replaceConfigMap copy = r at hrep ⊢
    obtain ⟨t, a⟩ := r
    cases hrep with
    | invalid hk =>
      rw [hk]
      exact (List.append_nil _).symm
    | stalled hk =>
      rw [hk]
      rfl
    | injected hk =>
      rw [hk]
      rfl
    | absent hk =>
      rw [hk]
      rfl
    | stale hk =>
      rw [hk]
      rfl
    | accepted hk =>
      rw [hk]
      rfl

/-! ### Calls that are answered -/

/-- A look-up of a ReplicaSet has a result exactly when the store does not fail it, and then finds
what is stored. -/
lemma perform_readReplicaSet_eq_ok_iff {s t : Store} {k : ObjectKey}
    {found : Option ReplicaSet} : s.perform (.readReplicaSet k) = (t, .ok found) ↔
      s.faults.replicaSetsUnreadable = false ∧ t = s ∧ found = s.replicaSets.get? k := by
  unfold perform readReplicaSet
  dsimp only
  by_cases hu : s.faults.replicaSetsUnreadable = true
  · rw [if_pos hu]
    exact ⟨nofun, fun h => nomatch hu.symm.trans h.1⟩
  · rw [if_neg hu]
    constructor
    · rintro ⟨⟩
      exact ⟨by simpa using hu, rfl, rfl⟩
    · rintro ⟨_, rfl, rfl⟩
      rfl

/-- Look-ups of the ConfigMaps of a name are answered. -/
structure Legible (s : Store) (name : String) : Prop where
  not_unreadable : s.faults.unreadable.contains name = false
  not_stallReads : s.faults.stallReads = false

/-- Only the faults tell which look-ups are answered. -/
lemma Legible.congr {s t : Store} {name : String} (h : s.Legible name)
    (hf : t.faults = s.faults) : t.Legible name where
  not_unreadable := hf ▸ h.not_unreadable
  not_stallReads := hf ▸ h.not_stallReads

/-- A look-up of a ConfigMap has a result exactly when it is answered, and then finds what is
stored. -/
lemma perform_readConfigMap_eq_ok_iff {s t : Store} {k : ObjectKey} {found : Option ConfigMap} :
    s.perform (.readConfigMap k) = (t, .ok found) ↔
      s.Legible k.name ∧ t = s ∧ found = s.configMap? k := by
  unfold perform readConfigMap configMap?
  dsimp only
  by_cases hu : s.faults.unreadable.contains k.name = true
  · rw [if_pos hu]
    exact ⟨nofun, fun h => nomatch hu.symm.trans h.1.not_unreadable⟩
  · rw [if_neg hu]
    by_cases hstall : s.faults.stallReads = true
    · rw [if_pos hstall]
      exact ⟨nofun, fun h => nomatch hstall.symm.trans h.1.not_stallReads⟩
    · rw [if_neg hstall]
      constructor
      · rintro ⟨⟩
        exact ⟨⟨by simpa using hu, by simpa using hstall⟩, rfl, rfl⟩
      · rintro ⟨_, rfl, rfl⟩
        rfl

/-- Replaces are answered, and no conflict is injected. -/
structure Writable (s : Store) : Prop where
  not_stallReplaces : s.faults.stallReplaces = false
  conflicts_eq : s.faults.conflicts = 0

/-- Where replaces are answered, a ConfigMap that carries the stored version is written. -/
lemma Writable.perform_replaceConfigMap {s : Store} (h : s.Writable) {k : ObjectKey}
    {c stored : ConfigMap} (hk : c.metadata.key = .ok k) (hget : s.configMap? k = some stored)
    (hv : c.metadata.resourceVersion = stored.metadata.resourceVersion) :
    s.perform (.replaceConfigMap c) =
      (s.overwrite k c, .ok (c.withVersion (some (versionText (s.version + 1))))) := by
  refine (Replaced.accepted hk h.not_stallReplaces h.conflicts_eq hget ?_).eq
  simp [isStale, hv]

end Store

end MountOwnership
