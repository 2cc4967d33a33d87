import MountOwnership.Proofs.Cluster.Reachable

/-!
# Copies of stored ConfigMaps

A ConfigMap that was read is a copy, and the store goes on without it.  No version is
given out twice, so the version of a copy tells for good whether the store still holds
what was read (`Store.Tracks`).  A replace that rests on a copy is carried out only if
nothing was written in between (`Store.Tracks.of_accepted`); otherwise it is refused
and leaves every object as it is (`Store.NewerThan.refused`).
-/

namespace MountOwnership

namespace Store

variable {s t : Store} {k : ObjectKey} {c copy : ConfigMap} {n : Nat}

/-- A write on the ground of a version is in date exactly if this is the stored version. -/
lemma isStale_some_eq_false_iff {v : String} {stored : Option String} :
    isStale (some v) stored = false ↔ stored = some v := by
  unfold isStale
  rw [Option.isSome_some, Bool.true_and, bne_eq_false_iff_eq]
  exact eq_comm

/-- The ConfigMap was read under a key from this store or an earlier one: it carries a version that
was given out, and whatever is stored under the key with this version is the same. -/
structure Tracks (s : Store) (k : ObjectKey) (c : ConfigMap) : Prop where
  key : c.metadata.storeKey = k
  version : ∃ n, n ≤ s.version ∧ c.metadata.resourceVersion = some (versionText n)
  same : ∀ stored, s.configMap? k = some stored →
    stored.metadata.resourceVersion = c.metadata.resourceVersion → stored = c

/-- What is read from a consistent store is tracked. -/
lemma Consistent.tracks (hs : s.Consistent) (hget : s.configMap? k = some c) : s.Tracks k c where
  key := hs.configMap_key hget
  version := by
    obtain ⟨n, _, hle, hv⟩ := hs.configMap_version hget
    exact ⟨n, hle, hv⟩
  same stored hget' _ := Option.some.inj (hget'.symm.trans hget)

/-- A copy is tracked however the store goes on. -/
lemma Tracks.later (h : s.Tracks k c) (hst : s.Later t) : t.Tracks k c where
  key := h.key
  version := by
    obtain ⟨n, hle, hv⟩ := h.version
    exact ⟨n, Nat.le_trans hle hst.version_le, hv⟩
  same stored hget hv := by
    rcases hst.configMap?_cases k with hkept | ⟨c', m, hget', hv', hlt, _⟩
    · exact h.same stored (hkept.symm.trans hget) hv
    · -- what was written since carries a version that the copy cannot have
      obtain ⟨n, hle, hvc⟩ := h.version
      obtain rfl := Option.some.inj (hget'.symm.trans hget)
      have hnm : n = m :=
        versionText_injective (Option.some.inj (hvc.symm.trans (hv.symm.trans hv')))
      omega

/-- A replace that rests on a tracked copy is carried out only if the copy is what is stored. -/
lemma Tracks.of_accepted (h : s.Tracks k c) (hrv : copy.metadata.resourceVersion =
    c.metadata.resourceVersion) (hkey : copy.metadata.storeKey = k) {written : ConfigMap}
    (hr : s.Replaced copy t (.ok written)) : s.configMap? k = some c ∧ t = s.overwrite k copy := by
  generalize ha : Answer.ok written = a at hr
  cases hr with
  | @accepted k' stored hk _ _ hget hv =>
    obtain rfl : k' = k := (Metadata.storeKey_of_key hk).symm.trans hkey
    obtain ⟨n, _, hvc⟩ := h.version
    have hsame : stored.metadata.resourceVersion = c.metadata.resourceVersion := by
      rw [hrv, hvc] at hv
      exact (isStale_some_eq_false_iff.mp hv).trans hvc.symm
    obtain rfl := h.same stored hget hsame
    exact ⟨hget, rfl⟩
  | _ => exact nomatch ha

/-! ### Outdated copies -/

/-- The ConfigMap of a key carries a version after a given one. -/
def NewerThan (s : Store) (k : ObjectKey) (n : Nat) : Prop :=
  ∃ c m, s.configMap? k = some c ∧ c.metadata.resourceVersion = some (versionText m) ∧ n < m

/-- A ConfigMap that was just stored carries a version after all that were given out. -/
lemma newerThan_put (hn : n ≤ s.version) (k : ObjectKey) (c : ConfigMap) :
    (s.put k c).NewerThan k n :=
  ⟨_, s.version + 1, (s.put_configMap? k k c).trans (if_pos rfl), rfl, Nat.lt_succ_of_le hn⟩

/-- A ConfigMap with a newer version is never followed by one with an older version. -/
lemma NewerThan.later (h : s.NewerThan k n) (hn : n ≤ s.version) (hst : s.Later t) :
    t.NewerThan k n := by
  obtain ⟨c, m, hget, hv, hlt⟩ := h
  rcases hst.configMap?_cases k with hkept | ⟨c', m', hget', hv', hlt', _⟩
  · exact ⟨c, m, hkept.trans hget, hv, hlt⟩
  · exact ⟨c', m', hget', hv', Nat.lt_of_le_of_lt hn hlt'⟩

/-- How a store answers a replace that rests on an outdated copy: a copy without a namespace is no
valid request, and all others conflict, unless replaces never complete. -/
def Refusal (s : Store) (c : ConfigMap) (a : Answer ConfigMap) : Prop :=
  if c.metadata.ns = none then a = .failed (.invalidRequest .noNamespace)
  else if s.faults.stallReplaces = true then a = .stalled
  else ∃ message, a = .failed (.conflict message)

/-- A replace that rests on an outdated copy leaves the objects alone, and is refused. -/
lemma NewerThan.refused (h : s.NewerThan k n) (hkey : copy.metadata.storeKey = k)
    (hv : copy.metadata.resourceVersion = some (versionText n)) (hname : copy.metadata.name ≠ none)
    {a : Answer ConfigMap} (hr : s.Replaced copy t a) : s.Quiet t ∧ s.Refusal copy a := by
  obtain ⟨stored, m, hget, hvm, hlt⟩ := h
  have hns : ∀ {k'}, copy.metadata.key = .ok k' → k' = k ∧ copy.metadata.ns ≠ none := by
    intro k' hk
    refine ⟨(Metadata.storeKey_of_key hk).symm.trans hkey, fun hno => ?_⟩
    simp [Metadata.key, hno] at hk
  unfold Refusal
  cases hr with
  | invalid hk =>
    cases hno : copy.metadata.ns with
    | none =>
      simp only [Metadata.key, hno] at hk
      obtain rfl := Except.error.inj hk
      exact ⟨.refl s, by simp⟩
    | some ns =>
      obtain ⟨name, hsome⟩ := Option.ne_none_iff_exists'.mp hname
      simp [Metadata.key, hno, hsome] at hk
  | stalled hk hf =>
    rw [if_neg (hns hk).2, if_pos hf]
    exact ⟨⟨rfl, rfl, Nat.le_refl _⟩, rfl⟩
  | injected hk hf =>
    rw [if_neg (hns hk).2, if_neg (by simp [hf])]
    exact ⟨⟨rfl, rfl, Nat.le_refl _⟩, _, rfl⟩
  | absent hk _ _ hno =>
    obtain ⟨rfl, _⟩ := hns hk
    exact nomatch hget.symm.trans hno
  | stale hk hf =>
    rw [if_neg (hns hk).2, if_neg (by simp [hf])]
    exact ⟨⟨rfl, rfl, Nat.le_succ _⟩, _, rfl⟩
  | accepted hk _ _ hget' hfresh =>
    obtain ⟨rfl, _⟩ := hns hk
    obtain rfl := Option.some.inj (hget.symm.trans hget')
    rw [hv, hvm] at hfresh
    have hmn : m = n :=
      versionText_injective (Option.some.inj (isStale_some_eq_false_iff.mp hfresh))
    omega

end Store

end MountOwnership
