import Mathlib.Data.List.Nodup
import Mathlib.Tactic.Common
import MountOwnership.References

/-!
# The names a ReplicaSet mounts

A name set keeps its names twice: in order, and in a table for fast look-up.  As
long as both sides agree, inserting names one after the other gives their first
occurrences in order (`NameSet.addAll_keeps_firsts`).  So the ConfigMaps of a pod are
the names it mentions, each once, and none of them is empty.
-/

namespace MountOwnership

namespace NameSet

/-- Both sides of a name set hold the same names, and none of them is repeated. -/
structure Faithful (s : NameSet) : Prop where
  contains_iff : ∀ name, s.contains name = true ↔ name ∈ s.toList
  nodup : s.toList.Nodup

/-- The empty set holds no name on either side. -/
lemma faithful_empty : empty.Faithful where
  contains_iff name := by simp [contains, toList, empty]
  nodup := List.nodup_nil

/-- A name that is there is not appended. -/
lemma add_of_mem {s : NameSet} (hs : s.Faithful) {name : String} (h : name ∈ s.toList) :
    s.add name = (s, false) := by
  unfold add
  exact if_pos ((hs.contains_iff name).mpr h)

/-- A new name is appended on both sides. -/
lemma add_of_not_mem {s : NameSet} (hs : s.Faithful) {name : String} (h : name ∉ s.toList) :
    s.add name = (⟨s.order.push name, s.seen.insert name⟩, true) := by
  unfold add
  exact if_neg fun hc => h ((hs.contains_iff name).mp hc)

/-- Inserting a name that is there changes nothing. -/
lemma insert_of_mem {s : NameSet} (hs : s.Faithful) {name : String} (h : name ∈ s.toList) :
    s.insert name = s := congrArg Prod.fst (add_of_mem hs h)

/-- Inserting a new name puts it on both sides. -/
lemma insert_of_not_mem {s : NameSet} (hs : s.Faithful) {name : String} (h : name ∉ s.toList) :
    s.insert name = ⟨s.order.push name, s.seen.insert name⟩ :=
  congrArg Prod.fst (add_of_not_mem hs h)

/-- Inserting a new name appends it. -/
lemma toList_insert_of_not_mem {s : NameSet} (hs : s.Faithful) {name : String}
    (h : name ∉ s.toList) : (s.insert name).toList = s.toList ++ [name] := by
  rw [insert_of_not_mem hs h]
  exact Array.toList_push

/-- Inserting keeps both sides of a name set in agreement. -/
lemma Faithful.insert {s : NameSet} (hs : s.Faithful) (name : String) :
    (s.insert name).Faithful := by
  by_cases h : name ∈ s.toList
  · rwa [insert_of_mem hs h]
  · refine ⟨fun other => ?_, ?_⟩
    · rw [toList_insert_of_not_mem hs h, insert_of_not_mem hs h, List.mem_append,
        List.mem_singleton, ← hs.contains_iff other]
      unfold contains
      rw [Std.HashSet.contains_insert, Bool.or_eq_true, beq_iff_eq, eq_comm, or_comm]
    · rw [toList_insert_of_not_mem hs h, ← List.concat_eq_append]
      exact hs.nodup.concat h

/-- Inserting names one after the other keeps both sides in agreement. -/
lemma Faithful.insertAll {s : NameSet} (hs : s.Faithful) (names : List String) :
    (s.insertAll names).Faithful := by
  induction names generalizing s with
  | nil => exact hs
  | cons name names ih => exact ih (hs.insert name)

/-- Inserting names one after the other appends the first occurrences of the new ones. -/
lemma toList_insertAll {s : NameSet} (hs : s.Faithful) (names : List String) :
    (s.insertAll names).toList =
      s.toList ++ (names.filter fun name => !s.toList.contains name).eraseDups := by
  induction names generalizing s with
  | nil => simp [insertAll]
  | cons name names ih =>
    change ((s.insert name).insertAll names).toList = _
    rw [ih (hs.insert name)]
    by_cases h : name ∈ s.toList
    · rw [insert_of_mem hs h, List.filter_cons_of_neg (by simpa using h)]
    · rw [toList_insert_of_not_mem hs h, List.filter_cons_of_pos (by simpa using h),
        List.eraseDups_cons, List.filter_filter, List.append_assoc, List.singleton_append]
      congr 3
      apply List.filter_congr
      intro other _
      rw [List.contains_append, Bool.not_or, Bool.and_comm, List.contains_cons,
        List.contains_nil, Bool.or_false]

/-- Names that are inserted into the empty set leave their first occurrences. -/
lemma toList_insertAll_empty (names : List String) :
    (empty.insertAll names).toList = names.eraseDups := by
  have hnew : (names.filter fun name => !empty.toList.contains name) = names :=
    List.filter_eq_self.mpr fun _ _ => rfl
  rw [toList_insertAll faithful_empty, hnew]
  rfl

/-! ### What is said of each name -/

/-- A name is appended exactly if it was not there. -/
lemma snd_add {s : NameSet} (hs : s.Faithful) (name : String) :
    (s.add name).2 = !s.toList.contains name := by
  by_cases h : name ∈ s.toList
  · rw [add_of_mem hs h, List.contains_iff_mem.mpr h]
    rfl
  · have hnot : s.toList.contains name = false := by simpa using h
    rw [add_of_not_mem hs h, hnot]
    rfl

/-- After a name is inserted, it is there besides the names that were. -/
lemma mem_toList_insert {s : NameSet} (hs : s.Faithful) {name other : String} :
    other ∈ (s.insert name).toList ↔ other ∈ s.toList ∨ other = name := by
  by_cases h : name ∈ s.toList
  · rw [insert_of_mem hs h]
    constructor
    · exact Or.inl
    · rintro (hother | rfl)
      · exact hother
      · exact h
  · rw [toList_insert_of_not_mem hs h, List.mem_append, List.mem_singleton]

/-- What is said of names does not change what inserting them makes of the set. -/
lemma fst_addAll (s : NameSet) (names : List String) :
    (s.addAll names).1 = s.insertAll names := by
  induction names generalizing s with
  | nil => rfl
  | cons name names ih => exact ih (s.insert name)

/-- Of each name it is said whether it was neither there at the beginning nor came before. -/
lemma snd_addAll {s : NameSet} (hs : s.Faithful) (names : List String) :
    (s.addAll names).2 =
      names.mapIdx fun i name => !(s.toList ++ names.take i).contains name := by
  induction names generalizing s with
  | nil => rfl
  | cons name names ih =>
    have hstep : (s.addAll (name :: names)).2 =
        (s.add name).2 :: ((s.insert name).addAll names).2 := rfl
    have hearlier : ∀ i other, ((s.insert name).toList ++ names.take i).contains other =
        (s.toList ++ (name :: names).take (i + 1)).contains other := by
      intro i other
      rw [Bool.eq_iff_iff, List.contains_iff_mem, List.contains_iff_mem, List.take_succ_cons,
        List.mem_append, List.mem_append, List.mem_cons, mem_toList_insert hs, or_assoc]
    rw [hstep, snd_add hs, ih (hs.insert name), List.mapIdx_cons]
    simp only [hearlier, List.take_zero, List.append_nil]

/-- **First occurrences.**  Whatever names are inserted into the empty set, at every point both
sides of the set hold the same names, and none of them is repeated.  It is said of a name that it
was appended exactly if it came for the first time, and in the end the set has the names with all
but the first occurrence of each left out. -/
theorem addAll_keeps_firsts (names : List String) :
    (∀ n, (empty.addAll (names.take n)).1.Faithful) ∧
    ((empty.addAll names).2 = names.mapIdx fun i name => !(names.take i).contains name) ∧
    (empty.addAll names).1.toList = names.eraseDups := by
  refine ⟨fun n => ?_, ?_, ?_⟩
  · rw [fst_addAll]
    exact faithful_empty.insertAll (names.take n)
  · exact snd_addAll faithful_empty names
  · rw [fst_addAll]
    exact toList_insertAll_empty names

/-- A name that comes again is not appended. -/
example : (empty.addAll ["web", "db", "web"]).2 = [true, true, false] ∧
    (empty.addAll ["web", "db", "web"]).1.toList = ["web", "db"] := by
  constructor <;> cbv

end NameSet

namespace PodSpec

/-- The ConfigMaps of a pod are the first occurrences of the names it mentions. -/
lemma configMaps_eq_eraseDups (pod : PodSpec) : pod.configMaps = pod.mentions.eraseDups := by
  unfold configMaps
  exact NameSet.toList_insertAll_empty pod.mentions

/-- A pod lists each of its ConfigMaps once. -/
lemma nodup_configMaps (pod : PodSpec) : pod.configMaps.Nodup :=
  (NameSet.faithful_empty.insertAll pod.mentions).nodup

/-- A pod mounts a ConfigMap: one of its containers mounts a volume that shows it, and it has a
name. -/
def Mounts (pod : PodSpec) (name : String) : Prop :=
  name ≠ "" ∧ ∃ container ∈ pod.containers ++ pod.initContainers, ∃ volume ∈ pod.volumes,
    volume.name ∈ container.mounts ∧ volume.configMap = some name

/-- The ConfigMaps of a pod are those that it mounts. -/
lemma mem_configMaps_iff {pod : PodSpec} {name : String} :
    name ∈ pod.configMaps ↔ pod.Mounts name := by
  rw [configMaps_eq_eraseDups, List.mem_eraseDups]
  unfold mentions mounted Mounts
  simp only [List.mem_flatMap, List.mem_filter, List.mem_filterMap, beq_iff_eq]
  constructor
  · rintro ⟨container, hcontainer, mount, hmount, ⟨volume, ⟨hvolume, rfl⟩, hsource⟩, hne⟩
    exact ⟨by simpa using hne, container, hcontainer, volume, hvolume, hmount, hsource⟩
  · rintro ⟨hne, container, hcontainer, volume, hvolume, hmount, hsource⟩
    exact ⟨container, hcontainer, volume.name, hmount, ⟨volume, ⟨hvolume, rfl⟩, hsource⟩,
      by simpa using hne⟩

/-- No ConfigMap of a pod is without a name. -/
lemma ne_empty_of_mem_configMaps {pod : PodSpec} {name : String} (h : name ∈ pod.configMaps) :
    name ≠ "" :=
  (mem_configMaps_iff.mp h).1

end PodSpec

namespace ReplicaSet

/-- The ConfigMaps of a ReplicaSet are the first occurrences of the names its pods mention. -/
lemma configMaps_eq_eraseDups (rs : ReplicaSet) :
    rs.configMaps = ((rs.podSpec?.map PodSpec.mentions).getD []).eraseDups := by
  unfold configMaps
  cases rs.podSpec? with
  | none => rfl
  | some pod => exact pod.configMaps_eq_eraseDups

/-- A ReplicaSet lists each of its ConfigMaps once. -/
lemma nodup_configMaps (rs : ReplicaSet) : rs.configMaps.Nodup := by
  unfold configMaps
  cases rs.podSpec? with
  | none => exact List.nodup_nil
  | some pod => exact pod.nodup_configMaps

/-- A ReplicaSet lists no ConfigMap without a name. -/
lemma ne_empty_of_mem_configMaps {rs : ReplicaSet} {name : String}
    (h : name ∈ rs.configMaps) : name ≠ "" := by
  unfold configMaps at h
  cases hpod : rs.podSpec? with
  | none => simp [hpod] at h
  | some pod =>
    rw [hpod] at h
    exact PodSpec.ne_empty_of_mem_configMaps h

end ReplicaSet

end MountOwnership
