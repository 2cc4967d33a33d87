import Mathlib.Data.List.Forall2
import Mathlib.Data.List.Perm.Basic
import Mathlib.Logic.Relation
import MountOwnership.Proofs.References

/-!
# Pods that are rearranged

Which ConfigMaps a pod lists depends on what it declares, and only their order depends on the
order of the declarations.  A pod that is rearranged in any way mounts the same ConfigMaps
(`PodSpec.Rearranges.mounts_iff`), and so it lists the same names in some order.

The order depends on less than the whole pod.  Each mount only sees the volumes of its name,
so it does not matter where volumes of different names stand, or what other volumes there are
(`PodSpec.configMaps_congr_volumes`).  Containers that come last add names at the end
(`PodSpec.prefix_configMaps`).
-/

namespace MountOwnership

/-! ### Lists -/

section Lists

variable {α β : Type}

/-- The second list is the first with further members of a kind put in anywhere. -/
inductive Padded (extra : α → Prop) : List α → List α → Prop
  | nil : Padded extra [] []
  | keep {l l' : List α} (a : α) (h : Padded extra l l') : Padded extra (a :: l) (a :: l')
  | add {l l' : List α} {a : α} (ha : extra a) (h : Padded extra l l') : Padded extra l (a :: l')

/-- What is put in can be left out again. -/
lemma Padded.filter_eq {extra : α → Prop} {l l' : List α} (h : Padded extra l l') {p : α → Bool}
    (hp : ∀ a, extra a → p a = false) : l'.filter p = l.filter p := by
  induction h with
  | nil => rfl
  | keep a _ ih => rw [List.filter_cons, List.filter_cons, ih]
  | add ha _ ih => rw [List.filter_cons_of_neg (by simp [hp _ ha]), ih]

/-- Of members that are told apart by their keys, at most one has a given key. -/
lemma length_filter_key_le_one [DecidableEq β] {f : α → β} {l : List α} (h : (l.map f).Nodup)
    (b : β) : (l.filter fun a => f a == b).length ≤ 1 := by
  have hcount : (l.map f).count b ≤ 1 := List.nodup_iff_count_le_one.mp h b
  rwa [List.count_eq_countP, List.countP_map, List.countP_eq_length_filter] at hcount

/-- A list of at most one member has no other order. -/
lemma eq_of_perm_of_length_le_one {l l' : List α} (h : l'.Perm l) (hl : l.length ≤ 1) : l' = l := by
  match l, hl with
  | [], _ => exact List.perm_nil.mp h
  | [a], _ => exact List.perm_singleton.mp h

/-- Lists whose members correspond have a member of a kind together. -/
lemma exists_mem_iff_of_forall₂ {R : α → β → Prop} {P : α → Prop} {Q : β → Prop} {l : List α}
    {l' : List β} (h : List.Forall₂ R l l') (hR : ∀ a b, R a b → (P a ↔ Q b)) :
    (∃ a ∈ l, P a) ↔ ∃ b ∈ l', Q b := by
  induction h with
  | nil => simp
  | cons hab _ ih =>
    simp only [List.mem_cons, exists_eq_or_imp]
    rw [hR _ _ hab, ih]

end Lists

/-- Names that were inserted stay in front of those that come later. -/
lemma NameSet.toList_prefix_insertAll {s : NameSet} (hs : s.Faithful) (names : List String) :
    s.toList <+: (s.insertAll names).toList := by
  rw [toList_insertAll hs]
  exact List.prefix_append _ _

namespace PodSpec

variable {pod pod' : PodSpec} {name : String}

/-! ### Volumes -/

/-- No container of a pod mounts volumes of the name of this one. -/
def Unmounted (pod : PodSpec) (volume : Volume) : Prop :=
  ∀ container ∈ pod.containers ++ pod.initContainers, volume.name ∉ container.mounts

/-- Only the volumes of the names that are mounted count, and for each name their order. -/
lemma configMaps_congr_volumes {volumes : List Volume}
    (h : ∀ container ∈ pod.containers ++ pod.initContainers, ∀ mount ∈ container.mounts,
      (volumes.filter fun v => v.name == mount) = pod.volumes.filter fun v => v.name == mount) :
    { pod with volumes := volumes }.configMaps = pod.configMaps := by
  have hmentions : { pod with volumes := volumes }.mentions = pod.mentions := by
    unfold mentions
    refine List.flatMap_congr fun container hcontainer => ?_
    refine List.flatMap_congr fun mount hmount => ?_
    unfold mounted
    dsimp only
    rw [h container hcontainer mount hmount]
  unfold configMaps
  rw [hmentions]

/-- Volumes of different names may stand in any order. -/
lemma configMaps_of_perm_volumes {volumes : List Volume} (h : volumes.Perm pod.volumes)
    (hnames : (pod.volumes.map Volume.name).Nodup) :
    { pod with volumes := volumes }.configMaps = pod.configMaps := by
  refine configMaps_congr_volumes fun _ _ mount _ => ?_
  exact eq_of_perm_of_length_le_one (h.filter _) (length_filter_key_le_one hnames mount)

/-- Volumes that no container mounts may be added anywhere. -/
lemma configMaps_of_padded {volumes : List Volume} (h : Padded pod.Unmounted pod.volumes volumes) :
    { pod with volumes := volumes }.configMaps = pod.configMaps := by
  refine configMaps_congr_volumes fun container hcontainer mount hmount => ?_
  refine h.filter_eq fun volume hunmounted => ?_
  rw [beq_eq_false_iff_ne]
  rintro rfl
  exact hunmounted container hcontainer hmount

/-! ### Rearrangements -/

/-- One rearrangement of a pod. -/
inductive Rearranges (pod : PodSpec) : PodSpec → Prop
  /-- Its volumes in another order. -/
  | volumes {volumes : List Volume} (h : volumes.Perm pod.volumes) :
      Rearranges pod { pod with volumes := volumes }
  /-- Its containers in another order, or in the other one of the two lists. -/
  | containers {containers initContainers : List Container}
      (h : (containers ++ initContainers).Perm (pod.containers ++ pod.initContainers)) :
      Rearranges pod { pod with containers := containers, initContainers := initContainers }
  /-- The mounts of its containers in another order. -/
  | mounts {containers initContainers : List Container}
      (h : List.Forall₂ (fun c c' => c.mounts.Perm c'.mounts) containers pod.containers)
      (hinit : List.Forall₂ (fun c c' => c.mounts.Perm c'.mounts) initContainers
        pod.initContainers) :
      Rearranges pod { pod with containers := containers, initContainers := initContainers }

/-- A pod mounts the same ConfigMaps when it is rearranged. -/
lemma Rearranges.mounts_iff (h : pod.Rearranges pod') : pod'.Mounts name ↔ pod.Mounts name := by
  unfold Mounts
  cases h with
  | volumes h => simp only [h.mem_iff]
  | containers h => simp only [h.mem_iff]
  | mounts h hinit =>
    refine and_congr_right fun _ => ?_
    refine exists_mem_iff_of_forall₂ (List.rel_append h hinit) fun c c' hmounts => ?_
    simp only [hmounts.mem_iff]

/-- Pods that mount the same ConfigMaps list the same names in some order. -/
lemma perm_configMaps (h : ∀ name, pod'.Mounts name ↔ pod.Mounts name) :
    pod'.configMaps.Perm pod.configMaps := by
  rw [List.perm_ext_iff_of_nodup pod'.nodup_configMaps pod.nodup_configMaps]
  intro name
  rw [mem_configMaps_iff, mem_configMaps_iff, h name]

/-- A pod mounts the same ConfigMaps however often it is rearranged. -/
lemma mounts_iff_of_rearranged (h : Relation.ReflTransGen Rearranges pod pod') :
    pod'.Mounts name ↔ pod.Mounts name := by
  induction h with
  | refl => rfl
  | tail _ hstep ih => exact hstep.mounts_iff.trans ih

/-- What is mentioned first is listed first. -/
lemma prefix_configMaps (h : pod.mentions <+: pod'.mentions) :
    pod.configMaps <+: pod'.configMaps := by
  obtain ⟨later, hlater⟩ := h
  have happend : NameSet.empty.insertAll pod'.mentions =
      (NameSet.empty.insertAll pod.mentions).insertAll later := by
    rw [← hlater]
    exact List.foldl_append
  unfold configMaps
  rw [happend]
  exact NameSet.toList_prefix_insertAll (NameSet.faithful_empty.insertAll _) later

/-- Containers that come after all others are the last to mention anything. -/
lemma prefix_mentions (hcontainers : pod.containers ++ pod.initContainers <+:
    pod'.containers ++ pod'.initContainers) (hvolumes : pod'.volumes = pod.volumes) :
    pod.mentions <+: pod'.mentions := by
  obtain ⟨more, hmore⟩ := hcontainers
  have hmounted : pod'.mounted = pod.mounted := by
    funext mount
    unfold mounted
    rw [hvolumes]
  unfold mentions
  rw [← hmore, hmounted]
  exact ⟨_, List.flatMap_append.symm⟩

/-- **Rearranged pods.**  The ConfigMaps of a pod are listed in the same order if volumes of
different names change places, or if volumes are added that no container mounts.  However a pod is
rearranged, it lists the same names in some order.  Containers that are added after all others add
names at the end. -/
theorem configMaps_rearranged (pod : PodSpec) :
    (∀ volumes : List Volume, volumes.Perm pod.volumes → (pod.volumes.map Volume.name).Nodup →
      { pod with volumes := volumes }.configMaps = pod.configMaps) ∧
    (∀ volumes : List Volume, Padded pod.Unmounted pod.volumes volumes →
      { pod with volumes := volumes }.configMaps = pod.configMaps) ∧
    (∀ pod' : PodSpec, Relation.ReflTransGen Rearranges pod pod' →
      pod'.configMaps.Perm pod.configMaps) ∧
    (∀ more : List Container, pod.configMaps <+:
      { pod with initContainers := pod.initContainers ++ more }.configMaps) ∧
    (∀ more : List Container, pod.initContainers = [] → pod.configMaps <+:
      { pod with containers := pod.containers ++ more }.configMaps) := by
  refine ⟨fun _ => configMaps_of_perm_volumes, fun _ => configMaps_of_padded, ?_, ?_, ?_⟩
  · intro pod' h
    exact perm_configMaps fun _ => mounts_iff_of_rearranged h
  · intro more
    refine prefix_configMaps (prefix_mentions ?_ rfl)
    exact ⟨more, List.append_assoc _ _ _⟩
  · intro more hinit
    refine prefix_configMaps (prefix_mentions ?_ rfl)
    refine ⟨more, ?_⟩
    rw [hinit, List.append_nil, List.append_nil]

end PodSpec

namespace Sample

/-- A pod that mounts two of its three volumes in one container. -/
def plainPod : PodSpec where
  containers := [⟨["b", "a"]⟩]
  volumes := [⟨"a", some "second"⟩, ⟨"b", some "first"⟩, ⟨"c", some "third"⟩]

end Sample

namespace PodSpec

/-- The order of the volumes and one that is not mounted do not matter; the mounts in another order
and in a container that runs before the others give the names in some order; and a container that
comes last adds a name at the end. -/
theorem configMaps_rearranged_plain :
    let pod := Sample.plainPod
    let spare : Volume := ⟨"spare", some "spare"⟩
    let last : Container := ⟨["c"]⟩
    { pod with volumes := pod.volumes.reverse }.configMaps = pod.configMaps ∧
      { pod with volumes := spare :: pod.volumes }.configMaps = pod.configMaps ∧
      { pod with containers := [], initContainers := [⟨["a", "b"]⟩] }.configMaps.Perm
        pod.configMaps ∧
      pod.configMaps <+: { pod with initContainers := [last] }.configMaps ∧
      pod.configMaps <+: { pod with containers := pod.containers ++ [last] }.configMaps := by
  intro pod spare last
  obtain ⟨hperm, hpadded, hrearranged, hinit, hcontainers⟩ := configMaps_rearranged pod
  have hunmounted : pod.Unmounted spare := by
    intro container hcontainer
    obtain rfl := List.mem_singleton.mp hcontainer
    decide
  have hspare : Padded pod.Unmounted pod.volumes (spare :: pod.volumes) :=
    .add hunmounted (.keep _ (.keep _ (.keep _ .nil)))
  have hmounts : pod.Rearranges { pod with containers := [⟨["a", "b"]⟩] } :=
    .mounts (.cons (List.Perm.swap _ _ _) .nil) .nil
  have hmoved : Rearranges { pod with containers := [⟨["a", "b"]⟩] }
      { pod with containers := [], initContainers := [⟨["a", "b"]⟩] } :=
    .containers (List.Perm.refl _)
  exact ⟨hperm _ (List.reverse_perm _) (by decide), hpadded _ hspare,
    hrearranged _ ((Relation.ReflTransGen.single hmounts).tail hmoved), hinit [last],
    hcontainers [last] rfl⟩

end PodSpec

end MountOwnership
