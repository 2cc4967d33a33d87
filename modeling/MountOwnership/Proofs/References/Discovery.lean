import Mathlib.Data.Prod.Lex
import Mathlib.Order.Bounds.Basic
import MountOwnership.Proofs.References

/-!
# The order in which ConfigMaps are discovered

A pod meets a ConfigMap at a place: in a container, through one of its mounts, by a volume of
that name.  Places are ordered: primary containers come before init containers, and the
containers, the mounts of each and the volumes come in order of declaration
(`PodSpec.Place`).  The ConfigMaps of a pod are listed in the order of the first places at
which it meets them (`PodSpec.configMaps_by_discovery`).

The proof keeps the names that a pod mentions together with their places.  A list of items
within items is then in the order of its places (`Ascending.within`), and the first place of
a name is where the name first stands in such a list (`Ascending.idxOf_lt_iff`).  What stands
first does not change when repetitions are left out (`idxOf_eraseDups_lt_iff`).
-/

namespace MountOwnership

/-! ### First occurrences -/

section Lists

variable {α : Type} {l : List α} {a b : α}

/-- A member of a list stands somewhere before another one. -/
def Precedes (l : List α) (a b : α) : Prop :=
  ∃ i j : ℕ, i < j ∧ l[i]? = some a ∧ l[j]? = some b

variable [BEq α] [LawfulBEq α]

/-- In a list without repetitions every member stands at its first occurrence only. -/
lemma precedes_iff_of_nodup (h : l.Nodup) : Precedes l a b ↔ b ∈ l ∧ l.idxOf a < l.idxOf b := by
  have hidx : ∀ {i : ℕ} {c : α}, l[i]? = some c → l.idxOf c = i := by
    intro i c hi
    obtain ⟨hlt, rfl⟩ := List.getElem?_eq_some_iff.mp hi
    exact h.idxOf_getElem i hlt
  constructor
  · rintro ⟨i, j, hij, hi, hj⟩
    rw [hidx hi, hidx hj]
    exact ⟨List.mem_of_getElem? hj, hij⟩
  · rintro ⟨hb, hlt⟩
    have hblt : l.idxOf b < l.length := List.idxOf_lt_length_of_mem hb
    have ha : a ∈ l := List.idxOf_lt_length_iff.mp (hlt.trans hblt)
    exact ⟨l.idxOf a, l.idxOf b, hlt, List.getElem?_idxOf ha, List.getElem?_idxOf hb⟩

/-- A member stands before another one if it stands in front, and else if it does so behind. -/
lemma idxOf_cons_lt_iff (x : α) (l : List α) : (x :: l).idxOf a < (x :: l).idxOf b ↔
    x ≠ b ∧ (x = a ∨ l.idxOf a < l.idxOf b) := by
  by_cases hb : x = b
  · simp [hb]
  · by_cases ha : x = a
    · subst ha
      rw [List.idxOf_cons_self, List.idxOf_cons_ne l hb]
      simp [hb]
    · rw [List.idxOf_cons_ne l ha, List.idxOf_cons_ne l hb, Nat.succ_lt_succ_iff]
      simp [ha, hb]

/-- Leaving out other members keeps the order of first occurrences. -/
lemma idxOf_filter_lt_iff {p : α → Bool} (ha : p a = true) (hb : p b = true) :
    (l.filter p).idxOf a < (l.filter p).idxOf b ↔ l.idxOf a < l.idxOf b := by
  induction l with
  | nil => rfl
  | cons x l ih =>
    by_cases hx : p x = true
    · rw [List.filter_cons_of_pos hx, idxOf_cons_lt_iff, idxOf_cons_lt_iff, ih]
    · have hxa : x ≠ a := by
        rintro rfl
        exact hx ha
      have hxb : x ≠ b := by
        rintro rfl
        exact hx hb
      rw [List.filter_cons_of_neg hx, idxOf_cons_lt_iff, ih, and_iff_right hxb, or_iff_right hxa]

/-- Leaving out repetitions keeps the order of first occurrences. -/
lemma idxOf_eraseDups_lt_iff (l : List α) :
    l.eraseDups.idxOf a < l.eraseDups.idxOf b ↔ l.idxOf a < l.idxOf b := by
  match l with
  | [] => rfl
  | x :: l =>
    rw [List.eraseDups_cons, idxOf_cons_lt_iff, idxOf_cons_lt_iff]
    refine and_congr_right fun hb => ?_
    by_cases ha : x = a
    · rw [eq_true ha, true_or, true_or]
    · -- both differ from the member in front, whose repetitions are left out
      rw [or_iff_right ha, or_iff_right ha, idxOf_eraseDups_lt_iff,
        idxOf_filter_lt_iff (by simpa using Ne.symm ha) (by simpa using Ne.symm hb)]
termination_by l.length
decreasing_by
  have hle := List.length_filter_le (fun y => !y == x) l
  simp only [List.length_cons]
  omega

end Lists

/-! ### Items at their places -/

section Places

variable {κ ι α β : Type}

/-- The members of a list with their numbers. -/
def placed (l : List α) : List (ℕ × α) := l.zipIdx.map Prod.swap

/-- What each item of a list holds, at the place of the item and the place in the item. -/
def within (l : List (κ × α)) (f : α → List (ι × β)) : List ((κ ×ₗ ι) × β) :=
  l.flatMap fun x => (f x.2).map fun y => (toLex (x.1, y.1), y.2)

/-- What some items of a list show, at their places. -/
def shown (l : List (κ × α)) (f : α → Option β) : List (κ × β) :=
  l.filterMap fun x => (f x.2).map fun b => (x.1, b)

/-- The places of a list ascend. -/
def Ascending [LT κ] (l : List (κ × α)) : Prop := l.Pairwise fun x y => x.1 < y.1

/-- An item is placed where it stands in the list. -/
lemma mem_placed {l : List α} {i : ℕ} {a : α} : (i, a) ∈ placed l ↔ l[i]? = some a := by
  unfold placed
  rw [← List.mk_mem_zipIdx_iff_getElem?]
  simp

/-- Places do not change the items or their order. -/
lemma map_snd_placed (l : List α) : (placed l).map Prod.snd = l := by
  unfold placed
  rw [List.map_map]
  exact List.zipIdx_map_fst 0 l

/-- Places ascend. -/
lemma ascending_placed (l : List α) : Ascending (placed l) := by
  unfold Ascending placed
  rw [List.pairwise_map]
  have hrange : ((l.zipIdx).map Prod.snd).Pairwise (· < ·) := by
    rw [List.zipIdx_map_snd]
    exact List.pairwise_lt_range'
  exact List.pairwise_map.mp hrange

/-- What is placed within an item has the place of the item and its own place there. -/
lemma mem_within {l : List (κ × α)} {f : α → List (ι × β)} {p : κ ×ₗ ι} {b : β} :
    (p, b) ∈ within l f ↔ ∃ a, ((ofLex p).1, a) ∈ l ∧ ((ofLex p).2, b) ∈ f a := by
  unfold within
  constructor
  · intro h
    obtain ⟨⟨k, a⟩, hx, hmem⟩ := List.mem_flatMap.mp h
    obtain ⟨⟨i, b'⟩, hy, heq⟩ := List.mem_map.mp hmem
    cases heq
    exact ⟨a, hx, hy⟩
  · rintro ⟨a, hx, hy⟩
    exact List.mem_flatMap.mpr ⟨_, hx, List.mem_map.mpr ⟨_, hy, rfl⟩⟩

/-- Without the places, items are replaced by what is within them. -/
lemma map_snd_within (l : List (κ × α)) (f : α → List (ι × β)) :
    (within l f).map Prod.snd = (l.map Prod.snd).flatMap fun a => (f a).map Prod.snd := by
  unfold within
  rw [List.map_flatMap, List.flatMap_map]
  simp only [List.map_map]
  rfl

/-- What an item shows has the place of the item. -/
lemma mem_shown {l : List (κ × α)} {f : α → Option β} {k : κ} {b : β} :
    (k, b) ∈ shown l f ↔ ∃ a, (k, a) ∈ l ∧ f a = some b := by
  unfold shown
  simp

/-- Without the places, items are replaced by what they show. -/
lemma map_snd_shown (l : List (κ × α)) (f : α → Option β) :
    (shown l f).map Prod.snd = (l.map Prod.snd).filterMap f := by
  unfold shown
  rw [List.map_filterMap, List.filterMap_map]
  congr 1
  funext x
  simp

/-- What the items of a list show comes in the order of the items. -/
lemma Ascending.shown [LT κ] {l : List (κ × α)} (h : Ascending l) (f : α → Option β) :
    Ascending (shown l f) := by
  unfold Ascending MountOwnership.shown
  refine List.Pairwise.filterMap _ ?_ h
  intro x y hxy x' hx' y' hy'
  obtain ⟨_, _, rfl⟩ := Option.map_eq_some_iff.mp hx'
  obtain ⟨_, _, rfl⟩ := Option.map_eq_some_iff.mp hy'
  exact hxy

/-- Items within items come first by the outer ones and then by their own places. -/
lemma Ascending.within [LT κ] [LT ι] {l : List (κ × α)} {f : α → List (ι × β)} (h : Ascending l)
    (hf : ∀ a, Ascending (f a)) : Ascending (within l f) := by
  unfold Ascending MountOwnership.within
  rw [List.pairwise_flatMap]
  constructor
  · intro x _
    rw [List.pairwise_map]
    refine List.Pairwise.imp ?_ (hf x.2)
    intro y z hlt
    exact Prod.Lex.toLex_lt_toLex.mpr (Or.inr ⟨rfl, hlt⟩)
  · refine List.Pairwise.imp ?_ h
    intro x x' hlt y hy z hz
    obtain ⟨_, _, rfl⟩ := List.mem_map.mp hy
    obtain ⟨_, _, rfl⟩ := List.mem_map.mp hz
    exact Prod.Lex.toLex_lt_toLex.mpr (Or.inl hlt)

section FirstPlaces

variable [Preorder κ] {l : List (κ × α)} {k p q : κ} {a b c : α}

/-- What stands in front of a list whose places ascend has its first place there. -/
lemma Ascending.isLeast_cons_self (h : Ascending ((k, c) :: l)) :
    IsLeast {r | (r, c) ∈ (k, c) :: l} p ↔ p = k := by
  obtain ⟨hfirst, _⟩ := List.pairwise_cons.mp h
  constructor
  · rintro ⟨hmem, hleast⟩
    rcases List.mem_cons.mp hmem with heq | hmem
    · exact congrArg Prod.fst heq
    · exact absurd (hleast List.mem_cons_self) (hfirst _ hmem).not_ge
  · rintro rfl
    refine ⟨List.mem_cons_self, fun r hr => ?_⟩
    rcases List.mem_cons.mp hr with heq | hmem
    · exact (congrArg Prod.fst heq).ge
    · exact (hfirst _ hmem).le

/-- What stands in front of a list has no part in the first places of other members. -/
lemma isLeast_cons_of_ne (hne : c ≠ a) :
    IsLeast {r | (r, a) ∈ (k, c) :: l} p ↔ IsLeast {r | (r, a) ∈ l} p := by
  have hset : {r | (r, a) ∈ (k, c) :: l} = {r | (r, a) ∈ l} := by
    ext r
    simp [hne.symm]
  rw [hset]

/-- In a list whose places ascend, a member has a first place. -/
lemma Ascending.exists_isLeast (h : Ascending l) (ha : a ∈ l.map Prod.snd) :
    ∃ p, IsLeast {r | (r, a) ∈ l} p := by
  induction l with
  | nil => exact absurd ha List.not_mem_nil
  | cons x l ih =>
    obtain ⟨k, c⟩ := x
    by_cases hc : c = a
    · subst hc
      exact ⟨k, h.isLeast_cons_self.mpr rfl⟩
    · have hrest : a ∈ l.map Prod.snd := (List.mem_cons.mp ha).resolve_left (Ne.symm hc)
      obtain ⟨p, hp⟩ := ih (List.pairwise_cons.mp h).2 hrest
      exact ⟨p, (isLeast_cons_of_ne hc).mpr hp⟩

/-- In a list whose places ascend, first occurrences are in the order of first places. -/
lemma Ascending.idxOf_lt_iff [BEq α] [LawfulBEq α] (h : Ascending l)
    (ha : IsLeast {r | (r, a) ∈ l} p) (hb : IsLeast {r | (r, b) ∈ l} q) :
    (l.map Prod.snd).idxOf a < (l.map Prod.snd).idxOf b ↔ p < q := by
  induction l with
  | nil => exact absurd ha.1 List.not_mem_nil
  | cons x l ih =>
    obtain ⟨k, c⟩ := x
    obtain ⟨hfirst, hrest⟩ := List.pairwise_cons.mp h
    rw [List.map_cons, idxOf_cons_lt_iff]
    by_cases hcb : c = b
    · -- nothing comes before the place in front
      subst hcb
      obtain rfl := h.isLeast_cons_self.mp hb
      have hnot : ¬ p < q := by
        rcases List.mem_cons.mp ha.1 with heq | hmem
        · exact (congrArg Prod.fst heq).not_lt
        · exact (hfirst _ hmem).not_gt
      simp [hnot]
    · have hq := (isLeast_cons_of_ne hcb).mp hb
      rw [and_iff_right hcb]
      by_cases hca : c = a
      · subst hca
        obtain rfl := h.isLeast_cons_self.mp ha
        exact iff_of_true (Or.inl rfl) (hfirst _ hq.1)
      · rw [or_iff_right hca]
        exact ih hrest ((isLeast_cons_of_ne hca).mp ha) hq

end FirstPlaces

end Places

/-! ### Pods -/

namespace PodSpec

variable {pod : PodSpec} {name other : String}

/-- A place at which a pod may meet a ConfigMap.  Places are ordered by their parts in turn. -/
abbrev Place := Bool ×ₗ (ℕ ×ₗ (ℕ ×ₗ ℕ))

namespace Place

/-- Whether the container is one of those that run before the primary ones. -/
def initial (p : Place) : Bool := (ofLex p).1

/-- The number of the container in its list. -/
def container (p : Place) : ℕ := (ofLex (ofLex p).2).1

/-- The number of the mount in the container. -/
def mount (p : Place) : ℕ := (ofLex (ofLex (ofLex p).2).2).1

/-- The number of the volume in the pod. -/
def volume (p : Place) : ℕ := (ofLex (ofLex (ofLex p).2).2).2

end Place

/-- The primary containers, or those that run before them. -/
def containerList (pod : PodSpec) (initial : Bool) : List Container :=
  if initial then pod.initContainers else pod.containers

/-- At a place, a pod meets a ConfigMap: the mount there is of the volume there, which shows the
ConfigMap, and the ConfigMap has a name. -/
def MeetsAt (pod : PodSpec) (name : String) (p : Place) : Prop :=
  ∃ container mount volume, (pod.containerList p.initial)[p.container]? = some container ∧
    container.mounts[p.mount]? = some mount ∧ pod.volumes[p.volume]? = some volume ∧
    volume.name = mount ∧ volume.configMap = some name ∧ name ≠ ""

/-- The first place at which a pod meets a ConfigMap. -/
def FirstAt (pod : PodSpec) (name : String) (p : Place) : Prop :=
  IsLeast {q | pod.MeetsAt name q} p

/-- The ConfigMap that a volume shows to a mount of that name. -/
def shownTo (mount : String) (volume : Volume) : Option String :=
  if volume.name == mount then volume.configMap.filter fun name => !name.isEmpty else none

/-- The names that a pod mentions, at their places. -/
def sightings (pod : PodSpec) : List (Place × String) :=
  within [(false, pod.containers), (true, pod.initContainers)] fun containers =>
    within (placed containers) fun container =>
      within (placed container.mounts) fun mount => shown (placed pod.volumes) (shownTo mount)

/-- A volume shows a mount the ConfigMap that it is made of, if that has a name. -/
lemma shownTo_eq_some_iff {mount : String} {volume : Volume} : shownTo mount volume = some name ↔
    volume.name = mount ∧ volume.configMap = some name ∧ name ≠ "" := by
  unfold shownTo
  by_cases h : volume.name = mount
  · simp [h, Option.filter_eq_some_iff]
  · simp [h]

/-- The volumes of a pod show a mount the names that the pod mounts there. -/
lemma filterMap_shownTo (pod : PodSpec) (mount : String) :
    pod.volumes.filterMap (shownTo mount) = pod.mounted mount := by
  unfold mounted
  rw [List.filterMap_filter, List.filter_filterMap]
  congr 1
  funext volume
  unfold shownTo
  split <;> rfl

/-- A pod mentions a name at the places at which it meets a ConfigMap of that name. -/
lemma mem_sightings {p : Place} : (p, name) ∈ pod.sightings ↔ pod.MeetsAt name p := by
  have hlist : ∀ containers, (p.initial, containers) ∈
      [(false, pod.containers), (true, pod.initContainers)] ↔
        containers = pod.containerList p.initial := by
    intro containers
    unfold containerList
    cases p.initial <;> simp
  unfold sightings MeetsAt
  simp only [mem_within, mem_shown, mem_placed, shownTo_eq_some_iff]
  constructor
  · rintro ⟨containers, hcontainers, container, hcontainer, mount, hmount, volume, hvolume, h⟩
    obtain rfl := (hlist containers).mp hcontainers
    exact ⟨container, mount, volume, hcontainer, hmount, hvolume, h⟩
  · rintro ⟨container, mount, volume, hcontainer, hmount, hvolume, h⟩
    exact ⟨_, (hlist _).mpr rfl, container, hcontainer, mount, hmount, volume, hvolume, h⟩

/-- The names of the sightings are the mentions, in order. -/
lemma map_snd_sightings (pod : PodSpec) : pod.sightings.map Prod.snd = pod.mentions := by
  unfold sightings mentions
  simp only [map_snd_within, map_snd_placed, map_snd_shown, filterMap_shownTo]
  simp

/-- The places of the sightings ascend. -/
lemma ascending_sightings (pod : PodSpec) : Ascending pod.sightings := by
  have hlists : Ascending [(false, pod.containers), (true, pod.initContainers)] :=
    List.pairwise_pair.mpr Bool.false_lt_true
  refine hlists.within fun containers => ?_
  refine (ascending_placed containers).within fun container => ?_
  refine (ascending_placed container.mounts).within fun mount => ?_
  exact (ascending_placed pod.volumes).shown _

/-- The first place of a name is the first at which it is mentioned. -/
lemma firstAt_iff {p : Place} : pod.FirstAt name p ↔ IsLeast {q | (q, name) ∈ pod.sightings} p := by
  unfold FirstAt
  simp only [mem_sightings]

/-- A name that a pod mentions has a first place. -/
lemma exists_firstAt (h : name ∈ pod.mentions) : ∃ p, pod.FirstAt name p := by
  rw [← map_snd_sightings] at h
  obtain ⟨p, hp⟩ := pod.ascending_sightings.exists_isLeast h
  exact ⟨p, firstAt_iff.mpr hp⟩

/-- A name that has a first place is mentioned. -/
lemma FirstAt.mem_mentions {p : Place} (h : pod.FirstAt name p) : name ∈ pod.mentions := by
  rw [← map_snd_sightings]
  exact List.mem_map.mpr ⟨(p, name), mem_sightings.mpr h.1, rfl⟩

/-- Names are mentioned first in the order of their first places. -/
lemma FirstAt.idxOf_lt_iff {p q : Place} (hp : pod.FirstAt name p) (hq : pod.FirstAt other q) :
    pod.mentions.idxOf name < pod.mentions.idxOf other ↔ p < q := by
  rw [← map_snd_sightings]
  exact pod.ascending_sightings.idxOf_lt_iff (firstAt_iff.mp hp) (firstAt_iff.mp hq)

/-- ConfigMaps are listed in the order of the first places at which the pod meets them. -/
lemma precedes_configMaps_iff : Precedes pod.configMaps name other ↔
    ∃ p q, pod.FirstAt name p ∧ pod.FirstAt other q ∧ p < q := by
  rw [precedes_iff_of_nodup pod.nodup_configMaps, configMaps_eq_eraseDups, List.mem_eraseDups,
    idxOf_eraseDups_lt_iff]
  constructor
  · rintro ⟨hother, hlt⟩
    have hname : name ∈ pod.mentions :=
      List.idxOf_lt_length_iff.mp (hlt.trans (List.idxOf_lt_length_of_mem hother))
    obtain ⟨p, hp⟩ := exists_firstAt hname
    obtain ⟨q, hq⟩ := exists_firstAt hother
    exact ⟨p, q, hp, hq, (hp.idxOf_lt_iff hq).mp hlt⟩
  · rintro ⟨p, q, hp, hq, hlt⟩
    exact ⟨hq.mem_mentions, (hp.idxOf_lt_iff hq).mpr hlt⟩

/-- **Discovery.**  A pod lists its ConfigMaps without repetitions.  They are those that one of its
containers mounts, and they stand in the order of the first places at which the pod meets them.  A
ReplicaSet lists those of the pod in its template, and none if there is no such pod. -/
theorem configMaps_by_discovery (pod : PodSpec) :
    pod.configMaps.Nodup ∧
    (∀ name, name ∈ pod.configMaps ↔ pod.Mounts name) ∧
    (∀ name other, Precedes pod.configMaps name other ↔
      ∃ p q, pod.FirstAt name p ∧ pod.FirstAt other q ∧ p < q) ∧
    ∀ rs : ReplicaSet,
      ((rs.spec.bind ReplicaSetSpec.template).bind PodTemplate.spec = some pod →
        rs.configMaps = pod.configMaps) ∧
      ((rs.spec.bind ReplicaSetSpec.template).bind PodTemplate.spec = none →
        rs.configMaps = []) := by
  refine ⟨pod.nodup_configMaps, fun _ => mem_configMaps_iff,
    fun _ _ => precedes_configMaps_iff, fun rs => ?_⟩
  have hpod : rs.podSpec? = (rs.spec.bind ReplicaSetSpec.template).bind PodTemplate.spec :=
    (Option.bind_assoc rs.spec _ _).symm
  unfold ReplicaSet.configMaps
  rw [hpod]
  constructor
  · intro h
    rw [h]
    rfl
  · intro h
    rw [h]
    rfl

end PodSpec

namespace Sample

/-- A pod with volumes of one name, volumes that show one ConfigMap, and a volume that shows one
without a name. -/
def tangledPod : PodSpec where
  containers := [⟨["b", "a"]⟩, ⟨["c", "b"]⟩]
  initContainers := [⟨["i", "a"]⟩]
  volumes :=
    [⟨"a", some "shared"⟩, ⟨"b", some "first"⟩, ⟨"a", some ""⟩, ⟨"b", some "shared"⟩,
      ⟨"i", some "last"⟩, ⟨"c", none⟩]

end Sample

namespace PodSpec

/-- The pod meets `first` at an earlier place than `shared`, although the volumes begin with one
that shows `shared`. -/
theorem configMaps_by_discovery_tangled :
    let rs : ReplicaSet := { spec := some ⟨some ⟨some Sample.tangledPod⟩⟩ }
    rs.configMaps = ["first", "shared", "last"] ∧ ({} : ReplicaSet).configMaps = [] ∧
      ∃ p q,
        Sample.tangledPod.FirstAt "first" p ∧ Sample.tangledPod.FirstAt "shared" q ∧ p < q := by
  intro rs
  obtain ⟨_, _, horder, htemplate⟩ := configMaps_by_discovery Sample.tangledPod
  have hlist : Sample.tangledPod.configMaps = ["first", "shared", "last"] := by
    rw [configMaps_eq_eraseDups]
    decide
  have hprecedes : Precedes Sample.tangledPod.configMaps "first" "shared" := by
    rw [hlist]
    exact ⟨0, 1, by decide, rfl, rfl⟩
  exact ⟨((htemplate rs).1 rfl).trans hlist, (htemplate {}).2 rfl,
    (horder "first" "shared").mp hprecedes⟩

end PodSpec

end MountOwnership
