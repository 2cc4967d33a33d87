import Mathlib.Data.List.Nodup
import MountOwnership.Proofs.Ownership.Records

/-!
# Many records in a list of owners

Records that are put into a list of owners one after the other make of it what a map that
keeps its order makes of writes.  The keys of the old list stay where they are, and the first
record of each gives way to the last new one of that key; new keys follow in the order in
which they first came, each with its last record (`IsUpdate`).

The proof goes along the old list.  Its first record sees only the new ones of its own key,
and the rest of the list sees all the others (`upsertOwners_cons`).  Where the old list ends,
the first new record opens a place of its own, and the same holds again (`upsertOwners_nil`).
-/

namespace MountOwnership

/-- A list of owners after records were put into it one after the other. -/
def upsertOwners (news owners : List OwnerReference) : List OwnerReference :=
  news.foldl (fun owners o => upsertOwner o owners) owners

/-- The last record of a key. -/
def lastOwner? (key : String × String × String) (news : List OwnerReference) :
    Option OwnerReference :=
  firstOwner? key news.reverse

/-- The keys of new records that an old list does not hold, each once and in the order in which they
first come. -/
def newKeys (owners news : List OwnerReference) : List (String × String × String) :=
  ((news.map OwnerReference.key).filter (· ∉ owners.map OwnerReference.key)).eraseDups

/-- What an ordered map makes of an old list of records and new ones. -/
structure IsUpdate (owners news result : List OwnerReference) : Prop where
  /-- The first record of a key in the old list gives way to the last new record of that key. -/
  replaced : ∀ {i : Nat} {o last : OwnerReference}, owners[i]? = some o →
    o.key ∉ (owners.take i).map OwnerReference.key → lastOwner? o.key news = some last →
    result[i]? = some last
  /-- A record of the old list stays if it is not the first of its key, or if no new record has its
  key. -/
  kept : ∀ {i : Nat} {o : OwnerReference}, owners[i]? = some o →
    o.key ∈ (owners.take i).map OwnerReference.key ∨ o.key ∉ news.map OwnerReference.key →
    result[i]? = some o
  /-- New keys follow the old list, each once and with its last record. -/
  appended : (result.drop owners.length).map some =
    (newKeys owners news).map fun key => lastOwner? key news

variable {owners news rest : List OwnerReference} {n o : OwnerReference}
  {key other : String × String × String}

/-! ### The last record of a key -/

/-- The last record of a key is looked for in the rest of the records first. -/
lemma lastOwner?_cons : lastOwner? key (n :: news) =
    (lastOwner? key news).or (if n.key = key then some n else none) := by
  unfold lastOwner? firstOwner?
  rw [List.reverse_cons, List.find?_append]
  by_cases h : n.key = key
  · rw [if_pos h, List.find?_cons_of_pos (by simpa using h)]
  · rw [if_neg h, List.find?_cons_of_neg (by simpa using h), List.find?_nil]

/-- A record of another key is passed over. -/
lemma lastOwner?_cons_of_ne (h : n.key ≠ key) :
    lastOwner? key (n :: news) = lastOwner? key news := by
  rw [lastOwner?_cons, if_neg h, Option.or_none]

/-- The first record of a key is the last one if no other follows. -/
lemma lastOwner?_cons_self (n : OwnerReference) (news : List OwnerReference) :
    lastOwner? n.key (n :: news) = some ((lastOwner? n.key news).getD n) := by
  rw [lastOwner?_cons, if_pos rfl]
  cases lastOwner? n.key news with
  | none => rfl
  | some last => rfl

/-- Records of other keys have no part in it. -/
lemma lastOwner?_filter_ne (h : key ≠ other) :
    lastOwner? key (news.filter (·.key ≠ other)) = lastOwner? key news := by
  unfold lastOwner? firstOwner?
  rw [← List.filter_reverse, List.find?_filter]
  congr 1
  funext o
  by_cases ho : o.key = key
  · simp [ho, h]
  · simp [ho]

/-- There is no last record of a key exactly if no record has it. -/
lemma lastOwner?_eq_none_iff :
    lastOwner? key news = none ↔ key ∉ news.map OwnerReference.key := by
  unfold lastOwner? firstOwner?
  simp [List.find?_eq_none]

/-! ### One record of the old list, and one new key -/

/-- The first record of a list sees the new records of its own key, and the rest of the list sees
the others. -/
lemma upsertOwners_cons (news : List OwnerReference) (o : OwnerReference)
    (rest : List OwnerReference) :
    upsertOwners news (o :: rest) = (lastOwner? o.key news).getD o ::
      upsertOwners (news.filter (·.key ≠ o.key)) rest := by
  induction news generalizing o rest with
  | nil => rfl
  | cons n news ih =>
    change upsertOwners news (upsertOwner n (o :: rest)) = _
    by_cases h : o.key = n.key
    · -- the new record takes the place, and what comes after it sees that
      rw [upsertOwner_of_key_eq h, ih, h, lastOwner?_cons_self, Option.getD_some,
        List.filter_cons_of_neg (by simp)]
    · rw [upsertOwner_of_key_ne h, ih, lastOwner?_cons_of_ne (Ne.symm h),
        List.filter_cons_of_pos (by simpa using Ne.symm h)]
      rfl

/-- The new keys for a list are those for its rest among the records of other keys than its
first. -/
lemma newKeys_cons (o : OwnerReference) (rest news : List OwnerReference) :
    newKeys (o :: rest) news = newKeys rest (news.filter (·.key ≠ o.key)) := by
  unfold newKeys
  rw [List.filter_map, List.filter_map, List.filter_filter]
  congr 2
  refine List.filter_congr fun n _ => ?_
  rw [Bool.eq_iff_iff]
  simp [and_comm]

/-- The first new key for an empty list is that of the first new record. -/
lemma newKeys_nil_cons (n : OwnerReference) (news : List OwnerReference) :
    newKeys [] (n :: news) = n.key :: newKeys [] (news.filter (·.key ≠ n.key)) := by
  have hall : ∀ news : List OwnerReference,
      newKeys [] news = (news.map OwnerReference.key).eraseDups := by
    intro news
    unfold newKeys
    rw [List.filter_eq_self.mpr fun key _ => by simp]
  rw [hall, hall, List.map_cons, List.eraseDups_cons, List.filter_map]
  congr 3
  refine List.filter_congr fun o _ => ?_
  rw [Bool.eq_iff_iff]
  simp

/-- A new key is the key of a new record. -/
lemma mem_map_key_of_mem_newKeys (h : key ∈ newKeys owners news) :
    key ∈ news.map OwnerReference.key :=
  (List.mem_filter.mp (List.mem_eraseDups.mp h)).1

/-- Records of other keys have no part in what a new key is given. -/
lemma lastOwner?_of_mem_newKeys_filter (h : key ∈ newKeys owners (news.filter (·.key ≠ other))) :
    lastOwner? key (news.filter (·.key ≠ other)) = lastOwner? key news := by
  obtain ⟨o, ho, rfl⟩ := List.mem_map.mp (mem_map_key_of_mem_newKeys h)
  exact lastOwner?_filter_ne (by simpa using (List.mem_filter.mp ho).2)

/-- Records that are put into an empty list stand there by key, each key with its last record. -/
lemma upsertOwners_nil (news : List OwnerReference) :
    (upsertOwners news []).map some = (newKeys [] news).map fun key => lastOwner? key news := by
  cases news with
  | nil => rfl
  | cons n news =>
    -- the first record opens a place for its key, and the records of other keys come after it
    have hplaced : upsertOwners (n :: news) [] = (lastOwner? n.key news).getD n ::
        upsertOwners (news.filter (·.key ≠ n.key)) [] := upsertOwners_cons news n []
    have hothers : ∀ key ∈ newKeys [] (news.filter (·.key ≠ n.key)),
        lastOwner? key (news.filter (·.key ≠ n.key)) = lastOwner? key (n :: news) := by
      intro key hkey
      have hne : n.key ≠ key := by
        obtain ⟨o, ho, rfl⟩ := List.mem_map.mp (mem_map_key_of_mem_newKeys hkey)
        exact Ne.symm (by simpa using (List.mem_filter.mp ho).2)
      rw [lastOwner?_of_mem_newKeys_filter hkey, lastOwner?_cons_of_ne hne]
    rw [hplaced, newKeys_nil_cons, List.map_cons, List.map_cons, lastOwner?_cons_self,
      upsertOwners_nil (news.filter (·.key ≠ n.key))]
    exact congrArg _ (List.map_congr_left hothers)
termination_by news.length
decreasing_by
  have hle := List.length_filter_le (fun o : OwnerReference => decide (o.key ≠ n.key)) news
  simp only [List.length_cons]
  omega

/-! ### The whole list -/

/-- What is put into a list updates it. -/
lemma isUpdate_upsertOwners (owners news : List OwnerReference) :
    IsUpdate owners news (upsertOwners news owners) := by
  induction owners generalizing news with
  | nil =>
    refine ⟨nofun, nofun, ?_⟩
    exact upsertOwners_nil news
  | cons first rest ih =>
    have h := ih (news.filter (·.key ≠ first.key))
    rw [upsertOwners_cons]
    refine ⟨?_, ?_, ?_⟩
    · intro i o last hi hnew hlast
      cases i with
      | zero =>
        obtain rfl := Option.some.inj hi
        rw [hlast]
        rfl
      | succ i =>
        rw [List.take_succ_cons, List.map_cons, List.mem_cons, not_or] at hnew
        exact h.replaced hi hnew.2 (by rw [lastOwner?_filter_ne hnew.1, hlast])
    · intro i o hi hkept
      cases i with
      | zero =>
        obtain rfl := Option.some.inj hi
        rcases hkept with hkept | hkept
        · exact absurd hkept List.not_mem_nil
        · rw [lastOwner?_eq_none_iff.mpr hkept]
          rfl
      | succ i =>
        refine h.kept hi ?_
        by_cases hfirst : o.key = first.key
        · -- no record of this key is left for the rest
          refine Or.inr fun hmem => ?_
          obtain ⟨n, hn, hkey⟩ := List.mem_map.mp hmem
          have hne : n.key ≠ first.key := by simpa using (List.mem_filter.mp hn).2
          exact hne (hkey.trans hfirst)
        · refine hkept.imp (fun hmem => ?_) fun hnot hmem => hnot ?_
          · rw [List.take_succ_cons, List.map_cons, List.mem_cons] at hmem
            exact hmem.resolve_left hfirst
          · obtain ⟨n, hn, hkey⟩ := List.mem_map.mp hmem
            exact List.mem_map.mpr ⟨n, (List.mem_filter.mp hn).1, hkey⟩
    · rw [List.length_cons, List.drop_succ_cons, h.appended, newKeys_cons]
      exact List.map_congr_left fun key hkey => lastOwner?_of_mem_newKeys_filter hkey

/-- A record that is put into a list without two records of one key makes another such list. -/
lemma nodup_map_key_upsertOwner (h : (owners.map OwnerReference.key).Nodup) (o : OwnerReference) :
    ((upsertOwner o owners).map OwnerReference.key).Nodup := by
  rw [map_key_upsertOwner]
  split
  · exact h
  · next hnew =>
    rw [← List.concat_eq_append]
    exact h.concat hnew

/-- Records that are put into a list without two records of one key make another such list. -/
lemma nodup_map_key_upsertOwners (h : (owners.map OwnerReference.key).Nodup)
    (news : List OwnerReference) :
    ((upsertOwners news owners).map OwnerReference.key).Nodup := by
  induction news generalizing owners with
  | nil => exact h
  | cons n news ih => exact ih (nodup_map_key_upsertOwner h n)

/-! ### Versions of an API group -/

/-- The API versions of a group: its name, a slash and the version, or the version alone for the
group that has no name. -/
inductive IsVersionOf : String → String → Prop
  | core {version : String} (h : '/' ∉ version.toList) : IsVersionOf "" version
  | named {group : String} (h : '/' ∉ group.toList) (version : String) :
      IsVersionOf group (group ++ "/" ++ version)

/-- The group of an API version is the one that it is a version of. -/
lemma IsVersionOf.apiGroup_eq {group apiVersion : String} (h : IsVersionOf group apiVersion) :
    apiGroup apiVersion = group := by
  unfold apiGroup
  cases h with
  | core h => exact if_neg (by simpa using h)
  | named h version =>
    have hpos : ∀ c ∈ group.toList, decide (c ≠ '/') = true := by
      intro c hc
      have hne : c ≠ '/' := fun heq => h (heq ▸ hc)
      simpa using hne
    rw [if_pos (by simp), String.toList_append, String.toList_append, List.append_assoc,
      List.takeWhile_append_of_pos hpos]
    simp

/-- **Many records.**  Records that are put into a list of owners one after the other update it as
an ordered map: the first record of a key gives way to the last new one of that key, the other
records stay as they are, and new keys follow in the order in which they first came, each with its
last record.  A list without two records of one key stays one.  All versions of an API group count
as one. -/
theorem upsertOwners_ordered (owners news : List OwnerReference) :
    IsUpdate owners news (upsertOwners news owners) ∧
    ((owners.map OwnerReference.key).Nodup →
      ((upsertOwners news owners).map OwnerReference.key).Nodup) ∧
    ∀ {a b : OwnerReference} {group group' : String}, IsVersionOf group a.apiVersion →
      IsVersionOf group' b.apiVersion →
      (a.key = b.key ↔ group = group' ∧ a.kind = b.kind ∧ a.name = b.name) := by
  refine ⟨isUpdate_upsertOwners owners news, fun h => nodup_map_key_upsertOwners h news, ?_⟩
  intro a b group group' ha hb
  unfold OwnerReference.key
  rw [ha.apiGroup_eq, hb.apiGroup_eq, Prod.mk.injEq, Prod.mk.injEq]

namespace Sample

/-- The record of a ReplicaSet under a version of its API. -/
def versionedRecord (apiVersion name uid : String) : OwnerReference :=
  ⟨apiVersion, "ReplicaSet", name, uid, some false, some false⟩

/-- Two records of `app-rs`, the first under an old version of the API. -/
def oldRecords : List OwnerReference :=
  [versionedRecord "apps/v1beta2" "app-rs" "u0", versionedRecord "apps/v1" "app-rs" "u9"]

/-- `app-rs` comes twice, and so does `other-rs`. -/
def newRecords : List OwnerReference :=
  [versionedRecord "apps/v1" "app-rs" "u1", versionedRecord "apps/v1" "other-rs" "u2",
    versionedRecord "apps/v1" "app-rs" "u3", versionedRecord "apps/v1beta2" "other-rs" "u4"]

end Sample

/-- The first record of `app-rs` gives way to the last new one, the second stays, and `other-rs` has
one place after them. -/
theorem upsertOwners_ordered_app_rs :
    let result := upsertOwners Sample.newRecords Sample.oldRecords
    result[0]? = some (Sample.versionedRecord "apps/v1" "app-rs" "u3") ∧
    result[1]? = some (Sample.versionedRecord "apps/v1" "app-rs" "u9") ∧
    (result.drop 2).map some = [some (Sample.versionedRecord "apps/v1beta2" "other-rs" "u4")] ∧
    (Sample.versionedRecord "apps/v1" "app-rs" "u3").key =
      (Sample.versionedRecord "apps/v1beta2" "app-rs" "u0").key := by
  intro result
  obtain ⟨hupdate, _, hversions⟩ := upsertOwners_ordered Sample.oldRecords Sample.newRecords
  have hnew : (newKeys Sample.oldRecords Sample.newRecords).map
      (fun key => lastOwner? key Sample.newRecords) =
        [some (Sample.versionedRecord "apps/v1beta2" "other-rs" "u4")] := by decide
  have hstable : IsVersionOf "apps" "apps/v1" := .named (by decide) "v1"
  have hbeta : IsVersionOf "apps" "apps/v1beta2" := .named (by decide) "v1beta2"
  exact ⟨hupdate.replaced rfl (by decide) (by decide), hupdate.kept rfl (Or.inl (by decide)),
    hupdate.appended.trans hnew, (hversions hstable hbeta).mpr ⟨rfl, rfl, rfl⟩⟩

end MountOwnership
