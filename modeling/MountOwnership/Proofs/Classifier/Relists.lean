import Mathlib.Tactic.Common
import MountOwnership.Proofs.Classifier.History
import MountOwnership.Proofs.Table

/-!
# Lists within what is known

A classifier keeps its objects in two tables: what it knows, and what the open list has had
so far.  Every report that is no mark goes into both tables in the same way
(`Classifier.classify_of_not_isMark`), a new list begins with nothing, and the end of a list
puts the one table in the place of the other.  So both tables file objects under their own
uids, and what the open list has had is known (`Classifier.Coherent`).

What is known does not depend on whether a list is open, as long as none comes to its end.
So the end of a list makes nothing known, and a list that is given up has no effect at all
(`Classifier.relist_within_known`).
-/

namespace MountOwnership

namespace WatchEvent

variable {t u : Table String ReplicaSet} {e : WatchEvent} {uid : String} {rs : ReplicaSet}

/-! ### One report and one table -/

/-- A table files objects under their own uids, and under each uid once. -/
structure Filed (t : Table String ReplicaSet) : Prop where
  distinct : t.Distinct
  uid_eq : ∀ {uid rs}, t.get? uid = some rs → rs.metadata.uid = some uid

/-- In the empty table every object is filed under its uid, as there is none. -/
lemma filed_empty : Filed {} where
  distinct := Table.distinct_empty
  uid_eq h := nomatch h

/-- A report enters a table under each uid once. -/
lemma distinct_enter (h : t.Distinct) (e : WatchEvent) : (e.enter t).Distinct := by
  cases e with
  | apply rs | initApply rs =>
    cases huid : rs.metadata.uid with
    | none => simpa [enter, huid] using h
    | some uid => simpa [enter, huid] using h.insert uid rs
  | delete rs =>
    cases huid : rs.metadata.uid with
    | none => simpa [enter, huid] using h
    | some uid => simpa [enter, huid] using h.erase uid
  | init | initDone => exact h

/-- A report files what it observes under its own uid. -/
lemma Filed.enter (h : Filed t) (e : WatchEvent) : Filed (e.enter t) where
  distinct := distinct_enter h.distinct e
  uid_eq hget := by
    rcases (get?_enter t).mp hget with hobs | ⟨_, _, hold⟩
    · exact hobs.2
    · exact h.uid_eq hold

/-- One table has what another one has, and may have more. -/
def Within (t u : Table String ReplicaSet) : Prop :=
  ∀ uid rs, t.get? uid = some rs → u.get? uid = some rs

/-- A report that is entered into both tables keeps one within the other. -/
lemma Within.enter (h : Within t u) (e : WatchEvent) : Within (e.enter t) (e.enter u) := by
  intro uid rs hget
  rcases (get?_enter t).mp hget with hobs | ⟨hobs, hkept, hold⟩
  · exact (get?_enter u).mpr (Or.inl hobs)
  · exact (get?_enter u).mpr (Or.inr ⟨hobs, hkept, h uid rs hold⟩)

/-- A report that does not remove a uid leaves an object under it. -/
lemma exists_get?_enter (he : ¬ e.Removes uid) (h : ∃ rs, t.get? uid = some rs) :
    ∃ rs, (e.enter t).get? uid = some rs := by
  by_cases hobs : ∃ rs, e.Observes uid rs
  · obtain ⟨rs, hobs⟩ := hobs
    exact ⟨rs, (get?_enter t).mpr (Or.inl hobs)⟩
  · obtain ⟨rs, hget⟩ := h
    exact ⟨rs, (get?_enter t).mpr (Or.inr ⟨not_exists.mp hobs, he, hget⟩)⟩

/-! ### Reports in order -/

/-- What reports make of a table, one after the other. -/
def enterAll (es : List WatchEvent) (t : Table String ReplicaSet) : Table String ReplicaSet :=
  es.foldl (fun t e => e.enter t) t

/-- Reports that do not remove a uid leave an object under it. -/
lemma exists_get?_enterAll {es : List WatchEvent} (hes : ∀ e ∈ es, ¬ e.Removes uid)
    (h : ∃ rs, t.get? uid = some rs) : ∃ rs, (enterAll es t).get? uid = some rs := by
  induction es generalizing t with
  | nil => exact h
  | cons e es ih =>
    have hrest : ∀ e' ∈ es, ¬ e'.Removes uid := fun e' he' => hes e' (List.mem_cons_of_mem e he')
    exact ih hrest (exists_get?_enter (hes e List.mem_cons_self) h)

end WatchEvent

namespace Classifier

open WatchEvent

variable {c : Classifier} {es listed : List WatchEvent} {e : WatchEvent} {uid : String}
  {rs : ReplicaSet}

/-! ### Both tables -/

/-- Both tables of a classifier file objects under their own uids, and what the open list has had
is known. -/
structure Coherent (c : Classifier) : Prop where
  known_filed : Filed c.known
  relist_filed : ∀ {t}, c.relist = some t → Filed t
  relist_within : ∀ {t}, c.relist = some t → Within t c.known

/-- A new classifier has nothing in its tables. -/
lemma coherent_new : ({} : Classifier).Coherent where
  known_filed := filed_empty
  relist_filed h := nomatch h
  relist_within h := nomatch h

/-- A list begins with nothing in it. -/
lemma Coherent.init (h : c.Coherent) : (c.classify .init).1.Coherent where
  known_filed := h.known_filed
  relist_filed ht := by
    obtain rfl := Option.some.inj ht
    exact filed_empty
  relist_within ht := by
    obtain rfl := Option.some.inj ht
    exact fun _ _ hget => nomatch hget

/-- After a list has come to its end, there is no open one. -/
lemma Coherent.initDone (h : c.Coherent) : (c.classify .initDone).1.Coherent where
  known_filed := by
    change Filed (c.relist.getD c.known)
    cases hrelist : c.relist with
    | none => exact h.known_filed
    | some t => exact h.relist_filed hrelist
  relist_filed ht := nomatch ht
  relist_within ht := nomatch ht

/-- Every report keeps the tables of a classifier coherent. -/
lemma Coherent.classify (h : c.Coherent) (e : WatchEvent) : (c.classify e).1.Coherent := by
  by_cases he : e.IsMark
  · rcases he with rfl | rfl
    · exact h.init
    · exact h.initDone
  · rw [classify_of_not_isMark he]
    refine ⟨h.known_filed.enter e, fun ht => ?_, fun ht => ?_⟩
    · obtain ⟨t', ht', rfl⟩ := Option.map_eq_some_iff.mp ht
      exact (h.relist_filed ht').enter e
    · obtain ⟨t', ht', rfl⟩ := Option.map_eq_some_iff.mp ht
      exact (h.relist_within ht').enter e

/-- Whatever is reported, the tables of a classifier stay coherent. -/
lemma Coherent.after (h : c.Coherent) (es : List WatchEvent) : (c.after es).Coherent := by
  induction es generalizing c with
  | nil => exact h
  | cons e es ih => exact ih (h.classify e)

/-- The end of a list makes nothing known. -/
lemma Coherent.known_initDone (h : c.Coherent) :
    Within (c.classify .initDone).1.known c.known := by
  intro uid rs hget
  change (c.relist.getD c.known).get? uid = some rs at hget
  cases hrelist : c.relist with
  | none => rwa [hrelist] at hget
  | some t =>
    rw [hrelist] at hget
    exact h.relist_within hrelist uid rs hget

/-! ### Lists that are given up -/

/-- A report that brings no list to its end is entered into what is known, whether or not a list is
open. -/
lemma known_classify (he : e ≠ .initDone) : (c.classify e).1.known = e.enter c.known := by
  by_cases hmark : e.IsMark
  · obtain rfl := hmark.resolve_right he
    rfl
  · rw [classify_of_not_isMark hmark]

/-- So are reports one after the other. -/
lemma known_after (hes : ∀ e ∈ es, e ≠ .initDone) :
    (c.after es).known = enterAll es c.known := by
  induction es generalizing c with
  | nil => rfl
  | cons e es ih =>
    have hfirst : (c.classify e).1.known = e.enter c.known :=
      known_classify (hes e List.mem_cons_self)
    have hrest : ((c.classify e).1.after es).known = enterAll es (c.classify e).1.known :=
      ih fun e' he' => hes e' (List.mem_cons_of_mem e he')
    rw [hfirst] at hrest
    exact hrest

/-- When a list begins, nothing remains of an open one. -/
lemma after_append_init (c : Classifier) (es : List WatchEvent) :
    c.after (es ++ [.init]) = ⟨(c.after es).known, some {}⟩ := after_append c es [.init]

/-- A list that is given up for another one has no effect: its reports count as they would without
its beginning. -/
lemma after_abandoned (h : ∀ e ∈ listed, e ≠ .initDone) :
    c.after (.init :: listed ++ [.init]) = c.after (listed ++ [.init]) := by
  have hbegun : ∀ e ∈ WatchEvent.init :: listed, e ≠ .initDone := by
    intro e he
    rcases List.mem_cons.mp he with rfl | he
    · exact nofun
    · exact h e he
  rw [after_append_init, after_append_init, known_after hbegun, known_after h]
  rfl

/-- A classifier knows an object under a uid. -/
def Knows (c : Classifier) (uid : String) : Prop := ∃ rs, (uid, rs) ∈ c.known.entries

/-- What is known is what a look-up finds. -/
lemma Coherent.knows_iff (h : c.Coherent) :
    c.Knows uid ↔ ∃ rs, c.known.get? uid = some rs :=
  exists_congr fun _ => h.known_filed.distinct.mem_entries_iff

/-- A list that is given up forgets nothing but what is removed meanwhile. -/
lemma Coherent.knows_abandoned (hc : c.Coherent) (h : ∀ e ∈ listed, e ≠ .initDone)
    (hknows : c.Knows uid) (hkept : ∀ e ∈ listed, ¬ e.Removes uid) :
    (c.after (.init :: listed ++ [.init])).Knows uid := by
  have hfound : ∃ rs, (c.after listed).known.get? uid = some rs := by
    rw [known_after h]
    exact exists_get?_enterAll hkept (hc.knows_iff.mp hknows)
  rw [(hc.after _).knows_iff, after_abandoned h, after_append_init]
  exact hfound

/-- **Lists within what is known.**  Whatever a new classifier has taken in, every object in either
of its tables is filed under its own uid, and while a list is open, every object that it has had is
known, under the same uid.  So the end of a list makes no object known.  The beginning of a list
forgets nothing, also if another list is given up for it: then all is as if that one had not begun,
and every uid is still known that was known before it and was not removed since. -/
theorem relist_within_known (es : List WatchEvent) :
    let c := ({} : Classifier).after es
    (∀ uid rs, (uid, rs) ∈ c.known.entries → rs.metadata.uid = some uid) ∧
    (∀ t, c.relist = some t → ∀ uid rs, (uid, rs) ∈ t.entries →
      rs.metadata.uid = some uid ∧ (uid, rs) ∈ c.known.entries) ∧
    (c.classify .initDone).1.known.entries ⊆ c.known.entries ∧
    (c.classify .init).1.known = c.known ∧
    ∀ listed, (∀ e ∈ listed, e ≠ .initDone) →
      c.after (.init :: listed ++ [.init]) = c.after (listed ++ [.init]) ∧
      ∀ uid, c.Knows uid → (∀ e ∈ listed, ¬ e.Removes uid) →
        (c.after (.init :: listed ++ [.init])).Knows uid := by
  intro c
  have hc : c.Coherent := coherent_new.after es
  have hknown : ∀ {uid rs}, (uid, rs) ∈ c.known.entries ↔ c.known.get? uid = some rs :=
    hc.known_filed.distinct.mem_entries_iff
  refine ⟨fun uid rs hmem => ?_, fun t ht uid rs hmem => ?_, fun entry hmem => ?_, rfl,
    fun listed h => ⟨after_abandoned h, fun uid hknows hkept => ?_⟩⟩
  · exact hc.known_filed.uid_eq (hknown.mp hmem)
  · have hget : t.get? uid = some rs := (hc.relist_filed ht).distinct.mem_entries_iff.mp hmem
    exact ⟨(hc.relist_filed ht).uid_eq hget, hknown.mpr (hc.relist_within ht uid rs hget)⟩
  · have hdone := (hc.classify .initDone).known_filed.distinct
    exact hknown.mpr (hc.known_initDone _ _ (hdone.mem_entries_iff.mp hmem))
  · exact hc.knows_abandoned h hknows hkept

/-- While a list has had one of two objects, both are known, the listed one in its new state.  If
the list is given up, the other object is still known. -/
theorem relist_within_known_app_rs :
    let es := [.apply (Sample.state "u1" "1"), .apply (Sample.state "u2" "2"), .init,
      .initApply (Sample.state "u1" "3")]
    let c := ({} : Classifier).after es
    (c.relist = some ⟨[("u1", Sample.state "u1" "3")]⟩ ∧
      ("u1", Sample.state "u1" "3") ∈ c.known.entries) ∧
    (c.Knows "u2" ∧ (c.after [.init, .initApply (Sample.state "u1" "4"), .init]).Knows "u2") := by
  intro es c
  have hrelist : c.relist = some ⟨[("u1", Sample.state "u1" "3")]⟩ := by cbv
  have hknows : c.Knows "u2" := by
    refine ⟨Sample.state "u2" "2", ?_⟩
    have hentries : c.known.entries =
      [("u1", Sample.state "u1" "3"), ("u2", Sample.state "u2" "2")] := by cbv
    simp [hentries]
  have hlisted : ∀ e ∈ [WatchEvent.initApply (Sample.state "u1" "4")], e ≠ .initDone := by simp
  have hkept : ∀ e ∈ [WatchEvent.initApply (Sample.state "u1" "4")], ¬ e.Removes "u2" := by
    simp [Removes]
  obtain ⟨_, hwithin, _, _, habandoned⟩ := relist_within_known es
  refine ⟨⟨hrelist, ?_⟩, hknows, ?_⟩
  · exact (hwithin _ hrelist "u1" (Sample.state "u1" "3") (by simp)).2
  · exact (habandoned _ hlisted).2 "u2" hknows hkept

end Classifier

end MountOwnership
