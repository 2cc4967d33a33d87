import Mathlib.Data.List.Induction
import Mathlib.Tactic.Common
import MountOwnership.Classifier

/-!
# What the classifier makes of a history

A classifier that has taken in a history of reports knows an object under a uid if the
history remembers it (`WatchEvent.Remembered`): the object was observed, and since then
it was neither observed again nor removed, and no list began and came to its end.
While a list is open, the classifier holds beside it what the list has had since its
beginning.  `Classifier.Tracks` says both, and every report keeps it.

So what is said of an object that is observed depends on the history alone
(`Classifier.classifyAll_history`).
-/

namespace MountOwnership

/-! ### What a history remembers -/

namespace WatchEvent

/-- The object whose present state a report gives. -/
def observed? : WatchEvent → Option ReplicaSet
  | .apply rs | .initApply rs => some rs
  | .delete _ | .init | .initDone => none

/-- A report gives the present state of the object of a uid. -/
def Observes (e : WatchEvent) (uid : String) (rs : ReplicaSet) : Prop :=
  e.observed? = some rs ∧ rs.metadata.uid = some uid

/-- A report says that the object of a uid is gone. -/
def Removes (e : WatchEvent) (uid : String) : Prop :=
  ∃ rs, e = .delete rs ∧ rs.metadata.uid = some uid

/-- A report is the beginning or the end of a list. -/
def IsMark (e : WatchEvent) : Prop := e = .init ∨ e = .initDone

/-- Among some reports, a list begins and comes to its end. -/
def Relisted (es : List WatchEvent) : Prop :=
  ∃ before listed after, es = before ++ .init :: (listed ++ .initDone :: after) ∧
    ∀ e ∈ listed, ¬ e.IsMark

/-- An object was observed under a uid, and the reports since then observe nothing under it. -/
structure LastObserved (es : List WatchEvent) (uid : String) (old : ReplicaSet)
    (since : List WatchEvent) : Prop where
  split : ∃ before e, es = before ++ e :: since ∧ e.Observes uid old
  latest : ∀ e ∈ since, ∀ rs, ¬ e.Observes uid rs

/-- An object was observed under a uid last, and since then the uid was not removed, and no list
began and came to its end. -/
def Remembered (es : List WatchEvent) (uid : String) (old : ReplicaSet) : Prop :=
  ∃ since, LastObserved es uid old since ∧ (∀ e ∈ since, ¬ e.Removes uid) ∧ ¬ Relisted since

/-! ### One more report -/

variable {es : List WatchEvent} {e : WatchEvent} {uid : String} {rs old : ReplicaSet}

/-- A place in a history with one more report is the last one, or a place in the history. -/
lemma append_singleton_eq_split {before since : List WatchEvent} {x : WatchEvent} :
    es ++ [e] = before ++ x :: since ↔
      (since = [] ∧ x = e ∧ es = before) ∨
        ∃ since', since = since' ++ [e] ∧ es = before ++ x :: since' := by
  constructor
  · intro h
    rcases List.eq_nil_or_concat since with rfl | ⟨since', last, rfl⟩
    · obtain ⟨hes, he⟩ := List.append_inj' h rfl
      exact Or.inl ⟨rfl, (List.singleton_inj.mp he).symm, hes⟩
    · have hlast : es ++ [e] = (before ++ x :: since') ++ [last] := by simpa using h
      obtain ⟨hes, he⟩ := List.append_inj' hlast rfl
      exact Or.inr ⟨since', by rw [List.singleton_inj.mp he, List.concat_eq_append], hes⟩
  · rintro (⟨rfl, rfl, rfl⟩ | ⟨since', rfl, rfl⟩)
    · rfl
    · simp

/-- A list has begun, and neither has it come to its end nor has another one begun. -/
def Listing (es : List WatchEvent) : Prop :=
  ∃ before listed, es = before ++ .init :: listed ∧ ∀ e ∈ listed, ¬ e.IsMark

/-- The list that the last report brings to its end has begun before. -/
lemma relisted_append_singleton :
    Relisted (es ++ [e]) ↔ Relisted es ∨ (e = .initDone ∧ Listing es) := by
  constructor
  · rintro ⟨before, listed, after, hes, hlisted⟩
    have hsplit : es ++ [e] = (before ++ .init :: listed) ++ .initDone :: after := by
      simpa using hes
    rcases append_singleton_eq_split.mp hsplit with ⟨_, he, hes'⟩ | ⟨after', _, hes'⟩
    · exact Or.inr ⟨he.symm, before, listed, hes', hlisted⟩
    · exact Or.inl ⟨before, listed, after', by simpa using hes', hlisted⟩
  · rintro (⟨before, listed, after, rfl, hlisted⟩ | ⟨rfl, before, listed, rfl, hlisted⟩)
    · exact ⟨before, listed, after ++ [e], by simp, hlisted⟩
    · exact ⟨before, listed, [], by simp, hlisted⟩

/-- A list is open after one more report if that begins it, or is no mark and the list was open. -/
lemma listing_append_singleton :
    Listing (es ++ [e]) ↔ e = .init ∨ (¬ e.IsMark ∧ Listing es) := by
  constructor
  · rintro ⟨before, listed, hes, hlisted⟩
    rcases append_singleton_eq_split.mp hes with ⟨_, he, _⟩ | ⟨listed', rfl, hes'⟩
    · exact Or.inl he.symm
    · have hlisted' : ∀ x ∈ listed', ¬ x.IsMark := fun x hx => hlisted x (by simp [hx])
      exact Or.inr ⟨hlisted e (by simp), before, listed', hes', hlisted'⟩
  · rintro (rfl | ⟨he, before, listed, rfl, hlisted⟩)
    · exact ⟨es, [], rfl, by simp⟩
    · refine ⟨before, listed ++ [e], by simp, fun x hx => ?_⟩
      rcases List.mem_append.mp hx with hx | hx
      · exact hlisted x hx
      · exact List.mem_singleton.mp hx ▸ he

/-- The end of a list closes it. -/
lemma not_listing_append_initDone : ¬ Listing (es ++ [.initDone]) := by
  rw [listing_append_singleton]
  rintro (h | ⟨hmark, _⟩)
  · exact nomatch h
  · exact hmark (Or.inr rfl)

/-- An object was observed under a uid last, and since then the uid was not removed, and the
reports meet a condition. -/
def Stands (ok : List WatchEvent → Prop) (es : List WatchEvent) (uid : String)
    (old : ReplicaSet) : Prop :=
  ∃ since, LastObserved es uid old since ∧ (∀ e ∈ since, ¬ e.Removes uid) ∧ ok since

/-- Nothing stands at the beginning. -/
lemma not_stands_nil {ok : List WatchEvent → Prop} : ¬ Stands ok [] uid old := by
  rintro ⟨since, ⟨⟨before, e, hes, _⟩, _⟩, _⟩
  exact List.append_ne_nil_of_right_ne_nil before (List.cons_ne_nil e since) hes.symm

/-- What stands depends on the condition for the ends of the history alone. -/
lemma Stands.congr {ok ok' : List WatchEvent → Prop}
    (h : ∀ before since, es = before ++ since → (ok since ↔ ok' since)) :
    Stands ok es uid old ↔ Stands ok' es uid old := by
  refine exists_congr fun since => and_congr_right fun hlast => and_congr_right fun _ => ?_
  obtain ⟨before, e, hes, _⟩ := hlast.split
  exact h (before ++ [e]) since (by simpa using hes)

/-- After one more report there stands what it observes, and what stood and is not touched by it. -/
lemma stands_append_singleton {ok : List WatchEvent → Prop} :
    Stands ok (es ++ [e]) uid old ↔ (e.Observes uid old ∧ ok []) ∨
      ((∀ rs, ¬ e.Observes uid rs) ∧ ¬ e.Removes uid ∧
        Stands (fun since => ok (since ++ [e])) es uid old) := by
  constructor
  · rintro ⟨since, ⟨⟨before, e', hes, hobs⟩, hlatest⟩, hkept, hok⟩
    rcases append_singleton_eq_split.mp hes with ⟨rfl, rfl, _⟩ | ⟨since', rfl, hes'⟩
    · exact Or.inl ⟨hobs, hok⟩
    · refine Or.inr ⟨hlatest e (by simp), hkept e (by simp), since', ⟨⟨before, e', hes', hobs⟩, ?_⟩,
        fun x hx => hkept x (by simp [hx]), hok⟩
      exact fun x hx => hlatest x (by simp [hx])
  · rintro (⟨hobs, hok⟩ | ⟨hobs, hremoves, since, ⟨⟨before, e', rfl, hobs'⟩, hlatest⟩, hkept, hok⟩)
    · exact ⟨[], ⟨⟨es, e, rfl, hobs⟩, by simp⟩, by simp, hok⟩
    · refine ⟨since ++ [e], ⟨⟨before, e', by simp, hobs'⟩, fun x hx => ?_⟩, fun x hx => ?_, hok⟩
      · rcases List.mem_append.mp hx with hx | hx
        · exact hlatest x hx
        · exact List.mem_singleton.mp hx ▸ hobs
      · rcases List.mem_append.mp hx with hx | hx
        · exact hkept x hx
        · exact List.mem_singleton.mp hx ▸ hremoves

/-- The end of a list leaves remembered what the list has had, and nothing else. -/
lemma remembered_append_initDone (before : List WatchEvent) {listed : List WatchEvent}
    (hlisted : ∀ e ∈ listed, ¬ e.IsMark) :
    Remembered (before ++ .init :: listed ++ [.initDone]) uid old ↔
      Stands (fun _ => True) listed uid old := by
  constructor
  · rintro ⟨since, ⟨⟨before', e, hes, hobs⟩, hlatest⟩, hkept, hno⟩
    have hmark : ¬ e.IsMark := by
      rintro (rfl | rfl) <;> exact nomatch hobs.1
    rcases append_singleton_eq_split.mp hes with ⟨_, rfl, _⟩ | ⟨since', rfl, hes'⟩
    · exact absurd (Or.inr rfl) hmark
    · rcases List.append_eq_append_iff.mp hes' with ⟨gap, hbefore, htail⟩ | ⟨gap, hbefore, htail⟩
      · -- observed since the list began
        cases gap with
        | nil => exact absurd (Or.inl (List.cons.inj htail).1.symm) hmark
        | cons mark listed' =>
          refine ⟨since', ⟨⟨listed', e, (List.cons.inj htail).2, hobs⟩, ?_⟩, ?_, trivial⟩
          · exact fun x hx => hlatest x (by simp [hx])
          · exact fun x hx => hkept x (by simp [hx])
      · -- observed before it began, so the list began and came to its end since then
        cases gap with
        | nil => exact absurd (Or.inl (List.cons.inj htail).1) hmark
        | cons e' gap =>
          refine absurd ⟨gap, listed, [], ?_, hlisted⟩ hno
          rw [(List.cons.inj htail).2]
          simp
  · rintro ⟨since, ⟨⟨before', e, rfl, hobs⟩, hlatest⟩, hkept, _⟩
    have hmarks : ∀ x ∈ since, ¬ x.IsMark := fun x hx => hlisted x (by simp [hx])
    refine ⟨since ++ [.initDone], ⟨⟨before ++ .init :: before', e, by simp, hobs⟩, ?_⟩, ?_, ?_⟩
    · intro x hx
      rcases List.mem_append.mp hx with hx | hx
      · exact hlatest x hx
      · exact List.mem_singleton.mp hx ▸ fun _ h => nomatch h.1
    · intro x hx
      rcases List.mem_append.mp hx with hx | hx
      · exact hkept x hx
      · rintro ⟨_, rfl, _⟩
        exact nomatch List.mem_singleton.mp hx
    · rintro ⟨before'', listed', after, hes, _⟩
      have hinit : WatchEvent.init ∈ since ++ [.initDone] := by rw [hes]; simp
      rcases List.mem_append.mp hinit with hx | hx
      · exact hmarks _ hx (Or.inl rfl)
      · exact nomatch List.mem_singleton.mp hx

/-- A report that brings no list to its end leaves remembered what it observes, and what was
remembered and is not touched by it. -/
lemma remembered_append_singleton (h : e = .initDone → ¬ Listing es) :
    Remembered (es ++ [e]) uid old ↔ e.Observes uid old ∨
      ((∀ rs, ¬ e.Observes uid rs) ∧ ¬ e.Removes uid ∧ Remembered es uid old) := by
  have hnil : ¬ Relisted [] := by
    rintro ⟨before, listed, after, hes, _⟩
    exact List.append_ne_nil_of_right_ne_nil before (List.cons_ne_nil _ _) hes.symm
  have hsince : Stands (fun since => ¬ Relisted (since ++ [e])) es uid old ↔
      Remembered es uid old := by
    refine Stands.congr fun before since hes => not_congr ?_
    rw [relisted_append_singleton]
    refine or_iff_left ?_
    rintro ⟨he, before', listed, rfl, hlisted⟩
    exact h he ⟨before ++ before', listed, by simpa using hes, hlisted⟩
  refine stands_append_singleton.trans ?_
  rw [hsince, and_iff_left hnil]

/-- What was observed once was observed last at some time, which was not before. -/
lemma exists_lastObserved (h : e.Observes uid rs) (before between : List WatchEvent) :
    ∃ old since, LastObserved (before ++ e :: between) uid old since ∧ since <:+ between := by
  induction between using List.reverseRecOn with
  | nil => exact ⟨rs, [], ⟨⟨before, e, rfl, h⟩, by simp⟩, List.nil_suffix⟩
  | append_singleton between last ih =>
    by_cases hlast : ∃ rs', last.Observes uid rs'
    · obtain ⟨rs', hrs'⟩ := hlast
      exact ⟨rs', [], ⟨⟨before ++ e :: between, last, by simp, hrs'⟩, by simp⟩, List.nil_suffix⟩
    · obtain ⟨old, since, ⟨⟨before', e', hes, hobs⟩, hlatest⟩, hsince⟩ := ih
      refine ⟨old, since ++ [last], ⟨⟨before', e', ?_, hobs⟩, fun x hx => ?_⟩, ?_⟩
      · simpa using congrArg (· ++ [last]) hes
      · rcases List.mem_append.mp hx with hx | hx
        · exact hlatest x hx
        · exact List.mem_singleton.mp hx ▸ not_exists.mp hlast
      · exact List.suffix_append_self_iff.mpr hsince

/-- A uid is removed among some reports, or a list begins and comes to its end without it. -/
def Renewed (between : List WatchEvent) (uid : String) : Prop :=
  (∃ e ∈ between, e.Removes uid) ∨
    ∃ before listed after, between = before ++ .init :: (listed ++ .initDone :: after) ∧
      ∀ e ∈ listed, ¬ e.IsMark ∧ ∀ rs, ¬ e.Observes uid rs

/-- A uid that was observed is renewed when the history has ceased to remember it. -/
lemma renewed_of_not_remembered {before between : List WatchEvent} (h : e.Observes uid rs)
    (hnot : ∀ old, ¬ Remembered (before ++ e :: between) uid old) : Renewed between uid := by
  obtain ⟨old, since, hlast, earlier, rfl⟩ := exists_lastObserved h before between
  by_cases hremoved : ∃ e ∈ since, e.Removes uid
  · obtain ⟨e', he', hremoves⟩ := hremoved
    exact Or.inl ⟨e', List.mem_append_right _ he', hremoves⟩
  · have hkept : ∀ e ∈ since, ¬ e.Removes uid := fun e he hremoves => hremoved ⟨e, he, hremoves⟩
    have hrelisted : Relisted since := not_not.mp fun hno => hnot old ⟨since, hlast, hkept, hno⟩
    obtain ⟨before', listed, after, rfl, hlisted⟩ := hrelisted
    refine Or.inr ⟨earlier ++ before', listed, after, by simp, fun x hx => ⟨hlisted x hx, ?_⟩⟩
    exact hlast.latest x (by simp [hx])

/-! ### What a report does to a table of objects -/

/-- A report of a state observes its object under the uid of that object. -/
@[simp] lemma apply_observes :
    (apply rs).Observes uid old ↔ rs = old ∧ rs.metadata.uid = some uid := by
  unfold Observes observed?
  rw [Option.some_inj]
  exact and_congr_right fun h => h ▸ Iff.rfl

/-- So does a state in a list. -/
@[simp] lemma initApply_observes :
    (initApply rs).Observes uid old ↔ rs = old ∧ rs.metadata.uid = some uid := apply_observes

/-- A removal observes nothing. -/
@[simp] lemma delete_observes : ¬ (delete rs).Observes uid old := fun h => nomatch h.1

/-- The beginning of a list observes nothing. -/
@[simp] lemma init_observes : ¬ init.Observes uid old := fun h => nomatch h.1

/-- The end of a list observes nothing. -/
@[simp] lemma initDone_observes : ¬ initDone.Observes uid old := fun h => nomatch h.1

/-- A removal removes the uid of its object. -/
@[simp] lemma delete_removes : (delete rs).Removes uid ↔ rs.metadata.uid = some uid := by
  simp [Removes]

/-- What a report that is no mark makes of a table of objects by uid. -/
def enter : WatchEvent → Table String ReplicaSet → Table String ReplicaSet
  | .apply rs | .initApply rs =>
    match rs.metadata.uid with
    | some uid => fun t => t.insert uid rs
    | none => id
  | .delete rs =>
    match rs.metadata.uid with
    | some uid => fun t => t.erase uid
    | none => id
  | .init | .initDone => id

/-- A table has what the report observes, and what it had and the report does not touch. -/
lemma get?_enter (t : Table String ReplicaSet) :
    (e.enter t).get? uid = some old ↔ e.Observes uid old ∨
      ((∀ rs, ¬ e.Observes uid rs) ∧ ¬ e.Removes uid ∧ t.get? uid = some old) := by
  cases e with
  | apply rs | initApply rs =>
    cases huid : rs.metadata.uid with
    | none => simp [enter, huid, Removes]
    | some uid' =>
      by_cases hk : uid' = uid
      · simp [enter, huid, hk, Removes]
      · simp [enter, huid, hk, Removes]
  | delete rs =>
    cases huid : rs.metadata.uid with
    | none => simp [enter, huid]
    | some uid' => simp [enter, huid]
  | init | initDone => simp [enter, Removes]

end WatchEvent

namespace Classifier

open WatchEvent

variable {c : Classifier} {es : List WatchEvent} {e : WatchEvent}

/-- A report that is no mark is entered into both tables. -/
lemma classify_of_not_isMark (he : ¬ e.IsMark) (c : Classifier) :
    (c.classify e).1 = ⟨e.enter c.known, c.relist.map e.enter⟩ := by
  cases e with
  | apply rs | initApply rs =>
    cases huid : rs.metadata.uid with
    | none => simp [classify, observe, enter, huid]
    | some uid =>
      cases hget : c.known.get? uid with
      | none => simp [classify, observe, enter, huid, hget]
      | some old => simp [classify, observe, enter, huid, hget]
  | delete rs =>
    cases huid : rs.metadata.uid with
    | none => simp [classify, forget, enter, huid]
    | some uid => simp [classify, forget, enter, huid]
  | init => exact absurd (Or.inl rfl) he
  | initDone => exact absurd (Or.inr rfl) he

/-! ### The classifier keeps what the history remembers -/

/-- A classifier knows what a history remembers, and while a list is open, it holds what stands
since the beginning of the list. -/
structure Tracks (c : Classifier) (es : List WatchEvent) : Prop where
  known : ∀ uid old, c.known.get? uid = some old ↔ Remembered es uid old
  not_listing : c.relist = none → ¬ Listing es
  relist : ∀ t, c.relist = some t → ∃ before listed, es = before ++ .init :: listed ∧
    (∀ e ∈ listed, ¬ e.IsMark) ∧
    ∀ uid old, t.get? uid = some old ↔ Stands (fun _ => True) listed uid old

/-- A new classifier knows nothing. -/
lemma tracks_nil : ({} : Classifier).Tracks [] where
  known uid old := iff_of_false nofun not_stands_nil
  not_listing _ := by
    rintro ⟨before, listed, hes, _⟩
    exact List.append_ne_nil_of_right_ne_nil before (List.cons_ne_nil _ _) hes.symm
  relist _ h := nomatch h

/-- Every report keeps what the classifier knows in line with the history. -/
lemma Tracks.classify (h : c.Tracks es) (e : WatchEvent) :
    (c.classify e).1.Tracks (es ++ [e]) := by
  by_cases he : e.IsMark
  · rcases he with rfl | rfl
    · -- a list begins with nothing in it
      refine ⟨fun uid old => ?_, nofun, ?_⟩
      · rw [remembered_append_singleton (e := .init) fun hdone => nomatch hdone]
        simpa [Classifier.classify, Removes] using h.known uid old
      · rintro t ⟨⟩
        exact ⟨es, [], rfl, by simp, fun uid old => iff_of_false nofun not_stands_nil⟩
    · cases hrelist : c.relist with
      | none =>
        -- there is no list to be brought to its end
        refine ⟨fun uid old => ?_, fun _ => ?_, nofun⟩
        · rw [remembered_append_singleton fun _ => h.not_listing hrelist]
          simpa [Classifier.classify, Removes, hrelist] using h.known uid old
        · exact not_listing_append_initDone
      | some t =>
        obtain ⟨before, listed, rfl, hlisted, ht⟩ := h.relist t hrelist
        refine ⟨fun uid old => ?_, fun _ => ?_, nofun⟩
        · rw [remembered_append_initDone before hlisted]
          simpa [Classifier.classify, hrelist] using ht uid old
        · exact not_listing_append_initDone
  · rw [classify_of_not_isMark he]
    refine ⟨fun uid old => ?_, fun hnone => ?_, fun t ht => ?_⟩
    · rw [get?_enter, h.known, remembered_append_singleton fun hdone => absurd (Or.inr hdone) he]
    · rw [listing_append_singleton]
      rintro (hinit | ⟨_, hlisting⟩)
      · exact he (Or.inl hinit)
      · exact h.not_listing (Option.map_eq_none_iff.mp hnone) hlisting
    · obtain ⟨t', ht', rfl⟩ := Option.map_eq_some_iff.mp ht
      obtain ⟨before, listed, rfl, hlisted, hget⟩ := h.relist t' ht'
      refine ⟨before, listed ++ [e], by simp, fun x hx => ?_, fun uid old => ?_⟩
      · rcases List.mem_append.mp hx with hx | hx
        · exact hlisted x hx
        · exact List.mem_singleton.mp hx ▸ he
      · rw [get?_enter, hget, stands_append_singleton, and_true]

/-- The classifier after reports. -/
def after (c : Classifier) (es : List WatchEvent) : Classifier :=
  es.foldl (fun c e => (c.classify e).1) c

/-- Histories are taken in one after the other. -/
lemma after_append (c : Classifier) (es es' : List WatchEvent) :
    c.after (es ++ es') = (c.after es).after es' := List.foldl_append

/-- A new classifier that has taken in a history knows what the history remembers. -/
lemma tracks_after (es : List WatchEvent) : (({} : Classifier).after es).Tracks es := by
  induction es using List.reverseRecOn with
  | nil => exact tracks_nil
  | append_singleton es e ih =>
    rw [after_append]
    exact ih.classify e

/-! ### What is said of each report -/

/-- What is said of later reports follows what is said of earlier ones. -/
lemma classifyAll_append (c : Classifier) (es es' : List WatchEvent) :
    c.classifyAll (es ++ es') = c.classifyAll es ++ (c.after es).classifyAll es' := by
  induction es generalizing c with
  | nil => rfl
  | cons e es ih => exact congrArg _ (ih (c.classify e).1)

/-- Something is said of every report. -/
lemma length_classifyAll (c : Classifier) (es : List WatchEvent) :
    (c.classifyAll es).length = es.length := by
  induction es generalizing c with
  | nil => rfl
  | cons e es ih => exact congrArg Nat.succ (ih (c.classify e).1)

/-- What is said of a report is what the classifier makes of it after the reports before it. -/
lemma getElem?_classifyAll (c : Classifier) (before later : List WatchEvent) (e : WatchEvent) :
    (c.classifyAll (before ++ e :: later))[before.length]? =
      some ((c.after before).classify e).2 := by
  rw [classifyAll_append, List.getElem?_append_right (Nat.le_of_eq (length_classifyAll c before)),
    length_classifyAll, Nat.sub_self]
  rfl

/-- An object that is observed was updated if the classifier knows it, and created if not. -/
lemma classify_of_observes {uid : String} {rs : ReplicaSet} (h : e.Observes uid rs)
    (c : Classifier) :
    (c.classify e).2 = some (match c.known.get? uid with
      | some old => .update (.workload old) (.workload rs)
      | none => .create (.workload rs)) := by
  cases e with
  | apply rs' | initApply rs' =>
    obtain ⟨rfl, huid⟩ := apply_observes.mp h
    cases hget : c.known.get? uid with
    | none => simp [classify, observe, huid, hget]
    | some old => simp [classify, observe, huid, hget]
  | delete rs' => exact absurd h delete_observes
  | init => exact absurd h init_observes
  | initDone => exact absurd h initDone_observes

/-- An object without a uid that is observed leaves the classifier as it is. -/
lemma classify_of_observed? {rs : ReplicaSet} (h : e.observed? = some rs)
    (huid : rs.metadata.uid = none) (c : Classifier) :
    c.classify e = (c, some (.generic (.workload rs))) := by
  cases e with
  | apply rs' | initApply rs' =>
    obtain rfl := Option.some.inj h
    simp [classify, observe, huid]
  | delete rs' => exact nomatch h
  | init | initDone => exact nomatch h

/-- An object without a uid that is gone leaves the classifier as it is. -/
lemma classify_delete {rs : ReplicaSet} (huid : rs.metadata.uid = none) (c : Classifier) :
    c.classify (.delete rs) = (c, some (.delete (.workload rs))) := by
  simp [classify, forget, huid]

/-- A report that leaves the classifier as it is has no part in what is said of other reports. -/
lemma classifyAll_eraseIdx {c : Classifier} {before : List WatchEvent}
    (h : ((c.after before).classify e).1 = c.after before) (later : List WatchEvent) :
    (c.classifyAll (before ++ e :: later)).eraseIdx before.length =
      c.classifyAll (before ++ later) := by
  have hlength := length_classifyAll c before
  rw [classifyAll_append, classifyAll_append,
    List.eraseIdx_append_of_length_le (Nat.le_of_eq hlength), hlength, Nat.sub_self]
  change _ ++ ((c.after before).classify e).1.classifyAll later = _
  rw [h]

/-- A classifier knows nothing under a uid under which the history remembers nothing. -/
lemma Tracks.get?_eq_none {uid : String} (h : c.Tracks es)
    (hnone : ∀ old, ¬ Remembered es uid old) : c.known.get? uid = none :=
  Option.eq_none_iff_forall_ne_some.mpr fun old hold => hnone old ((h.known uid old).mp hold)

/-- **Histories.**  Whatever a new classifier has taken in before, it says of an object that it
observes under a uid that it was updated exactly if the history remembers an object under this
uid, and then that object is the old one; else it says that the object was created.  Of an object
without a uid it says that something happened to it, or that it is gone, and what it says of the
other reports is as if this one had not come. -/
theorem classifyAll_history (before later : List WatchEvent) (e : WatchEvent) (rs : ReplicaSet) :
    let said := (classifyAll {} (before ++ e :: later))[before.length]?
    (∀ uid, e.Observes uid rs →
      ((∃ old new, said = some (some (.update old new))) ↔ ∃ old, Remembered before uid old) ∧
      (∀ old, Remembered before uid old →
        said = some (some (.update (.workload old) (.workload rs)))) ∧
      ((∀ old, ¬ Remembered before uid old) → said = some (some (.create (.workload rs))))) ∧
    (rs.metadata.uid = none →
      (e.observed? = some rs → said = some (some (.generic (.workload rs)))) ∧
      (e = .delete rs → said = some (some (.delete (.workload rs)))) ∧
      (e.observed? = some rs ∨ e = .delete rs →
        (classifyAll {} (before ++ e :: later)).eraseIdx before.length =
          classifyAll {} (before ++ later))) := by
  intro said
  have hsaid : said = some ((({} : Classifier).after before).classify e).2 :=
    getElem?_classifyAll {} before later e
  refine ⟨fun uid hobs => ?_, fun huid => ⟨fun hobs => ?_, ?_, ?_⟩⟩
  · have htracks := tracks_after before
    rw [classify_of_observes hobs] at hsaid
    have hupdate : ∀ old, Remembered before uid old →
        said = some (some (.update (.workload old) (.workload rs))) := by
      intro old hold
      rw [hsaid, (htracks.known uid old).mpr hold]
    have hcreate : (∀ old, ¬ Remembered before uid old) →
        said = some (some (.create (.workload rs))) := by
      intro hnone
      rw [hsaid, htracks.get?_eq_none hnone]
    refine ⟨⟨?_, ?_⟩, hupdate, hcreate⟩
    · rintro ⟨old, new, hsaid'⟩
      by_contra hnone
      rw [hcreate (not_exists.mp hnone)] at hsaid'
      exact nomatch hsaid'
    · rintro ⟨old, hold⟩
      exact ⟨_, _, hupdate old hold⟩
  · rw [hsaid, classify_of_observed? hobs huid]
  · rintro rfl
    rw [hsaid, classify_delete huid]
  · rintro (hobs | rfl)
    · exact classifyAll_eraseIdx (congrArg Prod.fst (classify_of_observed? hobs huid _)) later
    · exact classifyAll_eraseIdx (congrArg Prod.fst (classify_delete huid _)) later

end Classifier

/-- An instant may be the beginning of a second. -/
lemma Sample.nano_lt : 0 < 2 * Time.nanosPerSecond := by decide

/-- The beginning of a second lies in no leap second. -/
lemma Sample.not_leap : ¬ Time.nanosPerSecond ≤ 0 := by decide

/-- The instant at which a second begins. -/
def Sample.instant (second : Int) : Time.Instant :=
  ⟨second, 0, Sample.nano_lt, fun h => absurd h Sample.not_leap⟩

/-- A state of a ReplicaSet that has a version and may have a uid. -/
def Sample.state (uid : Option String) (version : String) : ReplicaSet where
  metadata :=
    { name := some "app-rs"
      uid := uid
      resourceVersion := some version
      creationTimestamp := some (Sample.instant 1735693200) }

namespace Classifier

open WatchEvent

/-- An object that a list had is updated after the list, though it was known before the list too;
one that the list did not have is created again; and one without a uid counts for nothing. -/
theorem classifyAll_history_app_rs :
    (Remembered [.apply (Sample.state "u1" "1"), .init, .initApply (Sample.state "u1" "2"),
        .initDone] "u1" (Sample.state "u1" "2") ∧
      (classifyAll {} [.apply (Sample.state "u1" "1"), .init, .initApply (Sample.state "u1" "2"),
        .initDone, .apply (Sample.state "u1" "3")])[4]? =
        some (some (.update (.workload (Sample.state "u1" "2"))
          (.workload (Sample.state "u1" "3"))))) ∧
    ((∀ old, ¬ Remembered [.apply (Sample.state "u1" "1"), .init, .initDone] "u1" old) ∧
      (classifyAll {} [.apply (Sample.state "u1" "1"), .init, .initDone,
        .apply (Sample.state "u1" "3")])[3]? =
        some (some (.create (.workload (Sample.state "u1" "3"))))) ∧
    (classifyAll {} [.apply (Sample.state none "1"), .apply (Sample.state "u1" "2")]).eraseIdx 0 =
      classifyAll {} [.apply (Sample.state "u1" "2")] := by
  have hnone : ∀ e ∈ ([] : List WatchEvent), ¬ e.IsMark := by simp
  have hone : ∀ e ∈ [WatchEvent.initApply (Sample.state "u1" "2")], ¬ e.IsMark := by simp [IsMark]
  have hlisted : Remembered [.apply (Sample.state "u1" "1"), .init,
      .initApply (Sample.state "u1" "2"), .initDone] "u1" (Sample.state "u1" "2") := by
    refine (remembered_append_initDone [.apply (Sample.state "u1" "1")] hone).mpr ?_
    exact ⟨[], ⟨⟨[], _, rfl, rfl, rfl⟩, by simp⟩, by simp, trivial⟩
  have hvanished : ∀ old,
      ¬ Remembered [.apply (Sample.state "u1" "1"), .init, .initDone] "u1" old := fun old =>
    mt (remembered_append_initDone [.apply (Sample.state "u1" "1")] hnone).mp not_stands_nil
  refine ⟨⟨hlisted, ?_⟩, ⟨hvanished, ?_⟩, ?_⟩
  · exact ((classifyAll_history _ [] (.apply (Sample.state "u1" "3")) _).1 "u1"
      ⟨rfl, rfl⟩).2.1 _ hlisted
  · exact ((classifyAll_history _ [] (.apply (Sample.state "u1" "3")) _).1 "u1"
      ⟨rfl, rfl⟩).2.2 hvanished
  · exact ((classifyAll_history [] [.apply (Sample.state "u1" "2")]
      (.apply (Sample.state none "1")) _).2 rfl).2.2 (Or.inl rfl)

end Classifier

end MountOwnership
