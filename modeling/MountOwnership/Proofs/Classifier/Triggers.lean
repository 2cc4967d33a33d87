import Mathlib.Data.List.Basic
import Mathlib.Data.List.Induction
import Mathlib.Tactic.Common
import MountOwnership.Proofs.Classifier.History
import MountOwnership.Triggers

/-!
# What a stream of reports yields

A stream yields its faults, and of its reports the objects that a new classifier takes
for created and that are newer than the start.  What it is to yield at a place is said
by `Classifier.yieldAt` from what the classifier says of the reports alone; that the
stream yields just this, in order, is `Classifier.admittedCreations_eq`.

The log tells the key of every object that is yielded, and, if it shows trace lines, of
every object that a report is about (`Classifier.told`).  An object without a name has no
key, so the stream ends with a fault if one of these has none.

An object is created a second time only if the history has ceased to remember it.  So
between two yields of one uid the object is removed, or a list begins and comes to its
end without it (`Classifier.renewed_between`).
-/

namespace MountOwnership

namespace WatchStream

variable {α : Type}

/-- The items of a stream that are no faults. -/
def values (items : List (Except WatchFault α)) : List α := items.filterMap Except.toOption

/-- The faults of a stream. -/
def faults (items : List (Except WatchFault α)) : List WatchFault :=
  items.filterMap fun
    | .error fault => some fault
    | .ok _ => none

/-- The values of two streams in a row are those of the first and then those of the second. -/
lemma values_append (items items' : List (Except WatchFault α)) :
    values (items ++ items') = values items ++ values items' := List.filterMap_append

/-- A value at the end is the last one. -/
@[simp] lemma values_append_ok (items : List (Except WatchFault α)) (a : α) :
    values (items ++ [.ok a]) = values items ++ [a] := values_append items [.ok a]

/-- A fault at the end adds no value. -/
@[simp] lemma values_append_error (items : List (Except WatchFault α)) (fault : WatchFault) :
    values (items ++ [.error fault]) = values items :=
  (values_append items [.error fault]).trans (List.append_nil _)

/-- The values of a stream are the items that carry them. -/
lemma mem_values_iff {items : List (Except WatchFault α)} {a : α} :
    a ∈ values items ↔ .ok a ∈ items := by
  unfold values
  rw [List.mem_filterMap]
  constructor
  · rintro ⟨item, hitem, ha⟩
    cases item with
    | error fault => exact nomatch ha
    | ok a' =>
      obtain rfl := Option.some.inj ha
      exact hitem
  · exact fun ha => ⟨.ok a, ha, rfl⟩

/-- The faults of two streams in a row are those of the first and then those of the second. -/
lemma faults_append (items items' : List (Except WatchFault α)) :
    faults (items ++ items') = faults items ++ faults items' := List.filterMap_append

end WatchStream

/-- The object that a report is about, if it is about one. -/
def WatchEvent.object? : WatchEvent → Option ReplicaSet
  | .apply rs | .initApply rs | .delete rs => some rs
  | .init | .initDone => none

namespace Classifier

open WatchEvent WatchStream

variable {tracing : Bool} {start : Time.Instant} {items : List WatchItem} {es : List WatchEvent}
  {e : WatchEvent} {uid : String} {rs : ReplicaSet}

/-! ### What is to be yielded -/

/-- The object of a report of which it is said that it was created, if it is newer than the
start. -/
def created? (start : Time.Instant) (e : WatchEvent) : Option WorkloadEvent → Option ReplicaSet
  | some (.create _) => e.observed?.filter fun rs => rs.metadata.isCreatedAfter start
  | _ => none

/-- The object of the report at a place, if a new classifier takes it for created and it is newer
than the start. -/
def createdAt (start : Time.Instant) (es : List WatchEvent) (n : Nat) : Option ReplicaSet :=
  match es[n]?, (classifyAll {} es)[n]? with
  | some e, some said => created? start e said
  | _, _ => none

/-- The objects that a new classifier takes for created and that are newer than the start. -/
def created (start : Time.Instant) (es : List WatchEvent) : List ReplicaSet :=
  (List.range es.length).filterMap (createdAt start es)

/-- The objects whose keys the log tells: those that are created, and if trace lines are shown, all
that the reports are about. -/
def told (tracing : Bool) (start : Time.Instant) (es : List WatchEvent) : List ReplicaSet :=
  created start es ++ if tracing then es.filterMap object? else []

/-- The objects of one report whose keys the log tells. -/
def toldOf (tracing : Bool) (start : Time.Instant) (e : WatchEvent) (said : Option WorkloadEvent) :
    List ReplicaSet :=
  (created? start e said).toList ++ if tracing then e.object?.toList else []

/-- What a stream is to yield at a place: a fault as it is, and of a report its object, if that is
created in the reports alone. -/
def yieldAt (start : Time.Instant) (items : List WatchItem) (n : Nat) : Option Trigger :=
  match items[n]? with
  | some (.ok _) => (createdAt start (values items) (values (items.take n)).length).map .ok
  | some (.error fault) => some (.error fault)
  | none => none

/-- What a stream is to yield, in order. -/
def yields (start : Time.Instant) (items : List WatchItem) : List Trigger :=
  (List.range items.length).filterMap (yieldAt start items)

/-! ### One more item -/

/-- What is found at one more place comes after what is found at the places before. -/
lemma filterMap_range_succ {α : Type} {f g : Nat → Option α} {n : Nat} (h : ∀ m < n, f m = g m) :
    (List.range (n + 1)).filterMap f = (List.range n).filterMap g ++ (f n).toList := by
  have hbefore : (List.range n).filterMap f = (List.range n).filterMap g :=
    List.filterMap_congr fun m hm => h m (List.mem_range.mp hm)
  rw [List.range_succ, List.filterMap_append, hbefore]
  cases hf : f n with
  | none => simp [hf]
  | some a => simp [hf]

/-- What is created at a place depends on the reports up to there. -/
lemma createdAt_append {n : Nat} (h : n < es.length) (later : List WatchEvent) :
    createdAt start (es ++ later) n = createdAt start es n := by
  unfold createdAt
  rw [List.getElem?_append_left h, classifyAll_append,
    List.getElem?_append_left (by rwa [length_classifyAll])]

/-- What is created at a place is what its report creates after the reports before it. -/
lemma createdAt_length (es later : List WatchEvent) (e : WatchEvent) :
    createdAt start (es ++ e :: later) es.length =
      created? start e ((({} : Classifier).after es).classify e).2 := by
  unfold createdAt
  rw [getElem?_classifyAll, List.getElem?_append_right (Nat.le_refl _), Nat.sub_self]
  rfl

/-- One more report adds the object that it creates. -/
lemma created_append_singleton (es : List WatchEvent) (e : WatchEvent) :
    created start (es ++ [e]) = created start es ++
      (created? start e ((({} : Classifier).after es).classify e).2).toList := by
  rw [← createdAt_length es [] e]
  unfold created
  rw [List.length_append, List.length_singleton]
  exact filterMap_range_succ fun n hn => createdAt_append hn [e]

/-- One more report adds the objects whose keys are told of it. -/
lemma mem_told_append_singleton (es : List WatchEvent) (e : WatchEvent) :
    rs ∈ told tracing start (es ++ [e]) ↔ rs ∈ told tracing start es ∨
      rs ∈ toldOf tracing start e ((({} : Classifier).after es).classify e).2 := by
  have hobject : [e].filterMap object? = e.object?.toList := by
    cases h : e.object? with
    | none => simp [h]
    | some rs' => simp [h]
  unfold told toldOf
  rw [created_append_singleton, List.filterMap_append, hobject]
  cases tracing with
  | true =>
    simp only [if_true, List.mem_append]
    exact or_or_or_comm
  | false => simp

/-- A report of a stream is one of its reports. -/
lemma length_values_take_lt {n : Nat} (h : items[n]? = some (.ok e)) :
    (values (items.take n)).length < (values items).length := by
  obtain ⟨hn, hitem⟩ := List.getElem?_eq_some_iff.mp h
  have hdrop : values (items.drop n) = e :: values (items.drop (n + 1)) := by
    rw [List.drop_eq_getElem_cons hn, hitem]
    rfl
  have hsplit : values items = values (items.take n) ++ e :: values (items.drop (n + 1)) := by
    rw [← hdrop, ← values_append, List.take_append_drop]
  rw [hsplit, List.length_append]
  exact Nat.lt_add_of_pos_right (Nat.succ_pos _)

/-- What is yielded at a place depends on the items up to there. -/
lemma yieldAt_append {n : Nat} (h : n < items.length) (later : List WatchItem) :
    yieldAt start (items ++ later) n = yieldAt start items n := by
  unfold yieldAt
  rw [List.getElem?_append_left h, List.take_append_of_le_length (Nat.le_of_lt h), values_append]
  cases hitem : items[n]? with
  | none => rfl
  | some item =>
    cases item with
    | error fault => rfl
    | ok e =>
      dsimp only
      rw [createdAt_append (length_values_take_lt hitem)]

/-- A report yields at its place what it creates after the reports before it. -/
lemma yieldAt_length_ok (items later : List WatchItem) (e : WatchEvent) :
    yieldAt start (items ++ .ok e :: later) items.length =
      (created? start e ((({} : Classifier).after (values items)).classify e).2).map .ok := by
  unfold yieldAt
  rw [List.getElem?_append_right (Nat.le_refl _), Nat.sub_self, List.take_left, values_append,
    ← createdAt_length (values items) (values later) e]
  rfl

/-- One more report yields the object that it creates. -/
lemma yields_append_ok (items : List WatchItem) (e : WatchEvent) :
    yields start (items ++ [.ok e]) = yields start items ++
      ((created? start e ((({} : Classifier).after (values items)).classify e).2).map
        .ok).toList := by
  rw [← yieldAt_length_ok items [] e]
  unfold yields
  rw [List.length_append, List.length_singleton]
  exact filterMap_range_succ fun n hn => yieldAt_append hn _

/-- One more fault is yielded as it is. -/
lemma yields_append_error (items : List WatchItem) (fault : WatchFault) :
    yields start (items ++ [.error fault]) = yields start items ++ [.error fault] := by
  have hlast : yieldAt start (items ++ [.error fault]) items.length = some (.error fault) := by
    simp [yieldAt]
  unfold yields
  rw [List.length_append, List.length_singleton,
    filterMap_range_succ fun n hn => yieldAt_append hn _, hlast]
  rfl

/-- What is yielded besides the faults depends on the reports alone. -/
lemma values_yields (start : Time.Instant) (items : List WatchItem) :
    values (yields start items) = created start (values items) := by
  induction items using List.reverseRecOn with
  | nil => rfl
  | append_singleton items item ih =>
    cases item with
    | error fault => rw [yields_append_error, values_append_error, values_append_error, ih]
    | ok e =>
      rw [yields_append_ok, values_append, values_append_ok, created_append_singleton, ih]
      congr 1
      cases created? start e ((({} : Classifier).after (values items)).classify e).2 <;> rfl

/-- Every fault is yielded. -/
lemma faults_yields (start : Time.Instant) (items : List WatchItem) :
    faults (yields start items) = faults items := by
  induction items using List.reverseRecOn with
  | nil => rfl
  | append_singleton items item ih =>
    cases item with
    | error fault => rw [yields_append_error, faults_append, faults_append, ih]; rfl
    | ok e =>
      rw [yields_append_ok, faults_append, faults_append, ih]
      congr 1
      cases created? start e ((({} : Classifier).after (values items)).classify e).2 <;> rfl

/-! ### What is yielded -/

/-- An object that is created was observed under a uid that the classifier does not know. -/
lemma observes_of_create {c : Classifier} {p : Payload}
    (h : (c.classify e).2 = some (.create p)) :
    ∃ rs uid, e.Observes uid rs ∧ p = .workload rs ∧ c.known.get? uid = none := by
  cases hobs : e.observed? with
  | none =>
    cases e with
    | apply rs | initApply rs => exact nomatch hobs
    | delete rs | init | initDone => exact nomatch h
  | some rs =>
    cases huid : rs.metadata.uid with
    | none =>
      rw [classify_of_observed? hobs huid] at h
      exact nomatch h
    | some uid =>
      rw [classify_of_observes ⟨hobs, huid⟩] at h
      cases hget : c.known.get? uid with
      | none =>
        rw [hget] at h
        cases h
        exact ⟨rs, uid, ⟨hobs, huid⟩, rfl, hget⟩
      | some old =>
        rw [hget] at h
        exact nomatch h

/-- What the classifier says of a report is about the object of the report. -/
lemma object?_eq_of_classify {c : Classifier} {said : WorkloadEvent}
    (h : (c.classify e).2 = some said) : e.object? = said.payload.workload? := by
  have hobserve : ∀ rs, (c.observe rs).2.payload = .workload rs := by
    intro rs
    unfold observe
    split
    · rfl
    · dsimp only
      split
      · rfl
      · rfl
  cases e with
  | apply rs | initApply rs =>
    obtain rfl := Option.some.inj h
    change some rs = (c.observe rs).2.payload.workload?
    rw [hobserve]
    rfl
  | delete rs =>
    obtain rfl := Option.some.inj h
    rfl
  | init | initDone => exact nomatch h

/-- The classifier says something of every report that is about an object. -/
lemma object?_eq_none_of_classify {c : Classifier} (h : (c.classify e).2 = none) :
    e.object? = none := by
  cases e with
  | apply rs | initApply rs | delete rs => exact nomatch h
  | init | initDone => rfl

/-- The object that is created by a report is that of the event, if the event is admitted. -/
lemma created?_eq_of_classify {c : Classifier} {said : WorkloadEvent}
    (h : (c.classify e).2 = some said) : created? start e (some said) =
      if said.isAdmitted start then said.payload.workload? else none := by
  cases said with
  | create p =>
    obtain ⟨rs, uid, hobs, rfl, _⟩ := observes_of_create h
    unfold created?
    rw [hobs.1, Option.filter_some]
    rfl
  | update old new | delete p | generic p => rfl

/-- All of some objects have names. -/
def AllNamed (objects : List ReplicaSet) : Prop := ∀ rs ∈ objects, rs.metadata.name ≠ none

instance (objects : List ReplicaSet) : Decidable (AllNamed objects) :=
  inferInstanceAs (Decidable (∀ rs ∈ objects, rs.metadata.name ≠ none))

/-- The key of an event is told, unless the event is about an object without a name. -/
lemma map_key (said : WorkloadEvent) (found : Option ReplicaSet) :
    (said.key.map fun _ => found) =
      if AllNamed said.payload.workload?.toList then .ok found else .error .noName := by
  unfold WorkloadEvent.key
  cases said.payload.workload? with
  | none => rfl
  | some rs =>
    dsimp only
    unfold ReplicaSet.key
    cases hname : rs.metadata.name with
    | none => simp [AllNamed, hname, Except.map]
    | some name => simp [AllNamed, hname, Except.map]

/-- An event that is admitted has its object for a trigger.  Its key is told if it is admitted or
trace lines are shown. -/
lemma admitted?_eq (said : WorkloadEvent) (tracing : Bool) (start : Time.Instant) :
    said.admitted? tracing start =
      if (said.isAdmitted start || tracing) = true → AllNamed said.payload.workload?.toList then
        .ok (if said.isAdmitted start then said.payload.workload? else none)
      else .error .noName := by
  unfold WorkloadEvent.admitted?
  rw [map_key, map_key]
  cases said.isAdmitted start with
  | true => simp
  | false => cases tracing <;> simp

/-- The key that is told of a report is that of the event, if it is told. -/
lemma allNamed_toldOf_iff {c : Classifier} {said : WorkloadEvent}
    (h : (c.classify e).2 = some said) : AllNamed (toldOf tracing start e (some said)) ↔
      ((said.isAdmitted start || tracing) = true → AllNamed said.payload.workload?.toList) := by
  unfold toldOf
  rw [created?_eq_of_classify h, object?_eq_of_classify h]
  cases said.isAdmitted start with
  | true => cases tracing <;> simp [AllNamed]
  | false => cases tracing <;> simp [AllNamed]

/-- A report yields the object that is created by it, unless an object whose key is told has no
name. -/
lemma trigger_ok (c : Classifier) (tracing : Bool) (start : Time.Instant) (e : WatchEvent) :
    c.trigger tracing start (.ok e) =
      if AllNamed (toldOf tracing start e (c.classify e).2) then
        .ok ((c.classify e).1, (created? start e (c.classify e).2).map .ok)
      else .error .noName := by
  unfold trigger
  rcases hclassify : c.classify e with ⟨c', _ | said⟩
  · have hobject : e.object? = none :=
      object?_eq_none_of_classify (congrArg Prod.snd hclassify)
    have htold : toldOf tracing start e none = [] := by
      unfold toldOf
      rw [hobject]
      exact ite_self []
    dsimp only
    rw [hclassify, htold]
    rfl
  · have hsaid : (c.classify e).2 = some said := congrArg Prod.snd hclassify
    dsimp only
    rw [hclassify]
    dsimp only
    rw [admitted?_eq, created?_eq_of_classify hsaid]
    simp only [allNamed_toldOf_iff hsaid]
    split
    · rfl
    · rfl

/-- Items leave the classifier as their reports leave it. -/
lemma trigger_fst {c c' : Classifier} {item : WatchItem} {found : Option Trigger}
    (h : c.trigger tracing start item = .ok (c', found)) : c' = c.after (values [item]) := by
  cases item with
  | error fault =>
    cases h
    rfl
  | ok e =>
    rw [trigger_ok] at h
    split at h
    · cases h
      rfl
    · exact nomatch h

/-- One more item yields what it triggers where the items before leave the classifier. -/
lemma triggers_append_singleton (c : Classifier) (items : List WatchItem) (item : WatchItem) :
    c.triggers tracing start (items ++ [item]) =
      (c.triggers tracing start items).bind fun found =>
        ((c.after (values items)).trigger tracing start item).map fun last =>
          found ++ last.2.toList := by
  induction items generalizing c with
  | nil =>
    change (c.triggers tracing start [item]) =
      (c.trigger tracing start item).map fun last => [] ++ last.2.toList
    cases hlast : c.trigger tracing start item with
    | error fault => simp [triggers, hlast, Except.map]
    | ok last => simp [triggers, hlast, Except.map]
  | cons first items ih =>
    cases hfirst : c.trigger tracing start first with
    | error fault => simp [triggers, hfirst, Except.bind]
    | ok next =>
      have hafter : next.1.after (values items) = c.after (values (first :: items)) := by
        have hvalues : values (first :: items) = values [first] ++ values items :=
          values_append [first] items
        rw [hvalues, after_append, ← trigger_fst hfirst]
      rw [List.cons_append]
      simp only [triggers, hfirst]
      rw [ih, hafter]
      cases next.1.triggers tracing start items with
      | error fault => rfl
      | ok found =>
        cases (c.after (values (first :: items))).trigger tracing start item with
        | error fault => rfl
        | ok last => simp [Except.bind, Except.map]

/-- A stream yields what it is to yield, unless an object whose key is told has no name. -/
lemma admittedCreations_eq (tracing : Bool) (start : Time.Instant) (items : List WatchItem) :
    admittedCreations tracing start items =
      if AllNamed (told tracing start (values items)) then .ok (yields start items)
      else .error .noName := by
  unfold admittedCreations
  induction items using List.reverseRecOn with
  | nil => cases tracing <;> rfl
  | append_singleton items item ih =>
    rw [triggers_append_singleton, ih]
    cases item with
    | error fault =>
      rw [values_append_error, yields_append_error]
      split
      · rfl
      · rfl
    | ok e =>
      have hnamed : AllNamed (told tracing start (values items ++ [e])) ↔
          AllNamed (told tracing start (values items)) ∧
            AllNamed (toldOf tracing start e
              ((({} : Classifier).after (values items)).classify e).2) := by
        unfold AllNamed
        simp only [mem_told_append_singleton, or_imp, forall_and]
      rw [values_append_ok, yields_append_ok, trigger_ok]
      simp only [hnamed]
      by_cases hbefore : AllNamed (told tracing start (values items))
      · rw [if_pos hbefore]
        by_cases hlast : AllNamed (toldOf tracing start e
            ((({} : Classifier).after (values items)).classify e).2)
        · rw [if_pos hlast, if_pos ⟨hbefore, hlast⟩]
          rfl
        · rw [if_neg hlast, if_neg fun h : _ ∧ _ => hlast h.2]
          rfl
      · rw [if_neg hbefore, if_neg fun h : _ ∧ _ => hbefore h.1]
        rfl

/-- A stream that does not end with a fault yields what it is to yield. -/
lemma admittedCreations_eq_ok_iff {found : List Trigger} :
    admittedCreations tracing start items = .ok found ↔
      AllNamed (told tracing start (values items)) ∧ yields start items = found := by
  rw [admittedCreations_eq]
  split
  · next hnamed => exact ⟨fun h => ⟨hnamed, Except.ok.inj h⟩, fun h => congrArg Except.ok h.2⟩
  · next hnamed => exact ⟨nofun, fun h => absurd h.1 hnamed⟩

/-! ### Two yields of one uid -/

/-- An object that is created was observed, and the history does not remember it. -/
lemma observes_of_created? {before : List WatchEvent}
    (h : created? start e ((({} : Classifier).after before).classify e).2 = some rs) :
    ∃ uid, e.Observes uid rs ∧ ∀ old, ¬ Remembered before uid old := by
  unfold created? at h
  split at h
  · next p hsaid =>
    obtain ⟨rs', uid, hobs, _, hget⟩ := observes_of_create hsaid
    obtain rfl : rs' = rs :=
      Option.some.inj (hobs.1.symm.trans (Option.filter_eq_some_iff.mp h).1)
    refine ⟨uid, hobs, fun old hold => ?_⟩
    rw [((tracks_after before).known uid old).mpr hold] at hget
    exact nomatch hget
  · exact nomatch h

/-- An object that is yielded at a place was observed there, and the reports before do not
remember it. -/
lemma observes_of_yieldAt {before later : List WatchItem} {item : WatchItem}
    (h : yieldAt start (before ++ item :: later) before.length = some (.ok rs)) :
    ∃ e uid, item = .ok e ∧ e.Observes uid rs ∧ ∀ old, ¬ Remembered (values before) uid old := by
  cases item with
  | error fault => simp [yieldAt] at h
  | ok e =>
    rw [yieldAt_length_ok] at h
    obtain ⟨rs', hcreated, hrs⟩ := Option.map_eq_some_iff.mp h
    obtain rfl := Except.ok.inj hrs
    obtain ⟨uid, hobs, hnot⟩ := observes_of_created? hcreated
    exact ⟨e, uid, rfl, hobs, hnot⟩

/-- Between two yields of one uid it is renewed. -/
lemma renewed_between {before between later : List WatchItem} {item item' : WatchItem}
    {rs' : ReplicaSet} (hitems : items = before ++ item :: (between ++ item' :: later))
    (h : yieldAt start items before.length = some (.ok rs))
    (h' : yieldAt start items (before ++ item :: between).length = some (.ok rs'))
    (huid : rs.metadata.uid = some uid) (huid' : rs'.metadata.uid = some uid) :
    Renewed (values between) uid := by
  subst hitems
  obtain ⟨e, uid₁, rfl, hobs, _⟩ := observes_of_yieldAt h
  obtain rfl : uid₁ = uid := Option.some.inj (hobs.2.symm.trans huid)
  rw [← List.cons_append, ← List.append_assoc] at h'
  obtain ⟨e', uid₂, rfl, hobs', hnot⟩ := observes_of_yieldAt h'
  obtain rfl : uid₂ = uid₁ := Option.some.inj (hobs'.2.symm.trans huid')
  rw [values_append] at hnot
  exact renewed_of_not_remembered hobs hnot

/-- **Triggers.**  The keys of the ReplicaSets that the classifier takes for created and that are
newer than the start are told in the log, and, if it shows trace lines, those of all objects that
the reports are about.  If these objects have names, a stream yields just what it is to yield at
each place, in order: its faults as they are, and the ReplicaSets that are created; so whatever
faults are put into it or taken out of it, it yields the same ReplicaSets.  If one of them has no
name, the stream ends with a fault.  Between two yields of one uid it is removed, or a list begins
and comes to its end without it. -/
theorem admittedCreations_stream (tracing : Bool) (start : Time.Instant) (items : List WatchItem) :
    ((∀ rs ∈ told tracing start (values items), rs.metadata.name ≠ none) →
      admittedCreations tracing start items = .ok (yields start items) ∧
      faults (yields start items) = faults items ∧
      values (yields start items) = created start (values items) ∧
      ∀ items', values items' = values items →
        ∃ found, admittedCreations tracing start items' = .ok found ∧
          values found = values (yields start items)) ∧
    ((∃ rs ∈ told tracing start (values items), rs.metadata.name = none) →
      admittedCreations tracing start items = .error .noName) ∧
    ∀ before item between item' later rs rs' uid,
      items = before ++ item :: (between ++ item' :: later) →
      yieldAt start items before.length = some (.ok rs) →
      yieldAt start items (before ++ item :: between).length = some (.ok rs') →
      rs.metadata.uid = some uid → rs'.metadata.uid = some uid → Renewed (values between) uid := by
  have hok : ∀ items' : List WatchItem, AllNamed (told tracing start (values items')) →
      admittedCreations tracing start items' = .ok (yields start items') :=
    fun items' h => admittedCreations_eq_ok_iff.mpr ⟨h, rfl⟩
  refine ⟨fun h => ⟨hok items h, faults_yields start items, values_yields start items, ?_⟩, ?_, ?_⟩
  · intro items' hvalues
    refine ⟨yields start items', hok items' (hvalues ▸ h), ?_⟩
    rw [values_yields, values_yields, hvalues]
  · rintro ⟨rs, hrs, hname⟩
    rw [admittedCreations_eq, if_neg fun hnamed => hnamed rs hrs hname]
  · intro before item between item' later rs rs' uid hitems h h' huid huid'
    exact renewed_between hitems h h' huid huid'

end Classifier

/-- The start of a controller that is older than the states of `Sample.state`. -/
def Sample.launch : Time.Instant := Sample.instant 1735689600

/-- A state without a name. -/
def Sample.unnamed : ReplicaSet where
  metadata := { (Sample.state "u2" "1").metadata with name := none }

/-- A stream with faults, in which an object is listed, reported again, and made anew. -/
def Sample.stream : List WatchItem :=
  [.ok .init, .error (.refused 410), .ok (.initApply (Sample.state "u1" "1")), .ok .initDone,
    .ok (.apply (Sample.state "u1" "2")), .ok (.delete (Sample.state "u1" "2")),
    .error .noResourceVersion, .ok (.apply (Sample.state "u1" "3"))]

namespace Classifier

open WatchEvent WatchStream

/-- The object is yielded when it is listed and when it is made anew, among the faults, and between
the two it is removed; an object without a name ends the stream. -/
theorem admittedCreations_stream_app_rs :
    admittedCreations true Sample.launch Sample.stream =
      .ok [.error (.refused 410), .ok (Sample.state "u1" "1"), .error .noResourceVersion,
        .ok (Sample.state "u1" "3")] ∧
    Renewed [.initDone, .apply (Sample.state "u1" "2"), .delete (Sample.state "u1" "2")] "u1" ∧
    admittedCreations false Sample.launch [.ok (.apply Sample.unnamed)] = .error .noName := by
  have hyields : yields Sample.launch Sample.stream = [.error (.refused 410),
      .ok (Sample.state "u1" "1"), .error .noResourceVersion, .ok (Sample.state "u1" "3")] := by
    decide +kernel
  have hunnamed : told false Sample.launch (values [.ok (.apply Sample.unnamed)]) =
      [Sample.unnamed] := by decide +kernel
  have htold : told true Sample.launch (values Sample.stream) =
      [Sample.state "u1" "1", Sample.state "u1" "3", Sample.state "u1" "1", Sample.state "u1" "2",
        Sample.state "u1" "2", Sample.state "u1" "3"] := by decide +kernel
  have hnamed : ∀ rs ∈ told true Sample.launch (values Sample.stream), rs.metadata.name ≠ none := by
    rw [htold]
    decide
  obtain ⟨hok, _, hrenewed⟩ := admittedCreations_stream true Sample.launch Sample.stream
  refine ⟨hyields ▸ (hok hnamed).1, ?_, ?_⟩
  · exact hrenewed [.ok .init, .error (.refused 410)] _
      [.ok .initDone, .ok (.apply (Sample.state "u1" "2")), .ok (.delete (Sample.state "u1" "2")),
        .error .noResourceVersion] _ [] (Sample.state "u1" "1") (Sample.state "u1" "3") "u1" rfl
      (by decide +kernel) (by decide +kernel) rfl rfl
  · refine (admittedCreations_stream false Sample.launch [.ok (.apply Sample.unnamed)]).2.1 ?_
    rw [hunnamed]
    exact ⟨Sample.unnamed, List.mem_singleton_self _, rfl⟩

end Classifier

namespace Sample

/-- An instant in the second in which the states of `Sample.state` are created. -/
def early : Time.Instant := ⟨1735693200, 200000000, by decide, by decide⟩

/-- A later instant in the same second. -/
def late : Time.Instant := ⟨1735693200, 700000000, by decide, by decide⟩

/-- A state that is created at the later one. -/
def lateState : ReplicaSet where
  metadata := { (state "u1" "1").metadata with creationTimestamp := some late }

end Sample

namespace Classifier

open WatchEvent WatchStream

/-- That a removed object has no name ends a stream if the log shows trace lines, though nothing is
created.  An object with a time of creation after the start is not yielded if the start lies in the
same second. -/
theorem admittedCreations_ignored :
    (created Sample.launch [.delete Sample.unnamed] = [] ∧
      admittedCreations true Sample.launch [.ok (.delete Sample.unnamed)] = .error .noName) ∧
    classifyAll {} [.apply Sample.lateState] = [some (.create (.workload Sample.lateState))] ∧
    Sample.lateState.metadata.creationTimestamp = some Sample.late ∧
    Sample.early.before Sample.late = true ∧
    admittedCreations false Sample.early [.ok (.apply Sample.lateState)] = .ok [] := by
  have hnone : told false Sample.early [.apply Sample.lateState] = [] := by decide +kernel
  have hyields : yields Sample.early [.ok (.apply Sample.lateState)] = [] := by decide +kernel
  refine ⟨⟨rfl, rfl⟩, rfl, rfl, by decide, admittedCreations_eq_ok_iff.mpr ⟨?_, hyields⟩⟩
  change AllNamed (told false Sample.early [.apply Sample.lateState])
  rw [hnone]
  exact fun rs hrs => nomatch hrs

end Classifier

end MountOwnership
