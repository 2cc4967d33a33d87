import MountOwnership.Proofs.Classifier.Triggers
import MountOwnership.Proofs.Watermark

/-!
# One stream from two starts

The start of a controller decides what a stream yields, and nothing of what its classifier says:
an item leaves the classifier the same whether its object is yielded or not.  So from a later
start the stream yields what it yields from the earlier one, less the objects that are not newer
than the later start (`Classifier.yields_of_le`), and the classifier says the same of every report
that it hears from the earlier start (`Classifier.heard_prefix_of_le`).
-/

namespace MountOwnership

open Time

/-- An object that is newer than a start is newer than all earlier ones. -/
lemma Metadata.isCreatedAfter_of_le {m : Metadata} {start later : Instant} (hle : start ≤ later)
    (h : m.isCreatedAfter later = true) : m.isCreatedAfter start = true := by
  obtain ⟨created, hread, hlt⟩ := isCreatedAfter_iff.mp h
  exact isCreatedAfter_iff.mpr ⟨created, hread, hle.trans_lt hlt⟩

namespace Classifier

open WatchEvent WatchStream

variable {tracing : Bool} {start later : Instant} {items : List WatchItem} {e : WatchEvent}
  {rs : ReplicaSet} {c : Classifier}

/-! ### What is yielded -/

/-- A later start keeps a trigger: a fault, or a ReplicaSet whose creation time is after it. -/
def staysFrom (later : Instant) : Trigger → Bool
  | .error _ => true
  | .ok rs => rs.metadata.creationTime?.any fun created => decide (later < created)

/-- A ReplicaSet stays if it has a creation time and that is after the later start. -/
lemma staysFrom_ok_iff : staysFrom later (.ok rs) = true ↔
    ∃ created, rs.metadata.creationTime? = some created ∧ later < created := by
  unfold staysFrom
  simp only [Option.any_eq_true, decide_eq_true_eq]

/-- What stays is what is newer than the later start. -/
lemma staysFrom_ok (later : Instant) (rs : ReplicaSet) :
    staysFrom later (.ok rs) = rs.metadata.isCreatedAfter later :=
  Bool.eq_iff_iff.mpr (staysFrom_ok_iff.trans Metadata.isCreatedAfter_iff.symm)

/-- What is created from a later start is created from the earlier one. -/
lemma created?_of_le (hle : start ≤ later) (e : WatchEvent) (said : Option WorkloadEvent) :
    created? later e said =
      (created? start e said).filter fun rs => rs.metadata.isCreatedAfter later := by
  unfold created?
  split
  · rw [Option.filter_filter]
    refine congrArg (fun p => Option.filter p e.observed?) (funext fun rs => ?_)
    rw [Bool.eq_iff_iff, Bool.and_eq_true]
    exact ⟨fun h => ⟨Metadata.isCreatedAfter_of_le hle h, h⟩, fun h => h.2⟩
  · rfl

/-- A later start yields what the earlier one yields, less what is not newer than it. -/
lemma yields_of_le (hle : start ≤ later) (items : List WatchItem) :
    yields later items = (yields start items).filter (staysFrom later) := by
  induction items using List.reverseRecOn with
  | nil => rfl
  | append_singleton items item ih =>
    cases item with
    | error fault =>
      rw [yields_append_error, yields_append_error, List.filter_append, ih]
      rfl
    | ok e =>
      rw [yields_append_ok, yields_append_ok, List.filter_append, ih, created?_of_le hle]
      congr 1
      cases created? start e ((({} : Classifier).after (values items)).classify e).2 with
      | none => rfl
      | some rs =>
        cases hnewer : rs.metadata.isCreatedAfter later with
        | true => simp [staysFrom_ok, hnewer]
        | false => simp [staysFrom_ok, hnewer]

/-! ### What is said -/

/-- What the classifier of a stream says of its reports, one after the other, as long as the stream
goes on. -/
def heard (c : Classifier) (tracing : Bool) (start : Instant) :
    List WatchItem → List (Option WorkloadEvent)
  | [] => []
  | item :: items =>
    c.classifyAll (values [item]) ++
      match c.trigger tracing start item with
      | .error _ => []
      | .ok (c', _) => c'.heard tracing start items

/-- A stream that does not end is heard to its end. -/
lemma heard_eq_classifyAll {found : List Trigger} (h : c.triggers tracing start items = .ok found) :
    c.heard tracing start items = c.classifyAll (values items) := by
  induction items generalizing c found with
  | nil => rfl
  | cons item items ih =>
    have hvalues : values (item :: items) = values [item] ++ values items :=
      values_append [item] items
    cases hitem : c.trigger tracing start item with
    | error fault =>
      simp only [triggers, hitem] at h
      cases h
    | ok next =>
      simp only [triggers, hitem] at h
      cases hrest : next.1.triggers tracing start items with
      | error fault =>
        rw [hrest] at h
        cases h
      | ok rest =>
        simp only [heard, hitem]
        rw [ih hrest, trigger_fst hitem, hvalues, classifyAll_append]

/-- The objects whose keys are told from a later start have theirs told from the earlier one. -/
lemma toldOf_subset_of_le (hle : start ≤ later) (e : WatchEvent) (said : Option WorkloadEvent) :
    toldOf tracing later e said ⊆ toldOf tracing start e said := by
  unfold toldOf
  rw [created?_of_le hle]
  refine List.append_subset.mpr ⟨fun rs hrs => List.mem_append_left _ ?_,
    List.subset_append_right _ _⟩
  exact Option.mem_toList.mpr (Option.filter_eq_some_iff.mp (Option.mem_toList.mp hrs)).1

/-- An item that ends a stream from a later start ends it from the earlier one. -/
lemma trigger_error_of_le (hle : start ≤ later) {item : WatchItem} {fault : KeyFault}
    (h : c.trigger tracing later item = .error fault) :
    c.trigger tracing start item = .error fault := by
  cases item with
  | error fault' => exact nomatch h
  | ok e =>
    rw [trigger_ok] at h ⊢
    split at h
    · exact nomatch h
    · next hnamed =>
      rw [if_neg fun hall => hnamed fun rs hrs => hall rs (toldOf_subset_of_le hle e _ hrs)]

/-- The classifier says the same of the reports that it hears from the earlier start. -/
lemma heard_prefix_of_le (hle : start ≤ later) (c : Classifier) (items : List WatchItem) :
    c.heard tracing start items <+: c.heard tracing later items := by
  induction items generalizing c with
  | nil => exact List.prefix_refl _
  | cons item items ih =>
    unfold heard
    rw [List.prefix_append_right_inj]
    cases hlater : c.trigger tracing later item with
    | error fault =>
      simp only [trigger_error_of_le hle hlater, List.prefix_refl]
    | ok next =>
      cases hstart : c.trigger tracing start item with
      | error fault => exact List.nil_prefix
      | ok next' =>
        dsimp only
        rw [trigger_fst hlater, trigger_fst hstart]
        exact ih _

/-- **A later start.**  Take two starts, one not before the other, and a stream that does not end
with a fault from the earlier one.  It does not from the later one either, and yields what it yields
from the earlier one, in order, less the ReplicaSets whose creation time is not after the later
start.  Of every report that is heard from the earlier start, the same is said from both, and all
are heard if the stream does not end. -/
theorem admittedCreations_of_le (hle : start ≤ later) (tracing : Bool) (items : List WatchItem) :
    (∀ found, admittedCreations tracing start items = .ok found →
      ∃ found', admittedCreations tracing later items = .ok found' ∧
        found' = found.filter (staysFrom later) ∧
        (values found').Sublist (values found) ∧
        (∀ rs ∈ values found, rs ∉ values found' ↔
          ∀ created, rs.metadata.creationTime? = some created → created ≤ later) ∧
        heard {} tracing start items = classifyAll {} (values items) ∧
        heard {} tracing later items = classifyAll {} (values items)) ∧
    heard {} tracing start items <+: heard {} tracing later items := by
  refine ⟨fun found hfound => ?_, heard_prefix_of_le hle {} items⟩
  obtain ⟨hnamed, rfl⟩ := admittedCreations_eq_ok_iff.mp hfound
  have hyields : yields later items = (yields start items).filter (staysFrom later) :=
    yields_of_le hle items
  have hsublist : (values (yields later items)).Sublist (values (yields start items)) := by
    rw [hyields]
    exact List.filter_sublist.filterMap _
  have htold : told tracing later (values items) ⊆ told tracing start (values items) := by
    unfold told
    rw [← values_yields, ← values_yields]
    exact List.append_subset.mpr
      ⟨List.subset_append_of_subset_left _ hsublist.subset, List.subset_append_right _ _⟩
  have hfound' : admittedCreations tracing later items = .ok (yields later items) :=
    admittedCreations_eq_ok_iff.mpr ⟨fun rs hrs => hnamed rs (htold hrs), rfl⟩
  refine ⟨yields later items, hfound', hyields, hsublist, fun rs hrs => ?_,
    heard_eq_classifyAll hfound, heard_eq_classifyAll hfound'⟩
  rw [hyields, mem_values_iff, List.mem_filter, staysFrom_ok_iff]
  simp [mem_values_iff.mp hrs]

end Classifier

namespace Sample

/-- A state that was created an hour after those of `Sample.state`. -/
def younger : ReplicaSet where
  metadata := { (state "u2" "1").metadata with creationTimestamp := some (instant 1735696800) }

/-- A list with an object and a fault, an object that is made after it, and another state of the
first one. -/
def mixedStream : List WatchItem :=
  [.ok .init, .ok (.initApply (state "u1" "1")), .error (.refused 410), .ok .initDone,
    .ok (.apply younger), .ok (.apply (state "u1" "2"))]

end Sample

namespace Classifier

open WatchEvent WatchStream

/-- A start at the creation of the first object leaves it out; it counts as known all the same, so
its second state is an update. -/
theorem admittedCreations_of_le_app_rs :
    admittedCreations true Sample.launch Sample.mixedStream =
      .ok [.ok (Sample.state "u1" "1"), .error (.refused 410), .ok Sample.younger] ∧
    admittedCreations true (Sample.instant 1735693200) Sample.mixedStream =
      .ok [.error (.refused 410), .ok Sample.younger] ∧
    (heard {} true (Sample.instant 1735693200) Sample.mixedStream)[4]? =
      some (some (.update (.workload (Sample.state "u1" "1"))
        (.workload (Sample.state "u1" "2")))) := by
  have hle : Sample.launch ≤ Sample.instant 1735693200 :=
    Instant.le_iff.mpr (Or.inl (by decide))
  have hfound : admittedCreations true Sample.launch Sample.mixedStream =
      .ok [.ok (Sample.state "u1" "1"), .error (.refused 410), .ok Sample.younger] := by
    decide +kernel
  have hfirst : (Sample.state "u1" "1").metadata.isCreatedAfter (Sample.instant 1735693200) =
      false := by decide +kernel
  have hsecond : Sample.younger.metadata.isCreatedAfter (Sample.instant 1735693200) = true := by
    decide +kernel
  have hdropped : ¬ staysFrom (Sample.instant 1735693200) (.ok (Sample.state "u1" "1")) = true := by
    rw [staysFrom_ok, hfirst]
    exact Bool.false_ne_true
  have hkept : staysFrom (Sample.instant 1735693200) (.ok Sample.younger) = true := by
    rw [staysFrom_ok, hsecond]
  have hfilter : [.ok (Sample.state "u1" "1"), .error (.refused 410), .ok Sample.younger].filter
      (staysFrom (Sample.instant 1735693200)) = [.error (.refused 410), .ok Sample.younger] := by
    rw [List.filter_cons_of_neg hdropped, List.filter_cons_of_pos rfl,
      List.filter_cons_of_pos hkept, List.filter_nil]
  obtain ⟨hsame, _⟩ := admittedCreations_of_le hle true Sample.mixedStream
  obtain ⟨found, hlater, rfl, _, _, _, hheard⟩ := hsame _ hfound
  refine ⟨hfound, hfilter ▸ hlater, ?_⟩
  rw [hheard]
  rfl

end Classifier

end MountOwnership
