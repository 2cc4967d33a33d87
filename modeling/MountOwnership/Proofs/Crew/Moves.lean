import MountOwnership.Proofs.Crew.Turns

/-!
# Crews

A crew is a store with the passes that work on it.  Its passes take turns call by
call, in any order, and in between ConfigMaps are touched from outside
(`Crew.after`).  The replaces that were carried out are its commits
(`Crew.commits`).

Whatever moves are made, the store stays consistent and every pass stays at one of
the stages of its job (`Crew.Manned`), and what a move does follows from what one
turn does (`Crew.Manned.moved`).
-/

namespace MountOwnership

namespace Job

variable {j : Job} {s t : Store} {commit : Option ObjectKey} {p : Pass}

/-- A job writes the same record in later stores. -/
lemma record?_later (j : Job) (h : s.Later t) : j.record? t = j.record? s := by
  unfold record? replicaSet?
  rw [h.replicaSets_eq]

/-- A turn leads to a later store. -/
lemma Turn.later (h : j.Turn s commit t p) : s.Later t := by
  cases h with
  | quiet h _ => exact .of_quiet h
  | commit => exact .overwrite _ _ _

/-- A turn leads from consistent stores to consistent stores. -/
lemma Turn.consistent (h : j.Turn s commit t p) (hs : s.Consistent) : t.Consistent := by
  cases h with
  | quiet h _ => exact hs.of_quiet h
  | commit hget _ _ =>
    refine hs.overwrite ?_
    rw [ConfigMap.withOwner_storeKey]
    exact hs.configMap_key hget

/-- A turn leaves the pass at one of its stages. -/
lemma Turn.stage (h : j.Turn s commit t p) : j.Stage t p := by
  cases h with
  | quiet _ hp => exact hp
  | commit _ _ hp => exact hp

end Job

/-! ### Crews -/

/-- A store and the passes that work on it. -/
structure Crew where
  store : Store
  passes : List Pass

/-- What can happen next: a ConfigMap is touched from outside, or a pass takes a turn. -/
inductive Move where
  | touch (k : ObjectKey)
  | call (i : Nat)
deriving DecidableEq

namespace Crew

/-- The crew that is to do some jobs. -/
def start (s : Store) (jobs : List Job) : Crew := ⟨s, jobs.map Job.start⟩

/-- The crew after a move. -/
def move (w : Crew) : Move → Crew
  | .touch k => { w with store := w.store.touch k }
  | .call i =>
    match w.passes[i]? with
    | none => w
    | some p => ⟨(p.turn w.store).1, w.passes.set i (p.turn w.store).2⟩

/-- The crew after moves in order. -/
def after (w : Crew) (moves : List Move) : Crew := moves.foldl move w

/-- The pass that commits by a move, and the key of the ConfigMap that it replaces. -/
def commit? (w : Crew) : Move → Option (Nat × ObjectKey)
  | .touch _ => none
  | .call i => w.passes[i]?.bind fun p => (p.commit? w.store).map fun k => (i, k)

/-- The commits of moves, in order. -/
def commits (w : Crew) : List Move → List (Nat × ObjectKey)
  | [] => []
  | m :: moves => (w.commit? m).toList ++ (w.move m).commits moves

variable {w v : Crew} {jobs : List Job} {m : Move} {commit : Option (Nat × ObjectKey)}
  {k : ObjectKey} {i : Nat}

/-- Moves in a row are made one part after the other. -/
lemma after_append (w : Crew) (moves moves' : List Move) :
    w.after (moves ++ moves') = (w.after moves).after moves' := List.foldl_append

/-- The store of a crew is consistent, and every pass is at a stage of its job. -/
structure Manned (w : Crew) (jobs : List Job) : Prop where
  consistent : w.store.Consistent
  stage : ∀ (i : Nat) (p : Pass), w.passes[i]? = some p →
    ∃ j : Job, jobs[i]? = some j ∧ j.Stage w.store p

/-- In the beginning all passes are fresh. -/
lemma manned_start {s : Store} (hs : s.Consistent) (jobs : List Job) :
    (start s jobs).Manned jobs where
  consistent := hs
  stage i p hp := by
    unfold start at hp
    rw [List.getElem?_map] at hp
    obtain ⟨j, hj, rfl⟩ := Option.map_eq_some_iff.mp hp
    exact ⟨j, hj, .fresh⟩

/-- A pass that is there takes its turn at the store. -/
lemma move_call {p : Pass} (hi : w.passes[i]? = some p) :
    w.move (.call i) = ⟨(p.turn w.store).1, w.passes.set i (p.turn w.store).2⟩ := by
  unfold move
  dsimp only
  rw [hi]

/-- Where no pass is, nothing moves. -/
lemma move_call_of_none (hi : w.passes[i]? = none) : w.move (.call i) = w := by
  unfold move
  dsimp only
  rw [hi]

/-- A pass that is there commits what its turn commits. -/
lemma commit?_call {p : Pass} (hi : w.passes[i]? = some p) :
    w.commit? (.call i) = (p.commit? w.store).map fun k => (i, k) := by
  unfold commit?
  dsimp only
  rw [hi]
  rfl

/-- Where no pass is, nothing is committed. -/
lemma commit?_call_of_none (hi : w.passes[i]? = none) : w.commit? (.call i) = none := by
  unfold commit?
  dsimp only
  rw [hi]
  rfl

/-- What a move does, with its commit and the crew after it. -/
inductive Moved (jobs : List Job) (w : Crew) : Move → Option (Nat × ObjectKey) → Crew → Prop
  | touch (k : ObjectKey) : Moved jobs w (.touch k) none { w with store := w.store.touch k }
  | idle {i : Nat} (hi : w.passes[i]? = none) : Moved jobs w (.call i) none w
  | turn {i : Nat} {p q : Pass} {j : Job} {commit : Option ObjectKey} {t : Store}
      (hi : w.passes[i]? = some p) (hj : jobs[i]? = some j) (h : j.Turn w.store commit t q) :
      Moved jobs w (.call i) (commit.map fun k => (i, k)) ⟨t, w.passes.set i q⟩

/-- Every move does one of the listed things. -/
lemma Manned.moved (hw : w.Manned jobs) (m : Move) : w.Moved jobs m (w.commit? m) (w.move m) := by
  cases m with
  | touch k => exact .touch k
  | call i =>
    cases hi : w.passes[i]? with
    | none =>
      rw [move_call_of_none hi, commit?_call_of_none hi]
      exact .idle hi
    | some p =>
      obtain ⟨j, hj, hstage⟩ := hw.stage i p hi
      rw [move_call hi, commit?_call hi]
      exact .turn hi hj (hstage.turn hw.consistent)

/-- A move leads to a later store. -/
lemma Moved.later (h : w.Moved jobs m commit v) : w.store.Later v.store := by
  cases h with
  | touch k => exact .touch w.store k
  | idle => exact .of_quiet (.refl w.store)
  | turn _ _ h => exact h.later

/-- After a move every pass is at a stage of its job again. -/
lemma Moved.manned (h : w.Moved jobs m commit v) (hw : w.Manned jobs) : v.Manned jobs := by
  have hlater := h.later
  cases h with
  | idle => exact hw
  | touch k =>
    refine ⟨hw.consistent.touch k, fun i p hp => ?_⟩
    obtain ⟨j, hj, hstage⟩ := hw.stage i p hp
    exact ⟨j, hj, hstage.later hlater⟩
  | @turn i _ q j _ t hi hj h =>
    refine ⟨h.consistent hw.consistent, fun i' p hp => ?_⟩
    by_cases hii : i = i'
    · -- the pass that took its turn
      subst hii
      obtain ⟨hlt, _⟩ := List.getElem?_eq_some_iff.mp hi
      rw [List.getElem?_set_self hlt] at hp
      obtain rfl := Option.some.inj hp
      exact ⟨j, hj, h.stage⟩
    · rw [List.getElem?_set_ne hii] at hp
      obtain ⟨j', hj', hstage⟩ := hw.stage i' p hp
      exact ⟨j', hj', hstage.later hlater⟩

/-- Every crew that is manned stays so. -/
lemma Manned.after (hw : w.Manned jobs) (moves : List Move) : (w.after moves).Manned jobs := by
  induction moves generalizing w with
  | nil => exact hw
  | cons m moves ih => exact ih ((hw.moved m).manned hw)

/-- Moves lead to later stores. -/
lemma Manned.later (hw : w.Manned jobs) (moves : List Move) :
    w.store.Later (w.after moves).store := by
  induction moves generalizing w with
  | nil => exact .of_quiet (.refl w.store)
  | cons m moves ih => exact (hw.moved m).later.trans (ih ((hw.moved m).manned hw))

end Crew

end MountOwnership
