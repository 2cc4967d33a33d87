import MountOwnership.Proofs.Backoff

/-!
# A backoff in use

A backoff is asked for its next delay or reset, any number of times and in any order.  As it
is determined by the number of delays that it has given since its last reset
(`Backoff.usedAll_between`), so is each delay (`Backoff.delays_in_use`).  The sums are bounded
twice, by the longest span that there is and by the longest delay, and neither bound is felt
later on: a sum that is cut off stands for one that the bounds cut off again.
-/

namespace MountOwnership

namespace Backoff

variable {shortest longest : Time.Span}

/-- What a backoff is used for. -/
inductive Use where
  /-- It is asked for its next delay. -/
  | next
  /-- It is put back to its start. -/
  | reset
deriving DecidableEq

/-- The sequence after a use of it. -/
def used (b : Backoff) : Use → Backoff
  | .next => b.next.2
  | .reset => b.reset

/-- The sequence after uses of it one after the other. -/
def usedAll (b : Backoff) (uses : List Use) : Backoff := uses.foldl used b

/-- The delay that a use returns; a reset returns none. -/
def answer? (b : Backoff) : Use → Option Time.Span
  | .next => some b.next.1
  | .reset => none

/-- What uses one after the other return. -/
def answers (b : Backoff) : List Use → List (Option Time.Span)
  | [] => []
  | use :: uses => b.answer? use :: (b.used use).answers uses

/-- The number of delays since the last reset, or since the start. -/
def sinceReset (uses : List Use) : Nat := (uses.reverse.takeWhile (· = .next)).length

/-- A delay counts one more, and a reset starts the count anew. -/
lemma sinceReset_append (uses : List Use) (use : Use) :
    sinceReset (uses ++ [use]) =
      match use with
      | .next => sinceReset uses + 1
      | .reset => 0 := by
  unfold sinceReset
  rw [List.reverse_append, List.reverse_singleton, List.singleton_append]
  cases use with
  | next =>
    rw [List.takeWhile_cons_of_pos (by decide)]
    exact List.length_cons
  | reset => rfl

/-- One more use comes after all the others. -/
lemma usedAll_append_singleton (b : Backoff) (uses : List Use) (use : Use) :
    b.usedAll (uses ++ [use]) = (b.usedAll uses).used use := by
  unfold usedAll
  rw [List.foldl_append]
  rfl

/-- A use returns what the sequence gives that the uses before it have left. -/
lemma getElem?_answers (b : Backoff) (uses : List Use) (i : ℕ) :
    (b.answers uses)[i]? = uses[i]?.map (b.usedAll (uses.take i)).answer? := by
  induction uses generalizing b i with
  | nil => rfl
  | cons use uses ih =>
    cases i with
    | zero => rfl
    | succ i => exact ih (b.used use) i

/-- A sequence is as far on as it has given delays since its last reset. -/
lemma usedAll_between (h : shortest.nanos ≤ longest.nanos) (uses : List Use) :
    (between shortest longest).usedAll uses = stage shortest longest (sinceReset uses) := by
  induction uses using List.reverseRecOn with
  | nil => exact between_eq_stage h
  | append_singleton uses use ih =>
    rw [usedAll_append_singleton, ih, sinceReset_append]
    cases use with
    | next => exact advance_stage shortest longest _
    | reset => exact between_eq_stage h

/-- The delay that is returned is the one by its number since the last reset. -/
lemma answers_eq_some_some_iff (h : shortest.nanos ≤ longest.nanos) {uses : List Use} {i : ℕ}
    {d : Time.Span} : ((between shortest longest).answers uses)[i]? = some (some d) ↔
      uses[i]? = some .next ∧ d = delay shortest longest (sinceReset (uses.take i) + 1) := by
  rw [getElem?_answers, usedAll_between h]
  cases hi : uses[i]? with
  | none => simp
  | some use =>
    cases use with
    | next => simp [answer?, next, stage, eq_comm]
    | reset => simp [answer?]

/-! ### Delays in a row -/

/-- Every delay after the start lies between the two bounds. -/
lemma delay_mem_bounds (h : shortest.nanos ≤ longest.nanos) (n : ℕ) :
    shortest.nanos ≤ (delay shortest longest (n + 1)).nanos ∧
      (delay shortest longest (n + 1)).nanos ≤ longest.nanos := by
  have hfib : 1 ≤ Nat.fib (n + 1) := Nat.fib_pos.mpr n.succ_pos
  have hmul : shortest.nanos ≤ Nat.fib (n + 1) * shortest.nanos := Nat.le_mul_of_pos_left _ hfib
  exact ⟨le_min h hmul, min_le_left _ _⟩

/-- Later delays are not shorter. -/
lemma delay_mono {m n : ℕ} (h : m ≤ n) :
    (delay shortest longest m).nanos ≤ (delay shortest longest n).nanos :=
  min_le_min_left _ (Nat.mul_le_mul_right _ (Nat.fib_mono h))

/-- Without a reset in between, the number of delays only grows. -/
lemma sinceReset_take_mono {uses : List Use} {i j : ℕ} (hij : i ≤ j)
    (hnext : ∀ k, i ≤ k → k < j → uses[k]? = some .next) :
    sinceReset (uses.take i) ≤ sinceReset (uses.take j) := by
  induction j, hij using Nat.le_induction with
  | base => exact le_rfl
  | succ j hij ih =>
    have hj : uses[j]? = some .next := hnext j hij j.lt_succ_self
    have hcount : sinceReset (uses.take (j + 1)) = sinceReset (uses.take j) + 1 := by
      rw [List.take_add_one, hj]
      exact sinceReset_append _ _
    have hearlier : sinceReset (uses.take i) ≤ sinceReset (uses.take j) :=
      ih fun k hik hkj => hnext k hik (hkj.trans j.lt_succ_self)
    omega

/-- **Delays in use.**  Take a backoff from its start, with a shortest delay that is not longer than
its longest one, and any uses of it.  Each use that asks for a delay returns one: the shortest one
times the Fibonacci number of how many delays were asked for since the last reset, up to the longest
one.  No delay lies outside the two bounds, and between resets no delay is shorter than one before
it. -/
theorem delays_in_use (h : shortest.nanos ≤ longest.nanos) (uses : List Use) :
    (∀ i : ℕ, uses[i]? = some .next → ∃ d,
      ((between shortest longest).answers uses)[i]? = some (some d) ∧
        d.nanos = min longest.nanos (Nat.fib (sinceReset (uses.take i) + 1) * shortest.nanos)) ∧
    (∀ (i : ℕ) (d : Time.Span), ((between shortest longest).answers uses)[i]? = some (some d) →
      shortest.nanos ≤ d.nanos ∧ d.nanos ≤ longest.nanos) ∧
    ∀ (i j : ℕ) (d e : Time.Span), i ≤ j → (∀ k, i ≤ k → k < j → uses[k]? = some .next) →
      ((between shortest longest).answers uses)[i]? = some (some d) →
      ((between shortest longest).answers uses)[j]? = some (some e) → d.nanos ≤ e.nanos := by
  refine ⟨?_, ?_, ?_⟩
  · intro i hi
    exact ⟨_, (answers_eq_some_some_iff h).mpr ⟨hi, rfl⟩, rfl⟩
  · intro i d hd
    obtain ⟨_, rfl⟩ := (answers_eq_some_some_iff h).mp hd
    exact delay_mem_bounds h _
  · intro i j d e hij hnext hd he
    obtain ⟨_, rfl⟩ := (answers_eq_some_some_iff h).mp hd
    obtain ⟨_, rfl⟩ := (answers_eq_some_some_iff h).mp he
    exact delay_mono (Nat.succ_le_succ (sinceReset_take_mono hij hnext))

/-- Two delays of half the longest span there is add up to more than that span, and the next delay
is that span; after a reset, the first delay comes again. -/
theorem delays_in_use_longest :
    let half : Time.Span := ⟨Time.nanoRange / 2, by decide⟩
    let answers := (between half .longest).answers [.next, .next, .next, .reset, .next]
    (∃ d, answers[2]? = some (some d) ∧ d.nanos = Time.Span.longest.nanos) ∧
      ∃ d, answers[4]? = some (some d) ∧ d.nanos = half.nanos := by
  intro half answers
  have hbounds : half.nanos ≤ Time.Span.longest.nanos := by decide
  obtain ⟨hdelays, _, _⟩ :=
    delays_in_use hbounds [.next, .next, .next, .reset, .next]
  obtain ⟨d, hd, hnanos⟩ := hdelays 2 rfl
  obtain ⟨e, he, hnanos'⟩ := hdelays 4 rfl
  have hcut : min Time.Span.longest.nanos (Nat.fib 3 * half.nanos) = Time.Span.longest.nanos := by
    decide
  have hfirst : min Time.Span.longest.nanos (Nat.fib 1 * half.nanos) = half.nanos := by decide
  exact ⟨⟨d, hd, hnanos.trans hcut⟩, ⟨e, he, hnanos'.trans hfirst⟩⟩

end Backoff

end MountOwnership
