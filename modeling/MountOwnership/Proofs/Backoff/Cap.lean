import MountOwnership.Proofs.Backoff.Uses

/-!
# Delays past the longest one

The longest delay bounds the sums, and not the delay that a backoff starts with.  Where the
shortest delay is past the longest one, the backoff returns it first, as it is, and nothing but
the longest one afterwards, until it is reset and starts with the shortest one again
(`Backoff.delays_past_longest`).
-/

namespace MountOwnership

namespace Backoff

variable {shortest longest : Time.Span} {b : Backoff} {n : ℕ}

/-- The sequence between two delays gives the longest one only, from now on. -/
structure Capped (shortest longest : Time.Span) (b : Backoff) : Prop where
  /-- A reset brings the shortest delay back. -/
  shortest_eq : b.shortest = shortest
  /-- The bound is the longest delay. -/
  longest_eq : b.longest = longest
  /-- The next delay is the longest one. -/
  current_eq : b.current = longest

/-- A delay that reaches the bound stays there when another one is added. -/
lemma add_min_of_le {previous current : Time.Span} (h : longest.nanos ≤ current.nanos) :
    (previous.add current).min longest = longest := by
  refine Time.Span.eq_of_nanos ?_
  have hlongest := longest.nanos_lt
  rw [Time.Span.nanos_min, Time.Span.nanos_add]
  simp only [Nat.min_eq_min]
  omega

/-- The bound is never left. -/
lemma Capped.advance (h : b.Capped shortest longest) : b.advance.Capped shortest longest where
  shortest_eq := h.shortest_eq
  longest_eq := h.longest_eq
  current_eq := by
    change (b.previous.add b.current).min b.longest = longest
    rw [h.longest_eq, h.current_eq]
    exact add_min_of_le (Nat.le_refl _)

/-- A shortest delay past the longest one is given once. -/
lemma capped_advance_between (h : longest.nanos ≤ shortest.nanos) :
    (between shortest longest).advance.Capped shortest longest where
  shortest_eq := rfl
  longest_eq := rfl
  current_eq := add_min_of_le h

/-- A sequence whose first delay is past the longest one, by the number of delays that it has given
since its last reset. -/
def Overshooting (shortest longest : Time.Span) : ℕ → Backoff → Prop
  | 0, b => b = between shortest longest
  | _ + 1, b => b.Capped shortest longest

/-- After its next delay, a sequence has given one delay more. -/
lemma Overshooting.advance (h : longest.nanos < shortest.nanos)
    (hb : Overshooting shortest longest n b) :
    Overshooting shortest longest (n + 1) b.advance := by
  cases n with
  | zero =>
    obtain rfl : b = between shortest longest := hb
    exact capped_advance_between (Nat.le_of_lt h)
  | succ n => exact Capped.advance hb

/-- A reset brings the start back. -/
lemma Overshooting.reset (hb : Overshooting shortest longest n b) :
    Overshooting shortest longest 0 b.reset := by
  cases n with
  | zero =>
    obtain rfl : b = between shortest longest := hb
    rfl
  | succ n =>
    change between b.shortest b.longest = between shortest longest
    rw [Capped.shortest_eq hb, Capped.longest_eq hb]

/-- The first delay is the shortest one, and the others are the longest one. -/
lemma Overshooting.current_eq (hb : Overshooting shortest longest n b) :
    b.current = if n = 0 then shortest else longest := by
  cases n with
  | zero =>
    obtain rfl : b = between shortest longest := hb
    rfl
  | succ n => exact Capped.current_eq hb

/-- In use, the delays that count are those since the last reset. -/
lemma overshooting_usedAll_between (h : longest.nanos < shortest.nanos) (uses : List Use) :
    Overshooting shortest longest (sinceReset uses)
      ((between shortest longest).usedAll uses) := by
  induction uses using List.reverseRecOn with
  | nil => rfl
  | append_singleton uses use ih =>
    rw [usedAll_append_singleton, sinceReset_append]
    cases use with
    | next => exact ih.advance h
    | reset => exact ih.reset

/-- What is returned is the shortest delay at the start and after a reset, and the longest one
otherwise. -/
lemma answers_eq_some_some_iff_of_lt (h : longest.nanos < shortest.nanos) {uses : List Use} {i : ℕ}
    {d : Time.Span} : ((between shortest longest).answers uses)[i]? = some (some d) ↔
      uses[i]? = some .next ∧ d = if sinceReset (uses.take i) = 0 then shortest else longest := by
  have hcurrent := (overshooting_usedAll_between h (uses.take i)).current_eq
  rw [getElem?_answers]
  cases hi : uses[i]? with
  | none => simp
  | some use =>
    cases use with
    | next => simp [answer?, next, hcurrent, eq_comm]
    | reset => simp [answer?]

/-- **Delays past the longest one.**  Take a backoff between any two delays, from its start, and any
uses of it.  Each use that asks for a delay returns one.  That delay is past the longest one exactly
if it is the first since the start or the last reset, and the shortest delay is past the longest
one.  It is the shortest delay then, and all other delays are the longest one. -/
theorem delays_past_longest (shortest longest : Time.Span) (uses : List Use) :
    (∀ i : ℕ, uses[i]? = some .next →
      ∃ d, ((between shortest longest).answers uses)[i]? = some (some d)) ∧
    ∀ (i : ℕ) (d : Time.Span), ((between shortest longest).answers uses)[i]? = some (some d) →
      (longest.nanos < d.nanos ↔
        sinceReset (uses.take i) = 0 ∧ longest.nanos < shortest.nanos) ∧
      (longest.nanos < shortest.nanos →
        d = if sinceReset (uses.take i) = 0 then shortest else longest) := by
  rcases Nat.lt_or_ge longest.nanos shortest.nanos with h | h
  · refine ⟨fun i hi => ⟨_, (answers_eq_some_some_iff_of_lt h).mpr ⟨hi, rfl⟩⟩, ?_⟩
    intro i d hd
    obtain ⟨_, rfl⟩ := (answers_eq_some_some_iff_of_lt h).mp hd
    refine ⟨?_, fun _ => rfl⟩
    by_cases hfirst : sinceReset (uses.take i) = 0
    · simp [hfirst, h]
    · simp [hfirst]
  · refine ⟨fun i hi => ⟨_, (answers_eq_some_some_iff h).mpr ⟨hi, rfl⟩⟩, ?_⟩
    intro i d hd
    obtain ⟨_, rfl⟩ := (answers_eq_some_some_iff h).mp hd
    have hbound := (delay_mem_bounds h (sinceReset (uses.take i))).2
    exact ⟨⟨fun hpast => absurd hpast (Nat.not_lt.mpr hbound),
      fun hpast => absurd hpast.2 (Nat.not_lt.mpr h)⟩, fun hlt => absurd hlt (Nat.not_lt.mpr h)⟩

/-- Between ten minutes and five, the first delay is past the longest one, and so is the first one
after a reset; the second one is not. -/
theorem delays_past_longest_ten_minutes :
    let longest : Time.Span := .ofSeconds 300
    let answers := (between (.ofSeconds 600) longest).answers [.next, .next, .reset, .next]
    answers[0]? = some (some (.ofSeconds 600)) ∧ answers[1]? = some (some longest) ∧
      ∃ d, answers[3]? = some (some d) ∧ longest.nanos < d.nanos := by
  intro longest answers
  have hbounds : longest.nanos < (Time.Span.ofSeconds 600).nanos := by decide
  obtain ⟨hgiven, hdelays⟩ :=
    delays_past_longest (.ofSeconds 600) longest [.next, .next, .reset, .next]
  obtain ⟨d₀, hd₀⟩ := hgiven 0 rfl
  obtain ⟨d₁, hd₁⟩ := hgiven 1 rfl
  obtain ⟨d₃, hd₃⟩ := hgiven 3 rfl
  have hfirst : d₀ = .ofSeconds 600 := (hdelays 0 d₀ hd₀).2 hbounds
  have hsecond : d₁ = longest := (hdelays 1 d₁ hd₁).2 hbounds
  exact ⟨hfirst ▸ hd₀, hsecond ▸ hd₁, d₃, hd₃, (hdelays 3 d₃ hd₃).1.mpr ⟨rfl, hbounds⟩⟩

/-- The first delay between ten minutes and five is past the longest one. -/
theorem longest_passed :
    let longest : Time.Span := .ofSeconds 300
    ∃ d, some d ∈ (between (.ofSeconds 600) longest).answers [.next] ∧
      ¬ d.nanos ≤ longest.nanos :=
  ⟨.ofSeconds 600, by decide, by decide⟩

end Backoff

end MountOwnership
