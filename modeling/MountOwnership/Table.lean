/-!
# Tables

A finite map that keeps its keys in the order in which they were first
inserted. Writing to a key that is there changes its value in place, so writing
what is stored already changes nothing.
-/

namespace MountOwnership

/-- A finite map with its keys in order of insertion. -/
structure Table (κ α : Type) where
  /-- The keys with their values. -/
  entries : List (κ × α) := []
deriving DecidableEq

namespace Table

variable {κ α : Type} [DecidableEq κ]

/-- The value of the first entry of a key. -/
def find? (k : κ) : List (κ × α) → Option α
  | [] => none
  | (k', a) :: rest => if k' = k then some a else find? k rest

/-- Write a value to the first entry of a key, or to a new last entry. -/
def write (k : κ) (a : α) : List (κ × α) → List (κ × α)
  | [] => [(k, a)]
  | (k', a') :: rest => if k' = k then (k', a) :: rest else (k', a') :: write k a rest

/-- The value of a key. -/
def get? (t : Table κ α) (k : κ) : Option α := find? k t.entries

/-- Write a value to a key. -/
def insert (t : Table κ α) (k : κ) (a : α) : Table κ α := ⟨write k a t.entries⟩

/-- Forget a key. -/
def erase (t : Table κ α) (k : κ) : Table κ α := ⟨t.entries.filter fun e => e.1 ≠ k⟩

/-- The number of keys. -/
def size (t : Table κ α) : Nat := t.entries.length

/-- In a table without entries nothing is found. -/
@[simp] theorem get?_mk_nil (k : κ) : (⟨[]⟩ : Table κ α).get? k = none := rfl

/-- What is written under a key is found there, and all else as before. -/
theorem find?_write (k k' : κ) (a : α) (entries : List (κ × α)) :
    find? k' (write k a entries) = if k = k' then some a else find? k' entries := by
  induction entries with
  | nil => simp [write, find?]
  | cons e rest ih =>
    obtain ⟨k₀, a₀⟩ := e
    by_cases h : k₀ = k
    · subst h
      simp only [write, if_true, find?]
      split <;> rfl
    · simp only [write, h, if_false, find?, ih]
      by_cases h' : k₀ = k'
      · subst h'
        simp [Ne.symm h]
      · simp [h']

/-- Under a key that is left out nothing is found, and all else as before. -/
theorem find?_filter_ne (k k' : κ) (entries : List (κ × α)) :
    find? k' (entries.filter fun e => e.1 ≠ k) = if k = k' then none else find? k' entries := by
  induction entries with
  | nil => simp [find?]
  | cons e rest ih =>
    obtain ⟨k₀, a₀⟩ := e
    by_cases h : k₀ = k
    · subst h
      simp only [ne_eq, not_true_eq_false, decide_false, Bool.false_eq_true, not_false_eq_true,
        List.filter_cons_of_neg, find?]
      rw [show (rest.filter fun e => decide (¬e.1 = k₀)) = rest.filter fun e => e.1 ≠ k₀ from rfl,
        ih]
      split <;> rfl
    · rw [List.filter_cons_of_pos (by simpa using h)]
      simp only [find?, ih]
      by_cases h' : k₀ = k'
      · subst h'
        simp [Ne.symm h]
      · simp [h']

/-- A table answers with what was written last. -/
@[simp] theorem get?_insert (t : Table κ α) (k k' : κ) (a : α) :
    (t.insert k a).get? k' = if k = k' then some a else t.get? k' :=
  find?_write k k' a t.entries

/-- A forgotten key has no value, and other keys keep theirs. -/
@[simp] theorem get?_erase (t : Table κ α) (k k' : κ) :
    (t.erase k).get? k' = if k = k' then none else t.get? k' :=
  find?_filter_ne k k' t.entries

end Table

end MountOwnership
