import Mathlib.Data.List.Nodup
import Mathlib.Tactic.Common
import MountOwnership.Table

/-!
# Tables that have each key once

A table is written at the first entry of a key, or at a new last entry of a key that it
does not have.  So a table that has each key once (`Table.Distinct`) keeps having it once,
and its entries are exactly what a look-up finds (`Table.Distinct.mem_entries_iff`).
-/

namespace MountOwnership.Table

variable {κ α : Type}

/-- A table has each key once. -/
def Distinct (t : Table κ α) : Prop := (t.entries.map Prod.fst).Nodup

/-- The empty table holds no key twice. -/
lemma distinct_empty : ({} : Table κ α).Distinct := List.nodup_nil

/-- A table that has each key once repeats no entry. -/
lemma Distinct.nodup_entries {t : Table κ α} (h : t.Distinct) : t.entries.Nodup :=
  List.Nodup.of_map Prod.fst h

variable [DecidableEq κ]

/-! ### Entries -/

/-- A write adds a key to the keys, unless it is there. -/
lemma mem_keys_write {k k' : κ} {a : α} {entries : List (κ × α)} :
    k' ∈ (write k a entries).map Prod.fst ↔ k' = k ∨ k' ∈ entries.map Prod.fst := by
  induction entries with
  | nil => simp [write]
  | cons e rest ih =>
    obtain ⟨k₀, a₀⟩ := e
    by_cases h : k₀ = k
    · subst h
      simp [write]
    · rw [write, if_neg h, List.map_cons, List.mem_cons, ih, List.map_cons, List.mem_cons]
      exact or_left_comm

/-- A write does not repeat a key. -/
lemma nodup_keys_write {entries : List (κ × α)} (h : (entries.map Prod.fst).Nodup) (k : κ)
    (a : α) : ((write k a entries).map Prod.fst).Nodup := by
  induction entries with
  | nil => exact List.nodup_singleton k
  | cons e rest ih =>
    obtain ⟨k₀, a₀⟩ := e
    obtain ⟨hfresh, hrest⟩ := List.nodup_cons.mp h
    by_cases hk : k₀ = k
    · rw [write, if_pos hk]
      exact List.nodup_cons.mpr ⟨hfresh, hrest⟩
    · rw [write, if_neg hk]
      refine List.nodup_cons.mpr ⟨fun hmem => ?_, ih hrest⟩
      rcases mem_keys_write.mp hmem with heq | hmem
      · exact hk heq
      · exact hfresh hmem

/-- Where no key is repeated, an entry is found under its key. -/
lemma find?_eq_some_iff {entries : List (κ × α)} (h : (entries.map Prod.fst).Nodup) {k : κ}
    {a : α} : find? k entries = some a ↔ (k, a) ∈ entries := by
  induction entries with
  | nil => exact ⟨nofun, nofun⟩
  | cons e rest ih =>
    obtain ⟨k₀, a₀⟩ := e
    obtain ⟨hfresh, hrest⟩ := List.nodup_cons.mp h
    rw [find?, List.mem_cons, Prod.mk.injEq]
    by_cases hk : k₀ = k
    · subst hk
      have hnot : (k₀, a) ∉ rest := fun hmem => hfresh (List.mem_map.mpr ⟨(k₀, a), hmem, rfl⟩)
      rw [if_pos rfl, Option.some_inj]
      constructor
      · rintro rfl
        exact Or.inl ⟨rfl, rfl⟩
      · rintro (⟨_, ha⟩ | hmem)
        · exact ha.symm
        · exact absurd hmem hnot
    · rw [if_neg hk, ih hrest]
      exact (or_iff_right fun heq => hk heq.1.symm).symm

/-! ### Tables -/

/-- Writing to a key keeps each key once. -/
lemma Distinct.insert {t : Table κ α} (h : t.Distinct) (k : κ) (a : α) :
    (t.insert k a).Distinct := nodup_keys_write h k a

/-- Forgetting a key keeps each other key once. -/
lemma Distinct.erase {t : Table κ α} (h : t.Distinct) (k : κ) : (t.erase k).Distinct :=
  (List.filter_sublist.map Prod.fst).nodup h

/-- The entries of a table that has each key once are what a look-up finds. -/
lemma Distinct.mem_entries_iff {t : Table κ α} (h : t.Distinct) {k : κ} {a : α} :
    (k, a) ∈ t.entries ↔ t.get? k = some a := (find?_eq_some_iff h).symm

end MountOwnership.Table
