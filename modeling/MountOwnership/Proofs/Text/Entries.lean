import Mathlib.Data.List.Basic
import MountOwnership.Text.Blank

/-!
# Entries that are joined and split

A text without blanks at its ends and without a comma, and not empty, comes back as it is from the
list that it is joined into.
-/

namespace MountOwnership.Text

/-- What an entry of a comma-separated list looks like. -/
structure IsEntry (s : String) : Prop where
  /-- It is not blank. -/
  ne_empty : s ≠ ""
  /-- It has no blanks at its ends. -/
  trimmed : trim s = s
  /-- It has no comma. -/
  no_comma : ',' ∉ s.toList

/-- Texts with commas between them. -/
def joined (ss : List String) : String := ",".intercalate ss

variable {s : String} {ss : List String}

/-- Nothing is trimmed off an entry. -/
lemma IsEntry.trimChars_eq (h : IsEntry s) : trimChars s.toList = s.toList := by
  have htrim := congrArg String.toList h.trimmed
  rwa [trim, String.toList_ofList] at htrim

/-- **Entries.**  Entries that are joined with commas are the entries of the list. -/
theorem entries_joined (h : ∀ s ∈ ss, IsEntry s) : entries (joined ss) = ss := by
  cases ss with
  | nil => rfl
  | cons s rest =>
    have hsplit : (joined (s :: rest)).toList.splitOn ',' = (s :: rest).map String.toList := by
      rw [joined, String.toList_intercalate]
      refine List.splitOn_intercalate ',' (fun cs hcs => ?_) (List.cons_ne_nil _ _)
      obtain ⟨s', hs', rfl⟩ := List.mem_map.mp hcs
      exact (h s' hs').no_comma
    have htrim : ((s :: rest).map String.toList).map trimChars = (s :: rest).map String.toList := by
      rw [List.map_map]
      exact List.map_congr_left fun s' hs' => (h s' hs').trimChars_eq
    have hkept : ((s :: rest).map String.toList).filter (fun entry => !entry.isEmpty) =
        (s :: rest).map String.toList := by
      refine List.filter_eq_self.mpr fun cs hcs => ?_
      obtain ⟨s', hs', rfl⟩ := List.mem_map.mp hcs
      have hne : s'.toList ≠ [] := fun hnil =>
        (h s' hs').ne_empty (String.toList_eq_nil_iff.mp hnil)
      simp [hne]
    rw [entries, entryChars, hsplit, htrim, hkept, List.map_map]
    simp

end MountOwnership.Text
