import Mathlib.Data.List.DropRight
import MountOwnership.Pattern.Unicode.Lookup
import MountOwnership.Proofs.Text.Entries

/-!
# Lists that are split

What trimming leaves of a text begins and ends with no blank, and all that it takes away are blanks
(`bare_trimChars`, `exists_eq_append_trimChars`).

A comma divides a list into two, and its entries are those of the one and then those of the other
(`entries_comma`).  So the entries of every list are known from those of lists without a comma,
which have one entry, or none if they are blank, and a property of all lists is shown by going from
comma to comma (`commaInduction`).
-/

namespace MountOwnership.Text

variable {cs ds before after : List Char} {s : String}

/-! ### Blanks -/

/-- Blanks are what the tables of Unicode call white space. -/
lemma isBlank_eq_contains (c : Char) : isBlank c = Pattern.Unicode.spaces.contains c.toNat := by
  have htable : Pattern.Unicode.lookup? Pattern.Unicode.binaryProperties "wspace" =
      some ⟨[(9, 13), (0x20, 0x20), (0x85, 0x85), (0xA0, 0xA0), (0x1680, 0x1680),
        (0x2000, 0x200A), (0x2028, 0x2029), (0x202F, 0x202F), (0x205F, 0x205F),
        (0x3000, 0x3000)]⟩ := by
    decide +kernel
  rw [Pattern.Unicode.spaces, Pattern.Unicode.unionOf, List.foldl_cons, List.foldl_nil, htable,
    Option.getD_some, CharSet.union, CharSet.empty, CharSet.mergeRanges, Bool.eq_iff_iff]
  simp only [isBlank, CharSet.contains, CharSet.coalesce, CharSet.consRange, List.any_cons,
    List.any_nil, Bool.or_eq_true, Bool.and_eq_true, Bool.or_false, decide_eq_true_eq, beq_iff_eq,
    Nat.reduceAdd, Nat.reduceLeDiff, ↓reduceIte]
  omega

/-! ### Trimming -/

/-- A text that begins and ends with no blank. -/
structure Bare (cs : List Char) : Prop where
  /-- Its first character is not blank. -/
  head : ∀ c ∈ cs.head?, isBlank c = false
  /-- Its last character is not blank. -/
  last : ∀ c ∈ cs.getLast?, isBlank c = false

/-- Characters are bare if neither the first nor the last is blank. -/
lemma bare_iff : Bare cs ↔ (cs.head?.any isBlank || cs.getLast?.any isBlank) = false := by
  rw [Bool.or_eq_false_iff, Option.any_eq_false, Option.any_eq_false]
  exact ⟨fun h => ⟨h.head, h.last⟩, fun h => ⟨h.1, h.2⟩⟩

instance (cs : List Char) : Decidable (Bare cs) := decidable_of_iff _ bare_iff.symm

/-- Of blanks alone nothing is left. -/
lemma trimChars_of_blank (h : ∀ c ∈ cs, isBlank c = true) : trimChars cs = [] := by
  rw [trimChars, List.dropWhile_eq_nil_iff.mpr h]
  rfl

/-- What is trimmed away are blanks. -/
lemma exists_eq_append_trimChars (cs : List Char) : ∃ before after,
    cs = before ++ trimChars cs ++ after ∧
      (∀ c ∈ before, isBlank c = true) ∧ ∀ c ∈ after, isBlank c = true := by
  refine ⟨cs.takeWhile isBlank, (cs.dropWhile isBlank).rtakeWhile isBlank, ?_,
    fun c hc => List.mem_takeWhile_imp hc, fun c hc => List.mem_rtakeWhile_imp hc⟩
  have hend : trimChars cs = (cs.dropWhile isBlank).rdropWhile isBlank := rfl
  rw [hend, List.append_assoc, List.rdropWhile_append_rtakeWhile,
    List.takeWhile_append_dropWhile]

/-- Nothing remains of a text exactly if it is blank. -/
lemma trimChars_eq_nil_iff : trimChars cs = [] ↔ ∀ c ∈ cs, isBlank c = true := by
  refine ⟨fun h => ?_, trimChars_of_blank⟩
  obtain ⟨before, after, hcs, hbefore, hafter⟩ := exists_eq_append_trimChars cs
  rw [h, List.append_nil] at hcs
  intro c hc
  rw [hcs] at hc
  rcases List.mem_append.mp hc with hc | hc
  · exact hbefore c hc
  · exact hafter c hc

/-- What is left after trimming was there before. -/
lemma mem_of_mem_trimChars {c : Char} (hc : c ∈ trimChars cs) : c ∈ cs := by
  obtain ⟨before, after, hcs, -, -⟩ := exists_eq_append_trimChars cs
  rw [hcs]
  exact List.mem_append_left _ (List.mem_append_right _ hc)

/-- What remains of a text begins and ends with no blank. -/
lemma bare_trimChars (cs : List Char) : Bare (trimChars cs) := by
  have hend : trimChars cs = (cs.dropWhile isBlank).rdropWhile isBlank := rfl
  constructor
  · intro c hc
    -- what is dropped at the end leaves the beginning as it is
    obtain ⟨rest, hrest⟩ := List.rdropWhile_prefix isBlank (cs.dropWhile isBlank)
    have hhead : (cs.dropWhile isBlank).head? = some c := by
      rw [← hrest, ← hend, List.head?_append, hc]
      rfl
    have hnot := List.head?_dropWhile_not isBlank cs
    rw [hhead] at hnot
    exact hnot
  · intro c hc
    have hne : trimChars cs ≠ [] := by
      intro hnil
      rw [hnil] at hc
      cases hc
    rw [List.getLast?_eq_some_getLast hne] at hc
    obtain rfl := Option.some.inj hc
    exact Bool.eq_false_iff.mpr (List.rdropWhile_last_not isBlank _ hne)

/-- Blanks in front of a text that begins with none are dropped, and nothing else. -/
lemma dropWhile_blank_append (hbefore : ∀ c ∈ before, isBlank c = true)
    (hhead : ∀ c ∈ cs.head?, isBlank c = false) :
    (before ++ cs).dropWhile isBlank = cs := by
  rw [List.dropWhile_append_of_pos hbefore]
  cases cs with
  | nil => rfl
  | cons c cs => exact List.dropWhile_cons_of_neg (Bool.not_eq_true _ ▸ hhead c rfl)

/-- Blanks around a text that begins and ends with none are trimmed, and nothing else. -/
lemma trimChars_surrounded (hbefore : ∀ c ∈ before, isBlank c = true) (h : Bare cs)
    (hafter : ∀ c ∈ after, isBlank c = true) : trimChars (before ++ cs ++ after) = cs := by
  by_cases hcs : cs = []
  · subst hcs
    refine trimChars_of_blank fun c hc => ?_
    rw [List.append_nil] at hc
    exact (List.mem_append.mp hc).elim (hbefore c) (hafter c)
  · have hfront : (before ++ (cs ++ after)).dropWhile isBlank = cs ++ after := by
      refine dropWhile_blank_append hbefore ?_
      rw [List.head?_append_of_ne_nil _ hcs]
      exact h.head
    have hrear : (after.reverse ++ cs.reverse).dropWhile isBlank = cs.reverse := by
      refine dropWhile_blank_append (fun c hc => hafter c (List.mem_reverse.mp hc)) ?_
      rw [List.head?_reverse]
      exact h.last
    rw [trimChars, List.append_assoc, hfront, trimEnd, List.reverse_append, hrear,
      List.reverse_reverse]

/-- A text is left as it is exactly if it begins and ends with no blank. -/
lemma trimChars_eq_self_iff : trimChars cs = cs ↔ Bare cs := by
  constructor
  · intro h
    rw [← h]
    exact bare_trimChars cs
  · intro h
    have hnone : ∀ c ∈ ([] : List Char), isBlank c = true := by simp
    simpa using trimChars_surrounded hnone h hnone

/-- An entry is not empty, begins and ends with no blank, and has no comma. -/
lemma isEntry_iff : IsEntry s ↔ s ≠ "" ∧ ',' ∉ s.toList ∧ Bare s.toList := by
  have htrimmed : trim s = s ↔ Bare s.toList := by
    rw [← trimChars_eq_self_iff, trim, ← String.toList_inj, String.toList_ofList]
  constructor
  · intro h
    exact ⟨h.ne_empty, h.no_comma, htrimmed.mp h.trimmed⟩
  · rintro ⟨hne, hcomma, hbare⟩
    exact ⟨hne, htrimmed.mpr hbare, hcomma⟩

/-! ### Splitting -/

/-- What holds of every list without a comma, and of two lists with a comma between them if it holds
of both, holds of all lists. -/
theorem commaInduction {motive : List Char → Prop} (part : ∀ cs, ',' ∉ cs → motive cs)
    (comma : ∀ cs ds, motive cs → motive ds → motive (cs ++ ',' :: ds)) (cs : List Char) :
    motive cs := by
  by_cases h : ',' ∈ cs
  · obtain ⟨before, after, hcs, hbefore⟩ := List.eq_append_cons_of_mem h
    have hshorter : after.length < cs.length := by
      rw [hcs, List.length_append, List.length_cons]
      omega
    rw [hcs]
    exact comma before after (part before hbefore) (commaInduction part comma after)
  · exact part cs h
termination_by cs.length

/-- The entries of two lists with a comma between them are those of both. -/
lemma entryChars_comma (cs ds : List Char) :
    entryChars (cs ++ ',' :: ds) = entryChars cs ++ entryChars ds := by
  rw [entryChars, List.splitOn_append_cons_self, List.map_append, List.filter_append]
  rfl

/-- A list without a comma has one entry, or none if it is blank. -/
lemma entryChars_of_notMem (h : ',' ∉ cs) :
    entryChars cs = if trimChars cs = [] then [] else [trimChars cs] := by
  rw [entryChars, List.splitOn_eq_singleton h, List.map_singleton]
  by_cases hnil : trimChars cs = []
  · simp [hnil]
  · simp [hnil]

/-- Entries are not empty, have no comma, and begin and end with no blank. -/
lemma entryChars_normal (cs : List Char) :
    ∀ entry ∈ entryChars cs, entry ≠ [] ∧ ',' ∉ entry ∧ Bare entry := by
  induction cs using commaInduction with
  | part cs hcs =>
    intro entry hentry
    rw [entryChars_of_notMem hcs] at hentry
    split at hentry
    · cases hentry
    · next hne =>
      obtain rfl := List.mem_singleton.mp hentry
      exact ⟨hne, fun hcomma => hcs (mem_of_mem_trimChars hcomma), bare_trimChars cs⟩
  | comma cs ds ihcs ihds =>
    intro entry hentry
    rw [entryChars_comma] at hentry
    exact (List.mem_append.mp hentry).elim (ihcs entry) (ihds entry)

/-- A list has no entries exactly if it is made of commas and blanks. -/
lemma entryChars_eq_nil_iff :
    entryChars cs = [] ↔ ∀ c ∈ cs, c = ',' ∨ isBlank c = true := by
  induction cs using commaInduction with
  | part cs hcs =>
    have hblank : (∀ c ∈ cs, c = ',' ∨ isBlank c = true) ↔ trimChars cs = [] := by
      rw [trimChars_eq_nil_iff]
      refine forall₂_congr fun c hc => or_iff_right ?_
      rintro rfl
      exact hcs hc
    rw [entryChars_of_notMem hcs, hblank]
    by_cases hnil : trimChars cs = []
    · simp [hnil]
    · simp [hnil]
  | comma cs ds ihcs ihds =>
    rw [entryChars_comma, List.append_eq_nil_iff, ihcs, ihds]
    simp [or_imp, forall_and]

/-- The entries of two lists with a comma between them are those of both. -/
lemma entries_comma (a b : String) : entries (a ++ "," ++ b) = entries a ++ entries b := by
  have hchars : (a ++ "," ++ b).toList = a.toList ++ ',' :: b.toList := by
    simp
  rw [entries, hchars, entryChars_comma, List.map_append]
  rfl

/-- The entries of a list are as entries should be. -/
lemma isEntry_of_mem_entries {raw : String} (h : s ∈ entries raw) : IsEntry s := by
  obtain ⟨entry, hentry, rfl⟩ := List.mem_map.mp h
  obtain ⟨hne, hcomma, hbare⟩ := entryChars_normal raw.toList entry hentry
  refine isEntry_iff.mpr ⟨fun hempty => hne ?_, ?_, ?_⟩
  · rw [← String.toList_ofList (l := entry), hempty]
    rfl
  · rwa [String.toList_ofList]
  · rwa [String.toList_ofList]

/-- A list has no entries exactly if it is made of commas and blanks. -/
lemma entries_eq_nil_iff : entries s = [] ↔ ∀ c ∈ s.toList, c = ',' ∨ isBlank c = true := by
  rw [entries, List.map_eq_nil_iff, entryChars_eq_nil_iff]

/-- Whether some text between the commas of a list is more than blanks. -/
def HasEntry (s : String) : Prop :=
  ∃ part ∈ s.toList.splitOn ',', ∃ c ∈ part, isBlank c = false

/-- A text has an entry if some part between commas has a character that is not blank. -/
lemma hasEntry_iff_any :
    HasEntry s ↔ ((s.toList.splitOn ',').any fun part => part.any fun c => !isBlank c) = true := by
  simp [HasEntry]

instance (s : String) : Decidable (HasEntry s) := decidable_of_iff _ hasEntry_iff_any.symm

/-- A text has an entry exactly if its list of entries is not empty. -/
lemma hasEntry_iff : HasEntry s ↔ entries s ≠ [] := by
  have hkept (part : List Char) : trimChars part ≠ [] ↔ ∃ c ∈ part, isBlank c = false := by
    rw [ne_eq, trimChars_eq_nil_iff]
    simp
  rw [entries, ne_eq, List.map_eq_nil_iff, entryChars, List.filter_eq_nil_iff]
  simp [HasEntry, ← hkept]

/-- A text has no entry exactly if it consists of commas and blanks. -/
lemma not_hasEntry_iff : ¬ HasEntry s ↔ ∀ c ∈ s.toList, c = ',' ∨ isBlank c = true := by
  rw [hasEntry_iff, not_not, entries_eq_nil_iff]

/-- Blanks around an entry make no difference, and blanks alone are no entry. -/
lemma entries_surrounded {before p after : String}
    (hbefore : ∀ c ∈ before.toList, isBlank c = true) (hcomma : ',' ∉ p.toList)
    (hbare : Bare p.toList) (hafter : ∀ c ∈ after.toList, isBlank c = true) :
    entries (before ++ p ++ after) = if p = "" then [] else [p] := by
  have hblank : ∀ c : Char, isBlank c = true → c ≠ ',' := by
    rintro c hc rfl
    exact absurd hc (by decide)
  have hpart : ',' ∉ (before ++ p ++ after).toList := by
    rw [String.toList_append, String.toList_append, List.mem_append, List.mem_append]
    rintro ((hmem | hmem) | hmem)
    · exact hblank _ (hbefore _ hmem) rfl
    · exact hcomma hmem
    · exact hblank _ (hafter _ hmem) rfl
  rw [entries, entryChars_of_notMem hpart, String.toList_append, String.toList_append,
    trimChars_surrounded hbefore hbare hafter]
  by_cases hp : p = ""
  · simp [hp]
  · simp [hp]

/-- **Entries in normal form.**  Blanks are the white space of Unicode.  The entries of a list are
not empty, have no comma, and begin and end with no blank.  Texts like these come back as they are
from the list that they are joined into, so a list that is split and joined has the same entries.
A comma divides a list into two with the entries of both, and between commas blanks around a text
make no difference and blanks alone are no entry. -/
theorem entries_normal_form :
    (∀ c : Char, isBlank c = Pattern.Unicode.spaces.contains c.toNat) ∧
    (∀ raw : String, ∀ p ∈ entries raw, p ≠ "" ∧ ',' ∉ p.toList ∧ Bare p.toList) ∧
    (∀ ps : List String, (∀ p ∈ ps, p ≠ "" ∧ ',' ∉ p.toList ∧ Bare p.toList) →
      entries (joined ps) = ps) ∧
    (∀ raw : String, entries (joined (entries raw)) = entries raw) ∧
    (∀ a b : String, entries (a ++ "," ++ b) = entries a ++ entries b) ∧
    ∀ before p after : String, (∀ c ∈ before.toList, isBlank c = true) → ',' ∉ p.toList →
      Bare p.toList → (∀ c ∈ after.toList, isBlank c = true) →
      entries (before ++ p ++ after) = if p = "" then [] else [p] := by
  refine ⟨isBlank_eq_contains, fun raw p hp => isEntry_iff.mp (isEntry_of_mem_entries hp), ?_,
    fun raw => entries_joined fun p hp => isEntry_of_mem_entries hp, entries_comma, ?_⟩
  · intro ps hps
    exact entries_joined fun p hp => isEntry_iff.mpr (hps p hp)
  · intro before p after hbefore hcomma hbare hafter
    exact entries_surrounded hbefore hcomma hbare hafter

/-- Two patterns come back from the list that they are joined into, and a third one from between an
ideographic space and a line break. -/
theorem entries_normal_form_kube :
    let ps := ["^kube-.*", "a b"]
    (∀ p ∈ ps, p ≠ "" ∧ ',' ∉ p.toList ∧ Bare p.toList) ∧ entries (joined ps) = ps ∧
      entries ("\u3000" ++ "^default$" ++ "\n") = ["^default$"] := by
  intro ps
  have hps : ∀ p ∈ ps, p ≠ "" ∧ ',' ∉ p.toList ∧ Bare p.toList := by decide
  obtain ⟨-, -, hjoined, -, -, hsurrounded⟩ := entries_normal_form
  exact ⟨hps, hjoined ps hps, hsurrounded "\u3000" "^default$" "\n"
    (List.all_eq_true.mp rfl) (by decide) (by decide) (List.all_eq_true.mp rfl)⟩

end MountOwnership.Text
