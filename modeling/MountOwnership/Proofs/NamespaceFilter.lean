import MountOwnership.NamespaceFilter
import MountOwnership.Proofs.Text.Splitting

/-!
# Namespaces that are selected

A filter is asked through its texts alone: a namespace is selected if there are none, or if one of
them is a pattern that matches it (`selects_ofSources_iff`).  Texts that are no patterns take part
in the first condition and not in the second one.  So two lists of texts select what either of them
does, as long as neither is empty, and between lists that are not empty nothing counts but which
patterns are in them.

Lists in their written form are empty if they have no entry that is not blank.
-/

namespace MountOwnership.NamespaceFilter

variable {ss ts : List String} {ns : String}

/-- A filter matches every namespace if it is made of no pattern. -/
lemma isMatchAll_ofSources_iff : (ofSources ss).isMatchAll = true ↔ ss = [] := by
  rw [isMatchAll, ofSources, beq_iff_eq, List.length_eq_zero_iff]

/-- A namespace is selected if there are no texts or one of them is a pattern that matches it. -/
lemma selects_ofSources_iff : (ofSources ss).selects ns = true ↔
    ss = [] ∨ ∃ s ∈ ss, ∃ p, Pattern.compile s = .ok p ∧ p.isMatch ns = true := by
  have hpattern (s : String) (p : Pattern) :
      (Pattern.compile s).toOption = some p ↔ Pattern.compile s = .ok p := by
    cases Pattern.compile s <;> simp [Except.toOption]
  rw [selects, Bool.or_eq_true, isMatchAll_ofSources_iff, List.any_eq_true, ofSources]
  simp only [List.mem_filterMap, hpattern]
  refine or_congr_right ⟨?_, ?_⟩
  · rintro ⟨p, ⟨s, hs, hp⟩, hmatch⟩
    exact ⟨s, hs, p, hp, hmatch⟩
  · rintro ⟨s, hs, p, hp, hmatch⟩
    exact ⟨p, ⟨s, hs, hp⟩, hmatch⟩

/-- Two lists of texts select what either of them does. -/
lemma selects_ofSources_append (hss : ss ≠ []) (hts : ts ≠ []) :
    (ofSources (ss ++ ts)).selects ns =
      ((ofSources ss).selects ns || (ofSources ts).selects ns) := by
  rw [Bool.eq_iff_iff, Bool.or_eq_true, selects_ofSources_iff, selects_ofSources_iff,
    selects_ofSources_iff]
  simp only [List.append_eq_nil_iff, hss, hts, false_and, false_or, List.mem_append]
  constructor
  · rintro ⟨s, hs | hs, hmatch⟩
    · exact Or.inl ⟨s, hs, hmatch⟩
    · exact Or.inr ⟨s, hs, hmatch⟩
  · rintro (⟨s, hs, hmatch⟩ | ⟨s, hs, hmatch⟩)
    · exact ⟨s, Or.inl hs, hmatch⟩
    · exact ⟨s, Or.inr hs, hmatch⟩

/-- Lists with the same patterns in them select the same namespaces. -/
lemma selects_ofSources_congr (hss : ss ≠ []) (hts : ts ≠ [])
    (h : ∀ s, (∃ p, Pattern.compile s = .ok p) → (s ∈ ss ↔ s ∈ ts)) :
    (ofSources ss).selects ns = (ofSources ts).selects ns := by
  rw [Bool.eq_iff_iff, selects_ofSources_iff, selects_ofSources_iff]
  simp only [hss, hts, false_or]
  constructor
  · rintro ⟨s, hs, p, hp, hmatch⟩
    exact ⟨s, (h s ⟨p, hp⟩).mp hs, p, hp, hmatch⟩
  · rintro ⟨s, hs, p, hp, hmatch⟩
    exact ⟨s, (h s ⟨p, hp⟩).mpr hs, p, hp, hmatch⟩

/-- **Selection is a union.**  Take lists of patterns in their written form.  Two of them with a
comma between select a namespace exactly if one of them does, where each has an entry that is not
blank, and whether or not its entries are patterns.  A list without such an entry adds nothing to
another one.  Where each of two lists has such an entry, they select the same namespaces as soon as
the same patterns are among their entries: in whatever order, how often, and next to whatever
entries that are no patterns. -/
theorem selects_entries_union :
    (∀ a b : String, Text.HasEntry a → Text.HasEntry b → ∀ ns : String,
      (ofSources (Text.entries (a ++ "," ++ b))).selects ns =
        ((ofSources (Text.entries a)).selects ns || (ofSources (Text.entries b)).selects ns)) ∧
    (∀ a b : String, ¬ Text.HasEntry b → ∀ ns : String,
      (ofSources (Text.entries (a ++ "," ++ b))).selects ns =
        (ofSources (Text.entries a)).selects ns) ∧
    ∀ a b : String, Text.HasEntry a → Text.HasEntry b →
      (∀ s, (∃ p, Pattern.compile s = .ok p) → (s ∈ Text.entries a ↔ s ∈ Text.entries b)) →
      ∀ ns : String,
        (ofSources (Text.entries a)).selects ns = (ofSources (Text.entries b)).selects ns := by
  refine ⟨?_, ?_, ?_⟩
  · intro a b ha hb ns
    rw [Text.entries_comma]
    exact selects_ofSources_append (Text.hasEntry_iff.mp ha) (Text.hasEntry_iff.mp hb)
  · intro a b hb ns
    have hnil : Text.entries b = [] := by
      rwa [Text.hasEntry_iff, not_not] at hb
    rw [Text.entries_comma, hnil, List.append_nil]
  · intro a b ha hb h ns
    exact selects_ofSources_congr (Text.hasEntry_iff.mp ha) (Text.hasEntry_iff.mp hb) h

/-- A malformed pattern and repeated ones make no difference beside a pattern, the entries on both
sides of a comma select, and a blank side adds nothing. -/
theorem selects_entries_union_malformed :
    let a := "([unclosed, ^team-a$"
    let b := " , ^team-a$,,^team-a$"
    Text.HasEntry a ∧ Text.HasEntry b ∧ ¬ Text.HasEntry " ,\t" ∧
      (∀ s, (∃ p, Pattern.compile s = .ok p) → (s ∈ Text.entries a ↔ s ∈ Text.entries b)) ∧
      (ofSources (Text.entries a)).selects "team-a" = true ∧
      (ofSources (Text.entries (a ++ "," ++ "^kube-"))).selects "kube-system" = true ∧
      (ofSources (Text.entries (a ++ "," ++ " ,\t"))).selects "kube-system" = false := by
  intro a b
  have ha : Text.HasEntry a := by decide
  have hb : Text.HasEntry b := by decide
  have hblank : ¬ Text.HasEntry " ,\t" := by decide
  have hpatterns : ∀ s, (∃ p, Pattern.compile s = .ok p) →
      (s ∈ Text.entries a ↔ s ∈ Text.entries b) := by
    have hmalformed : Pattern.compile "([unclosed" = .error .malformed := rfl
    have hentries : Text.entries a = ["([unclosed", "^team-a$"] := by decide
    have hentries' : Text.entries b = ["^team-a$", "^team-a$"] := by decide
    rintro s ⟨p, hp⟩
    have hne : s ≠ "([unclosed" := by
      rintro rfl
      rw [hmalformed] at hp
      cases hp
    simp [hentries, hentries', hne]
  obtain ⟨hunion, hnothing, hsame⟩ := selects_entries_union
  refine ⟨ha, hb, hblank, hpatterns, ?_, ?_, ?_⟩
  · rw [hsame a b ha hb hpatterns]
    decide +kernel
  · rw [hunion a "^kube-" ha (by decide)]
    decide +kernel
  · rw [hnothing a " ,\t" hblank]
    decide +kernel

end MountOwnership.NamespaceFilter
