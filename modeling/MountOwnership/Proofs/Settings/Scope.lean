import MountOwnership.Controller
import MountOwnership.Proofs.NamespaceFilter
import MountOwnership.Proofs.Settings.Resolution

/-!
# The scope of resolved settings

A controller works in every namespace if the list of patterns that applies has no entry.  That list
is the variable's as soon as the variable is not empty, be it of commas and blanks alone.  Such a
variable puts every namespace in the place of the patterns that the option gives
(`Settings.isMatchAll_iff_of_hasEntry`), and nothing else does.
-/

namespace MountOwnership

namespace Settings

open CommandLine (Arguments)

variable {args : Arguments} {env : Environment} {s : Settings}

/-- A controller works in every namespace exactly if the list of patterns that applies has no
entry. -/
lemma isMatchAll_ofSettings_iff (hs : resolve args env = .ok s) (start : Time.Instant) :
    (Controller.ofSettings s start).context.filter.isMatchAll = true ↔
      ¬ Text.HasEntry (patternSource args env) := by
  change (NamespaceFilter.ofSources s.patterns).isMatchAll = true ↔ _
  rw [NamespaceFilter.isMatchAll_ofSources_iff, (resolvedFrom_of_resolve hs).patterns,
    Text.hasEntry_iff, not_not]

/-- **Every namespace in the place of patterns.**  Take arguments and an environment that resolve to
settings, where the list of patterns of the option or that of the variable has an entry that is not
blank.  The controller with these settings works in every namespace exactly if the variable is set,
and to a text that is not empty and made of commas and blanks. -/
theorem isMatchAll_iff_of_hasEntry (hs : resolve args env = .ok s)
    (hentry : Text.HasEntry (args.namespaceRegex.getD "") ∨
      ∃ raw, env .namespaceRegex = some raw ∧ Text.HasEntry raw) (start : Time.Instant) :
    (Controller.ofSettings s start).context.filter.isMatchAll = true ↔
      ∃ raw, env .namespaceRegex = some raw ∧ raw ≠ "" ∧
        ∀ c ∈ raw.toList, c = ',' ∨ Text.isBlank c = true := by
  rw [isMatchAll_ofSettings_iff hs start, patternSource]
  cases hvariable : env.nonEmpty .namespaceRegex with
  | some raw =>
    obtain ⟨hraw, hne⟩ := Environment.nonEmpty_eq_some_iff.mp hvariable
    rw [Option.getD_some, Text.not_hasEntry_iff, hraw]
    constructor
    · intro hblank
      exact ⟨raw, rfl, hne, hblank⟩
    · rintro ⟨_, ⟨⟩, -, hblank⟩
      exact hblank
  | none =>
    -- the variable counts for nothing, so the entry is one of the option
    have hempty := Environment.nonEmpty_eq_none_iff.mp hvariable
    have hoption : Text.HasEntry (args.namespaceRegex.getD "") := by
      rcases hentry with hoption | ⟨raw, hraw, hentry⟩
      · exact hoption
      · rw [hempty raw hraw] at hentry
        exact absurd hentry (by decide)
    rw [Option.getD_none]
    constructor
    · intro hnot
      exact absurd hoption hnot
    · rintro ⟨raw, hraw, hne, -⟩
      exact absurd (hempty raw hraw) hne

/-- A blank entry behind a pattern of the variable does not widen the scope. -/
theorem isMatchAll_iff_of_hasEntry_trailing_comma :
    let args : Arguments := { namespaceRegex := some "^team-a$" }
    let env : Environment := fun
      | .namespaceRegex => some "^kube-, "
      | _ => none
    let start : Time.Instant := ⟨1735689600, 0, by decide, by decide⟩
    Text.HasEntry (args.namespaceRegex.getD "") ∧ ∃ s, resolve args env = .ok s ∧
      (Controller.ofSettings s start).context.filter.isMatchAll = false := by
  intro args env start
  have hentry : Text.HasEntry (args.namespaceRegex.getD "") := by decide
  have hs : resolve args env = .ok { patterns := ["^kube-"] } := by decide
  have hscope := isMatchAll_iff_of_hasEntry hs (Or.inl hentry) start
  refine ⟨hentry, _, hs, Bool.eq_false_iff.mpr fun hall => ?_⟩
  obtain ⟨_, ⟨⟩, -, hblank⟩ := hscope.mp hall
  have hkube : Text.HasEntry "^kube-, " := by decide
  exact Text.not_hasEntry_iff.mpr hblank hkube

/-- A comma between blanks in the variable puts every namespace in the place of the one that the
option asks for. -/
theorem scope_widened_by_blanks :
    let args : Arguments := { namespaceRegex := some "^team-a$" }
    let env : Environment := fun
      | .namespaceRegex => some " , "
      | _ => none
    let start : Time.Instant := ⟨1735689600, 0, by decide, by decide⟩
    Text.HasEntry (args.namespaceRegex.getD "") ∧ ∃ s, resolve args env = .ok s ∧
      (Controller.ofSettings s start).context.filter.isMatchAll = true ∧
      (Controller.ofSettings s start).context.filter.selects "kube-system" = true := by
  intro args env start
  have hs : resolve args env = .ok {} := by decide
  exact ⟨by decide, {}, hs, rfl, rfl⟩

end Settings

end MountOwnership
