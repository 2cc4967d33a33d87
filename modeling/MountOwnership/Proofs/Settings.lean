import MountOwnership.Proofs.CommandLine
import MountOwnership.Proofs.Text.Entries
import MountOwnership.Settings

/-!
# Settings that are written and read

Settings are written as arguments: the patterns joined with commas, the flags and the concurrency
as their values, and the namespace to watch where there is one.  In an environment without variables
they are what the arguments resolve to, in whatever order these come.

Patterns come back from between the commas if none of them is blank, has blanks at its ends or has a
comma in it, and this is what well-formed settings ask of them.
-/

namespace MountOwnership

namespace Settings

open CommandLine (Setting)

variable {s : Settings}

/-- Settings that a controller can have. -/
structure WellFormed (s : Settings) : Prop where
  /-- The patterns are entries. -/
  patterns : ∀ p ∈ s.patterns, Text.IsEntry p
  /-- The namespace to watch has a name. -/
  watchNamespace : ∀ ns ∈ s.watchNamespace, ns ≠ ""
  /-- Whoever logs everything logs details. -/
  debug : s.trace = true → s.debug = true
  /-- Some ReplicaSet can be worked on. -/
  concurrency_pos : 1 ≤ s.concurrency
  /-- The concurrency is a count of 64 bits. -/
  concurrency_le : s.concurrency ≤ Text.wordBound

/-- What sets every option to the settings. -/
def arguments (s : Settings) : CommandLine.Arguments where
  namespaceRegex := some (Text.joined s.patterns)
  dryRun := some s.dryRun
  debug := some s.debug
  trace := some s.trace
  watchNamespace := s.watchNamespace
  concurrency := some s.concurrency

/-- The arguments that give the settings. -/
def commandLine (s : Settings) : List String :=
  [Setting.namespaceRegex.attached (Text.joined s.patterns),
    Setting.dryRun.attached (toString s.dryRun),
    Setting.debug.attached (toString s.debug),
    Setting.trace.attached (toString s.trace)] ++
  (s.watchNamespace.map Setting.watchNamespace.attached).toList ++
  [Setting.concurrency.attached (toString s.concurrency)]

/-- Settings are written as the arguments that they are the values of. -/
lemma written_arguments (s : Settings) : s.arguments.written = s.commandLine := by
  unfold commandLine CommandLine.Arguments.written CommandLine.Arguments.values
  cases hw : s.watchNamespace with
  | none => simp [Setting.all, CommandLine.Arguments.value?, arguments, hw]
  | some ns => simp [Setting.all, CommandLine.Arguments.value?, arguments, hw]

/-- The concurrency of well-formed settings is resolved from their arguments. -/
lemma resolveConcurrency_arguments (hs : s.WellFormed) :
    resolveConcurrency s.arguments Environment.empty = .ok s.concurrency := by
  unfold resolveConcurrency
  simp only [Environment.nonEmpty, Environment.empty, Option.filter_none, arguments,
    Option.getD_some]
  split
  · next hzero => exact absurd hs.concurrency_pos (by omega)
  · rfl

/-- What sets every option to the settings resolves to them. -/
lemma resolve_arguments (hs : s.WellFormed) :
    resolve s.arguments Environment.empty = .ok s := by
  have hpatterns : Text.entries (patternSource s.arguments .empty) = s.patterns :=
    Text.entries_joined hs.patterns
  have hflag (b : Bool) (v : Variable) : (b || Environment.empty.turnsOn v) = b := Bool.or_false b
  have hdebug : (s.debug || s.trace) = s.debug := by
    cases ht : s.trace with
    | false => exact Bool.or_false _
    | true => rw [hs.debug ht, Bool.or_true]
  have hwatch : (s.watchNamespace.filter fun ns => !ns.isEmpty) = s.watchNamespace := by
    cases hns : s.watchNamespace with
    | none => rfl
    | some ns => simp [hs.watchNamespace ns hns]
  rw [resolve, resolveConcurrency_arguments hs, Except.map, hpatterns]
  simp only [hflag, arguments, Option.getD_some, hdebug, hwatch]
  rfl

/-- **Settings from the command line.**  Settings are what their arguments resolve to, in whatever
order these come, as long as no variable of the environment is set. -/
theorem resolve_commandLine (hs : s.WellFormed) :
    ∀ args : List String, args.Perm s.commandLine →
      ∃ a, CommandLine.parse args = .ok a ∧ resolve a Environment.empty = .ok s := by
  intro args hargs
  have hword : ∀ n ∈ s.arguments.concurrency, n ≤ Text.wordBound := by
    intro n hn
    obtain rfl := Option.some.inj hn
    exact hs.concurrency_le
  exact ⟨s.arguments, CommandLine.parse_written hword (s.written_arguments ▸ hargs),
    resolve_arguments hs⟩

end Settings

/-- Settings with values that look like options, have an `=` or end in a blank. -/
def Sample.lookalikes : Settings where
  patterns := ["^kube-", "-h", "a = b", "--", "[[:^alpha:]é]"]
  debug := true
  trace := true
  watchNamespace := some "--debug=false "
  concurrency := 18446744073709551615

namespace Settings

/-- Values that look like options stay values, and the options come in another order. -/
theorem resolve_commandLine_lookalikes :
    ∃ a, CommandLine.parse
        ["--max-concurrent-reconciles=18446744073709551615", "--watch-namespace=--debug=false ",
          "--trace=true", "--namespace-regex=^kube-,-h,a = b,--,[[:^alpha:]é]", "--dry-run=false",
          "--debug=true"] = .ok a ∧
      resolve a Environment.empty = .ok Sample.lookalikes := by
  have hpatterns : ∀ p ∈ Sample.lookalikes.patterns,
      p ≠ "" ∧ Text.trim p = p ∧ ',' ∉ p.toList := by decide
  have hs : Sample.lookalikes.WellFormed :=
    { patterns := fun p hp =>
        ⟨(hpatterns p hp).1, (hpatterns p hp).2.1, (hpatterns p hp).2.2⟩
      watchNamespace := by decide
      debug := fun _ => rfl
      concurrency_pos := by decide
      concurrency_le := by decide }
  exact resolve_commandLine hs _ (by decide)

end Settings

end MountOwnership
