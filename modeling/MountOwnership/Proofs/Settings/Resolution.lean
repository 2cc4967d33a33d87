import MountOwnership.Program
import MountOwnership.Proofs.Settings
import MountOwnership.Proofs.Text.Splitting

/-!
# Settings that are resolved

Whether arguments and an environment resolve to settings is decided by the concurrency alone: they
do exactly if it is asked for in decimal, at least one, and of 64 bits
(`resolveConcurrency_eq_ok_iff`).  Each other field is given by one option and one variable
(`ResolvedFrom`).  So a variable can change no field but its own, or the two that show whether
everything is logged.
-/

namespace MountOwnership

namespace Environment

variable {env env' : Environment} {v : Variable} {value : String}

/-- Environments in which all variables but one are the same. -/
def AgreesExcept (v : Variable) (env env' : Environment) : Prop := ∀ w, w ≠ v → env w = env' w

/-- An environment whose variables are all in another one, with the same values. -/
def IsPartOf (env env' : Environment) : Prop := ∀ v, env v = none ∨ env v = env' v

/-- A variable has a value that counts if it is set, and not to the empty text. -/
lemma nonEmpty_eq_some_iff : env.nonEmpty v = some value ↔ env v = some value ∧ value ≠ "" := by
  simp [nonEmpty, Option.filter_eq_some_iff]

/-- A variable has no value that counts if it is unset or set to the empty text. -/
lemma nonEmpty_eq_none_iff : env.nonEmpty v = none ↔ ∀ value, env v = some value → value = "" := by
  simp [nonEmpty, Option.filter_eq_none_iff]

/-- What counts of a variable depends on that variable alone. -/
lemma nonEmpty_congr (h : env v = env' v) : env.nonEmpty v = env'.nonEmpty v := by
  rw [nonEmpty, nonEmpty, h]

/-- Whether a variable turns a flag on depends on that variable alone. -/
lemma turnsOn_congr (h : env v = env' v) : env.turnsOn v = env'.turnsOn v := by
  rw [turnsOn, turnsOn, h]

/-- What a variable turns on stays on when others are set. -/
lemma IsPartOf.turnsOn (h : env.IsPartOf env') (hv : env.turnsOn v = true) :
    env'.turnsOn v = true := by
  rcases h v with hnone | hsame
  · rw [Environment.turnsOn, hnone] at hv
    cases hv
  · rw [← turnsOn_congr hsame]
    exact hv

end Environment

namespace Settings

open CommandLine (Arguments)

variable {args : Arguments} {env env' : Environment} {s t : Settings} {n : ℕ}
  {fault : SettingsFault}

/-! ### The concurrency -/

/-- The concurrency that is asked for: the decimal number that the variable holds between blanks, if
the variable is not empty, and otherwise what the option is set to. -/
def AsksFor (args : Arguments) (env : Environment) (n : ℕ) : Prop :=
  match env.nonEmpty .concurrency with
  | some raw => Text.IsDecimal (Text.trim raw).toList n
  | none => n = args.concurrency.getD 3

/-- The concurrency of arguments is a word, also where it is left out. -/
lemma concurrency_getD_le (hargs : args.HasWord) : args.concurrency.getD 3 ≤ Text.wordBound := by
  cases hset : args.concurrency with
  | none => decide
  | some n => exact hargs n hset

/-- The concurrency is settled exactly if it is asked for and is a count of 64 bits, zero
excepted. -/
lemma resolveConcurrency_eq_ok_iff (hargs : args.HasWord) :
    resolveConcurrency args env = .ok n ↔ AsksFor args env n ∧ 1 ≤ n ∧ n ≤ Text.wordBound := by
  unfold resolveConcurrency AsksFor
  cases env.nonEmpty .concurrency with
  | some raw =>
    have hread : Text.readWord (Text.trim raw) = .ok n ↔
        Text.IsDecimal (Text.trim raw).toList n ∧ n ≤ Text.wordBound := Text.readCount_eq_ok_iff
    dsimp only
    rw [and_left_comm, ← hread]
    rcases Text.readWord (Text.trim raw) with reason | _ | m
    · exact ⟨fun h => (by cases h), fun ⟨_, h⟩ => (by cases h)⟩
    · refine ⟨fun h => (by cases h), fun ⟨hpos, h⟩ => ?_⟩
      obtain rfl := Except.ok.inj h
      omega
    · constructor
      · intro h
        obtain rfl := Except.ok.inj h
        exact ⟨Nat.succ_pos m, rfl⟩
      · rintro ⟨-, h⟩
        obtain rfl := Except.ok.inj h
        rfl
  | none =>
    have hword := concurrency_getD_le hargs
    dsimp only
    generalize args.concurrency.getD 3 = asked at hword ⊢
    cases asked with
    | zero => exact ⟨fun h => (by cases h), fun ⟨_, hpos, _⟩ => (by omega)⟩
    | succ m =>
      constructor
      · intro h
        obtain rfl := Except.ok.inj h
        exact ⟨rfl, Nat.succ_pos m, hword⟩
      · rintro ⟨rfl, -, -⟩
        rfl

/-- Where the concurrency is not settled, the fault says why. -/
lemma resolveConcurrency_eq_error (h : resolveConcurrency args env = .error fault) :
    (AsksFor args env 0 ∧ fault = .concurrencyZero) ∨
      ∃ raw, env .concurrency = some raw ∧ (∀ n, AsksFor args env n → Text.wordBound < n) ∧
        fault = .concurrencyNoCount raw := by
  unfold resolveConcurrency at h
  unfold AsksFor
  cases hraw : env.nonEmpty .concurrency with
  | some raw =>
    rw [hraw] at h
    dsimp only at h ⊢
    cases hread : Text.readWord (Text.trim raw) with
    | error reason =>
      rw [hread] at h
      obtain rfl := Except.error.inj h
      refine Or.inr ⟨raw, (Environment.nonEmpty_eq_some_iff.mp hraw).1, fun n hn => ?_, rfl⟩
      by_contra hle
      have hok := Text.readCount_eq_ok_iff.mpr ⟨hn, Nat.le_of_not_lt hle⟩
      rw [← Text.readWord, hread] at hok
      cases hok
    | ok n =>
      rw [hread] at h
      cases n with
      | zero =>
        obtain rfl := Except.error.inj h
        exact Or.inl ⟨(Text.readCount_eq_ok_iff.mp hread).1, rfl⟩
      | succ n => cases h
  | none =>
    rw [hraw] at h
    dsimp only at h ⊢
    cases hn : args.concurrency.getD 3 with
    | zero =>
      rw [hn] at h
      obtain rfl := Except.error.inj h
      exact Or.inl ⟨rfl, rfl⟩
    | succ n =>
      rw [hn] at h
      cases h

/-! ### The other fields -/

/-- Where the fields of resolved settings come from. -/
structure ResolvedFrom (args : Arguments) (env : Environment) (s : Settings) : Prop where
  /-- The patterns are the entries of the list that applies. -/
  patterns : s.patterns = Text.entries (patternSource args env)
  /-- Nothing is written if the option or the variable says so. -/
  dryRun : s.dryRun = (args.dryRun.getD false || env.turnsOn .dryRun)
  /-- Details are logged if the option or the variable says so, or everything is logged. -/
  debug : s.debug = (args.debug.getD false || env.turnsOn .debug || s.trace)
  /-- Everything is logged if the option or the variable says so. -/
  trace : s.trace = (args.trace.getD false || env.turnsOn .trace)
  /-- The namespace to watch is that of the variable, else of the option, unless it is empty. -/
  watchNamespace : s.watchNamespace =
    (env.nonEmpty .watchNamespace).or (args.watchNamespace.filter fun ns => !ns.isEmpty)
  /-- The concurrency is settled. -/
  concurrency : resolveConcurrency args env = .ok s.concurrency

/-- Every setting that is resolved comes from the arguments or from its variable. -/
lemma resolvedFrom_of_resolve (h : resolve args env = .ok s) : ResolvedFrom args env s := by
  obtain ⟨n, hn, rfl⟩ := CommandLine.map_eq_ok_iff.mp h
  exact ⟨rfl, rfl, rfl, rfl, rfl, hn⟩

/-- A flag is on exactly if its option or its variable turns it on. -/
lemma flag_eq_true_iff {option : Option Bool} {v : Variable} :
    (option.getD false || env.turnsOn v) = true ↔ option = some true ∨ env v = some "true" := by
  rw [Bool.or_eq_true, Environment.turnsOn, beq_iff_eq]
  cases option <;> simp

/-- Nothing but the concurrency can be at fault. -/
lemma resolve_eq_error_iff :
    resolve args env = .error fault ↔ resolveConcurrency args env = .error fault := by
  unfold resolve
  cases resolveConcurrency args env with
  | error e => simp [Except.map]
  | ok n => simp [Except.map]

/-- Settings are resolved exactly if the concurrency asked for is a count of 64 bits, zero
excepted. -/
lemma exists_resolve_eq_error_iff (hargs : args.HasWord) :
    (∃ fault, resolve args env = .error fault) ↔
      ¬ ∃ n, AsksFor args env n ∧ 1 ≤ n ∧ n ≤ Text.wordBound := by
  simp only [resolve_eq_error_iff, ← resolveConcurrency_eq_ok_iff hargs]
  cases resolveConcurrency args env with
  | error e => simp
  | ok n => simp

/-- Resolved settings are such that a controller can have them. -/
lemma wellFormed_of_resolve (hargs : args.HasWord) (h : resolve args env = .ok s) :
    s.WellFormed := by
  have hfrom := resolvedFrom_of_resolve h
  obtain ⟨-, hpos, hle⟩ := (resolveConcurrency_eq_ok_iff hargs).mp hfrom.concurrency
  refine
    { patterns := fun p hp => Text.isEntry_of_mem_entries (hfrom.patterns ▸ hp)
      watchNamespace := fun ns hns => ?_
      debug := fun htrace => ?_
      concurrency_pos := hpos
      concurrency_le := hle }
  · rw [hfrom.watchNamespace, Option.mem_def, Option.or_eq_some_iff] at hns
    rcases hns with hvariable | ⟨-, hoption⟩
    · exact (Environment.nonEmpty_eq_some_iff.mp hvariable).2
    · rintro rfl
      exact absurd (Option.filter_eq_some_iff.mp hoption).2 (by decide)
  · rw [hfrom.debug, htrace, Bool.or_true]

/-! ### Changing one variable -/

/-- Settings that are the same but for what one variable is about. -/
structure AgreesExcept (v : Variable) (s t : Settings) : Prop where
  /-- The patterns have a variable of their own. -/
  patterns : v ≠ .namespaceRegex → s.patterns = t.patterns
  /-- Whether nothing is written has a variable of its own. -/
  dryRun : v ≠ .dryRun → s.dryRun = t.dryRun
  /-- Two variables can show whether details are logged. -/
  debug : v ≠ .debug → v ≠ .trace → s.debug = t.debug
  /-- Whether everything is logged has a variable of its own. -/
  trace : v ≠ .trace → s.trace = t.trace
  /-- The namespace to watch has a variable of its own. -/
  watchNamespace : v ≠ .watchNamespace → s.watchNamespace = t.watchNamespace
  /-- The concurrency has a variable of its own. -/
  concurrency : v ≠ .concurrency → s.concurrency = t.concurrency

/-- A variable changes nothing but what it is about. -/
lemma agreesExcept_of_resolve {v : Variable} (henv : env.AgreesExcept v env')
    (hs : resolve args env = .ok s) (ht : resolve args env' = .ok t) : s.AgreesExcept v t := by
  have hs := resolvedFrom_of_resolve hs
  have ht := resolvedFrom_of_resolve ht
  have htrace (hv : v ≠ .trace) : s.trace = t.trace := by
    rw [hs.trace, ht.trace, Environment.turnsOn_congr (henv _ hv.symm)]
  constructor
  · intro hv
    rw [hs.patterns, ht.patterns, patternSource, patternSource,
      Environment.nonEmpty_congr (henv _ hv.symm)]
  · intro hv
    rw [hs.dryRun, ht.dryRun, Environment.turnsOn_congr (henv _ hv.symm)]
  · intro hv hv'
    rw [hs.debug, ht.debug, htrace hv', Environment.turnsOn_congr (henv _ hv.symm)]
  · exact htrace
  · intro hv
    rw [hs.watchNamespace, ht.watchNamespace, Environment.nonEmpty_congr (henv _ hv.symm)]
  · intro hv
    have hsame : resolveConcurrency args env = resolveConcurrency args env' := by
      rw [resolveConcurrency, resolveConcurrency, Environment.nonEmpty_congr (henv _ hv.symm)]
    exact Except.ok.inj (hs.concurrency.symm.trans (hsame.trans ht.concurrency))

/-- Settings whose flags are all on in other settings. -/
structure FlagsOnIn (s t : Settings) : Prop where
  /-- If nothing is written in the ones, nothing is in the others. -/
  dryRun : s.dryRun = true → t.dryRun = true
  /-- If details are logged in the ones, they are in the others. -/
  debug : s.debug = true → t.debug = true
  /-- If everything is logged in the ones, everything is in the others. -/
  trace : s.trace = true → t.trace = true

/-- Variables that are set in addition turn no flag off. -/
lemma flagsOnIn_of_resolve (henv : env.IsPartOf env') (hs : resolve args env = .ok s)
    (ht : resolve args env' = .ok t) : s.FlagsOnIn t := by
  have hs := resolvedFrom_of_resolve hs
  have ht := resolvedFrom_of_resolve ht
  have htrace : s.trace = true → t.trace = true := by
    rw [hs.trace, ht.trace, Bool.or_eq_true, Bool.or_eq_true]
    exact Or.imp_right henv.turnsOn
  refine ⟨?_, ?_, htrace⟩
  · rw [hs.dryRun, ht.dryRun, Bool.or_eq_true, Bool.or_eq_true]
    exact Or.imp_right henv.turnsOn
  · rw [hs.debug, ht.debug, Bool.or_eq_true, Bool.or_eq_true, Bool.or_eq_true, Bool.or_eq_true]
    exact Or.imp (Or.imp_right henv.turnsOn) htrace

/-- Settings that cannot be resolved end the program with the fault. -/
lemma launch_error? {arguments : List String} (hparse : CommandLine.parse arguments = .ok args)
    (h : resolve args env = .error fault) (access : Option Access) :
    (Program.launch arguments env access).error? = some (.invalidConfig fault) := by
  rw [Program.launch, hparse]
  dsimp only
  rw [h]
  rfl

/-- **Resolution.**  Take arguments as they are read, with a concurrency of 64 bits if they set one,
and any environment.  They fail to resolve exactly if no decimal number from 1 to the greatest one
of 64 bits is asked for as the concurrency.  The fault then is that zero is asked for, or it names
what the variable holds instead of a count of 64 bits, and a program with these arguments ends with
it as an invalid configuration.

What they do resolve to are settings that a controller can have, with the concurrency asked for.  A
flag is on exactly if its option or its variable turns it on, and that of details also if everything
is logged.  If all variables but one are the same in another environment, so is every field but that
of the variable, where to log everything is to log details.  Variables that are set in addition turn
no flag off. -/
theorem resolve_valid_and_independent (hargs : args.HasWord) (env : Environment) :
    ((∃ fault, resolve args env = .error fault) ↔
      ¬ ∃ n, AsksFor args env n ∧ 1 ≤ n ∧ n ≤ Text.wordBound) ∧
    (∀ fault, resolve args env = .error fault →
      ((AsksFor args env 0 ∧ fault = .concurrencyZero) ∨
        ∃ raw, env .concurrency = some raw ∧ (∀ n, AsksFor args env n → Text.wordBound < n) ∧
          fault = .concurrencyNoCount raw) ∧
      ∀ arguments access, CommandLine.parse arguments = .ok args →
        (Program.launch arguments env access).error? = some (.invalidConfig fault)) ∧
    (∀ s, resolve args env = .ok s → s.WellFormed ∧ AsksFor args env s.concurrency ∧
      (s.dryRun = true ↔ args.dryRun = some true ∨ env .dryRun = some "true") ∧
      (s.trace = true ↔ args.trace = some true ∨ env .trace = some "true") ∧
      (s.debug = true ↔ (args.debug = some true ∨ env .debug = some "true") ∨ s.trace = true)) ∧
    ∀ env' s t, resolve args env = .ok s → resolve args env' = .ok t →
      (∀ v, env.AgreesExcept v env' → s.AgreesExcept v t) ∧
      (env.IsPartOf env' → s.FlagsOnIn t) := by
  refine ⟨exists_resolve_eq_error_iff hargs, ?_, ?_, ?_⟩
  · intro fault h
    exact ⟨resolveConcurrency_eq_error (resolve_eq_error_iff.mp h),
      fun arguments access hparse => launch_error? hparse h access⟩
  · intro s h
    have hfrom := resolvedFrom_of_resolve h
    obtain ⟨hasked, -, -⟩ := (resolveConcurrency_eq_ok_iff hargs).mp hfrom.concurrency
    refine ⟨wellFormed_of_resolve hargs h, hasked, ?_, ?_, ?_⟩
    · rw [hfrom.dryRun, flag_eq_true_iff]
    · rw [hfrom.trace, flag_eq_true_iff]
    · rw [hfrom.debug, Bool.or_eq_true, flag_eq_true_iff]
  · intro env' s t hs ht
    exact ⟨fun v henv => agreesExcept_of_resolve henv hs ht,
      fun henv => flagsOnIn_of_resolve henv hs ht⟩

/-- With the greatest concurrency between blanks and behind a plus sign, and details asked for in
the wrong way, arguments resolve, and with everything logged as well nothing but that changes. -/
theorem resolve_valid_and_independent_trace :
    let args : Arguments := { trace := some false, concurrency := some 8 }
    let env : Environment := fun
      | .concurrency => some "\t+18446744073709551615 "
      | .debug => some "yes"
      | _ => none
    let env' : Environment := fun
      | .trace => some "true"
      | v => env v
    args.HasWord ∧ env.AgreesExcept .trace env' ∧ env.IsPartOf env' ∧
      ∃ s t, resolve args env = .ok s ∧ resolve args env' = .ok t ∧ s.WellFormed ∧
        s.concurrency = Text.wordBound ∧ s.AgreesExcept .trace t ∧ s.FlagsOnIn t := by
  intro args env env'
  have hargs : args.HasWord := by
    have hparse : CommandLine.parse ["--trace=false", "--max-concurrent-reconciles=8"] = .ok args :=
      rfl
    exact CommandLine.hasWord_of_parse hparse
  have hexcept : env.AgreesExcept .trace env' := by
    intro w hw
    cases w with
    | trace => exact absurd rfl hw
    | _ => rfl
  have hpart : env.IsPartOf env' := by
    intro v
    cases v with
    | trace => exact Or.inl rfl
    | _ => exact Or.inr rfl
  have hs : resolve args env = .ok { concurrency := Text.wordBound } := rfl
  have ht : resolve args env' =
      .ok { debug := true, trace := true, concurrency := Text.wordBound } := rfl
  obtain ⟨-, -, hvalid, hchange⟩ := resolve_valid_and_independent hargs env
  obtain ⟨hagree, hflags⟩ := hchange env' _ _ hs ht
  exact ⟨hargs, hexcept, hpart, _, _, hs, ht, (hvalid _ hs).1, rfl, hagree _ hexcept,
    hflags hpart⟩

end Settings

end MountOwnership
