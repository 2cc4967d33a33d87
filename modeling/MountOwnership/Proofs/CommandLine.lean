import Mathlib.Data.List.Nodup
import Mathlib.Data.List.Perm.Basic
import MountOwnership.CommandLine
import MountOwnership.Proofs.Text.Decimal

/-!
# Arguments that are written and read

The arguments that set options, each option with its value attached, are read as what they set, in
whatever order they come.

While they are read, the state is known from the options met so far alone: what they set is set and
nothing else, and no option waits for a value.  An argument takes this state to that of one more
option.

Whatever the arguments are, a concurrency that they set is a count of 64 bits, because each argument
that is read keeps it one (`Reading.hasWord_step`).
-/

namespace MountOwnership.CommandLine

/-! ### Results that are passed on -/

section Results

variable {ε α β : Type} {x : Except ε α} {y : β}

/-- Two steps succeed if the first does and the second does with its result. -/
lemma bind_eq_ok_iff {f : α → Except ε β} :
    (x >>= f) = .ok y ↔ ∃ z, x = .ok z ∧ f z = .ok y := by
  cases x <;> simp [bind, Except.bind]

/-- A step whose result is changed succeeds if the step does. -/
lemma map_eq_ok_iff {f : α → β} : x.map f = .ok y ↔ ∃ z, x = .ok z ∧ f z = y := by
  cases x <;> simp [Except.map]

end Results

/-! ### Writing -/

/-- An option with a value attached. -/
def Setting.attached (setting : Setting) (value : String) : String :=
  "--" ++ setting.name ++ "=" ++ value

/-- The value that stands for what an option is set to. -/
def Arguments.value? (a : Arguments) : Setting → Option String
  | .namespaceRegex => a.namespaceRegex
  | .dryRun => a.dryRun.map toString
  | .debug => a.debug.map toString
  | .trace => a.trace.map toString
  | .watchNamespace => a.watchNamespace
  | .concurrency => a.concurrency.map toString

/-- The options that are set, with the values they are set to. -/
def Arguments.values (a : Arguments) : List (Setting × String) :=
  Setting.all.filterMap fun setting => (a.value? setting).map fun value => (setting, value)

/-- The arguments that set the options. -/
def Arguments.written (a : Arguments) : List String :=
  a.values.map fun p => p.1.attached p.2

/-- The concurrency, if it is set, is a count of 64 bits. -/
def Arguments.HasWord (a : Arguments) : Prop := ∀ n ∈ a.concurrency, n ≤ Text.wordBound

/-! ### One argument -/

/-- No option has an `=` in its name. -/
lemma Setting.ne_of_mem_name (setting : Setting) :
    ∀ c ∈ setting.name.toList, decide (c ≠ '=') = true := by
  have hno : '=' ∉ setting.name.toList := by
    cases setting <;> decide
  intro c hc
  exact decide_eq_true fun h => hno (h ▸ hc)

/-- No setting is called as the option that asks for help. -/
lemma Setting.name_ne_help (setting : Setting) : setting.name ≠ "help" := by
  cases setting <;> decide

/-- Every setting is found by its name. -/
lemma Setting.ofName?_name (setting : Setting) : Setting.ofName? setting.name = some setting := by
  cases setting <;> rfl

/-- A setting with its value is two dashes, the name, an equals sign and the value. -/
lemma Setting.toList_attached (setting : Setting) (value : String) :
    (setting.attached value).toList =
      '-' :: '-' :: (setting.name.toList ++ '=' :: value.toList) := by
  simp [attached]

/-- The name of an option ends before the first `=`. -/
lemma Setting.takeWhile_name (setting : Setting) (rest : List Char) :
    (setting.name.toList ++ '=' :: rest).takeWhile (· ≠ '=') = setting.name.toList := by
  rw [List.takeWhile_append_of_pos setting.ne_of_mem_name,
    List.takeWhile_cons_of_neg (by decide), List.append_nil]

/-- The first equals sign comes right after the name of a setting. -/
lemma Setting.dropWhile_name (setting : Setting) (rest : List Char) :
    (setting.name.toList ++ '=' :: rest).dropWhile (· ≠ '=') = '=' :: rest := by
  rw [List.dropWhile_append_of_pos setting.ne_of_mem_name, List.dropWhile_cons_of_neg (by decide)]

/-- An option with a value attached sets it. -/
lemma Reading.step_attached {r : Reading} (hopen : r.open? = none) (htrailing : r.trailing = false)
    (setting : Setting) (value : String) :
    r.step (setting.attached value) = r.assign setting value := by
  have hsettle : r.settle = .ok r := by
    rw [settle, hopen]
  have hlong : r.long setting.name (some value) = r.assign setting value := by
    rw [long, if_neg setting.name_ne_help, setting.ofName?_name]
    simp only [hsettle]
    rfl
  have hname_cons : ∃ c cs, setting.name.toList ++ '=' :: value.toList = c :: cs :=
    List.exists_cons_of_ne_nil (by simp)
  obtain ⟨c, cs, hcons⟩ := hname_cons
  have hbefore := setting.takeWhile_name value.toList
  have hafter := setting.dropWhile_name value.toList
  rw [step, htrailing, setting.toList_attached, hcons]
  rw [hcons] at hbefore hafter
  simp only [hbefore, hafter]
  simpa using hlong

/-! ### Arguments in any order -/

variable {a : Arguments} {setting : Setting} {met : List Setting} {value : String}

/-- What some of the options are set to, and the others unset. -/
def Arguments.only (a : Arguments) (met : List Setting) : Arguments where
  namespaceRegex := if .namespaceRegex ∈ met then a.namespaceRegex else none
  dryRun := if .dryRun ∈ met then a.dryRun else none
  debug := if .debug ∈ met then a.debug else none
  trace := if .trace ∈ met then a.trace else none
  watchNamespace := if .watchNamespace ∈ met then a.watchNamespace else none
  concurrency := if .concurrency ∈ met then a.concurrency else none

/-- A setting that is not kept is not set. -/
lemma Arguments.isSet_only_of_notMem (h : setting ∉ met) : (a.only met).isSet setting = false := by
  cases setting <;> simp [isSet, only, h]

/-- Once every option that has a value is met, everything is set. -/
lemma Arguments.only_eq_self (h : ∀ setting, (a.value? setting).isSome → setting ∈ met) :
    a.only met = a := by
  have hkept {α : Type} (setting : Setting) (x : Option α)
      (hunset : a.value? setting = none → x = none) :
      (if setting ∈ met then x else none) = x := by
    by_cases hmet : setting ∈ met
    · exact if_pos hmet
    · have hvalue : a.value? setting = none := by
        rw [← Option.not_isSome_iff_eq_none]
        exact fun hset => hmet (h setting hset)
      rw [if_neg hmet, hunset hvalue]
  rw [only, hkept .namespaceRegex a.namespaceRegex id, hkept .dryRun _ Option.map_eq_none_iff.mp,
    hkept .debug _ Option.map_eq_none_iff.mp, hkept .trace _ Option.map_eq_none_iff.mp,
    hkept .watchNamespace a.watchNamespace id, hkept .concurrency _ Option.map_eq_none_iff.mp]

/-- The truth value that was written is read. -/
lemma readFlag?_toString (b : Bool) : readFlag? (toString b) = some b := by
  cases b <;> rfl

/-- The value of an option that was not met sets it as it was. -/
lemma Arguments.put_only (hword : a.HasWord) (h : a.value? setting = some value) :
    (a.only met).put setting value = .ok (a.only (met ++ [setting])) := by
  cases setting with
  | namespaceRegex =>
    simp only [value?] at h
    simp [put, only, h]
  | dryRun =>
    obtain ⟨b, hb, rfl⟩ := Option.map_eq_some_iff.mp h
    simp [put, only, hb, readFlag?_toString]
  | debug =>
    obtain ⟨b, hb, rfl⟩ := Option.map_eq_some_iff.mp h
    simp [put, only, hb, readFlag?_toString]
  | trace =>
    obtain ⟨b, hb, rfl⟩ := Option.map_eq_some_iff.mp h
    simp [put, only, hb, readFlag?_toString]
  | watchNamespace =>
    simp only [value?] at h
    simp [put, only, h]
  | concurrency =>
    obtain ⟨n, hn, rfl⟩ := Option.map_eq_some_iff.mp h
    simp only [put, Text.readWord_toString (hword n hn)]
    simp [only, hn]

/-- The state in which some options were met that set what is to be set. -/
def Reading.partway (a : Arguments) (met : List Setting) : Reading where
  arguments := a.only met
  met := met

/-- An argument takes the state to that of one more option. -/
lemma Reading.step_partway (hword : a.HasWord) (hmet : setting ∉ met)
    (h : a.value? setting = some value) :
    (partway a met).step (setting.attached value) = .ok (partway a (met ++ [setting])) := by
  have hset : (partway a met).arguments.isSet setting = false :=
    Arguments.isSet_only_of_notMem hmet
  have hput : (partway a met).arguments.put setting value =
      .ok (a.only (met ++ [setting])) := Arguments.put_only hword h
  rw [step_attached rfl rfl, assign, hset, hput]
  rfl

/-- Arguments for options that were not met yet take the state to that of all of them. -/
lemma Reading.foldlM_partway (hword : a.HasWord) {ps : List (Setting × String)}
    (hmet : (met ++ ps.map Prod.fst).Nodup) (hvalue : ∀ p ∈ ps, a.value? p.1 = some p.2) :
    (ps.map fun p => p.1.attached p.2).foldlM step (partway a met) =
      .ok (partway a (met ++ ps.map Prod.fst)) := by
  induction ps generalizing met with
  | nil =>
    simp only [List.map_nil, List.append_nil]
    rfl
  | cons p ps ih =>
    simp only [List.map_cons] at hmet ⊢
    rw [List.append_cons] at hmet ⊢
    have hp : p.1 ∉ met := by
      obtain ⟨hmet', _, _⟩ := List.nodup_append.mp hmet
      obtain ⟨_, _, hapart⟩ := List.nodup_append.mp hmet'
      exact fun hmem => hapart _ hmem _ (List.mem_singleton_self p.1) rfl
    rw [List.foldlM_cons, step_partway hword hp (hvalue p List.mem_cons_self)]
    exact ih hmet fun p' hp' => hvalue p' (List.mem_cons_of_mem p hp')

/-- The values of arguments are those of the settings that have one. -/
lemma Arguments.mem_values {p : Setting × String} :
    p ∈ a.values ↔ a.value? p.1 = some p.2 := by
  constructor
  · intro hp
    obtain ⟨setting, _, hsetting⟩ := List.mem_filterMap.mp hp
    obtain ⟨value, hvalue, rfl⟩ := Option.map_eq_some_iff.mp hsetting
    exact hvalue
  · intro hvalue
    have hall : p.1 ∈ Setting.all := by
      cases p.1 <;> decide
    exact List.mem_filterMap.mpr ⟨p.1, hall, Option.map_eq_some_iff.mpr ⟨p.2, hvalue, rfl⟩⟩

/-- No option is written twice. -/
lemma Arguments.nodup_values (a : Arguments) : (a.values.map Prod.fst).Nodup := by
  have hvalues : a.values.Nodup := by
    refine List.Nodup.filterMap (fun setting setting' p h h' => ?_) (by decide)
    obtain ⟨_, _, rfl⟩ := Option.map_eq_some_iff.mp h
    obtain ⟨_, _, heq⟩ := Option.map_eq_some_iff.mp h'
    exact (congrArg Prod.fst heq).symm
  refine List.Nodup.map_on (fun p hp q hq hkey => Prod.ext hkey ?_) hvalues
  have hp' := Arguments.mem_values.mp hp
  rw [hkey, Arguments.mem_values.mp hq] at hp'
  exact (Option.some.inj hp').symm

/-- **Arguments in any order.**  The arguments that set options are read as what they set, in
whatever order they come. -/
theorem parse_written (hword : a.HasWord) {arguments : List String}
    (h : arguments.Perm a.written) : parse arguments = .ok a := by
  obtain ⟨ps, rfl, hps⟩ : ∃ ps : List (Setting × String),
      arguments = (ps.map fun p => p.1.attached p.2) ∧ ps.Perm a.values :=
    (congrFun₂ (List.eq_map_comp_perm fun p : Setting × String => p.1.attached p.2) arguments
      a.values).mpr h
  have hmet : (ps.map Prod.fst).Nodup := (hps.map Prod.fst).nodup_iff.mpr a.nodup_values
  have hvalue : ∀ p ∈ ps, a.value? p.1 = some p.2 := fun p hp =>
    Arguments.mem_values.mp (hps.mem_iff.mp hp)
  have hread : (ps.map fun p => p.1.attached p.2).foldlM Reading.step (Reading.partway a []) =
      .ok (Reading.partway a ([] ++ ps.map Prod.fst)) :=
    Reading.foldlM_partway hword hmet hvalue
  have hall : a.only (ps.map Prod.fst) = a := by
    refine Arguments.only_eq_self fun setting hset => ?_
    obtain ⟨value, hvalue⟩ := Option.isSome_iff_exists.mp hset
    have hmem : (setting, value) ∈ ps := hps.mem_iff.mpr (Arguments.mem_values.mpr hvalue)
    exact List.mem_map_of_mem hmem
  have hstart : Reading.partway a [] = {} := rfl
  rw [parse, ← hstart, hread]
  exact congrArg Except.ok hall

/-! ### The concurrency that is read -/

/-- A value that is taken is a count of 64 bits where a count is asked for. -/
lemma Arguments.HasWord.put {b : Arguments} (ha : a.HasWord) (h : a.put setting value = .ok b) :
    b.HasWord := by
  cases setting with
  | namespaceRegex | watchNamespace =>
    obtain rfl := Except.ok.inj h
    exact ha
  | dryRun | debug | trace =>
    rw [Arguments.put] at h
    split at h
    · obtain rfl := Except.ok.inj h
      exact ha
    · cases h
  | concurrency =>
    rw [Arguments.put] at h
    split at h
    · next n hread =>
      obtain rfl := Except.ok.inj h
      rintro _ ⟨⟩
      exact (Text.readCount_eq_ok_iff.mp hread).2
    · cases h

namespace Reading

variable {r r' : Reading}

/-- To assign a value keeps the concurrency a word. -/
lemma hasWord_assign (hr : r.arguments.HasWord) (h : r.assign setting value = .ok r') :
    r'.arguments.HasWord := by
  unfold assign at h
  split at h
  · cases h
  · obtain ⟨b, hput, rfl⟩ := map_eq_ok_iff.mp h
    exact hr.put hput

/-- To settle an open option keeps the concurrency a word. -/
lemma hasWord_settle (hr : r.arguments.HasWord) (h : r.settle = .ok r') :
    r'.arguments.HasWord := by
  unfold settle at h
  split at h
  · obtain rfl := Except.ok.inj h
    exact hr
  · split at h
    · exact hasWord_assign (r := { r with open? := none }) hr h
    · cases h

/-- To read a long option keeps the concurrency a word. -/
lemma hasWord_long {name : String} {attached : Option String} (hr : r.arguments.HasWord)
    (h : r.long name attached = .ok r') : r'.arguments.HasWord := by
  unfold long at h
  split at h
  · split at h
    · cases h
    · obtain ⟨_, _, herror⟩ := bind_eq_ok_iff.mp h
      cases herror
  · split at h
    · cases h
    · obtain ⟨settled, hsettled, h⟩ := bind_eq_ok_iff.mp h
      have hsettled := hasWord_settle hr hsettled
      split at h
      · exact hasWord_assign hsettled h
      · obtain rfl := Except.ok.inj h
        exact hsettled

/-- After another argument, the concurrency still is a count of 64 bits. -/
lemma hasWord_step {argument : String} (hr : r.arguments.HasWord) (h : r.step argument = .ok r') :
    r'.arguments.HasWord := by
  unfold step at h
  split at h
  · cases h
  · split at h
    · obtain rfl := Except.ok.inj h
      exact hr
    · exact hasWord_long hr h
    · obtain ⟨_, _, herror⟩ := bind_eq_ok_iff.mp h
      cases herror
    · cases h
    · split at h
      · obtain rfl := Except.ok.inj h
        exact hr
      · cases h

/-- To read arguments in order keeps the concurrency a word. -/
lemma hasWord_foldlM {arguments : List String} (hr : r.arguments.HasWord)
    (h : arguments.foldlM step r = .ok r') : r'.arguments.HasWord := by
  induction arguments generalizing r with
  | nil =>
    obtain rfl := Except.ok.inj h
    exact hr
  | cons argument arguments ih =>
    rw [List.foldlM_cons] at h
    obtain ⟨next, hnext, h⟩ := bind_eq_ok_iff.mp h
    exact ih (hasWord_step hr hnext) h

end Reading

/-- The concurrency that arguments set is a count of 64 bits. -/
theorem hasWord_of_parse {arguments : List String} (h : parse arguments = .ok a) : a.HasWord := by
  have hstart : ({} : Reading).arguments.HasWord := by
    rintro _ ⟨⟩
  obtain ⟨r, hread, h⟩ := bind_eq_ok_iff.mp h
  obtain ⟨settled, hsettled, h⟩ := bind_eq_ok_iff.mp h
  obtain rfl := Except.ok.inj h
  exact Reading.hasWord_settle (Reading.hasWord_foldlM hstart hread) hsettled

end MountOwnership.CommandLine
