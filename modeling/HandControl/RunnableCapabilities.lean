import HandControl.CapabilityListing
import HandControl.ConfigValidation
import HandControl.DelimitedNames
import HandControl.ParameterSubstitution

/-!
# Validated capabilities that run

The validator looks for placeholders with `\w`, the substitution with `[a-zA-Z0-9_-]`. Defaults and
the session mode of a script are checked only when a session is opened. A validated script opens
with any suitable values if these differences do not matter to it.
-/

namespace HandControl.RunnableCapabilities

open CapabilityListing CapabilityParameters ConfigValidation DelimitedNames KeyedTable
open ParameterSubstitution ServerConfiguration

section

variable (regex : String → Option (String → Bool)) (escape : String → String)
  (debug : CapabilityDefinition → String)

/-- `open_session` up to the start of its tasks, with the command that they run. -/
def openSession (capability : Capability) (parameters : Table String String) :
    Except String String :=
  if capability.metadata.sessionMode ≠ .oneShot then
    .error
      s!"Capability '{capability.metadata.id}' misconfigured: shell script must be one-shot session"
  else
    match validateParameters regex capability.config.toCapabilityConfig parameters with
    | .error message => .error message
    | .ok validated =>
      substituteParameters escape debug capability.config.toCapabilityConfig validated

def registered (config : ListedCapability) : Capability := ⟨config, buildMetadata config⟩

/-- Values for declared parameters only: each has an accepted one, or none and a default. -/
structure Supplies (capability : CapabilityConfig) (provided : Table String String) : Prop where
  known : ∀ name ∈ provided, ∃ param ∈ capability.parameters, param.name = name
  accepted : ∀ param ∈ capability.parameters, ∀ value, provided.lookup param.name = some value →
      validateParameterValue regex capability param value = .ok ()
  complete : ∀ param ∈ capability.parameters, provided.lookup param.name = none →
    param.default.isSome = true

/-- The session opens. Every placeholder that the substitution knows is replaced by its escaped
value, one after the other, and these include those that the validator knows. Where no value spells
a later placeholder, the command is the template with all of them replaced at once. -/
def OpensReplaced (crate : RegexCrate) (config : ListedCapability)
    (script : ShellScriptDefinition) (provided : Table String String) : Prop :=
  ∃ command value, openSession regex escape debug (registered config) provided = .ok command ∧
    (∀ param ∈ config.parameters, chosenValue provided param = some (value param.name)) ∧
    command.toList = replaceEach (escapedValue escape value)
      (placeholderNames script.command.toList) script.command.toList ∧
    (∀ placeholder ∈ placeholdersFrom crate 0 script.command.toList,
      placeholder.toList ∈ placeholderNames script.command.toList) ∧
    (ValuesSpellNoPlaceholder escape value script.command →
      command = simultaneous escape value script.command)

end

theorem captureAt_eq_nameAt (text : List Char) :
    captureAt text = nameAt '{' '}' isNameChar text := by
  cases text with
  | nil => rfl
  | cons head =>
    by_cases opens : head = '{'
    · subst opens
      simp [captureAt, nameAt]
    · simp [captureAt, nameAt, opens]

theorem placeholderAt_eq_nameAt (crate : RegexCrate) (text : List Char) :
    placeholderAt crate text = nameAt '{' '}' crate.isWord text := by
  cases text with
  | nil => rfl
  | cons head =>
    by_cases opens : head = '{'
    · subst opens
      simp [placeholderAt, nameAt]
    · simp [placeholderAt, nameAt, opens]

theorem scanSkipping_names (skip : Nat) (text : List Char) :
    (scanSkipping skip text).filterMap Token.name? = namesFrom '{' '}' isNameChar skip text := by
  induction text generalizing skip with
  | nil => cases skip <;> rfl
  | cons head rest ih =>
    cases skip with
    | succ skip => exact ih skip
    | zero =>
      rw [scanSkipping, namesFrom, captureAt_eq_nameAt]
      cases nameAt '{' '}' isNameChar (head :: rest) with
      | none => exact ih 0
      | some name => exact congrArg (name :: ·) (ih (name.length + 1))

theorem placeholdersFrom_names (crate : RegexCrate) (skip : Nat) (text : List Char) :
    placeholdersFrom crate skip text =
      (namesFrom '{' '}' crate.isWord skip text).map String.ofList := by
  induction text generalizing skip with
  | nil => cases skip <;> rfl
  | cons head rest ih =>
    cases skip with
    | succ skip => exact ih skip
    | zero =>
      rw [placeholdersFrom, namesFrom, placeholderAt_eq_nameAt]
      cases nameAt '{' '}' crate.isWord (head :: rest) with
      | none => exact ih 0
      | some name => exact congrArg (String.ofList name :: ·) (ih (name.length + 1))

variable {text name : List Char} {regex : String → Option (String → Bool)}
variable {capability : CapabilityConfig} {script : ShellScriptDefinition} {command : String}
variable {parameters : Table String String}

theorem mem_placeholderNames_iff_inside :
    name ∈ placeholderNames text ↔
      name ≠ [] ∧ (∀ symbol ∈ name, isNameChar symbol = true) ∧
        placeholderText name <:+: text := by
  rw [placeholderNames, scanTemplate, scanSkipping_names]
  exact mem_namesFrom_iff (by decide) (by decide) (by decide)

/-- On ASCII, `\w` is a letter, a digit or the underscore. -/
def WordsOnAscii (crate : RegexCrate) : Prop :=
  ∀ symbol : Char, symbol.toNat < 128 →
    crate.isWord symbol = (symbol.isAlphanum || symbol == '_')

theorem toNat_lt_of_word {symbol : Char} (word : (symbol.isAlphanum || symbol == '_') = true) :
    symbol.toNat < 128 := by
  delta Char.isAlphanum Char.isAlpha Char.isUpper Char.isLower Char.isDigit at word
  simp only [Bool.or_eq_true, decide_eq_true_eq, Bool.and_eq_true, beq_iff_eq,
    UInt32.le_iff_toNat_le, ge_iff_le] at word
  rcases word with ((upper | lower) | digit) | rfl
  · exact upper.2.trans_lt (by decide)
  · exact lower.2.trans_lt (by decide)
  · exact digit.2.trans_lt (by decide)
  · decide

section

variable {crate : RegexCrate} (words : WordsOnAscii crate)

include words

theorem mem_placeholdersFrom_iff_inside :
    String.ofList name ∈ placeholdersFrom crate 0 text ↔
      name ≠ [] ∧ (∀ symbol ∈ name, crate.isWord symbol = true) ∧
        placeholderText name <:+: text := by
  have start : crate.isWord '{' = false := words '{' (by decide)
  rw [placeholdersFrom_names, List.mem_map_of_injective fun _ _ => String.ofList_injective]
  exact mem_namesFrom_iff start crate.brace_not_word (by decide)

theorem substituted_of_ascii (found : String.ofList name ∈ placeholdersFrom crate 0 text)
    (ascii : ∀ symbol ∈ name, symbol.toNat < 128) : name ∈ placeholderNames text := by
  obtain ⟨nonempty, isWord, inside⟩ := (mem_placeholdersFrom_iff_inside words).mp found
  refine mem_placeholderNames_iff_inside.mpr ⟨nonempty, ?_, inside⟩
  intro symbol member
  have word := isWord symbol member
  rw [words symbol (ascii symbol member)] at word
  simp [isNameChar, word]

theorem validated_of_hyphen_free (found : name ∈ placeholderNames text) (hyphen_free : '-' ∉ name) :
    String.ofList name ∈ placeholdersFrom crate 0 text := by
  obtain ⟨nonempty, nameChars, inside⟩ := mem_placeholderNames_iff_inside.mp found
  refine (mem_placeholdersFrom_iff_inside words).mpr ⟨nonempty, ?_, inside⟩
  intro symbol member
  have nameChar := nameChars symbol member
  have not_hyphen : symbol ≠ '-' := fun same => hyphen_free (same ▸ member)
  have word : (symbol.isAlphanum || symbol == '_') = true := by
    simpa [isNameChar, not_hyphen] using nameChar
  rw [words symbol (toNat_lt_of_word word), word]

end

section

variable {provided : Table String String}

theorem validateDeclared_of_chosen {params : List CapabilityParameterConfig}
    (chosen : ∀ param ∈ params, ∃ value, chosenValue provided param = some value ∧
      validateParameterValue regex capability param value = .ok ())
    (validated : Table String String) :
    ∃ result, validateDeclared regex capability provided params validated = .ok result := by
  induction params generalizing validated with
  | nil => exact ⟨validated, rfl⟩
  | cons param rest ih =>
    obtain ⟨value, value_eq, accepted⟩ := chosen param (by simp)
    obtain ⟨result, result_eq⟩ := ih (fun other member => chosen other (by simp [member]))
      (validated.insert param.name value)
    refine ⟨result, ?_⟩
    rw [validateDeclared, value_eq]
    simp only [accepted]
    exact result_eq

/-- The values are accepted when every parameter gets an accepted one, and every declared name
then has its value. -/
theorem validateParameters_of_chosen
    (known : ∀ name ∈ provided, ∃ param ∈ capability.parameters, param.name = name)
    (distinct : (capability.parameters.map CapabilityParameterConfig.name).Nodup)
    (chosen : ∀ param ∈ capability.parameters, ∃ value, chosenValue provided param = some value ∧
      validateParameterValue regex capability param value = .ok ()) :
    ∃ validated, validateParameters regex capability provided = .ok validated ∧
      ∀ param ∈ capability.parameters,
        validated.lookup param.name = chosenValue provided param := by
  obtain ⟨validated, declared⟩ := validateDeclared_of_chosen chosen ∅
  have none_unknown : (provided.keys.find? fun key =>
      !(capability.parameters.any fun param => param.name == key)) = none := by
    rw [List.find?_eq_none]
    intro key member
    obtain ⟨param, param_mem, named⟩ := known key (AList.mem_keys.mpr member)
    simp only [Bool.not_eq_true', Bool.not_eq_false]
    exact List.any_eq_true.mpr ⟨param, param_mem, beq_iff_eq.mpr named⟩
  refine ⟨validated, ?_, ?_⟩
  · simp only [validateParameters, declared, none_unknown]
  · intro param member
    rcases validateDeclared_ok regex declared param.name with found | ⟨absent, _⟩
    · obtain ⟨_, other_mem, same_name, _, chosen_eq, stored, _⟩ := found
      have same := List.inj_on_of_nodup_map distinct other_mem member same_name
      rw [stored, ← chosen_eq, same]
    · exact absurd rfl (absent param member)

end

/-- The checks of the validator and of the opening agree for this script and these values: it is
one-shot, the defaults in use are accepted, placeholders with a hyphen are declared, and the
validator's placeholders are ASCII. -/
structure ChecksAgree (crate : RegexCrate) (regex : String → Option (String → Bool))
    (capability : CapabilityConfig) (script : ShellScriptDefinition)
    (provided : Table String String) : Prop where
  oneShot : script.sessionMode = .oneShot
  defaults : ∀ param ∈ capability.parameters, provided.lookup param.name = none →
    ∀ default, param.default = some default →
      validateParameterValue regex capability param default = .ok ()
  hyphens : ∀ name ∈ placeholderNames script.command.toList, '-' ∈ name →
    ∃ param ∈ capability.parameters, param.name = String.ofList name
  ascii : ∀ placeholder ∈ placeholdersFrom crate 0 script.command.toList,
    ∀ symbol ∈ placeholder.toList, symbol.toNat < 128

theorem chosen_of_supplies {crate : RegexCrate} {provided : Table String String}
    (supplies : Supplies regex capability provided)
    (agree : ChecksAgree crate regex capability script provided) :
    ∀ param ∈ capability.parameters, ∃ value, chosenValue provided param = some value ∧
      validateParameterValue regex capability param value = .ok () := by
  intro param member
  cases given : provided.lookup param.name with
  | some value =>
    exact ⟨value, by simp [chosenValue, given], supplies.accepted param member value given⟩
  | none =>
    obtain ⟨default, default_eq⟩ :=
      Option.isSome_iff_exists.mp (supplies.complete param member given)
    exact ⟨default, by simp [chosenValue, given, default_eq],
      agree.defaults param member given default default_eq⟩

section

variable {crate : RegexCrate} {escape : String → String} {debug : CapabilityDefinition → String}
  {capability : ListedCapability} {provided : Table String String}

theorem openSession_ok
    (opened : openSession regex escape debug (registered capability) provided = .ok command) :
    (registered capability).metadata.sessionMode = .oneShot ∧
      ∃ validated,
        validateParameters regex capability.toCapabilityConfig provided = .ok validated ∧
        substituteParameters escape debug capability.toCapabilityConfig validated =
          .ok command := by
  unfold openSession at opened
  split at opened
  · cases opened
  · rename_i oneShot
    split at opened
    · cases opened
    · rename_i validated accepted
      exact ⟨not_not.mp oneShot, validated, accepted, opened⟩

theorem registered_sessionMode (defined : capability.definition = .shellScript script) :
    (registered capability).metadata.sessionMode = script.sessionMode := by
  simp only [registered, buildMetadata, defined, definitionSessionMode]

theorem provided_of_substituteLoop {names : List (List Char)} {result : List Char}
    (substituted : substituteLoop escape parameters names text = .ok result) :
    ∀ name ∈ names, (parameters.lookup (String.ofList name)).isSome = true := by
  induction names generalizing text with
  | nil => simp
  | cons first rest ih =>
    rw [substituteLoop] at substituted
    split at substituted
    · cases substituted
    · rename_i found
      refine List.forall_mem_cons.mpr ⟨?_, ih substituted⟩
      rw [found]
      rfl

theorem provided_of_substituteParameters (defined : capability.definition = .shellScript script)
    (substituted : substituteParameters escape debug capability.toCapabilityConfig parameters =
      .ok command) :
    ∀ name ∈ placeholderNames script.command.toList,
      (parameters.lookup (String.ofList name)).isSome = true := by
  simp only [substituteParameters, defined] at substituted
  cases loop : substituteLoop escape parameters (placeholderNames script.command.toList)
      script.command.toList with
  | error =>
    rw [loop] at substituted
    cases substituted
  | ok => exact provided_of_substituteLoop loop

theorem checksAgree_of_opens (defined : capability.definition = .shellScript script)
    (distinct : (capability.parameters.map CapabilityParameterConfig.name).Nodup)
    (opens : OpensReplaced regex escape debug crate capability script provided) :
    ChecksAgree crate regex capability.toCapabilityConfig script provided := by
  obtain ⟨command, value, opened, _, _, known, _⟩ := opens
  obtain ⟨mode, _, accepted, substituted⟩ := openSession_ok opened
  constructor
  · exact (registered_sessionMode defined).symm.trans mode
  · intro param member given default default_eq
    have declared := validateParameters_declared regex accepted
    rcases validateDeclared_ok regex declared param.name with found | ⟨absent, _⟩
    · obtain ⟨_, other_mem, same_name, chosen, chosen_eq, _, checked⟩ := found
      have same := List.inj_on_of_nodup_map distinct other_mem member same_name
      subst same
      have chosen_default : chosen = default := by
        simpa [chosenValue, given, default_eq] using chosen_eq.symm
      exact chosen_default ▸ checked
    · exact absurd rfl (absent param member)
  · intro name member _
    have supplied := provided_of_substituteParameters defined substituted name member
    exact (validateParameters_ok regex accepted _).mp supplied
  · intro placeholder member symbol symbol_in
    have nameChars := (mem_placeholderNames_iff_inside.mp (known placeholder member)).2.1
    have nameChar := nameChars symbol symbol_in
    by_cases hyphen : symbol = '-'
    · rw [hyphen]
      decide
    · apply toNat_lt_of_word
      simpa [isNameChar, hyphen] using nameChar

theorem capabilityValid_of_listed {config : ListedConfig} {capability : ListedCapability}
    (valid : validateConfig crate config.toConfig = .ok ()) (listed : capability ∈ config.listed) :
    CapabilityValid crate capability.toNamedCapability := by
  apply ((validateConfig_eq_ok_iff crate _).mp valid).capabilities
  rw [config.capabilities_eq]
  exact List.mem_map_of_mem listed

variable (crate debug) in
/-- A script of a validated configuration opens with suitable values for which the checks
agree, and every placeholder is replaced. -/
theorem opens_of_checksAgree (words : WordsOnAscii crate)
    (quoted : ∀ text, '{' ∈ (escape text).toList → '\'' ∈ (escape text).toList)
    (capability_valid : CapabilityValid crate capability.toNamedCapability)
    (defined : capability.definition = .shellScript script)
    (supplies : Supplies regex capability.toCapabilityConfig provided)
    (agree : ChecksAgree crate regex capability.toCapabilityConfig script provided) :
    OpensReplaced regex escape debug crate capability script provided := by
  obtain ⟨validated, accepted, lookup_eq⟩ := validateParameters_of_chosen supplies.known
    capability_valid.distinct (chosen_of_supplies supplies agree)
  let value (name : String) : String := (validated.lookup name).getD ""
  have value_eq : ∀ param ∈ capability.parameters,
      validated.lookup param.name = some (value param.name) := by
    intro param member
    obtain ⟨_, chosen_eq, _⟩ := chosen_of_supplies supplies agree param member
    have stored := (lookup_eq param member).trans chosen_eq
    simp [value, stored]
  have declared : ∀ name ∈ placeholderNames script.command.toList,
      ∃ param ∈ capability.parameters, param.name = String.ofList name := by
    intro name member
    by_cases hyphen : '-' ∈ name
    · exact agree.hyphens name member hyphen
    · have runnable := capability_valid.runnable
      rw [DefinitionRunnable, defined] at runnable
      exact runnable.2.2 _ (validated_of_hyphen_free words member hyphen)
  have supplied : ∀ name ∈ placeholderNames script.command.toList,
      validated.lookup (String.ofList name) = some (value (String.ofList name)) := by
    intro name member
    obtain ⟨param, param_mem, name_eq⟩ := declared name member
    rw [← name_eq]
    exact value_eq param param_mem
  have one_shot := (registered_sessionMode defined).trans agree.oneShot
  have opened : openSession regex escape debug (registered capability) provided =
      substituteParameters escape debug capability.toCapabilityConfig validated := by
    rw [openSession, if_neg (not_not.mpr one_shot)]
    simp only [registered, accepted]
  have substituted := substituteParameters_eq_replaceEach escape debug defined supplied
  refine ⟨_, value, opened.trans substituted, ?_, String.toList_ofList, ?_, ?_⟩
  · intro param member
    rw [← lookup_eq param member]
    exact value_eq param member
  · intro placeholder member
    rw [← String.ofList_toList (s := placeholder)] at member
    exact substituted_of_ascii words member (agree.ascii placeholder (by simpa using member))
  · exact (replaceEach_eq_simultaneous_iff escape quoted value script.command).mpr

end

/-- A script of a validated configuration opens with suitable values, with every placeholder
replaced, exactly if the checks agree. -/
theorem validated_script_opens_iff (crate : RegexCrate) (words : WordsOnAscii crate)
    (regex : String → Option (String → Bool)) (escape : String → String)
    (quoted : ∀ text, '{' ∈ (escape text).toList → '\'' ∈ (escape text).toList)
    (debug : CapabilityDefinition → String) (config : ListedConfig)
    (valid : validateConfig crate config.toConfig = .ok ())
    (capability : ListedCapability) (listed : capability ∈ config.listed)
    (script : ShellScriptDefinition) (defined : capability.definition = .shellScript script)
    (provided : Table String String)
    (supplies : Supplies regex capability.toCapabilityConfig provided) :
    OpensReplaced regex escape debug crate capability script provided ↔
      ChecksAgree crate regex capability.toCapabilityConfig script provided := by
  have capability_valid := capabilityValid_of_listed valid listed
  constructor
  · exact checksAgree_of_opens defined capability_valid.distinct
  · exact opens_of_checksAgree crate debug words quoted capability_valid defined supplies

/-- `\w` as it is on ASCII, and for one letter beyond it. -/
def wordCrate : RegexCrate where
  compileError _ := none
  isWord symbol := symbol.isAlphanum || symbol == '_' || symbol == 'é'
  brace_not_word := by decide

theorem wordCrate_words : WordsOnAscii wordCrate := by
  intro symbol ascii
  have other : symbol ≠ 'é' := by
    rintro rfl
    exact absurd ascii (by decide)
  simp [wordCrate, other]

def plainParameter (name paramType : String) (default : Option String) : ListedParameter where
  name := name
  paramType := paramType
  min := some 0
  max := some 10
  default := default
  options := []
  validation := none
  description := none
  labelOn := none
  labelOff := none
  step := none
  defaultValueCommand := none
  defaultValuePattern := none

def sampleScript (command : String) (mode : CapabilitySessionMode) : ShellScriptDefinition where
  command := command
  timeoutSeconds := 30
  env := ∅
  showOutput := true
  sessionMode := mode

def sampleCapability (script : ShellScriptDefinition) (parameters : List ListedParameter) :
    ListedCapability where
  id := "sample"
  name := "Sample"
  parameters := parameters.map fun listed => listed.toCapabilityParameterConfig
  definition := .shellScript script
  description := none
  tags := []
  requiresConfirmation := false
  privileged := false
  listedParameters := parameters
  parameters_eq := rfl

def sampleConfig (listed : List ListedCapability) : ListedConfig :=
  { Document.empty.withDefaults false with
    capabilities := listed.map fun capability => capability.toNamedCapability
    listed := listed
    capabilities_eq := rfl }

def levelScript : ShellScriptDefinition := sampleScript "volume {level}" .oneShot

def levelCapability (default : String) : ListedCapability :=
  sampleCapability levelScript [plainParameter "level" "slider" (some default)]

theorem supplies_nothing
    (defaulted : ∀ param ∈ capability.parameters, param.default.isSome = true) :
    Supplies regex capability ∅ where
  known name member := by simp at member
  accepted param _ value found := by simp at found
  complete param member _ := defaulted param member

theorem volume_script_opens :
    validateConfig wordCrate (sampleConfig [levelCapability "5"]).toConfig = .ok () ∧
      OpensReplaced (fun _ => none) unixEscape (fun _ => "") wordCrate (levelCapability "5")
        levelScript ∅ := by
  have valid : validateConfig wordCrate (sampleConfig [levelCapability "5"]).toConfig =
      .ok () := by decide +kernel
  refine ⟨valid, (validated_script_opens_iff wordCrate wordCrate_words (fun _ => none) unixEscape
    unixEscape_quotes_braces (fun _ => "") (sampleConfig [levelCapability "5"]) valid
    (levelCapability "5") (by simp [sampleConfig]) levelScript rfl ∅ ?_).mpr ?_⟩
  · apply supplies_nothing
    decide +kernel
  · constructor
    · rfl
    · intro param member _ default default_eq
      have only :
          param = (plainParameter "level" "slider" (some "5")).toCapabilityParameterConfig :=
        List.mem_singleton.mp member
      subst only
      cases default_eq
      decide +kernel
    · decide +kernel
    · decide +kernel

def RunsWhenSupplied (capability : ListedCapability) (script : ShellScriptDefinition) : Prop :=
  ∀ provided, Supplies (fun _ => none) capability.toCapabilityConfig provided →
    OpensReplaced (fun _ => none) unixEscape (fun _ => "") wordCrate capability script provided

theorem not_runs_of_error {capability : ListedCapability} (message : String)
    (defaulted : ∀ param ∈ capability.parameters, param.default.isSome = true)
    (failed : openSession (fun _ => none) unixEscape (fun _ => "") (registered capability) ∅ =
      .error message) : ¬ RunsWhenSupplied capability script := by
  intro runs
  obtain ⟨_, _, opened, _⟩ := runs ∅ (supplies_nothing defaulted)
  rw [failed] at opened
  cases opened

def hyphenCapability : ListedCapability :=
  sampleCapability (sampleScript "sync {dry-run}" .oneShot) []

def realtimeCapability : ListedCapability :=
  sampleCapability (sampleScript "top" .realtime) []

def accentScript : ShellScriptDefinition := sampleScript "echo {é}" .oneShot

def accentCapability : ListedCapability :=
  sampleCapability accentScript [plainParameter "é" "text" (some "x")]

/-- Validated scripts that do not run: a default out of its range, an undeclared placeholder that
only the substitution knows, a session mode that is not one-shot, and a placeholder that only the
validator knows. -/
theorem validated_scripts_fail :
    (validateConfig wordCrate (sampleConfig [levelCapability "99"]).toConfig = .ok () ∧
      ¬ RunsWhenSupplied (levelCapability "99") levelScript) ∧
    (validateConfig wordCrate (sampleConfig [hyphenCapability]).toConfig = .ok () ∧
      ¬ RunsWhenSupplied hyphenCapability (sampleScript "sync {dry-run}" .oneShot)) ∧
    (validateConfig wordCrate (sampleConfig [realtimeCapability]).toConfig = .ok () ∧
      ¬ RunsWhenSupplied realtimeCapability (sampleScript "top" .realtime)) ∧
    (validateConfig wordCrate (sampleConfig [accentCapability]).toConfig = .ok () ∧
      ¬ RunsWhenSupplied accentCapability accentScript) := by
  refine ⟨⟨by decide +kernel, ?_⟩, ⟨by decide +kernel, ?_⟩, ⟨by decide +kernel, ?_⟩,
    ⟨by decide +kernel, ?_⟩⟩
  · apply not_runs_of_error
      "Value 99 for parameter 'level' is above maximum 10 on capability 'sample'"
    · decide +kernel
    · decide +kernel
  · apply not_runs_of_error "Parameter 'dry-run' not provided"
    · decide +kernel
    · decide +kernel
  · apply not_runs_of_error
      "Capability 'sample' misconfigured: shell script must be one-shot session"
    · decide +kernel
    · decide +kernel
  · intro runs
    have defaulted : ∀ param ∈ accentCapability.parameters, param.default.isSome = true := by
      decide +kernel
    obtain ⟨_, _, _, _, _, replaced, _⟩ := runs ∅ (supplies_nothing defaulted)
    have found : "é" ∈ placeholdersFrom wordCrate 0 accentScript.command.toList := by
      decide +kernel
    have missed : "é".toList ∉ placeholderNames accentScript.command.toList := by
      decide +kernel
    exact missed (replaced "é" found)

theorem registerAll_lookup {configs : List ListedCapability} {registry : CapabilityRegistry}
    (distinct : (configs.map (·.id)).Nodup)
    (absent : ∀ config ∈ configs, registry.lookup config.id = none) :
    ∃ final, registerAll registry configs = .ok final ∧ ∀ id, final.lookup id =
      ((configs.find? (·.id = id)).map registered).or (registry.lookup id) := by
  induction configs generalizing registry with
  | nil => exact ⟨registry, rfl, by simp⟩
  | cons config rest ih =>
    obtain ⟨_, distinct⟩ := List.nodup_cons.mp distinct
    have inserted := register_ok_iff.mpr ⟨absent config List.mem_cons_self, rfl⟩
    obtain ⟨final, built, found⟩ := @ih (registry.insert config.id (registered config)) distinct
      (by grind [Table.lookup_insert_eq])
    refine ⟨final, by rw [registerAll, inserted]; exact built, fun id => ?_⟩
    rw [found, Table.lookup_insert_eq, List.find?_cons]
    grind

/-- Every validated configuration gives a registry, and `get` finds each capability in it. -/
theorem validated_config_is_registered (crate : RegexCrate) (config : ListedConfig)
    (valid : validateConfig crate config.toConfig = .ok ()) :
    ∃ registry, fromConfig config = .ok registry ∧
      ∀ id, registry.lookup id = (config.listed.find? (·.id = id)).map registered := by
  have distinct := ((validateConfig_eq_ok_iff crate config.toConfig).mp valid).distinct
  rw [config.capabilities_eq, List.map_map] at distinct
  obtain ⟨registry, built, found⟩ := @registerAll_lookup _ ∅ distinct (by simp)
  exact ⟨registry, built, by simpa using found⟩

def muteCapability : ListedCapability := { levelCapability "0" with id := "mute" }

theorem volume_script_is_registered :
    ∃ registry, fromConfig (sampleConfig [levelCapability "5", muteCapability]) = .ok registry ∧
      registry.lookup "sample" = some (registered (levelCapability "5")) ∧
      registry.lookup "mute" = some (registered muteCapability) ∧
      registry.lookup "other" = none := by
  obtain ⟨registry, built, found⟩ := validated_config_is_registered wordCrate
    (sampleConfig [levelCapability "5", muteCapability]) (by decide +kernel)
  exact ⟨registry, built, found "sample", found "mute", found "other"⟩

end HandControl.RunnableCapabilities
