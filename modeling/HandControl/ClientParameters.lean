import HandControl.RunnableCapabilities

/-!
# Parameter values in the client library

The client library checks the values against the published metadata and sends a normalised form.
The server checks what it gets again.
-/

namespace HandControl.ClientParameters

open CapabilityListing CapabilityParameters ConfigValidation KeyedTable RunnableCapabilities
open ParameterSubstitution StandardText

inductive CommandParameterType where
  | slider
  | text
  | toggle
  | dropdown
  deriving DecidableEq, Inhabited

def CommandParameterType.fromProto : CapabilityParameterType → Except String CommandParameterType
  | .slider => .ok .slider
  | .text => .ok .text
  | .toggle => .ok .toggle
  | .dropdown => .ok .dropdown
  | .unspecified => .error "Encountered parameter with unspecified type"

structure CommandParameter where
  name : String
  paramType : CommandParameterType
  min : Option Int
  max : Option Int
  defaultValue : Option String
  validation : Option String
  options : List String
  deriving DecidableEq, Inhabited

def nonEmpty (text : Option String) : Option String := text.filter fun value => value != ""

/-- Empty texts of the message count as missing. -/
def CommandParameter.fromProto (proto : ProtoParameter) : Except String CommandParameter :=
  (CommandParameterType.fromProto proto.type).map fun paramType =>
    { name := proto.name
      paramType := paramType
      min := proto.min
      max := proto.max
      defaultValue := nonEmpty proto.defaultValue
      validation := nonEmpty proto.validation
      options := proto.options }

def commandParameters (capability : ListedCapability) : Except String (List CommandParameter) :=
  (protoFromMetadata (buildMetadata capability)).parameters.mapM CommandParameter.fromProto

def asciiLowercase (text : String) : String := String.ofList (text.toList.map Char.toLower)

def parseBool (value : String) : Option Bool :=
  if asciiLowercase value ∈ ["true", "1", "yes", "on"] then some true
  else if asciiLowercase value ∈ ["false", "0", "no", "off"] then some false
  else none

def normalizeSlider (param : CommandParameter) (value : String) : Except String String :=
  match parseI32 value with
  | none => .error s!"Parameter '{param.name}' must be an integer"
  | some parsed =>
    match param.min.filter fun min => parsed < min, param.max.filter fun max => parsed > max with
    | some min, _ => .error s!"Parameter '{param.name}' must be >= {min} (got {parsed})"
    | none, some max => .error s!"Parameter '{param.name}' must be <= {max} (got {parsed})"
    | none, none => .ok (toString parsed)

def normalizeDropdown (param : CommandParameter) (value : String) : Except String String :=
  if param.options = [] then
    .error s!"Dropdown parameter '{param.name}' has no configured options"
  else
    match param.options.find? fun option => eqIgnoreAsciiCase option value with
    | none =>
      .error (s!"Parameter '{param.name}' must be one of: " ++ ", ".intercalate param.options)
    | some option => .ok option

section

variable (regex : String → Option (String → Bool))

def normalizeText (param : CommandParameter) (value : String) : Except String String :=
  match param.validation with
  | none => .ok value
  | some pattern =>
    match regex pattern with
    | none => .error s!"Invalid regex for parameter '{param.name}': {pattern}"
    | some isMatch =>
      if isMatch value then .ok value
      else .error s!"Parameter '{param.name}' does not match required pattern '{pattern}'"

def normalize (param : CommandParameter) (raw : String) : Except String String :=
  let value := trim raw
  match param.paramType with
  | .slider => normalizeSlider param value
  | .toggle =>
    match parseBool value with
    | some true => .ok "true"
    | some false => .ok "false"
    | none => .error
        s!"Parameter '{param.name}' must be true/false, yes/no, on/off, or 1/0 (got '{value}')"
  | .dropdown => normalizeDropdown param value
  | .text => normalizeText regex param value

def sanitize (provided : Table String String) :
    List CommandParameter → Table String String → Except String (Table String String)
  | [], sanitized => .ok sanitized
  | param :: rest, sanitized =>
    match provided.lookup param.name with
    | some raw =>
      match normalize regex param raw with
      | .error message => .error message
      | .ok value => sanitize provided rest (sanitized.insert param.name value)
    | none =>
      if param.defaultValue = none then
        .error s!"Missing required parameter '{param.name}'"
      else sanitize provided rest sanitized

def validateParameters (parameters : List CommandParameter) (provided : Table String String) :
    Except String (Table String String) :=
  match provided.keys.find? fun key => !(parameters.any fun param => param.name == key) with
  | some key => .error s!"Unknown parameter '{key}'"
  | none => sanitize regex provided parameters ∅

end

theorem parseDigits_toDigits (number : Nat) :
    parseDigits (Nat.toDigits 10 number) = some number := by
  have digits : (Nat.toDigits 10 number).all Char.isDigit = true :=
    List.all_eq_true.mpr fun _ member => Nat.isDigit_of_mem_toDigits (by decide) (by decide) member
  rw [parseDigits, if_pos ⟨Nat.toDigits_ne_nil, digits⟩]
  exact congrArg some (Nat.ofDigitChars_toDigits (by decide) (by decide))

variable {number : Int} {value : String} {parameters : List CommandParameter}
variable {result : Table String String} {capability : ListedCapability}

theorem parseI32_toString (fits : -(2 : Int) ^ 31 ≤ number ∧ number < (2 : Int) ^ 31) :
    parseI32 (toString number) = some number := by
  rw [Int.toString_eq_repr]
  unfold parseI32
  cases number with
  | ofNat magnitude =>
    have text : (Int.repr (Int.ofNat magnitude)).toList = Nat.toDigits 10 magnitude :=
      Nat.toList_repr
    rw [text]
    -- No digit is read as a sign.
    have unsigned : ∀ sign rest, Nat.toDigits 10 magnitude = sign :: rest →
        sign.isDigit = true := by
      intro sign rest split
      apply @Nat.isDigit_of_mem_toDigits 10 magnitude sign (by decide) (by decide)
      rw [split]
      exact List.mem_cons_self
    split
    · rename_i rest split
      exact absurd (unsigned _ rest split) (by decide)
    · rename_i rest split
      exact absurd (unsigned _ rest split) (by decide)
    · rw [parseDigits_toDigits]
      exact Option.filter_eq_some_iff.mpr ⟨rfl, decide_eq_true fits⟩
  | negSucc magnitude =>
    have text : (Int.repr (Int.negSucc magnitude)).toList =
        '-' :: Nat.toDigits 10 (magnitude + 1) := by
      rw [← Nat.toList_repr]
      exact String.toList_append
    rw [text]
    simp only [parseDigits_toDigits]
    exact Option.filter_eq_some_iff.mpr ⟨rfl, decide_eq_true fits⟩

theorem parseI32_fits {text : String} (parsed : parseI32 text = some number) :
    -(2 : Int) ^ 31 ≤ number ∧ number < (2 : Int) ^ 31 :=
  of_decide_eq_true (Option.filter_eq_some_iff.mp parsed).2

def Canonical (param : CapabilityParameterConfig) (raw value : String) : Prop :=
  match param.paramType with
  | "slider" => ∃ number, parseI32 (trim raw) = some number ∧ value = toString number
  | "toggle" => ∃ choice, parseBool (trim raw) = some choice ∧ value = toString choice
  | "dropdown" => value ∈ param.options ∧ eqIgnoreAsciiCase value (trim raw) = true
  | _ => value = trim raw

def published (listed : ListedParameter) : Except String CommandParameter :=
  CommandParameter.fromProto (protoFromParameter (.ofConfig listed))

section

variable {regex : String → Option (String → Bool)} {listed : ListedParameter}
  {param : CommandParameter}

theorem published_usable {crate : RegexCrate}
    (usable : ParameterUsable crate listed.toCapabilityParameterConfig) :
    ∃ param, published listed = .ok param := by
  unfold published CommandParameter.fromProto
  cases usable with
  | slider _ _ type | text type | toggle type | dropdown type =>
    simp only [protoFromParameter, CapabilityParameter.ofConfig, type,
      CapabilityParameterType.ofName, CommandParameterType.fromProto]
    exact ⟨_, rfl⟩

theorem published_fields (read : published listed = .ok param) :
    param.name = listed.name ∧ param.defaultValue = nonEmpty listed.default := by
  unfold published CommandParameter.fromProto at read
  cases type : CommandParameterType.fromProto (protoFromParameter (.ofConfig listed)).type with
  | error => simp [type, Except.map] at read
  | ok =>
    rw [type] at read
    cases read
    exact ⟨rfl, rfl⟩

theorem validateSlider_within (capability : CapabilityConfig) {config : CapabilityParameterConfig}
    (above : ∀ min, config.min = some min → ¬ number < min)
    (below : ∀ max, config.max = some max → ¬ number > max) :
    validateSlider capability config number = .ok () := by
  unfold validateSlider
  cases lower : config.min with
  | none =>
    cases upper : config.max with
    | none => rfl
    | some max => simp only [if_neg (below max upper)]; rfl
  | some min =>
    cases upper : config.max with
    | none => simp only [if_neg (above min lower)]; rfl
    | some max => simp only [if_neg (above min lower), if_neg (below max upper)]; rfl

theorem normalizeSlider_ok {value normal : String} (capability : CapabilityConfig)
    {config : CapabilityParameterConfig} (min : param.min = config.min)
    (max : param.max = config.max) (normalized : normalizeSlider param value = .ok normal) :
    ∃ number, parseI32 value = some number ∧ normal = toString number ∧
      validateSlider capability config number = .ok () := by
  unfold normalizeSlider at normalized
  split at normalized
  · cases normalized
  · rename_i number parsed
    split at normalized
    · cases normalized
    · cases normalized
    · rename_i above below
      cases normalized
      rw [Option.filter_eq_none_iff, min] at above
      rw [Option.filter_eq_none_iff, max] at below
      refine ⟨number, parsed, rfl, validateSlider_within capability ?_ ?_⟩
      · intro bound lower
        simpa using above bound lower
      · intro bound upper
        simpa using below bound upper

theorem normalizeDropdown_ok {normal : String}
    (normalized : normalizeDropdown param value = .ok normal) :
    normal ∈ param.options ∧ eqIgnoreAsciiCase normal value = true := by
  unfold normalizeDropdown at normalized
  split_ifs at normalized
  split at normalized
  · cases normalized
  · rename_i found
    cases normalized
    have same := List.find?_some found
    exact ⟨List.mem_of_find?_eq_some found, same⟩

/-- An empty pattern, which the client leaves out, matches everything. -/
theorem normalizeText_ok {value normal : String} {validation : Option String}
    (empty : ∃ isMatch, regex "" = some isMatch ∧ ∀ value, isMatch value = true)
    (given : param.validation = nonEmpty validation)
    (normalized : normalizeText regex param value = .ok normal) :
    normal = value ∧ ∀ pattern, validation = some pattern →
      ∃ isMatch, regex pattern = some isMatch ∧ isMatch normal = true := by
  unfold normalizeText at normalized
  split at normalized
  · rename_i missing
    cases normalized
    refine ⟨rfl, ?_⟩
    rintro pattern rfl
    obtain ⟨isMatch, compiled, matches_all⟩ := empty
    have blank : pattern = "" := by
      rw [missing] at given
      simpa using Option.filter_eq_none_iff.mp given.symm pattern rfl
    exact ⟨isMatch, blank ▸ compiled, matches_all value⟩
  · rename_i pattern kept
    split at normalized
    · cases normalized
    · rename_i isMatch compiled
      split_ifs at normalized with matched
      cases normalized
      refine ⟨rfl, ?_⟩
      rintro other rfl
      have same : pattern = other := by
        rw [kept] at given
        exact (Option.filter_eq_some_iff.mp given.symm).1 |> Option.some.inj |> Eq.symm
      exact ⟨isMatch, same ▸ compiled, matched⟩

theorem validateParameterValue_of_normalize (capability : CapabilityConfig)
    (empty : ∃ isMatch, regex "" = some isMatch ∧ ∀ value, isMatch value = true)
    (read : published listed = .ok param) {raw : String}
    (normalized : normalize regex param raw = .ok value) :
    validateParameterValue regex capability listed.toCapabilityParameterConfig value = .ok () ∧
      Canonical listed.toCapabilityParameterConfig raw value := by
  unfold published CommandParameter.fromProto at read
  simp only [protoFromParameter, CapabilityParameter.ofConfig] at read
  unfold CapabilityParameterType.ofName at read
  unfold validateParameterValue Canonical
  split at read
  · rename_i type
    cases read
    obtain ⟨number, parsed, rfl, within⟩ := @normalizeSlider_ok _ _ _ capability
      listed.toCapabilityParameterConfig rfl rfl normalized
    rw [type]
    simp only [parseI32_toString (parseI32_fits parsed)]
    exact ⟨within, number, parsed, rfl⟩
  · rename_i type
    cases read
    rw [type]
    obtain ⟨rfl, matched⟩ := @normalizeText_ok _ _ _ _ listed.validation empty rfl normalized
    refine ⟨?_, rfl⟩
    cases given : listed.validation with
    | none => rfl
    | some pattern =>
      obtain ⟨_, compiled, accepted⟩ := matched pattern given
      simp only [compiled, accepted, if_true]
  · rename_i type
    cases read
    rw [type]
    unfold normalize at normalized
    dsimp only at normalized
    split at normalized
    · rename_i parsed
      cases normalized
      exact ⟨rfl, true, parsed, rfl⟩
    · rename_i parsed
      cases normalized
      exact ⟨rfl, false, parsed, rfl⟩
    · cases normalized
  · rename_i type
    cases read
    obtain ⟨member, same⟩ := normalizeDropdown_ok normalized
    rw [type]
    exact ⟨if_pos member, member, same⟩
  · cases read

end

section

variable {regex : String → Option (String → Bool)} {provided : Table String String}

/-- Every parameter has its normalised value, or none and a default. Nothing else is sent. -/
theorem sanitize_ok {sanitized : Table String String}
    (distinct : (parameters.map CommandParameter.name).Nodup)
    (accepted : sanitize regex provided parameters sanitized = .ok result) :
    (∀ param ∈ parameters,
      (∃ raw value, provided.lookup param.name = some raw ∧ normalize regex param raw = .ok value ∧
        result.lookup param.name = some value) ∨
      (provided.lookup param.name = none ∧ param.defaultValue ≠ none ∧
        result.lookup param.name = sanitized.lookup param.name)) ∧
    ∀ name, (∀ param ∈ parameters, param.name ≠ name) →
      result.lookup name = sanitized.lookup name := by
  induction parameters generalizing sanitized with
  | nil =>
    cases accepted
    simp
  | cons first rest induction =>
    obtain ⟨fresh, distinct⟩ := List.nodup_cons.mp distinct
    have later : ∀ param ∈ rest, param.name ≠ first.name := fun param member same =>
      fresh (same ▸ List.mem_map_of_mem member)
    unfold sanitize at accepted
    split at accepted
    · rename_i raw given
      split at accepted
      · cases accepted
      · rename_i value normalized
        obtain ⟨declared, undeclared⟩ := induction distinct accepted
        refine ⟨?_, ?_⟩
        · intro param member
          rcases List.mem_cons.mp member with rfl | member
          · exact Or.inl ⟨raw, value, given, normalized,
              (undeclared _ later).trans (AList.lookup_insert _)⟩
          · have unchanged := @AList.lookup_insert_ne _ _ _ _ _ value sanitized (later param member)
            rw [← unchanged]
            exact declared param member
        · intro name absent
          have other : name ≠ first.name := fun same => absent first List.mem_cons_self same.symm
          rw [undeclared name fun param member => absent param (List.mem_cons_of_mem _ member)]
          exact AList.lookup_insert_ne other
    · rename_i missing
      split_ifs at accepted with required
      obtain ⟨declared, undeclared⟩ := induction distinct accepted
      refine ⟨?_, fun name absent => undeclared name fun param member =>
        absent param (List.mem_cons_of_mem _ member)⟩
      intro param member
      rcases List.mem_cons.mp member with rfl | member
      · exact Or.inr ⟨missing, required, undeclared _ later⟩
      · exact declared param member

theorem validateParameters_sanitizes
    (accepted : validateParameters regex parameters provided = .ok result) :
    sanitize regex provided parameters ∅ = .ok result := by
  unfold validateParameters at accepted
  split at accepted
  · cases accepted
  · exact accepted

end

theorem mem_listed {param : CapabilityParameterConfig} (member : param ∈ capability.parameters) :
    ∃ listed ∈ capability.listedParameters, listed.toCapabilityParameterConfig = param := by
  rw [capability.parameters_eq] at member
  exact List.mem_map.mp member

theorem commandParameters_eq_map {read : ListedParameter → CommandParameter}
    (read_eq : ∀ listed ∈ capability.listedParameters, published listed = .ok (read listed)) :
    commandParameters capability = .ok (capability.listedParameters.map read) := by
  simp only [commandParameters, protoFromMetadata, buildMetadata]
  generalize capability.listedParameters = parameters at read_eq
  induction parameters with
  | nil => rfl
  | cons first rest induction =>
    have head : CommandParameter.fromProto (protoFromParameter (.ofConfig first)) =
        .ok (read first) := read_eq first List.mem_cons_self
    simp only [List.map_cons, List.mapM_cons, head]
    rw [induction fun listed member => read_eq listed (List.mem_cons_of_mem _ member)]
    rfl

theorem parameters_read {crate : RegexCrate}
    (valid : CapabilityValid crate capability.toNamedCapability) :
    ∃ read : ListedParameter → CommandParameter,
      (∀ listed ∈ capability.listedParameters, published listed = .ok (read listed)) ∧
      commandParameters capability = .ok (capability.listedParameters.map read) ∧
      (capability.listedParameters.map read).map CommandParameter.name =
        capability.parameters.map CapabilityParameterConfig.name := by
  have usable : ∀ listed ∈ capability.listedParameters, ∃ param, published listed = .ok param := by
    intro listed member
    apply published_usable (valid.parameters _ _).2
    rw [capability.parameters_eq]
    exact List.mem_map_of_mem member
  choose! read read_eq using usable
  refine ⟨read, read_eq, commandParameters_eq_map read_eq, ?_⟩
  rw [capability.parameters_eq, List.map_map, List.map_map]
  exact List.map_congr_left fun listed member => (published_fields (read_eq listed member)).1

def valueIn (validated : Table String String) (name : String) : String :=
  (validated.lookup name).getD ""

section

variable (capability : ListedCapability) (script : ShellScriptDefinition)
  (validated : Table String String)

/-- The command is the script with every placeholder of a parameter replaced at once by its escaped
value. -/
def ReachesCommand (debug : CapabilityDefinition → String) : Prop :=
  substituteParameters unixEscape debug capability.toCapabilityConfig validated =
      .ok (simultaneous unixEscape (valueIn validated) script.command) ∧
    ∀ param ∈ capability.parameters, placeholderText param.name.toList <:+: script.command.toList →
      param.name.toList ∈ placeholderNames script.command.toList

structure Unmistakable : Prop where
  declared : ∀ name ∈ placeholderNames script.command.toList,
    ∃ param ∈ capability.parameters, param.name = String.ofList name
  named : ∀ param ∈ capability.parameters,
    placeholderText param.name.toList <:+: script.command.toList →
      param.name ≠ "" ∧ ∀ symbol ∈ param.name.toList, isNameChar symbol = true
  unspelled : ValuesSpellNoPlaceholder unixEscape (valueIn validated) script.command

end

theorem reachesCommand_iff {script : ShellScriptDefinition}
    (defined : capability.definition = .shellScript script)
    {sent validated : Table String String} (accepted : CapabilityParameters.validateParameters regex
      capability.toCapabilityConfig sent = .ok validated)
    (debug : CapabilityDefinition → String) :
    ReachesCommand capability script validated debug ↔
      Unmistakable capability script validated := by
  have named_iff : ∀ param : CapabilityParameterConfig,
      placeholderText param.name.toList <:+: script.command.toList →
        (param.name.toList ∈ placeholderNames script.command.toList ↔
          param.name ≠ "" ∧ ∀ symbol ∈ param.name.toList, isNameChar symbol = true) := by
    intro param inside
    simp [mem_placeholderNames_iff_inside, inside]
  have substituted (declared : ∀ name ∈ placeholderNames script.command.toList,
      (validated.lookup (String.ofList name)).isSome = true) :
      substituteParameters unixEscape debug capability.toCapabilityConfig validated =
          .ok (simultaneous unixEscape (valueIn validated) script.command) ↔
        ValuesSpellNoPlaceholder unixEscape (valueIn validated) script.command := by
    rw [substituteParameters_eq_replaceEach unixEscape debug defined, Except.ok.injEq]
    · exact replaceEach_eq_simultaneous_iff unixEscape unixEscape_quotes_braces _ _
    · intro name member
      obtain ⟨_, value_eq⟩ := Option.isSome_iff_exists.mp (declared name member)
      simp [valueIn, value_eq]
  constructor
  · rintro ⟨reaches, known⟩
    have provided := provided_of_substituteParameters defined reaches
    refine ⟨fun name member => ?_, fun param member inside => ?_, (substituted provided).mp reaches⟩
    · exact (validateParameters_ok regex accepted _).mp (provided name member)
    · exact (named_iff param inside).mp (known param member inside)
  · rintro ⟨declared, named, unspelled⟩
    refine ⟨(substituted fun name member => ?_).mpr unspelled, fun param member inside => ?_⟩
    · exact (validateParameters_ok regex accepted _).mpr (declared name member)
    · exact (named_iff param inside).mpr (named param member inside)

section

variable (crate : RegexCrate) (regex : String → Option (String → Bool))
  (empty : ∃ isMatch, regex "" = some isMatch ∧ ∀ value, isMatch value = true)
  (config : ListedConfig) (valid : validateConfig crate config.toConfig = .ok ())
  (capability : ListedCapability) (listed : capability ∈ config.listed)
  (defaults : ∀ param ∈ capability.parameters, ∀ default, param.default = some default →
    validateParameterValue regex capability.toCapabilityConfig param default = .ok ())

include empty valid listed defaults

/-- What the client accepts, the server accepts, with the values that the user gave in their
canonical form. -/
theorem sent_values_accepted :
    ∃ parameters, commandParameters capability = .ok parameters ∧
      ∀ provided sent, validateParameters regex parameters provided = .ok sent →
        ∃ validated, CapabilityParameters.validateParameters regex capability.toCapabilityConfig
            sent = .ok validated ∧
          ∀ param ∈ capability.parameters, ∀ raw, provided.lookup param.name = some raw →
            ∃ value, validated.lookup param.name = some value ∧ Canonical param raw value := by
  have capability_valid := capabilityValid_of_listed valid listed
  obtain ⟨read, read_eq, commands_eq, names⟩ := parameters_read capability_valid
  refine ⟨_, commands_eq, ?_⟩
  intro provided sent accepted
  obtain ⟨declared, undeclared⟩ := sanitize_ok (names ▸ capability_valid.distinct)
    (validateParameters_sanitizes accepted)
  -- Every parameter has a value that the server accepts: the normalised one, or its default.
  have sent_value : ∀ param ∈ capability.parameters, ∃ value, chosenValue sent param = some value ∧
        validateParameterValue regex capability.toCapabilityConfig param value = .ok () ∧
        ∀ raw, provided.lookup param.name = some raw → Canonical param raw value := by
    intro param member
    obtain ⟨listed, listed_mem, rfl⟩ := mem_listed member
    obtain ⟨name, default⟩ := published_fields (read_eq listed listed_mem)
    have outcome := declared (read listed) (List.mem_map_of_mem listed_mem)
    rw [name, default] at outcome
    rcases outcome with ⟨raw, value, given, normalized, stored⟩ | ⟨missing, required, stored⟩
    · obtain ⟨passes, canonical⟩ := validateParameterValue_of_normalize
        capability.toCapabilityConfig empty (read_eq listed listed_mem) normalized
      refine ⟨value, by simp [chosenValue, stored], passes, ?_⟩
      intro other other_eq
      cases given.symm.trans other_eq
      exact canonical
    · obtain ⟨value, kept⟩ := Option.ne_none_iff_exists'.mp required
      have default_eq := (Option.filter_eq_some_iff.mp kept).1
      refine ⟨value, ?_, defaults _ member value default_eq, ?_⟩
      · simp [chosenValue, stored, default_eq]
      · intro raw given
        rw [missing] at given
        cases given
  have known : ∀ name ∈ sent, ∃ param ∈ capability.parameters, param.name = name := by
    intro name member
    by_contra absent
    have unsent : sent.lookup name = none := by
      apply undeclared name
      intro param param_mem same
      have declares : name ∈ capability.parameters.map CapabilityParameterConfig.name := by
        rw [← names, ← same]
        exact List.mem_map_of_mem param_mem
      exact absent (List.mem_map.mp declares)
    exact AList.lookup_eq_none.mp unsent member
  obtain ⟨validated, validated_eq, lookup_eq⟩ := validateParameters_of_chosen known
    capability_valid.distinct fun param member =>
      (sent_value param member).imp fun _ passes => ⟨passes.1, passes.2.1⟩
  refine ⟨validated, validated_eq, ?_⟩
  intro param member raw given
  obtain ⟨value, chosen, _, canonical⟩ := sent_value param member
  exact ⟨value, (lookup_eq param member).trans chosen, canonical raw given⟩

end

/-- The option of the first parameter spells the placeholder of the second, whose value ends up in
its place. -/
def choiceCapability : ListedCapability :=
  sampleCapability (sampleScript "echo {choice} {level}" .oneShot)
    [{ plainParameter "choice" "dropdown" none with options := ["{level}"] },
      plainParameter "level" "slider" none]

def chosen : Table String String := AList.insert "choice" "{level}" (AList.insert "level" "7" ∅)

end HandControl.ClientParameters
