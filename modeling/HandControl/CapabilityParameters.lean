import HandControl.KeyedTable

/-!
# Capability parameters

The configured parameters of a capability, and the check of the values a client sends. The regular
expression engine is a parameter: the match test of a pattern, or nothing when it does not compile.
-/

namespace HandControl.CapabilityParameters

open KeyedTable

structure CapabilityParameterConfig where
  name : String
  paramType : String
  min : Option Int
  max : Option Int
  default : Option String
  options : List String
  validation : Option String
  deriving DecidableEq

inductive CapabilitySessionMode
  | oneShot
  | realtime
  | upload
  | download
  deriving DecidableEq

structure ShellScriptDefinition where
  command : String
  timeoutSeconds : Nat
  env : Table String String
  showOutput : Bool
  sessionMode : CapabilitySessionMode

structure ShellInteractiveDefinition where
  path : String
  argv : List String
  workingDirectory : Option String
  env : Table String String
  idleTimeoutSeconds : Option Nat
  maxDurationSeconds : Option Nat
  sessionMode : Option CapabilitySessionMode

inductive CapabilityDefinition
  | shellScript (definition : ShellScriptDefinition)
  | shellInteractive (definition : ShellInteractiveDefinition)

structure CapabilityConfig where
  id : String
  parameters : List CapabilityParameterConfig
  definition : CapabilityDefinition

def digitsValue (digits : List Char) : Nat :=
  digits.foldl (fun value digit => 10 * value + (digit.toNat - '0'.toNat)) 0

def parseDigits (digits : List Char) : Option Nat :=
  if digits ≠ [] ∧ digits.all Char.isDigit then some (digitsValue digits) else none

/-- An optional sign and at least one ASCII digit, within 32 bits. -/
def parseI32 (text : String) : Option Int :=
  let magnitude : Option Int :=
    match text.toList with
    | '-' :: digits => (parseDigits digits).map fun value => -(value : Int)
    | '+' :: digits => (parseDigits digits).map fun value => (value : Int)
    | digits => (parseDigits digits).map fun value => (value : Int)
  magnitude.filter fun value => decide (-(2 : Int) ^ 31 ≤ value ∧ value < (2 : Int) ^ 31)

variable {capability : CapabilityConfig} {provided result : Table String String}

variable (regex : String → Option (String → Bool))

def validateSlider (capability : CapabilityConfig) (param : CapabilityParameterConfig)
    (num : Int) : Except String Unit := do
  if let some min := param.min then
    if num < min then
      throw s!"Value {num} for parameter '{param.name}' is below minimum {min} on capability '{capability.id}'"
  if let some max := param.max then
    if num > max then
      throw s!"Value {num} for parameter '{param.name}' is above maximum {max} on capability '{capability.id}'"

def validateParameterValue (capability : CapabilityConfig)
    (param : CapabilityParameterConfig) (value : String) : Except String Unit :=
  match param.paramType with
  | "slider" =>
    match parseI32 value with
    | none => .error "Slider value must be a valid integer"
    | some num => validateSlider capability param num
  | "toggle" =>
    if value ∈ ["true", "false", "1", "0"] then .ok ()
    else .error
      s!"Toggle parameter '{param.name}' on capability '{capability.id}' must be one of true/false/1/0"
  | "dropdown" =>
    if value ∈ param.options then .ok ()
    else .error
      s!"Parameter '{param.name}' on capability '{capability.id}' received invalid option '{value}'"
  | "text" =>
    match param.validation with
    | none => .ok ()
    | some pattern =>
      match regex pattern with
      | none => .error "Invalid regex defined for parameter validation"
      | some isMatch =>
        if isMatch value then .ok ()
        else .error
          s!"Parameter '{param.name}' on capability '{capability.id}' does not match pattern {pattern}"
  | other =>
    .error s!"Capability '{capability.id}' parameter '{param.name}' has unsupported type '{other}'"

/-- The value a declared parameter gets: the client's, or else the default. -/
def chosenValue (provided : Table String String) (param : CapabilityParameterConfig) :
    Option String :=
  (provided.lookup param.name).orElse fun _ => param.default

def validateDeclared (capability : CapabilityConfig) (provided : Table String String) :
    List CapabilityParameterConfig → Table String String →
      Except String (Table String String)
  | [], validated => .ok validated
  | param :: rest, validated =>
    match chosenValue provided param with
    | none =>
      .error s!"Missing required parameter '{param.name}' for capability '{capability.id}'"
    | some value =>
      match validateParameterValue regex capability param value with
      | .error message => .error message
      | .ok () => validateDeclared capability provided rest (validated.insert param.name value)

def validateParameters (capability : CapabilityConfig) (provided : Table String String) :
    Except String (Table String String) :=
  match validateDeclared regex capability provided capability.parameters ∅ with
  | .error message => .error message
  | .ok validated =>
    match provided.keys.find? fun key =>
        !(capability.parameters.any fun param => param.name == key) with
    | some key => .error s!"Unknown parameter '{key}' for capability '{capability.id}'"
    | none => .ok validated

theorem validateDeclared_ok {params : List CapabilityParameterConfig}
    {validated : Table String String}
    (accepted : validateDeclared regex capability provided params validated = .ok result)
    (name : String) :
    (∃ param ∈ params, param.name = name ∧ ∃ value,
        chosenValue provided param = some value ∧ result.lookup name = some value ∧
          validateParameterValue regex capability param value = .ok ()) ∨
      ((∀ param ∈ params, param.name ≠ name) ∧
        result.lookup name = validated.lookup name) := by
  induction params generalizing validated with
  | nil =>
    cases accepted
    simp
  | cons param rest ih =>
    simp only [validateDeclared] at accepted
    split at accepted
    · cases accepted
    · rename_i value chosen
      split at accepted
      · cases accepted
      · rename_i valid
        rcases ih accepted with found | ⟨absent, unchanged⟩
        · obtain ⟨later, member, facts⟩ := found
          exact Or.inl ⟨later, List.mem_cons_of_mem _ member, facts⟩
        · rw [Table.lookup_insert_eq] at unchanged
          by_cases same : name = param.name
          · subst same
            rw [if_pos rfl] at unchanged
            exact Or.inl ⟨param, by simp, rfl, value, chosen, unchanged, valid⟩
          · rw [if_neg same] at unchanged
            exact Or.inr ⟨List.forall_mem_cons.mpr ⟨Ne.symm same, absent⟩, unchanged⟩

section

variable (accepted : validateParameters regex capability provided = .ok result)

include accepted

theorem validateParameters_declared :
    validateDeclared regex capability provided capability.parameters ∅ = .ok result := by
  simp only [validateParameters] at accepted
  split at accepted
  · cases accepted
  · rename_i checked
    split at accepted
    · cases accepted
    · cases accepted
      exact checked

theorem validateParameters_ok (name : String) :
    (result.lookup name).isSome ↔ ∃ param ∈ capability.parameters, param.name = name := by
  have declared := validateParameters_declared regex accepted
  rcases validateDeclared_ok regex declared name with found | ⟨absent, unchanged⟩
  · obtain ⟨param, member, named, _, -, stored, -⟩ := found
    simp only [stored, Option.isSome_some, true_iff]
    exact ⟨param, member, named⟩
  · have empty : result.lookup name = none := by
      rw [unchanged]
      exact AList.lookup_empty name
    simp only [empty, Option.isSome_none, Bool.false_eq_true, false_iff]
    rintro ⟨param, member, named⟩
    exact absent param member named

end

end HandControl.CapabilityParameters
