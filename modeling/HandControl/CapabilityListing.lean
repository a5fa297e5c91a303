import HandControl.ServerConfiguration

/-!
# The list of capabilities

`list_capabilities` builds a registry and sends the metadata of every registered capability. What
only clients see of a capability is added here to the configuration. A hash map has no fixed order,
so the list is determined up to its order.
-/

namespace HandControl.CapabilityListing

open CapabilityParameters KeyedTable ServerConfiguration

structure ListedParameter extends CapabilityParameterConfig where
  description : Option String
  labelOn : Option String
  labelOff : Option String
  step : Option Int
  defaultValueCommand : Option String
  defaultValuePattern : Option String

structure ListedCapability extends NamedCapability where
  description : Option String
  tags : List String
  requiresConfirmation : Bool
  privileged : Bool
  listedParameters : List ListedParameter
  parameters_eq : parameters = listedParameters.map fun listed =>
    listed.toCapabilityParameterConfig

structure ListedConfig extends Config where
  listed : List ListedCapability
  capabilities_eq : capabilities = listed.map fun capability => capability.toNamedCapability

inductive CapabilityKind where
  | shellScript
  | shellInteractive
  | fileTransfer
deriving DecidableEq

def CapabilityKind.ofDefinition : CapabilityDefinition → CapabilityKind
  | .shellScript _ => .shellScript
  | .shellInteractive _ => .shellInteractive

def definitionSessionMode : CapabilityDefinition → CapabilitySessionMode
  | .shellScript definition => definition.sessionMode
  | .shellInteractive definition => definition.sessionMode.getD .realtime

structure CapabilityParameter where
  name : String
  paramType : String
  description : Option String
  min : Option Int
  max : Option Int
  defaultValue : Option String
  options : List String
  validation : Option String
  labelOn : Option String
  labelOff : Option String
  step : Option Int
  defaultValueCommand : Option String
  defaultValuePattern : Option String
deriving DecidableEq

def CapabilityParameter.ofConfig (param : ListedParameter) : CapabilityParameter where
  name := param.name
  paramType := param.paramType
  description := param.description
  min := param.min
  max := param.max
  defaultValue := param.default
  options := param.options
  validation := param.validation
  labelOn := param.labelOn
  labelOff := param.labelOff
  step := param.step
  defaultValueCommand := param.defaultValueCommand
  defaultValuePattern := param.defaultValuePattern

structure CapabilityMetadata where
  id : String
  name : String
  description : Option String
  tags : List String
  kind : CapabilityKind
  sessionMode : CapabilitySessionMode
  requiresConfirmation : Bool
  privileged : Bool
  parameters : List CapabilityParameter
deriving DecidableEq

def buildMetadata (config : ListedCapability) : CapabilityMetadata where
  id := config.id
  name := config.name
  description := config.description
  tags := config.tags
  kind := .ofDefinition config.definition
  sessionMode := definitionSessionMode config.definition
  requiresConfirmation := config.requiresConfirmation
  privileged := config.privileged
  parameters := config.listedParameters.map .ofConfig

/-- What `ShellScriptCapability::new` and `ShellInteractiveCapability::new` keep. -/
structure Capability where
  config : ListedCapability
  metadata : CapabilityMetadata

abbrev CapabilityRegistry := Table String Capability

def register (registry : CapabilityRegistry) (config : ListedCapability) :
    Except String CapabilityRegistry :=
  if (registry.lookup config.id).isSome then
    .error s!"Duplicate capability '{config.id}' while building registry"
  else
    let metadata := buildMetadata config
    .ok (registry.insert metadata.id ⟨config, metadata⟩)

def registerAll : CapabilityRegistry → List ListedCapability → Except String CapabilityRegistry
  | registry, [] => .ok registry
  | registry, config :: rest =>
    match register registry config with
    | .error error => .error error
    | .ok next => registerAll next rest

def fromConfig (config : ListedConfig) : Except String CapabilityRegistry :=
  registerAll ∅ config.listed

def listMetadata (registry : CapabilityRegistry) : List CapabilityMetadata :=
  registry.values.map Capability.metadata

inductive CapabilityParameterType where
  | unspecified
  | slider
  | text
  | toggle
  | dropdown
deriving DecidableEq

def CapabilityParameterType.ofName : String → CapabilityParameterType
  | "slider" => .slider
  | "text" => .text
  | "toggle" => .toggle
  | "dropdown" => .dropdown
  | _ => .unspecified

structure ProtoParameter where
  name : String
  type : CapabilityParameterType
  description : String
  min : Option Int
  max : Option Int
  defaultValue : Option String
  options : List String
  validation : Option String
  labelOn : Option String
  labelOff : Option String
  defaultValueCommand : Option String
  defaultValuePattern : Option String
deriving DecidableEq

def protoFromParameter (param : CapabilityParameter) : ProtoParameter where
  name := param.name
  type := .ofName param.paramType
  description := param.description.getD ""
  min := param.min
  max := param.max
  defaultValue := param.defaultValue
  options := param.options
  validation := param.validation
  labelOn := param.labelOn
  labelOff := param.labelOff
  defaultValueCommand := param.defaultValueCommand
  defaultValuePattern := param.defaultValuePattern

structure ProtoCapability where
  id : String
  name : String
  description : String
  tags : List String
  kind : CapabilityKind
  sessionMode : CapabilitySessionMode
  parameters : List ProtoParameter
  requiresConfirmation : Option Bool
  privileged : Option Bool
  version : Option Nat
deriving DecidableEq

def protoFromMetadata (metadata : CapabilityMetadata) : ProtoCapability where
  id := metadata.id
  name := metadata.name
  description := metadata.description.getD ""
  tags := metadata.tags
  kind := metadata.kind
  sessionMode := metadata.sessionMode
  parameters := metadata.parameters.map protoFromParameter
  requiresConfirmation := some metadata.requiresConfirmation
  privileged := some metadata.privileged
  version := none

def capabilityList (config : ListedConfig) : List ProtoCapability :=
  config.listed.map fun capability => protoFromMetadata (buildMetadata capability)

theorem register_ok_iff {registry next : CapabilityRegistry} {config : ListedCapability} :
    register registry config = .ok next ↔
      registry.lookup config.id = none ∧
        next = registry.insert config.id ⟨config, buildMetadata config⟩ := by
  unfold register
  split_ifs with duplicate
  · rw [Option.isSome_iff_ne_none] at duplicate
    simp [duplicate]
  · rw [Option.not_isSome_iff_eq_none] at duplicate
    simp only [duplicate, true_and, Except.ok.injEq]
    exact eq_comm

theorem values_insert_of_absent {registry : CapabilityRegistry} {id : String}
    (absent : registry.lookup id = none) (capability : Capability) :
    Table.values (registry.insert id capability) = capability :: Table.values registry := by
  have not_mem : id ∉ registry := AList.lookup_eq_none.mp absent
  rw [Table.values, AList.entries_insert_of_notMem not_mem]
  rfl

theorem registerAll_values {configs : List ListedCapability}
    {registry final : CapabilityRegistry} (registered : registerAll registry configs = .ok final) :
    final.values.Perm
      (configs.map (fun config => ⟨config, buildMetadata config⟩) ++ registry.values) := by
  induction configs generalizing registry with
  | nil =>
    cases registered
    rfl
  | cons config rest ih =>
    rw [registerAll] at registered
    split at registered
    · cases registered
    · rename_i next_eq
      obtain ⟨absent, rfl⟩ := register_ok_iff.mp next_eq
      have permuted := ih registered
      rw [values_insert_of_absent absent] at permuted
      exact permuted.trans List.perm_middle

theorem listMetadata_fromConfig {config : ListedConfig} {registry : CapabilityRegistry}
    (built : fromConfig config = .ok registry) :
    ((listMetadata registry).map protoFromMetadata).Perm (capabilityList config) := by
  have permuted := registerAll_values built
  rw [show (∅ : CapabilityRegistry).values = [] from rfl, List.append_nil] at permuted
  have listed := (permuted.map Capability.metadata).map protoFromMetadata
  simpa [listMetadata, capabilityList, Function.comp_def] using listed

end HandControl.CapabilityListing
