import HandControl.SequentialChecks
import HandControl.ServerConfiguration
import HandControl.StandardText

/-!
# Validation of the configuration

The checks made before the server starts, with their texts. The regular expression crate is a
parameter: the error of compiling a pattern, and the characters that `\w` matches.
-/

namespace HandControl.ConfigValidation

open CapabilityParameters SequentialChecks ServerConfiguration StandardText

structure RegexCrate where
  compileError : String → Option String
  isWord : Char → Bool
  brace_not_word : isWord '}' = false

def isAsciiWhitespace (symbol : Char) : Bool :=
  symbol ∈ [' ', '\t', '\n', '\x0C', '\r']

def normalizeFingerprint (fingerprint : String) : String :=
  String.ofList (fingerprint.toList.filter fun symbol =>
    !isAsciiWhitespace symbol && symbol != ':')

def isSha256Fingerprint (fingerprint : String) : Bool :=
  let normalized := normalizeFingerprint fingerprint
  normalized.utf8ByteSize == 64 && normalized.toList.all isAsciiHexdigit

def isGiven (text : Option String) : Bool :=
  match text with
  | none => false
  | some text => trim text ≠ ""

def validatePinnedCert (relay : RelayConfig) : Except String Unit :=
  checkSome relay.pinnedCertSha256 fun fingerprint => do
    refuse (relay.allowSelfSignedTls = false)
      "relay.pinned_cert_sha256 requires relay.allow_self_signed_tls to be true"
    refuse (isSha256Fingerprint fingerprint = false)
      "relay.pinned_cert_sha256 must be a SHA-256 fingerprint (64 hex characters, colons optional)"

def validateEnabledRelay (relay : RelayConfig) : Except String Unit := do
  refuse (isGiven relay.relayServerUrl = false) "Relay enabled but relay_server_url is missing"
  refuse (isGiven relay.relayAuthSecret = false) "Relay enabled but relay_auth_secret is missing"
  refuse (relay.reconnectDelaySeconds = 0) "relay.reconnect_delay_seconds must be greater than 0"
  checkSome relay.maxRelayTunnels fun max =>
    refuse (max = 0) "relay.max_relay_tunnels must be greater than 0 when specified"

def validateRelayInEnrollment (relay : RelayConfig) : Except String Unit := do
  refuse (relay.enabled = false) "relay.include_in_enrollment requires relay.enabled = true"
  refuse (isGiven relay.relayServerUrl = false)
    "relay.include_in_enrollment requires relay.relay_server_url to be set"
  refuse (isGiven relay.relayAuthSecret = false)
    "relay.include_in_enrollment requires relay.relay_auth_secret to be configured"
  refuse (trim relay.websocketSubprotocol = "")
    "relay.websocket_subprotocol cannot be empty when relay.include_in_enrollment is true"

def validateServerConfig (config : Config) : Except String Unit := do
  refuse (config.server.port = 0) "Server port cannot be 0"
  refuse (config.server.bindAddress = "") "Server bind_address cannot be empty"
  refuse (config.server.mdnsServiceName = "") "Server mdns_service_name cannot be empty"
  refuse (config.security.enrollmentTokenTtl = 0) "Enrollment token TTL cannot be 0"
  validatePinnedCert config.relay
  checkWhen config.relay.enabled (validateEnabledRelay config.relay)
  checkWhen config.relay.includeInEnrollment (validateRelayInEnrollment config.relay)

variable (crate : RegexCrate)

def validateSliderBounds (capabilityId : String) (param : CapabilityParameterConfig) :
    Except String Unit :=
  match param.min, param.max with
  | some min, some max =>
    refuse (min ≥ max)
      s!"Capability '{capabilityId}' parameter '{param.name}': min ({min}) must be less than max ({max})"
  | _, _ =>
    .error s!"Capability '{capabilityId}' parameter '{param.name}': slider must define min and max"

def validateTextPattern (capabilityId : String) (param : CapabilityParameterConfig) :
    Except String Unit :=
  checkSome param.validation fun pattern =>
    match crate.compileError pattern with
    | none => .ok ()
    | some err =>
      .error
        s!"Capability '{capabilityId}' parameter '{param.name}': invalid validation regex: {err}"

def validateParameter (capabilityId : String) (param : CapabilityParameterConfig) :
    Except String Unit := do
  refuse (param.name = "") s!"Capability '{capabilityId}' has parameter with empty name"
  match param.paramType with
  | "slider" => validateSliderBounds capabilityId param
  | "text" => validateTextPattern crate capabilityId param
  | "toggle" => .ok ()
  | "dropdown" =>
    refuse (param.options = [])
      s!"Capability '{capabilityId}' parameter '{param.name}': dropdown must include options"
  | other =>
    .error s!"Capability '{capabilityId}' parameter '{param.name}': unsupported type '{other}'"

def placeholderAt : List Char → Option (List Char)
  | '{' :: rest =>
    let name := rest.takeWhile crate.isWord
    if name ≠ [] ∧ (rest.dropWhile crate.isWord).head? = some '}' then some name else none
  | _ => none

/-- The leftmost, non-overlapping matches. The number says how many characters belong to
the last match. -/
def placeholdersFrom : Nat → List Char → List String
  | _, [] => []
  | skip + 1, _ :: rest => placeholdersFrom skip rest
  | 0, head :: rest =>
    match placeholderAt crate (head :: rest) with
    | some name => String.ofList name :: placeholdersFrom (name.length + 1) rest
    | none => placeholdersFrom 0 rest

def undefinedPlaceholder (capabilityId placeholder : String) : String :=
  s!"Capability '{capabilityId}' shell command references undefined parameter: {placeholder}"

def validateParameterPlaceholders (capabilityId command : String)
    (parameters : List CapabilityParameterConfig) : Except String Unit :=
  match (placeholdersFrom crate 0 command.toList).find? fun placeholder =>
      !parameters.any fun param => param.name == placeholder with
  | none => .ok ()
  | some placeholder => .error (undefinedPlaceholder capabilityId placeholder)

def sessionModeName : CapabilitySessionMode → String
  | .oneShot => "OneShot"
  | .realtime => "Realtime"
  | .upload => "Upload"
  | .download => "Download"

def validateShellScript (capability : NamedCapability) (definition : ShellScriptDefinition) :
    Except String Unit := do
  refuse (trim definition.command = "")
    s!"Capability '{capability.id}' shell command cannot be empty"
  refuse (definition.timeoutSeconds = 0) s!"Capability '{capability.id}' timeout cannot be 0"
  validateParameterPlaceholders crate capability.id definition.command capability.parameters

def validateShellInteractive (capability : NamedCapability)
    (definition : ShellInteractiveDefinition) : Except String Unit := do
  refuse (trim definition.path = "")
    s!"Capability '{capability.id}' interactive shell cannot be empty"
  checkSome definition.idleTimeoutSeconds fun idle =>
    refuse (idle = 0)
      s!"Capability '{capability.id}' idle_timeout_seconds must be greater than 0"
  checkSome definition.maxDurationSeconds fun duration =>
    refuse (duration = 0)
      s!"Capability '{capability.id}' max_duration_seconds must be greater than 0"
  let other := sessionModeName (definition.sessionMode.getD .realtime)
  refuse (definition.sessionMode.getD .realtime ≠ .realtime)
    s!"Capability '{capability.id}' interactive shell must use realtime session mode, found {other}"

def validateCapability (capability : NamedCapability) : Except String Unit := do
  refuse (capability.id = "") "Capability ID cannot be empty"
  refuse (capability.name = "") s!"Capability '{capability.id}' has empty name"
  checkDistinct CapabilityParameterConfig.name
    (fun param => s!"Capability '{capability.id}' has duplicate parameter '{param.name}'")
    (validateParameter crate capability.id) [] capability.parameters
  match capability.definition with
  | .shellScript definition => validateShellScript crate capability definition
  | .shellInteractive definition => validateShellInteractive capability definition

def validateCapabilities (config : Config) : Except String Unit :=
  checkDistinct (fun capability : NamedCapability => capability.id)
    (fun capability => s!"Duplicate capability ID: {capability.id}")
    (validateCapability crate) [] config.capabilities

def validateConfig (config : Config) : Except String Unit := do
  validateServerConfig config
  validateCapabilities crate config

structure RelayUsable (relay : RelayConfig) : Prop where
  url : isGiven relay.relayServerUrl = true
  secret : isGiven relay.relayAuthSecret = true
  delay : relay.reconnectDelaySeconds ≠ 0
  tunnels : ∀ max, relay.maxRelayTunnels = some max → max ≠ 0

structure ServerValid (config : Config) : Prop where
  port : config.server.port ≠ 0
  bindAddress : config.server.bindAddress ≠ ""
  serviceName : config.server.mdnsServiceName ≠ ""
  tokenTtl : config.security.enrollmentTokenTtl ≠ 0
  pinned : ∀ fingerprint, config.relay.pinnedCertSha256 = some fingerprint →
    config.relay.allowSelfSignedTls = true ∧ isSha256Fingerprint fingerprint = true
  relay : config.relay.enabled = true → RelayUsable config.relay
  advertised : config.relay.includeInEnrollment = true →
    config.relay.enabled = true ∧ trim config.relay.websocketSubprotocol ≠ ""

/-- A parameter of one of the four types, with what the type needs. -/
inductive ParameterUsable (param : CapabilityParameterConfig) : Prop
  | slider (min max : Int) (type : param.paramType = "slider") (lower : param.min = some min)
      (upper : param.max = some max) (ordered : min < max)
  | text (type : param.paramType = "text")
      (compiles : ∀ pattern, param.validation = some pattern → crate.compileError pattern = none)
  | toggle (type : param.paramType = "toggle")
  | dropdown (type : param.paramType = "dropdown") (offered : param.options ≠ [])

def DefinitionRunnable (capability : NamedCapability) : Prop :=
  match capability.definition with
  | .shellScript definition =>
    trim definition.command ≠ "" ∧ definition.timeoutSeconds ≠ 0 ∧
      ∀ placeholder ∈ placeholdersFrom crate 0 definition.command.toList,
        ∃ param ∈ capability.parameters, param.name = placeholder
  | .shellInteractive definition =>
    trim definition.path ≠ "" ∧
      (∀ idle, definition.idleTimeoutSeconds = some idle → idle ≠ 0) ∧
        (∀ duration, definition.maxDurationSeconds = some duration → duration ≠ 0) ∧
          definition.sessionMode.getD .realtime = .realtime

structure CapabilityValid (capability : NamedCapability) : Prop where
  id : capability.id ≠ ""
  name : capability.name ≠ ""
  distinct : (capability.parameters.map CapabilityParameterConfig.name).Nodup
  parameters : ∀ param ∈ capability.parameters,
    param.name ≠ "" ∧ ParameterUsable crate param
  runnable : DefinitionRunnable crate capability

structure ConfigValid (config : Config) : Prop where
  server : ServerValid config
  distinct : (config.capabilities.map fun capability => capability.id).Nodup
  capabilities : ∀ capability ∈ config.capabilities, CapabilityValid crate capability

/-- The checks of the address and the secret for the enrollment follow from those for an
enabled relay. -/
theorem validateServerConfig_eq_ok_iff (config : Config) :
    validateServerConfig config = .ok () ↔ ServerValid config := by
  simp only [validateServerConfig, validatePinnedCert, validateEnabledRelay,
    validateRelayInEnrollment, bind_eq_ok_iff, refuse_eq_ok_iff, checkSome_eq_ok_iff,
    checkWhen_eq_ok_iff, Bool.not_eq_false]
  constructor
  · rintro ⟨port, address, service, ttl, pinned, relay, advertised⟩
    have usable : config.relay.enabled = true → RelayUsable config.relay := by
      intro enabled
      rcases relay enabled with ⟨url, secret, delay, tunnels⟩
      exact ⟨url, secret, delay, tunnels⟩
    have offered : config.relay.includeInEnrollment = true →
        config.relay.enabled = true ∧ trim config.relay.websocketSubprotocol ≠ "" := by
      intro included
      rcases advertised included with ⟨enabled, _, _, subprotocol⟩
      exact ⟨enabled, subprotocol⟩
    exact ⟨port, address, service, ttl, pinned, usable, offered⟩
  · intro valid
    refine ⟨valid.port, valid.bindAddress, valid.serviceName, valid.tokenTtl, valid.pinned, ?_, ?_⟩
    · intro enabled
      have relay := valid.relay enabled
      exact ⟨relay.url, relay.secret, relay.delay, relay.tunnels⟩
    · intro included
      rcases valid.advertised included with ⟨enabled, subprotocol⟩
      have relay := valid.relay enabled
      exact ⟨enabled, relay.url, relay.secret, subprotocol⟩

section

variable (capabilityId : String) (param : CapabilityParameterConfig)

include capabilityId param

theorem validateSliderBounds_eq_ok_iff :
    validateSliderBounds capabilityId param = .ok () ↔
      ∃ min max, param.min = some min ∧ param.max = some max ∧ min < max := by
  unfold validateSliderBounds
  cases lower : param.min with
  | none => simp
  | some =>
    cases upper : param.max with
    | none | some => simp

theorem validateTextPattern_eq_ok_iff :
    validateTextPattern crate capabilityId param = .ok () ↔
      ∀ pattern, param.validation = some pattern → crate.compileError pattern = none := by
  unfold validateTextPattern
  rw [checkSome_eq_ok_iff]
  apply forall_congr'
  intro pattern
  apply imp_congr_right
  intro given
  cases crate.compileError pattern with
  | none | some => simp

theorem validateParameter_eq_ok_iff :
    validateParameter crate capabilityId param = .ok () ↔
      param.name ≠ "" ∧ ParameterUsable crate param := by
  unfold validateParameter
  rw [bind_eq_ok_iff, refuse_eq_ok_iff]
  apply and_congr_right
  intro named
  split
  · rename_i type
    rw [validateSliderBounds_eq_ok_iff]
    constructor
    · rintro ⟨min, max, lower, upper, ordered⟩
      exact .slider min max type lower upper ordered
    · intro usable
      cases usable with
      | slider min max _ lower upper ordered => exact ⟨min, max, lower, upper, ordered⟩
      | text other | toggle other | dropdown other => simp [type] at other
  · rename_i type
    rw [validateTextPattern_eq_ok_iff]
    constructor
    · exact .text type
    · intro usable
      cases usable with
      | text _ compiles => exact compiles
      | slider _ _ other | toggle other | dropdown other => simp [type] at other
  · rename_i type
    exact iff_of_true rfl (.toggle type)
  · rename_i type
    rw [refuse_eq_ok_iff]
    constructor
    · exact .dropdown type
    · intro usable
      cases usable with
      | dropdown _ offered => exact offered
      | slider _ _ other | text other | toggle other => simp [type] at other
  · rename_i not_slider not_text not_toggle not_dropdown
    apply iff_of_false
    · simp
    · intro usable
      cases usable with
      | slider _ _ type => exact not_slider type
      | text type => exact not_text type
      | toggle type => exact not_toggle type
      | dropdown type => exact not_dropdown type

end

theorem validateParameterPlaceholders_eq_ok_iff (capabilityId command : String)
    (parameters : List CapabilityParameterConfig) :
    validateParameterPlaceholders crate capabilityId command parameters = .ok () ↔
      ∀ placeholder ∈ placeholdersFrom crate 0 command.toList,
        ∃ param ∈ parameters, param.name = placeholder := by
  unfold validateParameterPlaceholders
  split
  · rename_i none_undefined
    have all_defined := List.find?_eq_none.mp none_undefined
    simpa using all_defined
  · rename_i placeholder found
    apply iff_of_false
    · simp
    · intro all_defined
      rcases all_defined placeholder (List.mem_of_find?_eq_some found) with
        ⟨param, configured, same⟩
      have undefined := List.find?_some found
      simp only [Bool.not_eq_true', List.any_eq_false, beq_iff_eq] at undefined
      exact undefined param configured same

theorem validateCapability_eq_ok_iff (capability : NamedCapability) :
    validateCapability crate capability = .ok () ↔ CapabilityValid crate capability := by
  have runnable : (match capability.definition with
      | .shellScript definition => validateShellScript crate capability definition
      | .shellInteractive definition => validateShellInteractive capability definition) = .ok () ↔
      DefinitionRunnable crate capability := by
    unfold DefinitionRunnable
    cases capability.definition with
    | shellScript => simp [validateShellScript, validateParameterPlaceholders_eq_ok_iff]
    | shellInteractive => simp [validateShellInteractive]
  simp only [validateCapability, bind_eq_ok_iff, refuse_eq_ok_iff, checkDistinct_eq_ok_iff,
    validateParameter_eq_ok_iff]
  rw [runnable]
  constructor
  · rintro ⟨id, name, ⟨distinct, _, parameters⟩, runs⟩
    exact ⟨id, name, distinct, parameters, runs⟩
  · intro valid
    exact ⟨valid.id, valid.name, ⟨valid.distinct, by simp, valid.parameters⟩, valid.runnable⟩

theorem validateConfig_eq_ok_iff (config : Config) :
    validateConfig crate config = .ok () ↔ ConfigValid crate config := by
  simp only [validateConfig, validateCapabilities, bind_eq_ok_iff, checkDistinct_eq_ok_iff,
    validateServerConfig_eq_ok_iff, validateCapability_eq_ok_iff]
  constructor
  · rintro ⟨server, distinct, _, capabilities⟩
    exact ⟨server, distinct, capabilities⟩
  · intro valid
    exact ⟨valid.server, valid.distinct, by simp, valid.capabilities⟩

/-- A file that sets nothing passes, so every default passes the check of its field. -/
theorem defaults_valid (windows : Bool) :
    ConfigValid crate (Document.empty.withDefaults windows) := by
  have server : ServerValid (Document.empty.withDefaults windows) := by
    apply (validateServerConfig_eq_ok_iff _).mp
    rfl
  exact ⟨server, List.nodup_nil, by simp [Document.withDefaults, Document.empty]⟩

end HandControl.ConfigValidation
