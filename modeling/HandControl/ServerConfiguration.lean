import HandControl.CapabilityParameters

/-!
# The configuration file of the server

The configuration and how it is loaded. The TOML parser is a parameter: it returns the fields that
the file sets. The others get the defaults of the source. Settings that no modelled function reads
are left out.
-/

namespace HandControl.ServerConfiguration

open KeyedTable CapabilityParameters

structure ServerConfig where
  port : Nat
  bindAddress : String
  mdnsServiceName : String
  mdnsInstanceName : Option String

structure EnrollmentConfig where
  qrCodeEnabled : Bool
  approvalEnabled : Bool
  approvalTimeoutSeconds : Nat
  approvalNotification : Bool
deriving DecidableEq

structure SecurityConfig where
  certPath : Option String
  keyPath : Option String
  authorizedClientsDir : Option String
  enrollmentTokenTtl : Nat
  requireClientCert : Bool
  enrollment : EnrollmentConfig

structure RelayConfig where
  enabled : Bool
  relayServerUrl : Option String
  relayAuthSecret : Option String
  maxRelayTunnels : Option Nat
  autoConnect : Bool
  includeInEnrollment : Bool
  reconnectDelaySeconds : Nat
  relayTokenTtlHours : Nat
  allowSelfSignedTls : Bool
  pinnedCertSha256 : Option String
  websocketSubprotocol : String

structure NamedCapability extends CapabilityConfig where
  name : String

structure Config where
  server : ServerConfig
  security : SecurityConfig
  relay : RelayConfig
  capabilities : List NamedCapability

structure ServerTable where
  port : Option Nat
  bindAddress : Option String
  mdnsServiceName : Option String
  mdnsInstanceName : Option String

structure EnrollmentTable where
  qrCodeEnabled : Option Bool
  approvalEnabled : Option Bool
  approvalTimeoutSeconds : Option Nat
  approvalNotification : Option Bool

structure SecurityTable where
  certPath : Option String
  keyPath : Option String
  authorizedClientsDir : Option String
  enrollmentTokenTtl : Option Nat
  requireClientCert : Option Bool
  enrollment : Option EnrollmentTable

structure RelayTable where
  enabled : Option Bool
  relayServerUrl : Option String
  relayAuthSecret : Option String
  maxRelayTunnels : Option Nat
  autoConnect : Option Bool
  includeInEnrollment : Option Bool
  reconnectDelaySeconds : Option Nat
  relayTokenTtlHours : Option Nat
  allowSelfSignedTls : Option Bool
  pinnedCertSha256 : Option String
  websocketSubprotocol : Option String

structure ParameterTable where
  name : String
  paramType : String
  min : Option Int
  max : Option Int
  default : Option String
  options : Option (List String)
  validation : Option String

inductive DefinitionTable where
  | shellScript (command : String) (timeoutSeconds : Option Nat)
      (env : Option (Table String String)) (showOutput : Option Bool)
      (sessionMode : Option CapabilitySessionMode)
  | shellInteractive (path : Option String) (argv : Option (List String))
      (workingDirectory : Option String) (env : Option (Table String String))
      (idleTimeoutSeconds maxDurationSeconds : Option Nat)
      (sessionMode : Option CapabilitySessionMode)

structure CapabilityTable where
  id : String
  name : String
  parameters : Option (List ParameterTable)
  definition : DefinitionTable

/-- The tables `server` and `security` are required. -/
structure Document where
  server : ServerTable
  security : SecurityTable
  relay : Option RelayTable
  capabilities : Option (List CapabilityTable)

def Document.empty : Document where
  server := ⟨none, none, none, none⟩
  security := ⟨none, none, none, none, none, none⟩
  relay := none
  capabilities := none

def defaultRelaySubprotocol : String := "handcontrol-relay.v1"

def ServerTable.withDefaults (table : ServerTable) : ServerConfig where
  port := table.port.getD 50051
  bindAddress := table.bindAddress.getD "::"
  mdnsServiceName := table.mdnsServiceName.getD "handcontrol"
  mdnsInstanceName := table.mdnsInstanceName

/-- A file without the table gets the derived default, in which nothing is enabled. A table
without a field gets the default of the field. -/
def enrollmentWithDefaults : Option EnrollmentTable → EnrollmentConfig
  | none =>
    { qrCodeEnabled := false
      approvalEnabled := false
      approvalTimeoutSeconds := 0
      approvalNotification := false }
  | some table =>
    { qrCodeEnabled := table.qrCodeEnabled.getD true
      approvalEnabled := table.approvalEnabled.getD true
      approvalTimeoutSeconds := table.approvalTimeoutSeconds.getD 60
      approvalNotification := table.approvalNotification.getD true }

def SecurityTable.withDefaults (table : SecurityTable) : SecurityConfig where
  certPath := table.certPath
  keyPath := table.keyPath
  authorizedClientsDir := table.authorizedClientsDir
  enrollmentTokenTtl := table.enrollmentTokenTtl.getD 300
  requireClientCert := table.requireClientCert.getD false
  enrollment := enrollmentWithDefaults table.enrollment

def RelayTable.empty : RelayTable :=
  ⟨none, none, none, none, none, none, none, none, none, none, none⟩

def RelayTable.withDefaults (table : RelayTable) : RelayConfig where
  enabled := table.enabled.getD false
  relayServerUrl := table.relayServerUrl
  relayAuthSecret := table.relayAuthSecret
  maxRelayTunnels := table.maxRelayTunnels
  autoConnect := table.autoConnect.getD true
  includeInEnrollment := table.includeInEnrollment.getD false
  reconnectDelaySeconds := table.reconnectDelaySeconds.getD 30
  relayTokenTtlHours := table.relayTokenTtlHours.getD 2160
  allowSelfSignedTls := table.allowSelfSignedTls.getD false
  pinnedCertSha256 := table.pinnedCertSha256
  websocketSubprotocol := table.websocketSubprotocol.getD defaultRelaySubprotocol

def ParameterTable.withDefaults (table : ParameterTable) : CapabilityParameterConfig where
  name := table.name
  paramType := table.paramType
  min := table.min
  max := table.max
  default := table.default
  options := table.options.getD []
  validation := table.validation

def defaultInteractiveShellPath (windows : Bool) : String :=
  if windows then "cmd.exe" else "/bin/sh"

def DefinitionTable.withDefaults (windows : Bool) : DefinitionTable → CapabilityDefinition
  | .shellScript command timeoutSeconds env showOutput sessionMode =>
    .shellScript
      { command := command
        timeoutSeconds := timeoutSeconds.getD 30
        env := env.getD ∅
        showOutput := showOutput.getD true
        sessionMode := sessionMode.getD .oneShot }
  | .shellInteractive path argv workingDirectory env idleTimeoutSeconds maxDurationSeconds
      sessionMode =>
      .shellInteractive
        { path := path.getD (defaultInteractiveShellPath windows)
          argv := argv.getD ["-i"]
          workingDirectory := workingDirectory
          env := env.getD ∅
          idleTimeoutSeconds := idleTimeoutSeconds
          maxDurationSeconds := maxDurationSeconds
          sessionMode := sessionMode }

def CapabilityTable.withDefaults (windows : Bool) (table : CapabilityTable) :
    NamedCapability where
  id := table.id
  parameters := (table.parameters.getD []).map ParameterTable.withDefaults
  definition := table.definition.withDefaults windows
  name := table.name

def Document.withDefaults (windows : Bool) (document : Document) : Config where
  server := document.server.withDefaults
  security := document.security.withDefaults
  relay := (document.relay.getD .empty).withDefaults
  capabilities := (document.capabilities.getD []).map (CapabilityTable.withDefaults windows)

/-- The TOML parser, whether the platform is Windows, and its way to join paths. -/
structure Platform where
  parse : String → Option Document
  windows : Bool
  join : String → String → String

def expandTilde (platform : Platform) (home path : String) : String :=
  match path.toList with
  | '~' :: '/' :: rest => platform.join home (String.ofList rest)
  | _ => path

inductive LoadError where
  | unreadable
  | unparseable
  | homeUnknown
deriving DecidableEq

/-- The home directory is needed even when no path has a tilde. -/
def expandPaths (platform : Platform) (home : Option String) (config : Config) :
    Except LoadError Config :=
  match home with
  | none => .error .homeUnknown
  | some home =>
    let security :=
      { config.security with
        certPath := config.security.certPath.map (expandTilde platform home)
        keyPath := config.security.keyPath.map (expandTilde platform home)
        authorizedClientsDir :=
          config.security.authorizedClientsDir.map (expandTilde platform home) }
    .ok { config with security := security }

/-- What `load_config` finds: the content of the file, if it can be read, and the home
directory of the user. -/
structure ConfigFile where
  content : Option String
  home : Option String

def loadConfig (platform : Platform) (file : ConfigFile) : Except LoadError Config :=
  match file.content with
  | none => .error .unreadable
  | some content =>
    match platform.parse content with
    | none => .error .unparseable
    | some document =>
      expandPaths platform file.home (document.withDefaults platform.windows)

end HandControl.ServerConfiguration
