import HandControl.MessageChannels
import HandControl.RelayAccess
import HandControl.TunnelHandshake

/-!
# The relay as a system of handlers

Every socket on `/register` and `/connect` has a handler. The handlers share the registration map,
the tunnel map and the control channels, each behind its own lock; a step is one access to one of
them. A connect handler works with the registration it fetched, which may have been replaced since.
-/

namespace HandControl.RelayProcesses

open ByteEncoding KeyedTable MessageChannels RelayAccess
open TunnelHandshake (TunnelHandle)

/-- A registration. `controlTx` is the number of the register handler that receives from
the control channel. -/
structure RegisteredServer where
  registrationId : Uuid
  controlTx : Nat
  decodingKey : DecodingKey
  tlsAuthority : Option String
deriving DecidableEq

inductive ServerCommand where
  | openTunnel (tunnelId clientId : Uuid) (preferredProtocol : String) (expiresAt : Nat)
      (serverSecret : String)
deriving DecidableEq

structure ConnectAck where
  tunnelId : String
  relayHost : String
  expiresAt : Nat
  serverAuthority : Option String
deriving DecidableEq

/-- A request that passed all checks: the registration it was checked against, the time
of the check and the claims of its token. -/
structure Admission where
  request : ConnectRequest
  entry : RegisteredServer
  decidedAt : Nat
  claims : RelayClaims
deriving DecidableEq

inductive RegisterPhase where
  | absent
  | received (frame : FirstFrame RegisterPayload)
  | acknowledging (registration : Registration)
  | registering (registration : Registration)
  | serving (serverId registrationId : Uuid)
  | dispatching (serverId registrationId : Uuid) (command : ServerCommand)
  | leaving (serverId registrationId : Uuid)
  | returning (serverId : Uuid)
  | left (serverId : Uuid)
  | refused (failure : RegisterFailure)

/-- Where a connect handler is. After `opened` it is one of the handlers of its tunnel. -/
inductive ConnectPhase where
  | absent
  | received (frame : FirstFrame ConnectPayload)
  | fetching (request : ConnectRequest)
  | deciding (request : ConnectRequest) (entry : RegisteredServer)
  | opening (admission : Admission)
  | notifying (admission : Admission) (tunnelId : Uuid) (serverSecret : String)
  | withdrawing (admission : Admission) (tunnelId : Uuid)
  | opened (admission : Admission) (ack : ConnectAck)
  | failed (failure : ConnectFailure)
deriving DecidableEq

structure Relay where
  registeredServers : Table Uuid RegisteredServer
  tunnels : Table Uuid TunnelHandle
  controls : Nat → List ServerCommand
  registers : Nat → RegisterPhase
  connects : Nat → ConnectPhase

namespace Relay

def started : Relay where
  registeredServers := ∅
  tunnels := ∅
  controls := fun _ => []
  registers := fun _ => .absent
  connects := fun _ => .absent

def serverEntry (relay : Relay) (serverId : Uuid) : Option RegisteredServer :=
  relay.registeredServers.lookup serverId

def upsertServer (relay : Relay) (serverId : Uuid) (server : RegisteredServer) : Relay :=
  { relay with registeredServers := relay.registeredServers.insert serverId server }

def removeServerIfCurrent (relay : Relay) (serverId registrationId : Uuid) : Relay :=
  let shouldRemove :=
    ((relay.serverEntry serverId).map fun entry => entry.registrationId == registrationId).getD
      false
  let remaining :=
    if shouldRemove then relay.registeredServers.erase serverId else relay.registeredServers
  { relay with registeredServers := remaining }

def createTunnel (relay : Relay) (tunnelId : Uuid) (serverSecret : String) : Relay :=
  { relay with tunnels := relay.tunnels.insert tunnelId (TunnelHandle.new serverSecret) }

def removeTunnel (relay : Relay) (tunnelId : Uuid) : Relay :=
  { relay with tunnels := relay.tunnels.erase tunnelId }

def moveRegister (relay : Relay) (handler : Nat) (next : RegisterPhase) : Relay :=
  { relay with registers := Function.update relay.registers handler next }

def moveConnect (relay : Relay) (handler : Nat) (next : ConnectPhase) : Relay :=
  { relay with connects := Function.update relay.connects handler next }

def setControl (relay : Relay) (handler : Nat) (queue : List ServerCommand) : Relay :=
  { relay with controls := Function.update relay.controls handler queue }

/-- The receiver of a control channel is dropped when its handler returns. -/
def receiverDropped (relay : Relay) (handler : Nat) : Bool :=
  match relay.registers handler with
  | .left _ => true
  | _ => false

end Relay

/-- The branch that `select!` takes in the loop of a register handler. -/
inductive ControlEvent where
  | command
  | frame
  | closed
deriving DecidableEq

structure RegisterInput where
  sendOk : Bool
  registrationId : Uuid
  event : ControlEvent

def controlCapacity : Nat := 32

def stepRegister (setting : RelaySetting) (libraries : RelayLibraries) (relay : Relay)
    (handler : Nat) (input : RegisterInput) : Option Relay :=
  match relay.registers handler with
  | .received frame =>
    match acceptRegister setting libraries frame with
    | .ok registration => some (relay.moveRegister handler (.acknowledging registration))
    | .error failure => some (relay.moveRegister handler (.refused failure))
  | .acknowledging registration =>
    if input.sendOk then some (relay.moveRegister handler (.registering registration))
    else some (relay.moveRegister handler (.refused .sendFailed))
  | .registering registration =>
    let server : RegisteredServer :=
      { registrationId := input.registrationId
        controlTx := handler
        decodingKey := registration.decodingKey
        tlsAuthority := registration.tlsAuthority }
    some ((relay.upsertServer registration.serverId server).moveRegister handler
      (.serving registration.serverId input.registrationId))
  | .serving serverId registrationId =>
    match input.event with
    | .command =>
      match relay.controls handler with
      | [] => none
      | command :: rest =>
        some ((relay.setControl handler rest).moveRegister handler
          (.dispatching serverId registrationId command))
    | .frame => some (relay.moveRegister handler (.serving serverId registrationId))
    | .closed => some (relay.moveRegister handler (.leaving serverId registrationId))
  | .dispatching serverId registrationId _ =>
    if input.sendOk then some (relay.moveRegister handler (.serving serverId registrationId))
    else some (relay.moveRegister handler (.leaving serverId registrationId))
  | .leaving serverId registrationId =>
    some ((relay.removeServerIfCurrent serverId registrationId).moveRegister handler
      (.returning serverId))
  | .returning serverId =>
    some ((relay.setControl handler []).moveRegister handler (.left serverId))
  | .absent | .left _ | .refused _ => none

structure ConnectInput where
  now : Nat
  tunnelId : Uuid
  secretBytes : FixedBytes 32

/-- `expires_at`: a deadline that the system time cannot hold is reported as zero. -/
def expiresAt (setting : RelaySetting) (now : Nat) : Nat :=
  if now + setting.handshakeTimeout < 2 ^ 63 then now + setting.handshakeTimeout else 0

def stepConnect (setting : RelaySetting) (libraries : RelayLibraries) (relay : Relay)
    (handler : Nat) (input : ConnectInput) : Option Relay :=
  match relay.connects handler with
  | .received frame =>
    match parseConnect libraries frame with
    | .ok request => some (relay.moveConnect handler (.fetching request))
    | .error failure => some (relay.moveConnect handler (.failed failure))
  | .fetching request =>
    match relay.serverEntry request.serverId with
    | some entry => some (relay.moveConnect handler (.deciding request entry))
    | none => some (relay.moveConnect handler (.failed (.refused .serverNotRegistered)))
  | .deciding request entry =>
    match authorizeConnect setting libraries input.now entry.decodingKey request with
    | .ok claims =>
      let admission := { request, entry, decidedAt := input.now, claims }
      some (relay.moveConnect handler (.opening admission))
    | .error error => some (relay.moveConnect handler (.failed (.refused error)))
  | .opening admission =>
    let serverSecret := libraries.encodeBase64 input.secretBytes.bytes
    some ((relay.createTunnel input.tunnelId serverSecret).moveConnect handler
      (.notifying admission input.tunnelId serverSecret))
  | .notifying admission tunnelId serverSecret =>
    let channel := admission.entry.controlTx
    let deadline := expiresAt setting input.now
    let command :=
      .openTunnel tunnelId admission.request.clientId "binary" deadline serverSecret
    let ack : ConnectAck :=
      { tunnelId := tunnelId.text
        relayHost := setting.relayHost
        expiresAt := deadline
        serverAuthority := admission.entry.tlsAuthority }
    if relay.receiverDropped channel then
      some (relay.moveConnect handler (.withdrawing admission tunnelId))
    else
      -- a full channel makes the sender wait
      (offer controlCapacity (relay.controls channel) command).map fun queue =>
        (relay.setControl channel queue).moveConnect handler (.opened admission ack)
  | .withdrawing _ tunnelId =>
    some ((relay.removeTunnel tunnelId).moveConnect handler (.failed (.refused .serverUnreachable)))
  | .absent | .opened _ _ | .failed _ => none

/-- `removeTunnel` stands for every other task that removes a tunnel: cleanup guards,
the ends of forwarders, and tunnel handlers that fail. -/
inductive RelayAction where
  | registerArrives (handler : Nat) (frame : FirstFrame RegisterPayload)
  | register (handler : Nat) (input : RegisterInput)
  | connectArrives (handler : Nat) (frame : FirstFrame ConnectPayload)
  | connect (handler : Nat) (input : ConnectInput)
  | removeTunnel (tunnelId : Uuid)

def stepRelay (setting : RelaySetting) (libraries : RelayLibraries) (relay : Relay) :
    RelayAction → Option Relay
  | .registerArrives handler frame =>
    match relay.registers handler with
    | .absent => some (relay.moveRegister handler (.received frame))
    | _ => none
  | .register handler input => stepRegister setting libraries relay handler input
  | .connectArrives handler frame =>
    match relay.connects handler with
    | .absent => some (relay.moveConnect handler (.received frame))
    | _ => none
  | .connect handler input => stepConnect setting libraries relay handler input
  | .removeTunnel tunnelId => some (relay.removeTunnel tunnelId)

section

variable (setting : RelaySetting) (libraries : RelayLibraries) (relay : Relay)

inductive RegisterPasses : RegisterPhase → RegisterPhase → Prop where
  | accepts (frame registration)
      (accepted : acceptRegister setting libraries frame = .ok registration) :
      RegisterPasses (.received frame) (.acknowledging registration)
  | refuses (frame failure) (refused : acceptRegister setting libraries frame = .error failure) :
      RegisterPasses (.received frame) (.refused failure)
  | acknowledges (registration) :
      RegisterPasses (.acknowledging registration) (.registering registration)
  | unacknowledged (registration) :
      RegisterPasses (.acknowledging registration) (.refused .sendFailed)
  | hears (serverId registrationId) :
      RegisterPasses (.serving serverId registrationId) (.serving serverId registrationId)
  | closes (serverId registrationId) :
      RegisterPasses (.serving serverId registrationId) (.leaving serverId registrationId)
  | dispatches (serverId registrationId command) :
      RegisterPasses (.dispatching serverId registrationId command)
        (.serving serverId registrationId)
  | breaks (serverId registrationId command) :
      RegisterPasses (.dispatching serverId registrationId command)
        (.leaving serverId registrationId)

inductive RegisterMove (handler : Nat) : Relay → Prop where
  | passes (next) (passage : RegisterPasses setting libraries (relay.registers handler) next) :
      RegisterMove handler (relay.moveRegister handler next)
  | upserts (registration : Registration) (registrationId)
      (phase_eq : relay.registers handler = .registering registration) :
      RegisterMove handler ((relay.upsertServer registration.serverId
          ⟨registrationId, handler, registration.decodingKey,
            registration.tlsAuthority⟩).moveRegister
          handler (.serving registration.serverId registrationId))
  | takes (serverId registrationId command rest)
      (phase_eq : relay.registers handler = .serving serverId registrationId)
      (queue_eq : relay.controls handler = command :: rest) :
      RegisterMove handler ((relay.setControl handler rest).moveRegister handler
          (.dispatching serverId registrationId command))
  | removes (serverId registrationId)
      (phase_eq : relay.registers handler = .leaving serverId registrationId) :
      RegisterMove handler
        ((relay.removeServerIfCurrent serverId registrationId).moveRegister handler
          (.returning serverId))
  | drops (serverId) (phase_eq : relay.registers handler = .returning serverId) :
      RegisterMove handler ((relay.setControl handler []).moveRegister handler (.left serverId))

inductive ConnectPasses : ConnectPhase → ConnectPhase → Prop where
  | parses (frame request) (parsed : parseConnect libraries frame = .ok request) :
      ConnectPasses (.received frame) (.fetching request)
  | malformed (frame failure) (failed : parseConnect libraries frame = .error failure) :
      ConnectPasses (.received frame) (.failed failure)
  | fetches (request entry) (found : relay.serverEntry request.serverId = some entry) :
      ConnectPasses (.fetching request) (.deciding request entry)
  | unregistered (request) (missing : relay.serverEntry request.serverId = none) :
      ConnectPasses (.fetching request) (.failed (.refused .serverNotRegistered))
  | admits (request) (entry : RegisteredServer) (now claims)
      (passed : authorizeConnect setting libraries now entry.decodingKey request = .ok claims) :
      ConnectPasses (.deciding request entry) (.opening ⟨request, entry, now, claims⟩)
  | refuses (request) (entry : RegisteredServer) (now error)
      (refused : authorizeConnect setting libraries now entry.decodingKey request =
        .error error) :
      ConnectPasses (.deciding request entry) (.failed (.refused error))
  | unreachable (admission tunnelId serverSecret)
      (dropped : relay.receiverDropped admission.entry.controlTx = true) :
      ConnectPasses (.notifying admission tunnelId serverSecret) (.withdrawing admission tunnelId)

inductive ConnectMove (handler : Nat) : Relay → Prop where
  | passes (next) (passage : ConnectPasses setting libraries relay (relay.connects handler) next) :
      ConnectMove handler (relay.moveConnect handler next)
  | opens (admission tunnelId serverSecret)
      (phase_eq : relay.connects handler = .opening admission) :
      ConnectMove handler ((relay.createTunnel tunnelId serverSecret).moveConnect handler
          (.notifying admission tunnelId serverSecret))
  | notifies (admission tunnelId serverSecret deadline ack)
      (phase_eq : relay.connects handler = .notifying admission tunnelId serverSecret)
      (receiving : relay.receiverDropped admission.entry.controlTx = false) :
      ConnectMove handler ((relay.setControl admission.entry.controlTx
          (relay.controls admission.entry.controlTx ++
            [.openTunnel tunnelId admission.request.clientId "binary" deadline
              serverSecret])).moveConnect handler (.opened admission ack))
  | withdraws (admission tunnelId)
      (phase_eq : relay.connects handler = .withdrawing admission tunnelId) :
      ConnectMove handler ((relay.removeTunnel tunnelId).moveConnect handler
          (.failed (.refused .serverUnreachable)))

inductive RelayMove : RelayAction → Relay → Prop where
  | registerArrives (handler frame) (absent : relay.registers handler = .absent) :
      RelayMove (.registerArrives handler frame) (relay.moveRegister handler (.received frame))
  | registers (handler input after) (move : RegisterMove setting libraries relay handler after) :
      RelayMove (.register handler input) after
  | connectArrives (handler frame) (absent : relay.connects handler = .absent) :
      RelayMove (.connectArrives handler frame) (relay.moveConnect handler (.received frame))
  | connects (handler input after) (move : ConnectMove setting libraries relay handler after) :
      RelayMove (.connect handler input) after
  | removes (tunnelId) : RelayMove (.removeTunnel tunnelId) (relay.removeTunnel tunnelId)

end

variable {setting : RelaySetting} {libraries : RelayLibraries} {relay after : Relay}
  {handler : Nat}

theorem stepRegister_move {input : RegisterInput}
    (moved : stepRegister setting libraries relay handler input = some after) :
    RegisterMove setting libraries relay handler after := by
  unfold stepRegister at moved
  split at moved
  case h_1 frame phase_eq =>
    split at moved
    all_goals
      rename_i accepted
      cases moved
      apply RegisterMove.passes
      rw [phase_eq]
    · exact .accepts frame _ accepted
    · exact .refuses frame _ accepted
  case h_2 registration phase_eq =>
    split at moved
    all_goals
      cases moved
      apply RegisterMove.passes
      rw [phase_eq]
    · exact .acknowledges registration
    · exact .unacknowledged registration
  case h_3 registration phase_eq =>
    cases moved
    exact .upserts registration input.registrationId phase_eq
  case h_4 serverId registrationId phase_eq =>
    split at moved
    · split at moved
      · cases moved
      · rename_i command rest queue_eq
        cases moved
        exact .takes serverId registrationId command rest phase_eq queue_eq
    · cases moved
      apply RegisterMove.passes
      rw [phase_eq]
      exact .hears serverId registrationId
    · cases moved
      apply RegisterMove.passes
      rw [phase_eq]
      exact .closes serverId registrationId
  case h_5 serverId registrationId command phase_eq =>
    split at moved
    all_goals
      cases moved
      apply RegisterMove.passes
      rw [phase_eq]
    · exact .dispatches serverId registrationId command
    · exact .breaks serverId registrationId command
  case h_6 serverId registrationId phase_eq =>
    cases moved
    exact .removes serverId registrationId phase_eq
  case h_7 serverId phase_eq =>
    cases moved
    exact .drops serverId phase_eq
  all_goals cases moved

theorem stepConnect_move {input : ConnectInput}
    (moved : stepConnect setting libraries relay handler input = some after) :
    ConnectMove setting libraries relay handler after := by
  unfold stepConnect at moved
  split at moved
  case h_1 frame phase_eq =>
    split at moved
    all_goals
      rename_i parsed
      cases moved
      apply ConnectMove.passes
      rw [phase_eq]
    · exact .parses frame _ parsed
    · exact .malformed frame _ parsed
  case h_2 request phase_eq =>
    split at moved
    all_goals
      rename_i found
      cases moved
      apply ConnectMove.passes
      rw [phase_eq]
    · exact .fetches request _ found
    · exact .unregistered request found
  case h_3 request entry phase_eq =>
    split at moved
    all_goals
      rename_i decided
      cases moved
      apply ConnectMove.passes
      rw [phase_eq]
    · exact .admits request entry input.now _ decided
    · exact .refuses request entry input.now _ decided
  case h_4 admission phase_eq =>
    cases moved
    exact .opens admission input.tunnelId _ phase_eq
  case h_5 admission tunnelId serverSecret phase_eq =>
    simp only at moved
    split at moved
    · rename_i dropped
      cases moved
      apply ConnectMove.passes
      rw [phase_eq]
      exact .unreachable admission tunnelId serverSecret dropped
    · rename_i receiving
      rw [Option.map_eq_some_iff] at moved
      obtain ⟨_, offered, moved⟩ := moved
      have queue_eq := ((offer_eq_some_iff _ _ _ _).mp offered).2
      subst moved
      rw [queue_eq]
      exact .notifies admission tunnelId serverSecret _ _ phase_eq (Bool.eq_false_iff.mpr receiving)
  case h_6 admission tunnelId phase_eq =>
    cases moved
    exact .withdraws admission tunnelId phase_eq
  all_goals cases moved

theorem stepRelay_move {action : RelayAction}
    (moved : stepRelay setting libraries relay action = some after) :
    RelayMove setting libraries relay action after := by
  cases action with
  | registerArrives handler frame =>
    rw [stepRelay] at moved
    split at moved
    · rename_i absent
      cases moved
      exact .registerArrives handler frame absent
    · cases moved
  | register handler input => exact .registers handler input after (stepRegister_move moved)
  | connectArrives handler frame =>
    rw [stepRelay] at moved
    split at moved
    · rename_i absent
      cases moved
      exact .connectArrives handler frame absent
    · cases moved
  | connect handler input => exact .connects handler input after (stepConnect_move moved)
  | removeTunnel tunnelId =>
    cases moved
    exact .removes tunnelId

end HandControl.RelayProcesses
