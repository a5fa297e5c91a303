import HandControl.EnrollmentTokens
import HandControl.PairingRequests
import HandControl.ServerConfiguration
import HandControl.VerificationCode

/-!
# The remote control service

The RPC methods as functions of the service state. Those that only serve enrolled devices share one
guard and then work on the rest of the service, which holds neither clients, tokens nor pairing
requests.
-/

namespace HandControl.RemoteControlService

open ByteEncoding EnrolledClients EnrollmentTokens PairingRequests ServerConfiguration
open VerificationCode (generateVerificationCode)

inductive StatusCode
  | invalidArgument
  | notFound
  | permissionDenied
  | resourceExhausted
  | failedPrecondition
  | internal
  | unauthenticated
  | unknown
  deriving DecidableEq

structure Status where
  code : StatusCode
  message : String
  deriving DecidableEq

structure RelayTokenRequest where
  subject : String
  relayUrl : String
  ttlNanoseconds : Int
  bindingType : String
  bindingValue : String

structure RelayInfo where
  relayUrl : String
  relayToken : String
  relayRequired : Bool
  deriving DecidableEq

structure RelayQrInfo where
  relayUrl : String
  relayToken : String
  relayRequired : Bool
  allowSelfSignedTls : Bool
  pinnedCertSha256 : Option String

structure EnrollmentQrPayload where
  ips : List String
  port : Nat
  certFingerprint : String
  enrollmentToken : String
  serverId : String
  validUntil : String
  relay : Option RelayQrInfo

/-- The requests that are served to enrolled devices only. -/
inductive DeviceRequest (Message : Type)
  | listCapabilities
  | listSessions
  | openSession (messages : List Message)
  | getConfigVersion
  | watchConfigUpdates

/-- Sessions, capabilities and configuration versions: what the guarded methods use. -/
structure RestOfService where
  State : Type
  Message : Type
  Reply : Type
  serve : DeviceRequest Message → Option String → State → State × Except Status Reply

structure Platform where
  timeRange : TimeRange
  sha256 : Bytes → Digest
  serverCertDer : Bytes
  serverId : Uuid
  issuesRelayTokens : Bool
  payloadJson : EnrollmentQrPayload → Except String String
  rfc3339 : Time → String
  hostname : String
  os : String
  version : String

structure Service (rest : RestOfService) where
  config : Config
  clientStore : ClientStore
  enrollmentManager : EnrollmentTokenManager
  pairingManager : PairingRequestManager
  remaining : rest.State

/-- What the environment supplies to one call: the connection it came on, the clock
readings in order, random values, and the outcomes of outside operations. -/
structure CallInputs where
  peerCerts : Option (List Bytes)
  clientIp : Option String
  clock : Nat → Time
  freshToken : String
  freshRequestId : String
  freshClientId : String
  nonce : Bytes
  certificateWrite : Except String Unit
  registrySave : Except String Unit
  relayToken : RelayTokenRequest → Except String String
  localIps : List String

inductive Rpc (Message : Type)
  | enroll (enrollmentToken : String) (clientCertificate : Bytes) (deviceName : String)
  | generateEnrollmentQr
  | requestPairing (deviceName deviceModel : String) (clientCertificate : Bytes)
      (verificationCode : String)
  | checkPairingStatus (pairingRequestId : String)
  | approvePairing (pairingRequestId : String)
  | listPendingPairings
  | getServerInfo
  | device (request : DeviceRequest Message)

structure EnrollResponse where
  success : Bool
  clientId : String
  errorMessage : String
  relayInfo : Option RelayInfo
  deriving DecidableEq

structure GenerateEnrollmentQrResponse where
  success : Bool
  qrPayload : String
  serverIps : List String
  serverPort : Nat
  serverCertFingerprint : String
  serverId : String
  enrollmentToken : String
  ttlSeconds : Int
  errorMessage : String
  relayInfo : Option RelayInfo
  validUntil : String
  deriving DecidableEq

structure RequestPairingResponse where
  pending : Bool
  pairingRequestId : String
  timeoutSeconds : Int
  verificationCode : String
  serverCertFingerprint : Bytes
  errorMessage : String
  verificationNonce : Bytes
  deriving DecidableEq

inductive PairingStatus
  | unspecified
  | pending
  | approved
  | rejected
  | timeout
  deriving DecidableEq

structure CheckPairingStatusResponse where
  status : PairingStatus
  clientId : String
  errorMessage : String
  relayInfo : Option RelayInfo
  deriving DecidableEq

structure ApprovePairingResponse where
  success : Bool
  clientId : String
  errorMessage : String
  deriving DecidableEq

structure PendingPairingInfo where
  requestId : String
  deviceName : String
  deviceModel : String
  verificationCode : String
  expiresAtUnix : Int
  secondsRemaining : Int
  ipAddress : String
  deriving DecidableEq

structure ServerInfoResponse where
  serverId : String
  hostname : String
  version : String
  os : String
  deriving DecidableEq

inductive Reply (rest : RestOfService)
  | enroll (response : EnrollResponse)
  | generateEnrollmentQr (response : GenerateEnrollmentQrResponse)
  | requestPairing (response : RequestPairingResponse)
  | checkPairingStatus (response : CheckPairingStatusResponse)
  | approvePairing (response : ApprovePairingResponse)
  | listPendingPairings (requests : List PendingPairingInfo)
  | serverInfo (response : ServerInfoResponse)
  | device (reply : rest.Reply)

def asI32 (value : Nat) : Int := ((value + 2 ^ 31) % 2 ^ 32 : Nat) - (2 : Int) ^ 31

def fingerprintDisplay (platform : Platform) : String :=
  "SHA256:" ++ fingerprintHex platform.sha256 platform.serverCertDer

variable {config : Config} {store : ClientStore} {peerCerts : Option (List Bytes)}

section

variable {rest : RestOfService} (platform : Platform)

def generateRelayInfo (config : Config) (inputs : CallInputs)
    (subject bindingType bindingValue : String) (ttlOverride : Option Int) :
    Option RelayInfo :=
  if !config.relay.enabled || !config.relay.includeInEnrollment then none
  else if !platform.issuesRelayTokens then none
  else
    match config.relay.relayServerUrl with
    | none => none
    | some relayUrl =>
      let configTtlSeconds := min (config.relay.relayTokenTtlHours * 3600) (2 ^ 64 - 1)
      let configTtl : Int := (max configTtlSeconds 1 : Nat) * 1000000000
      let ttl : Option Int :=
        match ttlOverride with
        | some overrideTtl => if overrideTtl = 0 then none else some (min overrideTtl configTtl)
        | none => some configTtl
      match ttl with
      | none => none
      | some ttl =>
        match inputs.relayToken ⟨subject, relayUrl, ttl, bindingType, bindingValue⟩ with
        | .ok token => some ⟨relayUrl, token, false⟩
        | .error _ => none

/-- The enrolled fingerprint behind a request. Without a required certificate an
unknown caller passes as nobody. -/
def ensureEnrolledClient (config : Config) (store : ClientStore)
    (peerCerts : Option (List Bytes)) : Except Status (Option String) :=
  let requireCert := config.security.requireClientCert
  match peerCerts with
  | some (certificate :: _) =>
    let fingerprint := fingerprintHex platform.sha256 certificate
    if store.isAuthorized fingerprint then .ok (some fingerprint)
    else if requireCert then
      .error ⟨.permissionDenied, "Client certificate is not enrolled on this server"⟩
    else .ok none
  | _ =>
    if requireCert then .error ⟨.unauthenticated, "Client TLS certificate required"⟩
    else .ok none

def addClientInputs (inputs : CallInputs) (now : Time) : ClientStore.AddClientInputs where
  clientId := inputs.freshClientId
  now := now
  certificateWrite := inputs.certificateWrite
  registrySave := inputs.registrySave

def failedEnroll (message : String) : EnrollResponse := ⟨false, "", message, none⟩

def enroll (service : Service rest) (inputs : CallInputs) (enrollmentToken : String)
    (clientCertificate : Bytes) (deviceName : String) :
    Service rest × Except Status EnrollResponse :=
  if !service.config.security.enrollment.qrCodeEnabled then
    (service, .ok (failedEnroll "QR code enrollment is disabled on this server"))
  else
    match service.enrollmentManager.validateAndConsume enrollmentToken (inputs.clock 0) with
    | (manager, .error message) =>
      ({ service with enrollmentManager := manager },
        .ok (failedEnroll s!"Invalid enrollment token: {message}"))
    | (manager, .ok ()) =>
      let consumed := { service with enrollmentManager := manager }
      if clientCertificate = [] then
        (consumed, .error ⟨.invalidArgument, "Client certificate is required"⟩)
      else
        match service.clientStore.addClient platform.sha256 clientCertificate deviceName
            inputs.clientIp (addClientInputs inputs (inputs.clock 1)) with
        | (store, .error message) =>
          ({ consumed with clientStore := store },
            .error ⟨.internal, s!"Failed to store client certificate: {message}"⟩)
        | (store, .ok clientId) =>
          ({ consumed with clientStore := store },
            .ok ⟨true, clientId, "",
              generateRelayInfo platform service.config inputs clientId "client_id"
                clientId none⟩)

def failedQr (message : String) : GenerateEnrollmentQrResponse where
  success := false
  qrPayload := ""
  serverIps := []
  serverPort := 0
  serverCertFingerprint := ""
  serverId := ""
  enrollmentToken := ""
  ttlSeconds := 0
  errorMessage := message
  relayInfo := none
  validUntil := ""

def advertisedIps (config : Config) (localIps : List String) : List String :=
  if config.server.bindAddress = "0.0.0.0" ∨ config.server.bindAddress = "::" then
    if localIps = [] then ["127.0.0.1"] else localIps
  else [config.server.bindAddress]

/-- A handler that panics gives no reply, and its connection is closed. -/
def panicked : Status := ⟨.unknown, "transport error"⟩

/-- Unlike the methods for enrolled devices, this one looks at no certificate. -/
def generateEnrollmentQr (service : Service rest) (inputs : CallInputs) :
    Service rest × Except Status GenerateEnrollmentQrResponse :=
  if !service.config.security.enrollment.qrCodeEnabled then
    (service, .ok (failedQr "QR code enrollment is disabled on this server"))
  else
    match service.enrollmentManager.generateToken platform.timeRange inputs.freshToken
        (inputs.clock 0) (inputs.clock 1) with
    | none => (service, .error panicked)
    | some (manager, token) =>
      let issued := { service with enrollmentManager := manager }
      let serverIps := advertisedIps service.config inputs.localIps
      let now := inputs.clock 2
      let enrollmentTtl := if token.expiresAt > now then some (token.expiresAt - now) else none
      let relayInfo := generateRelayInfo platform service.config inputs token.token
        "enrollment_token" token.token enrollmentTtl
      let payload : EnrollmentQrPayload := {
        ips := serverIps
        port := service.config.server.port
        certFingerprint := fingerprintDisplay platform
        enrollmentToken := token.token
        serverId := platform.serverId.text
        validUntil := platform.rfc3339 token.expiresAt
        relay := relayInfo.map fun info =>
          ⟨info.relayUrl, info.relayToken, info.relayRequired,
            service.config.relay.allowSelfSignedTls, service.config.relay.pinnedCertSha256⟩
      }
      match platform.payloadJson payload with
      | .error message => (issued, .ok (failedQr s!"Failed to serialize QR payload: {message}"))
      | .ok json =>
        (issued, .ok {
          success := true
          qrPayload := json
          serverIps := serverIps
          serverPort := service.config.server.port
          serverCertFingerprint := fingerprintDisplay platform
          serverId := platform.serverId.text
          enrollmentToken := token.token
          ttlSeconds := asI32 service.config.security.enrollmentTokenTtl
          errorMessage := ""
          relayInfo := relayInfo
          validUntil := payload.validUntil
        })

def failedPairing (message : String) : RequestPairingResponse :=
  ⟨false, "", 0, "", [], message, []⟩

def requestPairing (service : Service rest) (inputs : CallInputs)
    (deviceName deviceModel : String) (clientCertificate : Bytes) (verificationCode : String) :
    Service rest × Except Status RequestPairingResponse :=
  if !service.config.security.enrollment.approvalEnabled then
    (service, .ok (failedPairing "Approval mode enrollment is disabled on this server"))
  else if clientCertificate = [] then
    (service, .error ⟨.invalidArgument, "Client certificate is required"⟩)
  else
    let serverCode := generateVerificationCode platform.sha256 clientCertificate
      platform.serverCertDer platform.serverId inputs.nonce
    if verificationCode ≠ "" ∧ verificationCode ≠ serverCode then
      (service, .ok (failedPairing "Verification failed - possible MITM attack"))
    else
      let device : PairingRequestManager.PairingDevice := {
        deviceName := deviceName
        deviceModel := if deviceModel = "" then none else some deviceModel
        clientCertificate := clientCertificate
        verificationCode := serverCode
        ipAddress := inputs.clientIp
      }
      match service.pairingManager.createRequest platform.timeRange device
          inputs.freshRequestId (inputs.clock 0) (inputs.clock 1) with
      | none => (service, .error panicked)
      | some (manager, request) =>
        ({ service with pairingManager := manager }, .ok ⟨true, request.requestId,
            asI32 service.config.security.enrollment.approvalTimeoutSeconds, serverCode,
            (platform.sha256 platform.serverCertDer).bytes, "", inputs.nonce⟩)

def checkPairingStatus (service : Service rest) (inputs : CallInputs)
    (pairingRequestId : String) : Service rest × Except Status CheckPairingStatusResponse :=
  match service.pairingManager.getRequest pairingRequestId (inputs.clock 0) with
  | (manager, none) =>
    ({ service with pairingManager := manager },
      .ok ⟨.unspecified, "", "Pairing request not found", none⟩)
  | (manager, some request) =>
    let answer : PairingStatus × String × String :=
      match request.status with
      | .pending =>
        if request.isExpired (inputs.clock 1) then (.timeout, "", "Pairing request timed out")
        else (.pending, "", "")
      | .approved => (.approved, request.clientId.getD "", "")
      | .rejected => (.rejected, "", "Pairing request rejected by user")
      | .timeout => (.timeout, "", "Pairing request timed out")
    let relayInfo :=
      if answer.1 = .approved ∧ answer.2.1 ≠ "" then
        generateRelayInfo platform service.config inputs answer.2.1 "client_id" answer.2.1 none
      else none
    ({ service with pairingManager := manager }, .ok ⟨answer.1, answer.2.1, answer.2.2, relayInfo⟩)

def approvePairing (service : Service rest) (inputs : CallInputs) (pairingRequestId : String) :
    Service rest × Except Status ApprovePairingResponse :=
  match ensureEnrolledClient platform service.config service.clientStore inputs.peerCerts with
  | .error status => (service, .error status)
  | .ok _ =>
    match approvePairingRequest platform.sha256 pairingRequestId id service.pairingManager
        service.clientStore ⟨inputs.clock 0, inputs.clock 1, inputs.clock 3⟩
        (addClientInputs inputs (inputs.clock 2)) with
    | (manager, store, .ok clientId) =>
      ({ service with pairingManager := manager, clientStore := store },
        .ok ⟨true, clientId, ""⟩)
    | (manager, store, .error message) =>
      ({ service with pairingManager := manager, clientStore := store },
        .ok ⟨false, "", message⟩)

def pendingPairingInfo (now : Time) (request : PairingRequest) : PendingPairingInfo where
  requestId := request.requestId
  deviceName := request.deviceName
  deviceModel := request.deviceModel.getD ""
  verificationCode := request.verificationCode
  expiresAtUnix := request.expiresAt / 1000000000
  secondsRemaining := max ((request.expiresAt - now).tdiv 1000000000) 0
  ipAddress := request.ipAddress.getD ""

def listPendingPairings (service : Service rest) (inputs : CallInputs) :
    Service rest × Except Status (List PendingPairingInfo) :=
  match ensureEnrolledClient platform service.config service.clientStore inputs.peerCerts with
  | .error status => (service, .error status)
  | .ok _ =>
    let (manager, pending) :=
      service.pairingManager.listPending (inputs.clock 0) (inputs.clock 1)
    ({ service with pairingManager := manager },
      .ok (pending.map (pendingPairingInfo (inputs.clock 2))))

def getServerInfo : ServerInfoResponse where
  serverId := platform.serverId.text
  hostname := platform.hostname
  version := platform.version
  os := platform.os

def serveDevice (service : Service rest) (inputs : CallInputs)
    (request : DeviceRequest rest.Message) : Service rest × Except Status rest.Reply :=
  match ensureEnrolledClient platform service.config service.clientStore inputs.peerCerts with
  | .error status => (service, .error status)
  | .ok fingerprint =>
    let (remaining, reply) := rest.serve request fingerprint service.remaining
    ({ service with remaining := remaining }, reply)

def handle (service : Service rest) (inputs : CallInputs) (rpc : Rpc rest.Message) :
    Service rest × Except Status (Reply rest) :=
  match rpc with
  | .enroll enrollmentToken clientCertificate deviceName =>
    let (after, reply) :=
      enroll platform service inputs enrollmentToken clientCertificate deviceName
    (after, reply.map .enroll)
  | .generateEnrollmentQr =>
    let (after, reply) := generateEnrollmentQr platform service inputs
    (after, reply.map .generateEnrollmentQr)
  | .requestPairing deviceName deviceModel clientCertificate verificationCode =>
    let (after, reply) := requestPairing platform service inputs deviceName deviceModel
      clientCertificate verificationCode
    (after, reply.map .requestPairing)
  | .checkPairingStatus pairingRequestId =>
    let (after, reply) := checkPairingStatus platform service inputs pairingRequestId
    (after, reply.map .checkPairingStatus)
  | .approvePairing pairingRequestId =>
    let (after, reply) := approvePairing platform service inputs pairingRequestId
    (after, reply.map .approvePairing)
  | .listPendingPairings =>
    let (after, reply) := listPendingPairings platform service inputs
    (after, reply.map .listPendingPairings)
  | .getServerInfo => (service, .ok (.serverInfo (getServerInfo platform)))
  | .device request =>
    let (after, reply) := serveDevice platform service inputs request
    (after, reply.map .device)

theorem ensureEnrolledClient_ok_some {platform : Platform} {fingerprint : String} :
    ensureEnrolledClient platform config store peerCerts = .ok (some fingerprint) ↔
      ∃ certificate others, peerCerts = some (certificate :: others) ∧
        fingerprintHex platform.sha256 certificate = fingerprint ∧
          store.isAuthorized fingerprint = true := by
  simp only [ensureEnrolledClient]
  split
  · rename_i certificate others
    constructor
    · intro passed
      split_ifs at passed with authorized
      · cases passed
        exact ⟨certificate, others, rfl, rfl, authorized⟩
      · cases passed
    · intro ⟨presented, remaining, shape, hashed, authorized⟩
      cases shape
      rw [← hashed] at authorized ⊢
      rw [if_pos authorized]
  · rename_i absent
    constructor
    · intro passed
      split_ifs at passed
      cases passed
    · intro ⟨presented, remaining, shape, _⟩
      exact absurd shape (absent presented remaining)

theorem ensureEnrolledClient_rejects {platform : Platform}
    (required : config.security.requireClientCert = true)
    (outsider : ∀ certificate others, peerCerts = some (certificate :: others) →
      store.isAuthorized (fingerprintHex platform.sha256 certificate) = false) :
    ∃ status, ensureEnrolledClient platform config store peerCerts = .error status := by
  simp only [ensureEnrolledClient]
  split
  · rename_i certificate others
    have unknown := outsider certificate others rfl
    rw [unknown, required]
    exact ⟨_, rfl⟩
  · rw [required]
    exact ⟨_, rfl⟩

section

variable (service : Service rest) (inputs : CallInputs)

include service inputs

theorem requestPairing_frame (deviceName deviceModel : String) (clientCertificate : Bytes)
    (verificationCode : String) :
    ∃ manager, (requestPairing platform service inputs deviceName deviceModel
      clientCertificate verificationCode).1 = { service with pairingManager := manager } := by
  simp only [requestPairing]
  split
  · exact ⟨service.pairingManager, rfl⟩
  · split
    · exact ⟨service.pairingManager, rfl⟩
    · split
      · exact ⟨service.pairingManager, rfl⟩
      · split
        · exact ⟨service.pairingManager, rfl⟩
        · exact ⟨_, rfl⟩

theorem checkPairingStatus_frame (pairingRequestId : String) :
    ∃ manager, (checkPairingStatus platform service inputs pairingRequestId).1 =
      { service with pairingManager := manager } := by
  simp only [checkPairingStatus]
  split
  · exact ⟨_, rfl⟩
  · exact ⟨_, rfl⟩

theorem generateEnrollmentQr_disabled
    (disabled : service.config.security.enrollment.qrCodeEnabled = false) :
    (generateEnrollmentQr platform service inputs).1 = service := by
  simp [generateEnrollmentQr, disabled]

/-- The store changes only for a token that is consumed. -/
theorem enroll_rejected (enrollmentToken : String) (clientCertificate : Bytes)
    (deviceName message : String)
    (rejected : (service.enrollmentManager.validateAndConsume enrollmentToken (inputs.clock 0)).2 =
      .error message) :
    (enroll platform service inputs enrollmentToken clientCertificate deviceName).1 = service ∨
      (enroll platform service inputs enrollmentToken clientCertificate deviceName).1 =
        { service with enrollmentManager := (service.enrollmentManager.validateAndConsume
            enrollmentToken (inputs.clock 0)).1 } := by
  simp only [enroll]
  split
  · exact Or.inl rfl
  · apply Or.inr
    rcases consumed : service.enrollmentManager.validateAndConsume enrollmentToken
      (inputs.clock 0) with ⟨manager, outcome⟩
    rw [consumed] at rejected
    simp only at rejected
    subst rejected
    rfl

end

end

def noFurtherService : RestOfService where
  State := Unit
  Message := Unit
  Reply := Unit
  serve := fun _ _ state => (state, .ok ())

/-- A stand-in for the hash: the first bytes, filled up with zeros. -/
def paddingHash (bytes : Bytes) : Digest where
  bytes := (bytes ++ List.replicate 32 0).take 32
  size_eq := padded_size bytes

/-- A file that asks for client certificates and leaves the enrollment as it is by default. -/
def certifiedDocument : Document where
  server := ⟨none, none, none, none⟩
  security := ⟨none, none, none, none, some true, some ⟨none, none, none, none⟩⟩
  relay := none
  capabilities := none

def smallPlatform : Platform where
  timeRange := .sample
  sha256 := paddingHash
  serverCertDer := [9]
  serverId := ⟨List.replicate 16 0, sixteenZeros_size⟩
  issuesRelayTokens := false
  payloadJson := fun payload => .ok payload.enrollmentToken
  rfc3339 := fun _ => ""
  hostname := "host"
  os := "linux"
  version := "0.1.0"

end HandControl.RemoteControlService
