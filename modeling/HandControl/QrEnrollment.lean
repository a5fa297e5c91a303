import HandControl.ConfigValidation
import HandControl.OutsiderEnrollment
import HandControl.PinnedConnection
import HandControl.RelayTokens

/-!
# Enrollment with a QR code

The Rust client enrolls with the token of a QR code, directly or through the relay. It stores the
relay credentials of the reply, or those of the code where the reply has none.
-/

namespace HandControl.QrEnrollment

open ByteEncoding EnrolledClients PinnedConnection RelayAccess RelayAuthorization RelayTokens
open RemoteControlService StandardText
open ConfigValidation (validateServerConfig)
open OutsiderEnrollment (anonymousInputs newService)

/-- The client reads the fields that the server writes. -/
abbrev RawQrRelayInfo := RelayQrInfo

structure RawQrPayload where
  serverIp : Option String
  serverIps : Option (List String)
  serverPort : Option Nat
  serverCertFingerprint : String
  serverId : String
  enrollmentToken : String
  hostname : Option String
  relay : Option RawQrRelayInfo
  validUntil : Option String

def RawQrPayload.addresses (raw : RawQrPayload) : List String :=
  match raw.serverIps with
  | some (first :: rest) => first :: rest
  | _ => raw.serverIp.toList ++ raw.hostname.toList

def RawQrPayload.port (raw : RawQrPayload) : Nat := raw.serverPort.getD 50051

def relayFromQr (info : RawQrRelayInfo) : RegistryRelayInfo where
  relayUrl := info.relayUrl
  relayToken := info.relayToken
  relayRequired := info.relayRequired
  allowSelfSignedTls := info.allowSelfSignedTls
  pinnedCertSha256 := info.pinnedCertSha256

/-- The message has no field for the certificate of the relay. -/
def relayFromProto (info : RelayInfo) : RegistryRelayInfo where
  relayUrl := info.relayUrl
  relayToken := info.relayToken
  relayRequired := info.relayRequired
  allowSelfSignedTls := false
  pinnedCertSha256 := none

/-- The first entry of the server is replaced. -/
def upsert (entry : ServerRegistryEntry) : List ServerRegistryEntry → List ServerRegistryEntry
  | [] => [entry]
  | existing :: rest =>
    if existing.id = entry.id then entry :: rest else existing :: upsert entry rest

def savedEntry (entry : ServerRegistryEntry) : ServerRegistryEntry :=
  { entry with ip := entry.ip.or entry.addresses.head? }

inductive EnrollRoute where
  | direct (address : String)
  | relay (info : RegistryRelayInfo) (serverId clientId : Uuid)

structure EnrollRequest where
  enrollmentToken : String
  clientCertificate : Bytes
  deviceName : String

structure QrEnrollmentInput where
  payload : String
  overrideServerId : Option Uuid
  deviceName : Option String
  deviceModel : Option String

/-- What the client uses of libraries, of its files and of the network. `answer` connects to a
server with a port and a fingerprint and calls Enroll. -/
structure EnrollmentWorld where
  parsePayload : String → Except String RawQrPayload
  parseRfc3339 : String → Except String Time
  parseUuid : String → Option Uuid
  parseUuid_text : ∀ uuid : Uuid, parseUuid uuid.text = some uuid
  resolveDeviceName : Option String → String
  certificatePaths : Uuid → Except String Unit
  generateCertificate : String → Option String → Except String Bytes
  answer : EnrollRoute → Nat → String → EnrollRequest → Except String EnrollResponse
  writeCredentials : Except String Unit
  persistFingerprint : Except String Unit
  loadRegistry : Except String (List ServerRegistryEntry)
  saveRegistry : Except String Unit

structure Accepted where
  clientId : Option Uuid
  relay : Option RegistryRelayInfo
  reply : EnrollResponse

/-- What the call returns, with the registry that it saved and the reply that it accepted. -/
structure QrEnrollmentOutcome where
  serverId : Uuid
  clientId : Option Uuid
  addresses : List String
  port : Nat
  relay : Option RegistryRelayInfo
  tokenExpiry : Option Time
  saved : List ServerRegistryEntry
  reply : EnrollResponse

section

variable (world : EnrollmentWorld)

def completeEnrollmentRequest (answer : Except String EnrollResponse) : Except String Accepted :=
  match answer with
  | .error message => .error message
  | .ok response =>
    let relay := response.relayInfo.map relayFromProto
    if response.success = false then
      if response.errorMessage ≠ "" then .error s!"Enrollment failed: {response.errorMessage}"
      else .error "Enrollment failed (unspecified error)"
    else if response.clientId = "" then .ok ⟨none, relay, response⟩
    else
      match world.parseUuid response.clientId with
      | none => .error "Invalid client_id returned by server"
      | some clientId => .ok ⟨some clientId, relay, response⟩

def attemptDirect (raw : RawQrPayload) (request : EnrollRequest) :
    List String → List String → Except (List String) (String × Accepted)
  | [], errors => .error errors
  | address :: rest, errors =>
    match completeEnrollmentRequest world
        (world.answer (.direct address) raw.port raw.serverCertFingerprint request) with
    | .ok accepted => .ok (address, accepted)
    | .error message => attemptDirect raw request rest (errors ++ [s!"direct {address}: {message}"])

def attemptViaRelay (raw : RawQrPayload) (request : EnrollRequest) (serverId : Uuid)
    (info : RegistryRelayInfo) : Except String Accepted :=
  match world.parseUuid raw.enrollmentToken with
  | none => .error "Enrollment token must be a UUID when using relay enrollment"
  | some clientUuid =>
    completeEnrollmentRequest world (world.answer (.relay info serverId clientUuid) raw.port
      raw.serverCertFingerprint request)

def finalizeQrEnrollment (raw : RawQrPayload) (serverId : Uuid) (addresses : List String)
    (tokenExpiry : Option Time) (accepted : Accepted) (newRelay : Option RegistryRelayInfo)
    (connectedAddress : Option String) : Except String QrEnrollmentOutcome := do
  let relay := newRelay.or (raw.relay.map relayFromQr)
  world.writeCredentials
  world.persistFingerprint
  let entries ← world.loadRegistry
  let entry : ServerRegistryEntry :=
    { id := serverId
      hostname := raw.hostname
      ip := (connectedAddress.map trim).filter fun address => address ≠ ""
      port := some raw.port
      clientId := accepted.clientId
      addresses := addresses
      relay := relay }
  world.saveRegistry
  return {
    serverId := serverId
    clientId := accepted.clientId
    addresses := addresses
    port := raw.port
    relay := relay
    tokenExpiry := tokenExpiry
    saved := (upsert entry entries).map savedEntry
    reply := accepted.reply }

def attemptEnrollment (raw : RawQrPayload) (serverId : Uuid) (addresses : List String)
    (tokenExpiry : Option Time) (request : EnrollRequest) : Except String QrEnrollmentOutcome :=
  let failed (errors : List String) : Except String QrEnrollmentOutcome :=
    let joined := "\n".intercalate errors
    .error s!"All enrollment attempts failed for server {serverId.text}:\n{joined}"
  match attemptDirect world raw request addresses [] with
  | .ok (address, accepted) =>
    finalizeQrEnrollment world raw serverId addresses tokenExpiry accepted accepted.relay
      (some address)
  | .error errors =>
    match raw.relay.map relayFromQr with
    | none => failed errors
    | some details =>
      match attemptViaRelay world raw request serverId details with
      | .ok accepted =>
        finalizeQrEnrollment world raw serverId addresses tokenExpiry accepted
          (accepted.relay.or (some details)) addresses.head?
      | .error message => failed (errors ++ [s!"relay: {message}"])

def tokenExpiry (raw : RawQrPayload) : Except String (Option Time) :=
  match raw.validUntil with
  | none => .ok none
  | some validUntil =>
    (context "Invalid valid_until timestamp in QR payload" (world.parseRfc3339 validUntil)).map some

def enrolledServerId (input : QrEnrollmentInput) (raw : RawQrPayload) : Except String Uuid :=
  match input.overrideServerId, world.parseUuid raw.serverId with
  | some id, _ => .ok id
  | none, some id => .ok id
  | none, none => .error "Invalid server_id in payload"

def enrollViaQr (input : QrEnrollmentInput) : Except String QrEnrollmentOutcome := do
  let raw ← context "Failed to parse QR enrollment payload JSON" (world.parsePayload input.payload)
  let tokenExpiry ← tokenExpiry world raw
  let serverId ← enrolledServerId world input raw
  let addresses := raw.addresses.foldl (fun addresses candidate =>
    if candidate ∈ addresses then addresses else addresses ++ [candidate]) []
  if addresses = [] then throw "Enrollment payload did not include any server addresses"
  else
    let deviceName := world.resolveDeviceName input.deviceName
    world.certificatePaths serverId
    let certificate ← world.generateCertificate deviceName input.deviceModel
    attemptEnrollment world raw serverId addresses tokenExpiry
      ⟨raw.enrollmentToken, certificate, deviceName⟩

end

theorem ok_of_map {Error First Result : Type} {first : Except Error First} {change : First → Result}
    {result : Result} (mapped : first.map change = .ok result) :
    ∃ value, first = .ok value ∧ change value = result := by
  cases first with
  | error => cases mapped
  | ok value => exact ⟨value, rfl, Except.ok.inj mapped⟩

theorem uuid_text_ne_empty (uuid : Uuid) : uuid.text ≠ "" := by
  intro empty
  have split := congrArg String.toList empty
  simp [Uuid.text, Uuid.groups, List.intercalate] at split

theorem findById_upsert (entry : ServerRegistryEntry) (entries : List ServerRegistryEntry)
    (id : Uuid) :
    findById (upsert entry entries) id =
      if entry.id = id then some entry else findById entries id := by
  induction entries with
  | nil => simp [upsert, findById]
  | cons existing rest induction =>
    simp only [findById, upsert] at induction ⊢
    split_ifs with same other <;> simp_all [List.find?_cons]

def Stored (raw : RawQrPayload) (accepted : Accepted) (outcome : QrEnrollmentOutcome) : Prop :=
  outcome.reply = accepted.reply ∧
    ∃ entry, findById outcome.saved outcome.serverId = some entry ∧
      entry.clientId = accepted.clientId ∧
      entry.relay = accepted.relay.or (raw.relay.map relayFromQr)

variable {serverId : Uuid} {inputs : CallInputs} {rest : RestOfService} {pin : Option String}
variable {enabled : Bool}

section

variable {world : EnrollmentWorld} {raw : RawQrPayload} {request : EnrollRequest}
  {accepted : Accepted} {outcome : QrEnrollmentOutcome}

theorem finalizeQrEnrollment_stored {addresses : List String} {tokenExpiry : Option Time}
    {newRelay : Option RegistryRelayInfo} {connectedAddress : Option String}
    (merged : newRelay.or (raw.relay.map relayFromQr) =
      accepted.relay.or (raw.relay.map relayFromQr))
    (finalized : finalizeQrEnrollment world raw serverId addresses tokenExpiry accepted newRelay
      connectedAddress = .ok outcome) : Stored raw accepted outcome := by
  unfold finalizeQrEnrollment at finalized
  obtain ⟨_, _, finalized⟩ := bind_eq_ok_iff.mp finalized
  obtain ⟨_, _, finalized⟩ := bind_eq_ok_iff.mp finalized
  obtain ⟨entries, _, finalized⟩ := bind_eq_ok_iff.mp finalized
  obtain ⟨_, _, finalized⟩ := bind_eq_ok_iff.mp finalized
  cases finalized
  have found (entry) (same : entry.id = serverId) := congrArg (Option.map savedEntry)
    ((findById_upsert entry entries serverId).trans (if_pos same))
  exact ⟨rfl, _, List.find?_map.trans (found _ rfl), rfl, merged⟩

theorem attemptDirect_ok {address : String} {addresses errors : List String}
    (attempted : attemptDirect world raw request addresses errors = .ok (address, accepted)) :
    completeEnrollmentRequest world
      (world.answer (.direct address) raw.port raw.serverCertFingerprint request) =
        .ok accepted := by
  induction addresses generalizing errors with
  | nil => cases attempted
  | cons first rest induction =>
    rw [attemptDirect] at attempted
    split at attempted
    · rename_i completed
      cases attempted
      exact completed
    · exact induction attempted

/-- Direct or through the relay, the reply's record wins over that of the code. -/
theorem attemptEnrollment_stored {addresses : List String} {tokenExpiry : Option Time}
    (enrolled : attemptEnrollment world raw serverId addresses tokenExpiry request = .ok outcome) :
    ∃ route accepted, completeEnrollmentRequest world
        (world.answer route raw.port raw.serverCertFingerprint request) = .ok accepted ∧
      Stored raw accepted outcome := by
  unfold attemptEnrollment at enrolled
  split at enrolled
  · rename_i address accepted attempted
    exact ⟨.direct address, accepted, attemptDirect_ok attempted,
      finalizeQrEnrollment_stored rfl enrolled⟩
  · split at enrolled
    · cases enrolled
    · rename_i details_eq
      split at enrolled
      · rename_i accepted attempted
        unfold attemptViaRelay at attempted
        split at attempted
        · cases attempted
        · refine ⟨_, accepted, attempted, finalizeQrEnrollment_stored ?_ enrolled⟩
          rw [details_eq, Option.or_assoc]
          rfl
      · cases enrolled

theorem enrollViaQr_stored {input : QrEnrollmentInput}
    (parsed : world.parsePayload input.payload = .ok raw)
    (enrolled : enrollViaQr world input = .ok outcome) :
    ∃ route request accepted, request.enrollmentToken = raw.enrollmentToken ∧
      completeEnrollmentRequest world
        (world.answer route raw.port raw.serverCertFingerprint request) = .ok accepted ∧
      Stored raw accepted outcome := by
  unfold enrollViaQr at enrolled
  obtain ⟨_, read_eq, enrolled⟩ := bind_eq_ok_iff.mp enrolled
  rw [parsed] at read_eq
  cases read_eq
  obtain ⟨_, _, enrolled⟩ := bind_eq_ok_iff.mp enrolled
  obtain ⟨_, _, enrolled⟩ := bind_eq_ok_iff.mp enrolled
  dsimp only at enrolled
  split at enrolled
  · cases enrolled
  · obtain ⟨_, _, enrolled⟩ := bind_eq_ok_iff.mp enrolled
    obtain ⟨_, _, enrolled⟩ := bind_eq_ok_iff.mp enrolled
    obtain ⟨route, accepted, completed, stored⟩ := attemptEnrollment_stored enrolled
    exact ⟨route, _, accepted, rfl, completed, stored⟩

theorem completeEnrollmentRequest_ok {answer : Except String EnrollResponse}
    (completed : completeEnrollmentRequest world answer = .ok accepted) :
    answer = .ok accepted.reply ∧ accepted.reply.success = true ∧
      accepted.relay = accepted.reply.relayInfo.map relayFromProto ∧
      ∀ uuid : Uuid, accepted.reply.clientId = uuid.text → accepted.clientId = some uuid := by
  unfold completeEnrollmentRequest at completed
  split at completed
  · cases completed
  · rename_i response
    dsimp only at completed
    by_cases failed : response.success = false
    · rw [if_pos failed] at completed
      split at completed <;> cases completed
    · rw [if_neg failed] at completed
      have success : response.success = true := by simpa using failed
      split at completed
      · rename_i missing
        cases completed
        refine ⟨rfl, success, rfl, ?_⟩
        intro uuid same
        exact absurd (same.symm.trans missing) (uuid_text_ne_empty uuid)
      · split at completed
        · cases completed
        · rename_i known
          cases completed
          refine ⟨rfl, success, rfl, ?_⟩
          intro uuid same
          dsimp only at same
          rw [same, world.parseUuid_text] at known
          exact known.symm

end

def rawPayload (payload : EnrollmentQrPayload) : RawQrPayload where
  serverIp := none
  serverIps := some payload.ips
  serverPort := some payload.port
  serverCertFingerprint := payload.certFingerprint
  serverId := payload.serverId
  enrollmentToken := payload.enrollmentToken
  hostname := none
  relay := payload.relay
  validUntil := some payload.validUntil

section

variable {subjectOf : String → Option String} {platform : Platform}

/-- The relay tokens that a call gets from the issuer name their subject. -/
def NamesSubject (subjectOf : String → Option String) (inputs : CallInputs) : Prop :=
  ∀ request token, inputs.relayToken request = .ok token → subjectOf token = some request.subject

/-- The tokens of the server's issuer name their subject, which is read from the claims. -/
theorem namesSubject_of_issuer (libraries : TokenLibraries) (issuer : TokenIssuer)
    (inputs : CallInputs) (clock : Int)
    (issues : inputs.relayToken = fun request =>
      issuer.generateRelayToken libraries request clock) :
    NamesSubject (fun token => (libraries.decodeToken 0 (libraries.verifyingKey issuer.signingKey)
      token).map RelayClaims.sub) inputs := by
  intro request token issued
  simp only [issues, TokenIssuer.generateRelayToken] at issued
  split at issued
  · cases issued
  · rename_i claims_eq
    simp only [TokenIssuer.relayClaims] at claims_eq
    split_ifs at claims_eq with _ _ positive
    cases claims_eq
    have decoded := libraries.decodeToken_encodeToken issuer.signingKey _ token 0 issued
      (Nat.add_pos_right _ (Nat.pos_of_ne_zero positive))
    simp only [decoded, IssuedClaims.forRelay, Option.map_some]

theorem generateRelayInfo_subject {config : ServerConfiguration.Config}
    {subject bindingType bindingValue : String} {ttlOverride : Option Int} {info : RelayInfo}
    (names : NamesSubject subjectOf inputs)
    (generated : generateRelayInfo platform config inputs subject bindingType bindingValue
      ttlOverride = some info) : subjectOf info.relayToken = some subject := by
  unfold generateRelayInfo at generated
  split_ifs at generated
  split at generated
  · cases generated
  · dsimp only at generated
    split at generated
    · cases generated
    · split at generated
      · rename_i issued
        cases generated
        exact names _ _ issued
      · cases generated

/-- A reply of the server's `enroll` method. The new client id is a random UUID, and is not the
enrollment token. -/
def AnsweredBy (subjectOf : String → Option String) (platform : Platform) (request : EnrollRequest)
    (response : EnrollResponse) : Prop :=
  ∃ (rest : RestOfService) (service : Service rest) (inputs : CallInputs),
    NamesSubject subjectOf inputs ∧ (∃ id : Uuid, inputs.freshClientId = id.text) ∧
      inputs.freshClientId ≠ request.enrollmentToken ∧
      (enroll platform service inputs request.enrollmentToken request.clientCertificate
        request.deviceName).2 = .ok response

theorem enroll_ok {service : Service rest} {token deviceName : String} {certificate : Bytes}
    {response : EnrollResponse}
    (answered : (enroll platform service inputs token certificate deviceName).2 = .ok response)
    (success : response.success = true) :
    response.clientId = inputs.freshClientId ∧
      response.relayInfo = generateRelayInfo platform service.config inputs inputs.freshClientId
        "client_id" inputs.freshClientId none := by
  unfold enroll at answered
  split at answered
  · cases answered
    cases success
  · split at answered
    · cases answered
      cases success
    · dsimp only at answered
      split at answered
      · cases answered
      · split at answered
        · cases answered
        · rename_i clientId added
          cases answered
          have id_eq : clientId = inputs.freshClientId := by
            unfold ClientStore.addClient at added
            split at added
            · cases added
            · dsimp only at added
              split at added
              · cases added
              · cases added
                rfl
          exact ⟨id_eq, by rw [id_eq]⟩

/-- The server's entry keeps what the code says of the certificate of its relay, and has a token
of the client. -/
def RelayUsable (subjectOf : String → Option String) (info : RawQrRelayInfo)
    (outcome : QrEnrollmentOutcome) : Prop :=
  ∃ entry stored clientId, findById outcome.saved outcome.serverId = some entry ∧
    entry.relay = some stored ∧ entry.clientId = some clientId ∧
    (stored.relayUrl = info.relayUrl →
      stored.allowSelfSignedTls = info.allowSelfSignedTls ∧
        stored.pinnedCertSha256 = info.pinnedCertSha256) ∧
    subjectOf stored.relayToken = some clientId.text

theorem generateEnrollmentQr_ok {service : Service rest} {code : GenerateEnrollmentQrResponse}
    (generated : (generateEnrollmentQr platform service inputs).2 = .ok code)
    (success : code.success = true) :
    ∃ payload bindingType ttl, platform.payloadJson payload = .ok code.qrPayload ∧
      payload.relay = (generateRelayInfo platform service.config inputs payload.enrollmentToken
        bindingType payload.enrollmentToken ttl).map fun info =>
          ⟨info.relayUrl, info.relayToken, info.relayRequired,
            service.config.relay.allowSelfSignedTls, service.config.relay.pinnedCertSha256⟩ := by
  unfold generateEnrollmentQr at generated
  split at generated
  · cases generated
    cases success
  · split at generated
    · cases generated
    · dsimp only at generated
      split at generated
      · cases generated
        cases success
      · rename_i encoded
        cases generated
        exact ⟨_, _, _, encoded, rfl⟩

end

/-- After an enrollment with a code of the server, the stored relay credentials are usable exactly
if the reply had credentials, and they are for another relay or the code says nothing of the
relay's certificate. -/
theorem stored_relay_usable_iff (subjectOf : String → Option String) (platform : Platform)
    (world : EnrollmentWorld)
    (reads : ∀ payload json, platform.payloadJson payload = .ok json →
      world.parsePayload json = .ok (rawPayload payload))
    {rest : RestOfService} (service : Service rest) (inputs : CallInputs)
    (names : NamesSubject subjectOf inputs) (code : GenerateEnrollmentQrResponse)
    (generated : (generateEnrollmentQr platform service inputs).2 = .ok code)
    (success : code.success = true)
    (input : QrEnrollmentInput) (scanned : input.payload = code.qrPayload)
    (raw : RawQrPayload) (parsed : world.parsePayload input.payload = .ok raw)
    (served : ∀ route port fingerprint request response,
      request.enrollmentToken = raw.enrollmentToken →
        world.answer route port fingerprint request = .ok response →
          AnsweredBy subjectOf platform request response)
    (info : RawQrRelayInfo) (relay_eq : raw.relay = some info)
    (outcome : QrEnrollmentOutcome) (enrolled : enrollViaQr world input = .ok outcome) :
    RelayUsable subjectOf info outcome ↔
      ∃ relayInfo, outcome.reply.relayInfo = some relayInfo ∧
        (relayInfo.relayUrl = info.relayUrl →
          info.allowSelfSignedTls = false ∧ info.pinnedCertSha256 = none) := by
  obtain ⟨payload, _, _, encoded, payload_relay⟩ :=
    generateEnrollmentQr_ok generated success
  have raw_eq : raw = rawPayload payload := by
    rw [scanned, reads payload _ encoded] at parsed
    exact (Except.ok.inj parsed).symm
  obtain ⟨_, _, accepted, token_eq, completed, reply_eq, entry, found, client_eq,
    stored_eq⟩ := enrollViaQr_stored parsed enrolled
  obtain ⟨answered, accepted_success, accepted_relay, accepted_client⟩ :=
    completeEnrollmentRequest_ok completed
  obtain ⟨_, _, _, call_names, ⟨id, id_eq⟩, not_token, replied⟩ :=
    served _ _ _ _ _ token_eq answered
  obtain ⟨reply_client, reply_relay⟩ := enroll_ok replied accepted_success
  have clientId_eq : entry.clientId = some id :=
    client_eq.trans (accepted_client id (reply_client.trans id_eq))
  rw [accepted_relay, relay_eq] at stored_eq
  rw [reply_eq]
  cases given : accepted.reply.relayInfo with
  | none =>
    -- The token of the code stays, and its subject is the enrollment token.
    rw [given] at stored_eq
    have code_subject : subjectOf info.relayToken = some raw.enrollmentToken := by
      rw [raw_eq] at relay_eq ⊢
      rw [rawPayload, payload_relay, Option.map_eq_some_iff] at relay_eq
      obtain ⟨_, issued_eq, rfl⟩ := relay_eq
      exact generateRelayInfo_subject names issued_eq
    constructor
    · rintro ⟨other, stored, clientId, other_eq, stored_other, client_other, _, subject_eq⟩
      cases found.symm.trans other_eq
      cases stored_eq.symm.trans stored_other
      cases clientId_eq.symm.trans client_other
      have same := Option.some.inj (code_subject.symm.trans subject_eq)
      exact absurd ((id_eq.trans same.symm).trans token_eq.symm) not_token
    · rintro ⟨_, impossible, _⟩
      cases impossible
  | some relayInfo =>
    rw [given] at stored_eq reply_relay
    have subject_eq : subjectOf relayInfo.relayToken = some id.text := by
      rw [← id_eq]
      exact generateRelayInfo_subject call_names reply_relay.symm
    constructor
    · rintro ⟨other, stored, clientId, other_eq, stored_other, _, kept, _⟩
      cases found.symm.trans other_eq
      cases stored_eq.symm.trans stored_other
      refine ⟨relayInfo, rfl, fun same => ?_⟩
      obtain ⟨allowed, pinned⟩ := kept same
      exact ⟨allowed.symm, pinned.symm⟩
    · rintro ⟨_, same_info, kept⟩
      cases same_info
      refine ⟨entry, _, id, found, stored_eq, clientId_eq, fun same => ?_, subject_eq⟩
      obtain ⟨allowed, pinned⟩ := kept same
      exact ⟨allowed.symm, pinned.symm⟩

deriving instance DecidableEq for RelayQrInfo, EnrollmentQrPayload, RegistryRelayInfo

def codeRelay (pin : Option String) : RelayQrInfo :=
  ⟨"wss://relay", (demoUuid 1).text, false, pin.isSome, pin⟩

def samplePin : String := String.ofList (List.replicate 64 'a')

def codePayload (pin : Option String) : EnrollmentQrPayload where
  ips := ["10.0.0.2"]
  port := 50051
  certFingerprint := fingerprintDisplay smallPlatform
  enrollmentToken := (demoUuid 1).text
  serverId := (demoUuid 0).text
  validUntil := ""
  relay := some (codeRelay pin)

def codePlatform (pin : Option String) : Platform :=
  { smallPlatform with
    issuesRelayTokens := true
    payloadJson := fun payload => if payload = codePayload pin then .ok "code" else .error "" }

/-- A pin needs a relay with a self-signed certificate, and only an enabled relay is handed out. -/
def relayService (pin : Option String) (enabled : Bool) : Service noFurtherService :=
  { newService.service with
    config := { newService.service.config with
      server := ⟨50051, "10.0.0.2", "handcontrol", none⟩
      relay := { newService.service.config.relay with
        enabled := enabled
        includeInEnrollment := enabled
        relayServerUrl := some "wss://relay"
        relayAuthSecret := some "secret"
        allowSelfSignedTls := pin.isSome
        pinnedCertSha256 := pin } } }

/-- A relay token is the text of its subject. -/
def codeInputs : CallInputs :=
  { anonymousInputs with
    freshToken := (demoUuid 1).text
    freshClientId := (demoUuid 2).text
    relayToken := fun request => .ok request.subject }

/-- The server that made the code answers, with its relay enabled or disabled since. -/
def codeAnswer (pin : Option String) (enabled : Bool) (request : EnrollRequest) :
    Except Status EnrollResponse :=
  let manager :=
    (generateEnrollmentQr (codePlatform pin) (relayService pin true) codeInputs).1.enrollmentManager
  (enroll (codePlatform pin) { relayService pin enabled with enrollmentManager := manager }
    codeInputs request.enrollmentToken request.clientCertificate request.deviceName).2

def codeWorld (pin : Option String) (enabled : Bool) : EnrollmentWorld where
  parsePayload text := if text = "code" then .ok (rawPayload (codePayload pin)) else .error ""
  parseRfc3339 _ := .ok 0
  parseUuid := sampleLibraries.parseUuid
  parseUuid_text := sampleLibraries.parseUuid_text
  resolveDeviceName _ := "phone"
  certificatePaths _ := .ok ()
  generateCertificate _ _ := .ok [1]
  answer _ _ _ request := (codeAnswer pin enabled request).mapError Status.message
  writeCredentials := .ok ()
  persistFingerprint := .ok ()
  loadRegistry := .ok []
  saveRegistry := .ok ()

def codeInput : QrEnrollmentInput := ⟨"code", none, none, none⟩

theorem codeInputs_names : NamesSubject some codeInputs := by
  intro request token issued
  cases issued
  rfl

theorem codeWorld_reads {payload : EnrollmentQrPayload} {json : String}
    (encoded : (codePlatform pin).payloadJson payload = .ok json) :
    (codeWorld pin enabled).parsePayload json = .ok (rawPayload payload) := by
  simp only [codePlatform] at encoded
  split_ifs at encoded with same
  cases encoded
  rw [same]
  rfl

theorem codeWorld_served (route : EnrollRoute) (port : Nat) (fingerprint : String)
    (request : EnrollRequest) (response : EnrollResponse)
    (token_eq : request.enrollmentToken = (demoUuid 1).text)
    (answered : (codeWorld pin enabled).answer route port fingerprint request = .ok response) :
    AnsweredBy some (codePlatform pin) request response := by
  have other : codeInputs.freshClientId ≠ request.enrollmentToken := by
    rw [token_eq]
    decide +kernel
  simp only [codeWorld] at answered
  cases reply : codeAnswer pin enabled request with
  | error =>
    rw [reply] at answered
    cases answered
  | ok =>
    rw [reply] at answered
    cases answered
    exact ⟨noFurtherService, _, codeInputs, codeInputs_names, ⟨demoUuid 2, rfl⟩, other, reply⟩

theorem unpinned_relay_stays_usable :
    ∃ outcome, enrollViaQr (codeWorld none true) codeInput = .ok outcome ∧
      RelayUsable some (codeRelay none) outcome := by
  have shown : ((generateEnrollmentQr (codePlatform none) (relayService none true)
      codeInputs).2.map fun code => (code.success, code.qrPayload)) = .ok (true, "code") := by
    decide +kernel
  have replied : ((enrollViaQr (codeWorld none true) codeInput).map fun outcome =>
      outcome.reply.relayInfo) = .ok (some ⟨"wss://relay", (demoUuid 2).text, false⟩) := by
    decide +kernel
  obtain ⟨code, generated, code_eq⟩ := ok_of_map shown
  obtain ⟨outcome, enrolled, reply_eq⟩ := ok_of_map replied
  obtain ⟨success, payload_eq⟩ := Prod.mk.inj code_eq
  refine ⟨outcome, enrolled, ?_⟩
  exact (stored_relay_usable_iff some (codePlatform none) (codeWorld none true)
    (fun _ _ => codeWorld_reads) (relayService none true) codeInputs codeInputs_names code generated
    success codeInput payload_eq.symm (rawPayload (codePayload none)) rfl codeWorld_served
    (codeRelay none) rfl outcome enrolled).mpr ⟨_, reply_eq, fun _ => ⟨rfl, rfl⟩⟩

theorem unusable_of_entry {subjectOf : String → Option String} {info : RawQrRelayInfo}
    {result : Except String QrEnrollmentOutcome} {id : Uuid} {stored : RegistryRelayInfo}
    (entry_eq : (result.map fun outcome => (findById outcome.saved outcome.serverId).map fun entry =>
      (entry.clientId, entry.relay)) = .ok (some (some id, some stored)))
    (unusable : stored.relayUrl = info.relayUrl ∧ stored.pinnedCertSha256 ≠ info.pinnedCertSha256 ∨
      subjectOf stored.relayToken ≠ some id.text) :
    ∃ outcome, result = .ok outcome ∧ ¬ RelayUsable subjectOf info outcome := by
  obtain ⟨outcome, result_eq, stored_eq⟩ := ok_of_map entry_eq
  refine ⟨outcome, result_eq, ?_⟩
  rintro ⟨_, _, _, found, relay_eq, client_eq, kept, subject⟩
  simp only [found, Option.map_some, client_eq, relay_eq, Option.some.injEq, Prod.mk.injEq]
    at stored_eq
  obtain ⟨rfl, rfl⟩ := stored_eq
  rcases unusable with ⟨same_url, lost⟩ | other
  · exact lost (kept same_url).2
  · exact other subject

/-- With a pinned relay the reply's credentials replace the pin. Where the relay is disabled after
the code was made, the token of the code stays. -/
theorem pin_lost_or_token_of_code :
    (validateServerConfig (relayService (some samplePin) true).config = .ok () ∧
      ∃ outcome, enrollViaQr (codeWorld (some samplePin) true) codeInput = .ok outcome ∧
        ¬ RelayUsable some (codeRelay (some samplePin)) outcome) ∧
    validateServerConfig (relayService none true).config = .ok () ∧
      validateServerConfig (relayService none false).config = .ok () ∧
      ∃ outcome, enrollViaQr (codeWorld none false) codeInput = .ok outcome ∧
        ¬ RelayUsable some (codeRelay none) outcome := by
  have pinned : ((enrollViaQr (codeWorld (some samplePin) true) codeInput).map fun outcome =>
      (findById outcome.saved outcome.serverId).map fun entry => (entry.clientId, entry.relay)) =
        .ok (some (some (demoUuid 2),
          some ⟨"wss://relay", (demoUuid 2).text, false, false, none⟩)) := by
    decide +kernel
  have disabled : ((enrollViaQr (codeWorld none false) codeInput).map fun outcome =>
      (findById outcome.saved outcome.serverId).map fun entry => (entry.clientId, entry.relay)) =
        .ok (some (some (demoUuid 2),
          some ⟨"wss://relay", (demoUuid 1).text, false, false, none⟩)) := by
    decide +kernel
  refine ⟨⟨by decide +kernel, ?_⟩, by decide +kernel, by decide +kernel, ?_⟩
  · exact unusable_of_entry pinned (Or.inl ⟨rfl, by decide⟩)
  · exact unusable_of_entry disabled (Or.inr (by decide +kernel))

end HandControl.QrEnrollment
