import HandControl.AndroidChannel
import HandControl.RemoteControlService

/-!
# Pairing by approval on Android

The client asks for a pairing, shows a verification code, and polls until the user has approved the
request at the server. The code comes from the certificate of the channel that made the request.
Every poll opens its own channel, and the stored fingerprint is that of the last one. Both accept
any certificate.
-/

namespace HandControl.ApprovalPairing

open AndroidChannel ByteEncoding StandardText VerificationCode
open RemoteControlService (CheckPairingStatusResponse PairingStatus RelayInfo
  RequestPairingResponse ServerInfoResponse)

inductive EnrollmentResult where
  | success (clientId serverId : String)
  | pending (requestId : String) (timeoutSeconds : Int) (verificationCode : String)
  | error (message : String)
deriving DecidableEq

def mapGrpcError (code : GrpcCode) (description : Option String) : String :=
  match code with
  | .unauthenticated => "Authentication failed"
  | .permissionDenied => "Permission denied"
  | .notFound => "Server not found"
  | .invalidArgument => "Invalid request"
  | .deadlineExceeded => "Request timeout"
  | .unavailable => "Server unavailable"
  | other => "Network error: " ++ description.getD other.name

def networkError (message : ExceptionMessage) : EnrollmentResult :=
  .error ("Network error: " ++ message.text)

def rpcError : RpcFailure → EnrollmentResult
  | .status code description => .error (mapGrpcError code description)
  | .exception message => networkError message

structure RequestPairingRequest where
  deviceName : String
  deviceModel : String
  clientCertificate : Bytes
  verificationCode : String

structure RequestRound where
  certificate : Except ExceptionMessage Bytes
  channelOpened : Except ExceptionMessage Unit
  getServerInfo : Rpc ServerInfoResponse
  requestPairing : RequestPairingRequest → Rpc RequestPairingResponse

section

variable (sha256 : Bytes → Digest)

def infoChannel (round : RequestRound) : Channel :=
  ((Channel.create none).call sha256 round.getServerInfo).1

/-- A failed call for the server information leaves the identifier that was given. -/
def resolveServerId (serverId : Option String) (round : RequestRound) : Option String :=
  let resolved :=
    match ((Channel.create none).call sha256 round.getServerInfo).2 with
    | .ok serverInfo => if isBlank serverInfo.serverId then serverId else some serverInfo.serverId
    | .error _ => serverId
  resolved.filter fun identifier => !isBlank identifier

def judgePairingResponse (certificateDer serverCertDer : Bytes) (serverId : String)
    (response : RequestPairingResponse) : EnrollmentResult :=
  if response.errorMessage ≠ "" then .error response.errorMessage
  else if response.verificationNonce = [] then
    .error "Invalid server response: missing nonce"
  else if response.serverCertFingerprint ≠ [] ∧
      response.serverCertFingerprint ≠ (sha256 serverCertDer).bytes then
    .error "Security verification failed"
  else
    let verificationCode := VerificationCodeGenerator.generate sha256 certificateDer
      serverCertDer serverId response.verificationNonce
    if response.verificationCode ≠ "" ∧ response.verificationCode ≠ verificationCode then
      .error "Security verification failed"
    else if response.pending then
      .pending response.pairingRequestId response.timeoutSeconds verificationCode
    else .error "Unexpected server response"

def requestApproval (deviceName : String) (deviceModel serverId : Option String)
    (round : RequestRound) : EnrollmentResult :=
  match round.certificate with
  | .error message => networkError message
  | .ok certificateDer =>
    match round.channelOpened with
    | .error message => networkError message
    | .ok () =>
      match resolveServerId sha256 serverId round with
      | none => .error "Server did not provide an ID for pairing"
      | some effectiveServerId =>
        match (infoChannel sha256 round).captured with
        | none => .error "Failed to extract server certificate"
        | some serverCertDer =>
          let request : RequestPairingRequest :=
            { deviceName := deviceName
              deviceModel := deviceModel.getD ""
              clientCertificate := certificateDer
              verificationCode := "" }
          match ((infoChannel sha256 round).call sha256
              (round.requestPairing request)).2 with
          | .error failure => rpcError failure
          | .ok response =>
            judgePairingResponse sha256 certificateDer serverCertDer effectiveServerId
              response

inductive ConnectionPreference where
  | auto
  | relayOnly
deriving DecidableEq

structure EnrolledServer where
  serverId : String
  ips : List String
  serverPort : Int
  clientId : String
  serverName : String
  certFingerprint : String
  relayEnabled : Bool
  relayUrl : Option String
  relayToken : Option String
  connectionPreference : ConnectionPreference
deriving DecidableEq

structure PollRound where
  channelOpened : Except ExceptionMessage Unit
  checkPairingStatus : String → Rpc CheckPairingStatusResponse
  getServerInfo : Rpc ServerInfoResponse
  saveServer : Except ExceptionMessage Unit
  updateConnectionPreference : Except ExceptionMessage Unit
  saveClientId : Except ExceptionMessage Unit

def fetchError (message : String) : EnrollmentResult :=
  .error ("Failed to fetch server information: " ++ message)

def approvedServer (host : String) (port : Int) (channel : Channel)
    (response : CheckPairingStatusResponse) (serverInfo : ServerInfoResponse) :
    EnrolledServer :=
  let relay := response.relayInfo.filter fun info => info.relayUrl ≠ ""
  { serverId := serverInfo.serverId
    ips := ([host].map kotlinTrim).filter fun address => address ≠ ""
    serverPort := port
    clientId := response.clientId
    serverName := serverInfo.hostname
    certFingerprint :=
      match channel.captured with
      | some serverCertDer => VerificationCodeGenerator.computeFingerprint sha256 serverCertDer
      | none => ""
    relayEnabled := relay.isSome
    relayUrl := relay.map RelayInfo.relayUrl
    relayToken := relay.map RelayInfo.relayToken
    connectionPreference := .auto }

/-- The branch for an approved request, with the row it leaves in the database. A row that
was inserted stays when a later write fails. -/
def completeApproval (host : String) (port : Int) (channel : Channel)
    (response : CheckPairingStatusResponse) (round : PollRound) :
    EnrollmentResult × Option EnrolledServer :=
  let (channel, answer) := channel.call sha256 round.getServerInfo
  match answer with
  | .error failure => (fetchError failure.message, none)
  | .ok serverInfo =>
    let server := approvedServer sha256 host port channel response serverInfo
    match round.saveServer with
    | .error message => (fetchError message.text, none)
    | .ok () =>
      let relayRequired := response.relayInfo.any fun info =>
        info.relayUrl ≠ "" && info.relayRequired
      match relayRequired, round.updateConnectionPreference with
      | true, .error message => (fetchError message.text, some server)
      | _, _ =>
        let stored :=
          if relayRequired then { server with connectionPreference := .relayOnly }
          else server
        match round.saveClientId with
        | .error message => (networkError message, some stored)
        | .ok () => (.success response.clientId serverInfo.serverId, some stored)

def pollApprovalStatus (host : String) (port : Int) (requestId : String) (round : PollRound) :
    EnrollmentResult × Option EnrolledServer :=
  match round.channelOpened with
  | .error message => (networkError message, none)
  | .ok () =>
    let (channel, answer) :=
      (Channel.create none).call sha256 (round.checkPairingStatus requestId)
    match answer with
    | .error failure => (rpcError failure, none)
    | .ok response =>
      match response.status with
      | .approved => completeApproval sha256 host port channel response round
      | .pending => (.pending requestId 0 "", none)
      | .rejected => (.error "Pairing rejected by server", none)
      | .timeout => (.error "Pairing request timed out", none)
      | .unspecified => (.error "Unknown pairing status", none)

end

inductive EnrollmentUiState where
  | idle
  | alreadyEnrolled (serverName serverId : String)
  | approvalPending (requestId verificationCode : String) (timeoutSeconds : Int)
  | success (clientId serverId : String)
  | error (message : String)
deriving DecidableEq

/-- One turn of the polling loop: whether the user has cancelled before it, and the poll. -/
structure PollTurn where
  cancelled : Bool
  round : PollRound

structure Save where
  round : PollRound
  server : EnrolledServer

def maxAttempts : Nat := 60

def afterLoop (attempts : Nat) (uiState : EnrollmentUiState) : EnrollmentUiState :=
  if maxAttempts ≤ attempts then .error "Approval request timed out" else uiState

section

variable (sha256 : Bytes → Digest)

/-- The loop, with the rows stored. It may be cut off after any turn. -/
def pollLoop (host : String) (port : Int) (requestId : String) :
    Nat → EnrollmentUiState → List PollTurn → EnrollmentUiState × List Save
  | attempts, uiState, [] => (afterLoop attempts uiState, [])
  | attempts, uiState, turn :: later =>
    if maxAttempts ≤ attempts then (afterLoop attempts uiState, [])
    else if turn.cancelled then (.idle, [])
    else
      let (result, stored) := pollApprovalStatus sha256 host port requestId turn.round
      let saves := stored.toList.map fun server => ⟨turn.round, server⟩
      match result with
      | .success clientId serverId =>
        (afterLoop (attempts + 1) (.success clientId serverId), saves)
      | .error message => (afterLoop (attempts + 1) (.error message), saves)
      | .pending _ _ _ =>
        let (final, more) := pollLoop host port requestId (attempts + 1) uiState later
        (final, saves ++ more)

/-- A pairing from the request on. `existing` is the name and the identifier of a server
that is enrolled under the address. -/
def requestApprovalPairing (host : String) (port : Int) (serverId : Option String)
    (existing : Option (String × String)) (deviceName : String) (deviceModel : Option String)
    (request : RequestRound) (turns : List PollTurn) : EnrollmentUiState × List Save :=
  match existing with
  | some (serverName, enrolledId) => (.alreadyEnrolled serverName enrolledId, [])
  | none =>
    match requestApproval sha256 deviceName deviceModel serverId request with
    | .pending requestId timeoutSeconds verificationCode =>
      pollLoop sha256 host port requestId 0
        (.approvalPending requestId verificationCode timeoutSeconds) turns
    | .success clientId enrolledId => (.success clientId enrolledId, [])
    | .error message => (.error message, [])

end

variable {requestId code host : String} {timeoutSeconds port : Int} {round : PollRound}
variable {server : EnrolledServer}

section

variable {sha256 : Bytes → Digest}

theorem requestApproval_pending {deviceName : String} {deviceModel serverId : Option String}
    {round : RequestRound}
    (pending : requestApproval sha256 deviceName deviceModel serverId round =
      .pending requestId timeoutSeconds code) :
    ∃ certificate clientCertificate identifier nonce,
      (infoChannel sha256 round).captured = some certificate ∧
        code = VerificationCodeGenerator.generate sha256 clientCertificate certificate identifier
          nonce := by
  unfold requestApproval at pending
  split at pending
  · cases pending
  · rename_i clientCertificate _
    split at pending
    · cases pending
    · split at pending
      · cases pending
      · rename_i identifier _
        split at pending
        · cases pending
        · rename_i certificate captured
          dsimp only at pending
          split at pending
          · rename_i failure _
            cases failure with
            | status | exception => cases pending
          · rename_i response _
            unfold judgePairingResponse at pending
            dsimp only at pending
            split_ifs at pending
            cases pending
            exact ⟨certificate, clientCertificate, identifier, response.verificationNonce,
              captured, rfl⟩

theorem completeApproval_saved {channel : Channel} {response : CheckPairingStatusResponse}
    (reported : channel.Reported)
    (saved : (completeApproval sha256 host port channel response round).2 = some server) :
    ∃ certificate, (channel.call sha256 round.getServerInfo).1.captured = some certificate ∧
      server.certFingerprint =
        VerificationCodeGenerator.computeFingerprint sha256 certificate := by
  unfold completeApproval at saved
  dsimp only at saved
  split at saved
  · cases saved
  · rename_i serverInfo answered
    have some_captured := (call_ok reported answered).2
    rcases Option.isSome_iff_exists.mp some_captured with ⟨certificate, captured⟩
    have fingerprint : (approvedServer sha256 host port
        (channel.call sha256 round.getServerInfo).1 response serverInfo).certFingerprint =
          VerificationCodeGenerator.computeFingerprint sha256 certificate := by
      simp [approvedServer, captured]
    apply Exists.intro certificate
    apply And.intro captured
    rw [← fingerprint]
    split at saved
    · cases saved
    · split at saved
      · cases saved
        rfl
      · split at saved
        · cases saved
          split_ifs
          · rfl
          · rfl
        · cases saved
          split_ifs
          · rfl
          · rfl

/-- The handshakes of the channel of a poll, up to the moment the certificate is read. -/
def PollRound.handshakes (round : PollRound) (requestId : String) : List Chain :=
  (round.checkPairingStatus requestId).handshakes ++ round.getServerInfo.handshakes

theorem pollApprovalStatus_saved
    (saved : (pollApprovalStatus sha256 host port requestId round).2 = some server) :
    ∃ certificate, lastPresented (round.handshakes requestId) = some certificate ∧
      server.certFingerprint =
        VerificationCodeGenerator.computeFingerprint sha256 certificate := by
  unfold pollApprovalStatus at saved
  split at saved
  · cases saved
  · dsimp only at saved
    split at saved
    · cases saved
    · rename_i answered
      have reported : ((Channel.create none).call sha256
          (round.checkPairingStatus requestId)).1.Reported := by
        intro _
        exact (call_ok (create_reported none) answered).2
      split at saved
      · rcases completeApproval_saved reported saved with ⟨certificate, captured, stored⟩
        have last : lastPresented (round.handshakes requestId) = some certificate := by
          rw [PollRound.handshakes, lastPresented_append, ← captured, call_captured, call_captured]
          simp [Channel.create]
        exact ⟨certificate, last, stored⟩
      all_goals cases saved

theorem pollLoop_saves {attempts : Nat} {uiState : EnrollmentUiState} {turns : List PollTurn}
    {save : Save} (stored : save ∈ (pollLoop sha256 host port requestId attempts uiState turns).2) :
    (pollApprovalStatus sha256 host port requestId save.round).2 = some save.server := by
  induction turns generalizing attempts with
  | nil => simp [pollLoop] at stored
  | cons turn later ih =>
    have of_turn (listed : save ∈
        (pollApprovalStatus sha256 host port requestId turn.round).2.toList.map
          fun server => (⟨turn.round, server⟩ : Save)) :
        (pollApprovalStatus sha256 host port requestId save.round).2 = some save.server := by
      rcases List.mem_map.mp listed with ⟨_, present, same⟩
      rw [← same]
      exact Option.mem_toList.mp present
    rw [pollLoop] at stored
    split_ifs at stored
    · cases stored
    · cases stored
    · dsimp only at stored
      split at stored
      · exact of_turn stored
      · exact of_turn stored
      · rcases List.mem_append.mp stored with now | then_later
        · exact of_turn now
        · exact ih then_later

/-- The certificate stored by a poll has the hash of the certificate in the code exactly if
the last peer of the poll's channel presented one with that hash. -/
theorem stored_certificate_is_shown_iff (sha256 : Bytes → Digest) (host : String) (port : Int)
    (serverId : Option String) (existing : Option (String × String))
    (deviceName : String) (deviceModel : Option String) (request : RequestRound)
    (requestId code : String) (timeoutSeconds : Int)
    (pending : requestApproval sha256 deviceName deviceModel serverId request =
      .pending requestId timeoutSeconds code) :
    ∃ certificate clientCertificate identifier nonce,
      (infoChannel sha256 request).captured = some certificate ∧
      code = VerificationCodeGenerator.generate sha256 clientCertificate certificate identifier
        nonce ∧
      ∀ turns, ∀ save ∈ (requestApprovalPairing sha256 host port serverId existing deviceName
          deviceModel request turns).2,
        (save.server.certFingerprint ≠ "" ∧
            save.server.certFingerprint =
              VerificationCodeGenerator.computeFingerprint sha256 certificate) ↔
          ∃ presented, lastPresented (save.round.handshakes requestId) = some presented ∧
            sha256 presented = sha256 certificate := by
  rcases requestApproval_pending pending with
    ⟨certificate, clientCertificate, identifier, nonce, captured, code_eq⟩
  refine ⟨certificate, clientCertificate, identifier, nonce, captured, code_eq, ?_⟩
  intro turns save stored
  have polled : (pollApprovalStatus sha256 host port requestId save.round).2 =
      some save.server := by
    cases existing with
    | some => cases stored
    | none =>
      simp only [requestApprovalPairing, pending] at stored
      exact pollLoop_saves stored
  rcases pollApprovalStatus_saved polled with ⟨last, last_eq, fingerprint⟩
  rw [fingerprint, last_eq, computeFingerprint_eq_iff]
  have nonempty := computeFingerprint_ne_empty sha256 last
  constructor
  · intro shown
    exact ⟨last, rfl, shown.2⟩
  · rintro ⟨_, same, shown⟩
    cases same
    exact ⟨nonempty, shown⟩

end

def answeredBy {Response : Type} (certificate : Bytes) (response : Response) : Rpc Response where
  handshakes := [[⟨certificate, true⟩]]
  outcome := .ok response

def sampleInfo : ServerInfoResponse := ⟨"server", "desk", "0.1.0", "linux"⟩

def samplePairingResponse : RequestPairingResponse where
  pending := true
  pairingRequestId := "request"
  timeoutSeconds := 60
  verificationCode := ""
  serverCertFingerprint := []
  errorMessage := ""
  verificationNonce := [7]

def sampleRequest : RequestRound where
  certificate := .ok [5]
  channelOpened := .ok ()
  getServerInfo := answeredBy [1] sampleInfo
  requestPairing := fun _ => answeredBy [1] samplePairingResponse

def sampleCode : String :=
  VerificationCodeGenerator.generate RemoteControlService.paddingHash [5] [1] "server" [7]

def pollAnsweredBy (certificate : Bytes) (status : PairingStatus) : PollTurn where
  cancelled := false
  round :=
    { channelOpened := .ok ()
      checkPairingStatus := fun _ => answeredBy certificate ⟨status, "client", "", none⟩
      getServerInfo := answeredBy certificate sampleInfo
      saveServer := .ok ()
      updateConnectionPreference := .ok ()
      saveClientId := .ok () }

def storedServer (certFingerprint : String) : EnrolledServer where
  serverId := "server"
  ips := ["host"]
  serverPort := 50051
  clientId := "client"
  serverName := "desk"
  certFingerprint := certFingerprint
  relayEnabled := false
  relayUrl := none
  relayToken := none
  connectionPreference := .auto

def samplePairing (turns : List PollTurn) : EnrollmentUiState × List Save :=
  requestApprovalPairing RemoteControlService.paddingHash "host" 50051 none none "phone" none
    sampleRequest turns

theorem sampleRequest_pending :
    requestApproval RemoteControlService.paddingHash "phone" none none sampleRequest =
      .pending "request" 60 sampleCode := by
  rfl

theorem answering_server_is_stored :
    requestApproval RemoteControlService.paddingHash "phone" none none sampleRequest =
        .pending "request" 60 sampleCode ∧
      ∃ certificate, (infoChannel RemoteControlService.paddingHash sampleRequest).captured =
          some certificate ∧
        (samplePairing [pollAnsweredBy [1] .pending, pollAnsweredBy [1] .approved]).2.map
            (fun save => save.server.certFingerprint) =
          [VerificationCodeGenerator.computeFingerprint RemoteControlService.paddingHash
            certificate] := by
  rcases stored_certificate_is_shown_iff RemoteControlService.paddingHash "host" 50051 none none
    "phone" none sampleRequest "request" sampleCode 60 sampleRequest_pending with
    ⟨certificate, _, _, _, captured, _, shown⟩
  have genuine : certificate = [1] := (Option.some.inj captured).symm
  have saves : (samplePairing [pollAnsweredBy [1] .pending, pollAnsweredBy [1] .approved]).2 =
      [⟨(pollAnsweredBy [1] .approved).round, storedServer
        (VerificationCodeGenerator.computeFingerprint RemoteControlService.paddingHash [1])⟩] := by
    rfl
  have listed : (⟨(pollAnsweredBy [1] .approved).round, storedServer
      (VerificationCodeGenerator.computeFingerprint RemoteControlService.paddingHash [1])⟩ :
        Save) ∈
      (samplePairing [pollAnsweredBy [1] .pending, pollAnsweredBy [1] .approved]).2 := by
    rw [saves]
    exact List.mem_singleton_self _
  have stored := (shown _ _ listed).mpr
    ⟨[1], rfl, congrArg RemoteControlService.paddingHash genuine.symm⟩
  refine ⟨sampleRequest_pending, certificate, captured, ?_⟩
  rw [saves, List.map_singleton, stored.2]

/-- The server with the certificate `[1]` answers the request, and the user compares its code.
A peer with the certificate `[2]` answers the poll: its fingerprint is stored. -/
theorem other_peer_is_stored :
    requestApproval RemoteControlService.paddingHash "phone" none none sampleRequest =
        .pending "request" 60 sampleCode ∧
      (infoChannel RemoteControlService.paddingHash sampleRequest).captured = some [1] ∧
      (samplePairing [pollAnsweredBy [2] .approved]).1 = .success "client" "server" ∧
      (samplePairing [pollAnsweredBy [2] .approved]).2.map Save.server =
        [storedServer
          (VerificationCodeGenerator.computeFingerprint RemoteControlService.paddingHash [2])] ∧
      VerificationCodeGenerator.computeFingerprint RemoteControlService.paddingHash [2] ≠
        VerificationCodeGenerator.computeFingerprint RemoteControlService.paddingHash [1] := by
  have differ : VerificationCodeGenerator.computeFingerprint RemoteControlService.paddingHash [2] ≠
      VerificationCodeGenerator.computeFingerprint RemoteControlService.paddingHash [1] := by
    rw [Ne, computeFingerprint_eq_iff]
    decide
  exact ⟨sampleRequest_pending, rfl, rfl, rfl, differ⟩

end HandControl.ApprovalPairing
