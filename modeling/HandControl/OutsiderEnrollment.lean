import HandControl.RemoteControlService
import HandControl.TransitionRuns

/-!
# Calls by outsiders

Runs of the service in which every caller presents no certificate or one that is not
enrolled. The arguments of a call are arbitrary, so a run may use anything that earlier
replies disclosed.
-/

namespace HandControl.OutsiderEnrollment

open EnrolledClients RemoteControlService TransitionRuns

structure TimedService (rest : RestOfService) where
  service : Service rest
  time : Time

structure Call (rest : RestOfService) where
  inputs : CallInputs
  rpc : Rpc rest.Message
  ended : Time

section

variable {rest : RestOfService} (platform : Platform)

def serveCall (state : TimedService rest) (call : Call rest) : Option (TimedService rest) :=
  some ⟨(handle platform state.service call.inputs call.rpc).1, call.ended⟩

/-- The clock does not run backwards within a call or from one call to the next. -/
def ClockAdvances (state : TimedService rest) (call : Call rest) : Prop :=
  (∀ reading, state.time ≤ call.inputs.clock reading) ∧
    ∀ reading, call.inputs.clock reading ≤ call.ended

/-- The caller presents no certificate, or one that is not in the client store. -/
def IsOutsider (state : TimedService rest) (call : Call rest) : Prop :=
  ∀ certificate others, call.inputs.peerCerts = some (certificate :: others) →
    state.service.clientStore.isAuthorized (fingerprintHex platform.sha256 certificate) = false

def OutsiderCall (state : TimedService rest) (call : Call rest) : Prop :=
  ClockAdvances state call ∧ IsOutsider platform state call

def IssuesToken (state : TimedService rest) (call : Call rest) : Prop :=
  call.rpc = .generateEnrollmentQr ∧ state.service.config.security.enrollment.qrCodeEnabled = true

/-- What outsiders cannot change while no token is issued to them. -/
structure Shut (start state : TimedService rest) : Prop where
  config : state.service.config = start.service.config
  clientStore : state.service.clientStore = start.service.clientStore
  noneOutstanding : state.service.enrollmentManager.NoneOutstanding state.time

theorem Shut.serveCall {start state : TimedService rest} (shut : Shut start state)
    (required : start.service.config.security.requireClientCert = true) {call : Call rest}
    (permitted : OutsiderCall platform state call) (withheld : ¬ IssuesToken state call) :
    Shut start ⟨(handle platform state.service call.inputs call.rpc).1, call.ended⟩ := by
  rcases permitted with ⟨⟨begins, ends⟩, outsider⟩
  have elapsed : state.time ≤ call.ended := (begins 0).trans (ends 0)
  have stillNone := shut.noneOutstanding.later elapsed
  have unchanged : Shut start ⟨state.service, call.ended⟩ :=
    ⟨shut.config, shut.clientStore, stillNone⟩
  have requiredHere : state.service.config.security.requireClientCert = true := by
    rw [shut.config]
    exact required
  rcases ensureEnrolledClient_rejects requiredHere outsider with ⟨_, rejected⟩
  cases rpc : call.rpc with
  | enroll enrollmentToken clientCertificate deviceName =>
    have spent := (shut.noneOutstanding.later (begins 0)).validateAndConsume enrollmentToken
    rcases spent with ⟨⟨message, failed⟩, emptied⟩
    rcases enroll_rejected platform state.service call.inputs enrollmentToken
      clientCertificate deviceName message failed with same | consumed
    · simp only [handle, same]
      exact unchanged
    · simp only [handle, consumed]
      exact ⟨shut.config, shut.clientStore, emptied.later (ends 0)⟩
  | generateEnrollmentQr =>
    have disabled : state.service.config.security.enrollment.qrCodeEnabled = false := by
      apply Bool.eq_false_iff.mpr
      intro enabled
      exact withheld ⟨rpc, enabled⟩
    simp only [handle, generateEnrollmentQr_disabled platform state.service call.inputs disabled]
    exact unchanged
  | requestPairing deviceName deviceModel clientCertificate verificationCode =>
    rcases requestPairing_frame platform state.service call.inputs deviceName deviceModel
      clientCertificate verificationCode with ⟨_, same⟩
    simp only [handle, same]
    exact ⟨shut.config, shut.clientStore, stillNone⟩
  | checkPairingStatus pairingRequestId =>
    rcases checkPairingStatus_frame platform state.service call.inputs pairingRequestId with
      ⟨manager, same⟩
    simp only [handle, same]
    exact ⟨shut.config, shut.clientStore, stillNone⟩
  | approvePairing =>
    simp only [handle, approvePairing, rejected]
    exact unchanged
  | listPendingPairings =>
    simp only [handle, listPendingPairings, rejected]
    exact unchanged
  | getServerInfo => exact unchanged
  | device =>
    simp only [handle, serveDevice, rejected]
    exact unchanged

/-- In every run of outsider calls that never makes the server issue an enrollment token,
the fingerprints the client store accepts stay the same. -/
theorem outsiders_keep_authorized_clients (start final : TimedService rest)
    (required : start.service.config.security.requireClientCert = true)
    (noneOutstanding : start.service.enrollmentManager.NoneOutstanding start.time)
    (run : Reaches (serveCall platform)
      (fun state call => OutsiderCall platform state call ∧ ¬ IssuesToken state call)
      start final)
    (fingerprint : String) :
    final.service.clientStore.isAuthorized fingerprint =
      start.service.clientStore.isAuthorized fingerprint := by
  have shut : Shut start final := by
    apply run.invariant
    · exact ⟨rfl, rfl, noneOutstanding⟩
    · intro before call after held guard served
      cases served
      exact held.serveCall platform required guard.1 guard.2
  rw [shut.clientStore]

end

def newService : TimedService noFurtherService where
  service := {
    config := certifiedDocument.withDefaults false
    clientStore := ⟨[]⟩
    enrollmentManager := ⟨∅, 300⟩
    pairingManager := ⟨∅, 60⟩
    remaining := ()
  }
  time := 0

def anonymousInputs : CallInputs where
  peerCerts := none
  clientIp := none
  clock := fun _ => 0
  freshToken := "token"
  freshRequestId := "request"
  freshClientId := "client"
  nonce := []
  certificateWrite := .ok ()
  registrySave := .ok ()
  relayToken := fun _ => .error ""
  localIps := []

def anonymousCall (rpc : Rpc Unit) : Call noFurtherService := ⟨anonymousInputs, rpc, 0⟩

theorem anonymousCall_outsider (state : TimedService noFurtherService) (rpc : Rpc Unit)
    (early : state.time ≤ 0) : OutsiderCall smallPlatform state (anonymousCall rpc) := by
  refine ⟨⟨fun _ => early, fun _ => le_refl 0⟩, ?_⟩
  intro certificate others presented
  cases presented

theorem newService_noneOutstanding :
    newService.service.enrollmentManager.NoneOutstanding newService.time := by
  intro text token stored
  cases stored

def afterCall (state : TimedService noFurtherService) (rpc : Rpc Unit) :
    TimedService noFurtherService :=
  ⟨(handle smallPlatform state.service anonymousInputs rpc).1, 0⟩

theorem serveCall_anonymousCall (state : TimedService noFurtherService) (rpc : Rpc Unit) :
    serveCall smallPlatform state (anonymousCall rpc) = some (afterCall state rpc) := rfl

theorem pairing_request_keeps_authorized_clients :
    newService.service.enrollmentManager.NoneOutstanding newService.time ∧
      (afterCall newService
          (.requestPairing "phone" "" [1] "")).service.clientStore.isAuthorized
            (fingerprintHex paddingHash [1]) =
        newService.service.clientStore.isAuthorized (fingerprintHex paddingHash [1]) := by
  refine ⟨newService_noneOutstanding, ?_⟩
  apply outsiders_keep_authorized_clients smallPlatform newService _ rfl
    newService_noneOutstanding
  have withheld : ¬ IssuesToken newService
      (anonymousCall (.requestPairing "phone" "" [1] "")) := by
    intro issues
    cases issues.1
  exact Reaches.single ⟨anonymousCall_outsider _ _ (le_refl 0), withheld⟩
    (serveCall_anonymousCall newService (.requestPairing "phone" "" [1] ""))

/-- The outsider asks for an enrollment token, is given one, and enrolls with it. -/
theorem outsider_enrolls_with_issued_token :
    newService.service.config.security.requireClientCert = true ∧
      newService.service.enrollmentManager.NoneOutstanding newService.time ∧
      (∃ response, (handle smallPlatform newService.service anonymousInputs
          .generateEnrollmentQr).2 = .ok (.generateEnrollmentQr response) ∧
        response.enrollmentToken = "token") ∧
      Reaches (serveCall smallPlatform) (OutsiderCall smallPlatform) newService
        (afterCall (afterCall newService .generateEnrollmentQr)
          (.enroll "token" [1] "phone")) ∧
      newService.service.clientStore.isAuthorized (fingerprintHex paddingHash [1]) = false ∧
      (afterCall (afterCall newService .generateEnrollmentQr)
          (.enroll "token" [1] "phone")).service.clientStore.isAuthorized
            (fingerprintHex paddingHash [1]) = true := by
  refine ⟨rfl, newService_noneOutstanding, ⟨_, rfl, rfl⟩, ?_, rfl, by decide⟩
  apply Reaches.head (anonymousCall_outsider newService .generateEnrollmentQr (le_refl 0))
    (serveCall_anonymousCall newService .generateEnrollmentQr)
  exact Reaches.single (anonymousCall_outsider _ (.enroll "token" [1] "phone") (le_refl 0))
    (serveCall_anonymousCall _ (.enroll "token" [1] "phone"))

end HandControl.OutsiderEnrollment
