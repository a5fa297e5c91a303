import HandControl.PairingApproval

/-!
# What a failed enrollment leaves behind

The method consumes the token first. An empty certificate and a client that cannot be stored are
noticed later, when the token is spent already.
-/

namespace HandControl.EnrollmentAtomicity

open ByteEncoding EnrolledClients EnrollmentTokens KeyedTable RemoteControlService
open OutsiderEnrollment (anonymousInputs newService)
open PairingApproval (AddedOnly)

def TokenValid (manager : EnrollmentTokenManager) (text : String) (now : Time) : Prop :=
  ∃ token, manager.tokens.lookup text = some token ∧ token.used = false ∧
    token.isExpired now = false

section

variable {manager : EnrollmentTokenManager} {text : String} {now : Time}

theorem validateAndConsume_valid (valid : TokenValid manager text now) :
    (manager.validateAndConsume text now).2 = .ok () ∧
      ¬ TokenValid (manager.validateAndConsume text now).1 text now := by
  obtain ⟨token, found, unused, unexpired⟩ := valid
  have consumed : manager.validateAndConsume text now =
      ({ manager with tokens := manager.tokens.insert text { token with used := true } },
        .ok ()) := by
    simp [EnrollmentTokenManager.validateAndConsume, found, unused, unexpired]
  rw [consumed]
  refine ⟨rfl, ?_⟩
  rintro ⟨_, stored_eq, still_unused, _⟩
  have same := (AList.lookup_insert manager.tokens).symm.trans stored_eq
  cases same
  cases still_unused

theorem validateAndConsume_invalid (invalid : ¬ TokenValid manager text now) :
    (∃ message, (manager.validateAndConsume text now).2 = .error message) ∧
      ∀ other, TokenValid manager other now →
        TokenValid (manager.validateAndConsume text now).1 other now := by
  unfold EnrollmentTokenManager.validateAndConsume
  cases found : manager.tokens.lookup text with
  | none => exact ⟨⟨_, rfl⟩, fun _ valid => valid⟩
  | some token =>
    dsimp only
    split_ifs with used expired
    · exact ⟨⟨_, rfl⟩, fun _ valid => valid⟩
    · refine ⟨⟨_, rfl⟩, ?_⟩
      rintro other ⟨stored, stored_eq, unused, unexpired⟩
      have different : other ≠ text := by
        rintro rfl
        rw [found] at stored_eq
        cases stored_eq
        rw [expired] at unexpired
        cases unexpired
      exact ⟨stored, (AList.lookup_erase_ne different).trans stored_eq, unused, unexpired⟩
    · exact absurd ⟨token, found, by simpa using used, by simpa using expired⟩ invalid

end

def Succeeded (reply : Except Status EnrollResponse) : Prop :=
  ∃ response, reply = .ok response ∧ response.success = true

section

variable {rest : RestOfService} (platform : Platform)

/-- A call that fails spends no token and adds no client, and one that succeeds spends its token
and adds one client with the certificate of the request. -/
structure SpentOnSuccess (before : Service rest) (now : Time) (enrollmentToken : String)
    (clientCertificate : Bytes) (outcome : Service rest × Except Status EnrollResponse) :
    Prop where
  failure : ¬ Succeeded outcome.2 → outcome.1.clientStore = before.clientStore ∧
    ∀ text, TokenValid before.enrollmentManager text now →
      TokenValid outcome.1.enrollmentManager text now
  success : Succeeded outcome.2 →
    (∃ clientId, AddedOnly before.clientStore outcome.1.clientStore clientId
      (fingerprintHex platform.sha256 clientCertificate)) ∧
    ¬ TokenValid outcome.1.enrollmentManager enrollmentToken now

variable {platform} {service : Service rest} {inputs : CallInputs} {enrollmentToken : String}
  {clientCertificate : Bytes} {deviceName : String}

theorem not_succeeded_error (status : Status) : ¬ Succeeded (.error status) := by
  rintro ⟨_, impossible, _⟩
  cases impossible

theorem not_succeeded_failed (message : String) : ¬ Succeeded (.ok (failedEnroll message)) := by
  rintro ⟨_, same, success⟩
  cases same
  cases success

theorem spentOnSuccess_of_kept {now : Time}
    {outcome : Service rest × Except Status EnrollResponse} (failed : ¬ Succeeded outcome.2)
    (store : outcome.1.clientStore = service.clientStore)
    (tokens : ∀ text, TokenValid service.enrollmentManager text now →
      TokenValid outcome.1.enrollmentManager text now) :
    SpentOnSuccess platform service now enrollmentToken clientCertificate outcome :=
  ⟨fun _ => ⟨store, tokens⟩, fun succeeded => absurd succeeded failed⟩

theorem not_spentOnSuccess_of_spent {now : Time}
    {outcome : Service rest × Except Status EnrollResponse}
    (valid : TokenValid service.enrollmentManager enrollmentToken now)
    (failed : ¬ Succeeded outcome.2)
    (spent : ¬ TokenValid outcome.1.enrollmentManager enrollmentToken now) :
    ¬ SpentOnSuccess platform service now enrollmentToken clientCertificate outcome :=
  fun holds => spent ((holds.failure failed).2 enrollmentToken valid)

theorem enroll_invalid
    (invalid : ¬ TokenValid service.enrollmentManager enrollmentToken (inputs.clock 0)) :
    SpentOnSuccess platform service (inputs.clock 0) enrollmentToken clientCertificate
      (enroll platform service inputs enrollmentToken clientCertificate deviceName) := by
  obtain ⟨⟨_, refused⟩, others⟩ := validateAndConsume_invalid invalid
  unfold enroll
  by_cases disabled : (!service.config.security.enrollment.qrCodeEnabled) = true
  · rw [if_pos disabled]
    exact spentOnSuccess_of_kept (not_succeeded_failed _) rfl fun _ valid => valid
  · rw [if_neg disabled]
    generalize service.enrollmentManager.validateAndConsume enrollmentToken (inputs.clock 0) =
      outcome at refused others
    obtain ⟨manager, result⟩ := outcome
    cases refused
    exact spentOnSuccess_of_kept (not_succeeded_failed _) rfl others

theorem enroll_valid (enabled : service.config.security.enrollment.qrCodeEnabled = true)
    (valid : TokenValid service.enrollmentManager enrollmentToken (inputs.clock 0)) :
    SpentOnSuccess platform service (inputs.clock 0) enrollmentToken clientCertificate
        (enroll platform service inputs enrollmentToken clientCertificate deviceName) ↔
      clientCertificate ≠ [] ∧ inputs.certificateWrite = .ok () ∧
        inputs.registrySave = .ok () := by
  obtain ⟨accepted, spent⟩ := validateAndConsume_valid valid
  unfold enroll
  rw [enabled]
  simp only [Bool.not_true, Bool.false_eq_true, if_false]
  generalize service.enrollmentManager.validateAndConsume enrollmentToken (inputs.clock 0) =
    outcome at accepted spent
  obtain ⟨manager, result⟩ := outcome
  cases accepted
  dsimp only
  split_ifs with empty
  · apply iff_of_false
    · exact not_spentOnSuccess_of_spent valid (not_succeeded_error _) spent
    · exact fun condition => condition.1 empty
  · cases written : inputs.certificateWrite with
    | error =>
      simp only [ClientStore.addClient, addClientInputs, written]
      apply iff_of_false
      · exact not_spentOnSuccess_of_spent valid (not_succeeded_error _) spent
      · rintro ⟨_, impossible, _⟩
        cases impossible
    | ok =>
      cases saved : inputs.registrySave with
      | error =>
        simp only [ClientStore.addClient, addClientInputs, written, saved]
        apply iff_of_false
        · exact not_spentOnSuccess_of_spent valid (not_succeeded_error _) spent
        · rintro ⟨_, _, impossible⟩
          cases impossible
      | ok =>
        simp only [ClientStore.addClient, addClientInputs, written, saved]
        apply iff_of_true
        · constructor
          · intro failed
            exact absurd ⟨_, rfl, rfl⟩ failed
          · intro _
            exact ⟨⟨_, _, rfl, rfl, rfl⟩, spent⟩
        · exact ⟨empty, trivial, trivial⟩

end

/-- A token is spent only on success exactly if a call with a valid token has a certificate and
both files can be written. -/
theorem token_spent_on_success_iff {rest : RestOfService} (platform : Platform)
    (service : Service rest) (inputs : CallInputs) (enrollmentToken : String)
    (clientCertificate : Bytes) (deviceName : String) :
    SpentOnSuccess platform service (inputs.clock 0) enrollmentToken clientCertificate
        (enroll platform service inputs enrollmentToken clientCertificate deviceName) ↔
      (service.config.security.enrollment.qrCodeEnabled = true →
        TokenValid service.enrollmentManager enrollmentToken (inputs.clock 0) →
          clientCertificate ≠ [] ∧ inputs.certificateWrite = .ok () ∧
            inputs.registrySave = .ok ()) := by
  by_cases enabled : service.config.security.enrollment.qrCodeEnabled = true
  · by_cases valid : TokenValid service.enrollmentManager enrollmentToken (inputs.clock 0)
    · rw [enroll_valid enabled valid]
      exact ⟨fun condition _ _ => condition, fun condition => condition enabled valid⟩
    · exact iff_of_true (enroll_invalid valid) fun _ impossible => absurd impossible valid
  · apply iff_of_true
    · unfold enroll
      rw [if_pos (by simpa using enabled)]
      exact spentOnSuccess_of_kept (not_succeeded_failed _) rfl fun _ valid => valid
    · exact fun impossible => absurd impossible enabled

def tokenService : Service noFurtherService :=
  { newService.service with
    enrollmentManager :=
      ⟨(∅ : Table String EnrollmentToken).insert "token"
        ⟨"token", 0, Time.afterSeconds 0 300, false⟩, 300⟩ }

theorem empty_certificate_spends_token :
    TokenValid tokenService.enrollmentManager "token" 0 ∧
      (enroll smallPlatform tokenService anonymousInputs "token" [] "phone").2 =
        .error ⟨.invalidArgument, "Client certificate is required"⟩ ∧
      ¬ TokenValid (enroll smallPlatform tokenService anonymousInputs "token" []
        "phone").1.enrollmentManager "token" 0 ∧
      ¬ SpentOnSuccess smallPlatform tokenService 0 "token" []
        (enroll smallPlatform tokenService anonymousInputs "token" [] "phone") := by
  have valid : TokenValid tokenService.enrollmentManager "token" 0 :=
    ⟨_, AList.lookup_insert _, rfl, by decide⟩
  have spent : ¬ TokenValid (enroll smallPlatform tokenService anonymousInputs "token" []
      "phone").1.enrollmentManager "token" 0 := (validateAndConsume_valid valid).2
  have failed : (enroll smallPlatform tokenService anonymousInputs "token" [] "phone").2 =
      .error ⟨.invalidArgument, "Client certificate is required"⟩ := by decide +kernel
  refine ⟨valid, failed, spent, ?_⟩
  apply not_spentOnSuccess_of_spent valid _ spent
  rw [failed]
  exact not_succeeded_error _

end HandControl.EnrollmentAtomicity
