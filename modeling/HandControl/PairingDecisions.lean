import HandControl.OutsiderEnrollment

/-!
# How long a pairing decision lasts

Reading an expired request turns it into one that timed out, whether or not it was decided before. A
decision lasts exactly as long as the request is read no later than it expires.
-/

namespace HandControl.PairingDecisions

open EnrolledClients KeyedTable PairingRequests RemoteControlService TransitionRuns
open OutsiderEnrollment (anonymousInputs newService)
open PairingRequests.PairingRequestManager (PairingDevice)

inductive PairingCall where
  | createRequest (device : PairingDevice) (requestId : String) (created cleaned : Time)
  | getRequest (requestId : String) (now : Time)
  | approveRequest (requestId clientId : String) (now : Time)
  | rejectRequest (requestId : String)
  | listPending (cleaned now : Time)

def PairingCall.readings : PairingCall → List Time
  | .createRequest _ _ created cleaned => [created, cleaned]
  | .getRequest _ now => [now]
  | .approveRequest _ _ now => [now]
  | .rejectRequest _ => []
  | .listPending cleaned now => [cleaned, now]

def PairingCall.execute (range : TimeRange) (manager : PairingRequestManager) :
    PairingCall → PairingRequestManager
  | .createRequest device requestId created cleaned =>
    match manager.createRequest range device requestId created cleaned with
    | none => manager
    | some (manager, _) => manager
  | .getRequest requestId now => (manager.getRequest requestId now).1
  | .approveRequest requestId clientId now => (manager.approveRequest requestId clientId now).1
  | .rejectRequest requestId => (manager.rejectRequest requestId).1
  | .listPending cleaned now => (manager.listPending cleaned now).1

structure PairingState where
  manager : PairingRequestManager
  clock : Time

def PairingState.started (timeoutSeconds : UInt64) (clock : Time) : PairingState :=
  ⟨⟨∅, timeoutSeconds⟩, clock⟩

/-- The clock does not go back. -/
def stepPairing (range : TimeRange) (state : PairingState) (call : PairingCall) :
    Option PairingState :=
  if (state.clock :: call.readings).IsChain (· ≤ ·) then
    some ⟨call.execute range state.manager, (call.readings.getLast?).getD state.clock⟩
  else none

/-- A new request has an identifier that is not in use. -/
def FreshIds (state : PairingState) : PairingCall → Prop
  | .createRequest _ requestId _ _ => requestId ∉ state.manager.requests
  | _ => True

instance (state : PairingState) (call : PairingCall) : Decidable (FreshIds state call) := by
  cases call <;> unfold FreshIds <;> infer_instance

def Decided (request : PairingRequest) : Prop :=
  request.status = .approved ∨ request.status = .rejected

instance (request : PairingRequest) : Decidable (Decided request) := by
  unfold Decided
  infer_instance

theorem not_pending_of_decided {request : PairingRequest} (decided : Decided request) :
    request.status ≠ .pending := by
  rcases decided with status | status <;> simp [status]

theorem isExpired_eq_false {request : PairingRequest} {now : Time}
    (timely : now ≤ request.expiresAt) : request.isExpired now = false := by
  simpa [PairingRequest.isExpired] using timely

theorem getRequest_found {manager : PairingRequestManager} {requestId : String}
    {request : PairingRequest} (found : manager.requests.lookup requestId = some request)
    (now : Time) :
    (manager.getRequest requestId now).2 =
      some (if request.isExpired now then { request with status := .timeout } else request) := by
  simp only [PairingRequestManager.getRequest, Table.modify, found]
  exact AList.lookup_insert _

section

variable {range : TimeRange} {state settledAt later : PairingState} {requestId : String}
  {request : PairingRequest} {call : PairingCall}

/-- A request that is no longer pending changes only when a call finds it expired, and then it is
one that timed out. -/
theorem execute_settled (found : state.manager.requests.lookup requestId = some request)
    (settled : request.status ≠ .pending) (fresh : FreshIds state call) :
    (call.execute range state.manager).requests.lookup requestId = some request ∨
      (call.execute range state.manager).requests.lookup requestId =
          some { request with status := .timeout } ∧
        ∃ now ∈ call.readings, request.expiresAt < now := by
  have cleaned (now : Time) :
      (state.manager.cleanupExpiredRequests now).requests.lookup requestId = some request := by
    simp [PairingRequestManager.cleanupExpiredRequests, Table.lookup_retain, found, settled]
  cases call with
  | createRequest _ newId created now =>
    have other : requestId ≠ newId := by
      rintro rfl
      exact fresh (AList.lookup_isSome.mp (by simp [found]))
    left
    simp only [PairingCall.execute]
    split
    · exact found
    · rename_i created
      obtain ⟨_, _, result⟩ := Option.map_eq_some_iff.mp created
      cases result
      exact (AList.lookup_insert_ne other).trans (cleaned now)
  | listPending now => exact .inl (cleaned now)
  | getRequest _ now =>
    simp only [PairingCall.execute, PairingRequestManager.getRequest, Table.lookup_modify]
    split_ifs with same
    · subst same
      rw [found, Option.map_some]
      by_cases expired : request.isExpired now = true
      · rw [if_pos expired]
        exact .inr ⟨rfl, now, List.mem_singleton_self now, of_decide_eq_true expired⟩
      · rw [if_neg expired]
        exact .inl rfl
    · exact .inl found
  | approveRequest approvedId _ now =>
    simp only [PairingCall.execute, PairingRequestManager.approveRequest]
    by_cases same : approvedId = requestId
    · subst same
      rw [found]
      dsimp only
      split_ifs with expired
      · exact .inr ⟨AList.lookup_insert _, now, List.mem_singleton_self now,
          of_decide_eq_true expired⟩
      · exact .inl found
    · left
      split
      · exact found
      · split_ifs
        · exact (AList.lookup_insert_ne (Ne.symm same)).trans found
        · exact found
        · exact (AList.lookup_insert_ne (Ne.symm same)).trans found
  | rejectRequest rejectedId =>
    left
    simp only [PairingCall.execute, PairingRequestManager.rejectRequest]
    by_cases same : rejectedId = requestId
    · subst same
      rw [found]
      dsimp only
      rw [if_pos settled]
      exact found
    · split
      · exact found
      · split_ifs
        · exact found
        · exact (AList.lookup_insert_ne (Ne.symm same)).trans found

/-- The clock of a state is no earlier than any reading before it. -/
theorem stepPairing_readings (moved : stepPairing range settledAt call = some later) :
    settledAt.clock ≤ later.clock ∧ ∀ now ∈ call.readings, now ≤ later.clock := by
  unfold stepPairing at moved
  split_ifs at moved with ordered
  cases moved
  cases call with
  | getRequest | approveRequest | rejectRequest => simp_all [PairingCall.readings]
  | createRequest | listPending =>
    obtain ⟨first, second⟩ : _ ∧ _ := by simpa [PairingCall.readings] using ordered
    exact ⟨first.trans second, by simpa [PairingCall.readings] using second⟩

/-- What a settled request has become by now. It timed out only if it has expired. -/
def SettledSince (request : PairingRequest) (requestId : String) (state : PairingState) : Prop :=
  state.manager.requests.lookup requestId = some request ∨
    state.manager.requests.lookup requestId = some { request with status := .timeout } ∧
      request.expiresAt < state.clock

theorem settledSince_of_run (found : settledAt.manager.requests.lookup requestId = some request)
    (settled : request.status ≠ .pending)
    (run : Reaches (stepPairing range) FreshIds settledAt later) :
    SettledSince request requestId later := by
  apply run.invariant (.inl found)
  intro before call after stored fresh moved
  obtain ⟨ordered, readings⟩ := stepPairing_readings moved
  unfold stepPairing at moved
  split_ifs at moved
  cases moved
  rcases stored with kept | ⟨timed_out, expired⟩
  · rcases execute_settled kept settled fresh with still | ⟨late, now, member, past⟩
    · exact .inl still
    · exact .inr ⟨late, lt_of_lt_of_le past (readings now member)⟩
  · right
    rcases execute_settled timed_out (by simp) fresh with still | ⟨late, _⟩
    · exact ⟨still, lt_of_lt_of_le expired ordered⟩
    · exact ⟨late, lt_of_lt_of_le expired ordered⟩

end

section

variable {rest : RestOfService} (platform : Platform)

/-- `get_request` returns the request with its decision, and `check_pairing_status` reports
it. -/
structure StillDecided (service : Service rest) (inputs : CallInputs) (requestId : String)
    (request : PairingRequest) : Prop where
  returned : ∃ current,
    (service.pairingManager.getRequest requestId (inputs.clock 0)).2 = some current ∧
      current.status = request.status ∧ current.clientId = request.clientId
  reported : ∃ response, (checkPairingStatus platform service inputs requestId).2 = .ok response ∧
      (request.status = .approved →
        response.status = .approved ∧ response.clientId = request.clientId.getD "") ∧
      (request.status = .rejected → response.status = .rejected)

variable {platform} {service : Service rest} {inputs : CallInputs} {requestId : String}
  {request : PairingRequest}

theorem checkPairingStatus_found {current : PairingRequest}
    (returned : (service.pairingManager.getRequest requestId (inputs.clock 0)).2 = some current) :
    ∃ response, (checkPairingStatus platform service inputs requestId).2 = .ok response ∧
      (current.status = .approved →
        response.status = .approved ∧ response.clientId = current.clientId.getD "") ∧
      (current.status = .rejected → response.status = .rejected) := by
  unfold checkPairingStatus
  split
  · rename_i read
    rw [read] at returned
    cases returned
  · rename_i read
    rw [read] at returned
    cases returned
    refine ⟨_, rfl, ?_, ?_⟩
    · intro approved
      simp [approved]
    · intro rejected
      simp [rejected]

theorem stillDecided_iff (found : service.pairingManager.requests.lookup requestId = some request)
    (final : Decided request) :
    StillDecided platform service inputs requestId request ↔
      inputs.clock 0 ≤ request.expiresAt := by
  have read := getRequest_found found (inputs.clock 0)
  constructor
  · rintro ⟨⟨_, returned, status_eq, _⟩, _⟩
    by_contra late
    have expired : request.isExpired (inputs.clock 0) = true := by
      simpa [PairingRequest.isExpired] using late
    rw [read, if_pos expired] at returned
    cases returned
    rcases final with approved | rejected
    · rw [approved] at status_eq
      cases status_eq
    · rw [rejected] at status_eq
      cases status_eq
  · intro timely
    rw [isExpired_eq_false timely] at read
    exact ⟨⟨request, read, rfl, rfl⟩, checkPairingStatus_found read⟩

end

/-- After any calls, the decision is returned and reported exactly until the request expires. -/
theorem decision_lasts_iff {rest : RestOfService} (platform : Platform) (range : TimeRange)
    (decided later : PairingState) (requestId : String) (request : PairingRequest)
    (found : decided.manager.requests.lookup requestId = some request) (final : Decided request)
    (run : Reaches (stepPairing range) FreshIds decided later) (service : Service rest)
    (held : service.pairingManager = later.manager) (inputs : CallInputs)
    (ordered : later.clock ≤ inputs.clock 0) :
    StillDecided platform service inputs requestId request ↔
      inputs.clock 0 ≤ request.expiresAt := by
  rcases settledSince_of_run found (not_pending_of_decided final) run with
    kept | ⟨timed_out, expired⟩
  · rw [← held] at kept
    exact stillDecided_iff kept final
  · rw [← held] at timed_out
    refine iff_of_false ?_ (not_le_of_gt (lt_of_lt_of_le expired ordered))
    rintro ⟨⟨current, returned, status_eq, _⟩, _⟩
    rw [getRequest_found timed_out] at returned
    have timeout : current.status = .timeout := by
      rw [← Option.some.inj returned]
      split_ifs <;> rfl
    rcases final with decision | decision <;> rw [timeout, decision] at status_eq <;> cases status_eq

def phone : PairingDevice where
  deviceName := "Phone"
  deviceModel := none
  clientCertificate := [1]
  verificationCode := "123456"
  ipAddress := none

def seconds (count : Nat) : Time := Time.afterSeconds 0 count

def approvedRequest : PairingRequest where
  requestId := "r"
  deviceName := "Phone"
  deviceModel := none
  clientCertificate := [1]
  verificationCode := "123456"
  createdAt := 0
  expiresAt := seconds 60
  status := .approved
  clientId := some "c"
  ipAddress := none

def approvalCalls : List PairingCall :=
  [.createRequest phone "r" 0 0, .approveRequest "r" "c" (seconds 10)]

theorem approved_after_calls :
    ∃ state, Reaches (stepPairing .sample) FreshIds (PairingState.started 60 0) state ∧
      state.manager.requests.lookup "r" = some approvedRequest ∧ state.clock = seconds 10 := by
  refine reaches_of_evaluated approvalCalls ?_
  decide +kernel

def serviceWith (manager : PairingRequestManager) : Service noFurtherService :=
  { newService.service with pairingManager := manager }

def callAt (now : Time) : CallInputs := { anonymousInputs with clock := fun _ => now }

theorem approval_lasts_a_minute :
    ∃ state, Reaches (stepPairing .sample) FreshIds (PairingState.started 60 0) state ∧
      state.manager.requests.lookup "r" = some approvedRequest ∧
      StillDecided smallPlatform (serviceWith state.manager) (callAt (seconds 50)) "r"
        approvedRequest := by
  obtain ⟨state, run, found, clock_eq⟩ := approved_after_calls
  refine ⟨state, run, found, ?_⟩
  have ordered : state.clock ≤ seconds 50 := by
    rw [clock_eq]
    decide
  exact (decision_lasts_iff smallPlatform .sample state state "r" approvedRequest found (.inl rfl)
    (Reaches.refl state) (serviceWith state.manager) rfl (callAt (seconds 50)) ordered).mpr
      (by decide)

/-- A second after the request has expired, the approval is gone. -/
theorem approval_is_forgotten :
    ∃ state, Reaches (stepPairing .sample) FreshIds (PairingState.started 60 0) state ∧
      state.manager.requests.lookup "r" = some approvedRequest ∧
      state.clock ≤ seconds 61 ∧
      (state.manager.getRequest "r" (seconds 61)).2 =
        some { approvedRequest with status := .timeout } ∧
      (checkPairingStatus smallPlatform (serviceWith state.manager) (callAt (seconds 61)) "r").2 =
        .ok ⟨.timeout, "", "Pairing request timed out", none⟩ := by
  refine reaches_of_evaluated approvalCalls ?_
  decide +kernel

/-- A call that finds the request expired makes it one that timed out. -/
def KeptOrTimedOut (request : PairingRequest) (stored : Option PairingRequest) : Prop :=
  stored = some request ∨ stored = some { request with status := .timeout }

/-- A request that is no longer pending is kept and not decided again: it can only time out. -/
theorem settled_request_is_final (range : TimeRange) (settledAt later : PairingState)
    (requestId : String) (request : PairingRequest)
    (found : settledAt.manager.requests.lookup requestId = some request)
    (settled : request.status ≠ .pending)
    (run : Reaches (stepPairing range) FreshIds settledAt later) :
    KeptOrTimedOut request (later.manager.requests.lookup requestId) :=
  (settledSince_of_run found settled run).imp_right And.left

theorem approved_request_is_final : ∃ approved later,
    Reaches (stepPairing .sample) FreshIds approved later ∧
      KeptOrTimedOut approvedRequest (later.manager.requests.lookup "r") := by
  obtain ⟨approved, _, found, _⟩ := approved_after_calls
  have fresh : FreshIds approved (.rejectRequest "r") := trivial
  have run : Reaches (stepPairing .sample) FreshIds approved _ := .single fresh rfl
  exact ⟨approved, _, run, settled_request_is_final .sample _ _ _ _ found (by decide) run⟩

end HandControl.PairingDecisions
