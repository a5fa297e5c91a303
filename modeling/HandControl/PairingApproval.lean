import HandControl.PairingDecisions

/-!
# Approving a pairing request

The certificate is stored before the request is marked approved, under another lock. What happens to
the request in between, and a failed write of the registry file, make the approval fail with the
client already stored.
-/

namespace HandControl.PairingApproval

open ByteEncoding EnrolledClients KeyedTable PairingDecisions PairingRequests

def executeAll (range : TimeRange) (manager : PairingRequestManager) (calls : List PairingCall) :
    PairingRequestManager :=
  calls.foldl (PairingCall.execute range) manager

/-- `approve_pairing_request` with the calls that others make between its two uses of the
manager. The store is locked throughout. -/
def approveAmong (range : TimeRange) (sha256 : Bytes → Digest) (requestId : String)
    (manager : PairingRequestManager) (store : ClientStore) (readings : ApprovalReadings)
    (inputs : ClientStore.AddClientInputs) (between : List PairingCall) :
    PairingRequestManager × ClientStore × Except String String :=
  approvePairingRequest sha256 requestId (fun manager => executeAll range manager between) manager
    store readings inputs

def ApprovedFor (manager : PairingRequestManager) (requestId clientId : String) : Prop :=
  ∃ request, manager.requests.lookup requestId = some request ∧ request.status = .approved ∧
    request.clientId = some clientId

def AddedOnly (before after : ClientStore) (clientId fingerprint : String) : Prop :=
  ∃ client, after.registry = before.registry ++ [client] ∧ client.id = clientId ∧
    client.certFingerprint = fingerprint

def SameFingerprints (before after : ClientStore) : Prop :=
  ∀ fingerprint, after.isAuthorized fingerprint = before.isAuthorized fingerprint

/-- What an approval is to leave behind. -/
structure AllOrNothing (sha256 : Bytes → Digest) (requestId : String)
    (manager : PairingRequestManager) (store : ClientStore)
    (outcome : PairingRequestManager × ClientStore × Except String String) : Prop where
  ok_iff : ∀ clientId, outcome.2.2 = .ok clientId ↔
    ApprovedFor outcome.1 requestId clientId ∧
      ∃ request, manager.requests.lookup requestId = some request ∧
        AddedOnly store outcome.2.1 clientId (fingerprintHex sha256 request.clientCertificate)
  error : ∀ message, outcome.2.2 = .error message → SameFingerprints store outcome.2.1

def OthersUse (clientId : String) (between : List PairingCall) : Prop :=
  ∃ requestId now, PairingCall.approveRequest requestId clientId now ∈ between

def FoundPending (manager : PairingRequestManager) (requestId : String)
    (readings : ApprovalReadings) (request : PairingRequest) : Prop :=
  (manager.getRequest requestId readings.looked).2 = some request ∧
    request.isPending readings.checked = true

/-- Nothing keeps an approval with a written certificate from its end: the registry file is
written, and the request is still pending after the calls of others. -/
def Completes (range : TimeRange) (manager : PairingRequestManager) (requestId : String)
    (readings : ApprovalReadings) (inputs : ClientStore.AddClientInputs)
    (between : List PairingCall) : Prop :=
  inputs.registrySave = .ok () ∧
    ∃ request, (executeAll range (manager.getRequest requestId readings.looked).1
      between).requests.lookup requestId = some request ∧
        request.isPending readings.decided = true

theorem not_addedOnly_self (store : ClientStore) (clientId fingerprint : String) :
    ¬ AddedOnly store store clientId fingerprint := by
  rintro ⟨_, same, _⟩
  have lengths := congrArg List.length same
  simp at lengths

variable {range : TimeRange} {request : PairingRequest} {now : Time} {message : String}
variable {outcome : PairingRequestManager × ClientStore × Except String String}

section

variable {manager : PairingRequestManager} {requestId clientId : String}

theorem isPending_iff :
    request.isPending now = true ↔ request.status = .pending ∧ request.isExpired now = false := by
  simp [PairingRequest.isPending]

theorem approveRequest_pending {request : PairingRequest} {now : Time}
    (found : manager.requests.lookup requestId = some request)
    (pending : request.isPending now = true) :
    (manager.approveRequest requestId clientId now).2 = .ok () ∧
      ApprovedFor (manager.approveRequest requestId clientId now).1 requestId clientId := by
  obtain ⟨status, unexpired⟩ := isPending_iff.mp pending
  have approved : manager.approveRequest requestId clientId now =
      ({ manager with
          requests := manager.requests.insert requestId
            { request with status := .approved, clientId := some clientId } }, .ok ()) := by
    simp [PairingRequestManager.approveRequest, found, unexpired, status]
  rw [approved]
  exact ⟨rfl, _, AList.lookup_insert _, rfl, rfl⟩

theorem approveRequest_not_pending {now : Time}
    (none_pending : ∀ request, manager.requests.lookup requestId = some request →
      request.isPending now = false) :
    ∃ message, (manager.approveRequest requestId clientId now).2 = .error message := by
  unfold PairingRequestManager.approveRequest
  cases found : manager.requests.lookup requestId with
  | none => exact ⟨_, rfl⟩
  | some request =>
    have refused := none_pending request found
    dsimp only
    split_ifs with expired decided
    · exact ⟨_, rfl⟩
    · exact ⟨_, rfl⟩
    · have pending : request.isPending now = true :=
        isPending_iff.mpr ⟨not_not.mp decided, by simpa using expired⟩
      rw [refused] at pending
      cases pending

theorem approvedFor_of_insert {other : String} {requests : Table String PairingRequest}
    (approved : ApprovedFor ⟨requests.insert other request, manager.timeoutSeconds⟩ requestId
      clientId) :
    ApprovedFor ⟨requests, manager.timeoutSeconds⟩ requestId clientId ∨
      requestId = other ∧ request.status = .approved ∧ request.clientId = some clientId := by
  obtain ⟨found, stored, status, client⟩ := approved
  rcases Table.lookup_insert_cases stored with earlier | ⟨same, rfl⟩
  · exact .inl ⟨found, earlier, status, client⟩
  · exact .inr ⟨same, status, client⟩

theorem approvedFor_of_cleanup
    (approved : ApprovedFor (manager.cleanupExpiredRequests now) requestId clientId) :
    ApprovedFor manager requestId clientId := by
  obtain ⟨found, stored, status, client⟩ := approved
  simp only [PairingRequestManager.cleanupExpiredRequests, Table.lookup_retain] at stored
  exact ⟨found, (Option.filter_eq_some_iff.mp stored).1, status, client⟩

theorem approvedFor_of_execute {call : PairingCall}
    (approved : ApprovedFor (call.execute range manager) requestId clientId) :
    ApprovedFor manager requestId clientId ∨
      ∃ now, call = .approveRequest requestId clientId now := by
  cases call with
  | createRequest =>
    left
    simp only [PairingCall.execute] at approved
    split at approved
    · exact approved
    · rename_i created
      obtain ⟨_, _, result⟩ := Option.map_eq_some_iff.mp created
      cases result
      rcases approvedFor_of_insert approved with kept | ⟨_, status, _⟩
      · exact approvedFor_of_cleanup kept
      · cases status
  | getRequest readId =>
    left
    obtain ⟨found, stored, status, client⟩ := approved
    have stored : (Table.modify readId _ manager.requests).lookup requestId = some found := stored
    rw [Table.lookup_modify] at stored
    split_ifs at stored with same
    · obtain ⟨_, lookup_eq, changed⟩ := Option.map_eq_some_iff.mp stored
      split_ifs at changed with expired
      · rw [← changed] at status
        cases status
      · rw [changed] at lookup_eq
        exact ⟨found, same ▸ lookup_eq, status, client⟩
    · exact ⟨found, stored, status, client⟩
  | approveRequest approvedId _ now =>
    simp only [PairingCall.execute, PairingRequestManager.approveRequest] at approved
    cases found : manager.requests.lookup approvedId with
    | none =>
      rw [found] at approved
      exact .inl approved
    | some =>
      rw [found] at approved
      dsimp only at approved
      split_ifs at approved
      · rcases approvedFor_of_insert approved with kept | ⟨_, status, _⟩
        · exact .inl kept
        · cases status
      · exact .inl approved
      · rcases approvedFor_of_insert approved with kept | ⟨same, _, client⟩
        · exact .inl kept
        · right
          rw [Option.some.inj client, same]
          exact ⟨now, rfl⟩
  | rejectRequest rejectedId =>
    left
    simp only [PairingCall.execute, PairingRequestManager.rejectRequest] at approved
    cases found : manager.requests.lookup rejectedId with
    | none =>
      rw [found] at approved
      exact approved
    | some =>
      rw [found] at approved
      dsimp only at approved
      split_ifs at approved
      · exact approved
      · rcases approvedFor_of_insert approved with kept | ⟨_, status, _⟩
        · exact kept
        · cases status
  | listPending => exact .inl (approvedFor_of_cleanup approved)

theorem approvedFor_of_executeAll {calls : List PairingCall}
    (approved : ApprovedFor (executeAll range manager calls) requestId clientId) :
    ApprovedFor manager requestId clientId ∨ OthersUse clientId calls := by
  induction calls generalizing manager with
  | nil => exact .inl approved
  | cons call rest ih =>
    rcases ih approved with earlier | ⟨otherId, now, member⟩
    · rcases approvedFor_of_execute earlier with before | ⟨now, rfl⟩
      · exact .inl before
      · exact .inr ⟨requestId, now, List.mem_cons_self⟩
    · exact .inr ⟨otherId, now, List.mem_cons_of_mem _ member⟩

theorem approvedFor_of_failed {otherClient : String}
    (failed : (manager.approveRequest requestId otherClient now).2 = .error message)
    (approved : ApprovedFor (manager.approveRequest requestId otherClient now).1 requestId
      clientId) : ApprovedFor manager requestId clientId := by
  unfold PairingRequestManager.approveRequest at failed approved
  cases found : manager.requests.lookup requestId with
  | none =>
    rw [found] at approved
    exact approved
  | some =>
    rw [found] at approved failed
    dsimp only at approved failed
    split_ifs at approved failed
    · rcases approvedFor_of_insert approved with kept | ⟨_, status, _⟩
      · exact kept
      · cases status
    · exact approved

theorem lookup_of_foundPending {readings : ApprovalReadings} {request : PairingRequest}
    (pending : FoundPending manager requestId readings request) :
    manager.requests.lookup requestId = some request ∧
      ¬ ApprovedFor (manager.getRequest requestId readings.looked).1 requestId clientId := by
  obtain ⟨returned, is_pending⟩ := pending
  have status := (isPending_iff.mp is_pending).1
  have current : (manager.getRequest requestId readings.looked).1.requests.lookup requestId =
      some request := returned
  constructor
  · have modified : (Table.modify requestId _ manager.requests).lookup requestId =
        some request := returned
    rw [Table.lookup_modify, if_pos rfl] at modified
    obtain ⟨_, stored, changed⟩ := Option.map_eq_some_iff.mp modified
    split_ifs at changed
    · rw [← changed] at status
      cases status
    · rw [← changed]
      exact stored
  · rintro ⟨_, stored, approved, _⟩
    rw [current] at stored
    cases stored
    rw [status] at approved
    cases approved

end

def extended (sha256 : Bytes → Digest) (store : ClientStore) (request : PairingRequest)
    (inputs : ClientStore.AddClientInputs) : ClientStore :=
  ⟨store.registry ++ [ClientStore.newMetadata sha256 request.clientCertificate request.deviceName
    request.ipAddress inputs]⟩

section

variable {sha256 : Bytes → Digest} {store : ClientStore} {inputs : ClientStore.AddClientInputs}

theorem addedOnly_extended_iff {clientId : String} :
    AddedOnly store (extended sha256 store request inputs) clientId
        (fingerprintHex sha256 request.clientCertificate) ↔ clientId = inputs.clientId := by
  constructor
  · rintro ⟨_, registry_eq, id_eq, _⟩
    have same := List.append_cancel_left registry_eq
    rw [← id_eq, ← List.cons.inj same |>.1]
    rfl
  · rintro rfl
    exact ⟨_, rfl, rfl, rfl⟩

theorem sameFingerprints_extended_iff :
    SameFingerprints store (extended sha256 store request inputs) ↔
      store.isAuthorized (fingerprintHex sha256 request.clientCertificate) = true := by
  have authorized (fingerprint : String) :
      (extended sha256 store request inputs).isAuthorized fingerprint = true ↔
        store.isAuthorized fingerprint = true ∨
          fingerprintHex sha256 request.clientCertificate = fingerprint := by
    simp only [extended, ClientStore.isAuthorized_iff, List.mem_append, List.mem_singleton]
    constructor
    · rintro ⟨client, before | rfl, print_eq⟩
      · exact .inl ⟨client, before, print_eq⟩
      · exact .inr print_eq
    · rintro (⟨client, before, print_eq⟩ | print_eq)
      · exact ⟨client, .inl before, print_eq⟩
      · exact ⟨_, .inr rfl, print_eq⟩
  constructor
  · intro same
    rw [← same]
    exact (authorized _).mpr (.inr rfl)
  · intro known fingerprint
    rw [Bool.eq_iff_iff, authorized]
    constructor
    · rintro (before | rfl)
      · exact before
      · exact known
    · exact .inl

end

section

variable {sha256 : Bytes → Digest} {requestId : String} {manager : PairingRequestManager}
  {store : ClientStore} {readings : ApprovalReadings} {inputs : ClientStore.AddClientInputs}
  {between : List PairingCall}

theorem allOrNothing_of_untouched (failed : outcome.2.2 = .error message)
    (untouched : outcome.2.1 = store) : AllOrNothing sha256 requestId manager store outcome := by
  constructor
  · intro clientId
    rw [failed, untouched]
    constructor
    · intro impossible
      cases impossible
    · rintro ⟨_, _, _, added⟩
      exact absurd added (not_addedOnly_self store _ _)
  · intro _ _ fingerprint
    rw [untouched]

theorem approveAmong_not_pending
    (none_pending : ∀ request, ¬ FoundPending manager requestId readings request) :
    ∃ message, (approveAmong range sha256 requestId manager store readings inputs between).2 =
      (store, .error message) := by
  unfold approveAmong approvePairingRequest
  split
  · exact ⟨_, rfl⟩
  · rename_i request read
    have returned : (manager.getRequest requestId readings.looked).2 = some request :=
      congrArg Prod.snd read
    have refused : request.isPending readings.checked = false := by
      cases pending : request.isPending readings.checked with
      | false => rfl
      | true => exact absurd ⟨returned, pending⟩ (none_pending request)
    simp only [refused, Bool.not_false, if_true]
    exact ⟨_, rfl⟩

/-- The approval of a pending request up to the attempt to store its certificate. -/
theorem approveAmong_pending (pending : FoundPending manager requestId readings request) :
    approveAmong range sha256 requestId manager store readings inputs between =
      match store.addClient sha256 request.clientCertificate request.deviceName
          request.ipAddress inputs with
      | (store, .error message) =>
        (executeAll range (manager.getRequest requestId readings.looked).1 between, store,
          .error message)
      | (store, .ok clientId) =>
        match (executeAll range (manager.getRequest requestId readings.looked).1
            between).approveRequest requestId clientId readings.decided with
        | (after, .error message) => (after, store, .error message)
        | (after, .ok ()) => (after, store, .ok clientId) := by
  obtain ⟨returned, is_pending⟩ := pending
  have read : manager.getRequest requestId readings.looked =
      ((manager.getRequest requestId readings.looked).1, some request) := by
    rw [← returned]
  unfold approveAmong approvePairingRequest
  rw [read]
  exact if_neg (by simp [is_pending])

theorem addClient_unwritten (unwritten : inputs.certificateWrite = .error message) :
    store.addClient sha256 request.clientCertificate request.deviceName request.ipAddress inputs =
      (store, .error message) := by
  simp only [ClientStore.addClient, unwritten]

theorem addClient_written (written : inputs.certificateWrite = .ok ()) :
    store.addClient sha256 request.clientCertificate request.deviceName request.ipAddress inputs =
      (extended sha256 store request inputs, inputs.registrySave.map fun _ => inputs.clientId) := by
  simp only [ClientStore.addClient, written]
  cases inputs.registrySave with
  | error | ok => rfl

theorem allOrNothing_of_completed (stored : manager.requests.lookup requestId = some request)
    (approved : ApprovedFor outcome.1 requestId inputs.clientId)
    (result : outcome.2 = (extended sha256 store request inputs, .ok inputs.clientId)) :
    AllOrNothing sha256 requestId manager store outcome := by
  constructor
  · intro clientId
    rw [result]
    constructor
    · intro same
      cases same
      exact ⟨approved, request, stored, addedOnly_extended_iff.mpr rfl⟩
    · rintro ⟨_, _, found_eq, added⟩
      rw [stored] at found_eq
      cases found_eq
      rw [addedOnly_extended_iff.mp added]
  · intro message failed
    rw [result] at failed
    cases failed

theorem allOrNothing_of_stored_iff (stored : manager.requests.lookup requestId = some request)
    (unapproved : ¬ ApprovedFor outcome.1 requestId inputs.clientId)
    (result : outcome.2 = (extended sha256 store request inputs, .error message)) :
    AllOrNothing sha256 requestId manager store outcome ↔
      store.isAuthorized (fingerprintHex sha256 request.clientCertificate) = true := by
  rw [← @sameFingerprints_extended_iff request sha256 store inputs]
  constructor
  · intro holds
    have same := holds.error message (congrArg Prod.snd result)
    rwa [congrArg Prod.fst result] at same
  · intro same
    constructor
    · intro clientId
      rw [result]
      constructor
      · intro impossible
        cases impossible
      · rintro ⟨approved, _, found_eq, added⟩
        rw [stored] at found_eq
        cases found_eq
        rw [addedOnly_extended_iff.mp added] at approved
        exact absurd approved unapproved
    · intro _ _
      rw [result]
      exact same

/-- Once the certificate of a pending request is written, the approval has to get to its end. -/
theorem allOrNothing_written_iff (fresh : ¬ OthersUse inputs.clientId between)
    (pending : FoundPending manager requestId readings request)
    (written : inputs.certificateWrite = .ok ()) :
    AllOrNothing sha256 requestId manager store
        (approveAmong range sha256 requestId manager store readings inputs between) ↔
      Completes range manager requestId readings inputs between ∨
        store.isAuthorized (fingerprintHex sha256 request.clientCertificate) = true := by
  obtain ⟨stored, not_yet⟩ := @lookup_of_foundPending _ _ inputs.clientId _ _ pending
  rw [approveAmong_pending pending, addClient_written written]
  unfold Completes
  generalize executed : executeAll range (manager.getRequest requestId readings.looked).1 between =
    current
  have unapproved : ¬ ApprovedFor current requestId inputs.clientId := by
    rw [← executed]
    intro approved
    rcases approvedFor_of_executeAll approved with before | others
    · exact not_yet before
    · exact fresh others
  cases saved : inputs.registrySave with
  | error message =>
    have incomplete : (Except.error message : Except String Unit) ≠ .ok () := by simp
    simp only [incomplete, false_and, false_or]
    exact allOrNothing_of_stored_iff stored unapproved rfl
  | ok =>
    simp only [Except.map, true_and]
    by_cases still : ∃ found, current.requests.lookup requestId = some found ∧
        found.isPending readings.decided = true
    · have completed := still
      obtain ⟨_, found_eq, found_pending⟩ := still
      obtain ⟨ok, approved⟩ :=
        @approveRequest_pending _ _ inputs.clientId _ _ found_eq found_pending
      apply iff_of_true _ (.inl completed)
      generalize current.approveRequest requestId inputs.clientId readings.decided = outcome
        at ok approved
      obtain ⟨after, result⟩ := outcome
      cases ok
      exact allOrNothing_of_completed stored approved rfl
    · have none_pending : ∀ found, current.requests.lookup requestId = some found →
          found.isPending readings.decided = false := by
        intro found found_eq
        by_contra found_pending
        exact still ⟨found, found_eq, by simpa using found_pending⟩
      obtain ⟨_, failed⟩ := @approveRequest_not_pending _ _ inputs.clientId _ none_pending
      have not_approved := fun approved => unapproved (approvedFor_of_failed failed approved)
      simp only [still, false_or]
      generalize current.approveRequest requestId inputs.clientId readings.decided = outcome
        at failed not_approved
      obtain ⟨after, result⟩ := outcome
      cases failed
      exact allOrNothing_of_stored_iff stored not_approved rfl

end

/-- An approval is all or nothing exactly if, once it has written the certificate of a pending
request, it also gets to its end or the certificate was authorized before. -/
theorem approval_all_or_nothing_iff (range : TimeRange) (sha256 : Bytes → Digest)
    (requestId : String)
    (manager : PairingRequestManager) (store : ClientStore) (readings : ApprovalReadings)
    (inputs : ClientStore.AddClientInputs) (between : List PairingCall)
    (fresh : ¬ OthersUse inputs.clientId between) :
    AllOrNothing sha256 requestId manager store
        (approveAmong range sha256 requestId manager store readings inputs between) ↔
      ∀ request, FoundPending manager requestId readings request →
        inputs.certificateWrite = .ok () →
          Completes range manager requestId readings inputs between ∨
            store.isAuthorized (fingerprintHex sha256 request.clientCertificate) = true := by
  by_cases found : ∃ request, FoundPending manager requestId readings request
  · obtain ⟨request, pending⟩ := found
    cases written : inputs.certificateWrite with
    | error =>
      apply iff_of_true
      · rw [approveAmong_pending pending, addClient_unwritten written]
        exact allOrNothing_of_untouched rfl rfl
      · intro _ _ impossible
        cases impossible
    | ok =>
      rw [allOrNothing_written_iff fresh pending written]
      constructor
      · intro condition other other_pending _
        have same : other = request :=
          Option.some.inj (other_pending.1.symm.trans pending.1)
        rw [same]
        exact condition
      · intro condition
        exact condition request pending rfl
  · have none_pending : ∀ request, ¬ FoundPending manager requestId readings request :=
      fun request pending => found ⟨request, pending⟩
    obtain ⟨_, result⟩ := @approveAmong_not_pending range sha256 requestId manager store
      readings inputs between none_pending
    apply iff_of_true
    · exact allOrNothing_of_untouched (congrArg Prod.snd result) (congrArg Prod.fst result)
    · intro request pending
      exact absurd pending (none_pending request)

def pendingRequest : PairingRequest := { approvedRequest with status := .pending, clientId := none }

def pendingManager : PairingRequestManager :=
  ⟨(∅ : Table String PairingRequest).insert "r" pendingRequest, 60⟩

def tenSeconds : ApprovalReadings := ⟨seconds 10, seconds 10, seconds 10⟩

def writtenInputs : ClientStore.AddClientInputs := ⟨"c", seconds 10, .ok (), .ok ()⟩

def approveR (between : List PairingCall) :
    PairingRequestManager × ClientStore × Except String String :=
  approveAmong .sample RemoteControlService.paddingHash "r" pendingManager ⟨[]⟩ tenSeconds
    writtenInputs between

theorem undisturbed_approval_complete :
    (approveR [.getRequest "r" (seconds 10)]).2.2 = .ok "c" ∧
      AllOrNothing RemoteControlService.paddingHash "r" pendingManager ⟨[]⟩
        (approveR [.getRequest "r" (seconds 10)]) := by
  refine ⟨by decide +kernel, ?_⟩
  apply (approval_all_or_nothing_iff .sample RemoteControlService.paddingHash "r" pendingManager
    ⟨[]⟩ tenSeconds writtenInputs [.getRequest "r" (seconds 10)] ?_).mpr
  · intro request pending _
    refine .inl ⟨rfl, pendingRequest, ?_, ?_⟩
    · decide +kernel
    · decide +kernel
  · rintro ⟨_, _, member⟩
    cases List.mem_singleton.mp member

/-- The request is rejected after it was found pending. The approval fails, and the certificate
is authorized all the same. -/
theorem rejected_request_is_authorized :
    (approveR [.rejectRequest "r"]).2.2 = .error "Pairing request is not pending" ∧
      ¬ SameFingerprints ⟨[]⟩ (approveR [.rejectRequest "r"]).2.1 ∧
      ¬ AllOrNothing RemoteControlService.paddingHash "r" pendingManager ⟨[]⟩
        (approveR [.rejectRequest "r"]) := by
  have failed : (approveR [.rejectRequest "r"]).2.2 = .error "Pairing request is not pending" := by
    decide +kernel
  have changed : ¬ SameFingerprints ⟨[]⟩ (approveR [.rejectRequest "r"]).2.1 := by
    intro same
    have authorized : (approveR [.rejectRequest "r"]).2.1.isAuthorized
        (fingerprintHex RemoteControlService.paddingHash [1]) = true := by
      decide +kernel
    rw [same] at authorized
    cases authorized
  exact ⟨failed, changed, fun holds => changed (holds.error _ failed)⟩

end HandControl.PairingApproval
