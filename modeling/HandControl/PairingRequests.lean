import HandControl.EnrolledClients
import HandControl.KeyedTable

/-!
# Pairing requests

Requests that an enrolled client or the operator approves. Clock readings are inputs; the clean-up,
which reads the clock again for every request, is given a single one.
-/

namespace HandControl.PairingRequests

open KeyedTable ByteEncoding EnrolledClients

inductive PairingRequestStatus
  | pending
  | approved
  | rejected
  | timeout
  deriving DecidableEq

structure PairingRequest where
  requestId : String
  deviceName : String
  deviceModel : Option String
  clientCertificate : Bytes
  verificationCode : String
  createdAt : Time
  expiresAt : Time
  status : PairingRequestStatus
  clientId : Option String
  ipAddress : Option String
  deriving DecidableEq

namespace PairingRequest

def isExpired (request : PairingRequest) (now : Time) : Bool := decide (now > request.expiresAt)

def isPending (request : PairingRequest) (now : Time) : Bool :=
  request.status = .pending && !request.isExpired now

end PairingRequest

structure PairingRequestManager where
  requests : Table String PairingRequest
  timeoutSeconds : UInt64

namespace PairingRequestManager

/-- Expired requests go unless their status says that they were decided. -/
def cleanupExpiredRequests (manager : PairingRequestManager) (now : Time) :
    PairingRequestManager :=
  let requests := Table.retain
    (fun request => !request.isExpired now || request.status ≠ .pending) manager.requests
  { manager with requests := requests }

structure PairingDevice where
  deviceName : String
  deviceModel : Option String
  clientCertificate : Bytes
  verificationCode : String
  ipAddress : Option String

/-- The new request panics before the manager is locked, if it does. -/
def createRequest (range : TimeRange) (manager : PairingRequestManager) (device : PairingDevice)
    (requestId : String) (created cleaned : Time) :
    Option (PairingRequestManager × PairingRequest) :=
  (range.checkedAdd created (asI64 manager.timeoutSeconds)).map fun expiresAt =>
    let request : PairingRequest := {
      requestId := requestId
      deviceName := device.deviceName
      deviceModel := device.deviceModel
      clientCertificate := device.clientCertificate
      verificationCode := device.verificationCode
      createdAt := created
      expiresAt := expiresAt
      status := .pending
      clientId := none
      ipAddress := device.ipAddress
    }
    let kept := manager.cleanupExpiredRequests cleaned
    ({ kept with requests := kept.requests.insert requestId request }, request)

/-- Reading an expired request first turns it into a timed out one. -/
def getRequest (manager : PairingRequestManager) (requestId : String) (now : Time) :
    PairingRequestManager × Option PairingRequest :=
  let requests := Table.modify requestId
    (fun request => if request.isExpired now then { request with status := .timeout } else request)
    manager.requests
  ({ manager with requests := requests }, requests.lookup requestId)

def approveRequest (manager : PairingRequestManager) (requestId clientId : String)
    (now : Time) : PairingRequestManager × Except String Unit :=
  match manager.requests.lookup requestId with
  | none => (manager, .error "Pairing request not found")
  | some request =>
    if request.isExpired now then
      let expired := { request with status := .timeout }
      ({ manager with requests := manager.requests.insert requestId expired },
        .error "Pairing request has expired")
    else if request.status ≠ .pending then
      (manager, .error "Pairing request is not pending")
    else
      let approved := { request with status := .approved, clientId := some clientId }
      ({ manager with requests := manager.requests.insert requestId approved }, .ok ())

/-- Unlike an approval, a rejection does not look at the clock. -/
def rejectRequest (manager : PairingRequestManager) (requestId : String) :
    PairingRequestManager × Except String Unit :=
  match manager.requests.lookup requestId with
  | none => (manager, .error "Pairing request not found")
  | some request =>
    if request.status ≠ .pending then (manager, .error "Pairing request is not pending")
    else
      let rejected := { request with status := .rejected }
      ({ manager with requests := manager.requests.insert requestId rejected }, .ok ())

def listPending (manager : PairingRequestManager) (cleaned now : Time) :
    PairingRequestManager × List PairingRequest :=
  let kept := manager.cleanupExpiredRequests cleaned
  (kept, (Table.values kept.requests).filter fun request => request.isPending now)

end PairingRequestManager

structure ApprovalReadings where
  looked : Time
  checked : Time
  decided : Time

/-- Look the request up, store its certificate, and only then mark it approved. `others` is what
others do with the manager after the look-up. -/
def approvePairingRequest (sha256 : Bytes → Digest) (requestId : String)
    (others : PairingRequestManager → PairingRequestManager) (manager : PairingRequestManager)
    (store : ClientStore) (readings : ApprovalReadings) (inputs : ClientStore.AddClientInputs) :
    PairingRequestManager × ClientStore × Except String String :=
  match manager.getRequest requestId readings.looked with
  | (manager, none) => (others manager, store, .error "Pairing request not found")
  | (manager, some request) =>
    let manager := others manager
    if !request.isPending readings.checked then
      (manager, store, .error "Pairing request is not pending")
    else
      match store.addClient sha256 request.clientCertificate request.deviceName
          request.ipAddress inputs with
      | (store, .error message) => (manager, store, .error message)
      | (store, .ok clientId) =>
        match manager.approveRequest requestId clientId readings.decided with
        | (manager, .error message) => (manager, store, .error message)
        | (manager, .ok ()) => (manager, store, .ok clientId)

end HandControl.PairingRequests
