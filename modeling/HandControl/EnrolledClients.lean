import HandControl.ByteEncoding

/-!
# The store of enrolled clients

The registry of authorized client certificates. The outcome of a file-system write, the time and
fresh identifiers are inputs of each operation.
-/

namespace HandControl.EnrolledClients

open ByteEncoding

/-- Nanoseconds on the server's clock. -/
abbrev Time := Int

abbrev Digest := FixedBytes 32

def Time.afterSeconds (start : Time) (seconds : Int) : Time := start + seconds * 1000000000

/-- The conversion `as i64`. -/
def asI64 (value : UInt64) : Int := value.toInt64.toInt

/-- The times that the clock type can hold. An addition that leaves them panics. -/
structure TimeRange where
  earliest : Time
  latest : Time

def TimeRange.checkedAdd (range : TimeRange) (start : Time) (seconds : Int) : Option Time :=
  if range.earliest ≤ start.afterSeconds seconds ∧ start.afterSeconds seconds ≤ range.latest then
    some (start.afterSeconds seconds)
  else none

/-- A range for the examples, from 1970 to 2099. -/
def TimeRange.sample : TimeRange := ⟨0, Time.afterSeconds 0 4102444799⟩

theorem TimeRange.checkedAdd_eq_some {range : TimeRange} {start sum : Time} {seconds : Int}
    (added : range.checkedAdd start seconds = some sum) : sum = start.afterSeconds seconds := by
  unfold checkedAdd at added
  split_ifs at added
  exact (Option.some.inj added).symm

theorem Time.afterSeconds_mono (start : Time) {fewer more : Int} (ordered : fewer ≤ more) :
    start.afterSeconds fewer ≤ start.afterSeconds more :=
  Int.add_le_add_left (Int.mul_le_mul_of_nonneg_right ordered (by decide)) start

/-- A number that does not fit turns negative. -/
theorem asI64_le (value : UInt64) : asI64 value ≤ value.toNat := by
  have split := value.toBitVec.toInt_eq_toNat_cond
  have same : asI64 value = value.toBitVec.toInt := rfl
  rw [same, split]
  split_ifs <;> simp

def fingerprintHex (sha256 : Bytes → Digest) (certDer : Bytes) : String :=
  String.ofList (hexEncode (sha256 certDer).bytes)

structure IpConnection where
  ipAddress : String
  connectedAt : Time
  deriving DecidableEq

structure ClientMetadata where
  id : String
  name : String
  certFingerprint : String
  enrolledAt : Time
  lastSeen : Time
  ipHistory : List IpConnection
  deriving DecidableEq

structure ClientStore where
  registry : List ClientMetadata
  deriving DecidableEq

namespace ClientStore

def getClientByFingerprint (store : ClientStore) (fingerprint : String) :
    Option ClientMetadata :=
  store.registry.find? fun client => client.certFingerprint = fingerprint

def isAuthorized (store : ClientStore) (certFingerprint : String) : Bool :=
  (store.getClientByFingerprint certFingerprint).isSome

structure AddClientInputs where
  clientId : String
  now : Time
  certificateWrite : Except String Unit
  registrySave : Except String Unit

def newMetadata (sha256 : Bytes → Digest) (certDer : Bytes) (deviceName : String)
    (ip : Option String) (inputs : AddClientInputs) : ClientMetadata where
  id := inputs.clientId
  name := deviceName
  certFingerprint := fingerprintHex sha256 certDer
  enrolledAt := inputs.now
  lastSeen := inputs.now
  ipHistory := match ip with
    | some address => [⟨address, inputs.now⟩]
    | none => []

/-- The certificate file is written before the registry changes and the registry file
after it. A failed save leaves the new entry in memory. -/
def addClient (sha256 : Bytes → Digest) (store : ClientStore) (certDer : Bytes)
    (deviceName : String) (ip : Option String) (inputs : AddClientInputs) :
    ClientStore × Except String String :=
  match inputs.certificateWrite with
  | .error message => (store, .error message)
  | .ok () =>
    let metadata := newMetadata sha256 certDer deviceName ip inputs
    let extended : ClientStore := ⟨store.registry ++ [metadata]⟩
    match inputs.registrySave with
    | .error message => (extended, .error message)
    | .ok () => (extended, .ok inputs.clientId)

theorem isAuthorized_iff (store : ClientStore) (fingerprint : String) :
    store.isAuthorized fingerprint = true ↔
      ∃ client ∈ store.registry, client.certFingerprint = fingerprint := by
  simp [isAuthorized, getClientByFingerprint, List.find?_isSome]

theorem isAuthorized_addClient (sha256 : Bytes → Digest) (store : ClientStore)
    (certDer : Bytes) (deviceName : String) (ip : Option String) (inputs : AddClientInputs)
    (fingerprint : String) :
    (store.addClient sha256 certDer deviceName ip inputs).1.isAuthorized fingerprint = true ↔
      store.isAuthorized fingerprint = true ∨
        (inputs.certificateWrite = .ok () ∧ fingerprintHex sha256 certDer = fingerprint) := by
  unfold addClient
  cases inputs.certificateWrite with
  | error => simp
  | ok =>
    cases inputs.registrySave <;>
      simp [isAuthorized_iff, newMetadata, or_and_right, exists_or]

end ClientStore

end HandControl.EnrolledClients
