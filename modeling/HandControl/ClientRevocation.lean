import HandControl.ClientRegistryFiles

/-!
# Revoked clients

A client is removed by its identifier and recognised by the fingerprint of its certificate. A
device that enrolls again has a second entry with the same fingerprint.
-/

namespace HandControl.ClientRevocation

open ByteEncoding ClientRegistryFiles EnrolledClients

def enrolls (sha256 : Bytes → Digest) : StoreCall → Option String
  | .addClient certDer _ _ _ => some (fingerprintHex sha256 certDer)
  | _ => none

section

variable {Content : Type} {format : RegistryFormat Content} {sha256 : Bytes → Digest}
  {opened : OpenedStore Content} {fingerprint : String}

theorem touch_certFingerprint (ip : Option String) (now : Time) (client : ClientMetadata) :
    (touch ip now client).certFingerprint = client.certFingerprint := by
  unfold touch
  cases ip with
  | none => rfl
  | some => dsimp only; split_ifs <;> rfl

/-- After a removal the other entries are left, whether the files could be changed or not. -/
theorem removeClient_store (clientId : String) (removeFile registryWrite : Except String Unit) :
    (removeClient format opened clientId removeFile registryWrite).1.store =
      (retainOthers opened clientId).store := by
  unfold removeClient
  dsimp only
  split_ifs
  · rfl
  · cases removeFile with
    | error => rfl
    | ok => exact saveRegistry_store registryWrite
  · exact saveRegistry_store registryWrite

theorem isAuthorized_removeClient (clientId : String)
    (removeFile registryWrite : Except String Unit) :
    (removeClient format opened clientId removeFile registryWrite).1.store.isAuthorized
        fingerprint = true ↔
      ∃ client ∈ opened.store.registry, client.id ≠ clientId ∧
        client.certFingerprint = fingerprint := by
  rw [removeClient_store, ClientStore.isAuthorized_iff]
  simp [retainOthers, and_assoc]

theorem isAuthorized_updateLastSeen (clientId : String) (ip : Option String) (now : Time)
    (registryWrite : Except String Unit) :
    (updateLastSeenWithIp format opened clientId ip now registryWrite).1.store.isAuthorized
        fingerprint = true ↔ opened.store.isAuthorized fingerprint = true := by
  unfold updateLastSeenWithIp
  cases updated : modifyFirst (fun client => decide (client.id = clientId)) (touch ip now)
      opened.store.registry with
  | none => rfl
  | some =>
    obtain ⟨before, target, after, _, list, rfl⟩ := modifyFirst_some updated
    dsimp only
    rw [saveRegistry_store, ClientStore.isAuthorized_iff, ClientStore.isAuthorized_iff, list]
    simp only [List.mem_append, List.mem_cons, or_and_right, exists_or, exists_eq_left,
      touch_certFingerprint]

theorem execute_not_authorized {call : StoreCall}
    (unknown : ¬ opened.store.isAuthorized fingerprint = true)
    (other : enrolls sha256 call ≠ some fingerprint) :
    ¬ (execute format sha256 opened call).1.store.isAuthorized fingerprint = true := by
  cases call with
  | addClient certDer deviceName ip inputs =>
    show ¬ (addClient format sha256 opened certDer deviceName ip inputs).1.store.isAuthorized
      fingerprint = true
    rw [addClient_store, ClientStore.isAuthorized_addClient]
    rintro (known | ⟨_, same⟩)
    · exact unknown known
    · exact other (congrArg some same)
  | removeClient =>
    intro authorized
    obtain ⟨client, member, _, same⟩ := (isAuthorized_removeClient _ _ _).mp authorized
    exact unknown ((ClientStore.isAuthorized_iff _ _).mpr ⟨client, member, same⟩)
  | updateLastSeenWithIp =>
    exact fun authorized => unknown ((isAuthorized_updateLastSeen _ _ _ _).mp authorized)

theorem runCalls_not_authorized {calls : List StoreCall}
    (others : ∀ call ∈ calls, enrolls sha256 call ≠ some fingerprint)
    (unknown : ¬ opened.store.isAuthorized fingerprint = true) :
    ¬ (runCalls format sha256 opened calls).store.isAuthorized fingerprint = true := by
  induction calls generalizing opened with
  | nil => exact unknown
  | cons call rest induction =>
    exact induction (fun later member => others later (List.mem_cons_of_mem _ member))
      (execute_not_authorized unknown (others call List.mem_cons_self))

end

/-- The fingerprint is refused after all calls that do not enroll it. -/
def Revoked {Content : Type} (format : RegistryFormat Content) (sha256 : Bytes → Digest)
    (opened : OpenedStore Content) (fingerprint : String) : Prop :=
  ∀ later, (∀ call ∈ later, enrolls sha256 call ≠ some fingerprint) →
    ¬ (runCalls format sha256 opened later).store.isAuthorized fingerprint = true

/-- A removal revokes the certificate of a client exactly if no entry with another identifier has
the same certificate. This does not depend on whether the files could be changed. -/
theorem removal_revokes_iff {Content : Type} (format : RegistryFormat Content)
    (sha256 : Bytes → Digest) (opened : OpenedStore Content) (client : ClientMetadata)
    (removeFile registryWrite : Except String Unit) :
    Revoked format sha256
        (execute format sha256 opened (.removeClient client.id removeFile registryWrite)).1
        client.certFingerprint ↔
      ∀ other ∈ opened.store.registry, other.id ≠ client.id →
        other.certFingerprint ≠ client.certFingerprint := by
  constructor
  · intro revoked other member different same
    refine revoked [] (fun _ impossible => by cases impossible) ?_
    exact (isAuthorized_removeClient _ _ _).mpr ⟨other, member, different, same⟩
  · intro alone later others
    apply runCalls_not_authorized others
    intro authorized
    obtain ⟨other, member, different, same⟩ := (isAuthorized_removeClient _ _ _).mp authorized
    exact alone other member different same

def enrollAs (clientId : String) : StoreCall :=
  .addClient [1] "phone" none ⟨clientId, 0, .ok (), .ok ()⟩

def enrolledTwice : OpenedStore (List ClientMetadata) :=
  runCalls plainFormat zeroDigest emptyStore [enrollAs "first", enrollAs "second"]

def removeFirst : StoreCall := .removeClient "first" (.ok ()) (.ok ())

theorem second_entry_stays_authorized :
    (execute plainFormat zeroDigest enrolledTwice removeFirst).2 = .ok () ∧
      (execute plainFormat zeroDigest enrolledTwice removeFirst).1.store.isAuthorized
        (fingerprintHex zeroDigest [1]) = true ∧
      ¬ Revoked plainFormat zeroDigest (execute plainFormat zeroDigest enrolledTwice removeFirst).1
        (fingerprintHex zeroDigest [1]) := by
  have authorized : (execute plainFormat zeroDigest enrolledTwice
      removeFirst).1.store.isAuthorized (fingerprintHex zeroDigest [1]) = true := by
    decide +kernel
  exact ⟨by decide +kernel, authorized,
    fun revoked => revoked [] (fun _ impossible => by cases impossible) authorized⟩

end HandControl.ClientRevocation
