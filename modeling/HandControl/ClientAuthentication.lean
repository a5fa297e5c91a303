import HandControl.RemoteControlService
import HandControl.TransitionRuns

/-!
# Client authentication

The TLS verifier of the server. A handshake completes exactly when the configured verifier accepts
the certificate and the handshake signature; the RPC methods then see that certificate.
-/

namespace HandControl.ClientAuthentication

open ByteEncoding EnrolledClients RemoteControlService TransitionRuns

inductive TlsVersion
  | tls12
  | tls13
  deriving DecidableEq

inductive SignatureScheme
  | ecdsaNistp256Sha256
  | ecdsaNistp384Sha384
  | ed25519
  | rsaPssSha256
  | rsaPssSha384
  | rsaPssSha512
  | rsaPkcs1Sha256
  | rsaPkcs1Sha384
  | rsaPkcs1Sha512
  deriving DecidableEq

structure DigitallySignedStruct where
  scheme : SignatureScheme
  signature : Bytes
  deriving DecidableEq

/-- The callbacks that decide about a client's side of a handshake. -/
structure ClientCertVerifier where
  clientAuthMandatory : Bool
  verifyClientCert : Bytes → List Bytes → Except String Unit
  verifyTls12Signature : Bytes → Bytes → DigitallySignedStruct → Except String Unit
  verifyTls13Signature : Bytes → Bytes → DigitallySignedStruct → Except String Unit

def permissiveClientVerifier : ClientCertVerifier where
  clientAuthMandatory := false
  verifyClientCert := fun _ _ => .ok ()
  verifyTls12Signature := fun _ _ _ => .ok ()
  verifyTls13Signature := fun _ _ _ => .ok ()

def ClientCertVerifier.verifySignature (verifier : ClientCertVerifier) :
    TlsVersion → Bytes → Bytes → DigitallySignedStruct → Except String Unit
  | .tls12 => verifier.verifyTls12Signature
  | .tls13 => verifier.verifyTls13Signature

/-- A certificate chain with the signature made over the handshake messages. -/
structure ClientCredentials where
  endEntity : Bytes
  intermediates : List Bytes
  message : Bytes
  signed : DigitallySignedStruct

structure ClientFlight where
  version : TlsVersion
  credentials : Option ClientCredentials

def completeHandshake (verifier : ClientCertVerifier) (flight : ClientFlight) :
    Option (Option (List Bytes)) :=
  match flight.credentials with
  | none => if verifier.clientAuthMandatory then none else some none
  | some credentials =>
    match verifier.verifyClientCert credentials.endEntity credentials.intermediates,
        verifier.verifySignature flight.version credentials.message credentials.endEntity
          credentials.signed with
    | .ok (), .ok () => some (some (credentials.endEntity :: credentials.intermediates))
    | _, _ => none

section

variable {rest : RestOfService} (platform : Platform)

structure ConnectedService (rest : RestOfService) where
  service : Service rest
  connections : List (Option (List Bytes))

inductive PeerAction (rest : RestOfService)
  | connect (flight : ClientFlight)
  | request (connection : Nat) (inputs : CallInputs) (rpc : Rpc rest.Message)

def serverStep (state : ConnectedService rest) :
    PeerAction rest → Option (ConnectedService rest)
  | .connect flight =>
    match completeHandshake permissiveClientVerifier flight with
    | some peerCerts => some { state with connections := state.connections ++ [peerCerts] }
    | none => some state
  | .request connection inputs rpc =>
    match state.connections[connection]? with
    | none => none
    | some peerCerts =>
      let (service, _) := handle platform state.service
        { inputs with peerCerts := peerCerts } rpc
      some { state with service := service }

/-- A peer that knows certificates and can make some signatures, none of which verifies
under the key of an enrolled certificate. -/
structure KeylessPeer (verifies : Bytes → Bytes → DigitallySignedStruct → Prop)
    (enrolled : String → Prop) where
  certificates : Set Bytes
  signatures : Bytes → Set DigitallySignedStruct
  makesSome : ∀ message, (signatures message).Nonempty
  keyless : ∀ certificate, enrolled (fingerprintHex platform.sha256 certificate) →
    ∀ message, ∀ signed ∈ signatures message, ¬ verifies certificate message signed

variable {platform} {verifies : Bytes → Bytes → DigitallySignedStruct → Prop}
  {enrolled : String → Prop}

def KeylessPeer.Sends (peer : KeylessPeer platform verifies enrolled)
    (_ : ConnectedService rest) : PeerAction rest → Prop
  | .connect flight => ∀ credentials, flight.credentials = some credentials →
      credentials.endEntity ∈ peer.certificates ∧
        (∀ certificate ∈ credentials.intermediates, certificate ∈ peer.certificates) ∧
        credentials.signed ∈ peer.signatures credentials.message
  | .request _ _ _ => True

/-- On one of the connections the service takes the peer for an enrolled client. -/
def Impersonates (platform : Platform) (state : ConnectedService rest)
    (enrolled : String → Prop) : Prop :=
  ∃ peerCerts ∈ state.connections, ∃ fingerprint, enrolled fingerprint ∧
    ensureEnrolledClient platform state.service.config state.service.clientStore peerCerts =
      .ok (some fingerprint)

def ShowsOnly (certificates : Set Bytes) (state : ConnectedService rest) : Prop :=
  ∀ certificate others, some (certificate :: others) ∈ state.connections →
    certificate ∈ certificates

theorem completeHandshake_permissive (flight : ClientFlight) :
    completeHandshake permissiveClientVerifier flight =
      some (flight.credentials.map fun credentials =>
        credentials.endEntity :: credentials.intermediates) := by
  rcases flight with ⟨version, credentials⟩
  cases credentials with
  | none => rfl
  | some => cases version <;> rfl

theorem serverStep_showsOnly (peer : KeylessPeer platform verifies enrolled)
    {state next : ConnectedService rest} {action : PeerAction rest}
    (shows : ShowsOnly peer.certificates state) (sends : peer.Sends state action)
    (stepped : serverStep platform state action = some next) :
    ShowsOnly peer.certificates next := by
  cases action with
  | connect =>
    simp only [serverStep, completeHandshake_permissive, Option.some.injEq] at stepped
    subst stepped
    intro certificate others member
    rcases List.mem_append.mp member with earlier | added
    · exact shows certificate others earlier
    · rw [List.mem_singleton, eq_comm, Option.map_eq_some_iff] at added
      rcases added with ⟨credentials, sent, chain⟩
      have known := (sends credentials sent).1
      rw [(List.cons.inj chain).1] at known
      exact known
  | request =>
    simp only [serverStep] at stepped
    split at stepped
    · cases stepped
    · cases stepped
      exact shows

/-- The peer is never taken for an enrolled client exactly when it knows no enrolled
certificate: the signature of the handshake does not matter. -/
theorem never_impersonates_iff_knows_no_enrolled_certificate (service : Service rest)
    (peer : KeylessPeer platform verifies fun fingerprint =>
      service.clientStore.isAuthorized fingerprint = true) :
    (∀ state, Reaches (serverStep platform) peer.Sends ⟨service, []⟩ state →
        ¬ Impersonates platform state fun fingerprint =>
          service.clientStore.isAuthorized fingerprint = true) ↔
      ∀ certificate ∈ peer.certificates,
        service.clientStore.isAuthorized (fingerprintHex platform.sha256 certificate) =
          false := by
  constructor
  · intro never certificate known
    apply Bool.eq_false_iff.mpr
    intro authorized
    rcases peer.makesSome [] with ⟨signed, made⟩
    have connected : Reaches (serverStep platform) peer.Sends ⟨service, []⟩
        ⟨service, [some [certificate]]⟩ := by
      have sends : peer.Sends (⟨service, []⟩ : ConnectedService rest)
          (.connect ⟨.tls13, some ⟨certificate, [], [], signed⟩⟩) := by
        intro credentials sent
        cases sent
        exact ⟨known, by simp, made⟩
      exact Reaches.single sends rfl
    apply never _ connected
    refine ⟨some [certificate], by simp, _, authorized, ?_⟩
    exact ensureEnrolledClient_ok_some.mpr ⟨certificate, [], rfl, rfl, authorized⟩
  · intro unknown state run impersonated
    have shows : ShowsOnly peer.certificates state := by
      apply run.invariant
      · intro certificate others member
        cases member
      · intro before action after held sends stepped
        exact serverStep_showsOnly peer held sends stepped
    rcases impersonated with ⟨_, member, _, enrolled, passed⟩
    rcases ensureEnrolledClient_ok_some.mp passed with ⟨certificate, others, rfl, hashed, -⟩
    have known := shows certificate others member
    rw [← hashed, unknown certificate known] at enrolled
    cases enrolled

end

def enrolledService : Service noFurtherService where
  config := certifiedDocument.withDefaults false
  clientStore := ⟨[⟨"client", "phone", fingerprintHex paddingHash [1], 0, 0, []⟩]⟩
  enrollmentManager := ⟨∅, 300⟩
  pairingManager := ⟨∅, 60⟩
  remaining := ()

/-- A signature scheme in which the key of a certificate marks the signed message. -/
def marks (certificate message : Bytes) (signed : DigitallySignedStruct) : Prop :=
  signed.signature = 7 :: certificate ++ message

def copyingPeer : KeylessPeer smallPlatform marks fun fingerprint =>
    enrolledService.clientStore.isAuthorized fingerprint = true where
  certificates := {[1]}
  signatures := fun _ => {⟨.ed25519, []⟩}
  makesSome := fun _ => ⟨⟨.ed25519, []⟩, rfl⟩
  keyless := by
    intro certificate _ message signed made verified
    rw [Set.mem_singleton_iff.mp made] at verified
    cases verified

/-- An empty signature passes for the enrolled client whose certificate was copied. -/
theorem copied_certificate_impersonates :
    ∃ state, Reaches (serverStep smallPlatform) copyingPeer.Sends ⟨enrolledService, []⟩ state ∧
      Impersonates smallPlatform state fun fingerprint =>
        enrolledService.clientStore.isAuthorized fingerprint = true := by
  have sends : copyingPeer.Sends (⟨enrolledService, []⟩ : ConnectedService noFurtherService)
      (.connect ⟨.tls13, some ⟨[1], [], [], ⟨.ed25519, []⟩⟩⟩) := by
    intro credentials sent
    cases sent
    exact ⟨rfl, by simp, rfl⟩
  refine ⟨⟨enrolledService, [some [[1]]]⟩, Reaches.single sends rfl, ?_⟩
  exact ⟨some [[1]], by simp, fingerprintHex paddingHash [1], by decide, rfl⟩

end HandControl.ClientAuthentication
