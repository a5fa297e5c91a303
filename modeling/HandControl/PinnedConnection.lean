import HandControl.ClientAuthentication
import HandControl.StandardText

/-!
# Connecting to a pinned server

The Rust client's connection to its server: the plan of attempts, the TLS verifier that compares the
certificate with the stored fingerprint, and the loop over the attempts. A host name is no socket
address, so an attempt with one fails before anything is dialled. The network is a parameter: which
party answers an attempt and what it sends.
-/

namespace HandControl.PinnedConnection

open ByteEncoding EnrolledClients ClientAuthentication StandardText
open RemoteControlService (paddingHash)

structure RegistryRelayInfo where
  relayUrl : String
  relayToken : String
  relayRequired : Bool
  allowSelfSignedTls : Bool
  pinnedCertSha256 : Option String

structure ServerRegistryEntry where
  id : Uuid
  hostname : Option String
  ip : Option String
  port : Option Nat
  clientId : Option Uuid
  addresses : List String
  relay : Option RegistryRelayInfo

def findById (entries : List ServerRegistryEntry) (id : Uuid) : Option ServerRegistryEntry :=
  entries.find? fun entry => entry.id = id

structure RelayBehaviorConfig where
  preferRelay : Bool
  relayOnlyMode : Bool
  maxDirectAttempts : Nat

def defaultRelayBehavior : RelayBehaviorConfig := ⟨false, false, 3⟩

/-- What the client reads from its own files, and the readers of PEM text. -/
structure ClientFiles where
  clientCredentials : Except String (Bytes × Bytes)
  loadCerts : Bytes → Except String (List Bytes)
  loadPrivateKey : Bytes → Except String Bytes
  serverFingerprint : Except String String
  relayBehavior : Except String RelayBehaviorConfig

def ClientFiles.preferences (files : ClientFiles) : RelayBehaviorConfig :=
  match files.relayBehavior with
  | .ok preferences => preferences
  | .error _ => defaultRelayBehavior

inductive Attempt
  | direct (address : String)
  | relay
  deriving DecidableEq

def pushUnique (target : List String) (candidate : String) : List String :=
  if trim candidate = "" then target
  else if target.any fun existing => eqIgnoreAsciiCase existing candidate then target
  else target ++ [candidate]

def collectDirectAddresses (entry : ServerRegistryEntry) : List String :=
  let addresses := entry.addresses.foldl pushUnique []
  let addresses := (entry.ip.toList).foldl pushUnique addresses
  (entry.hostname.toList).foldl pushUnique addresses

def planAttempts (entry : ServerRegistryEntry) (preferences : RelayBehaviorConfig) :
    Except String (List Attempt) :=
  let hasRelay := entry.relay.isSome
  let relayRequired := (entry.relay.map fun info => info.relayRequired).getD false
  if relayRequired || preferences.relayOnlyMode then
    if hasRelay then .ok [.relay]
    else .error
      s!"Relay connection required for server {entry.id.text} but no relay credentials stored"
  else
    let directAddresses := collectDirectAddresses entry
    let limit :=
      if preferences.maxDirectAttempts = 0 then directAddresses.length
      else min preferences.maxDirectAttempts directAddresses.length
    let attempts :=
      (if preferences.preferRelay && hasRelay then [Attempt.relay] else []) ++
        ((directAddresses.take limit).map Attempt.direct ++
          if !preferences.preferRelay && hasRelay then [Attempt.relay] else [])
    if attempts = [] then
      .error
        s!"No connection targets available for server {entry.id.text}. Add addresses or relay credentials"
    else .ok attempts

structure ServerCertVerifier where
  verifyServerCert : Bytes → List Bytes → Except String Unit
  verifyTls12Signature : Bytes → Bytes → DigitallySignedStruct → Except String Unit
  verifyTls13Signature : Bytes → Bytes → DigitallySignedStruct → Except String Unit

def ServerCertVerifier.verifySignature (verifier : ServerCertVerifier) :
    TlsVersion → Bytes → Bytes → DigitallySignedStruct → Except String Unit
  | .tls12 => verifier.verifyTls12Signature
  | .tls13 => verifier.verifyTls13Signature

def parseFingerprint (fingerprint : String) : Except String Bytes :=
  let value := (trim fingerprint).toList
  let marker := "SHA256:".toList
  if marker.isPrefixOf value then
    let sanitized := (value.drop marker.length).filter isAsciiHexdigit
    match hexDecode sanitized with
    | some bytes => .ok bytes
    | none => .error s!"Invalid fingerprint hex: {String.ofList sanitized}"
  else .error "Fingerprint must start with SHA256:"

/-- The fingerprint of the certificate is compared; no signature is looked at. -/
def pinnedServerCertVerifier (sha256 : Bytes → Digest) (fingerprint : String) :
    Except String ServerCertVerifier :=
  match parseFingerprint fingerprint with
  | .error message => .error message
  | .ok expected =>
    if expected = [] then .error "Pinned fingerprint is empty"
    else .ok {
      verifyServerCert := fun endEntity _ =>
        if (sha256 endEntity).bytes = expected then .ok ()
        else .error "Server certificate fingerprint mismatch"
      verifyTls12Signature := fun _ _ _ => .ok ()
      verifyTls13Signature := fun _ _ _ => .ok ()
    }

section

variable {Party : Type} (sha256 : Bytes → Digest)

def context {Value : Type} (text : String) (result : Except String Value) :
    Except String Value :=
  result.mapError fun message => s!"{text}: {message}"

/-- The party at the other end of a stream, its handshake messages, and whether it
goes on to open the RPC channel. -/
structure Answer (Party : Type) where
  party : Party
  version : TlsVersion
  endEntity : Bytes
  intermediates : List Bytes
  message : Bytes
  signed : DigitallySignedStruct
  channel : Except String Unit

/-- What is dialled: a socket address, or a relay, whose tunnel may name the server's authority. -/
structure Network (Party : Type) where
  direct : String → Except String (Answer Party)
  relay : RegistryRelayInfo → Uuid → Uuid → Except String (Option String × Answer Party)

/-- The libraries that read addresses. An authority has a host and perhaps a port. -/
structure AddressLibraries where
  parseSocketAddr : String → Except String Unit
  isIpAddr : String → Bool
  tryServerName : String → Except String Unit
  fromShared : String → Except String Unit
  parseAuthority : String → Option (String × Option Nat)

def normalizeDomain (address : String) : String :=
  let isBracket := fun symbol => symbol == '[' || symbol == ']'
  String.ofList ((address.toList.dropWhile isBracket).reverse.dropWhile isBracket).reverse

def buildUriAndServerName (libraries : AddressLibraries) (host : String) (port : Nat) :
    Except String String := do
  let domain := normalizeDomain host
  if !libraries.isIpAddr domain then libraries.tryServerName domain
  return if ':' ∈ domain.toList then s!"http://[{domain}]:{port}" else s!"http://{domain}:{port}"

def buildEndpoints (libraries : AddressLibraries) (address : String) (port : Nat) :
    Except String (String × String) := do
  let socketLiteral :=
    if ':' ∈ address.toList ∧ address.toList.head? ≠ some '[' then s!"[{address}]:{port}"
    else s!"{address}:{port}"
  context s!"Invalid socket address: {socketLiteral}" (libraries.parseSocketAddr socketLiteral)
  let uri ← buildUriAndServerName libraries address port
  return (uri, socketLiteral)

def deriveRelayAuthority (libraries : AddressLibraries) (entry : ServerRegistryEntry)
    (tunnelAuthority : Option String) : String × Option Nat :=
  match tunnelAuthority.bind libraries.parseAuthority with
  | some parsed => parsed
  | none =>
    (((entry.hostname.or entry.addresses.head?).or entry.ip).getD entry.id.text, none)

def checkUri (libraries : AddressLibraries) (uri : String) : Except String Unit :=
  context s!"Invalid endpoint URI: {uri}" (libraries.fromShared uri)

def relayUri (libraries : AddressLibraries) (entry : ServerRegistryEntry) (port : Nat)
    (tunnelAuthority : Option String) : Except String String :=
  let authority := deriveRelayAuthority libraries entry tunnelAuthority
  context "Invalid relay authority"
    (buildUriAndServerName libraries authority.1 (authority.2.getD port))

/-- The handshake completes when the verifier accepts the certificate and the
signature. -/
def openChannel (verifier : ServerCertVerifier) (answer : Answer Party) :
    Except String Party := do
  verifier.verifyServerCert answer.endEntity answer.intermediates
  verifier.verifySignature answer.version answer.message answer.endEntity answer.signed
  answer.channel
  return answer.party

variable (libraries : AddressLibraries) (network : Network Party)

def connectViaDirect (files : ClientFiles) (address : String) (port : Nat) (fingerprint : String)
    (keyPem : Bytes) : Except String Party := do
  let _ ← files.loadPrivateKey keyPem
  let verifier ← pinnedServerCertVerifier sha256 fingerprint
  let (uri, socketAddr) ← buildEndpoints libraries address port
  checkUri libraries uri
  let answer ← context "Failed to establish gRPC channel" (network.direct socketAddr)
  context "Failed to establish gRPC channel" (openChannel verifier answer)

def connectViaRelay (files : ClientFiles) (entry : ServerRegistryEntry)
    (relayInfo : RegistryRelayInfo) (clientId : Uuid) (defaultPort : Nat) (fingerprint : String)
    (keyPem : Bytes) : Except String Party := do
  let (authority, answer) ← context "Failed to establish relay tunnel"
    (network.relay relayInfo entry.id clientId)
  let uri ← relayUri libraries entry defaultPort authority
  let _ ← files.loadPrivateKey keyPem
  let verifier ← pinnedServerCertVerifier sha256 fingerprint
  checkUri libraries uri
  context "Failed to establish gRPC channel" (openChannel verifier answer)

def performAttempt (files : ClientFiles) (entry : ServerRegistryEntry) (fingerprint : String)
    (keyPem : Bytes) : Attempt → Except String Party
  | .direct address =>
    match connectViaDirect sha256 libraries network files address (entry.port.getD 50051)
        fingerprint keyPem with
    | .ok party => .ok party
    | .error message => .error s!"direct {address}: {message}"
  | .relay =>
    match entry.relay, entry.clientId with
    | none, _ => .error "relay: credentials unavailable"
    | some _, none => .error "relay: client_id missing from enrollment"
    | some relayInfo, some clientId =>
      match connectViaRelay sha256 libraries network files entry relayInfo clientId
          (entry.port.getD 50051) fingerprint keyPem with
      | .ok party => .ok party
      | .error message => .error s!"relay: {message}"

def tryAttempts (perform : Attempt → Except String Party) (serverId : Uuid) :
    List Attempt → List String → Except String Party
  | [], errors =>
    let joined := "\n".intercalate errors
    if errors = [] then .error s!"All connection attempts failed for server {serverId.text}"
    else .error s!"All connection attempts failed for server {serverId.text}:\n{joined}"
  | attempt :: rest, errors =>
    match perform attempt with
    | .ok party => .ok party
    | .error message => tryAttempts perform serverId rest (errors ++ [message])

def connectRegistered (files : ClientFiles) (entry : ServerRegistryEntry) :
    Except String Party := do
  let (certPem, keyPem) ← context "Failed to load stored client credentials"
    files.clientCredentials
  let _ ← files.loadCerts certPem
  let contents ← context "Failed to load pinned server fingerprint" files.serverFingerprint
  let fingerprint := trim contents
  let attempts ← planAttempts entry files.preferences
  tryAttempts (performAttempt sha256 libraries network files entry fingerprint keyPem) entry.id
    attempts []

/-- The answer to an attempt that is carried out: its address is a socket address, the name and the
URI made from it are valid, and somebody answers. -/
def Answers (entry : ServerRegistryEntry) (answer : Answer Party) : Attempt → Prop
  | .direct address => ∃ uri socketAddr,
      buildEndpoints libraries address (entry.port.getD 50051) = .ok (uri, socketAddr) ∧
        checkUri libraries uri = .ok () ∧ network.direct socketAddr = .ok answer
  | .relay => ∃ relayInfo clientId authority uri, entry.relay = some relayInfo ∧
      entry.clientId = some clientId ∧
        network.relay relayInfo entry.id clientId = .ok (authority, answer) ∧
          relayUri libraries entry (entry.port.getD 50051) authority = .ok uri ∧
            checkUri libraries uri = .ok ()

/-- The party sends a certificate with the pinned hash and opens the channel. -/
def PresentsPin (pin : Bytes) (answer : Answer Party) : Prop :=
  (sha256 answer.endEntity).bytes = pin ∧ answer.channel = .ok ()

/-- Among the attempts that are carried out, in their order, the party is the first to present the
pin. -/
def PresentsPinFirst (entry : ServerRegistryEntry) (pin : Bytes) (attempts : List Attempt)
    (party : Party) : Prop :=
  ∃ before attempt after answer, attempts = before ++ attempt :: after ∧
    Answers libraries network entry answer attempt ∧ PresentsPin sha256 pin answer ∧
      answer.party = party ∧
        ∀ earlier ∈ before, ∀ other, Answers libraries network entry other earlier →
          ¬ PresentsPin sha256 pin other

def plannedAttempts (files : ClientFiles) (entry : ServerRegistryEntry) : List Attempt :=
  match planAttempts entry files.preferences with
  | .ok attempts => attempts
  | .error _ => []

/-- The client's files are those of an enrollment with the server: its credentials load,
and the pin is the hash of the server's certificate. -/
structure Enrolled (files : ClientFiles) (serverCert : Bytes) : Prop where
  credentials : ∃ certPem keyPem, files.clientCredentials = .ok (certPem, keyPem) ∧
    (∃ chain, files.loadCerts certPem = .ok chain) ∧
      ∃ key, files.loadPrivateKey keyPem = .ok key
  pinned : ∃ contents, files.serverFingerprint = .ok contents ∧
    parseFingerprint (trim contents) = .ok (sha256 serverCert).bytes

theorem pinnedServerCertVerifier_openChannel {fingerprint : String} {pin : Bytes}
    (parsed : parseFingerprint fingerprint = .ok pin) (nonempty : pin ≠ []) :
    ∃ verifier, pinnedServerCertVerifier sha256 fingerprint = .ok verifier ∧
      ∀ {Other : Type} (answer : Answer Other) (party : Other),
        context "Failed to establish gRPC channel" (openChannel verifier answer) = .ok party ↔
          PresentsPin sha256 pin answer ∧ answer.party = party := by
  refine ⟨_, by simp only [pinnedServerCertVerifier, parsed, if_neg nonempty]; rfl, ?_⟩
  intro Other answer party
  rcases answer with ⟨other, version, endEntity, intermediates, message, signed, channel⟩
  simp only [openChannel, PresentsPin]
  by_cases same : (sha256 endEntity).bytes = pin
  · cases version <;> cases channel <;>
      simp [same, context, ServerCertVerifier.verifySignature, Except.mapError, bind,
        Except.bind, pure, Except.pure]
  · simp [same, context, Except.mapError, bind, Except.bind]

theorem context_eq_ok_iff {Value : Type} {text : String} {result : Except String Value}
    {value : Value} : context text result = .ok value ↔ result = .ok value := by
  cases result <;> simp [context, Except.mapError]

theorem bind_eq_ok_iff {First Second : Type} {result : Except String First}
    {next : First → Except String Second} {value : Second} :
    (result >>= next) = .ok value ↔ ∃ first, result = .ok first ∧ next first = .ok value := by
  cases result <;> simp [bind, Except.bind]

theorem match_eq_ok_iff {Value : Type} {result : Except String Value} {value : Value}
    (text : String → String) :
    (match result with
      | .ok found => Except.ok found
      | .error message => .error (text message)) = .ok value ↔ result = .ok value := by
  cases result <;> simp

theorem performAttempt_eq_ok_iff (entry : ServerRegistryEntry)
    {files : ClientFiles} {fingerprint : String} {keyPem key pin : Bytes}
    (loaded : files.loadPrivateKey keyPem = .ok key)
    (parsed : parseFingerprint fingerprint = .ok pin) (nonempty : pin ≠ [])
    (attempt : Attempt) (party : Party) :
    performAttempt sha256 libraries network files entry fingerprint keyPem attempt = .ok party ↔
      ∃ answer, Answers libraries network entry answer attempt ∧
        PresentsPin sha256 pin answer ∧ answer.party = party := by
  rcases pinnedServerCertVerifier_openChannel sha256 parsed nonempty with
    ⟨verifier, built, opens⟩
  cases attempt with
  | direct =>
    simp only [performAttempt, match_eq_ok_iff, connectViaDirect, bind_eq_ok_iff, loaded, built,
      context_eq_ok_iff, Except.ok.injEq, exists_eq_left', Answers]
    simp only [context_eq_ok_iff] at opens
    simp only [opens]
    constructor
    · rintro ⟨⟨uri, socketAddr⟩, endpoints, _, checked, answer, answered, presents⟩
      exact ⟨answer, ⟨uri, socketAddr, endpoints, checked, answered⟩, presents⟩
    · rintro ⟨answer, ⟨uri, socketAddr, endpoints, checked, answered⟩, presents⟩
      exact ⟨(uri, socketAddr), endpoints, (), checked, answer, answered, presents⟩
  | relay =>
    simp only [performAttempt, Answers]
    cases entry.relay with
    | none => simp
    | some =>
      cases entry.clientId with
      | none => simp
      | some =>
        simp only [context_eq_ok_iff] at opens
        simp only [match_eq_ok_iff, connectViaRelay, bind_eq_ok_iff, loaded, built,
          context_eq_ok_iff, Except.ok.injEq, exists_eq_left', Option.some.injEq, opens]
        constructor
        · rintro ⟨⟨authority, answer⟩, answered, uri, built_uri, _, checked, presents⟩
          exact ⟨answer, ⟨_, _, authority, uri, rfl, rfl, answered, built_uri, checked⟩, presents⟩
        · rintro ⟨answer, ⟨_, _, authority, uri, rfl, rfl, answered, built_uri, checked⟩, presents⟩
          exact ⟨(authority, answer), answered, uri, built_uri, (), checked, presents⟩

theorem tryAttempts_eq_ok_iff (perform : Attempt → Except String Party) (serverId : Uuid)
    (attempts : List Attempt) (errors : List String) (party : Party) :
    tryAttempts perform serverId attempts errors = .ok party ↔
      ∃ before attempt after, attempts = before ++ attempt :: after ∧
        perform attempt = .ok party ∧ ∀ earlier ∈ before, ∀ other, perform earlier ≠ .ok other := by
  have first : tryAttempts perform serverId attempts errors = .ok party ↔
      attempts.findSome? (fun attempt => (perform attempt).toOption) = some party := by
    induction attempts generalizing errors with
    | nil =>
      simp only [tryAttempts]
      split <;> simp
    | cons head rest ih =>
      simp only [tryAttempts, List.findSome?_cons]
      cases performed : perform head with
      | ok => simp [Except.toOption]
      | error => exact ih _
  have succeeds (attempt) (other) :
      (perform attempt).toOption = some other ↔ perform attempt = .ok other := by
    cases performed : perform attempt <;> simp [Except.toOption]
  rw [first, List.findSome?_eq_some_iff]
  simp only [succeeds, Option.eq_none_iff_forall_ne_some, ne_eq]

end

inductive NetworkParty
  | genuine
  | impostor
  deriving DecidableEq

def pinnedFiles : ClientFiles where
  clientCredentials := .ok ([1], [2])
  loadCerts := fun pem => .ok [pem]
  loadPrivateKey := fun pem => .ok pem
  serverFingerprint := .ok ("SHA256:" ++ fingerprintHex paddingHash [9])
  relayBehavior := .error "no configuration file"

theorem pinnedFiles_pin :
    parseFingerprint (trim ("SHA256:" ++ fingerprintHex paddingHash [9])) =
      .ok (paddingHash [9]).bytes := by
  decide +kernel

theorem pinnedFiles_enrolled : Enrolled paddingHash pinnedFiles [9] where
  credentials := ⟨[1], [2], rfl, ⟨_, rfl⟩, ⟨_, rfl⟩⟩
  pinned := ⟨_, rfl, pinnedFiles_pin⟩

def pinnedEntry (viaRelay : Bool) : ServerRegistryEntry where
  id := ⟨List.replicate 16 0, sixteenZeros_size⟩
  hostname := none
  ip := none
  port := none
  clientId := some ⟨List.replicate 16 1, by simp⟩
  addresses := ["192.0.2.1"]
  relay := if viaRelay then some ⟨"wss://relay", "token", true, false, none⟩ else none

/-- Only the address of the entry can be read. -/
def oneAddress : AddressLibraries where
  parseSocketAddr literal :=
    if literal = "192.0.2.1:50051" then .ok () else .error "invalid socket address syntax"
  isIpAddr domain := domain == "192.0.2.1"
  tryServerName _ := .error "invalid dns name"
  fromShared _ := .ok ()
  parseAuthority _ := none

/-- Every attempt is answered by the same party, with the server's certificate and an
empty signature. -/
def answeredBy (party : NetworkParty) : Network NetworkParty where
  direct _ := .ok ⟨party, .tls13, [9], [], [], ⟨.ed25519, []⟩, .ok ()⟩
  relay _ _ _ := .ok (none, ⟨party, .tls13, [9], [], [], ⟨.ed25519, []⟩, .ok ()⟩)

theorem connectRegistered_answeredBy (viaRelay : Bool) (party : NetworkParty) :
    connectRegistered paddingHash oneAddress (answeredBy party) pinnedFiles
      (pinnedEntry viaRelay) = .ok party := by
  have performs := performAttempt_eq_ok_iff paddingHash oneAddress (answeredBy party)
    (pinnedEntry viaRelay) (rfl : pinnedFiles.loadPrivateKey [2] = .ok [2]) pinnedFiles_pin
    (by decide)
  have planned : ∃ attempt,
      planAttempts (pinnedEntry viaRelay) pinnedFiles.preferences = .ok [attempt] ∧
      Answers oneAddress (answeredBy party) (pinnedEntry viaRelay)
        ⟨party, .tls13, [9], [], [], ⟨.ed25519, []⟩, .ok ()⟩ attempt := by
    cases viaRelay with
    | false =>
      exact ⟨.direct "192.0.2.1", by decide, "http://192.0.2.1:50051", "192.0.2.1:50051",
        by decide +kernel, rfl, rfl⟩
    | true =>
      exact ⟨.relay, by decide, _, _, none, "http://192.0.2.1:50051", rfl, rfl, rfl,
        by decide +kernel, rfl⟩
  obtain ⟨attempt, plan_eq, answered⟩ := planned
  have performed := (performs attempt party).mpr ⟨_, answered, ⟨rfl, rfl⟩, rfl⟩
  show (planAttempts (pinnedEntry viaRelay) pinnedFiles.preferences >>= fun attempts =>
    tryAttempts (performAttempt paddingHash oneAddress (answeredBy party) pinnedFiles
      (pinnedEntry viaRelay) _ [2]) _ attempts []) = .ok party
  rw [plan_eq]
  apply (tryAttempts_eq_ok_iff _ _ _ _ _).mpr
  exact ⟨[], attempt, [], rfl, performed, by simp⟩

/-- The list without the strings that equal an earlier one when case is ignored. -/
def withoutRepeats : List String → List String
  | [] => []
  | first :: rest =>
    first :: (withoutRepeats rest).filter fun later => !eqIgnoreAsciiCase first later

/-- The non-blank strings of the entry, each once, and not more than the limit if there is
one. -/
def directTargets (entry : ServerRegistryEntry) (limit : Nat) : List String :=
  let known := withoutRepeats
    ((entry.addresses ++ entry.ip.toList ++ entry.hostname.toList).filter (trim · ≠ ""))
  if limit = 0 then known else known.take limit

def RelayDemanded (entry : ServerRegistryEntry) (preferences : RelayBehaviorConfig) : Prop :=
  (∃ info ∈ entry.relay, info.relayRequired = true) ∨ preferences.relayOnlyMode = true

theorem foldl_pushUnique (strings target : List String) :
    strings.foldl pushUnique target =
      target ++ (withoutRepeats (strings.filter (trim · ≠ ""))).filter fun later =>
        !target.any fun existing => eqIgnoreAsciiCase existing later := by
  induction strings generalizing target with
  | nil => simp [withoutRepeats]
  | cons candidate rest induction =>
    rw [List.foldl_cons, induction]
    by_cases blank : trim candidate = ""
    · simp [pushUnique, blank]
    · by_cases known : target.any fun existing => eqIgnoreAsciiCase existing candidate
      · -- what equals the candidate equals the string that the candidate equals
        have covered : ∀ later, (target.any fun existing => eqIgnoreAsciiCase existing later) =
            false → eqIgnoreAsciiCase candidate later = false := by
          simp only [eqIgnoreAsciiCase, List.any_eq_true, List.any_eq_false, beq_iff_eq,
            beq_eq_false_iff_ne] at known ⊢
          obtain ⟨existing, member, same⟩ := known
          intro later unlike
          rw [← same]
          exact unlike existing member
        simp only [pushUnique, blank, known, if_true, if_false, ne_eq, not_false_eq_true,
          decide_true, List.filter_cons_of_pos, withoutRepeats]
        rw [List.filter_cons_of_neg (by simp [known])]
        rw [List.filter_filter]
        grind
      · simp [pushUnique, blank, known, withoutRepeats, List.filter_filter, Bool.and_comm]

theorem collectDirectAddresses_eq (entry : ServerRegistryEntry) :
    collectDirectAddresses entry = directTargets entry 0 := by
  rw [collectDirectAddresses, ← List.foldl_append, ← List.foldl_append, foldl_pushUnique]
  simp [directTargets]

theorem collectDirectAddresses_take (entry : ServerRegistryEntry) (limit : Nat) :
    (collectDirectAddresses entry).take (if limit = 0 then (collectDirectAddresses entry).length
      else min limit (collectDirectAddresses entry).length) = directTargets entry limit := by
  rw [collectDirectAddresses_eq]
  by_cases unlimited : limit = 0
  · simp [unlimited]
  · simp [unlimited, directTargets, ← List.take_eq_take_min]

theorem attempts_planned (entry : ServerRegistryEntry) (preferences : RelayBehaviorConfig) :
    (RelayDemanded entry preferences ∧
      ((entry.relay = none ∧ ∃ message, planAttempts entry preferences = .error message) ∨
        (entry.relay.isSome ∧ planAttempts entry preferences = .ok [.relay]))) ∨
    (¬ RelayDemanded entry preferences ∧ ∃ relays direct attempts,
      relays = (if entry.relay.isSome then [Attempt.relay] else []) ∧
      direct = (directTargets entry preferences.maxDirectAttempts).map Attempt.direct ∧
      attempts = (if preferences.preferRelay then relays ++ direct else direct ++ relays) ∧
      (planAttempts entry preferences = .ok attempts ∨
        attempts = [] ∧ ∃ message, planAttempts entry preferences = .error message)) := by
  have demanded : RelayDemanded entry preferences ↔
      ((entry.relay.map fun info => info.relayRequired).getD false ||
        preferences.relayOnlyMode) = true := by
    cases relay : entry.relay with
    | none => simp [RelayDemanded, relay]
    | some => simp [RelayDemanded, relay]
  by_cases only : RelayDemanded entry preferences
  · refine .inl ⟨only, ?_⟩
    rw [planAttempts, if_pos (demanded.mp only)]
    cases entry.relay with
    | none => exact .inl ⟨rfl, _, rfl⟩
    | some => exact .inr ⟨rfl, rfl⟩
  · refine .inr ⟨only, _, _, _, rfl, rfl, rfl, ?_⟩
    rw [planAttempts, if_neg (mt demanded.mpr only)]
    simp only [collectDirectAddresses_take]
    cases preferences.preferRelay <;> cases entry.relay <;> grind

end HandControl.PinnedConnection
