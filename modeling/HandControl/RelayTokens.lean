import HandControl.RelayAuthorization
import HandControl.RemoteControlService

/-!
# Relay tokens from their issuer to the relay

The server signs tokens with the relay's URL as audience. The relay compares the host in it with the
host it was started with, as texts: it holds an IPv6 address as the standard library prints it,
while the host of a parsed URL has brackets.
-/

namespace HandControl.RelayTokens

open ByteEncoding KeyedTable RelayAccess
open RelayAuthorization (demoKey demoUuid)
open RelayProcesses RemoteControlService StandardText TransitionRuns
open UrlSyntax (ParsedUrl)

inductive IpVersion where
  | v4
  | v6
deriving DecidableEq

/-- An address with the text that `to_string` gives for it. -/
structure IpAddr where
  version : IpVersion
  text : String
  isUnspecified : Bool
deriving DecidableEq

/-- The standard library's `parse::<IpAddr>`, and what the url crate prints for a host that is no
address to it: a name in lower case and Punycode, `127.1` as `127.0.0.1`. -/
structure HostLibraries where
  parseIp : String → Option IpAddr
  printedName : String → String

/-- `host_str` of a URL with this host. -/
def HostLibraries.printedHost (libraries : HostLibraries) (host : String) : String :=
  match libraries.parseIp host with
  | some address =>
    match address.version with
    | .v4 => address.text
    | .v6 => "[" ++ address.text ++ "]"
  | none => libraries.printedName host

/-- The settings of the relay's own configuration file; the server's are another type. -/
structure RelayConfig where
  bindAddress : String
  port : UInt16
  handshakeTimeoutSeconds : Nat
  publicHostname : Option String
  registrationSecrets : Table Uuid String

structure AppState extends RelaySetting where
  listenAddr : String

def fallbackPublicHost (libraries : HostLibraries) (bindAddress : String) : String :=
  match libraries.parseIp bindAddress with
  | some ip =>
    if ip.isUnspecified then
      match ip.version with
      | .v4 => "127.0.0.1"
      | .v6 => "::1"
    else ip.text
  | none => bindAddress

structure DefaultRoutes where
  v6 : Option IpAddr
  v4 : Option IpAddr

def detectDefaultRouteIp (routes : DefaultRoutes) : Option String :=
  let specified (address : Option IpAddr) : Option String :=
    (address.filter fun ip => !ip.isUnspecified).map IpAddr.text
  (specified routes.v6).or (specified routes.v4)

def AppState.new (libraries : HostLibraries) (routes : DefaultRoutes) (config : RelayConfig) :
    AppState :=
  let bracketed := "[" ++ config.bindAddress ++ "]:" ++ toString config.port.toNat
  let plain := config.bindAddress ++ ":" ++ toString config.port.toNat
  let listenAddr :=
    match libraries.parseIp config.bindAddress with
    | some ip =>
      match ip.version with
      | .v6 => bracketed
      | .v4 => plain
    | none =>
      if config.bindAddress.toList.contains ':' && !config.bindAddress.toList.contains '['
      then bracketed
      else plain
  let named := (config.publicHostname.map trim).filter fun host => !host.isEmpty
  { listenAddr := listenAddr
    listenPort := config.port
    relayHost := (named.or (detectDefaultRouteIp routes)).getD
      (fallbackPublicHost libraries config.bindAddress)
    secrets := config.registrationSecrets
    handshakeTimeout := max config.handshakeTimeoutSeconds 1 }

abbrev SigningKey := FixedBytes 32

structure IssuedClaims where
  iss : String
  sub : String
  aud : String
  exp : Nat
  iat : Nat
  serverId : String
  serverAudience : String
  bindingType : String
  bindingValue : String
  permissions : List String
deriving DecidableEq

def IssuedClaims.forRelay (claims : IssuedClaims) : RelayClaims where
  sub := claims.sub
  aud := claims.aud
  exp := claims.exp
  serverId := claims.serverId
  serverAudience := some claims.serverAudience
  bindingType := some claims.bindingType
  bindingValue := some claims.bindingValue
  permissions := claims.permissions

/-- The libraries of the relay and of the issuer. A token is valid until its expiry under the key of
its signing key. -/
structure TokenLibraries extends RelayLibraries, HostLibraries where
  verifyingKey : SigningKey → DecodingKey
  encodeToken : SigningKey → IssuedClaims → Except String String
  parseUuid_text : ∀ uuid : Uuid, parseUuid uuid.text = some uuid
  decodeToken_encodeToken : ∀ key claims token now, encodeToken key claims = .ok token →
    now < claims.exp → decodeToken now (verifyingKey key) token = some claims.forRelay

structure TokenIssuer where
  signingKey : SigningKey
  serverId : Uuid

/-- A started second counts. -/
def ttlTotal (ttlNanoseconds : Nat) : Nat :=
  let seconds := ttlNanoseconds / 1000000000
  if 0 < ttlNanoseconds % 1000000000 then min (seconds + 1) (2 ^ 64 - 1) else seconds

/-- `generate_relay_token` up to the signature, at a time since the epoch. -/
def TokenIssuer.relayClaims (issuer : TokenIssuer) (request : RelayTokenRequest)
    (clockNanoseconds : Int) : Except String IssuedClaims :=
  if request.ttlNanoseconds = 0 then .error "Relay token TTL must be greater than zero"
  else if clockNanoseconds < 0 then .error "System time is before UNIX_EPOCH"
  else
    let now := clockNanoseconds.toNat / 1000000000
    let total := ttlTotal request.ttlNanoseconds.toNat
    if total = 0 then .error "Relay token TTL resolved to zero seconds"
    else if 2 ^ 64 ≤ now + total then .error "Token expiry overflow"
    else
      .ok
        { iss := "handcontrol-server"
          sub := request.subject
          aud := request.relayUrl
          exp := now + total
          iat := now
          serverId := issuer.serverId.text
          serverAudience := issuer.serverId.text
          bindingType := request.bindingType
          bindingValue := request.bindingValue
          permissions := ["connect"] }

def TokenIssuer.generateRelayToken (libraries : TokenLibraries) (issuer : TokenIssuer)
    (request : RelayTokenRequest) (clockNanoseconds : Int) : Except String String :=
  match issuer.relayClaims request clockNanoseconds with
  | .error message => .error message
  | .ok claims => libraries.encodeToken issuer.signingKey claims

def expirySeconds (request : RelayTokenRequest) (clockNanoseconds : Int) : Nat :=
  clockNanoseconds.toNat / 1000000000 + ttlTotal request.ttlNanoseconds.toNat

/-- Without white space around it, the text is a URL with the relay's host and port. -/
def AddressedTo (libraries : TokenLibraries) (relay : RelaySetting) (url : String) : Prop :=
  ∃ parsed, libraries.parseUrl (trim url) = some parsed ∧
    parsed.hostStr = some (libraries.printedHost relay.relayHost) ∧
      (parsed.port = none ∨ parsed.port = some relay.listenPort.toNat)

/-- The url crate prints the relay's host as the relay holds it, up to the case of letters, or
the URL is no more than the host, with or without the port. -/
def NamedAsHeld (libraries : HostLibraries) (relay : RelaySetting) (url : String) : Prop :=
  eqIgnoreAsciiCase (libraries.printedHost relay.relayHost) relay.relayHost = true ∨
    eqIgnoreAsciiCase (trim url) relay.relayHost = true ∨
      eqIgnoreAsciiCase (trim url)
        (relay.relayHost ++ ":" ++ toString relay.listenPort.toNat) = true

structure Requests (libraries : RelayLibraries) (payload : ConnectPayload)
    (serverId clientId : Uuid) (token : String) : Prop where
  type_eq : payload.type = "connect"
  server : libraries.parseUuid payload.serverId = some serverId
  client : libraries.parseUuid payload.clientId = some clientId
  token_eq : payload.relayToken = token

/-- A token that was issued for a client and for the relay. -/
structure IssuedForRelay (libraries : TokenLibraries) (setting : RelaySetting)
    (issuer : TokenIssuer) (request : RelayTokenRequest) (clockNanoseconds : Int)
    (clientId : Uuid) (token : String) : Prop where
  issued : issuer.generateRelayToken libraries request clockNanoseconds = .ok token
  addressed : AddressedTo libraries setting request.relayUrl
  subject_eq : request.subject = clientId.text
  binding_eq : request.bindingValue = clientId.text
  known : request.bindingType = "client_id" ∨ request.bindingType = "enrollment_token"

/-- A handler has received a connect request with the token, and the server is registered
with the issuer's public key. -/
structure AwaitsDecision (libraries : TokenLibraries) (relay : Relay) (issuer : TokenIssuer)
    (handler : Nat) (clientId : Uuid) (token : String) : Prop where
  registered : ∃ entry, relay.serverEntry issuer.serverId = some entry ∧
    entry.decodingKey = libraries.verifyingKey issuer.signingKey
  received : ∃ payload, relay.connects handler = .received (.payload payload) ∧
    Requests libraries.toRelayLibraries payload issuer.serverId clientId token

variable {relay : RelaySetting} {issuer : TokenIssuer} {request : RelayTokenRequest}
variable {clockNanoseconds : Int} {claims : IssuedClaims} {connect : ConnectRequest}
variable {payload : ConnectPayload}

section

variable {libraries : TokenLibraries}

theorem isAllowedAudience_iff {url : String} (addressed : AddressedTo libraries relay url) :
    isAllowedAudience relay libraries.toRelayLibraries url = true ↔
      NamedAsHeld libraries.toHostLibraries relay url := by
  obtain ⟨_, parsed_eq, host_eq, port_eq⟩ := addressed
  unfold isAllowedAudience NamedAsHeld
  dsimp only
  split_ifs with host_only host_and_port
  · exact iff_of_true rfl (.inr (.inl host_only))
  · exact iff_of_true rfl (.inr (.inr host_and_port))
  · rw [parsed_eq]
    simp only [host_eq, host_only, host_and_port]
    split_ifs with printed
    · rcases port_eq with absent | own
      · simp [absent, printed]
      · simp [own, printed]
    · simp [printed]

theorem relayClaims_ok (issued : issuer.relayClaims request clockNanoseconds = .ok claims) :
    claims =
      { iss := "handcontrol-server"
        sub := request.subject
        aud := request.relayUrl
        exp := expirySeconds request clockNanoseconds
        iat := clockNanoseconds.toNat / 1000000000
        serverId := issuer.serverId.text
        serverAudience := issuer.serverId.text
        bindingType := request.bindingType
        bindingValue := request.bindingValue
        permissions := ["connect"] } := by
  unfold TokenIssuer.relayClaims at issued
  dsimp only at issued
  split_ifs at issued
  cases issued
  rfl

/-- The claims of an issued token say what the relay asks for, except perhaps its name. -/
theorem issued_claims_match_iff (addressed : AddressedTo libraries relay request.relayUrl)
    (issued : issuer.relayClaims request clockNanoseconds = .ok claims)
    (server_eq : connect.serverId = issuer.serverId)
    (subject_eq : request.subject = connect.clientId.text)
    (binding_eq : request.bindingValue = connect.clientId.text)
    (known : request.bindingType = "client_id" ∨ request.bindingType = "enrollment_token") :
    ClaimsMatch relay libraries.toRelayLibraries connect claims.forRelay ↔
      NamedAsHeld libraries.toHostLibraries relay request.relayUrl := by
  rw [relayClaims_ok issued, ← isAllowedAudience_iff addressed]
  constructor
  · intro matching
    exact matching.audience
  · intro allowed
    constructor
    · exact allowed
    · exact subject_eq
    · rintro value rfl_value
      cases rfl_value
      exact binding_eq
    · exact .inr (known.imp (congrArg some) (congrArg some))
    · rw [server_eq]
      exact libraries.parseUuid_text issuer.serverId
    · intro audience audience_eq
      cases audience_eq
      rw [server_eq]
      exact libraries.parseUuid_text issuer.serverId
    · exact List.mem_singleton_self _

theorem parseConnect_of_requests {serverId clientId : Uuid} {token : String}
    (requests : Requests libraries.toRelayLibraries payload serverId clientId token) :
    parseConnect libraries.toRelayLibraries (.payload payload) =
      .ok ⟨payload, serverId, clientId⟩ := by
  simp [parseConnect, requests.type_eq, requests.server, requests.client]

end

def Admitted (libraries : TokenLibraries) (setting : RelaySetting) (relay : Relay)
    (handler : Nat) (input : ConnectInput) : Prop :=
  ∃ after admission,
    runActions (stepRelay setting libraries.toRelayLibraries) relay
      (List.replicate 3 (.connect handler input)) = some after ∧
        after.connects handler = .opening admission

theorem moveConnect_self (relay : Relay) (handler : Nat) (phase : ConnectPhase) :
    (relay.moveConnect handler phase).connects handler = phase := by
  simp [Relay.moveConnect]

theorem admitted_iff {libraries : TokenLibraries} {setting : RelaySetting} {relay : Relay}
    {handler : Nat} {input : ConnectInput} {entry : RegisteredServer}
    (received : relay.connects handler = .received (.payload payload))
    (parsed : parseConnect libraries.toRelayLibraries (.payload payload) = .ok connect)
    (registered : relay.serverEntry connect.serverId = some entry) :
    Admitted libraries setting relay handler input ↔
      ∃ claims, authorizeConnect setting libraries.toRelayLibraries input.now
        entry.decodingKey connect = .ok claims := by
  let fetching := relay.moveConnect handler (.fetching connect)
  let deciding := fetching.moveConnect handler (.deciding connect entry)
  have parses : stepRelay setting libraries.toRelayLibraries relay (.connect handler input) =
      some fetching := by
    simp [stepRelay, stepConnect, received, parsed, fetching]
  have fetches : stepRelay setting libraries.toRelayLibraries fetching
      (.connect handler input) = some deciding := by
    have found : fetching.serverEntry connect.serverId = some entry := registered
    simp [stepRelay, stepConnect, fetching, deciding, moveConnect_self] at found ⊢
    simp [found]
  unfold Admitted
  simp only [List.replicate, runActions, parses, fetches, Option.bind_some]
  cases authorized : authorizeConnect setting libraries.toRelayLibraries input.now
      entry.decodingKey connect with
  | ok | error => simp [stepRelay, stepConnect, deciding, moveConnect_self, authorized]

/-- A token that the issuer made for a client passes every check of the relay until it
expires, exactly if the relay's host is printed as it is held. -/
theorem issued_token_admitted_iff (libraries : TokenLibraries) (routes : DefaultRoutes)
    (config : RelayConfig) (issuer : TokenIssuer) (request : RelayTokenRequest)
    (clockNanoseconds : Int) (clientId : Uuid) (token : String)
    (issue : IssuedForRelay libraries
      (AppState.new libraries.toHostLibraries routes config).toRelaySetting issuer request
      clockNanoseconds clientId token)
    (relay : Relay) (handler : Nat)
    (awaits : AwaitsDecision libraries relay issuer handler clientId token)
    (input : ConnectInput) (unexpired : input.now < expirySeconds request clockNanoseconds) :
    Admitted libraries (AppState.new libraries.toHostLibraries routes config).toRelaySetting
        relay handler input ↔
      NamedAsHeld libraries.toHostLibraries
        (AppState.new libraries.toHostLibraries routes config).toRelaySetting
        request.relayUrl := by
  obtain ⟨entry, registered, key_eq⟩ := awaits.registered
  obtain ⟨payload, received, requests⟩ := awaits.received
  have issued := issue.issued
  rw [TokenIssuer.generateRelayToken] at issued
  split at issued
  · cases issued
  · rename_i claims claims_eq
    have matching_iff : ClaimsMatch
        (AppState.new libraries.toHostLibraries routes config).toRelaySetting
        libraries.toRelayLibraries ⟨payload, issuer.serverId, clientId⟩ claims.forRelay ↔ _ :=
      issued_claims_match_iff issue.addressed claims_eq rfl issue.subject_eq
        issue.binding_eq issue.known
    have unexpired_claims : input.now < claims.exp := by
      rw [relayClaims_ok claims_eq]
      exact unexpired
    have decoded : libraries.decodeToken input.now entry.decodingKey payload.relayToken =
        some claims.forRelay := by
      rw [key_eq, requests.token_eq]
      exact libraries.decodeToken_encodeToken issuer.signingKey claims token input.now issued
        unexpired_claims
    rw [admitted_iff received (parseConnect_of_requests requests) registered, ← matching_iff]
    constructor
    · rintro ⟨found, passed⟩
      have authorized := authorizeConnect_ok_iff.mp passed
      have same : claims.forRelay = found :=
        Option.some.inj (decoded.symm.trans authorized.decodes)
      exact same ▸ authorized.toClaimsMatch
    · intro matching
      exact ⟨claims.forRelay, authorizeConnect_ok_iff.mpr ⟨matching, decoded⟩⟩

def namedUrl : String := "wss://relay.example:8443"

def ipv6Url : String := "wss://[2001:db8::5]:8443"

def routeV6 : IpAddr := ⟨.v6, "2001:db8::5", false⟩

def sampleClaims (url : String) : IssuedClaims where
  iss := "handcontrol-server"
  sub := (demoUuid 2).text
  aud := url
  exp := 4600
  iat := 1000
  serverId := (demoUuid 1).text
  serverAudience := (demoUuid 1).text
  bindingType := "client_id"
  bindingValue := (demoUuid 2).text
  permissions := ["connect"]

def sampleRequest (url : String) : RelayTokenRequest where
  subject := (demoUuid 2).text
  relayUrl := url
  ttlNanoseconds := 3600000000000
  bindingType := "client_id"
  bindingValue := (demoUuid 2).text

def webUrl (host : String) : ParsedUrl :=
  .web
    { scheme := "wss".toList
      host := host.toList
      port := some 8443
      path := [[]]
      query := none
      fragment := none }

def sampleLibraries : TokenLibraries where
  parseUuid text := (uuidFromString text).bind fun bytes =>
    if size : bytes.length = 16 then some ⟨bytes, size⟩ else none
  parseUrl text :=
    if text = namedUrl then some (webUrl "relay.example")
    else if text = ipv6Url then some (webUrl "[2001:db8::5]")
    else none
  readUri _ := none
  byteSerialize _ := ""
  decodeBase64 _ := none
  encodeBase64 _ := ""
  decodeToken now _ token :=
    if now < 4600 then some (sampleClaims token).forRelay else none
  parseIp text := if text = routeV6.text then some routeV6 else none
  printedName name := name
  verifyingKey key := key
  encodeToken _ claims := if claims = sampleClaims claims.aud then .ok claims.aud else .error ""
  parseUuid_text uuid := by
    simp [uuidFromString_text, uuid.size_eq]
  decodeToken_encodeToken := by
    intro key claims token now encoded unexpired
    split_ifs at encoded with known
    cases encoded
    rw [known] at unexpired ⊢
    exact if_pos unexpired

def sampleIssuer : TokenIssuer where
  signingKey := demoKey
  serverId := demoUuid 1

/-- A relay that is found by this name, or by its default route. -/
def sampleConfig (publicHostname : Option String) : RelayConfig where
  bindAddress := "::"
  port := 8443
  handshakeTimeoutSeconds := 10
  publicHostname := publicHostname
  registrationSecrets := ∅

def sampleRoutes : DefaultRoutes where
  v6 := some routeV6
  v4 := none

def samplePayload (token : String) : ConnectPayload where
  type := "connect"
  serverId := (demoUuid 1).text
  relayToken := token
  clientId := (demoUuid 2).text

/-- Server 1 is registered and client 2 has sent its request. -/
def sampleRelay (token : String) : Relay :=
  { Relay.started with
    registeredServers := (∅ : Table Uuid RegisteredServer).insert (demoUuid 1)
      ⟨demoUuid 3, 0, demoKey, none⟩
    connects := fun _ => .received (.payload (samplePayload token)) }

theorem sample_awaits (token : String) :
    AwaitsDecision sampleLibraries (sampleRelay token) sampleIssuer 0 (demoUuid 2) token := by
  constructor
  · exact ⟨_, AList.lookup_insert _, rfl⟩
  · exact ⟨samplePayload token, rfl, rfl, sampleLibraries.parseUuid_text (demoUuid 1),
      sampleLibraries.parseUuid_text (demoUuid 2), rfl⟩

theorem sample_claims (url : String) :
    sampleIssuer.relayClaims (sampleRequest url) 1000000000000 = .ok (sampleClaims url) := by
  have ttl_ne : (sampleRequest url).ttlNanoseconds ≠ 0 := by
    show (3600000000000 : Int) ≠ 0
    decide
  have ttl_eq : (sampleRequest url).ttlNanoseconds.toNat = 3600000000000 :=
    Int.toNat_natCast 3600000000000
  have clock_eq : (1000000000000 : Int).toNat = 1000000000000 :=
    Int.toNat_natCast 1000000000000
  rw [TokenIssuer.relayClaims, if_neg ttl_ne, if_neg (by decide), ttl_eq, clock_eq]
  rfl

theorem sample_issued (url : String) : sampleIssuer.generateRelayToken sampleLibraries
    (sampleRequest url) 1000000000000 = .ok url := by
  rw [TokenIssuer.generateRelayToken, sample_claims]
  exact if_pos rfl

theorem named_relay_admits :
    Admitted sampleLibraries (AppState.new sampleLibraries.toHostLibraries sampleRoutes
      (sampleConfig (some " relay.example "))).toRelaySetting (sampleRelay namedUrl) 0
      ⟨2000, demoUuid 4, demoKey⟩ := by
  apply (issued_token_admitted_iff sampleLibraries sampleRoutes
    (sampleConfig (some " relay.example ")) sampleIssuer (sampleRequest namedUrl) 1000000000000
    (demoUuid 2) namedUrl ?_ (sampleRelay namedUrl) 0 ?_ _ ?_).mpr
  · exact .inl (by decide +kernel)
  · exact ⟨sample_issued namedUrl, ⟨webUrl "relay.example", by decide +kernel, by decide +kernel,
      .inr rfl⟩, rfl, rfl, .inl rfl⟩
  · exact sample_awaits namedUrl
  · decide

/-- Without a public name the relay takes the address of its IPv6 default route, and refuses
the token that names this address. -/
theorem ipv6_relay_refuses :
    IssuedForRelay sampleLibraries (AppState.new sampleLibraries.toHostLibraries sampleRoutes
        (sampleConfig none)).toRelaySetting sampleIssuer (sampleRequest ipv6Url)
        1000000000000 (demoUuid 2) ipv6Url ∧
      AwaitsDecision sampleLibraries (sampleRelay ipv6Url) sampleIssuer 0 (demoUuid 2)
        ipv6Url ∧
      2000 < expirySeconds (sampleRequest ipv6Url) 1000000000000 ∧
      ¬ Admitted sampleLibraries (AppState.new sampleLibraries.toHostLibraries sampleRoutes
        (sampleConfig none)).toRelaySetting (sampleRelay ipv6Url) 0
        ⟨2000, demoUuid 4, demoKey⟩ := by
  refine ⟨?_, sample_awaits ipv6Url, by decide, ?_⟩
  · exact ⟨sample_issued ipv6Url, ⟨webUrl "[2001:db8::5]", by decide +kernel, by decide +kernel,
      .inr rfl⟩, rfl, rfl, .inl rfl⟩
  · have refused : isAllowedAudience (AppState.new sampleLibraries.toHostLibraries sampleRoutes
        (sampleConfig none)).toRelaySetting sampleLibraries.toRelayLibraries ipv6Url = false := by
      decide +kernel
    have awaits := sample_awaits ipv6Url
    obtain ⟨_, registered, -⟩ := awaits.registered
    obtain ⟨_, received, requests⟩ := awaits.received
    rw [admitted_iff received (parseConnect_of_requests requests) registered]
    rintro ⟨claims, passed⟩
    have authorized := authorizeConnect_ok_iff.mp passed
    have decoded : (sampleClaims ipv6Url).forRelay = claims := by
      have decodes := authorized.decodes
      rw [requests.token_eq] at decodes
      exact Option.some.inj decodes
    have audience := authorized.audience
    rw [← decoded] at audience
    cases refused.symm.trans audience

end HandControl.RelayTokens
