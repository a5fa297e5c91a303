import HandControl.KeyedTable
import HandControl.StandardText
import HandControl.UrlSyntax

/-!
# What the relay asks of a register and of a connect request

A server registers with its configured secret and its Ed25519 public key. A client that wants a
tunnel presents a token signed with the private key. The checks of the token are a chain of early
returns, each with the error code of its `connect_ack`.
-/

namespace HandControl.RelayAccess

open ByteEncoding KeyedTable StandardText
open UrlSyntax (UrlLibraries)

abbrev DecodingKey := FixedBytes 32

structure RelayClaims where
  sub : String
  aud : String
  exp : Nat
  serverId : String
  serverAudience : Option String
  bindingType : Option String
  bindingValue : Option String
  permissions : List String
deriving DecidableEq

/-- What the relay uses of other crates: `Uuid::parse_str`, `Url::parse`, the standard
base64 engine, and `jsonwebtoken::decode` for EdDSA without audience validation, which
reads the clock. -/
structure RelayLibraries extends UrlLibraries where
  parseUuid : String → Option Uuid
  decodeBase64 : String → Option Bytes
  encodeBase64 : Bytes → String
  decodeToken : Nat → DecodingKey → String → Option RelayClaims

/-- The part of `AppState` that is fixed when the relay starts. -/
structure RelaySetting where
  listenPort : UInt16
  relayHost : String
  secrets : Table Uuid String
  handshakeTimeout : Nat

/-- The first frame on a socket: the socket closes or sends no text, the text is not the
payload that is expected, or it is. -/
inductive FirstFrame (Payload : Type) where
  | closed
  | unreadable
  | payload (message : Payload)
deriving DecidableEq

structure RegisterPayload where
  type : String
  serverId : String
  relaySecret : String
  publicKey : String
  tlsAuthority : Option String
deriving DecidableEq

inductive RegisterFailure where
  | error (message : String)
  | unauthorized
  | sendFailed
deriving DecidableEq

structure Registration where
  serverId : Uuid
  decodingKey : DecodingKey
  tlsAuthority : Option String
deriving DecidableEq

def validateSecret (setting : RelaySetting) (serverId : Uuid) (provided : String) : Bool :=
  match setting.secrets.lookup serverId with
  | some expected => expected == provided
  | none => false

/-- The key is base64 of 32 bytes. The further encoding into the form that
`from_ed_components` wants cannot fail. -/
def decodePublicKey (libraries : RelayLibraries) (publicKey : String) :
    Except RegisterFailure DecodingKey :=
  match libraries.decodeBase64 publicKey with
  | none => .error (.error "public_key is not valid base64")
  | some rawKey =>
    if size : rawKey.length = 32 then .ok ⟨rawKey, size⟩
    else .error (.error "public_key must be 32 bytes (Ed25519)")

def registeredAuthority (tlsAuthority : Option String) : Option String :=
  (tlsAuthority.map trim).filter fun value => !value.isEmpty

/-- `handle_register_socket` up to its acknowledgement. -/
def acceptRegister (setting : RelaySetting) (libraries : RelayLibraries) :
    FirstFrame RegisterPayload → Except RegisterFailure Registration
  | .closed => .error (.error "register socket closed before payload")
  | .unreadable => .error (.error "Failed to parse register payload")
  | .payload message =>
    if message.type ≠ "register" then
      .error (.error ("unexpected message type " ++ message.type))
    else
      match libraries.parseUuid message.serverId with
      | none => .error (.error "invalid server_id")
      | some serverId =>
        if validateSecret setting serverId message.relaySecret then
          (decodePublicKey libraries message.publicKey).map fun decodingKey =>
            { serverId, decodingKey
              tlsAuthority := registeredAuthority message.tlsAuthority }
        else .error .unauthorized

structure ConnectPayload where
  type : String
  serverId : String
  relayToken : String
  clientId : String
deriving DecidableEq

inductive ConnectError where
  | serverNotRegistered
  | invalidToken
  | bindingMismatch
  | clientMismatch
  | serverMismatch
  | permissionDenied
  | serverUnreachable
deriving DecidableEq

def ConnectError.text : ConnectError → String
  | .serverNotRegistered => "server_not_registered"
  | .invalidToken => "invalid_token"
  | .bindingMismatch => "binding_mismatch"
  | .clientMismatch => "client_mismatch"
  | .serverMismatch => "server_mismatch"
  | .permissionDenied => "permission_denied"
  | .serverUnreachable => "server_unreachable"

inductive ConnectFailure where
  | error (message : String)
  | refused (error : ConnectError)
deriving DecidableEq

structure ConnectRequest where
  payload : ConnectPayload
  serverId : Uuid
  clientId : Uuid
deriving DecidableEq

/-- `handle_connect_socket` up to the lookup of the server. -/
def parseConnect (libraries : RelayLibraries) :
    FirstFrame ConnectPayload → Except ConnectFailure ConnectRequest
  | .closed => .error (.error "connect socket closed before payload")
  | .unreadable => .error (.error "Failed to parse connect payload")
  | .payload payload =>
    if payload.type ≠ "connect" then
      .error (.error ("unexpected message type " ++ payload.type))
    else
      match libraries.parseUuid payload.serverId with
      | none => .error (.error "invalid server_id")
      | some serverId =>
        match libraries.parseUuid payload.clientId with
        | none => .error (.error "invalid client_id")
        | some clientId => .ok { payload, serverId, clientId }

def isAllowedAudience (setting : RelaySetting) (libraries : RelayLibraries)
    (audience : String) : Bool :=
  let aud := trim audience
  let hostWithPort := setting.relayHost ++ ":" ++ toString setting.listenPort.toNat
  if eqIgnoreAsciiCase aud setting.relayHost then true
  else if eqIgnoreAsciiCase aud hostWithPort then true
  else
    match libraries.parseUrl aud with
    | none => false
    | some url =>
      match url.hostStr with
      | none => false
      | some host =>
        if eqIgnoreAsciiCase host setting.relayHost then
          match url.port with
          | some port => port == setting.listenPort.toNat
          | none => true
        else false

def require (condition : Bool) (error : ConnectError) : Except ConnectError Unit :=
  if condition then .ok () else .error error

/-- Both known binding types compare the binding value with the client. -/
def checkBindingType (bindingType bindingValue clientIdStr : String) :
    Except ConnectError Unit :=
  if bindingType = "client_id" then
    require (bindingValue == clientIdStr) .bindingMismatch
  else if bindingType = "enrollment_token" then
    require (bindingValue == clientIdStr) .bindingMismatch
  else .error .invalidToken

/-- An identifier in the token: unreadable is an invalid token, another one a mismatch. -/
def checkServer (libraries : RelayLibraries) (text : String) (serverId : Uuid) :
    Except ConnectError Unit :=
  match libraries.parseUuid text with
  | none => .error .invalidToken
  | some named => require (named == serverId) .serverMismatch

def checkClaims (setting : RelaySetting) (libraries : RelayLibraries)
    (request : ConnectRequest) (claims : RelayClaims) : Except ConnectError Unit := do
  let clientIdStr := request.clientId.text
  let bindingType := claims.bindingType.getD "client_id"
  let bindingValue := claims.bindingValue.getD claims.sub
  let serverAudience := claims.serverAudience.getD claims.serverId
  require (isAllowedAudience setting libraries claims.aud) .invalidToken
  require (claims.sub == bindingValue) .bindingMismatch
  require (claims.sub == clientIdStr) .clientMismatch
  checkBindingType bindingType bindingValue clientIdStr
  checkServer libraries claims.serverId request.serverId
  checkServer libraries serverAudience request.serverId
  require (claims.permissions.any fun permission => permission == "connect") .permissionDenied

/-- `handle_connect_socket` from the decoding of the token to the last check on it. -/
def authorizeConnect (setting : RelaySetting) (libraries : RelayLibraries) (now : Nat)
    (decodingKey : DecodingKey) (request : ConnectRequest) :
    Except ConnectError RelayClaims :=
  match libraries.decodeToken now decodingKey request.payload.relayToken with
  | none => .error .invalidToken
  | some claims => (checkClaims setting libraries request claims).map fun _ => claims

/-- The payload is a connect request that names the server and the client. -/
structure Names (libraries : RelayLibraries) (request : ConnectRequest) : Prop where
  isConnect : request.payload.type = "connect"
  server : libraries.parseUuid request.payload.serverId = some request.serverId
  client : libraries.parseUuid request.payload.clientId = some request.clientId

/-- What the claims of a token have to say for the request. -/
structure ClaimsMatch (setting : RelaySetting) (libraries : RelayLibraries)
    (request : ConnectRequest) (claims : RelayClaims) : Prop where
  audience : isAllowedAudience setting libraries claims.aud = true
  subject : claims.sub = request.clientId.text
  binding : ∀ value, claims.bindingValue = some value → value = request.clientId.text
  bindingType : claims.bindingType = none ∨ claims.bindingType = some "client_id" ∨
    claims.bindingType = some "enrollment_token"
  server : libraries.parseUuid claims.serverId = some request.serverId
  serverAudience : ∀ audience, claims.serverAudience = some audience →
    libraries.parseUuid audience = some request.serverId
  permission : "connect" ∈ claims.permissions

/-- The token of the request decodes under the key of one registration, to claims that
match the request. -/
structure Authorized (setting : RelaySetting) (libraries : RelayLibraries) (now : Nat)
    (decodingKey : DecodingKey) (request : ConnectRequest) (claims : RelayClaims) : Prop
    extends ClaimsMatch setting libraries request claims where
  decodes : libraries.decodeToken now decodingKey request.payload.relayToken = some claims

variable {setting : RelaySetting} {libraries : RelayLibraries} {request : ConnectRequest}
  {claims : RelayClaims}

theorem parseConnect_ok_names
    {frame : FirstFrame ConnectPayload}
    (parsed : parseConnect libraries frame = .ok request) :
    Names libraries request := by
  cases frame with
  | closed | unreadable => cases parsed
  | payload payload =>
    simp only [parseConnect] at parsed
    split at parsed
    · cases parsed
    · rename_i isConnect
      cases serverResult : libraries.parseUuid payload.serverId with
      | none => simp [serverResult] at parsed
      | some =>
        cases clientResult : libraries.parseUuid payload.clientId with
        | none => simp [serverResult, clientResult] at parsed
        | some =>
          simp only [serverResult, clientResult, Except.ok.injEq] at parsed
          subst parsed
          exact ⟨not_not.mp isConnect, serverResult, clientResult⟩

theorem require_ok_iff (condition : Bool) (error : ConnectError) :
    require condition error = .ok () ↔ condition = true := by
  cases condition with
  | false | true => simp [require]

theorem bind_ok_iff (first second : Except ConnectError Unit) :
    (first >>= fun _ => second) = .ok () ↔ first = .ok () ∧ second = .ok () := by
  cases first with
  | error | ok => simp [bind, Except.bind]

theorem checkBindingType_ok_iff (bindingType bindingValue clientIdStr : String) :
    checkBindingType bindingType bindingValue clientIdStr = .ok () ↔
      bindingValue = clientIdStr ∧
        (bindingType = "client_id" ∨ bindingType = "enrollment_token") := by
  unfold checkBindingType
  by_cases known : bindingType = "client_id"
  · simp [known, require_ok_iff]
  · by_cases enrollment : bindingType = "enrollment_token"
    · simp [enrollment, require_ok_iff]
    · simp [known, enrollment]

theorem checkServer_ok_iff (text : String) (serverId : Uuid) :
    checkServer libraries text serverId = .ok () ↔
      libraries.parseUuid text = some serverId := by
  unfold checkServer
  cases parsed : libraries.parseUuid text with
  | none => simp
  | some => simp [require_ok_iff]

/-- The chain of checks passes exactly the claims that say what they have to: an absent
claim stands for another one that is checked too. -/
theorem checkClaims_ok_iff :
    checkClaims setting libraries request claims = .ok () ↔
      ClaimsMatch setting libraries request claims := by
  simp only [checkClaims, bind_ok_iff, require_ok_iff, checkBindingType_ok_iff,
    checkServer_ok_iff, beq_iff_eq, List.any_beq', List.contains_iff_mem]
  constructor
  · rintro ⟨audience, _, subject, ⟨value_eq, type_eq⟩, server, audience_eq, permission⟩
    refine ⟨audience, subject, ?_, ?_, server, ?_, permission⟩
    · intro value present
      rw [present] at value_eq
      exact value_eq
    · cases given : claims.bindingType with
      | none => exact Or.inl rfl
      | some =>
        rw [given] at type_eq
        exact Or.inr (type_eq.imp (congrArg some) (congrArg some))
    · intro given present
      rw [present] at audience_eq
      exact audience_eq
  · rintro ⟨audience, subject, binding, bindingType, server, serverAudience, permission⟩
    have value_eq : claims.bindingValue.getD claims.sub = request.clientId.text := by
      cases given : claims.bindingValue with
      | none => exact subject
      | some value => exact binding value given
    refine ⟨audience, subject.trans value_eq.symm, subject, ⟨value_eq, ?_⟩, server, ?_, permission⟩
    · rcases bindingType with absent | known | enrollment
      · exact Or.inl (by rw [absent]; rfl)
      · exact Or.inl (by rw [known]; rfl)
      · exact Or.inr (by rw [enrollment]; rfl)
    · cases given : claims.serverAudience with
      | none => exact server
      | some audience => exact serverAudience audience given

theorem authorizeConnect_ok_iff {now : Nat} {decodingKey : DecodingKey} :
    authorizeConnect setting libraries now decodingKey request = .ok claims ↔
      Authorized setting libraries now decodingKey request claims := by
  unfold authorizeConnect
  constructor
  · intro passed
    cases decoded : libraries.decodeToken now decodingKey request.payload.relayToken with
    | none => simp [decoded] at passed
    | some found =>
      rw [decoded] at passed
      cases checked : checkClaims setting libraries request found with
      | error => simp [checked, Except.map] at passed
      | ok =>
        simp only [checked, Except.map, Except.ok.injEq] at passed
        subst passed
        exact ⟨checkClaims_ok_iff.mp checked, decoded⟩
  · intro authorized
    have checked := checkClaims_ok_iff.mpr authorized.toClaimsMatch
    rw [authorized.decodes]
    simp [checked, Except.map]

end HandControl.RelayAccess
