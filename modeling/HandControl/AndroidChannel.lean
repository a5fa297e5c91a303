import HandControl.StandardText
import HandControl.VerificationCode

/-!
# Channels of the Android client

The trust manager reports the certificate of every handshake before it judges it, and the channel
keeps the last one reported. Another peer may answer each new connection, so a call comes with the
handshakes that the network makes during it.
-/

namespace HandControl.AndroidChannel

open ByteEncoding StandardText VerificationCode

/-- A certificate in its encoding, and whether the current time is within its validity. -/
structure PeerCertificate where
  encoded : Bytes
  withinValidity : Bool

abbrev Chain := List PeerCertificate

/-- Lower case of ASCII letters, which is all that matters beside hexadecimal digits. -/
def lowercase (text : String) : String := String.ofList (text.toList.map Char.toLower)

def normalizeFingerprint (fingerprint : String) : String :=
  lowercase (dropMarker "SHA256:" fingerprint)

def normalizedExpectedFingerprint (expected : Option String) : Option String :=
  (expected.filter fun fingerprint => !isBlank fingerprint).map normalizeFingerprint

def checkServerTrusted (sha256 : Bytes → Digest) (expected : Option String) :
    Chain → Option Bytes × Except String Unit
  | [] => (none, .error "Server certificate chain is empty")
  | serverCert :: _ =>
    let current := normalizeFingerprint
      (VerificationCodeGenerator.computeFingerprint sha256 serverCert.encoded)
    let pinned :=
      match normalizedExpectedFingerprint expected with
      | none => true
      | some fingerprint => current == fingerprint
    let verdict : Except String Unit :=
      if !pinned then .error "Server certificate fingerprint does not match expected value"
      else if !serverCert.withinValidity then .error "Server certificate is not valid"
      else .ok ()
    (some serverCert.encoded, verdict)

inductive GrpcCode where
  | ok
  | cancelled
  | unknown
  | invalidArgument
  | deadlineExceeded
  | notFound
  | alreadyExists
  | permissionDenied
  | resourceExhausted
  | failedPrecondition
  | aborted
  | outOfRange
  | unimplemented
  | internal
  | unavailable
  | dataLoss
  | unauthenticated
deriving DecidableEq

def GrpcCode.name : GrpcCode → String
  | .ok => "OK"
  | .cancelled => "CANCELLED"
  | .unknown => "UNKNOWN"
  | .invalidArgument => "INVALID_ARGUMENT"
  | .deadlineExceeded => "DEADLINE_EXCEEDED"
  | .notFound => "NOT_FOUND"
  | .alreadyExists => "ALREADY_EXISTS"
  | .permissionDenied => "PERMISSION_DENIED"
  | .resourceExhausted => "RESOURCE_EXHAUSTED"
  | .failedPrecondition => "FAILED_PRECONDITION"
  | .aborted => "ABORTED"
  | .outOfRange => "OUT_OF_RANGE"
  | .unimplemented => "UNIMPLEMENTED"
  | .internal => "INTERNAL"
  | .unavailable => "UNAVAILABLE"
  | .dataLoss => "DATA_LOSS"
  | .unauthenticated => "UNAUTHENTICATED"

/-- The message of an exception; a missing one is printed as `null`. -/
abbrev ExceptionMessage := Option String

def ExceptionMessage.text (message : ExceptionMessage) : String := message.getD "null"

inductive RpcFailure where
  | status (code : GrpcCode) (description : Option String)
  | exception (message : ExceptionMessage)

def RpcFailure.message : RpcFailure → String
  | .status code none => code.name
  | .status code (some description) => code.name ++ ": " ++ description
  | .exception message => message.text

structure Channel where
  expectedFingerprint : Option String
  captured : Option Bytes
  connected : Bool

def Channel.create (expectedFingerprint : Option String) : Channel :=
  { expectedFingerprint := expectedFingerprint, captured := none, connected := false }

/-- What the network does with a call: the connections it opens, and the answer. -/
structure Rpc (Response : Type) where
  handshakes : List Chain
  outcome : Except RpcFailure Response

variable (sha256 : Bytes → Digest) {Response : Type}

def Channel.handshake (channel : Channel) (chain : Chain) : Channel :=
  let (reported, verdict) := checkServerTrusted sha256 channel.expectedFingerprint chain
  { channel with
    captured := reported.or channel.captured
    connected := channel.connected || verdict.isOk }

def Channel.call (channel : Channel) (rpc : Rpc Response) :
    Channel × Except RpcFailure Response :=
  let channel := rpc.handshakes.foldl (Channel.handshake sha256) channel
  match rpc.outcome with
  | .error failure => (channel, .error failure)
  | .ok response =>
    if channel.connected then (channel, .ok response)
    else (channel, .error (.status .unavailable none))

/-- The certificate of the last handshake in which a peer presented one. -/
def lastPresented (handshakes : List Chain) : Option Bytes :=
  (handshakes.filterMap fun chain => chain.head?.map PeerCertificate.encoded).getLast?

theorem handshake_captured (channel : Channel) (chain : Chain) :
    (channel.handshake sha256 chain).captured =
      (chain.head?.map PeerCertificate.encoded).or channel.captured := by
  cases chain with
  | nil | cons => rfl

theorem foldl_handshake_captured (handshakes : List Chain) (channel : Channel) :
    (handshakes.foldl (Channel.handshake sha256) channel).captured =
      (lastPresented handshakes).or channel.captured := by
  induction handshakes generalizing channel with
  | nil => rfl
  | cons chain rest ih =>
    rw [List.foldl_cons, ih, handshake_captured]
    cases presented : chain.head?.map PeerCertificate.encoded with
    | none => simp [lastPresented, presented]
    | some =>
      cases later : lastPresented rest with
      | none =>
        have nothing : (rest.filterMap fun chain =>
            chain.head?.map PeerCertificate.encoded) = [] := by
          simpa [lastPresented] using later
        simp [lastPresented, presented, nothing]
      | some =>
        unfold lastPresented at later
        simp [lastPresented, presented, List.getLast?_cons, later]

theorem call_captured (channel : Channel) (rpc : Rpc Response) :
    (channel.call sha256 rpc).1.captured =
      (lastPresented rpc.handshakes).or channel.captured := by
  unfold Channel.call
  rw [← foldl_handshake_captured sha256 rpc.handshakes channel]
  cases rpc.outcome with
  | error => rfl
  | ok =>
    dsimp only
    split_ifs with connected
    · rfl
    · rfl

theorem lastPresented_append (front back : List Chain) :
    lastPresented (front ++ back) = (lastPresented back).or (lastPresented front) := by
  simp [lastPresented, List.filterMap_append, List.getLast?_append]

def Channel.Reported (channel : Channel) : Prop :=
  channel.connected = true → channel.captured.isSome = true

theorem create_reported (expectedFingerprint : Option String) :
    (Channel.create expectedFingerprint).Reported := by
  intro connected
  cases connected

variable {sha256}

theorem handshake_reported {channel : Channel} (reported : channel.Reported) (chain : Chain) :
    (channel.handshake sha256 chain).Reported := by
  intro connected
  cases chain with
  | nil =>
    have before : channel.connected = true := by
      simpa [Channel.handshake, checkServerTrusted, Except.isOk, Except.toBool] using connected
    exact reported before
  | cons => rfl

theorem foldl_handshake_reported (handshakes : List Chain) {channel : Channel}
    (reported : channel.Reported) :
    (handshakes.foldl (Channel.handshake sha256) channel).Reported := by
  induction handshakes generalizing channel with
  | nil => exact reported
  | cons chain rest ih => exact ih (handshake_reported reported chain)

theorem call_ok {channel : Channel} {rpc : Rpc Response} {response : Response}
    (reported : channel.Reported) (answered : (channel.call sha256 rpc).2 = .ok response) :
    rpc.outcome = .ok response ∧ (channel.call sha256 rpc).1.captured.isSome = true := by
  have still : (rpc.handshakes.foldl (Channel.handshake sha256) channel).Reported :=
    foldl_handshake_reported rpc.handshakes reported
  unfold Channel.call at answered ⊢
  cases outcome : rpc.outcome with
  | error => simp [outcome] at answered
  | ok =>
    simp only [outcome] at answered ⊢
    split_ifs at answered ⊢ with connected
    · cases answered
      exact ⟨rfl, still connected⟩

end HandControl.AndroidChannel
