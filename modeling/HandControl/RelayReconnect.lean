import HandControl.RelayEndpoints

/-!
# Reconnection to the relay

The relay client connects again whenever its connection has ended, and sleeps before it does. Its
shared state tells after a failure whether the connection had been there. The server starts the
client when the relay is enabled.
-/

namespace HandControl.RelayReconnect

open ConfigValidation RelayEndpoints ServerConfiguration

inductive RelayClientState where
  | disconnected
  | connecting
  | connected
  | error (message : String)
  deriving DecidableEq

inductive ControlMessage where
  | registerAck (status : String)
  | openTunnel
  | ping

inductive Frame where
  | text (payload : String)
  | close
  | other

/-- What becomes of a connection: whether the socket is opened and the registration is sent, and
the frames until the stream ends or fails. -/
structure Connection where
  opened : Except String Unit
  registered : Except String Unit
  frames : List (Except String Frame)

/-- The reader of control messages, and how a frame is shown in an error. -/
structure ControlCodec where
  fromStr : String → Option ControlMessage
  debug : Frame → String

/-- The shared state, the local variable `reconnect_delay`, and the delays slept so far. -/
structure RelayClient where
  state : RelayClientState
  reconnectDelay : Nat
  slept : List Nat

def RelayClient.new : RelayClient := ⟨.disconnected, 1, []⟩

def listenControlChannel : List (Except String Frame) → Except String Unit
  | [] | .ok .close :: _ => .ok ()
  | .error message :: _ => .error s!"WebSocket error: {message}"
  | .ok _ :: rest => listenControlChannel rest

section

variable (codec : ControlCodec) (relay : RelayConfig)

/-- The first frame has to be a positive `register_ack`. The frames behind it are the result. -/
def awaitRegisterAck : List (Except String Frame) → Except String (List (Except String Frame))
  | .ok (.text payload) :: rest =>
    match codec.fromStr payload with
    | some (.registerAck status) =>
      if status ≠ "ok" then .error s!"Relay registration failed: {status}" else .ok rest
    | some _ => .error "Expected register_ack, got different message"
    | none => .error "Failed to parse register_ack"
  | .ok frame :: _ => .error s!"Expected text message, got: {codec.debug frame}"
  | .error message :: _ => .error s!"WebSocket error: {message}"
  | [] => .error "Connection closed before register_ack"

/-- `connect_and_run` up to the positive acknowledgement. -/
def register (connection : Connection) : Except String (List (Except String Frame)) := do
  if relay.relayServerUrl = none then throw "relay_server_url not configured"
  connection.opened
  if relay.relayAuthSecret = none then throw "relay_auth_secret not configured"
  connection.registered
  awaitRegisterAck codec connection.frames

def connectAndRun (client : RelayClient) (connection : Connection) :
    RelayClient × Except String Unit :=
  match register codec relay connection with
  | .error message => (client, .error message)
  | .ok frames => ({ client with state := .connected }, listenControlChannel frames)

/-- The loop of `start` up to the question for `auto_connect`, with its `reset_backoff`. -/
def attempt (client : RelayClient) (connection : Connection) : RelayClient × Bool :=
  match connectAndRun codec relay { client with state := .connecting } connection with
  | (client, .ok ()) => ({ client with state := .disconnected }, true)
  | (client, .error message) =>
    let wasConnected := decide (client.state = .connected)
    ({ client with state := .error message }, wasConnected)

def backOff (client : RelayClient) (resetBackoff : Bool) : RelayClient :=
  let delay := if resetBackoff then 1 else client.reconnectDelay
  { client with
    reconnectDelay := if resetBackoff then 1 else min (delay * 2) relay.reconnectDelaySeconds
    slept := client.slept ++ [delay] }

def start (client : RelayClient) : List Connection → RelayClient
  | [] => client
  | connection :: rest =>
    let (tried, resetBackoff) := attempt codec relay client connection
    if !relay.autoConnect then tried else start (backOff relay tried resetBackoff) rest

inductive Outcome where
  | closed
  | failedConnected
  | failedUnconnected
  deriving DecidableEq

/-- How a connection ends, read off what happens on it. -/
def outcome (connection : Connection) : Outcome :=
  match register codec relay connection with
  | .error _ => .failedUnconnected
  | .ok frames =>
    match listenControlChannel frames with
    | .ok () => .closed
    | .error _ => .failedConnected

/-- How many connections at the end failed before they were there. -/
def failuresInARow (connections : List Connection) : Nat :=
  (connections.reverse.takeWhile fun connection =>
    outcome codec relay connection = .failedUnconnected).length

variable {codec relay} {client : RelayClient} {connection : Connection}

theorem failuresInARow_snoc (past : List Connection) :
    failuresInARow codec relay (past ++ [connection]) =
      if outcome codec relay connection = .failedUnconnected then
        failuresInARow codec relay past + 1
      else 0 := by
  split_ifs with failed <;> simp [failuresInARow, failed]

/-- The state was `Connecting` when the connection began, so it is `Connected` after a failure only
if the registration was acknowledged. -/
theorem attempt_resets :
    (attempt codec relay client connection).2 =
      decide (outcome codec relay connection ≠ .failedUnconnected) := by
  cases registered : register codec relay connection with
  | error => simp [attempt, connectAndRun, outcome, registered]
  | ok frames =>
    cases ended : listenControlChannel frames <;>
      simp [attempt, connectAndRun, outcome, registered, ended]

theorem attempt_keeps :
    (attempt codec relay client connection).1.reconnectDelay = client.reconnectDelay ∧
      (attempt codec relay client connection).1.slept = client.slept := by
  cases registered : register codec relay connection with
  | error => simp [attempt, connectAndRun, registered]
  | ok frames =>
    cases ended : listenControlChannel frames <;> simp [attempt, connectAndRun, registered, ended]

/-- One turn of the loop. -/
def turn (codec : ControlCodec) (relay : RelayConfig) (client : RelayClient)
    (connection : Connection) : RelayClient :=
  let (tried, resetBackoff) := attempt codec relay client connection
  backOff relay tried resetBackoff

theorem turn_slept :
    (turn codec relay client connection).slept = client.slept ++
      [if outcome codec relay connection = .failedUnconnected then client.reconnectDelay
        else 1] := by
  simp only [turn, backOff, attempt_resets, attempt_keeps]
  split_ifs <;> simp_all

theorem turn_delay :
    (turn codec relay client connection).reconnectDelay =
      if outcome codec relay connection = .failedUnconnected then
        min (client.reconnectDelay * 2) relay.reconnectDelaySeconds
      else 1 := by
  simp only [turn, backOff, attempt_resets, attempt_keeps]
  split_ifs <;> simp_all

section

variable (reconnects : relay.autoConnect = true)

include reconnects

theorem start_eq_foldl (connections : List Connection) (client : RelayClient) :
    start codec relay client connections = connections.foldl (turn codec relay) client := by
  induction connections generalizing client with
  | nil => rfl
  | cons connection rest induction =>
    rw [start, reconnects, List.foldl_cons, ← induction]
    rfl

end

theorem foldl_slept (connections : List Connection) (client : RelayClient) :
    client.slept <+: (connections.foldl (turn codec relay) client).slept := by
  induction connections generalizing client with
  | nil => exact List.prefix_refl _
  | cons connection rest induction =>
    refine List.IsPrefix.trans ?_ (induction (turn codec relay client connection))
    rw [turn_slept]
    exact List.prefix_append _ _

/-- The loop invariant: the next delay is the power of two that the failures so far call for. -/
theorem foldl_delay (positive : 0 < relay.reconnectDelaySeconds) (past : List Connection) :
    (past.foldl (turn codec relay) .new).reconnectDelay =
        min (2 ^ failuresInARow codec relay past) relay.reconnectDelaySeconds ∧
      (past.foldl (turn codec relay) .new).slept.length = past.length := by
  induction past using List.reverseRecOn with
  | nil =>
    refine ⟨?_, rfl⟩
    show 1 = min 1 relay.reconnectDelaySeconds
    omega
  | append_singleton _ _ induction =>
    obtain ⟨delay_eq, length_eq⟩ := induction
    rw [List.foldl_concat, turn_delay, turn_slept, failuresInARow_snoc, delay_eq]
    constructor
    · split_ifs
      · rw [pow_succ]
        omega
      · rw [pow_zero]
        omega
    · simp [length_eq]

end

/-- The delay is one second after a connection, and doubles up to the maximum without one. -/
theorem reconnect_delay_exponential (codec : ControlCodec) {config : Config}
    (valid : validateServerConfig config = .ok ()) (enabled : config.relay.enabled = true)
    (reconnects : config.relay.autoConnect = true) (past : List Connection)
    (connection : Connection) (rest : List Connection) :
    ∃ delay, (start codec config.relay .new (past ++ connection :: rest)).slept[past.length]? =
        some delay ∧
      (outcome codec config.relay connection ≠ .failedUnconnected → delay = 1) ∧
      (outcome codec config.relay connection = .failedUnconnected → delay =
        min (2 ^ (failuresInARow codec config.relay (past ++ [connection]) - 1))
          config.relay.reconnectDelaySeconds) ∧
      1 ≤ delay ∧ delay ≤ config.relay.reconnectDelaySeconds := by
  have positive : 0 < config.relay.reconnectDelaySeconds :=
    Nat.pos_of_ne_zero (((validateServerConfig_eq_ok_iff config).mp valid).relay enabled).delay
  obtain ⟨delay_eq, length_eq⟩ := @foldl_delay codec config.relay positive past
  rw [start_eq_foldl reconnects, List.foldl_append, List.foldl_cons]
  generalize past.foldl (turn codec config.relay) .new = client at delay_eq length_eq
  obtain ⟨_, slept_eq⟩ :=
    @foldl_slept codec config.relay rest (turn codec config.relay client connection)
  rw [turn_slept, delay_eq, List.append_assoc] at slept_eq
  have power : 0 < 2 ^ failuresInARow codec config.relay past := Nat.two_pow_pos _
  refine ⟨if outcome codec config.relay connection = .failedUnconnected then
      min (2 ^ failuresInARow codec config.relay past) config.relay.reconnectDelaySeconds
    else 1, ?_, fun connected => if_neg connected, fun failed => ?_, ?_, ?_⟩
  · rw [← slept_eq, ← length_eq, List.getElem?_append_right (Nat.le_refl _), Nat.sub_self]
    rfl
  · rw [if_pos failed, failuresInARow_snoc, if_pos failed]
    rfl
  · split_ifs <;> omega
  · split_ifs <;> omega

/-- The relay is not reached. -/
def unreachable : Connection := ⟨.error "Failed to connect to relay server", .ok (), []⟩

/-- The relay acknowledges every registration, and the stream breaks off. -/
def broken : Connection := ⟨.ok (), .ok (), [.ok (.text ""), .error "reset"]⟩

def ackCodec : ControlCodec := ⟨fun _ => some (.registerAck "ok"), fun _ => ""⟩

theorem third_failure_waits_four_seconds :
    outcome ackCodec (relayConfig baseUrl).relay broken = .failedConnected ∧
      ∃ delay, (start ackCodec (relayConfig baseUrl).relay .new
          ([broken, unreachable, unreachable] ++ unreachable :: [broken])).slept[3]? = some delay ∧
        delay = min (2 ^ 2) 30 := by
  have valid : validateServerConfig (relayConfig baseUrl) = .ok () := rfl
  obtain ⟨delay, slept, _, doubled, _⟩ := reconnect_delay_exponential ackCodec valid rfl rfl
    [broken, unreachable, unreachable] unreachable [broken]
  exact ⟨rfl, delay, slept, doubled rfl⟩

end HandControl.RelayReconnect
