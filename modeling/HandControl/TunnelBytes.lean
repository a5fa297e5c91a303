import HandControl.HopChains
import HandControl.TunnelForwarding

/-!
# The byte stream through a tunnel

A tunnel carries one byte stream in each direction between a Rust client and the local TCP
connection of the server. The tasks of client, relay and server cut the bytes into binary frames and
put them together again, with other frames on the same WebSocket links. A link delivers in order
until it fails; a reader then gets an error or the end, and the rest is lost.
-/

namespace HandControl.TunnelBytes

open HopChains TransitionRuns TunnelForwarding

/-- The two byte streams: from the client's stream to the server's TCP connection, and
back. -/
inductive Lane where
  | up
  | down
deriving DecidableEq

/-- Where the task is that turns bytes into frames: `spawn_uplink` of the client, and
`local_to_ws` in `handle_tunnel` of the server. -/
inductive SenderPhase where
  | reading
  | sending (data : List UInt8)
  | closing
  | ended
deriving DecidableEq

/-- Where the task is that turns frames into bytes: `ws_to_local` in `handle_tunnel`, and
`spawn_downlink` of the client. -/
inductive ReceiverPhase where
  | reading
  | writing (rest : List UInt8)
  | ponging (data : List UInt8)
  | ended
deriving DecidableEq

/-- One direction of a tunnel. `written` is all that was written at its beginning, of which
`source` has not been read yet, and `delivered` what was written at its end. -/
structure LaneState where
  written : List UInt8
  source : List UInt8
  sender : SenderPhase
  firstLink : List Frame
  relay : Direction
  secondLink : List Frame
  receiver : ReceiverPhase
  delivered : List UInt8

def LaneState.started : LaneState where
  written := []
  source := []
  sender := .reading
  firstLink := []
  relay := Direction.started
  secondLink := []
  receiver := .reading
  delivered := []

def bufferSize : Lane → Nat
  | .up => 16 * 1024
  | .down => 8192

/-- At the end of its input, or when reading it fails, the client's task sends a close
frame; the server's task just ends. -/
def afterSource : Lane → SenderPhase
  | .up => .closing
  | .down => .ended

/-- The arms of the loop `ws_to_local`. -/
def wsToLocal : Reading → ReceiverPhase
  | .message (.binary payload) => .writing payload
  | .message (.close _) => .ended
  | .failed => .ended
  | .ended => .ended
  | .message _ => .reading

/-- The arms of the loop in `spawn_downlink`. `isTunnelFailed` says whether a text parses as
a `TunnelFailedMessage`. -/
def spawnDownlink (isTunnelFailed : String → Bool) : Reading → ReceiverPhase
  | .message (.binary payload) => .writing payload
  | .message (.close _) => .ended
  | .message (.ping payload) => .ponging payload
  | .message (.pong _) => .reading
  | .message (.text payload) => if isTunnelFailed payload then .ended else .reading
  | .failed => .ended
  | .ended => .ended

def onReading (isTunnelFailed : String → Bool) : Lane → Reading → ReceiverPhase
  | .up => wsToLocal
  | .down => spawnDownlink isTunnelFailed

inductive SendResult where
  | sent
  | failed (onLink : Bool)
deriving DecidableEq

def SendResult.isSent : SendResult → Bool
  | .sent => true
  | .failed _ => false

def SendResult.put (result : SendResult) (link : List Frame) (frame : Frame) : List Frame :=
  match result with
  | .sent => link ++ [frame]
  | .failed true => link ++ [frame]
  | .failed false => link

/-- What a read of a link takes from it. A failure or the end can come at any time. -/
def takeFrom (link : List Frame) : Reading → Option (List Frame)
  | .message frame =>
    match link with
    | first :: rest => if first = frame then some rest else none
    | [] => none
  | .failed => some link
  | .ended => some link

/-- Any frame but a binary one. The WebSocket libraries of the two ends and the other tasks
may put it on a link at any time. -/
def isControl : Frame → Bool
  | .binary _ => false
  | _ => true

inductive LaneAction where
  | writes (bytes : List UInt8)
  | senderReads (count : Nat)
  | sourceEnds (failed : Bool)
  | senderSends (result : SendResult)
  | senderCloses (result : SendResult)
  | firstLinkGets (frame : Frame)
  | relayReads (reading : Reading)
  | relaySends (result : SendResult)
  | relayCloses (result : SendResult)
  | secondLinkGets (frame : Frame)
  | receiverReads (reading : Reading)
  | receiverWrites (count : Nat)
  | receiverFails
deriving DecidableEq

namespace LaneState

def stepSenderReads (state : LaneState) (lane : Lane) (count : Nat) : Option LaneState :=
  match state.sender with
  | .reading =>
    if 0 < count ∧ count ≤ bufferSize lane ∧ count ≤ state.source.length then
      some { state with
        sender := .sending (state.source.take count)
        source := state.source.drop count }
    else none
  | _ => none

def stepSourceEnds (state : LaneState) (lane : Lane) (failed : Bool) : Option LaneState :=
  match state.sender with
  | .reading =>
    if failed || state.source.isEmpty then some { state with sender := afterSource lane }
    else none
  | _ => none

def stepSenderSends (state : LaneState) (result : SendResult) : Option LaneState :=
  match state.sender with
  | .sending data =>
    let next : SenderPhase := if result.isSent then .reading else .ended
    some { state with
      sender := next
      firstLink := result.put state.firstLink (.binary data) }
  | _ => none

def stepSenderCloses (state : LaneState) (result : SendResult) : Option LaneState :=
  match state.sender with
  | .closing =>
    some { state with
      sender := .ended
      firstLink := result.put state.firstLink (.close none) }
  | _ => none

def stepRelayReads (state : LaneState) (reading : Reading) : Option LaneState :=
  match takeFrom state.firstLink reading, state.relay.stepRead reading with
  | some link, some relay => some { state with firstLink := link, relay := relay }
  | _, _ => none

def outgoing : ForwardPhase → Option Frame
  | .sending frame => some frame
  | .relayingClose frame => some (.close frame)
  | .closing => some (.close none)
  | _ => none

def stepRelaySends (state : LaneState) (result : SendResult) : Option LaneState :=
  match outgoing state.relay.phase, state.relay.stepSend result.isSent with
  | some frame, some relay =>
    some { state with relay := relay, secondLink := result.put state.secondLink frame }
  | _, _ => none

def stepRelayCloses (state : LaneState) (result : SendResult) : Option LaneState :=
  match outgoing state.relay.phase, state.relay.stepClose with
  | some frame, some relay =>
    some { state with relay := relay, secondLink := result.put state.secondLink frame }
  | _, _ => none

def stepReceiverReads (isTunnelFailed : String → Bool) (state : LaneState) (lane : Lane)
    (reading : Reading) : Option LaneState :=
  match state.receiver, takeFrom state.secondLink reading with
  | .reading, some link =>
    some { state with
      receiver := onReading isTunnelFailed lane reading
      secondLink := link }
  | _, _ => none

/-- `write_all` writes as much as the connection takes, until nothing is left. -/
def stepReceiverWrites (state : LaneState) (count : Nat) : Option LaneState :=
  match state.receiver with
  | .writing rest =>
    if count ≤ rest.length then
      let left := rest.drop count
      let next : ReceiverPhase := if left.isEmpty then .reading else .writing left
      some { state with
        receiver := next
        delivered := state.delivered ++ rest.take count }
    else none
  | _ => none

def stepReceiverFails (state : LaneState) : Option LaneState :=
  match state.receiver with
  | .writing _ => some { state with receiver := .ended }
  | _ => none

def step (isTunnelFailed : String → Bool) (state : LaneState) (lane : Lane) :
    LaneAction → Option LaneState
  | .writes bytes =>
    some { state with
      written := state.written ++ bytes
      source := state.source ++ bytes }
  | .senderReads count => state.stepSenderReads lane count
  | .sourceEnds failed => state.stepSourceEnds lane failed
  | .senderSends result => state.stepSenderSends result
  | .senderCloses result => state.stepSenderCloses result
  | .firstLinkGets frame =>
    if isControl frame then some { state with firstLink := state.firstLink ++ [frame] }
    else none
  | .relayReads reading => state.stepRelayReads reading
  | .relaySends result => state.stepRelaySends result
  | .relayCloses result => state.stepRelayCloses result
  | .secondLinkGets frame =>
    if isControl frame then some { state with secondLink := state.secondLink ++ [frame] }
    else none
  | .receiverReads reading => state.stepReceiverReads isTunnelFailed lane reading
  | .receiverWrites count => state.stepReceiverWrites count
  | .receiverFails => state.stepReceiverFails

end LaneState

structure Tunnel where
  up : LaneState
  down : LaneState

def Tunnel.started : Tunnel where
  up := LaneState.started
  down := LaneState.started

inductive TunnelAction where
  | inLane (lane : Lane) (action : LaneAction)
  | downlinkPongs (result : SendResult)
  | serverEnds (onLink : Bool)
deriving DecidableEq

namespace Tunnel

def lane (tunnel : Tunnel) : Lane → LaneState
  | .up => tunnel.up
  | .down => tunnel.down

def putLane (tunnel : Tunnel) (lane : Lane) (state : LaneState) : Tunnel :=
  match lane with
  | .up => { tunnel with up := state }
  | .down => { tunnel with down := state }

/-- The client answers a ping on the link that its other task sends on. -/
def stepDownlinkPongs (tunnel : Tunnel) (result : SendResult) : Option Tunnel :=
  match tunnel.down.receiver with
  | .ponging data =>
    some {
      up := { tunnel.up with firstLink := result.put tunnel.up.firstLink (.pong data) }
      down := { tunnel.down with receiver := .reading } }
  | _ => none

/-- `handle_tunnel` of the server runs its two tasks until one of them ends, and drops the
other one wherever it is. A frame that it was sending may be on the link. -/
def stepServerEnds (tunnel : Tunnel) (onLink : Bool) : Option Tunnel :=
  if tunnel.up.receiver = .ended ∨ tunnel.down.sender = .ended then
    let firstLink :=
      match tunnel.down.sender with
      | .sending data =>
        (SendResult.failed onLink).put tunnel.down.firstLink (.binary data)
      | _ => tunnel.down.firstLink
    some {
      up := { tunnel.up with receiver := .ended }
      down := { tunnel.down with sender := .ended, firstLink := firstLink } }
  else none

end Tunnel

def stepTunnel (isTunnelFailed : String → Bool) (tunnel : Tunnel) :
    TunnelAction → Option Tunnel
  | .inLane lane action =>
    ((tunnel.lane lane).step isTunnelFailed lane action).map (tunnel.putLane lane)
  | .downlinkPongs result => tunnel.stepDownlinkPongs result
  | .serverEnds onLink => tunnel.stepServerEnds onLink

def payload : Frame → List UInt8
  | .binary bytes => bytes
  | _ => []

def bytesOn (link : List Frame) : List UInt8 :=
  link.flatMap payload

@[simp] theorem bytesOn_append (front back : List Frame) :
    bytesOn (front ++ back) = bytesOn front ++ bytesOn back := by
  simp [bytesOn]

@[simp] theorem bytesOn_cons (frame : Frame) (link : List Frame) :
    bytesOn (frame :: link) = payload frame ++ bytesOn link := by
  simp [bytesOn]

@[simp] theorem bytesOn_nil : bytesOn [] = [] := rfl

variable {frame : Frame} {reading : Reading} {count : Nat} {result : SendResult}
variable {isTunnelFailed : String → Bool} {tunnel after : Tunnel}

theorem payload_of_control (control : isControl frame = true) : payload frame = [] := by
  cases frame <;> first | rfl | cases control

def senderHop : SenderPhase → Hop UInt8
  | .reading => ⟨[], false⟩
  | .sending data => ⟨data, false⟩
  | .closing => ⟨[], true⟩
  | .ended => ⟨[], true⟩

def relayHop : ForwardPhase → Hop UInt8
  | .reading => ⟨[], false⟩
  | .sending frame => ⟨payload frame, false⟩
  | _ => ⟨[], true⟩

def receiverHop : ReceiverPhase → Hop UInt8
  | .reading => ⟨[], false⟩
  | .writing rest => ⟨rest, false⟩
  | .ponging _ => ⟨[], false⟩
  | .ended => ⟨[], true⟩

namespace LaneState

def hops (state : LaneState) : List (Hop UInt8) :=
  [⟨state.delivered, false⟩, receiverHop state.receiver, ⟨bytesOn state.secondLink, false⟩,
    relayHop state.relay.phase, ⟨bytesOn state.firstLink, false⟩, senderHop state.sender,
    ⟨state.source, false⟩]

def beforeRelay (state : LaneState) : List (Hop UInt8) :=
  [⟨state.delivered, false⟩, receiverHop state.receiver]

def beforeSender (state : LaneState) : List (Hop UInt8) :=
  [⟨state.delivered, false⟩, receiverHop state.receiver, ⟨bytesOn state.secondLink, false⟩,
    relayHop state.relay.phase]

end LaneState

def IsFaithful (state : LaneState) : Prop :=
  Faithful state.written state.hops

section

variable {written : List UInt8} (front : List (Hop UInt8)) {back : List (Hop UInt8)}
  {link rest : List Frame}

def readBytes : Reading → List UInt8
  | .message frame => payload frame
  | _ => []

theorem takeFrom_bytes (taken : takeFrom link reading = some rest) :
    bytesOn link = readBytes reading ++ bytesOn rest := by
  unfold takeFrom at taken
  split at taken
  · split at taken
    · split at taken
      · rename_i same
        cases taken
        rw [bytesOn_cons, same]
        rfl
      · cases taken
    · cases taken
  · cases taken
    rfl
  · cases taken
    rfl

/-- A task that reads a link holds the bytes it read, or stops. -/
theorem reads_faithful {hop : Hop UInt8}
    (faithful : Faithful written (front ++ ⟨[], false⟩ :: ⟨bytesOn link, false⟩ :: back))
    (taken : takeFrom link reading = some rest)
    (held : hop = ⟨readBytes reading, false⟩ ∨ hop = ⟨[], true⟩) :
    Faithful written (front ++ hop :: ⟨bytesOn rest, false⟩ :: back) := by
  rw [takeFrom_bytes taken] at faithful
  have took := faithful.take
  rcases held with holds | stops
  · rw [holds]
    exact took
  · rw [stops]
    exact took.stop

/-- A task that sends the frame it holds goes on if the send succeeds and stops if not. -/
theorem sends_faithful (frame : Frame) (result : SendResult) (faithful : Faithful written
      (front ++ ⟨bytesOn link, false⟩ :: ⟨payload frame, false⟩ :: back)) :
    Faithful written
      (front ++ ⟨bytesOn (result.put link frame), false⟩ :: ⟨[], !result.isSent⟩ :: back) := by
  have gave : Faithful written
      (front ++ ⟨bytesOn (link ++ [frame]), false⟩ :: ⟨[], false⟩ :: back) := by
    rw [bytesOn_append, bytesOn_cons, bytesOn_nil, List.append_nil]
    exact faithful.give
  rcases result with _ | onLink
  · exact gave
  · cases onLink with
    | true =>
      have stopped := Faithful.stop (front ++ [⟨bytesOn (link ++ [frame]), false⟩])
        (by simpa using gave)
      simpa [SendResult.put, SendResult.isSent] using stopped
    | false =>
      have stopped := Faithful.stop (front ++ [⟨bytesOn link, false⟩]) (by simpa using faithful)
      simpa [SendResult.put, SendResult.isSent] using stopped

theorem bytesOn_put_control (result : SendResult) (control : payload frame = []) :
    bytesOn (result.put link frame) = bytesOn link := by
  rcases result with _ | onLink
  · simp [SendResult.put, control]
  · cases onLink <;> simp [SendResult.put, control]

end

open LaneState

section

variable {state after : LaneState} {lane : Lane}

section

variable (faithful : IsFaithful state)

include faithful

theorem writes_faithful (bytes : List UInt8) :
    IsFaithful { state with
      written := state.written ++ bytes
      source := state.source ++ bytes } :=
  Faithful.extend
    (state.beforeSender ++ [⟨bytesOn state.firstLink, false⟩, senderHop state.sender]) bytes
    faithful

theorem senderReads_faithful (moved : state.stepSenderReads lane count = some after) :
    IsFaithful after := by
  unfold stepSenderReads at moved
  split at moved
  · rename_i phase_eq
    split at moved
    · cases moved
      rw [IsFaithful, hops, phase_eq, ← List.take_append_drop count state.source] at faithful
      exact Faithful.take (state.beforeSender ++ [⟨bytesOn state.firstLink, false⟩]) faithful
    · cases moved
  · cases moved

theorem senderStops_faithful (next : SenderPhase) (stopped : senderHop next = ⟨[], true⟩) :
    IsFaithful { state with sender := next } := by
  rw [IsFaithful, hops] at faithful ⊢
  rw [stopped]
  exact Faithful.stop (state.beforeSender ++ [⟨bytesOn state.firstLink, false⟩]) faithful

theorem sourceEnds_faithful {failed : Bool}
    (moved : state.stepSourceEnds lane failed = some after) :
    IsFaithful after := by
  unfold stepSourceEnds at moved
  split at moved
  · split at moved
    · cases moved
      apply senderStops_faithful faithful
      cases lane with
      | up | down => rfl
    · cases moved
  · cases moved

theorem senderSends_faithful (moved : state.stepSenderSends result = some after) :
    IsFaithful after := by
  unfold stepSenderSends at moved
  split at moved
  · rename_i data phase_eq
    cases moved
    rw [IsFaithful, hops, phase_eq] at faithful
    have sent := sends_faithful state.beforeSender (.binary data) result faithful
    cases result with
    | sent | failed => exact sent
  · cases moved

theorem senderCloses_faithful (moved : state.stepSenderCloses result = some after) :
    IsFaithful after := by
  unfold stepSenderCloses at moved
  split at moved
  · cases moved
    have stopped := senderStops_faithful faithful .ended rfl
    have same : bytesOn (result.put state.firstLink (.close none)) = bytesOn state.firstLink :=
      bytesOn_put_control result rfl
    simpa [IsFaithful, hops, same] using stopped
  · cases moved

end

theorem relayHop_onReading (reading : Reading) :
    relayHop (.onReading reading) = ⟨readBytes reading, false⟩ ∨
      relayHop (.onReading reading) = ⟨[], true⟩ := by
  rcases reading with frame | _ | _
  · cases frame with
    | close => exact Or.inr rfl
    | _ => exact Or.inl rfl
  · exact Or.inr rfl
  · exact Or.inr rfl

theorem relayReads_faithful (faithful : IsFaithful state)
    (moved : state.stepRelayReads reading = some after) : IsFaithful after := by
  unfold stepRelayReads at moved
  split at moved
  · rename_i taken stepped
    cases moved
    cases stepRead_move .clientToServer stepped with
    | reads _ phase_eq =>
      rw [IsFaithful, hops, phase_eq] at faithful
      exact reads_faithful (state.beforeRelay ++ [⟨bytesOn state.secondLink, false⟩]) faithful
        taken (relayHop_onReading reading)
  · cases moved

theorem relaySends_faithful (faithful : IsFaithful state)
    (moved : state.stepRelaySends result = some after) : IsFaithful after := by
  unfold stepRelaySends at moved
  split at moved
  · rename_i frame _ outgoing_eq stepped
    cases moved
    rw [IsFaithful, hops] at faithful
    cases result with
    | sent =>
      cases stepSend_move .clientToServer stepped with
      | sends _ phase_eq =>
        rw [phase_eq] at outgoing_eq faithful
        cases outgoing_eq
        exact sends_faithful state.beforeRelay frame .sent faithful
    | failed onLink =>
      cases stepSend_move .clientToServer stepped with
      | breaks _ phase_eq =>
        rw [phase_eq] at outgoing_eq faithful
        cases outgoing_eq
        exact sends_faithful state.beforeRelay frame (.failed onLink) faithful
  · cases moved

theorem relayCloses_faithful (faithful : IsFaithful state)
    (moved : state.stepRelayCloses result = some after) : IsFaithful after := by
  unfold stepRelayCloses at moved
  split at moved
  · rename_i frame relay outgoing_eq stepped
    cases moved
    have stays : ∀ content, frame = .close content → relayHop relay.phase = ⟨[], true⟩ →
        IsFaithful { state with
          relay := relay
          secondLink := result.put state.secondLink frame } := by
      intro content frame_eq stopped
      have same : bytesOn (result.put state.secondLink frame) = bytesOn state.secondLink :=
        bytesOn_put_control result (by rw [frame_eq]; rfl)
      rw [IsFaithful, hops] at faithful ⊢
      rw [stopped, same]
      exact Faithful.stop (state.beforeRelay ++ [⟨bytesOn state.secondLink, false⟩]) faithful
    cases stepClose_move .clientToServer true stepped with
    | relaysClose content _ phase_eq =>
      rw [phase_eq] at outgoing_eq
      exact stays content (Option.some.inj outgoing_eq).symm rfl
    | closes _ phase_eq =>
      rw [phase_eq] at outgoing_eq
      exact stays none (Option.some.inj outgoing_eq).symm rfl
  · cases moved

theorem receiverHop_onReading (isTunnelFailed : String → Bool) (lane : Lane) (reading : Reading) :
    receiverHop (onReading isTunnelFailed lane reading) = ⟨readBytes reading, false⟩ ∨
      receiverHop (onReading isTunnelFailed lane reading) = ⟨[], true⟩ := by
  rcases reading with frame | _ | _
  · cases lane with
    | up =>
      cases frame with
      | close => exact Or.inr rfl
      | _ => exact Or.inl rfl
    | down =>
      cases frame with
      | close => exact Or.inr rfl
      | text =>
        simp only [onReading, spawnDownlink]
        split
        · exact Or.inr rfl
        · exact Or.inl rfl
      | _ => exact Or.inl rfl
  · cases lane <;> exact Or.inr rfl
  · cases lane <;> exact Or.inr rfl

section

variable (faithful : IsFaithful state)

include faithful

theorem receiverReads_faithful
    (moved : state.stepReceiverReads isTunnelFailed lane reading = some after) :
    IsFaithful after := by
  unfold stepReceiverReads at moved
  split at moved
  · rename_i phase_eq taken
    cases moved
    rw [IsFaithful, hops, phase_eq] at faithful
    exact reads_faithful [⟨state.delivered, false⟩] faithful taken
      (receiverHop_onReading isTunnelFailed lane reading)
  · cases moved

theorem receiverWrites_faithful (moved : state.stepReceiverWrites count = some after) :
    IsFaithful after := by
  unfold stepReceiverWrites at moved
  split at moved
  · rename_i rest phase_eq
    split at moved
    · cases moved
      rw [IsFaithful, hops, phase_eq, ← List.take_append_drop count rest] at faithful
      have passed := Faithful.pass [] faithful
      by_cases nothing_left : rest.drop count = []
      · simpa [IsFaithful, hops, nothing_left, receiverHop] using passed
      · simpa [IsFaithful, hops, nothing_left, receiverHop] using passed
    · cases moved
  · cases moved

theorem receiverStops_faithful : IsFaithful { state with receiver := .ended } := by
  exact Faithful.stop [⟨state.delivered, false⟩] faithful

theorem receiverFails_faithful (moved : state.stepReceiverFails = some after) :
    IsFaithful after := by
  unfold stepReceiverFails at moved
  split at moved
  · cases moved
    exact receiverStops_faithful faithful
  · cases moved

theorem firstLink_faithful {link : List Frame} (same : bytesOn link = bytesOn state.firstLink) :
    IsFaithful { state with firstLink := link } := by
  simpa [IsFaithful, hops, same] using faithful

theorem step_faithful {action : LaneAction}
    (moved : state.step isTunnelFailed lane action = some after) : IsFaithful after := by
  cases action with
  | writes bytes =>
    cases moved
    exact writes_faithful faithful bytes
  | senderReads => exact senderReads_faithful faithful moved
  | sourceEnds => exact sourceEnds_faithful faithful moved
  | senderSends => exact senderSends_faithful faithful moved
  | senderCloses => exact senderCloses_faithful faithful moved
  | firstLinkGets =>
    simp only [step] at moved
    split at moved
    · rename_i control
      cases moved
      exact firstLink_faithful faithful (by simp [payload_of_control control])
    · cases moved
  | relayReads => exact relayReads_faithful faithful moved
  | relaySends => exact relaySends_faithful faithful moved
  | relayCloses => exact relayCloses_faithful faithful moved
  | secondLinkGets =>
    simp only [step] at moved
    split at moved
    · rename_i control
      cases moved
      simpa [IsFaithful, hops, payload_of_control control] using faithful
    · cases moved
  | receiverReads => exact receiverReads_faithful faithful moved
  | receiverWrites => exact receiverWrites_faithful faithful moved
  | receiverFails => exact receiverFails_faithful faithful moved

end

end

theorem started_faithful : IsFaithful started :=
  ⟨List.nil_prefix, fun _ => rfl⟩

def AllFaithful (tunnel : Tunnel) : Prop :=
  IsFaithful tunnel.up ∧ IsFaithful tunnel.down

theorem downlinkPongs_faithful (faithful : AllFaithful tunnel)
    (moved : tunnel.stepDownlinkPongs result = some after) : AllFaithful after := by
  unfold Tunnel.stepDownlinkPongs at moved
  split at moved
  · rename_i phase_eq
    cases moved
    refine ⟨firstLink_faithful faithful.1 (bytesOn_put_control result rfl), ?_⟩
    simpa [IsFaithful, hops, phase_eq, receiverHop] using faithful.2
  · cases moved

/-- The server drops its task in the middle of a send: the frame is on the link or lost. -/
theorem serverEnds_faithful {onLink : Bool} (faithful : AllFaithful tunnel)
    (moved : tunnel.stepServerEnds onLink = some after) : AllFaithful after := by
  unfold Tunnel.stepServerEnds at moved
  split at moved
  · cases moved
    refine ⟨receiverStops_faithful faithful.1, ?_⟩
    cases phase_eq : tunnel.down.sender with
    | sending data =>
      have dropped : tunnel.down.stepSenderSends (.failed onLink) =
          some { tunnel.down with
            sender := .ended
            firstLink := (SendResult.failed onLink).put tunnel.down.firstLink (.binary data) } := by
        simp [stepSenderSends, phase_eq, SendResult.isSent]
      exact senderSends_faithful faithful.2 dropped
    | _ => exact senderStops_faithful faithful.2 .ended rfl
  · cases moved

theorem stepTunnel_faithful {action : TunnelAction} (faithful : AllFaithful tunnel)
    (moved : stepTunnel isTunnelFailed tunnel action = some after) : AllFaithful after := by
  cases action with
  | inLane lane =>
    obtain ⟨_, stepped, after_eq⟩ := Option.map_eq_some_iff.mp moved
    subst after_eq
    cases lane with
    | up => exact ⟨step_faithful faithful.1 stepped, faithful.2⟩
    | down => exact ⟨faithful.1, step_faithful faithful.2 stepped⟩
  | downlinkPongs => exact downlinkPongs_faithful faithful moved
  | serverEnds => exact serverEnds_faithful faithful moved

/-- In every state of every run, the bytes written to the server's TCP connection are a prefix of
those that the client wrote, and the bytes written to the client's stream a prefix of those that
came from the TCP connection. -/
theorem tunnel_delivers_prefix (isTunnelFailed : String → Bool) (final : Tunnel)
    (run : Reaches (stepTunnel isTunnelFailed) anyAction Tunnel.started final) :
    final.up.delivered <+: final.up.written ∧ final.down.delivered <+: final.down.written := by
  have faithful : AllFaithful final := by
    apply run.invariant
    · exact ⟨started_faithful, started_faithful⟩
    · intro before action after holds _ moved
      exact stepTunnel_faithful holds moved
  exact ⟨faithful.1.delivered, faithful.2.delivered⟩

/-- The client writes three bytes, two of which reach the server with a text frame before
them; the server answers with one byte. -/
def smallTalk : List TunnelAction :=
  [.inLane .up (.writes [1, 2, 3]), .inLane .up (.firstLinkGets (.text "hello")),
    .inLane .up (.senderReads 2), .inLane .up (.senderSends .sent),
    .inLane .up (.relayReads (.message (.text "hello"))),
    .inLane .up (.relayReads (.message (.binary [1, 2]))), .inLane .up (.relaySends .sent),
    .inLane .up (.receiverReads (.message (.binary [1, 2]))), .inLane .up (.receiverWrites 2),
    .inLane .down (.writes [9]), .inLane .down (.senderReads 1),
    .inLane .down (.senderSends .sent), .inLane .down (.relayReads (.message (.binary [9]))),
    .inLane .down (.relaySends .sent), .inLane .down (.secondLinkGets (.text "hello")),
    .inLane .down (.receiverReads (.message (.binary [9]))),
    .inLane .down (.receiverWrites 1),
    .inLane .down (.receiverReads (.message (.text "hello")))]

theorem small_talk_arrives :
    ∃ final : Tunnel, final.up.delivered = [1, 2] ∧ final.up.written = [1, 2, 3] ∧
      final.down.delivered = [9] ∧ [1, 2] <+: final.up.written ∧ [9] <+: final.down.written := by
  obtain ⟨final, run, up_delivered, up_written, down_delivered⟩ :
      ∃ final, Reaches (stepTunnel fun _ => false) anyAction Tunnel.started final ∧
        final.up.delivered = [1, 2] ∧ final.up.written = [1, 2, 3] ∧ final.down.delivered = [9] :=
    reaches_of_evaluated smallTalk (by decide)
  have prefixes := tunnel_delivers_prefix (fun _ => false) final run
  rw [up_delivered, down_delivered] at prefixes
  exact ⟨final, up_delivered, up_written, down_delivered, prefixes⟩

end HandControl.TunnelBytes
