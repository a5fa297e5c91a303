import HandControl.CapabilityParameters
import HandControl.CapabilitySessions
import HandControl.MessageChannels
import HandControl.RemoteControlService
import HandControl.TransitionRuns

/-!
# Resuming a session

The tasks of one resume: the event loop of the session, the handler of the request, the forwarder of
live events that it spawns, the response channel with the transport behind it, and the client
library. A step runs from one lock, channel operation or await to the next.
-/

namespace HandControl.SessionResume

open ByteEncoding CapabilityParameters CapabilitySessions MessageChannels RemoteControlService

structure SessionBroadcastEvent where
  event : SessionServerEvent
  bufferedOutput : Option BufferedOutput
  resumeToken : Option String
deriving DecidableEq

inductive ServerPayload where
  | ready (capabilityId : String) (sessionMode : CapabilitySessionMode)
      (message : Option String) (resumeToken : String)
  | output (data : Bytes) (stderr binary : Option Bool) (timestampMs : Option Int) (sequence : Nat)
  | exit (exitCode : Int) (timedOut : Option Bool) (message : Option String)
  | error (message : String) (code : Option Int)
  | heartbeat (timestampMs : Int) (latencyHintMs : Option Int)
  | closed (reason : Option String)
  | resumeAck (resumeToken : String) (replayComplete : Option Bool) (message : Option String)
deriving DecidableEq

structure SessionServerMessage where
  sessionId : String
  payload : Option ServerPayload
deriving DecidableEq

/-- What the handler read from the session and the request before its first step. -/
structure ResumeSetting where
  sessionId : String
  capabilityId : String
  sessionMode : CapabilitySessionMode
  fingerprint : Option String
  resumeToken : String
  lastOutputSequence : Option Nat
  lastErrorSequence : Option Nat

def sessionEventToProto (setting : ResumeSetting) (event : SessionServerEvent)
    (bufferedOutput : Option BufferedOutput) (resumeToken : Option String) :
    SessionServerMessage :=
  let payload : ServerPayload :=
    match event with
    | .ready message =>
      .ready setting.capabilityId setting.sessionMode message (resumeToken.getD "")
    | .output data stderr binary timestampMs =>
      .output data (some stderr) (some binary) timestampMs
        ((bufferedOutput.map BufferedOutput.sequence).getD 0)
    | .exit exitCode timedOut message => .exit exitCode (some timedOut) message
    | .error message code => .error message code
    | .heartbeatAck timestampMs latencyHintMs => .heartbeat timestampMs latencyHintMs
    | .closed reason => .closed reason
  { sessionId := setting.sessionId, payload := some payload }

def replayMessage (setting : ResumeSetting) (frame : BufferedOutput) : SessionServerMessage :=
  let event : SessionServerEvent :=
    .output frame.data (decide (frame.stream = .stderr)) frame.binary frame.timestampMs
  sessionEventToProto setting event (some frame) none

def resumeAckMessage (setting : ResumeSetting) (nextToken : String) : SessionServerMessage where
  sessionId := setting.sessionId
  payload := some (.resumeAck nextToken (some true) none)

def statusFromSessionError : SessionManagerError → Status
  | .notFound => { code := .notFound, message := "session not found" }
  | .alreadyAttached =>
    { code := .resourceExhausted, message := "session already has an active attachment" }
  | .notAttached =>
    { code := .failedPrecondition, message := "session is not currently attached" }
  | .invalidResumeToken => { code := .permissionDenied, message := "invalid resume token" }

inductive CapabilitySessionEvent where
  | output (data : Bytes) (stderr binary : Bool) (timestampMs : Option Int) (sequence : Nat)
  | exit (exitCode : Int) (timedOut : Bool) (message : Option String)
  | error (message : String) (code : Option Int)
  | heartbeatAck (timestampMs : Int) (latencyHintMs : Option Int)
  | closed (reason : Option String)
deriving DecidableEq

inductive ClientPhase where
  | opening
  | resuming
  | resumed
  | ended
  | failed (message : String)
deriving DecidableEq

/-- `resume_capability_session` and the `CapabilitySession` it returns. `delivered` lists
what the calls of `recv` have returned. -/
structure ResumingClient where
  phase : ClientPhase
  resumeToken : String
  lastStdoutSequence : Nat
  lastStderrSequence : Nat
  pendingEvents : List CapabilitySessionEvent
  delivered : List CapabilitySessionEvent
deriving DecidableEq

namespace ResumingClient

def noteSequence (client : ResumingClient) (stderr : Bool) (sequence : Nat) :
    ResumingClient :=
  if sequence ≠ 0 then
    if stderr then { client with lastStderrSequence := sequence }
    else { client with lastStdoutSequence := sequence }
  else client

def noteToken (client : ResumingClient) (resumeToken : String) : ResumingClient :=
  if resumeToken ≠ "" then { client with resumeToken := resumeToken } else client

def fail (client : ResumingClient) (message : String) : ResumingClient :=
  { client with phase := .failed message }

def onResumeMessage (client : ResumingClient) (sessionId : String)
    (message : SessionServerMessage) : ResumingClient :=
  if message.sessionId ≠ "" ∧ message.sessionId ≠ sessionId then
    let received := message.sessionId
    client.fail
      s!"Received session message for mismatched session_id={received} (expected {sessionId})"
  else
    match message.payload with
    | some (.resumeAck resumeToken _ _) =>
      { client.noteToken resumeToken with phase := .resumed }
    | some (.output data stderr binary timestampMs sequence) =>
      let noted := client.noteSequence (stderr.getD false) sequence
      let event : CapabilitySessionEvent :=
        .output data (stderr.getD false) (binary.getD false) timestampMs sequence
      { noted with pendingEvents := noted.pendingEvents ++ [event] }
    | some (.error text _) =>
      client.fail s!"Server reported capability error while resuming session: {text}"
    | some (.closed reason) => client.fail (reason.getD "session closed while resuming")
    | some (.exit exitCode _ text) =>
      let said := text.getD "session exited while resuming"
      client.fail s!"Capability session exited (code {exitCode}): {said}"
    | some (.heartbeat _ _) => client
    | some (.ready _ _ _ _) => client
    | none => client

def deliver (client : ResumingClient) (event : CapabilitySessionEvent) : ResumingClient :=
  { client with delivered := client.delivered ++ [event] }

def onStreamMessage (client : ResumingClient) (message : SessionServerMessage) :
    ResumingClient :=
  match message.payload with
  | some (.output data stderr binary timestampMs sequence) =>
    (client.noteSequence (stderr.getD false) sequence).deliver
      (.output data (stderr.getD false) (binary.getD false) timestampMs sequence)
  | some (.exit exitCode timedOut text) =>
    client.deliver (.exit exitCode (timedOut.getD false) text)
  | some (.error text code) => client.deliver (.error text code)
  | some (.heartbeat timestampMs latencyHintMs) =>
    client.deliver (.heartbeatAck timestampMs latencyHintMs)
  | some (.closed reason) => client.deliver (.closed reason)
  | some (.resumeAck resumeToken _ _) => client.noteToken resumeToken
  | some (.ready _ _ _ _) => client
  | none => client

end ResumingClient

def defaultEventChannelCapacity : Nat := 256

def responseChannelCapacity : Nat := 128

inductive LoopPhase where
  | receiving
  | recorded (event : SessionServerEvent) (bufferedOutput : Option BufferedOutput)
  | publishing (broadcast : SessionBroadcastEvent)
  | removing
  | ended
deriving DecidableEq

inductive HandlerPhase where
  | starting
  | subscribed
  | senderTaken
  | attached (nextToken : String)
  | replaying (nextToken : String) (remaining : List BufferedOutput)
  | returned
  | failed (status : Status)
  | cancelled
deriving DecidableEq

inductive ForwarderPhase where
  | receiving
  | sending (message : SessionServerMessage)
  | ended
deriving DecidableEq

/-- All tasks of one resume. `script` is what the capability will send, `session` the entry in the
manager, `subscription` the broadcast events waiting for the forwarder, `queue` the response channel
and `inFlight` what the transport has taken from it. -/
structure ResumeSystem where
  script : List SessionServerEvent
  eventLoop : LoopPhase
  session : Option SessionState
  subscription : Option (List SessionBroadcastEvent)
  handler : HandlerPhase
  forwarder : Option ForwarderPhase
  queue : List SessionServerMessage
  channelOpen : Bool
  inFlight : List SessionServerMessage
  client : ResumingClient
deriving DecidableEq

namespace ResumeSystem

/-- `run_session_event_loop`: record, read the token for a ready event, broadcast. The
session is removed after a closed event. -/
def stepEventLoop (system : ResumeSystem) : Option ResumeSystem :=
  match system.eventLoop with
  | .receiving =>
    match system.script with
    | [] => none
    | event :: script =>
      match system.session with
      | some state =>
        let recorded := state.recordServerEvent event
        some { system with
          script := script
          session := some recorded.2
          eventLoop := .recorded event recorded.1 }
      | none =>
        some { system with script := script, eventLoop := .recorded event none }
  | .recorded event bufferedOutput =>
    let resumeToken : Option String :=
      match event with
      | .ready _ => system.session.map SessionState.resumeToken
      | _ => none
    let broadcast : SessionBroadcastEvent :=
      { event := event, bufferedOutput := bufferedOutput, resumeToken := resumeToken }
    some { system with eventLoop := .publishing broadcast }
  | .publishing broadcast =>
    some { system with
      subscription := system.subscription.map fun waiting => waiting ++ [broadcast]
      eventLoop := if broadcast.event.isClosed then .removing else .receiving }
  | .removing => some { system with session := none, eventLoop := .ended }
  | .ended => none

/-- The capability dropped its sender after its last event. -/
def stepCapabilityExit (system : ResumeSystem) : Option ResumeSystem :=
  match system.eventLoop, system.script with
  | .receiving, [] => some { system with eventLoop := .removing }
  | _, _ => none

def failHandler (system : ResumeSystem) (status : Status) : ResumeSystem :=
  { system with handler := .failed status, subscription := none }

/-- `handle_resume_session`. The handler owns the receiving half of the response channel
until it returns, so a send of its own can wait but cannot fail. -/
def stepHandler (setting : ResumeSetting) (system : ResumeSystem) (freshToken : String) :
    Option ResumeSystem :=
  match system.handler with
  | .starting =>
    match system.session with
    | none => some (system.failHandler (statusFromSessionError .notFound))
    | some _ => some { system with handler := .subscribed, subscription := some [] }
  | .subscribed =>
    match system.session with
    | none =>
      some (system.failHandler { code := .notFound, message := "Session not found" })
    | some _ => some { system with handler := .senderTaken }
  | .senderTaken =>
    match system.session with
    | none => some (system.failHandler (statusFromSessionError .notFound))
    | some state =>
      match state.attachWithToken setting.fingerprint setting.resumeToken freshToken with
      | .error err => some (system.failHandler (statusFromSessionError err))
      | .ok ((_, nextToken), attached) =>
        some { system with session := some attached, handler := .attached nextToken }
  | .attached nextToken =>
    match system.session with
    | none => some (system.failHandler (statusFromSessionError .notFound))
    | some state =>
      let bufferedOutputs :=
        state.outputsSince setting.lastOutputSequence setting.lastErrorSequence
      some { system with
        handler := .replaying nextToken bufferedOutputs
        forwarder := some .receiving }
  | .replaying nextToken (frame :: remaining) =>
    (offer responseChannelCapacity system.queue (replayMessage setting frame)).map
      fun queue => { system with queue := queue, handler := .replaying nextToken remaining }
  | .replaying nextToken [] =>
    (offer responseChannelCapacity system.queue (resumeAckMessage setting nextToken)).map
      fun queue => { system with queue := queue, handler := .returned }
  | .returned => none
  | .failed _ => none
  | .cancelled => none

/-- The connection of the request is lost while the handler waits in a send: its future
and with it the receiving half of the response channel are dropped. -/
def stepCancelRequest (system : ResumeSystem) : Option ResumeSystem :=
  match system.handler with
  | .replaying _ _ =>
    let client := system.client.fail "OpenSession RPC failed"
    some { system with handler := .cancelled, channelOpen := false, client := client }
  | _ => none

/-- `forward_session_events`. The broadcast channel closes when the event loop has ended,
since the loop and the removed entry held its senders. -/
def stepForwarder (setting : ResumeSetting) (system : ResumeSystem) : Option ResumeSystem :=
  match system.forwarder with
  | none => none
  | some .receiving =>
    match system.subscription with
    | none => none
    | some waiting =>
      match receive defaultEventChannelCapacity waiting with
      | some (.event broadcast rest) =>
        let message := sessionEventToProto setting broadcast.event
          broadcast.bufferedOutput broadcast.resumeToken
        some { system with
          subscription := some rest
          forwarder := some (.sending message) }
      | some (.lagged rest) => some { system with subscription := some rest }
      | none =>
        match system.eventLoop with
        | .ended => some { system with forwarder := some .ended }
        | _ => none
  | some (.sending message) =>
    if system.channelOpen then
      (offer responseChannelCapacity system.queue message).map
        fun queue => { system with queue := queue, forwarder := some .receiving }
    else some { system with forwarder := some .ended }
  | some .ended => none

/-- The transport reads the response stream, which it has only once the handler
returned. -/
def stepTransport (system : ResumeSystem) : Option ResumeSystem :=
  match system.handler, system.channelOpen, system.queue with
  | .returned, true, message :: queue =>
    some { system with queue := queue, inFlight := system.inFlight ++ [message] }
  | _, _, _ => none

/-- No sender of the response channel is left and everything sent was received. -/
def streamFinished (system : ResumeSystem) : Bool :=
  system.queue.isEmpty && system.inFlight.isEmpty &&
    decide (system.handler = .returned) && decide (system.forwarder = some .ended)

def settleClient (system : ResumeSystem) (client : ResumingClient) : ResumeSystem :=
  match client.phase with
  | .failed _ => { system with client := client, channelOpen := false, inFlight := [] }
  | _ => { system with client := client }

/-- The client library reads one message, or takes one event that it kept back. -/
def stepClient (setting : ResumeSetting) (system : ResumeSystem) : Option ResumeSystem :=
  match system.client.phase with
  | .opening =>
    match system.handler with
    | .returned =>
      if system.channelOpen then
        some { system with client := { system.client with phase := .resuming } }
      else some { system with client := system.client.fail "OpenSession RPC failed" }
    | .failed _ => some { system with client := system.client.fail "OpenSession RPC failed" }
    | _ => none
  | .resuming =>
    match system.inFlight with
    | message :: inFlight =>
      let client := system.client.onResumeMessage setting.sessionId message
      some (({ system with inFlight := inFlight }).settleClient client)
    | [] =>
      if system.channelOpen then
        if system.streamFinished then
          let client := system.client.fail
            "Capability stream ended before resume acknowledgement"
          some (system.settleClient client)
        else none
      else
        let client := system.client.fail
          "Capability stream closed unexpectedly during resume"
        some (system.settleClient client)
  | .resumed =>
    match system.client.pendingEvents with
    | event :: pendingEvents =>
      let client := { system.client with pendingEvents := pendingEvents }
      some { system with client := client.deliver event }
    | [] =>
      match system.inFlight with
      | message :: inFlight =>
        let client := system.client.onStreamMessage message
        some { system with inFlight := inFlight, client := client }
      | [] =>
        if system.channelOpen then
          if system.streamFinished then
            some { system with client := { system.client with phase := .ended } }
          else none
        else
          let client := system.client.fail "Capability stream closed unexpectedly"
          some { system with client := client }
  | .ended => none
  | .failed _ => none

/-- The connection is lost after the handler returned. The first `kept` messages in
flight still arrive. -/
def stepDisconnect (system : ResumeSystem) (kept : Nat) : Option ResumeSystem :=
  match system.handler, system.channelOpen with
  | .returned, true =>
    some { system with channelOpen := false, inFlight := system.inFlight.take kept }
  | _, _ => none

end ResumeSystem

inductive ResumeAction where
  | eventLoop
  | capabilityExit
  | handler (freshToken : String)
  | cancelRequest
  | forwarder
  | transport
  | client
  | disconnect (kept : Nat)
deriving DecidableEq

def stepResume (setting : ResumeSetting) (system : ResumeSystem) :
    ResumeAction → Option ResumeSystem
  | .eventLoop => system.stepEventLoop
  | .capabilityExit => system.stepCapabilityExit
  | .handler freshToken => system.stepHandler setting freshToken
  | .cancelRequest => system.stepCancelRequest
  | .forwarder => system.stepForwarder setting
  | .transport => system.stepTransport
  | .client => system.stepClient setting
  | .disconnect kept => system.stepDisconnect kept

inductive EventLoopMove (system : ResumeSystem) : ResumeSystem → Prop where
  | records (event : SessionServerEvent) (script : List SessionServerEvent)
      (state : SessionState) (loop_eq : system.eventLoop = .receiving)
      (script_eq : system.script = event :: script)
      (session_eq : system.session = some state) :
      EventLoopMove system
        { system with
          script := script
          session := some (state.recordServerEvent event).2
          eventLoop := .recorded event (state.recordServerEvent event).1 }
  | skips (event : SessionServerEvent) (script : List SessionServerEvent)
      (loop_eq : system.eventLoop = .receiving) (script_eq : system.script = event :: script)
      (session_eq : system.session = none) :
      EventLoopMove system { system with script := script, eventLoop := .recorded event none }
  | prepares (event : SessionServerEvent) (bufferedOutput : Option BufferedOutput)
      (resumeToken : Option String)
      (loop_eq : system.eventLoop = .recorded event bufferedOutput) :
      EventLoopMove system
        { system with eventLoop := .publishing ⟨event, bufferedOutput, resumeToken⟩ }
  | publishes (broadcast : SessionBroadcastEvent)
      (loop_eq : system.eventLoop = .publishing broadcast) :
      EventLoopMove system
        { system with
          subscription := system.subscription.map fun waiting => waiting ++ [broadcast]
          eventLoop := if broadcast.event.isClosed then .removing else .receiving }
  | removes (loop_eq : system.eventLoop = .removing) :
      EventLoopMove system { system with session := none, eventLoop := .ended }

variable {system after : ResumeSystem} {setting : ResumeSetting}

open ResumeSystem

theorem stepEventLoop_move (moved : system.stepEventLoop = some after) :
    EventLoopMove system after := by
  unfold stepEventLoop at moved
  split at moved
  · rename_i loop_eq
    split at moved
    · cases moved
    · rename_i event script script_eq
      split at moved
      · rename_i state session_eq
        cases moved
        exact .records event script state loop_eq script_eq session_eq
      · rename_i session_eq
        cases moved
        exact .skips event script loop_eq script_eq session_eq
  · rename_i event bufferedOutput loop_eq
    cases moved
    exact .prepares event bufferedOutput _ loop_eq
  · rename_i broadcast loop_eq
    cases moved
    exact .publishes broadcast loop_eq
  · rename_i loop_eq
    cases moved
    exact .removes loop_eq
  · cases moved

theorem stepCapabilityExit_move (moved : system.stepCapabilityExit = some after) :
    system.eventLoop = .receiving ∧ system.script = [] ∧
      after = { system with eventLoop := .removing } := by
  unfold stepCapabilityExit at moved
  split at moved
  · rename_i loop_eq script_eq
    cases moved
    exact ⟨loop_eq, script_eq, rfl⟩
  · cases moved

/-- The handler is still before the point where it reads the replay buffer. -/
def HandlerPhase.beforeSnapshot : HandlerPhase → Bool
  | .starting | .subscribed | .senderTaken | .attached _ => true
  | _ => false

inductive HandlerMove (setting : ResumeSetting) (system : ResumeSystem) :
    ResumeSystem → Prop where
  | fails (status : Status) (handler_eq : system.handler.beforeSnapshot = true) :
      HandlerMove setting system (system.failHandler status)
  | subscribes (handler_eq : system.handler = .starting) :
      HandlerMove setting system
        { system with handler := .subscribed, subscription := some [] }
  | takesSender (handler_eq : system.handler = .subscribed) :
      HandlerMove setting system { system with handler := .senderTaken }
  | attaches (state attached : SessionState) (granted : AttachmentState × String)
      (freshToken : String) (handler_eq : system.handler = .senderTaken)
      (session_eq : system.session = some state)
      (accepted : state.attachWithToken setting.fingerprint setting.resumeToken freshToken =
        .ok (granted, attached)) :
      HandlerMove setting system
        { system with session := some attached, handler := .attached granted.2 }
  | snapshots (nextToken : String) (state : SessionState)
      (handler_eq : system.handler = .attached nextToken)
      (session_eq : system.session = some state) :
      HandlerMove setting system
        { system with
          handler := .replaying nextToken
            (state.outputsSince setting.lastOutputSequence setting.lastErrorSequence)
          forwarder := some .receiving }
  | replays (nextToken : String) (frame : BufferedOutput) (remaining : List BufferedOutput)
      (handler_eq : system.handler = .replaying nextToken (frame :: remaining))
      (room : system.queue.length < responseChannelCapacity) :
      HandlerMove setting system
        { system with
          queue := system.queue ++ [replayMessage setting frame]
          handler := .replaying nextToken remaining }
  | acknowledges (nextToken : String) (handler_eq : system.handler = .replaying nextToken [])
      (room : system.queue.length < responseChannelCapacity) :
      HandlerMove setting system
        { system with
          queue := system.queue ++ [resumeAckMessage setting nextToken]
          handler := .returned }

theorem stepHandler_move {freshToken : String}
    (moved : system.stepHandler setting freshToken = some after) :
    HandlerMove setting system after := by
  unfold stepHandler at moved
  split at moved
  · rename_i handler_eq
    split at moved
    · cases moved
      exact .fails _ (by rw [handler_eq]; rfl)
    · cases moved
      exact .subscribes handler_eq
  · rename_i handler_eq
    split at moved
    · cases moved
      exact .fails _ (by rw [handler_eq]; rfl)
    · cases moved
      exact .takesSender handler_eq
  · rename_i handler_eq
    split at moved
    · cases moved
      exact .fails _ (by rw [handler_eq]; rfl)
    · rename_i state session_eq
      split at moved
      · cases moved
        exact .fails _ (by rw [handler_eq]; rfl)
      · rename_i attachment nextToken attached accepted
        cases moved
        exact .attaches state attached (attachment, nextToken) freshToken handler_eq session_eq
          accepted
  · rename_i nextToken handler_eq
    split at moved
    · cases moved
      exact .fails _ (by rw [handler_eq]; rfl)
    · rename_i state session_eq
      cases moved
      exact .snapshots nextToken state handler_eq session_eq
  · rename_i nextToken frame remaining handler_eq
    obtain ⟨room, rfl⟩ := room_of_map_offer moved
    exact .replays nextToken frame remaining handler_eq room
  · rename_i nextToken handler_eq
    obtain ⟨room, rfl⟩ := room_of_map_offer moved
    exact .acknowledges nextToken handler_eq room
  · cases moved
  · cases moved
  · cases moved

theorem stepCancelRequest_move (moved : system.stepCancelRequest = some after) :
    ∃ nextToken remaining, system.handler = .replaying nextToken remaining ∧
      after = { system with
        handler := .cancelled
        channelOpen := false
        client := system.client.fail "OpenSession RPC failed" } := by
  unfold stepCancelRequest at moved
  split at moved
  · rename_i nextToken remaining handler_eq
    cases moved
    exact ⟨nextToken, remaining, handler_eq, rfl⟩
  · cases moved

inductive ForwarderMove (setting : ResumeSetting) (system : ResumeSystem) :
    ResumeSystem → Prop where
  | receives (broadcast : SessionBroadcastEvent) (rest : List SessionBroadcastEvent)
      (forwarder_eq : system.forwarder = some .receiving)
      (subscription_eq : system.subscription = some (broadcast :: rest)) :
      ForwarderMove setting system
        { system with
          subscription := some rest
          forwarder := some (.sending (sessionEventToProto setting broadcast.event
            broadcast.bufferedOutput broadcast.resumeToken)) }
  | lags (waiting : List SessionBroadcastEvent) (forwarder_eq : system.forwarder = some .receiving)
      (subscription_eq : system.subscription = some waiting)
      (behind : defaultEventChannelCapacity < waiting.length) :
      ForwarderMove setting system
        { system with
          subscription := some (waiting.drop (waiting.length - defaultEventChannelCapacity)) }
  | closes (forwarder_eq : system.forwarder = some .receiving)
      (loop_eq : system.eventLoop = .ended) :
      ForwarderMove setting system { system with forwarder := some .ended }
  | sends (message : SessionServerMessage)
      (forwarder_eq : system.forwarder = some (.sending message))
      (channel_eq : system.channelOpen = true)
      (room : system.queue.length < responseChannelCapacity) :
      ForwarderMove setting system
        { system with queue := system.queue ++ [message], forwarder := some .receiving }
  | stops (message : SessionServerMessage)
      (forwarder_eq : system.forwarder = some (.sending message))
      (channel_eq : system.channelOpen = false) :
      ForwarderMove setting system { system with forwarder := some .ended }

theorem stepForwarder_move (moved : system.stepForwarder setting = some after) :
    ForwarderMove setting system after := by
  unfold stepForwarder at moved
  split at moved
  · cases moved
  · rename_i forwarder_eq
    split at moved
    · cases moved
    · rename_i waiting subscription_eq
      split at moved
      · rename_i broadcast rest received
        cases moved
        rw [(receive_event received).1] at subscription_eq
        exact .receives broadcast rest forwarder_eq subscription_eq
      · rename_i received
        cases moved
        rw [(receive_lagged received).2]
        exact .lags waiting forwarder_eq subscription_eq (receive_lagged received).1
      · split at moved
        · rename_i loop_eq
          cases moved
          exact .closes forwarder_eq loop_eq
        · cases moved
  · rename_i message forwarder_eq
    split at moved
    · rename_i channel_eq
      obtain ⟨room, rfl⟩ := room_of_map_offer moved
      exact .sends message forwarder_eq channel_eq room
    · rename_i channel_eq
      cases moved
      exact .stops message forwarder_eq (Bool.eq_false_iff.mpr channel_eq)
  · cases moved

theorem stepTransport_move (moved : system.stepTransport = some after) :
    ∃ message queue, system.handler = .returned ∧ system.channelOpen = true ∧
      system.queue = message :: queue ∧
      after = { system with queue := queue, inFlight := system.inFlight ++ [message] } := by
  unfold stepTransport at moved
  split at moved
  · rename_i message queue handler_eq channel_eq queue_eq
    cases moved
    exact ⟨message, queue, handler_eq, channel_eq, queue_eq, rfl⟩
  · cases moved

inductive ClientMove (setting : ResumeSetting) (system : ResumeSystem) :
    ResumeSystem → Prop where
  | opens (phase_eq : system.client.phase = .opening) (handler_eq : system.handler = .returned) :
      ClientMove setting system
        { system with client := { system.client with phase := .resuming } }
  | refused (text : String) (phase_eq : system.client.phase = .opening)
      (lost : (∃ status, system.handler = .failed status) ∨ system.channelOpen = false) :
      ClientMove setting system { system with client := system.client.fail text }
  | resumes (message : SessionServerMessage) (inFlight : List SessionServerMessage)
      (phase_eq : system.client.phase = .resuming)
      (arrived : system.inFlight = message :: inFlight) :
      ClientMove setting system (({ system with inFlight := inFlight }).settleClient
          (system.client.onResumeMessage setting.sessionId message))
  | aborts (text : String) (phase_eq : system.client.phase = .resuming)
      (arrived : system.inFlight = []) :
      ClientMove setting system (system.settleClient (system.client.fail text))
  | takes (event : CapabilitySessionEvent) (pendingEvents : List CapabilitySessionEvent)
      (phase_eq : system.client.phase = .resumed)
      (pending_eq : system.client.pendingEvents = event :: pendingEvents) :
      ClientMove setting system
        { system with
          client := ({ system.client with pendingEvents := pendingEvents }).deliver event }
  | streams (message : SessionServerMessage) (inFlight : List SessionServerMessage)
      (phase_eq : system.client.phase = .resumed)
      (pending_eq : system.client.pendingEvents = [])
      (arrived : system.inFlight = message :: inFlight) :
      ClientMove setting system
        { system with inFlight := inFlight, client := system.client.onStreamMessage message }
  | ends (phase_eq : system.client.phase = .resumed) :
      ClientMove setting system { system with client := { system.client with phase := .ended } }
  | breaks (text : String) (phase_eq : system.client.phase = .resumed)
      (channel_eq : system.channelOpen = false) :
      ClientMove setting system { system with client := system.client.fail text }

theorem stepClient_move (moved : system.stepClient setting = some after) :
    ClientMove setting system after := by
  unfold stepClient at moved
  split at moved
  · rename_i phase_eq
    split at moved
    · rename_i handler_eq
      split at moved
      · cases moved
        exact .opens phase_eq handler_eq
      · rename_i channel_eq
        cases moved
        exact .refused _ phase_eq (Or.inr (Bool.eq_false_iff.mpr channel_eq))
    · rename_i status handler_eq
      cases moved
      exact .refused _ phase_eq (Or.inl ⟨status, handler_eq⟩)
    · cases moved
  · rename_i phase_eq
    split at moved
    · rename_i message inFlight arrived
      cases moved
      exact .resumes message inFlight phase_eq arrived
    · rename_i arrived
      split at moved
      · split at moved
        · cases moved
          exact .aborts _ phase_eq arrived
        · cases moved
      · cases moved
        exact .aborts _ phase_eq arrived
  · rename_i phase_eq
    split at moved
    · rename_i event pendingEvents pending_eq
      cases moved
      exact .takes event pendingEvents phase_eq pending_eq
    · rename_i pending_eq
      split at moved
      · rename_i message inFlight arrived
        cases moved
        exact .streams message inFlight phase_eq pending_eq arrived
      · split at moved
        · split at moved
          · cases moved
            exact .ends phase_eq
          · cases moved
        · rename_i channel_eq
          cases moved
          exact .breaks _ phase_eq (Bool.eq_false_iff.mpr channel_eq)
  · cases moved
  · cases moved

theorem ClientMove.frame (moved : ClientMove setting system after) :
    after.script = system.script ∧ after.eventLoop = system.eventLoop ∧
      after.session = system.session ∧ after.subscription = system.subscription ∧
      after.handler = system.handler ∧ after.forwarder = system.forwarder ∧
      after.queue = system.queue := by
  cases moved with
  | resumes | aborts =>
    unfold settleClient
    split <;> exact ⟨rfl, rfl, rfl, rfl, rfl, rfl, rfl⟩
  | _ => exact ⟨rfl, rfl, rfl, rfl, rfl, rfl, rfl⟩

theorem stepDisconnect_move {kept : Nat} (moved : system.stepDisconnect kept = some after) :
    system.handler = .returned ∧ system.channelOpen = true ∧
      after = { system with channelOpen := false, inFlight := system.inFlight.take kept } := by
  unfold stepDisconnect at moved
  split at moved
  · rename_i handler_eq channel_eq
    cases moved
    exact ⟨handler_eq, channel_eq, rfl⟩
  · cases moved

/-- A client that has seen nothing of the session. -/
def newcomerSetting : ResumeSetting where
  sessionId := "session"
  capabilityId := "shell"
  sessionMode := .realtime
  fingerprint := none
  resumeToken := "token"
  lastOutputSequence := none
  lastErrorSequence := none

def newcomerStart (script : List SessionServerEvent) : ResumeSystem where
  script := script
  eventLoop := .receiving
  session := some (SessionState.new defaultOutputBufferCapacity "token")
  subscription := none
  handler := .starting
  forwarder := none
  queue := []
  channelOpen := true
  inFlight := []
  client :=
    { phase := .opening, resumeToken := "token", lastStdoutSequence := 0,
      lastStderrSequence := 0, pendingEvents := [], delivered := [] }

end HandControl.SessionResume
