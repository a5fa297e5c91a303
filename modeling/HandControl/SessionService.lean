import HandControl.EventTranscripts
import HandControl.SessionManager

/-!
# The session service

All clients, sessions and tasks as one transition system. A call of OpenSession has a handler, and
after its attachment two tasks: one forwards the client's messages and ends with a detach, the other
forwards the events of the session. A step is one call of the session manager, one channel operation
or one choice of a client. Session identifiers and resume tokens are random UUIDs: a new one was
never used before.
-/

namespace HandControl.SessionService

open KeyedTable CapabilityParameters CapabilitySessions MessageChannels RemoteControlService
open SessionResume SessionManager
open EventTranscripts (serverChannelCapacity)

inductive CallKind where
  | opens
  | resumes
deriving DecidableEq

inductive CallStage where
  | opening (capabilityName : String)
  | opened
  | starting
  | located
  | subscribed
  | senderTaken
  | attached (nextToken : Option String)
  | replaying (nextToken : String) (remaining : List BufferedOutput)
  | returned
  | failed (status : Status)
  | notOpened (status : Status)
  | cancelled
deriving DecidableEq

/-- The task `forward_client_events` of a call. Its last act is the detach. -/
inductive ClientTask where
  | notSpawned
  | forwarding
  | detached
deriving DecidableEq

/-- One call of OpenSession. `setting` is the caller's fingerprint and the request, `attachment`
what its attach returned, `received` what the client has read. -/
structure Call where
  kind : CallKind
  setting : ResumeSetting
  stage : CallStage
  attachment : Option AttachmentState
  subscription : Option (List SessionBroadcastEvent)
  clientTask : ClientTask
  forwarder : Option ForwarderPhase
  queue : List SessionServerMessage
  streamOpen : Bool
  received : List SessionServerMessage

structure ResumeRecord where
  sessionId : String
  ownerFingerprint : Option String
  clientFingerprint : Option String
deriving DecidableEq

/-- The service, and a record of the owner of every session ever opened, the session that every
token was issued for, the tokens that clients read in replies, and the resumes that attached. -/
structure ServiceState where
  sessions : Sessions
  calls : Table Nat Call
  opened : Table String (Option String)
  issued : Table String String
  learned : List (Option String × String)
  resumes : List ResumeRecord

namespace ServiceState

def empty : ServiceState where
  sessions := ∅
  calls := ∅
  opened := ∅
  issued := ∅
  learned := []
  resumes := []

def putCall (service : ServiceState) (number : Nat) (call : Call) : ServiceState :=
  { service with calls := service.calls.insert number call }

def putEntry (service : ServiceState) (sessionId : String) (entry : SessionEntry) :
    ServiceState :=
  { service with sessions := service.sessions.insert sessionId entry }

end ServiceState

def newCall (kind : CallKind) (setting : ResumeSetting) (stage : CallStage) : Call where
  kind := kind
  setting := setting
  stage := stage
  attachment := none
  subscription := none
  clientTask := .notSpawned
  forwarder := none
  queue := []
  streamOpen := true
  received := []

namespace Call

def fail (call : Call) (status : Status) : Call :=
  { call with stage := .failed status, subscription := none }

def spawn (call : Call) (stage : CallStage) : Call :=
  { call with stage := stage, clientTask := .forwarding, forwarder := some .receiving }

end Call

namespace ServiceState

def stepOpen (service : ServiceState) (number : Nat) (fingerprint : Option String)
    (capabilityId capabilityName : String) (sessionMode : CapabilitySessionMode) :
    Option ServiceState :=
  match service.calls.lookup number with
  | some _ => none
  | none =>
    let setting : ResumeSetting :=
      { sessionId := ""
        capabilityId := capabilityId
        sessionMode := sessionMode
        fingerprint := fingerprint
        resumeToken := ""
        lastOutputSequence := none
        lastErrorSequence := none }
    some (service.putCall number (newCall .opens setting (.opening capabilityName)))

def stepResume (service : ServiceState) (number : Nat) (fingerprint : Option String)
    (sessionId resumeToken : String) (lastOutputSequence lastErrorSequence : Option Nat) :
    Option ServiceState :=
  match service.calls.lookup number with
  | some _ => none
  | none =>
    let setting : ResumeSetting :=
      { sessionId := sessionId
        capabilityId := ""
        sessionMode := .realtime
        fingerprint := fingerprint
        resumeToken := resumeToken
        lastOutputSequence := lastOutputSequence
        lastErrorSequence := lastErrorSequence }
    some (service.putCall number (newCall .resumes setting .starting))

def createSession (service : ServiceState) (number : Nat) (call : Call)
    (capabilityName sessionId freshToken : String) : Option ServiceState :=
  match service.opened.lookup sessionId, service.issued.lookup freshToken with
  | none, none =>
    let setting := call.setting
    let entry := newEntry setting.capabilityId capabilityName setting.sessionMode
      setting.fingerprint freshToken
    let created : Call :=
      { call with
        setting := { setting with sessionId := sessionId }
        stage := .opened
        subscription := some [] }
    some
      { service with
        sessions := service.sessions.insert sessionId entry
        calls := service.calls.insert number created
        opened := service.opened.insert sessionId setting.fingerprint
        issued := service.issued.insert freshToken sessionId }
  | _, _ => none

def attachOpened (service : ServiceState) (number : Nat) (call : Call) : ServiceState :=
  match attach service.sessions call.setting.sessionId number call.setting.fingerprint with
  | .error err => service.putCall number (call.fail (statusFromSessionError err))
  | .ok (attachment, sessions) =>
    let attached := { call with stage := .attached none, attachment := some attachment }
    { service with sessions := sessions, calls := service.calls.insert number attached }

def ownerOf (service : ServiceState) (sessionId : String) : Option String :=
  (service.sessions.lookup sessionId).bind SessionEntry.ownerFingerprint

def attachResumed (service : ServiceState) (number : Nat) (call : Call)
    (freshToken : String) : Option ServiceState :=
  match service.issued.lookup freshToken with
  | some _ => none
  | none =>
    let setting := call.setting
    match attachWithToken service.sessions setting.sessionId number setting.fingerprint
        setting.resumeToken freshToken with
    | .error err => some (service.putCall number (call.fail (statusFromSessionError err)))
    | .ok ((attachment, nextToken), sessions) =>
      let attached : Call :=
        { call with stage := .attached (some nextToken), attachment := some attachment }
      let record : ResumeRecord :=
        { sessionId := setting.sessionId
          ownerFingerprint := service.ownerOf setting.sessionId
          clientFingerprint := setting.fingerprint }
      some
        { service with
          sessions := sessions
          calls := service.calls.insert number attached
          issued := service.issued.insert nextToken setting.sessionId
          resumes := service.resumes ++ [record] }

/-- The next step of the handler of a call. `sessionId` and `freshToken` are the random
values it draws, where it draws any. -/
def stepHandler (service : ServiceState) (number : Nat) (sessionId freshToken : String) :
    Option ServiceState :=
  match service.calls.lookup number with
  | none => none
  | some call =>
    match call.stage with
    | .opening capabilityName =>
      service.createSession number call capabilityName sessionId freshToken
    | .opened => some (service.attachOpened number call)
    | .attached none => some (service.putCall number (call.spawn .returned))
    | .starting =>
      match service.sessions.lookup call.setting.sessionId with
      | none => some (service.putCall number (call.fail (statusFromSessionError .notFound)))
      | some entry =>
        let setting : ResumeSetting :=
          { call.setting with
            capabilityId := entry.capabilityId
            sessionMode := entry.sessionMode }
        some (service.putCall number { call with setting := setting, stage := .located })
    | .located =>
      match service.sessions.lookup call.setting.sessionId with
      | none => some (service.putCall number (call.fail (statusFromSessionError .notFound)))
      | some _ =>
        some (service.putCall number
          { call with stage := .subscribed, subscription := some [] })
    | .subscribed =>
      match service.sessions.lookup call.setting.sessionId with
      | none =>
        some (service.putCall number
          (call.fail { code := .notFound, message := "Session not found" }))
      | some _ => some (service.putCall number { call with stage := .senderTaken })
    | .senderTaken => service.attachResumed number call freshToken
    | .attached (some nextToken) =>
      match bufferedOutputSince service.sessions call.setting.sessionId
          call.setting.lastOutputSequence call.setting.lastErrorSequence with
      | .error err =>
        some (service.putCall number (call.fail (statusFromSessionError err)))
      | .ok frames =>
        some (service.putCall number (call.spawn (.replaying nextToken frames)))
    | .replaying nextToken (frame :: remaining) =>
      (offer responseChannelCapacity call.queue (replayMessage call.setting frame)).map
        fun queue =>
          service.putCall number
            { call with queue := queue, stage := .replaying nextToken remaining }
    | .replaying nextToken [] =>
      (offer responseChannelCapacity call.queue (resumeAckMessage call.setting nextToken)).map
        fun queue => service.putCall number { call with queue := queue, stage := .returned }
    | .returned => none
    | .failed _ => none
    | .notOpened _ => none
    | .cancelled => none

/-- The capability does not start: `open_session` of the capability fails. -/
def stepOpenFails (service : ServiceState) (number : Nat) : Option ServiceState :=
  match service.calls.lookup number with
  | none => none
  | some call =>
    match call.stage with
    | .opening _ =>
      let status : Status :=
        { code := .internal, message := "Failed to open capability session" }
      some (service.putCall number { call with stage := .notOpened status, streamOpen := false })
    | _ => none

/-- The task `forward_session_events` of a call. The broadcast channel is closed once the
session is gone. -/
def stepForwarder (service : ServiceState) (number : Nat) : Option ServiceState :=
  match service.calls.lookup number with
  | none => none
  | some call =>
    match call.forwarder, call.subscription with
    | some .receiving, some waiting =>
      match receive defaultEventChannelCapacity waiting with
      | some (.event broadcast rest) =>
        let message := sessionEventToProto call.setting broadcast.event
          broadcast.bufferedOutput broadcast.resumeToken
        some (service.putCall number
          { call with subscription := some rest, forwarder := some (.sending message) })
      | some (.lagged rest) =>
        some (service.putCall number { call with subscription := some rest })
      | none =>
        match service.sessions.lookup call.setting.sessionId with
        | none => some (service.putCall number { call with forwarder := some .ended })
        | some _ => none
    | some (.sending message), _ =>
      if call.streamOpen then
        (offer responseChannelCapacity call.queue message).map fun queue =>
          service.putCall number { call with queue := queue, forwarder := some .receiving }
      else some (service.putCall number { call with forwarder := some .ended })
    | _, _ => none

def messageTokens (message : SessionServerMessage) : List String :=
  match message.payload with
  | some (.ready _ _ _ resumeToken) => [resumeToken]
  | some (.resumeAck resumeToken _ _) => [resumeToken]
  | _ => []

def stepClientReads (service : ServiceState) (number : Nat) : Option ServiceState :=
  match service.calls.lookup number with
  | none => none
  | some call =>
    match call.stage, call.streamOpen, call.queue with
    | .returned, true, message :: queue =>
      let read := { call with queue := queue, received := call.received ++ [message] }
      let tokens := (messageTokens message).map fun token =>
        (call.setting.fingerprint, token)
      some
        { service with
          calls := service.calls.insert number read
          learned := service.learned ++ tokens }
    | _, _, _ => none

/-- The client drops the response stream or loses its connection. A handler that waits is
dropped with it. -/
def stepResponseDropped (service : ServiceState) (number : Nat) : Option ServiceState :=
  match service.calls.lookup number with
  | none => none
  | some call =>
    match call.stage with
    | .opening _ =>
      some (service.putCall number { call with stage := .cancelled, streamOpen := false })
    | .replaying _ _ =>
      some (service.putCall number { call with stage := .cancelled, streamOpen := false })
    | .returned => some (service.putCall number { call with streamOpen := false })
    | _ => none

/-- The task `forward_client_events` leaves its loop, because the client half-closed the
request stream, the stream failed or the capability is gone, and detaches. -/
def stepRequestEnded (service : ServiceState) (number : Nat) : Option ServiceState :=
  match service.calls.lookup number with
  | none => none
  | some call =>
    match call.clientTask with
    | .forwarding =>
      let sessions :=
        match detach service.sessions call.setting.sessionId with
        | .ok (_, sessions) => sessions
        | .error _ => service.sessions
      let ended := { call with clientTask := .detached }
      some
        { service with sessions := sessions, calls := service.calls.insert number ended }
    | _ => none

/-- The capability puts an event into its channel. It may do so before the session is in the map,
but nobody looks into the channel until then. -/
def stepCapabilitySends (service : ServiceState) (sessionId : String)
    (event : SessionServerEvent) : Option ServiceState :=
  match service.sessions.lookup sessionId with
  | none => none
  | some entry =>
    (offer serverChannelCapacity entry.events event).map fun events =>
      service.putEntry sessionId { entry with events := events }

def deliver (sessionId : String) (broadcast : SessionBroadcastEvent) (call : Call) : Call :=
  if call.setting.sessionId = sessionId then
    { call with subscription := call.subscription.map fun waiting => waiting ++ [broadcast] }
  else call

/-- The event loop receives and records an event, goes on with the event it recorded, or removes
the session. What is still in the channel is dropped with its receiver. -/
def stepEventLoop (service : ServiceState) (sessionId : String) : Option ServiceState :=
  match service.sessions.lookup sessionId with
  | none => none
  | some entry =>
    match entry.eventLoop with
    | .receiving =>
      match entry.events with
      | [] => none
      | event :: events =>
        let recorded := entry.state.recordServerEvent event
        some (service.putEntry sessionId
          { entry with
            state := recorded.2
            eventLoop := .recorded event recorded.1
            events := events })
    | .recorded event bufferedOutput =>
      let resumeToken : Option String :=
        match event with
        | .ready _ => some entry.state.resumeToken
        | _ => none
      some (service.putEntry sessionId
        { entry with eventLoop := .publishing ⟨event, bufferedOutput, resumeToken⟩ })
    | .publishing broadcast =>
      let eventLoop : LoopPhase :=
        if broadcast.event.isClosed then .removing else .receiving
      let published := { entry with eventLoop := eventLoop }
      some
        { service with
          sessions := service.sessions.insert sessionId published
          calls := Table.mapValues (deliver sessionId broadcast) service.calls }
    | .removing => some { service with sessions := service.sessions.erase sessionId }
    | _ => none

/-- The capability is gone, and the event loop has received all that it sent. -/
def stepCapabilityExits (service : ServiceState) (sessionId : String) :
    Option ServiceState :=
  match service.sessions.lookup sessionId with
  | none => none
  | some entry =>
    match entry.eventLoop, entry.events with
    | .receiving, [] => some (service.putEntry sessionId { entry with eventLoop := .removing })
    | _, _ => none

/-- Every caller is told the token of every session. -/
def stepListSessions (service : ServiceState) (fingerprint : Option String) :
    ServiceState :=
  let told := (listSessions service.sessions).map fun info => (fingerprint, info.resumeToken)
  { service with learned := service.learned ++ told }

end ServiceState

inductive ServiceAction where
  | callOpen (number : Nat) (fingerprint : Option String) (capabilityId capabilityName : String)
      (sessionMode : CapabilitySessionMode)
  | callResume (number : Nat) (fingerprint : Option String) (sessionId resumeToken : String)
      (lastOutputSequence lastErrorSequence : Option Nat)
  | handler (number : Nat) (sessionId freshToken : String)
  | openFails (number : Nat)
  | forwarder (number : Nat)
  | clientReads (number : Nat)
  | responseDropped (number : Nat)
  | requestEnded (number : Nat)
  | capabilitySends (sessionId : String) (event : SessionServerEvent)
  | eventLoop (sessionId : String)
  | capabilityExits (sessionId : String)
  | listSessions (fingerprint : Option String)

def stepService (service : ServiceState) : ServiceAction → Option ServiceState
  | .callOpen number fingerprint capabilityId capabilityName sessionMode =>
    service.stepOpen number fingerprint capabilityId capabilityName sessionMode
  | .callResume number fingerprint sessionId resumeToken lastOutput lastError =>
    service.stepResume number fingerprint sessionId resumeToken lastOutput lastError
  | .handler number sessionId freshToken => service.stepHandler number sessionId freshToken
  | .openFails number => service.stepOpenFails number
  | .forwarder number => service.stepForwarder number
  | .clientReads number => service.stepClientReads number
  | .responseDropped number => service.stepResponseDropped number
  | .requestEnded number => service.stepRequestEnded number
  | .capabilitySends sessionId event => service.stepCapabilitySends sessionId event
  | .eventLoop sessionId => service.stepEventLoop sessionId
  | .capabilityExits sessionId => service.stepCapabilityExits sessionId
  | .listSessions fingerprint => some (service.stepListSessions fingerprint)

inductive HandlerMove (service : ServiceState) (call : Call) : Call → Prop where
  | fails (status : Status)
      (stage_eq : call.stage = .opened ∨ call.stage = .starting ∨ call.stage = .located ∨
        call.stage = .subscribed ∨ call.stage = .senderTaken ∨
        ∃ nextToken, call.stage = .attached (some nextToken) ∧
          service.sessions.lookup call.setting.sessionId = none) :
      HandlerMove service call (call.fail status)
  | spawns (stage_eq : call.stage = .attached none) :
      HandlerMove service call (call.spawn .returned)
  | locates (entry : SessionEntry) (stage_eq : call.stage = .starting)
      (entry_eq : service.sessions.lookup call.setting.sessionId = some entry) :
      HandlerMove service call
        { call with
          setting := { call.setting with
            capabilityId := entry.capabilityId
            sessionMode := entry.sessionMode }
          stage := .located }
  | subscribes (stage_eq : call.stage = .located) :
      HandlerMove service call { call with stage := .subscribed, subscription := some [] }
  | takesSender (stage_eq : call.stage = .subscribed) :
      HandlerMove service call { call with stage := .senderTaken }
  | snapshots (nextToken : String) (entry : SessionEntry)
      (stage_eq : call.stage = .attached (some nextToken))
      (entry_eq : service.sessions.lookup call.setting.sessionId = some entry) :
      HandlerMove service call (call.spawn (.replaying nextToken
          (entry.state.outputsSince call.setting.lastOutputSequence
            call.setting.lastErrorSequence)))
  | replays (nextToken : String) (frame : BufferedOutput) (remaining : List BufferedOutput)
      (stage_eq : call.stage = .replaying nextToken (frame :: remaining)) :
      HandlerMove service call
        { call with
          queue := call.queue ++ [replayMessage call.setting frame]
          stage := .replaying nextToken remaining }
  | acknowledges (nextToken : String) (stage_eq : call.stage = .replaying nextToken []) :
      HandlerMove service call
        { call with
          queue := call.queue ++ [resumeAckMessage call.setting nextToken]
          stage := .returned }

inductive ForwarderMove (call : Call) : Call → Prop where
  | receives (broadcast : SessionBroadcastEvent) (rest : List SessionBroadcastEvent)
      (forwarder_eq : call.forwarder = some .receiving)
      (subscription_eq : call.subscription = some (broadcast :: rest)) :
      ForwarderMove call
        { call with
          subscription := some rest
          forwarder := some (.sending (sessionEventToProto call.setting broadcast.event
            broadcast.bufferedOutput broadcast.resumeToken)) }
  | lags (waiting : List SessionBroadcastEvent) (forwarder_eq : call.forwarder = some .receiving)
      (subscription_eq : call.subscription = some waiting)
      (behind : defaultEventChannelCapacity < waiting.length) :
      ForwarderMove call
        { call with
          subscription := some (waiting.drop (waiting.length - defaultEventChannelCapacity)) }
  | closes (forwarder_eq : call.forwarder = some .receiving)
      (drained : call.subscription = some []) :
      ForwarderMove call { call with forwarder := some .ended }
  | sends (message : SessionServerMessage) (forwarder_eq : call.forwarder = some (.sending message))
      (open_eq : call.streamOpen = true) :
      ForwarderMove call
        { call with queue := call.queue ++ [message], forwarder := some .receiving }
  | stops (message : SessionServerMessage) (forwarder_eq : call.forwarder = some (.sending message))
      (closed_eq : call.streamOpen = false) :
      ForwarderMove call { call with forwarder := some .ended }

/-- A call ends early: its client is gone, or the capability does not start. -/
inductive DropMove (call : Call) : Call → Prop where
  | cancels (stage_eq : (∃ capabilityName, call.stage = .opening capabilityName) ∨
        ∃ nextToken remaining, call.stage = .replaying nextToken remaining) :
      DropMove call { call with stage := .cancelled, streamOpen := false }
  | refuses (status : Status) (stage_eq : ∃ capabilityName, call.stage = .opening capabilityName) :
      DropMove call { call with stage := .notOpened status, streamOpen := false }
  | closes (stage_eq : call.stage = .returned) :
      DropMove call { call with streamOpen := false }

def IsNewCall (call : Call) : Prop :=
  ∃ kind setting stage, call = newCall kind setting stage ∧
    ((kind = .opens ∧ ∃ capabilityName, stage = .opening capabilityName) ∨
      (kind = .resumes ∧ stage = .starting))

def Call.created (call : Call) (sessionId : String) : Call :=
  { call with
    setting := { call.setting with sessionId := sessionId }
    stage := .opened
    subscription := some [] }

/-- What the capability and the event loop do to their session alone. -/
inductive EntryMove (sessionId : String) (entry : SessionEntry) :
    ServiceAction → SessionEntry → Prop where
  | sends (event : SessionServerEvent) :
      EntryMove sessionId entry (.capabilitySends sessionId event)
        { entry with events := entry.events ++ [event] }
  | records (event : SessionServerEvent) (events : List SessionServerEvent)
      (loop_eq : entry.eventLoop = .receiving) (events_eq : entry.events = event :: events) :
      EntryMove sessionId entry (.eventLoop sessionId)
        { entry with
          state := (entry.state.recordServerEvent event).2
          eventLoop := .recorded event (entry.state.recordServerEvent event).1
          events := events }
  | prepares (event : SessionServerEvent) (bufferedOutput : Option BufferedOutput)
      (resumeToken : Option String) (loop_eq : entry.eventLoop = .recorded event bufferedOutput)
      (token_eq : ∀ message, event = .ready message →
        resumeToken = some entry.state.resumeToken) :
      EntryMove sessionId entry (.eventLoop sessionId)
        { entry with eventLoop := .publishing ⟨event, bufferedOutput, resumeToken⟩ }
  | exits (loop_eq : entry.eventLoop = .receiving) (events_eq : entry.events = []) :
      EntryMove sessionId entry (.capabilityExits sessionId) { entry with eventLoop := .removing }

inductive ServiceMove (service : ServiceState) : ServiceAction → ServiceState → Prop where
  | calls (action : ServiceAction) (number : Nat) (call : Call)
      (unused : service.calls.lookup number = none) (new_call : IsNewCall call) :
      ServiceMove service action (service.putCall number call)
  | handles (number : Nat) (sessionId freshToken : String) (call changed : Call)
      (call_eq : service.calls.lookup number = some call)
      (move : HandlerMove service call changed) :
      ServiceMove service (.handler number sessionId freshToken) (service.putCall number changed)
  | forwards (number : Nat) (call changed : Call)
      (call_eq : service.calls.lookup number = some call) (move : ForwarderMove call changed) :
      ServiceMove service (.forwarder number) (service.putCall number changed)
  | drops (action : ServiceAction) (number : Nat) (call changed : Call)
      (own : action = .responseDropped number ∨ action = .openFails number)
      (call_eq : service.calls.lookup number = some call) (move : DropMove call changed) :
      ServiceMove service action (service.putCall number changed)
  | creates (number : Nat) (sessionId freshToken capabilityName : String) (call : Call)
      (call_eq : service.calls.lookup number = some call)
      (stage_eq : call.stage = .opening capabilityName)
      (new_session : service.opened.lookup sessionId = none)
      (new_token : service.issued.lookup freshToken = none) :
      ServiceMove service (.handler number sessionId freshToken)
        { service with
          sessions := service.sessions.insert sessionId
            (newEntry call.setting.capabilityId capabilityName call.setting.sessionMode
              call.setting.fingerprint freshToken)
          calls := service.calls.insert number (call.created sessionId)
          opened := service.opened.insert sessionId call.setting.fingerprint
          issued := service.issued.insert freshToken sessionId }
  | attaches (number : Nat) (sessionId freshToken : String) (call : Call) (entry : SessionEntry)
      (call_eq : service.calls.lookup number = some call) (stage_eq : call.stage = .opened)
      (entry_eq : service.sessions.lookup call.setting.sessionId = some entry)
      (free : entry.state.attachment = none) :
      ServiceMove service (.handler number sessionId freshToken)
        { service with
          sessions := service.sessions.insert call.setting.sessionId
            (entry.attachedBy call.setting.fingerprint number)
          calls := service.calls.insert number
            { call with
              stage := .attached none
              attachment := some ⟨call.setting.fingerprint⟩ } }
  | resumes (number : Nat) (sessionId freshToken : String) (call : Call) (entry : SessionEntry)
      (call_eq : service.calls.lookup number = some call) (stage_eq : call.stage = .senderTaken)
      (entry_eq : service.sessions.lookup call.setting.sessionId = some entry)
      (free : entry.state.attachment = none)
      (token_eq : entry.state.resumeToken = call.setting.resumeToken)
      (new_token : service.issued.lookup freshToken = none) :
      ServiceMove service (.handler number sessionId freshToken)
        { service with
          sessions := service.sessions.insert call.setting.sessionId
            (entry.resumedBy call.setting.fingerprint number freshToken)
          calls := service.calls.insert number
            { call with
              stage := .attached (some freshToken)
              attachment := some ⟨call.setting.fingerprint⟩ }
          issued := service.issued.insert freshToken call.setting.sessionId
          resumes := service.resumes ++
            [⟨call.setting.sessionId, entry.ownerFingerprint, call.setting.fingerprint⟩] }
  | reads (number : Nat) (call : Call) (message : SessionServerMessage)
      (queue : List SessionServerMessage)
      (call_eq : service.calls.lookup number = some call) (stage_eq : call.stage = .returned)
      (open_eq : call.streamOpen = true) (queue_eq : call.queue = message :: queue) :
      ServiceMove service (.clientReads number)
        { service with
          calls := service.calls.insert number
            { call with queue := queue, received := call.received ++ [message] }
          learned := service.learned ++
            (ServiceState.messageTokens message).map fun token =>
              (call.setting.fingerprint, token) }
  | detaches (number : Nat) (call : Call) (entry : SessionEntry)
      (call_eq : service.calls.lookup number = some call)
      (task_eq : call.clientTask = .forwarding)
      (entry_eq : service.sessions.lookup call.setting.sessionId = some entry)
      (held : entry.state.attachment.isSome = true) :
      ServiceMove service (.requestEnded number)
        { service with
          sessions := service.sessions.insert call.setting.sessionId entry.released
          calls := service.calls.insert number { call with clientTask := .detached } }
  | leaves (number : Nat) (call : Call) (call_eq : service.calls.lookup number = some call)
      (task_eq : call.clientTask = .forwarding)
      (nothing_held : ∀ entry, service.sessions.lookup call.setting.sessionId = some entry →
        entry.state.attachment = none) :
      ServiceMove service (.requestEnded number)
        (service.putCall number { call with clientTask := .detached })
  | works (action : ServiceAction) (sessionId : String) (entry updated : SessionEntry)
      (entry_eq : service.sessions.lookup sessionId = some entry)
      (move : EntryMove sessionId entry action updated) :
      ServiceMove service action (service.putEntry sessionId updated)
  | publishes (sessionId : String) (broadcast : SessionBroadcastEvent) (entry : SessionEntry)
      (eventLoop : LoopPhase)
      (entry_eq : service.sessions.lookup sessionId = some entry)
      (loop_eq : entry.eventLoop = .publishing broadcast)
      (next_eq : eventLoop = .removing ∧ broadcast.event.isClosed = true ∨
        eventLoop = .receiving) :
      ServiceMove service (.eventLoop sessionId)
        { service with
          sessions := service.sessions.insert sessionId { entry with eventLoop := eventLoop }
          calls := Table.mapValues (ServiceState.deliver sessionId broadcast) service.calls }
  | removes (sessionId : String) (entry : SessionEntry)
      (entry_eq : service.sessions.lookup sessionId = some entry)
      (loop_eq : entry.eventLoop = .removing) :
      ServiceMove service (.eventLoop sessionId)
        { service with sessions := service.sessions.erase sessionId }
  | lists (fingerprint : Option String) :
      ServiceMove service (.listSessions fingerprint) (service.stepListSessions fingerprint)

variable {call : Call} {action : ServiceAction} {service after : ServiceState}

open ServiceState

section

variable {number : Nat} {sessionId freshToken : String}

section

variable (call_eq : service.calls.lookup number = some call)

include call_eq

theorem createSession_move {capabilityName : String}
    (stage_eq : call.stage = .opening capabilityName)
    (moved : service.createSession number call capabilityName sessionId freshToken = some after) :
    ServiceMove service (.handler number sessionId freshToken) after := by
  unfold createSession at moved
  split at moved
  · rename_i new_session new_token
    cases moved
    exact .creates number sessionId freshToken capabilityName call call_eq stage_eq new_session
      new_token
  · cases moved

theorem attachOpened_move (stage_eq : call.stage = .opened) :
    ServiceMove service (.handler number sessionId freshToken)
      (service.attachOpened number call) := by
  unfold attachOpened
  split
  · exact .handles number sessionId freshToken call _ call_eq (.fails _ (Or.inl stage_eq))
  · rename_i accepted
    obtain ⟨entry, entry_eq, free, attachment_eq, sessions_eq⟩ := attach_ok accepted
    rw [attachment_eq, sessions_eq]
    exact .attaches number sessionId freshToken call entry call_eq stage_eq entry_eq free

theorem attachResumed_move (stage_eq : call.stage = .senderTaken)
    (moved : service.attachResumed number call freshToken = some after) :
    ServiceMove service (.handler number sessionId freshToken) after := by
  simp only [attachResumed] at moved
  split at moved
  · cases moved
  · rename_i new_token
    split at moved
    · cases moved
      exact .handles number sessionId freshToken call _ call_eq
        (.fails _ (Or.inr (Or.inr (Or.inr (Or.inr (Or.inl stage_eq))))))
    · rename_i accepted
      obtain ⟨entry, entry_eq, free, token_eq, granted_eq, sessions_eq⟩ :=
        attachWithToken_ok accepted
      cases granted_eq
      cases moved
      have owner_eq : service.ownerOf call.setting.sessionId = entry.ownerFingerprint := by
        simp [ownerOf, entry_eq]
      rw [sessions_eq, owner_eq]
      exact .resumes number sessionId freshToken call entry call_eq stage_eq entry_eq free
        token_eq new_token

end

theorem stepHandler_move (moved : service.stepHandler number sessionId freshToken = some after) :
    ServiceMove service (.handler number sessionId freshToken) after := by
  unfold stepHandler at moved
  split at moved
  · cases moved
  · rename_i call call_eq
    have handles {changed : Call} (move : HandlerMove service call changed) :
        ServiceMove service (.handler number sessionId freshToken)
          (service.putCall number changed) :=
      .handles number sessionId freshToken call changed call_eq move
    split at moved
    · rename_i stage_eq
      exact createSession_move call_eq stage_eq moved
    · rename_i stage_eq
      cases moved
      exact attachOpened_move call_eq stage_eq
    · rename_i stage_eq
      cases moved
      exact handles (.spawns stage_eq)
    · rename_i stage_eq
      split at moved
      · cases moved
        exact handles (.fails _ (Or.inr (Or.inl stage_eq)))
      · rename_i entry entry_eq
        cases moved
        exact handles (.locates entry stage_eq entry_eq)
    · rename_i stage_eq
      split at moved
      · cases moved
        exact handles (.fails _ (Or.inr (Or.inr (Or.inl stage_eq))))
      · cases moved
        exact handles (.subscribes stage_eq)
    · rename_i stage_eq
      split at moved
      · cases moved
        exact handles (.fails _ (Or.inr (Or.inr (Or.inr (Or.inl stage_eq)))))
      · cases moved
        exact handles (.takesSender stage_eq)
    · rename_i stage_eq
      exact attachResumed_move call_eq stage_eq moved
    · rename_i nextToken stage_eq
      unfold bufferedOutputSince at moved
      split at moved
      · rename_i read_eq
        split at read_eq
        · rename_i absent
          cases moved
          exact handles (.fails _
            (Or.inr (Or.inr (Or.inr (Or.inr (Or.inr ⟨nextToken, stage_eq, absent⟩))))))
        · cases read_eq
      · rename_i read_eq
        split at read_eq
        · cases read_eq
        · rename_i entry entry_eq
          cases read_eq
          cases moved
          exact handles (.snapshots nextToken entry stage_eq entry_eq)
    · rename_i nextToken frame remaining stage_eq
      obtain ⟨_, rfl⟩ := room_of_map_offer moved
      exact handles (.replays nextToken frame remaining stage_eq)
    · rename_i nextToken stage_eq
      obtain ⟨_, rfl⟩ := room_of_map_offer moved
      exact handles (.acknowledges nextToken stage_eq)
    · cases moved
    · cases moved
    · cases moved
    · cases moved

theorem stepOpenFails_move (moved : service.stepOpenFails number = some after) :
    ServiceMove service (.openFails number) after := by
  unfold stepOpenFails at moved
  split at moved
  · cases moved
  · rename_i call call_eq
    split at moved
    · rename_i capabilityName stage_eq
      cases moved
      exact .drops _ number call _ (Or.inr rfl) call_eq (.refuses _ ⟨capabilityName, stage_eq⟩)
    · cases moved

theorem stepForwarder_move (moved : service.stepForwarder number = some after) :
    ServiceMove service (.forwarder number) after := by
  unfold stepForwarder at moved
  split at moved
  · cases moved
  · rename_i call call_eq
    split at moved
    · rename_i waiting forwarder_eq subscription_eq
      split at moved
      · rename_i broadcast rest received
        cases moved
        rw [(receive_event received).1] at subscription_eq
        exact .forwards number call _ call_eq
          (.receives broadcast rest forwarder_eq subscription_eq)
      · rename_i received
        cases moved
        rw [(receive_lagged received).2]
        exact .forwards number call _ call_eq
          (.lags waiting forwarder_eq subscription_eq (receive_lagged received).1)
      · rename_i received
        split at moved
        · cases moved
          rw [receive_none received] at subscription_eq
          exact .forwards number call _ call_eq (.closes forwarder_eq subscription_eq)
        · cases moved
    · rename_i message forwarder_eq
      split at moved
      · rename_i open_eq
        obtain ⟨_, rfl⟩ := room_of_map_offer moved
        exact .forwards number call _ call_eq (.sends message forwarder_eq open_eq)
      · rename_i closed_eq
        cases moved
        exact .forwards number call _ call_eq
          (.stops message forwarder_eq (Bool.eq_false_iff.mpr closed_eq))
    · cases moved

theorem stepClientReads_move (moved : service.stepClientReads number = some after) :
    ServiceMove service (.clientReads number) after := by
  unfold stepClientReads at moved
  split at moved
  · cases moved
  · rename_i call call_eq
    split at moved
    · rename_i message queue stage_eq open_eq queue_eq
      cases moved
      exact .reads number call message queue call_eq stage_eq open_eq queue_eq
    · cases moved

theorem stepResponseDropped_move (moved : service.stepResponseDropped number = some after) :
    ServiceMove service (.responseDropped number) after := by
  unfold stepResponseDropped at moved
  split at moved
  · cases moved
  · rename_i call call_eq
    have drops {changed : Call} (move : DropMove call changed) :
        ServiceMove service (.responseDropped number) (service.putCall number changed) :=
      .drops _ number call changed (Or.inl rfl) call_eq move
    split at moved
    · rename_i capabilityName stage_eq
      cases moved
      exact drops (.cancels (Or.inl ⟨capabilityName, stage_eq⟩))
    · rename_i nextToken remaining stage_eq
      cases moved
      exact drops (.cancels (Or.inr ⟨nextToken, remaining, stage_eq⟩))
    · rename_i stage_eq
      cases moved
      exact drops (.closes stage_eq)
    · cases moved

theorem stepRequestEnded_move (moved : service.stepRequestEnded number = some after) :
    ServiceMove service (.requestEnded number) after := by
  simp only [stepRequestEnded] at moved
  split at moved
  · cases moved
  · rename_i call call_eq
    split at moved
    · rename_i task_eq
      cases moved
      cases outcome : detach service.sessions call.setting.sessionId with
      | ok released =>
        obtain ⟨attachment, sessions⟩ := released
        obtain ⟨entry, entry_eq, held_eq, sessions_eq⟩ := detach_ok outcome
        rw [sessions_eq]
        exact .detaches number call entry call_eq task_eq entry_eq (by rw [held_eq]; rfl)
      | error => exact .leaves number call call_eq task_eq (detach_error outcome)
    · cases moved

theorem stepCapabilitySends_move {event : SessionServerEvent}
    (moved : service.stepCapabilitySends sessionId event = some after) :
    ServiceMove service (.capabilitySends sessionId event) after := by
  unfold stepCapabilitySends at moved
  split at moved
  · cases moved
  · rename_i entry entry_eq
    obtain ⟨_, rfl⟩ := room_of_map_offer moved
    exact .works _ sessionId entry _ entry_eq (.sends event)

theorem stepEventLoop_move (moved : service.stepEventLoop sessionId = some after) :
    ServiceMove service (.eventLoop sessionId) after := by
  unfold stepEventLoop at moved
  split at moved
  · cases moved
  · rename_i entry entry_eq
    split at moved
    · rename_i loop_eq
      split at moved
      · cases moved
      · rename_i event events events_eq
        cases moved
        exact .works _ sessionId entry _ entry_eq (.records event events loop_eq events_eq)
    · rename_i event bufferedOutput loop_eq
      cases moved
      apply ServiceMove.works _ sessionId entry _ entry_eq
      apply EntryMove.prepares event bufferedOutput _ loop_eq
      intro message event_eq
      rw [event_eq]
    · rename_i broadcast loop_eq
      cases moved
      apply ServiceMove.publishes sessionId broadcast entry _ entry_eq loop_eq
      split
      · rename_i closes
        exact Or.inl ⟨rfl, closes⟩
      · exact Or.inr rfl
    · rename_i loop_eq
      cases moved
      exact .removes sessionId entry entry_eq loop_eq
    · cases moved

theorem stepCapabilityExits_move (moved : service.stepCapabilityExits sessionId = some after) :
    ServiceMove service (.capabilityExits sessionId) after := by
  unfold stepCapabilityExits at moved
  split at moved
  · cases moved
  · rename_i entry entry_eq
    split at moved
    · rename_i loop_eq events_eq
      cases moved
      exact .works _ sessionId entry _ entry_eq (.exits loop_eq events_eq)
    · cases moved

theorem stepService_move (moved : stepService service action = some after) :
    ServiceMove service action after := by
  cases action with
  | callOpen number _ _ capabilityName =>
    simp only [stepService, stepOpen] at moved
    split at moved
    · cases moved
    · rename_i unused
      cases moved
      exact .calls _ number _ unused
        ⟨_, _, _, rfl, Or.inl ⟨rfl, capabilityName, rfl⟩⟩
  | callResume number =>
    simp only [stepService, ServiceState.stepResume] at moved
    split at moved
    · cases moved
    · rename_i unused
      cases moved
      exact .calls _ number _ unused ⟨_, _, _, rfl, Or.inr ⟨rfl, rfl⟩⟩
  | handler => exact stepHandler_move moved
  | openFails => exact stepOpenFails_move moved
  | forwarder => exact stepForwarder_move moved
  | clientReads => exact stepClientReads_move moved
  | responseDropped => exact stepResponseDropped_move moved
  | requestEnded => exact stepRequestEnded_move moved
  | capabilitySends => exact stepCapabilitySends_move moved
  | eventLoop => exact stepEventLoop_move moved
  | capabilityExits => exact stepCapabilityExits_move moved
  | listSessions fingerprint =>
    cases moved
    exact .lists fingerprint

end

inductive CallMove (service : ServiceState) (number : Nat) (call : Call) :
    ServiceAction → Call → Prop where
  | handles (sessionId freshToken : String) (changed : Call)
      (move : HandlerMove service call changed) :
      CallMove service number call (.handler number sessionId freshToken) changed
  | forwards (changed : Call) (move : ForwarderMove call changed) :
      CallMove service number call (.forwarder number) changed
  | drops (action : ServiceAction) (changed : Call)
      (own : action = .responseDropped number ∨ action = .openFails number)
      (move : DropMove call changed) : CallMove service number call action changed
  | creates (sessionId freshToken capabilityName : String)
      (stage_eq : call.stage = .opening capabilityName) :
      CallMove service number call (.handler number sessionId freshToken) (call.created sessionId)
  | attaches (sessionId freshToken : String) (nextToken : Option String)
      (stage_eq : call.stage = .opened ∨ call.stage = .senderTaken) :
      CallMove service number call (.handler number sessionId freshToken)
        { call with
          stage := .attached nextToken
          attachment := some ⟨call.setting.fingerprint⟩ }
  | reads (message : SessionServerMessage) (queue : List SessionServerMessage) :
      CallMove service number call (.clientReads number)
        { call with queue := queue, received := call.received ++ [message] }
  | leaves (task_eq : call.clientTask = .forwarding) :
      CallMove service number call (.requestEnded number) { call with clientTask := .detached }

/-- The calls after a step: a new one, one that changed, one more event for all that are
subscribed, or the same ones. -/
inductive CallsAfter (service : ServiceState) (calls : Table Nat Call) :
    ServiceAction → Prop where
  | arrives (action : ServiceAction) (number : Nat) (call : Call)
      (unused : service.calls.lookup number = none) (new_call : IsNewCall call)
      (calls_eq : calls = service.calls.insert number call) : CallsAfter service calls action
  | changes (action : ServiceAction) (number : Nat) (call changed : Call)
      (call_eq : service.calls.lookup number = some call)
      (move : CallMove service number call action changed)
      (calls_eq : calls = service.calls.insert number changed) : CallsAfter service calls action
  | delivers (sessionId : String) (broadcast : SessionBroadcastEvent) (calls_eq : calls =
        Table.mapValues (ServiceState.deliver sessionId broadcast) service.calls) :
      CallsAfter service calls (.eventLoop sessionId)
  | stays (action : ServiceAction) (calls_eq : calls = service.calls) :
      CallsAfter service calls action

theorem ServiceMove.callsAfter (move : ServiceMove service action after) :
    CallsAfter service after.calls action := by
  cases move with
  | calls _ number call unused new_call => exact .arrives action number call unused new_call rfl
  | handles number sessionId freshToken call changed call_eq move =>
    exact .changes _ number call changed call_eq (.handles sessionId freshToken changed move) rfl
  | forwards number call changed call_eq move =>
    exact .changes _ number call changed call_eq (.forwards changed move) rfl
  | drops _ number call changed own call_eq move =>
    exact .changes _ number call changed call_eq (.drops action changed own move) rfl
  | creates number sessionId freshToken capabilityName call call_eq stage_eq =>
    exact .changes _ number call _ call_eq
      (.creates sessionId freshToken capabilityName stage_eq) rfl
  | attaches number sessionId freshToken call _ call_eq stage_eq =>
    exact .changes _ number call _ call_eq
      (.attaches sessionId freshToken none (Or.inl stage_eq)) rfl
  | resumes number sessionId freshToken call _ call_eq stage_eq =>
    exact .changes _ number call _ call_eq
      (.attaches sessionId freshToken (some freshToken) (Or.inr stage_eq)) rfl
  | reads number call message queue call_eq =>
    exact .changes _ number call _ call_eq (.reads message queue) rfl
  | detaches number call entry call_eq task_eq | leaves number call call_eq task_eq =>
    exact .changes _ number call _ call_eq (.leaves task_eq) rfl
  | publishes sessionId broadcast => exact .delivers sessionId broadcast rfl
  | _ => exact .stays _ rfl

theorem ServiceMove.every {holds : Call → Prop} (move : ServiceMove service action after)
    (every : Table.Every holds service.calls) (new : ∀ call, IsNewCall call → holds call)
    (kept : ∀ number call changed, CallMove service number call action changed → holds call →
      holds changed)
    (delivered : ∀ sessionId broadcast call, holds call →
      holds (deliver sessionId broadcast call)) : Table.Every holds after.calls := by
  cases move.callsAfter with
  | arrives _ number call _ new_call calls_eq =>
    rw [calls_eq]
    exact every.insert number (new call new_call)
  | changes _ number call changed call_eq call_move calls_eq =>
    rw [calls_eq]
    exact every.insert number (kept number call changed call_move (every number call call_eq))
  | delivers sessionId broadcast calls_eq =>
    rw [calls_eq]
    exact every.mapValues (delivered sessionId broadcast)
  | stays _ calls_eq =>
    rw [calls_eq]
    exact every

theorem ForwarderMove.running {changed : Call} (move : ForwarderMove call changed) :
    call.forwarder ≠ none := by
  cases move with
  | receives broadcast rest forwarder_eq | lags waiting forwarder_eq | closes forwarder_eq
  | sends message forwarder_eq | stops message forwarder_eq => simp [forwarder_eq]

/-- What the tasks of a call do not change once the call has its session. -/
structure SameCall (call changed : Call) : Prop where
  kind : changed.kind = call.kind
  session : changed.setting.sessionId = call.setting.sessionId
  fingerprint : changed.setting.fingerprint = call.setting.fingerprint
  attachment : changed.attachment = call.attachment
  received : changed.received = call.received

/-- Nobody attaches or detaches, and the token stays. -/
theorem EntryMove.keeps {sessionId : String} {entry updated : SessionEntry}
    (move : EntryMove sessionId entry action updated) :
    updated.state.attachment = entry.state.attachment ∧
      updated.state.resumeToken = entry.state.resumeToken ∧
      updated.attachmentId = entry.attachmentId ∧
      updated.ownerFingerprint = entry.ownerFingerprint := by
  cases move with
  | records event =>
    obtain ⟨attachment_eq, token_eq⟩ := recordServerEvent_keeps entry.state event
    exact ⟨attachment_eq, token_eq, rfl, rfl⟩
  | _ => exact ⟨rfl, rfl, rfl, rfl⟩

variable {changed : Call}

theorem HandlerMove.sameCall (move : HandlerMove service call changed) :
    SameCall call changed := by
  cases move <;> exact ⟨rfl, rfl, rfl, rfl, rfl⟩

theorem ForwarderMove.sameCall (move : ForwarderMove call changed) : SameCall call changed := by
  cases move <;> exact ⟨rfl, rfl, rfl, rfl, rfl⟩

theorem DropMove.sameCall (move : DropMove call changed) : SameCall call changed := by
  cases move <;> exact ⟨rfl, rfl, rfl, rfl, rfl⟩

theorem deliver_sameCall (sessionId : String) (broadcast : SessionBroadcastEvent) (call : Call) :
    SameCall call (deliver sessionId broadcast call) := by
  unfold deliver
  split_ifs <;> exact ⟨rfl, rfl, rfl, rfl, rfl⟩

theorem ForwarderMove.stage_eq (move : ForwarderMove call changed) :
    changed.stage = call.stage := by
  cases move <;> rfl

theorem ForwarderMove.streamOpen_eq (move : ForwarderMove call changed) :
    changed.streamOpen = call.streamOpen := by
  cases move <;> rfl

theorem DropMove.closed (move : DropMove call changed) : changed.streamOpen = false := by
  cases move <;> rfl

/-- What a call is in, given whether its session was ever opened and the entry of that session. -/
abbrev PhaseOf := Bool → Option SessionEntry → Call → Prop

/-- The call with this number, if it opens a session, is in the phase. -/
def Tracked (phase : PhaseOf) (number : Nat) (opened : Table String (Option String))
    (sessions : Sessions) (calls : Table Nat Call) : Prop :=
  ∀ call, calls.lookup number = some call → call.kind = .opens →
    phase (opened.lookup call.setting.sessionId).isSome
      (sessions.lookup call.setting.sessionId) call

section

variable {phase later : PhaseOf} {number other : Nat} {earlier : Call} {sessionId : String}
  {entry updated : SessionEntry} {opened : Table String (Option String)} {sessions : Sessions}
  {calls : Table Nat Call} (tracked : Tracked phase number opened sessions calls)

include tracked

/-- One call changes, and nothing else. -/
theorem Tracked.step_call (earlier_eq : calls.lookup other = some earlier)
    (kind_eq : changed.kind = earlier.kind)
    (session_eq : changed.setting.sessionId = earlier.setting.sessionId)
    (step : number = other → earlier.kind = .opens → ∀ {known found}, phase known found earlier →
      phase known found changed) :
    Tracked phase number opened sessions (calls.insert other changed) := by
  intro call call_eq opens
  rcases Table.lookup_insert_cases call_eq with kept | ⟨rfl, rfl⟩
  · exact tracked call kept opens
  · rw [session_eq]
    rw [kind_eq] at opens
    exact step rfl opens (tracked earlier earlier_eq opens)

/-- A call attaches or detaches. -/
theorem Tracked.seats (earlier_eq : calls.lookup other = some earlier)
    (entry_eq : sessions.lookup earlier.setting.sessionId = some entry)
    (kind_eq : changed.kind = earlier.kind)
    (session_eq : changed.setting.sessionId = earlier.setting.sessionId)
    (own : number = other → ∀ {known}, phase known (some entry) earlier →
      phase known (some updated) changed)
    (others : ∀ call, number ≠ other → calls.lookup number = some call →
      call.setting.sessionId = earlier.setting.sessionId → ∀ {known}, phase known (some entry) call →
        phase known (some updated) call) :
    Tracked phase number opened (sessions.insert earlier.setting.sessionId updated)
      (calls.insert other changed) := by
  intro call call_eq opens
  rcases Table.lookup_insert_split call_eq with ⟨different, kept⟩ | ⟨rfl, rfl⟩
  · have holds := tracked call kept opens
    rw [Table.lookup_insert_eq]
    split_ifs with same
    · rw [same, entry_eq] at holds
      exact others call different kept same (same ▸ holds)
    · exact holds
  · have holds := tracked earlier earlier_eq (kind_eq.symm.trans opens)
    rw [session_eq, AList.lookup_insert]
    rw [entry_eq] at holds
    exact own rfl holds

theorem Tracked.creates (earlier_eq : calls.lookup other = some earlier)
    (new_session : opened.lookup sessionId = none) (owner : Option String)
    (blind : ∀ {found known next call}, phase false found call → phase known next call)
    (own : ∀ {known found}, phase known found earlier →
      phase true (some entry) (earlier.created sessionId)) :
    Tracked phase number (opened.insert sessionId owner) (sessions.insert sessionId entry)
      (calls.insert other (earlier.created sessionId)) := by
  intro call call_eq opens
  rcases Table.lookup_insert_cases call_eq with kept | ⟨rfl, rfl⟩
  · have holds := tracked call kept opens
    rw [Table.lookup_insert_eq, Table.lookup_insert_eq]
    split_ifs with same
    · rw [same, new_session] at holds
      exact blind holds
    · exact holds
  · have session_eq : (earlier.created sessionId).setting.sessionId = sessionId := rfl
    rw [session_eq, AList.lookup_insert, AList.lookup_insert]
    exact own (tracked earlier earlier_eq opens)

theorem Tracked.publishes {broadcast : SessionBroadcastEvent}
    (entry_eq : sessions.lookup sessionId = some entry)
    (own : ∀ {known call}, phase known (some entry) call → phase known (some updated)
      { call with subscription := call.subscription.map fun waiting => waiting ++ [broadcast] }) :
    Tracked phase number opened (sessions.insert sessionId updated)
      (Table.mapValues (deliver sessionId broadcast) calls) := by
  intro call call_eq opens
  rw [Table.lookup_mapValues] at call_eq
  obtain ⟨earlier, earlier_eq, rfl⟩ := Option.map_eq_some_iff.mp call_eq
  have same := deliver_sameCall sessionId broadcast earlier
  have holds := tracked earlier earlier_eq (same.kind.symm.trans opens)
  rw [same.session, Table.lookup_insert_eq, deliver]
  split_ifs with session_eq
  · rw [session_eq, entry_eq] at holds
    rw [session_eq]
    exact own holds
  · exact holds

/-- Only one session changes. -/
theorem Tracked.session {changedSessions : Sessions}
    (others : ∀ other ≠ sessionId, changedSessions.lookup other = sessions.lookup other)
    (apart : ∀ {known found call}, call.setting.sessionId ≠ sessionId → phase known found call →
      later known found call)
    (own : ∀ call, calls.lookup number = some call → call.setting.sessionId = sessionId →
      ∀ {known}, phase known (sessions.lookup sessionId) call →
        later known (changedSessions.lookup sessionId) call) :
    Tracked later number opened changedSessions calls := by
  intro call call_eq opens
  have holds := tracked call call_eq opens
  by_cases same : call.setting.sessionId = sessionId
  · rw [same] at holds ⊢
    exact own call call_eq same holds
  · rw [others _ same]
    exact apart same holds

end

end HandControl.SessionService
