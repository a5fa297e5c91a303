import HandControl.AndroidShellSession
import HandControl.SessionAttachments

/-!
# The Android app reconnects to its session

The app notices that its connection is lost before the server does. It reconnects and resumes at
once, and the server may still hold the attachment of the lost connection.
-/

namespace HandControl.ShellReconnect

open AndroidShellSession ByteEncoding CapabilityParameters RemoteControlService
open SessionAttachments SessionManager SessionService TransitionRuns

structure ShellRequest where
  fingerprint : Option String
  capabilityId : String
  capabilityName : String
  sessionMode : CapabilitySessionMode

/-- The session service, and the flow of one app. `call` is the call that the flow streams from,
`past` its earlier calls, and `blockedBy` the call that held the session when the current one tried
to attach. -/
structure ReconnectState where
  service : ServiceState
  flow : ShellFlow
  call : Option Nat
  past : List Nat
  blockedBy : Option Nat

def ReconnectState.start : ReconnectState := ⟨.empty, .start none, none, [], none⟩

/-- `server` is a step of the server or of another client, `app` one of the app alone. -/
inductive ReconnectAction where
  | server (action : ServiceAction)
  | app (action : FlowAction)
  | connect (number : Nat)
  | receive
  | refused

def codeOf : StatusCode → GrpcCode
  | .invalidArgument => .invalidArgument
  | .notFound => .notFound
  | .permissionDenied => .permissionDenied
  | .resourceExhausted => .resourceExhausted
  | .failedPrecondition => .failedPrecondition
  | .internal => .internal
  | .unauthenticated => .unauthenticated
  | .unknown => .unknown

/-- The call that is about to attach to a session, with that session. -/
def attaching (state : ReconnectState) : ReconnectAction → Option String
  | .server (.handler number _ _) =>
    if state.call = some number then
      (state.service.calls.lookup number).bind fun call =>
        if call.stage = .senderTaken then some call.setting.sessionId else none
    else none
  | _ => none

def holderOf (service : ServiceState) (sessionId : String) : Option Nat :=
  (service.sessions.lookup sessionId).bind SessionEntry.attachmentId

def initialMessage (request : ShellRequest) (flow : ShellFlow) (number : Nat) : ServiceAction :=
  if flow.pendingReconnect && flow.resumeState.canResume then
    .callResume number request.fingerprint (flow.resumeState.sessionId.getD "")
      (flow.resumeState.resumeToken.getD "")
      (some (flow.resumeState.lastStdoutSequence % 2 ^ 64).toNat)
      (some (flow.resumeState.lastStderrSequence % 2 ^ 64).toNat)
  else
    .callOpen number request.fingerprint request.capabilityId request.capabilityName
      request.sessionMode

section

variable (capacity : Nat) (decode : Bytes → String) (request : ShellRequest)

def stepReconnect (state : ReconnectState) : ReconnectAction → Option ReconnectState
  | .server (.clientReads number) =>
    if state.call = some number then none
    else
      (stepService state.service (.clientReads number)).map fun service =>
        { state with service := service }
  | .server action =>
    (stepService state.service action).map fun service =>
      { state with
        service := service
        blockedBy := ((attaching state (.server action)).map
          (holderOf state.service)).getD state.blockedBy }
  | .app .connect => none
  | .app (.receive _) => none
  | .app action =>
    (stepFlow capacity decode state.flow action).map fun flow => { state with flow := flow }
  | .connect number =>
    (stepFlow capacity decode state.flow .connect).bind fun flow =>
      (stepService state.service (initialMessage request state.flow number)).map fun service =>
        { service := service
          flow := flow
          call := some number
          past := state.past ++ state.call.toList
          blockedBy := none }
  | .receive =>
    state.call.bind fun number =>
      (state.service.calls.lookup number).bind fun call =>
        call.queue.head?.bind fun message =>
          (stepService state.service (.clientReads number)).bind fun service =>
            (stepFlow capacity decode state.flow (.receive message)).map fun flow =>
              { state with service := service, flow := flow }
  | .refused =>
    state.call.bind fun number =>
      (state.service.calls.lookup number).bind fun call =>
        match call.stage with
        | .failed status =>
          (stepFlow capacity decode state.flow
            (.fail (.status (codeOf status.code) status.message))).map fun flow =>
              { state with flow := flow }
        | _ => none

end

/-- The flow has ended with the error of a refused resume, and the session was held by an earlier
call of the app. -/
def GaveUpOnOwnSession (state : ReconnectState) : Prop :=
  (∃ description, state.flow.phase = .ended (some (.status .resourceExhausted description))) ∧
    state.flow.userClosed = false ∧ ∃ holder ∈ state.past, state.blockedBy = some holder

/-- When the app attaches to a session again, the server has released the earlier attachments. -/
def OldReleased (state : ReconnectState) (action : ReconnectAction) : Prop :=
  ∀ sessionId, attaching state action = some sessionId → ∀ old ∈ state.past,
    holdingOf (state.service.calls.lookup old) ≠ some sessionId

section

variable {capacity : Nat} {decode : Bytes → String} {request : ShellRequest}
  {state after : ReconnectState} {action : ReconnectAction}

theorem holderOf_holds {service : ServiceState} (invariant : AttachmentInvariant service)
    {sessionId : String} {holder : Nat} (held : holderOf service sessionId = some holder) :
    holdingOf (service.calls.lookup holder) = some sessionId := by
  obtain ⟨_, entry_eq, owner_eq⟩ := Option.bind_eq_some_iff.mp held
  have slot : (ledger service).slot sessionId = some (some holder) := by
    simp [ledger, slotOf, entry_eq, owner_eq]
  exact (invariant.sound.named sessionId _ slot holder).mpr rfl

/-- The server is in a state that it can reach, and no earlier call blocks the current one. -/
structure Unblocked (state : ReconnectState) : Prop where
  reached : Reaches stepService anyAction ServiceState.empty state.service
  free : ∀ holder ∈ state.past, state.blockedBy ≠ some holder

theorem stepReconnect_unblocked (unblocked : Unblocked state) (released : OldReleased state action)
    (moved : stepReconnect capacity decode request state action = some after) :
    Unblocked after := by
  have reaches {service : ServiceState} {action : ServiceAction}
      (moved : stepService state.service action = some service) :
      Reaches stepService anyAction ServiceState.empty service :=
    unblocked.reached.tail trivial moved
  unfold stepReconnect at moved
  split at moved
  · split_ifs at moved
    obtain ⟨_, served, rfl⟩ := Option.map_eq_some_iff.mp moved
    exact ⟨reaches served, unblocked.free⟩
  · rename_i action _
    obtain ⟨_, served, rfl⟩ := Option.map_eq_some_iff.mp moved
    refine ⟨reaches served, ?_⟩
    intro holder member
    cases target : attaching state (.server action) with
    | none => simpa [target] using unblocked.free holder member
    | some sessionId =>
      -- A session that is held is held by a call that has not let go of it.
      intro held
      exact released sessionId target holder member
        (holderOf_holds (attachmentInvariant_of_run unblocked.reached) held)
  · cases moved
  · cases moved
  · obtain ⟨_, _, rfl⟩ := Option.map_eq_some_iff.mp moved
    exact ⟨unblocked.reached, unblocked.free⟩
  · obtain ⟨_, _, moved⟩ := Option.bind_eq_some_iff.mp moved
    obtain ⟨_, served, rfl⟩ := Option.map_eq_some_iff.mp moved
    exact ⟨reaches served, by simp⟩
  · obtain ⟨_, _, moved⟩ := Option.bind_eq_some_iff.mp moved
    obtain ⟨_, _, moved⟩ := Option.bind_eq_some_iff.mp moved
    obtain ⟨_, _, moved⟩ := Option.bind_eq_some_iff.mp moved
    obtain ⟨_, served, moved⟩ := Option.bind_eq_some_iff.mp moved
    obtain ⟨_, _, rfl⟩ := Option.map_eq_some_iff.mp moved
    exact ⟨reaches served, unblocked.free⟩
  · obtain ⟨_, _, moved⟩ := Option.bind_eq_some_iff.mp moved
    obtain ⟨_, _, moved⟩ := Option.bind_eq_some_iff.mp moved
    split at moved
    · obtain ⟨_, _, rfl⟩ := Option.map_eq_some_iff.mp moved
      exact ⟨unblocked.reached, unblocked.free⟩
    · cases moved

end

/-- The app does not give up on a session of its own as long as the server notices a lost
connection before the app attaches again. -/
theorem resume_not_given_up (capacity : Nat) (decode : Bytes → String) (request : ShellRequest)
    (state : ReconnectState)
    (run : Reaches (stepReconnect capacity decode request) OldReleased .start state) :
    ¬ GaveUpOnOwnSession state := by
  have unblocked : Unblocked state :=
    run.invariant ⟨Reaches.refl _, by simp [ReconnectState.start]⟩
      fun _ _ _ unblocked released moved => stepReconnect_unblocked unblocked released moved
  rintro ⟨_, _, holder, member, blocked⟩
  exact unblocked.free holder member blocked

def demoShell : ShellRequest := ⟨some "phone", "shell", "Shell", .realtime⟩

/-- The app opens a session, reads its token and loses the connection. -/
def lostConnection : List ReconnectAction :=
  [.connect 1, .server (.handler 1 "session" "first"), .server (.handler 1 "" ""),
    .server (.handler 1 "" ""), .server (.capabilitySends "session" (.ready none)),
    .server (.eventLoop "session"), .server (.eventLoop "session"), .server (.eventLoop "session"),
    .server (.forwarder 1), .server (.forwarder 1), .receive,
    .app (.fail (.status .unavailable "connection lost"))]

/-- The app resumes the session and hears the answer. -/
def resumeAnswer : List ReconnectAction :=
  [.connect 2, .server (.handler 2 "" ""), .server (.handler 2 "" ""), .server (.handler 2 "" ""),
    .server (.handler 2 "" "second")]

instance (state : ReconnectState) (action : ReconnectAction) :
    Decidable (OldReleased state action) := by
  unfold OldReleased
  infer_instance

theorem released_session_resumed :
    ∃ state, Reaches (stepReconnect 64 (fun _ => "") demoShell) OldReleased .start state ∧
      state.past = [1] ∧ ¬ GaveUpOnOwnSession state := by
  obtain ⟨state, run, past_eq⟩ :
      ∃ state, Reaches (stepReconnect 64 (fun _ => "") demoShell) OldReleased .start state ∧
        state.past = [1] :=
    reaches_of_evaluated (lostConnection ++ .server (.requestEnded 1) :: resumeAnswer)
      (by decide +kernel)
  exact ⟨state, run, past_eq, resume_not_given_up 64 _ demoShell state run⟩

/-- The app is faster than the server: the attachment of the lost connection is still there, and the
answer is not one that the app retries after. -/
theorem fast_reconnect_gives_up :
    ∃ state, Reaches (stepReconnect 64 (fun _ => "") demoShell) anyAction .start state ∧
      (state.service.sessions.lookup "session").isSome = true ∧ GaveUpOnOwnSession state := by
  obtain ⟨state, run, held, phase_eq, open_eq, blocked⟩ :
      ∃ state, Reaches (stepReconnect 64 (fun _ => "") demoShell) anyAction .start state ∧
        (state.service.sessions.lookup "session").isSome = true ∧
        state.flow.phase = .ended (some (.status .resourceExhausted
          "session already has an active attachment")) ∧
        state.flow.userClosed = false ∧ ∃ holder ∈ state.past, state.blockedBy = some holder :=
    reaches_of_evaluated (lostConnection ++ resumeAnswer ++ [.refused]) (by decide +kernel)
  exact ⟨state, run, held, ⟨_, phase_eq⟩, open_eq, blocked⟩

end HandControl.ShellReconnect
