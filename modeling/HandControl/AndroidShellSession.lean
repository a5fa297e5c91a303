import HandControl.SessionResume
import HandControl.StandardText

/-!
# The shell session of the Android app

`openShellSession` reads the response stream of a session, sends events to the collector of its
flow, and reconnects after a failure that it may resume from. The channel of the flow has a bounded
buffer, and the result of `trySend` is not looked at. A certificate that is rejected cancels the
flow, and what is in its channel is dropped.
-/

namespace HandControl.AndroidShellSession

open ByteEncoding MessageChannels SessionResume StandardText TransitionRuns

inductive GrpcCode where
  | cancelled
  | unknown
  | invalidArgument
  | deadlineExceeded
  | notFound
  | alreadyExists
  | permissionDenied
  | resourceExhausted
  | failedPrecondition
  | aborted
  | outOfRange
  | unimplemented
  | internal
  | unavailable
  | dataLoss
  | unauthenticated
deriving DecidableEq

/-- What ends the response stream: a status, or another exception, which may be an
`IOException`. -/
inductive Throwable where
  | status (code : GrpcCode) (description : String)
  | exception (io : Bool) (message : Option String)
deriving DecidableEq

inductive ShellSessionEvent where
  | ready (capabilityId : String) (message : Option String)
  | resuming (attempt : Nat)
  | resumeAcknowledged (message : Option String)
  | output (data : Bytes) (isError isBinary : Bool) (timestampMs : Option Int) (text : String)
  | exit (exitCode : Int) (timedOut : Bool) (message : Option String)
  | error (message : String) (code : Option Int)
  | heartbeat (timestampMs : Int) (latencyHintMs : Option Int)
  | closed (reason : Option String)
deriving DecidableEq

structure CapabilityResumeState where
  sessionId : Option String
  resumeToken : Option String
  lastStdoutSequence : Int
  lastStderrSequence : Int
deriving DecidableEq

namespace CapabilityResumeState

def canResume (state : CapabilityResumeState) : Bool :=
  (state.sessionId.any fun id => !isBlank id) && state.resumeToken.any fun token => !isBlank token

def clear (state : CapabilityResumeState) : CapabilityResumeState :=
  { state with resumeToken := none, lastStdoutSequence := 0, lastStderrSequence := 0 }

def cursor (state : CapabilityResumeState) (stderr : Bool) : Int :=
  if stderr then state.lastStderrSequence else state.lastStdoutSequence

def advance (state : CapabilityResumeState) (stderr : Bool) (sequence : Int) :
    CapabilityResumeState :=
  if stderr then { state with lastStderrSequence := max state.lastStderrSequence sequence }
  else { state with lastStdoutSequence := max state.lastStdoutSequence sequence }

end CapabilityResumeState

/-- An unsigned number of the protocol as a Kotlin `Long`. -/
def asLong (value : Nat) : Int := ((value + 2 ^ 63) % 2 ^ 64 : Nat) - (2 : Int) ^ 63

inductive FlowPhase where
  | connecting
  | streaming
  | ended (failure : Option Throwable)
deriving DecidableEq

/-- The flow. `channel` is its buffer and `collected` what the collector has received. `advanced`
lists the outputs whose sequence number moved the cursor. -/
structure ShellFlow where
  resumeState : CapabilityResumeState
  resumeAttempts : Nat
  pendingReconnect : Bool
  userClosed : Bool
  phase : FlowPhase
  channel : List ShellSessionEvent
  collected : List ShellSessionEvent
  advanced : List ShellSessionEvent
deriving DecidableEq

def ShellFlow.start (resumeSpec : Option CapabilityResumeState) : ShellFlow where
  resumeState := resumeSpec.getD ⟨none, none, 0, 0⟩
  resumeAttempts := 0
  pendingReconnect := resumeSpec.isSome
  userClosed := false
  phase := .connecting
  channel := []
  collected := []
  advanced := []

def shouldAttemptResume (flow : ShellFlow) : Throwable → Bool
  | .status code _ =>
    !flow.userClosed && flow.resumeState.canResume && code ∈
      [GrpcCode.unavailable, .unknown, .deadlineExceeded, .internal, .aborted]
  | .exception io _ => !flow.userClosed && flow.resumeState.canResume && io

/-- The text of an error. A status has a description, or its name. -/
def errorText : Throwable → String
  | .status .unauthenticated _ => "Authentication failed"
  | .status .permissionDenied _ => "Permission denied"
  | .status .notFound _ => "Capability not found"
  | .status .invalidArgument _ => "Invalid capability parameters"
  | .status .deadlineExceeded _ => "Request timeout"
  | .status .unavailable _ => "Server unavailable"
  | .status _ description => s!"Network error: {description}"
  | .exception _ message => message.getD "Shell session failed"

section

variable (capacity : Nat) (decode : Bytes → String)

def ShellFlow.trySend (flow : ShellFlow) (event : ShellSessionEvent) : ShellFlow :=
  match offer capacity flow.channel event with
  | some channel => { flow with channel := channel }
  | none => flow

/-- Bytes that are no UTF-8 are decoded to the replacement character. -/
def outputEvent (data : Bytes) (stderr binary : Option Bool) (timestampMs : Option Int) :
    ShellSessionEvent :=
  let text := decode data
  .output data (stderr.getD false)
    (binary.getD false || text.toList.any fun symbol => symbol.toNat == 0xFFFD) timestampMs text

def ShellFlow.onPayload (flow : ShellFlow) : Option ServerPayload → ShellFlow
  | some (.ready capabilityId _ text token) =>
    { flow with
      resumeState := { flow.resumeState with resumeToken := some token }
      resumeAttempts := 0 }.trySend capacity (.ready capabilityId text)
  | some (.resumeAck token _ text) =>
    { flow with
      resumeState := { flow.resumeState with resumeToken := some token }
      resumeAttempts := 0 }.trySend capacity (.resumeAcknowledged text)
  | some (.output data stderr binary timestampMs sequence) =>
    let event := outputEvent decode data stderr binary timestampMs
    let moved := flow.resumeState.cursor (stderr.getD false) < asLong sequence
    { flow with
      resumeState := flow.resumeState.advance (stderr.getD false) (asLong sequence)
      advanced := if moved then flow.advanced ++ [event] else flow.advanced }.trySend capacity event
  | some (.exit exitCode timedOut text) =>
    { flow with resumeState := flow.resumeState.clear }.trySend capacity
      (.exit exitCode (timedOut.getD false) text)
  | some (.error text code) => flow.trySend capacity (.error text code)
  | some (.heartbeat timestampMs latencyHintMs) =>
    flow.trySend capacity (.heartbeat timestampMs latencyHintMs)
  | some (.closed reason) =>
    { flow with resumeState := flow.resumeState.clear }.trySend capacity (.closed reason)
  | none => flow

/-- A message names its session. -/
def ShellFlow.onMessage (flow : ShellFlow) (message : SessionServerMessage) : ShellFlow :=
  let state := flow.resumeState
  let named := if isBlank message.sessionId then state.sessionId else some message.sessionId
  { flow with resumeState := { state with sessionId := named } }.onPayload capacity decode
    message.payload

def ShellFlow.onFailure (flow : ShellFlow) (failure : Throwable) : ShellFlow :=
  if shouldAttemptResume flow failure then
    { flow with
      resumeAttempts := flow.resumeAttempts + 1
      pendingReconnect := true
      phase := .connecting }.trySend capacity (.resuming (flow.resumeAttempts + 1))
  else if flow.userClosed then { flow with phase := .ended (some failure) }
  else
    { flow with phase := .ended (some failure) }.trySend capacity (.error (errorText failure) none)

inductive FlowAction where
  | connect
  | connectFails (message : String)
  | receive (message : SessionServerMessage)
  | rejectCertificate (message : String)
  | fail (failure : Throwable)
  | complete
  | userCloses
  | collect

def stepFlow (flow : ShellFlow) : FlowAction → Option ShellFlow
  | .connect =>
    if flow.phase = .connecting ∧ flow.userClosed = false then
      some { flow with phase := .streaming, pendingReconnect := false }
    else none
  | .connectFails message =>
    if flow.phase = .connecting ∧ flow.userClosed = false then
      some ({ flow with phase := .ended none }.trySend capacity (.error message none))
    else none
  | .receive message =>
    if flow.phase = .streaming then some (flow.onMessage capacity decode message) else none
  | .rejectCertificate message =>
    if flow.phase = .streaming then
      let told := flow.trySend capacity (.error message none)
      some { told with phase := .ended none, channel := [] }
    else none
  | .fail failure =>
    if flow.phase = .streaming then some (flow.onFailure capacity failure) else none
  | .complete =>
    if flow.phase = .streaming ∨ flow.phase = .connecting ∧ flow.userClosed then
      some { flow with phase := .ended none }
    else none
  | .userCloses => some { flow with userClosed := true }
  | .collect =>
    match flow.channel with
    | [] => none
    | event :: channel =>
      some { flow with channel := channel, collected := flow.collected ++ [event] }

end

/-- The outputs that moved the cursor were collected or wait in the channel, in their order. -/
def OutputsDelivered (flow : ShellFlow) : Prop :=
  flow.advanced.Sublist (flow.collected ++ flow.channel)

def Advances (flow : ShellFlow) : Option ServerPayload → Prop
  | some (.output _ stderr _ _ sequence) =>
    flow.resumeState.cursor (stderr.getD false) < asLong sequence
  | _ => False

/-- There is room for an output that moves the cursor, and no certificate is rejected while such an
output waits. -/
def KeepsOutputs (capacity : Nat) (flow : ShellFlow) : FlowAction → Prop
  | .receive message => Advances flow message.payload → flow.channel.length < capacity
  | .rejectCertificate _ => flow.advanced.Sublist flow.collected
  | _ => True

section

variable {capacity : Nat} {decode : Bytes → String} {flow after : ShellFlow}

theorem trySend_collected {event : ShellSessionEvent} :
    (flow.trySend capacity event).advanced = flow.advanced ∧
      (flow.trySend capacity event).collected = flow.collected := by
  unfold ShellFlow.trySend
  split <;> exact ⟨rfl, rfl⟩

section

variable (delivered : OutputsDelivered flow)

include delivered

theorem OutputsDelivered.trySend (event : ShellSessionEvent) :
    OutputsDelivered (flow.trySend capacity event) := by
  unfold ShellFlow.trySend
  split
  · rename_i offered
    rw [(offer_eq_some_iff _ _ _ _).mp offered |>.2, OutputsDelivered, ← List.append_assoc]
    exact List.Sublist.trans delivered (List.sublist_append_left _ _)
  · exact delivered

/-- Without room the output is lost, and the cursor moves all the same. -/
theorem OutputsDelivered.onPayload {payload : Option ServerPayload}
    (room : Advances flow payload → flow.channel.length < capacity) :
    OutputsDelivered (flow.onPayload capacity decode payload) := by
  unfold ShellFlow.onPayload
  split
  case h_3 data stderr binary timestampMs sequence =>
    dsimp only
    split_ifs with moved
    · simp only [ShellFlow.trySend, offer_of_room (room moved), OutputsDelivered]
      rw [← List.append_assoc]
      exact List.Sublist.append delivered (List.Sublist.refl _)
    · apply OutputsDelivered.trySend
      exact delivered
  case h_8 => exact delivered
  all_goals
    apply OutputsDelivered.trySend
    exact delivered

theorem stepFlow_delivered {action : FlowAction} (keeps : KeepsOutputs capacity flow action)
    (moved : stepFlow capacity decode flow action = some after) : OutputsDelivered after := by
  cases action with
  | receive =>
    simp only [stepFlow] at moved
    split_ifs at moved
    cases moved
    apply OutputsDelivered.onPayload
    · exact delivered
    · exact keeps
  | fail =>
    simp only [stepFlow] at moved
    split_ifs at moved
    cases moved
    unfold ShellFlow.onFailure
    split_ifs
    · apply OutputsDelivered.trySend
      exact delivered
    · exact delivered
    · apply OutputsDelivered.trySend
      exact delivered
  | collect =>
    simp only [stepFlow] at moved
    split at moved
    · cases moved
    · rename_i channel_eq
      cases moved
      rw [OutputsDelivered, channel_eq] at delivered
      rw [OutputsDelivered, List.append_assoc]
      exact delivered
  | connectFails =>
    simp only [stepFlow] at moved
    split_ifs at moved
    cases moved
    apply OutputsDelivered.trySend
    exact delivered
  | rejectCertificate =>
    simp only [stepFlow] at moved
    split_ifs at moved
    cases moved
    rw [OutputsDelivered, List.append_nil, trySend_collected.1, trySend_collected.2]
    exact keeps
  | connect | complete =>
    simp only [stepFlow] at moved
    split_ifs at moved
    cases moved
    exact delivered
  | userCloses =>
    cases moved
    exact delivered

end

end

/-- Over any number of reconnects and for any collector, no output that moved the cursor is lost
as long as the channel has room for such outputs and is not cancelled while it holds one. -/
theorem received_output_delivered (capacity : Nat) (decode : Bytes → String)
    (resumeSpec : Option CapabilityResumeState) (flow : ShellFlow)
    (run : Reaches (stepFlow capacity decode) (KeepsOutputs capacity) (.start resumeSpec) flow) :
    OutputsDelivered flow :=
  run.invariant (List.Sublist.refl []) fun _ _ _ delivered keeps moved =>
    stepFlow_delivered delivered keeps moved

instance (flow : ShellFlow) (payload : Option ServerPayload) :
    Decidable (Advances flow payload) := by
  unfold Advances
  split <;> infer_instance

instance (capacity : Nat) (flow : ShellFlow) (action : FlowAction) :
    Decidable (KeepsOutputs capacity flow action) := by
  rcases action <;> unfold KeepsOutputs <;> infer_instance

def demoOutput (sequence : Nat) : SessionServerMessage :=
  ⟨"session", some (.output [UInt8.ofNat sequence] (some false) (some false) none sequence)⟩

theorem outputs_collected_in_turn :
    ∃ flow, Reaches (stepFlow 1 fun _ => "") (KeepsOutputs 1) (.start none) flow ∧
      flow.advanced.length = 2 ∧ OutputsDelivered flow := by
  obtain ⟨flow, run, seen⟩ : ∃ flow, Reaches (stepFlow 1 fun _ => "") (KeepsOutputs 1)
      (.start none) flow ∧ flow.advanced.length = 2 :=
    reaches_of_evaluated [.connect, .receive (demoOutput 1), .collect, .receive (demoOutput 2),
      .collect, .rejectCertificate "Server certificate verification failed"] (by decide +kernel)
  exact ⟨flow, run, seen, received_output_delivered 1 _ none flow run⟩

/-- The collector is slower than the buffer is long: the last output is lost, and the cursor that
the next resume sends covers it. -/
theorem full_channel_loses_output :
    ∃ flow, Reaches (stepFlow 64 fun _ => "") anyAction (.start none) flow ∧
      flow.resumeState.lastStdoutSequence = 65 ∧ flow.channel.length = 64 ∧
      ¬ OutputsDelivered flow := by
  refine reaches_of_evaluated
    (.connect :: (List.range 65).map fun index => .receive (demoOutput (index + 1))) ?_
  unfold OutputsDelivered
  decide +kernel

end HandControl.AndroidShellSession
