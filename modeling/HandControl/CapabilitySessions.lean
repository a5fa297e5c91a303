import HandControl.ByteEncoding
import HandControl.NumberedStreams

/-!
# State of a capability session

A session keeps the frames of its two output streams in one bounded replay buffer. Each stream
numbers its frames from 1. A client resumes with the session's token and the last number it saw of
each stream. Clock readings and the identifier of an attachment decide nothing and are left out.
-/

namespace HandControl.CapabilitySessions

open ByteEncoding NumberedStreams

inductive OutputStream where
  | stdout
  | stderr
deriving DecidableEq

def OutputStream.fromStderrFlag (stderr : Bool) : OutputStream :=
  if stderr then .stderr else .stdout

structure BufferedOutput where
  stream : OutputStream
  sequence : Nat
  data : Bytes
  binary : Bool
  timestampMs : Option Int
deriving DecidableEq

def BufferedOutput.tag (frame : BufferedOutput) : OutputStream × Nat :=
  (frame.stream, frame.sequence)

/-- Events that a capability sends to the event loop of its session. -/
inductive SessionServerEvent where
  | ready (message : Option String)
  | output (data : Bytes) (stderr binary : Bool) (timestampMs : Option Int)
  | exit (exitCode : Int) (timedOut : Bool) (message : Option String)
  | error (message : String) (code : Option Int)
  | heartbeatAck (timestampMs : Int) (latencyHintMs : Option Int)
  | closed (reason : Option String)
deriving DecidableEq

def SessionServerEvent.isClosed : SessionServerEvent → Bool
  | .closed _ => true
  | _ => false

structure AttachmentState where
  clientFingerprint : Option String
deriving DecidableEq

inductive SessionManagerError where
  | notFound
  | alreadyAttached
  | notAttached
  | invalidResumeToken
deriving DecidableEq

structure SessionState where
  resumeToken : String
  stdoutNextSequence : Nat
  stderrNextSequence : Nat
  bufferCapacity : Nat
  outputBuffer : List BufferedOutput
  attachment : Option AttachmentState
deriving DecidableEq

def defaultOutputBufferCapacity : Nat := 1024

namespace SessionState

def new (bufferCapacity : Nat) (freshToken : String) : SessionState where
  resumeToken := freshToken
  stdoutNextSequence := 1
  stderrNextSequence := 1
  bufferCapacity := bufferCapacity
  outputBuffer := []
  attachment := none

def rotateResumeToken (state : SessionState) (freshToken : String) : String × SessionState :=
  (freshToken, { state with resumeToken := freshToken })

def validateResumeToken (state : SessionState) (token : String) : Bool :=
  state.resumeToken == token

def tryAttach (state : SessionState) (clientFingerprint : Option String) :
    Except SessionManagerError (AttachmentState × SessionState) :=
  if state.attachment.isSome then
    .error .alreadyAttached
  else
    let attachment : AttachmentState := { clientFingerprint := clientFingerprint }
    .ok (attachment, { state with attachment := some attachment })

def tryDetach (state : SessionState) :
    Except SessionManagerError (AttachmentState × SessionState) :=
  match state.attachment with
  | some attachment => .ok (attachment, { state with attachment := none })
  | none => .error .notAttached

def nextSequence (state : SessionState) : OutputStream → Nat
  | .stdout => state.stdoutNextSequence
  | .stderr => state.stderrNextSequence

def recordOutput (state : SessionState) (stream : OutputStream) (data : Bytes)
    (binary : Bool) (timestampMs : Option Int) : BufferedOutput × SessionState :=
  let counted : Nat × SessionState :=
    match stream with
    | .stdout =>
      (state.stdoutNextSequence, { state with stdoutNextSequence := state.stdoutNextSequence + 1 })
    | .stderr =>
      (state.stderrNextSequence, { state with stderrNextSequence := state.stderrNextSequence + 1 })
  let frame : BufferedOutput :=
    { stream := stream, sequence := counted.1, data := data, binary := binary,
      timestampMs := timestampMs }
  let extended := state.outputBuffer ++ [frame]
  let retained := if extended.length > state.bufferCapacity then extended.tail else extended
  (frame, { counted.2 with outputBuffer := retained })

/-- Whether a frame lies after the cursors. A missing cursor keeps the whole stream. -/
def isSince (lastStdoutSequence lastStderrSequence : Option Nat) (frame : BufferedOutput) :
    Bool :=
  match frame.stream with
  | .stdout => (lastStdoutSequence.map fun last => decide (frame.sequence > last)).getD true
  | .stderr => (lastStderrSequence.map fun last => decide (frame.sequence > last)).getD true

def outputsSince (state : SessionState) (lastStdoutSequence lastStderrSequence : Option Nat) :
    List BufferedOutput :=
  state.outputBuffer.filter (isSince lastStdoutSequence lastStderrSequence)

/-- `SessionManager::attach_with_token` on the state of the session it found. -/
def attachWithToken (state : SessionState) (clientFingerprint : Option String)
    (resumeToken freshToken : String) :
    Except SessionManagerError ((AttachmentState × String) × SessionState) :=
  if state.validateResumeToken resumeToken then
    match state.tryAttach clientFingerprint with
    | .error err => .error err
    | .ok (attachment, attached) =>
      let rotated := attached.rotateResumeToken freshToken
      .ok ((attachment, rotated.1), rotated.2)
  else
    .error .invalidResumeToken

/-- `SessionManager::record_server_event` on the state of the session it found. -/
def recordServerEvent (state : SessionState) :
    SessionServerEvent → Option BufferedOutput × SessionState
  | .output data stderr binary timestampMs =>
    let recorded :=
      state.recordOutput (OutputStream.fromStderrFlag stderr) data binary timestampMs
    (some recorded.1, recorded.2)
  | _ => (none, state)

end SessionState

section

variable (state : SessionState) (stream : OutputStream) (data : Bytes) (binary : Bool)
  (timestampMs : Option Int)

theorem recordOutput_tag :
    (state.recordOutput stream data binary timestampMs).1.tag =
      (stream, state.nextSequence stream) := by
  cases stream with
  | stdout | stderr => rfl

theorem recordOutput_nextSequence (other : OutputStream) :
    (state.recordOutput stream data binary timestampMs).2.nextSequence other =
      if other = stream then state.nextSequence stream + 1 else state.nextSequence other := by
  cases stream with
  | stdout | stderr => cases other <;> rfl

theorem recordOutput_outputBuffer :
    (state.recordOutput stream data binary timestampMs).2.outputBuffer =
      let extended :=
        state.outputBuffer ++ [(state.recordOutput stream data binary timestampMs).1]
      if extended.length > state.bufferCapacity then extended.tail else extended := by
  cases stream with
  | stdout | stderr => rfl

end

def SessionState.retainedTags (state : SessionState) : List (OutputStream × Nat) :=
  state.outputBuffer.map BufferedOutput.tag

/-- The buffer holds the last frames of each stream, numbered without a gap up to the
stream's counter. -/
def SessionState.WellSequenced (state : SessionState) : Prop :=
  ∀ stream, Consecutive (numbers stream state.retainedTags) (state.nextSequence stream)

open SessionState

theorem new_wellSequenced (bufferCapacity : Nat) (freshToken : String) :
    (new bufferCapacity freshToken).WellSequenced := by
  intro stream
  cases stream with
  | stdout | stderr => exact consecutive_nil_one

theorem consecutive_numbers_tail {stream : OutputStream} {next : Nat}
    (tags : List (OutputStream × Nat))
    (consecutive : Consecutive (numbers stream tags) next) :
    Consecutive (numbers stream tags.tail) next := by
  cases tags with
  | nil => exact consecutive
  | cons =>
    rw [numbers_cons] at consecutive
    rw [List.tail_cons]
    split at consecutive
    · exact consecutive.tail
    · exact consecutive

variable {state attached : SessionState} {clientFingerprint : Option String}
variable {attachment : AttachmentState}

theorem recordOutput_wellSequenced (sequenced : state.WellSequenced) (stream : OutputStream)
    (data : Bytes) (binary : Bool) (timestampMs : Option Int) :
    (state.recordOutput stream data binary timestampMs).2.WellSequenced := by
  intro other
  have extended : Consecutive
      (numbers other (state.retainedTags ++ [(stream, state.nextSequence stream)]))
      ((state.recordOutput stream data binary timestampMs).2.nextSequence other) := by
    rw [numbers_append, recordOutput_nextSequence, numbers_cons, numbers_nil]
    by_cases same : other = stream
    · subst same
      simpa using (sequenced other).push
    · rw [if_neg (Ne.symm same), if_neg same, List.append_nil]
      exact sequenced other
  have tags_eq : state.retainedTags ++ [(stream, state.nextSequence stream)] =
      (state.outputBuffer ++ [(state.recordOutput stream data binary timestampMs).1]).map
        BufferedOutput.tag := by
    rw [List.map_append, List.map_singleton, recordOutput_tag]
    rfl
  rw [tags_eq] at extended
  unfold retainedTags
  rw [recordOutput_outputBuffer]
  -- The oldest frame leaves exactly when the buffer would exceed its capacity.
  dsimp only
  split
  · rw [List.map_tail]
    exact consecutive_numbers_tail _ extended
  · exact extended

theorem recordServerEvent_wellSequenced (sequenced : state.WellSequenced)
    (event : SessionServerEvent) : (state.recordServerEvent event).2.WellSequenced := by
  cases event with
  | output data _ binary timestampMs =>
    exact recordOutput_wellSequenced sequenced _ data binary timestampMs
  | _ => exact sequenced

def SessionState.SameOutput (before after : SessionState) : Prop :=
  after.outputBuffer = before.outputBuffer ∧ after.nextSequence = before.nextSequence

theorem SessionState.WellSequenced.of_sameOutput {before after : SessionState}
    (sequenced : before.WellSequenced) (same : before.SameOutput after) :
    after.WellSequenced := by
  intro stream
  unfold retainedTags
  rw [same.1, same.2]
  exact sequenced stream

theorem tryAttach_sameOutput
    (accepted : state.tryAttach clientFingerprint = .ok (attachment, attached)) :
    state.SameOutput attached := by
  unfold tryAttach at accepted
  split at accepted
  · cases accepted
  · cases accepted
    refine ⟨rfl, ?_⟩
    funext stream
    cases stream <;> rfl

theorem tryDetach_sameOutput {detached : SessionState}
    (accepted : state.tryDetach = .ok (attachment, detached)) : state.SameOutput detached := by
  unfold tryDetach at accepted
  split at accepted
  · cases accepted
    refine ⟨rfl, ?_⟩
    funext stream
    cases stream <;> rfl
  · cases accepted

theorem rotateResumeToken_sameOutput (state : SessionState) (freshToken : String) :
    state.SameOutput (state.rotateResumeToken freshToken).2 := by
  refine ⟨rfl, ?_⟩
  funext stream
  cases stream <;> rfl

theorem attachWithToken_sameOutput {resumeToken freshToken : String}
    {granted : AttachmentState × String}
    (accepted : state.attachWithToken clientFingerprint resumeToken freshToken =
      .ok (granted, attached)) : state.SameOutput attached := by
  simp only [attachWithToken] at accepted
  split at accepted
  · split at accepted
    · cases accepted
    · rename_i middle middle_eq
      cases accepted
      have first := tryAttach_sameOutput middle_eq
      have second := rotateResumeToken_sameOutput middle freshToken
      exact ⟨second.1.trans first.1, second.2.trans first.2⟩
  · cases accepted

/-- The states a session can have: it is opened, then outputs are recorded and clients
attach and detach. -/
inductive SessionState.Reachable : SessionState → Prop where
  | opened (bufferCapacity : Nat) (freshToken : String) :
      Reachable (SessionState.new bufferCapacity freshToken)
  | recorded {state : SessionState} (earlier : Reachable state) (event : SessionServerEvent) :
      Reachable (state.recordServerEvent event).2
  | attached {state after : SessionState} (earlier : Reachable state)
      (clientFingerprint : Option String) (attachment : AttachmentState)
      (accepted : state.tryAttach clientFingerprint = .ok (attachment, after)) :
      Reachable after
  | detached {state after : SessionState} (earlier : Reachable state)
      (attachment : AttachmentState) (accepted : state.tryDetach = .ok (attachment, after)) :
      Reachable after
  | rotated {state : SessionState} (earlier : Reachable state) (freshToken : String) :
      Reachable (state.rotateResumeToken freshToken).2

theorem SessionState.Reachable.wellSequenced (reachable : state.Reachable) :
    state.WellSequenced := by
  induction reachable with
  | opened bufferCapacity freshToken => exact new_wellSequenced bufferCapacity freshToken
  | recorded _ event ih => exact recordServerEvent_wellSequenced ih event
  | attached _ _ _ accepted ih => exact ih.of_sameOutput (tryAttach_sameOutput accepted)
  | detached _ _ accepted ih => exact ih.of_sameOutput (tryDetach_sameOutput accepted)
  | rotated _ freshToken ih => exact ih.of_sameOutput (rotateResumeToken_sameOutput _ freshToken)

/-- The cursor a client sends: `(last > 0).then_some(last)`. -/
def sentCursor (last : Nat) : Option Nat :=
  if last > 0 then some last else none

def cursorOf (lastStdoutSequence lastStderrSequence : Nat) : OutputStream → Nat
  | .stdout => lastStdoutSequence
  | .stderr => lastStderrSequence

theorem sentCursor_keeps_iff (last sequence : Nat) (positive : 1 ≤ sequence) :
    ((sentCursor last).map fun seen => decide (sequence > seen)).getD true =
      decide (last < sequence) := by
  unfold sentCursor
  by_cases seen : last > 0
  · simp [seen]
  · have fresh : last = 0 := by omega
    subst fresh
    simp only [gt_iff_lt, lt_self_iff_false, if_false, Option.map_none, Option.getD_none]
    exact (decide_eq_true (by omega)).symm

/-- With the cursors as a client sends them, a replay holds of every stream the retained
numbers after its cursor. -/
theorem numbers_outputsSince (sequenced : state.WellSequenced)
    (lastStdoutSequence lastStderrSequence : Nat) (stream : OutputStream) :
    numbers stream ((state.outputsSince (sentCursor lastStdoutSequence)
        (sentCursor lastStderrSequence)).map BufferedOutput.tag) =
      (numbers stream state.retainedTags).filter
        fun number => cursorOf lastStdoutSequence lastStderrSequence stream < number := by
  rw [← numbers_filter_after (cursorOf lastStdoutSequence lastStderrSequence)]
  unfold retainedTags outputsSince
  rw [List.filter_map]
  congr 2
  apply List.filter_congr
  intro frame retained
  have positive : 1 ≤ frame.sequence := by
    obtain ⟨_, _, _, shape⟩ := sequenced frame.stream
    have numbered : frame.sequence ∈ numbers frame.stream state.retainedTags := by
      rw [mem_numbers_iff]
      exact List.mem_map_of_mem retained
    rw [shape, List.mem_range'_1] at numbered
    omega
  unfold isSince
  rcases frame with ⟨origin, sequence, _, _, _⟩
  cases origin with
  | stdout => exact sentCursor_keeps_iff lastStdoutSequence sequence positive
  | stderr => exact sentCursor_keeps_iff lastStderrSequence sequence positive

end HandControl.CapabilitySessions
