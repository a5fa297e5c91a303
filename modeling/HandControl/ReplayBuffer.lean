import HandControl.ReplayCompleteness

/-!
# The replay buffer of a session

Any sequence of `record_output` calls on a new session leaves the last frames in the buffer. Each
stream numbers its frames from 1 on, and `outputs_since` filters by one cursor for each stream.
-/

namespace HandControl.ReplayBuffer

open ByteEncoding CapabilitySessions NumberedStreams ReplayCompleteness

structure OutputCall where
  stream : OutputStream
  data : Bytes
  binary : Bool
  timestampMs : Option Int
deriving DecidableEq

def recordAll : SessionState → List OutputCall → List BufferedOutput × SessionState
  | state, [] => ([], state)
  | state, call :: rest =>
    let recorded := state.recordOutput call.stream call.data call.binary call.timestampMs
    let later := recordAll recorded.2 rest
    (recorded.1 :: later.1, later.2)

def contentOf (frame : BufferedOutput) : OutputCall where
  stream := frame.stream
  data := frame.data
  binary := frame.binary
  timestampMs := frame.timestampMs

def cursorFor (lastStdoutSequence lastStderrSequence : Option Nat) :
    OutputStream → Option Nat
  | .stdout => lastStdoutSequence
  | .stderr => lastStderrSequence

def IsLater (lastStdoutSequence lastStderrSequence : Option Nat) (frame : BufferedOutput) :
    Prop :=
  ∀ last ∈ cursorFor lastStdoutSequence lastStderrSequence frame.stream, last < frame.sequence

instance (lastStdoutSequence lastStderrSequence : Option Nat) :
    DecidablePred (IsLater lastStdoutSequence lastStderrSequence) := fun frame =>
  inferInstanceAs (Decidable (∀ last ∈ cursorFor lastStdoutSequence lastStderrSequence
    frame.stream, last < frame.sequence))

def framesOf (stream : OutputStream) (frames : List BufferedOutput) : List BufferedOutput :=
  frames.filter fun frame => frame.stream = stream

/-- What a session that was asked to record `calls` has to answer. -/
structure RecordsCorrectly (capacity : Nat) (calls : List OutputCall)
    (frames : List BufferedOutput) (state : SessionState) : Prop where
  /-- One frame for each call, in the order of the calls. -/
  contents : frames.map contentOf = calls
  /-- The last frames, as many as fit. -/
  buffer : state.outputBuffer = frames.drop (frames.length - capacity)
  size : state.outputBuffer.length = min calls.length capacity
  numbered : ∀ stream, (framesOf stream frames).map BufferedOutput.sequence =
    List.range' 1 (framesOf stream frames).length
  counter : ∀ stream, state.nextSequence stream = 1 + (framesOf stream frames).length
  since : ∀ lastStdout lastStderr, state.outputsSince lastStdout lastStderr =
    state.outputBuffer.filter fun frame => IsLater lastStdout lastStderr frame
  /-- If no frame after the cursors was evicted, the replay is all of them. -/
  complete : ∀ lastStdout lastStderr,
    (∀ frame ∈ frames.take (frames.length - capacity), ¬ IsLater lastStdout lastStderr frame) →
      state.outputsSince lastStdout lastStderr =
        frames.filter fun frame => IsLater lastStdout lastStderr frame

theorem isSince_eq_isLater (lastStdout lastStderr : Option Nat) (frame : BufferedOutput) :
    SessionState.isSince lastStdout lastStderr frame =
      decide (IsLater lastStdout lastStderr frame) := by
  rcases frame with ⟨stream, _, _, _, _⟩
  cases stream with
  | stdout => cases lastStdout <;> simp [SessionState.isSince, IsLater, cursorFor]
  | stderr => cases lastStderr <;> simp [SessionState.isSince, IsLater, cursorFor]

theorem outputsSince_eq_filter (state : SessionState) (lastStdout lastStderr : Option Nat) :
    state.outputsSince lastStdout lastStderr =
      state.outputBuffer.filter fun frame => IsLater lastStdout lastStderr frame := by
  unfold SessionState.outputsSince
  apply List.filter_congr
  intro frame _
  exact isSince_eq_isLater lastStdout lastStderr frame

theorem recordOutput_content (state : SessionState) (call : OutputCall) :
    contentOf (state.recordOutput call.stream call.data call.binary call.timestampMs).1 =
      call := by
  rcases call with ⟨stream, _, _, _⟩
  cases stream <;> rfl

theorem recordAll_history {state : SessionState} {history : List BufferedOutput}
    (recorded : RecordedHistory history state) (calls : List OutputCall) :
    RecordedHistory (history ++ (recordAll state calls).1) (recordAll state calls).2 := by
  induction calls generalizing state history with
  | nil => simpa [recordAll] using recorded
  | cons call rest ih =>
    have next := ih (recorded.recorded call.stream call.data call.binary call.timestampMs)
    rw [List.append_assoc] at next
    exact next

theorem recordAll_contents (state : SessionState) (calls : List OutputCall) :
    (recordAll state calls).1.map contentOf = calls := by
  induction calls generalizing state with
  | nil => rfl
  | cons call rest ih => simp only [recordAll, List.map_cons, recordOutput_content, ih]

theorem recordAll_bufferCapacity (state : SessionState) (calls : List OutputCall) :
    (recordAll state calls).2.bufferCapacity = state.bufferCapacity := by
  induction calls generalizing state with
  | nil => rfl
  | cons call rest ih =>
    rw [recordAll, ih]
    exact recordOutput_bufferCapacity state _ _ _ _

theorem numbers_map_tag (stream : OutputStream) (frames : List BufferedOutput) :
    numbers stream (frames.map BufferedOutput.tag) =
      (framesOf stream frames).map BufferedOutput.sequence := by
  unfold numbers framesOf
  rw [List.filter_map, List.map_map]
  rfl

/-- What is recorded on a new session, for every capacity and every mix of the streams. -/
theorem replay_buffer_is_last_frames (capacity : Nat) (freshToken : String)
    (calls : List OutputCall) :
    RecordsCorrectly capacity calls (recordAll (SessionState.new capacity freshToken) calls).1
      (recordAll (SessionState.new capacity freshToken) calls).2 := by
  have contents := recordAll_contents (SessionState.new capacity freshToken) calls
  have history := recordAll_history (.opened capacity freshToken) calls
  have capacity_eq := recordAll_bufferCapacity (SessionState.new capacity freshToken) calls
  rw [List.nil_append] at history
  generalize (recordAll (SessionState.new capacity freshToken) calls).1 = frames at *
  generalize (recordAll (SessionState.new capacity freshToken) calls).2 = state at *
  have room : state.bufferCapacity = capacity := capacity_eq
  have buffer := history.outputBuffer
  rw [room] at buffer
  have length_eq : calls.length = frames.length := by
    rw [← contents, List.length_map]
  have counted : ∀ stream, (framesOf stream frames).length = state.nextSequence stream - 1 := by
    intro stream
    have listed := congrArg List.length (history.numbers stream).2
    rwa [numbers_map_tag, List.length_map, List.length_range'] at listed
  refine ⟨contents, buffer, ?_, ?_, ?_, ?_, ?_⟩
  · rw [buffer, List.length_drop, length_eq]
    omega
  · intro stream
    rw [← numbers_map_tag, (history.numbers stream).2, counted stream]
  · intro stream
    have positive := (history.numbers stream).1
    rw [counted stream]
    omega
  · exact outputsSince_eq_filter state
  · intro lastStdout lastStderr unseen_kept
    -- the evicted frames add nothing to the filtered history
    have evicted_out : ((frames.take (frames.length - capacity)).filter fun frame =>
        IsLater lastStdout lastStderr frame) = [] := by
      rw [List.filter_eq_nil_iff]
      intro frame evicted
      simpa using unseen_kept frame evicted
    have whole : frames = frames.take (frames.length - capacity) ++
        frames.drop (frames.length - capacity) := (List.take_append_drop _ _).symm
    rw [outputsSince_eq_filter, buffer]
    conv_rhs => rw [whole, List.filter_append, evicted_out, List.nil_append]

end HandControl.ReplayBuffer
