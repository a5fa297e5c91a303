import HandControl.ResumeTranscript

/-!
# Whether a complete replay is complete

The acknowledgement of a resume always says that the replay is complete. The two streams share one
bounded buffer, so the replay holds all frames after the client's cursors exactly when none of them
is older than the last ones recorded.
-/

namespace HandControl.ReplayCompleteness

open ByteEncoding CapabilitySessions NumberedStreams SessionResume ResumeOrdering ResumeTranscript
open TransitionRuns Transcript

/-- The frames recorded in a session since it was opened. Attaching, detaching and a new
token leave the buffer and the counters alone. -/
inductive RecordedHistory : List BufferedOutput → SessionState → Prop where
  | opened (bufferCapacity : Nat) (freshToken : String) :
      RecordedHistory [] (SessionState.new bufferCapacity freshToken)
  | recorded {history : List BufferedOutput} {state : SessionState}
      (earlier : RecordedHistory history state) (stream : OutputStream) (data : Bytes)
      (binary : Bool) (timestampMs : Option Int) :
      RecordedHistory (history ++ [(state.recordOutput stream data binary timestampMs).1])
        (state.recordOutput stream data binary timestampMs).2
  | unrecorded {history : List BufferedOutput} {state after : SessionState}
      (earlier : RecordedHistory history state) (same : state.SameOutput after)
      (capacity_eq : after.bufferCapacity = state.bufferCapacity) :
      RecordedHistory history after

theorem recordOutput_bufferCapacity (state : SessionState) (stream : OutputStream)
    (data : Bytes) (binary : Bool) (timestampMs : Option Int) :
    (state.recordOutput stream data binary timestampMs).2.bufferCapacity =
      state.bufferCapacity := by
  cases stream <;> rfl

/-- Appending to the last items and dropping the oldest when there are too many keeps the
last items. -/
theorem push_last_items {Item : Type} (history : List Item) (item : Item) (capacity : Nat) :
    (if (history.drop (history.length - capacity) ++ [item]).length > capacity then
        (history.drop (history.length - capacity) ++ [item]).tail
      else history.drop (history.length - capacity) ++ [item]) =
      (history ++ [item]).drop ((history ++ [item]).length - capacity) := by
  rw [← List.drop_append_of_le_length (Nat.sub_le _ _), List.tail_drop]
  simp only [List.length_drop, List.length_append, List.length_singleton]
  split_ifs with full
  · congr 1
    omega
  · congr 1
    omega

variable {history : List BufferedOutput} {state : SessionState} {action : ResumeAction}
variable {count : Nat}

section

variable (recorded : RecordedHistory history state)

include recorded

theorem RecordedHistory.outputBuffer :
    state.outputBuffer = history.drop (history.length - state.bufferCapacity) := by
  induction recorded with
  | opened => exact List.drop_nil.symm
  | recorded _ _ _ _ _ ih =>
    rw [recordOutput_outputBuffer, ih, recordOutput_bufferCapacity]
    exact push_last_items _ _ _
  | unrecorded _ same capacity_eq ih => rw [same.1, ih, capacity_eq]

theorem RecordedHistory.numbers (stream : OutputStream) :
    1 ≤ state.nextSequence stream ∧
      NumberedStreams.numbers stream (history.map BufferedOutput.tag) =
        List.range' 1 (state.nextSequence stream - 1) := by
  induction recorded with
  | opened => cases stream <;> exact ⟨le_refl 1, rfl⟩
  | recorded _ origin _ _ _ ih =>
    rw [List.map_append, List.map_singleton, recordOutput_tag, numbers_append, numbers_cons,
      numbers_nil, recordOutput_nextSequence, ih.2]
    obtain ⟨positive, _⟩ := ih
    by_cases same : stream = origin
    · subst same
      rw [if_pos rfl, if_pos rfl]
      obtain ⟨count, count_eq⟩ := Nat.exists_eq_add_of_le positive
      rw [count_eq]
      refine ⟨by omega, ?_⟩
      have sizes : 1 + count + 1 - 1 = count + 1 := by omega
      have before : 1 + count - 1 = count := by omega
      rw [sizes, before, List.range'_1_concat]
    · rw [if_neg (Ne.symm same), if_neg same, List.append_nil]
      exact ⟨positive, rfl⟩
  | unrecorded _ same _ ih =>
    rw [same.2]
    exact ih

theorem RecordedHistory.nodup : (history.map BufferedOutput.tag).Nodup := by
  induction recorded with
  | opened => exact List.nodup_nil
  | recorded earlier stream _ _ _ ih =>
    rw [List.map_append, List.map_singleton, recordOutput_tag, List.nodup_append]
    refine ⟨ih, List.nodup_singleton _, ?_⟩
    intro tag old other new_tag same
    rw [List.mem_singleton] at new_tag
    rw [same, new_tag, ← mem_numbers_iff, (earlier.numbers stream).2, List.mem_range'_1] at old
    have positive := (earlier.numbers stream).1
    omega
  | unrecorded _ _ _ ih => exact ih

end

def handlerSent (transcript : Transcript) : List SessionServerMessage :=
  (transcript.sent.filter fun entry => entry.1 = .handler).map Prod.snd

theorem mem_handlerSent_iff (transcript : Transcript) (message : SessionServerMessage) :
    message ∈ handlerSent transcript ↔ (Producer.handler, message) ∈ transcript.sent := by
  simp [handlerSent]

/-- The handler acknowledges with `replay_complete = true`. -/
def AcknowledgesComplete (transcript : Transcript) : Prop :=
  ∃ sessionId resumeToken message,
    (Producer.handler, ⟨sessionId, some (.resumeAck resumeToken (some true) message)⟩) ∈
      transcript.sent

/-- The handler sends the frames in their order and then the acknowledgement, unless it is
cancelled on the way. -/
def HandlerProgress (setting : ResumeSetting) (frames : List BufferedOutput)
    (transcript : Transcript) : Prop :=
  (∃ sentFrames remaining, frames = sentFrames ++ remaining ∧
      handlerSent transcript = sentFrames.map (replayMessage setting) ∧
      (transcript.system.handler = .cancelled ∨
        ∃ nextToken, transcript.system.handler = .replaying nextToken remaining)) ∨
    (transcript.system.handler = .returned ∧ ∃ nextToken, handlerSent transcript =
        frames.map (replayMessage setting) ++ [resumeAckMessage setting nextToken])

section

variable {setting : ResumeSetting} {frames : List BufferedOutput}
variable {transcript next : Transcript} {after : ResumeSystem}

theorem HandlerProgress.of_same (progress : HandlerProgress setting frames transcript)
    (handler_eq : after.handler = transcript.system.handler)
    (not_handler : ∀ freshToken, action ≠ .handler freshToken) :
    HandlerProgress setting frames (transcript.extend after action) := by
  have sent_eq : handlerSent (transcript.extend after action) = handlerSent transcript := by
    cases action with
    | handler freshToken => exact absurd rfl (not_handler freshToken)
    | forwarder =>
      simp only [handlerSent, extend, newlySent, List.filter_append, List.map_append,
        List.filter_map]
      simp [Function.comp_def]
    | _ => simp [handlerSent, extend, newlySent]
  unfold HandlerProgress
  rw [sent_eq]
  have phase_eq : (transcript.extend after action).system.handler =
      transcript.system.handler := handler_eq
  rw [phase_eq]
  exact progress

theorem handlerSent_extend (freshToken : String) (message : SessionServerMessage)
    (queue_eq : after.queue = transcript.system.queue ++ [message]) :
    handlerSent (transcript.extend after (.handler freshToken)) =
      handlerSent transcript ++ [message] := by
  simp [handlerSent, extend, newlySent, queue_eq]

theorem HandlerMove.progress {freshToken : String}
    (progress : HandlerProgress setting frames transcript)
    (moved : HandlerMove setting transcript.system after) :
    HandlerProgress setting frames (transcript.extend after (.handler freshToken)) := by
  have running := HandlerMove.running moved
  rcases progress with ⟨sentFrames, _, frames_eq, sent_eq, phase⟩ | ⟨returned, _⟩
  · rcases phase with cancelled | ⟨token, phase_eq⟩
    · simp [cancelled, HandlerPhase.beforeSnapshot] at running
    · rcases HandlerMove.of_replaying moved phase_eq with
        ⟨frame, left, remaining_eq, after_eq⟩ | ⟨remaining_eq, after_eq⟩
      · subst remaining_eq after_eq
        left
        refine ⟨sentFrames ++ [frame], left, ?_, ?_, Or.inr ⟨token, rfl⟩⟩
        · rw [frames_eq, List.append_assoc]
          rfl
        · rw [handlerSent_extend freshToken (replayMessage setting frame) rfl, sent_eq,
            List.map_append]
          rfl
      · subst remaining_eq after_eq
        right
        rw [List.append_nil] at frames_eq
        refine ⟨rfl, token, ?_⟩
        rw [handlerSent_extend freshToken (resumeAckMessage setting token) rfl, sent_eq, frames_eq]
  · simp [returned, HandlerPhase.beforeSnapshot] at running

theorem stepTranscript_progress (progress : HandlerProgress setting frames transcript)
    (moved : stepTranscript setting transcript action = some next) :
    HandlerProgress setting frames next := by
  obtain ⟨_, stepped, next_eq⟩ := Option.map_eq_some_iff.mp moved
  subst next_eq
  cases action with
  | handler => exact HandlerMove.progress progress (stepHandler_move stepped)
  | cancelRequest =>
    obtain ⟨_, _, handler_eq, after_eq⟩ := stepCancelRequest_move stepped
    subst after_eq
    rcases progress with ⟨sentFrames, left, frames_eq, sent_eq, _⟩ | ⟨returned, _⟩
    · left
      refine ⟨sentFrames, left, frames_eq, ?_, Or.inl rfl⟩
      simpa [handlerSent, extend, newlySent] using sent_eq
    · simp [handler_eq] at returned
  | eventLoop =>
    have moved := stepEventLoop_move stepped
    exact progress.of_same (by cases moved <;> rfl) (by simp)
  | capabilityExit =>
    obtain ⟨_, _, after_eq⟩ := stepCapabilityExit_move stepped
    exact progress.of_same (by rw [after_eq]) (by simp)
  | forwarder =>
    exact progress.of_same (ForwarderMove.frame (stepForwarder_move stepped)).2.2.1 (by simp)
  | transport =>
    obtain ⟨_, _, _, _, _, after_eq⟩ := stepTransport_move stepped
    exact progress.of_same (by rw [after_eq]) (by simp)
  | client =>
    obtain ⟨_, _, _, _, handler_eq, _, _⟩ := ClientMove.frame (stepClient_move stepped)
    exact progress.of_same handler_eq (by simp)
  | disconnect =>
    obtain ⟨_, _, after_eq⟩ := stepDisconnect_move stepped
    exact progress.of_same (by rw [after_eq]) (by simp)

theorem replayMessage_ne_ack (setting : ResumeSetting) (frame : BufferedOutput)
    (sessionId resumeToken : String) (complete : Option Bool) (message : Option String) :
    replayMessage setting frame ≠ ⟨sessionId, some (.resumeAck resumeToken complete message)⟩ := by
  intro same
  have payloads := congrArg SessionServerMessage.payload same
  cases payloads

theorem HandlerProgress.complete (progress : HandlerProgress setting frames transcript)
    (acknowledged : AcknowledgesComplete transcript) :
    ∃ nextToken, handlerSent transcript =
      frames.map (replayMessage setting) ++ [resumeAckMessage setting nextToken] := by
  rcases progress with ⟨sentFrames, _, _, sent_eq, _⟩ | ⟨_, nextToken, sent_eq⟩
  · obtain ⟨_, _, _, sent⟩ := acknowledged
    rw [← mem_handlerSent_iff, sent_eq] at sent
    obtain ⟨frame, _, same⟩ := List.mem_map.mp sent
    exact absurd same (replayMessage_ne_ack setting frame _ _ _ _)
  · exact ⟨nextToken, sent_eq⟩

theorem replayMessage_injective (setting : ResumeSetting) :
    Function.Injective (replayMessage setting) := by
  intro left right same
  rcases left with ⟨leftStream, _, _, _, _⟩
  rcases right with ⟨rightStream, _, _, _, _⟩
  cases leftStream <;> cases rightStream <;>
    simp_all [replayMessage, sessionEventToProto]

end

def AllReplayed (setting : ResumeSetting) (history : List BufferedOutput)
    (transcript : Transcript) : Prop :=
  ∀ frame ∈ history,
    SessionState.isSince setting.lastOutputSequence setting.lastErrorSequence frame = true →
      (Producer.handler, replayMessage setting frame) ∈ transcript.sent

/-- No frame after the client's cursors is older than the last frames that the buffer has
room for. -/
def UnseenAreRecent (setting : ResumeSetting) (history : List BufferedOutput)
    (bufferCapacity : Nat) : Prop :=
  ∀ index : Fin history.length,
    SessionState.isSince setting.lastOutputSequence setting.lastErrorSequence
      (history.get index) = true → history.length ≤ index + bufferCapacity

theorem RecordedHistory.mem_outputBuffer_iff (recorded : RecordedHistory history state)
    (index : Fin history.length) :
    history.get index ∈ state.outputBuffer ↔ history.length ≤ index + state.bufferCapacity := by
  have distinct : history.Nodup := List.Nodup.of_map _ recorded.nodup
  rw [recorded.outputBuffer, List.mem_drop_iff_getElem]
  constructor
  · rintro ⟨_, _, same⟩
    have positions := (List.Nodup.getElem_inj_iff distinct).mp same
    omega
  · intro recent
    have within := index.isLt
    have position : history.length - state.bufferCapacity +
        (index - (history.length - state.bufferCapacity)) = index := by omega
    refine ⟨index - (history.length - state.bufferCapacity), by omega, ?_⟩
    simp only [position]
    rfl

/-- From the moment the handler reads the replay buffer until its acknowledgement says that the
replay is complete, every frame after the client's cursors was replayed exactly when none of them is
older than the last `buffer_capacity` frames recorded. -/
theorem replay_complete_truthful_iff (setting : ResumeSetting) (history : List BufferedOutput)
    (state : SessionState) (recorded : RecordedHistory history state)
    (before afterRead final : Transcript) (nextToken freshToken : String)
    (handler_eq : before.system.handler = .attached nextToken)
    (session_eq : before.system.session = some state) (nothing_sent : before.sent = [])
    (reads : stepTranscript setting before (.handler freshToken) = some afterRead)
    (run : Reaches (stepTranscript setting) anyAction afterRead final)
    (acknowledged : AcknowledgesComplete final) :
    AllReplayed setting history final ↔
      UnseenAreRecent setting history state.bufferCapacity := by
  have begins : HandlerProgress setting
      (state.outputsSince setting.lastOutputSequence setting.lastErrorSequence) afterRead := by
    obtain ⟨_, stepped, after_eq⟩ := Option.map_eq_some_iff.mp reads
    subst after_eq
    simp only [stepResume, ResumeSystem.stepHandler, handler_eq, session_eq,
      Option.some.injEq] at stepped
    subst stepped
    left
    refine ⟨[], _, rfl, ?_, Or.inr ⟨nextToken, rfl⟩⟩
    simp [handlerSent, Transcript.extend, newlySent, nothing_sent]
  have progress : HandlerProgress setting
      (state.outputsSince setting.lastOutputSequence setting.lastErrorSequence) final := by
    apply run.invariant begins
    intro earlier action later progress _ moved
    exact stepTranscript_progress progress moved
  obtain ⟨token, sent_eq⟩ := progress.complete acknowledged
  have replayed_iff : ∀ frame, (Producer.handler, replayMessage setting frame) ∈ final.sent ↔
      frame ∈ state.outputsSince setting.lastOutputSequence setting.lastErrorSequence := by
    intro frame
    rw [← mem_handlerSent_iff, sent_eq, List.mem_append, List.mem_singleton,
      List.mem_map_of_injective (replayMessage_injective setting)]
    have no_ack := replayMessage_ne_ack setting frame setting.sessionId token (some true) none
    simp only [resumeAckMessage, no_ack, or_false]
  unfold AllReplayed UnseenAreRecent
  constructor
  · intro all index unseen
    have replayed := all _ (List.get_mem history index) unseen
    rw [replayed_iff, SessionState.outputsSince, List.mem_filter] at replayed
    exact (recorded.mem_outputBuffer_iff index).mp replayed.1
  · intro recent frame in_history unseen
    obtain ⟨index, rfl⟩ := List.get_of_mem in_history
    rw [replayed_iff, SessionState.outputsSince, List.mem_filter]
    exact ⟨(recorded.mem_outputBuffer_iff index).mpr (recent index unseen), unseen⟩

def complaint : BufferedOutput := ⟨.stderr, 1, [69], false, none⟩

def line (index : Nat) : BufferedOutput := ⟨.stdout, index + 1, [65], false, none⟩

def chatter : Nat → SessionState
  | 0 =>
    ((SessionState.new defaultOutputBufferCapacity "token").recordOutput .stderr [69] false
      none).2
  | count + 1 => ((chatter count).recordOutput .stdout [65] false none).2

def chatterHistory (count : Nat) : List BufferedOutput :=
  complaint :: (List.range count).map line

theorem chatter_stdoutNextSequence (count : Nat) :
    (chatter count).stdoutNextSequence = count + 1 := by
  induction count with
  | zero => rfl
  | succ count ih => exact congrArg (· + 1) ih

theorem chatter_stderrNextSequence (count : Nat) : 0 < (chatter count).stderrNextSequence := by
  induction count with
  | zero => decide
  | succ count ih => exact ih

theorem chatter_reachable (count : Nat) : (chatter count).Reachable := by
  induction count with
  | zero => exact (SessionState.Reachable.opened _ _).recorded (.output [69] true false none)
  | succ count ih => exact ih.recorded printedByte

theorem chatter_recorded (count : Nat) :
    RecordedHistory (chatterHistory count) (chatter count) := by
  induction count with
  | zero =>
    exact RecordedHistory.recorded
      (RecordedHistory.opened defaultOutputBufferCapacity "token") .stderr [69] false none
  | succ count ih =>
    have appended : chatterHistory (count + 1) = chatterHistory count ++
        [((chatter count).recordOutput .stdout [65] false none).1] := by
      have frame_eq : ((chatter count).recordOutput .stdout [65] false none).1 =
          line count := by
        show (⟨.stdout, (chatter count).stdoutNextSequence, [65], false, none⟩ :
          BufferedOutput) = line count
        rw [chatter_stdoutNextSequence]
        rfl
      rw [frame_eq, chatterHistory, List.range_succ, List.map_append]
      rfl
    rw [appended]
    exact ih.recorded .stdout [65] false none

theorem chatter_unattached (count : Nat) :
    (chatter count).attachment = none ∧ (chatter count).resumeToken = "token" ∧
      (chatter count).bufferCapacity = defaultOutputBufferCapacity := by
  induction count with
  | zero => exact ⟨rfl, rfl, rfl⟩
  | succ count ih => exact ih

/-- A client that saw every line of stdout and nothing of stderr. -/
def chatterSetting (seen : Nat) : ResumeSetting :=
  { newcomerSetting with lastOutputSequence := sentCursor seen }

def chatterStart (count : Nat) : ResumeSystem :=
  { newcomerStart [] with session := some (chatter count) }

def chatterAttached (count : Nat) : SessionState :=
  { chatter count with resumeToken := "next", attachment := some ⟨none⟩ }

def chatterReading (count : Nat) : Transcript :=
  Transcript.begin
    { chatterStart count with
      subscription := some []
      session := some (chatterAttached count)
      handler := .attached "next" }

theorem chatterAttached_recorded (count : Nat) :
    RecordedHistory (chatterHistory count) (chatterAttached count) := by
  apply (chatter_recorded count).unrecorded
  · refine ⟨rfl, ?_⟩
    funext stream
    cases stream <;> rfl
  · rfl

theorem reaches_chatterReading (seen count : Nat) :
    Reaches (stepTranscript (chatterSetting seen)) anyAction
      (begin (chatterStart count)) (chatterReading count) := by
  obtain ⟨unattached, token_eq, _⟩ := chatter_unattached count
  have attaches : (chatter count).attachWithToken none "token" "next" =
      .ok ((⟨none⟩, "next"), chatterAttached count) := by
    simp [SessionState.attachWithToken, SessionState.validateResumeToken, token_eq,
      SessionState.tryAttach, unattached, SessionState.rotateResumeToken, chatterAttached]
  have subscribes : stepTranscript (chatterSetting seen) (begin (chatterStart count))
      (.handler "next") = some (begin
        { chatterStart count with subscription := some [], handler := .subscribed }) := rfl
  have takes : stepTranscript (chatterSetting seen) (begin
      { chatterStart count with subscription := some [], handler := .subscribed })
      (.handler "next") = some (begin
        { chatterStart count with subscription := some [], handler := .senderTaken }) := rfl
  have joins : stepTranscript (chatterSetting seen) (begin
      { chatterStart count with subscription := some [], handler := .senderTaken })
      (.handler "next") = some (chatterReading count) := by
    have stepped : stepResume (chatterSetting seen)
        { chatterStart count with subscription := some [], handler := .senderTaken }
        (.handler "next") = some (chatterReading count).system := by
      simp only [stepResume, ResumeSystem.stepHandler, chatterStart]
      have fields : (chatterSetting seen).fingerprint = none ∧
          (chatterSetting seen).resumeToken = "token" := ⟨rfl, rfl⟩
      rw [fields.1, fields.2, attaches]
      rfl
    exact Option.map_eq_some_iff.mpr ⟨_, stepped, rfl⟩
  exact Reaches.head trivial subscribes (Reaches.head trivial takes (Reaches.single trivial joins))

/-- The frame on stderr is replayed while the buffer has room for it. -/
theorem short_chatter_fully_replayed :
    ∃ final : Transcript,
      AcknowledgesComplete final ∧
      AllReplayed (chatterSetting 0) (chatterHistory 2) final := by
  obtain ⟨afterRead, reads, sent⟩ :
      ∃ afterRead ∈ stepTranscript (chatterSetting 0) (chatterReading 2) (.handler "next"),
        ∃ final ∈ runPermitted (stepTranscript (chatterSetting 0)) anyAction afterRead
            [.handler "next", .handler "next", .handler "next", .handler "next"],
          final.sent = [(.handler, replayMessage (chatterSetting 0) complaint),
            (.handler, replayMessage (chatterSetting 0) (line 0)),
            (.handler, replayMessage (chatterSetting 0) (line 1)),
            (.handler, resumeAckMessage (chatterSetting 0) "next")] := by
    decide
  obtain ⟨final, run, sent_eq⟩ := reaches_of_evaluated _ sent
  have acknowledged : AcknowledgesComplete final := by
    refine ⟨"session", "next", none, ?_⟩
    rw [sent_eq]
    decide
  refine ⟨final, acknowledged, ?_⟩
  apply (replay_complete_truthful_iff (chatterSetting 0) (chatterHistory 2) (chatterAttached 2)
    (chatterAttached_recorded 2) (chatterReading 2) afterRead final "next" "next" rfl rfl rfl
    reads run acknowledged).mpr
  intro index _
  have capacity : (chatterAttached 2).bufferCapacity = 1024 := rfl
  have length : (chatterHistory 2).length = 3 := rfl
  omega

/-- With enough lines after it, the frame on stderr is evicted, and a client that saw all
lines gets nothing replayed. -/
theorem nothing_selected (full : defaultOutputBufferCapacity ≤ count) :
    (chatterAttached count).outputsSince (chatterSetting count).lastOutputSequence
      (chatterSetting count).lastErrorSequence = [] := by
  have positive : 0 < count := Nat.lt_of_lt_of_le (by decide) full
  have capacity : (chatterAttached count).bufferCapacity = defaultOutputBufferCapacity :=
    (chatter_unattached count).2.2
  have evicted : (chatterHistory count).length - (chatterAttached count).bufferCapacity =
      (count - defaultOutputBufferCapacity) + 1 := by
    rw [capacity]
    simp only [chatterHistory, List.length_cons, List.length_map, List.length_range]
    omega
  rw [SessionState.outputsSince, (chatterAttached_recorded count).outputBuffer, evicted,
    chatterHistory, List.drop_succ_cons, List.filter_eq_nil_iff]
  intro frame retained
  obtain ⟨_, within, rfl⟩ := List.mem_map.mp (List.mem_of_mem_drop retained)
  have bound := List.mem_range.mp within
  have cursor_eq : (chatterSetting count).lastOutputSequence = some count := if_pos positive
  intro later
  simp only [SessionState.isSince, line, cursor_eq, Option.map_some, Option.getD_some] at later
  have beyond := of_decide_eq_true later
  omega

def nothingToReplay (count : Nat) : Transcript :=
  (chatterReading count).extend
    { (chatterReading count).system with
      handler := .replaying "next" []
      forwarder := some .receiving } (.handler "next")

def chatterAcknowledged (count : Nat) : Transcript :=
  (nothingToReplay count).extend
    { (nothingToReplay count).system with
      queue := [resumeAckMessage (chatterSetting count) "next"]
      handler := .returned } (.handler "next")

theorem reaches_chatterAcknowledged (full : defaultOutputBufferCapacity ≤ count) :
    Reaches (stepTranscript (chatterSetting count)) anyAction
      (begin (chatterStart count)) (chatterAcknowledged count) := by
  have reads : stepTranscript (chatterSetting count) (chatterReading count) (.handler "next") =
      some (nothingToReplay count) := by
    refine Option.map_eq_some_iff.mpr ⟨_, ?_, rfl⟩
    have selected := nothing_selected full
    simp only [stepResume, ResumeSystem.stepHandler, chatterReading, begin, selected]
  have acknowledges : stepTranscript (chatterSetting count) (nothingToReplay count)
      (.handler "next") = some (chatterAcknowledged count) := rfl
  exact ((reaches_chatterReading count count).tail trivial reads).tail trivial acknowledges

/-- The frame on stderr was evicted by as many lines as the buffer has room for. The
client saw all lines; the resume replays nothing and acknowledges a complete replay. -/
theorem evicted_frame_acknowledged :
    ResumeStart (chatterSetting 1024) (cursorOf 1024 0) (chatterStart 1024) ∧
      RecordedHistory (chatterHistory 1024) (chatter 1024) ∧
      Reaches (stepTranscript (chatterSetting 1024)) anyAction
        (Transcript.begin (chatterStart 1024)) (chatterAcknowledged 1024) ∧
      AcknowledgesComplete (chatterAcknowledged 1024) ∧
      ¬ AllReplayed (chatterSetting 1024) (chatterHistory 1024) (chatterAcknowledged 1024) := by
  generalize count_eq : 1024 = count
  have full : defaultOutputBufferCapacity ≤ count := le_of_eq count_eq
  have sent_eq : (chatterAcknowledged count).sent =
      [(.handler, resumeAckMessage (chatterSetting count) "next")] := rfl
  refine ⟨?_, chatter_recorded count, reaches_chatterAcknowledged full, ?_, ?_⟩
  · refine ⟨⟨rfl, rfl⟩, ⟨chatter count, rfl, chatter_reachable count, ?_⟩, ?_, rfl, rfl,
      ⟨rfl, rfl, rfl⟩, ⟨rfl, rfl, rfl⟩⟩
    · intro stream
      cases stream with
      | stdout =>
        have next_eq := chatter_stdoutNextSequence count
        show count < (chatter count).stdoutNextSequence
        omega
      | stderr => exact chatter_stderrNextSequence count
    · simp [chatterStart, newcomerStart]
  · refine ⟨"session", "next", none, ?_⟩
    rw [sent_eq]
    exact List.mem_singleton.mpr rfl
  · intro all
    have replayed := all complaint (List.mem_cons_self) rfl
    rw [sent_eq, List.mem_singleton] at replayed
    exact replayMessage_ne_ack _ _ _ _ _ _ (Prod.mk.inj replayed).2

end HandControl.ReplayCompleteness
