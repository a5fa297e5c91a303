import HandControl.SessionResume

/-!
# Order of the output that a resumed client observes

From the moment the handler read the replay buffer, every output recorded after the client's cursor
is in exactly one place on its way to the client. If no live output is mixed into the replay, these
places in their order hold the numbers after the cursor without a gap.
-/

namespace HandControl.ResumeOrdering

open CapabilitySessions NumberedStreams SessionResume TransitionRuns

def messageTags (message : SessionServerMessage) : List (OutputStream × Nat) :=
  match message.payload with
  | some (.output _ stderr _ _ sequence) =>
    [(OutputStream.fromStderrFlag (stderr.getD false), sequence)]
  | _ => []

def clientEventTags : CapabilitySessionEvent → List (OutputStream × Nat)
  | .output _ stderr _ _ sequence => [(OutputStream.fromStderrFlag stderr, sequence)]
  | _ => []

def liveTags (event : SessionServerEvent) (bufferedOutput : Option BufferedOutput) :
    List (OutputStream × Nat) :=
  match event with
  | .output _ stderr _ _ =>
    [(OutputStream.fromStderrFlag stderr, (bufferedOutput.map BufferedOutput.sequence).getD 0)]
  | _ => []

def broadcastTags (broadcast : SessionBroadcastEvent) : List (OutputStream × Nat) :=
  liveTags broadcast.event broadcast.bufferedOutput

def loopTags : LoopPhase → List (OutputStream × Nat)
  | .recorded event bufferedOutput => liveTags event bufferedOutput
  | .publishing broadcast => broadcastTags broadcast
  | _ => []

def waitingTags (subscription : Option (List SessionBroadcastEvent)) :
    List (OutputStream × Nat) :=
  (subscription.getD []).flatMap broadcastTags

def forwarderTags : Option ForwarderPhase → List (OutputStream × Nat)
  | some (.sending message) => messageTags message
  | _ => []

def remainingFrames : HandlerPhase → List BufferedOutput
  | .replaying _ remaining => remaining
  | _ => []

def replayTags (handler : HandlerPhase) : List (OutputStream × Nat) :=
  (remainingFrames handler).map BufferedOutput.tag

def receivedTags (client : ResumingClient) : List (OutputStream × Nat) :=
  (client.delivered ++ client.pendingEvents).flatMap clientEventTags

def arrivedTags (system : ResumeSystem) : List (OutputStream × Nat) :=
  receivedTags system.client ++ system.inFlight.flatMap messageTags

/-- What the server still has to put on the wire, in the order in which the numbers were
assigned. -/
def serverTags (system : ResumeSystem) : List (OutputStream × Nat) :=
  system.queue.flatMap messageTags ++
    (replayTags system.handler ++
      (forwarderTags system.forwarder ++
        (waitingTags system.subscription ++ loopTags system.eventLoop)))

/-- The numbers of one stream that the calls of `recv` returned to the resumed client. -/
def observedNumbers (stream : OutputStream) (system : ResumeSystem) : List Nat :=
  numbers stream (system.client.delivered.flatMap clientEventTags)

/-- The resume begins: the client's cursors are numbers that were assigned, and the
session is in a state that sessions have. -/
structure ResumeStart (setting : ResumeSetting) (cursor : OutputStream → Nat)
    (system : ResumeSystem) : Prop where
  cursors_sent : setting.lastOutputSequence = sentCursor (cursor .stdout) ∧
    setting.lastErrorSequence = sentCursor (cursor .stderr)
  session_reachable : ∃ state, system.session = some state ∧ state.Reachable ∧
    ∀ stream, cursor stream < state.nextSequence stream
  loop_running : system.eventLoop ≠ .ended
  handler_starting : system.handler = .starting
  not_forwarding : system.forwarder = none
  channel_new : system.queue = [] ∧ system.inFlight = [] ∧ system.channelOpen = true
  client_opening : system.client.phase = .opening ∧ system.client.pendingEvents = [] ∧
    system.client.delivered = []

/-- When the handler reads the replay buffer, nothing after the cursors was evicted. -/
def NothingEvicted (cursor : OutputStream → Nat) (system : ResumeSystem) :
    ResumeAction → Prop
  | .handler _ =>
    ∀ nextToken state, system.handler = .attached nextToken →
      system.session = some state →
        ∀ stream number, cursor stream < number → number < state.nextSequence stream →
          (stream, number) ∈ state.retainedTags
  | _ => True

/-- No live output is mixed into the replay: when the handler reads the buffer, no recorded output
is on its way to the forwarder; while it replays a stream, the forwarder sends no output of that
stream; and the forwarder does not fall behind. -/
def UndisturbedReplay (system : ResumeSystem) : ResumeAction → Prop
  | .handler _ =>
    ∀ nextToken, system.handler = .attached nextToken →
      waitingTags system.subscription = [] ∧ loopTags system.eventLoop = []
  | .forwarder =>
    (∀ waiting, system.forwarder = some .receiving → system.subscription = some waiting →
      waiting.length ≤ defaultEventChannelCapacity) ∧
    (∀ message, system.forwarder = some (.sending message) →
      ∀ tag ∈ messageTags message, ∀ frame ∈ remainingFrames system.handler,
        frame.stream ≠ tag.1)
  | _ => True

variable {system : ResumeSystem} {action : ResumeAction}

instance : Decidable (UndisturbedReplay system action) := by
  cases action with
  | handler =>
    exact decidable_of_iff ((system.handler matches .attached _) = true →
      waitingTags system.subscription = [] ∧ loopTags system.eventLoop = [])
      (by cases handler_eq : system.handler <;> simp [UndisturbedReplay, handler_eq])
  | forwarder =>
    exact decidable_of_iff ((∀ waiting ∈ system.subscription,
        system.forwarder = some .receiving → waiting.length ≤ defaultEventChannelCapacity) ∧
      ∀ tag ∈ forwarderTags system.forwarder, ∀ frame ∈ remainingFrames system.handler,
        frame.stream ≠ tag.1)
      (by
        rcases forwarder_eq : system.forwarder with _ | _ | _ | _ <;>
          simp [UndisturbedReplay, forwarder_eq, forwarderTags])
  | _ => exact isTrue trivial

/-- Every output of the session is in the replay buffer. -/
def KeepsAll (system : ResumeSystem) : Prop :=
  ∀ state ∈ system.session, ∀ stream ∈ [OutputStream.stdout, .stderr],
    ∀ number < state.nextSequence stream, 0 < number → (stream, number) ∈ state.retainedTags

instance : Decidable (KeepsAll system) := by
  unfold KeepsAll
  infer_instance

theorem KeepsAll.nothingEvicted (keeps : KeepsAll system) :
    NothingEvicted (fun _ => 0) system action := by
  cases action with
  | handler =>
    intro _ state _ session_eq stream number later assigned
    exact keeps state session_eq stream (by cases stream <;> decide) number assigned later
  | _ => trivial

theorem messageTags_sessionEventToProto (setting : ResumeSetting) (event : SessionServerEvent)
    (bufferedOutput : Option BufferedOutput) (resumeToken : Option String) :
    messageTags (sessionEventToProto setting event bufferedOutput resumeToken) =
      liveTags event bufferedOutput := by
  cases event <;> rfl

theorem messageTags_replayMessage (setting : ResumeSetting) (frame : BufferedOutput) :
    messageTags (replayMessage setting frame) = [frame.tag] := by
  rcases frame with ⟨stream, _, _, _, _⟩
  cases stream <;> rfl

theorem messageTags_resumeAckMessage (setting : ResumeSetting) (nextToken : String) :
    messageTags (resumeAckMessage setting nextToken) = [] := rfl

theorem receivedTags_noteSequence (client : ResumingClient) (stderr : Bool) (sequence : Nat) :
    (client.noteSequence stderr sequence).delivered = client.delivered ∧
      (client.noteSequence stderr sequence).pendingEvents = client.pendingEvents ∧
      (client.noteSequence stderr sequence).phase = client.phase := by
  unfold ResumingClient.noteSequence
  split
  · split
    · exact ⟨rfl, rfl, rfl⟩
    · exact ⟨rfl, rfl, rfl⟩
  · exact ⟨rfl, rfl, rfl⟩

theorem receivedTags_noteToken (client : ResumingClient) (resumeToken : String) :
    receivedTags (client.noteToken resumeToken) = receivedTags client := by
  unfold ResumingClient.noteToken
  split
  · rfl
  · rfl

theorem receivedTags_deliver (client : ResumingClient) (event : CapabilitySessionEvent)
    (nothing_pending : client.pendingEvents = []) :
    receivedTags (client.deliver event) = receivedTags client ++ clientEventTags event := by
  simp [receivedTags, ResumingClient.deliver, nothing_pending]

/-- A message that the resume loop accepts adds its output to what was received; one that
it refuses makes the resume fail. -/
theorem onResumeMessage_received (client : ResumingClient) (sessionId : String)
    (message : SessionServerMessage) (resuming : client.phase = .resuming) :
    (∃ text, client.onResumeMessage sessionId message = client.fail text) ∨
      (receivedTags (client.onResumeMessage sessionId message) =
          receivedTags client ++ messageTags message ∧
        ∀ text, (client.onResumeMessage sessionId message).phase ≠ .failed text) := by
  simp only [ResumingClient.onResumeMessage]
  split
  · exact Or.inl ⟨_, rfl⟩
  · split
    · rename_i resumeToken _ _ payload_eq
      right
      refine ⟨?_, by simp⟩
      have same := receivedTags_noteToken client resumeToken
      simpa [messageTags, payload_eq, receivedTags] using same
    · rename_i stderr _ _ sequence payload_eq
      right
      have noted := receivedTags_noteSequence client (stderr.getD false) sequence
      refine ⟨?_, by simp [noted.2.2, resuming]⟩
      simp [receivedTags, noted.1, noted.2.1, messageTags, payload_eq, clientEventTags]
    · exact Or.inl ⟨_, rfl⟩
    · exact Or.inl ⟨_, rfl⟩
    · exact Or.inl ⟨_, rfl⟩
    all_goals
      rename_i payload_eq
      right
      exact ⟨by simp [messageTags, payload_eq], by simp [resuming]⟩

theorem onStreamMessage_received (client : ResumingClient) (message : SessionServerMessage)
    (nothing_pending : client.pendingEvents = []) :
    receivedTags (client.onStreamMessage message) =
      receivedTags client ++ messageTags message := by
  unfold ResumingClient.onStreamMessage
  split
  · rename_i stderr _ _ sequence payload_eq
    have noted := receivedTags_noteSequence client (stderr.getD false) sequence
    rw [receivedTags_deliver _ _ (noted.2.1.trans nothing_pending)]
    simp [receivedTags, noted.1, noted.2.1, messageTags, payload_eq, clientEventTags]
  case h_6 resumeToken complete text payload_eq =>
    rw [receivedTags_noteToken]
    simp [messageTags, payload_eq]
  case h_7 payload_eq | h_8 payload_eq => simp [messageTags, payload_eq]
  all_goals
    rename_i payload_eq
    rw [receivedTags_deliver _ _ nothing_pending]
    simp [messageTags, payload_eq, clientEventTags]

theorem recordServerEvent_numbers (state : SessionState) (event : SessionServerEvent)
    (stream : OutputStream) :
    ∃ added,
      numbers stream (liveTags event (state.recordServerEvent event).1) =
        List.range' (state.nextSequence stream) added ∧
      (state.recordServerEvent event).2.nextSequence stream =
        state.nextSequence stream + added := by
  cases event with
  | output data stderr binary timestampMs =>
    have tag_eq := recordOutput_tag state (OutputStream.fromStderrFlag stderr) data binary
      timestampMs
    have live_eq : liveTags (.output data stderr binary timestampMs)
        (state.recordServerEvent (.output data stderr binary timestampMs)).1 =
        [(OutputStream.fromStderrFlag stderr,
          state.nextSequence (OutputStream.fromStderrFlag stderr))] := by
      have sequence_eq := congrArg Prod.snd tag_eq
      simpa [liveTags, SessionState.recordServerEvent, BufferedOutput.tag] using sequence_eq
    have next_eq := recordOutput_nextSequence state (OutputStream.fromStderrFlag stderr) data
      binary timestampMs stream
    rw [live_eq, numbers_cons, numbers_nil]
    by_cases same : stream = OutputStream.fromStderrFlag stderr
    · subst same
      rw [if_pos rfl] at next_eq
      exact ⟨1, by simp, next_eq⟩
    · refine ⟨0, ?_, ?_⟩
      · rw [if_neg (Ne.symm same)]
        rfl
      · rw [if_neg same] at next_eq
        exact next_eq
  | _ => exact ⟨0, rfl, rfl⟩

section

variable {setting : ResumeSetting} {cursor : OutputStream → Nat}
variable {after : ResumeSystem}

/-- The session stays in the manager while its loop runs, and the cursors are numbers
that were assigned. -/
structure SessionSound (cursor : OutputStream → Nat) (system : ResumeSystem) : Prop where
  present : system.eventLoop ≠ .ended → ∃ state, system.session = some state
  sequenced : ∀ state, system.session = some state → state.WellSequenced
  known : ∀ state, system.session = some state →
    ∀ stream, cursor stream < state.nextSequence stream

/-- The handler has not read the replay buffer yet. -/
structure Preparing (system : ResumeSystem) : Prop where
  early : system.handler.beforeSnapshot = true
  subscribed : system.handler ≠ .starting → system.subscription.isSome = true
  not_forwarding : system.forwarder = none
  nothing_sent : system.queue = [] ∧ system.inFlight = []
  client_opening : system.client.phase = .opening
  nothing_received : receivedTags system.client = []
  channel_open : system.channelOpen = true

theorem Preparing.not_late {system : ResumeSystem} (preparing : Preparing system)
    {phase : HandlerPhase} (handler_eq : system.handler = phase) :
    phase.beforeSnapshot ≠ false := by
  rw [← handler_eq, preparing.early]
  simp

/-- The numbers on their way follow the cursor without a gap, up to the last number that
the session assigned. -/
def Numbered (cursor : OutputStream → Nat) (system : ResumeSystem) : Prop :=
  ∀ stream, ∃ size,
    numbers stream (arrivedTags system ++ serverTags system) =
      List.range' (cursor stream + 1) size ∧
    ∀ state, system.session = some state →
      state.nextSequence stream = cursor stream + 1 + size

structure Serving (cursor : OutputStream → Nat) (system : ResumeSystem) : Prop where
  channel_open : system.channelOpen = true
  phases : (∃ nextToken remaining, system.handler = .replaying nextToken remaining ∧
    system.client.phase = .opening) ∨ system.handler = .returned
  subscribed : system.subscription.isSome = true
  numbered : Numbered cursor system

/-- Nothing more can reach the client than what is in flight. -/
structure Finished (cursor : OutputStream → Nat) (system : ResumeSystem) : Prop where
  cut : (∃ status, system.handler = .failed status) ∨
    (system.channelOpen = false ∧ (system.handler = .returned ∨ system.handler = .cancelled))
  ordered : ∀ stream, ∃ size,
    numbers stream (arrivedTags system) = List.range' (cursor stream + 1) size

def ResumeInvariant (cursor : OutputStream → Nat) (system : ResumeSystem) : Prop :=
  SessionSound cursor system ∧
    (Preparing system ∨ Serving cursor system ∨ Finished cursor system)

theorem SessionSound.of_same (sound : SessionSound cursor system)
    (session_eq : after.session = system.session)
    (loop_eq : after.eventLoop = system.eventLoop) : SessionSound cursor after := by
  refine ⟨?_, ?_, ?_⟩
  · rw [session_eq, loop_eq]
    exact sound.present
  · rw [session_eq]
    exact sound.sequenced
  · rw [session_eq]
    exact sound.known

theorem Numbered.of_same (numbered : Numbered cursor system)
    (session_eq : after.session = system.session)
    (numbers_eq : ∀ stream, numbers stream (arrivedTags after ++ serverTags after) =
      numbers stream (arrivedTags system ++ serverTags system)) :
    Numbered cursor after := by
  intro stream
  rw [numbers_eq stream, session_eq]
  exact numbered stream

theorem Numbered.arrived (numbered : Numbered cursor system) (stream : OutputStream) :
    ∃ size, numbers stream (arrivedTags system) =
      List.range' (cursor stream + 1) size := by
  obtain ⟨_, whole, _⟩ := numbered stream
  rw [numbers_append] at whole
  exact ⟨_, range_of_append whole⟩

theorem ordered_front {stream : OutputStream} {front back : List (OutputStream × Nat)}
    {first size : Nat} (whole : numbers stream (front ++ back) = List.range' first size) :
    ∃ length, numbers stream front = List.range' first length := by
  rw [numbers_append] at whole
  exact ⟨_, range_of_append whole⟩

theorem EventLoopMove.sound (sound : SessionSound cursor system)
    (moved : EventLoopMove system after) : SessionSound cursor after := by
  cases moved with
  | records event _ state _ _ session_eq =>
    refine ⟨fun _ => ⟨_, rfl⟩, ?_, ?_⟩
    · intro recorded recorded_eq
      cases recorded_eq
      exact recordServerEvent_wellSequenced (sound.sequenced state session_eq) event
    · intro recorded recorded_eq stream
      cases recorded_eq
      obtain ⟨added, _, next_eq⟩ := recordServerEvent_numbers state event stream
      rw [next_eq]
      exact Nat.lt_add_right added (sound.known state session_eq stream)
  | skips event script loop_eq | prepares _ _ _ loop_eq | publishes broadcast loop_eq =>
    refine ⟨fun _ => sound.present (by simp [loop_eq]), sound.sequenced, sound.known⟩
  | removes =>
    refine ⟨fun running => absurd rfl running, ?_, ?_⟩
    · intro state state_eq
      cases state_eq
    · intro state state_eq
      cases state_eq

theorem EventLoopMove.numbered (sound : SessionSound cursor system)
    (subscribed : system.subscription.isSome = true) (numbered : Numbered cursor system)
    (moved : EventLoopMove system after) : Numbered cursor after := by
  cases moved with
  | records event _ state loop_eq _ session_eq =>
    intro stream
    obtain ⟨size, whole, next_eq⟩ := numbered stream
    obtain ⟨added, live_eq, counted⟩ := recordServerEvent_numbers state event stream
    have next := next_eq state session_eq
    refine ⟨size + added, ?_, ?_⟩
    · rw [← List.range'_append_1, ← whole, ← next, ← live_eq]
      simp [arrivedTags, serverTags, loop_eq, loopTags]
    · intro recorded recorded_eq
      cases recorded_eq
      rw [counted, next]
      omega
  | skips _ _ loop_eq _ session_eq =>
    -- While the loop runs, the session is in the manager.
    obtain ⟨_, present⟩ := sound.present (by simp [loop_eq])
    rw [session_eq] at present
    cases present
  | prepares _ _ _ loop_eq =>
    refine numbered.of_same (by rfl) ?_
    intro stream
    simp [arrivedTags, serverTags, loop_eq, loopTags, broadcastTags]
  | publishes broadcast loop_eq =>
    refine numbered.of_same (by rfl) ?_
    intro stream
    obtain ⟨_, waiting_eq⟩ := Option.isSome_iff_exists.mp subscribed
    have sent : loopTags (if broadcast.event.isClosed then .removing else .receiving) = [] := by
      split <;> rfl
    simp [arrivedTags, serverTags, loop_eq, waiting_eq, sent, waitingTags]
    simp [loopTags]
  | removes loop_eq =>
    intro stream
    obtain ⟨size, whole, _⟩ := numbered stream
    refine ⟨size, ?_, ?_⟩
    · rw [← whole]
      simp [arrivedTags, serverTags, loop_eq, loopTags]
    · intro state state_eq
      cases state_eq

variable (cursors_sent : setting.lastOutputSequence = sentCursor (cursor .stdout) ∧
    setting.lastErrorSequence = sentCursor (cursor .stderr))
  (holds : ResumeInvariant cursor system)

include holds in
theorem EventLoopMove.invariant
    (moved : EventLoopMove system after) : ResumeInvariant cursor after := by
  have sound := EventLoopMove.sound holds.1 moved
  refine ⟨sound, ?_⟩
  rcases holds.2 with preparing | serving | finished
  · left
    rcases preparing with ⟨early, subscribed, not_forwarding, nothing_sent, opening, received,
      channel⟩
    cases moved <;>
      exact ⟨early, by simpa using subscribed, not_forwarding, nothing_sent, opening, received,
        channel⟩
  · right; left
    have numbered := EventLoopMove.numbered holds.1 serving.subscribed serving.numbered moved
    rcases serving with ⟨channel, phases, subscribed, _⟩
    cases moved <;> exact ⟨channel, phases, by simpa using subscribed, numbered⟩
  · right; right
    rcases finished with ⟨cut, ordered⟩
    cases moved <;> exact ⟨cut, ordered⟩

include holds in
theorem stepCapabilityExit_invariant
    (moved : system.stepCapabilityExit = some after) : ResumeInvariant cursor after := by
  obtain ⟨loop_eq, _, after_eq⟩ := stepCapabilityExit_move moved
  subst after_eq
  refine ⟨⟨fun _ => holds.1.present (by simp [loop_eq]), holds.1.sequenced, holds.1.known⟩, ?_⟩
  rcases holds.2 with preparing | serving | finished
  · left
    exact ⟨preparing.early, preparing.subscribed, preparing.not_forwarding,
      preparing.nothing_sent, preparing.client_opening, preparing.nothing_received,
      preparing.channel_open⟩
  · right; left
    refine ⟨serving.channel_open, serving.phases, serving.subscribed, ?_⟩
    refine serving.numbered.of_same (by rfl) ?_
    intro stream
    simp [arrivedTags, serverTags, loop_eq, loopTags]
  · right; right
    exact ⟨finished.cut, finished.ordered⟩

theorem HandlerMove.sound (sound : SessionSound cursor system)
    (moved : HandlerMove setting system after) : SessionSound cursor after := by
  cases moved with
  | attaches state attached _ _ _ session_eq accepted =>
    have same := attachWithToken_sameOutput accepted
    refine ⟨fun _ => ⟨attached, rfl⟩, ?_, ?_⟩
    · intro other other_eq
      cases other_eq
      exact (sound.sequenced state session_eq).of_sameOutput same
    · intro other other_eq stream
      cases other_eq
      rw [same.2]
      exact sound.known state session_eq stream
  | _ => exact sound.of_same rfl rfl

include cursors_sent in
/-- Reading the replay buffer while no live output is waiting puts exactly the numbers
after the cursors on their way. -/
theorem snapshot_numbered (nextToken : String) {state : SessionState}
    (sound : SessionSound cursor system) (preparing : Preparing system)
    (session_eq : system.session = some state)
    (retained : ∀ stream number, cursor stream < number → number < state.nextSequence stream →
      (stream, number) ∈ state.retainedTags)
    (quiet : waitingTags system.subscription = [] ∧ loopTags system.eventLoop = []) :
    Numbered cursor { system with
      handler := .replaying nextToken
        (state.outputsSince setting.lastOutputSequence setting.lastErrorSequence)
      forwarder := some .receiving } := by
  intro stream
  have sequenced := sound.sequenced state session_eq
  have known := sound.known state session_eq stream
  have cursor_eq : cursor = cursorOf (cursor .stdout) (cursor .stderr) := by
    funext other
    cases other <;> rfl
  have replayed : numbers stream ((state.outputsSince setting.lastOutputSequence
      setting.lastErrorSequence).map BufferedOutput.tag) =
      List.range' (cursor stream + 1) (state.nextSequence stream - (cursor stream + 1)) := by
    rw [cursors_sent.1, cursors_sent.2, numbers_outputsSince sequenced, ← cursor_eq]
    apply (sequenced stream).after known
    intro more
    rw [mem_numbers_iff]
    exact retained stream (cursor stream + 1) (Nat.lt_succ_self _) more
  refine ⟨state.nextSequence stream - (cursor stream + 1), ?_, ?_⟩
  · simp only [arrivedTags, serverTags, preparing.nothing_received, preparing.nothing_sent.1,
      preparing.nothing_sent.2, quiet.1, quiet.2, replayTags, remainingFrames, forwarderTags,
      List.flatMap_nil, List.nil_append, List.append_nil]
    exact replayed
  · intro other other_eq
    have same : state = other := Option.some.inj (session_eq.symm.trans other_eq)
    rw [← same]
    omega

theorem HandlerMove.of_replaying (moved : HandlerMove setting system after) {token : String}
    {frames : List BufferedOutput} (phase_eq : system.handler = .replaying token frames) :
    (∃ frame remaining, frames = frame :: remaining ∧
      after =
        { system with
          queue := system.queue ++ [replayMessage setting frame]
          handler := .replaying token remaining }) ∨
      frames = [] ∧
        after =
          { system with
            queue := system.queue ++ [resumeAckMessage setting token]
            handler := .returned } := by
  cases moved with
  | replays _ frame remaining handler_eq =>
    rw [phase_eq] at handler_eq
    cases handler_eq
    exact Or.inl ⟨frame, remaining, rfl, rfl⟩
  | acknowledges _ handler_eq =>
    rw [phase_eq] at handler_eq
    cases handler_eq
    exact Or.inr ⟨rfl, rfl⟩
  | fails _ handler_eq => simp [phase_eq, HandlerPhase.beforeSnapshot] at handler_eq
  | subscribes handler_eq | takesSender handler_eq | attaches _ _ _ _ handler_eq
  | snapshots _ _ handler_eq =>
    simp [phase_eq] at handler_eq

theorem HandlerMove.running (moved : HandlerMove setting system after) :
    system.handler.beforeSnapshot = true ∨
      ∃ nextToken remaining, system.handler = .replaying nextToken remaining := by
  cases moved with
  | fails _ handler_eq => exact Or.inl handler_eq
  | subscribes handler_eq | takesSender handler_eq | attaches _ _ _ _ handler_eq
  | snapshots _ _ handler_eq =>
    exact Or.inl (by rw [handler_eq]; rfl)
  | replays _ _ _ handler_eq | acknowledges nextToken handler_eq => exact Or.inr ⟨_, _, handler_eq⟩

theorem HandlerMove.serving (serving : Serving cursor system)
    (moved : HandlerMove setting system after) : Serving cursor after := by
  rcases serving.phases with ⟨token, _, phase_eq, opening⟩ | returned
  · rcases HandlerMove.of_replaying moved phase_eq with
      ⟨frame, remaining, frames_eq, after_eq⟩ | ⟨frames_eq, after_eq⟩
    · subst frames_eq after_eq
      refine ⟨serving.channel_open, Or.inl ⟨token, remaining, rfl, opening⟩, serving.subscribed, ?_⟩
      apply serving.numbered.of_same (by rfl)
      intro stream
      simp [arrivedTags, serverTags, phase_eq, replayTags, remainingFrames,
        messageTags_replayMessage]
    · subst frames_eq after_eq
      refine ⟨serving.channel_open, Or.inr rfl, serving.subscribed, ?_⟩
      apply serving.numbered.of_same (by rfl)
      intro stream
      simp [arrivedTags, serverTags, phase_eq, replayTags, remainingFrames,
        messageTags_resumeAckMessage]
  · have running := HandlerMove.running moved
    simp [returned, HandlerPhase.beforeSnapshot] at running

theorem Preparing.ordered (preparing : Preparing system) (stream : OutputStream) :
    numbers stream (arrivedTags system) = [] := by
  simp [arrivedTags, preparing.nothing_received, preparing.nothing_sent.2]

include cursors_sent in
theorem HandlerMove.preparing (sound : SessionSound cursor system) (preparing : Preparing system)
    (retained : ∀ nextToken state, system.handler = .attached nextToken →
      system.session = some state →
        ∀ stream number, cursor stream < number → number < state.nextSequence stream →
          (stream, number) ∈ state.retainedTags)
    (quiet : ∀ nextToken, system.handler = .attached nextToken →
      waitingTags system.subscription = [] ∧ loopTags system.eventLoop = [])
    (moved : HandlerMove setting system after) :
    Preparing after ∨ Serving cursor after ∨ Finished cursor after := by
  have kept := preparing
  rcases kept with ⟨_, _, not_forwarding, nothing_sent, opening, received, channel⟩
  cases moved with
  | fails status =>
    right; right
    exact ⟨Or.inl ⟨status, rfl⟩, fun stream => ⟨0, preparing.ordered stream⟩⟩
  | subscribes =>
    left
    exact ⟨rfl, fun _ => rfl, not_forwarding, nothing_sent, opening, received, channel⟩
  | takesSender handler_eq | attaches _ _ _ _ handler_eq =>
    left
    have subscribed := preparing.subscribed (by simp [handler_eq])
    exact ⟨rfl, fun _ => subscribed, not_forwarding, nothing_sent, opening, received, channel⟩
  | snapshots nextToken state handler_eq session_eq =>
    right; left
    have numbered := snapshot_numbered cursors_sent nextToken sound preparing
      session_eq (retained nextToken state handler_eq session_eq) (quiet nextToken handler_eq)
    exact ⟨channel, Or.inl ⟨nextToken, _, rfl, opening⟩,
      preparing.subscribed (by simp [handler_eq]), numbered⟩
  | replays _ _ _ handler_eq | acknowledges nextToken handler_eq =>
    exact absurd rfl (preparing.not_late handler_eq)

theorem HandlerMove.not_finished (finished : Finished cursor system) :
    ¬ HandlerMove setting system after := by
  intro moved
  have settled : (∃ status, system.handler = .failed status) ∨ system.handler = .returned ∨
      system.handler = .cancelled := by
    rcases finished.cut with failed | ⟨_, settled⟩
    · exact Or.inl failed
    · exact Or.inr settled
  rcases HandlerMove.running moved with early | ⟨_, _, handler_eq⟩
  · rcases settled with ⟨_, phase_eq⟩ | phase_eq | phase_eq <;>
      simp [phase_eq, HandlerPhase.beforeSnapshot] at early
  · rcases settled with ⟨_, phase_eq⟩ | phase_eq | phase_eq <;> simp [phase_eq] at handler_eq

include cursors_sent holds in
theorem HandlerMove.invariant {freshToken : String}
    (retained : NothingEvicted cursor system (.handler freshToken))
    (quiet : UndisturbedReplay system (.handler freshToken))
    (moved : HandlerMove setting system after) : ResumeInvariant cursor after := by
  refine ⟨HandlerMove.sound holds.1 moved, ?_⟩
  rcases holds.2 with preparing | serving | finished
  · exact HandlerMove.preparing cursors_sent holds.1 preparing retained quiet moved
  · right; left
    exact HandlerMove.serving serving moved
  · exact absurd moved (HandlerMove.not_finished finished)

theorem Serving.finish (serving : Serving cursor system) (channel_eq : after.channelOpen = false)
    (handler_eq : after.handler = .returned ∨ after.handler = .cancelled)
    (client_eq : receivedTags after.client = receivedTags system.client)
    (inFlight_eq : ∃ lost, system.inFlight = after.inFlight ++ lost) :
    Finished cursor after := by
  refine ⟨Or.inr ⟨channel_eq, handler_eq⟩, ?_⟩
  intro stream
  obtain ⟨lost, split_eq⟩ := inFlight_eq
  obtain ⟨_, ordered⟩ := serving.numbered.arrived stream
  have front : arrivedTags system = arrivedTags after ++ lost.flatMap messageTags := by
    simp [arrivedTags, split_eq, client_eq]
  rw [front] at ordered
  exact ordered_front ordered

include holds in
theorem stepCancelRequest_invariant
    (moved : system.stepCancelRequest = some after) : ResumeInvariant cursor after := by
  obtain ⟨_, _, handler_eq, after_eq⟩ := stepCancelRequest_move moved
  subst after_eq
  refine ⟨holds.1.of_same rfl rfl, ?_⟩
  right; right
  rcases holds.2 with preparing | serving | finished
  · exact absurd rfl (preparing.not_late handler_eq)
  · exact serving.finish rfl (Or.inr rfl) rfl ⟨[], by simp⟩
  · exact ⟨Or.inr ⟨rfl, Or.inr rfl⟩, finished.ordered⟩

theorem ForwarderMove.serving (serving : Serving cursor system)
    (undisturbed : UndisturbedReplay system .forwarder)
    (moved : ForwarderMove setting system after) : Serving cursor after := by
  cases moved with
  | receives _ _ forwarder_eq subscription_eq =>
    refine ⟨serving.channel_open, serving.phases, rfl, ?_⟩
    refine serving.numbered.of_same (by rfl) ?_
    intro stream
    simp [arrivedTags, serverTags, forwarder_eq, subscription_eq, forwarderTags, waitingTags,
      messageTags_sessionEventToProto, broadcastTags]
  | lags waiting forwarder_eq subscription_eq =>
    have keeps_up := undisturbed.1 waiting forwarder_eq subscription_eq
    omega
  | closes forwarder_eq =>
    refine ⟨serving.channel_open, serving.phases, serving.subscribed, ?_⟩
    refine serving.numbered.of_same (by rfl) ?_
    intro stream
    simp [arrivedTags, serverTags, forwarder_eq, forwarderTags]
  | sends message forwarder_eq =>
    refine ⟨serving.channel_open, serving.phases, serving.subscribed, ?_⟩
    refine serving.numbered.of_same (by rfl) ?_
    intro stream
    -- The message overtakes the frames still to be replayed, which are of other streams.
    have overtakes : numbers stream (replayTags system.handler) ++
        numbers stream (messageTags message) =
        numbers stream (messageTags message) ++ numbers stream (replayTags system.handler) := by
      by_cases carries : numbers stream (messageTags message) = []
      · simp [carries]
      · obtain ⟨number, carried⟩ := List.exists_mem_of_ne_nil _ carries
        rw [mem_numbers_iff] at carried
        have none_left : numbers stream (replayTags system.handler) = [] := by
          apply numbers_eq_nil_of_forall_ne
          intro tag tag_in
          obtain ⟨frame, frame_in, rfl⟩ := List.mem_map.mp tag_in
          exact undisturbed.2 message forwarder_eq (stream, number) carried frame frame_in
        simp [none_left]
    simp only [arrivedTags, serverTags, forwarder_eq, forwarderTags, List.flatMap_append,
      List.flatMap_cons, List.flatMap_nil, List.append_nil, List.nil_append, numbers_append,
      List.append_assoc]
    rw [← List.append_assoc (numbers stream (messageTags message)), ← overtakes, List.append_assoc]
  | stops _ _ channel_eq =>
    rw [serving.channel_open] at channel_eq
    cases channel_eq

theorem ForwarderMove.frame (moved : ForwarderMove setting system after) :
    after.session = system.session ∧ after.eventLoop = system.eventLoop ∧
      after.handler = system.handler ∧ after.channelOpen = system.channelOpen ∧
      arrivedTags after = arrivedTags system := by
  cases moved <;> exact ⟨rfl, rfl, rfl, rfl, rfl⟩

theorem ForwarderMove.not_idle (idle : system.forwarder = none) :
    ¬ ForwarderMove setting system after := by
  intro moved
  cases moved <;> simp_all

theorem Finished.of_same (finished : Finished cursor system)
    (handler_eq : after.handler = system.handler)
    (channel_eq : after.channelOpen = system.channelOpen)
    (arrived_eq : arrivedTags after = arrivedTags system) : Finished cursor after := by
  refine ⟨?_, ?_⟩
  · rw [handler_eq, channel_eq]
    exact finished.cut
  · rw [arrived_eq]
    exact finished.ordered

include holds in
theorem ForwarderMove.invariant (undisturbed : UndisturbedReplay system .forwarder)
    (moved : ForwarderMove setting system after) : ResumeInvariant cursor after := by
  have frame := ForwarderMove.frame moved
  refine ⟨holds.1.of_same frame.1 frame.2.1, ?_⟩
  rcases holds.2 with preparing | serving | finished
  · exact absurd moved (ForwarderMove.not_idle preparing.not_forwarding)
  · right; left
    exact ForwarderMove.serving serving undisturbed moved
  · right; right
    exact finished.of_same frame.2.2.1 frame.2.2.2.1 frame.2.2.2.2

theorem Finished.not_returned (finished : Finished cursor system)
    (channel_eq : system.channelOpen = true) : system.handler ≠ .returned := by
  intro handler_eq
  rcases finished.cut with ⟨_, failed⟩ | ⟨closed, _⟩
  · rw [handler_eq] at failed
    cases failed
  · rw [channel_eq] at closed
    cases closed

include holds in
theorem stepTransport_invariant
    (moved : system.stepTransport = some after) : ResumeInvariant cursor after := by
  obtain ⟨_, _, handler_eq, channel_eq, queue_eq, after_eq⟩ := stepTransport_move moved
  subst after_eq
  refine ⟨holds.1.of_same rfl rfl, ?_⟩
  rcases holds.2 with preparing | serving | finished
  · exact absurd rfl (preparing.not_late handler_eq)
  · right; left
    refine ⟨serving.channel_open, serving.phases, serving.subscribed, ?_⟩
    refine serving.numbered.of_same (by rfl) ?_
    intro stream
    simp [arrivedTags, serverTags, queue_eq]
  · exact absurd handler_eq (finished.not_returned channel_eq)

include holds in
theorem stepDisconnect_invariant {kept : Nat}
    (moved : system.stepDisconnect kept = some after) : ResumeInvariant cursor after := by
  obtain ⟨handler_eq, channel_eq, after_eq⟩ := stepDisconnect_move moved
  subst after_eq
  refine ⟨holds.1.of_same rfl rfl, ?_⟩
  right; right
  rcases holds.2 with preparing | serving | finished
  · exact absurd rfl (preparing.not_late handler_eq)
  · exact serving.finish rfl (Or.inl handler_eq) rfl
      ⟨system.inFlight.drop kept, (List.take_append_drop kept system.inFlight).symm⟩
  · exact absurd handler_eq (finished.not_returned channel_eq)

/-- A client move that gives up drops what is in flight and closes the channel; every
other one leaves the arrived numbers as they are. -/
theorem ClientMove.arrived (moved : ClientMove setting system after) :
    (arrivedTags after = arrivedTags system ∧ after.channelOpen = system.channelOpen) ∨
      (after.channelOpen = false ∧ ∃ lost, arrivedTags system = arrivedTags after ++ lost) := by
  cases moved with
  | opens | refused => exact Or.inl ⟨rfl, rfl⟩
  | resumes message _ phase_eq arrived =>
    rcases onResumeMessage_received system.client setting.sessionId message phase_eq with
      ⟨text, failed⟩ | ⟨received, going_on⟩
    · right
      rw [failed]
      exact ⟨rfl, system.inFlight.flatMap messageTags,
        by simp [arrivedTags, ResumeSystem.settleClient, ResumingClient.fail, receivedTags]⟩
    · left
      unfold ResumeSystem.settleClient
      split
      · rename_i text failed
        exact absurd failed (going_on text)
      · simp [arrivedTags, received, arrived]
  | aborts _ _ arrived =>
    right
    exact ⟨rfl, [], by
      simp [arrivedTags, ResumeSystem.settleClient, ResumingClient.fail, receivedTags, arrived]⟩
  | takes _ _ _ pending_eq =>
    left
    simp [arrivedTags, receivedTags, ResumingClient.deliver, pending_eq]
  | streams message _ _ pending_eq arrived =>
    left
    simp [arrivedTags, onStreamMessage_received system.client message pending_eq, arrived]
  | ends | breaks => exact Or.inl ⟨rfl, rfl⟩

theorem ClientMove.not_preparing (preparing : Preparing system) :
    ¬ ClientMove setting system after := by
  intro moved
  have early := preparing.early
  have opening := preparing.client_opening
  have channel := preparing.channel_open
  cases moved with
  | opens _ handler_eq => simp [handler_eq, HandlerPhase.beforeSnapshot] at early
  | refused _ _ lost =>
    rcases lost with ⟨_, failed⟩ | closed
    · simp [failed, HandlerPhase.beforeSnapshot] at early
    · simp [closed] at channel
  | _ => simp_all

theorem ClientMove.returned (serving : Serving cursor system)
    (moved : ClientMove setting system after) : system.handler = .returned := by
  rcases serving.phases with ⟨_, _, replaying, _⟩ | returned
  · have channel := serving.channel_open
    cases moved with
    | opens _ handler_eq => exact handler_eq
    | refused _ _ lost =>
      rcases lost with ⟨_, failed⟩ | closed
      · rw [replaying] at failed
        cases failed
      · rw [channel] at closed
        cases closed
    | _ => simp_all
  · exact returned

include holds in
theorem ClientMove.invariant
    (moved : ClientMove setting system after) : ResumeInvariant cursor after := by
  obtain ⟨_, loop_eq, session_eq, subscription_eq, handler_eq, forwarder_eq, queue_eq⟩ :=
    ClientMove.frame moved
  have server_eq : serverTags after = serverTags system := by
    simp [serverTags, loop_eq, subscription_eq, handler_eq, forwarder_eq, queue_eq]
  refine ⟨holds.1.of_same session_eq loop_eq, ?_⟩
  rcases holds.2 with preparing | serving | finished
  · exact absurd moved (ClientMove.not_preparing preparing)
  · have returned := handler_eq.trans (ClientMove.returned serving moved)
    rcases ClientMove.arrived moved with ⟨arrived_eq, channel_eq⟩ | ⟨closed, _, split_eq⟩
    · right; left
      refine ⟨channel_eq.trans serving.channel_open, Or.inr returned, ?_, ?_⟩
      · rw [subscription_eq]
        exact serving.subscribed
      · refine serving.numbered.of_same session_eq ?_
        intro stream
        rw [arrived_eq, server_eq]
    · right; right
      refine ⟨Or.inr ⟨closed, Or.inl returned⟩, ?_⟩
      intro stream
      obtain ⟨_, ordered⟩ := serving.numbered.arrived stream
      rw [split_eq] at ordered
      exact ordered_front ordered
  · right; right
    rcases ClientMove.arrived moved with ⟨arrived_eq, channel_eq⟩ | ⟨closed, _, split_eq⟩
    · exact finished.of_same handler_eq channel_eq arrived_eq
    · refine ⟨?_, ?_⟩
      · rw [handler_eq]
        rcases finished.cut with failed | ⟨_, settled⟩
        · exact Or.inl failed
        · exact Or.inr ⟨closed, settled⟩
      · intro stream
        obtain ⟨_, ordered⟩ := finished.ordered stream
        rw [split_eq] at ordered
        exact ordered_front ordered

include cursors_sent holds in
theorem stepResume_invariant (retained : NothingEvicted cursor system action)
    (undisturbed : UndisturbedReplay system action)
    (moved : stepResume setting system action = some after) : ResumeInvariant cursor after := by
  cases action with
  | eventLoop => exact EventLoopMove.invariant holds (stepEventLoop_move moved)
  | capabilityExit => exact stepCapabilityExit_invariant holds moved
  | handler =>
    exact HandlerMove.invariant cursors_sent holds retained undisturbed (stepHandler_move moved)
  | cancelRequest => exact stepCancelRequest_invariant holds moved
  | forwarder => exact ForwarderMove.invariant holds undisturbed (stepForwarder_move moved)
  | transport => exact stepTransport_invariant holds moved
  | client => exact ClientMove.invariant holds (stepClient_move moved)
  | disconnect => exact stepDisconnect_invariant holds moved

theorem ResumeStart.invariant (starts : ResumeStart setting cursor system) :
    ResumeInvariant cursor system := by
  obtain ⟨state, session_eq, reachable, known⟩ := starts.session_reachable
  refine ⟨⟨fun _ => ⟨state, session_eq⟩, ?_, ?_⟩, Or.inl ?_⟩
  · intro other other_eq
    rw [session_eq] at other_eq
    cases other_eq
    exact reachable.wellSequenced
  · intro other other_eq
    rw [session_eq] at other_eq
    cases other_eq
    exact known
  · refine ⟨?_, ?_, starts.not_forwarding, ⟨starts.channel_new.1, starts.channel_new.2.1⟩,
      starts.client_opening.1, ?_, starts.channel_new.2.2⟩
    · rw [starts.handler_starting]
      rfl
    · intro moved_on
      exact absurd starts.handler_starting moved_on
    · simp [receivedTags, starts.client_opening.2.1, starts.client_opening.2.2]

include holds in
theorem ResumeInvariant.arrived (stream : OutputStream) :
    ∃ size, numbers stream (arrivedTags system) = List.range' (cursor stream + 1) size := by
  rcases holds.2 with preparing | serving | finished
  · exact ⟨0, preparing.ordered stream⟩
  · exact serving.numbered.arrived stream
  · exact finished.ordered stream

include holds in
theorem ResumeInvariant.observed (stream : OutputStream) :
    observedNumbers stream system =
      List.range' (cursor stream + 1) (observedNumbers stream system).length := by
  obtain ⟨_, ordered⟩ := holds.arrived stream
  have split_eq : arrivedTags system = system.client.delivered.flatMap clientEventTags ++
      (system.client.pendingEvents.flatMap clientEventTags ++
        system.inFlight.flatMap messageTags) := by
    simp [arrivedTags, receivedTags]
  rw [split_eq, numbers_append] at ordered
  exact range_of_append ordered

end

/-- In every resume in which nothing after the cursors was evicted and no live output is mixed into
the replay, the client observes of each stream exactly `cursor + 1, cursor + 2, ...`, in this order.
-/
theorem resumed_output_in_order (setting : ResumeSetting) (cursor : OutputStream → Nat)
    (start final : ResumeSystem) (starts : ResumeStart setting cursor start)
    (run : Reaches (stepResume setting) (fun system action =>
        NothingEvicted cursor system action ∧ UndisturbedReplay system action) start final) :
    ∀ stream, observedNumbers stream final =
      List.range' (cursor stream + 1) (observedNumbers stream final).length := by
  have holds : ResumeInvariant cursor final := by
    apply run.invariant starts.invariant
    intro before action after holds permitted moved
    exact stepResume_invariant starts.cursors_sent holds permitted.1 permitted.2 moved
  intro stream
  exact holds.observed stream

def printedByte : SessionServerEvent := .output [65] false false none

theorem newcomerStart_starts (script : List SessionServerEvent) :
    ResumeStart newcomerSetting (fun _ => 0) (newcomerStart script) := by
  refine ⟨⟨rfl, rfl⟩, ⟨_, rfl, .opened defaultOutputBufferCapacity "token", ?_⟩,
    by simp [newcomerStart], rfl, rfl, ⟨rfl, rfl, rfl⟩, ⟨rfl, rfl, rfl⟩⟩
  intro stream
  cases stream <;> decide

def quietActions : List ResumeAction :=
  [.eventLoop, .eventLoop, .eventLoop, .handler "next", .handler "next", .handler "next",
    .handler "next", .handler "next", .handler "next", .eventLoop, .eventLoop, .eventLoop,
    .forwarder, .forwarder, .transport, .transport, .transport, .client, .client, .client,
    .client, .client]

theorem quiet_resume_in_order :
    ∃ final, observedNumbers .stdout final = [1, 2] ∧
      ∀ stream, observedNumbers stream final =
        List.range' (0 + 1) (observedNumbers stream final).length := by
  obtain ⟨final, run, observed⟩ : ∃ final, Reaches (stepResume newcomerSetting)
      (fun system action => KeepsAll system ∧ UndisturbedReplay system action)
      (newcomerStart [printedByte, printedByte]) final ∧ observedNumbers .stdout final = [1, 2] :=
    reaches_of_evaluated quietActions (by decide)
  refine ⟨final, observed, ?_⟩
  apply resumed_output_in_order newcomerSetting (fun _ => 0) _ final (newcomerStart_starts _)
  exact run.weaken fun _ _ permitted => ⟨permitted.1.nothingEvicted, permitted.2⟩

/-- The output is recorded and broadcast between the handler's subscription and its look
at the replay buffer. -/
def overlappingActions : List ResumeAction :=
  [.handler "next", .eventLoop, .eventLoop, .eventLoop, .handler "next", .handler "next",
    .handler "next", .handler "next", .handler "next", .forwarder, .forwarder, .transport,
    .transport, .transport, .client, .client, .client, .client, .client]

/-- Without the condition on live output, a client can observe the same output twice. -/
theorem overlapping_resume_repeats_output :
    ∃ final, ResumeStart newcomerSetting (fun _ => 0) (newcomerStart [printedByte]) ∧
      Reaches (stepResume newcomerSetting) (NothingEvicted fun _ => 0)
        (newcomerStart [printedByte]) final ∧
      observedNumbers .stdout final = [1, 1] := by
  obtain ⟨final, run, observed⟩ : ∃ final, Reaches (stepResume newcomerSetting)
      (fun system _ => KeepsAll system) (newcomerStart [printedByte]) final ∧
        observedNumbers .stdout final = [1, 1] :=
    reaches_of_evaluated overlappingActions (by decide)
  exact ⟨final, newcomerStart_starts _, run.weaken fun _ _ => KeepsAll.nothingEvicted, observed⟩

end HandControl.ResumeOrdering
