import HandControl.ResumeOrdering

/-!
# What a resume puts into the response stream

A resume with its history: the recorded events, the session when the handler read the replay buffer,
and every message put into the response channel, with the task that put it there. The documentation
promises the buffered frames, then one acknowledgement, then live events. Two tasks write to the
channel, so the promise depends on their order.
-/

namespace HandControl.ResumeTranscript

open CapabilitySessions SessionResume ResumeOrdering TransitionRuns

inductive Producer where
  | handler
  | forwarder
deriving DecidableEq

abbrev RecordedEvent := SessionServerEvent × Option BufferedOutput

structure ReplaySnapshot where
  state : SessionState
  recordedBefore : Nat
deriving DecidableEq

structure Transcript where
  system : ResumeSystem
  recorded : List RecordedEvent
  snapshot : Option ReplaySnapshot
  sent : List (Producer × SessionServerMessage)
deriving DecidableEq

def newlyRecorded (before after : ResumeSystem) : List RecordedEvent :=
  match before.eventLoop, after.eventLoop with
  | .receiving, .recorded event bufferedOutput => [(event, bufferedOutput)]
  | _, _ => []

def snapshotAfter (transcript : Transcript) (after : ResumeSystem) : Option ReplaySnapshot :=
  match transcript.system.handler, after.handler, transcript.system.session with
  | .attached _, .replaying _ _, some state => some ⟨state, transcript.recorded.length⟩
  | _, _, _ => transcript.snapshot

/-- A sender appends to the queue, so what a step put there is what follows the old
messages. -/
def newlySent (before after : ResumeSystem) :
    ResumeAction → List (Producer × SessionServerMessage)
  | .handler _ =>
    (after.queue.drop before.queue.length).map fun message => (.handler, message)
  | .forwarder =>
    (after.queue.drop before.queue.length).map fun message => (.forwarder, message)
  | _ => []

def Transcript.extend (transcript : Transcript) (after : ResumeSystem)
    (action : ResumeAction) : Transcript where
  system := after
  recorded := transcript.recorded ++ newlyRecorded transcript.system after
  snapshot := snapshotAfter transcript after
  sent := transcript.sent ++ newlySent transcript.system after action

def stepTranscript (setting : ResumeSetting) (transcript : Transcript)
    (action : ResumeAction) : Option Transcript :=
  (stepResume setting transcript.system action).map fun after =>
    transcript.extend after action

def replayOf (setting : ResumeSetting) (state : SessionState) : List SessionServerMessage :=
  (state.outputsSince setting.lastOutputSequence setting.lastErrorSequence).map
    (replayMessage setting)

def Carries (setting : ResumeSetting) (recorded : RecordedEvent)
    (message : SessionServerMessage) : Prop :=
  ∃ resumeToken, message = sessionEventToProto setting recorded.1 recorded.2 resumeToken

/-- Messages that carry, in their order, some of the events recorded after the first
`before` ones. -/
def CarriesLater (setting : ResumeSetting) (live : List SessionServerMessage) (before : Nat)
    (recorded : List RecordedEvent) : Prop :=
  ∃ events, List.Forall₂ (Carries setting) events live ∧
    events.Sublist (recorded.drop before)

/-- The response stream holds the selected frames in record order, then one acknowledgement, then
only events recorded after the buffer was read. Before the acknowledgement it holds a first part of
the frames. -/
def ReplayThenLive (setting : ResumeSetting) (transcript : Transcript) : Prop :=
  match transcript.snapshot with
  | none => transcript.sent = []
  | some snapshot =>
    (transcript.sent.map Prod.snd <+: replayOf setting snapshot.state) ∨
      ∃ nextToken live,
        transcript.sent.map Prod.snd =
          replayOf setting snapshot.state ++ resumeAckMessage setting nextToken :: live ∧
        CarriesLater setting live snapshot.recordedBefore transcript.recorded

def heldByLoop : LoopPhase → List RecordedEvent
  | .recorded event bufferedOutput => [(event, bufferedOutput)]
  | .publishing broadcast => [(broadcast.event, broadcast.bufferedOutput)]
  | _ => []

def waitingEvents (subscription : Option (List SessionBroadcastEvent)) : List RecordedEvent :=
  (subscription.getD []).map fun broadcast => (broadcast.event, broadcast.bufferedOutput)

/-- When the handler reads the replay buffer, no recorded event is on its way to the
forwarder, and the forwarder puts nothing into the channel while the handler replays. -/
def ReplayAlone (system : ResumeSystem) : ResumeAction → Prop
  | .handler _ =>
    ∀ nextToken, system.handler = .attached nextToken →
      waitingEvents system.subscription = [] ∧ heldByLoop system.eventLoop = []
  | .forwarder =>
    ∀ message, system.forwarder = some (.sending message) →
      ∀ nextToken remaining, system.handler ≠ .replaying nextToken remaining
  | _ => True

variable {system : ResumeSystem} {action : ResumeAction} {live : List SessionServerMessage}
variable {later : List RecordedEvent} {snapshot : ReplaySnapshot} {freshToken nextToken : String}
variable {remaining : List BufferedOutput}

instance : Decidable (ReplayAlone system action) := by
  rcases action
  case handler =>
    exact decidable_of_iff ((system.handler matches .attached _) = true →
      waitingEvents system.subscription = [] ∧ heldByLoop system.eventLoop = [])
      (by cases handler_eq : system.handler <;> simp [ReplayAlone, handler_eq])
  case forwarder =>
    exact decidable_of_iff (¬ ((system.forwarder matches some (.sending _)) = true ∧
      (system.handler matches .replaying _ _) = true))
      (by
        rcases forwarder_eq : system.forwarder with _ | _ | _ | _ <;>
          cases handler_eq : system.handler <;> simp [ReplayAlone, forwarder_eq, handler_eq])
  all_goals exact isTrue trivial

open Transcript

section

variable {setting : ResumeSetting} {transcript next : Transcript} {after : ResumeSystem}

def heldByForwarder : Option ForwarderPhase → List SessionServerMessage
  | some (.sending message) => [message]
  | _ => []

/-- What the forwarder sent and holds, and then what waits for it, are events recorded
after the replay buffer was read, in their order. -/
def Flowing (setting : ResumeSetting) (system : ResumeSystem) (live : List SessionServerMessage)
    (later : List RecordedEvent) : Prop :=
  ∃ events, List.Forall₂ (Carries setting) events (live ++ heldByForwarder system.forwarder) ∧
    (events ++ (waitingEvents system.subscription ++ heldByLoop system.eventLoop)).Sublist later

/-- The handler has not read the replay buffer, or it failed before. -/
structure Quiet (transcript : Transcript) : Prop where
  handler_early : transcript.system.handler.beforeSnapshot = true ∨
    ∃ status, transcript.system.handler = .failed status
  not_forwarding : transcript.system.forwarder = none
  no_snapshot : transcript.snapshot = none
  nothing_sent : transcript.sent = []

/-- The handler sends the frames, and the forwarder waits. -/
structure Replaying (setting : ResumeSetting) (transcript : Transcript)
    (snapshot : ReplaySnapshot) : Prop where
  progress : ∃ nextToken sentFrames remaining,
    transcript.system.handler = .replaying nextToken remaining ∧
    snapshot.state.outputsSince setting.lastOutputSequence setting.lastErrorSequence =
      sentFrames ++ remaining ∧
    transcript.sent.map Prod.snd = sentFrames.map (replayMessage setting)
  flowing : Flowing setting transcript.system [] (transcript.recorded.drop snapshot.recordedBefore)

/-- The acknowledgement was sent, and live events follow it. -/
structure Acknowledged (setting : ResumeSetting) (transcript : Transcript)
    (snapshot : ReplaySnapshot) : Prop where
  returned : transcript.system.handler = .returned
  ordered : ∃ nextToken live, transcript.sent.map Prod.snd =
      replayOf setting snapshot.state ++ resumeAckMessage setting nextToken :: live ∧
    Flowing setting transcript.system live (transcript.recorded.drop snapshot.recordedBefore)

/-- The request was cancelled during the replay. -/
structure Cancelled (setting : ResumeSetting) (transcript : Transcript)
    (snapshot : ReplaySnapshot) : Prop where
  cancelled : transcript.system.handler = .cancelled
  closed : transcript.system.channelOpen = false
  partly : transcript.sent.map Prod.snd <+: replayOf setting snapshot.state

def TranscriptInvariant (setting : ResumeSetting) (transcript : Transcript) : Prop :=
  Quiet transcript ∨
    ∃ snapshot, transcript.snapshot = some snapshot ∧
      snapshot.recordedBefore ≤ transcript.recorded.length ∧
      (Replaying setting transcript snapshot ∨ Acknowledged setting transcript snapshot ∨
        Cancelled setting transcript snapshot)

theorem newlyRecorded_same {before after : ResumeSystem}
    (loop_eq : after.eventLoop = before.eventLoop) : newlyRecorded before after = [] := by
  unfold newlyRecorded
  rw [loop_eq]
  cases before.eventLoop <;> rfl

theorem snapshotAfter_same (handler_eq : after.handler = transcript.system.handler) :
    snapshotAfter transcript after = transcript.snapshot := by
  unfold snapshotAfter
  rw [handler_eq]
  cases transcript.system.handler <;> rfl

/-- Everything that a step other than one of the handler or a send leaves as it is. The
events on their way stay events recorded after the replay buffer was read. -/
structure Background (setting : ResumeSetting) (transcript next : Transcript) : Prop where
  handler_eq : next.system.handler = transcript.system.handler
  snapshot_eq : next.snapshot = transcript.snapshot
  sent_eq : next.sent = transcript.sent
  idle : transcript.system.forwarder = none → next.system.forwarder = none
  closed : transcript.system.channelOpen = false → next.system.channelOpen = false
  recorded_le : transcript.recorded.length ≤ next.recorded.length
  flowing : ∀ live before, before ≤ transcript.recorded.length →
    Flowing setting transcript.system live (transcript.recorded.drop before) →
      Flowing setting next.system live (next.recorded.drop before)

theorem Background.invariant (background : Background setting transcript next)
    (holds : TranscriptInvariant setting transcript) : TranscriptInvariant setting next := by
  rcases holds with quiet | ⟨snapshot, snapshot_eq, bound, phase⟩
  · left
    refine ⟨?_, background.idle quiet.not_forwarding, ?_, ?_⟩
    · rw [background.handler_eq]
      exact quiet.handler_early
    · rw [background.snapshot_eq, quiet.no_snapshot]
    · rw [background.sent_eq, quiet.nothing_sent]
  · right
    refine ⟨snapshot, background.snapshot_eq.trans snapshot_eq,
      bound.trans background.recorded_le, ?_⟩
    rcases phase with replaying | acknowledged | cancelled
    · left
      refine ⟨?_, background.flowing [] _ bound replaying.flowing⟩
      rw [background.handler_eq, background.sent_eq]
      exact replaying.progress
    · right; left
      refine ⟨background.handler_eq.trans acknowledged.returned, ?_⟩
      obtain ⟨nextToken, live, sent_eq, flowing⟩ := acknowledged.ordered
      rw [background.sent_eq]
      exact ⟨nextToken, live, sent_eq, background.flowing live _ bound flowing⟩
    · right; right
      refine ⟨background.handler_eq.trans cancelled.cancelled,
        background.closed cancelled.closed, ?_⟩
      rw [background.sent_eq]
      exact cancelled.partly

theorem Flowing.of_same {after : ResumeSystem} (flowing : Flowing setting system live later)
    (forwarder_eq : after.forwarder = system.forwarder)
    (subscription_eq : after.subscription = system.subscription)
    (loop_eq : after.eventLoop = system.eventLoop) : Flowing setting after live later := by
  unfold Flowing
  rw [forwarder_eq, subscription_eq, loop_eq]
  exact flowing

/-- An event enters at the loop and moves on to the subscription. -/
theorem EventLoopMove.flowing {after : ResumeSystem} (flowing : Flowing setting system live later)
    (moved : EventLoopMove system after) :
    Flowing setting after live (later ++ newlyRecorded system after) := by
  obtain ⟨events, carried, kept⟩ := flowing
  refine ⟨events, ?_, ?_⟩
  · cases moved <;> exact carried
  · cases moved with
    | records event _ state loop_eq =>
      rw [loop_eq] at kept
      have longer := kept.append_right [(event, (state.recordServerEvent event).1)]
      simpa [heldByLoop, newlyRecorded, loop_eq] using longer
    | skips event _ loop_eq =>
      rw [loop_eq] at kept
      have longer := kept.append_right [(event, none)]
      simpa [heldByLoop, newlyRecorded, loop_eq] using longer
    | prepares _ _ _ loop_eq | removes loop_eq =>
      rw [loop_eq] at kept
      simpa [heldByLoop, newlyRecorded, loop_eq] using kept
    | publishes broadcast loop_eq =>
      rw [loop_eq] at kept
      have silent : heldByLoop (if broadcast.event.isClosed then .removing else .receiving) =
          [] := by
        split <;> rfl
      simp only [newlyRecorded, loop_eq, List.append_nil, silent]
      cases subscription_eq : system.subscription with
      | none =>
        rw [subscription_eq] at kept
        simp only [waitingEvents, Option.map_none, Option.getD_none, List.map_nil,
          List.append_nil, List.nil_append] at kept ⊢
        exact (List.sublist_append_left events _).trans kept
      | some =>
        rw [subscription_eq] at kept
        simpa [waitingEvents, heldByLoop] using kept

theorem EventLoopMove.background (moved : EventLoopMove transcript.system after) :
    Background setting transcript (transcript.extend after .eventLoop) := by
  have handler_eq : after.handler = transcript.system.handler := by cases moved <;> rfl
  refine ⟨handler_eq, snapshotAfter_same handler_eq, ?_, ?_, ?_, ?_, ?_⟩
  · simp [extend, newlySent]
  · intro idle
    cases moved <;> exact idle
  · intro closed
    cases moved <;> exact closed
  · simp [extend]
  · intro live before bound flowing
    simp only [extend]
    rw [List.drop_append_of_le_length bound]
    exact EventLoopMove.flowing flowing moved

theorem stepCapabilityExit_background (moved : transcript.system.stepCapabilityExit = some after) :
    Background setting transcript (transcript.extend after .capabilityExit) := by
  obtain ⟨loop_eq, _, after_eq⟩ := stepCapabilityExit_move moved
  subst after_eq
  refine ⟨rfl, snapshotAfter_same rfl, ?_, ?_, ?_, ?_, ?_⟩
  · simp [extend, newlySent]
  · exact fun idle => idle
  · exact fun closed => closed
  · simp [extend]
  · intro live before _ flowing
    obtain ⟨events, carried, kept⟩ := flowing
    refine ⟨events, carried, ?_⟩
    simpa [extend, newlyRecorded, loop_eq, heldByLoop] using kept

/-- A step that leaves the loop and the handler as they are and sends nothing is judged by
what it does to the events on their way. -/
theorem background_of_quiet_step (handler_eq : after.handler = transcript.system.handler)
    (loop_eq : after.eventLoop = transcript.system.eventLoop)
    (unsent : newlySent transcript.system after action = [])
    (idle : transcript.system.forwarder = none → after.forwarder = none)
    (closed : transcript.system.channelOpen = false → after.channelOpen = false)
    (flowing : ∀ live later, Flowing setting transcript.system live later →
      Flowing setting after live later) :
    Background setting transcript (transcript.extend after action) := by
  refine ⟨handler_eq, snapshotAfter_same handler_eq, ?_, idle, closed, ?_, ?_⟩
  · simp [extend, unsent]
  · simp [extend]
  · intro live before _ current
    simp only [extend]
    rw [newlyRecorded_same loop_eq, List.append_nil]
    exact flowing live _ current

/-- The forwarder takes an event from its subscription, loses some, or gives up the one
it holds. -/
theorem ForwarderMove.flowing {after : ResumeSystem} (flowing : Flowing setting system live later)
    (moved : ForwarderMove setting system after) (unsent : after.queue = system.queue) :
    Flowing setting after live later := by
  obtain ⟨events, carried, kept⟩ := flowing
  cases moved with
  | receives broadcast _ forwarder_eq subscription_eq =>
    simp only [forwarder_eq, heldByForwarder, List.append_nil] at carried
    rw [subscription_eq] at kept
    refine ⟨events ++ [(broadcast.event, broadcast.bufferedOutput)], ?_, ?_⟩
    · have carries : Carries setting (broadcast.event, broadcast.bufferedOutput)
          (sessionEventToProto setting broadcast.event broadcast.bufferedOutput
            broadcast.resumeToken) := ⟨broadcast.resumeToken, rfl⟩
      exact List.rel_append carried (List.Forall₂.cons carries List.Forall₂.nil)
    · simpa [waitingEvents] using kept
  | lags waiting _ subscription_eq =>
    rw [subscription_eq] at kept
    refine ⟨events, carried, ?_⟩
    have fewer : ∀ count, (waitingEvents (some (waiting.drop count))).Sublist
        (waitingEvents (some waiting)) := by
      intro count
      exact (List.drop_sublist count waiting).map _
    exact (((fewer _).append_right _).append_left events).trans kept
  | closes forwarder_eq =>
    refine ⟨events, ?_, kept⟩
    simpa [forwarder_eq, heldByForwarder] using carried
  | sends => simp at unsent
  | stops message forwarder_eq =>
    rw [forwarder_eq] at carried
    refine ⟨events.take live.length, ?_, ?_⟩
    · have front := List.forall₂_take_append events live [message] carried
      simpa [heldByForwarder] using front
    · exact ((List.take_sublist live.length events).append_right _).trans kept

theorem ForwarderMove.background (moved : ForwarderMove setting transcript.system after)
    (unsent : after.queue = transcript.system.queue) :
    Background setting transcript (transcript.extend after .forwarder) := by
  have frame := ForwarderMove.frame moved
  apply background_of_quiet_step
  · exact frame.2.2.1
  · exact frame.2.1
  · simp [newlySent, unsent]
  · intro idle
    exact absurd moved (ForwarderMove.not_idle idle)
  · intro closed
    exact frame.2.2.2.1.trans closed
  · intro live later flowing
    exact ForwarderMove.flowing flowing moved unsent

theorem Acknowledged.sends {message : SessionServerMessage}
    (acknowledged : Acknowledged setting transcript snapshot)
    (forwarder_eq : transcript.system.forwarder = some (.sending message)) :
    Acknowledged setting (transcript.extend
        { transcript.system with
          queue := transcript.system.queue ++ [message], forwarder := some .receiving }
        .forwarder) snapshot := by
  refine ⟨acknowledged.returned, ?_⟩
  obtain ⟨nextToken, live, sent_eq, events, carried, kept⟩ := acknowledged.ordered
  rw [forwarder_eq] at carried
  refine ⟨nextToken, live ++ [message], ?_, events, ?_, ?_⟩
  · simp [extend, newlySent, sent_eq]
  · simpa [extend, heldByForwarder] using carried
  · simpa [extend, newlyRecorded_same] using kept

theorem ForwarderMove.extend_invariant (holds : TranscriptInvariant setting transcript)
    (alone : ReplayAlone transcript.system .forwarder)
    (moved : ForwarderMove setting transcript.system after) :
    TranscriptInvariant setting (transcript.extend after .forwarder) := by
  by_cases unsent : after.queue = transcript.system.queue
  · exact (ForwarderMove.background moved unsent).invariant holds
  · cases moved with
    | sends message forwarder_eq channel_eq =>
      rcases holds with quiet | ⟨snapshot, snapshot_eq, bound, phase⟩
      · rw [quiet.not_forwarding] at forwarder_eq
        cases forwarder_eq
      · right
        refine ⟨snapshot, (snapshotAfter_same rfl).trans snapshot_eq, ?_, ?_⟩
        · simpa [extend] using Nat.le_add_right_of_le bound
        · rcases phase with replaying | acknowledged | cancelled
          · obtain ⟨nextToken, _, remaining, handler_eq, _⟩ := replaying.progress
            exact absurd handler_eq (alone message forwarder_eq nextToken remaining)
          · exact Or.inr (Or.inl (acknowledged.sends forwarder_eq))
          · rw [cancelled.closed] at channel_eq
            cases channel_eq
    | _ => exact absurd rfl unsent

theorem newlySent_handler_same (queue_eq : after.queue = transcript.system.queue) :
    newlySent transcript.system after (.handler freshToken) = [] := by
  simp [newlySent, queue_eq]

theorem Quiet.prepares (quiet : Quiet transcript)
    (handler_eq : after.handler.beforeSnapshot = true ∨ ∃ status, after.handler = .failed status)
    (forwarder_eq : after.forwarder = transcript.system.forwarder)
    (queue_eq : after.queue = transcript.system.queue) :
    Quiet (transcript.extend after (.handler freshToken)) := by
  refine ⟨handler_eq, forwarder_eq.trans quiet.not_forwarding, ?_, ?_⟩
  · simp only [extend, snapshotAfter]
    split
    · rename_i handler_now _
      rcases handler_eq with early | ⟨_, failed⟩
      · simp [handler_now, HandlerPhase.beforeSnapshot] at early
      · simp [handler_now] at failed
    · exact quiet.no_snapshot
  · simp [extend, newlySent_handler_same queue_eq, quiet.nothing_sent]

theorem Quiet.snapshots (quiet : Quiet transcript) {state : SessionState}
    (handler_eq : transcript.system.handler = .attached nextToken)
    (session_eq : transcript.system.session = some state)
    (silent : waitingEvents transcript.system.subscription = [] ∧
      heldByLoop transcript.system.eventLoop = []) :
    TranscriptInvariant setting (transcript.extend
        { transcript.system with
          handler := .replaying nextToken
            (state.outputsSince setting.lastOutputSequence setting.lastErrorSequence)
          forwarder := some .receiving }
        (.handler freshToken)) := by
  right
  refine ⟨⟨state, transcript.recorded.length⟩, ?_, ?_, Or.inl ⟨?_, ?_⟩⟩
  · simp [extend, snapshotAfter, handler_eq, session_eq]
  · simp [extend]
  · refine ⟨nextToken, [], _, rfl, rfl, ?_⟩
    simp [extend, newlySent, quiet.nothing_sent]
  · refine ⟨[], ?_, ?_⟩
    · simp [extend, heldByForwarder]
    · simp [extend, silent.1, silent.2]

theorem Replaying.replays {frame : BufferedOutput}
    (replaying : Replaying setting transcript snapshot)
    (handler_eq : transcript.system.handler = .replaying nextToken (frame :: remaining)) :
    Replaying setting (transcript.extend
        { transcript.system with
          queue := transcript.system.queue ++ [replayMessage setting frame]
          handler := .replaying nextToken remaining }
        (.handler freshToken)) snapshot := by
  obtain ⟨_, sentFrames, _, left_eq, frames_eq, sent_eq⟩ := replaying.progress
  rw [handler_eq] at left_eq
  cases left_eq
  refine ⟨⟨nextToken, sentFrames ++ [frame], remaining, rfl, ?_, ?_⟩, ?_⟩
  · rw [frames_eq, List.append_assoc]
    rfl
  · simp [extend, newlySent, sent_eq]
  · obtain ⟨events, carried, kept⟩ := replaying.flowing
    exact ⟨events, carried, by simpa [extend, newlyRecorded_same] using kept⟩

theorem Replaying.acknowledges (replaying : Replaying setting transcript snapshot)
    (handler_eq : transcript.system.handler = .replaying nextToken []) :
    Acknowledged setting (transcript.extend
        { transcript.system with
          queue := transcript.system.queue ++ [resumeAckMessage setting nextToken]
          handler := .returned }
        (.handler freshToken)) snapshot := by
  obtain ⟨_, _, _, left_eq, frames_eq, sent_eq⟩ := replaying.progress
  rw [handler_eq] at left_eq
  cases left_eq
  rw [List.append_nil] at frames_eq
  refine ⟨rfl, nextToken, [], ?_, ?_⟩
  · simp [extend, newlySent, sent_eq, replayOf, frames_eq]
  · obtain ⟨events, carried, kept⟩ := replaying.flowing
    exact ⟨events, carried, by simpa [extend, newlyRecorded_same] using kept⟩

theorem snapshotAfter_late
    (handler_eq : transcript.system.handler = .replaying nextToken remaining) :
    snapshotAfter transcript after = transcript.snapshot := by
  unfold snapshotAfter
  rw [handler_eq]

theorem replaying_of_handlerMove
    (phase : Replaying setting transcript snapshot ∨ Acknowledged setting transcript snapshot ∨
      Cancelled setting transcript snapshot) (moved : HandlerMove setting transcript.system after) :
    Replaying setting transcript snapshot := by
  have running := HandlerMove.running moved
  rcases phase with replaying | acknowledged | cancelled
  · exact replaying
  · simp [acknowledged.returned, HandlerPhase.beforeSnapshot] at running
  · simp [cancelled.cancelled, HandlerPhase.beforeSnapshot] at running

section

variable (holds : TranscriptInvariant setting transcript)

include holds

theorem HandlerMove.extend_invariant (alone : ReplayAlone transcript.system (.handler freshToken))
    (moved : HandlerMove setting transcript.system after) :
    TranscriptInvariant setting (transcript.extend after (.handler freshToken)) := by
  rcases holds with quiet | ⟨snapshot, snapshot_eq, bound, phase⟩
  · have early : transcript.system.handler.beforeSnapshot = true := by
      rcases quiet.handler_early with early | ⟨_, failed⟩
      · exact early
      · rcases HandlerMove.running moved with early | ⟨_, _, handler_eq⟩
        · exact early
        · rw [failed] at handler_eq
          cases handler_eq
    cases moved with
    | fails status => exact Or.inl (quiet.prepares (Or.inr ⟨status, rfl⟩) rfl rfl)
    | subscribes | takesSender | attaches => exact Or.inl (quiet.prepares (Or.inl rfl) rfl rfl)
    | snapshots nextToken _ handler_eq session_eq =>
      exact quiet.snapshots handler_eq session_eq (alone nextToken handler_eq)
    | replays _ _ _ handler_eq | acknowledges nextToken handler_eq =>
      simp [handler_eq, HandlerPhase.beforeSnapshot] at early
  · right
    have replaying := replaying_of_handlerMove phase moved
    obtain ⟨_, _, _, phase_eq, _⟩ := replaying.progress
    refine ⟨snapshot, (snapshotAfter_late phase_eq).trans snapshot_eq, ?_, ?_⟩
    · simpa [extend] using Nat.le_add_right_of_le bound
    rcases HandlerMove.of_replaying moved phase_eq with
      ⟨frame, remaining, left_eq, after_eq⟩ | ⟨left_eq, after_eq⟩
    · subst left_eq after_eq
      exact Or.inl (replaying.replays phase_eq)
    · subst left_eq after_eq
      exact Or.inr (Or.inl (replaying.acknowledges phase_eq))

theorem stepCancelRequest_extend_invariant
    (moved : transcript.system.stepCancelRequest = some after) :
    TranscriptInvariant setting (transcript.extend after .cancelRequest) := by
  obtain ⟨_, _, handler_eq, after_eq⟩ := stepCancelRequest_move moved
  rcases holds with quiet | ⟨snapshot, snapshot_eq, bound, phase⟩
  · rcases quiet.handler_early with early | ⟨_, failed⟩
    · simp [handler_eq, HandlerPhase.beforeSnapshot] at early
    · simp [handler_eq] at failed
  · right
    refine ⟨snapshot, (snapshotAfter_late handler_eq).trans snapshot_eq, ?_, ?_⟩
    · simpa [extend] using Nat.le_add_right_of_le bound
    rcases phase with replaying | acknowledged | cancelled
    · right; right
      obtain ⟨_, _, left, _, frames_eq, sent_eq⟩ := replaying.progress
      refine ⟨by rw [extend, after_eq], by rw [extend, after_eq], ?_⟩
      refine ⟨left.map (replayMessage setting), ?_⟩
      simp [extend, newlySent, sent_eq, replayOf, frames_eq]
    · have returned := acknowledged.returned
      simp [handler_eq] at returned
    · have gone := cancelled.cancelled
      simp [handler_eq] at gone

theorem stepTranscript_invariant (alone : ReplayAlone transcript.system action)
    (moved : stepTranscript setting transcript action = some next) :
    TranscriptInvariant setting next := by
  obtain ⟨_, stepped, next_eq⟩ := Option.map_eq_some_iff.mp moved
  subst next_eq
  cases action with
  | eventLoop => exact (EventLoopMove.background (stepEventLoop_move stepped)).invariant holds
  | capabilityExit => exact (stepCapabilityExit_background stepped).invariant holds
  | handler => exact HandlerMove.extend_invariant holds alone (stepHandler_move stepped)
  | cancelRequest => exact stepCancelRequest_extend_invariant holds stepped
  | forwarder => exact ForwarderMove.extend_invariant holds alone (stepForwarder_move stepped)
  | transport =>
    obtain ⟨message, queue, handler_eq, channel_eq, queue_eq, after_eq⟩ :=
      stepTransport_move stepped
    subst after_eq
    refine Background.invariant (background_of_quiet_step rfl rfl rfl ?_ ?_ ?_) holds
    · exact fun idle => idle
    · exact fun closed => closed
    · exact fun live later flowing => flowing.of_same rfl rfl rfl
  | client =>
    have moved := stepClient_move stepped
    obtain ⟨_, loop_eq, _, subscription_eq, handler_eq, forwarder_eq, _⟩ :=
      ClientMove.frame moved
    refine Background.invariant (background_of_quiet_step handler_eq loop_eq rfl ?_ ?_ ?_) holds
    · exact fun idle => forwarder_eq.trans idle
    · intro closed
      rcases ClientMove.arrived moved with ⟨_, channel_eq⟩ | ⟨channel_eq, _⟩
      · exact channel_eq.trans closed
      · exact channel_eq
    · exact fun live later flowing => flowing.of_same forwarder_eq subscription_eq loop_eq
  | disconnect =>
    obtain ⟨_, _, after_eq⟩ := stepDisconnect_move stepped
    subst after_eq
    refine Background.invariant (background_of_quiet_step rfl rfl rfl ?_ ?_ ?_) holds
    · exact fun idle => idle
    · exact fun _ => rfl
    · exact fun live later flowing => flowing.of_same rfl rfl rfl

end

theorem Flowing.carriesLater {before : Nat} {recorded : List RecordedEvent}
    (flowing : Flowing setting system live (recorded.drop before)) :
    CarriesLater setting live before recorded := by
  obtain ⟨events, carried, kept⟩ := flowing
  refine ⟨events.take live.length, List.forall₂_take_append events live _ carried, ?_⟩
  have front : (events.take live.length).Sublist events := List.take_sublist _ events
  exact (front.trans (List.sublist_append_left events _)).trans kept

theorem TranscriptInvariant.replayThenLive (holds : TranscriptInvariant setting transcript) :
    ReplayThenLive setting transcript := by
  unfold ReplayThenLive
  rcases holds with quiet | ⟨_, snapshot_eq, _, phase⟩
  · rw [quiet.no_snapshot]
    exact quiet.nothing_sent
  · rw [snapshot_eq]
    rcases phase with replaying | acknowledged | cancelled
    · left
      obtain ⟨_, _, remaining, _, frames_eq, sent_eq⟩ := replaying.progress
      refine ⟨remaining.map (replayMessage setting), ?_⟩
      rw [sent_eq, replayOf, frames_eq, List.map_append]
    · right
      obtain ⟨nextToken, live, sent_eq, flowing⟩ := acknowledged.ordered
      exact ⟨nextToken, live, sent_eq, flowing.carriesLater⟩
    · exact Or.inl cancelled.partly

end

/-- A resume that begins, with nothing recorded, read or sent in this history. -/
def Transcript.begin (system : ResumeSystem) : Transcript where
  system := system
  recorded := []
  snapshot := none
  sent := []

/-- In every resume in which the handler reads the replay buffer while no recorded event is on its
way to the forwarder, and in which the forwarder sends nothing while the handler replays, the stream
holds the selected frames, then the acknowledgement, then only later events. -/
theorem replay_precedes_live (setting : ResumeSetting) (cursor : OutputStream → Nat)
    (start : ResumeSystem) (final : Transcript) (starts : ResumeStart setting cursor start)
    (run : Reaches (stepTranscript setting)
      (fun transcript action => ReplayAlone transcript.system action)
      (Transcript.begin start) final) :
    ReplayThenLive setting final := by
  have begins : TranscriptInvariant setting (Transcript.begin start) := by
    refine Or.inl ⟨Or.inl ?_, starts.not_forwarding, rfl, rfl⟩
    show start.handler.beforeSnapshot = true
    rw [starts.handler_starting]
    rfl
  have holds : TranscriptInvariant setting final := by
    apply run.invariant begins
    intro before action after holds alone moved
    exact stepTranscript_invariant holds alone moved
  exact holds.replayThenLive

def sentKinds (transcript : Transcript) : List (Producer × Option ServerPayload) :=
  transcript.sent.map fun entry => (entry.1, entry.2.payload)

theorem quiet_resume_replays_first :
    ∃ final : Transcript,
      sentKinds final =
        [(.handler, some (.output [65] (some false) (some false) none 1)),
          (.handler, some (.resumeAck "next" (some true) none)),
          (.forwarder, some (.output [65] (some false) (some false) none 2))] ∧
      ReplayThenLive newcomerSetting final := by
  obtain ⟨final, run, seen⟩ : ∃ final, Reaches (stepTranscript newcomerSetting)
      (fun transcript action => ReplayAlone transcript.system action)
      (Transcript.begin (newcomerStart [printedByte, printedByte])) final ∧
        sentKinds final =
          [(.handler, some (.output [65] (some false) (some false) none 1)),
            (.handler, some (.resumeAck "next" (some true) none)),
            (.forwarder, some (.output [65] (some false) (some false) none 2))] :=
    reaches_of_evaluated quietActions (by decide)
  exact ⟨final, seen,
    replay_precedes_live newcomerSetting (fun _ => 0) _ final (newcomerStart_starts _) run⟩

def quickExit : SessionServerEvent := .exit 0 false none

/-- The capability exits after the handler read the replay buffer, and the forwarder is
faster than the handler. -/
def overtakingActions : List ResumeAction :=
  [.handler "next", .handler "next", .handler "next", .handler "next", .eventLoop, .eventLoop,
    .eventLoop, .forwarder, .forwarder, .handler "next", .transport, .transport, .client,
    .client]

/-- Without the condition, the exit of the capability precedes the acknowledgement and
the client gives up the resume. -/
theorem live_exit_precedes_acknowledgement :
    ∃ final : Transcript,
      ResumeStart newcomerSetting (fun _ => 0) (newcomerStart [quickExit]) ∧
      Reaches (stepTranscript newcomerSetting) anyAction
        (Transcript.begin (newcomerStart [quickExit])) final ∧
      final.sent.map Prod.snd =
        [⟨"session", some (.exit 0 (some false) none)⟩,
          ⟨"session", some (.resumeAck "next" (some true) none)⟩] ∧
      final.system.client.phase =
        .failed "Capability session exited (code 0): session exited while resuming" ∧
      ¬ ReplayThenLive newcomerSetting final := by
  obtain ⟨final, run, sent_eq, phase_eq, snapshot, snapshot_eq, nothing_buffered⟩ :
      ∃ final, Reaches (stepTranscript newcomerSetting) anyAction
          (Transcript.begin (newcomerStart [quickExit])) final ∧
        final.sent.map Prod.snd = [⟨"session", some (.exit 0 (some false) none)⟩,
          ⟨"session", some (.resumeAck "next" (some true) none)⟩] ∧
        final.system.client.phase =
          .failed "Capability session exited (code 0): session exited while resuming" ∧
        ∃ snapshot ∈ final.snapshot, replayOf newcomerSetting snapshot.state = [] :=
    reaches_of_evaluated overtakingActions (by decide)
  refine ⟨final, newcomerStart_starts _, run, sent_eq, phase_eq, ?_⟩
  intro ordered
  rw [Option.mem_def] at snapshot_eq
  simp only [ReplayThenLive, snapshot_eq, nothing_buffered, sent_eq] at ordered
  rcases ordered with front | ⟨_, _, whole, _⟩
  · simp at front
  · simp [resumeAckMessage] at whole

end HandControl.ResumeTranscript
