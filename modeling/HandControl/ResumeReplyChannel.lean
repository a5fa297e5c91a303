import HandControl.SessionResume

/-!
# The reply channel of a resume

The handler puts the replayed frames and the acknowledgement into a channel that nobody reads before
it returns, and the forwarder it spawned writes to the same channel. It always returns exactly when
all of this fits into the channel.
-/

namespace HandControl.ResumeReplyChannel

open CapabilitySessions MessageChannels SessionResume TransitionRuns ResumeSystem

/-- The events that the event loop will still take: it stops after a closed event. -/
def untilClosed : List SessionServerEvent → List SessionServerEvent
  | [] => []
  | event :: script => if event.isClosed then [event] else event :: untilClosed script

def eventsAhead (system : ResumeSystem) : Nat :=
  match system.eventLoop with
  | .receiving => (untilClosed system.script).length
  | .recorded event _ =>
    if event.isClosed then 1 else 1 + (untilClosed system.script).length
  | .publishing broadcast =>
    if broadcast.event.isClosed then 1 else 1 + (untilClosed system.script).length
  | .removing => 0
  | .ended => 0

def messagesHeld : Option ForwarderPhase → Nat
  | some (.sending _) => 1
  | _ => 0

def liveEvents (system : ResumeSystem) : Nat :=
  messagesHeld system.forwarder + (system.subscription.getD []).length + eventsAhead system

def HandlerDone (system : ResumeSystem) : Prop :=
  system.handler = .returned ∨ (∃ status, system.handler = .failed status) ∨
    system.handler = .cancelled

def handlerOnly (_ : ResumeSystem) (action : ResumeAction) : Prop :=
  ∃ freshToken, action = .handler freshToken

/-- Whatever happened before, the handler comes to its end by its own steps, so it never
waits for the response stream to be read. -/
def ReturnsUnread (setting : ResumeSetting) (start : ResumeSystem) : Prop :=
  ∀ system, Reaches (stepResume setting) anyAction start system →
    ∃ final, Reaches (stepResume setting) handlerOnly system final ∧ HandlerDone final

variable {event : SessionServerEvent} {script : List SessionServerEvent}
variable {broadcast : SessionBroadcastEvent}

section

variable {setting : ResumeSetting} {system after : ResumeSystem}
variable {nextToken : String} {remaining : List BufferedOutput}

/-- The frames and the acknowledgement still to be sent and all live events fit. -/
def Fits (system : ResumeSystem) : Prop :=
  HandlerDone system ∨
    ∃ nextToken remaining, system.handler = .replaying nextToken remaining ∧
      system.queue.length + remaining.length + 1 + liveEvents system ≤ responseChannelCapacity

theorem eventsAhead_receiving (loop_eq : system.eventLoop = .receiving)
    (script_eq : system.script = event :: script) :
    eventsAhead system = if event.isClosed then 1 else 1 + (untilClosed script).length := by
  simp only [eventsAhead, loop_eq, script_eq, untilClosed]
  split
  · rfl
  · rw [List.length_cons, Nat.add_comm]

theorem eventsAhead_publishing (loop_eq : system.eventLoop = .publishing broadcast)
    (subscription : Option (List SessionBroadcastEvent)) :
    eventsAhead system =
      eventsAhead { system with
        subscription := subscription
        eventLoop := if broadcast.event.isClosed then .removing else .receiving } + 1 := by
  by_cases closed : broadcast.event.isClosed = true
  · simp [eventsAhead, loop_eq, closed]
  · simp [eventsAhead, loop_eq, closed, Nat.add_comm]

/-- Recording and preparing an event changes no count; publishing moves one event from
the loop to the subscription. -/
theorem EventLoopMove.liveEvents_le (moved : EventLoopMove system after) :
    liveEvents after ≤ liveEvents system := by
  cases moved with
  | records _ _ _ loop_eq script_eq | skips event script loop_eq script_eq =>
    have ahead := eventsAhead_receiving loop_eq script_eq
    simp only [liveEvents, ahead]
    simp [eventsAhead]
  | prepares _ _ _ loop_eq => simp [liveEvents, eventsAhead, loop_eq]
  | publishes broadcast loop_eq =>
    have waiting_le : ((system.subscription.map fun waiting =>
        waiting ++ [broadcast]).getD []).length ≤ (system.subscription.getD []).length + 1 := by
      cases system.subscription with
      | none | some => simp
    have ahead := eventsAhead_publishing loop_eq
      (system.subscription.map fun waiting => waiting ++ [broadcast])
    unfold liveEvents
    rw [ahead]
    dsimp only
    omega
  | removes loop_eq => simp [liveEvents, eventsAhead, loop_eq]

theorem EventLoopMove.frame (moved : EventLoopMove system after) :
    after.handler = system.handler ∧ after.queue = system.queue ∧
      after.forwarder = system.forwarder := by
  cases moved <;> exact ⟨rfl, rfl, rfl⟩

theorem ForwarderMove.room_le (moved : ForwarderMove setting system after) :
    after.queue.length + liveEvents after ≤ system.queue.length + liveEvents system := by
  cases moved with
  | receives _ _ forwarder_eq subscription_eq =>
    simp only [liveEvents, eventsAhead, forwarder_eq, subscription_eq, messagesHeld,
      Option.getD_some, List.length_cons]
    omega
  | lags _ forwarder_eq subscription_eq =>
    simp only [liveEvents, eventsAhead, forwarder_eq, subscription_eq, messagesHeld,
      Option.getD_some, List.length_drop]
    omega
  | closes forwarder_eq => simp [liveEvents, eventsAhead, forwarder_eq, messagesHeld]
  | sends _ forwarder_eq =>
    simp only [liveEvents, eventsAhead, forwarder_eq, messagesHeld, List.length_append,
      List.length_singleton]
    omega
  | stops _ forwarder_eq =>
    simp only [liveEvents, eventsAhead, forwarder_eq, messagesHeld]
    omega

theorem ForwarderMove.handler_eq (moved : ForwarderMove setting system after) :
    after.handler = system.handler := by
  cases moved <;> rfl

theorem HandlerDone.of_same (finished : HandlerDone system)
    (handler_eq : after.handler = system.handler) : HandlerDone after := by
  unfold HandlerDone
  rw [handler_eq]
  exact finished

theorem Fits.of_le (fits : Fits system) (handler_eq : after.handler = system.handler)
    (counted : after.queue.length + liveEvents after ≤
      system.queue.length + liveEvents system) : Fits after := by
  rcases fits with finished | ⟨nextToken, remaining, replaying, _⟩
  · exact Or.inl (finished.of_same handler_eq)
  · refine Or.inr ⟨nextToken, remaining, handler_eq.trans replaying, ?_⟩
    omega

theorem stepResume_fits {action : ResumeAction} (fits : Fits system)
    (moved : stepResume setting system action = some after) : Fits after := by
  cases action with
  | eventLoop =>
    have move := stepEventLoop_move moved
    obtain ⟨handler_eq, queue_eq, _⟩ := EventLoopMove.frame move
    have counted := EventLoopMove.liveEvents_le move
    apply fits.of_le handler_eq
    rw [queue_eq]
    exact Nat.add_le_add_left counted _
  | capabilityExit =>
    obtain ⟨_, _, after_eq⟩ := stepCapabilityExit_move moved
    subst after_eq
    refine fits.of_le (by rfl) ?_
    simp [liveEvents, eventsAhead]
  | handler =>
    have move := stepHandler_move moved
    rcases fits with finished | ⟨nextToken, _, replaying, bounded⟩
    · exfalso
      rcases finished with phase_eq | ⟨_, phase_eq⟩ | phase_eq <;>
        simp [stepResume, stepHandler, phase_eq] at moved
    · cases move with
      | replays _ frame rest handler_eq =>
        rw [replaying] at handler_eq
        cases handler_eq
        refine Or.inr ⟨nextToken, rest, rfl, ?_⟩
        simp only [List.length_append, List.length_cons, List.length_nil] at bounded ⊢
        have same : liveEvents { system with
            queue := system.queue ++ [replayMessage setting frame]
            handler := .replaying nextToken rest } = liveEvents system := rfl
        omega
      | acknowledges => exact Or.inl (Or.inl rfl)
      | fails status => exact Or.inl (Or.inr (Or.inl ⟨status, rfl⟩))
      | _ => simp_all
  | cancelRequest =>
    obtain ⟨_, _, _, after_eq⟩ := stepCancelRequest_move moved
    subst after_eq
    exact Or.inl (Or.inr (Or.inr rfl))
  | forwarder =>
    have move := stepForwarder_move moved
    exact fits.of_le (ForwarderMove.handler_eq move) (ForwarderMove.room_le move)
  | transport =>
    obtain ⟨_, _, handler_eq, _, _, after_eq⟩ := stepTransport_move moved
    subst after_eq
    exact Or.inl (Or.inl handler_eq)
  | client =>
    obtain ⟨script_eq, loop_eq, _, subscription_eq, handler_eq, forwarder_eq, queue_eq⟩ :=
      ClientMove.frame (stepClient_move moved)
    apply fits.of_le handler_eq
    simp [liveEvents, eventsAhead, script_eq, loop_eq, subscription_eq, forwarder_eq, queue_eq]
  | disconnect =>
    obtain ⟨handler_eq, _, after_eq⟩ := stepDisconnect_move moved
    subst after_eq
    exact Or.inl (Or.inl handler_eq)

theorem handler_replays (setting : ResumeSetting) (sent : Nat) (enough : sent ≤ remaining.length)
    (replaying : system.handler = .replaying nextToken remaining)
    (room : system.queue.length + sent ≤ responseChannelCapacity) :
    ∃ final, Reaches (stepResume setting) handlerOnly system final ∧
      final.handler = .replaying nextToken (remaining.drop sent) ∧
      final.queue.length = system.queue.length + sent := by
  induction sent generalizing system remaining with
  | zero => exact ⟨system, Reaches.refl system, by simpa using replaying, rfl⟩
  | succ sent ih =>
    cases remaining with
    | nil => simp at enough
    | cons frame rest =>
      have fits : system.queue.length < responseChannelCapacity := by omega
      let next : ResumeSystem :=
        { system with
          queue := system.queue ++ [replayMessage setting frame]
          handler := .replaying nextToken rest }
      have moved : stepResume setting system (.handler "") = some next := by
        simp [stepResume, stepHandler, replaying, offer_of_room fits, next]
      have next_length : next.queue.length = system.queue.length + 1 := by simp [next]
      obtain ⟨final, run, handler_eq, _⟩ := ih (Nat.le_of_succ_le_succ enough)
        (show next.handler = .replaying nextToken rest from rfl) (by omega)
      refine ⟨final, Reaches.head ⟨"", rfl⟩ moved run, handler_eq, ?_⟩
      omega

theorem handler_returns (replaying : system.handler = .replaying nextToken remaining)
    (room : system.queue.length + remaining.length + 1 ≤ responseChannelCapacity) :
    ∃ final, Reaches (stepResume setting) handlerOnly system final ∧ HandlerDone final := by
  obtain ⟨replayed, run, handler_eq, _⟩ :=
    handler_replays setting remaining.length (Nat.le_refl _) replaying (by omega)
  rw [List.drop_length] at handler_eq
  have fits : replayed.queue.length < responseChannelCapacity := by omega
  let final : ResumeSystem :=
    { replayed with
      queue := replayed.queue ++ [resumeAckMessage setting nextToken]
      handler := .returned }
  have moved : stepResume setting replayed (.handler "") = some final := by
    simp [stepResume, stepHandler, handler_eq, offer_of_room fits, final]
  exact ⟨final, run.tail ⟨"", rfl⟩ moved, Or.inl rfl⟩

theorem returnsUnread_of_fits (fits : Fits system) : ReturnsUnread setting system := by
  intro reached run
  have still_fits : Fits reached := by
    apply run.invariant fits
    intro before action next fits _ moved
    exact stepResume_fits fits moved
  rcases still_fits with finished | ⟨_, _, replaying, _⟩
  · exact ⟨reached, Reaches.refl reached, finished⟩
  · apply handler_returns replaying
    omega

/-- The handler replays while the forwarder runs; `sent` messages are in the channel and
at least `live` events can still be put into it. -/
structure Feeding (nextToken : String) (remaining : List BufferedOutput) (sent live : Nat)
    (system : ResumeSystem) : Prop where
  replaying : system.handler = .replaying nextToken remaining
  channel_open : system.channelOpen = true
  subscribed : ∃ waiting, system.subscription = some waiting
  sent_eq : system.queue.length = sent
  live_le : live ≤ liveEvents system

variable {sent live : Nat}

section

variable (feeding : Feeding nextToken remaining sent (live + 1) system)

include feeding

theorem feed_held {message : SessionServerMessage}
    (holding : system.forwarder = some (.sending message)) (room : sent < responseChannelCapacity) :
    ∃ final, Reaches (stepResume setting) anyAction system final ∧
      Feeding nextToken remaining (sent + 1) live final ∧
      final.forwarder = some .receiving := by
  have fits : system.queue.length < responseChannelCapacity := by
    rw [feeding.sent_eq]
    exact room
  let final : ResumeSystem :=
    { system with queue := system.queue ++ [message], forwarder := some .receiving }
  have moved : stepResume setting system .forwarder = some final := by
    simp [stepResume, stepForwarder, holding, feeding.channel_open, offer_of_room fits, final]
  have counted : liveEvents system = liveEvents final + 1 := by
    simp only [liveEvents, eventsAhead, holding, messagesHeld, final]
    omega
  refine ⟨final, Reaches.single trivial moved, ?_, rfl⟩
  refine ⟨feeding.replaying, feeding.channel_open, feeding.subscribed, ?_, ?_⟩
  · simp [final, feeding.sent_eq]
  · have enough := feeding.live_le
    omega

theorem feed_waiting {rest : List SessionBroadcastEvent}
    (receiving : system.forwarder = some .receiving)
    (waiting_eq : system.subscription = some (broadcast :: rest))
    (keeps_up : (broadcast :: rest).length ≤ defaultEventChannelCapacity)
    (room : sent < responseChannelCapacity) :
    ∃ final, Reaches (stepResume setting) anyAction system final ∧
      Feeding nextToken remaining (sent + 1) live final ∧
      final.forwarder = some .receiving := by
  let held : ResumeSystem :=
    { system with
      subscription := some rest
      forwarder := some (.sending (sessionEventToProto setting broadcast.event
        broadcast.bufferedOutput broadcast.resumeToken)) }
  have moved : stepResume setting system .forwarder = some held := by
    simp [stepResume, stepForwarder, receiving, waiting_eq, receive_of_fits keeps_up, held]
  have counted : liveEvents held = liveEvents system := by
    simp only [liveEvents, eventsAhead, receiving, waiting_eq, messagesHeld, held,
      Option.getD_some, List.length_cons]
    omega
  have feeding_held : Feeding nextToken remaining sent (live + 1) held :=
    ⟨feeding.replaying, feeding.channel_open, ⟨rest, rfl⟩, feeding.sent_eq,
      counted ▸ feeding.live_le⟩
  obtain ⟨final, run, fed, received_next⟩ := feed_held feeding_held rfl room
  exact ⟨final, Reaches.head trivial moved run, fed, received_next⟩

/-- A forwarder that lags skips events, but a full broadcast buffer of them is left. -/
theorem feed_lagging {waiting : List SessionBroadcastEvent}
    (receiving : system.forwarder = some .receiving)
    (waiting_eq : system.subscription = some waiting)
    (behind : defaultEventChannelCapacity < waiting.length)
    (few : live + 1 ≤ defaultEventChannelCapacity) (room : sent < responseChannelCapacity) :
    ∃ final, Reaches (stepResume setting) anyAction system final ∧
      Feeding nextToken remaining (sent + 1) live final ∧
      final.forwarder = some .receiving := by
  let retained := waiting.drop (waiting.length - defaultEventChannelCapacity)
  let caught_up : ResumeSystem := { system with subscription := some retained }
  have moved : stepResume setting system .forwarder = some caught_up := by
    simp [stepResume, stepForwarder, receiving, waiting_eq,
      receive_of_behind behind, retained, caught_up]
  have retained_length : retained.length = defaultEventChannelCapacity := by
    rw [List.length_drop]
    omega
  have enough : live + 1 ≤ liveEvents caught_up := by
    have counted : retained.length ≤ liveEvents caught_up := by
      simp only [liveEvents, caught_up, Option.getD_some]
      omega
    omega
  have feeding_next : Feeding nextToken remaining sent (live + 1) caught_up :=
    ⟨feeding.replaying, feeding.channel_open, ⟨retained, rfl⟩, feeding.sent_eq, enough⟩
  obtain ⟨broadcast, rest, retained_eq⟩ : ∃ broadcast rest, retained = broadcast :: rest := by
    apply List.exists_cons_of_ne_nil
    intro empty
    rw [empty] at retained_length
    cases retained_length
  have waiting_next : caught_up.subscription = some (broadcast :: rest) :=
    congrArg some retained_eq
  have keeps_up : (broadcast :: rest).length ≤ defaultEventChannelCapacity := by
    rw [← retained_eq, retained_length]
  obtain ⟨final, run, fed, received_next⟩ :=
    feed_waiting feeding_next receiving waiting_next keeps_up room
  exact ⟨final, Reaches.head trivial moved run, fed, received_next⟩

end

def CaughtUp (system : ResumeSystem) : Prop :=
  system.forwarder = some .receiving ∧ system.subscription = some []

/-- The event loop brings the forwarder one event. -/
def Delivers (setting : ResumeSetting) (nextToken : String) (remaining : List BufferedOutput)
    (sent live : Nat) (system : ResumeSystem) : Prop :=
  ∃ broadcast next, Reaches (stepResume setting) anyAction system next ∧
    Feeding nextToken remaining sent live next ∧
    next.forwarder = some .receiving ∧ next.subscription = some [broadcast]

theorem publishing_delivers (feeding : Feeding nextToken remaining sent live system)
    (caught_up : CaughtUp system) (loop_eq : system.eventLoop = .publishing broadcast) :
    Delivers setting nextToken remaining sent live system := by
  let next : ResumeSystem :=
    { system with
      subscription := some [broadcast]
      eventLoop := if broadcast.event.isClosed then .removing else .receiving }
  have moved : stepResume setting system .eventLoop = some next := by
    simp [stepResume, stepEventLoop, loop_eq, caught_up.2, next]
  have counted : liveEvents system = liveEvents next := by
    have published := eventsAhead_publishing loop_eq (some [broadcast])
    simp only [liveEvents, caught_up.1, caught_up.2, published, next, messagesHeld,
      Option.getD_some, List.length_nil, List.length_singleton]
    omega
  have fed : Feeding nextToken remaining sent live next :=
    ⟨feeding.replaying, feeding.channel_open, ⟨_, rfl⟩, feeding.sent_eq, counted ▸ feeding.live_le⟩
  exact ⟨broadcast, next, Reaches.single trivial moved, fed, caught_up.1, rfl⟩

theorem delivers_of_step {next : ResumeSystem}
    (moved : stepResume setting system .eventLoop = some next)
    (delivers : Delivers setting nextToken remaining sent live next) :
    Delivers setting nextToken remaining sent live system := by
  obtain ⟨broadcast, final, run, rest⟩ := delivers
  exact ⟨broadcast, final, Reaches.head trivial moved run, rest⟩

section

variable (feeding : Feeding nextToken remaining sent live system) (caught_up : CaughtUp system)

include feeding caught_up

theorem recorded_delivers {bufferedOutput : Option BufferedOutput}
    (loop_eq : system.eventLoop = .recorded event bufferedOutput) :
    Delivers setting nextToken remaining sent live system := by
  obtain ⟨resumeToken, moved⟩ : ∃ resumeToken,
      stepResume setting system .eventLoop = some { system with
        eventLoop := .publishing ⟨event, bufferedOutput, resumeToken⟩ } := by
    simp only [stepResume, stepEventLoop, loop_eq]
    exact ⟨_, rfl⟩
  have counted : liveEvents system = liveEvents { system with
      eventLoop := .publishing ⟨event, bufferedOutput, resumeToken⟩ } := by
    simp [liveEvents, eventsAhead, loop_eq]
  have fed : Feeding nextToken remaining sent live { system with
      eventLoop := .publishing ⟨event, bufferedOutput, resumeToken⟩ } :=
    ⟨feeding.replaying, feeding.channel_open, feeding.subscribed, feeding.sent_eq,
      counted ▸ feeding.live_le⟩
  exact delivers_of_step moved (publishing_delivers fed caught_up rfl)

theorem receiving_delivers (loop_eq : system.eventLoop = .receiving)
    (script_eq : system.script = event :: script) :
    Delivers setting nextToken remaining sent live system := by
  obtain ⟨session, bufferedOutput, moved⟩ : ∃ session bufferedOutput,
      stepResume setting system .eventLoop = some { system with
        script := script
        session := session
        eventLoop := .recorded event bufferedOutput } := by
    cases session_eq : system.session with
    | none =>
      refine ⟨none, none, ?_⟩
      simp [stepResume, stepEventLoop, loop_eq, script_eq, session_eq]
    | some state =>
      refine ⟨some (state.recordServerEvent event).2, (state.recordServerEvent event).1, ?_⟩
      simp [stepResume, stepEventLoop, loop_eq, script_eq, session_eq]
  have counted : liveEvents system = liveEvents { system with
      script := script
      session := session
      eventLoop := .recorded event bufferedOutput } := by
    have ahead := eventsAhead_receiving loop_eq script_eq
    simp only [liveEvents, ahead]
    simp [eventsAhead]
  have fed : Feeding nextToken remaining sent live { system with
      script := script
      session := session
      eventLoop := .recorded event bufferedOutput } :=
    ⟨feeding.replaying, feeding.channel_open, feeding.subscribed, feeding.sent_eq,
      counted ▸ feeding.live_le⟩
  exact delivers_of_step moved (recorded_delivers fed caught_up rfl)

end

section

variable (setting) (feeding : Feeding nextToken remaining sent (live + 1) system)

include feeding

/-- When nothing waits for the forwarder, the event loop brings its next event. -/
theorem loop_delivers (caught_up : CaughtUp system) :
    Delivers setting nextToken remaining sent (live + 1) system := by
  have ahead : live + 1 ≤ eventsAhead system := by
    have enough := feeding.live_le
    simpa [liveEvents, caught_up.1, caught_up.2, messagesHeld] using enough
  cases loop_eq : system.eventLoop with
  | receiving =>
    cases script_eq : system.script with
    | nil => simp [eventsAhead, loop_eq, script_eq, untilClosed] at ahead
    | cons => exact receiving_delivers feeding caught_up loop_eq script_eq
  | recorded => exact recorded_delivers feeding caught_up loop_eq
  | publishing => exact publishing_delivers feeding caught_up loop_eq
  | removing | ended => simp [eventsAhead, loop_eq] at ahead

theorem feed_one (receiving : system.forwarder = some .receiving)
    (few : live + 1 ≤ defaultEventChannelCapacity) (room : sent < responseChannelCapacity) :
    ∃ final, Reaches (stepResume setting) anyAction system final ∧
      Feeding nextToken remaining (sent + 1) live final ∧
      final.forwarder = some .receiving := by
  obtain ⟨waiting, waiting_eq⟩ := feeding.subscribed
  cases waiting with
  | nil =>
    obtain ⟨_, _, run, fed, receiving_next, waiting_next⟩ :=
      loop_delivers setting feeding ⟨receiving, waiting_eq⟩
    obtain ⟨final, run_on, fed_final, receiving_final⟩ :=
      feed_waiting fed receiving_next waiting_next (by simp [defaultEventChannelCapacity]) room
    exact ⟨final, run.trans run_on, fed_final, receiving_final⟩
  | cons broadcast rest =>
    by_cases behind : defaultEventChannelCapacity < (broadcast :: rest).length
    · exact feed_lagging feeding receiving waiting_eq behind few room
    · exact feed_waiting feeding receiving waiting_eq (Nat.not_lt.mp behind) room

end

theorem feed_many (setting : ResumeSetting) (count : Nat)
    (feeding : Feeding nextToken remaining sent count system)
    (receiving : system.forwarder = some .receiving)
    (few : count ≤ defaultEventChannelCapacity)
    (room : sent + count ≤ responseChannelCapacity) :
    ∃ final, Reaches (stepResume setting) anyAction system final ∧
      final.handler = .replaying nextToken remaining ∧
      final.queue.length = sent + count := by
  induction count generalizing system sent with
  | zero => exact ⟨system, Reaches.refl system, feeding.replaying, feeding.sent_eq⟩
  | succ count ih =>
    obtain ⟨_, run, fed, receiving_next⟩ :=
      feed_one setting feeding receiving few (by omega)
    obtain ⟨final, run_on, handler_eq, _⟩ :=
      ih fed receiving_next (by omega) (by omega)
    exact ⟨final, run.trans run_on, handler_eq, by omega⟩

theorem full_channel_blocks (replaying : system.handler = .replaying nextToken remaining)
    (full : responseChannelCapacity ≤ system.queue.length) {final : ResumeSystem}
    (run : Reaches (stepResume setting) handlerOnly system final) : final = system := by
  induction run with
  | refl => rfl
  | tail _ last ih =>
    obtain ⟨_, ⟨_, action_eq⟩, moved⟩ := last
    rw [ih, action_eq] at moved
    cases remaining with
    | nil | cons => simp [stepResume, stepHandler, replaying, offer_of_full full] at moved

structure SnapshotDue (nextToken : String) (state : SessionState) (system : ResumeSystem) :
    Prop where
  handler_attached : system.handler = .attached nextToken
  session_present : system.session = some state
  subscribed : ∃ waiting, system.subscription = some waiting
  not_forwarding : system.forwarder = none
  channel_new : system.queue = [] ∧ system.channelOpen = true

def replayFrames (setting : ResumeSetting) (state : SessionState) : List BufferedOutput :=
  state.outputsSince setting.lastOutputSequence setting.lastErrorSequence

variable {state : SessionState} {freshToken : String}

section

variable (due : SnapshotDue nextToken state system)
  (taken : stepResume setting system (.handler freshToken) = some after)

include due taken

theorem snapshot_taken :
    after = { system with
      handler := .replaying nextToken (replayFrames setting state)
      forwarder := some .receiving } := by
  simp only [stepResume, stepHandler, due.handler_attached, due.session_present,
    Option.some.injEq] at taken
  rw [due.session_present]
  exact taken.symm

theorem liveEvents_snapshot : liveEvents after = liveEvents system := by
  rw [snapshot_taken due taken]
  simp [liveEvents, eventsAhead, due.not_forwarding, messagesHeld]

/-- With one message too many, the channel can be full while the handler still has one to
send. -/
theorem not_returnsUnread_of_overfull
    (overfull : responseChannelCapacity < (replayFrames setting state).length + 1 + liveEvents
      system) : ¬ ReturnsUnread setting after := by
  intro returns
  have live_eq := liveEvents_snapshot due taken
  have capacity_le : responseChannelCapacity ≤ defaultEventChannelCapacity := by decide
  have after_eq := snapshot_taken due taken
  -- First as many live events as the frames leave room for, then frames up to the brim.
  let early := responseChannelCapacity - (replayFrames setting state).length
  have feeding : Feeding nextToken (replayFrames setting state) 0 early after := by
    refine ⟨by rw [after_eq], by rw [after_eq]; exact due.channel_new.2,
      by rw [after_eq]; exact due.subscribed, by rw [after_eq]; simp [due.channel_new.1], ?_⟩
    omega
  obtain ⟨_, run, replaying, _⟩ :=
    feed_many setting early feeding (by rw [after_eq]) (by omega) (by omega)
  obtain ⟨stuck, run_on, still_replaying, _⟩ :=
    handler_replays setting (responseChannelCapacity - early) (by omega) replaying (by omega)
  have reached : Reaches (stepResume setting) anyAction after stuck :=
    run.trans (run_on.weaken fun _ _ _ => trivial)
  obtain ⟨_, run_end, finished⟩ := returns stuck reached
  have same := full_channel_blocks still_replaying (by omega) run_end
  rw [same] at finished
  rcases finished with phase_eq | ⟨_, phase_eq⟩ | phase_eq <;>
    simp [phase_eq] at still_replaying

end

end

/-- Once the handler has read the replay buffer, it always returns without waiting for a receive
exactly when the replayed frames, the acknowledgement and the live events that can still be
forwarded fit into the response channel. -/
theorem resume_returns_unread_iff (setting : ResumeSetting) (system after : ResumeSystem)
    (nextToken freshToken : String) (state : SessionState)
    (due : SnapshotDue nextToken state system)
    (taken : stepResume setting system (.handler freshToken) = some after) :
    ReturnsUnread setting after ↔
      (state.outputsSince setting.lastOutputSequence setting.lastErrorSequence).length + 1 +
        liveEvents system ≤ responseChannelCapacity := by
  constructor
  · intro returns
    by_contra overfull
    exact not_returnsUnread_of_overfull due taken (Nat.not_le.mp overfull) returns
  · intro bounded
    have live_eq := liveEvents_snapshot due taken
    apply returnsUnread_of_fits
    right
    rw [snapshot_taken due taken] at live_eq ⊢
    refine ⟨nextToken, replayFrames setting state, rfl, ?_⟩
    rw [live_eq, due.channel_new.1]
    simpa [replayFrames] using bounded

def chattySession : Nat → SessionState
  | 0 => SessionState.new defaultOutputBufferCapacity "token"
  | outputs + 1 => ((chattySession outputs).recordServerEvent (.output [65] false false none)).2

theorem chattySession_reachable (outputs : Nat) : (chattySession outputs).Reachable := by
  induction outputs with
  | zero => exact .opened defaultOutputBufferCapacity "token"
  | succ outputs ih => exact .recorded ih _

theorem chattySession_detached (outputs : Nat) : (chattySession outputs).attachment = none := by
  induction outputs with
  | zero => rfl
  | succ outputs ih => exact ih

def resumedSession (outputs : Nat) : SessionState :=
  { chattySession outputs with
    attachment := some { clientFingerprint := none }, resumeToken := "next" }

theorem resumedSession_accepted (outputs : Nat) :
    (chattySession outputs).tryAttach none =
      .ok ({ clientFingerprint := none },
        { chattySession outputs with attachment := some { clientFingerprint := none } }) := by
  simp [SessionState.tryAttach, chattySession_detached]

theorem resumedSession_reachable (outputs : Nat) : (resumedSession outputs).Reachable :=
  .rotated (.attached (chattySession_reachable outputs) none { clientFingerprint := none }
    (resumedSession_accepted outputs)) "next"

def unseenOutput (outputs : Nat) : ResumeSystem :=
  { newcomerStart [] with
    session := some (resumedSession outputs)
    subscription := some []
    handler := .attached "next" }

theorem unseenOutput_due (outputs : Nat) :
    SnapshotDue "next" (resumedSession outputs) (unseenOutput outputs) :=
  ⟨rfl, rfl, ⟨[], rfl⟩, rfl, ⟨rfl, rfl⟩⟩

theorem unseenOutput_taken (outputs : Nat) :
    ∃ after, stepResume newcomerSetting (unseenOutput outputs) (.handler "") = some after :=
  ⟨_, rfl⟩

theorem three_unseen_frames_return :
    ∃ after, stepResume newcomerSetting (unseenOutput 3) (.handler "") = some after ∧
      ReturnsUnread newcomerSetting after := by
  obtain ⟨after, taken⟩ := unseenOutput_taken 3
  refine ⟨after, taken, ?_⟩
  rw [resume_returns_unread_iff newcomerSetting _ after "next" "" _ (unseenOutput_due 3) taken]
  decide

/-- With 128 unseen frames the acknowledgement finds the channel full. -/
theorem many_unseen_frames_block :
    ∃ after, (resumedSession 128).Reachable ∧
      SnapshotDue "next" (resumedSession 128) (unseenOutput 128) ∧
      stepResume newcomerSetting (unseenOutput 128) (.handler "") = some after ∧
      ¬ ReturnsUnread newcomerSetting after := by
  obtain ⟨after, taken⟩ := unseenOutput_taken 128
  refine ⟨after, resumedSession_reachable 128, unseenOutput_due 128, taken, ?_⟩
  apply not_returnsUnread_of_overfull (unseenOutput_due 128) taken
  decide +kernel

end HandControl.ResumeReplyChannel
