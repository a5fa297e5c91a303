import HandControl.OpenedStream

/-!
# The client that opens a session

The handler of OpenSession attaches its client after `SessionManager::open_session` has returned. By
then the session is listed and its event loop runs, so it may end or be resumed by somebody else
before. If neither happens and the capability sends nothing behind its closing event, the client is
attached and gets every event.
-/

namespace HandControl.PromptAttachment

open KeyedTable CapabilitySessions SessionResume SessionManager SessionService
open SessionAttachments OpenedStream TransitionRuns Table ServiceState

def eventOf (message : SessionServerMessage) : Option SessionServerEvent :=
  match message.payload with
  | some (.ready _ _ text _) => some (.ready text)
  | some (.output data stderr binary timestampMs _) =>
    some (.output data (stderr.getD false) (binary.getD false) timestampMs)
  | some (.exit exitCode timedOut text) => some (.exit exitCode (timedOut.getD false) text)
  | some (.error text code) => some (.error text code)
  | some (.heartbeat timestampMs latencyHintMs) => some (.heartbeatAck timestampMs latencyHintMs)
  | some (.closed reason) => some (.closed reason)
  | some (.resumeAck _ _ _) => none
  | none => none

theorem eventOf_sessionEventToProto (setting : ResumeSetting) (event : SessionServerEvent)
    (bufferedOutput : Option BufferedOutput) (resumeToken : Option String) :
    eventOf (sessionEventToProto setting event bufferedOutput resumeToken) = some event := by
  cases event <;> rfl

def eventsOf (messages : List SessionServerMessage) : List SessionServerEvent :=
  messages.filterMap eventOf

def forwarderEvents : Option ForwarderPhase → List SessionServerEvent
  | some (.sending message) => (eventOf message).toList
  | _ => []

def waitingEvents (subscription : Option (List SessionBroadcastEvent)) :
    List SessionServerEvent :=
  (subscription.getD []).map SessionBroadcastEvent.event

def loopEvents : LoopPhase → List SessionServerEvent
  | .recorded event _ => [event]
  | .publishing broadcast => [broadcast.event]
  | _ => []

/-- What the event loop of a session works on: its phase and the channel from the capability. -/
def feedOf (found : Option SessionEntry) : Option (LoopPhase × List SessionServerEvent) :=
  found.map fun entry => (entry.eventLoop, entry.events)

def heldIn : Option (LoopPhase × List SessionServerEvent) → List SessionServerEvent
  | some (eventLoop, events) => loopEvents eventLoop ++ events
  | none => []

def heldBy (found : Option SessionEntry) : List SessionServerEvent := heldIn (feedOf found)

/-- Nothing is behind a closing event. -/
def Orderly : Option (LoopPhase × List SessionServerEvent) → Prop
  | some (eventLoop, events) =>
    (∀ event ∈ (loopEvents eventLoop ++ events).dropLast, event.isClosed = false) ∧
      (eventLoop = .removing → events = [])
  | none => True

/-- The capability has not sent its closing event yet. -/
def Unclosed (entry : SessionEntry) : Prop :=
  entry.eventLoop ≠ .removing ∧ ∀ event ∈ heldBy (some entry), event.isClosed = false

def pending (call : Call) : List SessionServerEvent :=
  eventsOf call.queue ++ (forwarderEvents call.forwarder ++ waitingEvents call.subscription)

def emission (sessionId : String) : ServiceAction → Option SessionServerEvent
  | .capabilitySends sender event => if sender = sessionId then some event else none
  | _ => none

def emittedBy (sessionId : String) (actions : List ServiceAction) : List SessionServerEvent :=
  actions.filterMap (emission sessionId)

theorem emittedBy_snoc (sessionId : String) (done : List ServiceAction) (action : ServiceAction) :
    emittedBy sessionId (done ++ [action]) =
      emittedBy sessionId done ++ (emission sessionId action).toList := by
  unfold emittedBy
  rw [List.filterMap_append]
  cases sent : emission sessionId action <;> simp [sent]

/-- The session that a client has opened and is about to attach to is left to it: it is not
removed, and no other client resumes it with its token. -/
def LeavesToOpener (service : ServiceState) (call : Call) : ServiceAction → Prop
  | .eventLoop sessionId => sessionId = call.setting.sessionId →
      ∀ entry, service.sessions.lookup sessionId = some entry → entry.eventLoop ≠ .removing
  | .handler other _ _ => ∀ resuming entry, service.calls.lookup other = some resuming →
      resuming.stage = .senderTaken → resuming.setting.sessionId = call.setting.sessionId →
        service.sessions.lookup call.setting.sessionId = some entry →
          entry.state.resumeToken ≠ resuming.setting.resumeToken
  | _ => True

def SendsBeforeClosed (service : ServiceState) (call : Call) : ServiceAction → Prop
  | .capabilitySends sessionId _ => sessionId = call.setting.sessionId →
      ∀ entry, service.sessions.lookup sessionId = some entry → Unclosed entry
  | _ => True

/-- The client's session is left to it until it is attached, its capability sends nothing behind the
closing event, and its forwarder never falls behind the broadcast channel. -/
def PromptlyServed (number : Nat) (service : ServiceState) (action : ServiceAction) : Prop :=
  KeepsUp number service action ∧
    ∀ call, service.calls.lookup number = some call → SendsBeforeClosed service call action ∧
      (call.stage = .opened → LeavesToOpener service call action)

/-- All events that were sent have been received or are on their way. -/
structure Flows (emitted : List SessionServerEvent) (found : Option SessionEntry) (call : Call) :
    Prop where
  open_eq : call.streamOpen = true
  subscribed : call.subscription ≠ none
  carried : eventsOf call.received ++ (pending call ++ heldBy found) = emitted
  orderly : Orderly (feedOf found)

def IsFree (found : Option SessionEntry) : Prop :=
  ∃ entry, found = some entry ∧ entry.state.attachment = none

def CallStage.isOver : CallStage → Bool
  | .cancelled | .notOpened _ => true
  | _ => false

/-- Where a call that opens a session is: before the session exists, over without it, between its
creation and the attachment, attached, or with its response stream dropped. -/
inductive OpenPhase (emitted : List SessionServerEvent) (known : Bool)
    (found : Option SessionEntry) (call : Call) : Prop where
  | unborn (stage_eq : ∃ capabilityName, call.stage = .opening capabilityName)
      (open_eq : call.streamOpen = true)
      (nothing : call.received = [] ∧ call.queue = [] ∧ call.forwarder = none)
  | ended (stage_eq : CallStage.isOver call.stage = true)
  | awaiting (stage_eq : call.stage = .opened) (known_eq : known = true)
      (flows : Flows emitted found call) (free : IsFree found)
  | serving (stage_eq : call.stage = .attached none ∨ call.stage = .returned)
      (known_eq : known = true)
      (attached : call.attachment = some ⟨call.setting.fingerprint⟩)
      (flows : Flows emitted found call)
  | stopped (stage_eq : call.stage = .returned) (closed_eq : call.streamOpen = false)
      (known_eq : known = true)
      (attached : call.attachment = some ⟨call.setting.fingerprint⟩)
      (begun : eventsOf call.received <+: emitted)

variable {sessionId : String} {entry updated : SessionEntry} {event : SessionServerEvent}
variable {number other : Nat} {changed call : Call} {opened : Table String (Option String)}
variable {sessions : Sessions}

section

variable {service : ServiceState} {emitted : List SessionServerEvent} {known : Bool}
variable {action : ServiceAction} {found changedFound : Option SessionEntry}

theorem IsFree.of_same (free : IsFree (some entry))
    (same : updated.state.attachment = entry.state.attachment) : IsFree (some updated) := by
  obtain ⟨_, found, unattached⟩ := free
  cases found
  exact ⟨updated, rfl, same.trans unattached⟩

section

variable (flows : Flows emitted found call)

include flows

theorem Flows.of_feed (feed_eq : feedOf changedFound = feedOf found) :
    Flows emitted changedFound call := by
  refine ⟨flows.open_eq, flows.subscribed, ?_, ?_⟩
  · rw [heldBy, feed_eq]
    exact flows.carried
  · rw [feed_eq]
    exact flows.orderly

theorem Flows.begun : eventsOf call.received <+: emitted :=
  ⟨_, flows.carried⟩

theorem Flows.moves_on (open_eq : changed.streamOpen = call.streamOpen)
    (subscribed : changed.subscription ≠ none)
    (carried_eq : eventsOf changed.received ++ pending changed = eventsOf call.received ++ pending
      call) : Flows emitted found changed := by
  refine ⟨open_eq.trans flows.open_eq, subscribed, ?_, flows.orderly⟩
  rw [← List.append_assoc, carried_eq, List.append_assoc]
  exact flows.carried

end

/-- What the capability sends is added behind; the event loop only hands it on. -/
theorem Flows.works (flows : Flows emitted (some entry) call)
    (move : EntryMove sessionId entry action updated)
    (unclosed : ∀ event, action = .capabilitySends sessionId event → Unclosed entry) :
    Flows (emitted ++ (emission sessionId action).toList) (some updated) call := by
  rw [← flows.carried]
  have orderly := flows.orderly
  refine ⟨flows.open_eq, flows.subscribed, ?_, ?_⟩
  · cases move with
    | sends => simp [heldBy, heldIn, feedOf, emission]
    | records _ _ loop_eq events_eq | exits loop_eq events_eq =>
      simp [heldBy, heldIn, feedOf, emission, loop_eq, events_eq, loopEvents]
    | prepares _ _ _ loop_eq => simp [heldBy, heldIn, feedOf, emission, loop_eq, loopEvents]
  · cases move with
    | sends event =>
      obtain ⟨running, none_closed⟩ := unclosed event rfl
      refine ⟨?_, fun removing => absurd removing running⟩
      rw [← List.append_assoc, List.dropLast_concat]
      exact none_closed
    | records _ _ loop_eq events_eq =>
      simp only [feedOf, Option.map_some, Orderly, loop_eq, events_eq] at orderly
      exact ⟨orderly.1, by simp⟩
    | prepares _ _ _ loop_eq =>
      simp only [feedOf, Option.map_some, Orderly, loop_eq] at orderly
      exact ⟨orderly.1, by simp⟩
    | exits _ events_eq => exact ⟨by simp [loopEvents, events_eq], fun _ => events_eq⟩

/-- The event goes from the event loop to the subscription. -/
theorem Flows.published (flows : Flows emitted (some entry) call)
    {broadcast : SessionBroadcastEvent} (loop_eq : entry.eventLoop = .publishing broadcast)
    {eventLoop : LoopPhase} (next_eq : eventLoop = .removing ∧ broadcast.event.isClosed = true ∨
      eventLoop = .receiving) :
    Flows emitted (some { entry with eventLoop := eventLoop })
      { call with
        subscription := call.subscription.map fun waiting => waiting ++ [broadcast] } := by
  obtain ⟨_, subscription_eq⟩ := Option.ne_none_iff_exists'.mp flows.subscribed
  have drained : loopEvents eventLoop = [] := by
    rcases next_eq with ⟨rfl, _⟩ | rfl <;> rfl
  have last := flows.orderly.1
  rw [loop_eq, loopEvents] at last
  refine ⟨flows.open_eq, by simp [subscription_eq], ?_, ?_, ?_⟩
  · rw [← flows.carried]
    have held_eq : heldBy (some { entry with eventLoop := eventLoop }) = entry.events := by
      simp [heldBy, heldIn, feedOf, drained]
    rw [held_eq]
    simp [pending, subscription_eq, waitingEvents, heldBy, heldIn, feedOf, loop_eq, loopEvents]
  · rw [drained, List.nil_append]
    cases events_eq : entry.events with
    | nil => simp
    | cons first rest =>
      rw [events_eq, List.singleton_append, List.dropLast_cons_cons] at last
      exact (List.forall_mem_cons.mp last).2
  · intro removing
    rcases next_eq with ⟨_, closes⟩ | receiving
    · cases events_eq : entry.events with
      | nil => rfl
      | cons first rest =>
        rw [events_eq, List.singleton_append, List.dropLast_cons_cons] at last
        rw [(List.forall_mem_cons.mp last).1] at closes
        cases closes
    · rw [receiving] at removing
      cases removing

theorem Flows.removed (flows : Flows emitted (some entry) call)
    (loop_eq : entry.eventLoop = .removing) : Flows emitted none call := by
  have drained : entry.events = [] := flows.orderly.2 loop_eq
  refine ⟨flows.open_eq, flows.subscribed, ?_, trivial⟩
  rw [← flows.carried]
  simp [heldBy, heldIn, feedOf, loop_eq, drained, loopEvents]

section

variable (phase : OpenPhase emitted known found call)

include phase

/-- What is on its way stays so while the call keeps its place, whatever waits for it. -/
theorem OpenPhase.carried_over {later : List SessionServerEvent}
    {subscription : Option (List SessionBroadcastEvent)} {clientTask : ClientTask}
    (grows : emitted <+: later)
    (flows_on : Flows emitted found call → Flows later changedFound
      { call with subscription := subscription, clientTask := clientTask })
    (stays_free : call.stage = .opened → IsFree found → IsFree changedFound) :
    OpenPhase later known changedFound
      { call with subscription := subscription, clientTask := clientTask } := by
  cases phase with
  | unborn stage_eq open_eq nothing => exact .unborn stage_eq open_eq nothing
  | ended stage_eq => exact .ended stage_eq
  | awaiting stage_eq known_eq flows free =>
    exact .awaiting stage_eq known_eq (flows_on flows) (stays_free stage_eq free)
  | serving stage_eq known_eq attached flows =>
    exact .serving stage_eq known_eq attached (flows_on flows)
  | stopped stage_eq closed_eq known_eq attached begun =>
    exact .stopped stage_eq closed_eq known_eq attached (begun.trans grows)

theorem OpenPhase.of_feed (feed_eq : feedOf (some updated) = feedOf found)
    (stays_free : call.stage = .opened → updated.state.attachment = none) :
    OpenPhase emitted known (some updated) call :=
  OpenPhase.carried_over phase List.prefix_rfl (fun flows => flows.of_feed feed_eq)
    fun stage_eq _ => ⟨updated, rfl, stays_free stage_eq⟩

omit phase in
theorem OpenPhase.blind (phase : OpenPhase emitted false found call) :
    OpenPhase emitted known changedFound call := by
  cases phase with
  | unborn stage_eq open_eq nothing => exact .unborn stage_eq open_eq nothing
  | ended stage_eq => exact .ended stage_eq
  | awaiting _ known_eq | serving _ known_eq | stopped _ _ known_eq => cases known_eq

omit phase in
theorem HandlerMove.not_over (move : HandlerMove service call changed) :
    CallStage.isOver call.stage = false := by
  cases move with
  | fails _ stage_eq =>
    rcases stage_eq with stage_eq | stage_eq | stage_eq | stage_eq | stage_eq | ⟨_, stage_eq, _⟩
    all_goals
      rw [stage_eq]
      rfl
  | _ => simp_all [CallStage.isOver]

theorem OpenPhase.handler (formed : WellFormed call) (move : HandlerMove service call changed)
    (accepted : call.stage = .opened → ∀ status, changed.stage ≠ .failed status) :
    OpenPhase emitted known found changed := by
  cases phase with
  | unborn opening =>
    obtain ⟨_, opening⟩ := opening
    cases move <;> simp_all
  | ended ended => simp [HandlerMove.not_over move] at ended
  | awaiting opened =>
    cases move with
    | fails status => exact absurd rfl (accepted opened status)
    | _ => simp_all
  | serving stage known_eq attached flows =>
    cases move with
    | spawns stage_eq =>
      have unspawned := (formed.attached none stage_eq).2.2
      apply OpenPhase.serving
      · exact Or.inr rfl
      · exact known_eq
      · exact attached
      · apply flows.moves_on
        · rfl
        · exact flows.subscribed
        · simp [pending, Call.spawn, unspawned, forwarderEvents]
    | fails => rcases stage with stage | stage <;> simp_all
    | _ => simp_all
  | stopped => cases move <;> simp_all

theorem OpenPhase.forwarder (formed : WellFormed call)
    (keeps_up : ∀ waiting, call.forwarder = some .receiving → call.subscription = some waiting →
      waiting.length ≤ defaultEventChannelCapacity) (move : ForwarderMove call changed) :
    OpenPhase emitted known found changed := by
  have running := move.running
  have same := ForwarderMove.sameCall move
  have stage_same := ForwarderMove.stage_eq move
  cases phase with
  | unborn _ _ nothing => exact absurd nothing.2.2 running
  | ended stage => exact .ended (stage_same ▸ stage)
  | awaiting opened =>
    have unspawned := (formed.early (by rw [opened]; rfl)).2.2
    exact absurd unspawned running
  | serving stage known_eq attached flows =>
    apply OpenPhase.serving
    · rw [stage_same]
      exact stage
    · exact known_eq
    · rw [same.attachment, same.fingerprint]
      exact attached
    · cases move with
      | receives _ _ forwarder_eq subscription_eq =>
        apply flows.moves_on
        · rfl
        · simp
        · simp [pending, forwarder_eq, subscription_eq, forwarderEvents, waitingEvents,
            eventOf_sessionEventToProto]
      | lags waiting forwarder_eq subscription_eq =>
        have fits := keeps_up waiting forwarder_eq subscription_eq
        omega
      | closes forwarder_eq =>
        apply flows.moves_on
        · rfl
        · exact flows.subscribed
        · simp [pending, forwarder_eq, forwarderEvents]
      | sends message forwarder_eq =>
        apply flows.moves_on
        · rfl
        · exact flows.subscribed
        · simp only [pending, eventsOf, forwarder_eq, forwarderEvents, List.filterMap_append]
          cases carried : eventOf message <;> simp [carried]
      | stops _ _ closed_eq =>
        rw [flows.open_eq] at closed_eq
        cases closed_eq
  | stopped stage closed_eq known_eq attached begun =>
    apply OpenPhase.stopped
    · exact stage_same.trans stage
    · exact (ForwarderMove.streamOpen_eq move).trans closed_eq
    · exact known_eq
    · rw [same.attachment, same.fingerprint]
      exact attached
    · rw [same.received]
      exact begun

theorem OpenPhase.drop (move : DropMove call changed) : OpenPhase emitted known found changed := by
  cases move with
  | cancels | refuses => exact .ended rfl
  | closes stage_eq =>
    cases phase with
    | serving _ known_eq attached flows =>
      exact .stopped stage_eq rfl known_eq attached flows.begun
    | stopped stage _ known_eq attached begun =>
      exact .stopped stage rfl known_eq attached begun
    | _ => simp_all [CallStage.isOver]

theorem OpenPhase.reads (stage_eq : call.stage = .returned) (open_eq : call.streamOpen = true)
    {message : SessionServerMessage} {queue : List SessionServerMessage}
    (queue_eq : call.queue = message :: queue) :
    OpenPhase emitted known found
      { call with queue := queue, received := call.received ++ [message] } := by
  cases phase with
  | serving stage known_eq attached flows =>
    apply OpenPhase.serving
    · exact stage
    · exact known_eq
    · exact attached
    · apply flows.moves_on
      · rfl
      · exact flows.subscribed
      · simp only [pending, eventsOf, queue_eq, List.filterMap_append, List.filterMap_cons]
        cases eventOf message <;> simp
  | _ => simp_all [CallStage.isOver]

theorem OpenPhase.created {capabilityName : String}
    (stage_eq : call.stage = .opening capabilityName)
    (feed_eq : feedOf (some entry) = some (.receiving, []))
    (free : entry.state.attachment = none) :
    OpenPhase [] true (some entry) (call.created sessionId) := by
  cases phase with
  | unborn _ open_eq nothing =>
    obtain ⟨received_eq, queue_eq, unspawned⟩ := nothing
    apply OpenPhase.awaiting rfl rfl _ ⟨entry, rfl, free⟩
    refine ⟨open_eq, by simp [Call.created], ?_, ?_⟩
    · simp [Call.created, pending, received_eq, queue_eq, unspawned, forwarderEvents,
        waitingEvents, eventsOf, heldBy, feed_eq, heldIn, loopEvents]
    · simp [feed_eq, Orderly, loopEvents]
  | _ => simp_all [CallStage.isOver]

theorem OpenPhase.attaches (stage_eq : call.stage = .opened)
    (feed_eq : feedOf changedFound = feedOf found) :
    OpenPhase emitted known changedFound
      { call with stage := .attached none, attachment := some ⟨call.setting.fingerprint⟩ } := by
  cases phase with
  | awaiting _ known_eq flows =>
    apply OpenPhase.serving (Or.inl rfl) known_eq rfl
    apply (flows.of_feed feed_eq).moves_on
    · rfl
    · exact flows.subscribed
    · rfl
  | _ => simp_all [CallStage.isOver]

theorem OpenPhase.not_resuming : call.stage ≠ .senderTaken := by
  intro taken
  cases phase <;> simp_all [CallStage.isOver]

theorem OpenPhase.detached :
    OpenPhase emitted known found { call with clientTask := .detached } :=
  OpenPhase.carried_over phase List.prefix_rfl
    (fun flows => ⟨flows.open_eq, flows.subscribed, flows.carried, flows.orderly⟩)
    fun _ free => free

theorem OpenPhase.works (found_eq : found = some entry)
    (move : EntryMove sessionId entry action updated)
    (unclosed : ∀ event, action = .capabilitySends sessionId event → Unclosed entry) :
    OpenPhase (emitted ++ (emission sessionId action).toList) known (some updated) call := by
  subst found_eq
  exact OpenPhase.carried_over phase (List.prefix_append _ _)
    (fun flows => flows.works move unclosed) fun _ free => free.of_same move.keeps.1

theorem OpenPhase.published {broadcast : SessionBroadcastEvent} (found_eq : found = some entry)
    (loop_eq : entry.eventLoop = .publishing broadcast) {eventLoop : LoopPhase}
    (next_eq : eventLoop = .removing ∧ broadcast.event.isClosed = true ∨
      eventLoop = .receiving) :
    OpenPhase emitted known (some { entry with eventLoop := eventLoop })
      { call with
        subscription := call.subscription.map fun waiting => waiting ++ [broadcast] } := by
  subst found_eq
  exact OpenPhase.carried_over phase List.prefix_rfl
    (fun flows => flows.published loop_eq next_eq) fun _ free => free.of_same rfl

theorem OpenPhase.removed (found_eq : found = some entry) (loop_eq : entry.eventLoop = .removing)
    (attached : call.stage ≠ .opened) : OpenPhase emitted known none call := by
  subst found_eq
  exact OpenPhase.carried_over phase List.prefix_rfl (fun flows => flows.removed loop_eq)
    fun opened _ => absurd opened attached

end

end

/-- The calls that are about to attach to the session they opened have different sessions. -/
structure Openers (opened : Table String (Option String)) (calls : Table Nat Call) : Prop where
  known : ∀ number call, calls.lookup number = some call → call.stage = .opened →
    (opened.lookup call.setting.sessionId).isSome = true
  sole : ∀ first second left right, calls.lookup first = some left →
    calls.lookup second = some right → left.stage = .opened → right.stage = .opened →
      left.setting.sessionId = right.setting.sessionId → first = second

section

variable {laterOpened : Table String (Option String)} {calls : Table Nat Call}
variable {service after : ServiceState} {action : ServiceAction}

section

variable (openers : Openers opened calls)

include openers

theorem Openers.of_earlier {later : Table Nat Call}
    (earlier : ∀ number found, later.lookup number = some found → found.stage = .opened → ∃ call,
      calls.lookup number = some call ∧ call.stage = .opened ∧ found.setting.sessionId =
      call.setting.sessionId) : Openers opened later := by
  refine ⟨?_, ?_⟩
  · intro other found found_eq stage_eq
    obtain ⟨call, call_eq, was_opened, session_eq⟩ := earlier other found found_eq stage_eq
    rw [session_eq]
    exact openers.known other call call_eq was_opened
  · intro first second left right left_eq right_eq left_stage right_stage same
    obtain ⟨left_call, left_call_eq, left_opened, left_session⟩ :=
      earlier first left left_eq left_stage
    obtain ⟨right_call, right_call_eq, right_opened, right_session⟩ :=
      earlier second right right_eq right_stage
    rw [left_session, right_session] at same
    exact openers.sole first second left_call right_call left_call_eq right_call_eq left_opened
      right_opened same

theorem Openers.insert
    (before : changed.stage = .opened → ∃ call, calls.lookup number = some call ∧ call.stage =
      .opened ∧ changed.setting.sessionId = call.setting.sessionId) :
    Openers opened (calls.insert number changed) := by
  apply openers.of_earlier
  intro other found found_eq stage_eq
  rcases lookup_insert_cases found_eq with old | ⟨rfl, rfl⟩
  · exact ⟨found, old, stage_eq, rfl⟩
  · exact before stage_eq

theorem Openers.changes (call_eq : calls.lookup number = some call)
    (stage_eq : changed.stage = .opened → call.stage = .opened)
    (session_eq : changed.setting.sessionId = call.setting.sessionId) :
    Openers opened (calls.insert number changed) := by
  apply openers.insert
  intro opened_stage
  exact ⟨call, call_eq, stage_eq opened_stage, session_eq⟩

theorem Openers.creates (new_session : opened.lookup sessionId = none) (owner : Option String) :
    Openers (opened.insert sessionId owner) (calls.insert number (call.created sessionId)) := by
  have different : ∀ other found, calls.lookup other = some found → found.stage = .opened →
      found.setting.sessionId ≠ sessionId := by
    intro other found found_eq stage_eq same
    have known := openers.known other found found_eq stage_eq
    rw [same, new_session] at known
    cases known
  refine ⟨?_, ?_⟩
  · intro other found found_eq stage_eq
    rw [lookup_insert_eq]
    split_ifs with same
    · rfl
    · rcases lookup_insert_cases found_eq with old | ⟨_, rfl⟩
      · exact openers.known other found old stage_eq
      · exact absurd rfl same
  · intro first second left right left_eq right_eq left_stage right_stage same
    rcases lookup_insert_cases left_eq with left_old | ⟨left_number, rfl⟩
    · rcases lookup_insert_cases right_eq with right_old | ⟨_, rfl⟩
      · exact openers.sole first second left right left_old right_old left_stage right_stage same
      · exact absurd same (different first left left_old left_stage)
    · rcases lookup_insert_cases right_eq with right_old | ⟨right_number, _⟩
      · exact absurd same.symm (different second right right_old right_stage)
      · exact left_number.trans right_number.symm

theorem Openers.delivers (sessionId : String) (broadcast : SessionBroadcastEvent) :
    Openers opened (mapValues (deliver sessionId broadcast) calls) := by
  apply openers.of_earlier
  intro other found found_eq stage_eq
  rw [lookup_mapValues] at found_eq
  obtain ⟨call, call_eq, rfl⟩ := Option.map_eq_some_iff.mp found_eq
  refine ⟨call, call_eq, ?_, (deliver_sameCall sessionId broadcast call).session⟩
  unfold deliver at stage_eq
  split_ifs at stage_eq <;> exact stage_eq

end

theorem ServiceMove.openers (move : ServiceMove service action after)
    (openers : Openers service.opened service.calls) : Openers after.opened after.calls := by
  cases move with
  | calls _ _ _ _ new_call =>
    apply openers.insert
    intro stage_eq
    obtain ⟨_, _, _, rfl, arrival⟩ := new_call
    rcases arrival with ⟨_, _, rfl⟩ | ⟨_, rfl⟩ <;> cases stage_eq
  | handles _ _ _ _ _ call_eq move =>
    apply openers.changes call_eq
    · cases move <;> simp [Call.fail, Call.spawn]
    · exact move.sameCall.session
  | forwards _ _ _ call_eq move =>
    apply openers.changes call_eq
    · rw [ForwarderMove.stage_eq move]
      exact id
    · exact move.sameCall.session
  | drops _ _ _ _ _ call_eq move =>
    apply openers.changes call_eq
    · cases move with
      | cancels | refuses =>
        intro opened_stage
        cases opened_stage
      | closes => exact id
    · exact move.sameCall.session
  | creates _ _ _ _ _ _ _ new_session => exact openers.creates new_session _
  | attaches _ _ _ _ _ call_eq | resumes _ _ _ _ _ call_eq =>
    apply openers.changes call_eq
    · intro opened_stage
      cases opened_stage
    · rfl
  | reads _ _ _ _ call_eq | detaches _ _ _ call_eq | leaves number call call_eq =>
    exact openers.changes call_eq id rfl
  | publishes sessionId broadcast => exact openers.delivers sessionId broadcast
  | _ => exact openers

end

/-- The phase of a call when these actions are done. -/
def phaseAfter (done : List ServiceAction) : PhaseOf := fun known found call =>
  OpenPhase (emittedBy call.setting.sessionId done) known found call

theorem phaseAfter_of_sameCall {done : List ServiceAction} (same : SameCall call changed)
    (phase : OpenPhase (emittedBy call.setting.sessionId done) known found changed) :
    phaseAfter done known found changed := by
  rw [phaseAfter, same.session]
  exact phase

theorem phaseAfter_quiet {done : List ServiceAction} {action : ServiceAction}
    (quiet : ∀ sessionId, emission sessionId action = none) :
    phaseAfter (done ++ [action]) = phaseAfter done := by
  funext known found call
  rw [phaseAfter, emittedBy_snoc, quiet, Option.toList_none, List.append_nil]
  rfl

structure PromptInvariant (number : Nat) (done : List ServiceAction) (service : ServiceState) :
    Prop where
  attachments : AttachmentInvariant service
  openers : Openers service.opened service.calls
  silent : ∀ sessionId, service.opened.lookup sessionId = none → emittedBy sessionId done = []
  phase : Tracked (phaseAfter done) number service.opened service.sessions service.calls

section

variable {service after : ServiceState} {action : ServiceAction}
variable {done : List ServiceAction}

section

variable (invariant : PromptInvariant number done service)

include invariant

theorem PromptInvariant.accepted (call_eq : service.calls.lookup number = some call)
    (opens : call.kind = .opens) (stage_eq : call.stage = .opened) (sessionId freshToken : String) :
    ∃ after, stepService service (.handler number sessionId freshToken) = some after ∧
      after.calls.lookup number = some { call with
        stage := .attached none
        attachment := some ⟨call.setting.fingerprint⟩ } := by
  cases invariant.phase call call_eq opens with
  | awaiting _ _ _ free =>
    obtain ⟨_, entry_eq, unattached⟩ := free
    refine ⟨service.attachOpened number call, ?_, ?_⟩
    · simp only [stepService, stepHandler, call_eq, stage_eq]
    · simp [attachOpened, attach, withSessionState, entry_eq, SessionState.tryAttach, unattached]
  | _ => simp_all [CallStage.isOver]

theorem PromptInvariant.works (entry_eq : service.sessions.lookup sessionId = some entry)
    (move : EntryMove sessionId entry action updated)
    (prompt : PromptlyServed number service action) :
    Tracked (phaseAfter (done ++ [action])) number service.opened
      (service.sessions.insert sessionId updated) service.calls := by
  refine invariant.phase.session (fun _ different => AList.lookup_insert_ne different) ?_ ?_
  · intro known found call different phase
    have quiet : emission call.setting.sessionId action = none := by
      cases move with
      | sends => simp [emission, Ne.symm different]
      | _ => rfl
    rw [phaseAfter, emittedBy_snoc, quiet, Option.toList_none, List.append_nil]
    exact phase
  · intro call call_eq same known phase
    rw [entry_eq, phaseAfter, same] at phase
    rw [AList.lookup_insert, phaseAfter, emittedBy_snoc, same]
    apply phase.works rfl move
    rintro event rfl
    exact (prompt.2 call call_eq).1 same.symm entry entry_eq

end

/-- The attach of the opener is not refused. -/
def AcceptsOpener (number : Nat) (service : ServiceState) (action : ServiceAction)
    (after : ServiceState) : Prop :=
  ∀ call sessionId freshToken, action = .handler number sessionId freshToken →
    service.calls.lookup number = some call → call.kind = .opens → call.stage = .opened →
      ∀ changed, after.calls.lookup number = some changed → ∀ status, changed.stage ≠ .failed status

theorem ServiceMove.phaseOf (move : ServiceMove service action after)
    (quiet : ∀ sessionId, emission sessionId action = none)
    (prompt : PromptlyServed number service action)
    (accepted : AcceptsOpener number service action after)
    (invariant : PromptInvariant number done service) :
    Tracked (phaseAfter done) number after.opened after.sessions after.calls := by
  cases move with
  | calls _ _ _ _ new_call =>
    intro call call_eq opens
    rcases lookup_insert_cases call_eq with kept | ⟨_, rfl⟩
    · exact invariant.phase call kept opens
    · obtain ⟨_, _, _, rfl, arrival⟩ := new_call
      rcases arrival with ⟨_, capabilityName, rfl⟩ | ⟨resumes, _⟩
      · exact .unborn ⟨capabilityName, rfl⟩ rfl ⟨rfl, rfl, rfl⟩
      · cases resumes.symm.trans opens
  | handles _ sessionId freshToken earlier changed earlier_eq move =>
    apply invariant.phase.step_call earlier_eq move.sameCall.kind move.sameCall.session
    rintro rfl opens known found phase
    apply phaseAfter_of_sameCall move.sameCall
    apply OpenPhase.handler phase (invariant.attachments.formed number earlier earlier_eq) move
    intro stage_eq status
    exact accepted earlier sessionId freshToken rfl earlier_eq opens stage_eq changed
      (AList.lookup_insert _) status
  | forwards _ earlier _ earlier_eq move =>
    apply invariant.phase.step_call earlier_eq move.sameCall.kind move.sameCall.session
    rintro rfl _ known found phase
    apply phaseAfter_of_sameCall move.sameCall
    apply OpenPhase.forwarder phase (invariant.attachments.formed number earlier earlier_eq)
      _ move
    exact fun waiting => prompt.1 rfl earlier waiting earlier_eq
  | drops _ _ _ _ _ earlier_eq move =>
    apply invariant.phase.step_call earlier_eq move.sameCall.kind move.sameCall.session
    intro _ _ known found phase
    exact phaseAfter_of_sameCall move.sameCall (OpenPhase.drop phase move)
  | creates _ sessionId _ _ _ earlier_eq stage_eq new_session =>
    apply invariant.phase.creates earlier_eq new_session _ OpenPhase.blind
    intro known found phase
    change OpenPhase (emittedBy sessionId done) _ _ _
    rw [invariant.silent _ new_session]
    exact phase.created stage_eq rfl rfl
  | attaches other _ _ earlier _ earlier_eq stage_eq entry_eq =>
    refine invariant.phase.seats earlier_eq entry_eq ?_ ?_ ?_ ?_ <;> try rfl
    · exact fun _ _ phase => phase.attaches stage_eq rfl
    · intro call different call_eq same known phase
      refine phase.of_feed rfl fun opened_stage => ?_
      exact absurd (invariant.openers.sole number other call earlier call_eq earlier_eq
        opened_stage stage_eq same) different
  | resumes _ _ _ earlier entry earlier_eq stage_eq entry_eq _ token_eq =>
    refine invariant.phase.seats earlier_eq entry_eq ?_ ?_ ?_ ?_ <;> try rfl
    · exact fun _ _ phase => absurd stage_eq phase.not_resuming
    · -- nobody resumes a session that its opener is about to attach to
      intro call _ call_eq same known phase
      refine phase.of_feed rfl fun opened_stage => ?_
      exact absurd token_eq ((prompt.2 call call_eq).2 opened_stage earlier entry earlier_eq
        stage_eq same.symm (same ▸ entry_eq))
  | reads _ _ _ _ earlier_eq stage_eq open_eq queue_eq =>
    refine invariant.phase.step_call earlier_eq ?_ ?_ ?_ <;> try rfl
    exact fun _ _ _ _ phase => phase.reads stage_eq open_eq queue_eq
  | detaches _ _ _ earlier_eq _ entry_eq =>
    refine invariant.phase.seats earlier_eq entry_eq ?_ ?_ ?_ ?_ <;> try rfl
    · exact fun _ _ phase => phase.detached.of_feed rfl fun _ => rfl
    · exact fun _ _ _ _ _ phase => phase.of_feed rfl fun _ => rfl
  | leaves _ _ earlier_eq =>
    refine invariant.phase.step_call earlier_eq ?_ ?_ ?_ <;> try rfl
    exact fun _ _ _ _ phase => phase.detached
  | works _ _ _ _ entry_eq move =>
    have tracked := invariant.works entry_eq move prompt
    rw [phaseAfter_quiet quiet] at tracked
    exact tracked
  | publishes _ _ _ _ entry_eq loop_eq next_eq =>
    apply invariant.phase.publishes entry_eq
    exact fun phase => phase.published rfl loop_eq next_eq
  | removes _ entry entry_eq loop_eq =>
    refine invariant.phase.session (fun _ different => AList.lookup_erase_ne different) ?_ ?_
    · exact fun _ phase => phase
    · intro call call_eq same known phase
      rw [AList.lookup_erase]
      apply phase.removed entry_eq loop_eq
      intro opened_stage
      exact (prompt.2 call call_eq).2 opened_stage same.symm entry entry_eq loop_eq
  | lists => exact invariant.phase

theorem capabilitySends_cases
    (moved : stepService service (.capabilitySends sessionId event) = some after) :
    ∃ entry, service.sessions.lookup sessionId = some entry ∧
      after = service.putEntry sessionId { entry with events := entry.events ++ [event] } := by
  simp only [stepService, stepCapabilitySends] at moved
  split at moved
  · cases moved
  · rename_i entry entry_eq
    obtain ⟨_, rfl⟩ := MessageChannels.room_of_map_offer moved
    exact ⟨entry, entry_eq, rfl⟩

theorem ServiceMove.opened_before (move : ServiceMove service action after)
    (unopened : after.opened.lookup sessionId = none) : service.opened.lookup sessionId = none := by
  cases move with
  | creates =>
    rw [lookup_insert_eq] at unopened
    split_ifs at unopened
    exact unopened
  | _ => exact unopened

section

variable (invariant : PromptInvariant number done service)

include invariant

theorem PromptInvariant.sends
    (prompt : PromptlyServed number service (.capabilitySends sessionId event))
    (moved : stepService service (.capabilitySends sessionId event) = some after) :
    PromptInvariant number (done ++ [.capabilitySends sessionId event]) after := by
  have move := stepService_move moved
  have attachments := ServiceMove.attachments move invariant.attachments
  have openers := ServiceMove.openers move invariant.openers
  obtain ⟨entry, entry_eq, after_eq⟩ := capabilitySends_cases moved
  have slot : (ledger service).slot sessionId = some entry.attachmentId := by
    simp [ledger, slotOf, entry_eq]
  have known := invariant.attachments.sound.slot_known sessionId _ slot
  subst after_eq
  refine ⟨attachments, openers, ?_, invariant.works entry_eq (.sends event) prompt⟩
  intro other unopened
  have different : sessionId ≠ other := by
    intro same
    have known_other : (service.opened.lookup other).isSome = true := same ▸ known
    rw [show service.opened.lookup other = none from unopened] at known_other
    cases known_other
  rw [emittedBy_snoc, invariant.silent other unopened]
  simp [emission, different]

theorem PromptInvariant.quiet (quiet : ∀ sessionId, emission sessionId action = none)
    (prompt : PromptlyServed number service action)
    (moved : stepService service action = some after) :
    PromptInvariant number (done ++ [action]) after := by
  have move := stepService_move moved
  have accepted : AcceptsOpener number service action after := by
    intro call sessionId freshToken action_eq call_eq opens stage_eq changed changed_eq status
    obtain ⟨_, attached_moved, attached_eq⟩ :=
      invariant.accepted call_eq opens stage_eq sessionId freshToken
    rw [action_eq, attached_moved] at moved
    cases moved
    rw [attached_eq] at changed_eq
    cases changed_eq
    intro failed
    cases failed
  refine ⟨ServiceMove.attachments move invariant.attachments,
    ServiceMove.openers move invariant.openers, ?_, ?_⟩
  · intro sessionId unopened
    rw [emittedBy_snoc, quiet, Option.toList_none, List.append_nil]
    exact invariant.silent sessionId (ServiceMove.opened_before move unopened)
  · rw [phaseAfter_quiet quiet]
    exact ServiceMove.phaseOf move quiet prompt accepted invariant

theorem PromptInvariant.step (prompt : PromptlyServed number service action)
    (moved : stepService service action = some after) :
    PromptInvariant number (done ++ [action]) after := by
  cases action with
  | capabilitySends => exact invariant.sends prompt moved
  | _ => exact invariant.quiet (fun _ => rfl) prompt moved

end

end

theorem promptInvariant_empty (number : Nat) :
    PromptInvariant number [] empty := by
  refine ⟨attachmentInvariant_empty, ⟨?_, ?_⟩, fun _ _ => rfl, ?_⟩
  · intro other call call_eq
    cases call_eq
  · intro first second left right left_eq
    cases left_eq
  · intro call call_eq
    cases call_eq

/-- The session of the call was created: `SessionManager::open_session` has returned. -/
def IsCreated (call : Call) : Prop :=
  call.kind = .opens ∧ CallStage.isOver call.stage = false ∧
    ∀ capabilityName, call.stage ≠ .opening capabilityName

/-- In every run that leaves the session to its opener until it is attached, in which the capability
sends nothing behind its closing event and the forwarder keeps up, the call of the opener does not
fail: its next step attaches it, or it is attached. While the response stream is open, the events
that the client has received and those on the way are all events that the capability has sent, in
their order. -/
theorem opener_gets_every_event (number : Nat) (actions : List ServiceAction) (final : ServiceState)
    (run : Performs stepService (PromptlyServed number) ServiceState.empty actions final)
    (call : Call) (call_eq : final.calls.lookup number = some call) (created : IsCreated call) :
    (call.stage = .opened ∧ (∀ sessionId freshToken, ∃ after,
        stepService final (.handler number sessionId freshToken) = some after ∧
          after.calls.lookup number = some { call with
            stage := .attached none
            attachment := some ⟨call.setting.fingerprint⟩ }) ∨
      (call.stage = .attached none ∨ call.stage = .returned) ∧
        call.attachment = some ⟨call.setting.fingerprint⟩) ∧
    (call.streamOpen = true → eventsOf call.received ++
      (pending call ++ heldBy (final.sessions.lookup call.setting.sessionId)) =
        emittedBy call.setting.sessionId actions) ∧
    eventsOf call.received <+: emittedBy call.setting.sessionId actions := by
  have invariant : PromptInvariant number actions final :=
    run.invariant (promptInvariant_empty number)
      fun _ _ _ _ before prompt moved => before.step prompt moved
  obtain ⟨opens, not_over, not_opening⟩ := created
  cases invariant.phase call call_eq opens with
  | unborn stage_eq =>
    obtain ⟨capabilityName, opening⟩ := stage_eq
    exact absurd opening (not_opening capabilityName)
  | ended stage_eq => simp [stage_eq] at not_over
  | awaiting stage_eq _ flows =>
    exact ⟨Or.inl ⟨stage_eq, invariant.accepted call_eq opens stage_eq⟩,
      fun _ => flows.carried, flows.begun⟩
  | serving stage_eq _ attached flows =>
    exact ⟨Or.inr ⟨stage_eq, attached⟩, fun _ => flows.carried, flows.begun⟩
  | stopped stage_eq closed_eq _ attached begun =>
    refine ⟨Or.inr ⟨Or.inr stage_eq, attached⟩, ?_, begun⟩
    intro open_eq
    rw [closed_eq] at open_eq
    cases open_eq

/-- The command of an opened session ends at once. The client is attached before the session is
removed, or it is not, or another client finds the session in the list and resumes it first. -/
def unattachedActions : List ServiceAction := openingActions.take 2

def fastCommand : List ServiceAction :=
  emits (.ready none) ++ emits (.exit 0 false none) ++ emits (.closed none)

instance (service : ServiceState) (call : Call) (action : ServiceAction) :
    Decidable (LeavesToOpener service call action) := by
  rcases action
  case handler other _ _ =>
    exact decidable_of_iff (∀ resuming ∈ service.calls.lookup other,
      resuming.stage = .senderTaken → resuming.setting.sessionId = call.setting.sessionId →
        ∀ entry ∈ service.sessions.lookup call.setting.sessionId,
          entry.state.resumeToken ≠ resuming.setting.resumeToken)
      (by simp [LeavesToOpener]; grind)
  all_goals
    unfold LeavesToOpener
    infer_instance

instance (entry : SessionEntry) : Decidable (Unclosed entry) :=
  inferInstanceAs (Decidable (_ ∧ _))

instance (service : ServiceState) (call : Call) (action : ServiceAction) :
    Decidable (SendsBeforeClosed service call action) := by
  rcases action
  all_goals
    unfold SendsBeforeClosed
    infer_instance

instance (number : Nat) (service : ServiceState) (action : ServiceAction) :
    Decidable (PromptlyServed number service action) :=
  inferInstanceAs (Decidable (_ ∧ _))

def attachedActions : List ServiceAction := [.handler 1 "" "", .handler 1 "" ""]

def promptActions : List ServiceAction :=
  unattachedActions ++ fastCommand ++ attachedActions ++ .eventLoop "session" ::
    (readingActions ++ readingActions ++ readingActions)

theorem prompt_opener_reads_fast_command :
    ∃ final call, Performs stepService (PromptlyServed 1) ServiceState.empty promptActions final ∧
      final.calls.lookup 1 = some call ∧ IsCreated call ∧ call.stage = .returned ∧
      eventsOf call.received ++
        (pending call ++ heldBy (final.sessions.lookup call.setting.sessionId)) =
          [.ready none, .exit 0 false none, .closed none] := by
  obtain ⟨final, run, call, call_eq, opens, returned, open_eq, session_eq⟩ :
      ∃ final, Performs stepService (PromptlyServed 1) ServiceState.empty promptActions final ∧
        ∃ call ∈ final.calls.lookup 1, call.kind = .opens ∧ call.stage = .returned ∧
          call.streamOpen = true ∧ call.setting.sessionId = "session" :=
    performs_of_evaluated (by decide +kernel)
  have created : IsCreated call := ⟨opens, by rw [returned]; rfl, by simp [returned]⟩
  refine ⟨final, call, run, call_eq, created, returned, ?_⟩
  rw [(opener_gets_every_event 1 promptActions final run call call_eq created).2.1 open_eq,
    session_eq]
  decide +kernel

/-- The session is gone before its opener is attached. -/
def lateActions : List ServiceAction :=
  unattachedActions ++ fastCommand ++ [.eventLoop "session", .handler 1 "" ""]

/-- Another client lists the sessions and resumes the new one with the token it is told. -/
def overtakenActions : List ServiceAction :=
  unattachedActions ++
    [.listSessions (some "mallory"), .callResume 2 (some "mallory") "session" "first" none none,
      .handler 2 "" "", .handler 2 "" "", .handler 2 "" "", .handler 2 "" "second",
      .handler 1 "" ""]

/-- The opener is attached, and the capability sends output behind its closing event. -/
def trailingActions : List ServiceAction :=
  openingActions ++ [.capabilitySends "session" (.closed none),
    .capabilitySends "session" (.output [] false false none)] ++
    List.replicate 4 (.eventLoop "session") ++ readingActions ++ [.forwarder 1]

/-- A session that ended at once, and one that another client resumed, are errors to their opener.
What is sent behind the closing event does not arrive. -/
theorem late_opener_gets_error :
    (∃ final call, Performs stepService anyAction ServiceState.empty lateActions final ∧
      final.calls.lookup 1 = some call ∧ IsCreated call ∧
      call.stage = .failed (statusFromSessionError .notFound)) ∧
    (∃ final call, Performs stepService anyAction ServiceState.empty overtakenActions final ∧
      final.calls.lookup 1 = some call ∧ IsCreated call ∧
      call.stage = .failed (statusFromSessionError .alreadyAttached)) ∧
    ∃ final call, Performs stepService anyAction ServiceState.empty trailingActions final ∧
      final.calls.lookup 1 = some call ∧ IsCreated call ∧ call.forwarder = some .ended ∧
      eventsOf call.received = [.closed none] ∧
      emittedBy "session" trailingActions = [.closed none, .output [] false false none] := by
  have fails (actions : List ServiceAction) (error : SessionManagerError)
      (evaluated : ∃ final ∈ runPermitted stepService anyAction ServiceState.empty actions,
        ∃ call ∈ final.calls.lookup 1, call.kind = .opens ∧
          call.stage = .failed (statusFromSessionError error)) :
      ∃ final call, Performs stepService anyAction ServiceState.empty actions final ∧
        final.calls.lookup 1 = some call ∧ IsCreated call ∧
        call.stage = .failed (statusFromSessionError error) := by
    obtain ⟨final, run, call, call_eq, opens, failed⟩ := performs_of_evaluated evaluated
    exact ⟨final, call, run, call_eq, ⟨opens, by rw [failed]; rfl, by simp [failed]⟩, failed⟩
  refine ⟨?_, ?_, ?_⟩
  · exact fails lateActions .notFound (by decide +kernel)
  · exact fails overtakenActions .alreadyAttached (by decide +kernel)
  · obtain ⟨final, run, call, call_eq, opens, returned, ended, received_eq⟩ :
        ∃ final, Performs stepService anyAction ServiceState.empty trailingActions final ∧
          ∃ call ∈ final.calls.lookup 1, call.kind = .opens ∧ call.stage = .returned ∧
            call.forwarder = some .ended ∧ eventsOf call.received = [.closed none] :=
      performs_of_evaluated (by decide +kernel)
    exact ⟨final, call, run, call_eq, ⟨opens, by rw [returned]; rfl, by simp [returned]⟩, ended,
      received_eq, by decide +kernel⟩

end HandControl.PromptAttachment
