import HandControl.ShellInteractive

/-!
# Detaching from an interactive session

The client ends its input with a request to close, `forward_client_events` passes on what it reads
and detaches at the end, and the main task of the shell reacts to each event. The messages not read
yet are one queue, which is lost when the connection breaks. A session has one client at a time.
-/

namespace HandControl.SessionDetach

open ByteEncoding CapabilityParameters CapabilitySessions EventTranscripts
open ShellInteractive TransitionRuns Shell

inductive ClientPayload where
  | opens
  | input (data : Bytes) (binary : Option Bool)
  | resize (cols rows : Nat)
  | heartbeat (timestampMs : Int)
  | close (reason : Option String)
  | resume (resumeToken : String) (lastOutputSequence lastErrorSequence : Option Nat)
deriving DecidableEq

structure SessionClientMessage where
  sessionId : String
  payload : Option ClientPayload
deriving DecidableEq

def clientMessageToEvent (message : SessionClientMessage) : Option SessionClientEvent :=
  match message.payload with
  | some (.input data binary) => some (.input data (binary.getD false))
  | some (.resize cols rows) => some (.resize cols rows)
  | some (.heartbeat timestampMs) => some (.heartbeat timestampMs)
  | some (.close reason) => some (.close reason)
  | some (.resume resumeToken lastOutputSequence lastErrorSequence) =>
    some (.resume resumeToken lastOutputSequence lastErrorSequence)
  | none => none
  | some .opens => none

def forwardedEvent (sessionId : String) (message : SessionClientMessage) :
    Option SessionClientEvent :=
  if message.sessionId ≠ "" ∧ message.sessionId ≠ sessionId then none
  else
    match clientMessageToEvent message with
    | some (.resume _ _ _) => none
    | event => event

inductive ClientApp where
  | cli
  | android
deriving DecidableEq

inductive ClientPhase where
  | connected
  | detaching
  | finished
deriving DecidableEq

inductive ForwarderPhase where
  | reading
  | sending (event : SessionClientEvent)
  | detached
deriving DecidableEq

/-- A session with its client. `wire` are the messages that the server has not read, and `wireEnded`
says that no further one comes. `listed` and `attachment` are the manager's entry. -/
structure Link where
  app : ClientApp
  client : ClientPhase
  wire : List SessionClientMessage
  wireEnded : Bool
  forwarder : ForwarderPhase
  listed : Bool
  attachment : Option AttachmentState
  shell : Shell
deriving DecidableEq

def Link.opened (definition : ShellInteractiveDefinition) (app : ClientApp)
    (clientFingerprint : Option String) : Link where
  app := app
  client := .connected
  wire := []
  wireEnded := false
  forwarder := .reading
  listed := true
  attachment := some { clientFingerprint := clientFingerprint }
  shell := Shell.opened definition

/-- Ctrl+]. -/
def detachByte : UInt8 := 0x1d

def inputBufferSize : Nat := 1024

namespace Link

def post (link : Link) (sessionId : String) (payload : ClientPayload) : Link :=
  { link with wire := link.wire ++ [{ sessionId := sessionId, payload := some payload }] }

/-- What the input task of the command line client makes of a chunk. The bytes in front of
Ctrl+] are still sent. -/
def typeChunk (link : Link) (sessionId : String) (chunk : Bytes) : Link :=
  let typed := chunk.takeWhile (· != detachByte)
  let posted := if typed = [] then link else link.post sessionId (.input typed (some false))
  if chunk.contains detachByte then { posted with client := .detaching } else posted

def stepTypes (link : Link) (sessionId : String) (chunk : Bytes) : Option Link :=
  if link.client = .connected ∧ chunk ≠ [] then
    match link.app with
    | .cli =>
      if chunk.length ≤ inputBufferSize then some (link.typeChunk sessionId chunk) else none
    | .android => some (link.post sessionId (.input chunk none))
  else none

/-- `detachSession` of the Android app. -/
def stepDetachSession (link : Link) : Option Link :=
  if link.app = .android ∧ link.client = .connected then
    some { link with client := .detaching }
  else none

/-- The last message of a client that detaches. Its end of the stream is dropped with it. -/
def stepSaysClose (link : Link) (sessionId : String) : Option Link :=
  if link.client = .detaching then
    some
      { link.post sessionId (.close (some "Client detached")) with
        client := .finished
        wireEnded := true }
  else none

def detach (link : Link) : Link :=
  { link with forwarder := .detached, attachment := none }

def stepForwarderReads (link : Link) (sessionId : String) : Option Link :=
  match link.forwarder, link.wire with
  | .reading, message :: wire =>
    match forwardedEvent sessionId message with
    | some event => some { link with wire := wire, forwarder := .sending event }
    | none => some { link with wire := wire }
  | .reading, [] => if link.wireEnded then some link.detach else none
  | _, _ => none

/-- The event goes to the shell, whose main task drops its end of the channel when it ends. -/
def stepForwarderSends (link : Link) (definition : ShellInteractiveDefinition) : Option Link :=
  match link.forwarder with
  | .sending event =>
    if link.shell.phase = .ended then some link.detach
    else
      (stepShell definition link.shell (.clientSends event)).map fun shell =>
        { link with shell := shell, forwarder := .reading }
  | _ => none

/-- The steps of the shell's own tasks and of its event loop. Clients send through the
forwarder, and the senders are gone when the forwarder and the manager's entry are. -/
def stepShellTask (link : Link) (definition : ShellInteractiveDefinition)
    (action : ShellAction) : Option Link :=
  match action with
  | .clientSends _ => none
  | .clientsLeave =>
    if link.listed = false ∧ link.forwarder = .detached then
      some { link with shell := { link.shell with sendersGone := true } }
    else none
  | _ => (stepShell definition link.shell action).map fun shell => { link with shell := shell }

def stepRemoves (link : Link) : Option Link :=
  if link.shell.channel.loopEnded then some { link with listed := false, attachment := none }
  else none

def stepReattaches (link : Link) (app : ClientApp) (clientFingerprint : Option String) :
    Option Link :=
  if link.listed = true ∧ link.attachment = none ∧ link.forwarder = .detached then
    some
      { link with
        app := app
        client := .connected
        wire := []
        wireEnded := false
        forwarder := .reading
        attachment := some { clientFingerprint := clientFingerprint } }
  else none

end Link

inductive LinkAction where
  | types (chunk : Bytes)
  | resizes (cols rows : Nat)
  | beats (timestampMs : Int)
  /-- The end of the standard input, or the user closes the session. -/
  | closes (reason : Option String)
  | detachSession
  | saysClose
  | connectionBreaks
  | forwarderReads
  | forwarderSends
  | shellTask (action : ShellAction)
  | removes
  | reattaches (app : ClientApp) (clientFingerprint : Option String)
deriving DecidableEq

def stepLink (definition : ShellInteractiveDefinition) (sessionId : String) (link : Link) :
    LinkAction → Option Link
  | .types chunk => link.stepTypes sessionId chunk
  | .resizes cols rows =>
    if link.client = .finished then none else some (link.post sessionId (.resize cols rows))
  | .beats timestampMs =>
    if link.client = .connected then some (link.post sessionId (.heartbeat timestampMs))
    else none
  | .closes reason =>
    if link.client = .connected then
      some { link.post sessionId (.close reason) with client := .finished, wireEnded := true }
    else none
  | .detachSession => link.stepDetachSession
  | .saysClose => link.stepSaysClose sessionId
  | .connectionBreaks => some { link with client := .finished, wire := [], wireEnded := true }
  | .forwarderReads => link.stepForwarderReads sessionId
  | .forwarderSends => link.stepForwarderSends definition
  | .shellTask action => link.stepShellTask definition action
  | .removes => link.stepRemoves
  | .reattaches app clientFingerprint => link.stepReattaches app clientFingerprint

def isServing : ControlPhase → Bool
  | .selecting => true
  | .writing _ => true
  | .acknowledging _ => true
  | _ => false

def isOver : ControlPhase → Bool
  | .joining => true
  | .ended => true
  | _ => false

variable {phase next : ControlPhase} {event : SessionServerEvent} {sent : Bool}
variable {channel : EventChannel} {action : ShellAction} {shell : Shell}

theorem isServing_of_isOver (is_over : isOver phase = true) : isServing phase = false := by
  cases phase <;> first | rfl | cases is_over

def ChildRuns (shell : Shell) : Prop :=
  shell.reader ≠ .absent ∧ shell.exitReport = none

/-- The main task serves a process that runs, and the event loop of the session ends after
it. -/
structure Course (shell : Shell) : Prop where
  served : ChildRuns shell → isServing shell.phase = true
  queued : (∃ event ∈ shell.channel.queue, event.isClosed = true) → isOver shell.phase = true
  loop_ended : shell.channel.loopEnded = true → isOver shell.phase = true

theorem opened_course (definition : ShellInteractiveDefinition) :
    Course (opened definition) := by
  refine ⟨?_, ?_, ?_⟩
  · rintro ⟨started, _⟩
    exact absurd rfl started
  · rintro ⟨_, member, _⟩
    cases member
  · intro ended
    cases ended

section

variable {definition : ShellInteractiveDefinition} {after : Shell}

section

variable (course : Course shell)

include course

theorem Course.idle (idle : isServing shell.phase = false) : ¬ ChildRuns shell := by
  intro runs
  rw [course.served runs] at idle
  cases idle

theorem Course.of_channel (channel_eq : after.channel = shell.channel)
    (is_over : isOver shell.phase = true → isOver after.phase = true)
    (served : ChildRuns after → isServing after.phase = true) : Course after := by
  refine ⟨served, ?_, ?_⟩
  · rw [channel_eq]
    exact fun closed => is_over (course.queued closed)
  · rw [channel_eq]
    exact fun ended => is_over (course.loop_ended ended)

theorem Course.of_same (channel_eq : after.channel = shell.channel)
    (phase_eq : after.phase = shell.phase) (runs : ChildRuns after → ChildRuns shell) :
    Course after := by
  apply course.of_channel channel_eq
  · rw [phase_eq]
    exact id
  · rw [phase_eq]
    exact fun running => course.served (runs running)

theorem Course.send (moved : shell.channel.send event = some (sent, channel))
    (channel_eq : after.channel = channel)
    (is_over : isOver shell.phase = true → isOver after.phase = true)
    (closes : event.isClosed = true → isOver after.phase = true)
    (served : ChildRuns after → isServing after.phase = true) : Course after := by
  rcases send_cases moved with ⟨_, _, sent_eq⟩ | ⟨running, _, sent_eq⟩
  · exact course.of_channel (channel_eq.trans sent_eq) is_over served
  · have after_eq := channel_eq.trans sent_eq
    refine ⟨served, ?_, ?_⟩
    · rw [after_eq]
      rintro ⟨other, member, closed⟩
      rcases List.mem_append.mp member with before | now
      · exact is_over (course.queued ⟨other, before, closed⟩)
      · rw [List.mem_singleton] at now
        rw [now] at closed
        exact closes closed
    · rw [after_eq]
      exact fun ended => is_over (course.loop_ended ended)

theorem Course.of_early (channel_eq : after.channel = shell.channel)
    (early : isOver shell.phase = false) (served : ChildRuns after → isServing after.phase = true) :
    Course after := by
  apply course.of_channel channel_eq _ served
  intro is_over
  rw [early] at is_over
  cases is_over

theorem announces_course {reader : ReaderPhase}
    (announced : Announces definition shell.phase event next)
    (reader_eq : reader = if shell.phase = .readying then .reading else shell.reader)
    (send_eq : shell.channel.send event = some (sent, channel)) :
    Course { shell with channel := channel, phase := next, reader := reader } := by
  have idle := course.idle
  apply course.send send_eq
  · rfl
  all_goals generalize shell.phase = phase at announced reader_eq idle
  · intro is_over
    cases announced <;> cases is_over
  · intro closes
    cases announced with
    | closed => rfl
    | _ => cases closes
  · intro runs
    cases announced with
    | ready | beat => rfl
    | exit | closed =>
      subst reader_eq
      exact absurd runs (idle rfl)

end

theorem isServing_of_active (active : Fits phase .active) (running : isReporting phase = false) :
    isServing phase = true := by
  cases phase <;> simp_all [Fits, isReporting, isServing]

theorem staysActive_course (stays : StaysActive shell after) (course : Course shell) :
    Course after := by
  apply course.of_channel stays.channel_eq
  · intro is_over
    rw [stays.selecting] at is_over
    cases is_over
  · intro _
    exact isServing_of_active stays.active stays.running

theorem receive_course (course : Course shell)
    (moved : shell.channel.receive (decide (shell.phase = .ended)) = some channel) :
    Course { shell with channel := channel } := by
  unfold EventChannel.receive at moved
  split at moved
  · cases moved
  split at moved
  next event queue queue_eq =>
    split at moved
    next closes =>
      cases moved
      have is_over := course.queued ⟨event, by simp [queue_eq], closes⟩
      exact ⟨course.served, fun _ => is_over, fun _ => is_over⟩
    next =>
      cases moved
      refine ⟨course.served, ?_, course.loop_ended⟩
      rintro ⟨other, member, closed⟩
      exact course.queued ⟨other, by rw [queue_eq]; exact List.mem_cons_of_mem _ member, closed⟩
  next =>
    split at moved
    next gone =>
      cases moved
      rw [Bool.and_eq_true] at gone
      have is_over : isOver shell.phase = true := by rw [of_decide_eq_true gone.1]; rfl
      exact ⟨course.served, course.queued, fun _ => is_over⟩
    next => cases moved

theorem Course.of_reader (course : Course shell) (channel_eq : after.channel = shell.channel)
    (phase_eq : after.phase = shell.phase) (report_eq : after.exitReport = shell.exitReport)
    (started : shell.reader ≠ .absent) : Course after := by
  apply course.of_same channel_eq phase_eq
  rintro ⟨_, unreported⟩
  exact ⟨started, report_eq.symm.trans unreported⟩

theorem stepShell_course (course : Course shell)
    (moved : stepShell definition shell action = some after) : Course after := by
  cases stepShell_move moved with
  | starts _ _ phase_eq =>
    have idle := course.idle (by rw [phase_eq]; rfl)
    exact course.of_early rfl (by rw [phase_eq]; rfl) fun runs => absurd runs idle
  | announces _ _ _ _ _ announced reader_eq send_eq =>
    exact announces_course course announced reader_eq send_eq
  | writes _ phase_eq => exact course.of_early rfl (by rw [phase_eq]; rfl) fun _ => rfl
  | joins phase_eq =>
    have idle := course.idle (by rw [phase_eq]; rfl)
    exact course.of_channel rfl (fun _ => rfl) fun runs => absurd runs idle
  | takesExit _ _ phase_eq report_eq =>
    refine course.of_early rfl (by rw [phase_eq]; rfl) ?_
    rintro ⟨_, unreported⟩
    rw [report_eq] at unreported
    cases unreported
  | receives event inbound phase_eq =>
    exact staysActive_course (onClientEvent_staysActive phase_eq inbound event) course
  | kills _ cause metadata idle max phase_eq =>
    exact staysActive_course (terminateChild_staysActive phase_eq idle max cause metadata) course
  | reads _ _ reader_eq | readerEnds reader_eq => apply course.of_reader <;> simp [reader_eq]
  | readerSends _ _ _ _ reader_eq send_eq =>
    apply course.send send_eq
    · rfl
    · exact id
    · intro closes
      cases closes
    · rintro ⟨_, unreported⟩
      exact course.served ⟨by simp [reader_eq], unreported⟩
  | childEnds =>
    apply course.of_same
    · rfl
    · rfl
    · rintro ⟨_, unreported⟩
      cases unreported
  | clientSends | clientsLeave => exact course.of_same rfl rfl id
  | openerReturns => exact ⟨course.served, course.queued, course.loop_ended⟩
  | loopReceives _ received => exact receive_course course received

end

/-- What the steps leave that neither serve a client nor fire a timer. -/
structure Frame (shell after : Shell) : Prop where
  inbound_eq : after.inbound = shell.inbound
  terminated_eq : after.terminated = shell.terminated
  senders_eq : after.sendersGone = shell.sendersGone
  loop_ended : shell.channel.loopEnded = true → after.channel.loopEnded = true

section

variable {definition : ShellInteractiveDefinition} {after : Shell}

theorem send_loopEnded {next : EventChannel} (moved : channel.send event = some (sent, next))
    (ended : channel.loopEnded = true) : next.loopEnded = true := by
  rcases send_cases moved with ⟨_, _, next_eq⟩ | ⟨running, _⟩
  · rw [next_eq]
    exact ended
  · rw [running] at ended
    cases ended

theorem receive_running {next : EventChannel} {producersGone : Bool}
    (moved : channel.receive producersGone = some next) : channel.loopEnded = false := by
  unfold EventChannel.receive at moved
  split at moved
  · cases moved
  · rename_i running
    simpa using running

/-- An action that touches neither the clients' channel nor a timer. -/
def isInternal : ShellAction → Bool
  | .receives => false
  | .idleElapses => false
  | .maxElapses => false
  | .clientSends _ => false
  | .clientsLeave => false
  | _ => true

theorem stepShell_frame (internal : isInternal action = true)
    (moved : stepShell definition shell action = some after) : Frame shell after := by
  cases stepShell_move moved with
  | announces _ _ _ _ _ _ _ send_eq | readerSends _ _ _ _ _ send_eq =>
    exact ⟨rfl, rfl, rfl, send_loopEnded send_eq⟩
  | loopReceives _ received =>
    refine ⟨rfl, rfl, rfl, ?_⟩
    intro ended
    rw [receive_running received] at ended
    cases ended
  | receives | clientSends | clientsLeave => cases internal
  | kills _ _ _ _ _ _ way =>
    rcases way with ⟨rfl, _⟩ | ⟨rfl, _⟩ | ⟨rfl, _⟩ <;> cases internal
  | _ => exact ⟨rfl, rfl, rfl, id⟩

end

def isClose : SessionClientEvent → Bool
  | .close _ => true
  | _ => false

/-- A call of `terminate_child` that a client has brought about. -/
def isClientMade : KillCause → Bool
  | .closeRequest => true
  | .disconnected => true
  | _ => false

/-- No client has asked the shell to close or has left it, and none of the events that wait
for it does. -/
structure Untroubled (shell : Shell) : Prop where
  kept_open : ∀ event ∈ shell.inbound, isClose event = false
  unkilled : ∀ cause ∈ shell.terminated, isClientMade cause = false

section

variable {definition : ShellInteractiveDefinition} {after : Shell}

theorem Frame.untroubled (frame : Frame shell after) (untroubled : Untroubled shell) :
    Untroubled after := by
  refine ⟨?_, ?_⟩
  · rw [frame.inbound_eq]
    exact untroubled.kept_open
  · rw [frame.terminated_eq]
    exact untroubled.unkilled

theorem terminateChild_untroubled {cause : KillCause} {metadata : ExitMetadata}
    (untroubled : Untroubled shell) (own : isClientMade cause = false) :
    Untroubled (shell.terminateChild cause metadata) := by
  refine ⟨untroubled.kept_open, List.forall_mem_append.mpr ⟨untroubled.unkilled, ?_⟩⟩
  exact List.forall_mem_singleton.mpr own

theorem stepShell_untroubled (untroubled : Untroubled shell)
    (present : shell.phase = .selecting → shell.sendersGone = false)
    (serves : action = .receives ∨ action = .idleElapses ∨ action = .maxElapses)
    (moved : stepShell definition shell action = some after) : Untroubled after := by
  cases stepShell_move moved with
  | receives event inbound _ inbound_eq =>
    have harmless := untroubled.kept_open event (by rw [inbound_eq]; exact List.mem_cons_self)
    have rest_open : ∀ other ∈ inbound, isClose other = false := by
      intro other member
      apply untroubled.kept_open
      rw [inbound_eq]
      exact List.mem_cons_of_mem _ member
    cases event with
    | close => cases harmless
    | _ => exact ⟨rest_open, untroubled.unkilled⟩
  | kills _ _ _ _ _ phase_eq way =>
    refine terminateChild_untroubled ⟨untroubled.kept_open, untroubled.unkilled⟩ ?_
    rcases way with ⟨_, _, gone⟩ | ⟨_, rfl⟩ | ⟨_, rfl⟩
    · rw [present phase_eq] at gone
      cases gone
    · rfl
    · rfl
  | _ => simp at serves

theorem clientSends_cases {event : SessionClientEvent}
    (moved : stepShell definition shell (.clientSends event) = some after) :
    after = { shell with inbound := shell.inbound ++ [event] } := by
  cases stepShell_move moved with
  | clientSends => rfl
  | kills _ _ _ _ _ _ way => simp at way

theorem clientSends_untroubled {event : SessionClientEvent} (untroubled : Untroubled shell)
    (harmless : isClose event = false) :
    Untroubled { shell with inbound := shell.inbound ++ [event] } := by
  refine ⟨List.forall_mem_append.mpr ⟨untroubled.kept_open, ?_⟩, untroubled.unkilled⟩
  exact List.forall_mem_singleton.mpr harmless

end

def SessionClientMessage.isClose (message : SessionClientMessage) : Bool :=
  match message.payload with
  | some (.close _) => true
  | _ => false

/-- The request to close is lost with the connection, and is not read by the server. -/
def CloseUndelivered (link : Link) : LinkAction → Prop
  | .forwarderReads => ∀ message ∈ link.wire.head?, message.isClose = false
  | _ => True

structure LinkInvariant (link : Link) : Prop where
  course : Course link.shell
  untroubled : Untroubled link.shell
  forwarded : ∀ event, link.forwarder = .sending event → isClose event = false
  listing : link.listed = false → link.shell.channel.loopEnded = true
  senders : link.shell.sendersGone = true → link.listed = false
  released : link.forwarder = .detached → link.attachment = none

theorem opened_invariant (definition : ShellInteractiveDefinition) (app : ClientApp)
    (clientFingerprint : Option String) :
    LinkInvariant (Link.opened definition app clientFingerprint) := by
  refine ⟨opened_course definition, ⟨?_, ?_⟩, ?_, ?_, ?_, ?_⟩
  · intro event member
    cases member
  · intro cause member
    cases member
  · intro event sending
    cases sending
  · intro unlisted
    cases unlisted
  · intro gone
    cases gone
  · intro detached
    cases detached

section

variable {definition : ShellInteractiveDefinition} {sessionId : String} {link after : Link}

section

variable (holds : LinkInvariant link)

include holds

theorem LinkInvariant.of_client (shell_eq : after.shell = link.shell)
    (forwarder_eq : after.forwarder = link.forwarder) (listed_eq : after.listed = link.listed)
    (attachment_eq : after.attachment = link.attachment) : LinkInvariant after := by
  refine ⟨?_, ?_, ?_, ?_, ?_, ?_⟩
  · rw [shell_eq]
    exact holds.course
  · rw [shell_eq]
    exact holds.untroubled
  · rw [forwarder_eq]
    exact holds.forwarded
  · rw [shell_eq, listed_eq]
    exact holds.listing
  · rw [shell_eq, listed_eq]
    exact holds.senders
  · rw [forwarder_eq, attachment_eq]
    exact holds.released

theorem LinkInvariant.of_shell (course : Course shell) (untroubled : Untroubled shell)
    (loop_ended : link.shell.channel.loopEnded = true → shell.channel.loopEnded = true)
    (senders_eq : shell.sendersGone = link.shell.sendersGone) :
    LinkInvariant { link with shell := shell } := by
  refine ⟨course, untroubled, holds.forwarded, ?_, ?_, holds.released⟩
  · exact fun unlisted => loop_ended (holds.listing unlisted)
  · intro gone
    exact holds.senders (senders_eq.symm.trans gone)

/-- While the main task is in its loop, the manager still holds a sender. -/
theorem LinkInvariant.senders_present (selecting : link.shell.phase = .selecting) :
    link.shell.sendersGone = false := by
  rw [Bool.eq_false_iff]
  intro gone
  have is_over := holds.course.loop_ended (holds.listing (holds.senders gone))
  rw [selecting] at is_over
  cases is_over

theorem LinkInvariant.of_staysActive (stays : StaysActive link.shell shell)
    (untroubled : Untroubled shell) : LinkInvariant { link with shell := shell } := by
  apply holds.of_shell (staysActive_course stays holds.course) untroubled
  · rw [stays.channel_eq]
    exact id
  · exact stays.senders_eq

theorem stepShellTask_invariant (moved : link.stepShellTask definition action = some after) :
    LinkInvariant after := by
  by_cases internal : isInternal action = true
  · have stepped : (stepShell definition link.shell action).map
        (fun shell => { link with shell := shell }) = some after := by
      cases action <;> first | exact moved | cases internal
    obtain ⟨_, shell_moved, after_eq⟩ := Option.map_eq_some_iff.mp stepped
    subst after_eq
    have frame := stepShell_frame internal shell_moved
    exact holds.of_shell (stepShell_course holds.course shell_moved)
      (frame.untroubled holds.untroubled) frame.loop_ended frame.senders_eq
  · cases action with
    | receives | idleElapses | maxElapses =>
      obtain ⟨_, shell_moved, after_eq⟩ := Option.map_eq_some_iff.mp moved
      subst after_eq
      exact holds.of_staysActive (stepShell_staysActive shell_moved (by simp))
        (stepShell_untroubled holds.untroubled holds.senders_present (by simp) shell_moved)
    | clientSends => cases moved
    | clientsLeave =>
      simp only [Link.stepShellTask] at moved
      split at moved
      next gone =>
        cases moved
        have course : Course { link.shell with sendersGone := true } :=
          holds.course.of_same rfl rfl id
        refine ⟨course, ⟨holds.untroubled.kept_open, holds.untroubled.unkilled⟩,
          holds.forwarded, holds.listing, ?_, holds.released⟩
        exact fun _ => gone.1
      next => cases moved
    | _ => exact absurd rfl internal

end

theorem forwardedEvent_harmless {message : SessionClientMessage} {event : SessionClientEvent}
    (harmless : message.isClose = false)
    (forwarded : forwardedEvent sessionId message = some event) : isClose event = false := by
  obtain ⟨_, payload⟩ := message
  unfold forwardedEvent at forwarded
  split at forwarded
  · cases forwarded
  · cases payload with
    | none => cases forwarded
    | some payload =>
      cases payload with
      | close => cases harmless
      | opens | resume => cases forwarded
      | _ =>
        cases forwarded
        rfl

section

variable (holds : LinkInvariant link)

include holds

theorem detach_invariant : LinkInvariant link.detach := by
  refine ⟨holds.course, holds.untroubled, ?_, holds.listing, holds.senders, fun _ => rfl⟩
  intro event sending
  cases sending

theorem stepForwarderReads_invariant
    (undelivered : ∀ message ∈ link.wire.head?, message.isClose = false)
    (moved : link.stepForwarderReads sessionId = some after) : LinkInvariant after := by
  unfold Link.stepForwarderReads at moved
  split at moved
  next message wire reading wire_eq =>
    have harmless := undelivered message (by rw [wire_eq]; rfl)
    split at moved
    next event forwarded =>
      cases moved
      refine ⟨holds.course, holds.untroubled, ?_, holds.listing, holds.senders, ?_⟩
      · intro other sending
        cases sending
        exact forwardedEvent_harmless harmless forwarded
      · intro detached
        cases detached
    next =>
      cases moved
      exact ⟨holds.course, holds.untroubled, holds.forwarded, holds.listing, holds.senders,
        holds.released⟩
  next =>
    split at moved <;> cases moved
    exact detach_invariant holds
  next => cases moved

theorem stepForwarderSends_invariant (moved : link.stepForwarderSends definition = some after) :
    LinkInvariant after := by
  unfold Link.stepForwarderSends at moved
  split at moved
  next event sending =>
    split at moved
    · cases moved
      exact detach_invariant holds
    · obtain ⟨_, shell_moved, after_eq⟩ := Option.map_eq_some_iff.mp moved
      have course := stepShell_course holds.course shell_moved
      have shell_eq := clientSends_cases shell_moved
      have untroubled := clientSends_untroubled holds.untroubled (holds.forwarded event sending)
      rw [← shell_eq] at untroubled
      have of_shell := holds.of_shell course untroubled (by rw [shell_eq]; exact id)
        (by rw [shell_eq])
      cases after_eq
      refine ⟨of_shell.course, of_shell.untroubled, ?_, of_shell.listing, of_shell.senders, ?_⟩
      · intro other contrary
        cases contrary
      · intro contrary
        cases contrary
  next => cases moved

theorem stepLink_invariant {action : LinkAction} (undelivered : CloseUndelivered link action)
    (moved : stepLink definition sessionId link action = some after) : LinkInvariant after := by
  cases action with
  | types =>
    simp only [stepLink, Link.stepTypes] at moved
    split at moved
    next =>
      split at moved
      next =>
        split at moved <;> cases moved
        unfold Link.typeChunk
        dsimp only
        split_ifs <;> apply holds.of_client <;> rfl
      next =>
        cases moved
        apply holds.of_client <;> rfl
    next => cases moved
  | resizes | beats | closes =>
    simp only [stepLink] at moved
    split at moved <;> cases moved
    apply holds.of_client <;> rfl
  | detachSession =>
    simp only [stepLink, Link.stepDetachSession] at moved
    split at moved <;> cases moved
    apply holds.of_client <;> rfl
  | saysClose =>
    simp only [stepLink, Link.stepSaysClose] at moved
    split at moved <;> cases moved
    apply holds.of_client <;> rfl
  | connectionBreaks =>
    cases moved
    apply holds.of_client <;> rfl
  | forwarderReads => exact stepForwarderReads_invariant holds undelivered moved
  | forwarderSends => exact stepForwarderSends_invariant holds moved
  | shellTask => exact stepShellTask_invariant holds moved
  | removes =>
    simp only [stepLink, Link.stepRemoves] at moved
    split at moved
    next ended =>
      cases moved
      exact ⟨holds.course, holds.untroubled, holds.forwarded, fun _ => ended, fun _ => rfl,
        fun _ => rfl⟩
    next => cases moved
  | reattaches =>
    simp only [stepLink, Link.stepReattaches] at moved
    split at moved
    next free =>
      cases moved
      refine ⟨holds.course, holds.untroubled, ?_, holds.listing, holds.senders, ?_⟩
      · intro event sending
        cases sending
      · intro detached
        cases detached
    next => cases moved

end

end

/-- If no request to close reaches the server, no client makes it send SIGTERM to the shell, and a
session whose client stream has ended is listed with nobody attached while its process runs. -/
theorem detached_session_survives (definition : ShellInteractiveDefinition)
    (sessionId : String) (app : ClientApp) (clientFingerprint : Option String) (final : Link)
    (run : Reaches (stepLink definition sessionId) CloseUndelivered
      (Link.opened definition app clientFingerprint) final) :
    (∀ cause ∈ final.shell.terminated, isClientMade cause = false) ∧
      (final.forwarder = .detached → ChildRuns final.shell →
        final.listed = true ∧ final.attachment = none) := by
  have holds : LinkInvariant final :=
    run.invariant (opened_invariant definition app clientFingerprint)
      fun _ _ _ before undelivered moved => stepLink_invariant before undelivered moved
  refine ⟨holds.untroubled.unkilled, ?_⟩
  intro detached runs
  refine ⟨?_, holds.released detached⟩
  cases listed : final.listed with
  | true => rfl
  | false =>
    have is_over := holds.course.loop_ended (holds.listing listed)
    exact absurd runs (holds.course.idle (isServing_of_isOver is_over))

instance (link : Link) (action : LinkAction) : Decidable (CloseUndelivered link action) := by
  cases action <;> unfold CloseUndelivered <;> infer_instance

/-- The user types `ls` and a newline, and then Ctrl+]. -/
def typesAndDetaches : List LinkAction :=
  [.shellTask .openerReturns, .shellTask (.starts true), .shellTask .advances,
    .types [108, 115, 10, 0x1d], .saysClose, .forwarderReads, .forwarderSends]

theorem lost_close_leaves_shell_running :
    ∃ final, Reaches (stepLink plainShell "s") CloseUndelivered
        (Link.opened plainShell .cli none) final ∧
      final.forwarder = .detached ∧ ChildRuns final.shell ∧ final.listed = true ∧
        final.attachment = none := by
  obtain ⟨final, run, detached, runs⟩ :
      ∃ final, Reaches (stepLink plainShell "s") CloseUndelivered
          (Link.opened plainShell .cli none) final ∧
        final.forwarder = .detached ∧ final.shell.reader ≠ .absent ∧ final.shell.exitReport = none :=
    reaches_of_evaluated (typesAndDetaches ++ [.connectionBreaks, .forwarderReads])
      (by decide +kernel)
  exact ⟨final, run, detached, runs,
    (detached_session_survives plainShell "s" .cli none final run).2 detached runs⟩

/-- An interactive shell ignores SIGTERM; this process dies of it. -/
def plainCat : ShellInteractiveDefinition := { plainShell with path := "/bin/cat", argv := [] }

/-- The request to close arrives, and the process is sent SIGTERM. Its end removes the
session. -/
theorem delivered_close_kills_shell :
    ∃ final, Reaches (stepLink plainCat "s") anyAction (Link.opened plainCat .cli none) final ∧
      final.shell.terminated = [.closeRequest] ∧ final.forwarder = .detached ∧
        final.listed = false := by
  refine reaches_of_evaluated (typesAndDetaches ++
      [.forwarderReads, .forwarderSends, .forwarderReads, .shellTask .receives,
        .shellTask .advances, .shellTask .receives, .shellTask (.childEnds (.signalled 15)),
        .shellTask .takesExit, .shellTask .advances, .shellTask .advances,
        .shellTask .loopReceives, .shellTask .loopReceives, .shellTask .loopReceives, .removes]) ?_
  decide +kernel

end HandControl.SessionDetach
