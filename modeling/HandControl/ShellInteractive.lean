import HandControl.CapabilityParameters
import HandControl.EventTranscripts

/-!
# An interactive shell session

`run_interactive_shell` starts the shell on a pseudo terminal. One task copies the terminal's output
into the channel of the session, one waits for the process to end, and the main task waits with
`select!` for that end, for the next event of the client and for its two timers, whose length is
left open. Their deadlines are taken to be in the range of the clock: the addition panics outside.
-/

namespace HandControl.ShellInteractive

open ByteEncoding CapabilityParameters CapabilitySessions EventTranscripts MessageChannels
open TransitionRuns

/-- `CString::new` fails for a text with a NUL character. -/
def isCString (text : String) : Bool :=
  !text.toList.contains (Char.ofNat 0)

def isLaunchable (definition : ShellInteractiveDefinition) : Bool :=
  (definition.env.entries.all fun pair => isCString pair.1 && isCString pair.2) &&
    definition.workingDirectory.all isCString && isCString definition.path &&
    definition.argv.all isCString

def plainShell : ShellInteractiveDefinition where
  path := "/bin/sh"
  argv := ["-i"]
  workingDirectory := none
  env := ∅
  idleTimeoutSeconds := none
  maxDurationSeconds := none
  sessionMode := none

structure ChildExit where
  code : Int
  message : Option String
deriving DecidableEq

def ChildExit.default : ChildExit where
  code := -1
  message := some "Process exited unexpectedly"

/-- What `waitpid` reports, or how the task that calls it fails. -/
inductive WaitOutcome where
  | exited (code : Int)
  | signalled (signal : Nat)
  | other
  | failed (error : String)
  | cancelled
deriving DecidableEq

def waitForChild : WaitOutcome → ChildExit
  | .exited code => { code := code, message := none }
  | .signalled signal =>
    { code := -signal, message := some s!"Process terminated by signal {signal}" }
  | .other => ChildExit.default
  | .failed error => { code := -1, message := some s!"waitpid failed: {error}" }
  | .cancelled => { code := -1, message := some "waitpid task cancelled" }

structure ExitMetadata where
  timedOut : Bool
  message : Option String
deriving DecidableEq

/-- Events that a client sends to the capability. -/
inductive SessionClientEvent where
  | input (data : Bytes) (binary : Bool)
  | resize (cols rows : Nat)
  | heartbeat (timestampMs : Int)
  | close (reason : Option String)
  | resume (resumeToken : String) (lastStdoutSequence lastStderrSequence : Option Nat)
deriving DecidableEq

inductive KillCause where
  | closeRequest
  | disconnected
  | idleTimeout
  | maxDuration
deriving DecidableEq

inductive ControlPhase where
  | starting
  | readying
  | selecting
  | writing (data : Bytes)
  | acknowledging (timestampMs : Int)
  | exiting (exitCode : Int) (metadata : ExitMetadata)
  | closing
  | joining
  | ended
deriving DecidableEq

/-- Where the task is that reads the terminal. `sending` holds a chunk that was read. -/
inductive ReaderPhase where
  | absent
  | reading
  | sending (data : Bytes) (timestampMs : Int)
  | ended
deriving DecidableEq

def ReaderPhase.isSending : ReaderPhase → Bool
  | .sending _ _ => true
  | _ => false

/-- An interactive session. `exitReport` is the one-shot channel of the waiting task, `inbound` the
channel from the clients, and `terminated` counts the calls of `terminate_child`. -/
structure Shell where
  phase : ControlPhase
  reader : ReaderPhase
  exitReport : Option ChildExit
  exitMetadata : Option ExitMetadata
  idleTimeoutSecs : Option Nat
  maxDurationSecs : Option Nat
  inbound : List SessionClientEvent
  sendersGone : Bool
  terminated : List KillCause
  channel : EventChannel
deriving DecidableEq

def clientChannelCapacity : Nat := 64

def readBufferSize : Nat := 4096

def Shell.opened (definition : ShellInteractiveDefinition) : Shell where
  phase := .starting
  reader := .absent
  exitReport := none
  exitMetadata := none
  idleTimeoutSecs := definition.idleTimeoutSeconds
  maxDurationSecs := definition.maxDurationSeconds
  inbound := []
  sendersGone := false
  terminated := []
  channel := EventChannel.new

namespace Shell

def sendThen (shell : Shell) (event : SessionServerEvent) (next : ControlPhase) :
    Option Shell :=
  (shell.channel.send event).map fun result =>
    { shell with channel := result.2, phase := next }

/-- The process is sent SIGTERM, and its exit will be reported with the given data. -/
def terminateChild (shell : Shell) (cause : KillCause) (metadata : ExitMetadata) : Shell :=
  { shell with
    exitMetadata := some metadata
    terminated := shell.terminated ++ [cause] }

/-- The process is forked, or the task ends with an error that is only logged. -/
def stepStarts (shell : Shell) (definition : ShellInteractiveDefinition) (forked : Bool) :
    Option Shell :=
  match shell.phase with
  | .starting =>
    if isLaunchable definition && forked then some { shell with phase := .readying }
    else some { shell with phase := .ended }
  | _ => none

/-- The steps of the main task outside `select!`. The reader is spawned after the session was
announced. -/
def stepAdvance (shell : Shell) (definition : ShellInteractiveDefinition) : Option Shell :=
  match shell.phase with
  | .readying =>
    (shell.sendThen (.ready (some s!"Shell started: {definition.path}")) .selecting).map
      fun announced => { announced with reader := .reading }
  | .writing _ => some { shell with phase := .selecting }
  | .acknowledging timestampMs =>
    shell.sendThen (.heartbeatAck timestampMs (some 0)) .selecting
  | .exiting exitCode metadata =>
    shell.sendThen (.exit exitCode metadata.timedOut metadata.message) .closing
  | .closing => shell.sendThen (.closed (some "Session terminated")) .joining
  | .joining =>
    match shell.reader with
    | .ended => some { shell with phase := .ended }
    | _ => none
  | _ => none

def stepTakesExit (shell : Shell) : Option Shell :=
  match shell.phase, shell.exitReport with
  | .selecting, some exit =>
    let metadata :=
      shell.exitMetadata.getD { timedOut := false, message := exit.message }
    some { shell with phase := .exiting exit.code metadata }
  | _, _ => none

def onClientEvent (shell : Shell) : SessionClientEvent → Shell
  | .input data _ => { shell with phase := .writing data }
  | .resize _ _ => shell
  | .heartbeat timestampMs => { shell with phase := .acknowledging timestampMs }
  | .close reason =>
    shell.terminateChild .closeRequest { timedOut := false, message := reason }
  | .resume _ _ _ => shell

def stepReceives (shell : Shell) : Option Shell :=
  match shell.phase, shell.inbound with
  | .selecting, event :: inbound => some ({ shell with inbound := inbound }.onClientEvent event)
  | .selecting, [] =>
    if shell.sendersGone then
      some (shell.terminateChild .disconnected
        { timedOut := false, message := some "Client disconnected" })
    else none
  | _, _ => none

/-- The branch of the idle timer, which fires once. -/
def stepIdleElapses (shell : Shell) : Option Shell :=
  match shell.phase, shell.idleTimeoutSecs with
  | .selecting, some _ =>
    some ({ shell with idleTimeoutSecs := none }.terminateChild .idleTimeout
      { timedOut := true, message := some "Idle timeout reached" })
  | _, _ => none

/-- The branch of the timer for the whole session, which fires once. -/
def stepMaxElapses (shell : Shell) : Option Shell :=
  match shell.phase, shell.maxDurationSecs with
  | .selecting, some _ =>
    some ({ shell with maxDurationSecs := none }.terminateChild .maxDuration
      { timedOut := true, message := some "Session duration limit exceeded" })
  | _, _ => none

def stepReaderReads (shell : Shell) (data : Bytes) (timestampMs : Int) : Option Shell :=
  match shell.reader with
  | .reading =>
    if data ≠ [] ∧ data.length ≤ readBufferSize then
      some { shell with reader := .sending data timestampMs }
    else none
  | _ => none

def stepReaderSends (shell : Shell) : Option Shell :=
  match shell.reader with
  | .sending data timestampMs =>
    (shell.channel.send (.output data false true (some timestampMs))).map fun result =>
      { shell with channel := result.2, reader := if result.1 then .reading else .ended }
  | _ => none

end Shell

inductive ShellAction where
  | starts (forked : Bool)
  | advances
  | takesExit
  | receives
  | idleElapses
  | maxElapses
  | readerReads (data : Bytes) (timestampMs : Int)
  | readerSends
  /-- The end of the terminal's output, or an error of the read. -/
  | readerEnds
  | childEnds (outcome : WaitOutcome)
  | clientSends (event : SessionClientEvent)
  | clientsLeave
  | openerReturns
  | loopReceives
deriving DecidableEq

def stepShell (definition : ShellInteractiveDefinition) (shell : Shell) :
    ShellAction → Option Shell
  | .starts forked => shell.stepStarts definition forked
  | .advances => shell.stepAdvance definition
  | .takesExit => shell.stepTakesExit
  | .receives => shell.stepReceives
  | .idleElapses => shell.stepIdleElapses
  | .maxElapses => shell.stepMaxElapses
  | .readerReads data timestampMs => shell.stepReaderReads data timestampMs
  | .readerSends => shell.stepReaderSends
  | .readerEnds =>
    match shell.reader with
    | .reading => some { shell with reader := .ended }
    | _ => none
  | .childEnds outcome =>
    -- the waiting task is spawned together with the reader
    if shell.reader ≠ .absent ∧ shell.exitReport = none then
      some { shell with exitReport := some (waitForChild outcome) }
    else none
  | .clientSends event =>
    if shell.sendersGone = false ∧ shell.phase ≠ .ended then
      (offer clientChannelCapacity shell.inbound event).map fun inbound =>
        { shell with inbound := inbound }
    else none
  | .clientsLeave => some { shell with sendersGone := true }
  | .openerReturns => some { shell with channel := { shell.channel with openerDone := true } }
  | .loopReceives =>
    (shell.channel.receive (decide (shell.phase = .ended))).map fun channel =>
      { shell with channel := channel }

/-- What the main task sends in a phase, and the phase after it. -/
inductive Announces (definition : ShellInteractiveDefinition) :
    ControlPhase → SessionServerEvent → ControlPhase → Prop where
  | ready : Announces definition .readying
      (.ready (some s!"Shell started: {definition.path}")) .selecting
  | beat (timestampMs : Int) : Announces definition (.acknowledging timestampMs)
      (.heartbeatAck timestampMs (some 0)) .selecting
  | exit (exitCode : Int) (metadata : ExitMetadata) :
      Announces definition (.exiting exitCode metadata)
        (.exit exitCode metadata.timedOut metadata.message) .closing
  | closed : Announces definition .closing (.closed (some "Session terminated")) .joining

inductive ShellMove (definition : ShellInteractiveDefinition) (shell : Shell) :
    ShellAction → Shell → Prop where
  | starts (forked : Bool) (next : ControlPhase) (phase_eq : shell.phase = .starting)
      (next_eq : next = if isLaunchable definition && forked then .readying else .ended) :
      ShellMove definition shell (.starts forked) { shell with phase := next }
  | announces (event : SessionServerEvent) (next : ControlPhase) (reader : ReaderPhase)
      (sent : Bool) (channel : EventChannel)
      (announced : Announces definition shell.phase event next)
      (reader_eq : reader = if shell.phase = .readying then .reading else shell.reader)
      (send_eq : shell.channel.send event = some (sent, channel)) :
      ShellMove definition shell .advances
        { shell with channel := channel, phase := next, reader := reader }
  | writes (data : Bytes) (phase_eq : shell.phase = .writing data) :
      ShellMove definition shell .advances { shell with phase := .selecting }
  | joins (phase_eq : shell.phase = .joining) :
      ShellMove definition shell .advances { shell with phase := .ended }
  | takesExit (exit : ChildExit) (metadata : ExitMetadata) (phase_eq : shell.phase = .selecting)
      (report_eq : shell.exitReport = some exit) :
      ShellMove definition shell .takesExit { shell with phase := .exiting exit.code metadata }
  | receives (event : SessionClientEvent) (inbound : List SessionClientEvent)
      (phase_eq : shell.phase = .selecting) (inbound_eq : shell.inbound = event :: inbound) :
      ShellMove definition shell .receives ({ shell with inbound := inbound }.onClientEvent event)
  | kills (action : ShellAction) (cause : KillCause) (metadata : ExitMetadata)
      (idle max : Option Nat) (phase_eq : shell.phase = .selecting)
      (way : action = .receives ∧ cause = .disconnected ∧ shell.sendersGone = true ∨
        action = .idleElapses ∧ cause = .idleTimeout ∨
        action = .maxElapses ∧ cause = .maxDuration) :
      ShellMove definition shell action
        ({ shell with idleTimeoutSecs := idle, maxDurationSecs := max }.terminateChild cause
          metadata)
  | reads (data : Bytes) (timestampMs : Int) (reader_eq : shell.reader = .reading) :
      ShellMove definition shell (.readerReads data timestampMs)
        { shell with reader := .sending data timestampMs }
  | readerEnds (reader_eq : shell.reader = .reading) :
      ShellMove definition shell .readerEnds { shell with reader := .ended }
  | readerSends (data : Bytes) (timestampMs : Int) (sent : Bool) (channel : EventChannel)
      (reader_eq : shell.reader = .sending data timestampMs)
      (send_eq : shell.channel.send (.output data false true (some timestampMs)) =
        some (sent, channel)) :
      ShellMove definition shell .readerSends
        { shell with channel := channel, reader := if sent then .reading else .ended }
  | childEnds (outcome : WaitOutcome) :
      ShellMove definition shell (.childEnds outcome)
        { shell with exitReport := some (waitForChild outcome) }
  | clientSends (event : SessionClientEvent) :
      ShellMove definition shell (.clientSends event)
        { shell with inbound := shell.inbound ++ [event] }
  | clientsLeave : ShellMove definition shell .clientsLeave { shell with sendersGone := true }
  | openerReturns : ShellMove definition shell .openerReturns
      { shell with channel := { shell.channel with openerDone := true } }
  | loopReceives (channel : EventChannel)
      (received : shell.channel.receive (decide (shell.phase = .ended)) = some channel) :
      ShellMove definition shell .loopReceives { shell with channel := channel }

section

variable {definition : ShellInteractiveDefinition} {shell after : Shell}

open Shell

theorem sendThen_move {event : SessionServerEvent} {phase next : ControlPhase}
    (moved : shell.sendThen event next = some after) (phase_eq : shell.phase = phase)
    (announced : Announces definition phase event next) (later : phase ≠ .readying) :
    ShellMove definition shell .advances after := by
  obtain ⟨⟨sent, channel⟩, send_eq, rfl⟩ := Option.map_eq_some_iff.mp moved
  subst phase_eq
  exact .announces event next shell.reader sent channel announced (if_neg later).symm send_eq

theorem stepAdvance_move (moved : shell.stepAdvance definition = some after) :
    ShellMove definition shell .advances after := by
  unfold stepAdvance at moved
  split at moved
  next phase_eq =>
    obtain ⟨_, announced_eq, rfl⟩ := Option.map_eq_some_iff.mp moved
    obtain ⟨⟨sent, channel⟩, send_eq, rfl⟩ := Option.map_eq_some_iff.mp announced_eq
    apply ShellMove.announces _ _ _ sent channel _ (if_pos phase_eq).symm send_eq
    rw [phase_eq]
    exact .ready
  next data phase_eq =>
    cases moved
    exact .writes data phase_eq
  next timestampMs phase_eq => exact sendThen_move moved phase_eq (.beat timestampMs) (by simp)
  next exitCode metadata phase_eq =>
    exact sendThen_move moved phase_eq (.exit exitCode metadata) (by simp)
  next phase_eq => exact sendThen_move moved phase_eq .closed (by simp)
  next phase_eq =>
    split at moved <;> cases moved
    exact .joins phase_eq
  next => cases moved

theorem stepReceives_move (moved : shell.stepReceives = some after) :
    ShellMove definition shell .receives after := by
  unfold stepReceives at moved
  split at moved
  next event inbound phase_eq inbound_eq =>
    cases moved
    exact .receives event inbound phase_eq inbound_eq
  next phase_eq _ =>
    split at moved
    next gone =>
      cases moved
      exact .kills _ _ _ shell.idleTimeoutSecs shell.maxDurationSecs phase_eq
        (Or.inl ⟨rfl, rfl, gone⟩)
    next => cases moved
  next => cases moved

theorem stepShell_move {action : ShellAction}
    (moved : stepShell definition shell action = some after) :
    ShellMove definition shell action after := by
  cases action with
  | starts forked =>
    simp only [stepShell, stepStarts] at moved
    split at moved
    next phase_eq =>
      split at moved <;> cases moved
      next launched => exact .starts forked _ phase_eq (if_pos launched).symm
      next refused => exact .starts forked _ phase_eq (if_neg refused).symm
    next => cases moved
  | advances => exact stepAdvance_move moved
  | receives => exact stepReceives_move moved
  | takesExit =>
    simp only [stepShell, stepTakesExit] at moved
    split at moved
    next exit phase_eq report_eq =>
      cases moved
      exact .takesExit exit _ phase_eq report_eq
    next => cases moved
  | idleElapses =>
    simp only [stepShell, stepIdleElapses] at moved
    split at moved
    next phase_eq _ =>
      cases moved
      exact .kills _ _ _ none shell.maxDurationSecs phase_eq (Or.inr (Or.inl ⟨rfl, rfl⟩))
    next => cases moved
  | maxElapses =>
    simp only [stepShell, stepMaxElapses] at moved
    split at moved
    next phase_eq _ =>
      cases moved
      exact .kills _ _ _ shell.idleTimeoutSecs none phase_eq (Or.inr (Or.inr ⟨rfl, rfl⟩))
    next => cases moved
  | readerReads data timestampMs =>
    simp only [stepShell, stepReaderReads] at moved
    split at moved
    next reader_eq =>
      split at moved <;> cases moved
      exact .reads data timestampMs reader_eq
    next => cases moved
  | readerSends =>
    simp only [stepShell, stepReaderSends] at moved
    split at moved
    next data timestampMs reader_eq =>
      obtain ⟨⟨sent, channel⟩, send_eq, rfl⟩ := Option.map_eq_some_iff.mp moved
      exact .readerSends data timestampMs sent channel reader_eq send_eq
    next => cases moved
  | readerEnds =>
    simp only [stepShell] at moved
    split at moved
    next reader_eq =>
      cases moved
      exact .readerEnds reader_eq
    next => cases moved
  | childEnds outcome =>
    simp only [stepShell] at moved
    split at moved <;> cases moved
    exact .childEnds outcome
  | clientSends event =>
    simp only [stepShell] at moved
    split at moved
    · obtain ⟨_, rfl⟩ := room_of_map_offer moved
      exact .clientSends event
    · cases moved
  | clientsLeave =>
    cases moved
    exact .clientsLeave
  | openerReturns =>
    cases moved
    exact .openerReturns
  | loopReceives =>
    obtain ⟨channel, received, rfl⟩ := Option.map_eq_some_iff.mp moved
    exact .loopReceives channel received

end

def isReporting : ControlPhase → Bool
  | .exiting _ _ => true
  | .closing => true
  | _ => false

/-- The shell can be started, and the reader is idle from the moment its exit is taken until
the session is closed. -/
def OrderlyShell (definition : ShellInteractiveDefinition) (shell : Shell) :
    ShellAction → Prop
  | .starts forked => isLaunchable definition = true ∧ forked = true
  | .takesExit => shell.reader.isSending = false
  | .readerReads _ _ => isReporting shell.phase = false
  | _ => True

/-- The stage of the session in a phase of the main task. -/
def Fits : ControlPhase → Stage → Prop
  | .starting, stage => stage = .initial
  | .readying, stage => stage = .initial
  | .closing, stage => stage = .exited
  | .joining, stage => stage = .closed
  | .ended, stage => stage = .closed
  | _, stage => stage = .active

theorem Fits.active_or_closed {phase : ControlPhase} {stage : Stage} (fits : Fits phase stage)
    (begun : ¬ Fits phase .initial) (running : isReporting phase = false) :
    stage = .active ∨ stage = .closed := by
  cases phase <;> simp_all [Fits, isReporting]

structure ShellConforms (shell : Shell) : Prop where
  accords : Accords Fits shell.phase shell.channel
  unread : Fits shell.phase .initial → shell.reader = .absent
  idle : isReporting shell.phase = true → shell.reader.isSending = false

variable {definition : ShellInteractiveDefinition} {shell after : Shell}

theorem ShellConforms.of_same (conforms : ShellConforms shell)
    (channel_eq : after.channel = shell.channel) (reader_eq : after.reader = shell.reader)
    (fits_iff : ∀ stage, Fits after.phase stage ↔ Fits shell.phase stage)
    (idle : isReporting after.phase = true → shell.reader.isSending = false) :
    ShellConforms after := by
  refine ⟨?_, ?_, ?_⟩
  · rw [channel_eq]
    exact conforms.accords.moves fun stage => (fits_iff stage).mpr
  · rw [reader_eq, fits_iff]
    exact conforms.unread
  · rw [reader_eq]
    exact idle

open Shell

structure StaysActive (shell after : Shell) : Prop where
  selecting : shell.phase = .selecting
  channel_eq : after.channel = shell.channel
  reader_eq : after.reader = shell.reader
  senders_eq : after.sendersGone = shell.sendersGone
  active : Fits after.phase .active
  running : isReporting after.phase = false

theorem fits_active_iff {phase : ControlPhase} (active : Fits phase .active) (stage : Stage) :
    Fits phase stage ↔ stage = .active := by
  cases phase <;> simp_all [Fits]

theorem StaysActive.conforms (stays : StaysActive shell after) (conforms : ShellConforms shell) :
    ShellConforms after := by
  apply conforms.of_same stays.channel_eq stays.reader_eq
  · intro stage
    rw [fits_active_iff stays.active, stays.selecting]
    rfl
  · intro reporting
    rw [stays.running] at reporting
    cases reporting

theorem onClientEvent_staysActive (phase_eq : shell.phase = .selecting)
    (inbound : List SessionClientEvent) (event : SessionClientEvent) :
    StaysActive shell ({ shell with inbound := inbound }.onClientEvent event) := by
  cases event with
  | input | heartbeat => exact ⟨phase_eq, rfl, rfl, rfl, rfl, rfl⟩
  | _ =>
    refine ⟨phase_eq, rfl, rfl, rfl, ?_, ?_⟩ <;> simp [onClientEvent, terminateChild, phase_eq,
      Fits, isReporting]

theorem terminateChild_staysActive (phase_eq : shell.phase = .selecting) (idle max : Option Nat)
    (cause : KillCause) (metadata : ExitMetadata) :
    StaysActive shell ({ shell with idleTimeoutSecs := idle, maxDurationSecs := max }.terminateChild
      cause metadata) := by
  refine ⟨phase_eq, rfl, rfl, rfl, ?_, ?_⟩ <;> simp [terminateChild, phase_eq, Fits, isReporting]

theorem stepShell_staysActive {action : ShellAction}
    (moved : stepShell definition shell action = some after)
    (serves : action = .receives ∨ action = .idleElapses ∨ action = .maxElapses) :
    StaysActive shell after := by
  cases stepShell_move moved with
  | receives event inbound phase_eq => exact onClientEvent_staysActive phase_eq inbound event
  | kills _ cause metadata idle max phase_eq =>
    exact terminateChild_staysActive phase_eq idle max cause metadata
  | _ => simp at serves

theorem Announces.leads {phase next : ControlPhase} {event : SessionServerEvent}
    (announced : Announces definition phase event next) : Leads Fits phase event next := by
  cases announced <;> simp [Leads, Fits, Stage.next]

section

variable (conforms : ShellConforms shell)

include conforms

theorem ShellConforms.begun {data : ReaderPhase} (reader_eq : shell.reader = data)
    (started : data ≠ .absent) : ¬ Fits shell.phase .initial :=
  fun initial => started (reader_eq.symm.trans (conforms.unread initial))

theorem announces_conforms {event : SessionServerEvent} {next : ControlPhase}
    {reader : ReaderPhase} {sent : Bool} {channel : EventChannel}
    (announced : Announces definition shell.phase event next)
    (reader_eq : reader = if shell.phase = .readying then .reading else shell.reader)
    (send_eq : shell.channel.send event = some (sent, channel)) :
    ShellConforms { shell with channel := channel, phase := next, reader := reader } := by
  have idle := conforms.idle
  refine ⟨conforms.accords.send announced.leads send_eq, ?_, ?_⟩
  all_goals generalize shell.phase = phase at announced idle reader_eq
  · cases announced <;> simp [Fits]
  · cases announced with
    | exit =>
      rw [reader_eq]
      exact fun _ => idle rfl
    | _ => simp [isReporting]

/-- The reader sends while the session is active, or when it is closed and nothing is
received any more. -/
theorem readerSends_conforms {data : Bytes} {timestampMs : Int} {sent : Bool}
    {channel : EventChannel} (reader_eq : shell.reader = .sending data timestampMs)
    (send_eq : shell.channel.send (.output data false true (some timestampMs)) =
      some (sent, channel)) :
    ShellConforms
      { shell with channel := channel, reader := if sent then .reading else .ended } := by
  have begun := conforms.begun reader_eq (by simp)
  have running : isReporting shell.phase = false := by
    rw [Bool.eq_false_iff]
    intro reporting
    have unburdened := conforms.idle reporting
    rw [reader_eq] at unburdened
    cases unburdened
  obtain ⟨stage, fits, channel_conforms⟩ := conforms.accords
  have still_conforms : Conforms channel stage := by
    rcases fits.active_or_closed begun running with active | closed
    · subst active
      exact channel_conforms.send (by decide) rfl send_eq
    · subst closed
      exact channel_conforms.send_late send_eq
  refine ⟨⟨stage, fits, still_conforms⟩, fun initial => absurd initial begun, ?_⟩
  intro reporting
  rw [running] at reporting
  cases reporting

theorem stepShell_conforms {action : ShellAction} (orderly : OrderlyShell definition shell action)
    (moved : stepShell definition shell action = some after) : ShellConforms after := by
  cases stepShell_move moved with
  | starts _ _ phase_eq next_eq =>
    rw [if_pos (by simp [orderly.1, orderly.2])] at next_eq
    subst next_eq
    exact conforms.of_same rfl rfl (by simp [phase_eq, Fits]) (by simp [isReporting])
  | announces _ _ _ _ _ announced reader_eq send_eq =>
    exact announces_conforms conforms announced reader_eq send_eq
  | writes _ phase_eq | joins phase_eq =>
    exact conforms.of_same rfl rfl (by simp [phase_eq, Fits]) (by simp [isReporting])
  | takesExit _ _ phase_eq =>
    exact conforms.of_same rfl rfl (by simp [phase_eq, Fits]) fun _ => orderly
  | receives event inbound phase_eq =>
    exact (onClientEvent_staysActive phase_eq inbound event).conforms conforms
  | kills _ cause metadata idle max phase_eq =>
    exact (terminateChild_staysActive phase_eq idle max cause metadata).conforms conforms
  | reads _ _ reader_eq =>
    have begun := conforms.begun reader_eq (by simp)
    refine ⟨conforms.accords, fun initial => absurd initial begun, ?_⟩
    intro reporting
    rw [show isReporting shell.phase = false from orderly] at reporting
    cases reporting
  | readerEnds reader_eq =>
    have begun := conforms.begun reader_eq (by simp)
    exact ⟨conforms.accords, fun initial => absurd initial begun, fun _ => rfl⟩
  | readerSends _ _ _ _ reader_eq send_eq =>
    exact readerSends_conforms conforms reader_eq send_eq
  | childEnds | clientSends | clientsLeave =>
    exact conforms.of_same rfl rfl (fun _ => Iff.rfl) conforms.idle
  | openerReturns => exact ⟨conforms.accords.openerReturns, conforms.unread, conforms.idle⟩
  | loopReceives _ received =>
    refine ⟨conforms.accords.receive ?_ received, conforms.unread, conforms.idle⟩
    intro gone stage fits
    rw [of_decide_eq_true gone] at fits
    exact fits

end

theorem opened_conforms : ShellConforms (opened definition) :=
  ⟨⟨.initial, rfl, Conforms.new⟩, fun _ => rfl, nofun⟩

theorem reaches_shellConforms {final : Shell}
    (run : Reaches (stepShell definition) (OrderlyShell definition) (opened definition)
      final) :
    ShellConforms final := by
  apply run.invariant opened_conforms
  intro before action next conforms orderly moved
  exact stepShell_conforms conforms orderly moved

end HandControl.ShellInteractive
