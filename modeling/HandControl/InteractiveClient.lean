import HandControl.SessionResume

/-!
# The interactive session of the command line client

`run_interactive_shell` drives a session until it ends and, while the response stream was lost,
resumes it and drives it again. A run is computed from its surroundings: in each turn of
`drive_session` the user detaches or an event is received and written to the terminal or not, and
the server answers each resume. A list of what the client does that does not end with a return is
that of a client that still waits.
-/

namespace HandControl.InteractiveClient

open ByteEncoding CapabilityParameters SessionResume

/-- How a response stream ends: `Ok(None)`, or a status in the place of a message. -/
inductive StreamEnd where
  | finished
  | failed
deriving DecidableEq

structure CapabilitySessionResumeState where
  sessionId : String
  capabilityId : String
  resumeToken : String
  lastStdoutSequence : Nat
  lastStderrSequence : Nat
  sessionMode : CapabilitySessionMode
deriving DecidableEq

/-- A session together with the messages that its response stream still yields. -/
structure CapabilitySession where
  sessionId : String
  capabilityId : String
  sessionMode : CapabilitySessionMode
  resumeToken : String
  lastStdoutSequence : Nat
  lastStderrSequence : Nat
  pendingEvents : List CapabilitySessionEvent
  stream : List SessionServerMessage
  ending : StreamEnd
deriving DecidableEq

namespace CapabilitySession

def resumeState (session : CapabilitySession) : CapabilitySessionResumeState where
  sessionId := session.sessionId
  capabilityId := session.capabilityId
  resumeToken := session.resumeToken
  lastStdoutSequence := session.lastStdoutSequence
  lastStderrSequence := session.lastStderrSequence
  sessionMode := session.sessionMode

def noteSequence (session : CapabilitySession) (stderr : Bool) (sequence : Nat) :
    CapabilitySession :=
  if sequence ≠ 0 then
    if stderr then { session with lastStderrSequence := sequence }
    else { session with lastStdoutSequence := sequence }
  else session

def noteToken (session : CapabilitySession) (resumeToken : String) : CapabilitySession :=
  if resumeToken ≠ "" then { session with resumeToken := resumeToken } else session

def receiveFrom (session : CapabilitySession) : List SessionServerMessage →
    Except String (Option CapabilitySessionEvent) × CapabilitySession
  | [] =>
    let drained := { session with stream := [] }
    match session.ending with
    | .finished => (.ok none, drained)
    | .failed => (.error "Capability stream closed unexpectedly", drained)
  | message :: rest =>
    match message.payload with
    | some (.output data stderr binary timestampMs sequence) =>
      let noted := session.noteSequence (stderr.getD false) sequence
      (.ok (some (.output data (stderr.getD false) (binary.getD false) timestampMs sequence)),
        { noted with stream := rest })
    | some (.exit exitCode timedOut text) =>
      (.ok (some (.exit exitCode (timedOut.getD false) text)), { session with stream := rest })
    | some (.error text code) =>
      (.ok (some (.error text code)), { session with stream := rest })
    | some (.heartbeat timestampMs latencyHintMs) =>
      (.ok (some (.heartbeatAck timestampMs latencyHintMs)), { session with stream := rest })
    | some (.closed reason) => (.ok (some (.closed reason)), { session with stream := rest })
    | some (.resumeAck resumeToken _ _) => (session.noteToken resumeToken).receiveFrom rest
    | some (.ready _ _ _ _) => session.receiveFrom rest
    | none => session.receiveFrom rest

def recv (session : CapabilitySession) :
    Except String (Option CapabilitySessionEvent) × CapabilitySession :=
  match session.pendingEvents with
  | event :: pendingEvents => (.ok (some event), { session with pendingEvents := pendingEvents })
  | [] => session.receiveFrom session.stream

end CapabilitySession

/-- What a resume meets: no connection, a refused call, or a response stream. -/
inductive ResumeReply where
  | unreachable (message : String)
  | refused
  | accepted (stream : List SessionServerMessage) (ending : StreamEnd)
deriving DecidableEq

/-- The loop of `resume_capability_session` over the response stream, with the messages that
are left behind the acknowledgement. -/
def awaitResumeAck (sessionId : String) (ending : StreamEnd) (client : ResumingClient) :
    List SessionServerMessage → Except String (ResumingClient × List SessionServerMessage)
  | [] =>
    match ending with
    | .finished => .error "Capability stream ended before resume acknowledgement"
    | .failed => .error "Capability stream closed unexpectedly during resume"
  | message :: rest =>
    let noted := client.onResumeMessage sessionId message
    match noted.phase with
    | .resumed => .ok (noted, rest)
    | .failed text => .error text
    | _ => awaitResumeAck sessionId ending noted rest

def resumeCapabilitySession (state : CapabilitySessionResumeState) :
    ResumeReply → Except String CapabilitySession
  | .unreachable message => .error message
  | .refused => .error "OpenSession RPC failed"
  | .accepted stream ending =>
    let client : ResumingClient :=
      { phase := .resuming
        resumeToken := state.resumeToken
        lastStdoutSequence := state.lastStdoutSequence
        lastStderrSequence := state.lastStderrSequence
        pendingEvents := []
        delivered := [] }
    match awaitResumeAck state.sessionId ending client stream with
    | .error message => .error message
    | .ok (resumed, rest) =>
      .ok
        { sessionId := state.sessionId
          capabilityId := state.capabilityId
          sessionMode := state.sessionMode
          resumeToken := resumed.resumeToken
          lastStdoutSequence := resumed.lastStdoutSequence
          lastStderrSequence := resumed.lastStderrSequence
          pendingEvents := resumed.pendingEvents
          stream := rest
          ending := ending }

inductive SessionOutcome where
  | exit
  | streamClosed
  | detached
deriving DecidableEq

/-- One turn of the loop: `select!` takes the detach request, or it takes the next event,
and `written` is what the terminal makes of an output. -/
inductive Turn where
  | detach
  | receive (written : Bool)
deriving DecidableEq

/-- The variables of `run_interactive_shell` that `drive_session` works on, with what was
written to the terminal. -/
structure Drive where
  session : CapabilitySession
  exitCode : Option Int
  timedOut : Bool
  stdout : Bytes
  stderr : Bytes
deriving DecidableEq

def Drive.print (drive : Drive) (stderr : Bool) (data : Bytes) : Drive :=
  if stderr then { drive with stderr := drive.stderr ++ data }
  else { drive with stdout := drive.stdout ++ data }

def exitLine (message : String) : Bytes :=
  let bytes := message.toUTF8.toList
  if bytes.getLast? = some 10 then bytes else bytes ++ [10]

def closedMessage : Option String → String
  | some reason => "Capability session closed: " ++ reason
  | none => "Capability session closed unexpectedly"

def driveSession : List Turn → Drive → Option (Except String SessionOutcome × Drive)
  | [], _ => none
  | .detach :: _, drive => some (.ok .detached, drive)
  | .receive written :: turns, drive =>
    let received := drive.session.recv
    let drive := { drive with session := received.2 }
    match received.1 with
    | .ok (some (.output data stderr _ _ _)) =>
      if written then driveSession turns (drive.print stderr data)
      else some (.ok .streamClosed, drive)
    | .ok (some (.exit code timedOut message)) =>
      let line := (message.map exitLine).getD []
      let exited := { drive with exitCode := some code, timedOut := timedOut }
      some (.ok .exit, exited.print true line)
    | .ok (some (.error message _)) =>
      some (.error ("Server reported capability error: " ++ message), drive)
    | .ok (some (.heartbeatAck _ _)) => driveSession turns drive
    | .ok (some (.closed reason)) =>
      if drive.exitCode.isNone then some (.error (closedMessage reason), drive)
      else some (.ok .streamClosed, drive)
    | .ok none => some (.ok .streamClosed, drive)
    | .error message => some (.error message, drive)

inductive ShellEvent where
  | drives (session : CapabilitySession) (turns : List Turn)
  | resumes (state : CapabilitySessionResumeState)
  | closes (reason : Option String)
  | returns (result : Except String Unit)

structure Resumption where
  reply : ResumeReply
  turns : List Turn
deriving DecidableEq

def exitResult (drive : Drive) : Except String Unit :=
  if drive.timedOut then .error "Realtime capability timed out"
  else
    match drive.exitCode with
    | none => .error "Realtime capability ended without exit code"
    | some code =>
      if code ≠ 0 then .error s!"Realtime capability exited with code {code}" else .ok ()

def finishShell (outcome : SessionOutcome) (drive : Drive) : List ShellEvent :=
  match outcome with
  | .detached => [.closes (some "Client detached"), .returns (.ok ())]
  | _ => [.closes none, .returns (exitResult drive)]

/-- Drive the session, and resume it while its stream was lost. -/
def shellLoop (resumptions : List Resumption) (turns : List Turn) (drive : Drive) :
    List ShellEvent :=
  .drives drive.session turns ::
    match driveSession turns drive with
    | none => []
    | some (.error message, _) => [.returns (.error message)]
    | some (.ok outcome, driven) =>
      if outcome = .streamClosed ∧ driven.exitCode = none then
        let state := driven.session.resumeState
        .resumes state ::
          match resumptions with
          | [] => []
          | resumption :: rest =>
            match resumeCapabilitySession state resumption.reply with
            | .ok session => shellLoop rest resumption.turns { driven with session := session }
            | .error message => [.returns (.error ("Failed to resume session: " ++ message))]
      else finishShell outcome driven

/-- What `run_interactive_shell` finds before it drives the session. -/
structure ShellSetup where
  isTerminal : Bool
  config : Except String Unit
  rawMode : Except String Unit

def runInteractiveShell (setup : ShellSetup) (resumptions : List Resumption)
    (turns : List Turn) (session : CapabilitySession) : List ShellEvent :=
  if setup.isTerminal then
    match setup.config, setup.rawMode with
    | .ok _, .ok _ =>
      shellLoop resumptions turns
        { session := session, exitCode := none, timedOut := false, stdout := [], stderr := [] }
    | .error message, _ => [.returns (.error message)]
    | .ok _, .error message => [.returns (.error message)]
  else [.returns (.error "Realtime capabilities require an interactive TTY")]

/-- How the client learns that it lost the session. -/
inductive DropCause where
  | streamEnded
  | transportError
  | unwritable
deriving DecidableEq

def CapabilitySessionEvent.isInner : CapabilitySessionEvent → Bool
  | .output _ _ _ _ _ => true
  | .heartbeatAck _ _ => true
  | _ => false

def CapabilitySessionEvent.isOutput : CapabilitySessionEvent → Bool
  | .output _ _ _ _ _ => true
  | _ => false

/-- The session is lost before an exit, error or closed event was received and without a
detach, and `dropped` is its state then. -/
inductive Drops : List Turn → CapabilitySession → DropCause → CapabilitySession → Prop where
  | ends {turns : List Turn} {session dropped : CapabilitySession} (written : Bool)
      (received : session.recv = (.ok none, dropped)) :
      Drops (.receive written :: turns) session .streamEnded dropped
  | breaks {turns : List Turn} {session dropped : CapabilitySession} (written : Bool)
      (message : String) (received : session.recv = (.error message, dropped)) :
      Drops (.receive written :: turns) session .transportError dropped
  | cannotWrite {turns : List Turn} {session dropped : CapabilitySession}
      (event : CapabilitySessionEvent) (output : CapabilitySessionEvent.isOutput event = true)
      (received : session.recv = (.ok (some event), dropped)) :
      Drops (.receive false :: turns) session .unwritable dropped
  | goesOn {turns : List Turn} {session middle dropped : CapabilitySession} {cause : DropCause}
      (written : Bool) (event : CapabilitySessionEvent)
      (inner : CapabilitySessionEvent.isInner event = true)
      (shown : CapabilitySessionEvent.isOutput event = true → written = true)
      (received : session.recv = (.ok (some event), middle))
      (drops : Drops turns middle cause dropped) :
      Drops (.receive written :: turns) session cause dropped

/-- What `drive_session` makes of a lost session. -/
def DropCause.isReported : DropCause → Except String SessionOutcome → Prop
  | .transportError, .error _ => True
  | .transportError, .ok _ => False
  | _, result => result = .ok .streamClosed

variable {turns script : List Turn} {session dropped : CapabilitySession} {cause : DropCause}
variable {drive : Drive}

/-- A lost session leaves `drive_session` as the cause has it, with the session as it was
lost. -/
theorem driveSession_drops (drops : Drops turns session cause dropped) (drive : Drive)
    (same : drive.session = session) :
    ∃ result driven, driveSession turns drive = some (result, driven) ∧
      cause.isReported result ∧ driven.session = dropped ∧ driven.exitCode = drive.exitCode := by
  induction drops generalizing drive with
  | @ends turns session dropped written received =>
    refine ⟨.ok .streamClosed, { drive with session := dropped }, ?_, rfl, rfl, rfl⟩
    simp only [driveSession, same, received]
  | @breaks turns session dropped written message received =>
    refine ⟨.error message, { drive with session := dropped }, ?_, trivial, rfl, rfl⟩
    simp only [driveSession, same, received]
  | @cannotWrite turns session dropped event output received =>
    cases event with
    | output =>
      refine ⟨.ok .streamClosed, { drive with session := dropped }, ?_, rfl, rfl, rfl⟩
      simp [driveSession, same, received]
    | _ => cases output
  | @goesOn turns session middle dropped cause written event inner shown received _ ih =>
    cases event with
    | output data stderr =>
      have printed : (({ drive with session := middle } : Drive).print stderr data).session =
          middle := by
        cases stderr <;> rfl
      obtain ⟨result, driven, drives, reported, dropped_eq, exitCode_eq⟩ := ih _ printed
      refine ⟨result, driven, ?_, reported, dropped_eq, exitCode_eq.trans ?_⟩
      · simp only [driveSession, same, received, shown rfl, if_true]
        exact drives
      · cases stderr <;> rfl
    | heartbeatAck =>
      obtain ⟨result, driven, drives, reported, dropped_eq, exitCode_eq⟩ :=
        ih { drive with session := middle } rfl
      refine ⟨result, driven, ?_, reported, dropped_eq, exitCode_eq⟩
      simp only [driveSession, same, received]
      exact drives
    | _ => cases inner

theorem shellLoop_drops (resumptions : List Resumption) (unexited : drive.exitCode = none)
    (drops : Drops turns drive.session cause dropped) :
    ∃ rest, shellLoop resumptions turns drive = .drives drive.session turns :: rest ∧
      ((∃ later, rest = .resumes dropped.resumeState :: later) ↔ cause ≠ .transportError) := by
  obtain ⟨result, _, drives, reported, dropped_eq, exitCode_eq⟩ :=
    driveSession_drops drops drive rfl
  rw [unexited] at exitCode_eq
  rw [shellLoop, drives]
  refine ⟨_, rfl, ?_⟩
  cases cause with
  | transportError =>
    cases result with
    | error => simp
    | ok => cases reported
  | streamEnded | unwritable =>
    have closed : result = .ok .streamClosed := reported
    subst closed
    simp [exitCode_eq, dropped_eq]

theorem finishShell_drives_nothing {outcome : SessionOutcome} :
    .drives session script ∉ finishShell outcome drive := by
  cases outcome <;> simp [finishShell]

/-- After a drive, the client drives no session again, or it resumes and goes on as a loop of
its own, with no exit code so far and the answers that are left. -/
theorem shellLoop_next (resumptions : List Resumption) (turns : List Turn) (drive : Drive) :
    ∃ tail, shellLoop resumptions turns drive = .drives drive.session turns :: tail ∧
      ((∀ session script, .drives session script ∉ tail) ∨
        ∃ state resumption rest next, resumptions = resumption :: rest ∧ next.exitCode = none ∧
          tail = .resumes state :: shellLoop rest resumption.turns next) := by
  rw [shellLoop]
  refine ⟨_, rfl, ?_⟩
  split
  next => simp
  next => simp
  next outcome driven _ =>
    split
    next closed =>
      cases resumptions with
      | nil => simp
      | cons resumption rest =>
        cases resumed : resumeCapabilitySession driven.session.resumeState resumption.reply with
        | error => simp [resumed]
        | ok session =>
          right
          refine ⟨driven.session.resumeState, resumption, rest,
            { driven with session := session }, rfl, closed.2, ?_⟩
          simp [resumed]
    next =>
      left
      intro session script
      exact finishShell_drives_nothing

theorem shellLoop_suffix (resumptions : List Resumption) (turns : List Turn) (drive : Drive)
    (unexited : drive.exitCode = none) {front rest : List ShellEvent}
    (trace : shellLoop resumptions turns drive = front ++ .drives session script :: rest) :
    ∃ left current, current.session = session ∧ current.exitCode = none ∧
      shellLoop left script current = .drives session script :: rest := by
  obtain ⟨_, loop_eq, tail_drives⟩ := shellLoop_next resumptions turns drive
  have head := loop_eq.symm.trans trace
  cases front with
  | nil =>
    rw [List.nil_append, List.cons.injEq, ShellEvent.drives.injEq] at head
    obtain ⟨⟨same, rfl⟩, _⟩ := head
    exact ⟨_, drive, same, unexited, trace⟩
  | cons first front =>
    rw [List.cons_append, List.cons.injEq] at head
    rcases tail_drives with
      none_driven | ⟨state, answered, left, next, answers, open_exit, tail_eq⟩
    · exact absurd (by simp [head.2]) (none_driven session script)
    · -- the loop that goes on has one answer less
      cases answers
      have onward := head.2
      rw [tail_eq] at onward
      cases front with
      | nil => cases onward
      | cons => exact shellLoop_suffix left _ next open_exit (List.cons.inj onward).2
termination_by resumptions.length

/-- In every run, a session lost before an exit, error or closed event and without a detach is
resumed at once with its current resume state exactly if the client learned of the loss in another
way than by a transport error. -/
theorem dropped_session_is_resumed_iff (setup : ShellSetup) (resumptions : List Resumption)
    (turns : List Turn) (opened : CapabilitySession) (front rest : List ShellEvent)
    (session dropped : CapabilitySession) (script : List Turn) (cause : DropCause)
    (trace : runInteractiveShell setup resumptions turns opened =
      front ++ .drives session script :: rest)
    (drops : Drops script session cause dropped) :
    (∃ later, rest = .resumes dropped.resumeState :: later) ↔ cause ≠ .transportError := by
  have none_driven : ∀ message : String,
      [.returns (.error message)] ≠ front ++ .drives session script :: rest := by
    intro message trace
    cases front with
    | nil => cases trace
    | cons => simp at trace
  simp only [runInteractiveShell] at trace
  split at trace
  next =>
    split at trace
    next =>
      obtain ⟨left, _, session_eq, unexited, loop_eq⟩ :=
        shellLoop_suffix resumptions turns _ rfl trace
      subst session_eq
      obtain ⟨_, driven_eq, resumed_iff⟩ := shellLoop_drops left unexited drops
      rw [loop_eq, List.cons.injEq] at driven_eq
      rw [driven_eq.2]
      exact resumed_iff
    next => exact absurd trace (none_driven _)
    next => exact absurd trace (none_driven _)
  next => exact absurd trace (none_driven _)

def readySetup : ShellSetup where
  isTerminal := true
  config := .ok ()
  rawMode := .ok ()

def outputMessage (data : Bytes) (sequence : Nat) : SessionServerMessage where
  sessionId := "session"
  payload := some (.output data (some false) (some true) none sequence)

def endingSession (ending : StreamEnd) : CapabilitySession where
  sessionId := "session"
  capabilityId := "shell"
  sessionMode := .realtime
  resumeToken := "token"
  lastStdoutSequence := 4
  lastStderrSequence := 0
  pendingEvents := []
  stream := [outputMessage [104, 105] 5]
  ending := ending

def drainedSession (ending : StreamEnd) : CapabilitySession :=
  { endingSession ending with lastStdoutSequence := 5, stream := [] }

def receiveTwice : List Turn := [.receive true, .receive true]

theorem endingSession_recv (ending : StreamEnd) :
    (endingSession ending).recv =
      (.ok (some (.output [104, 105] false true none 5)), drainedSession ending) := rfl

/-- The stream ends with `Ok(None)`: the client resumes behind the output it has received. -/
theorem ended_session_is_resumed :
    ∃ rest later, runInteractiveShell readySetup [] receiveTwice (endingSession .finished) =
        [] ++ .drives (endingSession .finished) receiveTwice :: rest ∧
      rest = .resumes (drainedSession .finished).resumeState :: later := by
  have trace : runInteractiveShell readySetup [] receiveTwice (endingSession .finished) =
      [] ++ .drives (endingSession .finished) receiveTwice ::
        [.resumes (drainedSession .finished).resumeState] := rfl
  have drops : Drops receiveTwice (endingSession .finished) .streamEnded
      (drainedSession .finished) :=
    .goesOn true _ rfl (fun _ => rfl) (endingSession_recv .finished) (.ends true rfl)
  obtain ⟨later, rest_eq⟩ := (dropped_session_is_resumed_iff readySetup [] receiveTwice _ _ _ _ _ _
    _ trace drops).mpr (by decide)
  exact ⟨_, later, trace, rest_eq⟩

/-- The connection breaks instead: `recv` fails, and the client returns its error without an
attempt to resume. -/
theorem broken_session_is_not_resumed :
    Drops receiveTwice (endingSession .failed) .transportError (drainedSession .failed) ∧
      ∀ resumptions, runInteractiveShell readySetup resumptions receiveTwice
          (endingSession .failed) =
        [.drives (endingSession .failed) receiveTwice,
          .returns (.error "Capability stream closed unexpectedly")] := by
  refine ⟨?_, ?_⟩
  · exact .goesOn true _ rfl (fun _ => rfl) (endingSession_recv .failed) (.breaks true _ rfl)
  · intro resumptions
    cases resumptions <;> rfl

end HandControl.InteractiveClient
