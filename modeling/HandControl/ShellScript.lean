import HandControl.EventTranscripts
import HandControl.LineReading

/-!
# A shell script session

`run_shell_command` pipes the two output streams of the command, and in a loop waits with `select!`
for the next line of either or for the end of the process, all within a timeout. `select!` takes any
branch that is ready.
-/

namespace HandControl.ShellScript

open ByteEncoding CapabilitySessions EventTranscripts LineReading TransitionRuns

def newline : UInt8 := 10

def carriageReturn : UInt8 := 13

structure Pipe where
  written : Bytes
  unread : Bytes
  closed : Bool
deriving DecidableEq

def Pipe.empty : Pipe where
  written := []
  unread := []
  closed := false

/-- `next_line`: a line, `Ok(None)` at the end, or nothing that is ready. -/
def Pipe.nextLine (pipe : Pipe) : Option (Option (Line UInt8) × Pipe) :=
  match breakLine newline pipe.unread with
  | some (content, rest) => some (some ⟨content, true⟩, { pipe with unread := rest })
  | none =>
    if pipe.closed then
      if pipe.unread = [] then some (none, pipe)
      else some (some ⟨pipe.unread, false⟩, { pipe with unread := [] })
    else none

def Pipe.write (pipe : Pipe) (bytes : Bytes) : Pipe :=
  { pipe with written := pipe.written ++ bytes, unread := pipe.unread ++ bytes }

def rawBytes (line : Line UInt8) : Bytes :=
  if line.terminated then line.content ++ [newline] else line.content

/-- The line is UTF-8. `next_line` fails for another one and drops its bytes. -/
def isText (line : Line UInt8) : Bool :=
  (ByteArray.mk (rawBytes line).toArray).validateUTF8

/-- The text of a line; a carriage return in front of the newline is taken off with it. -/
def lineText (line : Line UInt8) : Bytes :=
  if line.terminated ∧ line.content.getLast? = some carriageReturn then line.content.dropLast
  else line.content

inductive ChildState where
  | absent
  | running
  | exited (code : Option Int)
deriving DecidableEq

/-- Where the task of the capability is. `emitting` holds a line that was read and is being
sent. -/
inductive ScriptPhase where
  | readying
  | spawning
  | selecting
  | emitting (stderr : Bool) (data : Bytes) (timestampMs : Int)
  | exiting (exitCode : Int) (timedOut : Bool)
  | killing
  | failing (message : String)
  | closing
  | ended
deriving DecidableEq

/-- A shell script session. `elapsed` says that the timeout has fired. -/
structure Script where
  phase : ScriptPhase
  child : ChildState
  stdout : Pipe
  stderr : Pipe
  elapsed : Bool
  channel : EventChannel
deriving DecidableEq

def Script.opened : Script where
  phase := .readying
  child := .absent
  stdout := Pipe.empty
  stderr := Pipe.empty
  elapsed := false
  channel := EventChannel.new

namespace Script

def pipe (script : Script) (stderr : Bool) : Pipe :=
  if stderr then script.stderr else script.stdout

def putPipe (script : Script) (stderr : Bool) (pipe : Pipe) : Script :=
  if stderr then { script with stderr := pipe } else { script with stdout := pipe }

def sendThen (script : Script) (event : SessionServerEvent) (next : ScriptPhase) :
    Option Script :=
  (script.channel.send event).map fun result =>
    { script with channel := result.2, phase := next }

def stepAdvance (script : Script) : Option Script :=
  match script.phase with
  | .readying => script.sendThen (.ready none) .spawning
  | .emitting stderr data timestampMs =>
    script.sendThen (.output data stderr false (some timestampMs)) .selecting
  | .exiting exitCode timedOut => script.sendThen (.exit exitCode timedOut none) .closing
  | .killing =>
    let child :=
      match script.child with
      | .running => .exited none
      | child => child
    some { script with child := child, phase := .exiting (-1) true }
  | .failing message => script.sendThen (.error message none) .closing
  | .closing => script.sendThen (.closed none) .ended
  | _ => none

def stepReadsLine (script : Script) (showOutput stderr : Bool) (timestampMs : Int) :
    Option Script :=
  match script.phase with
  | .selecting =>
    match (script.pipe stderr).nextLine with
    | some (some line, pipe) =>
      let read := script.putPipe stderr pipe
      if isText line && showOutput then
        some { read with phase := .emitting stderr (lineText line) timestampMs }
      else some read
    | some (none, _) => some script
    | none => none
  | _ => none

def stepAwaits (script : Script) (succeeds : Bool) : Option Script :=
  match script.phase, script.child with
  | .selecting, .exited code =>
    if succeeds then some { script with phase := .exiting (code.getD (-1)) false }
    else
      some { script with phase := .failing "Command execution failed: Failed to await process" }
  | _, _ => none

end Script

inductive ScriptAction where
  /-- `Command::spawn`. -/
  | spawns (succeeds : Bool)
  | advances
  | readsLine (stderr : Bool) (timestampMs : Int)
  /-- The pipe cannot be read, which is logged. -/
  | readFails (stderr : Bool)
  | awaits (succeeds : Bool)
  /-- The timeout fires, and what the loop was doing is dropped. -/
  | elapses
  | childWrites (stderr : Bool) (bytes : Bytes)
  | pipeCloses (stderr : Bool)
  | childExits (code : Option Int)
  | openerReturns
  | loopReceives
deriving DecidableEq

def stepScript (showOutput : Bool) (script : Script) : ScriptAction → Option Script
  | .spawns succeeds =>
    if script.phase = .spawning then
      if succeeds then some { script with child := .running, phase := .selecting }
      else
        some
          { script with
            phase := .failing "Command execution failed: Failed to spawn shell process" }
    else none
  | .advances => script.stepAdvance
  | .readsLine stderr timestampMs => script.stepReadsLine showOutput stderr timestampMs
  | .readFails _ => if script.phase = .selecting then some script else none
  | .awaits succeeds => script.stepAwaits succeeds
  | .elapses =>
    match script.phase with
    | .selecting | .emitting _ _ _ => some { script with phase := .killing, elapsed := true }
    | _ => none
  | .childWrites stderr bytes =>
    if script.child = .running ∧ (script.pipe stderr).closed = false then
      some (script.putPipe stderr ((script.pipe stderr).write bytes))
    else none
  | .pipeCloses stderr => some (script.putPipe stderr { script.pipe stderr with closed := true })
  | .childExits code =>
    if script.child = .running then some { script with child := .exited code } else none
  | .openerReturns => some { script with channel := { script.channel with openerDone := true } }
  | .loopReceives =>
    (script.channel.receive (decide (script.phase = .ended))).map fun channel =>
      { script with channel := channel }

/-- The stage of the session in a phase of the task. -/
def Fits : ScriptPhase → Stage → Prop
  | .readying, stage => stage = .initial
  | .closing, stage => stage = .exited ∨ stage = .failed
  | .ended, stage => stage = .closed
  | _, stage => stage = .active

def ScriptConforms (script : Script) : Prop :=
  Accords Fits script.phase script.channel

variable {event : SessionServerEvent} {next : ScriptPhase} {stderr succeeds : Bool}
variable {timestampMs : Int} {action : ScriptAction} {pipe : Pipe} {line : Line UInt8}
variable {channel : EventChannel}

open Script

section

variable {showOutput : Bool} {script after : Script}

theorem sendThen_conforms (conforms : ScriptConforms script)
    (leads : Leads Fits script.phase event next)
    (moved : script.sendThen event next = some after) : ScriptConforms after := by
  obtain ⟨⟨_, _⟩, send_eq, after_eq⟩ := Option.map_eq_some_iff.mp moved
  cases after_eq
  exact Accords.send conforms leads send_eq

theorem stepAdvance_conforms (conforms : ScriptConforms script)
    (moved : script.stepAdvance = some after) : ScriptConforms after := by
  unfold stepAdvance at moved
  split at moved
  case h_4 phase =>
    cases moved
    exact conforms.moves (by simp [phase, Fits])
  case h_7 => cases moved
  all_goals
    rename_i phase
    refine sendThen_conforms conforms ?_ moved
    simp [Leads, phase, Fits, Stage.next]

theorem putPipe_phase (script : Script) (stderr : Bool) (pipe : Pipe) :
    (script.putPipe stderr pipe).phase = script.phase := by
  cases stderr <;> rfl

theorem putPipe_channel (script : Script) (stderr : Bool) (pipe : Pipe) :
    (script.putPipe stderr pipe).channel = script.channel := by
  cases stderr <;> rfl

section

variable (conforms : ScriptConforms script)

include conforms

theorem ScriptConforms.putPipe (stderr : Bool) (pipe : Pipe) :
    ScriptConforms (script.putPipe stderr pipe) := by
  unfold ScriptConforms
  rw [putPipe_phase, putPipe_channel]
  exact conforms

theorem stepReadsLine_conforms
    (moved : script.stepReadsLine showOutput stderr timestampMs = some after) :
    ScriptConforms after := by
  unfold stepReadsLine at moved
  split at moved
  next phase =>
    split at moved
    next line pipe _ =>
      have read := conforms.putPipe stderr pipe
      dsimp only at moved
      split at moved <;> cases moved
      · exact read.moves (by simp [putPipe_phase, phase, Fits])
      · exact read
    next =>
      cases moved
      exact conforms
    next => cases moved
  next => cases moved

theorem stepAwaits_conforms (moved : script.stepAwaits succeeds = some after) :
    ScriptConforms after := by
  unfold stepAwaits at moved
  split at moved
  next phase _ => split at moved <;> cases moved <;> exact conforms.moves (by simp [phase, Fits])
  next => cases moved

theorem stepScript_conforms (moved : stepScript showOutput script action = some after) :
    ScriptConforms after := by
  cases action with
  | advances => exact stepAdvance_conforms conforms moved
  | readsLine => exact stepReadsLine_conforms conforms moved
  | awaits => exact stepAwaits_conforms conforms moved
  | spawns =>
    simp only [stepScript] at moved
    split at moved
    next phase => split at moved <;> cases moved <;> exact conforms.moves (by simp [phase, Fits])
    next => cases moved
  | elapses =>
    simp only [stepScript] at moved
    split at moved
    case h_1 phase | h_2 phase =>
      cases moved
      exact conforms.moves (by simp [phase, Fits])
    next => cases moved
  | childWrites =>
    simp only [stepScript] at moved
    split at moved <;> cases moved
    exact conforms.putPipe _ _
  | pipeCloses =>
    cases moved
    exact conforms.putPipe _ _
  | readFails | childExits =>
    simp only [stepScript] at moved
    split at moved <;> cases moved
    exact conforms
  | openerReturns =>
    cases moved
    exact conforms.openerReturns
  | loopReceives =>
    obtain ⟨_, received, after_eq⟩ := Option.map_eq_some_iff.mp moved
    cases after_eq
    refine Accords.receive conforms ?_ received
    intro gone stage fits
    rw [of_decide_eq_true gone] at fits
    exact fits

end

theorem reaches_scriptConforms {final : Script}
    (run : Reaches (stepScript showOutput) anyAction opened final) :
    ScriptConforms final := by
  apply run.invariant (⟨.initial, rfl, Conforms.new⟩ : ScriptConforms opened)
  intro before action next conforms _ moved
  exact stepScript_conforms conforms moved

theorem sendThen_sent (moved : script.sendThen event next = some after)
    (conforms : ScriptConforms script) (unended : script.phase ≠ .ended) :
    ∃ channel, after = { script with channel := channel, phase := next } ∧
      channel.sent = script.channel.sent ++ [event] := by
  obtain ⟨stage, fits, channel_conforms⟩ := conforms
  obtain ⟨⟨_, channel⟩, send_eq, after_eq⟩ := Option.map_eq_some_iff.mp moved
  have still_open : stage ≠ .closed := by
    intro closed
    subst closed
    cases phase : script.phase <;> rw [phase] at fits <;> simp_all [Fits]
  refine ⟨channel, after_eq.symm, ?_⟩
  rcases send_cases send_eq with ⟨loop_ended, _⟩ | ⟨_, _, channel_eq⟩
  · rw [channel_conforms.loop_running still_open] at loop_ended
    cases loop_ended
  · rw [channel_eq]

end

def outputOn (stderr : Bool) : SessionServerEvent → Option Bytes
  | .output data flag _ _ => if flag = stderr then some data else none
  | _ => none

def linesOn (stderr : Bool) (events : List SessionServerEvent) : List Bytes :=
  events.filterMap (outputOn stderr)

def pendingOn (stderr : Bool) : ScriptPhase → List Bytes
  | .emitting flag data _ => if flag = stderr then [data] else []
  | _ => []

def texts (read : List (Line UInt8)) : List Bytes :=
  (read.filter isText).map lineText

/-- The lines read from a stream were sent, but for the one in hand. -/
def Account (script : Script) (stderr : Bool) : Prop :=
  ∃ read, ((script.pipe stderr).closed = false →
      Follows newline (script.pipe stderr).written read (script.pipe stderr).unread) ∧
    Covers newline (script.pipe stderr).written read (script.pipe stderr).unread ∧
    texts read = linesOn stderr script.channel.sent ++ pendingOn stderr script.phase

def isExit : SessionServerEvent → Bool
  | .exit _ _ _ => true
  | _ => false

/-- Only a session whose timeout has fired is killed and reported as timed out. -/
def MatchesClock : ScriptPhase → Bool → Prop
  | .readying, elapsed => elapsed = false
  | .spawning, elapsed => elapsed = false
  | .selecting, elapsed => elapsed = false
  | .emitting _ _ _, elapsed => elapsed = false
  | .exiting _ timedOut, elapsed => timedOut = elapsed
  | .killing, elapsed => elapsed = true
  | _, _ => True

/-- Nothing but the closing event follows an exit that was not forced by the timeout. -/
def ExitLast (script : Script) : Prop :=
  ∀ front exitCode message back,
    script.channel.sent = front ++ .exit exitCode false message :: back →
      script.elapsed = false ∧ (script.phase = .closing ∨ script.phase = .ended) ∧
        ∀ event ∈ back, event.isClosed = true

structure ScriptInvariant (script : Script) : Prop where
  conforms : ScriptConforms script
  accounts : script.elapsed = false → ∀ stderr, Account script stderr
  unexited : script.phase ≠ .closing → script.phase ≠ .ended →
    ∀ event ∈ script.channel.sent, isExit event = false
  clock : MatchesClock script.phase script.elapsed
  exitLast : ExitLast script

section

variable {script after : Script}

theorem pipe_putPipe (script : Script) (changed stderr : Bool) (pipe : Pipe) :
    (script.putPipe changed pipe).pipe stderr =
      if changed = stderr then pipe else script.pipe stderr := by
  cases changed <;> cases stderr <;> rfl

theorem putPipe_elapsed (script : Script) (stderr : Bool) (pipe : Pipe) :
    (script.putPipe stderr pipe).elapsed = script.elapsed := by
  cases stderr <;> rfl

theorem linesOn_snoc (stderr : Bool) (events : List SessionServerEvent)
    (event : SessionServerEvent) :
    linesOn stderr (events ++ [event]) =
      linesOn stderr events ++ (outputOn stderr event).toList := by
  unfold linesOn
  rw [List.filterMap_append]
  cases written : outputOn stderr event <;> simp [written]

theorem texts_snoc (read : List (Line UInt8)) (line : Line UInt8) :
    texts (read ++ [line]) = texts read ++ if isText line then [lineText line] else [] := by
  unfold texts
  rw [List.filter_append, List.map_append]
  by_cases valid : isText line = true <;> simp [valid]

section

variable (account : Account script stderr)

include account

theorem Account.of_same (pipe_eq : after.pipe stderr = script.pipe stderr)
    (sent_eq : after.channel.sent = script.channel.sent)
    (pending_eq : pendingOn stderr after.phase = pendingOn stderr script.phase) :
    Account after stderr := by
  unfold Account
  rw [pipe_eq, sent_eq, pending_eq]
  exact account

theorem Account.write (bytes : Bytes) (still_open : (script.pipe stderr).closed = false) :
    Account (script.putPipe stderr ((script.pipe stderr).write bytes)) stderr := by
  obtain ⟨read, follows, _, texts_eq⟩ := account
  have grown := (follows still_open).write bytes
  refine ⟨read, ?_, ?_, ?_⟩
  · rw [pipe_putPipe, if_pos rfl]
    exact fun _ => grown
  · rw [pipe_putPipe, if_pos rfl]
    exact grown.covers
  · rw [putPipe_channel, putPipe_phase]
    exact texts_eq

theorem Account.close :
    Account (script.putPipe stderr { script.pipe stderr with closed := true }) stderr := by
  obtain ⟨read, _, covers, texts_eq⟩ := account
  refine ⟨read, ?_, ?_, ?_⟩
  · rw [pipe_putPipe, if_pos rfl]
    intro still_open
    cases still_open
  · rw [pipe_putPipe, if_pos rfl]
    exact covers
  · rw [putPipe_channel, putPipe_phase]
    exact texts_eq

end

theorem nextLine_reads {next : Pipe} {read : List (Line UInt8)}
    (taken : pipe.nextLine = some (some line, next))
    (follows : pipe.closed = false → Follows newline pipe.written read pipe.unread)
    (covers : Covers newline pipe.written read pipe.unread) :
    (next.closed = false → Follows newline next.written (read ++ [line]) next.unread) ∧
      Covers newline next.written (read ++ [line]) next.unread := by
  unfold Pipe.nextLine at taken
  split at taken
  next content rest broken =>
    cases taken
    exact ⟨fun still_open => (follows still_open).take broken, covers.take broken⟩
  next unbroken =>
    split at taken
    next closed =>
      split at taken
      next => cases taken
      next nonempty =>
        cases taken
        refine ⟨?_, covers.finish unbroken nonempty⟩
        intro still_open
        rw [closed] at still_open
        cases still_open
    next => cases taken

theorem snoc_cut {Element : Type} {list front back : List Element} {last cut : Element}
    (same : list ++ [last] = front ++ cut :: back) :
    (front = list ∧ last = cut ∧ back = []) ∨
      ∃ earlier, list = front ++ cut :: earlier ∧ back = earlier ++ [last] := by
  rcases List.append_eq_append_iff.mp same with ⟨middle, rfl, _⟩ | ⟨middle, rfl, _⟩
  · cases middle <;> simp_all
  · cases middle <;> simp_all

def isLate : ScriptPhase → Bool
  | .closing | .ended => true
  | _ => false

theorem ScriptInvariant.none_exited (holds : ScriptInvariant script)
    (early : isLate script.phase = false) :
    ∀ event ∈ script.channel.sent, isExit event = false := by
  apply holds.unexited
  · intro phase
    rw [phase] at early
    cases early
  · intro phase
    rw [phase] at early
    cases early

theorem ScriptInvariant.of_early (conforms : ScriptConforms after)
    (accounts : after.elapsed = false → ∀ stderr, Account after stderr)
    (none_exited : ∀ event ∈ after.channel.sent, isExit event = false)
    (clock : MatchesClock after.phase after.elapsed) : ScriptInvariant after := by
  refine ⟨conforms, accounts, fun _ _ => none_exited, clock, ?_⟩
  intro front exitCode message back sent_eq
  have exited := none_exited (.exit exitCode false message) (by rw [sent_eq]; simp)
  cases exited

theorem ScriptInvariant.of_same (holds : ScriptInvariant script)
    (conforms : ScriptConforms after) (phase_eq : after.phase = script.phase)
    (elapsed_eq : after.elapsed = script.elapsed)
    (sent_eq : after.channel.sent = script.channel.sent)
    (accounts : ∀ stderr, Account script stderr → Account after stderr) :
    ScriptInvariant after := by
  refine ⟨conforms, ?_, ?_, ?_, ?_⟩
  · intro in_time stderr
    rw [elapsed_eq] at in_time
    exact accounts stderr (holds.accounts in_time stderr)
  · rw [phase_eq, sent_eq]
    exact holds.unexited
  · rw [phase_eq, elapsed_eq]
    exact holds.clock
  · intro front exitCode message back
    rw [phase_eq, elapsed_eq, sent_eq]
    exact holds.exitLast front exitCode message back

theorem Account.send (account : Account script stderr)
    (sent_eq : channel.sent = script.channel.sent ++ [event])
    (handed : pendingOn stderr script.phase =
      (outputOn stderr event).toList ++ pendingOn stderr next) :
    Account { script with channel := channel, phase := next } stderr := by
  obtain ⟨read, follows, covers, texts_eq⟩ := account
  refine ⟨read, follows, covers, ?_⟩
  rw [texts_eq, handed]
  show _ = linesOn stderr channel.sent ++ pendingOn stderr next
  rw [sent_eq, linesOn_snoc, List.append_assoc]

section

variable (holds : ScriptInvariant script)

include holds

theorem exits_invariant {exitCode : Int} {timedOut : Bool}
    (phase : script.phase = .exiting exitCode timedOut)
    (moved : script.sendThen (.exit exitCode timedOut none) .closing = some after)
    (conforms : ScriptConforms after) : ScriptInvariant after := by
  obtain ⟨_, after_eq, sent_eq⟩ := sendThen_sent moved holds.conforms (by simp [phase])
  subst after_eq
  have none_exited := holds.none_exited (by simp [phase, isLate])
  refine ⟨conforms, ?_, ?_, ?_, ?_⟩
  · intro in_time stderr
    apply (holds.accounts in_time stderr).send sent_eq
    simp [phase, pendingOn, outputOn]
  · intro early
    exact absurd rfl early
  · trivial
  · intro front code message back decomposed
    have cut : script.channel.sent ++ [.exit exitCode timedOut none] =
        front ++ .exit code false message :: back := sent_eq.symm.trans decomposed
    -- no exit was sent before, so the one sent now is the one that is spoken of
    rcases snoc_cut cut with ⟨_, now, back_eq⟩ | ⟨_, sent_cut, _⟩
    · simp only [SessionServerEvent.exit.injEq] at now
      refine ⟨?_, Or.inl rfl, ?_⟩
      · have clock := holds.clock
        rw [phase] at clock
        exact clock.symm.trans now.2.1
      · rw [back_eq]
        simp
    · have exited := none_exited (.exit code false message) (by rw [sent_cut]; simp)
      cases exited

theorem closes_invariant (phase : script.phase = .closing)
    (moved : script.sendThen (.closed none) .ended = some after) (conforms : ScriptConforms after) :
    ScriptInvariant after := by
  obtain ⟨_, after_eq, sent_eq⟩ := sendThen_sent moved holds.conforms (by simp [phase])
  subst after_eq
  refine ⟨conforms, ?_, ?_, ?_, ?_⟩
  · intro in_time stderr
    apply (holds.accounts in_time stderr).send sent_eq
    simp [phase, pendingOn, outputOn]
  · intro _ unended
    exact absurd rfl unended
  · trivial
  · intro front code message back decomposed
    have cut : script.channel.sent ++ [.closed none] =
        front ++ .exit code false message :: back := sent_eq.symm.trans decomposed
    rcases snoc_cut cut with ⟨_, now, _⟩ | ⟨earlier, sent_cut, back_eq⟩
    · cases now
    · obtain ⟨in_time, _, all_closed⟩ := holds.exitLast front code message earlier sent_cut
      refine ⟨in_time, Or.inr rfl, ?_⟩
      rw [back_eq, List.forall_mem_append, List.forall_mem_singleton]
      exact ⟨all_closed, rfl⟩

theorem sends_invariant (early : isLate script.phase = false)
    (moved : script.sendThen event next = some after) (conforms : ScriptConforms after)
    (unexited : isExit event = false)
    (handed : ∀ stderr, pendingOn stderr script.phase =
      (outputOn stderr event).toList ++ pendingOn stderr next)
    (clock : MatchesClock next script.elapsed) : ScriptInvariant after := by
  have unended : script.phase ≠ .ended := by
    intro phase
    rw [phase] at early
    cases early
  obtain ⟨_, after_eq, sent_eq⟩ := sendThen_sent moved holds.conforms unended
  subst after_eq
  apply ScriptInvariant.of_early conforms
  · intro in_time stderr
    exact (holds.accounts in_time stderr).send sent_eq (handed stderr)
  · rw [sent_eq, List.forall_mem_append, List.forall_mem_singleton]
    exact ⟨holds.none_exited early, unexited⟩
  · exact clock

theorem ScriptInvariant.of_phase (early : isLate script.phase = false)
    (conforms : ScriptConforms after) (sent_eq : after.channel.sent = script.channel.sent)
    (accounts : after.elapsed = false → ∀ stderr, Account after stderr)
    (clock : MatchesClock after.phase after.elapsed) : ScriptInvariant after := by
  apply ScriptInvariant.of_early conforms accounts _ clock
  rw [sent_eq]
  exact holds.none_exited early

theorem ScriptInvariant.moves (early : isLate script.phase = false)
    (conforms : ScriptConforms after) (sent_eq : after.channel.sent = script.channel.sent)
    (pipes_eq : after.stdout = script.stdout ∧ after.stderr = script.stderr)
    (in_time : after.elapsed = false → script.elapsed = false)
    (pending_eq : after.elapsed = false →
      ∀ stderr, pendingOn stderr after.phase = pendingOn stderr script.phase)
    (clock : MatchesClock after.phase after.elapsed) : ScriptInvariant after := by
  apply holds.of_phase early conforms sent_eq _ clock
  intro unelapsed stderr
  have pipe_eq : after.pipe stderr = script.pipe stderr := by
    rw [pipe, pipes_eq.1, pipes_eq.2, pipe]
  exact (holds.accounts (in_time unelapsed) stderr).of_same pipe_eq sent_eq
    (pending_eq unelapsed stderr)

theorem stepAdvance_invariant (moved : script.stepAdvance = some after) :
    ScriptInvariant after := by
  have conforms := stepAdvance_conforms holds.conforms moved
  have clock := holds.clock
  unfold stepAdvance at moved
  split at moved
  next phase =>
    rw [phase] at clock
    apply sends_invariant holds (by rw [phase]; rfl) moved conforms rfl
    · simp [phase, pendingOn, outputOn]
    · exact clock
  next flag data timestampMs phase =>
    apply sends_invariant holds (by rw [phase]; rfl) moved conforms rfl
    · intro stderr
      by_cases same : flag = stderr <;> simp [phase, pendingOn, outputOn, same]
    · rw [phase] at clock
      exact clock
  next exitCode timedOut phase => exact exits_invariant holds phase moved conforms
  next phase =>
    cases moved
    rw [phase] at clock
    exact holds.moves (by rw [phase]; rfl) conforms rfl ⟨rfl, rfl⟩ id (by simp [phase, pendingOn])
      clock.symm
  next message phase =>
    apply sends_invariant holds (by rw [phase]; rfl) moved conforms rfl
    · simp [phase, pendingOn, outputOn]
    · trivial
  next phase => exact closes_invariant holds phase moved conforms
  next => cases moved

end

/-- A line was read from one of the streams: it is in hand, or it is no text. -/
theorem Account.read (accounts : ∀ other, Account script other)
    (empty_handed : ∀ other, pendingOn other script.phase = [])
    (taken : (script.pipe stderr).nextLine = some (some line, pipe))
    (in_hand : ∀ other, pendingOn other next =
      if stderr = other ∧ isText line = true then [lineText line] else []) (other : Bool) :
    Account { script.putPipe stderr pipe with phase := next } other := by
  obtain ⟨read, follows, covers, texts_eq⟩ := accounts other
  have pipe_eq : ({ script.putPipe stderr pipe with phase := next } : Script).pipe other =
      if stderr = other then pipe else script.pipe other := pipe_putPipe script stderr other pipe
  have sent_eq : (script.putPipe stderr pipe).channel.sent = script.channel.sent :=
    congrArg EventChannel.sent (putPipe_channel script stderr pipe)
  rw [empty_handed, List.append_nil] at texts_eq
  by_cases same : stderr = other
  · subst same
    rw [if_pos rfl] at pipe_eq
    obtain ⟨follows_read, covers_read⟩ := nextLine_reads taken follows covers
    refine ⟨read ++ [line], by rw [pipe_eq]; exact follows_read,
      by rw [pipe_eq]; exact covers_read, ?_⟩
    show _ = linesOn stderr (script.putPipe stderr pipe).channel.sent ++ pendingOn stderr next
    rw [texts_snoc, texts_eq, sent_eq, in_hand]
    simp
  · rw [if_neg same] at pipe_eq
    refine ⟨read, by rw [pipe_eq]; exact follows, by rw [pipe_eq]; exact covers, ?_⟩
    show _ = linesOn other (script.putPipe stderr pipe).channel.sent ++ pendingOn other next
    rw [texts_eq, sent_eq, in_hand]
    simp [same]

section

variable (holds : ScriptInvariant script)

include holds

theorem stepReadsLine_invariant
    (moved : script.stepReadsLine true stderr timestampMs = some after) :
    ScriptInvariant after := by
  have conforms := stepReadsLine_conforms holds.conforms moved
  unfold stepReadsLine at moved
  split at moved
  next phase =>
    have early : isLate script.phase = false := by rw [phase]; rfl
    have empty_handed : ∀ other, pendingOn other script.phase = [] := by simp [phase, pendingOn]
    have in_time : script.elapsed = false := by
      have clock := holds.clock
      rw [phase] at clock
      exact clock
    split at moved
    next line pipe taken =>
      have sent_eq := congrArg EventChannel.sent (putPipe_channel script stderr pipe)
      have elapsed_eq := (putPipe_elapsed script stderr pipe).trans in_time
      dsimp only at moved
      split at moved
      next shown =>
        cases moved
        have valid : isText line = true := by simpa using shown
        apply holds.of_phase early conforms sent_eq
        · intro _
          apply Account.read (holds.accounts in_time) empty_handed taken
          simp [pendingOn, valid]
        · exact elapsed_eq
      next hidden =>
        cases moved
        have invalid : isText line = false := by simpa using hidden
        have in_hand : ∀ other, pendingOn other script.phase =
            if stderr = other ∧ isText line = true then [lineText line] else [] := by
          simp [phase, pendingOn, invalid]
        have unchanged : { script.putPipe stderr pipe with phase := script.phase } =
            script.putPipe stderr pipe := by
          cases stderr <;> rfl
        apply holds.of_phase early conforms sent_eq
        · intro _ other
          rw [← unchanged]
          exact Account.read (holds.accounts in_time) empty_handed taken in_hand other
        · rw [putPipe_phase, phase]
          exact elapsed_eq
    next =>
      cases moved
      exact holds
    next => cases moved
  next => cases moved

theorem stepAwaits_invariant (moved : script.stepAwaits succeeds = some after) :
    ScriptInvariant after := by
  have conforms := stepAwaits_conforms holds.conforms moved
  have clock := holds.clock
  unfold stepAwaits at moved
  split at moved
  next phase _ =>
    rw [phase] at clock
    have early : isLate script.phase = false := by rw [phase]; rfl
    split at moved <;> cases moved
    · exact holds.moves early conforms rfl ⟨rfl, rfl⟩ id (by simp [phase, pendingOn]) clock.symm
    · exact holds.moves early conforms rfl ⟨rfl, rfl⟩ id (by simp [phase, pendingOn]) trivial
  next => cases moved

theorem ScriptInvariant.putPipe
    (account : Account script stderr → Account (script.putPipe stderr pipe) stderr)
    (conforms : ScriptConforms (script.putPipe stderr pipe)) :
    ScriptInvariant (script.putPipe stderr pipe) := by
  have sent_eq := congrArg EventChannel.sent (putPipe_channel script stderr pipe)
  apply holds.of_same conforms (putPipe_phase script stderr pipe)
    (putPipe_elapsed script stderr pipe) sent_eq
  intro other before
  by_cases same : stderr = other
  · subst same
    exact account before
  · apply before.of_same
    · rw [pipe_putPipe, if_neg same]
    · exact sent_eq
    · rw [putPipe_phase]

end

theorem receive_sent {next : EventChannel} {producersGone : Bool}
    (moved : channel.receive producersGone = some next) : next.sent = channel.sent := by
  unfold EventChannel.receive at moved
  split at moved
  · cases moved
  · split at moved
    · dsimp only at moved
      split at moved <;> cases moved <;> rfl
    · split at moved <;> cases moved
      rfl

theorem stepScript_invariant (holds : ScriptInvariant script)
    (moved : stepScript true script action = some after) : ScriptInvariant after := by
  have conforms := stepScript_conforms holds.conforms moved
  have clock := holds.clock
  cases action with
  | advances => exact stepAdvance_invariant holds moved
  | readsLine => exact stepReadsLine_invariant holds moved
  | awaits => exact stepAwaits_invariant holds moved
  | readFails =>
    simp only [stepScript] at moved
    split at moved <;> cases moved
    exact holds
  | spawns =>
    simp only [stepScript] at moved
    split at moved
    next phase =>
      rw [phase] at clock
      have early : isLate script.phase = false := by rw [phase]; rfl
      split at moved <;> cases moved
      · exact holds.moves early conforms rfl ⟨rfl, rfl⟩ id (by simp [phase, pendingOn]) clock
      · exact holds.moves early conforms rfl ⟨rfl, rfl⟩ id (by simp [phase, pendingOn]) trivial
    next => cases moved
  | elapses =>
    -- what was in hand is lost, and nothing is accounted for any more
    simp only [stepScript] at moved
    split at moved
    case h_1 phase | h_2 phase =>
      cases moved
      exact holds.moves (by rw [phase]; rfl) conforms rfl ⟨rfl, rfl⟩ nofun nofun rfl
    next => cases moved
  | childWrites _ bytes =>
    simp only [stepScript] at moved
    split at moved
    next writable =>
      cases moved
      exact holds.putPipe (fun account => account.write bytes writable.2) conforms
    next => cases moved
  | pipeCloses =>
    cases moved
    exact holds.putPipe Account.close conforms
  | childExits =>
    simp only [stepScript] at moved
    split at moved <;> cases moved
    apply holds.of_same conforms rfl rfl rfl
    intro stderr account
    exact account.of_same (by cases stderr <;> rfl) rfl rfl
  | openerReturns =>
    cases moved
    apply holds.of_same conforms rfl rfl rfl
    intro stderr account
    exact account.of_same (by cases stderr <;> rfl) rfl rfl
  | loopReceives =>
    obtain ⟨_, received, after_eq⟩ := Option.map_eq_some_iff.mp moved
    cases after_eq
    apply holds.of_same conforms rfl rfl (receive_sent received)
    intro stderr account
    exact account.of_same (by cases stderr <;> rfl) (receive_sent received) rfl

theorem opened_invariant : ScriptInvariant opened := by
  refine ⟨⟨.initial, rfl, Conforms.new⟩, ?_, ?_, rfl, ?_⟩
  · intro _ stderr
    refine ⟨[], ?_, ?_, ?_⟩
    · intro _
      cases stderr <;> exact Follows.start
    · cases stderr <;> exact Follows.start.covers
    · cases stderr <;> rfl
  · intro _ _ event member
    cases member
  · intro front exitCode message back sent_eq
    cases front <;> cases sent_eq

end

/-- For each stream, one output per line stands in front of the exit event, in their order,
and none behind it. -/
def OutputComplete (script : Script) (front back : List SessionServerEvent) : Prop :=
  ∀ stderr, linesOn stderr front =
      (splitLines newline (script.pipe stderr).written).map lineText ∧
    linesOn stderr back = []

/-- In every run with visible output whose child wrote UTF-8 and exited in time, the outputs in
front of the exit event are those of all lines exactly if the two pipes were read to their end when
the task took the branch of `child.wait()`. -/
theorem script_output_complete_iff (final : Script)
    (run : Reaches (stepScript true) anyAction Script.opened final)
    (front back : List SessionServerEvent) (exitCode : Int) (message : Option String)
    (exited : final.channel.sent = front ++ .exit exitCode false message :: back)
    (text : ∀ stderr, ∀ line ∈ splitLines newline (final.pipe stderr).written, isText line = true) :
    OutputComplete final front back ↔ ∀ stderr, (final.pipe stderr).unread = [] := by
  have holds : ScriptInvariant final :=
    run.invariant opened_invariant fun _ _ _ before _ moved => stepScript_invariant before moved
  obtain ⟨in_time, late, all_closed⟩ := holds.exitLast front exitCode message back exited
  have none_later : ∀ stderr, linesOn stderr back = [] := by
    intro stderr
    rw [linesOn, List.filterMap_eq_nil_iff]
    intro event member
    have closes := all_closed event member
    cases event <;> first | rfl | cases closes
  have sent_lines : ∀ stderr, linesOn stderr final.channel.sent = linesOn stderr front := by
    intro stderr
    have later := none_later stderr
    unfold linesOn at later ⊢
    rw [exited, List.filterMap_append, List.filterMap_cons]
    simp [outputOn, later]
  have stream : ∀ stderr, linesOn stderr front =
      (splitLines newline (final.pipe stderr).written).map lineText ↔
        (final.pipe stderr).unread = [] := by
    intro stderr
    obtain ⟨read, _, covers, texts_eq⟩ := holds.accounts in_time stderr
    have none_pending : pendingOn stderr final.phase = [] := by
      rcases late with phase | phase <;> rw [phase] <;> rfl
    have all_text : read.filter isText = read := by
      rw [List.filter_eq_self]
      intro line member
      apply text stderr line
      rw [covers]
      exact List.mem_append_left _ member
    rw [none_pending, List.append_nil, sent_lines, texts, all_text] at texts_eq
    rw [← texts_eq, ← covers.complete_iff]
    constructor
    · intro same
      have lengths := congrArg List.length same
      rw [covers] at lengths ⊢
      simpa using lengths
    · intro same
      rw [← same]
  constructor
  · intro complete stderr
    exact (stream stderr).mp (complete stderr).1
  · intro read_to_end stderr
    exact ⟨(stream stderr).mpr (read_to_end stderr), none_later stderr⟩

def startScript : List ScriptAction :=
  [.openerReturns, .advances, .spawns true]

/-- The child writes `a` and `b` to the two streams and exits, and both lines are read before
its end is seen. -/
def patientActions : List ScriptAction :=
  startScript ++
    [.childWrites false [97, 10], .childWrites true [98], .childExits (some 0),
      .pipeCloses true, .readsLine true 7, .advances, .readsLine false 8, .advances,
      .awaits true, .advances, .advances]

theorem patient_script_is_complete :
    ∃ final, Reaches (stepScript true) anyAction Script.opened final ∧
      final.channel.sent = [.ready none, .output [98] true false (some 7),
        .output [97] false false (some 8)] ++ .exit 0 false none :: [.closed none] ∧
      OutputComplete final
        [.ready none, .output [98] true false (some 7), .output [97] false false (some 8)]
        [.closed none] := by
  obtain ⟨final, run, sent_eq, text, drained⟩ :
      ∃ final, Reaches (stepScript true) anyAction Script.opened final ∧
        final.channel.sent = [.ready none, .output [98] true false (some 7),
          .output [97] false false (some 8)] ++ .exit 0 false none :: [.closed none] ∧
        (∀ stderr, ∀ line ∈ splitLines newline (final.pipe stderr).written, isText line = true) ∧
        ∀ stderr, (final.pipe stderr).unread = [] :=
    reaches_of_evaluated patientActions (by decide +kernel)
  exact ⟨final, run, sent_eq,
    (script_output_complete_iff final run _ _ _ _ sent_eq text).mpr drained⟩

/-- The child writes a line and exits, and `select!` takes the branch of `child.wait()`
first. -/
def hastyActions : List ScriptAction :=
  startScript ++
    [.childWrites false [97, 10], .childExits (some 0), .pipeCloses false, .pipeCloses true,
      .awaits true, .advances, .advances]

/-- The line `a` is never sent. -/
theorem hasty_exit_loses_line :
    ∃ final, Reaches (stepScript true) anyAction Script.opened final ∧
      final.channel.sent = [.ready none] ++ .exit 0 false none :: [.closed none] ∧
      (∀ stderr, ∀ line ∈ splitLines newline (final.pipe stderr).written, isText line = true) ∧
      ¬ OutputComplete final [.ready none] [.closed none] := by
  refine reaches_of_evaluated hastyActions ?_
  unfold OutputComplete
  decide +kernel

end HandControl.ShellScript
