import HandControl.SessionDetach

/-!
# Ending an interactive session

Every limit of a session is enforced by a signal: `terminate_child` sends SIGTERM, and the main task
goes on until the end of the process is reported. The process may ignore the signal, and `waitpid`
may have collected it before the main task hears of its end.
-/

namespace HandControl.ShellTermination

open CapabilityParameters SessionDetach ShellInteractive TransitionRuns Shell

def isInput : SessionClientEvent → Bool
  | .input _ _ => true
  | _ => false

/-- The main task is in `pty_write`. -/
def isWriting : ControlPhase → Bool
  | .writing _ => true
  | _ => false

/-- The deadline of the session has fired, or a request to close it was handled. -/
def Limited (shell : Shell) : Prop :=
  .maxDuration ∈ shell.terminated ∨ .closeRequest ∈ shell.terminated

def NoInput (events : List SessionClientEvent) : Prop :=
  ∀ event ∈ events, isInput event = false

/-- No input waits in the channel when a limit is reached, and none is sent later. -/
def InputEnds (shell : Shell) : ShellAction → Prop
  | .receives => ∀ event ∈ shell.inbound.head?, isClose event = true → NoInput shell.inbound
  | .maxElapses => NoInput shell.inbound
  | .clientSends event => Limited shell → isInput event = false
  | _ => True

variable {definition : ShellInteractiveDefinition} {shell after : Shell} {action : ShellAction}

/-- How the main task proceeds when it takes no event of a client. -/
def follows : ControlPhase → ControlPhase → Bool
  | .starting, .readying => true
  | .starting, .ended => true
  | .readying, .selecting => true
  | .writing _, .selecting => true
  | .acknowledging _, .selecting => true
  | .selecting, .exiting _ _ => true
  | .exiting _ _, .closing => true
  | .closing, .joining => true
  | .joining, .ended => true
  | _, _ => false

section

variable (moved : stepShell definition shell action = some after) (received : action ≠ .receives)

include moved received

theorem stepShell_phase : after.phase = shell.phase ∨ follows shell.phase after.phase = true := by
  cases stepShell_move moved with
  | starts _ _ phase_eq next_eq =>
    right
    rw [phase_eq, next_eq]
    split_ifs <;> rfl
  | announces _ _ _ _ _ announced =>
    right
    generalize shell.phase = phase at announced
    cases announced <;> rfl
  | writes _ phase_eq | joins phase_eq | takesExit _ _ phase_eq =>
    right
    rw [phase_eq]
    rfl
  | receives => exact absurd rfl received
  | _ => exact .inl rfl

/-- Only an input that is taken from the channel is written. -/
theorem stepShell_isWriting (idle : isWriting shell.phase = false) :
    isWriting after.phase = false := by
  rcases stepShell_phase moved received with same | proceeds
  · rw [same]
    exact idle
  · revert proceeds
    cases after.phase with
    | writing => cases shell.phase <;> exact fun impossible => by cases impossible
    | _ => exact fun _ => rfl

end

/-- Once a limit is reached, nothing is left to be written. -/
def InputOver (shell : Shell) : Prop :=
  Limited shell → NoInput shell.inbound ∧ isWriting shell.phase = false

theorem limited_terminateChild {cause : KillCause} {metadata : ExitMetadata}
    (other : cause ≠ .maxDuration ∧ cause ≠ .closeRequest) :
    Limited (shell.terminateChild cause metadata) ↔ Limited shell := by
  simp [Limited, terminateChild, other.1.symm, other.2.symm]

theorem onClientEvent_inputOver {event : SessionClientEvent} {inbound : List SessionClientEvent}
    (drained : InputOver shell) (ends : InputEnds shell .receives)
    (phase_eq : shell.phase = .selecting) (inbound_eq : shell.inbound = event :: inbound) :
    InputOver ({ shell with inbound := inbound }.onClientEvent event) := by
  unfold InputOver InputEnds at *
  rw [inbound_eq] at drained ends
  have rest (none_left : NoInput (event :: inbound)) : NoInput inbound :=
    fun other member => none_left other (List.mem_cons_of_mem _ member)
  cases event with
  | input =>
    intro limited
    have not_input := (drained limited).1 _ List.mem_cons_self
    cases not_input
  | close =>
    refine fun _ => ⟨rest (ends _ rfl rfl), ?_⟩
    simp [onClientEvent, terminateChild, phase_eq, isWriting]
  | heartbeat => exact fun limited => ⟨rest (drained limited).1, rfl⟩
  | resize | resume => exact fun limited => ⟨rest (drained limited).1, (drained limited).2⟩

theorem stepShell_inputOver (drained : InputOver shell) (ends : InputEnds shell action)
    (moved : stepShell definition shell action = some after) : InputOver after := by
  have quiet := stepShell_isWriting moved
  cases stepShell_move moved with
  | receives _ _ phase_eq inbound_eq =>
    exact onClientEvent_inputOver drained ends phase_eq inbound_eq
  | kills _ _ _ _ _ phase_eq way =>
    intro limited
    rcases way with ⟨rfl, rfl, _⟩ | ⟨rfl, rfl⟩ | ⟨rfl, rfl⟩
    · rw [limited_terminateChild (by decide)] at limited
      exact drained limited
    · rw [limited_terminateChild (by decide)] at limited
      exact drained limited
    · exact ⟨ends, by simp [terminateChild, phase_eq, isWriting]⟩
  | clientSends =>
    intro limited
    refine ⟨List.forall_mem_append.mpr ⟨(drained limited).1, ?_⟩, (drained limited).2⟩
    exact List.forall_mem_singleton.mpr (ends limited)
  | _ => exact fun limited => ⟨(drained limited).1, quiet (by simp) (drained limited).2⟩

/-- Whatever the process does with the signal, no input is written to the terminal once the
deadline of the session has fired or a request to close it was handled. -/
theorem no_input_written_after_limit (definition : ShellInteractiveDefinition) (final : Shell)
    (run : Reaches (stepShell definition) InputEnds (opened definition) final)
    (limited : Limited final) : isWriting final.phase = false := by
  have drained : InputOver final := by
    apply run.invariant
    · rintro (none_yet | none_yet) <;> cases none_yet
    · intro before action after drained ends moved
      exact stepShell_inputOver drained ends moved
  exact (drained limited).2

instance : Decidable (Limited shell) :=
  inferInstanceAs (Decidable (_ ∨ _))

instance (events : List SessionClientEvent) : Decidable (NoInput events) :=
  inferInstanceAs (Decidable (∀ event ∈ events, isInput event = false))

instance (shell : Shell) (action : ShellAction) : Decidable (InputEnds shell action) := by
  rcases action <;> unfold InputEnds <;> infer_instance

/-- The shell of a session that may last an hour. -/
def hourShell : ShellInteractiveDefinition :=
  { plainShell with maxDurationSeconds := some 3600 }

theorem input_ends_before_limit :
    ∃ final, Reaches (stepShell hourShell) InputEnds (opened hourShell) final ∧
      Limited final ∧ isWriting final.phase = false := by
  obtain ⟨final, run, limited⟩ :
      ∃ final, Reaches (stepShell hourShell) InputEnds (opened hourShell) final ∧ Limited final :=
    reaches_of_evaluated
      [.starts true, .advances, .clientSends (.input [108, 115, 10] false), .receives, .advances,
        .maxElapses, .clientSends (.heartbeat 1), .receives] (by decide +kernel)
  exact ⟨final, run, limited, no_input_written_after_limit hourShell final run limited⟩

/-- The process ignores SIGTERM, and what the client types after the deadline reaches it. -/
theorem input_written_after_deadline :
    ∃ final, Reaches (stepShell hourShell) anyAction (opened hourShell) final ∧
      Limited final ∧ isWriting final.phase = true := by
  refine reaches_of_evaluated [.starts true, .advances, .maxElapses,
    .clientSends (.input [108, 115, 10] false), .receives] ?_
  decide +kernel

/-- `waitpid` has collected the process. -/
def isCollected : WaitOutcome → Bool
  | .exited _ => true
  | .signalled _ => true
  | _ => false

instance (shell : Shell) : Decidable (ChildRuns shell) :=
  inferInstanceAs (Decidable (_ ∧ _))

/-- A session with the task that waits for its process. `inHand` is what `waitpid` has returned and
is not reported yet, and `signalsBefore` counts the signals sent before that. -/
structure WaitedShell where
  shell : Shell
  inHand : Option WaitOutcome
  signalsBefore : Option Nat
deriving DecidableEq

def WaitedShell.opened (definition : ShellInteractiveDefinition) : WaitedShell where
  shell := Shell.opened definition
  inHand := none
  signalsBefore := none

inductive WaitAction where
  | waitpidReturns (outcome : WaitOutcome)
  | shellTask (action : ShellAction)
deriving DecidableEq

def stepWaited (definition : ShellInteractiveDefinition) (state : WaitedShell) :
    WaitAction → Option WaitedShell
  | .waitpidReturns outcome =>
    if ChildRuns state.shell ∧ state.inHand = none then
      some
        { state with
          inHand := some outcome
          signalsBefore :=
            if isCollected outcome then some state.shell.terminated.length else none }
    else none
  | .shellTask (.childEnds outcome) =>
    if state.inHand = some outcome then
      (stepShell definition state.shell (.childEnds outcome)).map fun shell =>
        { state with shell := shell, inHand := none }
    else none
  | .shellTask action =>
    (stepShell definition state.shell action).map fun shell => { state with shell := shell }

/-- Every signal was sent to the process before it was collected. -/
def SignalsInTime (state : WaitedShell) : Prop :=
  ∀ count ∈ state.signalsBefore, state.shell.terminated.length = count

/-- The process is collected and the main task has not heard of it. -/
def Unheard (state : WaitedShell) : Prop :=
  state.signalsBefore ≠ none ∧ isServing state.shell.phase = true

/-- The clients are there, and none of them has asked to close the session. -/
def Attended (shell : Shell) : Prop :=
  shell.sendersGone = false ∧ ∀ event ∈ shell.inbound, isClose event = false

def isHarmless : ShellAction → Bool
  | .clientSends event => !isClose event
  | .clientsLeave => false
  | .idleElapses => false
  | .maxElapses => false
  | _ => true

/-- Between the end of the process and the moment when the main task takes the report of it, no
request to close waits or arrives, the clients stay, and no timer fires. -/
def EndsUndisturbed (state : WaitedShell) : WaitAction → Prop
  | .waitpidReturns outcome => isCollected outcome = true → Attended state.shell
  | .shellTask action => Unheard state → isHarmless action = true

def isEarly : ControlPhase → Bool
  | .starting => true
  | .readying => true
  | _ => false

section

variable (moved : stepShell definition shell action = some after)

include moved

theorem stepShell_begun (begun : isEarly shell.phase = false) :
    isEarly after.phase = false ∧
      (isServing after.phase = true → isServing shell.phase = true) := by
  by_cases received : action = .receives
  · cases received
    have stays := stepShell_staysActive moved (Or.inl rfl)
    rw [stays.selecting]
    refine ⟨?_, fun _ => rfl⟩
    have active := stays.active
    revert active
    cases after.phase <;> simp [Fits, isEarly]
  · rcases stepShell_phase moved received with same | proceeds
    · rw [same]
      exact ⟨begun, id⟩
    · revert proceeds begun
      cases shell.phase <;> cases after.phase <;> simp [follows, isEarly, isServing]

theorem stepShell_attended (attended : Attended shell) (harmless : isHarmless action = true) :
    after.terminated = shell.terminated ∧ Attended after := by
  obtain ⟨present, kept_open⟩ := attended
  cases stepShell_move moved with
  | receives event inbound _ inbound_eq =>
    rw [inbound_eq] at kept_open
    have rest_open : ∀ other ∈ inbound, isClose other = false :=
      fun other member => kept_open other (List.mem_cons_of_mem _ member)
    have unclosed := kept_open event List.mem_cons_self
    cases event with
    | close => cases unclosed
    | _ => exact ⟨rfl, present, rest_open⟩
  | kills _ _ _ _ _ _ way =>
    rcases way with ⟨_, _, gone⟩ | ⟨rfl, _⟩ | ⟨rfl, _⟩
    · cases present.symm.trans gone
    · cases harmless
    · cases harmless
  | clientSends =>
    refine ⟨rfl, present, List.forall_mem_append.mpr ⟨kept_open, ?_⟩⟩
    simpa [isHarmless] using harmless
  | clientsLeave => cases harmless
  | _ => exact ⟨rfl, present, kept_open⟩

theorem stepShell_unserved (idle : isServing shell.phase = false) :
    after.terminated = shell.terminated := by
  cases stepShell_move moved with
  | receives _ _ phase_eq | kills _ _ _ _ _ phase_eq =>
    rw [phase_eq] at idle
    cases idle
  | _ => rfl

end

theorem stepWaited_shellTask {state later : WaitedShell}
    (moved : stepWaited definition state (.shellTask action) = some later) :
    stepShell definition state.shell action = some later.shell ∧
      later.signalsBefore = state.signalsBefore := by
  cases action with
  | childEnds =>
    simp only [stepWaited] at moved
    split at moved
    · obtain ⟨_, shell_moved, later_eq⟩ := Option.map_eq_some_iff.mp moved
      cases later_eq
      exact ⟨shell_moved, rfl⟩
    · cases moved
  | _ =>
    simp only [stepWaited, Option.map_eq_some_iff] at moved
    obtain ⟨_, shell_moved, later_eq⟩ := moved
    cases later_eq
    exact ⟨shell_moved, rfl⟩

structure EndInvariant (state : WaitedShell) : Prop where
  course : Course state.shell
  begun : state.signalsBefore ≠ none → isEarly state.shell.phase = false
  in_time : SignalsInTime state
  attended : Unheard state → Attended state.shell

theorem EndInvariant.shellTask {state later : WaitedShell} (invariant : EndInvariant state)
    (undisturbed : Unheard state → isHarmless action = true)
    (moved : stepWaited definition state (.shellTask action) = some later) :
    EndInvariant later := by
  obtain ⟨shell_moved, before_eq⟩ := stepWaited_shellTask moved
  have begun (collected : later.signalsBefore ≠ none) :=
    stepShell_begun shell_moved (invariant.begun (before_eq ▸ collected))
  have kept (collected : later.signalsBefore ≠ none) :
      later.shell.terminated = state.shell.terminated := by
    by_cases serving : isServing state.shell.phase = true
    · have unheard : Unheard state := ⟨before_eq ▸ collected, serving⟩
      exact (stepShell_attended shell_moved (invariant.attended unheard) (undisturbed unheard)).1
    · exact stepShell_unserved shell_moved (Bool.eq_false_iff.mpr serving)
  refine ⟨stepShell_course invariant.course shell_moved, fun collected => (begun collected).1,
    ?_, ?_⟩
  · intro count counted
    rw [kept (by rw [Option.mem_def.mp counted]; simp)]
    exact invariant.in_time count (before_eq ▸ counted)
  · rintro ⟨collected, serving⟩
    have unheard : Unheard state := ⟨before_eq ▸ collected, (begun collected).2 serving⟩
    exact (stepShell_attended shell_moved (invariant.attended unheard) (undisturbed unheard)).2

theorem EndInvariant.waitpidReturns {state later : WaitedShell} {outcome : WaitOutcome}
    (invariant : EndInvariant state) (attended : isCollected outcome = true → Attended state.shell)
    (moved : stepWaited definition state (.waitpidReturns outcome) = some later) :
    EndInvariant later := by
  simp only [stepWaited] at moved
  split at moved
  next running =>
    cases moved
    have serving := invariant.course.served running.1
    refine ⟨invariant.course, ?_, ?_, ?_⟩
    · intro _
      revert serving
      cases state.shell.phase <;> simp [isServing, isEarly]
    · intro count counted
      simp only [Option.mem_def] at counted
      split at counted <;> cases counted
      rfl
    · rintro ⟨collected, _⟩
      apply attended
      by_contra uncollected
      simp [uncollected] at collected
  next => cases moved

/-- No signal is sent to the process after `waitpid` has collected it. -/
theorem no_signal_after_collection (definition : ShellInteractiveDefinition) (final : WaitedShell)
    (run : Reaches (stepWaited definition) EndsUndisturbed (WaitedShell.opened definition) final) :
    SignalsInTime final := by
  have invariant : EndInvariant final := by
    apply run.invariant
    · refine ⟨opened_course definition, fun collected => absurd rfl collected, ?_, ?_⟩
      · intro count counted
        cases counted
      · exact fun unheard => absurd rfl unheard.1
    · intro before action after invariant undisturbed moved
      cases action with
      | waitpidReturns => exact invariant.waitpidReturns undisturbed moved
      | shellTask => exact invariant.shellTask undisturbed moved
  exact invariant.in_time

instance (state : WaitedShell) : Decidable (Unheard state) :=
  inferInstanceAs (Decidable (_ ∧ _))

instance (shell : Shell) : Decidable (Attended shell) :=
  inferInstanceAs (Decidable (_ ∧ _))

instance (state : WaitedShell) (action : WaitAction) :
    Decidable (EndsUndisturbed state action) := by
  cases action <;> unfold EndsUndisturbed <;> infer_instance

/-- The client closes an idle session when its process has exited. -/
def closesLate : List WaitAction :=
  [.shellTask (.starts true), .shellTask .advances, .waitpidReturns (.exited 0),
    .shellTask (.childEnds (.exited 0)), .shellTask .takesExit, .shellTask .clientsLeave]

theorem exited_process_left_alone :
    ∃ final, Reaches (stepWaited plainShell) EndsUndisturbed (WaitedShell.opened plainShell) final ∧
      final.signalsBefore = some 0 ∧ SignalsInTime final := by
  obtain ⟨final, run, collected⟩ :
      ∃ final, Reaches (stepWaited plainShell) EndsUndisturbed (WaitedShell.opened plainShell)
        final ∧ final.signalsBefore = some 0 :=
    reaches_of_evaluated closesLate (by decide +kernel)
  exact ⟨final, run, collected, no_signal_after_collection plainShell final run⟩

/-- The request to close is handled before the report, so that the number of the process may
belong to another one when the signal is sent. -/
theorem collected_process_signalled :
    ∃ final, Reaches (stepWaited plainShell) anyAction (WaitedShell.opened plainShell) final ∧
      ¬ SignalsInTime final := by
  obtain ⟨final, run, collected, signalled⟩ :
      ∃ final, Reaches (stepWaited plainShell) anyAction (WaitedShell.opened plainShell) final ∧
        final.signalsBefore = some 0 ∧ final.shell.terminated = [.closeRequest] :=
    reaches_of_evaluated
      [.shellTask (.starts true), .shellTask .advances, .shellTask (.clientSends (.close none)),
        .waitpidReturns (.exited 0), .shellTask .receives] (by decide +kernel)
  refine ⟨final, run, ?_⟩
  intro in_time
  have length_eq := in_time 0 collected
  rw [signalled] at length_eq
  cases length_eq

end HandControl.ShellTermination
