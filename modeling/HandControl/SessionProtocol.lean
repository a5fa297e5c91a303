import HandControl.ShellInteractive
import HandControl.ShellScript

/-!
# The event protocol of capability sessions

The event loop receives the announcement first, then output and heartbeat replies, then the exit or
errors, and the closing event last. A script keeps to this in every schedule. An interactive shell
does if it can be started and no output is underway while its exit is reported.
-/

namespace HandControl.SessionProtocol

open CapabilityParameters EventTranscripts ShellInteractive ShellScript TransitionRuns

inductive SessionRun : EventChannel → Prop where
  | script {showOutput : Bool} {final : Script}
      (run : Reaches (stepScript showOutput) anyAction Script.opened final) :
      SessionRun final.channel
  | interactive {definition : ShellInteractiveDefinition} {final : Shell}
      (run : Reaches (stepShell definition) (OrderlyShell definition) (Shell.opened definition)
        final) :
      SessionRun final.channel

theorem SessionRun.conforms {channel : EventChannel} (run : SessionRun channel) :
    ∃ stage, Conforms channel stage := by
  cases run with
  | script run =>
    obtain ⟨stage, _, conforms⟩ := reaches_scriptConforms run
    exact ⟨stage, conforms⟩
  | interactive run =>
    obtain ⟨stage, _, conforms⟩ := (reaches_shellConforms run).accords
    exact ⟨stage, conforms⟩

/-- What the event loop received is the beginning of a transcript at every moment, and a whole
one when the loop has ended. -/
theorem received_events_follow_protocol (channel : EventChannel) (run : SessionRun channel) :
    IsBeginning channel.received ∧
      (channel.loopEnded = true → IsTranscript channel.received) := by
  obtain ⟨_, conforms⟩ := run.conforms
  refine ⟨conforms.beginning, ?_⟩
  intro ended
  exact transcript_of_scan (conforms.ended ended)

instance (definition : ShellInteractiveDefinition) (shell : Shell) (action : ShellAction) :
    Decidable (OrderlyShell definition shell action) := by
  cases action <;> unfold OrderlyShell <;> infer_instance

/-- The shell prints a byte, answers a heartbeat and exits. -/
def quietEnd : List ShellAction :=
  [.openerReturns, .starts true, .advances, .readerReads [36] 1, .readerSends,
    .clientSends (.heartbeat 2), .receives, .advances, .childEnds (.exited 0), .readerEnds,
    .takesExit, .advances, .advances, .advances, .loopReceives, .loopReceives, .loopReceives,
    .loopReceives, .loopReceives]

theorem quiet_end_is_transcript :
    ∃ channel, SessionRun channel ∧ channel.loopEnded = true ∧
      channel.received = [.ready (some "Shell started: /bin/sh"),
        .output [36] false true (some 1), .heartbeatAck 2 (some 0), .exit 0 false none,
        .closed (some "Session terminated")] ∧
      IsTranscript channel.received := by
  obtain ⟨final, performed, ended, received_eq⟩ :
      ∃ final, Reaches (stepShell plainShell) (OrderlyShell plainShell) (Shell.opened plainShell)
          final ∧ final.channel.loopEnded = true ∧
        final.channel.received = [.ready (some "Shell started: /bin/sh"),
          .output [36] false true (some 1), .heartbeatAck 2 (some 0), .exit 0 false none,
          .closed (some "Session terminated")] :=
    reaches_of_evaluated quietEnd (by decide +kernel)
  have run : SessionRun final.channel := .interactive performed
  exact ⟨final.channel, run, ended, received_eq,
    (received_events_follow_protocol final.channel run).2 ended⟩

/-- A value of the environment holds a NUL character. -/
def nulShell : ShellInteractiveDefinition :=
  { plainShell with env := AList.insert "PS1" (String.ofList [Char.ofNat 0]) ∅ }

/-- The exit is reported while the reader holds a chunk. -/
def lateOutput : List ShellAction :=
  [.openerReturns, .starts true, .advances, .readerReads [36] 1, .childEnds (.exited 0),
    .takesExit, .advances, .readerSends, .advances, .loopReceives, .loopReceives,
    .loopReceives, .loopReceives]

/-- A shell that cannot be started ends its channel without any event, and output may follow
the exit of one that was. -/
theorem interactive_shell_breaks_protocol :
    (∃ final, Reaches (stepShell nulShell) anyAction (Shell.opened nulShell) final ∧
      final.channel.loopEnded = true ∧ final.channel.received = []) ∧
    ∃ final, Reaches (stepShell plainShell) anyAction (Shell.opened plainShell) final ∧
      final.channel.loopEnded = true ∧
      final.channel.received = [.ready (some "Shell started: /bin/sh"), .exit 0 false none,
        .output [36] false true (some 1), .closed (some "Session terminated")] := by
  constructor
  · refine reaches_of_evaluated [.openerReturns, .starts true, .loopReceives] ?_
    decide +kernel
  · refine reaches_of_evaluated lateOutput ?_
    decide +kernel

end HandControl.SessionProtocol
