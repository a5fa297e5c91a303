import HandControl.ShellScript

/-!
# The work of a shell script session

An iteration of the loop in `run_shell_command` takes a line or the exit of the process. A
stream at its end is ready at once and yields nothing, so the loop may take its branch again
and again while the process runs, as it may the branch of a stream that cannot be read.
-/

namespace HandControl.ScriptWork

open EventTranscripts LineReading ShellScript TransitionRuns Script

def isIteration : ScriptAction → Bool
  | .readsLine _ _ => true
  | .readFails _ => true
  | .awaits _ => true
  | _ => false

def iterations (actions : List ScriptAction) : Nat :=
  actions.countP isIteration

def producedLines (script : Script) : Nat :=
  (splitLines newline script.stdout.written).length +
    (splitLines newline script.stderr.written).length

/-- The loop does not take the branch of a stream that has reached its end, and no read fails. -/
def TakesLines (script : Script) : ScriptAction → Prop
  | .readsLine stderr _ => (script.pipe stderr).closed = true → (script.pipe stderr).unread ≠ []
  | .readFails _ => False
  | _ => True

def inLoop : ScriptPhase → Bool
  | .readying => true
  | .spawning => true
  | .selecting => true
  | .emitting _ _ _ => true
  | _ => false

def Reads (pipe : Pipe) (read : List (Line UInt8)) : Prop :=
  (pipe.closed = false → Follows newline pipe.written read pipe.unread) ∧
    Covers newline pipe.written read pipe.unread

/-- Every iteration has taken a line, or was the last one. -/
def Progress (count : Nat) (script : Script) : Prop :=
  ∃ out err, Reads script.stdout out ∧ Reads script.stderr err ∧
    count + (inLoop script.phase).toNat ≤ out.length + err.length + 1

variable {showOutput stderr : Bool} {script after : Script} {action : ScriptAction} {count : Nat}

theorem stepScript_quiet (moved : stepScript showOutput script action = some after)
    (quiet : ∀ stderr, (∀ timestampMs, action ≠ .readsLine stderr timestampMs) ∧
      action ≠ .readFails stderr ∧ (∀ bytes, action ≠ .childWrites stderr bytes) ∧
        action ≠ .pipeCloses stderr) :
    after.stdout = script.stdout ∧ after.stderr = script.stderr ∧
      (isIteration action).toNat + (inLoop after.phase).toNat ≤ (inLoop script.phase).toNat := by
  cases action with
  | readsLine | readFails | childWrites | pipeCloses => simp at quiet
  | _ => grind [stepScript, stepAdvance, stepAwaits, sendThen, inLoop, isIteration,
      Option.map_eq_some_iff]

section

variable (progress : Progress count script)

include progress

theorem Progress.putPipe {pipe : Pipe} {gained : Nat}
    (reads : ∀ read, Reads (script.pipe stderr) read → ∃ later, Reads pipe later ∧ read.length +
      gained ≤ later.length) : Progress (count + gained) (script.putPipe stderr pipe) := by
  obtain ⟨out, err, out_reads, err_reads, _⟩ := progress
  cases stderr with
  | false =>
    obtain ⟨later, later_reads, _⟩ := reads out out_reads
    refine ⟨later, err, later_reads, err_reads, ?_⟩
    show count + gained + (inLoop script.phase).toNat ≤ _
    omega
  | true =>
    obtain ⟨later, later_reads, _⟩ := reads err err_reads
    refine ⟨out, later, out_reads, later_reads, ?_⟩
    show count + gained + (inLoop script.phase).toNat ≤ _
    omega

theorem stepReadsLine_progress {timestampMs : Int}
    (takes : TakesLines script (.readsLine stderr timestampMs))
    (moved : script.stepReadsLine showOutput stderr timestampMs = some after) :
    Progress (count + 1) after := by
  unfold stepReadsLine at moved
  split at moved
  next phase_eq =>
    split at moved
    next line pipe taken =>
      have progressed : Progress (count + 1) (script.putPipe stderr pipe) := by
        apply progress.putPipe
        rintro read ⟨follows, covers⟩
        exact ⟨read ++ [line], nextLine_reads taken follows covers, by simp⟩
      have phase_kept : (script.putPipe stderr pipe).phase = .selecting := by
        rw [putPipe_phase, phase_eq]
      dsimp only at moved
      split at moved <;> cases moved
      · obtain ⟨out, err, out_reads, err_reads, bound⟩ := progressed
        rw [phase_kept] at bound
        exact ⟨out, err, out_reads, err_reads, bound⟩
      · exact progressed
    next ended =>
      -- only a closed stream with nothing unread yields `Ok(None)`
      unfold Pipe.nextLine at ended
      split at ended
      · cases ended
      · split_ifs at ended with closed empty
        · exact absurd empty (takes closed)
        · cases ended
    next => cases moved
  next => cases moved

theorem stepScript_progress (takes : TakesLines script action)
    (moved : stepScript showOutput script action = some after) :
    Progress (count + (isIteration action).toNat) after := by
  cases action with
  | readsLine => exact stepReadsLine_progress progress takes moved
  | readFails => cases takes
  | childWrites _ bytes =>
    simp only [stepScript] at moved
    split at moved
    next writable =>
      cases moved
      apply progress.putPipe
      rintro read ⟨follows, _⟩
      have written := (follows writable.2).write bytes
      exact ⟨read, ⟨fun _ => written, written.covers⟩, le_rfl⟩
    next => cases moved
  | pipeCloses =>
    cases moved
    apply progress.putPipe
    rintro read ⟨_, covers⟩
    refine ⟨read, ⟨?_, covers⟩, le_rfl⟩
    intro still_open
    cases still_open
  | _ =>
    obtain ⟨stdout_eq, stderr_eq, _⟩ := stepScript_quiet moved (by simp)
    obtain ⟨out, err, out_reads, err_reads, _⟩ := progress
    refine ⟨out, err, stdout_eq ▸ out_reads, stderr_eq ▸ err_reads, ?_⟩
    omega

end

/-- A session takes at most one iteration more than its process produces lines. -/
theorem iterations_bounded (showOutput : Bool) (actions : List ScriptAction) (final : Script)
    (run : Performs (stepScript showOutput) TakesLines opened actions final) :
    iterations actions ≤ producedLines final + 1 := by
  have progress : Progress (iterations actions) final := by
    apply run.invariant
    · exact ⟨[], [], ⟨fun _ => Follows.start, rfl⟩, ⟨fun _ => Follows.start, rfl⟩, le_rfl⟩
    · intro done before action after progress takes moved
      have progressed := stepScript_progress progress takes moved
      rwa [show iterations (done ++ [action]) = iterations done + (isIteration action).toNat by
        cases iterates : isIteration action <;> simp [iterations, iterates]]
  obtain ⟨out, err, ⟨_, out_covers⟩, ⟨_, err_covers⟩, bound⟩ := progress
  unfold producedLines
  rw [out_covers, err_covers, List.length_append, List.length_append]
  omega

instance (script : Script) (action : ScriptAction) :
    Decidable (TakesLines script action) := by
  rcases action <;> unfold TakesLines <;> infer_instance

/-- The process prints a line, closes its streams and exits. -/
theorem one_line_two_iterations :
    ∃ actions final, Performs (stepScript true) TakesLines opened actions final ∧
      iterations actions = 2 ∧ iterations actions ≤ producedLines final + 1 := by
  have performed : (runPermitted (stepScript true) TakesLines opened
      [.advances, .spawns true, .childWrites false [104, 105, 10], .readsLine false 0, .advances,
        .pipeCloses false, .pipeCloses true, .childExits (some 0), .awaits true]).isSome = true := by
    decide +kernel
  obtain ⟨final, ran⟩ := Option.isSome_iff_exists.mp performed
  have run := performs_of_runChecked (fun _ _ => of_decide_eq_true) ran
  exact ⟨_, final, run, by decide, iterations_bounded true _ final run⟩

/-- The session of a process that has closed its standard output and runs on. -/
def halfClosed : Script where
  phase := .selecting
  child := .running
  stdout := { Pipe.empty with closed := true }
  stderr := Pipe.empty
  elapsed := false
  channel := { EventChannel.new with queue := [.ready none], sent := [.ready none] }

theorem halfClosed_spins (count : Nat) :
    runActions (stepScript true) halfClosed (List.replicate count (.readsLine false 0)) =
      some halfClosed := by
  induction count with
  | zero => rfl
  | succ count ih =>
    rw [List.replicate_succ, runActions, show stepScript true halfClosed (.readsLine false 0) =
      some halfClosed by decide]
    exact ih

/-- No constant bounds the iterations: the branch of the closed stream is always ready. -/
theorem closed_stream_spins :
    ¬ ∃ constant, ∀ actions final, Performs (stepScript true) anyAction opened actions final →
      iterations actions ≤ producedLines final + constant := by
  rintro ⟨constant, bounded⟩
  have reached : runActions (stepScript true) opened
      ([.advances, .spawns true, .pipeCloses false] ++
        List.replicate (constant + 1) (.readsLine false 0)) = some halfClosed := by
    rw [runActions_append, show runActions (stepScript true) opened
      [.advances, .spawns true, .pipeCloses false] = some halfClosed by decide]
    exact halfClosed_spins (constant + 1)
  have bound := bounded _ _ (performs_of_runActions reached)
  have counted : iterations ([.advances, .spawns true, .pipeCloses false] ++
      List.replicate (constant + 1) (.readsLine false 0)) = constant + 1 := by
    simp [iterations, isIteration, List.countP_replicate]
  rw [counted, show producedLines halfClosed = 0 by decide] at bound
  omega

end HandControl.ScriptWork
