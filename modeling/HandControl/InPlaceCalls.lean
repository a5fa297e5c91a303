import Mathlib.Tactic

/-!
# Fallible calls that change a state in place

A call changes the state as it goes and may fail on the way. What it changed before it
failed stays changed. The rules execute a call step by step. A call is atomic when its
failures change nothing.
-/

namespace HandControl.InPlaceCalls

abbrev Call (Failure State : Type) := ExceptT Failure (StateM State)

variable {Failure State Value Result : Type}

/-- The outcome of a call, and the state it leaves in either case. -/
def execute (call : Call Failure State Value) (state : State) :
    Except Failure Value × State :=
  (call.run.run state).run

@[simp] theorem execute_get (state : State) :
    execute (get : Call Failure State State) state = (.ok state, state) := rfl

@[simp] theorem execute_set (changed state : State) :
    execute (set changed : Call Failure State PUnit) state = (.ok ⟨⟩, changed) := rfl

theorem execute_bind (call : Call Failure State Value)
    (next : Value → Call Failure State Result) (state : State) :
    execute (call >>= next) state =
      match execute call state with
      | (.ok value, changed) => execute (next value) changed
      | (.error failure, changed) => (.error failure, changed) := by
  cases outcome : execute call state with
  | mk answer changed =>
    have run_eq : call.run.run state = (answer, changed) := outcome
    cases answer with
    | ok value =>
      show ((call >>= next).run.run state).run = (next value).run.run changed
      simp only [ExceptT.run_bind, StateT.run_bind, run_eq]
      rfl
    | error failure =>
      show ((call >>= next).run.run state).run = (.error failure, changed)
      simp only [ExceptT.run_bind, StateT.run_bind, run_eq]
      rfl

@[simp] theorem execute_map (change : Value → Result) (call : Call Failure State Value)
    (state : State) :
    execute (change <$> call) state =
      ((execute call state).1.map change, (execute call state).2) := by
  have map_eq : change <$> call = call >>= fun value => pure (change value) := by
    rw [map_eq_pure_bind]
  rw [map_eq, execute_bind]
  cases execute call state with
  | mk answer => cases answer <;> rfl

def Atomic (call : Call Failure State Value) : Prop :=
  ∀ state failure, (execute call state).1 = .error failure → (execute call state).2 = state

theorem Atomic.map {call : Call Failure State Value} (atomic : Atomic call)
    (change : Value → Result) : Atomic (change <$> call) := by
  intro state failure failed
  rw [execute_map] at failed ⊢
  cases answer : (execute call state).1 with
  | ok => simp [answer, Except.map] at failed
  | error other => exact atomic state other answer

end HandControl.InPlaceCalls
