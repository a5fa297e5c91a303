import Mathlib.Tactic

/-!
# Runs of a transition system

A system is a partial step function. An action carries every choice of the environment, so a run is
determined by its actions. A guard restricts the actions that a run may take in a state.
-/

namespace HandControl.TransitionRuns

variable {State Action : Type}

def Permitted (step : State → Action → Option State) (guard : State → Action → Prop)
    (before after : State) : Prop :=
  ∃ action, guard before action ∧ step before action = some after

/-- A finite run of permitted steps. -/
def Reaches (step : State → Action → Option State) (guard : State → Action → Prop) :
    State → State → Prop :=
  Relation.ReflTransGen (Permitted step guard)

def anyAction (_ : State) (_ : Action) : Prop := True

instance (state : State) (action : Action) : Decidable (anyAction state action) :=
  isTrue trivial

variable {step : State → Action → Option State} {guard : State → Action → Prop}

theorem Reaches.refl (state : State) : Reaches step guard state state :=
  Relation.ReflTransGen.refl

theorem Reaches.trans {first second third : State} (front : Reaches step guard first second)
    (back : Reaches step guard second third) : Reaches step guard first third :=
  Relation.ReflTransGen.trans front back

variable {before after : State} {action : Action}

theorem Reaches.single (permitted : guard before action) (moved : step before action = some after) :
    Reaches step guard before after :=
  Relation.ReflTransGen.single ⟨action, permitted, moved⟩

variable {middle : State}

theorem Reaches.head (permitted : guard before action) (moved : step before action = some middle)
    (rest : Reaches step guard middle after) : Reaches step guard before after :=
  Relation.ReflTransGen.head ⟨action, permitted, moved⟩ rest

theorem Reaches.tail (front : Reaches step guard before middle) (permitted : guard middle action)
    (moved : step middle action = some after) : Reaches step guard before after :=
  Relation.ReflTransGen.tail front ⟨action, permitted, moved⟩

variable {holds : State → Prop} {start final : State}

/-- What holds at the start and is kept by every permitted step holds in every state
reached. -/
theorem Reaches.invariant (run : Reaches step guard start final) (initial : holds start)
    (kept : ∀ before action after, holds before → guard before action →
      step before action = some after → holds after) : holds final := by
  induction run with
  | refl => exact initial
  | tail _ last ih =>
    obtain ⟨action, permitted, moved⟩ := last
    exact kept _ action _ ih permitted moved

/-- The same rule for what is said about a state together with the run that led to it. -/
theorem Reaches.history (run : Reaches step guard start final) (initial : holds start)
    (kept : ∀ before action after, Reaches step guard start before → holds before →
      guard before action → step before action = some after → holds after) : holds final := by
  induction run with
  | refl => exact initial
  | tail front last ih =>
    obtain ⟨action, permitted, moved⟩ := last
    exact kept _ action _ front ih permitted moved

/-- Some state on the way from `start` to `current` was as described. -/
def Once (step : State → Action → Option State) (guard : State → Action → Prop)
    (start current : State) (seen : State → Prop) : Prop :=
  ∃ moment, Reaches step guard start moment ∧ Reaches step guard moment current ∧ seen moment

variable {seen : State → Prop}

theorem Once.now {current : State} (run : Reaches step guard start current) (holds : seen current) :
    Once step guard start current seen :=
  ⟨current, run, Reaches.refl current, holds⟩

theorem Once.later (once : Once step guard start before seen) (permitted : guard before action)
    (moved : step before action = some after) : Once step guard start after seen := by
  obtain ⟨moment, front, back, holds⟩ := once
  exact ⟨moment, front, back.tail permitted moved, holds⟩

/-- A run under a stronger guard is a run under a weaker one. -/
theorem Reaches.weaken {weaker : State → Action → Prop} (run : Reaches step guard start final)
    (implied : ∀ state action, guard state action → weaker state action) :
    Reaches step weaker start final := by
  induction run with
  | refl => exact Reaches.refl start
  | tail _ last ih =>
    obtain ⟨action, permitted, moved⟩ := last
    exact ih.tail (implied _ action permitted) moved

def runActions (step : State → Action → Option State) : State → List Action → Option State
  | state, [] => some state
  | state, action :: rest => (step state action).bind fun next => runActions step next rest

theorem runActions_append (start : State) (first second : List Action) :
    runActions step start (first ++ second) =
      (runActions step start first).bind fun middle => runActions step middle second := by
  induction first generalizing start with
  | nil => rfl
  | cons action rest ih =>
    rw [List.cons_append, runActions, runActions, Option.bind_assoc]
    exact congrArg _ (funext fun next => ih next)

/-- A run under a guard, together with the actions it took. -/
inductive Performs (step : State → Action → Option State) (guard : State → Action → Prop)
    (start : State) : List Action → State → Prop where
  | start : Performs step guard start [] start
  | step {done : List Action} {before after : State} {action : Action}
      (front : Performs step guard start done before) (permitted : guard before action)
      (moved : step before action = some after) :
      Performs step guard start (done ++ [action]) after

variable {actions : List Action}

theorem Performs.reaches (run : Performs step guard start actions final) :
    Reaches step guard start final := by
  induction run with
  | start => exact Reaches.refl start
  | step _ permitted moved ih => exact ih.tail permitted moved

/-- What holds at the start and is kept by every step holds of the actions and the state at
the end of a run. -/
theorem Performs.invariant {holds : List Action → State → Prop}
    (run : Performs step guard start actions final) (initial : holds [] start)
    (kept : ∀ done before action after, holds done before → guard before action →
      step before action = some after → holds (done ++ [action]) after) : holds actions final := by
  induction run with
  | start => exact initial
  | step _ permitted moved ih => exact kept _ _ _ _ ih permitted moved

theorem Performs.trans {front back : List Action} (first : Performs step guard start front middle)
    (second : Performs step guard middle back final) :
    Performs step guard start (front ++ back) final := by
  induction second with
  | start =>
    rw [List.append_nil]
    exact first
  | step _ permitted moved ih =>
    rw [← List.append_assoc]
    exact ih.step permitted moved

/-- Perform the actions in order as long as each passes the check. -/
def runChecked (step : State → Action → Option State) (check : State → Action → Bool) :
    State → List Action → Option State
  | state, [] => some state
  | state, action :: rest =>
    if check state action then
      (step state action).bind fun next => runChecked step check next rest
    else none

variable {check : State → Action → Bool}

section

variable (sound : ∀ state action, check state action = true → guard state action)
  (performed : runChecked step check start actions = some final)

include sound performed

theorem performs_of_runChecked : Performs step guard start actions final := by
  induction actions generalizing start with
  | nil =>
    have same : start = final := Option.some.inj performed
    rw [same]
    exact .start
  | cons action rest ih =>
    rw [runChecked] at performed
    split at performed
    · rename_i checked
      rw [Option.bind_eq_some_iff] at performed
      obtain ⟨next, moved, continued⟩ := performed
      have single : Performs step guard start ([] ++ [action]) next :=
        Performs.start.step (sound start action checked) moved
      exact single.trans (ih continued)
    · cases performed

end

theorem performs_of_runActions (performed : runActions step start actions = some final) :
    Performs step anyAction start actions final := by
  have unchecked (actions : List Action) (state) :
      runChecked step (fun _ _ => true) state actions = runActions step state actions := by
    induction actions generalizing state with
    | nil => rfl
    | cons action rest ih => simp only [runChecked, runActions, if_true, ih]
  exact performs_of_runChecked (fun _ _ _ => trivial) ((unchecked actions start).trans performed)

/-- Perform the actions in order as long as the guard permits each. -/
def runPermitted (step : State → Action → Option State) (guard : State → Action → Prop)
    [∀ state action, Decidable (guard state action)] : State → List Action → Option State :=
  runChecked step fun state action => decide (guard state action)

section

variable [∀ state action, Decidable (guard state action)]

theorem performs_of_evaluated
    (evaluated : ∃ final ∈ runPermitted step guard start actions, holds final) :
    ∃ final, Performs step guard start actions final ∧ holds final := by
  obtain ⟨final, performed, holds⟩ := evaluated
  exact ⟨final, performs_of_runChecked (fun _ _ => of_decide_eq_true) performed, holds⟩

/-- A run that was evaluated reaches a state of which this holds. -/
theorem reaches_of_evaluated (actions : List Action)
    (evaluated : ∃ final ∈ runPermitted step guard start actions, holds final) :
    ∃ final, Reaches step guard start final ∧ holds final := by
  obtain ⟨final, run, holds⟩ := performs_of_evaluated evaluated
  exact ⟨final, run.reaches, holds⟩

/-- The same for a state in which something is found. -/
theorem found_of_evaluated {Found : Type} {find : State → Option Found}
    {holds : State → Found → Prop} (actions : List Action)
    (evaluated : ∃ final ∈ runPermitted step guard start actions,
      ∃ found ∈ find final, holds final found) :
    ∃ final found, Reaches step guard start final ∧ find final = some found ∧
      holds final found := by
  obtain ⟨final, run, found, found_eq, holds⟩ := reaches_of_evaluated actions evaluated
  exact ⟨final, found, run, found_eq, holds⟩

end

/-- A condition on what is found, if anything is, can be checked. -/
instance decidableFound {Value : Type} {found : Option Value} {accepts : Value → Prop}
    [DecidablePred accepts] : Decidable (∀ value, found = some value → accepts value) :=
  decidable_of_iff (∀ value ∈ found, accepts value) Iff.rfl

/-- What is said about a step holds for every step of the run of a total system. -/
def Throughout (step : State → Action → State) (holds : State → Action → State → Prop) :
    State → List Action → Prop
  | _, [] => True
  | state, action :: rest =>
    holds state action (step state action) ∧
      Throughout step holds (step state action) rest

theorem throughout_congr {step : State → Action → State}
    {first second : State → Action → State → Prop}
    (same : ∀ before action after, first before action after ↔ second before action after)
    (actions : List Action) :
    ∀ start, Throughout step first start actions ↔ Throughout step second start actions := by
  induction actions with
  | nil => exact fun _ => Iff.rfl
  | cons action rest ih => exact fun start => and_congr (same start action _) (ih _)

end HandControl.TransitionRuns
