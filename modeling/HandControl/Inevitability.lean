import HandControl.TransitionRuns

/-!
# What every schedule leads to

`Inevitable step guard goal state`: every maximal run of permitted steps from `state` meets the
goal. The relation is inductive, so no run goes on for ever without meeting it, and a state without
a permitted step ends its run.
-/

namespace HandControl.Inevitability

open TransitionRuns

variable {State Action : Type}
variable {step : State → Action → Option State} {guard : State → Action → Prop}
variable {goal : State → Prop}

inductive Inevitable (step : State → Action → Option State) (guard : State → Action → Prop)
    (goal : State → Prop) : State → Prop
  | now {state : State} (met : goal state) : Inevitable step guard goal state
  | later {state : State} (moves : ∃ after, Permitted step guard state after)
      (leads : ∀ after, Permitted step guard state after → Inevitable step guard goal after) :
      Inevitable step guard goal state

/-- An invariant under which a state short of the goal has a permitted step, and under which
every permitted step lowers a measure, leads to the goal. -/
theorem Inevitable.of_measure {holds : State → Prop} (work : State → Nat)
    (kept : ∀ before after, holds before → Permitted step guard before after → holds after)
    (lowers : ∀ before after, holds before → Permitted step guard before after →
      work after < work before)
    (progress : ∀ state, holds state → ¬ goal state →
      ∃ after, Permitted step guard state after) {state : State} (start : holds state) :
    Inevitable step guard goal state := by
  induction bound : work state using Nat.strong_induction_on generalizing state with
  | _ amount ih =>
    by_cases met : goal state
    · exact .now met
    · apply Inevitable.later (progress state start met)
      intro after moved
      have less : work after < amount := by
        rw [← bound]
        exact lowers state after start moved
      exact ih (work after) less (kept state after start moved) rfl

/-- A run can stay for ever, or to its end, among states short of the goal. -/
theorem not_inevitable {avoids : State → Prop} (short : ∀ state, avoids state → ¬ goal state)
    (stays : ∀ before after, avoids before → Permitted step guard before after →
      ∃ other, Permitted step guard before other ∧ avoids other) {state : State}
    (start : avoids state) : ¬ Inevitable step guard goal state := by
  intro inevitable
  induction inevitable with
  | now met => exact short _ start met
  | later moves _ ih =>
    obtain ⟨after, moved⟩ := moves
    obtain ⟨other, moved_other, avoided⟩ := stays _ after start moved
    exact ih other moved_other avoided

end HandControl.Inevitability
