import Mathlib.Data.Set.Insert
import Mathlib.Logic.Function.Basic
import Mathlib.Tactic.SplitIfs

/-!
# Tokens that are replaced when they are used

Whoever uses the current token of a resource gets a new one put in its place. Tokens are never
issued twice. By the invariant a token that was spent is never the current one again, of whatever
resource.
-/

namespace HandControl.RotatingTokens

variable {Resource Token : Type} [DecidableEq Resource]

/-- `current` is `none` for a resource that is not there. -/
structure Rotation (Resource Token : Type) where
  current : Resource → Option Token
  issued : Set Token
  spent : Set Token

/-- A step puts a new token in the place of at most one, which may have been spent. -/
inductive Rotation.Step (before after : Rotation Resource Token) : Prop where
  | keeps (tokens : ∀ resource token, after.current resource = some token →
        before.current resource = some token)
      (issues : before.issued ⊆ after.issued) (uses : after.spent ⊆ before.spent)
  | renews (resource : Resource) (token : Token) (unissued : token ∉ before.issued)
      (tokens : after.current = Function.update before.current resource (some token))
      (issues : insert token before.issued ⊆ after.issued)
      (uses : ∀ old ∈ after.spent, old ∈ before.spent ∨ before.current resource = some old)

structure Rotation.Sound (rotation : Rotation Resource Token) : Prop where
  current_issued : ∀ resource token, rotation.current resource = some token →
    token ∈ rotation.issued
  distinct : ∀ first second token, rotation.current first = some token →
    rotation.current second = some token → first = second
  spent_issued : rotation.spent ⊆ rotation.issued
  spent_stale : ∀ token ∈ rotation.spent, ∀ resource, rotation.current resource ≠ some token

theorem Rotation.Sound.renews {before after : Rotation Resource Token} {resource : Resource}
    {token : Token} (sound : before.Sound) (unissued : token ∉ before.issued)
    (tokens : after.current = Function.update before.current resource (some token))
    (issues : insert token before.issued ⊆ after.issued)
    (uses : ∀ old ∈ after.spent, old ∈ before.spent ∨ before.current resource = some old) :
    after.Sound := by
  have old_differs : ∀ other old, before.current other = some old → old ≠ token := by
    intro other old current same
    exact unissued (same ▸ sound.current_issued other old current)
  have spent_before : ∀ old ∈ after.spent, old ∈ before.issued := by
    intro old spent
    rcases uses old spent with earlier | current
    · exact sound.spent_issued earlier
    · exact sound.current_issued resource old current
  constructor
  · intro other found current
    rw [tokens, Function.update_apply] at current
    split_ifs at current
    · cases current
      exact issues (Set.mem_insert _ _)
    · exact issues (Set.mem_insert_of_mem _ (sound.current_issued other found current))
  · intro first second found first_eq second_eq
    rw [tokens, Function.update_apply] at first_eq second_eq
    split_ifs at first_eq second_eq with first_own second_own second_own
    · rw [first_own, second_own]
    · cases first_eq
      exact absurd rfl (old_differs second _ second_eq)
    · cases second_eq
      exact absurd rfl (old_differs first _ first_eq)
    · exact sound.distinct first second found first_eq second_eq
  · intro old spent
    exact issues (Set.mem_insert_of_mem _ (spent_before old spent))
  · intro old spent other current
    rw [tokens, Function.update_apply] at current
    split_ifs at current with own
    · cases current
      exact unissued (spent_before _ spent)
    · rcases uses old spent with earlier | replaced
      · exact sound.spent_stale old earlier other current
      · exact own (sound.distinct other resource old current replaced)

theorem Rotation.Step.sound {before after : Rotation Resource Token} (step : before.Step after)
    (sound : before.Sound) : after.Sound := by
  cases step with
  | keeps tokens issues uses =>
    constructor
    · intro resource token current
      exact issues (sound.current_issued resource token (tokens resource token current))
    · intro first second token first_eq second_eq
      exact sound.distinct first second token (tokens first token first_eq)
        (tokens second token second_eq)
    · exact (uses.trans sound.spent_issued).trans issues
    · intro token spent resource current
      exact sound.spent_stale token (uses spent) resource (tokens resource token current)
  | renews _ _ unissued tokens issues uses => exact sound.renews unissued tokens issues uses

end HandControl.RotatingTokens
