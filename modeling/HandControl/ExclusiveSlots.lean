import Mathlib.Tactic

/-!
# Slots with one holder

A holder takes the slot of a resource when it is free, and later gives it back once. Giving back
names only the resource, so it clears the slot whoever is in it. Resources are created under new
names and can be removed while held. By the invariant the slot always names its one holder.
-/

namespace HandControl.ExclusiveSlots

variable {Resource Holder : Type}

/-- `slot` is `none` for a resource that is not there and `some none` for a free one.
`holding` is what a holder has taken and not given back. -/
structure Ledger (Resource Holder : Type) where
  slot : Resource → Option (Option Holder)
  holding : Holder → Option Resource
  known : Resource → Prop

inductive Ledger.Step [DecidableEq Resource] [DecidableEq Holder]
    (before after : Ledger Resource Holder) : Prop where
  | keeps (slots : after.slot = before.slot) (holdings : after.holding = before.holding)
      (names : ∀ resource, before.known resource → after.known resource)
  | creates (resource : Resource) (fresh : ¬ before.known resource)
      (slots : after.slot = Function.update before.slot resource (some none))
      (holdings : after.holding = before.holding)
      (names : ∀ other, other = resource ∨ before.known other → after.known other)
  | takes (resource : Resource) (holder : Holder) (free : before.slot resource = some none)
      (idle : before.holding holder = none)
      (slots : after.slot = Function.update before.slot resource (some (some holder)))
      (holdings : after.holding = Function.update before.holding holder (some resource))
      (names : ∀ other, before.known other → after.known other)
  | givesBack (resource : Resource) (holder : Holder) (held : before.holding holder = some resource)
      (slots : after.slot = Function.update before.slot resource
        ((before.slot resource).map fun _ => none))
      (holdings : after.holding = Function.update before.holding holder none)
      (names : ∀ other, before.known other → after.known other)
  | removes (resource : Resource) (slots : after.slot = Function.update before.slot resource none)
      (holdings : after.holding = before.holding)
      (names : ∀ other, before.known other → after.known other)

/-- The slot of a resource names exactly the holder that has taken it. -/
structure Ledger.Sound (ledger : Ledger Resource Holder) : Prop where
  named : ∀ resource taken, ledger.slot resource = some taken →
    ∀ holder, ledger.holding holder = some resource ↔ taken = some holder
  unique : ∀ resource first second, ledger.holding first = some resource →
    ledger.holding second = some resource → first = second
  slot_known : ∀ resource taken, ledger.slot resource = some taken → ledger.known resource
  holding_known : ∀ holder resource, ledger.holding holder = some resource →
    ledger.known resource

variable {ledger : Ledger Resource Holder} {resource : Resource}

theorem Ledger.Sound.free (sound : ledger.Sound) (free : ledger.slot resource = some none)
    (holder : Holder) : ledger.holding holder ≠ some resource := by
  intro held
  have taken := (sound.named resource none free holder).mp held
  cases taken

variable {holder : Holder}

section

variable [DecidableEq Resource] {before after : Ledger Resource Holder}

theorem Ledger.Sound.creates (sound : before.Sound) (fresh : ¬ before.known resource)
    (slots : after.slot = Function.update before.slot resource (some none))
    (holdings : after.holding = before.holding)
    (names : ∀ other, other = resource ∨ before.known other → after.known other) : after.Sound := by
  refine ⟨?_, ?_, ?_, ?_⟩
  · intro other taken slot_eq holder
    rw [slots, Function.update_apply] at slot_eq
    rw [holdings]
    split_ifs at slot_eq with same
    · cases slot_eq
      subst same
      constructor
      · intro held
        exact absurd (sound.holding_known holder other held) fresh
      · intro taken
        cases taken
    · exact sound.named other taken slot_eq holder
  · rw [holdings]
    exact sound.unique
  · intro other taken slot_eq
    rw [slots, Function.update_apply] at slot_eq
    split_ifs at slot_eq with same
    · exact names other (Or.inl same)
    · exact names other (Or.inr (sound.slot_known other taken slot_eq))
  · intro holder other held
    rw [holdings] at held
    exact names other (Or.inr (sound.holding_known holder other held))

variable [DecidableEq Holder]

theorem Ledger.Sound.takes (sound : before.Sound) (free : before.slot resource = some none)
    (idle : before.holding holder = none)
    (slots : after.slot = Function.update before.slot resource (some (some holder)))
    (holdings : after.holding = Function.update before.holding holder (some resource))
    (names : ∀ other, before.known other → after.known other) : after.Sound := by
  have nobody := sound.free free
  refine ⟨?_, ?_, ?_, ?_⟩
  · intro other taken slot_eq somebody
    rw [slots, Function.update_apply] at slot_eq
    rw [holdings, Function.update_apply]
    split_ifs at slot_eq with same
    · cases slot_eq
      subst same
      split_ifs with own
      · simp [own]
      · simp [nobody somebody, Ne.symm own]
    · split_ifs with own
      · subst own
        have before_eq := sound.named other taken slot_eq somebody
        rw [idle] at before_eq
        simp only [reduceCtorEq, false_iff] at before_eq
        simp [before_eq, Ne.symm same]
      · exact sound.named other taken slot_eq somebody
  · intro other first second
    rw [holdings, Function.update_apply, Function.update_apply]
    split_ifs with own_first own_second own_second
    · intro _ _
      rw [own_first, own_second]
    · intro taken held
      cases taken
      exact absurd held (nobody second)
    · intro held taken
      cases taken
      exact absurd held (nobody first)
    · exact sound.unique other first second
  · intro other taken slot_eq
    rw [slots, Function.update_apply] at slot_eq
    split_ifs at slot_eq with same
    · exact names other (same ▸ sound.slot_known resource none free)
    · exact names other (sound.slot_known other taken slot_eq)
  · intro somebody other held
    rw [holdings, Function.update_apply] at held
    split_ifs at held with own
    · cases held
      exact names resource (sound.slot_known resource none free)
    · exact names other (sound.holding_known somebody other held)

theorem Ledger.Sound.givesBack (sound : before.Sound) (held : before.holding holder = some resource)
    (slots : after.slot = Function.update before.slot resource
      ((before.slot resource).map fun _ => none))
    (holdings : after.holding = Function.update before.holding holder none)
    (names : ∀ other, before.known other → after.known other) : after.Sound := by
  refine ⟨?_, ?_, ?_, ?_⟩
  · intro other taken slot_eq somebody
    rw [slots, Function.update_apply] at slot_eq
    rw [holdings, Function.update_apply]
    split_ifs at slot_eq with same
    · obtain ⟨_, _, cleared⟩ := Option.map_eq_some_iff.mp slot_eq
      subst same cleared
      split_ifs with own
      · simp
      · simp only [iff_false]
        intro also
        exact own (sound.unique other somebody holder also held)
    · split_ifs with own
      · subst own
        have before_eq := sound.named other taken slot_eq somebody
        rw [held, Option.some.injEq] at before_eq
        simp only [false_iff]
        intro taken_eq
        exact same (before_eq.mpr taken_eq).symm
      · exact sound.named other taken slot_eq somebody
  · intro other first second first_held second_held
    rw [holdings, Function.update_apply] at first_held second_held
    split_ifs at first_held second_held
    exact sound.unique other first second first_held second_held
  · intro other taken slot_eq
    rw [slots, Function.update_apply] at slot_eq
    split_ifs at slot_eq with same
    · exact names other (same ▸ sound.holding_known holder resource held)
    · exact names other (sound.slot_known other taken slot_eq)
  · intro somebody other also
    rw [holdings, Function.update_apply] at also
    split_ifs at also
    exact names other (sound.holding_known somebody other also)

theorem Ledger.Step.sound (sound : before.Sound) (step : before.Step after) : after.Sound := by
  cases step with
  | keeps slots holdings names =>
    refine ⟨?_, ?_, ?_, ?_⟩
    · rw [slots, holdings]
      exact sound.named
    · rw [holdings]
      exact sound.unique
    · intro resource taken slot_eq
      rw [slots] at slot_eq
      exact names resource (sound.slot_known resource taken slot_eq)
    · intro holder resource held
      rw [holdings] at held
      exact names resource (sound.holding_known holder resource held)
  | creates _ fresh slots holdings names => exact sound.creates fresh slots holdings names
  | takes _ _ free idle slots holdings names =>
    exact sound.takes free idle slots holdings names
  | givesBack _ _ held slots holdings names =>
    exact sound.givesBack held slots holdings names
  | removes _ slots holdings names =>
    refine ⟨?_, ?_, ?_, ?_⟩
    · intro other taken slot_eq
      rw [slots, Function.update_apply] at slot_eq
      rw [holdings]
      split_ifs at slot_eq
      exact sound.named other taken slot_eq
    · rw [holdings]
      exact sound.unique
    · intro other taken slot_eq
      rw [slots, Function.update_apply] at slot_eq
      split_ifs at slot_eq
      exact names other (sound.slot_known other taken slot_eq)
    · intro holder other held
      rw [holdings] at held
      exact names other (sound.holding_known holder other held)

end

theorem Ledger.Sound.ncard (sound : ledger.Sound) {taken : Option Holder}
    (slot_eq : ledger.slot resource = some taken) :
    {holder | ledger.holding holder = some resource}.ncard = if taken.isSome then 1 else 0 := by
  have named := sound.named resource taken slot_eq
  cases taken with
  | none =>
    have empty : {holder | ledger.holding holder = some resource} = ∅ := by
      ext holder
      simp [named holder]
    simp [empty]
  | some owner =>
    have single : {holder | ledger.holding holder = some resource} = {owner} := by
      ext holder
      rw [Set.mem_ofPred_eq, named holder, Option.some.injEq, Set.mem_singleton_iff]
      exact eq_comm
    simp [single]

/-- Holder and resource are bound to each other, by the slot or by use. A holder may use its
resource from the moment it has taken it, and nothing stops it from using it after it gave it
back. -/
def Ledger.Engaged (ledger : Ledger Resource Holder) (uses : Holder → Option Resource)
    (holder : Holder) (resource : Resource) : Prop :=
  ledger.holding holder = some resource ∨ uses holder = some resource

/-- Whoever uses a resource that is still there holds it, and no two are engaged with one
resource. -/
structure Ledger.ExclusiveUse (ledger : Ledger Resource Holder)
    (uses : Holder → Option Resource) : Prop where
  owned : ∀ holder resource, uses holder = some resource → ledger.slot resource ≠ none →
    ledger.holding holder = some resource
  known : ∀ holder resource, uses holder = some resource → ledger.known resource
  unique : ∀ resource first second, ledger.Engaged uses first resource →
    ledger.Engaged uses second resource → first = second

variable {before after : Ledger Resource Holder} {uses laterUses : Holder → Option Resource}

theorem Ledger.ExclusiveUse.holding (exclusive : before.ExclusiveUse uses)
    (engaged : before.Engaged uses holder resource)
    (present : before.slot resource ≠ none) : before.holding holder = some resource := by
  rcases engaged with held | used
  · exact held
  · exact exclusive.owned holder resource used present

theorem Ledger.Engaged.isKnown (sound : before.Sound) (exclusive : before.ExclusiveUse uses)
    (engaged : before.Engaged uses holder resource) : before.known resource := by
  rcases engaged with held | used
  · exact sound.holding_known holder resource held
  · exact exclusive.known holder resource used

variable [DecidableEq Resource] [DecidableEq Holder]

theorem Ledger.Step.known_mono (step : before.Step after) (known : before.known resource) :
    after.known resource := by
  cases step with
  | keeps _ _ names => exact names resource known
  | creates _ _ _ _ names => exact names resource (Or.inr known)
  | takes _ _ _ _ _ _ names | givesBack _ _ _ _ _ names | removes _ _ _ names =>
    exact names resource known

theorem Ledger.Step.slot_before (step : before.Step after) (known : before.known resource)
    (present : after.slot resource ≠ none) : before.slot resource ≠ none := by
  intro absent
  apply present
  cases step with
  | keeps slots => rw [slots, absent]
  | creates created fresh slots =>
    have different : resource ≠ created := by
      intro same
      exact fresh (same ▸ known)
    rw [slots, Function.update_of_ne different, absent]
  | takes taken _ free _ slots =>
    have different : resource ≠ taken := by
      intro same
      rw [same, free] at absent
      cases absent
    rw [slots, Function.update_of_ne different, absent]
  | givesBack _ _ _ slots =>
    rw [slots, Function.update_apply]
    split_ifs with same
    · rw [← same, absent]
      rfl
    · exact absent
  | removes _ slots =>
    rw [slots, Function.update_apply, absent]
    exact ite_self none

theorem Ledger.Step.holding_before (step : before.Step after)
    (held : after.holding holder = some resource) :
    before.holding holder = some resource ∨ before.slot resource = some none := by
  cases step with
  | keeps slots holdings | creates _ _ _ holdings => exact Or.inl (holdings ▸ held)
  | takes _ _ free _ _ holdings =>
    rw [holdings, Function.update_apply] at held
    split_ifs at held with same
    · cases held
      exact Or.inr free
    · exact Or.inl held
  | givesBack _ _ _ _ holdings =>
    rw [holdings, Function.update_apply] at held
    split_ifs at held
    exact Or.inl held
  | removes _ _ holdings => exact Or.inl (holdings ▸ held)

/-- A step keeps the exclusive use when new uses start with engaged holders, and a holder
that gives back a resource which is still there no longer uses it. -/
theorem Ledger.Step.exclusiveUse (sound : before.Sound) (exclusive : before.ExclusiveUse uses)
    (step : before.Step after)
    (starts : ∀ holder resource, laterUses holder = some resource →
      before.Engaged uses holder resource)
    (stops : ∀ holder resource, before.holding holder = some resource →
      after.holding holder ≠ some resource → laterUses holder = some resource →
      before.slot resource = none) :
    after.ExclusiveUse laterUses := by
  -- a user that was engaged before and a new holder are the same
  have one_user : ∀ resource user keeper, laterUses user = some resource →
      after.holding keeper = some resource → user = keeper := by
    intro resource user keeper used held
    have engaged := starts user resource used
    rcases step.holding_before held with earlier | free
    · exact exclusive.unique resource user keeper engaged (Or.inl earlier)
    · have held_before := exclusive.holding engaged (by simp [free])
      exact absurd held_before (sound.free free user)
  constructor
  · intro holder resource used present
    have engaged := starts holder resource used
    have present_before := step.slot_before (engaged.isKnown sound exclusive) present
    by_contra given
    exact present_before (stops holder resource (exclusive.holding engaged present_before) given
      used)
  · intro holder resource used
    exact step.known_mono ((starts holder resource used).isKnown sound exclusive)
  · intro resource first second first_engaged second_engaged
    rcases first_engaged with first_held | first_used
    · rcases second_engaged with second_held | second_used
      · exact (step.sound sound).unique resource first second first_held second_held
      · exact (one_user resource second first second_used first_held).symm
    · rcases second_engaged with second_held | second_used
      · exact one_user resource first second first_used second_held
      · exact exclusive.unique resource first second (starts first resource first_used)
          (starts second resource second_used)

end HandControl.ExclusiveSlots
