import Mathlib.Tactic

/-!
# Chains of hops

A stream of items travels through a chain of hops. Each hop holds items and passes them on in order.
A hop that is cut may drop the last of its items and takes nothing in any more. A chain lists its
hops from the sink back to the source.
-/

namespace HandControl.HopChains

variable {Item : Type}

/-- `cut` says that the hop takes nothing in any more. -/
structure Hop (Item : Type) where
  content : List Item
  cut : Bool
deriving DecidableEq

def isWhole (chain : List (Hop Item)) : Bool :=
  chain.all fun hop => !hop.cut

/-- The items of the chain up to its first cut, in the order of their arrival: what has
arrived, followed by what can still arrive. -/
def carried : List (Hop Item) → List Item
  | [] => []
  | hop :: rest => hop.content ++ if hop.cut then [] else carried rest

theorem carried_append (front back : List (Hop Item)) :
    carried (front ++ back) = carried front ++ if isWhole front then carried back else [] := by
  induction front with
  | nil => simp [carried, isWhole]
  | cons hop rest ih =>
    rcases hop with ⟨_, cut⟩
    cases cut with
    | true => simp [carried, isWhole]
    | false =>
      simp only [List.cons_append, carried, Bool.false_eq_true, if_false, ih]
      simp [isWhole]

theorem isWhole_append (front back : List (Hop Item)) :
    isWhole (front ++ back) = (isWhole front && isWhole back) := by
  simp [isWhole]

/-- What has arrived and what can still arrive is a beginning of what was put in, and all of
it as long as no hop is cut. -/
structure Faithful (written : List Item) (chain : List (Hop Item)) : Prop where
  arrives : carried chain <+: written
  whole : isWhole chain = true → carried chain = written

variable {hop : Hop Item} {arrived moved left content : List Item} {cut : Bool}

variable {written : List Item} {back : List (Hop Item)}

theorem Faithful.delivered (faithful : Faithful written (hop :: back)) :
    hop.content <+: written := by
  have first : hop.content <+: carried (hop :: back) := ⟨_, rfl⟩
  exact first.trans faithful.arrives

section

variable (front : List (Hop Item))

include front

theorem Faithful.of_same {before after : List (Hop Item)}
    (faithful : Faithful written (front ++ before)) (same : carried after = carried before)
    (cut_kept : isWhole after = true → isWhole before = true) :
    Faithful written (front ++ after) := by
  have carried_eq : carried (front ++ after) = carried (front ++ before) := by
    rw [carried_append, carried_append, same]
  refine ⟨?_, ?_⟩
  · rw [carried_eq]
    exact faithful.arrives
  · intro whole
    rw [isWhole_append, Bool.and_eq_true] at whole
    rw [carried_eq]
    apply faithful.whole
    rw [isWhole_append, whole.1, cut_kept whole.2]
    rfl

/-- The first items of a hop pass to the end of the hop before it. -/
theorem Faithful.pass
    (faithful : Faithful written (front ++ ⟨arrived, false⟩ :: ⟨moved ++ left, cut⟩ :: back)) :
    Faithful written (front ++ ⟨arrived ++ moved, false⟩ :: ⟨left, cut⟩ :: back) := by
  apply faithful.of_same
  · simp [carried]
  · simp [isWhole]

/-- An empty hop takes the first items of the hop behind it. -/
theorem Faithful.take
    (faithful : Faithful written (front ++ ⟨[], false⟩ :: ⟨moved ++ left, cut⟩ :: back)) :
    Faithful written (front ++ ⟨moved, false⟩ :: ⟨left, cut⟩ :: back) := by
  have passed := faithful.pass front
  rwa [List.nil_append] at passed

/-- A hop gives all it holds to the hop before it. -/
theorem Faithful.give
    (faithful : Faithful written (front ++ ⟨arrived, false⟩ :: ⟨moved, cut⟩ :: back)) :
    Faithful written (front ++ ⟨arrived ++ moved, false⟩ :: ⟨[], cut⟩ :: back) := by
  rw [← List.append_nil moved] at faithful
  exact faithful.pass front

/-- A hop is cut and keeps at most the first of its items. -/
theorem Faithful.lose {kept : List Item}
    (faithful : Faithful written (front ++ ⟨content, cut⟩ :: back)) (shorter : kept <+: content) :
    Faithful written (front ++ ⟨kept, true⟩ :: back) := by
  have first : content <+: carried (⟨content, cut⟩ :: back) := ⟨_, rfl⟩
  have kept_carried : carried (⟨kept, true⟩ :: back) = kept := by simp [carried]
  refine ⟨?_, ?_⟩
  · have arrives := faithful.arrives
    rw [carried_append] at arrives ⊢
    split
    · rename_i whole
      rw [if_pos whole] at arrives
      rw [kept_carried]
      exact ((List.prefix_append_right_inj _).mpr (shorter.trans first)).trans arrives
    · rename_i broken
      rw [if_neg broken] at arrives
      exact arrives
  · intro whole
    simp [isWhole] at whole

/-- A hop is cut and drops all it holds. -/
theorem Faithful.stop (faithful : Faithful written (front ++ hop :: back)) :
    Faithful written (front ++ ⟨[], true⟩ :: back) :=
  faithful.lose front (List.nil_prefix)

theorem Faithful.behind_cut {other : List (Hop Item)}
    (faithful : Faithful written (front ++ ⟨content, true⟩ :: back)) :
    Faithful written (front ++ ⟨content, true⟩ :: other) := by
  apply faithful.of_same
  · simp [carried]
  · simp [isWhole]

theorem Faithful.extend (more : List Item)
    (faithful : Faithful written (front ++ [⟨content, false⟩])) :
    Faithful (written ++ more) (front ++ [⟨content ++ more, false⟩]) := by
  have last : ∀ items : List Item, carried [(⟨items, false⟩ : Hop Item)] = items := by
    intro items
    simp [carried]
  by_cases whole : isWhole front = true
  · have all_there : carried front ++ content = written := by
      have equal := faithful.whole (by simpa [isWhole] using whole)
      rwa [carried_append, if_pos whole, last] at equal
    have carried_eq : carried (front ++ [⟨content ++ more, false⟩]) = written ++ more := by
      rw [carried_append, if_pos whole, last, ← List.append_assoc, all_there]
    exact ⟨by rw [carried_eq], fun _ => carried_eq⟩
  · refine ⟨?_, ?_⟩
    · have arrives := faithful.arrives
      rw [carried_append, if_neg whole] at arrives ⊢
      exact arrives.trans (List.prefix_append written more)
    · intro still_whole
      rw [isWhole_append, Bool.and_eq_true] at still_whole
      exact absurd still_whole.1 whole

end

end HandControl.HopChains
