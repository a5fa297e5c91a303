import Mathlib.Tactic

/-!
# Streams of numbered items

Items of several streams travel mixed in one list, each tagged with its stream and a number of it.
`Consecutive` says that the numbers of one stream are the last ones assigned, without a gap.
-/

namespace HandControl.NumberedStreams

variable {Stream : Type} [DecidableEq Stream]

/-- The numbers carried by the items of one stream, in the order of the list. -/
def numbers (stream : Stream) (tags : List (Stream × Nat)) : List Nat :=
  (tags.filter fun tag => tag.1 = stream).map Prod.snd

@[simp] theorem numbers_nil (stream : Stream) : numbers stream [] = [] := rfl

@[simp] theorem numbers_append (stream : Stream) (front back : List (Stream × Nat)) :
    numbers stream (front ++ back) = numbers stream front ++ numbers stream back := by
  simp [numbers]

theorem numbers_cons (stream : Stream) (tag : Stream × Nat) (tags : List (Stream × Nat)) :
    numbers stream (tag :: tags) =
      if tag.1 = stream then tag.2 :: numbers stream tags else numbers stream tags := by
  unfold numbers
  by_cases same : tag.1 = stream
  · simp [same]
  · simp [same]

theorem mem_numbers_iff (stream : Stream) (number : Nat) (tags : List (Stream × Nat)) :
    number ∈ numbers stream tags ↔ (stream, number) ∈ tags := by
  simp [numbers]

theorem numbers_eq_nil_of_forall_ne (stream : Stream) (tags : List (Stream × Nat))
    (absent : ∀ tag ∈ tags, tag.1 ≠ stream) : numbers stream tags = [] := by
  simpa [numbers, List.filter_eq_nil_iff] using absent

theorem numbers_filter_after (cursor : Stream → Nat) (stream : Stream)
    (tags : List (Stream × Nat)) :
    numbers stream (tags.filter fun tag => cursor tag.1 < tag.2) =
      (numbers stream tags).filter fun number => cursor stream < number := by
  induction tags with
  | nil => rfl
  | cons tag tags ih =>
    rcases tag with ⟨origin, number⟩
    rw [List.filter_cons, numbers_cons]
    by_cases same : origin = stream
    · subst same
      by_cases later : cursor origin < number
      · simp [later, numbers_cons, ih]
      · simp [later, ih]
    · rw [if_neg same, ← ih]
      split
      · rw [numbers_cons, if_neg same]
      · rfl

/-- The numbers are `first, first + 1, ..., next - 1`, where `next` is the number the
stream assigns next. Numbering starts with 1. -/
def Consecutive (assigned : List Nat) (next : Nat) : Prop :=
  ∃ first, 1 ≤ first ∧ first ≤ next ∧ assigned = List.range' first (next - first)

theorem consecutive_nil_one : Consecutive [] 1 :=
  ⟨1, le_refl 1, le_refl 1, rfl⟩

variable {assigned : List Nat} {next : Nat}

theorem Consecutive.push (consecutive : Consecutive assigned next) :
    Consecutive (assigned ++ [next]) (next + 1) := by
  obtain ⟨first, positive, _, shape⟩ := consecutive
  refine ⟨first, positive, by omega, ?_⟩
  have size : next + 1 - first = (next - first) + 1 := by omega
  have last : first + (next - first) = next := by omega
  rw [size, List.range'_1_concat, last, shape]

theorem Consecutive.tail {head : Nat} (consecutive : Consecutive (head :: assigned) next) :
    Consecutive assigned next := by
  obtain ⟨first, _, _, shape⟩ := consecutive
  have nonempty : 0 < next - first := by
    by_contra empty
    have none_left : next - first = 0 := by omega
    simp [none_left] at shape
  obtain ⟨size, size_eq⟩ : ∃ size, next - first = size + 1 := ⟨next - first - 1, by omega⟩
  rw [size_eq, List.range'_succ] at shape
  refine ⟨first + 1, by omega, by omega, ?_⟩
  have rest := (List.cons.inj shape).2
  rw [rest]
  congr 1
  omega

/-- When no number after the cursor is missing, the numbers after the cursor are exactly
`cursor + 1, ..., next - 1`. -/
theorem Consecutive.after {cursor : Nat} (consecutive : Consecutive assigned next)
    (known : cursor < next) (retained : cursor + 1 < next → cursor + 1 ∈ assigned) :
    (assigned.filter fun number => cursor < number) =
      List.range' (cursor + 1) (next - (cursor + 1)) := by
  obtain ⟨first, _, _, shape⟩ := consecutive
  have begins : first ≤ cursor + 1 := by
    by_cases more : cursor + 1 < next
    · have found := retained more
      rw [shape, List.mem_range'_1] at found
      exact found.1
    · omega
  have split_eq : next - first = (cursor + 1 - first) + (next - (cursor + 1)) := by omega
  have middle : first + (cursor + 1 - first) = cursor + 1 := by omega
  rw [shape, split_eq, ← List.range'_append_1, List.filter_append, middle]
  have seen : ((List.range' first (cursor + 1 - first)).filter
      fun number => cursor < number) = [] := by
    rw [List.filter_eq_nil_iff]
    intro number member
    have range := List.mem_range'_1.mp member
    simp only [decide_eq_true_eq]
    omega
  have unseen : ((List.range' (cursor + 1) (next - (cursor + 1))).filter
      fun number => cursor < number) = List.range' (cursor + 1) (next - (cursor + 1)) := by
    rw [List.filter_eq_self]
    intro number member
    have range := List.mem_range'_1.mp member
    simp only [decide_eq_true_eq]
    omega
  rw [seen, unseen, List.nil_append]

theorem range_of_append {front back : List Nat} {first size : Nat}
    (whole : front ++ back = List.range' first size) :
    front = List.range' first front.length := by
  have sizes : front.length + back.length = size := by
    have counted := congrArg List.length whole
    simpa using counted
  have front_eq : front = (List.range' first size).take front.length := by
    rw [← whole, List.take_left]
  rw [← sizes, ← List.range'_append_1] at front_eq
  rw [List.take_left' (by simp)] at front_eq
  exact front_eq

end HandControl.NumberedStreams
