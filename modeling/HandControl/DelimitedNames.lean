import HandControl.TextReplace
import Mathlib.Data.List.TakeWhile

/-!
# Names between two delimiters

A scan for names between an opening and a closing symbol, leftmost and non-overlapping. No name
contains the opening symbol, so the scan finds exactly the enclosed names that stand somewhere in
the text.
-/

namespace HandControl.DelimitedNames

open TextReplace

variable {α : Type} [DecidableEq α] {opening closing : α} {isName : α → Bool}

def nameAt (opening closing : α) (isName : α → Bool) : List α → Option (List α)
  | [] => none
  | head :: rest =>
    let name := rest.takeWhile isName
    if head = opening ∧ name ≠ [] ∧ (rest.dropWhile isName).head? = some closing then some name
    else none

/-- The names in the text. The number says how many symbols belong to the last match. -/
def namesFrom (opening closing : α) (isName : α → Bool) : Nat → List α → List (List α)
  | _, [] => []
  | skip + 1, _ :: rest => namesFrom opening closing isName skip rest
  | 0, head :: rest =>
    match nameAt opening closing isName (head :: rest) with
    | some name => name :: namesFrom opening closing isName (name.length + 1) rest
    | none => namesFrom opening closing isName 0 rest

theorem nameAt_eq_some_iff (stop : isName closing = false) {text name : List α} :
    nameAt opening closing isName text = some name ↔
      name ≠ [] ∧ (∀ symbol ∈ name, isName symbol = true) ∧
        enclose opening closing name <+: text := by
  cases text with
  | nil => simp [nameAt, enclose]
  | cons head rest =>
    unfold nameAt
    simp only [Option.ite_none_right_eq_some, Option.some.injEq]
    constructor
    · rintro ⟨⟨rfl, nonempty, closed⟩, rfl⟩
      refine ⟨nonempty, fun symbol member => List.mem_takeWhile_imp member, ?_⟩
      obtain ⟨tail, shape⟩ := List.head?_eq_some_iff.mp closed
      refine ⟨tail, ?_⟩
      have whole := List.takeWhile_append_dropWhile (p := isName) (l := rest)
      rw [shape] at whole
      simpa [enclose] using whole
    · rintro ⟨nonempty, names, tail, shape⟩
      have shape : opening :: (name ++ closing :: tail) = head :: rest := by
        simpa [enclose] using shape
      obtain ⟨rfl, rfl⟩ := List.cons.inj shape
      have taken : (name ++ closing :: tail).takeWhile isName = name := by
        rw [List.takeWhile_append_of_pos names, List.takeWhile_cons_of_neg (by simp [stop]),
          List.append_nil]
      have dropped : (name ++ closing :: tail).dropWhile isName = closing :: tail := by
        rw [List.dropWhile_append_of_pos names, List.dropWhile_cons_of_neg (by simp [stop])]
      rw [taken, dropped]
      exact ⟨⟨rfl, nonempty, rfl⟩, rfl⟩

theorem enclose_infix_of_mem (stop : isName closing = false) {skip : Nat} {text name : List α}
    (found : name ∈ namesFrom opening closing isName skip text) :
    name ≠ [] ∧ (∀ symbol ∈ name, isName symbol = true) ∧
      enclose opening closing name <:+: text := by
  induction text generalizing skip with
  | nil => cases skip <;> simp [namesFrom] at found
  | cons head rest ih =>
    have later {skip : Nat} (found : name ∈ namesFrom opening closing isName skip rest) :
        name ≠ [] ∧ (∀ symbol ∈ name, isName symbol = true) ∧
          enclose opening closing name <:+: head :: rest := by
      obtain ⟨nonempty, names, inside⟩ := ih found
      exact ⟨nonempty, names, inside.trans (List.suffix_cons head rest).isInfix⟩
    cases skip with
    | succ => exact later found
    | zero =>
      rw [namesFrom] at found
      cases matched : nameAt opening closing isName (head :: rest) with
      | none =>
        rw [matched] at found
        exact later found
      | some =>
        rw [matched] at found
        rcases List.mem_cons.mp found with rfl | found
        · obtain ⟨nonempty, names, leading⟩ := (nameAt_eq_some_iff stop).mp matched
          exact ⟨nonempty, names, leading.isInfix⟩
        · exact later found

variable (start : isName opening = false) (stop : isName closing = false)
  (distinct : opening ≠ closing)

include start stop distinct

/-- The scan misses no name, as long as what it skips has no opening symbol. -/
theorem mem_of_enclosed_inside {skip : Nat} {text name : List α} (nonempty : name ≠ [])
    (names : ∀ symbol ∈ name, isName symbol = true) (unskipped : opening ∉ text.take skip)
    (inside : enclose opening closing name <:+: text) :
    name ∈ namesFrom opening closing isName skip text := by
  induction text generalizing skip with
  | nil => simp [enclose] at inside
  | cons head rest ih =>
    rw [List.infix_cons_iff] at inside
    cases skip with
    | succ =>
      rw [List.take_succ_cons, List.mem_cons, not_or] at unskipped
      rcases inside with here | later
      · rw [enclose, List.cons_prefix_cons] at here
        exact absurd here.1 unskipped.1
      · exact ih unskipped.2 later
    | zero =>
      rw [namesFrom]
      cases matched : nameAt opening closing isName (head :: rest) with
      | none =>
        rcases inside with here | later
        · rw [(nameAt_eq_some_iff stop).mpr ⟨nonempty, names, here⟩] at matched
          cases matched
        · exact ih (by simp) later
      | some first =>
        rcases inside with here | later
        · rw [(nameAt_eq_some_iff stop).mpr ⟨nonempty, names, here⟩] at matched
          cases matched
          exact List.mem_cons_self
        · refine List.mem_cons_of_mem _ (ih ?_ later)
          obtain ⟨_, firstNames, tail, shape⟩ := (nameAt_eq_some_iff stop).mp matched
          have rest_eq : first ++ [closing] ++ tail = rest := (List.cons.inj shape).2
          have taken : rest.take (first.length + 1) = first ++ [closing] := by
            rw [← rest_eq]
            exact List.take_left' (by simp)
          have start_free : opening ∉ first := fun member => by
            rw [firstNames opening member] at start
            cases start
          simp [taken, start_free, distinct]

theorem mem_namesFrom_iff {text name : List α} :
    name ∈ namesFrom opening closing isName 0 text ↔
      name ≠ [] ∧ (∀ symbol ∈ name, isName symbol = true) ∧
        enclose opening closing name <:+: text :=
  ⟨enclose_infix_of_mem stop, fun ⟨nonempty, names, inside⟩ =>
    mem_of_enclosed_inside start stop distinct nonempty names (by simp) inside⟩

end HandControl.DelimitedNames
