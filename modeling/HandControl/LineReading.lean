import Mathlib.Tactic

/-!
# Reading a growing text line by line

A text is written in pieces and read by lines. A reader takes a line out as soon as its terminator
was written, and the unterminated rest when the text is known to be complete.
-/

namespace HandControl.LineReading

variable {Symbol : Type} [DecidableEq Symbol]

structure Line (Symbol : Type) where
  content : List Symbol
  terminated : Bool
deriving DecidableEq

def breakLine (terminator : Symbol) : List Symbol → Option (List Symbol × List Symbol)
  | [] => none
  | symbol :: text =>
    if symbol = terminator then some ([], text)
    else (breakLine terminator text).map fun broken => (symbol :: broken.1, broken.2)

def growFirst (symbol : Symbol) : List (Line Symbol) → List (Line Symbol)
  | [] => [⟨[symbol], false⟩]
  | line :: rest => { line with content := symbol :: line.content } :: rest

def splitLines (terminator : Symbol) : List Symbol → List (Line Symbol)
  | [] => []
  | symbol :: text =>
    if symbol = terminator then ⟨[], true⟩ :: splitLines terminator text
    else growFirst symbol (splitLines terminator text)

variable {terminator : Symbol}

variable {text : List Symbol}

theorem splitLines_eq_nil_iff : splitLines terminator text = [] ↔ text = [] := by
  cases text with
  | nil => simp [splitLines]
  | cons symbol text =>
    simp only [splitLines, reduceCtorEq, iff_false]
    split
    · simp
    · cases splitLines terminator text <;> simp [growFirst]

variable {content rest : List Symbol}

theorem breakLine_eq_some_iff :
    breakLine terminator text = some (content, rest) ↔
      terminator ∉ content ∧ text = content ++ terminator :: rest := by
  induction text generalizing content with
  | nil => simp [breakLine]
  | cons symbol text ih =>
    rw [breakLine]
    cases content with
    | nil => split_ifs with ends <;> simp [ends]
    | cons first content =>
      split_ifs with ends
      · simp only [Option.some.injEq, Prod.mk.injEq, List.nil_eq, reduceCtorEq, false_and,
          List.cons_append, List.cons.injEq, List.mem_cons, false_iff]
        rintro ⟨unterminated, first_eq, _⟩
        exact unterminated (Or.inl (ends.symm.trans first_eq))
      · have rest_iff := @ih content
        simp only [Option.map_eq_some_iff, Prod.mk.injEq, List.cons.injEq, Prod.exists,
          List.mem_cons, not_or, List.cons_append]
        constructor
        · rintro ⟨_, _, found, ⟨rfl, rfl⟩, rfl⟩
          obtain ⟨unterminated, text_eq⟩ := rest_iff.mp found
          exact ⟨⟨Ne.symm ends, unterminated⟩, rfl, text_eq⟩
        · rintro ⟨⟨_, unterminated⟩, rfl, text_eq⟩
          exact ⟨content, rest, rest_iff.mpr ⟨unterminated, text_eq⟩, ⟨rfl, rfl⟩, rfl⟩

theorem splitLines_of_break (broken : breakLine terminator text = some (content, rest)) :
    splitLines terminator text = ⟨content, true⟩ :: splitLines terminator rest := by
  obtain ⟨unterminated, text_eq⟩ := breakLine_eq_some_iff.mp broken
  clear broken
  subst text_eq
  induction content with
  | nil => simp [splitLines]
  | cons symbol content ih =>
    have goes_on : symbol ≠ terminator := fun ends => unterminated (by simp [ends])
    have later := ih fun member => unterminated (List.mem_cons_of_mem symbol member)
    rw [List.cons_append, splitLines, if_neg goes_on, later]
    rfl

theorem splitLines_of_unbroken (unbroken : breakLine terminator text = none)
    (nonempty : text ≠ []) :
    splitLines terminator text = [⟨text, false⟩] := by
  induction text with
  | nil => exact absurd rfl nonempty
  | cons symbol text ih =>
    simp only [breakLine] at unbroken
    simp only [splitLines]
    split at unbroken
    · cases unbroken
    · rename_i goes_on
      have rest_unbroken : breakLine terminator text = none := by
        simpa using unbroken
      rw [if_neg goes_on]
      by_cases last : text = []
      · subst last
        rfl
      · rw [ih rest_unbroken last]
        rfl

theorem breakLine_append (broken : breakLine terminator text = some (content, rest))
    (more : List Symbol) : breakLine terminator (text ++ more) = some (content, rest ++ more) := by
  rw [breakLine_eq_some_iff] at broken ⊢
  obtain ⟨unterminated, text_eq⟩ := broken
  exact ⟨unterminated, by rw [text_eq, List.append_assoc, List.cons_append]⟩

/-- Whatever is written next, the lines of the whole text are those read and those of the
unread rest. -/
def Follows (terminator : Symbol) (written : List Symbol) (read : List (Line Symbol))
    (unread : List Symbol) : Prop :=
  ∀ more, splitLines terminator (written ++ more) = read ++ splitLines terminator (unread ++ more)

/-- The lines of the text are those read and those of the unread rest. -/
def Covers (terminator : Symbol) (written : List Symbol) (read : List (Line Symbol))
    (unread : List Symbol) : Prop :=
  splitLines terminator written = read ++ splitLines terminator unread

variable {written unread : List Symbol} {read : List (Line Symbol)}

theorem Follows.start : Follows terminator ([] : List Symbol) [] [] :=
  fun _ => rfl

section

variable (follows : Follows terminator written read unread)

include follows

theorem Follows.covers : Covers terminator written read unread := by
  have now := follows []
  rwa [List.append_nil, List.append_nil] at now

theorem Follows.write (piece : List Symbol) :
    Follows terminator (written ++ piece) read (unread ++ piece) := by
  intro more
  rw [List.append_assoc, List.append_assoc]
  exact follows (piece ++ more)

theorem Follows.take (broken : breakLine terminator unread = some (content, rest)) :
    Follows terminator written (read ++ [⟨content, true⟩]) rest := by
  intro more
  rw [follows more, splitLines_of_break (breakLine_append broken more), List.append_assoc]
  rfl

end

section

variable (covers : Covers terminator written read unread)

include covers

theorem Covers.take (broken : breakLine terminator unread = some (content, rest)) :
    Covers terminator written (read ++ [⟨content, true⟩]) rest := by
  unfold Covers at covers ⊢
  rw [covers, splitLines_of_break broken, List.append_assoc]
  rfl

/-- The complete text ends with an unterminated line. -/
theorem Covers.finish (unbroken : breakLine terminator unread = none) (nonempty : unread ≠ []) :
    Covers terminator written (read ++ [⟨unread, false⟩]) [] := by
  unfold Covers at covers ⊢
  rw [covers, splitLines_of_unbroken unbroken nonempty]
  simp [splitLines]

theorem Covers.complete_iff : read = splitLines terminator written ↔ unread = [] := by
  unfold Covers at covers
  rw [covers]
  constructor
  · intro all_read
    have none_left : splitLines terminator unread = [] := by simpa using all_read
    exact splitLines_eq_nil_iff.mp none_left
  · intro nothing
    subst nothing
    simp [splitLines]

end

end HandControl.LineReading
