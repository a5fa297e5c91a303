import HandControl.UrlSyntax

/-!
# Paths that the parser leaves as they are

The parser resolves dot segments and percent-encodes the rest of a path. A segment is then pushed in
place of an empty last one. The text comes back with the new segment behind it exactly if the parser
prints it as it is and it does not end with a slash.
-/

namespace HandControl.UrlPaths

open UrlSyntax

variable {readPath : List Char → List (List Char)} {path base segment : List Char}
variable {segments : List (List Char)}

theorem joined_concat (segments : List (List Char)) (segment : List Char) :
    joined (segments ++ [segment]) = joined segments ++ '/' :: segment := by
  simp [joined]

/-- Printed as it is, without a slash at the end. No path at all is printed as one slash. -/
def UnchangedPath (readPath : List Char → List (List Char)) (path : List Char) : Prop :=
  path = [] ∨ joined (readPath path) = path ∧ (readPath path).getLast? ≠ some []

def pushedText (readPath : List Char → List (List Char)) (path segment : List Char) : List Char :=
  joined (pushSegment (popIfEmpty (readPath path)) segment)

/-- What the parser is documented to do with a path: what it prints it reads back, and a last
segment of letters and digits it keeps, behind all segments of a path that it prints as it is. -/
structure DocumentedPaths (readPath : List Char → List (List Char)) : Prop where
  empty : readPath [] = [[]]
  printed : ∀ path front back, readPath path = front ++ back → front ≠ [] →
    readPath (joined front) = front
  appended : ∀ path segment, (∀ symbol ∈ path.head?, symbol = '/') → segment ≠ [] →
    segment.all Char.isAlphanum = true → ∃ front,
      readPath (path ++ '/' :: segment) = front ++ [segment] ∧
        (joined (readPath path) = path → front = readPath path)

theorem joined_push (more : segments ≠ [[]]) (segment : List Char) :
    joined (pushSegment segments segment) = joined segments ++ '/' :: segment := by
  rw [pushSegment, if_neg more, joined_concat]

theorem popIfEmpty_of_last (open_end : segments.getLast? ≠ some []) :
    popIfEmpty segments = segments := by
  rw [popIfEmpty, if_neg fun both => open_end both.2]

theorem ne_slash_of_last (open_end : segments.getLast? ≠ some []) : segments ≠ [[]] := by
  rintro rfl
  exact open_end rfl

section

variable (documented : DocumentedPaths readPath)

include documented

theorem pushedText_of_unchanged (unchanged : UnchangedPath readPath path) (segment : List Char) :
    pushedText readPath path segment = path ++ '/' :: segment := by
  rcases unchanged with rfl | ⟨printed, open_end⟩
  · rw [pushedText, documented.empty]
    simp [popIfEmpty, pushSegment, joined]
  · rw [pushedText, popIfEmpty_of_last open_end, joined_push (ne_slash_of_last open_end), printed]

theorem unchanged_of_pushedText
    (pushed : pushedText readPath path segment = path ++ '/' :: segment) :
    UnchangedPath readPath path := by
  unfold pushedText at pushed
  by_cases slash : popIfEmpty (readPath path) = [[]]
  · left
    rw [slash, pushSegment, if_pos rfl, ← List.nil_append [segment], joined_concat] at pushed
    exact (List.append_cancel_right pushed).symm
  · right
    rw [joined_push slash] at pushed
    have printed := List.append_cancel_right pushed
    by_cases pops : 1 < (readPath path).length ∧ (readPath path).getLast? = some []
    · exfalso
      obtain ⟨front, read⟩ := List.getLast?_eq_some_iff.mp pops.2
      have popped : popIfEmpty (readPath path) = front := by
        rw [popIfEmpty, if_pos pops, read, List.dropLast_concat]
      -- The path is printed without its last segment, so reading it gives one segment less.
      have nonempty : front ≠ [] := by
        rintro rfl
        simp [read] at pops
      have again := documented.printed path front [[]] read nonempty
      rw [← popped, printed, popped, read] at again
      simp at again
    · have kept : popIfEmpty (readPath path) = readPath path := by rw [popIfEmpty, if_neg pops]
      rw [kept] at printed slash
      refine ⟨printed, fun empty => ?_⟩
      obtain ⟨front, read⟩ := List.getLast?_eq_some_iff.mp empty
      cases front with
      | nil => exact slash read
      | cons => exact pops ⟨by simp [read], empty⟩

/-- A segment that is kept is not replaced by the one that is pushed. -/
theorem pushedText_ne {kept : List Char} (starts : ∀ symbol ∈ base.head?, symbol = '/')
    (nonempty : kept ≠ []) (plain : kept.all Char.isAlphanum = true) (segment : List Char) :
    pushedText readPath (base ++ '/' :: kept) segment ≠ base ++ '/' :: segment := by
  intro pushed
  obtain ⟨front, read, behind⟩ := documented.appended base kept starts nonempty plain
  have open_end : (front ++ [kept]).getLast? ≠ some [] := by simpa using nonempty
  rw [pushedText, read, popIfEmpty_of_last open_end, joined_push (ne_slash_of_last open_end)]
    at pushed
  have base_eq : joined (front ++ [kept]) = base := List.append_cancel_right pushed
  have again := documented.printed _ (front ++ [kept]) [] (by rw [read, List.append_nil]) (by simp)
  rw [base_eq] at again
  have same := behind (by rw [again, base_eq])
  rw [again] at same
  simp at same

end

/-- A parser that only splits a path. -/
def splitPath (path : List Char) : List (List Char) := path.tail.splitOn '/'

theorem slash_not_mem_splitOn {text part : List Char} (member : part ∈ text.splitOn '/') :
    '/' ∉ part := by
  induction text generalizing part with
  | nil => simp_all
  | cons first rest ih =>
    rw [List.splitOn_cons_eq_if_modifyHead] at member
    cases split : rest.splitOn '/' with
    | nil => exact absurd split (List.splitOn_ne_nil _ _)
    | cons head parts =>
      rw [split] at member ih
      have head_free := ih List.mem_cons_self
      split_ifs at member with slash
      · rcases List.mem_cons.mp member with rfl | later
        · simp
        · exact ih later
      · rcases List.mem_cons.mp member with rfl | later
        · rw [List.mem_cons, not_or]
          exact ⟨fun same => slash (beq_iff_eq.mpr same.symm), head_free⟩
        · exact ih (List.mem_cons_of_mem _ later)

theorem splitOn_joined {rest : List (List Char)} (free : '/' ∉ segment)
    (rest_free : ∀ other ∈ rest, '/' ∉ other) :
    (segment ++ joined rest).splitOn '/' = segment :: rest := by
  induction rest generalizing segment with
  | nil => simp [joined, List.splitOn_eq_singleton free]
  | cons next others ih =>
    have shape : joined (next :: others) = '/' :: (next ++ joined others) := rfl
    rw [shape, List.splitOn_append_cons_self, List.splitOn_eq_singleton free,
      ih (rest_free next (by simp)) fun other member => rest_free other (by simp [member])]
    rfl

theorem documentedPaths_splitPath : DocumentedPaths splitPath where
  empty := rfl
  printed path front back read nonempty := by
    have free : ∀ part ∈ front, '/' ∉ part := fun part member =>
      slash_not_mem_splitOn (read ▸ List.mem_append_left back member)
    cases front with
    | nil => exact absurd rfl nonempty
    | cons first rest =>
      exact splitOn_joined (free first (by simp)) fun other member => free other (by simp [member])
  appended path segment starts nonempty plain := by
    have free : '/' ∉ segment := fun member =>
      absurd (List.all_eq_true.mp plain '/' member) (by decide)
    have alone : segment.splitOn '/' = [segment] := List.splitOn_eq_singleton free
    cases path with
    | nil => exact ⟨[], alone, fun printed => absurd printed (by decide)⟩
    | cons first body =>
      refine ⟨splitPath (first :: body), ?_, fun _ => rfl⟩
      show (body ++ '/' :: segment).splitOn '/' = _
      rw [List.splitOn_append_cons_self, alone]
      rfl

end HandControl.UrlPaths
