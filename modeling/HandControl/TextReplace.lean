import Mathlib.Tactic

/-!
# Replacing every match of a pattern

`replaceAll` is the left-to-right, non-overlapping replacement of string libraries. Patterns
enclosed in a pair of delimiters never overlap one another, so replacing one of them acts on the
pieces between the others separately.
-/

namespace HandControl.TextReplace

variable {α : Type} {pattern left rest right : List α} {head : α}

/-- A pattern cannot reach across a symbol it does not contain. -/
theorem prefix_append_foreign_iff {symbol : α} (foreign : symbol ∉ pattern) (left right : List α) :
    pattern <+: left ++ symbol :: right ↔ pattern <+: left := by
  induction left generalizing pattern with
  | nil =>
    cases pattern with
    | nil => simp
    | cons head =>
      have distinct : head ≠ symbol := fun same => foreign (by simp [same])
      simp [List.cons_prefix_cons, distinct]
  | cons first left ih =>
    cases pattern with
    | nil => simp
    | cons head rest =>
      have restForeign : symbol ∉ rest := fun inside => foreign (by simp [inside])
      simp [List.cons_prefix_cons, ih restForeign]

def enclose (opening closing : α) (body : List α) : List α :=
  opening :: (body ++ [closing])

/-- The body holds neither delimiter, so the enclosed text is read back without
ambiguity. -/
structure Delimits (opening closing : α) (body : List α) : Prop where
  distinct : opening ≠ closing
  openingFree : opening ∉ body
  closingFree : closing ∉ body

section

variable {opening closing : α} {body : List α}

@[simp] theorem enclose_ne_nil (opening closing : α) (body : List α) :
    enclose opening closing body ≠ [] := by
  simp [enclose]

/-- No match that starts in `left` reaches into `right`. -/
def Separate (pattern left right : List α) : Prop :=
  ∀ front, front <:+ left → front ≠ [] → pattern <+: front ++ right → pattern <+: front

theorem Separate.of_suffix (separate : Separate pattern left right) (ending : rest <:+ left) :
    Separate pattern rest right :=
  fun front inner => separate front (inner.trans ending)

theorem Separate.prefix_iff (separate : Separate pattern (head :: rest) right) :
    pattern <+: head :: (rest ++ right) ↔ pattern <+: head :: rest := by
  constructor
  · exact separate (head :: rest) List.suffix_rfl (List.cons_ne_nil head rest)
  · intro present
    exact present.trans (List.prefix_append (head :: rest) right)

/-- A match that starts no later than a closing delimiter ends with it or before. -/
theorem prefix_append_closing_iff {front : List α} (closingFree : closing ∉ front)
    (left right : List α) :
    front ++ [closing] <+: left ++ closing :: right ↔
      front ++ [closing] <+: left ++ [closing] := by
  induction left generalizing front with
  | nil =>
    cases front with
    | nil => simp [List.cons_prefix_cons]
    | cons head =>
      have distinct : head ≠ closing := fun same => closingFree (by simp [same])
      simp [List.cons_prefix_cons, distinct]
  | cons first left ih =>
    cases front with
    | nil => simp [List.cons_prefix_cons]
    | cons head front =>
      have restFree : closing ∉ front := fun inside => closingFree (by simp [inside])
      simp [List.cons_prefix_cons, ih restFree]

section

variable (delimits : Delimits opening closing body) (other : List α)

include delimits

/-- A match that starts before an opening delimiter ends before it. -/
theorem separate_before (left right : List α) :
    Separate (enclose opening closing body) left (enclose opening closing other ++ right) := by
  intro front _ started present
  obtain ⟨head, rest, rfl⟩ := List.exists_cons_of_ne_nil started
  have foreign : opening ∉ body ++ [closing] := by
    simp [delimits.openingFree, delimits.distinct]
  simpa [enclose, List.cons_prefix_cons, prefix_append_foreign_iff foreign] using present

theorem separate_behind (right : List α) :
    Separate (enclose opening closing body) (enclose opening closing other) right := by
  intro front ending started present
  have closingFree : closing ∉ opening :: body := by
    simp [delimits.closingFree, Ne.symm delimits.distinct]
  obtain ⟨inner, rfl, _⟩ : ∃ inner, front = inner ++ [closing] ∧ inner <:+ opening :: other :=
    (List.suffix_concat_iff.mp ending).resolve_left started
  rw [List.append_assoc] at present
  exact (prefix_append_closing_iff closingFree inner right).mp present

end

end

variable [DecidableEq α]

/-- The scan with `skip` symbols of the current match still to be passed over. -/
def replaceSkipping (pattern replacement : List α) : Nat → List α → List α
  | _, [] => []
  | skip + 1, _ :: rest => replaceSkipping pattern replacement skip rest
  | 0, head :: rest =>
    if pattern.isPrefixOf (head :: rest) then
      replacement ++ replaceSkipping pattern replacement (pattern.length - 1) rest
    else
      head :: replaceSkipping pattern replacement 0 rest

/-- Replace the matches of a nonempty pattern, leftmost first, without ever
looking again at text already written. -/
def replaceAll (pattern replacement text : List α) : List α :=
  replaceSkipping pattern replacement 0 text

/-- The number of positions at which the pattern stands. -/
def occurrences (pattern : List α) : List α → Nat
  | [] => 0
  | head :: rest =>
    (if pattern.isPrefixOf (head :: rest) then 1 else 0) + occurrences pattern rest

theorem replaceSkipping_eq_replaceAll_drop (pattern replacement : List α) (skip : Nat)
    (text : List α) :
    replaceSkipping pattern replacement skip text =
      replaceAll pattern replacement (text.drop skip) := by
  induction text generalizing skip with
  | nil => cases skip <;> simp [replaceAll, replaceSkipping]
  | cons head rest ih =>
    cases skip with
    | zero => rfl
    | succ skip => simpa [replaceSkipping] using ih skip

@[simp] theorem replaceAll_nil (pattern replacement : List α) :
    replaceAll pattern replacement [] = [] := rfl

theorem replaceAll_cons_of_mismatch (replacement : List α) (absent : ¬ pattern <+: head :: rest) :
    replaceAll pattern replacement (head :: rest) =
      head :: replaceAll pattern replacement rest := by
  simp [replaceAll, replaceSkipping, List.isPrefixOf_iff_prefix, absent]

theorem replaceAll_pattern_append (replacement : List α) (nonempty : pattern ≠ [])
    (rest : List α) :
    replaceAll pattern replacement (pattern ++ rest) =
      replacement ++ replaceAll pattern replacement rest := by
  obtain ⟨head, tail, rfl⟩ := List.exists_cons_of_ne_nil nonempty
  have matched : (head :: tail).isPrefixOf (head :: (tail ++ rest)) = true :=
    List.isPrefixOf_iff_prefix.mpr ⟨rest, rfl⟩
  simp only [replaceAll, List.cons_append, replaceSkipping, matched, if_true]
  rw [replaceSkipping_eq_replaceAll_drop]
  simp [replaceAll]

/-- Induction along the scan: the text is empty, starts with a match, or starts
with a symbol that is copied. -/
theorem scan_induction (nonempty : pattern ≠ []) {motive : List α → Prop}
    (nil : motive [])
    (hit : ∀ rest, motive rest → motive (pattern ++ rest))
    (miss : ∀ head rest, ¬ pattern <+: head :: rest → motive rest → motive (head :: rest))
    (text : List α) : motive text := by
  induction size : text.length using Nat.strong_induction_on generalizing text with
  | _ _ ih =>
    subst size
    cases text with
    | nil => exact nil
    | cons head rest =>
      by_cases matched : pattern <+: head :: rest
      · obtain ⟨tail, split⟩ := matched
        have shorter : tail.length < (head :: rest).length := by
          have lengths := congrArg List.length split
          have positive := List.length_pos_iff.mpr nonempty
          simp only [List.length_append] at lengths
          omega
        rw [← split]
        exact hit tail (ih tail.length shorter tail rfl)
      · exact miss head rest matched (ih rest.length (Nat.lt_succ_self _) rest rfl)

@[simp] theorem occurrences_nil (pattern : List α) : occurrences pattern [] = 0 := rfl

theorem occurrences_cons_of_match (present : pattern <+: head :: rest) :
    occurrences pattern (head :: rest) = occurrences pattern rest + 1 := by
  simp [occurrences, List.isPrefixOf_iff_prefix, present, Nat.add_comm]

theorem occurrences_cons_of_mismatch (absent : ¬ pattern <+: head :: rest) :
    occurrences pattern (head :: rest) = occurrences pattern rest := by
  simp [occurrences, List.isPrefixOf_iff_prefix, absent]

theorem occurrences_eq_zero_iff (nonempty : pattern ≠ []) (text : List α) :
    occurrences pattern text = 0 ↔ ¬ pattern <:+: text := by
  induction text with
  | nil => simp [nonempty]
  | cons head rest ih =>
    rw [List.infix_cons_iff]
    by_cases present : pattern <+: head :: rest
    · simp [occurrences_cons_of_match present, present]
    · simp [occurrences_cons_of_mismatch present, present, ih]

theorem occurrences_append_le (pattern left right : List α) :
    occurrences pattern left + occurrences pattern right ≤
      occurrences pattern (left ++ right) := by
  induction left with
  | nil => simp
  | cons head rest =>
    by_cases present : pattern <+: head :: rest
    · have longer : pattern <+: head :: (rest ++ right) :=
        present.trans (List.prefix_append (head :: rest) right)
      rw [List.cons_append, occurrences_cons_of_match present, occurrences_cons_of_match longer]
      omega
    · rw [occurrences_cons_of_mismatch present, List.cons_append, occurrences]
      omega

theorem replaceAll_of_not_infix (replacement : List α) {text : List α}
    (absent : ¬ pattern <:+: text) :
    replaceAll pattern replacement text = text := by
  induction text with
  | nil => rfl
  | cons head rest ih =>
    rw [List.infix_cons_iff, not_or] at absent
    rw [replaceAll_cons_of_mismatch replacement absent.1, ih absent.2]

theorem occurrences_append (separate : Separate pattern left right) :
    occurrences pattern (left ++ right) =
      occurrences pattern left + occurrences pattern right := by
  induction left with
  | nil => simp
  | cons head rest ih =>
    have same := separate.prefix_iff
    rw [List.cons_append, occurrences, occurrences.eq_2 _ head rest,
      ih (separate.of_suffix (List.suffix_cons head rest))]
    simp only [List.isPrefixOf_iff_prefix, same]
    omega

theorem replaceAll_append (replacement : List α) (nonempty : pattern ≠ [])
    (separate : Separate pattern left right) :
    replaceAll pattern replacement (left ++ right) =
      replaceAll pattern replacement left ++ replaceAll pattern replacement right := by
  induction left using scan_induction nonempty with
  | nil => rfl
  | hit rest ih =>
    rw [List.append_assoc, replaceAll_pattern_append _ nonempty,
      ih (separate.of_suffix (List.suffix_append pattern rest)),
      replaceAll_pattern_append _ nonempty, List.append_assoc]
  | miss head rest absent ih =>
    have still := mt separate.prefix_iff.mp absent
    rw [List.cons_append, replaceAll_cons_of_mismatch _ still,
      ih (separate.of_suffix (List.suffix_cons head rest)),
      replaceAll_cons_of_mismatch _ absent, List.cons_append]

theorem occurrences_append_foreign {symbol : α} (foreign : symbol ∉ pattern)
    (nonempty : pattern ≠ []) (left right : List α) :
    occurrences pattern (left ++ symbol :: right) =
      occurrences pattern left + occurrences pattern right := by
  have separate : Separate pattern left (symbol :: right) :=
    fun front _ _ => (prefix_append_foreign_iff foreign front right).mp
  have absent : ¬ pattern <+: symbol :: right := by
    intro present
    have short := (prefix_append_foreign_iff foreign [] right).mp present
    exact nonempty (List.prefix_nil.mp short)
  rw [occurrences_append separate, occurrences_cons_of_mismatch absent]

variable {opening closing : α} {body other : List α}

section

variable (delimits : Delimits opening closing body)

include delimits

theorem occurrences_append_enclose (other left right : List α) :
    occurrences (enclose opening closing body) (left ++ enclose opening closing other ++ right) =
      occurrences (enclose opening closing body) left +
        occurrences (enclose opening closing body) (enclose opening closing other) +
          occurrences (enclose opening closing body) right := by
  rw [List.append_assoc, occurrences_append (separate_before delimits other left right),
    occurrences_append (separate_behind delimits other right), Nat.add_assoc]

theorem occurrences_enclose (otherDelimits : Delimits opening closing other) :
    occurrences (enclose opening closing body) (enclose opening closing other) =
      if body = other then 1 else 0 := by
  have inner : occurrences (enclose opening closing body) (other ++ [closing]) = 0 := by
    rw [occurrences_eq_zero_iff (enclose_ne_nil _ _ _)]
    intro present
    have inside : opening ∈ other ++ [closing] :=
      present.subset (by simp [enclose])
    simp [otherDelimits.openingFree, delimits.distinct] at inside
  have exact : body ++ [closing] <+: other ++ [closing] ↔ body = other := by
    constructor
    · intro present
      rcases List.prefix_concat_iff.mp present with whole | short
      · exact List.append_cancel_right whole
      · exact absurd (short.subset (by simp)) otherDelimits.closingFree
    · rintro rfl
      exact List.prefix_rfl
  change (if (opening :: (body ++ [closing])).isPrefixOf (opening :: (other ++ [closing]))
    then 1 else 0) + occurrences (enclose opening closing body) (other ++ [closing]) = _
  simp only [inner, List.isPrefixOf_iff_prefix, List.cons_prefix_cons, true_and, exact,
    Nat.add_zero]

end

section

variable (replacement : List α) (delimits : Delimits opening closing body)

include replacement delimits

theorem replaceAll_append_enclose (other left right : List α) :
    replaceAll (enclose opening closing body) replacement
        (left ++ enclose opening closing other ++ right) =
      replaceAll (enclose opening closing body) replacement left ++
        replaceAll (enclose opening closing body) replacement (enclose opening closing other) ++
          replaceAll (enclose opening closing body) replacement right := by
  have nonempty := enclose_ne_nil opening closing body
  rw [List.append_assoc, replaceAll_append _ nonempty (separate_before delimits other left right),
    replaceAll_append _ nonempty (separate_behind delimits other right), List.append_assoc]

theorem replaceAll_enclose (otherDelimits : Delimits opening closing other) :
    replaceAll (enclose opening closing body) replacement (enclose opening closing other) =
      if body = other then replacement else enclose opening closing other := by
  split_ifs with same
  · subst same
    have alone := replaceAll_pattern_append replacement (enclose_ne_nil opening closing body) []
    simpa using alone
  · apply replaceAll_of_not_infix
    rw [← occurrences_eq_zero_iff (enclose_ne_nil _ _ _),
      occurrences_enclose delimits otherDelimits, if_neg same]

theorem occurrences_le_occurrences_replaceAll (otherDelimits : Delimits opening closing other)
    (distinct : body ≠ other) (text : List α) :
    occurrences (enclose opening closing other) text ≤
      occurrences (enclose opening closing other)
        (replaceAll (enclose opening closing body) replacement text) := by
  induction text using scan_induction (enclose_ne_nil opening closing body) with
  | nil => simp
  | hit rest =>
    have pieces := occurrences_append_enclose otherDelimits body [] rest
    rw [List.nil_append, occurrences_nil, occurrences_enclose otherDelimits delimits,
      if_neg (Ne.symm distinct)] at pieces
    have grown := occurrences_append_le (enclose opening closing other) replacement
      (replaceAll (enclose opening closing body) replacement rest)
    rw [replaceAll_pattern_append _ (enclose_ne_nil _ _ _)]
    omega
  | miss head rest absent =>
    have copied := replaceAll_cons_of_mismatch replacement absent
    by_cases present : enclose opening closing other <+: head :: rest
    · obtain ⟨tail, split⟩ := present
      have pieces := replaceAll_append_enclose replacement delimits other [] tail
      rw [List.nil_append, replaceAll_nil, List.nil_append,
        replaceAll_enclose replacement delimits otherDelimits, if_neg distinct, split,
        copied] at pieces
      have kept : enclose opening closing other <+:
          head :: replaceAll (enclose opening closing body) replacement rest :=
        ⟨_, pieces.symm⟩
      rw [copied, occurrences_cons_of_match kept, occurrences_cons_of_match ⟨tail, split⟩]
      omega
    · rw [copied, occurrences_cons_of_mismatch present, occurrences]
      omega

theorem count_replaceAll (symbol : α) (text : List α) :
    (replaceAll (enclose opening closing body) replacement text).count symbol +
        occurrences (enclose opening closing body) text *
          (enclose opening closing body).count symbol =
      text.count symbol +
        occurrences (enclose opening closing body) text * replacement.count symbol := by
  induction text using scan_induction (enclose_ne_nil opening closing body) with
  | nil => simp
  | hit rest =>
    have pieces := occurrences_append_enclose delimits body [] rest
    rw [List.nil_append, occurrences_nil, occurrences_enclose delimits delimits,
      if_pos rfl, Nat.zero_add] at pieces
    rw [replaceAll_pattern_append _ (enclose_ne_nil _ _ _), pieces, List.count_append,
      List.count_append, Nat.add_mul, Nat.add_mul, Nat.one_mul, Nat.one_mul]
    omega
  | miss _ _ absent =>
    rw [replaceAll_cons_of_mismatch _ absent, occurrences_cons_of_mismatch absent,
      List.count_cons, List.count_cons]
    omega

end

end HandControl.TextReplace
