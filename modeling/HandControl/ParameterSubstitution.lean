import HandControl.CapabilityParameters
import HandControl.TextReplace
import Mathlib.Data.List.TakeWhile

/-!
# Parameter substitution

A script's command is a template with placeholders such as `{name}`. The server scans it once for
the placeholders and then, for each in order, replaces its text everywhere in the command built so
far. Shell escaping is a parameter.
-/

namespace HandControl.ParameterSubstitution

open KeyedTable CapabilityParameters TextReplace

inductive Token
  | literal (symbol : Char)
  | placeholder (name : List Char)
  deriving DecidableEq

def isNameChar (symbol : Char) : Bool :=
  symbol.isAlphanum || symbol == '_' || symbol == '-'

def placeholderText (name : List Char) : List Char := enclose '{' '}' name

def captureAt : List Char → Option (List Char)
  | '{' :: rest =>
    let name := rest.takeWhile isNameChar
    if name ≠ [] ∧ (rest.dropWhile isNameChar).head? = some '}' then some name else none
  | _ => none

def scanSkipping : Nat → List Char → List Token
  | _, [] => []
  | skip + 1, _ :: rest => scanSkipping skip rest
  | 0, head :: rest =>
    match captureAt (head :: rest) with
    | some name => .placeholder name :: scanSkipping (name.length + 1) rest
    | none => .literal head :: scanSkipping 0 rest

/-- The leftmost, non-overlapping placeholder matches of a template and the
characters between them. -/
def scanTemplate (template : List Char) : List Token := scanSkipping 0 template

def Token.name? : Token → Option (List Char)
  | .literal _ => none
  | .placeholder name => some name

def placeholderNames (template : List Char) : List (List Char) :=
  (scanTemplate template).filterMap Token.name?

section

variable (escape : String → String)

def substituteLoop (parameters : Table String String) :
    List (List Char) → List Char → Except String (List Char)
  | [], result => .ok result
  | name :: rest, result =>
    match parameters.lookup (String.ofList name) with
    | none => .error s!"Parameter '{String.ofList name}' not provided"
    | some value =>
      substituteLoop parameters rest
        (replaceAll (placeholderText name) (escape value).toList result)

/-- `debug` is the debug rendering of a definition, used in an error text only. -/
def substituteParameters (debug : CapabilityDefinition → String)
    (capability : CapabilityConfig) (parameters : Table String String) :
    Except String String :=
  match capability.definition with
  | .shellScript definition =>
    (substituteLoop escape parameters (placeholderNames definition.command.toList)
      definition.command.toList).map String.ofList
  | other =>
    .error
      s!"Capability '{capability.id}' of type {debug other} does not support parameter substitution"

/-- What substitution is for: every placeholder of the original template becomes
the escaped value of its name and every other character stays. -/
def simultaneous (value : String → String) (template : String) : String :=
  String.ofList <| (scanTemplate template.toList).flatMap fun
    | .literal symbol => [symbol]
    | .placeholder name => (escape (value (String.ofList name))).toList

end

theorem captureAt_eq_some {text name : List Char} (captured : captureAt text = some name) :
    name ≠ [] ∧ (∀ symbol ∈ name, isNameChar symbol = true) ∧
      ∃ rest, text = '{' :: (name ++ '}' :: rest) := by
  unfold captureAt at captured
  split at captured
  · rename_i rest
    simp only [Option.ite_none_right_eq_some, Option.some.injEq] at captured
    obtain ⟨⟨nonempty, closed⟩, rfl⟩ := captured
    refine ⟨nonempty, fun symbol member => List.mem_takeWhile_imp member, ?_⟩
    obtain ⟨tail, shape⟩ := List.head?_eq_some_iff.mp closed
    refine ⟨tail, ?_⟩
    rw [← shape, List.takeWhile_append_dropWhile]
  · cases captured

def Token.text : Token → List Char
  | .literal symbol => [symbol]
  | .placeholder name => placeholderText name

variable {name text : List Char}

theorem scanSkipping_text (skip : Nat) (text : List Char) :
    (scanSkipping skip text).flatMap Token.text = text.drop skip := by
  induction text generalizing skip with
  | nil => cases skip <;> rfl
  | cons head rest ih =>
    cases skip with
    | succ skip => simpa [scanSkipping] using ih skip
    | zero =>
      rw [scanSkipping]
      cases captured : captureAt (head :: rest) with
      | none => simp [Token.text, ih 0]
      | some =>
        obtain ⟨-, -, _, shape⟩ := captureAt_eq_some captured
        obtain ⟨rfl, rfl⟩ := List.cons.inj shape
        simp [Token.text, placeholderText, enclose, ih]

theorem scanTemplate_text (template : List Char) :
    (scanTemplate template).flatMap Token.text = template :=
  scanSkipping_text 0 template

theorem placeholder_name_chars {skip : Nat}
    (found : Token.placeholder name ∈ scanSkipping skip text) :
    ∀ symbol ∈ name, isNameChar symbol = true := by
  induction text generalizing skip with
  | nil => cases skip <;> simp [scanSkipping] at found
  | cons head rest ih =>
    cases skip with
    | succ => exact ih found
    | zero =>
      rw [scanSkipping] at found
      cases captured : captureAt (head :: rest) with
      | none =>
        rw [captured] at found
        simp only [List.mem_cons, reduceCtorEq, false_or] at found
        exact ih found
      | some =>
        rw [captured] at found
        simp only [List.mem_cons, Token.placeholder.injEq] at found
        rcases found with rfl | found
        · exact (captureAt_eq_some captured).2.1
        · exact ih found

theorem nameChars_delimit
    (nameChars : ∀ symbol ∈ name, isNameChar symbol = true) : Delimits '{' '}' name where
  distinct := by decide
  openingFree := fun inside => absurd (nameChars _ inside) (by decide)
  closingFree := fun inside => absurd (nameChars _ inside) (by decide)

theorem count_placeholderText
    (nameChars : ∀ symbol ∈ name, isNameChar symbol = true) :
    (placeholderText name).count '\'' = 0 ∧ (placeholderText name).count '{' = 1 := by
  have noQuote : name.count '\'' = 0 :=
    List.count_eq_zero.mpr fun inside => absurd (nameChars _ inside) (by decide)
  have noBrace : name.count '{' = 0 :=
    List.count_eq_zero.mpr fun inside => absurd (nameChars _ inside) (by decide)
  simp [placeholderText, enclose, noQuote, noBrace]

variable {tokens : List Token} {done later : List (List Char)} {parameters : Table String String}
variable {value : String → String}

section

variable (escaped : List Char → List Char)

/-- The token's text once the names in `done` have been substituted. -/
def Token.substituted (done : List (List Char)) : Token → List Char
  | .literal symbol => [symbol]
  | .placeholder name => if name ∈ done then escaped name else placeholderText name

/-- The same text with a blank for each placeholder that is still to come. -/
def Token.blanked (done : List (List Char)) : Token → List Char
  | .literal symbol => [symbol]
  | .placeholder name => if name ∈ done then escaped name else [' ']

def substitutedText (done : List (List Char)) (tokens : List Token) : List Char :=
  tokens.flatMap (Token.substituted escaped done)

def blankedText (done : List (List Char)) (tokens : List Token) : List Char :=
  tokens.flatMap (Token.blanked escaped done)

def pending (name : List Char) (done : List (List Char)) (tokens : List Token) : Nat :=
  if name ∈ done then 0 else tokens.count (.placeholder name)

def WellNamed (tokens : List Token) : Prop :=
  ∀ name, Token.placeholder name ∈ tokens → ∀ symbol ∈ name, isNameChar symbol = true

theorem WellNamed.tail {token : Token} (named : WellNamed (token :: tokens)) : WellNamed tokens :=
  fun name found => named name (List.mem_cons_of_mem _ found)

theorem replaceAll_substitutedText (delimits : Delimits '{' '}' name)
    (done : List (List Char)) (named : WellNamed tokens) (left : List Char)
    (unspelled : ¬ placeholderText name <:+: left ++ blankedText escaped done tokens) :
    replaceAll (placeholderText name) (escaped name) (left ++ substitutedText escaped done tokens) =
      left ++ substitutedText escaped (done ++ [name]) tokens := by
  induction tokens generalizing left with
  | nil =>
    simp only [blankedText, substitutedText, List.flatMap_nil, List.append_nil]
      at unspelled ⊢
    exact replaceAll_of_not_infix _ unspelled
  | cons token rest ih =>
    simp only [blankedText, substitutedText, List.flatMap_cons] at unspelled ih ⊢
    cases token with
    | literal symbol =>
      have moved := ih named.tail (left ++ [symbol]) (by
        simpa [Token.blanked] using unspelled)
      simpa [Token.substituted] using moved
    | placeholder other =>
      by_cases substituted : other ∈ done
      · have moved := ih named.tail (left ++ escaped other) (by
          simpa [Token.blanked, substituted] using unspelled)
        simpa [Token.substituted, substituted] using moved
      · simp only [Token.blanked, substituted, if_false] at unspelled
        have leftFree : ¬ placeholderText name <:+: left := fun present =>
          unspelled (present.trans (List.prefix_append _ _).isInfix)
        have restFree : ¬ placeholderText name <:+:
            rest.flatMap (Token.blanked escaped done) := fun present =>
          unspelled (present.trans ⟨left ++ [' '], [], by simp⟩)
        have otherDelimits := nameChars_delimit (named other (by simp))
        have tail := ih named.tail [] restFree
        simp only [List.nil_append] at tail
        simp only [Token.substituted, substituted, if_false, List.mem_append,
          List.mem_singleton, false_or, ← List.append_assoc]
        simp only [placeholderText] at leftFree tail ⊢
        rw [replaceAll_append_enclose _ delimits, tail, replaceAll_of_not_infix _ leftFree,
          replaceAll_enclose _ delimits otherDelimits]
        by_cases same : name = other
        · simp [same]
        · simp [same, Ne.symm same]

theorem pending_cons (name : List Char) (done : List (List Char)) (token : Token)
    (tokens : List Token) :
    pending name done (token :: tokens) =
      pending name done tokens +
        if name ∉ done ∧ token = .placeholder name then 1 else 0 := by
  by_cases substituted : name ∈ done
  · simp [pending, substituted]
  · simp [pending, substituted, List.count_cons]

/-- An occurrence of a placeholder's text is a placeholder still to come or is
spelled by the text around those. -/
theorem occurrences_substitutedText
    (nameChars : ∀ symbol ∈ name, isNameChar symbol = true) (done : List (List Char))
    (named : WellNamed tokens) (left : List Char) :
    occurrences (placeholderText name) (left ++ substitutedText escaped done tokens) =
      occurrences (placeholderText name) (left ++ blankedText escaped done tokens) +
        pending name done tokens := by
  have delimits := nameChars_delimit nameChars
  have spaceless : ' ' ∉ placeholderText name := by
    have outside : ' ' ∉ name := fun inside => absurd (nameChars _ inside) (by decide)
    simp [placeholderText, enclose, outside]
  induction tokens generalizing left with
  | nil => simp [substitutedText, blankedText, pending]
  | cons token rest ih =>
    simp only [blankedText, substitutedText, List.flatMap_cons, pending_cons] at ih ⊢
    cases token with
    | literal symbol =>
      have moved := ih named.tail (left ++ [symbol])
      simpa [Token.substituted, Token.blanked] using moved
    | placeholder other =>
      by_cases substituted : other ∈ done
      · have moved := ih named.tail (left ++ escaped other)
        have unchanged : ¬ (name ∉ done ∧ other = name) := by
          rintro ⟨absent, rfl⟩
          exact absent substituted
        simpa [Token.substituted, Token.blanked, substituted, unchanged] using moved
      · have otherDelimits := nameChars_delimit (named other (by simp))
        have tail := ih named.tail []
        have here : (name ∉ done ∧ Token.placeholder other = .placeholder name) ↔
            name = other := by
          constructor
          · rintro ⟨-, same⟩
            exact (Token.placeholder.inj same).symm
          · rintro rfl
            exact ⟨substituted, rfl⟩
        simp only [List.nil_append] at tail
        simp only [Token.substituted, Token.blanked, substituted, if_false, here,
          List.singleton_append, ← List.append_assoc]
        simp only [placeholderText] at spaceless tail ⊢
        rw [occurrences_append_enclose delimits, tail, occurrences_enclose delimits otherDelimits,
          occurrences_append_foreign spaceless (enclose_ne_nil _ _ _)]
        omega

theorem count_substitutedText (symbol : Char) (name : List Char)
    (done : List (List Char)) (tokens : List Token) :
    (substitutedText escaped (done ++ [name]) tokens).count symbol +
        pending name done tokens * (placeholderText name).count symbol =
      (substitutedText escaped done tokens).count symbol +
        pending name done tokens * (escaped name).count symbol := by
  induction tokens with
  | nil => simp [substitutedText, pending]
  | cons token rest ih =>
    simp only [substitutedText, List.flatMap_cons, List.count_append, pending_cons,
      Nat.add_mul] at ih ⊢
    cases token with
    | literal =>
      simp only [Token.substituted, reduceCtorEq, and_false, if_false, Nat.zero_mul]
      omega
    | placeholder other =>
      simp only [Token.substituted, List.mem_append, List.mem_singleton, Token.placeholder.injEq]
      by_cases substituted : other ∈ done
      · have unchanged : ¬ (name ∉ done ∧ other = name) := by
          rintro ⟨absent, rfl⟩
          exact absent substituted
        simp only [substituted, true_or, if_true, unchanged, if_false, Nat.zero_mul]
        omega
      · by_cases same : other = name
        · subst same
          simp only [substituted, or_true, if_true, if_false, not_false_eq_true,
            and_self, Nat.one_mul]
          omega
        · simp only [substituted, same, or_self, if_false, and_false, Nat.zero_mul]
          omega

/-- Escaping a value with a brace adds a quote. A replacement made where no placeholder
was meant therefore adds quotes to the text or removes an opening brace, and no
later step undoes this. -/
def Drifted (text intended : List Char) : Prop :=
  intended.count '\'' < text.count '\'' ∨
    (text.count '\'' = intended.count '\'' ∧ text.count '{' < intended.count '{')

theorem Drifted.ne {intended : List Char} (drifted : Drifted text intended) :
    text ≠ intended := by
  rintro rfl
  rcases drifted with more | ⟨-, fewer⟩
  · exact Nat.lt_irrefl _ more
  · exact Nat.lt_irrefl _ fewer

theorem drifted_replaceAll
    (nameChars : ∀ symbol ∈ name, isNameChar symbol = true)
    (quoted : '{' ∈ escaped name → '\'' ∈ escaped name)
    (present : pending name done tokens ≤ occurrences (placeholderText name) text)
    (drift : Drifted text (substitutedText escaped done tokens) ∨
      text = substitutedText escaped done tokens ∧
        pending name done tokens < occurrences (placeholderText name) text) :
    Drifted (replaceAll (placeholderText name) (escaped name) text)
      (substitutedText escaped (done ++ [name]) tokens) := by
  obtain ⟨noQuote, oneBrace⟩ := count_placeholderText nameChars
  have delimits := nameChars_delimit nameChars
  have quotes := count_replaceAll (escaped name) delimits '\'' text
  have braces := count_replaceAll (escaped name) delimits '{' text
  have intendedQuotes := count_substitutedText escaped '\'' name done tokens
  have intendedBraces := count_substitutedText escaped '{' name done tokens
  change _ + occurrences (placeholderText name) text * (placeholderText name).count '\'' =
    _ + occurrences (placeholderText name) text * _ at quotes
  change _ + occurrences (placeholderText name) text * (placeholderText name).count '{' =
    _ + occurrences (placeholderText name) text * _ at braces
  rw [noQuote] at quotes intendedQuotes
  rw [oneBrace] at braces intendedBraces
  obtain ⟨extra, more⟩ := Nat.exists_eq_add_of_le present
  rw [more] at quotes braces drift
  simp only [Drifted] at drift ⊢
  by_cases plain : '\'' ∈ escaped name
  · have positive : 0 < (escaped name).count '\'' := List.count_pos_iff.mpr plain
    rcases Nat.eq_zero_or_pos extra with rfl | grown
    · rcases drift with _ | ⟨-, _⟩
      · simp only [placeholderText, Nat.add_zero, Nat.mul_zero, Nat.mul_one] at *
        omega
      · omega
    · have added : 0 < extra * (escaped name).count '\'' := Nat.mul_pos grown positive
      have atLeast : (substitutedText escaped done tokens).count '\'' ≤ text.count '\'' := by
        rcases drift with _ | ⟨rfl, -⟩
        · omega
        · exact Nat.le_refl _
      left
      simp only [placeholderText, Nat.add_mul, Nat.mul_zero, Nat.add_zero] at *
      omega
  · have noQuotes : (escaped name).count '\'' = 0 := List.count_eq_zero.mpr plain
    have noBraces : (escaped name).count '{' = 0 :=
      List.count_eq_zero.mpr fun inside => plain (quoted inside)
    rw [noQuotes] at quotes intendedQuotes
    rw [noBraces] at braces intendedBraces
    simp only [placeholderText, Nat.mul_zero, Nat.mul_one, Nat.add_zero] at *
    rcases drift with _ | ⟨rfl, _⟩ <;> omega

theorem pending_append_le (name other : List Char) (done : List (List Char)) (tokens : List Token) :
    pending other (done ++ [name]) tokens ≤ pending other done tokens := by
  by_cases substituted : other ∈ done
  · simp [pending, substituted]
  · by_cases same : other = name
    · simp [pending, same]
    · simp [pending, substituted, same]

def HoldsPending (done : List (List Char)) (tokens : List Token) (text : List Char) : Prop :=
  ∀ name, (∀ symbol ∈ name, isNameChar symbol = true) →
    pending name done tokens ≤ occurrences (placeholderText name) text

theorem HoldsPending.replaceAll
    (nameChars : ∀ symbol ∈ name, isNameChar symbol = true)
    (holds : HoldsPending done tokens text) :
    HoldsPending (done ++ [name]) tokens
      (replaceAll (placeholderText name) (escaped name) text) := by
  intro other otherChars
  by_cases same : name = other
  · simp [pending, same]
  · have kept := occurrences_le_occurrences_replaceAll (escaped name)
      (nameChars_delimit nameChars) (nameChars_delimit otherChars) same text
    exact (pending_append_le name other done tokens).trans ((holds other otherChars).trans kept)

/-- At each remaining step the placeholder's text is spelled by no literal text
and no value substituted earlier. -/
def SpellsNone (tokens : List Token) (done later : List (List Char)) : Prop :=
  ∀ before name after, later = before ++ name :: after →
    ¬ placeholderText name <:+: blankedText escaped (done ++ before) tokens

theorem spellsNone_cons (tokens : List Token) (done : List (List Char)) (name : List Char)
    (later : List (List Char)) :
    SpellsNone escaped tokens done (name :: later) ↔
      ¬ placeholderText name <:+: blankedText escaped done tokens ∧
        SpellsNone escaped tokens (done ++ [name]) later := by
  constructor
  · intro none
    refine ⟨by simpa using none [] name later rfl, ?_⟩
    rintro before other after rfl
    simpa using none (name :: before) other after rfl
  · rintro ⟨first, others⟩ before other after split
    cases before with
    | nil =>
      obtain ⟨rfl, rfl⟩ := List.cons.inj split
      simpa using first
    | cons head before =>
      obtain ⟨rfl, rest⟩ := List.cons.inj split
      simpa using others before other after rest

def replaceEach (later : List (List Char)) (text : List Char) : List Char :=
  later.foldl (fun current name =>
    TextReplace.replaceAll (placeholderText name) (escaped name) current) text

theorem drifted_replaceEach (quoted : ∀ name, '{' ∈ escaped name → '\'' ∈ escaped name)
    (nameChars : ∀ name ∈ later, ∀ symbol ∈ name, isNameChar symbol = true)
    (holds : HoldsPending done tokens text)
    (drifted : Drifted text (substitutedText escaped done tokens)) :
    Drifted (replaceEach escaped later text) (substitutedText escaped (done ++ later) tokens) := by
  induction later generalizing done text with
  | nil => simpa [replaceEach] using drifted
  | cons name later ih =>
    have chars := nameChars name (by simp)
    have next := drifted_replaceAll escaped chars (quoted name) (holds name chars) (Or.inl drifted)
    have rest := ih (fun other member => nameChars other (by simp [member]))
      (holds.replaceAll escaped chars) next
    simpa [replaceEach] using rest

/-- From the intended text, the remaining steps end in the intended text exactly
when none of them finds a spelled placeholder. -/
theorem replaceEach_eq_iff (quoted : ∀ name, '{' ∈ escaped name → '\'' ∈ escaped name)
    (named : WellNamed tokens)
    (nameChars : ∀ name ∈ later, ∀ symbol ∈ name, isNameChar symbol = true)
    (holds : HoldsPending done tokens (substitutedText escaped done tokens)) :
    replaceEach escaped later (substitutedText escaped done tokens) =
        substitutedText escaped (done ++ later) tokens ↔
      SpellsNone escaped tokens done later := by
  induction later generalizing done with
  | nil => simp [replaceEach, SpellsNone]
  | cons name later ih =>
    have chars := nameChars name (by simp)
    have laterChars : ∀ other ∈ later, ∀ symbol ∈ other, isNameChar symbol = true :=
      fun other member => nameChars other (by simp [member])
    have delimits := nameChars_delimit chars
    have held := holds.replaceAll escaped chars
    rw [spellsNone_cons]
    by_cases spelled : placeholderText name <:+: blankedText escaped done tokens
    · have counted := occurrences_substitutedText escaped chars done named []
      have positive : occurrences (placeholderText name) (blankedText escaped done tokens) ≠ 0 :=
        fun zero => (occurrences_eq_zero_iff (enclose_ne_nil _ _ _) _).mp zero spelled
      simp only [List.nil_append] at counted
      have next := drifted_replaceAll escaped chars (quoted name) (holds name chars)
        (Or.inr ⟨rfl, by omega⟩)
      have final := (drifted_replaceEach escaped quoted laterChars held next).ne
      simp only [spelled, not_true_eq_false, false_and, iff_false]
      simpa [replaceEach] using final
    · have moved := replaceAll_substitutedText escaped delimits done named [] spelled
      simp only [List.nil_append] at moved
      rw [moved] at held
      have rest := ih laterChars held
      simp only [spelled, not_false_eq_true, true_and, ← rest]
      simp [replaceEach, moved]

end

def escapedValue (escape : String → String) (value : String → String)
    (name : List Char) : List Char :=
  (escape (value (String.ofList name))).toList

/-- When a placeholder's turn comes, its text stands nowhere in the literal text and the escaped
values before it, read with a blank for each placeholder not substituted yet. -/
def ValuesSpellNoPlaceholder (escape : String → String) (value : String → String)
    (template : String) : Prop :=
  SpellsNone (escapedValue escape value) (scanTemplate template.toList) []
    (placeholderNames template.toList)

theorem substituteLoop_eq_replaceEach (escape : String → String) {names : List (List Char)}
    (provided : ∀ name ∈ names,
      parameters.lookup (String.ofList name) = some (value (String.ofList name)))
    (text : List Char) :
    substituteLoop escape parameters names text =
      .ok (replaceEach (escapedValue escape value) names text) := by
  induction names generalizing text with
  | nil => rfl
  | cons name names ih =>
    rw [substituteLoop, provided name (by simp)]
    exact ih (fun other member => provided other (by simp [member])) _

theorem mem_placeholderNames_iff {template : List Char} :
    name ∈ placeholderNames template ↔ Token.placeholder name ∈ scanTemplate template := by
  simp only [placeholderNames, List.mem_filterMap]
  constructor
  · rintro ⟨token, member, named⟩
    cases token with
    | literal => cases named
    | placeholder =>
      cases named
      exact member
  · intro member
    exact ⟨_, member, rfl⟩

theorem substitutedText_all (escape : String → String) (value : String → String)
    (template : String) :
    String.ofList (substitutedText (escapedValue escape value)
        (placeholderNames template.toList) (scanTemplate template.toList)) =
      simultaneous escape value template := by
  unfold simultaneous substitutedText
  congr 1
  apply List.flatMap_congr
  intro token member
  cases token with
  | literal => rfl
  | placeholder => simp [Token.substituted, escapedValue, mem_placeholderNames_iff.mpr member]

theorem substitutedText_nil (escaped : List Char → List Char) (template : List Char) :
    substitutedText escaped [] (scanTemplate template) = template := by
  have same : Token.substituted escaped [] = Token.text := by
    funext token
    cases token <;> simp [Token.substituted, Token.text]
  rw [substitutedText, same, scanTemplate_text]

/-- The replacements one after the other give the simultaneous substitution exactly if no value
spells a later placeholder. -/
theorem replaceEach_eq_simultaneous_iff (escape : String → String)
    (quoted : ∀ text, '{' ∈ (escape text).toList → '\'' ∈ (escape text).toList)
    (value : String → String) (template : String) :
    String.ofList (replaceEach (escapedValue escape value)
        (placeholderNames template.toList) template.toList) = simultaneous escape value template ↔
      ValuesSpellNoPlaceholder escape value template := by
  have named : WellNamed (scanTemplate template.toList) :=
    fun name found => placeholder_name_chars found
  have nameChars : ∀ name ∈ placeholderNames template.toList,
      ∀ symbol ∈ name, isNameChar symbol = true :=
    fun name member => named name (mem_placeholderNames_iff.mp member)
  have start := substitutedText_nil (escapedValue escape value) template.toList
  have holds : HoldsPending [] (scanTemplate template.toList)
      (substitutedText (escapedValue escape value) [] (scanTemplate template.toList)) := by
    intro name chars
    have counted := occurrences_substitutedText (escapedValue escape value) chars [] named []
    simp only [List.nil_append] at counted
    omega
  have exact_iff := replaceEach_eq_iff (escapedValue escape value)
    (fun name => quoted _) named nameChars holds
  rw [start, List.nil_append] at exact_iff
  rw [← substitutedText_all, String.ofList_inj, exact_iff]
  rfl

theorem substituteParameters_eq_replaceEach (escape : String → String)
    (debug : CapabilityDefinition → String) {capability : CapabilityConfig}
    {script : ShellScriptDefinition} (defined : capability.definition = .shellScript script)
    (provided : ∀ name ∈ placeholderNames script.command.toList,
      parameters.lookup (String.ofList name) = some (value (String.ofList name))) :
    substituteParameters escape debug capability parameters =
      .ok (String.ofList (replaceEach (escapedValue escape value)
        (placeholderNames script.command.toList) script.command.toList)) := by
  simp only [substituteParameters, defined]
  rw [substituteLoop_eq_replaceEach escape provided]
  rfl

/-- The command is the simultaneous substitution exactly when no value, together with
the text around it, spells a placeholder that is substituted after it. -/
theorem substituteParameters_eq_simultaneous_iff (escape : String → String)
    (quoted : ∀ text, '{' ∈ (escape text).toList → '\'' ∈ (escape text).toList)
    (debug : CapabilityDefinition → String)
    (capability : CapabilityConfig)
    (script : ShellScriptDefinition)
    (defined : capability.definition = .shellScript script)
    (parameters : Table String String)
    (value : String → String)
    (provided : ∀ name ∈ placeholderNames script.command.toList,
      parameters.lookup (String.ofList name) = some (value (String.ofList name))) :
    substituteParameters escape debug capability parameters =
        .ok (simultaneous escape value script.command) ↔
      ValuesSpellNoPlaceholder escape value script.command := by
  rw [substituteParameters_eq_replaceEach escape debug defined provided, Except.ok.injEq]
  exact replaceEach_eq_simultaneous_iff escape quoted value script.command

def isShellSafe (symbol : Char) : Bool :=
  symbol.isAlphanum || ['-', '_', '=', '/', ',', '.', '+'].contains symbol

/-- A word of safe characters stands as it is. Any other is put in single quotes, with
the quote and the exclamation mark taken out of them. -/
def unixEscape (text : String) : String :=
  if text.toList ≠ [] ∧ text.toList.all isShellSafe then text
  else String.ofList <| '\'' :: (text.toList.flatMap fun symbol =>
    if symbol = '\'' ∨ symbol = '!' then ['\'', '\\', symbol, '\''] else [symbol]) ++ ['\'']

theorem unixEscape_quotes_braces (text : String)
    (brace : '{' ∈ (unixEscape text).toList) : '\'' ∈ (unixEscape text).toList := by
  unfold unixEscape at brace ⊢
  split_ifs at brace ⊢ with safe
  · have unsafeBrace : isShellSafe '{' = false := by decide
    have allowed := List.all_eq_true.mp safe.2 '{' brace
    rw [unsafeBrace] at allowed
    cases allowed
  · simp

def echoScript : ShellScriptDefinition where
  command := "echo {a} {b}"
  timeoutSeconds := 30
  env := ∅
  showOutput := true
  sessionMode := .oneShot

def echoCapability : CapabilityConfig where
  id := "echo"
  parameters := []
  definition := .shellScript echoScript

def twoValues (first second : String) (name : String) : String :=
  if name = "a" then first else second

def twoParameters (first second : String) : Table String String :=
  AList.insert "a" first (AList.insert "b" second ∅)

theorem echo_substitution_exact :
    (∀ name ∈ placeholderNames echoScript.command.toList,
      (twoParameters "x y" "z").lookup (String.ofList name) =
        some (twoValues "x y" "z" (String.ofList name))) ∧
      (substituteParameters unixEscape (fun _ => "") echoCapability
          (twoParameters "x y" "z") =
        .ok (simultaneous unixEscape (twoValues "x y" "z") echoScript.command) ↔
      ValuesSpellNoPlaceholder unixEscape (twoValues "x y" "z") echoScript.command) :=
  ⟨by decide, substituteParameters_eq_simultaneous_iff unixEscape unixEscape_quotes_braces
      (fun _ => "") echoCapability echoScript rfl (twoParameters "x y" "z")
      (twoValues "x y" "z") (by decide)⟩

/-- The first value spells the second placeholder: the second value ends up between
the quotes meant for the first, and the shell reads it unquoted. -/
theorem echo_substitution_injects :
    (∀ text, '{' ∈ (unixEscape text).toList → '\'' ∈ (unixEscape text).toList) ∧
      (∀ name ∈ placeholderNames echoScript.command.toList,
        (twoParameters "{b}" ";reboot;").lookup (String.ofList name) =
          some (twoValues "{b}" ";reboot;" (String.ofList name))) ∧
      substituteParameters unixEscape (fun _ => "") echoCapability
          (twoParameters "{b}" ";reboot;") =
        .ok "echo '';reboot;'' ';reboot;'" ∧
      substituteParameters unixEscape (fun _ => "") echoCapability
          (twoParameters "{b}" ";reboot;") ≠
        .ok (simultaneous unixEscape (twoValues "{b}" ";reboot;") echoScript.command) :=
  ⟨unixEscape_quotes_braces, by decide, by decide, by decide⟩

end HandControl.ParameterSubstitution
