import HandControl.StandardText
import Mathlib.Data.List.DropRight

/-!
# The host label of the mDNS service

`sanitize_host_label` removes the hyphens at both ends of a label and cuts it afterwards, which can
leave a hyphen at its end.
-/

namespace HandControl.HostLabels

open StandardText

/-- The symbol for one of the host name. Null characters are left out afterwards. -/
def labelSymbol (symbol : Char) : Char :=
  if symbol.isAlphanum then symbol.toLower
  else if symbol = '-' ∨ symbol = '_' ∨ isWhitespace symbol = true then '-'
  else '\x00'

def trimHyphens (label : List Char) : List Char :=
  (label.dropWhile (· == '-')).rdropWhile (· == '-')

def trimmedLabel (input : List Char) : List Char :=
  trimHyphens ((input.map labelSymbol).filter (· != '\x00'))

/-- The label is cut at 63 bytes, which are 63 symbols since all of them are ASCII. -/
def sanitizeHostLabel (input : List Char) : List Char := (trimmedLabel input).take 63

def IsLabelSymbol (symbol : Char) : Prop := (symbol.isLower ∨ symbol.isDigit) ∨ symbol = '-'

/-- No hyphen is at either end. -/
structure Tidy (label : List Char) : Prop where
  symbols : ∀ symbol ∈ label, IsLabelSymbol symbol
  first : label.head? ≠ some '-'
  last : label.getLast? ≠ some '-'

structure ValidLabel (label : List Char) : Prop extends Tidy label where
  nonempty : 1 ≤ label.length
  short : label.length ≤ 63

theorem toLower_plain {symbol : Char} (alphanumeric : symbol.isAlphanum) :
    symbol.toLower.isLower ∨ symbol.toLower.isDigit := by
  delta Char.isAlphanum Char.isAlpha Char.isUpper Char.isLower Char.toLower at *
  simp only [Char.isDigit, Bool.or_eq_true, Bool.and_eq_true, decide_eq_true_eq,
    UInt32.le_iff_toNat_le] at alphanumeric ⊢
  split_ifs with upper
  · simp [UInt32.toNat_add] at upper ⊢
    omega
  · simp at alphanumeric upper ⊢
    omega

theorem toLower_of_plain {symbol : Char} (plain : symbol.isLower ∨ symbol.isDigit) :
    symbol.toLower = symbol := by
  delta Char.isLower at plain
  simp only [Char.isDigit, Bool.and_eq_true, decide_eq_true_eq, UInt32.le_iff_toNat_le] at plain
  apply dif_neg
  rw [ge_iff_le, UInt32.le_iff_toNat_le, UInt32.le_iff_toNat_le]
  simp at plain ⊢
  omega

theorem labelSymbol_of_isLabelSymbol {symbol : Char} (fits : IsLabelSymbol symbol) :
    labelSymbol symbol = symbol ∧ symbol ≠ '\x00' := by
  rcases fits with plain | rfl
  · constructor
    · rw [labelSymbol, if_pos, toLower_of_plain plain]
      rcases plain with lower | digit
      · have alphabetic : symbol.isAlpha = true := Bool.or_eq_true_iff.mpr (.inr lower)
        simp [Char.isAlphanum, alphabetic]
      · simp [Char.isAlphanum, digit]
    · rintro rfl
      revert plain
      decide
  · decide

theorem trimmedLabel_tidy (input : List Char) : Tidy (trimmedLabel input) where
  symbols symbol member := by
    have kept := List.mem_filter.mp
      ((List.dropWhile_suffix _).subset ((List.rdropWhile_prefix _ _).subset member))
    obtain ⟨_, _, rfl⟩ := List.mem_map.mp kept.1
    unfold labelSymbol at kept ⊢
    split_ifs at kept ⊢ with alphanumeric
    · exact .inl (toLower_plain alphanumeric)
    · exact .inr rfl
    · simp at kept
  first hyphen := by
    obtain ⟨_, label_eq⟩ := List.head?_eq_some_iff.mp hyphen
    obtain ⟨_, whole⟩ := List.rdropWhile_prefix (· == '-')
      (((input.map labelSymbol).filter (· != '\x00')).dropWhile (· == '-'))
    have head := List.head?_dropWhile_not (· == '-')
      ((input.map labelSymbol).filter (· != '\x00'))
    rw [← whole, show List.rdropWhile _ _ = _ from label_eq] at head
    cases head
  last hyphen := by
    obtain ⟨_, label_eq⟩ := List.getLast?_eq_some_iff.mp hyphen
    have nonempty : trimmedLabel input ≠ [] := by simp [label_eq]
    apply List.rdropWhile_last_not (· == '-') _ nonempty
    show ((trimmedLabel input).getLast nonempty == '-') = true
    simp [label_eq]

theorem trimmedLabel_of_tidy {label : List Char} (tidy : Tidy label) :
    trimmedLabel label = label := by
  have symbols symbol member := labelSymbol_of_isLabelSymbol (tidy.symbols symbol member)
  have mapped : label.map labelSymbol = label :=
    (List.map_congr_left fun symbol member => (symbols symbol member).1).trans (List.map_id' label)
  have filtered : label.filter (· != '\x00') = label :=
    List.filter_eq_self.mpr fun symbol member => bne_iff_ne.mpr (symbols symbol member).2
  rw [trimmedLabel, mapped, filtered, trimHyphens]
  have front : label.dropWhile (· == '-') = label := by
    cases label with
    | nil => rfl
    | cons head rest =>
      apply List.dropWhile_cons_of_neg
      intro hyphen
      exact tidy.first (congrArg some (beq_iff_eq.mp hyphen))
  rw [front, List.rdropWhile_eq_self_iff]
  intro nonempty hyphen
  exact tidy.last ((List.getLast_eq_iff_getLast?_eq_some nonempty).mp (beq_iff_eq.mp hyphen))

/-- The label is in order unless the cut comes right after a hyphen. -/
theorem host_label_valid_iff (input : List Char) :
    (sanitizeHostLabel input = [] ∨ ValidLabel (sanitizeHostLabel input)) ∧
        sanitizeHostLabel (sanitizeHostLabel input) = sanitizeHostLabel input ↔
      (trimmedLabel input)[62]? ≠ some '-' := by
  have tidy := trimmedLabel_tidy input
  have last : (sanitizeHostLabel input).getLast? =
      (trimmedLabel input)[62]?.or (trimmedLabel input).getLast? := List.getLast?_take
  constructor
  · rintro ⟨empty | valid, _⟩ hyphen
    · rw [empty, hyphen] at last
      cases last
    · rw [hyphen] at last
      exact valid.last last
  · intro cut
    have tidy_cut : Tidy (sanitizeHostLabel input) := by
      refine ⟨fun symbol member => tidy.symbols symbol (List.mem_of_mem_take member), ?_, ?_⟩
      · rw [sanitizeHostLabel, List.head?_take]
        exact tidy.first
      · rw [last]
        cases found : (trimmedLabel input)[62]? with
        | none => exact tidy.last
        | some =>
          rw [found] at cut
          exact cut
    have short : (sanitizeHostLabel input).length ≤ 63 := List.length_take_le _ _
    constructor
    · rw [or_iff_not_imp_left]
      intro nonempty
      exact ⟨tidy_cut, List.length_pos_iff.mpr nonempty, short⟩
    · rw [sanitizeHostLabel, trimmedLabel_of_tidy tidy_cut, List.take_of_length_le short]

def longHostName : List Char := List.replicate 62 'a' ++ ['-', 'b']

theorem long_host_name_invalid :
    ¬ (sanitizeHostLabel longHostName = [] ∨ ValidLabel (sanitizeHostLabel longHostName)) ∧
      sanitizeHostLabel (sanitizeHostLabel longHostName) ≠ sanitizeHostLabel longHostName := by
  refine ⟨?_, by decide⟩
  rintro (empty | valid)
  · revert empty
    decide
  · exact valid.last (by decide)

end HandControl.HostLabels
