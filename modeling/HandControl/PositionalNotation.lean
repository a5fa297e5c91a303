import Mathlib.Tactic

/-!
# Positional notation

Numbers written most significant digit first, with a fixed number of digits. Byte
strings, hexadecimal text and zero-padded decimals are the instances in use.
-/

namespace HandControl.PositionalNotation

def positional (base : Nat) (digits : List Nat) : Nat :=
  digits.foldl (fun value digit => base * value + digit) 0

def digitsOf (base : Nat) : Nat → Nat → List Nat
  | 0, _ => []
  | width + 1, value => digitsOf base width (value / base) ++ [value % base]

variable {base : Nat}

@[simp] theorem positional_nil : positional base [] = 0 := rfl

theorem positional_concat (digits : List Nat) (digit : Nat) :
    positional base (digits ++ [digit]) = base * positional base digits + digit := by
  simp [positional, List.foldl_append]

theorem positional_append (left right : List Nat) :
    positional base (left ++ right) =
      positional base left * base ^ right.length + positional base right := by
  induction right using List.reverseRecOn with
  | nil => simp
  | append_singleton _ _ ih =>
    rw [← List.append_assoc, positional_concat, positional_concat, ih, List.length_append,
      List.length_singleton, pow_succ]
    ring

theorem positional_lt {digits : List Nat} (bounded : ∀ digit ∈ digits, digit < base) :
    positional base digits < base ^ digits.length := by
  induction digits using List.reverseRecOn with
  | nil => simp
  | append_singleton _ digit ih =>
    have last : digit < base := bounded digit (by simp)
    have rest := ih fun other member => bounded other (by simp [member])
    rw [positional_concat, List.length_append, List.length_singleton, pow_succ]
    nlinarith

@[simp] theorem digitsOf_length (width value : Nat) :
    (digitsOf base width value).length = width := by
  induction width generalizing value with
  | zero => rfl
  | succ width ih => simp [digitsOf, ih]

theorem digitsOf_lt (positive : 0 < base) (width value : Nat) :
    ∀ digit ∈ digitsOf base width value, digit < base := by
  induction width generalizing value with
  | zero => simp [digitsOf]
  | succ width ih =>
    rw [digitsOf, List.forall_mem_append, List.forall_mem_singleton]
    exact ⟨ih _, Nat.mod_lt _ positive⟩

theorem digitsOf_positional {digits : List Nat} (bounded : ∀ digit ∈ digits, digit < base) :
    digitsOf base digits.length (positional base digits) = digits := by
  induction digits using List.reverseRecOn with
  | nil => rfl
  | append_singleton _ digit ih =>
    have last : digit < base := bounded digit (by simp)
    have rest := ih fun other member => bounded other (by simp [member])
    have positive : 0 < base := Nat.zero_lt_of_lt last
    rw [List.length_append, List.length_singleton, digitsOf, positional_concat,
      Nat.mul_add_div positive, Nat.div_eq_of_lt last, Nat.add_zero, rest,
      Nat.mul_add_mod, Nat.mod_eq_of_lt last]

theorem positional_digitsOf (width value : Nat) :
    positional base (digitsOf base width value) = value % base ^ width := by
  induction width generalizing value with
  | zero => simp [digitsOf, Nat.mod_one]
  | succ width ih =>
    rw [digitsOf, positional_concat, ih, pow_succ, Nat.mul_comm (base ^ width) base, Nat.mod_mul]
    omega

theorem positional_inj {left right : List Nat} (leftBounded : ∀ digit ∈ left, digit < base)
    (rightBounded : ∀ digit ∈ right, digit < base)
    (lengths : left.length = right.length)
    (same : positional base left = positional base right) : left = right := by
  rw [← digitsOf_positional leftBounded, ← digitsOf_positional rightBounded, lengths, same]

theorem positional_flatMap_digitsOf (width : Nat) {digits : List Nat}
    (bounded : ∀ digit ∈ digits, digit < base ^ width) :
    positional base (digits.flatMap (digitsOf base width)) =
      positional (base ^ width) digits := by
  induction digits using List.reverseRecOn with
  | nil => rfl
  | append_singleton _ digit ih =>
    have last : digit < base ^ width := bounded digit (by simp)
    have rest := ih fun other member => bounded other (by simp [member])
    rw [List.flatMap_append, List.flatMap_singleton, positional_append, rest,
      positional_concat, digitsOf_length, positional_digitsOf, Nat.mod_eq_of_lt last,
      Nat.mul_comm]

def paddedDecimal (width value : Nat) : List Char :=
  List.leftpad width '0' (Nat.toDigits 10 value)

theorem digitsOf_zero (width : Nat) : digitsOf base width 0 = List.replicate width 0 := by
  induction width with
  | zero => rfl
  | succ width ih => rw [digitsOf, Nat.zero_div, Nat.zero_mod, ih, ← List.replicate_succ']

theorem leftpad_concat {α : Type} (width : Nat) (fill last : α) (items : List α) :
    List.leftpad (width + 1) fill (items ++ [last]) = List.leftpad width fill items ++ [last] := by
  simp [List.leftpad]

theorem paddedDecimal_eq {width value : Nat} (fits : value < 10 ^ width) (nonzero : 0 < width) :
    paddedDecimal width value = (digitsOf 10 width value).map Nat.digitChar := by
  induction width generalizing value with
  | zero => cases nonzero
  | succ width ih =>
    rw [paddedDecimal, Nat.toDigits_eq_if (by decide), digitsOf, List.map_append,
      List.map_singleton]
    split_ifs with small
    · rw [Nat.div_eq_of_lt small, Nat.mod_eq_of_lt small, digitsOf_zero]
      simp [List.leftpad]
    · have shifted : value / 10 < 10 ^ width := by
        rw [pow_succ] at fits
        omega
      have positive : 0 < width := by
        rcases Nat.eq_zero_or_pos width with rfl | positive
        · simp at fits small
          omega
        · exact positive
      rw [leftpad_concat, ← ih shifted positive, paddedDecimal]

end HandControl.PositionalNotation
