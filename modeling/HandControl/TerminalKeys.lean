import Mathlib.Tactic

/-!
# Keys of the terminal client

Some terminals send an arrow key as an escape key and two characters. `expand_key_event` holds back
what may be the start of an arrow key.
-/

namespace HandControl.TerminalKeys

inductive KeyCode where
  | esc | up | down | left | right
  | char (symbol : Char)
  | other (code : Nat)
  deriving DecidableEq

inductive KeyModifier where
  | shift | control | alt | super | hyper | metaKey
  deriving DecidableEq

/-- A repeated press is a press: no function tells them apart. -/
inductive KeyEventKind where
  | press | release
  deriving DecidableEq

structure KeyEvent where
  code : KeyCode
  modifiers : Finset KeyModifier
  kind : KeyEventKind
  deriving DecidableEq

/-- `KeyEvent::new` without modifiers. -/
def plainKey (code : KeyCode) : KeyEvent := ⟨code, ∅, .press⟩

def arrow : Char → Option KeyCode
  | 'A' => some .up
  | 'B' => some .down
  | 'C' => some .right
  | 'D' => some .left
  | _ => none

/-- The character of a plain press. -/
def plainChar (key : KeyEvent) : Option Char :=
  match key with
  | ⟨.char symbol, modifiers, .press⟩ => if modifiers = ∅ then some symbol else none
  | _ => none

def expandKeyEvent (pendingEscape : Option (List Char)) (key : KeyEvent) :
    Option (List Char) × List KeyEvent :=
  if key = plainKey .esc then (some [], [])
  else
    match pendingEscape with
    | none => (none, [key])
    | some collected =>
      match plainChar key with
      | some symbol =>
        if collected = [] then
          if symbol = '[' ∨ symbol = 'O' then (some [symbol], [])
          else (none, [plainKey .esc, key])
        else
          match arrow symbol with
          | some code => (none, [plainKey code])
          | none => (some (collected ++ [symbol]), [])
      | none => (none, [plainKey .esc, key])

def heldKeys : Option (List Char) → List KeyEvent
  | none => []
  | some collected => plainKey .esc :: collected.map fun symbol => plainKey (.char symbol)

/-- All that comes out, and then what is still held back. -/
def expandAll (pendingEscape : Option (List Char)) : List KeyEvent → List KeyEvent
  | [] => heldKeys pendingEscape
  | key :: rest =>
    (expandKeyEvent pendingEscape key).2 ++ expandAll (expandKeyEvent pendingEscape key).1 rest

/-- The keys with some of the escape sequences replaced by their arrow keys. -/
inductive Decoded : List KeyEvent → List KeyEvent → Prop
  | nil : Decoded [] []
  | key {rest out : List KeyEvent} (key : KeyEvent) (decoded : Decoded rest out) :
      Decoded (key :: rest) (key :: out)
  | arrow {rest out : List KeyEvent} {mark letter : Char} {code : KeyCode}
      (marked : mark = '[' ∨ mark = 'O') (lettered : arrow letter = some code)
      (decoded : Decoded rest out) :
      Decoded (plainKey .esc :: plainKey (.char mark) :: plainKey (.char letter) :: rest)
        (plainKey code :: out)

/-- While keys are held back no escape key comes, and after the first character only characters
come, a letter of an arrow key at once or never. -/
def Unbroken (pendingEscape : Option (List Char)) (key : KeyEvent) : Prop :=
  ∀ collected ∈ pendingEscape, key ≠ plainKey .esc ∧ (collected ≠ [] →
    ∃ symbol, plainChar key = some symbol ∧ ((arrow symbol).isSome → collected.length = 1))

def UnbrokenThroughout (pendingEscape : Option (List Char)) : List KeyEvent → Prop
  | [] => True
  | key :: rest =>
    Unbroken pendingEscape key ∧ UnbrokenThroughout (expandKeyEvent pendingEscape key).1 rest

/-- An arrow key counts as the three keys it can stand for. -/
def keyWeight (key : KeyEvent) : Nat :=
  if key.code ∈ [.up, .down, .left, .right] then 3 else 1

def weight (keys : List KeyEvent) : Nat := (keys.map keyWeight).sum

variable {pendingEscape : Option (List Char)} {key : KeyEvent} {keys out : List KeyEvent}
  {symbol : Char} {code : KeyCode}

@[simp] theorem weight_nil : weight [] = 0 := rfl

@[simp] theorem weight_cons (key : KeyEvent) (rest : List KeyEvent) :
    weight (key :: rest) = keyWeight key + weight rest := by simp [weight]

@[simp] theorem weight_append (front back : List KeyEvent) :
    weight (front ++ back) = weight front + weight back := by simp [weight]

@[simp] theorem keyWeight_escape : keyWeight (plainKey .esc) = 1 := rfl

@[simp] theorem keyWeight_char (symbol : Char) : keyWeight (plainKey (.char symbol)) = 1 := rfl

@[simp] theorem weight_held_none : weight (heldKeys none) = 0 := rfl

@[simp] theorem weight_held (collected : List Char) :
    weight (heldKeys (some collected)) = collected.length + 1 := by
  simp [weight, heldKeys, Function.comp_def, Nat.add_comm]

theorem plainChar_eq_some (plain : plainChar key = some symbol) :
    key = plainKey (.char symbol) := by
  unfold plainChar at plain
  split at plain
  · split_ifs at plain with unmodified
    cases plain
    rw [unmodified]
    rfl
  · cases plain

theorem keyWeight_arrow (found : arrow symbol = some code) :
    keyWeight (plainKey code) = 3 := by
  unfold arrow at found
  split at found <;> cases found <;> rfl

theorem Decoded.weight_eq (decoded : Decoded keys out) : weight out = weight keys := by
  induction decoded with
  | nil => rfl
  | key _ _ induction => rw [weight_cons, weight_cons, induction]
  | arrow _ lettered _ induction =>
    simp only [weight_cons, keyWeight_arrow lettered, induction, keyWeight_escape, keyWeight_char]
    omega

/-- What a key adds comes out or is held back, unless it breaks a sequence. -/
theorem expandKeyEvent_weight (pendingEscape : Option (List Char)) (key : KeyEvent) :
    ∃ lost, weight (expandKeyEvent pendingEscape key).2 +
        weight (heldKeys (expandKeyEvent pendingEscape key).1) + lost =
      weight (heldKeys pendingEscape) + weight [key] ∧
        (lost = 0 → Unbroken pendingEscape key) := by
  fun_cases expandKeyEvent pendingEscape key with
  | case1 pendingEscape escaped =>
    -- an escape key starts anew, whatever is held back
    subst escaped
    cases pendingEscape with
    | none => exact ⟨0, by simp, by simp [Unbroken]⟩
    | some collected => exact ⟨collected.length + 1, by simp; omega, by simp⟩
  | case2 => exact ⟨0, by simp, by simp [Unbroken]⟩
  | case3 typed symbol plain marked =>
    exact ⟨0, by simp [plainChar_eq_some plain], by simp [Unbroken, typed]⟩
  | case4 typed => exact ⟨0, by simp, by simp [Unbroken, typed]⟩
  | case5 typed collected symbol plain filled code found =>
    have some_held := List.length_pos_iff.mpr filled
    refine ⟨collected.length - 1, ?_, ?_⟩
    · simp [plainChar_eq_some plain, keyWeight_arrow found]
      omega
    · intro none_lost
      have single : collected.length = 1 := by omega
      simp [Unbroken, typed, plain, single]
  | case6 typed collected symbol plain filled found =>
    exact ⟨0, by simp [plainChar_eq_some plain], by simp [Unbroken, typed, plain, found]⟩
  | case7 typed collected plain =>
    refine ⟨collected.length, by simp; omega, ?_⟩
    intro none_lost
    simp [Unbroken, typed, List.length_eq_zero_iff.mp none_lost]

theorem expandAll_weight (pendingEscape : Option (List Char)) (keys : List KeyEvent) :
    ∃ lost, weight (expandAll pendingEscape keys) + lost =
      weight (heldKeys pendingEscape) + weight keys ∧
        (lost = 0 → UnbrokenThroughout pendingEscape keys) := by
  induction keys generalizing pendingEscape with
  | nil => exact ⟨0, by simp [expandAll], fun _ => trivial⟩
  | cons key rest induction =>
    obtain ⟨here, balance, unbroken⟩ := expandKeyEvent_weight pendingEscape key
    obtain ⟨later, _, rest_unbroken⟩ :=
      induction (expandKeyEvent pendingEscape key).1
    refine ⟨here + later, ?_, ?_⟩
    · simp only [expandAll, weight_append, weight_cons, weight_nil] at balance ⊢
      omega
    · intro none_lost
      exact ⟨unbroken (by omega), rest_unbroken (by omega)⟩

/-- What is held back after the escape key starts like an arrow key. -/
def Started (pendingEscape : Option (List Char)) : Prop :=
  ∀ collected ∈ pendingEscape, ∀ mark ∈ collected.head?, mark = '[' ∨ mark = 'O'

theorem decoded_refl (keys : List KeyEvent) : Decoded keys keys := by
  induction keys with
  | nil => exact .nil
  | cons key _ induction => exact .key key induction

theorem decoded_of_unbroken (started : Started pendingEscape)
    (unbroken : UnbrokenThroughout pendingEscape keys) :
    Decoded (heldKeys pendingEscape ++ keys) (expandAll pendingEscape keys) := by
  induction keys generalizing pendingEscape with
  | nil =>
    rw [List.append_nil]
    exact decoded_refl _
  | cons key rest induction =>
    obtain ⟨here, later⟩ := unbroken
    rw [expandAll]
    revert later
    fun_cases expandKeyEvent pendingEscape key with
    | case1 pendingEscape escaped =>
      cases pendingEscape with
      | none =>
        subst escaped
        exact induction (by simp [Started])
      | some collected => exact absurd escaped (here collected rfl).1
    | case2 => exact fun later => .key key (induction (by simp [Started]) later)
    | case3 typed symbol plain marked =>
      cases plainChar_eq_some plain
      exact induction (by simpa [Started] using marked)
    | case4 => exact fun later => .key _ (.key key (induction (by simp [Started]) later))
    | case5 typed collected symbol plain filled code found =>
      obtain ⟨_, same, single⟩ := (here collected rfl).2 filled
      cases plain.symm.trans same
      obtain ⟨mark, rfl⟩ := List.length_eq_one_iff.mp (single (by simp [found]))
      cases plainChar_eq_some plain
      exact fun later =>
        .arrow (started _ rfl mark rfl) found (induction (by simp [Started]) later)
    | case6 typed collected symbol plain filled =>
      cases plainChar_eq_some plain
      intro later
      have next := @induction (some (collected ++ [symbol])) ?_ later
      · simpa [heldKeys] using next
      · rintro _ ⟨⟩ mark head
        rw [List.head?_append_of_ne_nil _ filled] at head
        exact started collected rfl mark head
    | case7 typed collected plain =>
      have first : collected = [] := by
        by_contra filled
        obtain ⟨_, same, -⟩ := (here collected rfl).2 filled
        cases plain.symm.trans same
      subst first
      exact fun later => .key _ (.key key (induction (by simp [Started]) later))

theorem keys_conserved_iff (keys : List KeyEvent) :
    Decoded keys (expandAll none keys) ↔ UnbrokenThroughout none keys := by
  constructor
  · intro decoded
    obtain ⟨_, balance, unbroken⟩ := expandAll_weight none keys
    rw [decoded.weight_eq, weight_held_none] at balance
    exact unbroken (by omega)
  · exact fun unbroken => decoded_of_unbroken (by simp [Started]) unbroken

theorem second_escape_loses_first :
    ¬ Decoded [plainKey .esc, plainKey .esc] (expandAll none [plainKey .esc, plainKey .esc]) := by
  intro decoded
  cases decoded with
  | key _ rest => cases rest

end HandControl.TerminalKeys
