import HandControl.PositionalNotation

/-!
# Byte strings and their text forms

Byte strings of fixed size, big-endian numbers, hexadecimal text, and the canonical
text of a 128-bit identifier with the parser that reads it back.
-/

namespace HandControl.ByteEncoding

open PositionalNotation

abbrev Bytes := List UInt8

/-- The characters of a text are checked one by one, never all characters there are. -/
instance (priority := 2000) decidableForallSymbol {holds : Char → Prop} [DecidablePred holds]
    (text : List Char) : Decidable (∀ symbol ∈ text, holds symbol) :=
  List.decidableBAll holds text

/-- A byte string whose length is part of its type. -/
structure FixedBytes (size : Nat) where
  bytes : Bytes
  size_eq : bytes.length = size
  deriving DecidableEq

theorem sixteenZeros_size : (List.replicate 16 (0 : UInt8)).length = 16 := by simp

theorem repeated_size (byte : UInt8) : (List.replicate 16 byte).length = 16 := by simp

theorem padded_size (bytes : Bytes) : ((bytes ++ List.replicate 32 0).take 32).length = 32 := by
  simp

def byteDigits (bytes : Bytes) : List Nat := bytes.map UInt8.toNat

theorem byteDigits_lt (bytes : Bytes) : ∀ digit ∈ byteDigits bytes, digit < 256 := by
  intro digit member
  obtain ⟨byte, -, rfl⟩ := List.mem_map.mp member
  exact byte.toNat_lt

def bigEndianValue (bytes : Bytes) : Nat := positional 256 (byteDigits bytes)

def bigEndianBytes (width value : Nat) : Bytes := (digitsOf 256 width value).map UInt8.ofNat

theorem bigEndianValue_append (left right : Bytes) :
    bigEndianValue (left ++ right) =
      bigEndianValue left * 256 ^ right.length + bigEndianValue right := by
  simp [bigEndianValue, byteDigits, positional_append]

theorem bigEndianValue_lt (bytes : Bytes) : bigEndianValue bytes < 256 ^ bytes.length := by
  have bound := positional_lt (byteDigits_lt bytes)
  simpa [bigEndianValue, byteDigits] using bound

theorem bigEndianBytes_bigEndianValue (bytes : Bytes) :
    bigEndianBytes bytes.length (bigEndianValue bytes) = bytes := by
  have digits := digitsOf_positional (byteDigits_lt bytes)
  have width : (byteDigits bytes).length = bytes.length := by simp [byteDigits]
  rw [width] at digits
  rw [bigEndianBytes, bigEndianValue, digits, byteDigits, List.map_map]
  have inverse : UInt8.ofNat ∘ UInt8.toNat = id := by
    funext byte
    simp
  rw [inverse, List.map_id]

def nibbles (bytes : Bytes) : List Nat := (byteDigits bytes).flatMap (digitsOf 16 2)

def hexEncode (bytes : Bytes) : List Char := (nibbles bytes).map Nat.digitChar

def hexDigitValue (symbol : Char) : Option Nat :=
  if symbol.isDigit then some (symbol.toNat - '0'.toNat)
  else if 'a' ≤ symbol ∧ symbol ≤ 'f' then some (symbol.toNat - 'a'.toNat + 10)
  else if 'A' ≤ symbol ∧ symbol ≤ 'F' then some (symbol.toNat - 'A'.toNat + 10)
  else none

def parseHex (text : List Char) : Option Nat :=
  if text = [] then none else (text.mapM hexDigitValue).map (positional 16)

theorem nibbles_lt (bytes : Bytes) : ∀ digit ∈ nibbles bytes, digit < 16 := by
  intro digit member
  obtain ⟨byte, -, inside⟩ := List.mem_flatMap.mp member
  exact digitsOf_lt (by decide) 2 byte digit inside

theorem hexDigitValue_digitChar :
    ∀ digit < 16, hexDigitValue (Nat.digitChar digit) = some digit := by
  decide

theorem mapM_hexDigitValue {digits : List Nat} (bounded : ∀ digit ∈ digits, digit < 16) :
    (digits.map Nat.digitChar).mapM hexDigitValue = some digits := by
  induction digits with
  | nil => rfl
  | cons digit rest ih =>
    have tail := ih fun other member => bounded other (by simp [member])
    simp [hexDigitValue_digitChar digit (bounded digit (by simp)), tail]

theorem parseHex_hexEncode {bytes : Bytes} (nonempty : bytes ≠ []) :
    parseHex (hexEncode bytes) = some (bigEndianValue bytes) := by
  have textNonempty : hexEncode bytes ≠ [] := by
    obtain ⟨_, _, rfl⟩ := List.exists_cons_of_ne_nil nonempty
    simp [hexEncode, nibbles, byteDigits, digitsOf]
  have value : positional 16 (nibbles bytes) = bigEndianValue bytes :=
    positional_flatMap_digitsOf 2 (byteDigits_lt bytes)
  rw [parseHex, if_neg textNonempty, hexEncode, mapM_hexDigitValue (nibbles_lt bytes),
    Option.map_some, value]

theorem hexEncode_inj {left right : Bytes} (lengths : left.length = right.length)
    (nonempty : left ≠ []) (same : hexEncode left = hexEncode right) : left = right := by
  have other_nonempty : right ≠ [] := by
    intro empty
    rw [empty] at lengths
    exact nonempty (List.eq_nil_of_length_eq_zero lengths)
  have values : bigEndianValue left = bigEndianValue right := by
    apply Option.some.inj
    rw [← parseHex_hexEncode nonempty, ← parseHex_hexEncode other_nonempty, same]
  rw [← bigEndianBytes_bigEndianValue left, ← bigEndianBytes_bigEndianValue right, lengths, values]

theorem hyphen_not_mem_hexEncode (bytes : Bytes) : '-' ∉ hexEncode bytes := by
  intro member
  obtain ⟨digit, inside, same⟩ := List.mem_map.mp member
  have differs : ∀ digit < 16, Nat.digitChar digit ≠ '-' := by decide
  exact differs digit (nibbles_lt bytes digit inside) same

abbrev Uuid := FixedBytes 16

/-- Lower-case hexadecimal in groups of 8, 4, 4, 4 and 12 digits. -/
def Uuid.groups (uuid : Uuid) : List Bytes :=
  [uuid.bytes.take 4, (uuid.bytes.drop 4).take 2, (uuid.bytes.drop 6).take 2,
    (uuid.bytes.drop 8).take 2, uuid.bytes.drop 10]

def Uuid.text (uuid : Uuid) : String :=
  String.ofList ([ '-' ].intercalate (uuid.groups.map hexEncode))

/-- The parser of the Java library: five hexadecimal groups, each cut to its width. -/
def uuidFromString (text : String) : Option Bytes :=
  match text.toList.splitOn '-' with
  | [first, second, third, fourth, fifth] => do
    let timeLow ← parseHex first
    let timeMid ← parseHex second
    let timeHigh ← parseHex third
    let clock ← parseHex fourth
    let node ← parseHex fifth
    some (bigEndianBytes 8
          (timeLow % 2 ^ 32 * 2 ^ 32 + timeMid % 2 ^ 16 * 2 ^ 16 + timeHigh % 2 ^ 16) ++
        bigEndianBytes 8 (clock % 2 ^ 16 * 2 ^ 48 + node % 2 ^ 48))
  | _ => none

theorem bigEndianBytes_of_value {width : Nat} {bytes : Bytes} {value : Nat}
    (size : bytes.length = width) (same : value = bigEndianValue bytes) :
    bigEndianBytes width value = bytes := by
  subst size same
  exact bigEndianBytes_bigEndianValue bytes

theorem uuid_halves {a b c d e : Bytes} (sizes : a.length = 4 ∧ b.length = 2 ∧
    c.length = 2 ∧ d.length = 2 ∧ e.length = 6) :
    bigEndianBytes 8 (bigEndianValue a % 2 ^ 32 * 2 ^ 32 +
          bigEndianValue b % 2 ^ 16 * 2 ^ 16 + bigEndianValue c % 2 ^ 16) ++
        bigEndianBytes 8 (bigEndianValue d % 2 ^ 16 * 2 ^ 48 + bigEndianValue e % 2 ^ 48) =
      a ++ (b ++ (c ++ (d ++ e))) := by
  obtain ⟨sizeA, sizeB, sizeC, sizeD, sizeE⟩ := sizes
  have boundA := bigEndianValue_lt a
  have boundB := bigEndianValue_lt b
  have boundC := bigEndianValue_lt c
  have boundD := bigEndianValue_lt d
  have boundE := bigEndianValue_lt e
  rw [sizeA] at boundA
  rw [sizeB] at boundB
  rw [sizeC] at boundC
  rw [sizeD] at boundD
  rw [sizeE] at boundE
  have high : bigEndianBytes 8 (bigEndianValue a % 2 ^ 32 * 2 ^ 32 +
      bigEndianValue b % 2 ^ 16 * 2 ^ 16 + bigEndianValue c % 2 ^ 16) = a ++ (b ++ c) := by
    apply bigEndianBytes_of_value
    · simp [sizeA, sizeB, sizeC]
    · rw [bigEndianValue_append, bigEndianValue_append, List.length_append, sizeB, sizeC]
      omega
  have low : bigEndianBytes 8 (bigEndianValue d % 2 ^ 16 * 2 ^ 48 +
      bigEndianValue e % 2 ^ 48) = d ++ e := by
    apply bigEndianBytes_of_value
    · simp [sizeD, sizeE]
    · rw [bigEndianValue_append, sizeE]
      omega
  rw [high, low]
  simp

theorem uuidFromString_text (uuid : Uuid) : uuidFromString uuid.text = some uuid.bytes := by
  have split : uuid.text.toList.splitOn '-' = uuid.groups.map hexEncode := by
    rw [Uuid.text, String.toList_ofList]
    apply List.splitOn_intercalate
    · intro group member
      obtain ⟨part, -, rfl⟩ := List.mem_map.mp member
      exact hyphen_not_mem_hexEncode part
    · simp [Uuid.groups]
  have size := uuid.size_eq
  have sizes : (uuid.bytes.take 4).length = 4 ∧ ((uuid.bytes.drop 4).take 2).length = 2 ∧
      ((uuid.bytes.drop 6).take 2).length = 2 ∧ ((uuid.bytes.drop 8).take 2).length = 2 ∧
        (uuid.bytes.drop 10).length = 6 := by
    simp [size]
  have parsed (group : Bytes) (positive : 0 < group.length) :
      parseHex (hexEncode group) = some (bigEndianValue group) :=
    parseHex_hexEncode (List.ne_nil_of_length_pos positive)
  have joined : uuid.bytes.take 4 ++ ((uuid.bytes.drop 4).take 2 ++
      ((uuid.bytes.drop 6).take 2 ++ ((uuid.bytes.drop 8).take 2 ++ uuid.bytes.drop 10))) =
        uuid.bytes := by
    have step (start : Nat) : (uuid.bytes.drop start).take 2 ++ uuid.bytes.drop (start + 2) =
        uuid.bytes.drop start := by
      rw [← List.drop_drop, List.take_append_drop]
    rw [step 8, step 6, step 4, List.take_append_drop]
  simp only [uuidFromString, split, Uuid.groups, List.map_cons, List.map_nil, Option.bind_eq_bind]
  rw [parsed _ (by omega), parsed _ (by omega), parsed _ (by omega), parsed _ (by omega),
    parsed _ (by omega)]
  simp only [Option.bind_some]
  rw [uuid_halves sizes, joined]

end HandControl.ByteEncoding
