import HandControl.ByteEncoding

/-!
# Pairing verification codes

Server, Rust client and Android client each compute a six-digit code from the two certificates, the
server's identifier and a nonce. The hash is an arbitrary function to 32-byte strings.
-/

namespace HandControl.VerificationCode

open PositionalNotation ByteEncoding

abbrev Digest := FixedBytes 32

section

variable (sha256 : Bytes → Digest)

/-- Both fingerprints, the identifier and the nonce are hashed together. -/
def pairingHash (clientCertDer serverFingerprint serverId nonce : Bytes) : Bytes :=
  (sha256 ((sha256 clientCertDer).bytes ++ serverFingerprint ++ serverId ++ nonce)).bytes

def generateVerificationCode (clientCertDer serverCertDer : Bytes) (serverId : Uuid)
    (nonce : Bytes) : String :=
  let hash := pairingHash sha256 clientCertDer (sha256 serverCertDer).bytes serverId.bytes nonce
  let value := bigEndianValue (hash.take 4) % 1000000
  String.ofList (paddedDecimal 3 (value / 1000) ++ '-' :: paddedDecimal 3 (value % 1000))

/-- The code of the Rust client. -/
def computeVerificationCode (clientCertDer serverCertFingerprint : Bytes) (serverId : Uuid)
    (verificationNonce : Bytes) : Except String String :=
  if verificationNonce = [] then
    .error "Verification nonce missing for verification code computation"
  else if serverCertFingerprint.length ≠ 32 then
    .error "Server fingerprint must be 32 bytes for verification code computation"
  else
    let digest :=
      pairingHash sha256 clientCertDer serverCertFingerprint serverId.bytes verificationNonce
    let value := bigEndianValue (digest.take 4) % 1000000
    .ok (String.ofList (paddedDecimal 3 (value / 1000) ++ '-' :: paddedDecimal 3 (value % 1000)))

/-- Text that is no identifier stands for its own bytes. -/
def toUuidBytes (text : String) : Bytes :=
  (uuidFromString text).getD text.toUTF8.toList

def VerificationCodeGenerator.generate (clientCertificateDer serverCertificateDer : Bytes)
    (serverId : String) (nonce : Bytes) : String :=
  let hash := pairingHash sha256 clientCertificateDer (sha256 serverCertificateDer).bytes
    (toUuidBytes serverId) nonce
  let digits := ((hexEncode hash).filter Char.isDigit).take 6
  let paddedDigits := if digits.length < 6 then digits.rightpad 6 '0' else digits
  String.ofList (paddedDigits.take 3 ++ '-' :: paddedDigits.drop 3)

def VerificationCodeGenerator.computeFingerprint (certificateDer : Bytes) : String :=
  "SHA256:" ++ String.ofList (hexEncode (sha256 certificateDer).bytes)

theorem computeFingerprint_ne_empty (certificateDer : Bytes) :
    VerificationCodeGenerator.computeFingerprint sha256 certificateDer ≠ "" := by
  intro empty
  have lists := congrArg String.toList empty
  simp [VerificationCodeGenerator.computeFingerprint] at lists

theorem computeFingerprint_eq_iff (left right : Bytes) :
    VerificationCodeGenerator.computeFingerprint sha256 left =
      VerificationCodeGenerator.computeFingerprint sha256 right ↔
        sha256 left = sha256 right := by
  constructor
  · intro same
    have lists := congrArg String.toList same
    simp only [VerificationCodeGenerator.computeFingerprint, String.toList_append,
      String.toList_ofList, List.append_cancel_left_eq] at lists
    have left_size := (sha256 left).size_eq
    have right_size := (sha256 right).size_eq
    have nonempty : (sha256 left).bytes ≠ [] := by
      intro empty
      rw [empty] at left_size
      cases left_size
    have bytes_eq := hexEncode_inj (left_size.trans right_size.symm) nonempty lists
    cases left_digest : sha256 left with
    | mk =>
      cases right_digest : sha256 right with
      | mk =>
        rw [left_digest, right_digest] at bytes_eq
        cases bytes_eq
        rfl
  · intro same
    simp only [VerificationCodeGenerator.computeFingerprint, same]

end

/-- Three decimal digits, a dash and three decimal digits. -/
def HasCodeForm (code : String) : Prop :=
  ∃ left right : List Char, code.toList = left ++ '-' :: right ∧
    left.length = 3 ∧ right.length = 3 ∧ ∀ symbol ∈ left ++ right, symbol.isDigit = true

/-- The first six decimal digits among the hash's hexadecimal digits, with zeros
for those that are missing. -/
def leadingDecimals (hash : Bytes) : List Nat :=
  (((nibbles hash).filter (· < 10)).take 6).rightpad 6 0

def decimalReading (hash : Bytes) : Nat := positional 10 (leadingDecimals hash)

def codeText (digits : List Nat) : String :=
  String.ofList ((digits.take 3).map Nat.digitChar ++ '-' :: (digits.drop 3).map Nat.digitChar)

theorem digitChar_toNat : ∀ digit < 10, (Nat.digitChar digit).toNat - 48 = digit := by
  decide

theorem map_digitChar_inj {left right : List Nat}
    (leftBounded : ∀ digit ∈ left, digit < 10) (rightBounded : ∀ digit ∈ right, digit < 10)
    (same : left.map Nat.digitChar = right.map Nat.digitChar) : left = right := by
  have restored (digits : List Nat) (bounded : ∀ digit ∈ digits, digit < 10) :
      (digits.map Nat.digitChar).map (fun symbol => symbol.toNat - 48) = digits := by
    rw [List.map_map]
    refine (List.map_congr_left fun digit member => ?_).trans (List.map_id digits)
    exact digitChar_toNat digit (bounded digit member)
  rw [← restored left leftBounded, same, restored right rightBounded]

theorem codeText_inj {left right : List Nat}
    (leftLength : left.length = 6) (rightLength : right.length = 6)
    (leftBounded : ∀ digit ∈ left, digit < 10) (rightBounded : ∀ digit ∈ right, digit < 10)
    (same : codeText left = codeText right) : left = right := by
  have texts := String.ofList_inj.mp same
  have firstLengths : ((left.take 3).map Nat.digitChar).length =
      ((right.take 3).map Nat.digitChar).length := by
    simp [leftLength, rightLength]
  obtain ⟨firsts, lasts⟩ := List.append_inj texts firstLengths
  have whole : left.map Nat.digitChar = right.map Nat.digitChar := by
    rw [← List.take_append_drop 3 left, ← List.take_append_drop 3 right, List.map_append,
      List.map_append, firsts, List.cons.inj lasts |>.2]
  exact map_digitChar_inj leftBounded rightBounded whole

theorem codeText_form {digits : List Nat} (length : digits.length = 6)
    (bounded : ∀ digit ∈ digits, digit < 10) : HasCodeForm (codeText digits) := by
  refine ⟨(digits.take 3).map Nat.digitChar, (digits.drop 3).map Nat.digitChar, ?_, ?_, ?_, ?_⟩
  · simp [codeText]
  · simp [length]
  · simp [length]
  · intro symbol member
    rw [← List.map_append, List.take_append_drop] at member
    obtain ⟨digit, inside, rfl⟩ := List.mem_map.mp member
    have decimal : ∀ digit < 10, (Nat.digitChar digit).isDigit = true := by decide
    exact decimal digit (bounded digit inside)

def sixDigits (value : Nat) : List Nat :=
  digitsOf 10 3 (value / 1000) ++ digitsOf 10 3 (value % 1000)

theorem sixDigits_lt (value : Nat) : ∀ digit ∈ sixDigits value, digit < 10 := by
  rw [sixDigits, List.forall_mem_append]
  exact ⟨digitsOf_lt (by decide) _ _, digitsOf_lt (by decide) _ _⟩

theorem positional_sixDigits {value : Nat} (small : value < 1000000) :
    positional 10 (sixDigits value) = value := by
  rw [sixDigits, positional_append, positional_digitsOf, positional_digitsOf, digitsOf_length]
  omega

theorem padded_code_eq_codeText {value : Nat} (small : value < 1000000) :
    String.ofList (paddedDecimal 3 (value / 1000) ++ '-' :: paddedDecimal 3 (value % 1000)) =
      codeText (sixDigits value) := by
  have high : paddedDecimal 3 (value / 1000) =
      (digitsOf 10 3 (value / 1000)).map Nat.digitChar :=
    paddedDecimal_eq (by omega) (by decide)
  have low : paddedDecimal 3 (value % 1000) =
      (digitsOf 10 3 (value % 1000)).map Nat.digitChar :=
    paddedDecimal_eq (by omega) (by decide)
  rw [high, low, codeText, sixDigits, List.take_left' (by simp), List.drop_left' (by simp)]

theorem leadingDecimals_length (hash : Bytes) : (leadingDecimals hash).length = 6 := by
  simp [leadingDecimals, List.rightpad]

theorem leadingDecimals_lt (hash : Bytes) : ∀ digit ∈ leadingDecimals hash, digit < 10 := by
  intro digit member
  rw [leadingDecimals, List.rightpad, List.mem_append] at member
  rcases member with found | filler
  · have kept := List.mem_of_mem_take found
    simpa using (List.mem_filter.mp kept).2
  · rw [List.eq_of_mem_replicate filler]
    decide

theorem filter_isDigit_hexEncode (hash : Bytes) :
    (hexEncode hash).filter Char.isDigit =
      ((nibbles hash).filter (· < 10)).map Nat.digitChar := by
  have decimal : ∀ digit < 16, (Nat.digitChar digit).isDigit = decide (digit < 10) := by
    decide
  rw [hexEncode, List.filter_map]
  congr 1
  apply List.filter_congr
  intro digit member
  exact decimal digit (nibbles_lt hash digit member)

/-- Filtering the hexadecimal text and padding it is reading the leading decimals. -/
theorem padded_hex_digits (hash : Bytes) :
    (if (((hexEncode hash).filter Char.isDigit).take 6).length < 6 then
        (((hexEncode hash).filter Char.isDigit).take 6).rightpad 6 '0'
      else ((hexEncode hash).filter Char.isDigit).take 6) =
      (leadingDecimals hash).map Nat.digitChar := by
  rw [filter_isDigit_hexEncode, ← List.map_take]
  split_ifs with short
  · have zero : Nat.digitChar 0 = '0' := rfl
    simp [leadingDecimals, List.rightpad, zero]
  · have full : 6 ≤ (((nibbles hash).filter (· < 10)).take 6).length := by
      rw [List.length_map] at short
      omega
    rw [leadingDecimals, List.rightpad, Nat.sub_eq_zero_of_le full, List.replicate_zero,
      List.append_nil]

section

variable (sha256 : Bytes → Digest) (clientCertDer serverCertDer : Bytes) (serverId : Uuid)
  (nonce : Bytes)

def sharedHash : Bytes :=
  pairingHash sha256 clientCertDer (sha256 serverCertDer).bytes serverId.bytes nonce

theorem generateVerificationCode_eq :
    generateVerificationCode sha256 clientCertDer serverCertDer serverId nonce =
      codeText (sixDigits
        (bigEndianValue ((sharedHash sha256 clientCertDer serverCertDer serverId nonce).take 4) %
          1000000)) :=
  padded_code_eq_codeText (Nat.mod_lt _ (by decide))

theorem computeVerificationCode_eq (nonempty : nonce ≠ []) :
    computeVerificationCode sha256 clientCertDer (sha256 serverCertDer).bytes serverId nonce =
      .ok (generateVerificationCode sha256 clientCertDer serverCertDer serverId nonce) := by
  simp [computeVerificationCode, generateVerificationCode, nonempty, (sha256 _).size_eq]

theorem android_generate_eq :
    VerificationCodeGenerator.generate sha256 clientCertDer serverCertDer serverId.text nonce =
      codeText
        (leadingDecimals (sharedHash sha256 clientCertDer serverCertDer serverId nonce)) := by
  have identifier : toUuidBytes serverId.text = serverId.bytes := by
    rw [toUuidBytes, uuidFromString_text, Option.getD_some]
  simp only [VerificationCodeGenerator.generate, identifier, padded_hex_digits, codeText,
    List.map_take, List.map_drop, sharedHash]

/-- All three codes agree exactly when the leading decimals of the hash are congruent to
its first four bytes modulo one million. -/
theorem verification_codes_agree_iff (nonempty : nonce ≠ []) :
    (computeVerificationCode sha256 clientCertDer (sha256 serverCertDer).bytes serverId nonce =
          .ok (generateVerificationCode sha256 clientCertDer serverCertDer serverId nonce) ∧
        VerificationCodeGenerator.generate sha256 clientCertDer serverCertDer serverId.text
            nonce =
          generateVerificationCode sha256 clientCertDer serverCertDer serverId nonce ∧
        HasCodeForm (generateVerificationCode sha256 clientCertDer serverCertDer serverId nonce)) ↔
      decimalReading (sharedHash sha256 clientCertDer serverCertDer serverId nonce) ≡
        bigEndianValue ((sharedHash sha256 clientCertDer serverCertDer serverId nonce).take 4)
          [MOD 1000000] := by
  rw [computeVerificationCode_eq sha256 clientCertDer serverCertDer serverId nonce nonempty,
    android_generate_eq, generateVerificationCode_eq]
  generalize sharedHash sha256 clientCertDer serverCertDer serverId nonce = hash
  have small : bigEndianValue (hash.take 4) % 1000000 < 1000000 := Nat.mod_lt _ (by decide)
  have form : HasCodeForm (codeText (sixDigits (bigEndianValue (hash.take 4) % 1000000))) :=
    codeText_form (by simp [sixDigits]) (sixDigits_lt _)
  have readingSmall : decimalReading hash < 1000000 := by
    have bound := positional_lt (leadingDecimals_lt hash)
    rw [leadingDecimals_length] at bound
    exact bound
  simp only [form, and_true, true_and]
  rw [Nat.ModEq, Nat.mod_eq_of_lt readingSmall]
  constructor
  · intro same
    have digits := codeText_inj (leadingDecimals_length hash) (by simp [sixDigits])
      (leadingDecimals_lt hash) (sixDigits_lt _) same
    rw [decimalReading, digits, positional_sixDigits small]
  · intro same
    have values : positional 10 (leadingDecimals hash) =
        positional 10 (sixDigits (bigEndianValue (hash.take 4) % 1000000)) := by
      rw [positional_sixDigits small]
      exact same
    have digits := positional_inj (leadingDecimals_lt hash) (sixDigits_lt _)
      (by rw [leadingDecimals_length]; simp [sixDigits]) values
    rw [digits]

end

def repeatedDigest (byte : UInt8) : Digest where
  bytes := List.replicate 32 byte
  size_eq := by simp

def zeroUuid : Uuid where
  bytes := List.replicate 16 0
  size_eq := sixteenZeros_size

theorem codes_agree_on_zero_hash :
    ([1] : Bytes) ≠ [] ∧
      VerificationCodeGenerator.generate (fun _ => repeatedDigest 0) [2] [3] zeroUuid.text [1] =
        generateVerificationCode (fun _ => repeatedDigest 0) [2] [3] zeroUuid [1] :=
  ⟨by decide, ((verification_codes_agree_iff (fun _ => repeatedDigest 0) [2] [3] zeroUuid [1]
      (by decide)).mpr (by decide)).2.1⟩

/-- Ten is no decimal digit: a hash of such bytes reads as zero on Android only. -/
theorem codes_differ_on_lettered_hash :
    computeVerificationCode (fun _ => repeatedDigest 0xAB) [2] (repeatedDigest 0xAB).bytes
        zeroUuid [1] = .ok "154-539" ∧
      generateVerificationCode (fun _ => repeatedDigest 0xAB) [2] [3] zeroUuid [1] =
        "154-539" ∧
      VerificationCodeGenerator.generate (fun _ => repeatedDigest 0xAB) [2] [3] zeroUuid.text
        [1] = "000-000" ∧
      VerificationCodeGenerator.generate (fun _ => repeatedDigest 0xAB) [2] [3] zeroUuid.text
        [1] ≠ generateVerificationCode (fun _ => repeatedDigest 0xAB) [2] [3] zeroUuid [1] :=
  ⟨by decide, by decide, by decide, by decide⟩

end HandControl.VerificationCode
