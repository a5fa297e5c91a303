import HandControl.ConfigValidation

/-!
# The pinned certificate of the relay

With self-signed certificates allowed, the trust manager of the Android client compares the leaf
certificate with the pin. Without them, the platform checks the chain and the pin goes to the HTTP
library's `CertificatePinner`, which compares public keys and needs the host of the URL. A pin that
cannot be decoded, and a URL whose host cannot be extracted, are only logged. So the pin is enforced
where self-signed certificates are allowed and it can be decoded; otherwise only where there is no
handshake to complete. The Rust client's reading of a pin is here for comparison.
-/

namespace HandControl.RelayPinning

open ByteEncoding StandardText
open ConfigValidation (isAsciiWhitespace)

structure Certificate where
  encoded : Bytes
  publicKeyInfo : Bytes
deriving DecidableEq

structure HttpUrl where
  scheme : String
  host : String

def schemeOf (url : String) : String :=
  String.ofList
    (((url.toList.dropWhile isWhitespace).takeWhile fun symbol => symbol != ':').map Char.toLower)

/-- A URL of another scheme has no TLS handshake. -/
def speaksTls (url : String) : Bool := schemeOf url = "wss" || schemeOf url = "https"

/-- What the client uses of the platform and of the HTTP library: `toHttpUrlOrNull` accepts
only http and https. -/
structure AndroidPlatform where
  sha256 : Bytes → FixedBytes 32
  isLetterOrDigit : Char → Bool
  lowercase : String → String
  toHttpUrlOrNull : String → Option HttpUrl
  acceptsPattern : String → Bool
  matchesPattern : String → String → Bool
  sha256_varies : ∃ first second, sha256 first ≠ sha256 second
  isLetterOrDigit_ascii : ∀ symbol : Char, symbol.toNat < 128 →
    isLetterOrDigit symbol = symbol.isAlphanum
  lowercase_ascii : ∀ symbols : List Char, (∀ symbol ∈ symbols, symbol.toNat < 128) →
    lowercase (String.ofList symbols) = String.ofList (symbols.map Char.toLower)
  httpUrl_scheme : ∀ url parsed, toHttpUrlOrNull url = some parsed →
    schemeOf url = "http" ∨ schemeOf url = "https"
  matchesPattern_self : ∀ host, acceptsPattern host = true → matchesPattern host host = true

def parsePinnedSha256 (platform : AndroidPlatform) (raw : Option String) : Option Bytes :=
  match raw with
  | none => none
  | some raw =>
    if isBlank raw then none
    else
      let normalized := platform.lowercase
        (String.ofList (raw.toList.filter platform.isLetterOrDigit))
      if normalized.isEmpty || normalized.length % 2 != 0 then none
      else hexDecode normalized.toList

def parsePinnedCertSha256 (value : Option String) : Except String (Option (FixedBytes 32)) :=
  match value with
  | none => .ok none
  | some raw =>
    let normalized := raw.toList.filter fun symbol =>
      !isAsciiWhitespace symbol && symbol != ':'
    if normalized = [] then .error "Pinned certificate fingerprint must not be empty"
    else
      match hexDecode normalized with
      | none => .error "Pinned certificate fingerprint must be valid hex"
      | some bytes =>
        if size : bytes.length = 32 then .ok (some ⟨bytes, size⟩)
        else .error
          "Pinned certificate fingerprint must decode to 32 bytes (SHA-256)"

structure CertificatePin where
  pattern : String
  hash : Bytes

/-- Who decides about the certificates of the relay. -/
inductive TlsSettings where
  | ownTrustManager (pinnedBytes : Option Bytes)
  | platformTrust (pin : Option CertificatePin)

structure OkHttpClient where
  connectTimeoutSeconds : Nat
  readTimeoutSeconds : Nat
  writeTimeoutSeconds : Nat
  pingIntervalSeconds : Nat
  tls : TlsSettings

def clientWith (tls : TlsSettings) : OkHttpClient where
  connectTimeoutSeconds := 10
  readTimeoutSeconds := 0
  writeTimeoutSeconds := 10
  pingIntervalSeconds := 20
  tls := tls

def pinnableHost (platform : AndroidPlatform) (relayUrl : String) : Option String :=
  ((platform.toHttpUrlOrNull relayUrl).map HttpUrl.host).filter fun host => !isBlank host

/-- The builder of the `CertificatePinner` throws if it cannot use the host as a pattern. -/
def buildOkHttpClient (platform : AndroidPlatform) (relayUrl : String)
    (allowSelfSignedTls : Bool) (pinnedCertSha256 : Option String) :
    Except String OkHttpClient :=
  if allowSelfSignedTls then
    .ok (clientWith (.ownTrustManager (parsePinnedSha256 platform pinnedCertSha256)))
  else
    match parsePinnedSha256 platform pinnedCertSha256, pinnableHost platform relayUrl with
    | some pinBytes, some host =>
      if platform.acceptsPattern host then
        .ok (clientWith (.platformTrust (some ⟨host, pinBytes⟩)))
      else .error s!"Unexpected pattern: {host}"
    | _, _ => .ok (clientWith (.platformTrust none))

def checkServerTrusted (platform : AndroidPlatform) (pinnedBytes : Option Bytes) :
    List Certificate → Except String Unit
  | [] => .error "Relay certificate chain is empty"
  | cert :: _ =>
    match pinnedBytes with
    | none => .ok ()
    | some pinned =>
      if (platform.sha256 cert.encoded).bytes = pinned then .ok ()
      else .error "Relay certificate pin mismatch"

def checkPin (platform : AndroidPlatform) (pin : CertificatePin) (host : String)
    (chain : List Certificate) : Bool :=
  !platform.matchesPattern pin.pattern host ||
    chain.any fun cert => (platform.sha256 cert.publicKeyInfo).bytes == pin.hash

/-- `trusts` is the verdict of the platform's trust manager and of the default hostname verifier,
which never accept an empty chain. -/
def completesHandshake (platform : AndroidPlatform) (trusts : String → List Certificate → Bool)
    (client : OkHttpClient) (host : String) (chain : List Certificate) : Bool :=
  match client.tls with
  | .ownTrustManager pinnedBytes => (checkServerTrusted platform pinnedBytes chain).isOk
  | .platformTrust pin => !chain.isEmpty && trusts host chain &&
      pin.all fun pin => checkPin platform pin host chain

def PinnedLeaf (platform : AndroidPlatform) (pin : String) (chain : List Certificate) : Prop :=
  ∃ leaf rest, chain = leaf :: rest ∧
    parsePinnedSha256 platform (some pin) = some (platform.sha256 leaf.encoded).bytes

/-- Every handshake that the client completes with the host of the URL is with the pinned
certificate, whatever the platform trusts. -/
def PinEnforced (platform : AndroidPlatform) (relayUrl : String) (allowSelfSignedTls : Bool)
    (pin : String) : Prop :=
  ∀ client, buildOkHttpClient platform relayUrl allowSelfSignedTls (some pin) = .ok client →
    speaksTls relayUrl = true → ∀ trusts host chain,
      (∀ url, platform.toHttpUrlOrNull relayUrl = some url → host = url.host) →
        completesHandshake platform trusts client host chain = true →
          PinnedLeaf platform pin chain

/-- The `CertificatePinner` cannot be built, or no public key has the pin as its digest. -/
def RefusesAll (platform : AndroidPlatform) (relayUrl pin : String) : Prop :=
  ∃ pinBytes host, parsePinnedSha256 platform (some pin) = some pinBytes ∧
    pinnableHost platform relayUrl = some host ∧
      (platform.acceptsPattern host = false ∨
        ∀ publicKeyInfo, (platform.sha256 publicKeyInfo).bytes ≠ pinBytes)

section

variable {platform : AndroidPlatform}

theorem checkServerTrusted_isOk {pinned : Bytes} {chain : List Certificate}
    (trusted : (checkServerTrusted platform (some pinned) chain).isOk = true) :
    ∃ leaf rest, chain = leaf :: rest ∧ (platform.sha256 leaf.encoded).bytes = pinned := by
  cases chain with
  | nil => cases trusted
  | cons leaf rest =>
    rw [checkServerTrusted] at trusted
    split_ifs at trusted with same
    · exact ⟨leaf, rest, rfl, same⟩
    · cases trusted

theorem exists_unpinned (platform : AndroidPlatform) (pinBytes : Option Bytes) :
    ∃ encoded, pinBytes ≠ some (platform.sha256 encoded).bytes := by
  obtain ⟨first, second, different⟩ := platform.sha256_varies
  by_contra! same
  apply different
  have bytes_eq := Option.some.inj ((same first).symm.trans (same second))
  exact FixedBytes.mk.injEq .. ▸ bytes_eq

theorem not_pinnedLeaf {pin : String} {leaf : Certificate}
    (different : parsePinnedSha256 platform (some pin) ≠
      some (platform.sha256 leaf.encoded).bytes) : ¬ PinnedLeaf platform pin [leaf] := by
  rintro ⟨_, _, chain_eq, digest_eq⟩
  cases chain_eq
  exact different digest_eq

variable {relayUrl pin : String}

theorem ownTrustManager_enforced_iff (tls : speaksTls relayUrl = true) :
    PinEnforced platform relayUrl true pin ↔
      (parsePinnedSha256 platform (some pin)).isSome = true := by
  constructor
  · intro enforced
    by_contra undecodable
    rw [Bool.not_eq_true, Option.isSome_eq_false_iff, Option.isNone_iff_eq_none] at undecodable
    have built : buildOkHttpClient platform relayUrl true (some pin) =
        .ok (clientWith (.ownTrustManager none)) := by
      rw [buildOkHttpClient, if_pos rfl, undecodable]
    have pinned := enforced _ built tls (fun _ _ => true)
      (((platform.toHttpUrlOrNull relayUrl).map HttpUrl.host).getD "") [⟨[], []⟩]
      (fun url parsed => by rw [parsed]; rfl) rfl
    exact not_pinnedLeaf (by rw [undecodable]; nofun) pinned
  · intro decodes client built _ trusts host chain _ completed
    obtain ⟨_, pinned_eq⟩ := Option.isSome_iff_exists.mp decodes
    rw [buildOkHttpClient, if_pos rfl, pinned_eq] at built
    cases built
    obtain ⟨leaf, rest, chain_eq, digest_eq⟩ := checkServerTrusted_isOk completed
    exact ⟨leaf, rest, chain_eq, by rw [pinned_eq, digest_eq]⟩

/-- A client of the platform's trust is fooled by a certificate that is not the pinned one. -/
theorem not_enforced_of_unpinned {client : OkHttpClient} (certificate : Certificate)
    (built : buildOkHttpClient platform relayUrl false (some pin) = .ok client)
    (tls : speaksTls relayUrl = true)
    (different : parsePinnedSha256 platform (some pin) ≠
      some (platform.sha256 certificate.encoded).bytes)
    (completed : ∀ host, completesHandshake platform (fun _ _ => true) client host [certificate] =
      true) : ¬ PinEnforced platform relayUrl false pin := by
  intro enforced
  refine not_pinnedLeaf different (enforced client built tls (fun _ _ => true)
    (((platform.toHttpUrlOrNull relayUrl).map HttpUrl.host).getD "") [certificate] ?_
    (completed _))
  intro url parsed
  rw [parsed]
  rfl

theorem platformTrust_enforced_iff (tls : speaksTls relayUrl = true) :
    PinEnforced platform relayUrl false pin ↔ RefusesAll platform relayUrl pin := by
  constructor
  · intro enforced
    obtain ⟨encoded, different⟩ := exists_unpinned platform (parsePinnedSha256 platform (some pin))
    have unpinned (built : buildOkHttpClient platform relayUrl false (some pin) =
        .ok (clientWith (.platformTrust none))) : False := by
      refine not_enforced_of_unpinned ⟨encoded, []⟩ built tls different ?_ enforced
      exact fun _ => rfl
    cases pin_eq : parsePinnedSha256 platform (some pin) with
    | none => exact absurd (by simp [buildOkHttpClient, pin_eq]) unpinned
    | some pinBytes =>
      cases host_eq : pinnableHost platform relayUrl with
      | none => exact absurd (by simp [buildOkHttpClient, host_eq]) unpinned
      | some host =>
        refine ⟨pinBytes, host, pin_eq, host_eq, ?_⟩
        by_contra! accepted
        obtain ⟨pattern, publicKeyInfo, key_eq⟩ := accepted
        have built : buildOkHttpClient platform relayUrl false (some pin) =
            .ok (clientWith (.platformTrust (some ⟨host, pinBytes⟩))) := by
          simp [buildOkHttpClient, pin_eq, host_eq, pattern]
        refine not_enforced_of_unpinned ⟨encoded, publicKeyInfo⟩ built tls different ?_ enforced
        intro connected
        simp [completesHandshake, clientWith, checkPin, key_eq]
  · rintro ⟨_, _, pin_eq, host_eq, refused⟩ _ built _ _ _ _ same
      completed
    simp only [buildOkHttpClient, pin_eq, host_eq, Bool.false_eq_true, if_false] at built
    split_ifs at built with pattern
    cases built
    rcases refused with refused | no_key
    · rw [pattern] at refused
      cases refused
    · obtain ⟨found, _⟩ := Option.filter_eq_some_iff.mp host_eq
      obtain ⟨url, parsed, rfl⟩ := Option.map_eq_some_iff.mp found
      have matched := platform.matchesPattern_self url.host pattern
      simp [completesHandshake, clientWith, checkPin, same url parsed, matched, no_key] at completed

theorem hexDigit_facts : ∀ code < 128, (hexDigitValue (Char.ofNat code)).isSome = true →
    (Char.ofNat code).isAlphanum = true ∧ isKotlinWhitespace (Char.ofNat code) = false ∧
      hexDigitValue (Char.ofNat code).toLower = hexDigitValue (Char.ofNat code) := by
  decide +kernel

theorem toNat_lt_of_hexDigit {symbol : Char} (digit : (hexDigitValue symbol).isSome = true) :
    symbol.toNat < 128 := by
  unfold hexDigitValue at digit
  split_ifs at digit with decimal lower upper
  · simp [Char.isDigit, UInt32.le_iff_toNat_le] at decimal
    omega
  · have bound := lower.2
    simp [Char.le_def, UInt32.le_iff_toNat_le] at bound
    omega
  · have bound := upper.2
    simp [Char.le_def, UInt32.le_iff_toNat_le] at bound
    omega
  · cases digit

theorem separator_facts {symbol : Char}
    (separator : (isAsciiWhitespace symbol || symbol == ':') = true) :
    symbol.toNat < 128 ∧ symbol.isAlphanum = false := by
  simp only [isAsciiWhitespace, List.mem_cons, List.not_mem_nil, or_false, Bool.or_eq_true,
    decide_eq_true_eq, beq_iff_eq] at separator
  rcases separator with (rfl | rfl | rfl | rfl | rfl) | rfl <;> decide

theorem hexDecode_digits {symbols : List Char} {bytes : Bytes}
    (decoded : hexDecode symbols = some bytes) :
    (∀ symbol ∈ symbols, (hexDigitValue symbol).isSome = true) ∧
      symbols.length = 2 * bytes.length := by
  fun_induction hexDecode symbols generalizing bytes with
  | case1 =>
    cases decoded
    simp
  | case2 => cases decoded
  | case3 high low rest ih =>
    simp only [Option.bind_eq_bind, Option.bind_eq_some_iff] at decoded
    obtain ⟨_, high_eq, _, low_eq, _, others_eq, bytes_eq⟩ := decoded
    cases bytes_eq
    obtain ⟨digits, length_eq⟩ := ih others_eq
    constructor
    · refine List.forall_mem_cons.mpr ⟨?_, List.forall_mem_cons.mpr ⟨?_, digits⟩⟩
      · rw [high_eq]
        rfl
      · rw [low_eq]
        rfl
    · simp only [List.length_cons, length_eq]
      omega

theorem hexDecode_map_toLower {symbols : List Char}
    (digits : ∀ symbol ∈ symbols, (hexDigitValue symbol).isSome = true) :
    hexDecode (symbols.map Char.toLower) = hexDecode symbols := by
  have same (symbol : Char) (digit : (hexDigitValue symbol).isSome = true) :
      hexDigitValue symbol.toLower = hexDigitValue symbol := by
    have facts := hexDigit_facts symbol.toNat (toNat_lt_of_hexDigit digit)
    rw [Char.ofNat_toNat] at facts
    exact (facts digit).2.2
  fun_induction hexDecode symbols with
  | case1 => rfl
  | case2 => rfl
  | case3 high low rest ih =>
    have rest_eq := ih fun symbol member => digits symbol (by simp [member])
    simp only [List.map_cons, hexDecode, same high (digits high (by simp)),
      same low (digits low (by simp)), rest_eq]

theorem kept_symbols_eq {raw : String} (digits : ∀ symbol ∈ raw.toList.filter fun symbol =>
      !isAsciiWhitespace symbol && symbol != ':', (hexDigitValue symbol).isSome = true) :
    raw.toList.filter platform.isLetterOrDigit =
      raw.toList.filter fun symbol => !isAsciiWhitespace symbol && symbol != ':' := by
  apply List.filter_congr
  intro symbol member
  by_cases separator : (isAsciiWhitespace symbol || symbol == ':') = true
  · have facts := separator_facts separator
    rw [platform.isLetterOrDigit_ascii symbol facts.1, facts.2]
    simp only [Bool.or_eq_true, beq_iff_eq] at separator
    rcases separator with white | colon
    · simp [white]
    · simp [colon]
  · have kept : (!isAsciiWhitespace symbol && symbol != ':') = true := by
      simpa using separator
    have digit := digits symbol (List.mem_filter.mpr ⟨member, kept⟩)
    have ascii := toNat_lt_of_hexDigit digit
    have facts := hexDigit_facts symbol.toNat ascii
    rw [Char.ofNat_toNat] at facts
    rw [platform.isLetterOrDigit_ascii symbol ascii, (facts digit).1, kept]

theorem parsePinnedSha256_of_rust {raw : String} {digest : FixedBytes 32}
    (accepted : parsePinnedCertSha256 (some raw) = .ok (some digest)) :
    parsePinnedSha256 platform (some raw) = some digest.bytes := by
  unfold parsePinnedCertSha256 at accepted
  dsimp only at accepted
  split_ifs at accepted with empty
  split at accepted
  · cases accepted
  · rename_i decoded
    split_ifs at accepted with size
    cases accepted
    obtain ⟨digits, length_eq⟩ := hexDecode_digits decoded
    have ascii : ∀ symbol ∈ raw.toList.filter fun symbol =>
        !isAsciiWhitespace symbol && symbol != ':', symbol.toNat < 128 :=
      fun symbol member => toNat_lt_of_hexDigit (digits symbol member)
    have not_blank : isBlank raw = false := by
      obtain ⟨symbol, _, kept_eq⟩ := List.exists_cons_of_ne_nil empty
      have kept : symbol ∈ raw.toList.filter fun symbol =>
          !isAsciiWhitespace symbol && symbol != ':' := by
        rw [kept_eq]
        exact List.mem_cons_self
      have facts := hexDigit_facts symbol.toNat (ascii symbol kept)
      rw [Char.ofNat_toNat] at facts
      rw [isBlank, List.all_eq_false]
      exact ⟨symbol, List.mem_of_mem_filter kept, by simp [(facts (digits symbol kept)).2.1]⟩
    simp only [parsePinnedSha256, not_blank, kept_symbols_eq digits,
      platform.lowercase_ascii _ ascii]
    rw [if_neg Bool.false_ne_true, if_neg, String.toList_ofList, hexDecode_map_toLower digits,
      decoded]
    rw [Bool.or_eq_true, String.isEmpty_iff, String.length_ofList, List.length_map, length_eq]
    simpa using empty

end

/-- The pin is enforced, whatever the platform trusts, if the URL has a scheme without TLS, or
self-signed certificates are allowed and the pin can be decoded, or no handshake is completed. A
pin that the Rust client accepts can be decoded and names the same certificate. -/
theorem pin_enforced_iff (platform : AndroidPlatform) (relayUrl : String)
    (allowSelfSignedTls : Bool) (pin : String) :
    (PinEnforced platform relayUrl allowSelfSignedTls pin ↔
      speaksTls relayUrl = false ∨
        (allowSelfSignedTls = true ∧ (parsePinnedSha256 platform (some pin)).isSome = true) ∨
        (allowSelfSignedTls = false ∧ RefusesAll platform relayUrl pin)) ∧
      ∀ digest, parsePinnedCertSha256 (some pin) = .ok (some digest) →
        parsePinnedSha256 platform (some pin) = some digest.bytes := by
  refine ⟨?_, fun digest => parsePinnedSha256_of_rust⟩
  cases tls : speaksTls relayUrl with
  | false =>
    refine iff_of_true ?_ (Or.inl rfl)
    intro client built speaks
    rw [tls] at speaks
    cases speaks
  | true =>
    cases allowSelfSignedTls with
    | true => simpa using ownTrustManager_enforced_iff tls
    | false => simpa using platformTrust_enforced_iff tls

/-- A platform whose digest keeps the first 32 bytes. -/
def samplePlatform : AndroidPlatform where
  sha256 bytes := ⟨(bytes ++ List.replicate 32 0).take 32, padded_size bytes⟩
  isLetterOrDigit := Char.isAlphanum
  lowercase text := String.ofList (text.toList.map Char.toLower)
  toHttpUrlOrNull url :=
    if schemeOf url = "https" then some ⟨"https", "relay.example"⟩ else none
  acceptsPattern _ := true
  matchesPattern pattern host := pattern == host
  sha256_varies := ⟨[], [1], by decide⟩
  isLetterOrDigit_ascii _ _ := rfl
  lowercase_ascii symbols _ := by rw [String.toList_ofList]
  httpUrl_scheme url parsed parsed_eq := by
    split_ifs at parsed_eq with https
    exact Or.inr https
  matchesPattern_self host _ := by simp

/-- The digest of the byte 0xAA on this platform, with colons as in a fingerprint. -/
def samplePin : String := "AA" ++ String.join (List.replicate 31 ":00")

theorem sample_pin_decoded : parsePinnedSha256 samplePlatform (some samplePin) =
    some (0xAA :: List.replicate 31 0) := by
  decide +kernel

theorem sample_pin_enforced :
    PinEnforced samplePlatform "wss://relay.example" true samplePin := by
  apply (pin_enforced_iff samplePlatform "wss://relay.example" true samplePin).1.mpr
  refine Or.inr (Or.inl ⟨rfl, ?_⟩)
  rw [sample_pin_decoded]
  rfl

/-- The pin is not enforced if its letters are no hexadecimal digits, for a WebSocket URL, and for
an HTTPS URL, where a certificate is accepted for its key. -/
theorem pin_silently_dropped :
    ¬ PinEnforced samplePlatform "wss://relay.example" true "zz" ∧
      ¬ PinEnforced samplePlatform "wss://relay.example" false samplePin ∧
      ¬ PinEnforced samplePlatform "https://relay.example" false samplePin := by
  refine ⟨?_, ?_, ?_⟩
  · rw [ownTrustManager_enforced_iff (by decide +kernel)]
    decide +kernel
  · rw [platformTrust_enforced_iff (by decide +kernel)]
    rintro ⟨_, _, _, host_eq, _⟩
    have no_host : pinnableHost samplePlatform "wss://relay.example" = none := by decide +kernel
    rw [no_host] at host_eq
    cases host_eq
  · rw [platformTrust_enforced_iff (by decide +kernel)]
    rintro ⟨_, _, pin_eq, _, refused | no_key⟩
    · cases refused
    · rw [sample_pin_decoded] at pin_eq
      exact no_key [0xAA] (Option.some.inj pin_eq)

end HandControl.RelayPinning
