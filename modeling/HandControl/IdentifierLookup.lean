import HandControl.PinnedConnection

/-!
# Identifiers on the command line

How the command line client finds the enrolled server and the session that an argument names. The
reader of UUIDs is a parameter.
-/

namespace HandControl.IdentifierLookup

open ByteEncoding PinnedConnection StandardText

def lowercased (text : String) : List Char := text.toList.map Char.toLower

/-- The identifier begins the id's text, or without dashes the text without dashes. -/
def beginsId (identifier canonical simple : String) : Bool :=
  let normalized := lowercased identifier
  let compact := normalized.filter (· ≠ '-')
  normalized.isPrefixOf (lowercased canonical) ||
    (compact ≠ [] && compact.isPrefixOf (lowercased simple))

theorem filter_eq_singleton_iff {Value : Type} {values : List Value} {accepts : Value → Bool}
    {value : Value} (distinct : values.Nodup) :
    values.filter accepts = [value] ↔
      value ∈ values ∧ accepts value = true ∧
        ∀ other ∈ values, accepts other = true → other = value := by
  constructor
  · intro only
    have members : ∀ other, other ∈ values.filter accepts ↔ other = value := by simp [only]
    simp only [List.mem_filter] at members
    have chosen := (members value).mpr rfl
    exact ⟨chosen.1, chosen.2, fun other inside accepted => (members other).mp ⟨inside, accepted⟩⟩
  · rintro ⟨inside, accepted, only⟩
    apply List.perm_singleton.mp
    apply (List.perm_ext_iff_of_nodup (distinct.filter _) (List.nodup_singleton _)).mpr
    intro other
    simp only [List.mem_filter, List.mem_singleton]
    constructor
    · exact fun member => only other member.1 member.2
    · rintro rfl
      exact ⟨inside, accepted⟩

inductive LookupError where
  | ambiguous (identifier : String) (candidates : List Uuid)
  | notEnrolled (identifier : String)
  deriving DecidableEq

def LookupError.message : LookupError → String
  | .ambiguous identifier candidates =>
    s!"Server identifier '{identifier}' is ambiguous. Matching IDs: " ++
      ", ".intercalate (candidates.map Uuid.text)
  | .notEnrolled identifier =>
    s!"Server '{identifier}' is not enrolled. Run 'handcontrol-cli enroll' to register it first."

def isNamed (identifier : String) (entry : ServerRegistryEntry) : Bool :=
  (entry.hostname.map fun host => eqIgnoreAsciiCase host identifier).getD false ||
    (entry.ip.map fun ip => eqIgnoreAsciiCase ip identifier).getD false ||
      entry.addresses.any fun address => eqIgnoreAsciiCase address identifier

def hasPrefix (identifier : String) (entry : ServerRegistryEntry) : Bool :=
  lowercased identifier ≠ [] &&
    beginsId identifier entry.id.text (String.ofList (hexEncode entry.id.bytes))

section

variable (parseStr : String → Option Uuid) (identifier : String)
  (registry : List ServerRegistryEntry)

/-- The only match, or the error for none or several. -/
def answer : List ServerRegistryEntry → Except LookupError ServerRegistryEntry
  | [] => .error (.notEnrolled identifier)
  | [entry] => .ok entry
  | several => .error (.ambiguous identifier (several.map fun entry => entry.id))

def findEnrolledServer : Except LookupError ServerRegistryEntry :=
  match (parseStr identifier).bind (findById registry) with
  | some entry => .ok entry
  | none =>
    match registry.find? (isNamed identifier) with
    | some entry => .ok entry
    | none => answer identifier (registry.filter (hasPrefix identifier))

def hasId (entry : ServerRegistryEntry) : Bool := parseStr identifier = some entry.id

/-- The entries of the first class in which any entry matches. -/
def firstClass : List ServerRegistryEntry :=
  if registry.filter (hasId parseStr identifier) ≠ [] then
    registry.filter (hasId parseStr identifier)
  else if registry.filter (isNamed identifier) ≠ [] then registry.filter (isNamed identifier)
  else registry.filter (hasPrefix identifier)

/-- The same entry, or the same error up to the order of the candidates. -/
inductive SameAnswer : Except LookupError ServerRegistryEntry →
    Except LookupError ServerRegistryEntry → Prop
  | found (entry : ServerRegistryEntry) : SameAnswer (.ok entry) (.ok entry)
  | ambiguous {candidates others : List Uuid} (same : candidates.Perm others) :
      SameAnswer (.error (.ambiguous identifier candidates)) (.error (.ambiguous identifier others))
  | notEnrolled : SameAnswer (.error (.notEnrolled identifier)) (.error (.notEnrolled identifier))

/-- In every order of the entries, what comes back is the only match in the first class with a
match, or the error for several or no matches. -/
def Unambiguous : Prop :=
  ∀ listed, listed.Perm registry →
    SameAnswer identifier (findEnrolledServer parseStr identifier listed)
      (answer identifier (firstClass parseStr identifier registry))

/-- Unless an entry has the id, the identifier is the name or an address of one entry at most. -/
def NamedOnce : Prop :=
  (∃ entry ∈ registry, hasId parseStr identifier entry = true) ∨
    (registry.filter (isNamed identifier)).length ≤ 1

end

variable {parseStr : String → Option Uuid} {identifier : String}
  {registry : List ServerRegistryEntry}

theorem findById_parsed :
    (parseStr identifier).bind (findById registry) =
      (registry.filter (hasId parseStr identifier)).head? := by
  rw [List.head?_filter]
  cases parsed : parseStr identifier with
  | none =>
    symm
    simp [hasId, parsed]
  | some id =>
    have same : hasId parseStr identifier = fun entry => decide (entry.id = id) := by
      funext entry
      simp [hasId, parsed, eq_comm]
    rw [same]
    rfl

/-- With one match at most in a class, the first match is the answer of the class. -/
theorem findEnrolledServer_eq_answer (distinct : (registry.map fun entry => entry.id).Nodup)
    (once : NamedOnce parseStr identifier registry) :
    findEnrolledServer parseStr identifier registry =
      answer identifier (firstClass parseStr identifier registry) := by
  have accepted : ∀ entry ∈ registry.filter (hasId parseStr identifier),
      parseStr identifier = some entry.id := by simp [hasId]
  have kept := distinct.sublist ((registry.filter_sublist (p := hasId parseStr identifier)).map _)
  rw [findEnrolledServer, findById_parsed, ← List.head?_filter, firstClass]
  match found : registry.filter (hasId parseStr identifier) with
  | [entry] => simp [answer]
  | first :: second :: rest =>
    rw [found] at kept accepted
    have same := (accepted first (by simp)).symm.trans (accepted second (by simp))
    simp [Option.some.inj same] at kept
  | [] =>
    have named_one : (registry.filter (isNamed identifier)).length ≤ 1 := by
      refine once.resolve_left ?_
      rintro ⟨_, member, accepted⟩
      have inside := List.mem_filter.mpr ⟨member, accepted⟩
      simp [found] at inside
    match named : registry.filter (isNamed identifier) with
    | [entry] => simp [answer]
    | _ :: _ :: _ => simp [named] at named_one
    | [] => rfl

theorem firstClass_perm {other : List ServerRegistryEntry} (same : other.Perm registry) :
    (firstClass parseStr identifier other).Perm (firstClass parseStr identifier registry) := by
  have empty : ∀ accepts, other.filter accepts = [] ↔ registry.filter accepts = [] := by
    intro accepts
    rw [← List.length_eq_zero_iff, (same.filter accepts).length_eq, List.length_eq_zero_iff]
  simp only [firstClass, ne_eq, empty]
  split
  · exact same.filter _
  · split
    · exact same.filter _
    · exact same.filter _

theorem sameAnswer_of_perm {found other : List ServerRegistryEntry} (same : other.Perm found) :
    SameAnswer identifier (answer identifier other) (answer identifier found) := by
  match found, other, same.length_eq with
  | [], [], _ => exact .notEnrolled
  | [entry], [_], _ =>
    cases List.perm_singleton.mp same
    exact .found entry
  | _ :: _ :: _, _ :: _ :: _, _ => exact .ambiguous (same.map _)

theorem lookup_unambiguous_iff (parseStr : String → Option Uuid) (identifier : String)
    (registry : List ServerRegistryEntry) (distinct : (registry.map fun entry => entry.id).Nodup) :
    Unambiguous parseStr identifier registry ↔ NamedOnce parseStr identifier registry := by
  constructor
  · intro unambiguous
    by_contra twice
    simp only [NamedOnce, not_or, not_exists, not_and, not_le] at twice
    have no_id : registry.filter (hasId parseStr identifier) = [] := by
      simpa [List.filter_eq_nil_iff] using twice.1
    match named : registry.filter (isNamed identifier), twice.2 with
    | first :: second :: rest, _ =>
      have same := unambiguous registry (.refl registry)
      simp [findEnrolledServer, findById_parsed, no_id, ← List.head?_filter, named, firstClass,
        answer] at same
      cases same
  · intro once listed order
    have once_listed : NamedOnce parseStr identifier listed := by
      simpa only [NamedOnce, order.mem_iff, (order.filter _).length_eq] using once
    have distinct_listed := (order.map fun entry => entry.id).nodup_iff.mpr distinct
    rw [findEnrolledServer_eq_answer distinct_listed once_listed]
    exact sameAnswer_of_perm (firstClass_perm order)

def hostEntry (byte : UInt8) : ServerRegistryEntry where
  id := ⟨List.replicate 16 byte, repeated_size byte⟩
  hostname := some "desk"
  ip := none
  port := none
  clientId := none
  addresses := []
  relay := none

theorem single_host_found :
    Unambiguous (fun _ => none) "DESK"
      [{ hostEntry 1 with hostname := some "lamp" }, hostEntry 0] := by
  refine (lookup_unambiguous_iff _ _ _ ?_).mpr ?_
  · decide
  · exact .inr (by decide)

theorem shared_host_not_refused :
    ([hostEntry 0, hostEntry 1].map fun entry => entry.id).Nodup ∧
      ¬ Unambiguous (fun _ => none) "desk" [hostEntry 0, hostEntry 1] := by
  refine ⟨by decide, fun unambiguous => ?_⟩
  cases unambiguous _ (.refl _)

structure ServerSessionInfo where
  sessionId : String

section

variable (serverId : Uuid) (identifier : String)

def isExact (session : ServerSessionInfo) : Bool :=
  eqIgnoreAsciiCase session.sessionId identifier

def beginsSession (session : ServerSessionInfo) : Bool :=
  beginsId identifier session.sessionId (String.ofList (session.sessionId.toList.filter (· ≠ '-')))

/-- The loop over the listed sessions; an exact match ends it. -/
def collectMatches : List ServerSessionInfo → List ServerSessionInfo → List ServerSessionInfo
  | infoMatches, [] => infoMatches
  | infoMatches, session :: rest =>
    if isExact identifier session then [session]
    else if lowercased identifier = [] then collectMatches infoMatches rest
    else if beginsSession identifier session then collectMatches (infoMatches ++ [session]) rest
    else collectMatches infoMatches rest

def selectSession (sessions : List ServerSessionInfo) : Except String ServerSessionInfo :=
  match collectMatches identifier [] sessions with
  | [] => .error s!"Session '{identifier}' not found on server {serverId.text}"
  | [info] => .ok info
  | candidates => .error
      (s!"Session identifier '{identifier}' is ambiguous on server {serverId.text}; matches: " ++
        ", ".intercalate (candidates.map fun session => session.sessionId))

/-- Up to case the identifier begins the text, or without dashes the text without dashes. -/
def Begins (text : String) : Prop :=
  lowercased identifier <+: lowercased text ∨
    (lowercased identifier).filter (· ≠ '-') ≠ [] ∧
      (lowercased identifier).filter (· ≠ '-') <+:
        (text.toList.filter (· ≠ '-')).map Char.toLower

/-- The session with the id, or the only one whose id the identifier begins. -/
def Selected (sessions : List ServerSessionInfo) (session : ServerSessionInfo) : Prop :=
  session ∈ sessions ∧
    (eqIgnoreAsciiCase session.sessionId identifier = true ∨
      (∀ other ∈ sessions, eqIgnoreAsciiCase other.sessionId identifier = false) ∧
        Begins identifier session.sessionId ∧
          ∀ other ∈ sessions, Begins identifier other.sessionId → other = session)

end

theorem beginsSession_iff {session : ServerSessionInfo} :
    beginsSession identifier session = true ↔ Begins identifier session.sessionId := by
  simp [beginsSession, beginsId, Begins, lowercased]

theorem collectMatches_eq (nonempty : identifier ≠ "") (sessions infoMatches : List _) :
    collectMatches identifier infoMatches sessions =
      match sessions.find? (isExact identifier) with
      | some session => [session]
      | none => infoMatches ++ sessions.filter (beginsSession identifier) := by
  have filled : lowercased identifier ≠ [] := by simpa [lowercased] using nonempty
  induction sessions generalizing infoMatches with
  | nil => simp [collectMatches]
  | cons session rest induction =>
    rw [collectMatches, if_neg filled]
    by_cases same : isExact identifier session
    · simp [same]
    · by_cases begins : beginsSession identifier session
      · simp [same, begins, induction]
      · simp [same, begins, induction]

theorem selectSession_eq_ok_iff {serverId : Uuid} {sessions : List ServerSessionInfo}
    {session : ServerSessionInfo} :
    selectSession serverId identifier sessions = .ok session ↔
      collectMatches identifier [] sessions = [session] := by
  unfold selectSession
  split <;> simp_all

theorem session_selected_iff (serverId : Uuid) (identifier : String) (nonempty : identifier ≠ "")
    (sessions : List ServerSessionInfo)
    (distinct : (sessions.map fun session => lowercased session.sessionId).Nodup)
    (listed : List ServerSessionInfo) (order : listed.Perm sessions)
    (session : ServerSessionInfo) :
    selectSession serverId identifier listed = .ok session ↔
      Selected identifier sessions session := by
  have differ := List.inj_on_of_nodup_map distinct
  have nodup := List.Nodup.of_map _ distinct
  rw [selectSession_eq_ok_iff, collectMatches_eq nonempty]
  simp only [Selected, ← order.mem_iff]
  cases found : listed.find? (isExact identifier) with
  | some first =>
    have first_exact := List.find?_some found
    have first_mem := List.mem_of_find?_eq_some found
    constructor
    · rintro ⟨⟩
      exact ⟨first_mem, .inl first_exact⟩
    · rintro ⟨member, same | ⟨none, -⟩⟩
      · simp only [isExact, eqIgnoreAsciiCase, beq_iff_eq] at first_exact same
        rw [differ (order.mem_iff.mp first_mem) (order.mem_iff.mp member)
          (first_exact.trans same.symm)]
      · exact absurd first_exact (Bool.eq_false_iff.mp (none first first_mem))
  | none =>
    have none_exact : ∀ other ∈ listed, isExact identifier other = false := by
      simpa using found
    rw [List.nil_append, filter_eq_singleton_iff (order.nodup_iff.mpr nodup)]
    simp only [beginsSession_iff]
    constructor
    · rintro ⟨member, chosen⟩
      exact ⟨member, .inr ⟨none_exact, chosen⟩⟩
    · rintro ⟨member, same | ⟨-, chosen⟩⟩
      · exact absurd same (Bool.eq_false_iff.mp (none_exact session member))
      · exact ⟨member, chosen⟩

theorem begun_session_selected :
    selectSession (hostEntry 0).id "a-1" [⟨"B2"⟩, ⟨"A12"⟩] = .ok ⟨"A12"⟩ ∧
      selectSession (hostEntry 0).id "a1" [⟨"A12"⟩, ⟨"A1"⟩] = .ok ⟨"A1"⟩ := by
  constructor
  · refine (session_selected_iff _ _ (by decide) [⟨"A12"⟩, ⟨"B2"⟩] (by decide) _
      (List.Perm.swap _ _ _) _).mpr ⟨by simp, .inr ⟨by decide, .inr (by decide), ?_⟩⟩
    intro other member begins
    rcases List.mem_pair.mp member with rfl | rfl
    · rfl
    · rw [← beginsSession_iff] at begins
      exact absurd begins (by decide)
  · exact (session_selected_iff _ _ (by decide) _ (by decide) _ (.refl _) _).mpr
      ⟨by simp, .inl (by decide)⟩

end HandControl.IdentifierLookup
