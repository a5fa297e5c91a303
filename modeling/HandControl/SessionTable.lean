import Mathlib.Data.List.Infix

/-!
# The table of sessions

Names and fingerprints are measured in bytes and cut at a byte. A cut inside a symbol is a panic.
`fromNanos` is `from_unix_timestamp_nanos`, with the times that the crate has.
-/

namespace HandControl.SessionTable

def byteLength : List Char → Nat
  | [] => 0
  | symbol :: rest => symbol.utf8Size + byteLength rest

/-- The slice `[..index]`. It panics unless the index is at the end of a symbol. -/
def sliceTo (text : List Char) (index : Nat) : Option (List Char) :=
  text.inits.find? fun front => byteLength front == index

def truncate (value : List Char) (width : Nat) : Option (List Char) :=
  if byteLength value ≤ width then some value
  else if width = 0 then some []
  else if width = 1 then some ['…']
  else (sliceTo value (width - 1)).map (· ++ ['…'])

def shortFingerprint : Option (List Char) → Option (List Char)
  | some fingerprint =>
    if fingerprint = [] then some ['-']
    else if byteLength fingerprint ≤ 8 then some fingerprint
    else (sliceTo fingerprint 8).map (· ++ ['…'])
  | none => some ['-']

def durationToBrief (duration : Int) : String :=
  let seconds := duration.tdiv 1000000000
  if seconds ≤ 0 then "0s"
  else
    let part (count : Int) (unit : String) := if 0 < count then [toString count ++ unit] else []
    let parts := part (seconds / 86400) "d" ++ part (seconds % 86400 / 3600) "h"
    -- minutes that are not shown stay in the seconds, which are not shown either then
    let parts := parts ++ if parts.length < 2 then part (seconds % 3600 / 60) "m" else []
    let parts := parts ++ if parts.length < 2 then part (seconds % 60) "s" else []
    " ".intercalate parts

section

variable (fromNanos : Int → Option Int)

def timestampToDatetime (ms : Int) : Option Int := fromNanos (ms * 1000000)

def formatAge (now ms : Int) : String :=
  match timestampToDatetime fromNanos ms with
  | some created => if created ≤ now then durationToBrief (now - created) else "0s"
  | none => "n/a"

def formatSince (now ms : Int) : String :=
  match timestampToDatetime fromNanos ms with
  | some timestamp =>
    if timestamp ≤ now then durationToBrief (now - timestamp) ++ " ago" else "in future"
  | none => "n/a"

end

inductive CommandSessionMode where
  | oneShot | realtime | upload | download | unknown

def CommandSessionMode.debugText : CommandSessionMode → String
  | .oneShot => "OneShot"
  | .realtime => "Realtime"
  | .upload => "Upload"
  | .download => "Download"
  | .unknown => "Unknown"

structure ServerSessionInfo where
  sessionId : List Char
  capabilityId : List Char
  capabilityName : List Char
  sessionMode : CommandSessionMode
  ownerFingerprint : Option (List Char)
  createdAtMs : Int
  lastActivityMs : Int
  attached : Bool

def capabilityDisplay (info : ServerSessionInfo) : List Char :=
  if info.capabilityName = [] then info.capabilityId else info.capabilityName

def tableRow (sessionId capability mode attached owner age last : List Char) : List Char :=
  [' ', ' '].intercalate [sessionId.rightpad 36 ' ', capability.rightpad 24 ' ',
    mode.rightpad 8 ' ', attached.rightpad 7 ' ', owner.rightpad 10 ' ', age.rightpad 12 ' ', last]

variable (fromNanos : Int → Option Int) (clock : Nat → Int)

/-- The clock is read twice for a row. -/
def sessionRow (reading : Nat) (info : ServerSessionInfo) : Option (List Char) := do
  let capability ← truncate (capabilityDisplay info) 24
  let owner ← shortFingerprint info.ownerFingerprint
  return tableRow info.sessionId capability info.sessionMode.debugText.toList
    (if info.attached then "yes" else "no").toList owner
    (formatAge fromNanos (clock reading) info.createdAtMs).toList
    (formatSince fromNanos (clock (reading + 1)) info.lastActivityMs).toList

def sessionRows (reading : Nat) : List ServerSessionInfo → Option (List (List Char))
  | [] => some []
  | info :: rest => do
    let row ← sessionRow fromNanos clock reading info
    let rows ← sessionRows (reading + 2) rest
    return row :: rows

def printSessionsTable (sessions : List ServerSessionInfo) : Option (List (List Char)) :=
  if sessions = [] then some ["No active sessions.".toList]
  else (sessionRows fromNanos clock 0 sessions).map fun rows =>
    tableRow "Session ID".toList "Capability".toList "Mode".toList "Attached".toList
      "Owner".toList "Age".toList "Last Activity".toList :: rows

/-- The text is short enough, or it is cut between two symbols. -/
def Cuttable (text : List Char) (limit index : Nat) : Prop :=
  byteLength text ≤ limit ∨ ∃ front, front <+: text ∧ byteLength front = index

def Printable (info : ServerSessionInfo) : Prop :=
  Cuttable (capabilityDisplay info) 24 23 ∧
    ∀ owner, info.ownerFingerprint = some owner → Cuttable owner 8 8

def TruncatesTo (value : List Char) (width : Nat) : Prop :=
  ∃ shown, truncate value width = some shown ∧
    (shown = value ∨ ∃ front, front <+: value ∧ shown = front ++ ['…']) ∧ shown.length ≤ width

theorem length_le_byteLength (text : List Char) : text.length ≤ byteLength text := by
  induction text with
  | nil => exact Nat.le_refl 0
  | cons symbol rest induction =>
    have positive := symbol.utf8Size_pos
    rw [List.length_cons, byteLength]
    omega

theorem isSome_sliceTo_iff {text : List Char} {index : Nat} :
    (sliceTo text index).isSome ↔ ∃ front, front <+: text ∧ byteLength front = index := by
  simp [sliceTo, List.find?_isSome]

theorem truncate_wide (value : List Char) (width : Nat) :
    truncate value (width + 2) =
      if byteLength value ≤ width + 2 then some value
      else (sliceTo value (width + 1)).map (· ++ ['…']) := by
  simp [truncate]

theorem isSome_truncate_iff (value : List Char) (width : Nat) :
    (truncate value (width + 2)).isSome ↔ Cuttable value (width + 2) (width + 1) := by
  rw [truncate_wide, Cuttable, ← isSome_sliceTo_iff]
  split_ifs with short <;> simp [short]

theorem isSome_shortFingerprint_iff (fingerprint : Option (List Char)) :
    (shortFingerprint fingerprint).isSome ↔
      ∀ owner, fingerprint = some owner → Cuttable owner 8 8 := by
  cases fingerprint with
  | none => simp [shortFingerprint]
  | some =>
    simp only [Option.some_inj, forall_eq', shortFingerprint, Cuttable, ← isSome_sliceTo_iff]
    split_ifs with empty short
    · simp [empty, byteLength]
    · simp [short]
    · simp [short]

theorem isSome_sessionRows_iff (reading : Nat) (sessions : List ServerSessionInfo) :
    (sessionRows fromNanos clock reading sessions).isSome ↔ ∀ info ∈ sessions, Printable info := by
  induction sessions generalizing reading with
  | nil => simp [sessionRows]
  | cons info rest induction =>
    have row : (sessionRow fromNanos clock reading info).isSome ↔ Printable info := by
      rw [Printable, ← isSome_truncate_iff, ← isSome_shortFingerprint_iff, sessionRow]
      cases truncate (capabilityDisplay info) 24 <;> cases shortFingerprint _ <;> simp
    rw [List.forall_mem_cons, ← row, ← induction (reading + 2), sessionRows]
    cases sessionRow fromNanos clock reading info <;>
      cases sessionRows fromNanos clock (reading + 2) rest <;> simp

theorem truncatesTo_iff (value : List Char) (width : Nat) :
    TruncatesTo value (width + 2) ↔ Cuttable value (width + 2) (width + 1) := by
  rw [← isSome_truncate_iff, Option.isSome_iff_exists]
  constructor
  · rintro ⟨shown, shown_eq, _⟩
    exact ⟨shown, shown_eq⟩
  · rintro ⟨shown, shown_eq⟩
    refine ⟨shown, shown_eq, ?_⟩
    rw [truncate_wide] at shown_eq
    split_ifs at shown_eq with short
    · cases shown_eq
      exact ⟨.inl rfl, (length_le_byteLength value).trans short⟩
    · obtain ⟨front, sliced, rfl⟩ := Option.map_eq_some_iff.mp shown_eq
      have begins := (List.mem_inits front value).mp (List.mem_of_find?_eq_some sliced)
      have size : byteLength front = width + 1 := by simpa using List.find?_some sliced
      have bound := length_le_byteLength front
      refine ⟨.inr ⟨front, begins, rfl⟩, ?_⟩
      rw [List.length_append, List.length_singleton]
      omega

/-- The table is printed exactly if every long name and fingerprint is cut between two symbols. -/
theorem sessions_printed_iff (sessions : List ServerSessionInfo) (value : List Char)
    (width : Nat) :
    ((printSessionsTable fromNanos clock sessions).isSome ↔ ∀ info ∈ sessions, Printable info) ∧
      (TruncatesTo value (width + 2) ↔ Cuttable value (width + 2) (width + 1)) := by
  refine ⟨?_, truncatesTo_iff value width⟩
  rw [← isSome_sessionRows_iff fromNanos clock 0, printSessionsTable]
  split_ifs with empty
  · simp [empty, sessionRows]
  · rw [Option.isSome_map]

def accentedName : List Char := List.replicate 13 'é'

def accentedSession : ServerSessionInfo :=
  ⟨[], [], accentedName, .realtime, none, 0, 0, true⟩

theorem accented_name_panics :
    printSessionsTable some (fun _ => 0) [accentedSession] = none ∧
      ¬ TruncatesTo accentedName 24 := by
  refine ⟨by decide, ?_⟩
  rintro ⟨_, shown_eq, _⟩
  rw [show truncate accentedName 24 = none by decide] at shown_eq
  cases shown_eq

end HandControl.SessionTable
