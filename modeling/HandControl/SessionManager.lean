import HandControl.SessionResume

/-!
# The session manager

The map of all sessions and the calls of the manager, each atomic under the mutex of its session.
The identifier of an attachment is kept beside the state of the session.
-/

namespace HandControl.SessionManager

open KeyedTable CapabilityParameters CapabilitySessions SessionResume

/-- A session in the map, with the task that serves it and the channel from the capability to this
task. The task removes the entry when it ends. -/
structure SessionEntry where
  capabilityId : String
  capabilityName : String
  sessionMode : CapabilitySessionMode
  ownerFingerprint : Option String
  state : SessionState
  attachmentId : Option Nat
  eventLoop : LoopPhase
  events : List SessionServerEvent

abbrev Sessions := Table String SessionEntry

/-- `SessionManager::open_session` after the capability was started. -/
def newEntry (capabilityId capabilityName : String) (sessionMode : CapabilitySessionMode)
    (ownerFingerprint : Option String) (freshToken : String) : SessionEntry where
  capabilityId := capabilityId
  capabilityName := capabilityName
  sessionMode := sessionMode
  ownerFingerprint := ownerFingerprint
  state := SessionState.new defaultOutputBufferCapacity freshToken
  attachmentId := none
  eventLoop := .receiving
  events := []

def withSessionState {Value : Type} (sessions : Sessions) (sessionId : String)
    (op : SessionEntry → Except SessionManagerError (Value × SessionEntry)) :
    Except SessionManagerError (Value × Sessions) :=
  match sessions.lookup sessionId with
  | none => .error .notFound
  | some entry =>
    match op entry with
    | .error err => .error err
    | .ok (value, changed) => .ok (value, sessions.insert sessionId changed)

def attach (sessions : Sessions) (sessionId : String) (attachmentId : Nat)
    (clientFingerprint : Option String) :
    Except SessionManagerError (AttachmentState × Sessions) :=
  withSessionState sessions sessionId fun entry =>
    match entry.state.tryAttach clientFingerprint with
    | .error err => .error err
    | .ok (attachment, state) =>
      .ok (attachment, { entry with state := state, attachmentId := some attachmentId })

/-- The session is named, not the attachment. -/
def detach (sessions : Sessions) (sessionId : String) :
    Except SessionManagerError (AttachmentState × Sessions) :=
  withSessionState sessions sessionId fun entry =>
    match entry.state.tryDetach with
    | .error err => .error err
    | .ok (attachment, state) =>
      .ok (attachment, { entry with state := state, attachmentId := none })

/-- The owner of the session is not looked at. -/
def attachWithToken (sessions : Sessions) (sessionId : String) (attachmentId : Nat)
    (clientFingerprint : Option String) (resumeToken freshToken : String) :
    Except SessionManagerError ((AttachmentState × String) × Sessions) :=
  withSessionState sessions sessionId fun entry =>
    match entry.state.attachWithToken clientFingerprint resumeToken freshToken with
    | .error err => .error err
    | .ok (granted, state) =>
      .ok (granted, { entry with state := state, attachmentId := some attachmentId })

def bufferedOutputSince (sessions : Sessions) (sessionId : String)
    (lastStdoutSequence lastStderrSequence : Option Nat) :
    Except SessionManagerError (List BufferedOutput) :=
  match sessions.lookup sessionId with
  | none => .error .notFound
  | some entry => .ok (entry.state.outputsSince lastStdoutSequence lastStderrSequence)

structure SessionInfo where
  sessionId : String
  capabilityId : String
  capabilityName : String
  sessionMode : CapabilitySessionMode
  ownerFingerprint : Option String
  attached : Bool
  resumeToken : String
  stdoutNextSequence : Nat
  stderrNextSequence : Nat
  bufferLen : Nat

def sessionSnapshotToProto (sessionId : String) (entry : SessionEntry) : SessionInfo where
  sessionId := sessionId
  capabilityId := entry.capabilityId
  capabilityName := entry.capabilityName
  sessionMode := entry.sessionMode
  ownerFingerprint := entry.ownerFingerprint
  attached := entry.state.attachment.isSome
  resumeToken := entry.state.resumeToken
  stdoutNextSequence := entry.state.stdoutNextSequence
  stderrNextSequence := entry.state.stderrNextSequence
  bufferLen := min entry.state.outputBuffer.length (2 ^ 32 - 1)

def listSessions (sessions : Sessions) : List SessionInfo :=
  sessions.entries.map fun item => sessionSnapshotToProto item.1 item.2

variable {attachment : AttachmentState} {resumeToken freshToken : String}

section

variable {sessions after : Sessions} {sessionId : String} {attachmentId : Nat}
variable {clientFingerprint : Option String}

theorem withSessionState_ok {Value : Type} {value : Value}
    {op : SessionEntry → Except SessionManagerError (Value × SessionEntry)}
    (accepted : withSessionState sessions sessionId op = .ok (value, after)) :
    ∃ entry changed, sessions.lookup sessionId = some entry ∧ op entry = .ok (value, changed) ∧
      after = sessions.insert sessionId changed := by
  unfold withSessionState at accepted
  split at accepted
  · cases accepted
  · rename_i entry entry_eq
    split at accepted
    · cases accepted
    · rename_i changed op_eq
      cases accepted
      exact ⟨entry, changed, entry_eq, op_eq, rfl⟩

def SessionEntry.attachedBy (entry : SessionEntry) (clientFingerprint : Option String)
    (attachmentId : Nat) : SessionEntry :=
  { entry with
    state := { entry.state with attachment := some ⟨clientFingerprint⟩ }
    attachmentId := some attachmentId }

theorem attach_ok (accepted : attach sessions sessionId attachmentId clientFingerprint =
      .ok (attachment, after)) :
    ∃ entry, sessions.lookup sessionId = some entry ∧ entry.state.attachment = none ∧
      attachment = ⟨clientFingerprint⟩ ∧
      after = sessions.insert sessionId (entry.attachedBy clientFingerprint attachmentId) := by
  obtain ⟨entry, _, entry_eq, op_eq, after_eq⟩ := withSessionState_ok accepted
  unfold SessionState.tryAttach at op_eq
  split at op_eq
  · cases op_eq
  · rename_i attached_eq
    split at attached_eq
    · cases attached_eq
    · rename_i free
      cases attached_eq
      cases op_eq
      refine ⟨entry, entry_eq, ?_, rfl, after_eq⟩
      simpa using free

def SessionEntry.resumedBy (entry : SessionEntry) (clientFingerprint : Option String)
    (attachmentId : Nat) (freshToken : String) : SessionEntry :=
  { entry with
    state := { entry.state with
      attachment := some ⟨clientFingerprint⟩
      resumeToken := freshToken }
    attachmentId := some attachmentId }

theorem attachWithToken_ok {granted : AttachmentState × String}
    (accepted : attachWithToken sessions sessionId attachmentId clientFingerprint resumeToken
      freshToken = .ok (granted, after)) :
    ∃ entry, sessions.lookup sessionId = some entry ∧ entry.state.attachment = none ∧
      entry.state.resumeToken = resumeToken ∧ granted = (⟨clientFingerprint⟩, freshToken) ∧
      after = sessions.insert sessionId
        (entry.resumedBy clientFingerprint attachmentId freshToken) := by
  obtain ⟨entry, _, entry_eq, op_eq, after_eq⟩ := withSessionState_ok accepted
  unfold SessionState.attachWithToken at op_eq
  split at op_eq
  · cases op_eq
  · rename_i granted_eq
    split at granted_eq
    · rename_i valid
      unfold SessionState.tryAttach at granted_eq
      split at granted_eq
      · cases granted_eq
      · rename_i attached_eq
        split at attached_eq
        · cases attached_eq
        · rename_i free
          cases attached_eq
          cases granted_eq
          cases op_eq
          refine ⟨entry, entry_eq, by simpa using free, ?_, rfl, after_eq⟩
          simpa [SessionState.validateResumeToken] using valid
    · cases granted_eq

def SessionEntry.released (entry : SessionEntry) : SessionEntry :=
  { entry with state := { entry.state with attachment := none }, attachmentId := none }

theorem detach_ok (accepted : detach sessions sessionId = .ok (attachment, after)) :
    ∃ entry, sessions.lookup sessionId = some entry ∧
      entry.state.attachment = some attachment ∧
      after = sessions.insert sessionId entry.released := by
  obtain ⟨entry, _, entry_eq, op_eq, after_eq⟩ := withSessionState_ok accepted
  unfold SessionState.tryDetach at op_eq
  split at op_eq
  · cases op_eq
  · rename_i detached_eq
    split at detached_eq
    · rename_i held_eq
      cases detached_eq
      cases op_eq
      exact ⟨entry, entry_eq, held_eq, after_eq⟩
    · cases detached_eq

theorem detach_error {err : SessionManagerError}
    (refused : detach sessions sessionId = .error err) :
    ∀ entry, sessions.lookup sessionId = some entry → entry.state.attachment = none := by
  intro entry entry_eq
  unfold detach withSessionState SessionState.tryDetach at refused
  simp only [entry_eq] at refused
  cases held : entry.state.attachment with
  | none => rfl
  | some => simp [held] at refused

end

theorem recordServerEvent_keeps (state : SessionState) (event : SessionServerEvent) :
    (state.recordServerEvent event).2.attachment = state.attachment ∧
      (state.recordServerEvent event).2.resumeToken = state.resumeToken := by
  cases event with
  | output _ stderr => cases stderr <;> exact ⟨rfl, rfl⟩
  | _ => exact ⟨rfl, rfl⟩

theorem mem_listSessions {sessions : Sessions} {info : SessionInfo}
    (listed : info ∈ listSessions sessions) :
    ∃ sessionId entry, sessions.lookup sessionId = some entry ∧
      info = sessionSnapshotToProto sessionId entry := by
  obtain ⟨item, item_in, info_eq⟩ := List.mem_map.mp listed
  refine ⟨item.1, item.2, ?_, info_eq.symm⟩
  exact AList.mem_lookup_iff.mpr item_in

end HandControl.SessionManager
