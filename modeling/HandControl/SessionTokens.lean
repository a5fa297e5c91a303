import HandControl.InPlaceCalls
import HandControl.RotatingTokens
import HandControl.SessionManager

/-!
# Resume tokens over any sequence of manager calls

The manager changes a session in place behind its mutex, so a call that fails could leave part of
its work behind. The calls are written here in that form and agree with the ones of
`SessionManager`. A resume token is accepted at most once, whatever else is called.
-/

namespace HandControl.SessionTokens

open KeyedTable CapabilityParameters CapabilitySessions InPlaceCalls RotatingTokens SessionManager
open TransitionRuns

abbrev OnEntry := Call SessionManagerError SessionEntry

def tryAttachInPlace (clientFingerprint : Option String) (attachmentId : Nat) :
    OnEntry AttachmentState := do
  let entry ← get
  if entry.state.attachment.isSome then throw .alreadyAttached
  else
    let attachment : AttachmentState := { clientFingerprint := clientFingerprint }
    set { entry with
      state := { entry.state with attachment := some attachment }
      attachmentId := some attachmentId }
    return attachment

/-- `take` empties the slot before it is known whether somebody was attached. The identifier
belongs to what is taken. -/
def tryDetachInPlace : OnEntry AttachmentState := do
  let entry ← get
  set { entry with state := { entry.state with attachment := none } }
  match entry.state.attachment with
  | some attachment =>
    modify fun emptied => { emptied with attachmentId := none }
    return attachment
  | none => throw .notAttached

def rotateInPlace (freshToken : String) : OnEntry String := do
  modify fun entry => { entry with state := { entry.state with resumeToken := freshToken } }
  return freshToken

def attachWithTokenInPlace (clientFingerprint : Option String) (attachmentId : Nat)
    (resumeToken freshToken : String) : OnEntry (AttachmentState × String) := do
  let entry ← get
  if entry.state.validateResumeToken resumeToken = false then throw .invalidResumeToken
  else
    let attachment ← tryAttachInPlace clientFingerprint attachmentId
    let nextToken ← rotateInPlace freshToken
    return (attachment, nextToken)

def recordInPlace (event : SessionServerEvent) : OnEntry (Option BufferedOutput) := do
  let entry ← get
  let recorded := entry.state.recordServerEvent event
  set { entry with state := recorded.2 }
  return recorded.1

def withSessionStateInPlace {Value : Type} (sessions : Sessions) (sessionId : String)
    (op : OnEntry Value) : Except SessionManagerError Value × Sessions :=
  match sessions.lookup sessionId with
  | none => (.error .notFound, sessions)
  | some entry =>
    let executed := execute op entry
    (executed.1, sessions.insert sessionId executed.2)

inductive ManagerCall where
  | openSession (sessionId capabilityId capabilityName : String)
      (sessionMode : CapabilitySessionMode) (ownerFingerprint : Option String)
      (freshToken : String)
  | attach (sessionId : String) (attachmentId : Nat) (clientFingerprint : Option String)
  | attachWithToken (sessionId : String) (attachmentId : Nat)
      (clientFingerprint : Option String) (resumeToken freshToken : String)
  | detach (sessionId : String)
  | recordServerEvent (sessionId : String) (event : SessionServerEvent)
  | rotateResumeToken (sessionId freshToken : String)
  | remove (sessionId : String)

inductive Reply where
  | opened (resumeToken : String)
  | attached (attachment : AttachmentState)
  | resumed (attachment : AttachmentState) (nextToken : String)
  | detached (attachment : AttachmentState)
  | recorded (frame : Option BufferedOutput)
  | rotated (token : String)
  | removed

def ManagerCall.execute (sessions : Sessions) :
    ManagerCall → Except SessionManagerError Reply × Sessions
  | .openSession sessionId capabilityId capabilityName sessionMode ownerFingerprint freshToken =>
    (.ok (.opened freshToken), sessions.insert sessionId
        (newEntry capabilityId capabilityName sessionMode ownerFingerprint freshToken))
  | .attach sessionId attachmentId clientFingerprint =>
    withSessionStateInPlace sessions sessionId
      (Reply.attached <$> tryAttachInPlace clientFingerprint attachmentId)
  | .attachWithToken sessionId attachmentId clientFingerprint resumeToken freshToken =>
    withSessionStateInPlace sessions sessionId
      ((fun granted => Reply.resumed granted.1 granted.2) <$>
        attachWithTokenInPlace clientFingerprint attachmentId resumeToken freshToken)
  | .detach sessionId =>
    withSessionStateInPlace sessions sessionId (Reply.detached <$> tryDetachInPlace)
  | .recordServerEvent sessionId event =>
    withSessionStateInPlace sessions sessionId (Reply.recorded <$> recordInPlace event)
  | .rotateResumeToken sessionId freshToken =>
    withSessionStateInPlace sessions sessionId (Reply.rotated <$> rotateInPlace freshToken)
  | .remove sessionId => (.ok .removed, sessions.erase sessionId)

def Reply.generated : Reply → Option String
  | .opened resumeToken => some resumeToken
  | .resumed _ nextToken => some nextToken
  | .rotated token => some token
  | _ => none

/-- The token that `Uuid::new_v4` returns if the call asks for one. -/
def ManagerCall.freshToken? : ManagerCall → Option String
  | .openSession _ _ _ _ _ freshToken => some freshToken
  | .attachWithToken _ _ _ _ freshToken => some freshToken
  | .rotateResumeToken _ freshToken => some freshToken
  | _ => none

def ManagerCall.accepted : ManagerCall → Except SessionManagerError Reply → Option String
  | .attachWithToken _ _ _ resumeToken _, .ok _ => some resumeToken
  | _, _ => none

/-- The sessions, the tokens generated so far and the tokens with which `attach_with_token`
succeeded, in the order of the calls. -/
structure TokenLog where
  sessions : Sessions
  generated : List String
  accepted : List String

def TokenLog.empty : TokenLog where
  sessions := ∅
  generated := []
  accepted := []

def stepManager (log : TokenLog) (call : ManagerCall) : Option TokenLog :=
  let executed := call.execute log.sessions
  some
    { sessions := executed.2
      generated := log.generated ++
        (executed.1.toOption.bind Reply.generated).toList
      accepted := log.accepted ++ (call.accepted executed.1).toList }

def DistinctTokens (log : TokenLog) (call : ManagerCall) : Prop :=
  ∀ token ∈ call.freshToken?, token ∉ log.generated

instance (log : TokenLog) (call : ManagerCall) : Decidable (DistinctTokens log call) :=
  inferInstanceAs (Decidable (∀ token ∈ call.freshToken?, token ∉ log.generated))

section

variable (clientFingerprint : Option String) (attachmentId : Nat) (resumeToken freshToken : String)
variable (sessions after : Sessions) (sessionId : String) (entry : SessionEntry)

theorem tryAttachInPlace_execute :
    execute (tryAttachInPlace clientFingerprint attachmentId) entry =
      if entry.state.attachment.isSome then (.error .alreadyAttached, entry)
      else (.ok ⟨clientFingerprint⟩, entry.attachedBy clientFingerprint attachmentId) := by
  rw [tryAttachInPlace, execute_bind, execute_get]
  dsimp only
  split_ifs with held
  · rfl
  · rfl

theorem attachWithTokenInPlace_execute :
    execute (attachWithTokenInPlace clientFingerprint attachmentId resumeToken freshToken)
        entry =
      if entry.state.resumeToken ≠ resumeToken then (.error .invalidResumeToken, entry)
      else if entry.state.attachment.isSome then (.error .alreadyAttached, entry)
      else
        (.ok (⟨clientFingerprint⟩, freshToken),
          entry.resumedBy clientFingerprint attachmentId freshToken) := by
  have valid_iff : entry.state.validateResumeToken resumeToken = false ↔
      entry.state.resumeToken ≠ resumeToken := by
    simp [SessionState.validateResumeToken]
  rw [attachWithTokenInPlace, execute_bind, execute_get]
  dsimp only
  simp only [valid_iff]
  split_ifs with invalid held
  · rfl
  · rw [execute_bind, tryAttachInPlace_execute, if_pos held]
  · rw [execute_bind, tryAttachInPlace_execute, if_neg held]
    rfl

theorem tryDetachInPlace_execute :
    execute tryDetachInPlace entry =
      match entry.state.attachment with
      | some attachment => (.ok attachment, entry.released)
      | none => (.error .notAttached, entry) := by
  rw [tryDetachInPlace, execute_bind, execute_get]
  dsimp only
  rw [execute_bind, execute_set]
  dsimp only
  split
  · rfl
  · rename_i nobody
    rw [← nobody]
    rfl

/-- The call does to an entry what the call without mutation does, and nothing if that one
fails. -/
def AgreesWith {Value : Type} (op : OnEntry Value)
    (pureOp : SessionEntry → Except SessionManagerError (Value × SessionEntry)) : Prop :=
  ∀ entry, execute op entry =
    match pureOp entry with
    | .ok (value, changed) => (.ok value, changed)
    | .error err => (.error err, entry)

theorem withSessionStateInPlace_ok_iff {Value : Type} {op : OnEntry Value}
    {pureOp : SessionEntry → Except SessionManagerError (Value × SessionEntry)}
    (agrees : AgreesWith op pureOp) (value : Value) :
    withSessionStateInPlace sessions sessionId op = (.ok value, after) ↔
      withSessionState sessions sessionId pureOp = .ok (value, after) := by
  unfold withSessionStateInPlace withSessionState
  cases sessions.lookup sessionId with
  | none => simp
  | some entry =>
    simp only [agrees entry]
    cases pureOp entry with
    | error | ok => simp

theorem attach_agrees (attachment : AttachmentState) :
    withSessionStateInPlace sessions sessionId
        (tryAttachInPlace clientFingerprint attachmentId) = (.ok attachment, after) ↔
      SessionManager.attach sessions sessionId attachmentId clientFingerprint =
        .ok (attachment, after) := by
  apply withSessionStateInPlace_ok_iff
  intro entry
  rw [tryAttachInPlace_execute]
  by_cases held : entry.state.attachment.isSome
  · simp [SessionState.tryAttach, held]
  · simp [SessionState.tryAttach, held, SessionEntry.attachedBy]

theorem attachWithToken_agrees (granted : AttachmentState × String) :
    withSessionStateInPlace sessions sessionId
        (attachWithTokenInPlace clientFingerprint attachmentId resumeToken freshToken) =
          (.ok granted, after) ↔
      SessionManager.attachWithToken sessions sessionId attachmentId clientFingerprint
        resumeToken freshToken = .ok (granted, after) := by
  apply withSessionStateInPlace_ok_iff
  intro entry
  rw [attachWithTokenInPlace_execute]
  unfold SessionState.attachWithToken SessionState.validateResumeToken SessionState.tryAttach
  by_cases valid : entry.state.resumeToken = resumeToken
  · by_cases held : entry.state.attachment.isSome
    · simp [valid, held]
    · simp [valid, held, SessionState.rotateResumeToken, SessionEntry.resumedBy]
  · simp [valid]

theorem detach_agrees (attachment : AttachmentState) :
    withSessionStateInPlace sessions sessionId tryDetachInPlace = (.ok attachment, after) ↔
      SessionManager.detach sessions sessionId = .ok (attachment, after) := by
  apply withSessionStateInPlace_ok_iff
  intro entry
  rw [tryDetachInPlace_execute]
  cases held : entry.state.attachment with
  | none => simp [SessionState.tryDetach, held]
  | some => simp [SessionState.tryDetach, held, SessionEntry.released]

theorem tryAttachInPlace_atomic : Atomic (tryAttachInPlace clientFingerprint attachmentId) := by
  intro entry failure failed
  rw [tryAttachInPlace_execute] at failed ⊢
  split_ifs at failed ⊢
  rfl

theorem attachWithTokenInPlace_atomic :
    Atomic (attachWithTokenInPlace clientFingerprint attachmentId resumeToken freshToken) := by
  intro entry failure failed
  rw [attachWithTokenInPlace_execute] at failed ⊢
  split_ifs at failed ⊢
  · rfl
  · rfl

theorem tryDetachInPlace_atomic : Atomic tryDetachInPlace := by
  intro entry failure failed
  rw [tryDetachInPlace_execute] at failed ⊢
  split at failed
  · cases failed
  · rfl

theorem recordInPlace_atomic (event : SessionServerEvent) : Atomic (recordInPlace event) := by
  intro entry failure failed
  cases failed

theorem rotateInPlace_atomic : Atomic (rotateInPlace freshToken) := by
  intro entry failure failed
  cases failed

theorem withSessionStateInPlace_lookup {Value : Type} (op : OnEntry Value) (other : String) :
    (withSessionStateInPlace sessions sessionId op).2.lookup other =
      if other = sessionId then
        (sessions.lookup sessionId).map fun entry => (execute op entry).2
      else sessions.lookup other := by
  unfold withSessionStateInPlace
  cases found : sessions.lookup sessionId with
  | none =>
    split_ifs with same
    · rw [same, found]
      rfl
    · rfl
  | some => exact Table.lookup_insert_eq sessionId other _ sessions

end

variable {sessions : Sessions} {sessionId resumeToken : String} {err : SessionManagerError}
variable {call : ManagerCall} {attachmentId : Nat} {clientFingerprint : Option String}
variable {log after : TokenLog}

theorem withSessionStateInPlace_failed {Value : Type} {op : OnEntry Value} (atomic : Atomic op)
    (failed : (withSessionStateInPlace sessions sessionId op).1 = .error err) (other : String) :
    (withSessionStateInPlace sessions sessionId op).2.lookup other =
      sessions.lookup other := by
  rw [withSessionStateInPlace_lookup]
  split_ifs with same
  · subst same
    cases found : sessions.lookup other with
    | none => rfl
    | some entry =>
      simp only [withSessionStateInPlace, found] at failed
      rw [Option.map_some, atomic entry err failed]
  · rfl

theorem execute_failed (failed : (call.execute sessions).1 = .error err) (sessionId : String) :
    (call.execute sessions).2.lookup sessionId = sessions.lookup sessionId := by
  cases call with
  | openSession | remove => cases failed
  | attach =>
    exact withSessionStateInPlace_failed ((tryAttachInPlace_atomic _ _).map _) failed sessionId
  | attachWithToken =>
    exact withSessionStateInPlace_failed ((attachWithTokenInPlace_atomic _ _ _ _).map _)
      failed sessionId
  | detach => exact withSessionStateInPlace_failed (tryDetachInPlace_atomic.map _) failed sessionId
  | recordServerEvent =>
    exact withSessionStateInPlace_failed ((recordInPlace_atomic _).map _) failed sessionId
  | rotateResumeToken =>
    exact withSessionStateInPlace_failed ((rotateInPlace_atomic _).map _) failed sessionId

def currentTokens (sessions : Sessions) (sessionId : String) : Option String :=
  (sessions.lookup sessionId).map fun entry => entry.state.resumeToken

def rotation (log : TokenLog) : Rotation String String where
  current := currentTokens log.sessions
  issued := { token | token ∈ log.generated }
  spent := { token | token ∈ log.accepted }

/-- A call rotates tokens, and it accepts at most a current one. -/
structure TokenMove (before after : TokenLog) : Prop where
  step : (rotation before).Step (rotation after)
  accepted : after.accepted = before.accepted ∨ ∃ sessionId old,
    currentTokens before.sessions sessionId = some old ∧ after.accepted = before.accepted ++ [old]

section

variable {before : TokenLog}

theorem TokenMove.keeps
    (fewer : ∀ sessionId token, currentTokens after.sessions sessionId = some token →
      currentTokens before.sessions sessionId = some token)
    (generated : after.generated = before.generated) (accepted : after.accepted = before.accepted) :
    TokenMove before after := by
  refine ⟨.keeps fewer ?_ ?_, .inl accepted⟩
  · simp [rotation, generated]
  · simp [rotation, accepted]

theorem TokenMove.renews {token : String} (fresh : token ∉ before.generated)
    (tokens : currentTokens after.sessions =
      Function.update (currentTokens before.sessions) sessionId (some token))
    (generated : after.generated = before.generated ++ [token])
    (accepted : after.accepted = before.accepted ∨ ∃ old,
      currentTokens before.sessions sessionId = some old ∧
        after.accepted = before.accepted ++ [old]) : TokenMove before after := by
  refine ⟨.renews sessionId token fresh tokens ?_ ?_, accepted.imp_right fun old => ⟨_, old⟩⟩
  · rintro issued (rfl | earlier)
    · simp [rotation, generated]
    · simp [rotation, generated, show issued ∈ before.generated from earlier]
  · intro used member
    change used ∈ after.accepted at member
    rcases accepted with same | ⟨_, current, appended⟩
    · rw [same] at member
      exact .inl member
    · rw [appended, List.mem_append, List.mem_singleton] at member
      rcases member with earlier | rfl
      · exact .inl earlier
      · exact .inr current

end

theorem currentTokens_kept {Value : Type} {op : OnEntry Value}
    (kept : ∀ entry, (execute op entry).2.state.resumeToken = entry.state.resumeToken)
    (sessions : Sessions) (sessionId : String) :
    currentTokens (withSessionStateInPlace sessions sessionId op).2 = currentTokens sessions := by
  funext other
  unfold currentTokens
  rw [withSessionStateInPlace_lookup]
  split_ifs with same
  · subst same
    simp [Function.comp_def, kept]
  · rfl

theorem tryAttachInPlace_token (clientFingerprint : Option String) (attachmentId : Nat)
    (entry : SessionEntry) :
    (execute (tryAttachInPlace clientFingerprint attachmentId) entry).2.state.resumeToken =
      entry.state.resumeToken := by
  rw [tryAttachInPlace_execute]
  split_ifs <;> rfl

theorem tryDetachInPlace_token (entry : SessionEntry) :
    (execute tryDetachInPlace entry).2.state.resumeToken = entry.state.resumeToken := by
  rw [tryDetachInPlace_execute]
  split <;> rfl

theorem recordInPlace_token (event : SessionServerEvent) (entry : SessionEntry) :
    (execute (recordInPlace event) entry).2.state.resumeToken = entry.state.resumeToken :=
  (recordServerEvent_keeps entry.state event).2

theorem execute_attachWithToken (sessions : Sessions) (sessionId : String) (attachmentId : Nat)
    (clientFingerprint : Option String) (resumeToken freshToken : String) :
    (ManagerCall.attachWithToken sessionId attachmentId clientFingerprint resumeToken
        freshToken).execute sessions =
      match sessions.lookup sessionId with
      | none => (.error .notFound, sessions)
      | some entry =>
        if entry.state.resumeToken ≠ resumeToken then
          (.error .invalidResumeToken, sessions.insert sessionId entry)
        else if entry.state.attachment.isSome then
          (.error .alreadyAttached, sessions.insert sessionId entry)
        else
          (.ok (.resumed ⟨clientFingerprint⟩ freshToken), sessions.insert sessionId
              (entry.resumedBy clientFingerprint attachmentId freshToken)) := by
  rw [ManagerCall.execute, withSessionStateInPlace]
  cases sessions.lookup sessionId with
  | none => rfl
  | some =>
    simp only [execute_map, attachWithTokenInPlace_execute]
    split_ifs <;> rfl

theorem execute_attachWithToken_ok_iff {freshToken : String} :
    (∃ reply, ((ManagerCall.attachWithToken sessionId attachmentId clientFingerprint resumeToken
        freshToken).execute sessions).1 = .ok reply) ↔
      ∃ entry, sessions.lookup sessionId = some entry ∧ entry.state.attachment = none ∧
        entry.state.resumeToken = resumeToken := by
  rw [execute_attachWithToken]
  cases sessions.lookup sessionId with
  | none => simp
  | some entry =>
    dsimp only
    split_ifs with invalid held
    · simp [invalid]
    · cases attached : entry.state.attachment with
      | none => simp [attached] at held
      | some => simp [attached]
    · cases attached : entry.state.attachment with
      | none => simpa [attached] using invalid
      | some => simp [attached] at held

theorem execute_attachWithToken_current {entry : SessionEntry}
    (entry_eq : sessions.lookup sessionId = some entry) (free : entry.state.attachment = none)
    (token_eq : entry.state.resumeToken = resumeToken) (attachmentId : Nat)
    (clientFingerprint : Option String) (freshToken : String) :
    (ManagerCall.attachWithToken sessionId attachmentId clientFingerprint resumeToken
        freshToken).execute sessions =
      (.ok (.resumed ⟨clientFingerprint⟩ freshToken), sessions.insert sessionId
          (entry.resumedBy clientFingerprint attachmentId freshToken)) := by
  rw [execute_attachWithToken, entry_eq]
  simp [token_eq, free]

theorem attachWithToken_move {freshToken : String} (fresh : freshToken ∉ log.generated)
    (moved : stepManager log (.attachWithToken sessionId attachmentId clientFingerprint
      resumeToken freshToken) = some after) : TokenMove log after := by
  cases outcome : ((ManagerCall.attachWithToken sessionId attachmentId clientFingerprint
      resumeToken freshToken).execute log.sessions).1 with
  | error =>
    cases moved
    apply TokenMove.keeps
    · intro other found current
      rwa [currentTokens, ← execute_failed outcome other]
    · simp [outcome, Except.toOption]
    · simp [outcome, ManagerCall.accepted]
  | ok reply =>
    obtain ⟨entry, entry_eq, free, token_eq⟩ := execute_attachWithToken_ok_iff.mp ⟨reply, outcome⟩
    have executed := execute_attachWithToken_current entry_eq free token_eq attachmentId
      clientFingerprint freshToken
    cases moved
    apply TokenMove.renews fresh
    · rw [executed]
      exact Table.view_insert (Option.map fun entry => entry.state.resumeToken) log.sessions
        sessionId _
    · simp [executed, Except.toOption, Reply.generated]
    · refine .inr ⟨resumeToken, ?_, by simp [executed, ManagerCall.accepted]⟩
      rw [currentTokens, entry_eq, Option.map_some, token_eq]

theorem TokenMove.of_silent {Value : Type} {op : OnEntry Value} {reply : Value → Reply}
    (executed : call.execute log.sessions =
      withSessionStateInPlace log.sessions sessionId (reply <$> op))
    (kept : ∀ entry, (execute op entry).2.state.resumeToken = entry.state.resumeToken)
    (silent : ∀ value, (reply value).generated = none)
    (unaccepted : ∀ outcome, call.accepted outcome = none)
    (moved : stepManager log call = some after) : TokenMove log after := by
  cases moved
  apply TokenMove.keeps
  · rw [executed, currentTokens_kept]
    · exact fun _ _ current => current
    · intro entry
      rw [execute_map]
      exact kept entry
  · rw [executed, withSessionStateInPlace]
    cases log.sessions.lookup sessionId with
    | none => simp [Except.toOption]
    | some entry =>
      dsimp only
      rw [execute_map]
      cases (execute op entry).1 <;> simp [Except.map, Except.toOption, silent]
  · simp [unaccepted]

theorem rotateResumeToken_move {freshToken : String} (fresh : freshToken ∉ log.generated)
    (moved : stepManager log (.rotateResumeToken sessionId freshToken) = some after) :
    TokenMove log after := by
  cases moved
  cases entry_eq : log.sessions.lookup sessionId with
  | none =>
    apply TokenMove.keeps <;>
      simp [ManagerCall.execute, withSessionStateInPlace, entry_eq, Except.toOption,
        ManagerCall.accepted]
  | some entry =>
    have executed : (ManagerCall.rotateResumeToken sessionId freshToken).execute log.sessions =
        (.ok (.rotated freshToken), log.sessions.insert sessionId
          { entry with state := { entry.state with resumeToken := freshToken } }) := by
      simp only [ManagerCall.execute, withSessionStateInPlace, entry_eq]
      rfl
    apply TokenMove.renews fresh
    · rw [executed]
      exact Table.view_insert (Option.map fun entry => entry.state.resumeToken) log.sessions
        sessionId _
    · simp [executed, Except.toOption, Reply.generated]
    · simp [ManagerCall.accepted]

theorem stepManager_move (fresh : DistinctTokens log call)
    (moved : stepManager log call = some after) : TokenMove log after := by
  cases call with
  | openSession sessionId _ _ _ _ freshToken =>
    cases moved
    apply TokenMove.renews (fresh freshToken rfl)
    · exact Table.view_insert (Option.map fun entry => entry.state.resumeToken) log.sessions
        sessionId _
    · simp [ManagerCall.execute, Except.toOption, Reply.generated]
    · simp [ManagerCall.accepted]
  | attach _ attachmentId clientFingerprint =>
    exact .of_silent rfl (tryAttachInPlace_token clientFingerprint attachmentId)
      (fun _ => rfl) (fun _ => rfl) moved
  | attachWithToken _ _ _ _ freshToken => exact attachWithToken_move (fresh freshToken rfl) moved
  | detach => exact .of_silent rfl tryDetachInPlace_token (fun _ => rfl) (fun _ => rfl) moved
  | recordServerEvent _ event =>
    exact .of_silent rfl (recordInPlace_token event) (fun _ => rfl) (fun _ => rfl) moved
  | rotateResumeToken _ freshToken =>
    exact rotateResumeToken_move (fresh freshToken rfl) moved
  | remove sessionId =>
    cases moved
    apply TokenMove.keeps
    · intro other token current
      have erased := congrFun (Table.view_erase (Option.map fun entry => entry.state.resumeToken)
        log.sessions sessionId) other
      rw [currentTokens, ManagerCall.execute, erased, Function.update_apply] at current
      split_ifs at current
      · cases current
      · exact current
    · simp [ManagerCall.execute, Except.toOption, Reply.generated]
    · simp [ManagerCall.accepted]

structure TokenInvariant (log : TokenLog) : Prop where
  sound : (rotation log).Sound
  once : log.accepted.Nodup

theorem TokenMove.invariant {before : TokenLog} (move : TokenMove before after)
    (holds : TokenInvariant before) : TokenInvariant after := by
  refine ⟨move.step.sound holds.sound, ?_⟩
  rcases move.accepted with same | ⟨sessionId, old, current, appended⟩
  · rw [same]
    exact holds.once
  · have unused : old ∉ before.accepted := fun used =>
      holds.sound.spent_stale old used sessionId current
    rw [appended, ← List.concat_eq_append]
    exact holds.once.concat unused

theorem invariant_of_run (run : Reaches stepManager DistinctTokens TokenLog.empty log) :
    TokenInvariant log := by
  apply run.invariant
  · refine ⟨⟨?_, ?_, ?_, ?_⟩, List.nodup_nil⟩
    · intro sessionId token current
      cases current
    · intro first second token current
      cases current
    · intro token used
      cases used
    · intro token used
      cases used
  · intro before call after holds fresh moved
    exact (stepManager_move fresh moved).invariant holds

/-- What an attempt to resume does after a sequence of calls. -/
structure ResumesOnce (log : TokenLog) (sessionId : String)
    (clientFingerprint : Option String) (resumeToken freshToken : String)
    (executed : Except SessionManagerError Reply × Sessions) : Prop where
  accepted_iff : (∃ reply, executed.1 = .ok reply) ↔
    ∃ entry, log.sessions.lookup sessionId = some entry ∧ entry.state.attachment = none ∧
      entry.state.resumeToken = resumeToken
  renewed : ∀ reply, executed.1 = .ok reply →
    reply = .resumed ⟨clientFingerprint⟩ freshToken ∧
      currentTokens executed.2 sessionId = some freshToken ∧ freshToken ≠ resumeToken ∧
        freshToken ∉ log.generated

/-- After any sequence of calls on any sessions, every token was accepted at most once, an
attempt to resume succeeds exactly with the current token of a detached session and replaces
it by a new one, and a call that fails has changed no session. -/
theorem resume_tokens_are_single_use (log : TokenLog)
    (run : Reaches stepManager DistinctTokens TokenLog.empty log) :
    (∀ token, log.accepted.count token ≤ 1) ∧
      (∀ sessionId attachmentId clientFingerprint resumeToken freshToken,
        freshToken ∉ log.generated →
          ResumesOnce log sessionId clientFingerprint resumeToken freshToken
            ((ManagerCall.attachWithToken sessionId attachmentId clientFingerprint resumeToken
              freshToken).execute log.sessions)) ∧
      ∀ (call : ManagerCall) err, (call.execute log.sessions).1 = .error err →
        ∀ sessionId, (call.execute log.sessions).2.lookup sessionId =
          log.sessions.lookup sessionId := by
  have holds := invariant_of_run run
  refine ⟨?_, ?_, ?_⟩
  · exact List.nodup_iff_count_le_one.mp holds.once
  · intro sessionId attachmentId clientFingerprint resumeToken freshToken fresh
    refine ⟨execute_attachWithToken_ok_iff, ?_⟩
    intro reply succeeded
    obtain ⟨_, entry_eq, free, token_eq⟩ :=
      execute_attachWithToken_ok_iff.mp ⟨reply, succeeded⟩
    have current : currentTokens log.sessions sessionId = some resumeToken := by
      rw [currentTokens, entry_eq, Option.map_some, token_eq]
    have different : freshToken ≠ resumeToken := by
      intro same
      exact fresh (same ▸ holds.sound.current_issued sessionId resumeToken current)
    rw [execute_attachWithToken_current entry_eq free token_eq] at succeeded ⊢
    cases succeeded
    refine ⟨rfl, ?_, different, fresh⟩
    rw [currentTokens, AList.lookup_insert]
    rfl
  · intro call err failed
    exact execute_failed failed

/-- A session is opened, resumed with its first token and left again. -/
def resumeAndLeave : List ManagerCall :=
  [.openSession "shell" "sh" "Shell" .realtime (some "phone") "first",
    .attachWithToken "shell" 0 (some "phone") "first" "second", .detach "shell"]

theorem first_token_single_use : ∃ log,
    Reaches stepManager DistinctTokens TokenLog.empty log ∧ log.accepted = ["first"] ∧
      currentTokens log.sessions "shell" = some "second" ∧
      log.accepted.count "first" ≤ 1 ∧
      ResumesOnce log "shell" (some "phone") "first" "third"
        ((ManagerCall.attachWithToken "shell" 1 (some "phone") "first" "third").execute
          log.sessions) := by
  obtain ⟨log, run, accepted_eq, current_eq, fresh⟩ : ∃ log,
      Reaches stepManager DistinctTokens TokenLog.empty log ∧ log.accepted = ["first"] ∧
        currentTokens log.sessions "shell" = some "second" ∧ "third" ∉ log.generated :=
    reaches_of_evaluated resumeAndLeave (by decide +kernel)
  have facts := resume_tokens_are_single_use log run
  exact ⟨log, run, accepted_eq, current_eq, facts.1 "first", facts.2.1 _ _ _ _ _ fresh⟩

end HandControl.SessionTokens
