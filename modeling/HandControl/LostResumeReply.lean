import HandControl.RotatingTokens
import HandControl.SessionAttachments

/-!
# Resumes whose reply is lost

The server replaces the resume token of a session when it attaches the client, before the client
hears of it. A client whose connection is lost between the two still stores the token that it sent,
which is never accepted again.
-/

namespace HandControl.LostResumeReply

open KeyedTable RotatingTokens CapabilitySessions SessionResume SessionManager SessionService
open SessionAttachments TransitionRuns Table

/-- The client library when it has sent its resume request. -/
def resumingClient (setting : ResumeSetting) : ResumingClient where
  phase := .resuming
  resumeToken := setting.resumeToken
  lastStdoutSequence := setting.lastOutputSequence.getD 0
  lastStderrSequence := setting.lastErrorSequence.getD 0
  pendingEvents := []
  delivered := []

def onMessage (sessionId : String) (client : ResumingClient) (message : SessionServerMessage) :
    ResumingClient :=
  match client.phase with
  | .resuming => client.onResumeMessage sessionId message
  | .resumed => client.onStreamMessage message
  | _ => client

def clientOf (call : Call) : ResumingClient :=
  call.received.foldl (onMessage call.setting.sessionId) (resumingClient call.setting)

def isAcknowledged (call : Call) : Bool :=
  match (clientOf call).phase with
  | .resumed | .ended => true
  | _ => false

/-- The token in the client's `CapabilitySessionResumeState`. A resume that fails returns an
error and leaves the caller with the state that it passed in. -/
def storedToken (call : Call) : String :=
  if isAcknowledged call then (clientOf call).resumeToken else call.setting.resumeToken

def tokenOf (found : Option SessionEntry) : Option String :=
  found.map fun entry => entry.state.resumeToken

/-- The token with which a call has resumed its session. -/
def spends (call : Call) : Option String :=
  if call.kind = .resumes ∧ call.attachment.isSome then some call.setting.resumeToken else none

def spentOf (found : Option Call) : Option String :=
  found.bind spends

def rotation (service : ServiceState) : Rotation String String where
  current sessionId := tokenOf (service.sessions.lookup sessionId)
  issued := { token | service.issued.lookup token ≠ none }
  spent := { token | ∃ number, spentOf (service.calls.lookup number) = some token }

def kindOfStage : CallStage → Option CallKind
  | .opening _ | .opened => some .opens
  | .starting | .located | .subscribed | .senderTaken => some .resumes
  | _ => none

def KindFits (call : Call) : Prop :=
  ∀ kind, kindOfStage call.stage = some kind → call.kind = kind

structure RotationInvariant (service : ServiceState) : Prop where
  kinds : Table.Every KindFits service.calls
  sound : (rotation service).Sound

variable {action : ServiceAction} {entry updated : SessionEntry}

section

variable {service after : ServiceState} {call changed : Call}

theorem HandlerMove.kindFits (move : HandlerMove service call changed) (fits : KindFits call) :
    KindFits changed := by
  intro kind stage_kind
  cases move with
  | locates entry stage_eq | subscribes stage_eq | takesSender stage_eq =>
    exact fits kind (by rw [stage_eq]; exact stage_kind)
  | _ => cases stage_kind

theorem KindFits.of_same (fits : KindFits call) (stage_eq : changed.stage = call.stage)
    (kind_eq : changed.kind = call.kind) : KindFits changed := by
  intro kind stage_kind
  rw [stage_eq] at stage_kind
  rw [kind_eq]
  exact fits kind stage_kind

theorem newCall_kindFits (new_call : IsNewCall call) : KindFits call := by
  rcases new_call with ⟨kind, setting, stage, rfl, ⟨rfl, capabilityName, rfl⟩ | ⟨rfl, rfl⟩⟩
  · intro found stage_kind
    exact Option.some.inj stage_kind
  · intro found stage_kind
    exact Option.some.inj stage_kind

theorem CallMove.kindFits {number : Nat} (move : CallMove service number call action changed)
    (fits : KindFits call) : KindFits changed := by
  cases move with
  | handles _ _ _ move => exact HandlerMove.kindFits move fits
  | forwards _ move =>
    exact fits.of_same (ForwarderMove.stage_eq move) (ForwarderMove.sameCall move).kind
  | drops _ _ _ move =>
    cases move with
    | cancels | refuses =>
      intro kind stage_kind
      cases stage_kind
    | closes => exact fits.of_same rfl rfl
  | creates _ _ _ stage_eq =>
    intro kind stage_kind
    exact fits kind (by rw [stage_eq]; exact stage_kind)
  | attaches =>
    intro kind stage_kind
    cases stage_kind
  | reads | leaves => exact fits.of_same rfl rfl

theorem deliver_kindFits (sessionId : String) (broadcast : SessionBroadcastEvent)
    (fits : KindFits call) : KindFits (ServiceState.deliver sessionId broadcast call) := by
  unfold ServiceState.deliver
  split_ifs
  · exact fits.of_same rfl rfl
  · exact fits

theorem ServiceMove.kindFits (move : ServiceMove service action after)
    (fits : Table.Every KindFits service.calls) : Table.Every KindFits after.calls := by
  apply ServiceMove.every move fits
  · intro call new_call
    exact newCall_kindFits new_call
  · intro number call changed call_move
    exact CallMove.kindFits call_move
  · intro sessionId broadcast call
    exact deliver_kindFits sessionId broadcast

end

section

variable {service after : ServiceState} {call changed : Call} {number : Nat}
variable {sessionId : String}

theorem HandlerMove.spends_eq (move : HandlerMove service call changed) :
    spends changed = spends call := by
  cases move <;> rfl

theorem ForwarderMove.spends_eq (move : ForwarderMove call changed) :
    spends changed = spends call := by
  cases move <;> rfl

theorem DropMove.spends_eq (move : DropMove call changed) : spends changed = spends call := by
  cases move <;> rfl

theorem deliver_spends (broadcast : SessionBroadcastEvent) (call : Call) :
    spends (ServiceState.deliver sessionId broadcast call) = spends call := by
  unfold ServiceState.deliver
  split_ifs <;> rfl

theorem spends_of_opens (opens : call.kind = .opens) : spends call = none := by
  simp [spends, opens]

theorem spends_of_unattached (unattached : call.attachment = none) : spends call = none := by
  simp [spends, unattached]

theorem rotation_keeps
    (tokens : ∀ sessionId, tokenOf (after.sessions.lookup sessionId) =
      tokenOf (service.sessions.lookup sessionId)) (issues : after.issued = service.issued)
    (uses : ∀ number, spentOf (after.calls.lookup number) =
      spentOf (service.calls.lookup number)) :
    (rotation service).Step (rotation after) := by
  apply Rotation.Step.keeps
  · intro sessionId token current
    exact (tokens sessionId).symm.trans current
  · simp [rotation, issues]
  · simp [rotation, uses]

theorem rotation_renews {token : String} (unissued : service.issued.lookup token = none)
    (sessions_eq : after.sessions = service.sessions.insert sessionId entry)
    (token_eq : entry.state.resumeToken = token)
    (issues : after.issued = service.issued.insert token sessionId)
    (calls_eq : after.calls = service.calls.insert number changed)
    (uses : ∀ old, spends changed = some old →
      tokenOf (service.sessions.lookup sessionId) = some old) :
    (rotation service).Step (rotation after) := by
  apply Rotation.Step.renews sessionId token
  · exact fun issued => issued unissued
  · simp only [rotation, sessions_eq, ← token_eq]
    exact view_insert tokenOf service.sessions sessionId entry
  · intro other known
    change after.issued.lookup other ≠ none
    rw [issues, lookup_insert_eq]
    split_ifs with same
    · exact Option.some_ne_none _
    · exact known.resolve_left same
  · rintro old ⟨user, spent⟩
    rw [calls_eq, lookup_insert_eq] at spent
    split_ifs at spent
    · exact .inr (uses old spent)
    · exact .inl ⟨user, spent⟩

theorem rotation_putCall (call_eq : service.calls.lookup number = some call)
    (spends_eq : spends changed = spends call) {sessions : Sessions}
    {learned : List (Option String × String)}
    (tokens : ∀ sessionId, tokenOf (sessions.lookup sessionId) =
      tokenOf (service.sessions.lookup sessionId)) :
    (rotation service).Step (rotation
      { service with
        sessions := sessions
        calls := service.calls.insert number changed
        learned := learned }) := by
  refine rotation_keeps tokens rfl (congrFun (view_insert_same spentOf ?_))
  rw [call_eq]
  exact spends_eq

section

variable (entry_eq : service.sessions.lookup sessionId = some entry)
  (token_eq : updated.state.resumeToken = entry.state.resumeToken)

include entry_eq token_eq

theorem tokenOf_insert (other : String) :
    tokenOf ((service.sessions.insert sessionId updated).lookup other) =
      tokenOf (service.sessions.lookup other) := by
  apply congrFun (view_insert_same tokenOf _) other
  rw [entry_eq]
  exact congrArg some token_eq

theorem rotation_putEntry :
    (rotation service).Step (rotation (service.putEntry sessionId updated)) :=
  rotation_keeps (tokenOf_insert entry_eq token_eq) rfl fun _ => rfl

end

section

variable (move : ServiceMove service action after) (invariant : RotationInvariant service)

include move invariant

theorem ServiceMove.rotationStep : (rotation service).Step (rotation after) := by
  cases move with
  | calls _ _ _ unused new_call =>
    obtain ⟨_, _, _, rfl, _⟩ := new_call
    refine rotation_keeps (fun _ => rfl) rfl (congrFun (view_insert_same spentOf ?_))
    rw [unused]
    exact spends_of_unattached rfl
  | handles _ _ _ _ _ call_eq move =>
    exact rotation_putCall call_eq (HandlerMove.spends_eq move) fun _ => rfl
  | forwards _ _ _ call_eq move =>
    exact rotation_putCall call_eq (ForwarderMove.spends_eq move) fun _ => rfl
  | drops _ _ _ _ _ call_eq move =>
    exact rotation_putCall call_eq (DropMove.spends_eq move) fun _ => rfl
  | creates number sessionId _ _ call call_eq stage_eq _ new_token =>
    have opens : call.kind = .opens :=
      invariant.kinds number call call_eq .opens (by rw [stage_eq]; rfl)
    refine rotation_renews new_token rfl rfl rfl rfl fun old spent => ?_
    rw [spends_of_opens (show (call.created sessionId).kind = .opens from opens)] at spent
    cases spent
  | attaches number _ _ call _ call_eq stage_eq entry_eq =>
    have opens : call.kind = .opens :=
      invariant.kinds number call call_eq .opens (by rw [stage_eq]; rfl)
    apply rotation_putCall call_eq
    · rw [spends_of_opens opens]
      exact spends_of_opens opens
    · exact tokenOf_insert entry_eq rfl
  | resumes number sessionId freshToken call entry call_eq stage_eq entry_eq free token_eq
      new_token =>
      refine rotation_renews new_token rfl rfl rfl rfl fun old spent => ?_
      simp only [spends, Option.ite_none_right_eq_some] at spent
      rw [entry_eq, ← spent.2, ← token_eq]
      rfl
  | reads _ _ _ _ call_eq | leaves _ _ call_eq =>
    apply rotation_putCall call_eq
    · rfl
    · exact fun _ => rfl
  | detaches _ _ _ call_eq _ entry_eq =>
    apply rotation_putCall call_eq
    · rfl
    · exact tokenOf_insert entry_eq rfl
  | works _ _ _ _ entry_eq move => exact rotation_putEntry entry_eq move.keeps.2.1
  | publishes _ broadcast _ _ entry_eq =>
    refine rotation_keeps (tokenOf_insert entry_eq rfl) rfl fun number => ?_
    rw [lookup_mapValues]
    cases service.calls.lookup number with
    | none => rfl
    | some call => exact deliver_spends broadcast call
  | removes sessionId =>
    refine .keeps ?_ subset_rfl subset_rfl
    intro other token current
    have kept := (congrFun (view_erase tokenOf service.sessions sessionId) other).symm.trans current
    rw [Function.update_apply] at kept
    split_ifs at kept
    · cases kept
    · exact kept
  | lists => exact rotation_keeps (fun _ => rfl) rfl fun _ => rfl

theorem ServiceMove.rotation : RotationInvariant after := by
  constructor
  · exact ServiceMove.kindFits move invariant.kinds
  · exact (ServiceMove.rotationStep move invariant).sound invariant.sound

end

end

theorem rotationInvariant_empty : RotationInvariant ServiceState.empty := by
  refine ⟨?_, ⟨?_, ?_, ?_, ?_⟩⟩
  · intro number call call_eq
    cases call_eq
  · intro sessionId token current
    cases current
  · intro first second token current
    cases current
  · rintro _ ⟨_, spent⟩
    cases spent
  · rintro _ ⟨_, spent⟩
    cases spent

/-- A client whose resume has attached but that has not processed the acknowledgement stores the
token it sent. As long as the session is there, whoever presents that token is refused. -/
theorem lost_resume_refused {service : ServiceState}
    (run : Reaches stepService anyAction ServiceState.empty service) {number : Nat} {call : Call}
    (call_eq : service.calls.lookup number = some call) (resumes : call.kind = .resumes)
    (attached : call.attachment.isSome = true) (unprocessed : isAcknowledged call = false)
    {entry : SessionEntry}
    (present : service.sessions.lookup call.setting.sessionId = some entry)
    (attachmentId : Nat) (fingerprint : Option String) (freshToken : String) :
    attachWithToken service.sessions call.setting.sessionId attachmentId fingerprint
      (storedToken call) freshToken = .error .invalidResumeToken := by
  have invariant : RotationInvariant service := by
    apply run.invariant rotationInvariant_empty
    intro before action after invariant _ moved
    exact ServiceMove.rotation (stepService_move moved) invariant
  have stored : storedToken call = call.setting.resumeToken := by
    simp [storedToken, unprocessed]
  have spent : call.setting.resumeToken ∈ (rotation service).spent :=
    ⟨number, by simp [spentOf, call_eq, spends, resumes, attached]⟩
  have stale : entry.state.resumeToken ≠ call.setting.resumeToken := by
    intro same
    apply invariant.sound.spent_stale _ spent call.setting.sessionId
    simp [rotation, tokenOf, present, same]
  simp [attachWithToken, withSessionState, present, stored, SessionState.attachWithToken,
    SessionState.validateResumeToken, stale]

/-- The owner leaves its session and resumes it. The connection is lost before the acknowledgement
was sent. -/
def lostResume : List ServiceAction :=
  leavingActions ++ [.callResume 2 (some "alice") "session" "first" none none, .handler 2 "" "",
    .handler 2 "" "", .handler 2 "" "", .handler 2 "" "second", .handler 2 "" "",
    .responseDropped 2, .requestEnded 2]

theorem attached_resume_refused :
    ∃ service call, Reaches stepService anyAction ServiceState.empty service ∧
      service.calls.lookup 2 = some call ∧ call.attachment.isSome = true ∧
      isAcknowledged call = false ∧
      attachWithToken service.sessions call.setting.sessionId 3 (some "alice") (storedToken call)
        "third" = .error .invalidResumeToken := by
  obtain ⟨service, call, run, call_eq, resumes, attached, unprocessed, entry, present⟩ :
      ∃ service call, Reaches stepService anyAction ServiceState.empty service ∧
        service.calls.lookup 2 = some call ∧ call.kind = .resumes ∧
        call.attachment.isSome = true ∧ isAcknowledged call = false ∧
        ∃ entry, service.sessions.lookup call.setting.sessionId = some entry := by
    refine found_of_evaluated lostResume ?_
    simp only [← Option.isSome_iff_exists]
    decide +kernel
  exact ⟨service, call, run, call_eq, attached, unprocessed,
    lost_resume_refused run call_eq resumes attached unprocessed present 3 _ "third"⟩

def retryError (service : ServiceState) (call : Call) : Option SessionManagerError :=
  match attachWithToken service.sessions call.setting.sessionId 3 call.setting.fingerprint
      (storedToken call) "third" with
  | .ok _ => none
  | .error err => some err

/-- The session is free again, and its owner is refused with the token that it has stored. -/
theorem lost_resume_locks_out :
    ∃ service call, Reaches stepService anyAction ServiceState.empty service ∧
      service.calls.lookup 2 = some call ∧ call.clientTask = .detached ∧
      isAcknowledged call = false ∧ storedToken call = "first" ∧
      retryError service call = some .invalidResumeToken := by
  refine found_of_evaluated lostResume ?_
  decide +kernel

end HandControl.LostResumeReply
