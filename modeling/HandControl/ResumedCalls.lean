import HandControl.SessionService

/-!
# A resume among the calls of the service

`SessionResume` follows one resume of one session as far as the client library. In the service the
resume is a call among others. As long as nobody else attaches to its session and no call of the
session detaches, every step of the service is a step of the resume, or does not touch it.
-/

namespace HandControl.ResumedCalls

open KeyedTable KeyedTable.Table CapabilitySessions MessageChannels RemoteControlService
open SessionResume SessionManager SessionService TransitionRuns

def handlerPhase : CallStage → Option HandlerPhase
  | .located => some .starting
  | .subscribed => some .subscribed
  | .senderTaken => some .senderTaken
  | .attached (some nextToken) => some (.attached nextToken)
  | .replaying nextToken remaining => some (.replaying nextToken remaining)
  | .returned => some .returned
  | .failed status => some (.failed status)
  | .cancelled => some .cancelled
  | _ => none

/-- The tasks of a call with the entry of its session. The service has no client library: what the
client was sent stays in flight. -/
def resumeSystem (script : List SessionServerEvent) (client : ResumingClient)
    (handler : HandlerPhase) (call : Call) (found : Option SessionEntry) : ResumeSystem where
  script := script
  eventLoop := (found.map SessionEntry.eventLoop).getD .ended
  session := found.map SessionEntry.state
  subscription := call.subscription
  handler := handler
  forwarder := call.forwarder
  queue := call.queue
  channelOpen := call.streamOpen
  inFlight := call.received
  client := client

/-- The script of the capability is what waits in its channel and what it sends later. What it has
sent when the event loop is over is not received. -/
def Scripted (later script : List SessionServerEvent) (found : Option SessionEntry) : Prop :=
  ∀ entry, found = some entry → entry.eventLoop ≠ .removing → script = entry.events ++ later

/-- The system is the resume with this number, given what its capability sends later. -/
def Shows (number : Nat) (setting : ResumeSetting) (service : ServiceState)
    (later : List SessionServerEvent) (system : ResumeSystem) : Prop :=
  ∃ call handler script client, service.calls.lookup number = some call ∧
    call.setting = setting ∧ handlerPhase call.stage = some handler ∧
    Scripted later script (service.sessions.lookup setting.sessionId) ∧
    system = resumeSystem script client handler call (service.sessions.lookup setting.sessionId)

/-- No other call creates the session or attaches to it, and no call of the session detaches. -/
def KeepsAttachment (number : Nat) (sessionId : String) (service : ServiceState) :
    ServiceAction → Prop
  | .handler other drawn _ => other = number ∨ drawn ≠ sessionId ∧
      ∀ call, service.calls.lookup other = some call → call.setting.sessionId = sessionId →
        call.stage ≠ .opened ∧ call.stage ≠ .senderTaken
  | .requestEnded other =>
    ∀ call, service.calls.lookup other = some call → call.setting.sessionId ≠ sessionId
  | _ => True

/-- What the capability sends from an action on. -/
def sentFrom (sessionId : String) (action : ServiceAction) (later : List SessionServerEvent) :
    List SessionServerEvent :=
  match action with
  | .capabilitySends other event => if other = sessionId then event :: later else later
  | .capabilityExits other => if other = sessionId then [] else later
  | _ => later

/-- The resume makes a step, or none. -/
def Follows (number : Nat) (setting : ResumeSetting) (after : ServiceState)
    (later : List SessionServerEvent) (system : ResumeSystem) : Prop :=
  ∃ final, Shows number setting after later final ∧
    (final = system ∨ ∃ action, stepResume setting system action = some final)

section

variable {number : Nat} {setting : ResumeSetting} {service after : ServiceState}
  {call changed : Call} {found changedFound : Option SessionEntry}
  {later script : List SessionServerEvent} {client : ResumingClient}
  {handler next : HandlerPhase} {action : ServiceAction} {system : ResumeSystem}

theorem follows_to (rest : List SessionServerEvent) (left : ResumingClient)
    (call_eq : after.calls.lookup number = some changed)
    (found_eq : after.sessions.lookup setting.sessionId = changedFound)
    (setting_eq : changed.setting = setting) (stage_eq : handlerPhase changed.stage = some next)
    (scripted : Scripted later rest changedFound)
    (step : resumeSystem rest left next changed changedFound = system ∨ ∃ action,
      stepResume setting system action = some (resumeSystem rest left next changed changedFound)) :
    Follows number setting after later system := by
  subst found_eq
  exact ⟨_, ⟨changed, next, rest, left, call_eq, setting_eq, stage_eq, scripted, rfl⟩, step⟩

section

variable (call_eq : service.calls.lookup number = some call)
  (stage_eq : handlerPhase call.stage = some handler)
  (found_eq : service.sessions.lookup call.setting.sessionId = found)

section

variable (scripted : Scripted later script found)

include found_eq scripted in
theorem follows_put (action : ResumeAction) (left : ResumingClient)
    (setting_eq : changed.setting = call.setting)
    (next_eq : handlerPhase changed.stage = some next)
    (moves : stepResume call.setting (resumeSystem script client handler call found) action =
      some (resumeSystem script left next changed found)) :
    Follows number call.setting (service.putCall number changed) later
      (resumeSystem script client handler call found) :=
  follows_to script left (AList.lookup_insert _) found_eq setting_eq next_eq scripted
    (Or.inr ⟨action, moves⟩)

include call_eq stage_eq found_eq scripted

theorem handler_follows {drawn freshToken : String}
    (moved : service.stepHandler number drawn freshToken = some after) :
    Follows number call.setting after later (resumeSystem script client handler call found) := by
  have put {changed : Call} {next : HandlerPhase} :=
    @follows_put number service call changed found later script client handler next found_eq
      scripted (.handler freshToken) client
  simp only [ServiceState.stepHandler, call_eq, found_eq] at moved
  split at moved
  all_goals
    rename_i stage
    rw [stage] at stage_eq
    cases stage_eq
  · cases found <;> cases moved <;> exact put rfl rfl rfl
  · cases found <;> cases moved <;> exact put rfl rfl rfl
  · simp only [ServiceState.attachResumed, attachWithToken, withSessionState, found_eq] at moved
    split at moved
    · cases moved
    · cases found with
      | none =>
        cases moved
        exact put rfl rfl rfl
      | some entry =>
        dsimp only at moved
        cases granted_eq : entry.state.attachWithToken call.setting.fingerprint
            call.setting.resumeToken freshToken with
        | error err =>
          rw [granted_eq] at moved
          cases moved
          refine put (by rfl) (by rfl) ?_
          simp [stepResume, ResumeSystem.stepHandler, resumeSystem, granted_eq,
            ResumeSystem.failHandler, Call.fail]
        | ok granted =>
          rw [granted_eq] at moved
          cases moved
          refine follows_to script client (AList.lookup_insert _) (AList.lookup_insert _) (by rfl)
            (by rfl) ?_ (Or.inr ⟨.handler freshToken, ?_⟩)
          · rintro _ ⟨⟩
            exact scripted entry rfl
          · simp [stepResume, ResumeSystem.stepHandler, resumeSystem, granted_eq]
  · rw [bufferedOutputSince, found_eq] at moved
    cases found <;> cases moved <;> exact put rfl rfl rfl
  · obtain ⟨room, rfl⟩ := room_of_map_offer moved
    refine put (by rfl) (by rfl) ?_
    simp [stepResume, ResumeSystem.stepHandler, resumeSystem, offer_of_room room]
  · obtain ⟨room, rfl⟩ := room_of_map_offer moved
    refine put (by rfl) (by rfl) ?_
    simp [stepResume, ResumeSystem.stepHandler, resumeSystem, offer_of_room room]
  all_goals cases moved

theorem forwarder_follows (moved : service.stepForwarder number = some after) :
    Follows number call.setting after later (resumeSystem script client handler call found) := by
  have put {changed : Call} :=
    @follows_put number service call changed found later script client handler handler found_eq
      scripted .forwarder client
  simp only [ServiceState.stepForwarder, call_eq, found_eq] at moved
  split at moved
  · rename_i forwarder_eq subscription_eq
    split at moved
    all_goals
      rename_i received_eq
      cases found <;> cases moved
    all_goals
      refine put (by rfl) stage_eq ?_
      simp [stepResume, ResumeSystem.stepForwarder, resumeSystem, forwarder_eq, subscription_eq,
        received_eq]
  · rename_i forwarder_eq
    split_ifs at moved with open_eq
    · obtain ⟨room, rfl⟩ := room_of_map_offer moved
      refine put (by rfl) stage_eq ?_
      simp [stepResume, ResumeSystem.stepForwarder, resumeSystem, forwarder_eq, open_eq,
        offer_of_room room]
    · cases moved
      refine put (by rfl) stage_eq ?_
      simp [stepResume, ResumeSystem.stepForwarder, resumeSystem, forwarder_eq, open_eq]
  · cases moved

theorem reads_follows (moved : service.stepClientReads number = some after) :
    Follows number call.setting after later (resumeSystem script client handler call found) := by
  simp only [ServiceState.stepClientReads, call_eq] at moved
  split at moved
  · rename_i stage open_eq queue_eq
    cases moved
    refine follows_put found_eq scripted .transport client (by rfl) stage_eq ?_
    rw [stage] at stage_eq
    cases stage_eq
    simp [stepResume, ResumeSystem.stepTransport, resumeSystem, open_eq, queue_eq]
  · cases moved

theorem drop_follows (moved : service.stepResponseDropped number = some after) :
    Follows number call.setting after later (resumeSystem script client handler call found) := by
  simp only [ServiceState.stepResponseDropped, call_eq] at moved
  split at moved
  · rename_i stage
    rw [stage] at stage_eq
    cases stage_eq
  · rename_i stage
    rw [stage] at stage_eq
    cases stage_eq
    cases moved
    exact follows_put found_eq scripted .cancelRequest _ (by rfl) (by rfl) (by rfl)
  · rename_i stage
    cases moved
    refine follows_to script client (AList.lookup_insert _) found_eq (by rfl) stage_eq scripted ?_
    rw [stage] at stage_eq
    cases stage_eq
    cases open_eq : call.streamOpen with
    | true =>
      refine Or.inr ⟨.disconnect call.received.length, ?_⟩
      simp [stepResume, ResumeSystem.stepDisconnect, resumeSystem, open_eq]
    | false => simp [resumeSystem, open_eq]
  · cases moved

end

include call_eq stage_eq found_eq

theorem eventLoop_follows (scripted : Scripted later script found)
    (moved : service.stepEventLoop call.setting.sessionId = some after) :
    Follows number call.setting after later (resumeSystem script client handler call found) := by
  simp only [ServiceState.stepEventLoop, found_eq] at moved
  cases found with
  | none => cases moved
  | some entry =>
    dsimp only at moved
    split at moved
    · rename_i loop_eq
      split at moved
      · cases moved
      · rename_i events events_eq
        cases moved
        have script_eq := scripted entry rfl (by simp [loop_eq])
        refine follows_to (events ++ later) client call_eq (AList.lookup_insert _) rfl stage_eq ?_
          (Or.inr ⟨.eventLoop, ?_⟩)
        · rintro _ ⟨⟩ _
          rfl
        · simp [stepResume, ResumeSystem.stepEventLoop, resumeSystem, loop_eq, script_eq, events_eq]
    · rename_i event _ loop_eq
      cases moved
      refine follows_to script client call_eq (AList.lookup_insert _) rfl stage_eq ?_
        (Or.inr ⟨.eventLoop, ?_⟩)
      · rintro _ ⟨⟩ _
        exact scripted entry rfl (by simp [loop_eq])
      · cases event <;> simp [stepResume, ResumeSystem.stepEventLoop, resumeSystem, loop_eq]
    · rename_i broadcast loop_eq
      cases moved
      have delivered : (mapValues (ServiceState.deliver call.setting.sessionId broadcast)
          service.calls).lookup number = some { call with
            subscription := call.subscription.map fun waiting => waiting ++ [broadcast] } := by
        simp [lookup_mapValues, call_eq, ServiceState.deliver]
      refine follows_to script client delivered (AList.lookup_insert _) rfl stage_eq ?_
        (Or.inr ⟨.eventLoop, ?_⟩)
      · rintro _ ⟨⟩ _
        exact scripted entry rfl (by simp [loop_eq])
      · simp [stepResume, ResumeSystem.stepEventLoop, resumeSystem, loop_eq]
    · rename_i loop_eq
      cases moved
      refine follows_to script client call_eq (AList.lookup_erase _ _) rfl stage_eq ?_
        (Or.inr ⟨.eventLoop, ?_⟩)
      · rintro _ ⟨⟩
      · simp [stepResume, ResumeSystem.stepEventLoop, resumeSystem, loop_eq]
    · cases moved

theorem exits_follows (scripted : Scripted [] script found)
    (moved : service.stepCapabilityExits call.setting.sessionId = some after) :
    Follows number call.setting after later (resumeSystem script client handler call found) := by
  simp only [ServiceState.stepCapabilityExits, found_eq] at moved
  cases found with
  | none => cases moved
  | some entry =>
    dsimp only at moved
    split at moved
    · rename_i loop_eq events_eq
      cases moved
      have script_eq := scripted entry rfl (by simp [loop_eq])
      refine follows_to script client call_eq (AList.lookup_insert _) rfl stage_eq ?_
        (Or.inr ⟨.capabilityExit, ?_⟩)
      · rintro _ ⟨⟩ running
        exact absurd rfl running
      · simp [stepResume, ResumeSystem.stepCapabilityExit, resumeSystem, loop_eq, script_eq,
          events_eq]
    · cases moved

theorem sends_follows {event : SessionServerEvent} (scripted : Scripted (event :: later) script found)
    (moved : service.stepCapabilitySends call.setting.sessionId event = some after) :
    Follows number call.setting after later (resumeSystem script client handler call found) := by
  simp only [ServiceState.stepCapabilitySends, found_eq] at moved
  cases found with
  | none => cases moved
  | some entry =>
    obtain ⟨_, rfl⟩ := room_of_map_offer moved
    refine follows_to script client call_eq (AList.lookup_insert _) rfl stage_eq ?_ (Or.inl ?_)
    · rintro _ ⟨⟩ running
      simpa using scripted entry rfl running
    · rfl

end

/-- The action is one of the tasks of the call or of its session. -/
def Concerns (number : Nat) (sessionId : String) : ServiceAction → Prop
  | .handler other _ _ | .openFails other | .forwarder other | .clientReads other
  | .responseDropped other | .requestEnded other => other = number
  | .capabilitySends other _ | .eventLoop other | .capabilityExits other => other = sessionId
  | _ => False

theorem ServiceMove.apart {sessionId : String} (move : ServiceMove service action after)
    (call_eq : service.calls.lookup number = some call)
    (session_eq : call.setting.sessionId = sessionId)
    (keeps : KeepsAttachment number sessionId service action)
    (foreign : ¬Concerns number sessionId action) :
    after.calls.lookup number = some call ∧
      after.sessions.lookup sessionId = service.sessions.lookup sessionId := by
  have inserted {other : Nat} {changed : Call} (different : other ≠ number) :
      (service.calls.insert other changed).lookup number = some call := by
    rw [lookup_insert_eq, if_neg (Ne.symm different), call_eq]
  cases move with
  | calls _ _ _ unused =>
    refine ⟨inserted ?_, rfl⟩
    rintro rfl
    cases unused.symm.trans call_eq
  | handles | forwards | reads | leaves => exact ⟨inserted foreign, rfl⟩
  | drops _ _ _ _ own =>
    rcases own with rfl | rfl <;> exact ⟨inserted foreign, rfl⟩
  | creates =>
    have drawn_ne := (keeps.resolve_left foreign).1
    exact ⟨inserted foreign, AList.lookup_insert_ne (Ne.symm drawn_ne)⟩
  | attaches _ _ _ other _ other_eq stage_eq | resumes _ _ _ other _ other_eq stage_eq =>
    refine ⟨inserted foreign, AList.lookup_insert_ne fun same => ?_⟩
    have quiet := (keeps.resolve_left foreign).2 other other_eq same.symm
    simp [stage_eq] at quiet
  | detaches _ other _ other_eq =>
    exact ⟨inserted foreign, AList.lookup_insert_ne (Ne.symm (keeps other other_eq))⟩
  | works _ _ _ _ _ move =>
    refine ⟨call_eq, AList.lookup_insert_ne ?_⟩
    cases move <;> exact Ne.symm foreign
  | publishes =>
    refine ⟨?_, AList.lookup_insert_ne (Ne.symm foreign)⟩
    rw [lookup_mapValues, call_eq, Option.map_some, ServiceState.deliver, if_neg]
    rw [session_eq]
    exact Ne.symm foreign
  | removes => exact ⟨call_eq, AList.lookup_erase_ne (Ne.symm foreign)⟩
  | lists => exact ⟨call_eq, rfl⟩

theorem step_follows (moved : stepService service action = some after)
    (keeps : KeepsAttachment number setting.sessionId service action)
    (shown : Shows number setting service (sentFrom setting.sessionId action later) system) :
    Follows number setting after later system := by
  obtain ⟨call, _, script, client, call_eq, rfl, stage_eq, scripted, rfl⟩ := shown
  by_cases own : Concerns number call.setting.sessionId action
  · cases action <;> cases own
    · exact handler_follows call_eq stage_eq rfl scripted moved
    · -- only a call that still opens its session fails to open it
      simp only [stepService, ServiceState.stepOpenFails, call_eq] at moved
      split at moved
      · simp_all [handlerPhase]
      · cases moved
    · exact forwarder_follows call_eq stage_eq rfl scripted moved
    · exact reads_follows call_eq stage_eq rfl scripted moved
    · exact drop_follows call_eq stage_eq rfl scripted moved
    · exact absurd rfl (keeps call call_eq)
    · rw [sentFrom, if_pos rfl] at scripted
      exact sends_follows call_eq stage_eq rfl scripted moved
    · exact eventLoop_follows call_eq stage_eq rfl scripted moved
    · rw [sentFrom, if_pos rfl] at scripted
      exact exits_follows call_eq stage_eq rfl scripted moved
  · obtain ⟨still_eq, found_eq⟩ := ServiceMove.apart (stepService_move moved) call_eq rfl keeps own
    have later_eq : sentFrom call.setting.sessionId action later = later := by
      cases action
      case capabilitySends | capabilityExits => exact if_neg own
      all_goals rfl
    rw [later_eq] at scripted
    exact follows_to script client still_eq found_eq rfl stage_eq scripted (Or.inl rfl)

/-- Every run of the service that leaves the attachment to the resume is a run of the resume. -/
theorem run_follows {actions : List ServiceAction}
    (run : Performs stepService (KeepsAttachment number setting.sessionId) service actions after)
    (later : List SessionServerEvent)
    (shown : Shows number setting service (actions.foldr (sentFrom setting.sessionId) later)
      system) :
    ∃ final, Shows number setting after later final ∧
      Reaches (stepResume setting) anyAction system final := by
  induction run generalizing later with
  | start => exact ⟨system, shown, Reaches.refl system⟩
  | step _ permitted moved ih =>
    rw [List.foldr_append] at shown
    obtain ⟨_, middle_shown, reached⟩ := ih _ shown
    obtain ⟨final, final_shown, same | ⟨_, stepped⟩⟩ :=
      step_follows moved permitted middle_shown
    · exact ⟨final, final_shown, same ▸ reached⟩
    · exact ⟨final, final_shown, reached.tail trivial stepped⟩

end

end HandControl.ResumedCalls
