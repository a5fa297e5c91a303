import HandControl.SessionAttachments

/-!
# Who resumes a session

A resume is granted to whoever presents the current token of the session; the owner is never
compared. Tokens reach clients in the messages of their own calls, and in the reply to ListSessions,
which shows every caller every token. As long as no client lists a session of somebody else, its
tokens are read by its owner only.
-/

namespace HandControl.SessionOwnership

open KeyedTable CapabilitySessions SessionResume SessionManager SessionService SessionAttachments
open TransitionRuns ServiceState Table

/-- A client that asks for an attachment presents a token that it has read in a reply, or
one that was never issued. Tokens are random UUIDs, so they are not guessed. -/
def PresentsReadToken (service : ServiceState) (action : ServiceAction) : Prop :=
  ∀ number sessionId freshToken call, action = .handler number sessionId freshToken →
    service.calls.lookup number = some call → call.stage = .senderTaken →
      (call.setting.fingerprint, call.setting.resumeToken) ∈ service.learned ∨
        service.issued.lookup call.setting.resumeToken = none

/-- A client lists the sessions only when each of them is its own or has no owner. -/
def ListsOwnSessions (service : ServiceState) (action : ServiceAction) : Prop :=
  ∀ fingerprint sessionId entry owner, action = .listSessions fingerprint →
    service.sessions.lookup sessionId = some entry → entry.ownerFingerprint = some owner →
      fingerprint = some owner

def KeepsTokensPrivate (service : ServiceState) (action : ServiceAction) : Prop :=
  PresentsReadToken service action ∧ ListsOwnSessions service action

def broadcastTokens (broadcast : SessionBroadcastEvent) : List String :=
  match broadcast.event with
  | .ready _ => [broadcast.resumeToken.getD ""]
  | _ => []

def loopTokens : LoopPhase → List String
  | .publishing broadcast => broadcastTokens broadcast
  | _ => []

def stageTokens : CallStage → List String
  | .attached (some nextToken) => [nextToken]
  | .replaying nextToken _ => [nextToken]
  | _ => []

def forwarderTokens : Option ForwarderPhase → List String
  | some (.sending message) => ServiceState.messageTokens message
  | _ => []

def subscriptionTokens (subscription : Option (List SessionBroadcastEvent)) : List String :=
  (subscription.getD []).flatMap broadcastTokens

def carriedTokens (call : Call) : List String :=
  stageTokens call.stage ++ subscriptionTokens call.subscription ++
    forwarderTokens call.forwarder ++ call.queue.flatMap ServiceState.messageTokens

theorem sessionEventToProto_tokens (setting : ResumeSetting) (broadcast : SessionBroadcastEvent) :
    messageTokens (sessionEventToProto setting broadcast.event
      broadcast.bufferedOutput broadcast.resumeToken) = broadcastTokens broadcast := by
  unfold messageTokens sessionEventToProto broadcastTokens
  cases broadcast.event <;> rfl

section

variable {service : ServiceState} {call changed : Call}

theorem HandlerMove.carriedTokens_subset (move : HandlerMove service call changed) :
    carriedTokens changed ⊆ carriedTokens call := by
  intro token
  cases move with
  | fails =>
    simp only [carriedTokens, Call.fail, stageTokens, subscriptionTokens, List.mem_append]
    grind
  | spawns stage_eq | snapshots nextToken entry stage_eq =>
    simp only [carriedTokens, Call.spawn, stage_eq, stageTokens, forwarderTokens, List.mem_append]
    grind
  | locates entry stage_eq | takesSender stage_eq =>
    simp only [carriedTokens, stage_eq, stageTokens, List.mem_append]
    grind
  | subscribes stage_eq =>
    simp only [carriedTokens, stage_eq, stageTokens, subscriptionTokens, List.mem_append]
    grind
  | replays _ _ _ stage_eq =>
    simp only [carriedTokens, stage_eq, stageTokens, List.flatMap_append, List.mem_append]
    simp [replayMessage, sessionEventToProto, messageTokens]
  | acknowledges _ stage_eq =>
    simp only [carriedTokens, stage_eq, stageTokens, List.flatMap_append, List.mem_append]
    simp only [List.flatMap_cons, List.flatMap_nil, resumeAckMessage,
      messageTokens, List.append_nil]
    grind

theorem ForwarderMove.carriedTokens_subset (move : ForwarderMove call changed) :
    carriedTokens changed ⊆ carriedTokens call := by
  intro token
  cases move with
  | receives _ _ forwarder_eq subscription_eq =>
    simp only [carriedTokens, forwarder_eq, subscription_eq, forwarderTokens,
      subscriptionTokens, sessionEventToProto_tokens, Option.getD_some, List.flatMap_cons,
      List.mem_append]
    grind
  | lags waiting _ subscription_eq =>
    simp only [carriedTokens, subscription_eq, subscriptionTokens, Option.getD_some,
      List.mem_append, List.mem_flatMap]
    have dropped : ∀ count broadcast, broadcast ∈ waiting.drop count → broadcast ∈ waiting :=
      fun _ _ member => List.mem_of_mem_drop member
    grind
  | closes forwarder_eq | stops message forwarder_eq =>
    simp only [carriedTokens, forwarder_eq, forwarderTokens, List.mem_append]
    grind
  | sends _ forwarder_eq =>
    simp only [carriedTokens, forwarder_eq, forwarderTokens, List.flatMap_append,
      List.flatMap_cons, List.flatMap_nil, List.append_nil, List.mem_append]
    grind

theorem DropMove.carriedTokens_subset (move : DropMove call changed) :
    carriedTokens changed ⊆ carriedTokens call := by
  intro token
  cases move with
  | cancels | refuses =>
    simp only [carriedTokens, stageTokens, List.mem_append]
    grind
  | closes => exact id

end

def MayRead (service : ServiceState) (fingerprint : Option String) (sessionId : String) : Prop :=
  ∃ recorded, service.opened.lookup sessionId = some recorded ∧
    ∀ owner, recorded = some owner → fingerprint = some owner

structure EntryOwned (service : ServiceState) (sessionId : String) (entry : SessionEntry) :
    Prop where
  token : service.issued.lookup entry.state.resumeToken = some sessionId
  owner : service.opened.lookup sessionId = some entry.ownerFingerprint
  loop : ∀ token ∈ loopTokens entry.eventLoop, service.issued.lookup token = some sessionId

def isJoined : CallStage → Bool
  | .replaying _ _ => true
  | .returned => true
  | _ => false

structure CallOwned (service : ServiceState) (call : Call) : Prop where
  owner : call.stage = .opened ∨ call.attachment.isSome = true →
    MayRead service call.setting.fingerprint call.setting.sessionId
  opening : ∀ capabilityName, call.stage = .opening capabilityName →
    call.subscription = none ∧ call.queue = []
  joined : isJoined call.stage = true → call.attachment.isSome = true
  tokens : ∀ token ∈ carriedTokens call, service.issued.lookup token = some call.setting.sessionId

/-- Every token lies where only the owner of its session reads it. -/
structure OwnershipInvariant (service : ServiceState) : Prop where
  formed : Table.Every WellFormed service.calls
  entries : ∀ sessionId entry, service.sessions.lookup sessionId = some entry →
    EntryOwned service sessionId entry
  calls : Table.Every (CallOwned service) service.calls
  learned : ∀ fingerprint token, (fingerprint, token) ∈ service.learned →
    ∃ sessionId, service.issued.lookup token = some sessionId ∧
      MayRead service fingerprint sessionId
  resumes : ∀ record ∈ service.resumes, ∀ owner, record.ownerFingerprint = some owner →
    record.clientFingerprint = some owner

/-- Sessions and tokens that are known stay known. -/
structure Grows (before after : ServiceState) : Prop where
  issued : ∀ token sessionId, before.issued.lookup token = some sessionId →
    after.issued.lookup token = some sessionId
  opened : ∀ sessionId recorded, before.opened.lookup sessionId = some recorded →
    after.opened.lookup sessionId = some recorded

variable {fingerprint : Option String} {entry : SessionEntry}
variable {capabilityName sessionId freshToken : String} {broadcast : SessionBroadcastEvent}
variable {number : Nat} {call : Call}

section

variable {before after : ServiceState} {changed : Call}

theorem Grows.of_same (issued : after.issued = before.issued)
    (opened : after.opened = before.opened) : Grows before after := by
  constructor
  · intro token sessionId found
    rw [issued]
    exact found
  · intro sessionId recorded found
    rw [opened]
    exact found

section

variable (grows : Grows before after)

include grows

theorem Grows.mayRead (may_read : MayRead before fingerprint sessionId) :
    MayRead after fingerprint sessionId := by
  obtain ⟨recorded, opened_eq, owned⟩ := may_read
  exact ⟨recorded, grows.opened sessionId recorded opened_eq, owned⟩

theorem Grows.entryOwned (owned : EntryOwned before sessionId entry) :
    EntryOwned after sessionId entry := by
  constructor
  · exact grows.issued _ _ owned.token
  · exact grows.opened _ _ owned.owner
  · intro token carried
    exact grows.issued token sessionId (owned.loop token carried)

theorem Grows.callOwned (owned : CallOwned before call) : CallOwned after call := by
  constructor
  · intro attached
    exact grows.mayRead (owned.owner attached)
  · exact owned.opening
  · exact owned.joined
  · intro token carried
    exact grows.issued token _ (owned.tokens token carried)

theorem Grows.learned {token : String}
    (read : ∃ sessionId, before.issued.lookup token = some sessionId ∧ MayRead before fingerprint
      sessionId) :
    ∃ sessionId, after.issued.lookup token = some sessionId ∧
      MayRead after fingerprint sessionId := by
  obtain ⟨sessionId, issued_eq, may_read⟩ := read
  exact ⟨sessionId, grows.issued token sessionId issued_eq, grows.mayRead may_read⟩

end

theorem CallOwned.of_subset (owned : CallOwned before call)
    (same : changed.setting.sessionId = call.setting.sessionId ∧
      changed.setting.fingerprint = call.setting.fingerprint ∧
      changed.attachment = call.attachment)
    (stage : changed.stage ≠ .opened ∨ changed.stage = call.stage)
    (opening : ∀ capabilityName, changed.stage = .opening capabilityName →
      changed.subscription = none ∧ changed.queue = [])
    (joined : isJoined changed.stage = true → call.attachment.isSome = true)
    (carried : carriedTokens changed ⊆ carriedTokens call) : CallOwned before changed := by
  obtain ⟨session_eq, fingerprint_eq, attachment_eq⟩ := same
  constructor
  · rw [session_eq, fingerprint_eq, attachment_eq]
    rintro (opened | attached)
    · rcases stage with different | stage_eq
      · exact absurd opened different
      · exact owned.owner (Or.inl (stage_eq ▸ opened))
    · exact owned.owner (Or.inr attached)
  · exact opening
  · intro stage_eq
    rw [attachment_eq]
    exact joined stage_eq
  · intro token token_in
    rw [session_eq]
    exact owned.tokens token (carried token_in)

theorem HandlerMove.callOwned {service : ServiceState} (move : HandlerMove service call changed)
    (formed : WellFormed call) (owned : CallOwned before call) : CallOwned before changed := by
  have same := HandlerMove.sameCall move
  have stage : changed.stage ≠ .opened := by
    cases move <;> simp [Call.fail, Call.spawn]
  have opening : ∀ capabilityName, changed.stage ≠ .opening capabilityName := by
    cases move <;> simp [Call.fail, Call.spawn]
  refine owned.of_subset ⟨same.session, same.fingerprint, same.attachment⟩ (Or.inl stage)
    ?_ ?_ (HandlerMove.carriedTokens_subset move)
  · intro capabilityName stage_eq
    exact absurd stage_eq (opening capabilityName)
  · intro joined
    cases move with
    | spawns stage_eq => exact (formed.attached none stage_eq).1
    | snapshots nextToken _ stage_eq => exact (formed.attached (some nextToken) stage_eq).1
    | replays _ _ _ stage_eq | acknowledges nextToken stage_eq =>
      exact owned.joined (by rw [stage_eq]; rfl)
    | _ => simp [Call.fail, isJoined] at joined

theorem ForwarderMove.callOwned (move : ForwarderMove call changed)
    (formed : WellFormed call) (owned : CallOwned before call) : CallOwned before changed := by
  have same := ForwarderMove.sameCall move
  have stage_eq := ForwarderMove.stage_eq move
  have running := ForwarderMove.running move
  refine owned.of_subset ⟨same.session, same.fingerprint, same.attachment⟩ (Or.inr stage_eq)
    ?_ ?_ (ForwarderMove.carriedTokens_subset move)
  · intro capabilityName opening
    rw [stage_eq] at opening
    exact absurd (formed.early (by rw [opening]; rfl)).2.2 running
  · intro joined
    exact owned.joined (stage_eq ▸ joined)

theorem DropMove.callOwned (move : DropMove call changed) (owned : CallOwned before call) :
    CallOwned before changed := by
  have carried := DropMove.carriedTokens_subset move
  cases move with
  | cancels | refuses =>
    exact owned.of_subset ⟨rfl, rfl, rfl⟩ (Or.inl (by simp)) (by simp) (by simp [isJoined]) carried
  | closes => exact owned.of_subset ⟨rfl, rfl, rfl⟩ (Or.inr rfl) owned.opening owned.joined carried

theorem newCall_owned (new_call : IsNewCall call) : CallOwned before call := by
  obtain ⟨kind, setting, stage, rfl, arrival⟩ := new_call
  have early : stage ≠ .opened ∧ isJoined stage = false ∧ stageTokens stage = [] := by
    rcases arrival with ⟨_, _, rfl⟩ | ⟨_, rfl⟩ <;> exact ⟨by simp, rfl, rfl⟩
  constructor
  · rintro (opened | attached)
    · exact absurd opened early.1
    · cases attached
  · intro capabilityName _
    exact ⟨rfl, rfl⟩
  · intro joined
    rw [show (newCall kind setting stage).stage = stage from rfl, early.2.1] at joined
    cases joined
  · intro token carried
    simp [carriedTokens, newCall, early.2.2, subscriptionTokens, forwarderTokens] at carried

section

variable (owned : CallOwned before call)

include owned

theorem CallOwned.created (formed : WellFormed call)
    (stage_eq : call.stage = .opening capabilityName)
    (owner_eq : before.opened.lookup sessionId = some call.setting.fingerprint) :
    CallOwned before (call.created sessionId) := by
  have queue_eq := (owned.opening capabilityName stage_eq).2
  have forwarder_eq := (formed.early (by rw [stage_eq]; rfl)).2.2
  constructor
  · intro _
    exact ⟨call.setting.fingerprint, owner_eq, fun _ owner => owner⟩
  · intro name opening
    cases opening
  · intro joined
    cases joined
  · intro token carried
    simp [carriedTokens, Call.created, stageTokens, subscriptionTokens, forwarder_eq,
      forwarderTokens, queue_eq] at carried

theorem CallOwned.attached
    (may_read : MayRead before call.setting.fingerprint call.setting.sessionId)
    (stage_eq : stageTokens call.stage = []) {nextToken : Option String}
    (issued_eq : ∀ token, nextToken = some token → before.issued.lookup token = some
      call.setting.sessionId) {attachment : AttachmentState} :
    CallOwned before
      { call with stage := .attached nextToken, attachment := some attachment } := by
  constructor
  · intro _
    exact may_read
  · intro name opening
    cases opening
  · intro _
    rfl
  · intro token carried
    cases nextToken with
    | none =>
      apply owned.tokens token
      rw [carriedTokens, stage_eq]
      exact carried
    | some nextToken =>
      simp only [carriedTokens, stageTokens, List.mem_append, List.mem_singleton] at carried
      by_cases same : token = nextToken
      · exact issued_eq token (congrArg some same.symm)
      · apply owned.tokens token
        simp only [carriedTokens, stage_eq, List.nil_append, List.mem_append]
        grind

theorem deliver_owned
    (issued : ∀ token ∈ broadcastTokens broadcast, before.issued.lookup token = some sessionId) :
    CallOwned before (deliver sessionId broadcast call) := by
  unfold deliver
  split_ifs with same
  · constructor
    · exact owned.owner
    · intro capabilityName stage_eq
      obtain ⟨subscription_eq, queue_eq⟩ := owned.opening capabilityName stage_eq
      exact ⟨by simp [subscription_eq], queue_eq⟩
    · exact owned.joined
    · intro token carried
      cases subscription_eq : call.subscription with
      | none =>
        apply owned.tokens token
        simpa [carriedTokens, subscription_eq] using carried
      | some =>
        have either : token ∈ broadcastTokens broadcast ∨ token ∈ carriedTokens call := by
          simp only [carriedTokens, subscription_eq, subscriptionTokens, Option.map_some,
            Option.getD_some, List.flatMap_append, List.flatMap_cons, List.flatMap_nil,
            List.append_nil, List.mem_append] at carried ⊢
          grind
        rcases either with published | earlier
        · rw [same]
          exact issued token published
        · exact owned.tokens token earlier
  · exact owned

end

end

section

variable {service after : ServiceState} {action : ServiceAction}

/-- The client of a resume has read the token of the session, so it is the owner. -/
theorem OwnershipInvariant.mayRead (invariant : OwnershipInvariant service)
    (entry_eq : service.sessions.lookup call.setting.sessionId = some entry)
    (token_eq : entry.state.resumeToken = call.setting.resumeToken)
    (presented : (call.setting.fingerprint, call.setting.resumeToken) ∈ service.learned ∨
      service.issued.lookup call.setting.resumeToken = none) :
    MayRead service call.setting.fingerprint call.setting.sessionId := by
  have issued_eq := (invariant.entries call.setting.sessionId entry entry_eq).token
  rw [token_eq] at issued_eq
  rcases presented with read | unknown
  · obtain ⟨_, read_eq, may_read⟩ := invariant.learned _ _ read
    rw [issued_eq] at read_eq
    cases read_eq
    exact may_read
  · rw [unknown] at issued_eq
    cases issued_eq

/-- The event loop takes up no token but that of its session. -/
theorem EntryMove.tokens {updated : SessionEntry}
    (move : EntryMove sessionId entry action updated) (token : String)
    (carried : token ∈ loopTokens updated.eventLoop) :
    token ∈ loopTokens entry.eventLoop ∨ token = entry.state.resumeToken := by
  cases move with
  | sends => exact Or.inl carried
  | records | exits => cases carried
  | prepares event _ _ _ token_eq =>
    cases event with
    | ready message =>
      rw [loopTokens, broadcastTokens, token_eq message rfl, Option.getD_some,
        List.mem_singleton] at carried
      exact Or.inr carried
    | _ => cases carried

theorem ServiceMove.grows (move : ServiceMove service action after) : Grows service after := by
  cases move with
  | creates _ sessionId _ _ call _ _ new_session new_token =>
    constructor
    · intro token session found
      exact lookup_insert_of_absent new_token found sessionId
    · intro session recorded found
      exact lookup_insert_of_absent new_session found call.setting.fingerprint
  | resumes _ _ _ call _ _ _ _ _ _ new_token =>
    constructor
    · intro token session found
      exact lookup_insert_of_absent new_token found call.setting.sessionId
    · intro session recorded found
      exact found
  | _ => exact .of_same rfl rfl

section

variable (move : ServiceMove service action after) (invariant : OwnershipInvariant service)

include move invariant

theorem ServiceMove.entriesOwned (sessionId : String) (entry : SessionEntry)
    (entry_eq : after.sessions.lookup sessionId = some entry) :
    service.sessions.lookup sessionId = some entry ∨ EntryOwned after sessionId entry := by
  have grows := ServiceMove.grows move
  have kept sessionId entry entry_eq :=
    grows.entryOwned (invariant.entries sessionId entry entry_eq)
  revert sessionId entry
  cases move with
  | creates =>
    apply lookup_insert_or
    constructor
    · simp [newEntry, SessionState.new]
    · simp [newEntry]
    · intro token carried
      cases carried
  | attaches _ _ _ call entry _ _ entry_eq | detaches _ call entry _ _ entry_eq =>
    have owned := kept call.setting.sessionId entry entry_eq
    apply lookup_insert_or
    exact ⟨owned.token, owned.owner, owned.loop⟩
  | resumes _ _ _ call entry _ _ entry_eq =>
    have owned := kept call.setting.sessionId entry entry_eq
    apply lookup_insert_or
    refine ⟨?_, owned.owner, owned.loop⟩
    simp [SessionEntry.resumedBy]
  | works _ sessionId entry _ entry_eq move =>
    have owned := kept sessionId entry entry_eq
    obtain ⟨_, token_eq, _, owner_eq⟩ := move.keeps
    apply lookup_insert_or
    refine ⟨token_eq ▸ owned.token, owner_eq ▸ owned.owner, ?_⟩
    intro token carried
    rcases EntryMove.tokens move token carried with earlier | rfl
    · exact owned.loop token earlier
    · exact owned.token
  | publishes sessionId _ entry _ entry_eq _ next_eq =>
    have owned := kept sessionId entry entry_eq
    apply lookup_insert_or
    refine ⟨owned.token, owned.owner, ?_⟩
    intro token carried
    rcases next_eq with ⟨rfl, _⟩ | rfl <;> cases carried
  | removes => exact fun _ _ entry_eq => Or.inl (lookup_of_erase entry_eq).2
  | _ => exact fun _ _ => Or.inl

section

variable (permitted : KeepsTokensPrivate service action)

include permitted

theorem ServiceMove.callsOwned : Table.Every (CallOwned after) after.calls := by
  have grows := ServiceMove.grows move
  have every : Table.Every (CallOwned after) service.calls := fun number call call_eq =>
    grows.callOwned (invariant.calls number call call_eq)
  have formed := invariant.formed
  cases move with
  | calls _ number _ _ new_call => exact every.insert number (newCall_owned new_call)
  | handles number _ _ call _ call_eq move =>
    exact every.insert number (HandlerMove.callOwned move (formed number call call_eq)
      (every number call call_eq))
  | forwards number call _ call_eq move =>
    exact every.insert number (ForwarderMove.callOwned move (formed number call call_eq)
      (every number call call_eq))
  | drops _ number call _ _ call_eq move =>
    exact every.insert number (DropMove.callOwned move (every number call call_eq))
  | creates number _ _ _ call call_eq stage_eq =>
    apply every.insert number
    apply (every number call call_eq).created (formed number call call_eq) stage_eq
    simp
  | attaches number _ _ call _ call_eq stage_eq =>
    have owned := every number call call_eq
    apply every.insert number
    apply owned.attached (owned.owner (Or.inl stage_eq))
    · rw [stage_eq]
      rfl
    · intro token token_eq
      cases token_eq
  | resumes number sessionId freshToken call _ call_eq stage_eq entry_eq _ token_eq =>
    have presented := permitted.1 number sessionId freshToken call rfl call_eq stage_eq
    apply every.insert number
    apply (every number call call_eq).attached
      (grows.mayRead (invariant.mayRead entry_eq token_eq presented))
    · rw [stage_eq]
      rfl
    · intro token token_eq
      cases token_eq
      simp
  | reads number call _ _ call_eq stage_eq _ queue_eq =>
    have owned := every number call call_eq
    apply every.insert number
    refine owned.of_subset ⟨rfl, rfl, rfl⟩ (Or.inr rfl) ?_ owned.joined ?_
    · intro capabilityName opening
      rw [stage_eq] at opening
      cases opening
    · intro token
      simp only [carriedTokens, queue_eq, List.flatMap_cons, List.mem_append]
      grind
  | detaches number call _ call_eq | leaves number call call_eq =>
    have owned := every number call call_eq
    exact every.insert number ⟨owned.owner, owned.opening, owned.joined, owned.tokens⟩
  | publishes sessionId _ entry _ entry_eq loop_eq =>
    apply every.mapValues
    intro call owned
    apply deliver_owned owned
    intro token published
    apply (invariant.entries sessionId entry entry_eq).loop token
    rw [loop_eq]
    exact published
  | _ => exact every

theorem ServiceMove.learnedByReaders {token : String}
    (read : (fingerprint, token) ∈ after.learned) :
    ∃ sessionId, service.issued.lookup token = some sessionId ∧
      MayRead service fingerprint sessionId := by
  cases move with
  | reads number call _ _ call_eq stage_eq _ queue_eq =>
    rcases List.mem_append.mp read with earlier | new
    · exact invariant.learned fingerprint token earlier
    · obtain ⟨_, found_in, pair_eq⟩ := List.mem_map.mp new
      cases pair_eq
      have owned := invariant.calls number call call_eq
      have attached : call.attachment.isSome = true := owned.joined (by rw [stage_eq]; rfl)
      refine ⟨call.setting.sessionId, owned.tokens token ?_, owned.owner (Or.inr attached)⟩
      simp only [carriedTokens, queue_eq, List.flatMap_cons, List.mem_append]
      exact Or.inr (Or.inl found_in)
  | lists =>
    rcases List.mem_append.mp read with earlier | new
    · exact invariant.learned fingerprint token earlier
    · obtain ⟨_, listed, pair_eq⟩ := List.mem_map.mp new
      cases pair_eq
      obtain ⟨sessionId, entry, entry_eq, rfl⟩ := mem_listSessions listed
      have owned := invariant.entries sessionId entry entry_eq
      refine ⟨sessionId, owned.token, entry.ownerFingerprint, owned.owner, ?_⟩
      intro owner owner_eq
      exact permitted.2 fingerprint sessionId entry owner rfl entry_eq owner_eq
  | _ => exact invariant.learned fingerprint token read

theorem ServiceMove.resumedByOwners (record : ResumeRecord) (record_in : record ∈ after.resumes)
    (owner : String) (owner_eq : record.ownerFingerprint = some owner) :
    record.clientFingerprint = some owner := by
  cases move with
  | resumes number sessionId freshToken call entry call_eq stage_eq entry_eq _ token_eq =>
    rcases List.mem_append.mp record_in with earlier | new
    · exact invariant.resumes record earlier owner owner_eq
    · rw [List.mem_singleton] at new
      subst new
      have presented := permitted.1 number sessionId freshToken call rfl call_eq stage_eq
      obtain ⟨_, recorded_eq, matched⟩ := invariant.mayRead entry_eq token_eq presented
      rw [(invariant.entries call.setting.sessionId entry entry_eq).owner] at recorded_eq
      cases recorded_eq
      exact matched owner owner_eq
  | _ => exact invariant.resumes record record_in owner owner_eq

theorem ServiceMove.ownership : OwnershipInvariant after := by
  have grows := ServiceMove.grows move
  refine ⟨ServiceMove.wellFormed move invariant.formed, ?_,
    ServiceMove.callsOwned move invariant permitted, ?_,
    ServiceMove.resumedByOwners move invariant permitted⟩
  · intro sessionId entry entry_eq
    rcases ServiceMove.entriesOwned move invariant sessionId entry entry_eq with earlier | owned
    · exact grows.entryOwned (invariant.entries sessionId entry earlier)
    · exact owned
  · intro fingerprint token read
    exact grows.learned (ServiceMove.learnedByReaders move invariant permitted read)

end

end

end

theorem ownershipInvariant_empty : OwnershipInvariant empty := by
  constructor
  · intro number call call_eq
    cases call_eq
  · intro sessionId entry entry_eq
    cases entry_eq
  · intro number call call_eq
    cases call_eq
  · intro fingerprint token read
    cases read
  · intro record record_in
    cases record_in

/-- As long as clients present tokens they have read and list no session of somebody else,
every resume of an owned session is a resume by its owner. -/
theorem resumed_by_owner {service : ServiceState}
    (run : Reaches stepService KeepsTokensPrivate ServiceState.empty service) :
    ∀ record ∈ service.resumes, ∀ owner, record.ownerFingerprint = some owner →
      record.clientFingerprint = some owner := by
  have invariant : OwnershipInvariant service := by
    apply run.invariant ownershipInvariant_empty
    intro before action after invariant permitted moved
    exact ServiceMove.ownership (stepService_move moved) invariant permitted
  exact invariant.resumes

/-- The owner of a session leaves it. In the first run the owner lists the sessions and
resumes its own, in the second run another client does. -/
def resumingActions (fingerprint : Option String) : List ServiceAction :=
  [.listSessions fingerprint, .callResume 2 fingerprint "session" "first" none none,
    .handler 2 "" "", .handler 2 "" "", .handler 2 "" "", .handler 2 "" "second"]

instance (service : ServiceState) (action : ServiceAction) :
    Decidable (PresentsReadToken service action) := by
  rcases action
  case handler number _ _ =>
    exact decidable_of_iff (∀ call ∈ service.calls.lookup number, call.stage = .senderTaken →
      (call.setting.fingerprint, call.setting.resumeToken) ∈ service.learned ∨
        service.issued.lookup call.setting.resumeToken = none)
      ⟨by rintro holds _ _ _ call ⟨⟩; exact holds call, fun holds call => holds _ _ _ call rfl⟩
  all_goals exact isTrue (by simp [PresentsReadToken])

instance (service : ServiceState) (action : ServiceAction) :
    Decidable (ListsOwnSessions service action) := by
  rcases action
  case listSessions fingerprint =>
    exact decidable_of_iff (Table.Every (fun entry : SessionEntry =>
      ∀ owner ∈ entry.ownerFingerprint, fingerprint = some owner) service.sessions)
      ⟨by rintro holds _ key entry owner ⟨⟩ found; exact holds key entry found owner,
        fun holds key entry found owner => holds _ key entry owner rfl found⟩
  all_goals exact isTrue (by simp [ListsOwnSessions])

instance (service : ServiceState) (action : ServiceAction) :
    Decidable (KeepsTokensPrivate service action) :=
  inferInstanceAs (Decidable (_ ∧ _))

theorem owner_resumes_own_session :
    ∃ service, Reaches stepService KeepsTokensPrivate ServiceState.empty service ∧
      service.resumes = [⟨"session", some "alice", some "alice"⟩] ∧
      ∀ record ∈ service.resumes, ∀ owner, record.ownerFingerprint = some owner →
        record.clientFingerprint = some owner := by
  obtain ⟨service, run, seen⟩ :
      ∃ service, Reaches stepService KeepsTokensPrivate ServiceState.empty service ∧
        service.resumes = [⟨"session", some "alice", some "alice"⟩] :=
    reaches_of_evaluated (leavingActions ++ resumingActions (some "alice")) (by decide +kernel)
  exact ⟨service, run, seen, resumed_by_owner run⟩

theorem stranger_resumes_listed_session :
    ∃ service, Reaches stepService PresentsReadToken ServiceState.empty service ∧
      service.resumes = [⟨"session", some "alice", some "bob"⟩] := by
  refine reaches_of_evaluated (leavingActions ++ resumingActions (some "bob")) ?_
  decide +kernel

end HandControl.SessionOwnership
