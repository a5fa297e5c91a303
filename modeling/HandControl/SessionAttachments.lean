import HandControl.ExclusiveSlots
import HandControl.SessionService

/-!
# Who holds the attachment of a session

The attachment is a slot with one holder: the call whose attach succeeded and whose task has not
detached yet. A detach names the session only. The steps of the session service are steps of the
ledger of such slots.
-/

namespace HandControl.SessionAttachments

open KeyedTable ExclusiveSlots CapabilitySessions SessionResume SessionManager SessionService
open TransitionRuns Table

/-- The handler has not called `attach` or `attach_with_token` yet. -/
def isEarly : CallStage → Bool
  | .opening _ | .opened | .starting | .located | .subscribed | .senderTaken => true
  | _ => false

/-- The tasks of a call are spawned after its attach succeeded. -/
structure WellFormed (call : Call) : Prop where
  early : isEarly call.stage = true →
    call.attachment = none ∧ call.clientTask = .notSpawned ∧ call.forwarder = none
  attached : ∀ nextToken, call.stage = .attached nextToken →
    call.attachment.isSome = true ∧ call.clientTask = .notSpawned ∧ call.forwarder = none
  task : call.clientTask ≠ .notSpawned → call.attachment.isSome = true
  forwarder : call.forwarder ≠ none → call.clientTask ≠ .notSpawned

variable {number : Nat} {action : ServiceAction} {call : Call} {sessionId : String}
variable {service after : ServiceState} {entry updated : SessionEntry} {calls : Table Nat Call}

section

variable {changed : Call}

theorem WellFormed.of_same (formed : WellFormed call)
    (stage_eq : isEarly changed.stage = true → isEarly call.stage = true)
    (attached_eq : ∀ nextToken, changed.stage ≠ .attached nextToken)
    (attachment_eq : changed.attachment = call.attachment)
    (task_eq : changed.clientTask = call.clientTask)
    (forwarder_eq : changed.forwarder ≠ none → call.forwarder ≠ none) : WellFormed changed := by
  refine ⟨?_, ?_, ?_, ?_⟩
  · intro early
    obtain ⟨attachment, task, forwarder⟩ := formed.early (stage_eq early)
    refine ⟨attachment_eq.trans attachment, task_eq.trans task, ?_⟩
    by_contra running
    exact forwarder_eq running forwarder
  · intro nextToken stage
    exact absurd stage (attached_eq nextToken)
  · rw [task_eq, attachment_eq]
    exact formed.task
  · intro running
    rw [task_eq]
    exact formed.forwarder (forwarder_eq running)

theorem newCall_wellFormed (new_call : IsNewCall call) : WellFormed call := by
  obtain ⟨_, _, _, rfl, arrival⟩ := new_call
  refine ⟨fun _ => ⟨rfl, rfl, rfl⟩, ?_, fun spawned => absurd rfl spawned,
    fun running => absurd rfl running⟩
  intro nextToken stage_eq
  rcases arrival with ⟨_, _, opening⟩ | ⟨_, starting⟩
  · rw [opening] at stage_eq
    cases stage_eq
  · rw [starting] at stage_eq
    cases stage_eq

section

variable (formed : WellFormed call)

include formed

theorem WellFormed.spawn {nextToken : Option String} (stage_eq : call.stage = .attached nextToken)
    {stage : CallStage} (later : isEarly stage = false)
    (spawned : ∀ token, stage ≠ .attached token) :
    WellFormed (call.spawn stage) := by
  refine ⟨?_, ?_, ?_, ?_⟩
  · intro early
    rw [show (call.spawn stage).stage = stage from rfl, later] at early
    cases early
  · intro token attached
    exact absurd attached (spawned token)
  · intro _
    exact (formed.attached nextToken stage_eq).1
  · intro _ unspawned
    cases unspawned

theorem HandlerMove.wellFormed (move : HandlerMove service call changed) : WellFormed changed := by
  cases move with
  | fails =>
    exact formed.of_same (by simp [Call.fail, isEarly]) (by simp [Call.fail]) rfl rfl
      (fun running => running)
  | spawns stage_eq | snapshots nextToken entry stage_eq =>
    exact formed.spawn stage_eq rfl (by simp)
  | locates entry stage_eq | subscribes stage_eq | takesSender stage_eq =>
    exact formed.of_same (by simp [stage_eq, isEarly]) (by simp) rfl rfl (fun running => running)
  | replays | acknowledges =>
    exact formed.of_same (by simp [isEarly]) (by simp) rfl rfl (fun running => running)

theorem ForwarderMove.wellFormed (move : ForwarderMove call changed) : WellFormed changed := by
  have running := ForwarderMove.running move
  have stage_eq := ForwarderMove.stage_eq move
  have task_eq : changed.clientTask = call.clientTask := by cases move <;> rfl
  refine formed.of_same (by rw [stage_eq]; exact id) ?_ move.sameCall.attachment task_eq
    (fun _ => running)
  intro nextToken attached
  rw [stage_eq] at attached
  exact running (formed.attached nextToken attached).2.2

theorem DropMove.wellFormed (move : DropMove call changed) : WellFormed changed := by
  cases move with
  | cancels | refuses =>
    exact formed.of_same (by simp [isEarly]) (by simp) rfl rfl (fun running => running)
  | closes stage_eq =>
    exact formed.of_same (by simp) (by simp [stage_eq]) rfl rfl (fun running => running)

theorem WellFormed.of_stage
    (same : changed.stage = call.stage ∧ changed.attachment = call.attachment ∧
      changed.clientTask = call.clientTask ∧ changed.forwarder = call.forwarder) :
    WellFormed changed := by
  obtain ⟨stage_eq, attachment_eq, task_eq, forwarder_eq⟩ := same
  refine ⟨?_, ?_, ?_, ?_⟩
  · rw [stage_eq, attachment_eq, task_eq, forwarder_eq]
    exact formed.early
  · rw [stage_eq, attachment_eq, task_eq, forwarder_eq]
    exact formed.attached
  · rw [attachment_eq, task_eq]
    exact formed.task
  · rw [forwarder_eq, task_eq]
    exact formed.forwarder

theorem WellFormed.attach (early : isEarly call.stage = true) (nextToken : Option String)
    (attachment : AttachmentState) :
    WellFormed { call with stage := .attached nextToken, attachment := some attachment } := by
  obtain ⟨_, task, forwarder⟩ := formed.early early
  refine ⟨?_, ?_, ?_, ?_⟩
  · intro impossible
    cases impossible
  · intro token _
    exact ⟨rfl, task, forwarder⟩
  · intro _
    rfl
  · intro running
    exact absurd forwarder running

theorem WellFormed.detach (task_eq : call.clientTask = .forwarding) :
    WellFormed { call with clientTask := .detached } := by
  have spawned : call.clientTask ≠ .notSpawned := by simp [task_eq]
  refine ⟨?_, ?_, ?_, ?_⟩
  · intro early
    exact absurd (formed.early early).2.1 spawned
  · intro nextToken attached
    exact absurd (formed.attached nextToken attached).2.1 spawned
  · intro _
    exact formed.task spawned
  · intro _ unspawned
    cases unspawned

end

theorem deliver_wellFormed (sessionId : String) (broadcast : SessionBroadcastEvent)
    (formed : WellFormed call) : WellFormed (ServiceState.deliver sessionId broadcast call) := by
  unfold ServiceState.deliver
  split
  · exact formed.of_stage ⟨rfl, rfl, rfl, rfl⟩
  · exact formed

theorem CallMove.wellFormed (move : CallMove service number call action changed)
    (formed : WellFormed call) : WellFormed changed := by
  cases move with
  | handles _ _ _ move => exact HandlerMove.wellFormed formed move
  | forwards _ move => exact ForwarderMove.wellFormed formed move
  | drops _ _ _ move => exact DropMove.wellFormed formed move
  | creates _ _ _ stage_eq =>
    exact formed.of_same (by simp [stage_eq, isEarly]) (by simp [Call.created]) rfl rfl
      (fun running => running)
  | attaches _ _ _ stage_eq =>
    apply formed.attach
    rcases stage_eq with opened | taken
    · rw [opened]
      rfl
    · rw [taken]
      rfl
  | reads => exact formed.of_stage ⟨rfl, rfl, rfl, rfl⟩
  | leaves task_eq => exact formed.detach task_eq

theorem ServiceMove.wellFormed (move : ServiceMove service action after)
    (formed : Table.Every WellFormed service.calls) : Table.Every WellFormed after.calls := by
  apply ServiceMove.every move formed
  · intro call new_call
    exact newCall_wellFormed new_call
  · intro number call changed call_move
    exact CallMove.wellFormed call_move
  · intro sessionId broadcast call
    exact deliver_wellFormed sessionId broadcast

end

/-- The session that a call attached to, until its task has detached. -/
def holds (call : Call) : Option String :=
  if call.attachment.isSome ∧ call.clientTask ≠ .detached then some call.setting.sessionId
  else none

def slotOf (found : Option SessionEntry) : Option (Option Nat) :=
  found.map SessionEntry.attachmentId

def holdingOf (found : Option Call) : Option String :=
  found.bind holds

def attachmentOf (found : Option Call) : Option AttachmentState :=
  found.bind Call.attachment

def ledger (service : ServiceState) : Ledger String Nat where
  slot sessionId := slotOf (service.sessions.lookup sessionId)
  holding number := holdingOf (service.calls.lookup number)
  known sessionId := (service.opened.lookup sessionId).isSome = true

def liveOwners (service : ServiceState) (sessionId : String) : Set Nat :=
  {number | (ledger service).holding number = some sessionId}

/-- Every session stores the attachment of the call in its slot. -/
def StoresOwner (service : ServiceState) : Prop :=
  ∀ sessionId entry, service.sessions.lookup sessionId = some entry →
    entry.state.attachment =
      entry.attachmentId.bind fun number => attachmentOf (service.calls.lookup number)

structure AttachmentInvariant (service : ServiceState) : Prop where
  formed : Table.Every WellFormed service.calls
  sound : (ledger service).Sound
  stored : StoresOwner service

/-- A step of the service that is a step of the ledger. -/
structure LedgerStep (before after : ServiceState) : Prop where
  step : (ledger before).Step (ledger after)
  stored : StoresOwner after

theorem holds_eq_some (held : holds call = some sessionId) :
    call.attachment.isSome = true ∧ call.clientTask ≠ .detached ∧
      call.setting.sessionId = sessionId := by
  unfold holds at held
  split_ifs at held with both
  exact ⟨both.1, both.2, Option.some.inj held⟩

theorem holds_eq_none_of_unattached (unattached : call.attachment = none) : holds call = none := by
  simp [holds, unattached]

theorem AttachmentInvariant.filled (invariant : AttachmentInvariant service)
    (entry_eq : service.sessions.lookup sessionId = some entry) :
    entry.attachmentId.isSome = entry.state.attachment.isSome := by
  have stored := invariant.stored sessionId entry entry_eq
  cases slot_eq : entry.attachmentId with
  | none =>
    rw [slot_eq] at stored
    rw [stored]
    rfl
  | some number =>
    rw [slot_eq] at stored
    have slot : (ledger service).slot sessionId = some (some number) := by
      simp [ledger, slotOf, entry_eq, slot_eq]
    have held := (invariant.sound.named sessionId _ slot number).mpr rfl
    obtain ⟨_, call_eq, call_holds⟩ := Option.bind_eq_some_iff.mp held
    have attached := (holds_eq_some call_holds).1
    rw [stored]
    simp only [Option.bind_some, call_eq, attachmentOf, attached, Option.isSome_some]

structure Untouched (before after : ServiceState) : Prop where
  slots : (ledger after).slot = (ledger before).slot
  holdings : (ledger after).holding = (ledger before).holding
  attachments : (fun number => attachmentOf (after.calls.lookup number)) =
    fun number => attachmentOf (before.calls.lookup number)
  names : after.opened = before.opened
  stored : ∀ sessionId entry, after.sessions.lookup sessionId = some entry →
    ∃ earlier, before.sessions.lookup sessionId = some earlier ∧
      entry.attachmentId = earlier.attachmentId ∧
      entry.state.attachment = earlier.state.attachment

theorem Untouched.ledgerStep {before : ServiceState} (untouched : Untouched before after)
    (invariant : AttachmentInvariant before) : LedgerStep before after := by
  constructor
  · apply Ledger.Step.keeps untouched.slots untouched.holdings
    intro sessionId known
    rw [show (ledger after).known sessionId = (ledger before).known sessionId by
      simp only [ledger, untouched.names]]
    exact known
  · intro sessionId entry entry_eq
    obtain ⟨earlier, earlier_eq, slot_eq, attachment_eq⟩ :=
      untouched.stored sessionId entry entry_eq
    rw [attachment_eq, slot_eq, invariant.stored sessionId earlier earlier_eq]
    exact congrArg earlier.attachmentId.bind untouched.attachments.symm

section

variable {changed : Call}

section

variable (holdings : ∀ number, holdingOf (calls.lookup number) =
    holdingOf (service.calls.lookup number))
  (attachments : ∀ number, attachmentOf (calls.lookup number) =
    attachmentOf (service.calls.lookup number))

include holdings attachments

theorem untouched_calls (learned : List (Option String × String)) :
    Untouched service { service with calls := calls, learned := learned } where
  slots := rfl
  holdings := funext holdings
  attachments := funext attachments
  names := rfl
  stored := by
    intro sessionId entry entry_eq
    exact ⟨entry, entry_eq, rfl, rfl⟩

theorem untouched_entry (entry_eq : service.sessions.lookup sessionId = some entry)
    (slot_eq : updated.attachmentId = entry.attachmentId)
    (attachment_eq : updated.state.attachment = entry.state.attachment) :
    Untouched service
      { service with sessions := service.sessions.insert sessionId updated, calls := calls } where
  slots := by
    apply view_insert_same slotOf
    rw [entry_eq]
    exact congrArg some slot_eq
  holdings := funext holdings
  attachments := funext attachments
  names := rfl
  stored := by
    intro other found found_eq
    rcases lookup_insert_cases found_eq with earlier | ⟨rfl, rfl⟩
    · exact ⟨found, earlier, rfl, rfl⟩
    · exact ⟨entry, entry_eq, slot_eq, attachment_eq⟩

end

theorem untouched_call (call_eq : service.calls.lookup number = some call)
    (same : holds changed = holds call ∧ changed.attachment = call.attachment)
    (learned : List (Option String × String)) :
    Untouched service
      { service with calls := service.calls.insert number changed, learned := learned } := by
  apply untouched_calls
  · apply congrFun
    apply view_insert_same holdingOf
    rw [call_eq]
    exact same.1
  · apply congrFun
    apply view_insert_same attachmentOf
    rw [call_eq]
    exact same.2

theorem HandlerMove.holds_eq (formed : WellFormed call) (move : HandlerMove service call changed) :
    holds changed = holds call ∧ changed.attachment = call.attachment := by
  cases move with
  | spawns stage_eq =>
    have task_eq := (formed.attached none stage_eq).2.1
    exact ⟨by simp [holds, Call.spawn, task_eq], rfl⟩
  | snapshots nextToken _ stage_eq =>
    have task_eq := (formed.attached (some nextToken) stage_eq).2.1
    exact ⟨by simp [holds, Call.spawn, task_eq], rfl⟩
  | _ => exact ⟨rfl, rfl⟩

theorem ForwarderMove.holds_eq (move : ForwarderMove call changed) :
    holds changed = holds call ∧ changed.attachment = call.attachment := by
  cases move <;> exact ⟨rfl, rfl⟩

theorem DropMove.holds_eq (move : DropMove call changed) :
    holds changed = holds call ∧ changed.attachment = call.attachment := by
  cases move <;> exact ⟨rfl, rfl⟩

theorem deliver_holds (sessionId : String) (broadcast : SessionBroadcastEvent) (call : Call) :
    holds (ServiceState.deliver sessionId broadcast call) = holds call ∧
      (ServiceState.deliver sessionId broadcast call).attachment = call.attachment := by
  unfold ServiceState.deliver
  split_ifs <;> exact ⟨rfl, rfl⟩

end

section

variable (invariant : AttachmentInvariant service)

include invariant

section

variable (call_eq : service.calls.lookup number = some call)

include call_eq

theorem AttachmentInvariant.creates {capabilityName : String}
    (stage_eq : call.stage = .opening capabilityName)
    (new_session : service.opened.lookup sessionId = none)
    (empty : entry.attachmentId = none ∧ entry.state.attachment = none) (owner : Option String)
    (issued : Table String String) :
    LedgerStep service
      { service with
        sessions := service.sessions.insert sessionId entry
        calls := service.calls.insert number (call.created sessionId)
        opened := service.opened.insert sessionId owner
        issued := issued } := by
  have unattached : call.attachment = none :=
    ((invariant.formed number call call_eq).early (by rw [stage_eq]; rfl)).1
  have attachments :
      (fun other => attachmentOf ((service.calls.insert number (call.created sessionId)).lookup
        other)) = fun other => attachmentOf (service.calls.lookup other) := by
    apply view_insert_same attachmentOf
    rw [call_eq]
    rfl
  constructor
  · apply Ledger.Step.creates sessionId
    · simp [ledger, new_session]
    · have slots := view_insert slotOf service.sessions sessionId entry
      rw [show slotOf (some entry) = some none from congrArg some empty.1] at slots
      exact slots
    · apply view_insert_same holdingOf
      rw [call_eq]
      have before_eq := holds_eq_none_of_unattached unattached
      have after_eq : holds (call.created sessionId) = none :=
        holds_eq_none_of_unattached unattached
      simp [holdingOf, before_eq, after_eq]
    · intro other known
      simp only [ledger, lookup_insert_eq]
      split_ifs with same
      · rfl
      · exact known.resolve_left same
  · intro other found found_eq
    rw [lookup_insert_eq] at found_eq
    split_ifs at found_eq
    · cases found_eq
      rw [empty.1, empty.2]
      rfl
    · rw [invariant.stored other found found_eq]
      exact congrArg found.attachmentId.bind attachments.symm

theorem AttachmentInvariant.attaches (early : isEarly call.stage = true)
    (entry_eq : service.sessions.lookup call.setting.sessionId = some entry)
    (free : entry.state.attachment = none) {attachment : AttachmentState}
    (filled : updated.attachmentId = some number ∧ updated.state.attachment = some attachment)
    (nextToken : Option String) (issued : Table String String) (resumes : List ResumeRecord) :
    LedgerStep service
      { service with
        sessions := service.sessions.insert call.setting.sessionId updated
        calls := service.calls.insert number
          { call with stage := .attached nextToken, attachment := some attachment }
        issued := issued
        resumes := resumes } := by
  obtain ⟨unattached, task_eq, _⟩ := (invariant.formed number call call_eq).early early
  have idle : (ledger service).holding number = none := by
    simp [ledger, holdingOf, call_eq, holds_eq_none_of_unattached unattached]
  have slot_free : (ledger service).slot call.setting.sessionId = some none := by
    have empty := invariant.filled entry_eq
    rw [free, Option.isSome_none, Option.isSome_eq_false_iff, Option.isNone_iff_eq_none] at empty
    simp [ledger, slotOf, entry_eq, empty]
  constructor
  · apply Ledger.Step.takes call.setting.sessionId number slot_free idle
    · have slots := view_insert slotOf service.sessions call.setting.sessionId updated
      rw [show slotOf (some updated) = some (some number) from congrArg some filled.1] at slots
      exact slots
    · have holdings := view_insert holdingOf service.calls number
        { call with stage := .attached nextToken, attachment := some attachment }
      rw [show holdingOf (some { call with
          stage := .attached nextToken, attachment := some attachment }) =
            some call.setting.sessionId by simp [holdingOf, holds, task_eq]] at holdings
      exact holdings
    · intro other known
      exact known
  · intro other found found_eq
    rw [lookup_insert_eq] at found_eq
    split_ifs at found_eq
    · cases found_eq
      rw [filled.1, filled.2]
      simp [attachmentOf]
    · rw [invariant.stored other found found_eq]
      cases slot_eq : found.attachmentId with
      | none => rfl
      | some owner =>
        -- the slot of another session does not name the call that attaches
        have slot : (ledger service).slot other = some (some owner) := by
          simp [ledger, slotOf, found_eq, slot_eq]
        have held := (invariant.sound.named other _ slot owner).mpr rfl
        have different : owner ≠ number := by
          intro equal
          rw [equal, idle] at held
          cases held
        simp [lookup_insert_eq, different]

theorem AttachmentInvariant.detaches (task_eq : call.clientTask = .forwarding) {sessions : Sessions}
    (slots : (fun other => slotOf (sessions.lookup other)) = Function.update (fun other => slotOf
      (service.sessions.lookup other)) call.setting.sessionId ((slotOf (service.sessions.lookup
      call.setting.sessionId)).map fun _ => none))
    (stored : ∀ other found, sessions.lookup other = some found → (found.attachmentId = none ∧
      found.state.attachment = none) ∨ service.sessions.lookup other = some found) :
    LedgerStep service
      { service with
        sessions := sessions
        calls := service.calls.insert number { call with clientTask := .detached } } := by
  have attached : call.attachment.isSome = true :=
    (invariant.formed number call call_eq).task (by simp [task_eq])
  have held : (ledger service).holding number = some call.setting.sessionId := by
    simp [ledger, holdingOf, call_eq, holds, attached, task_eq]
  constructor
  · apply Ledger.Step.givesBack call.setting.sessionId number held slots
    · have holdings := view_insert holdingOf service.calls number
        { call with clientTask := .detached }
      rw [show holdingOf (some { call with clientTask := .detached }) = none by
        simp [holdingOf, holds]] at holdings
      exact holdings
    · intro other known
      exact known
  · intro other found found_eq
    have attachments :
        (fun owner => attachmentOf ((service.calls.insert number
          { call with clientTask := .detached }).lookup owner)) =
            fun owner => attachmentOf (service.calls.lookup owner) := by
      apply view_insert_same attachmentOf
      rw [call_eq]
      rfl
    rcases stored other found found_eq with ⟨slot_eq, emptied⟩ | earlier_eq
    · rw [slot_eq, emptied]
      rfl
    · rw [invariant.stored other found earlier_eq]
      exact congrArg found.attachmentId.bind attachments.symm

end

theorem AttachmentInvariant.removes :
    LedgerStep service { service with sessions := service.sessions.erase sessionId } := by
  constructor
  · apply Ledger.Step.removes sessionId
    · exact view_erase slotOf service.sessions sessionId
    · rfl
    · intro other known
      exact known
  · exact fun other found found_eq => invariant.stored other found (lookup_of_erase found_eq).2

end

theorem attachmentInvariant_empty : AttachmentInvariant ServiceState.empty := by
  refine ⟨?_, ⟨?_, ?_, ?_, ?_⟩, ?_⟩
  · intro number call call_eq
    cases call_eq
  · intro sessionId taken slot_eq
    cases slot_eq
  · intro sessionId first second held
    cases held
  · intro sessionId taken slot_eq
    cases slot_eq
  · intro number sessionId held
    cases held
  · intro sessionId entry entry_eq
    cases entry_eq

section

variable (move : ServiceMove service action after) (invariant : AttachmentInvariant service)

include move invariant

theorem ServiceMove.ledgerStep : LedgerStep service after := by
  cases move with
  | calls _ _ _ unused new_call =>
    obtain ⟨_, _, _, rfl, _⟩ := new_call
    apply Untouched.ledgerStep _ invariant
    apply untouched_calls
    · apply congrFun
      apply view_insert_same holdingOf
      rw [unused]
      rfl
    · apply congrFun
      apply view_insert_same attachmentOf
      rw [unused]
      rfl
  | handles number _ _ call _ call_eq move =>
    have same := HandlerMove.holds_eq (invariant.formed number call call_eq) move
    exact (untouched_call call_eq same service.learned).ledgerStep invariant
  | forwards _ _ _ call_eq move =>
    have same := ForwarderMove.holds_eq move
    exact (untouched_call call_eq same service.learned).ledgerStep invariant
  | drops _ _ _ _ _ call_eq move =>
    have same := DropMove.holds_eq move
    exact (untouched_call call_eq same service.learned).ledgerStep invariant
  | creates _ _ _ _ _ call_eq stage_eq new_session =>
    exact invariant.creates call_eq stage_eq new_session ⟨rfl, rfl⟩ _ _
  | attaches _ _ _ _ _ call_eq stage_eq entry_eq free =>
    exact invariant.attaches call_eq (by rw [stage_eq]; rfl) entry_eq free ⟨rfl, rfl⟩ none
      service.issued service.resumes
  | resumes _ _ freshToken _ _ call_eq stage_eq entry_eq free =>
    exact invariant.attaches call_eq (by rw [stage_eq]; rfl) entry_eq free ⟨rfl, rfl⟩
      (some freshToken) _ _
  | reads _ _ _ _ call_eq =>
    apply Untouched.ledgerStep _ invariant
    exact untouched_call call_eq ⟨by rfl, by rfl⟩ _
  | detaches _ _ _ call_eq task_eq entry_eq =>
    apply invariant.detaches call_eq task_eq
    · rw [view_insert, entry_eq]
      rfl
    · intro other found found_eq
      rcases lookup_insert_cases found_eq with earlier | ⟨_, rfl⟩
      · exact Or.inr earlier
      · exact Or.inl ⟨rfl, rfl⟩
  | leaves _ call call_eq task_eq nothing_held =>
    apply invariant.detaches call_eq task_eq
    · symm
      rw [Function.update_eq_self_iff]
      cases entry_eq : service.sessions.lookup call.setting.sessionId with
      | none => rfl
      | some entry =>
        have empty := invariant.filled entry_eq
        rw [nothing_held entry entry_eq, Option.isSome_none, Option.isSome_eq_false_iff,
          Option.isNone_iff_eq_none] at empty
        simp [slotOf, empty]
    · intro other found found_eq
      exact Or.inr found_eq
  | works _ _ _ _ entry_eq move =>
    obtain ⟨attachment_eq, _, id_eq, _⟩ := move.keeps
    apply Untouched.ledgerStep _ invariant
    exact untouched_entry (fun _ => rfl) (fun _ => rfl) entry_eq id_eq attachment_eq
  | publishes sessionId broadcast _ _ entry_eq =>
    apply Untouched.ledgerStep _ invariant
    refine untouched_entry ?_ ?_ entry_eq rfl rfl
    · intro number
      rw [lookup_mapValues]
      cases service.calls.lookup number with
      | none => rfl
      | some call => exact (deliver_holds sessionId broadcast call).1
    · intro number
      rw [lookup_mapValues]
      cases service.calls.lookup number with
      | none => rfl
      | some call => exact (deliver_holds sessionId broadcast call).2
  | removes => exact invariant.removes
  | lists =>
    apply Untouched.ledgerStep _ invariant
    exact untouched_calls (fun _ => rfl) (fun _ => rfl) _

theorem ServiceMove.attachments : AttachmentInvariant after := by
  have ledger_step := ServiceMove.ledgerStep move invariant
  exact ⟨ServiceMove.wellFormed move invariant.formed, ledger_step.step.sound invariant.sound,
    ledger_step.stored⟩

end

theorem attachmentInvariant_of_run {guard : ServiceState → ServiceAction → Prop}
    (run : Reaches stepService guard ServiceState.empty service) : AttachmentInvariant service := by
  apply run.invariant attachmentInvariant_empty
  intro before action after invariant _ moved
  exact ServiceMove.attachments (stepService_move moved) invariant

theorem AttachmentInvariant.requestEnded (invariant : AttachmentInvariant service) {owner : Nat}
    (moved : stepService service (.requestEnded number) = some after)
    (entry_eq : service.sessions.lookup sessionId = some entry)
    (owner_eq : entry.attachmentId = some owner) (different : owner ≠ number) :
    after.sessions.lookup sessionId = some entry := by
  cases stepService_move moved with
  | calls | leaves => exact entry_eq
  | drops _ _ _ _ own => rcases own with own | own <;> cases own
  | works _ _ _ _ _ move => cases move
  | detaches _ call _ call_eq task_eq =>
    rw [lookup_insert_eq]
    split_ifs with same
    · -- the call that detaches holds the slot, so the slot names that call
      exfalso
      have attached : call.attachment.isSome = true :=
        (invariant.formed number call call_eq).task (by simp [task_eq])
      have holding : (ledger service).holding number = some sessionId := by
        simp [ledger, holdingOf, call_eq, holds, attached, task_eq, same]
      have slot : (ledger service).slot sessionId = some (some owner) := by
        simp [ledger, slotOf, entry_eq, owner_eq]
      have named := (invariant.sound.named sessionId _ slot number).mp holding
      exact different (Option.some.inj named)
    · exact entry_eq

/-- In every reachable state a session has one live owner if it has an attachment, and none
otherwise. The attachment is the one of the live owner, and the detach of another task leaves it
alone. -/
theorem attachment_has_one_live_owner {service : ServiceState}
    (run : Reaches stepService anyAction ServiceState.empty service) {sessionId : String}
    {entry : SessionEntry} (present : service.sessions.lookup sessionId = some entry) :
    (liveOwners service sessionId).ncard = (if entry.state.attachment.isSome then 1 else 0) ∧
      (∀ owner ∈ liveOwners service sessionId, entry.attachmentId = some owner ∧
        ∃ call, service.calls.lookup owner = some call ∧
          entry.state.attachment = call.attachment) ∧
      ∀ owner ∈ liveOwners service sessionId, ∀ number ≠ owner, ∀ after,
        stepService service (.requestEnded number) = some after →
          after.sessions.lookup sessionId = some entry := by
  have invariant := attachmentInvariant_of_run run
  have slot : (ledger service).slot sessionId = some entry.attachmentId := by
    simp [ledger, slotOf, present]
  have named : ∀ owner ∈ liveOwners service sessionId, entry.attachmentId = some owner := by
    intro owner live
    exact (invariant.sound.named sessionId _ slot owner).mp live
  refine ⟨?_, ?_, ?_⟩
  · rw [← invariant.filled present]
    exact invariant.sound.ncard slot
  · intro owner live
    obtain ⟨call, call_eq, _⟩ := Option.bind_eq_some_iff.mp live
    refine ⟨named owner live, call, call_eq, ?_⟩
    rw [invariant.stored sessionId entry present, named owner live, Option.bind_some, call_eq]
    rfl
  · intro owner live number different after moved
    exact invariant.requestEnded moved present (named owner live) (Ne.symm different)

/-- A client opens a session and is attached to it. -/
def openingActions : List ServiceAction :=
  [.callOpen 1 (some "alice") "shell" "Shell" .realtime, .handler 1 "session" "first",
    .handler 1 "" "", .handler 1 "" ""]

def leavingActions : List ServiceAction :=
  openingActions ++ [.responseDropped 1, .requestEnded 1]

/-- The capability sends an event, and the event loop publishes it. -/
def emits (event : SessionServerEvent) : List ServiceAction :=
  .capabilitySends "session" event :: List.replicate 3 (.eventLoop "session")

theorem opened_session_has_one_owner :
    ∃ service entry, Reaches stepService anyAction ServiceState.empty service ∧
      service.sessions.lookup "session" = some entry ∧ entry.state.attachment.isSome = true ∧
      (liveOwners service "session").ncard = 1 := by
  obtain ⟨service, entry, run, present, attached⟩ :
      ∃ service entry, Reaches stepService anyAction ServiceState.empty service ∧
        service.sessions.lookup "session" = some entry ∧ entry.state.attachment.isSome = true :=
    found_of_evaluated openingActions (by decide +kernel)
  have owners := (attachment_has_one_live_owner run present).1
  rw [if_pos attached] at owners
  exact ⟨service, entry, run, present, attached, owners⟩

end HandControl.SessionAttachments
