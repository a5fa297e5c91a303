import HandControl.RelayAuthorization

/-!
# The registration map follows the latest registration

A server that reconnects registers again while the handler of its old socket may still be there. The
old handler removes the entry only if it carries its own registration identifier.
-/

namespace HandControl.RegistrationMap

open ByteEncoding KeyedTable RelayAccess RelayProcesses TransitionRuns
open RelayAuthorization (demoLibraries demoRegister demoSetting demoUuid)

structure Upsert where
  serverId : Uuid
  server : RegisteredServer
deriving DecidableEq

/-- The relay with every `upsert_server` so far, the most recent one first. -/
structure RegistrationLog where
  relay : Relay
  upserts : List Upsert

def RegistrationLog.started : RegistrationLog where
  relay := .started
  upserts := []

def upsertOf (relay : Relay) : RelayAction → Option Upsert
  | .register handler input =>
    match relay.registers handler with
    | .registering registration =>
      some ⟨registration.serverId, input.registrationId, handler, registration.decodingKey,
        registration.tlsAuthority⟩
    | _ => none
  | _ => none

def stepLogged (setting : RelaySetting) (libraries : RelayLibraries) (log : RegistrationLog)
    (action : RelayAction) : Option RegistrationLog :=
  (stepRelay setting libraries log.relay action).map fun after =>
    ⟨after, (upsertOf log.relay action).toList ++ log.upserts⟩

def RegistrationLog.latest (log : RegistrationLog) (serverId : Uuid) : Option RegisteredServer :=
  (log.upserts.find? fun upsert => upsert.serverId == serverId).map Upsert.server

/-- `Uuid::new_v4` has generated no registration identifier twice. -/
def RegistrationLog.DistinctRegistrations (log : RegistrationLog) : Prop :=
  (log.upserts.map fun upsert => upsert.server.registrationId).Nodup

/-- Where a handler is between its `upsert_server` and its `remove_server_if_current`. -/
inductive Tenure where
  | pending
  | current (serverId registrationId : Uuid)
  | ended
deriving DecidableEq

def tenureOf : RegisterPhase → Tenure
  | .serving serverId registrationId => .current serverId registrationId
  | .dispatching serverId registrationId _ => .current serverId registrationId
  | .leaving serverId registrationId => .current serverId registrationId
  | .returning _ | .left _ => .ended
  | .absent | .received _ | .acknowledging _ | .registering _ | .refused _ => .pending

def RegistrationLog.tenure (log : RegistrationLog) (handler : Nat) : Tenure :=
  tenureOf (log.relay.registers handler)

inductive LogMove (before after : RegistrationLog) : Prop where
  | keeps (map_eq : after.relay.registeredServers = before.relay.registeredServers)
      (tenure_eq : after.tenure = before.tenure)
      (upserts_eq : after.upserts = before.upserts)
  | upserts (serverId : Uuid) (server : RegisteredServer)
      (pending : before.tenure server.controlTx = .pending)
      (map_eq : after.relay.registeredServers =
        before.relay.registeredServers.insert serverId server)
      (tenure_eq : after.tenure = Function.update before.tenure server.controlTx
        (.current serverId server.registrationId))
      (upserts_eq : after.upserts = ⟨serverId, server⟩ :: before.upserts)
  | removes (handler : Nat) (serverId registrationId : Uuid)
      (current : before.tenure handler = .current serverId registrationId)
      (map_eq : after.relay.registeredServers =
        (before.relay.removeServerIfCurrent serverId registrationId).registeredServers)
      (tenure_eq : after.tenure = Function.update before.tenure handler .ended)
      (upserts_eq : after.upserts = before.upserts)

variable {phase next : RegisterPhase} {relay : Relay} {handler : Nat} {input : RegisterInput}
variable {serverId registrationId : Uuid} {server : RegisteredServer}

section

variable {setting : RelaySetting} {libraries : RelayLibraries} {before after : RegistrationLog}

theorem tenureOf_passes (passage : RegisterPasses setting libraries phase next) :
    tenureOf next = tenureOf phase := by
  cases passage <;> rfl

theorem tenure_update :
    (fun other => tenureOf (Function.update relay.registers handler next other)) =
      Function.update (fun other => tenureOf (relay.registers other)) handler (tenureOf next) := by
  funext other
  exact Function.apply_update (fun _ => tenureOf) relay.registers handler next other

theorem tenure_update_same (same : tenureOf next = tenureOf (relay.registers handler)) :
    (fun other => tenureOf (Function.update relay.registers handler next other)) =
      fun other => tenureOf (relay.registers other) := by
  rw [tenure_update, same]
  exact Function.update_eq_self handler fun other => tenureOf (relay.registers other)

theorem upsertOf_register_eq_none
    (idle : ∀ registration, relay.registers handler ≠ .registering registration) :
    upsertOf relay (.register handler input) = none := by
  unfold upsertOf
  dsimp only
  split
  · rename_i registration phase_eq
    exact absurd phase_eq (idle registration)
  · rfl

theorem register_logMove
    (stepped : stepRelay setting libraries before.relay (.register handler input) = some relay) :
    LogMove before
      ⟨relay, (upsertOf before.relay (.register handler input)).toList ++ before.upserts⟩ := by
  by_cases registering :
      ∃ registration, before.relay.registers handler = .registering registration
  · obtain ⟨registration, phase_eq⟩ := registering
    have upsert_eq : upsertOf before.relay (.register handler input) =
        some ⟨registration.serverId, input.registrationId, handler, registration.decodingKey,
          registration.tlsAuthority⟩ := by
      simp only [upsertOf, phase_eq]
    simp only [stepRelay, stepRegister, phase_eq, Option.some.injEq] at stepped
    subst stepped
    apply LogMove.upserts registration.serverId
      ⟨input.registrationId, handler, registration.decodingKey, registration.tlsAuthority⟩
    · rw [RegistrationLog.tenure, phase_eq]
      rfl
    · rfl
    · exact tenure_update
    · rw [upsert_eq]
      rfl
  · rw [upsertOf_register_eq_none (not_exists.mp registering)]
    cases stepRegister_move stepped with
    | passes _ passage => exact .keeps rfl (tenure_update_same (tenureOf_passes passage)) rfl
    | upserts registration _ phase_eq =>
      exact absurd ⟨registration, phase_eq⟩ registering
    | takes _ _ _ _ serving =>
      refine .keeps rfl (tenure_update_same ?_) rfl
      rw [Relay.setControl, serving]
      rfl
    | removes serverId registrationId leaving =>
      apply LogMove.removes handler serverId registrationId
      · rw [RegistrationLog.tenure, leaving]
        rfl
      · rfl
      · exact tenure_update
      · rfl
    | drops _ returning =>
      refine .keeps rfl (tenure_update_same ?_) rfl
      rw [Relay.setControl, returning]
      rfl

theorem stepLogged_move {action : RelayAction}
    (moved : stepLogged setting libraries before action = some after) :
    LogMove before after := by
  obtain ⟨_, stepped, rfl⟩ := Option.map_eq_some_iff.mp moved
  cases stepRelay_move stepped with
  | registers => exact register_logMove stepped
  | registerArrives _ _ absent =>
    refine .keeps rfl (tenure_update_same ?_) rfl
    rw [absent]
    rfl
  | connects _ _ _ move => cases move <;> exact .keeps rfl rfl rfl
  | connectArrives | removes => exact .keeps rfl rfl rfl

end

structure LogInvariant (log : RegistrationLog) : Prop where
  upserted : ∀ upsert ∈ log.upserts, log.tenure upsert.server.controlTx =
        .current upsert.serverId upsert.server.registrationId ∨
      log.tenure upsert.server.controlTx = .ended
  recorded : ∀ handler serverId registrationId,
    log.tenure handler = .current serverId registrationId →
      ∃ upsert ∈ log.upserts, upsert.serverId = serverId ∧
        upsert.server.controlTx = handler ∧ upsert.server.registrationId = registrationId
  entry_latest : ∀ serverId server, log.relay.serverEntry serverId = some server →
    log.latest serverId = some server ∧
      log.tenure server.controlTx = .current serverId server.registrationId
  entry_present : log.DistinctRegistrations → ∀ serverId server, log.latest serverId = some server →
      log.tenure server.controlTx = .current serverId server.registrationId →
        log.relay.serverEntry serverId = some server

section

variable {before after log : RegistrationLog}

theorem serverEntry_removeServerIfCurrent (relay : Relay) (serverId registrationId other : Uuid) :
    (relay.removeServerIfCurrent serverId registrationId).serverEntry other =
      if other = serverId then
        (relay.serverEntry serverId).filter fun entry => entry.registrationId ≠ registrationId
      else relay.serverEntry other := by
  unfold Relay.removeServerIfCurrent Relay.serverEntry
  dsimp only
  cases entry_eq : relay.registeredServers.lookup serverId with
  | none =>
    by_cases same : other = serverId
    · subst same
      simp [entry_eq]
    · simp [same]
  | some entry =>
    by_cases own : entry.registrationId = registrationId
    · simp [own, Table.lookup_erase_eq, Option.filter]
    · by_cases same : other = serverId
      · subst same
        simp [own, entry_eq, Option.filter]
      · simp [own, same]

theorem latest_mem (latest_eq : log.latest serverId = some server) :
    (⟨serverId, server⟩ : Upsert) ∈ log.upserts := by
  obtain ⟨upsert, found, rfl⟩ := Option.map_eq_some_iff.mp latest_eq
  have named : upsert.serverId = serverId := by simpa using List.find?_some found
  rw [← named]
  exact List.mem_of_find?_eq_some found

theorem LogInvariant.latest_of_registrationId (holds : LogInvariant log)
    (distinct : log.DistinctRegistrations)
    (tenure : log.tenure handler = .current serverId server.registrationId)
    (latest_eq : log.latest serverId = some server) : server.controlTx = handler := by
  obtain ⟨_, recorded, _, handler_eq, registration_eq⟩ := holds.recorded _ _ _ tenure
  have same := List.inj_on_of_nodup_map distinct recorded (latest_mem latest_eq) registration_eq
  rw [← handler_eq, same]

theorem LogInvariant.upsert (holds : LogInvariant before)
    (pending : before.tenure server.controlTx = .pending)
    (map_eq : after.relay.registeredServers =
      before.relay.registeredServers.insert serverId server)
    (tenure_eq : after.tenure = Function.update before.tenure server.controlTx
      (.current serverId server.registrationId))
    (upserts_eq : after.upserts = ⟨serverId, server⟩ :: before.upserts) : LogInvariant after := by
  have entry_eq : ∀ other, after.relay.serverEntry other =
      if other = serverId then some server else before.relay.serverEntry other := by
    intro other
    rw [Relay.serverEntry, map_eq, Table.lookup_insert_eq]
    rfl
  have latest_eq : ∀ other, after.latest other =
      if other = serverId then some server else before.latest other := by
    intro other
    rw [RegistrationLog.latest, upserts_eq, List.find?_cons]
    by_cases same : other = serverId
    · simp [same]
    · rw [beq_false_of_ne (Ne.symm same), if_neg same]
      rfl
  have own : after.tenure server.controlTx = .current serverId server.registrationId := by
    rw [tenure_eq, Function.update_self]
  -- the handlers with an earlier registration are other ones
  have unaffected : ∀ handler, before.tenure handler ≠ .pending →
      after.tenure handler = before.tenure handler := by
    intro handler started
    rw [tenure_eq, Function.update_of_ne]
    intro same
    exact started (same ▸ pending)
  constructor
  · intro upsert member
    rw [upserts_eq, List.mem_cons] at member
    rcases member with rfl | earlier
    · exact .inl own
    · have known := holds.upserted upsert earlier
      rw [unaffected]
      · exact known
      · rcases known with known | known <;> simp [known]
  · intro handler other registrationId tenure
    rw [upserts_eq]
    rw [tenure_eq, Function.update_apply] at tenure
    split_ifs at tenure with same
    · cases tenure
      exact ⟨_, List.mem_cons_self, rfl, same.symm, rfl⟩
    · obtain ⟨upsert, earlier, facts⟩ := holds.recorded handler other registrationId tenure
      exact ⟨upsert, List.mem_cons_of_mem _ earlier, facts⟩
  · intro other found present
    rw [entry_eq] at present
    rw [latest_eq]
    split_ifs at present ⊢ with same
    · cases present
      rw [same]
      exact ⟨rfl, own⟩
    · obtain ⟨is_latest, tenure⟩ := holds.entry_latest other found present
      refine ⟨is_latest, ?_⟩
      rw [unaffected, tenure]
      simp [tenure]
  · intro distinct other found is_latest tenure
    rw [latest_eq] at is_latest
    rw [entry_eq]
    split_ifs at is_latest ⊢ with same
    · exact is_latest
    · have distinct_before : before.DistinctRegistrations := by
        rw [RegistrationLog.DistinctRegistrations, upserts_eq] at distinct
        exact (List.nodup_cons.mp distinct).2
      apply holds.entry_present distinct_before other found is_latest
      rw [← tenure, unaffected]
      rcases holds.upserted _ (latest_mem is_latest) with known | known <;> simp [known]

theorem LogInvariant.remove (holds : LogInvariant before)
    (current : before.tenure handler = .current serverId registrationId)
    (map_eq : after.relay.registeredServers =
      (before.relay.removeServerIfCurrent serverId registrationId).registeredServers)
    (tenure_eq : after.tenure = Function.update before.tenure handler .ended)
    (upserts_eq : after.upserts = before.upserts) : LogInvariant after := by
  have entry_eq : ∀ other, after.relay.serverEntry other =
      (before.relay.removeServerIfCurrent serverId registrationId).serverEntry other := by
    intro other
    rw [Relay.serverEntry, map_eq]
    rfl
  have latest_eq : after.latest = before.latest := by
    funext other
    rw [RegistrationLog.latest, upserts_eq]
    rfl
  have still_current : ∀ other found registration,
      after.tenure other = .current found registration →
        other ≠ handler ∧ before.tenure other = .current found registration := by
    intro other found registration tenure
    rw [tenure_eq, Function.update_apply] at tenure
    split_ifs at tenure with same
    exact ⟨same, tenure⟩
  constructor
  · intro upsert member
    rw [upserts_eq] at member
    rw [tenure_eq, Function.update_apply]
    split_ifs
    · exact .inr rfl
    · exact holds.upserted upsert member
  · intro other found registration tenure
    rw [upserts_eq]
    exact holds.recorded other found registration (still_current _ _ _ tenure).2
  · intro other found present
    rw [entry_eq, serverEntry_removeServerIfCurrent] at present
    rw [latest_eq]
    have kept : before.relay.serverEntry other = some found ∧
        (other = serverId → found.registrationId ≠ registrationId) := by
      split_ifs at present with same
      · rw [Option.filter_eq_some_iff] at present
        rw [same]
        exact ⟨present.1, fun _ => by simpa using present.2⟩
      · exact ⟨present, fun equal => absurd equal same⟩
    obtain ⟨is_latest, tenure⟩ := holds.entry_latest other found kept.1
    refine ⟨is_latest, ?_⟩
    rw [tenure_eq, Function.update_of_ne]
    · exact tenure
    · intro same
      rw [same, current] at tenure
      cases tenure
      exact kept.2 rfl rfl
  · intro distinct other found is_latest tenure
    have distinct_before : before.DistinctRegistrations := by
      rw [RegistrationLog.DistinctRegistrations, ← upserts_eq]
      exact distinct
    rw [latest_eq] at is_latest
    obtain ⟨differs, tenure⟩ := still_current _ _ _ tenure
    have present := holds.entry_present distinct_before other found is_latest tenure
    rw [entry_eq, serverEntry_removeServerIfCurrent]
    split_ifs with same
    · subst same
      rw [Option.filter_eq_some_iff]
      refine ⟨present, ?_⟩
      rw [decide_eq_true_iff]
      rintro rfl
      exact differs (holds.latest_of_registrationId distinct_before current is_latest)
    · exact present

theorem LogMove.invariant (move : LogMove before after) (holds : LogInvariant before) :
    LogInvariant after := by
  cases move with
  | keeps map_eq tenure_eq upserts_eq =>
    have entry_eq : after.relay.serverEntry = before.relay.serverEntry := by
      funext other
      rw [Relay.serverEntry, map_eq]
      rfl
    have latest_eq : after.latest = before.latest := by
      funext other
      rw [RegistrationLog.latest, upserts_eq]
      rfl
    constructor
    · rw [upserts_eq, tenure_eq]
      exact holds.upserted
    · rw [upserts_eq, tenure_eq]
      exact holds.recorded
    · rw [entry_eq, latest_eq, tenure_eq]
      exact holds.entry_latest
    · rw [RegistrationLog.DistinctRegistrations, upserts_eq, entry_eq, latest_eq, tenure_eq]
      exact holds.entry_present
  | upserts _ _ pending map_eq tenure_eq upserts_eq =>
    exact holds.upsert pending map_eq tenure_eq upserts_eq
  | removes _ _ _ current map_eq tenure_eq upserts_eq =>
    exact holds.remove current map_eq tenure_eq upserts_eq

theorem invariant_of_run {setting : RelaySetting} {libraries : RelayLibraries}
    (run : Reaches (stepLogged setting libraries) anyAction RegistrationLog.started log) :
    LogInvariant log := by
  apply run.invariant
  · constructor
    · intro upsert member
      cases member
    · intro handler serverId registrationId tenure
      cases tenure
    · intro serverId server present
      cases present
    · intro _ serverId server latest_eq
      cases latest_eq
  · intro before action after holds _ moved
    exact (stepLogged_move moved).invariant holds

end

/-- The entry of a server is its most recent registration, made by a handler that has not removed
it. If no registration identifier was generated twice, the most recent registration stays until its
own handler removes it, and a superseded handler leaves the map as it is. -/
theorem entry_is_latest_registration (setting : RelaySetting) (libraries : RelayLibraries)
    (log : RegistrationLog)
    (run : Reaches (stepLogged setting libraries) anyAction RegistrationLog.started log)
    (serverId : Uuid) :
    (∀ server, log.relay.serverEntry serverId = some server →
      log.latest serverId = some server ∧
        log.tenure server.controlTx = .current serverId server.registrationId) ∧
    (log.DistinctRegistrations →
      (∀ server, log.latest serverId = some server →
        log.tenure server.controlTx ≠ .ended →
          log.relay.serverEntry serverId = some server) ∧
      ∀ handler registrationId input after,
        log.relay.registers handler = .leaving serverId registrationId →
        (∀ server, log.latest serverId = some server → server.controlTx ≠ handler) →
        stepRelay setting libraries log.relay (.register handler input) = some after →
          after.registeredServers = log.relay.registeredServers) := by
  have holds := invariant_of_run run
  refine ⟨holds.entry_latest serverId, fun distinct => ⟨?_, ?_⟩⟩
  · intro server latest_eq unremoved
    apply holds.entry_present distinct serverId server latest_eq
    exact (holds.upserted _ (latest_mem latest_eq)).resolve_right unremoved
  · intro handler registrationId input after leaving superseded moved
    have tenure : log.tenure handler = .current serverId registrationId := by
      rw [RegistrationLog.tenure, leaving]
      rfl
    simp only [stepRelay, stepRegister, leaving, Option.some.injEq] at moved
    subst moved
    have foreign : ∀ entry, log.relay.serverEntry serverId = some entry →
        entry.registrationId ≠ registrationId := by
      rintro entry present rfl
      have latest_eq := (holds.entry_latest serverId entry present).1
      exact superseded entry latest_eq (holds.latest_of_registrationId distinct tenure latest_eq)
    show (log.relay.removeServerIfCurrent serverId registrationId).registeredServers = _
    unfold Relay.removeServerIfCurrent
    cases entry_eq : log.relay.serverEntry serverId with
    | none => rfl
    | some entry => simp [foreign entry entry_eq]

/-- A server registers with handler 0 and again with handler 1, then its first socket
closes. -/
def reconnectActions : List RelayAction :=
  let registers (handler : Nat) (registrationId : UInt8) : List RelayAction :=
    .registerArrives handler (.payload demoRegister) ::
      List.replicate 3 (.register handler ⟨true, demoUuid registrationId, .frame⟩)
  registers 0 3 ++ registers 1 4 ++ [.register 0 ⟨true, demoUuid 3, .closed⟩]

def leavingAs : RegisterPhase → Option (Uuid × Uuid)
  | .leaving serverId registrationId => some (serverId, registrationId)
  | _ => none

theorem leavingAs_eq_some (leaves : leavingAs phase = some (serverId, registrationId)) :
    phase = .leaving serverId registrationId := by
  cases phase <;> cases leaves
  rfl

theorem reconnected_server_stays_registered : ∃ log,
    Reaches (stepLogged demoSetting demoLibraries) anyAction RegistrationLog.started log ∧
      log.relay.registers 0 = .leaving (demoUuid 1) (demoUuid 3) ∧
      (∃ server, log.relay.serverEntry (demoUuid 1) = some server ∧ server.controlTx = 1) ∧
      ∀ input after,
        stepRelay demoSetting demoLibraries log.relay (.register 0 input) = some after →
          after.registeredServers = log.relay.registeredServers := by
  obtain ⟨log, run, leaving_eq, ⟨server, latest_eq, handler_eq⟩, tenure_eq, distinct⟩ : ∃ log,
      Reaches (stepLogged demoSetting demoLibraries) anyAction RegistrationLog.started log ∧
        leavingAs (log.relay.registers 0) = some (demoUuid 1, demoUuid 3) ∧
        (∃ server ∈ log.latest (demoUuid 1), server.controlTx = 1) ∧
        log.tenure 1 = .current (demoUuid 1) (demoUuid 4) ∧
        (log.upserts.map (·.server.registrationId)).Nodup :=
    reaches_of_evaluated reconnectActions (by decide +kernel)
  have leaving := leavingAs_eq_some leaving_eq
  obtain ⟨present, unchanged⟩ :=
    (entry_is_latest_registration demoSetting demoLibraries log run (demoUuid 1)).2 distinct
  refine ⟨log, run, leaving, ⟨server, present server latest_eq ?_, handler_eq⟩, ?_⟩
  · rw [handler_eq, tenure_eq]
    simp
  · intro input after moved
    refine unchanged 0 (demoUuid 3) input after leaving ?_ moved
    intro other other_eq
    cases latest_eq.symm.trans other_eq
    rw [handler_eq]
    decide

end HandControl.RegistrationMap
