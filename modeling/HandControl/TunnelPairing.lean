import HandControl.TunnelHandshake

/-!
# A tunnel is paired once and between the right parties

The one-time secret admits at most one tunnel request. The client socket is in one place at a time:
not stored yet, in the handle, held by one handler, with the forwarders, or gone.
-/

namespace HandControl.TunnelPairing

open TunnelHandshake TransitionRuns Tunnel

def held : HandlerPhase → Option TunnelRequest
  | .holding _ client => some client
  | .restoring _ client => some client
  | _ => none

/-- A tunnel request in such a phase has passed the check of its secret. -/
def isActive : HandlerPhase → Bool
  | .absent | .lookingUp | .verifying | .rejecting | .finished => false
  | _ => true

def isEarly : HandlerPhase → Bool
  | .absent | .commanding | .unreachable | .acknowledging | .lookingUp | .verifying
  | .rejecting | .awaitingReady | .marking | .announcing | .storing => true
  | _ => false

variable {phase next : HandlerPhase} {phases : TunnelRequest → HandlerPhase}
variable {client : TunnelRequest}

theorem passes_held (passage : Passes phase next) : held phase = none ∧ held next = none := by
  cases passage <;> exact ⟨rfl, rfl⟩

theorem passes_isActive (passage : Passes phase next) (active : isActive next = true) :
    isActive phase = true := by
  cases passage <;> first | rfl | cases active

theorem passes_isEarly (passage : Passes phase next) (early : isEarly next = true) :
    isEarly phase = true := by
  cases passage <;> first | rfl | cases early

theorem notifyWaiters_reads {Reading : Type} (reading : HandlerPhase → Reading)
    (same : reading .waiting = reading (.looking true)) (tunnel : Tunnel)
    (request : TunnelRequest) :
    reading (tunnel.notifyWaiters.phase request) = reading (tunnel.phase request) := by
  unfold notifyWaiters
  dsimp only
  split
  · rename_i waiting
    rw [waiting, same]
  · rfl

theorem update_reads {Reading : Type} (reading : HandlerPhase → Reading)
    (phases : TunnelRequest → HandlerPhase) (request other : TunnelRequest)
    (next : HandlerPhase) :
    reading (Function.update phases request next other) =
      if other = request then reading next else reading (phases other) := by
  rw [Function.update_apply]
  split <;> rfl

theorem reads_of_update {reading : HandlerPhase → Bool} {request : TunnelRequest}
    (own : reading next = true → reading (phases request) = true) (other : TunnelRequest)
    (read : reading (Function.update phases request next other) = true) :
    reading (phases other) = true := by
  rw [update_reads reading] at read
  split at read
  · rename_i same
    rw [same]
    exact own read
  · exact read

section

variable {setting : TunnelSetting} {tunnel after : Tunnel} {request : TunnelRequest}

def Authorized (setting : TunnelSetting) (number : Nat) : Prop :=
  (setting.query number).role = some "server" ∧
    (setting.query number).token = some setting.serverSecret

/-- The secret is in the handle until a request that carries it is accepted. -/
def SecretOnce (setting : TunnelSetting) (tunnel : Tunnel) : Prop :=
  (tunnel.handle.serverSecret = some setting.serverSecret ∧ tunnel.accepted = []) ∨
    (tunnel.handle.serverSecret = none ∧
      ∃ number, tunnel.accepted = [number] ∧ Authorized setting number)

/-- Only an accepted request is past the check, and only its socket is stored as the
server's. -/
structure ServerSide (tunnel : Tunnel) : Prop where
  active : ∀ number, isActive (tunnel.phase (.tunnel number)) = true →
    number ∈ tunnel.accepted
  slot : ∀ server, tunnel.handle.serverWs = some server →
    ∃ number, server = .tunnel number ∧ number ∈ tunnel.accepted

theorem SecretOnce.of_same (once : SecretOnce setting tunnel)
    (secret_eq : after.handle.serverSecret = tunnel.handle.serverSecret)
    (accepted_eq : after.accepted = tunnel.accepted) : SecretOnce setting after := by
  unfold SecretOnce
  rw [secret_eq, accepted_eq]
  exact once

theorem HandlerMove.secretOnce (once : SecretOnce setting tunnel)
    (moved : HandlerMove setting tunnel request after) : SecretOnce setting after := by
  cases moved with
  | passes _ _ _ same => exact once.of_same same.serverSecret same.accepted
  | verifies number secret _ _ role_eq token_eq secret_eq =>
    rcases once with ⟨present, none_accepted⟩ | ⟨taken, _⟩
    · right
      have same : secret = setting.serverSecret := by
        rw [secret_eq] at present
        exact Option.some.inj present
      refine ⟨rfl, number, ?_, role_eq, ?_⟩
      · show tunnel.accepted ++ [number] = [number]
        rw [none_accepted]
        rfl
      · rw [token_eq, same]
    · rw [taken] at secret_eq
      cases secret_eq
  | notifies | takesClient | misses | findsNoServer | restores => exact once.of_same rfl rfl
  | stores => exact once.of_same (by cases request <;> rfl) rfl
  | pairs inLoop client server next _ phase_eq server_eq next_eq handle_eq spawned_eq records_eq
      phases =>
      exact once.of_same (by rw [handle_eq]) records_eq.1
  | withdraws _ _ handle_eq _ records_eq =>
    exact once.of_same (by rw [handle_eq]; cases request <;> rfl) records_eq.1

theorem ServerSide.of_active (side : ServerSide tunnel)
    (active_le : ∀ number, isActive (after.phase (.tunnel number)) = true →
      isActive (tunnel.phase (.tunnel number)) = true)
    (slot_le : ∀ server, after.handle.serverWs = some server →
      tunnel.handle.serverWs = some server)
    (accepted_eq : after.accepted = tunnel.accepted) : ServerSide after := by
  refine ⟨?_, ?_⟩
  · intro number active
    rw [accepted_eq]
    exact side.active number (active_le number active)
  · intro server stored
    rw [accepted_eq]
    exact side.slot server (slot_le server stored)

theorem ServerSide.of_moved (side : ServerSide tunnel)
    (active : isActive (tunnel.phase request) = true)
    (phases : after.phase = Function.update tunnel.phase request next)
    (slot_le : ∀ server, after.handle.serverWs = some server →
      tunnel.handle.serverWs = some server) (accepted_eq : after.accepted = tunnel.accepted) :
    ServerSide after := by
  apply side.of_active
  · intro number still_active
    rw [phases] at still_active
    exact reads_of_update (fun _ => active) _ still_active
  · exact slot_le
  · exact accepted_eq

theorem HandlerMove.serverSide (side : ServerSide tunnel)
    (moved : HandlerMove setting tunnel request after) : ServerSide after := by
  cases moved with
  | passes _ _ passage same phases =>
    refine side.of_active ?_ ?_ same.accepted
    · intro number active
      rw [phases] at active
      exact reads_of_update (passes_isActive passage) _ active
    · intro server stored
      rw [← same.serverWs]
      exact stored
  | verifies number =>
    refine ⟨?_, ?_⟩
    · intro other active
      show other ∈ tunnel.accepted ++ [number]
      by_cases same : other = number
      · simp [same]
      · have different : TunnelRequest.tunnel other ≠ .tunnel number := by simpa using same
        have before : isActive (tunnel.phase (.tunnel other)) = true := by
          simpa [moveTo, Function.update_of_ne different] using active
        exact List.mem_append_left _ (side.active other before)
    · intro server stored
      obtain ⟨other, server_eq, member⟩ := side.slot server stored
      exact ⟨other, server_eq, List.mem_append_left _ member⟩
  | notifies next phase_eq =>
    refine side.of_active ?_ (fun server stored => stored) rfl
    intro number active
    have own : isActive next = true →
        isActive (tunnel.notifyWaiters.phase request) = true := by
      intro _
      rw [notifyWaiters_reads isActive rfl]
      rcases phase_eq with ⟨phase_eq, _⟩ | ⟨phase_eq, _⟩ <;> rw [phase_eq] <;> rfl
    have before := reads_of_update own _ active
    rwa [notifyWaiters_reads isActive rfl] at before
  | stores phase_eq =>
    have own : isActive HandlerPhase.announcingStored = true →
        isActive (tunnel.phase request) = true := by
      intro _
      rw [phase_eq]
      rfl
    refine ⟨?_, ?_⟩
    · intro number active
      exact side.active number (reads_of_update own _ active)
    · intro server stored
      cases request with
      | connect => exact side.slot server stored
      | tunnel number =>
        have server_eq : TunnelRequest.tunnel number = server := Option.some.inj stored
        have active : isActive (tunnel.phase (.tunnel number)) = true := own rfl
        exact ⟨number, server_eq.symm, side.active number active⟩
  | takesClient _ _ phase_eq | misses _ phase_eq | findsNoServer _ _ phase_eq
  | restores _ _ phase_eq =>
    exact side.of_moved (by rw [phase_eq]; rfl) rfl (fun server stored => stored) rfl
  | pairs inLoop client server next _ phase_eq server_eq next_eq handle_eq spawned_eq records_eq
      phases =>
      apply side.of_moved _ phases _ records_eq.1
      · rw [phase_eq]
        rfl
      · intro other stored
        rw [handle_eq] at stored
        cases stored
  | withdraws _ phase_eq handle_eq _ records_eq phases =>
    apply side.of_moved _ phases _ records_eq.1
    · rw [phase_eq]
      rfl
    · intro server stored
      rw [handle_eq] at stored
      cases request with
      | connect => exact stored
      | tunnel => cases stored

structure ClientSocket (tunnel : Tunnel) : Prop where
  early : ∀ request, isEarly (tunnel.phase request) = true → request ∉ tunnel.stored
  slot : ∀ client, tunnel.handle.clientWs = some client →
    client = .connect ∧ .connect ∈ tunnel.stored ∧ tunnel.spawned = [] ∧
      ∀ request, held (tunnel.phase request) = none
  hand : ∀ request client, held (tunnel.phase request) = some client →
    client = .connect ∧ .connect ∈ tunnel.stored ∧ tunnel.spawned = [] ∧
      tunnel.handle.clientWs = none ∧
      ∀ other, held (tunnel.phase other) ≠ none → other = request
  forwarded : tunnel.spawned = [] ∨
    (.connect ∈ tunnel.stored ∧ ∃ number, tunnel.spawned = [(.connect, .tunnel number)] ∧
      number ∈ tunnel.accepted)

theorem ClientSocket.of_same (socket : ClientSocket tunnel)
    (early_le : ∀ request, isEarly (after.phase request) = true →
      isEarly (tunnel.phase request) = true)
    (held_eq : ∀ request, held (after.phase request) = held (tunnel.phase request))
    (client_eq : after.handle.clientWs = tunnel.handle.clientWs)
    (stored_eq : after.stored = tunnel.stored)
    (spawned_eq : after.spawned = tunnel.spawned)
    (accepted_le : ∀ number, number ∈ tunnel.accepted → number ∈ after.accepted) :
    ClientSocket after := by
  refine ⟨?_, ?_, ?_, ?_⟩
  · intro request early
    rw [stored_eq]
    exact socket.early request (early_le request early)
  · intro client stored
    rw [client_eq] at stored
    rw [stored_eq, spawned_eq]
    obtain ⟨is_client, was_stored, unspawned, unheld⟩ := socket.slot client stored
    exact ⟨is_client, was_stored, unspawned, fun other => (held_eq other).trans (unheld other)⟩
  · intro request client holding
    rw [held_eq] at holding
    rw [stored_eq, spawned_eq, client_eq]
    obtain ⟨is_client, was_stored, unspawned, taken, alone⟩ := socket.hand request client holding
    refine ⟨is_client, was_stored, unspawned, taken, ?_⟩
    intro other other_holds
    rw [held_eq] at other_holds
    exact alone other other_holds
  · rw [spawned_eq, stored_eq]
    rcases socket.forwarded with unspawned | ⟨was_stored, number, spawned, accepted⟩
    · exact Or.inl unspawned
    · exact Or.inr ⟨was_stored, number, spawned, accepted_le number accepted⟩

theorem same_reads_of_update {Reading : Type} {reading : HandlerPhase → Reading}
    (own : reading next = reading (phases request)) (other : TunnelRequest) :
    reading (Function.update phases request next other) = reading (phases other) := by
  rw [update_reads reading]
  split
  · rename_i same
    rw [same]
    exact own
  · rfl

section

variable (socket : ClientSocket tunnel)

include socket

/-- The handler that moves holds what it held. -/
theorem ClientSocket.of_moved (phases : after.phase = Function.update tunnel.phase request next)
    (early_le : isEarly next = true → isEarly (tunnel.phase request) = true)
    (held_eq : held next = held (tunnel.phase request))
    (client_eq : after.handle.clientWs = tunnel.handle.clientWs)
    (stored_eq : after.stored = tunnel.stored) (spawned_eq : after.spawned = tunnel.spawned)
    (accepted_le : ∀ number, number ∈ tunnel.accepted → number ∈ after.accepted) :
    ClientSocket after := by
  refine socket.of_same ?_ ?_ client_eq stored_eq spawned_eq accepted_le
  · rw [phases]
    exact reads_of_update early_le
  · rw [phases]
    exact same_reads_of_update held_eq

theorem notifies_clientSocket (phase_eq : (tunnel.phase request = .announcing ∧ next = .storing) ∨
      (tunnel.phase request = .announcingStored ∧ next = .looking false)) :
    ClientSocket (tunnel.notifyWaiters.moveTo request next) := by
  have early_own : isEarly next = true →
      isEarly (tunnel.notifyWaiters.phase request) = true := by
    intro early
    rw [notifyWaiters_reads isEarly rfl]
    rcases phase_eq with ⟨phase_eq, next_eq⟩ | ⟨phase_eq, next_eq⟩
    · rw [phase_eq]
      rfl
    · rw [next_eq] at early
      cases early
  have held_own : held next = held (tunnel.notifyWaiters.phase request) := by
    rw [notifyWaiters_reads held rfl]
    rcases phase_eq with ⟨phase_eq, next_eq⟩ | ⟨phase_eq, next_eq⟩ <;> rw [phase_eq, next_eq] <;>
      rfl
  apply socket.of_same
  · intro other early
    have before := reads_of_update early_own other early
    rwa [notifyWaiters_reads isEarly rfl] at before
  · intro other
    have same := same_reads_of_update held_own other
    rwa [notifyWaiters_reads held rfl] at same
  · rfl
  · rfl
  · rfl
  · exact fun number member => member

/-- The connect handler puts its socket into the handle once; a tunnel handler's store
leaves the client socket alone. -/
theorem stores_clientSocket (phase_eq : tunnel.phase request = .storing) :
    ClientSocket (({ tunnel with
      handle := tunnel.handle.storeSocket request
      stored := tunnel.stored ++ [request] }).moveTo request .announcingStored) := by
  have fresh : request ∉ tunnel.stored := socket.early request (by rw [phase_eq]; rfl)
  have early_others : ∀ other, isEarly (Function.update tunnel.phase request
      .announcingStored other) = true → other ∉ tunnel.stored ++ [request] := by
    intro other early
    rw [update_reads isEarly] at early
    split at early
    · cases early
    · rename_i different
      simp [socket.early other early, different]
  have held_same : ∀ other, held (Function.update tunnel.phase request
      .announcingStored other) = held (tunnel.phase other) := by
    intro other
    exact same_reads_of_update (by rw [phase_eq]; rfl) other
  cases request with
  | connect =>
    have unspawned : tunnel.spawned = [] := by
      rcases socket.forwarded with unspawned | ⟨was_stored, _⟩
      · exact unspawned
      · exact absurd was_stored fresh
    have unheld : ∀ other, held (tunnel.phase other) = none := by
      intro other
      cases holding : held (tunnel.phase other) with
      | none => rfl
      | some client => exact absurd (socket.hand other client holding).2.1 fresh
    refine ⟨early_others, ?_, ?_, Or.inl unspawned⟩
    · intro client stored
      refine ⟨(Option.some.inj stored).symm, by simp [moveTo], unspawned, ?_⟩
      intro other
      exact (held_same other).trans (unheld other)
    · intro other client holding
      have impossible := (held_same other).symm.trans holding
      rw [unheld other] at impossible
      cases impossible
  | tunnel number =>
    have kept : TunnelRequest.connect ∈ tunnel.stored →
        TunnelRequest.connect ∈ tunnel.stored ++ [.tunnel number] :=
      List.mem_append_left _
    refine ⟨early_others, ?_, ?_, ?_⟩
    · intro client stored
      obtain ⟨is_client, was_stored, unspawned, unheld⟩ := socket.slot client stored
      exact ⟨is_client, kept was_stored, unspawned,
        fun other => (held_same other).trans (unheld other)⟩
    · intro other client holding
      obtain ⟨is_client, was_stored, unspawned, taken, alone⟩ :=
        socket.hand other client ((held_same other).symm.trans holding)
      refine ⟨is_client, kept was_stored, unspawned, taken, ?_⟩
      intro third third_holds
      apply alone third
      rw [← held_same third]
      exact third_holds
    · rcases socket.forwarded with unspawned | ⟨was_stored, spawned⟩
      · exact Or.inl unspawned
      · exact Or.inr ⟨kept was_stored, spawned⟩

theorem takesClient_clientSocket {inLoop : Bool}
    (client_eq : tunnel.handle.clientWs = some client) :
    ClientSocket (({ tunnel with
      handle := { tunnel.handle with clientWs := none } }).moveTo request
        (.holding inLoop client)) := by
  obtain ⟨is_client, was_stored, unspawned, unheld⟩ := socket.slot client client_eq
  refine ⟨?_, ?_, ?_, Or.inl unspawned⟩
  · intro other early
    exact socket.early other (reads_of_update (fun early => by cases early) other early)
  · intro other stored
    cases stored
  · intro other holder_client holding
    have holding_update : held (Function.update tunnel.phase request
        (.holding inLoop client) other) = some holder_client := holding
    rw [update_reads held] at holding_update
    split at holding_update
    · rename_i same
      have client_same : client = holder_client := Option.some.inj holding_update
      refine ⟨client_same ▸ is_client, was_stored, unspawned, rfl, ?_⟩
      intro third third_holds
      by_contra different
      apply third_holds
      have other_phase : held (Function.update tunnel.phase request
          (.holding inLoop client) third) = held (tunnel.phase third) := by
        rw [update_reads held, if_neg]
        intro third_same
        exact different (third_same.trans same.symm)
      exact other_phase.trans (unheld third)
    · rw [unheld other] at holding_update
      cases holding_update

theorem hand_emptied {next : HandlerPhase} (holding : held (tunnel.phase request) = some client)
    (lets_go : held next = none) (other : TunnelRequest) :
    held (Function.update tunnel.phase request next other) = none := by
  rw [update_reads held]
  split
  · exact lets_go
  · rename_i different
    by_contra other_holds
    exact different ((socket.hand request client holding).2.2.2.2 other other_holds)

theorem early_of_letting_go {next : HandlerPhase} (late : isEarly next = false)
    (other : TunnelRequest)
    (early : isEarly (Function.update tunnel.phase request next other) = true) :
    other ∉ tunnel.stored := by
  apply socket.early other
  apply reads_of_update _ other early
  intro next_early
  rw [late] at next_early
  cases next_early

theorem restores_clientSocket (holding : held (tunnel.phase request) = some client)
    (lets_go : held next = none) (late : isEarly next = false) :
    ClientSocket (({ tunnel with
      handle := { tunnel.handle with clientWs := some client } }).moveTo request next) := by
  obtain ⟨is_client, was_stored, unspawned, _, _⟩ := socket.hand request client holding
  refine ⟨early_of_letting_go socket late, ?_, ?_, Or.inl unspawned⟩
  · intro other stored
    have same : client = other := Option.some.inj stored
    exact ⟨same ▸ is_client, was_stored, unspawned, hand_emptied socket holding lets_go⟩
  · intro other holder_client holds
    have nobody := hand_emptied socket holding lets_go other
    rw [show held (Function.update tunnel.phase request next other) = some holder_client
      from holds] at nobody
    cases nobody

/-- The socket goes to the forwarders, and its server socket is that of an accepted
request. -/
theorem pairs_clientSocket (side : ServerSide tunnel) {server : TunnelRequest}
    (holding : held (tunnel.phase request) = some client) (lets_go : held next = none)
    (late : isEarly next = false) (server_eq : tunnel.handle.serverWs = some server)
    (handle_eq : after.handle = { tunnel.handle with serverWs := none })
    (spawned_eq : after.spawned = tunnel.spawned ++ [(client, server)])
    (records_eq : after.accepted = tunnel.accepted ∧ after.stored = tunnel.stored)
    (phases : after.phase = Function.update tunnel.phase request next) : ClientSocket after := by
  obtain ⟨is_client, was_stored, unspawned, taken, _⟩ := socket.hand request client holding
  obtain ⟨number, server_is, accepted⟩ := side.slot server server_eq
  refine ⟨?_, ?_, ?_, ?_⟩
  · rw [phases, records_eq.2]
    exact early_of_letting_go socket late
  · intro other stored
    rw [handle_eq] at stored
    rw [taken] at stored
    cases stored
  · intro other holder_client holds
    rw [phases, hand_emptied socket holding lets_go other] at holds
    cases holds
  · right
    rw [records_eq.1, records_eq.2, spawned_eq, unspawned, is_client, server_is]
    exact ⟨was_stored, number, rfl, accepted⟩

theorem loses_clientSocket
    (unheld : ∀ other, held (Function.update tunnel.phase request next other) = none)
    (late : isEarly next = false) (empty : after.handle.clientWs = none)
    (records_eq : after.accepted = tunnel.accepted ∧ after.stored = tunnel.stored ∧
      after.spawned = tunnel.spawned)
    (phases : after.phase = Function.update tunnel.phase request next) : ClientSocket after := by
  refine ⟨?_, ?_, ?_, ?_⟩
  · rw [phases, records_eq.2.1]
    exact early_of_letting_go socket late
  · intro client stored
    rw [empty] at stored
    cases stored
  · intro other client holds
    rw [phases, unheld other] at holds
    cases holds
  · rw [records_eq.1, records_eq.2.1, records_eq.2.2]
    exact socket.forwarded

theorem withdraws_clientSocket (phase_eq : tunnel.phase request = .withdrawing)
    (handle_eq : after.handle = tunnel.handle.clearOwnSocket request)
    (records_eq : after.accepted = tunnel.accepted ∧ after.stored = tunnel.stored ∧
      after.spawned = tunnel.spawned)
    (phases : after.phase = Function.update tunnel.phase request .removing) :
    ClientSocket after := by
  have held_same : ∀ other, held (after.phase other) = held (tunnel.phase other) := by
    intro other
    rw [phases]
    exact same_reads_of_update (by rw [phase_eq]; rfl) other
  have unchanged : after.handle.clientWs = tunnel.handle.clientWs → ClientSocket after := by
    intro client_eq
    exact socket.of_moved phases nofun (by rw [phase_eq]; rfl) client_eq records_eq.2.1
      records_eq.2.2 (fun number member => by rw [records_eq.1]; exact member)
  cases request with
  | tunnel =>
    apply unchanged
    rw [handle_eq]
    rfl
  | connect =>
    cases client_eq : tunnel.handle.clientWs with
    | none =>
      apply unchanged
      rw [handle_eq, client_eq]
      rfl
    | some client =>
      have unheld := (socket.slot client client_eq).2.2.2
      refine loses_clientSocket socket ?_ (by rfl) (by rw [handle_eq]; rfl) records_eq phases
      intro other
      rw [← phases, held_same other]
      exact unheld other

end

theorem noPair_reads (inLoop : Bool) :
    held (noPair inLoop) = none ∧ isEarly (noPair inLoop) = false := by
  cases inLoop <;> exact ⟨rfl, rfl⟩

theorem HandlerMove.clientSocket (socket : ClientSocket tunnel) (side : ServerSide tunnel)
    (moved : HandlerMove setting tunnel request after) : ClientSocket after := by
  cases moved with
  | passes _ _ passage same phases =>
    have unheld := passes_held passage
    refine socket.of_moved phases (passes_isEarly passage) (unheld.2.trans unheld.1.symm)
      same.clientWs same.stored same.spawned ?_
    rw [same.accepted]
    exact fun number member => member
  | verifies _ _ request_eq phase_eq =>
    subst request_eq
    exact socket.of_moved rfl (fun _ => by rw [phase_eq]; rfl) (by rw [phase_eq]; rfl) rfl rfl rfl
      (fun other member => List.mem_append_left _ member)
  | notifies _ phase_eq => exact notifies_clientSocket socket phase_eq
  | stores phase_eq => exact stores_clientSocket socket phase_eq
  | takesClient _ _ _ client_eq =>
    exact takesClient_clientSocket socket client_eq
  | misses inLoop phase_eq =>
    have reads := noPair_reads inLoop
    exact socket.of_moved rfl (by simp [reads.2]) (by rw [phase_eq]; exact reads.1) rfl rfl rfl
      (fun number member => member)
  | pairs _ client _ next _ phase_eq server_eq next_eq handle_eq spawned_eq records_eq phases =>
      have holding : held (tunnel.phase request) = some client := by rw [phase_eq]; rfl
      have lets_go : held next = none ∧ isEarly next = false := by
        rcases next_eq with next_eq | next_eq <;> rw [next_eq] <;> exact ⟨rfl, rfl⟩
      exact pairs_clientSocket socket side holding lets_go.1 lets_go.2 server_eq handle_eq
        spawned_eq ⟨records_eq.1, records_eq.2.1⟩ phases
  | findsNoServer _ _ phase_eq =>
    exact socket.of_moved rfl nofun (by rw [phase_eq]; rfl) rfl rfl rfl (fun _ member => member)
  | restores inLoop _ phase_eq =>
    have reads := noPair_reads inLoop
    exact restores_clientSocket socket (by rw [phase_eq]; rfl) reads.1 reads.2
  | withdraws _ phase_eq handle_eq _ records_eq phases =>
    exact withdraws_clientSocket socket phase_eq handle_eq records_eq phases

theorem ExpireMove.clientSocket (socket : ClientSocket tunnel)
    (moved : ExpireMove tunnel request after) : ClientSocket after := by
  cases moved with
  | idle phase_eq =>
    refine socket.of_moved rfl nofun ?_ rfl rfl rfl (fun _ member => member)
    rcases phase_eq with phase_eq | phase_eq | phase_eq | phase_eq <;> rw [phase_eq] <;> rfl
  | drops client phase_eq =>
    have holding : held (tunnel.phase request) = some client := by
      rcases phase_eq with phase_eq | phase_eq <;> rw [phase_eq] <;> rfl
    have taken := (socket.hand request client holding).2.2.2.1
    exact loses_clientSocket socket (hand_emptied socket holding rfl) rfl taken ⟨rfl, rfl, rfl⟩
      rfl

theorem ExpireMove.serverSide (side : ServerSide tunnel)
    (moved : ExpireMove tunnel request after) : ServerSide after := by
  cases moved with
  | idle phase_eq =>
    have active : isActive (tunnel.phase request) = true := by
      rcases phase_eq with phase_eq | phase_eq | phase_eq | phase_eq <;> rw [phase_eq] <;> rfl
    exact side.of_moved active rfl (fun server stored => stored) rfl
  | drops _ phase_eq =>
    have active : isActive (tunnel.phase request) = true := by
      rcases phase_eq with phase_eq | phase_eq <;> rw [phase_eq] <;> rfl
    exact side.of_moved active rfl (fun server stored => stored) rfl

structure PairingInvariant (setting : TunnelSetting) (tunnel : Tunnel) : Prop where
  secret : SecretOnce setting tunnel
  server : ServerSide tunnel
  client : ClientSocket tunnel

theorem created_invariant (setting : TunnelSetting) :
    PairingInvariant setting (created setting) := by
  refine ⟨Or.inl ⟨rfl, rfl⟩, ⟨?_, ?_⟩, ⟨?_, ?_, ?_, Or.inl rfl⟩⟩
  · intro number active
    simp [created, isActive] at active
  · intro server stored
    cases stored
  · intro request _
    simp [created]
  · intro client stored
    cases stored
  · intro request client holding
    cases request with
    | connect | tunnel => simp [created, held] at holding

theorem stepTunnel_invariant {action : TunnelAction} (holds : PairingInvariant setting tunnel)
    (moved : stepTunnel setting tunnel action = some after) :
    PairingInvariant setting after := by
  cases stepTunnel_move moved with
  | arrives number phase_eq =>
    refine ⟨holds.secret.of_same rfl rfl, ?_, ?_⟩
    · apply holds.server.of_active
      · intro other active
        exact reads_of_update (fun active => by cases active) _ active
      · exact fun server stored => stored
      · rfl
    · exact holds.client.of_moved rfl (fun _ => by rw [phase_eq]; rfl) (by rw [phase_eq]; rfl) rfl
        rfl rfl (fun number member => member)
  | advances _ _ _ move =>
    exact ⟨HandlerMove.secretOnce holds.secret move, HandlerMove.serverSide holds.server move,
      HandlerMove.clientSocket holds.client holds.server move⟩
  | expires _ _ move =>
    refine ⟨?_, ExpireMove.serverSide holds.server move, ExpireMove.clientSocket holds.client move⟩
    cases move with
    | idle | drops => exact holds.secret.of_same rfl rfl
  | removed =>
    exact ⟨holds.secret.of_same rfl rfl, ⟨holds.server.active, holds.server.slot⟩,
      ⟨holds.client.early, holds.client.slot, holds.client.hand, holds.client.forwarded⟩⟩

theorem reaches_invariant {guard : Tunnel → TunnelAction → Prop} {final : Tunnel}
    (run : Reaches (stepTunnel setting) guard (created setting) final) :
    PairingInvariant setting final := by
  apply run.invariant (created_invariant setting)
  intro before action next holds _ moved
  exact stepTunnel_invariant holds moved

theorem SecretOnce.authorized (once : SecretOnce setting tunnel) {number : Nat}
    (accepted : number ∈ tunnel.accepted) : Authorized setting number := by
  rcases once with ⟨_, none_accepted⟩ | ⟨_, _, accepted_eq, authorized⟩
  · rw [none_accepted] at accepted
    cases accepted
  · rw [accepted_eq, List.mem_singleton] at accepted
    rw [accepted]
    exact authorized

end

/-- However the handlers interleave, at most one tunnel request passes the check of the secret, the
forwarders are spawned at most once, and then with the socket of the connect request and the socket
of a request with the role `server` and the tunnel's secret. -/
theorem tunnel_pairing_unique (setting : TunnelSetting) (final : Tunnel)
    (run : Reaches (stepTunnel setting) anyAction (Tunnel.created setting) final) :
    final.accepted.length ≤ 1 ∧ final.spawned.length ≤ 1 ∧
      ∀ client server, (client, server) ∈ final.spawned →
        client = .connect ∧ ∃ number, server = .tunnel number ∧
          (setting.query number).role = some "server" ∧
          (setting.query number).token = some setting.serverSecret := by
  have holds := reaches_invariant run
  refine ⟨?_, ?_, ?_⟩
  · rcases holds.secret with ⟨_, accepted_eq⟩ | ⟨_, _, accepted_eq, _⟩ <;>
      simp [accepted_eq]
  · rcases holds.client.forwarded with spawned_eq | ⟨_, _, spawned_eq, _⟩ <;>
      simp [spawned_eq]
  · intro client server paired
    rcases holds.client.forwarded with spawned_eq | ⟨_, number, spawned_eq, accepted⟩
    · rw [spawned_eq] at paired
      cases paired
    · rw [spawned_eq, List.mem_singleton] at paired
      cases paired
      exact ⟨rfl, number, rfl, holds.secret.authorized accepted⟩

def oneServer : TunnelSetting where
  tunnelId := "tunnel"
  serverSecret := "secret"
  query := fun number =>
    if number = 0 then { role := some "server", token := some "secret" }
    else { role := none, token := none }

def prompt (request : TunnelRequest) : TunnelAction :=
  let role :=
    match request with
    | .connect => "client"
    | .tunnel _ => "server"
  let ready : TunnelReadyPayload :=
    { type := "tunnel_ready", role := role, tunnelId := "tunnel" }
  .advance request { sendOk := true, received := some ready }

def prompts (request : TunnelRequest) (steps : Nat) : List TunnelAction :=
  List.replicate steps (prompt request)

/-- The connect handler waits in its loop when the server arrives. -/
def waitingClientActions : List TunnelAction :=
  prompts .connect 11 ++ [.arrive 0] ++ prompts (.tunnel 0) 9

theorem waiting_client_paired_once :
    ∃ final : Tunnel, final.spawned = [(.connect, .tunnel 0)] ∧
      (final.accepted.length ≤ 1 ∧ final.spawned.length ≤ 1 ∧
        ∀ client server, (client, server) ∈ final.spawned →
          client = .connect ∧ ∃ number, server = .tunnel number ∧
            (oneServer.query number).role = some "server" ∧
            (oneServer.query number).token = some oneServer.serverSecret) := by
  obtain ⟨final, run, spawned_eq⟩ :
      ∃ final, Reaches (stepTunnel oneServer) anyAction (Tunnel.created oneServer) final ∧
        final.spawned = [(.connect, .tunnel 0)] :=
    reaches_of_evaluated waitingClientActions (by decide)
  exact ⟨final, spawned_eq, tunnel_pairing_unique oneServer final run⟩

end HandControl.TunnelPairing
