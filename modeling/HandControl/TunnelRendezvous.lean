import HandControl.TunnelPairing

/-!
# The rendezvous of client and server in a tunnel

`take_pair_if_ready` takes the client socket, looks for the server socket under another lock and
puts the client socket back when there is none. A server handler that looks in between misses it,
and no later notification brings the two together. Without this coincidence, and if no handler gives
its socket up while the other one's is in the handle, the pair is always formed.
-/

namespace HandControl.TunnelRendezvous

open TunnelHandshake TunnelPairing TransitionRuns Tunnel

def OtherStored (tunnel : Tunnel) : TunnelRequest → Prop
  | .connect => ∃ number, .tunnel number ∈ tunnel.stored
  | .tunnel _ => .connect ∈ tunnel.stored

/-- A tunnel handler's first look for the client socket does not fall between the connect
handler's vain look for the server socket and its putting the client socket back. -/
def SeesClient (tunnel : Tunnel) (request : TunnelRequest) : Prop :=
  request ≠ .connect → tunnel.phase request = .looking false →
    ∀ inLoop client, tunnel.phase .connect ≠ .restoring inLoop client

/-- A handler gives its socket up only while the other side has stored none, and no socket
is stored after one was given up. -/
def GivesUpAlone (tunnel : Tunnel) (request : TunnelRequest) : Prop :=
  (tunnel.phase request = .withdrawing → tunnel.handle.ownSocket request ≠ none →
    ¬ OtherStored tunnel request) ∧
  (tunnel.phase request = .storing → tunnel.givenUp = [])

def OrderlyRendezvous (tunnel : Tunnel) : TunnelAction → Prop
  | .advance request _ => SeesClient tunnel request ∧ GivesUpAlone tunnel request
  | .expire request =>
    ∀ client, held (tunnel.phase request) = some client → ¬ OtherStored tunnel request
  | _ => True

/-- The handler stored its socket and has its first look still before it. -/
def isFresh : HandlerPhase → Bool
  | .announcingStored | .looking false => true
  | _ => false

/-- With both sockets stored, one of the handlers is going to find the pair. -/
inductive OnTheWay (number : Nat) (tunnel : Tunnel) : Prop where
  | lying (client_eq : tunnel.handle.clientWs = some .connect)
      (fresh : isFresh (tunnel.phase .connect) = true ∨
        isFresh (tunnel.phase (.tunnel number)) = true)
  | clientHolds (inLoop : Bool) (phase_eq : tunnel.phase .connect = .holding inLoop .connect)
  | serverHolds (inLoop : Bool)
      (phase_eq : tunnel.phase (.tunnel number) = .holding inLoop .connect)
  | clientRestores (inLoop : Bool) (phase_eq : tunnel.phase .connect = .restoring inLoop .connect)
      (fresh : isFresh (tunnel.phase (.tunnel number)) = true)

/-- Nothing is lost: no socket was given up and no forwarder spawned. -/
def Open (tunnel : Tunnel) : Prop :=
  tunnel.givenUp = [] ∧ tunnel.spawned = []

structure Rendezvous (tunnel : Tunnel) : Prop where
  lies : ∀ server, tunnel.handle.serverWs = some server → server ∈ tunnel.stored
  admitted : ∀ number, .tunnel number ∈ tunnel.stored → number ∈ tunnel.accepted
  serverKept : ∀ number, .tunnel number ∈ tunnel.stored → Open tunnel →
    tunnel.handle.serverWs = some (.tunnel number)
  clientKept : .connect ∈ tunnel.stored → Open tunnel →
    tunnel.handle.clientWs = some .connect ∨
      ∃ request, held (tunnel.phase request) = some .connect
  way : ∀ number, .connect ∈ tunnel.stored → .tunnel number ∈ tunnel.stored → Open tunnel →
    OnTheWay number tunnel
  alone : tunnel.givenUp ≠ [] → ∀ number, .connect ∈ tunnel.stored →
    .tunnel number ∉ tunnel.stored

def isBusy (phase : HandlerPhase) : Bool :=
  isFresh phase || (held phase).isSome

variable {phase next : HandlerPhase} {client server : TunnelRequest} {inLoop : Bool}
variable {action : TunnelAction} {tunnel : Tunnel}

theorem passes_isBusy (passage : Passes phase next) : isBusy phase = false := by
  cases passage <;> rfl

/-- Fresh handlers stay fresh, and a handler that holds the client socket does not move. -/
structure Undisturbed (before after : Tunnel) : Prop where
  fresh : ∀ request, isFresh (before.phase request) = true →
    isFresh (after.phase request) = true
  hand : ∀ request, held (before.phase request) ≠ none →
    after.phase request = before.phase request

section

variable {setting : TunnelSetting} {after : Tunnel} {request : TunnelRequest}
variable {number : Nat}

theorem undisturbed_of_update (idle : isBusy (tunnel.phase request) = false)
    (phases : after.phase = Function.update tunnel.phase request next) :
    Undisturbed tunnel after := by
  have kept : ∀ other, isBusy (tunnel.phase other) = true →
      after.phase other = tunnel.phase other := by
    intro other busy
    rw [phases]
    apply Function.update_of_ne
    intro same
    rw [same, idle] at busy
    cases busy
  refine ⟨?_, ?_⟩
  · intro other fresh
    rw [kept other (by simp [isBusy, fresh])]
    exact fresh
  · intro other holds
    apply kept other
    simp [isBusy, Option.isSome_iff_ne_none, holds]

/-- Woken handlers were waiting; the one that notifies keeps its reading. -/
theorem undisturbed_of_notify
    (fresh_kept : isFresh (tunnel.phase request) = true → isFresh next = true)
    (empty_handed : held (tunnel.phase request) = none) :
    Undisturbed tunnel (tunnel.notifyWaiters.moveTo request next) := by
  refine ⟨?_, ?_⟩
  · intro other fresh
    have woken : isFresh (tunnel.notifyWaiters.phase other) = true := by
      unfold notifyWaiters
      dsimp only
      split
      · rename_i waiting
        rw [waiting] at fresh
        cases fresh
      · exact fresh
    show isFresh (Function.update tunnel.notifyWaiters.phase request next other) = true
    rw [update_reads isFresh]
    split
    · rename_i same
      rw [same] at fresh
      exact fresh_kept fresh
    · exact woken
  · intro other holds
    have different : other ≠ request := by
      intro same
      rw [same] at holds
      exact holds empty_handed
    show Function.update tunnel.notifyWaiters.phase request next other = tunnel.phase other
    rw [Function.update_of_ne different]
    unfold notifyWaiters
    dsimp only
    split
    · rename_i waiting
      rw [waiting] at holds
      exact absurd rfl holds
    · rfl

theorem OnTheWay.of_same (way : OnTheWay number tunnel) (calm : Undisturbed tunnel after)
    (client_eq : after.handle.clientWs = tunnel.handle.clientWs) : OnTheWay number after := by
  cases way with
  | lying slot_eq fresh =>
    refine .lying (client_eq.trans slot_eq) ?_
    rcases fresh with fresh | fresh
    · exact Or.inl (calm.fresh _ fresh)
    · exact Or.inr (calm.fresh _ fresh)
  | clientHolds inLoop phase_eq =>
    have kept := calm.hand .connect (by rw [phase_eq]; exact Option.some_ne_none _)
    exact .clientHolds inLoop (kept.trans phase_eq)
  | serverHolds inLoop phase_eq =>
    have kept := calm.hand (.tunnel number) (by rw [phase_eq]; exact Option.some_ne_none _)
    exact .serverHolds inLoop (kept.trans phase_eq)
  | clientRestores inLoop phase_eq fresh =>
    have kept := calm.hand .connect (by rw [phase_eq]; exact Option.some_ne_none _)
    exact .clientRestores inLoop (kept.trans phase_eq) (calm.fresh _ fresh)

theorem accepted_unique (once : SecretOnce setting tunnel) {first second : Nat}
    (first_in : first ∈ tunnel.accepted) (second_in : second ∈ tunnel.accepted) :
    first = second := by
  rcases once with ⟨_, none_accepted⟩ | ⟨_, _, accepted_eq, _⟩
  · rw [none_accepted] at first_in
    cases first_in
  · rw [accepted_eq, List.mem_singleton] at first_in second_in
    rw [first_in, second_in]

theorem isActive_of_held (holding : held phase = some client) : isActive phase = true := by
  cases phase <;> first | rfl | cases holding

section

variable (meets : Rendezvous tunnel)

include meets

theorem Rendezvous.of_same (calm : Undisturbed tunnel after)
    (client_eq : after.handle.clientWs = tunnel.handle.clientWs)
    (server_eq : after.handle.serverWs = tunnel.handle.serverWs)
    (stored_eq : after.stored = tunnel.stored) (spawned_eq : after.spawned = tunnel.spawned)
    (givenUp_eq : after.givenUp = tunnel.givenUp)
    (accepted_le : ∀ number, number ∈ tunnel.accepted → number ∈ after.accepted) :
    Rendezvous after := by
  have open_eq : Open after ↔ Open tunnel := by
    unfold Open
    rw [spawned_eq, givenUp_eq]
  refine ⟨?_, ?_, ?_, ?_, ?_, ?_⟩
  · rw [server_eq, stored_eq]
    exact meets.lies
  · intro number stored
    rw [stored_eq] at stored
    exact accepted_le number (meets.admitted number stored)
  · intro number stored still_open
    rw [stored_eq] at stored
    rw [server_eq]
    exact meets.serverKept number stored (open_eq.mp still_open)
  · intro stored still_open
    rw [stored_eq] at stored
    rcases meets.clientKept stored (open_eq.mp still_open) with slot | ⟨holder, holds⟩
    · exact Or.inl (client_eq.trans slot)
    · right
      refine ⟨holder, ?_⟩
      rw [calm.hand holder (by rw [holds]; exact Option.some_ne_none _)]
      exact holds
  · intro number client_stored server_stored still_open
    rw [stored_eq] at client_stored server_stored
    exact (meets.way number client_stored server_stored (open_eq.mp still_open)).of_same calm
      client_eq
  · rw [givenUp_eq, stored_eq]
    exact meets.alone

section

variable (holds : PairingInvariant setting tunnel)

include holds

/-- Storing the second socket puts the pair on its way: the handler that stored it is
fresh, and the client socket lies in the handle or is in the connect handler's hand. -/
theorem stores_way (phase_eq : tunnel.phase request = .storing) (still_open : Open tunnel)
    (client_stored : .connect ∈ tunnel.stored ++ [request])
    (server_stored : .tunnel number ∈ tunnel.stored ++ [request])
    (handle_eq : after.handle = tunnel.handle.storeSocket request)
    (phases : after.phase = Function.update tunnel.phase request .announcingStored) :
    OnTheWay number after := by
  have fresh : isFresh (after.phase request) = true := by simp [phases, isFresh]
  cases request with
  | connect => exact .lying (by rw [handle_eq]; rfl) (Or.inl fresh)
  | tunnel arrived =>
    have client_before : .connect ∈ tunnel.stored := by simpa using client_stored
    have arrived_accepted : arrived ∈ tunnel.accepted :=
      holds.server.active arrived (by rw [phase_eq]; rfl)
    have same : number = arrived := by
      rw [List.mem_append, List.mem_singleton] at server_stored
      rcases server_stored with earlier | now
      · exact accepted_unique holds.secret (meets.admitted number earlier) arrived_accepted
      · exact TunnelRequest.tunnel.inj now
    subst same
    rcases meets.clientKept client_before still_open with slot | ⟨holder, holding⟩
    · exact .lying (by rw [handle_eq]; exact slot) (Or.inr fresh)
    · have holder_eq : holder = .connect := by
        cases holder with
        | connect => rfl
        | tunnel other =>
          -- Another tunnel request cannot be past the check of the secret.
          exfalso
          have other_same := accepted_unique holds.secret
            (holds.server.active other (isActive_of_held holding)) arrived_accepted
          rw [other_same, phase_eq] at holding
          cases holding
      rw [holder_eq] at holding
      have unmoved : after.phase .connect = tunnel.phase .connect := by simp [phases]
      cases connect_phase : tunnel.phase .connect with
      | holding inLoop =>
        rw [connect_phase] at holding
        cases holding
        exact .clientHolds inLoop (unmoved.trans connect_phase)
      | restoring inLoop =>
        rw [connect_phase] at holding
        cases holding
        exact .clientRestores inLoop (unmoved.trans connect_phase) fresh
      | _ =>
        rw [connect_phase] at holding
        cases holding

theorem stores_rendezvous (phase_eq : tunnel.phase request = .storing)
    (nothing_lost : tunnel.givenUp = []) :
    Rendezvous (({ tunnel with
      handle := tunnel.handle.storeSocket request
      stored := tunnel.stored ++ [request] }).moveTo request .announcingStored) := by
  have admitted : ∀ number, .tunnel number ∈ tunnel.stored ++ [request] →
      number ∈ tunnel.accepted := by
    intro number stored
    rw [List.mem_append, List.mem_singleton] at stored
    rcases stored with earlier | now
    · exact meets.admitted number earlier
    · apply holds.server.active number
      rw [now, phase_eq]
      rfl
  refine ⟨?_, admitted, ?_, ?_, ?_, ?_⟩
  · intro server lying
    cases request with
    | connect => exact List.mem_append_left _ (meets.lies server lying)
    | tunnel arrived =>
      have server_eq : TunnelRequest.tunnel arrived = server := Option.some.inj lying
      rw [← server_eq]
      exact List.mem_append_right _ (List.mem_singleton_self _)
  · intro number stored still_open
    cases request with
    | connect => exact meets.serverKept number (by simpa [moveTo] using stored) still_open
    | tunnel arrived =>
      have same := accepted_unique holds.secret (admitted number stored)
        (admitted arrived (by simp))
      rw [same]
      rfl
  · intro stored still_open
    cases request with
    | connect => exact Or.inl rfl
    | tunnel arrived =>
      rcases meets.clientKept (by simpa [moveTo] using stored) still_open with
        slot | ⟨holder, holding⟩
      · exact Or.inl slot
      · right
        refine ⟨holder, ?_⟩
        have different : holder ≠ .tunnel arrived := by
          intro same
          rw [same, phase_eq] at holding
          cases holding
        simpa [moveTo, Function.update_of_ne different] using holding
  · intro number client_stored server_stored still_open
    exact stores_way meets holds phase_eq still_open client_stored server_stored rfl rfl
  · intro lost
    exact absurd nothing_lost lost

/-- Whoever takes the client socket while both are stored is the connect handler or the
accepted tunnel handler. -/
theorem takesClient_rendezvous (phase_eq : tunnel.phase request = .looking inLoop)
    (client_eq : tunnel.handle.clientWs = some client) :
    Rendezvous (({ tunnel with handle := { tunnel.handle with clientWs := none } }).moveTo
      request (.holding inLoop client)) := by
  have is_client : client = .connect := (holds.client.slot client client_eq).1
  subst is_client
  have own : Function.update tunnel.phase request (.holding inLoop .connect) request =
      .holding inLoop .connect := Function.update_self ..
  refine ⟨meets.lies, meets.admitted, meets.serverKept, ?_, ?_, meets.alone⟩
  · intro _ _
    exact Or.inr ⟨request, congrArg held own⟩
  · intro number client_stored server_stored still_open
    cases request with
    | connect => exact .clientHolds inLoop own
    | tunnel taker =>
      have taker_accepted := holds.server.active taker (by rw [phase_eq]; rfl)
      have same := accepted_unique holds.secret taker_accepted (meets.admitted number server_stored)
      rw [same] at own
      rw [same]
      exact .serverHolds inLoop own

end

theorem misses_rendezvous (sees : SeesClient tunnel request)
    (phase_eq : tunnel.phase request = .looking inLoop)
    (client_eq : tunnel.handle.clientWs = none) :
    Rendezvous (tunnel.moveTo request (noPair inLoop)) := by
  have others : ∀ other, other ≠ request →
      (tunnel.moveTo request (noPair inLoop)).phase other = tunnel.phase other := by
    intro other different
    exact Function.update_of_ne different _ _
  have not_looking : ∀ other, tunnel.phase other ≠ .looking inLoop → other ≠ request := by
    intro other different same
    rw [same] at different
    exact different phase_eq
  refine ⟨meets.lies, meets.admitted, meets.serverKept, ?_, ?_, meets.alone⟩
  · intro stored still_open
    rcases meets.clientKept stored still_open with slot | ⟨holder, holding⟩
    · rw [client_eq] at slot
      cases slot
    · right
      refine ⟨holder, ?_⟩
      rw [others holder]
      · exact holding
      · apply not_looking
        intro looking
        rw [looking] at holding
        cases holding
  · intro number client_stored server_stored still_open
    cases meets.way number client_stored server_stored still_open with
    | lying slot =>
      rw [client_eq] at slot
      cases slot
    | clientHolds holderLoop holding =>
      exact .clientHolds holderLoop ((others _ (not_looking _ (by simp [holding]))).trans holding)
    | serverHolds holderLoop holding =>
      exact .serverHolds holderLoop ((others _ (not_looking _ (by simp [holding]))).trans holding)
    | clientRestores holderLoop restoring fresh =>
      have connect_kept := others .connect (not_looking _ (by simp [restoring]))
      refine .clientRestores holderLoop (connect_kept.trans restoring) ?_
      by_cases same : TunnelRequest.tunnel number = request
      · -- The condition on the run excludes that the first look falls here.
        exfalso
        rw [same, phase_eq] at fresh
        cases inLoop with
        | true => cases fresh
        | false =>
          apply sees _ phase_eq holderLoop .connect restoring
          rw [← same]
          simp
      · rw [others _ same]
        exact fresh

theorem findsNoServer_rendezvous (phase_eq : tunnel.phase request = .holding inLoop client)
    (server_eq : tunnel.handle.serverWs = none) :
    Rendezvous (tunnel.moveTo request (.restoring inLoop client)) := by
  refine ⟨meets.lies, meets.admitted, meets.serverKept, ?_, ?_, meets.alone⟩
  · intro stored still_open
    rcases meets.clientKept stored still_open with slot | ⟨holder, holding⟩
    · exact Or.inl slot
    · right
      refine ⟨holder, ?_⟩
      rw [← holding]
      exact same_reads_of_update (by rw [phase_eq]; rfl) holder
  · intro number client_stored server_stored still_open
    have kept := meets.serverKept number server_stored still_open
    rw [server_eq] at kept
    cases kept

theorem restores_rendezvous (holds : PairingInvariant setting tunnel)
    (phase_eq : tunnel.phase request = .restoring inLoop client) :
    Rendezvous (({ tunnel with handle := { tunnel.handle with clientWs := some client } }).moveTo
      request (noPair inLoop)) := by
  have holding : held (tunnel.phase request) = some client := by rw [phase_eq]; rfl
  obtain ⟨is_client, _, _, taken, alone⟩ := holds.client.hand request client holding
  subst is_client
  refine ⟨meets.lies, meets.admitted, meets.serverKept, fun _ _ => Or.inl rfl, ?_, meets.alone⟩
  intro number client_stored server_stored still_open
  cases meets.way number client_stored server_stored still_open with
  | lying slot =>
    rw [taken] at slot
    cases slot
  | clientHolds _ held_there =>
    have same := alone .connect (by rw [held_there]; exact Option.some_ne_none _)
    rw [same, phase_eq] at held_there
    cases held_there
  | serverHolds _ held_there =>
    have same := alone (.tunnel number) (by rw [held_there]; exact Option.some_ne_none _)
    rw [same, phase_eq] at held_there
    cases held_there
  | clientRestores _ restoring fresh =>
    have same := alone .connect (by rw [restoring]; exact Option.some_ne_none _)
    refine .lying rfl (Or.inr ?_)
    have different : TunnelRequest.tunnel number ≠ request := by
      rw [← same]
      simp
    simpa [moveTo, Function.update_of_ne different] using fresh

theorem givesUp_rendezvous (other_absent : ¬ OtherStored tunnel request)
    (accepted_eq : after.accepted = tunnel.accepted) (stored_eq : after.stored = tunnel.stored)
    (server_le : ∀ server, after.handle.serverWs = some server →
      tunnel.handle.serverWs = some server) (lost : after.givenUp ≠ []) : Rendezvous after := by
  have closed : ¬ Open after := fun still_open => lost still_open.1
  refine ⟨?_, ?_, ?_, ?_, ?_, ?_⟩
  · intro server lying
    rw [stored_eq]
    exact meets.lies server (server_le server lying)
  · rw [accepted_eq, stored_eq]
    exact meets.admitted
  · intro number _ still_open
    exact absurd still_open closed
  · intro _ still_open
    exact absurd still_open closed
  · intro number _ _ still_open
    exact absurd still_open closed
  · intro _ number client_stored server_stored
    rw [stored_eq] at client_stored server_stored
    apply other_absent
    cases request with
    | connect => exact ⟨number, server_stored⟩
    | tunnel => exact client_stored

theorem withdraws_rendezvous (gives : GivesUpAlone tunnel request)
    (phase_eq : tunnel.phase request = .withdrawing)
    (handle_eq : after.handle = tunnel.handle.clearOwnSocket request)
    (givenUp_eq : after.givenUp = tunnel.givenUp ++ (tunnel.handle.ownSocket request).toList)
    (records_eq : after.accepted = tunnel.accepted ∧ after.stored = tunnel.stored ∧
      after.spawned = tunnel.spawned)
    (phases : after.phase = Function.update tunnel.phase request .removing) : Rendezvous after := by
  cases socket_eq : tunnel.handle.ownSocket request with
  | none =>
    have calm := undisturbed_of_update (by rw [phase_eq]; rfl) phases
    have client_eq : after.handle.clientWs = tunnel.handle.clientWs := by
      rw [handle_eq]
      cases request with
      | connect => exact socket_eq.symm
      | tunnel => rfl
    have server_eq : after.handle.serverWs = tunnel.handle.serverWs := by
      rw [handle_eq]
      cases request with
      | connect => rfl
      | tunnel => exact socket_eq.symm
    refine meets.of_same calm client_eq server_eq records_eq.2.1 records_eq.2.2 ?_ ?_
    · rw [givenUp_eq, socket_eq]
      simp
    · intro number member
      rw [records_eq.1]
      exact member
  | some =>
    have other_absent := gives.1 phase_eq (by rw [socket_eq]; exact Option.some_ne_none _)
    have server_le : ∀ server, after.handle.serverWs = some server →
        tunnel.handle.serverWs = some server := by
      intro server lying
      rw [handle_eq] at lying
      cases request with
      | connect => exact lying
      | tunnel => cases lying
    apply givesUp_rendezvous meets other_absent records_eq.1 records_eq.2.1 server_le
    rw [givenUp_eq, socket_eq]
    simp

theorem HandlerMove.rendezvous (holds : PairingInvariant setting tunnel)
    (sees : SeesClient tunnel request) (gives : GivesUpAlone tunnel request)
    (moved : HandlerMove setting tunnel request after) : Rendezvous after := by
  cases moved with
  | passes _ _ passage same phases =>
    refine meets.of_same (undisturbed_of_update (passes_isBusy passage) phases) same.clientWs
      same.serverWs same.stored same.spawned same.givenUp ?_
    intro number member
    rw [same.accepted]
    exact member
  | verifies _ _ request_eq phase_eq =>
    subst request_eq
    exact meets.of_same (undisturbed_of_update (by rw [phase_eq]; rfl) rfl) rfl rfl rfl rfl rfl
      (fun other member => List.mem_append_left _ member)
  | notifies next phase_eq =>
    have calm : Undisturbed tunnel (tunnel.notifyWaiters.moveTo request next) := by
      apply undisturbed_of_notify
      · rcases phase_eq with ⟨phase_eq, next_eq⟩ | ⟨phase_eq, next_eq⟩ <;>
          simp [phase_eq, next_eq, isFresh]
      · rcases phase_eq with ⟨phase_eq, _⟩ | ⟨phase_eq, _⟩ <;> rw [phase_eq] <;> rfl
    exact meets.of_same calm rfl rfl rfl rfl rfl (fun _ member => member)
  | stores phase_eq => exact stores_rendezvous meets holds phase_eq (gives.2 phase_eq)
  | takesClient _ _ phase_eq client_eq =>
    exact takesClient_rendezvous meets holds phase_eq client_eq
  | misses _ phase_eq client_eq => exact misses_rendezvous meets sees phase_eq client_eq
  | pairs inLoop client server next _ phase_eq server_eq next_eq handle_eq spawned_eq records_eq
      phases =>
      have paired : ¬ Open after := by
        intro still_open
        have nothing := still_open.2
        rw [spawned_eq] at nothing
        simp at nothing
      refine ⟨?_, ?_, ?_, ?_, ?_, ?_⟩
      · intro other lying
        rw [handle_eq] at lying
        cases lying
      · rw [records_eq.1, records_eq.2.1]
        exact meets.admitted
      · exact fun number _ still_open => absurd still_open paired
      · exact fun _ still_open => absurd still_open paired
      · exact fun number _ _ still_open => absurd still_open paired
      · rw [records_eq.2.1, records_eq.2.2]
        exact meets.alone
  | findsNoServer _ _ phase_eq server_eq =>
    exact findsNoServer_rendezvous meets phase_eq server_eq
  | restores _ _ phase_eq => exact restores_rendezvous meets holds phase_eq
  | withdraws _ phase_eq handle_eq givenUp_eq records_eq phases =>
    exact withdraws_rendezvous meets gives phase_eq handle_eq givenUp_eq records_eq phases

theorem ExpireMove.rendezvous
    (safe : ∀ client, held (tunnel.phase request) = some client → ¬ OtherStored tunnel request)
    (moved : ExpireMove tunnel request after) : Rendezvous after := by
  cases moved with
  | idle phase_eq =>
    have calm : Undisturbed tunnel (tunnel.moveTo request .expired) := by
      apply undisturbed_of_update _ rfl
      rcases phase_eq with phase_eq | phase_eq | phase_eq | phase_eq <;> rw [phase_eq] <;> rfl
    exact meets.of_same calm rfl rfl rfl rfl rfl (fun _ member => member)
  | drops client phase_eq =>
    have holding : held (tunnel.phase request) = some client := by
      rcases phase_eq with phase_eq | phase_eq <;> rw [phase_eq] <;> rfl
    exact givesUp_rendezvous meets (safe client holding) rfl rfl (fun _ lying => lying)
      (by simp [moveTo])

theorem stepTunnel_rendezvous (holds : PairingInvariant setting tunnel)
    (orderly : OrderlyRendezvous tunnel action)
    (moved : stepTunnel setting tunnel action = some after) : Rendezvous after := by
  cases stepTunnel_move moved with
  | arrives _ phase_eq =>
    exact meets.of_same (undisturbed_of_update (by rw [phase_eq]; rfl) rfl) rfl rfl rfl rfl
      rfl (fun _ member => member)
  | advances _ _ _ move =>
    exact HandlerMove.rendezvous meets holds orderly.1 orderly.2 move
  | expires _ _ move => exact ExpireMove.rendezvous meets orderly move
  | removed =>
    exact meets.of_same ⟨fun _ fresh => fresh, fun _ _ => rfl⟩ rfl rfl rfl rfl rfl
      (fun _ member => member)

end

theorem created_rendezvous (setting : TunnelSetting) : Rendezvous (created setting) := by
  refine ⟨?_, ?_, ?_, ?_, ?_, ?_⟩
  · intro server lying
    cases lying
  · intro number stored
    cases stored
  · intro number stored
    cases stored
  · intro stored
    cases stored
  · intro number stored
    cases stored
  · intro lost
    exact absurd rfl lost

structure Meeting (setting : TunnelSetting) (tunnel : Tunnel) : Prop where
  pairing : PairingInvariant setting tunnel
  rendezvous : Rendezvous tunnel

theorem reaches_meeting {final : Tunnel}
    (run : Reaches (stepTunnel setting) OrderlyRendezvous (created setting) final) :
    Meeting setting final := by
  apply run.invariant (⟨created_invariant setting, created_rendezvous setting⟩ :
    Meeting setting (created setting))
  intro before action next holds orderly moved
  exact ⟨stepTunnel_invariant holds.pairing moved,
    stepTunnel_rendezvous holds.rendezvous holds.pairing orderly moved⟩

def silent : StepInput where
  sendOk := true
  received := none

/-- The handler may go on, as long as a connect handler that has finished stays so. -/
def Permits (guard : Tunnel → TunnelAction → Prop) (request : TunnelRequest) (tunnel : Tunnel) :
    Prop :=
  ∀ state, (request ≠ .connect → tunnel.phase .connect = .finished →
      state.phase .connect = .finished) →
    state.phase request ≠ .withdrawing → guard state (.advance request silent)

def CanPair (guard : Tunnel → TunnelAction → Prop) (setting : TunnelSetting) (tunnel : Tunnel) :
    Prop :=
  ∃ later, Reaches (stepTunnel setting) guard tunnel later ∧ later.spawned ≠ []

theorem notifyWaiters_finished (finished : tunnel.phase .connect = .finished) :
    tunnel.notifyWaiters.phase .connect = .finished := by
  simp [notifyWaiters, finished]

section

variable {guard : Tunnel → TunnelAction → Prop} (permits : Permits guard request tunnel)

include permits

theorem CanPair.advance (unwithdrawn : tunnel.phase request ≠ .withdrawing)
    (moved : stepHandler setting tunnel request silent = some (after.moveTo request next))
    (kept : tunnel.phase .connect = .finished → after.phase .connect = .finished)
    (later : Permits guard request (after.moveTo request next) →
      CanPair guard setting (after.moveTo request next)) : CanPair guard setting tunnel := by
  obtain ⟨final, run, paired⟩ := later fun state still => permits state fun different finished =>
    still different ((Function.update_of_ne (Ne.symm different) _ _).trans (kept finished))
  have permitted := permits tunnel (fun _ finished => finished) unwithdrawn
  exact ⟨final, Reaches.head permitted moved run, paired⟩

theorem holding_pairs (phase_eq : tunnel.phase request = .holding inLoop client)
    (server_eq : tunnel.handle.serverWs = some server) : CanPair guard setting tunnel := by
  have moved : stepHandler setting tunnel request silent =
      some (tunnel.pairUp request inLoop client server) := by
    simp [stepHandler, phase_eq, server_eq]
  have permitted := permits tunnel (fun _ finished => finished) (by simp [phase_eq])
  refine ⟨_, Reaches.single permitted moved, ?_⟩
  cases request <;> cases inLoop <;> simp [pairUp, moveTo]

theorem fresh_pairs (fresh : isFresh (tunnel.phase request) = true)
    (client_eq : tunnel.handle.clientWs = some client)
    (server_eq : tunnel.handle.serverWs = some server) : CanPair guard setting tunnel := by
  have looks {state : Tunnel} (permits : Permits guard request state)
      (phase_eq : state.phase request = .looking false)
      (client_eq : state.handle.clientWs = some client)
      (server_eq : state.handle.serverWs = some server) : CanPair guard setting state := by
    have moved : stepHandler setting state request silent =
        some (({ state with handle := { state.handle with clientWs := none } }).moveTo request
          (.holding false client)) := by
      simp [stepHandler, phase_eq, client_eq]
    apply CanPair.advance permits (by simp [phase_eq]) moved id
    intro permits
    exact holding_pairs permits (Function.update_self _ _ _) server_eq
  cases phase_eq : tunnel.phase request with
  | looking inLoop =>
    cases inLoop with
    | false => exact looks permits phase_eq client_eq server_eq
    | true => simp [phase_eq, isFresh] at fresh
  | announcingStored =>
    have moved : stepHandler setting tunnel request silent =
        some (tunnel.notifyWaiters.moveTo request (.looking false)) := by
      simp [stepHandler, phase_eq]
    apply CanPair.advance permits (by simp [phase_eq]) moved notifyWaiters_finished
    intro permits
    exact looks permits (Function.update_self _ _ _) client_eq server_eq
  | _ => simp [phase_eq, isFresh] at fresh

end

theorem OnTheWay.not_finished (way : OnTheWay number tunnel)
    (client_finished : tunnel.phase .connect = .finished)
    (server_finished : tunnel.phase (.tunnel number) = .finished) : False := by
  cases way with
  | lying _ fresh =>
    rw [client_finished, server_finished] at fresh
    rcases fresh with fresh | fresh <;> cases fresh
  | clientHolds inLoop phase_eq | clientRestores inLoop phase_eq =>
    rw [client_finished] at phase_eq
    cases phase_eq
  | serverHolds _ phase_eq =>
    rw [server_finished] at phase_eq
    cases phase_eq

def Settled (tunnel : Tunnel) : Prop :=
  tunnel.handle.serverSecret = none ∧
    ∀ request, isActive (tunnel.phase request) = false

theorem idle_of_accepted {setting : TunnelSetting} (holds : PairingInvariant setting tunnel)
    (done : ∀ number ∈ tunnel.accepted, tunnel.phase (.tunnel number) = .finished) (number : Nat) :
    isActive (tunnel.phase (.tunnel number)) = false := by
  rw [Bool.eq_false_iff]
  intro active
  have finished := done number (holds.server.active number active)
  rw [finished] at active
  cases active

theorem settled_of_accepted {setting : TunnelSetting} (holds : PairingInvariant setting tunnel)
    (secret_eq : tunnel.handle.serverSecret = none) (returned : tunnel.phase .connect = .finished)
    (done : ∀ number ∈ tunnel.accepted, tunnel.phase (.tunnel number) = .finished) :
    Settled tunnel := by
  refine ⟨secret_eq, ?_⟩
  intro request
  cases request with
  | connect =>
    rw [returned]
    rfl
  | tunnel => exact idle_of_accepted holds done _

theorem Settled.inactive (settled : Settled tunnel)
    (own : isActive next = true → isActive (tunnel.phase request) = true)
    (phases : after.phase = Function.update tunnel.phase request next) (other : TunnelRequest) :
    isActive (after.phase other) = false := by
  rw [Bool.eq_false_iff]
  intro active
  rw [phases] at active
  have before := reads_of_update own other active
  rw [settled.2 other] at before
  cases before

theorem HandlerMove.settled (settled : Settled tunnel)
    (moved : HandlerMove setting tunnel request after) :
    Settled after ∧ after.spawned = tunnel.spawned := by
  have inactive := settled.2 request
  cases moved with
  | passes _ _ passage same phases =>
    exact ⟨⟨same.serverSecret.trans settled.1,
      settled.inactive (passes_isActive passage) phases⟩, same.spawned⟩
  | verifies _ _ _ _ _ _ secret_eq =>
    rw [settled.1] at secret_eq
    cases secret_eq
  | notifies _ phase_eq =>
    rcases phase_eq with ⟨phase_eq, _⟩ | ⟨phase_eq, _⟩ <;> rw [phase_eq] at inactive <;>
      cases inactive
  | _ => simp_all [isActive]

section

variable (settled : Settled tunnel)

include settled

theorem ExpireMove.not_settled : ¬ ExpireMove tunnel request after := by
  intro moved
  have inactive := settled.2 request
  cases moved with
  | idle phase_eq =>
    rcases phase_eq with phase_eq | phase_eq | phase_eq | phase_eq <;>
      rw [phase_eq] at inactive <;> cases inactive
  | drops _ phase_eq =>
    rcases phase_eq with phase_eq | phase_eq <;> rw [phase_eq] at inactive <;> cases inactive

theorem stepTunnel_settled (moved : stepTunnel setting tunnel action = some after) :
    Settled after ∧ after.spawned = tunnel.spawned := by
  cases stepTunnel_move moved with
  | arrives => exact ⟨⟨settled.1, settled.inactive (fun active => by cases active) rfl⟩, rfl⟩
  | advances _ _ _ move => exact HandlerMove.settled settled move
  | expires _ _ move => exact absurd move (ExpireMove.not_settled settled)
  | removed => exact ⟨settled, rfl⟩

theorem settled_spawns_nothing {later : Tunnel}
    (run : Reaches (stepTunnel setting) anyAction tunnel later) :
    Settled later ∧ later.spawned = tunnel.spawned := by
  induction run with
  | refl => exact ⟨settled, rfl⟩
  | tail _ last ih =>
    obtain ⟨_, _, moved⟩ := last
    have kept := stepTunnel_settled ih.1 moved
    exact ⟨kept.1, kept.2.trans ih.2⟩

end

end

/-- In every orderly run, once the connect handler and a tunnel handler that both stored their
socket have finished, the forwarders have been spawned; and while both sockets lie in the handle,
some handler can pair them. -/
theorem rendezvous_loses_no_pairing (setting : TunnelSetting) (final : Tunnel)
    (run : Reaches (stepTunnel setting) OrderlyRendezvous (Tunnel.created setting) final) :
    (∀ number, final.phase .connect = .finished → final.phase (.tunnel number) = .finished →
      .connect ∈ final.stored → .tunnel number ∈ final.stored → final.spawned ≠ []) ∧
    (final.handle.clientWs.isSome = true → final.handle.serverWs.isSome = true →
      ∃ later, Reaches (stepTunnel setting) anyAction final later ∧ later.spawned ≠ []) := by
  have meeting := reaches_meeting run
  have meets := meeting.rendezvous
  refine ⟨?_, ?_⟩
  · intro number client_finished server_finished client_stored server_stored unspawned
    have nothing_lost : final.givenUp = [] := by
      by_contra lost
      exact meets.alone lost number client_stored server_stored
    exact (meets.way number client_stored server_stored ⟨nothing_lost, unspawned⟩).not_finished
      client_finished server_finished
  · intro client_lies server_lies
    obtain ⟨client, client_eq⟩ := Option.isSome_iff_exists.mp client_lies
    obtain ⟨server, server_eq⟩ := Option.isSome_iff_exists.mp server_lies
    obtain ⟨_, client_stored, unspawned, unheld⟩ :=
      meeting.pairing.client.slot client client_eq
    obtain ⟨number, server_is, _⟩ := meeting.pairing.server.slot server server_eq
    have server_stored := meets.lies server server_eq
    rw [server_is] at server_stored
    have nothing_lost : final.givenUp = [] := by
      by_contra lost
      exact meets.alone lost number client_stored server_stored
    -- Both sockets lie in the handle, so nobody holds one and a fresh handler is left.
    cases meets.way number client_stored server_stored ⟨nothing_lost, unspawned⟩ with
    | lying _ fresh =>
      rcases fresh with fresh | fresh
      · exact fresh_pairs (fun _ _ _ => trivial) fresh client_eq server_eq
      · exact fresh_pairs (fun _ _ _ => trivial) fresh client_eq server_eq
    | clientHolds inLoop phase_eq | clientRestores inLoop phase_eq =>
      have nobody := unheld .connect
      rw [phase_eq] at nobody
      cases nobody
    | serverHolds _ phase_eq =>
      have nobody := unheld (.tunnel number)
      rw [phase_eq] at nobody
      cases nobody

instance (tunnel : Tunnel) (request : TunnelRequest) : Decidable (OtherStored tunnel request) :=
  match request with
  | .connect => decidable_of_iff (∃ other ∈ tunnel.stored, other ≠ .connect) (by
      constructor
      · rintro ⟨_ | number, member, different⟩
        · exact absurd rfl different
        · exact ⟨number, member⟩
      · rintro ⟨_, member⟩
        exact ⟨_, member, by simp⟩)
  | .tunnel _ => inferInstanceAs (Decidable (_ ∈ _))

instance (tunnel : Tunnel) (request : TunnelRequest) : Decidable (SeesClient tunnel request) := by
  unfold SeesClient
  cases tunnel.phase .connect with
  | restoring =>
    exact decidable_of_iff (request ≠ .connect → tunnel.phase request ≠ .looking false) (by simp)
  | _ => exact isTrue (by simp)

instance (tunnel : Tunnel) (action : TunnelAction) :
    Decidable (OrderlyRendezvous tunnel action) := by
  cases action <;> unfold OrderlyRendezvous <;> try unfold GivesUpAlone
  all_goals infer_instance

def orderlyActions : List TunnelAction :=
  waitingClientActions ++ prompts .connect 3

theorem orderly_handlers_pair :
    ∃ final : Tunnel, final.phase .connect = .finished ∧
      final.phase (.tunnel 0) = .finished ∧ final.spawned ≠ [] := by
  obtain ⟨final, run, client_finished, server_finished, client_stored, server_stored⟩ :
      ∃ final, Reaches (stepTunnel oneServer) OrderlyRendezvous (Tunnel.created oneServer) final ∧
        final.phase .connect = .finished ∧ final.phase (.tunnel 0) = .finished ∧
        .connect ∈ final.stored ∧ .tunnel 0 ∈ final.stored :=
    reaches_of_evaluated orderlyActions (by decide)
  exact ⟨final, client_finished, server_finished,
    (rendezvous_loses_no_pairing oneServer final run).1 0 client_finished server_finished
      client_stored server_stored⟩

/-- The server looks for the client socket while the connect handler has it in hand and is
about to put it back; then both handlers wait until their timeouts. -/
def crossingActions : List TunnelAction :=
  prompts .connect 9 ++ [.arrive 0] ++ prompts (.tunnel 0) 9 ++ prompts .connect 2 ++
    [.expire .connect] ++ prompts .connect 2 ++ [.expire (.tunnel 0)] ++ prompts (.tunnel 0) 2

/-- Both sockets lie in the handle, both sides are ready and both handlers have finished,
and the forwarders are never spawned. -/
theorem crossing_handlers_never_pair :
    ∃ final : Tunnel,
      Reaches (stepTunnel oneServer) anyAction (Tunnel.created oneServer) final ∧
      final.phase .connect = .finished ∧ final.phase (.tunnel 0) = .finished ∧
      final.stored = [.connect, .tunnel 0] ∧ final.handle.isFullyReady = true ∧
      final.handle.clientWs = some .connect ∧ final.handle.serverWs = some (.tunnel 0) ∧
      ∀ later, Reaches (stepTunnel oneServer) anyAction final later → later.spawned = [] := by
  obtain ⟨final, run, client_finished, server_finished, stored_eq, ready, client_eq, server_eq,
      secret_eq, done, spawned_eq⟩ :
      ∃ final, Reaches (stepTunnel oneServer) anyAction (Tunnel.created oneServer) final ∧
        final.phase .connect = .finished ∧ final.phase (.tunnel 0) = .finished ∧
        final.stored = [.connect, .tunnel 0] ∧ final.handle.isFullyReady = true ∧
        final.handle.clientWs = some .connect ∧ final.handle.serverWs = some (.tunnel 0) ∧
        final.handle.serverSecret = none ∧
        (∀ number ∈ final.accepted, final.phase (.tunnel number) = .finished) ∧
        final.spawned = [] :=
    reaches_of_evaluated crossingActions (by decide)
  have settled := settled_of_accepted (reaches_invariant run) secret_eq client_finished done
  refine ⟨final, run, client_finished, server_finished, stored_eq, ready, client_eq, server_eq, ?_⟩
  intro later continued
  exact (settled_spawns_nothing settled continued).2.trans spawned_eq

end HandControl.TunnelRendezvous
