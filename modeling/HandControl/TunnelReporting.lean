import HandControl.TunnelRendezvous

/-!
# A failed handshake is reported to the client

A connect handler that times out takes its socket back, tells the client and removes the tunnel, but
only while it sees that the server is not ready. Readiness does not say that the two were paired, so
a handler that lost its pair to the coincidences of `TunnelRendezvous` leaves without a word.
-/

namespace HandControl.TunnelReporting

open TunnelHandshake TunnelPairing TunnelRendezvous TransitionRuns Tunnel

/-- A server handler does not miss the client socket and gives its own up only while the client has
stored none or was told of the failure. The client stores its socket only while none was given up.
No handler times out with the client socket in hand. -/
def OrderlyHandshake (tunnel : Tunnel) : TunnelAction → Prop
  | .advance .connect _ => tunnel.phase .connect = .storing → tunnel.givenUp = []
  | .advance (.tunnel number) _ =>
    SeesClient tunnel (.tunnel number) ∧
      (tunnel.phase (.tunnel number) = .withdrawing → tunnel.handle.serverWs ≠ none →
        .connect ∉ tunnel.stored ∨ tunnel.tunnelFailedSent = true)
  | .expire request => held (tunnel.phase request) = none
  | _ => True

def isReady : HandlerPhase → Bool
  | .absent | .commanding | .unreachable | .acknowledging | .lookingUp | .verifying
  | .rejecting | .awaitingReady | .marking | .finished => false
  | _ => true

def isOver : HandlerPhase → Bool
  | .removing | .leaving | .finished => true
  | _ => false

structure SameFlags (tunnel after : Tunnel) : Prop where
  clientReady : after.handle.clientReady = tunnel.handle.clientReady
  serverReady : after.handle.serverReady = tunnel.handle.serverReady
  told : after.tunnelFailedSent = tunnel.tunnelFailedSent
  unmapped : tunnel.inMap = false → after.inMap = false

/-- What a step of a handler does to the readiness flags, to the report and to the map. -/
structure FlagMove (tunnel : Tunnel) (request : TunnelRequest) (after : Tunnel) : Prop where
  clientReady : after.handle.clientReady = true → tunnel.handle.clientReady = true ∨
    request = .connect ∧ tunnel.phase request = .marking
  serverReady : after.handle.serverReady = true → tunnel.handle.serverReady = true ∨
    ∃ number, request = .tunnel number ∧ tunnel.phase request = .marking
  serverKept : tunnel.handle.serverReady = true → after.handle.serverReady = true
  marked : ∀ number, request = .tunnel number → tunnel.phase request = .marking →
    after.handle.serverReady = true
  told : after.tunnelFailedSent = true → tunnel.tunnelFailedSent = true ∨
    request = .connect ∧ tunnel.phase request = .withdrawing ∧ tunnel.handle.clientWs ≠ none
  toldKept : tunnel.tunnelFailedSent = true → after.tunnelFailedSent = true
  tells : request = .connect → tunnel.phase request = .withdrawing →
    tunnel.handle.clientWs ≠ none → after.tunnelFailedSent = true
  removes : tunnel.phase request = .removing → after.inMap = false
  unmapped : tunnel.inMap = false → after.inMap = false

variable {input : StepInput} {socket other client server : TunnelRequest} {number : Nat}
variable {action : TunnelAction} {tunnel : Tunnel}

section

variable {setting : TunnelSetting} {after : Tunnel} {request : TunnelRequest}

theorem SameFlags.flagMove (same : SameFlags tunnel after)
    (unmarked : tunnel.phase request ≠ .marking)
    (unwithdrawn : tunnel.phase request ≠ .withdrawing)
    (unremoved : tunnel.phase request ≠ .removing) : FlagMove tunnel request after := by
  refine ⟨?_, ?_, ?_, ?_, ?_, ?_, ?_, ?_, same.unmapped⟩
  · rw [same.clientReady]
    exact Or.inl
  · rw [same.serverReady]
    exact Or.inl
  · rw [same.serverReady]
    exact id
  · exact fun _ _ marking => absurd marking unmarked
  · rw [same.told]
    exact Or.inl
  · rw [same.told]
    exact id
  · exact fun _ withdrawing => absurd withdrawing unwithdrawn
  · exact fun removing => absurd removing unremoved

theorem FlagMove.untold_before (flags : FlagMove tunnel request after)
    (untold : after.tunnelFailedSent = false) : tunnel.tunnelFailedSent = false := by
  rw [Bool.eq_false_iff]
  intro told
  rw [flags.toldKept told] at untold
  cases untold

theorem dropGuard_sameFlags (tunnel : Tunnel) : SameFlags tunnel tunnel.dropGuard := by
  unfold dropGuard
  split
  · exact ⟨rfl, rfl, rfl, id⟩
  · exact ⟨rfl, rfl, rfl, id⟩

theorem verify_sameFlags (number : Nat) : SameFlags tunnel (tunnel.verify setting number) := by
  have refused : SameFlags tunnel (tunnel.moveTo (.tunnel number) .rejecting) :=
    ⟨rfl, rfl, rfl, id⟩
  simp only [verify]
  split
  · split
    · split
      · rename_i accepted
        rw [(verifyServerSecret_accepts accepted).2]
        exact ⟨rfl, rfl, rfl, id⟩
      · exact refused
    · exact refused
  · exact refused

theorem pairUp_sameFlags (inLoop : Bool) (client server : TunnelRequest) :
    SameFlags tunnel (tunnel.pairUp request inLoop client server) := by
  simp only [pairUp]
  split
  · exact ⟨rfl, rfl, rfl, id⟩
  · split <;> exact ⟨rfl, rfl, rfl, id⟩

section

variable (moved : stepHandler setting tunnel request input = some after)

include moved

theorem stepHandler_sameFlags (unmarked : tunnel.phase request ≠ .marking)
    (unwithdrawn : tunnel.phase request ≠ .withdrawing)
    (unremoved : tunnel.phase request ≠ .removing) : SameFlags tunnel after := by
  have returns (disarmed : Bool) :
      SameFlags tunnel
        (({ tunnel with disarmed := disarmed }).dropGuard.moveTo request .finished) := by
    have dropped := dropGuard_sameFlags { tunnel with disarmed := disarmed }
    exact ⟨dropped.clientReady, dropped.serverReady, dropped.told, dropped.unmapped⟩
  unfold stepHandler at moved
  cases phase_eq : tunnel.phase request <;> simp only [phase_eq] at moved
  case marking => exact absurd phase_eq unmarked
  case withdrawing => exact absurd phase_eq unwithdrawn
  case removing => exact absurd phase_eq unremoved
  case absent | waiting | finished => cases moved
  case acknowledging =>
    split at moved <;> cases moved
    · exact ⟨rfl, rfl, rfl, id⟩
    · exact returns tunnel.disarmed
  case verifying =>
    split at moved <;> cases moved
    exact verify_sameFlags _
  case awaitingReady =>
    split at moved
    · cases moved
      exact ⟨rfl, rfl, rfl, id⟩
    · split at moved <;> cases moved
      · exact returns tunnel.disarmed
      · exact ⟨rfl, rfl, rfl, id⟩
  case storing =>
    cases moved
    cases request <;> exact ⟨rfl, rfl, rfl, id⟩
  case looking => split at moved <;> cases moved <;> exact ⟨rfl, rfl, rfl, id⟩
  case holding inLoop client =>
    split at moved <;> cases moved
    · exact pairUp_sameFlags inLoop client _
    · exact ⟨rfl, rfl, rfl, id⟩
  case leaving =>
    split at moved <;> cases moved
    · exact returns _
    · exact ⟨rfl, rfl, rfl, id⟩
  all_goals
    cases moved
    exact ⟨rfl, rfl, rfl, by simp [moveTo, notifyWaiters]⟩

theorem stepHandler_flags : FlagMove tunnel request after := by
  by_cases marking : tunnel.phase request = .marking
  · simp only [stepHandler, marking, Option.some.injEq] at moved
    subst moved
    cases request <;> constructor <;> simp_all [moveTo, TunnelHandle.markReady]
  · by_cases withdrawing : tunnel.phase request = .withdrawing
    · simp only [stepHandler, withdrawing, Option.some.injEq, withdraw] at moved
      subst moved
      cases request <;> split <;> constructor <;>
        simp_all [moveTo, TunnelHandle.clearOwnSocket, TunnelHandle.ownSocket]
    · by_cases removing : tunnel.phase request = .removing
      · simp only [stepHandler, removing, Option.some.injEq] at moved
        subst moved
        exact ⟨Or.inl, Or.inl, id, fun _ _ marks => absurd marks marking, Or.inl, id,
          fun _ withdraws => absurd withdraws withdrawing, fun _ => rfl, fun _ => rfl⟩
      · exact (stepHandler_sameFlags moved marking withdrawing removing).flagMove marking
          withdrawing removing

theorem stepHandler_past (past : isOver (after.phase request) = true) :
    isOver (tunnel.phase request) = true ∨ tunnel.phase request = .withdrawing ∨
      tunnel.handle.isFullyReady = true ∨ after.spawned ≠ [] ∨
      isEarly (tunnel.phase request) = true ∧ tunnel.phase request ≠ .marking ∧
        tunnel.phase request ≠ .announcing ∧ tunnel.phase request ≠ .storing := by
  unfold stepHandler at moved
  cases phase_eq : tunnel.phase request <;> simp only [phase_eq] at moved
  case checking | expired =>
    cases moved
    simp only [moveTo, Function.update_self] at past
    split at past
    · rename_i ready
      exact Or.inr (Or.inr (Or.inl ready))
    · cases past
  case holding =>
    split at moved <;> cases moved
    · right; right; right; left
      simp only [pairUp]
      split
      · simp [moveTo]
      · split <;> simp [moveTo]
    · simp [moveTo, isOver] at past
  case marking | announcing | storing | announcingStored | entering =>
    cases moved
    simp [moveTo, isOver] at past
  case looking inLoop =>
    split at moved <;> cases moved
    · simp [moveTo, isOver] at past
    · cases inLoop <;> simp [moveTo, noPair, isOver] at past
  case restoring inLoop _ =>
    cases moved
    cases inLoop <;> simp [moveTo, noPair, isOver] at past
  case waiting => cases moved
  all_goals simp [isOver, isEarly]

end

/-- The handler marked its side ready and has stored its socket or is about to. -/
def Readied (tunnel : Tunnel) (request : TunnelRequest) : Prop :=
  tunnel.phase request = .announcing ∨ tunnel.phase request = .storing ∨
    request ∈ tunnel.stored

/-- A step of a handler only adds to the records, and it gives up its own socket, when it
withdraws. -/
structure RecordMove (tunnel : Tunnel) (request : TunnelRequest) (after : Tunnel) : Prop where
  stored : ∀ socket ∈ tunnel.stored, socket ∈ after.stored
  givenUp : ∀ socket ∈ tunnel.givenUp, socket ∈ after.givenUp
  lost : ∀ socket ∈ after.givenUp, socket ∈ tunnel.givenUp ∨
    tunnel.phase request = .withdrawing ∧ tunnel.handle.ownSocket request = some socket
  spawned : after.spawned = [] → tunnel.spawned = []

theorem RecordMove.of_same (stored_eq : after.stored = tunnel.stored)
    (givenUp_eq : after.givenUp = tunnel.givenUp)
    (spawned : after.spawned = [] → tunnel.spawned = []) : RecordMove tunnel request after := by
  refine ⟨?_, ?_, ?_, spawned⟩
  · exact fun _ member => stored_eq ▸ member
  · exact fun _ member => givenUp_eq ▸ member
  · exact fun _ member => Or.inl (givenUp_eq ▸ member)

section

variable (moved : HandlerMove setting tunnel request after)

include moved

theorem HandlerMove.records : RecordMove tunnel request after := by
  cases moved with
  | passes _ _ _ same => exact .of_same same.stored same.givenUp same.spawned.symm.trans
  | stores => exact ⟨fun _ => List.mem_append_left _, fun _ => id, fun _ => Or.inl, id⟩
  | pairs _ _ _ _ _ _ _ _ _ spawned_eq records_eq =>
    exact .of_same records_eq.2.1 records_eq.2.2 (by simp [spawned_eq])
  | withdraws _ phase_eq _ givenUp_eq records_eq =>
    refine ⟨fun _ member => records_eq.2.1 ▸ member, ?_, ?_, records_eq.2.2.symm.trans⟩
    · intro socket lost
      rw [givenUp_eq]
      exact List.mem_append_left _ lost
    · intro socket lost
      rw [givenUp_eq, List.mem_append, Option.mem_toList] at lost
      exact lost.imp_right fun own => ⟨phase_eq, own⟩
  | _ => exact .of_same rfl rfl id

theorem HandlerMove.others (different : other ≠ request) :
    after.phase other = tunnel.phase other ∨
      tunnel.phase other = .waiting ∧ after.phase other = .looking true := by
  cases moved with
  | passes _ _ _ _ phases | pairs _ _ _ _ _ _ _ _ _ _ _ phases | withdraws _ _ _ _ _ phases =>
    rw [phases, Function.update_of_ne different]
    exact Or.inl rfl
  | verifies _ _ request_eq =>
    subst request_eq
    exact Or.inl (Function.update_of_ne different _ _)
  | notifies =>
    by_cases waiting : tunnel.phase other = .waiting
    · right
      simp [moveTo, Function.update_of_ne different, notifyWaiters, waiting]
    · left
      simp [moveTo, Function.update_of_ne different, notifyWaiters, waiting]
  | _ => exact Or.inl (Function.update_of_ne different _ _)

theorem HandlerMove.others_awake (different : other ≠ request)
    (awake : tunnel.phase other ≠ .waiting) : after.phase other = tunnel.phase other := by
  rcases HandlerMove.others moved different with same | ⟨waiting, _⟩
  · exact same
  · exact absurd waiting awake

end

/-- A reading that is the same before and after a wait is unchanged for other handlers. -/
theorem HandlerMove.others_read {Reading : Type} (reading : HandlerPhase → Reading)
    (same : reading .waiting = reading (.looking true))
    (moved : HandlerMove setting tunnel request after) (different : other ≠ request) :
    reading (after.phase other) = reading (tunnel.phase other) := by
  rcases HandlerMove.others moved different with unmoved | ⟨waiting, woken⟩
  · rw [unmoved]
  · rw [waiting, woken, same]

section

variable (moved : HandlerMove setting tunnel request after)

include moved

theorem HandlerMove.readied (readied : Readied tunnel other) : Readied after other := by
  by_cases same : other = request
  · subst same
    rcases readied with phase | phase | stored
    · cases moved with
      | passes _ _ passage =>
        rw [phase] at passage
        cases passage
      | notifies next phase_eq =>
        have next_eq : next = .storing := by simpa [phase] using phase_eq
        subst next_eq
        exact Or.inr (Or.inl (by simp [moveTo]))
      | _ => simp_all
    · cases moved with
      | passes _ _ passage =>
        rw [phase] at passage
        cases passage
      | stores => exact Or.inr (Or.inr (List.mem_append_right _ (by simp)))
      | _ => simp_all
    · exact Or.inr (Or.inr ((HandlerMove.records moved).stored _ stored))
  · rcases readied with phase | phase | stored
    · exact Or.inl ((HandlerMove.others_awake moved same (by simp [phase])).trans phase)
    · exact Or.inr (Or.inl ((HandlerMove.others_awake moved same (by simp [phase])).trans phase))
    · exact Or.inr (Or.inr ((HandlerMove.records moved).stored _ stored))

theorem HandlerMove.marks (phase_eq : tunnel.phase request = .marking) : Readied after request := by
  cases moved with
  | passes _ _ passage _ phases =>
    rw [phase_eq] at passage
    cases passage
    exact Or.inl (by rw [phases, Function.update_self])
  | _ => simp_all

theorem HandlerMove.ready_before (ready : isReady (after.phase request) = true) :
    isReady (tunnel.phase request) = true ∨ tunnel.phase request = .marking := by
  cases moved with
  | passes _ _ passage _ phases =>
    rw [phases, Function.update_self] at ready
    generalize tunnel.phase request = phase at passage
    cases passage <;> simp_all [isReady]
  | verifies _ _ request_eq =>
    subst request_eq
    simp [moveTo, isReady] at ready
  | notifies _ phase_eq =>
    rcases phase_eq with ⟨phase_eq, _⟩ | ⟨phase_eq, _⟩ <;> simp [phase_eq, isReady]
  | _ => simp_all [isReady]

end

structure Reporting (tunnel : Tunnel) : Prop where
  client : tunnel.handle.clientReady = true → Readied tunnel .connect
  server : tunnel.handle.serverReady = true → ∃ number, Readied tunnel (.tunnel number)
  marked : ∀ number, isReady (tunnel.phase (.tunnel number)) = true →
    tunnel.handle.serverReady = true
  lost : tunnel.tunnelFailedSent = false → ∀ socket ∈ tunnel.givenUp,
    ∃ number, socket = .tunnel number ∧ .tunnel number ∈ tunnel.stored
  told : tunnel.tunnelFailedSent = true → .connect ∈ tunnel.givenUp ∧
    (tunnel.phase .connect = .removing ∨ tunnel.inMap = false)
  parted : isOver (tunnel.phase .connect) = true → tunnel.handle.clientReady = true →
    tunnel.spawned = [] → tunnel.tunnelFailedSent = false → tunnel.handle.serverReady = true

/-- The state of a handshake. The rendezvous is of interest only until the client was told
that it failed. -/
structure Handshake (setting : TunnelSetting) (tunnel : Tunnel) : Prop where
  pairing : PairingInvariant setting tunnel
  rendezvous : tunnel.tunnelFailedSent = false → Rendezvous tunnel
  reporting : Reporting tunnel

theorem Reporting.of_same (reporting : Reporting tunnel) (same : SameFlags tunnel after)
    (stored_eq : after.stored = tunnel.stored) (givenUp_eq : after.givenUp = tunnel.givenUp)
    (spawned_eq : after.spawned = tunnel.spawned)
    (ready_le : ∀ request, isReady (after.phase request) = true →
      isReady (tunnel.phase request) = true)
    (kept : ∀ request, tunnel.phase request = .announcing ∨ tunnel.phase request = .storing ∨
      tunnel.phase request = .removing → after.phase request = tunnel.phase request)
    (past_le : isOver (after.phase .connect) = true → isOver (tunnel.phase .connect) = true) :
    Reporting after := by
  have readied : ∀ request, Readied tunnel request → Readied after request := by
    rintro request (phase | phase | stored)
    · exact Or.inl ((kept request (Or.inl phase)).trans phase)
    · exact Or.inr (Or.inl ((kept request (Or.inr (Or.inl phase))).trans phase))
    · exact Or.inr (Or.inr (by rw [stored_eq]; exact stored))
  refine ⟨?_, ?_, ?_, ?_, ?_, ?_⟩
  · rw [same.clientReady]
    exact fun ready => readied _ (reporting.client ready)
  · rw [same.serverReady]
    intro ready
    obtain ⟨number, server⟩ := reporting.server ready
    exact ⟨number, readied _ server⟩
  · intro number ready
    rw [same.serverReady]
    exact reporting.marked number (ready_le _ ready)
  · rw [same.told, givenUp_eq, stored_eq]
    exact reporting.lost
  · rw [same.told, givenUp_eq]
    intro told
    refine ⟨(reporting.told told).1, ?_⟩
    rcases (reporting.told told).2 with phase | unmapped
    · exact Or.inl ((kept _ (Or.inr (Or.inr phase))).trans phase)
    · exact Or.inr (same.unmapped unmapped)
  · rw [same.clientReady, spawned_eq, same.told, same.serverReady]
    exact fun past => reporting.parted (past_le past)

section

variable (holds : Handshake setting tunnel) (untold : tunnel.tunnelFailedSent = false)

include holds untold

/-- As long as the client was not told, a stored client socket means that none was given
up. -/
theorem Handshake.nothing_lost (stored : .connect ∈ tunnel.stored) : tunnel.givenUp = [] := by
  by_contra lost
  obtain ⟨socket, member⟩ := List.exists_mem_of_ne_nil _ lost
  obtain ⟨number, _, server_stored⟩ := holds.reporting.lost untold socket member
  exact (holds.rendezvous untold).alone lost number stored server_stored

/-- A server that is about to store its socket is the only one that was accepted, so no
server gave its socket up before. -/
theorem Handshake.none_lost_before (phase_eq : tunnel.phase (.tunnel number) = .storing) :
    tunnel.givenUp = [] := by
  by_contra lost
  obtain ⟨socket, member⟩ := List.exists_mem_of_ne_nil _ lost
  obtain ⟨other, _, stored⟩ := holds.reporting.lost untold socket member
  have accepted := holds.pairing.server.active number (by rw [phase_eq]; rfl)
  have same := accepted_unique holds.pairing.secret
    ((holds.rendezvous untold).admitted other stored) accepted
  rw [same] at stored
  exact holds.pairing.client.early (.tunnel number) (by rw [phase_eq]; rfl) stored

end

/-- Until the client is told, the run is one in which the pair cannot be lost. -/
theorem Handshake.orderly (holds : Handshake setting tunnel)
    (permitted : OrderlyHandshake tunnel action)
    (moved : stepTunnel setting tunnel action = some after)
    (untold : tunnel.tunnelFailedSent = false) (still_untold : after.tunnelFailedSent = false) :
    OrderlyRendezvous tunnel action := by
  cases action with
  | advance request =>
    have flags := stepHandler_flags moved
    cases request with
    | connect =>
      refine ⟨fun different => absurd rfl different, ?_, permitted⟩
      intro withdrawing lying
      have told := flags.tells rfl withdrawing lying
      rw [still_untold] at told
      cases told
    | tunnel =>
      refine ⟨permitted.1, ?_, fun storing => holds.none_lost_before untold storing⟩
      intro withdrawing lying stored
      rcases permitted.2 withdrawing lying with absent | told
      · exact absent stored
      · rw [untold] at told
        cases told
  | expire request =>
    intro client holding
    have empty_handed : held (tunnel.phase request) = none := permitted
    rw [empty_handed] at holding
    cases holding
  | _ => trivial

theorem isReady_of_held {phase : HandlerPhase} (holding : held phase = some client) :
    isReady phase = true := by
  cases phase <;> first | rfl | cases holding

section

variable (holds : Handshake setting tunnel)

include holds

/-- The connect handler withdraws and does not find its socket: a server handler has it. -/
theorem Handshake.withdraws_without_socket (untold : tunnel.tunnelFailedSent = false)
    (unpaired : tunnel.spawned = []) (ready : tunnel.handle.clientReady = true)
    (phase_eq : tunnel.phase .connect = .withdrawing) (absent : tunnel.handle.clientWs = none) :
    tunnel.handle.serverReady = true := by
  have stored : .connect ∈ tunnel.stored := by
    simpa [Readied, phase_eq] using holds.reporting.client ready
  have nothing_lost := holds.nothing_lost untold stored
  rcases (holds.rendezvous untold).clientKept stored ⟨nothing_lost, unpaired⟩ with
    slot | ⟨holder, holding⟩
  · rw [absent] at slot
    cases slot
  · cases holder with
    | connect =>
      rw [phase_eq] at holding
      cases holding
    | tunnel number => exact holds.reporting.marked number (isReady_of_held holding)

section

variable (moved : stepHandler setting tunnel request input = some after)

include moved

theorem Handshake.parted_step (past : isOver (after.phase .connect) = true)
    (ready : after.handle.clientReady = true) (unpaired : after.spawned = [])
    (untold : after.tunnelFailedSent = false) : after.handle.serverReady = true := by
  have flags := stepHandler_flags moved
  have move := stepHandler_move moved
  have unpaired_before := (HandlerMove.records move).spawned unpaired
  have untold_before := flags.untold_before untold
  apply flags.serverKept
  by_cases own : request = .connect
  · subst own
    have ready_before : tunnel.phase .connect ≠ .marking →
        tunnel.handle.clientReady = true := by
      intro unmarked
      rcases flags.clientReady ready with before | ⟨_, marking⟩
      · exact before
      · exact absurd marking unmarked
    rcases stepHandler_past moved past with
      before | withdrawing | fully_ready | paired | ⟨early, unmarked, unannounced, unstored⟩
    · have unmarked : tunnel.phase .connect ≠ .marking := by
        intro marking
        rw [marking] at before
        cases before
      exact holds.reporting.parted before (ready_before unmarked) unpaired_before untold_before
    · have absent : tunnel.handle.clientWs = none := by
        by_contra lying
        rw [flags.tells rfl withdrawing lying] at untold
        cases untold
      exact holds.withdraws_without_socket untold_before unpaired_before
        (ready_before (by simp [withdrawing])) withdrawing absent
    · rw [TunnelHandle.isFullyReady, Bool.and_eq_true] at fully_ready
      exact fully_ready.2
    · exact absurd unpaired paired
    · rcases holds.reporting.client (ready_before unmarked) with phase | phase | stored
      · exact absurd phase unannounced
      · exact absurd phase unstored
      · exact absurd stored (holds.pairing.client.early .connect early)
  · have ready_before : tunnel.handle.clientReady = true := by
      rcases flags.clientReady ready with before | ⟨is_connect, _⟩
      · exact before
      · exact absurd is_connect own
    have past_before : isOver (tunnel.phase .connect) = true := by
      rw [← HandlerMove.others_read isOver rfl move (Ne.symm own)]
      exact past
    exact holds.reporting.parted past_before ready_before unpaired_before untold_before

/-- What the client is told, and what a server gave up before. -/
theorem Handshake.lost_step (untold : after.tunnelFailedSent = false)
    (lost : socket ∈ after.givenUp) :
    ∃ number, socket = .tunnel number ∧ .tunnel number ∈ after.stored := by
  have flags := stepHandler_flags moved
  have records := HandlerMove.records (stepHandler_move moved)
  have untold_before := flags.untold_before untold
  rcases records.lost socket lost with earlier | ⟨withdrawing, own⟩
  · obtain ⟨number, socket_eq, stored⟩ := holds.reporting.lost untold_before socket earlier
    exact ⟨number, socket_eq, records.stored _ stored⟩
  · cases request with
    | connect =>
      have told := flags.tells rfl withdrawing (by
        rw [TunnelHandle.ownSocket] at own
        simp [own])
      rw [untold] at told
      cases told
    | tunnel =>
      obtain ⟨other, socket_eq, _⟩ := holds.pairing.server.slot socket own
      have stored := (holds.rendezvous untold_before).lies socket own
      rw [socket_eq] at stored
      exact ⟨other, socket_eq, records.stored _ stored⟩

theorem Handshake.told_step (told : after.tunnelFailedSent = true) :
    .connect ∈ after.givenUp ∧ (after.phase .connect = .removing ∨ after.inMap = false) := by
  have flags := stepHandler_flags moved
  have move := stepHandler_move moved
  rcases flags.told told with before | ⟨own, withdrawing, lying⟩
  · obtain ⟨given_up, place⟩ := holds.reporting.told before
    refine ⟨(HandlerMove.records move).givenUp _ given_up, ?_⟩
    rcases place with removing | unmapped
    · by_cases own : request = .connect
      · subst own
        exact Or.inr (flags.removes removing)
      · left
        rw [HandlerMove.others_awake move (Ne.symm own) (by simp [removing])]
        exact removing
    · exact Or.inr (flags.unmapped unmapped)
  · subst own
    obtain ⟨client, client_eq⟩ := Option.ne_none_iff_exists'.mp lying
    have is_client := (holds.pairing.client.slot client client_eq).1
    subst is_client
    cases move with
    | withdraws _ _ _ givenUp_eq _ phases =>
      refine ⟨?_, Or.inl (by rw [phases, Function.update_self])⟩
      rw [givenUp_eq]
      simp [TunnelHandle.ownSocket, client_eq]
    | passes _ _ passage =>
      rw [withdrawing] at passage
      cases passage
    | _ => simp_all

theorem Handshake.reporting_step : Reporting after := by
  have flags := stepHandler_flags moved
  have move := stepHandler_move moved
  refine ⟨?_, ?_, ?_, ?_, fun told => holds.told_step moved told,
    fun past ready unpaired untold => holds.parted_step moved past ready unpaired untold⟩
  · intro ready
    rcases flags.clientReady ready with before | ⟨own, marking⟩
    · exact HandlerMove.readied move (holds.reporting.client before)
    · subst own
      exact HandlerMove.marks move marking
  · intro ready
    rcases flags.serverReady ready with before | ⟨number, own, marking⟩
    · obtain ⟨number, readied⟩ := holds.reporting.server before
      exact ⟨number, HandlerMove.readied move readied⟩
    · subst own
      exact ⟨number, HandlerMove.marks move marking⟩
  · intro number ready
    by_cases own : .tunnel number = request
    · subst own
      rcases HandlerMove.ready_before move ready with before | marking
      · exact flags.serverKept (holds.reporting.marked number before)
      · exact flags.marked number rfl marking
    · rw [HandlerMove.others_read isReady rfl move own] at ready
      exact flags.serverKept (holds.reporting.marked number ready)
  · intro untold socket lost
    exact holds.lost_step moved untold lost

end

end

theorem ExpireMove.reporting (reporting : Reporting tunnel)
    (empty_handed : held (tunnel.phase request) = none)
    (moved : ExpireMove tunnel request after) : Reporting after := by
  cases moved with
  | idle phase_eq =>
    have own : isReady (tunnel.phase request) = true ∧
        tunnel.phase request ∉ [.announcing, .storing, .removing] := by
      rcases phase_eq with phase_eq | phase_eq | phase_eq | phase_eq <;>
        simp [phase_eq, isReady]
    refine reporting.of_same ⟨rfl, rfl, rfl, id⟩ rfl rfl rfl ?_ ?_ ?_
    · exact reads_of_update fun _ => own.1
    · intro other phase
      apply Function.update_of_ne
      intro same
      subst same
      simp_all
    · exact reads_of_update (fun past => by cases past) _
  | drops _ phase_eq =>
    rcases phase_eq with phase_eq | phase_eq <;> rw [phase_eq] at empty_handed <;>
      cases empty_handed

theorem stepTunnel_reporting (holds : Handshake setting tunnel)
    (permitted : OrderlyHandshake tunnel action)
    (moved : stepTunnel setting tunnel action = some after) : Reporting after := by
  cases action with
  | advance => exact holds.reporting_step moved
  | expire => exact ExpireMove.reporting holds.reporting permitted (stepExpire_move moved)
  | arrive =>
    simp only [stepTunnel] at moved
    split at moved <;> cases moved
    rename_i absent
    apply holds.reporting.of_same
    · exact ⟨rfl, rfl, rfl, id⟩
    · rfl
    · rfl
    · rfl
    · intro other ready
      exact reads_of_update (fun ready => by cases ready) other ready
    · intro other phase
      apply Function.update_of_ne
      intro same
      subst same
      simp_all
    · intro past
      simpa [moveTo] using past
  | cleanup | forwardersEnd =>
    simp only [stepTunnel] at moved
    split at moved <;> cases moved
    exact holds.reporting.of_same ⟨rfl, rfl, rfl, fun _ => rfl⟩ rfl rfl rfl
      (fun _ ready => ready) (fun _ _ => rfl) id

theorem stepTunnel_toldKept (moved : stepTunnel setting tunnel action = some after)
    (untold : after.tunnelFailedSent = false) : tunnel.tunnelFailedSent = false := by
  cases action with
  | advance => exact (stepHandler_flags moved).untold_before untold
  | expire =>
    cases stepExpire_move moved with
    | idle | drops => exact untold
  | _ =>
    simp only [stepTunnel] at moved
    split at moved <;> cases moved
    exact untold

theorem stepTunnel_handshake (holds : Handshake setting tunnel)
    (permitted : OrderlyHandshake tunnel action)
    (moved : stepTunnel setting tunnel action = some after) : Handshake setting after := by
  refine ⟨stepTunnel_invariant holds.pairing moved, ?_, stepTunnel_reporting holds permitted moved⟩
  intro untold
  have untold_before := stepTunnel_toldKept moved untold
  exact stepTunnel_rendezvous (holds.rendezvous untold_before) holds.pairing
    (holds.orderly permitted moved untold_before untold) moved

theorem created_handshake (setting : TunnelSetting) :
    Handshake setting (created setting) := by
  refine ⟨created_invariant setting, fun _ => created_rendezvous setting, ?_⟩
  constructor <;> simp [created, TunnelHandle.new, isReady]

theorem reaches_handshake {final : Tunnel}
    (run : Reaches (stepTunnel setting) OrderlyHandshake (created setting) final) :
    Handshake setting final := by
  apply run.invariant (created_handshake setting)
  intro before action next holds permitted moved
  exact stepTunnel_handshake holds permitted moved

/-- The connect handler has returned, and a server handler is on its way to the client
socket or has it. -/
inductive LeftToServer (tunnel : Tunnel) (number : Nat) : Prop where
  | storesNext (phase_eq : tunnel.phase (.tunnel number) = .announcing ∨
        tunnel.phase (.tunnel number) = .storing)
      (client_eq : tunnel.handle.clientWs = some .connect)
  | looksNext (fresh : isFresh (tunnel.phase (.tunnel number)) = true)
      (client_eq : tunnel.handle.clientWs = some .connect)
      (server_eq : tunnel.handle.serverWs = some (.tunnel number))
  | pairsNext (inLoop : Bool) (phase_eq : tunnel.phase (.tunnel number) = .holding inLoop .connect)
      (server_eq : tunnel.handle.serverWs = some (.tunnel number))

theorem Handshake.left_to_server (holds : Handshake setting tunnel)
    (returned : tunnel.phase .connect = .finished) (ready : tunnel.handle.clientReady = true)
    (unpaired : tunnel.spawned = []) (untold : tunnel.tunnelFailedSent = false) :
    ∃ number, LeftToServer tunnel number := by
  have meets := holds.rendezvous untold
  have stored : .connect ∈ tunnel.stored := by
    simpa [Readied, returned] using holds.reporting.client ready
  have still_open : Open tunnel := ⟨holds.nothing_lost untold stored, unpaired⟩
  have server_ready :=
    holds.reporting.parted (by rw [returned]; rfl) ready unpaired untold
  obtain ⟨number, readied⟩ := holds.reporting.server server_ready
  refine ⟨number, ?_⟩
  have lies : (tunnel.phase (.tunnel number) = .announcing ∨
      tunnel.phase (.tunnel number) = .storing) → tunnel.handle.clientWs = some .connect := by
    intro phase
    rcases meets.clientKept stored still_open with slot | ⟨holder, holding⟩
    · exact slot
    · exfalso
      cases holder with
      | connect =>
        rw [returned] at holding
        cases holding
      | tunnel other =>
        have other_accepted := holds.pairing.server.active other (isActive_of_held holding)
        have accepted := holds.pairing.server.active number (by
          rcases phase with phase | phase <;> rw [phase] <;> rfl)
        rw [accepted_unique holds.pairing.secret other_accepted accepted] at holding
        rcases phase with phase | phase <;> rw [phase] at holding <;> cases holding
  rcases readied with phase | phase | server_stored
  · exact .storesNext (Or.inl phase) (lies (Or.inl phase))
  · exact .storesNext (Or.inr phase) (lies (Or.inr phase))
  · have server_eq := meets.serverKept number server_stored still_open
    cases meets.way number stored server_stored still_open with
    | lying client_eq fresh =>
      rcases fresh with fresh | fresh
      · rw [returned] at fresh
        cases fresh
      · exact .looksNext fresh client_eq server_eq
    | serverHolds inLoop phase_eq => exact .pairsNext inLoop phase_eq server_eq
    | clientHolds inLoop phase_eq | clientRestores inLoop phase_eq =>
      rw [returned] at phase_eq
      cases phase_eq

theorem LeftToServer.active (left : LeftToServer tunnel number) :
    isActive (tunnel.phase (.tunnel number)) = true := by
  cases left with
  | storesNext phase_eq => rcases phase_eq with phase | phase <;> rw [phase] <;> rfl
  | looksNext fresh =>
    generalize tunnel.phase (.tunnel number) = phase at fresh
    cases phase <;> first | rfl | cases fresh
  | pairsNext _ phase_eq => rw [phase_eq]; rfl

def WillPair (setting : TunnelSetting) (tunnel : Tunnel) : Prop :=
  ∃ later, Reaches (stepTunnel setting) OrderlyHandshake tunnel later ∧ later.spawned ≠ []

section

variable {guard : Tunnel → TunnelAction → Prop} (permits : Permits guard (.tunnel number) tunnel)

include permits

theorem storing_pairs (phase_eq : tunnel.phase (.tunnel number) = .storing)
    (client_eq : tunnel.handle.clientWs = some client) : CanPair guard setting tunnel := by
  have moved : stepHandler setting tunnel (.tunnel number) silent =
      some (({ tunnel with
        handle := tunnel.handle.storeSocket (.tunnel number)
        stored := tunnel.stored ++ [TunnelRequest.tunnel number] }).moveTo (.tunnel number)
          .announcingStored) := by
    simp [stepHandler, phase_eq]
  apply CanPair.advance permits (by simp [phase_eq]) moved id
  intro permits
  refine fresh_pairs permits ?_ client_eq rfl
  simp [moveTo, isFresh]

theorem announcing_pairs (phase_eq : tunnel.phase (.tunnel number) = .announcing)
    (client_eq : tunnel.handle.clientWs = some client) : CanPair guard setting tunnel := by
  have moved : stepHandler setting tunnel (.tunnel number) silent =
      some (tunnel.notifyWaiters.moveTo (.tunnel number) .storing) := by
    simp [stepHandler, phase_eq]
  apply CanPair.advance permits (by simp [phase_eq]) moved notifyWaiters_finished
  intro permits
  exact storing_pairs permits (Function.update_self _ _ _) client_eq

end

theorem LeftToServer.willPair (left : LeftToServer tunnel number)
    (returned : tunnel.phase .connect = .finished) : WillPair setting tunnel := by
  have permits : Permits OrderlyHandshake (.tunnel number) tunnel := by
    intro state still unwithdrawn
    refine ⟨?_, fun withdrawing => absurd withdrawing unwithdrawn⟩
    intro _ _ inLoop client restoring
    rw [still (by simp) returned] at restoring
    cases restoring
  cases left with
  | storesNext phase_eq client_eq =>
    rcases phase_eq with phase_eq | phase_eq
    · exact announcing_pairs permits phase_eq client_eq
    · exact storing_pairs permits phase_eq client_eq
  | looksNext fresh client_eq server_eq => exact fresh_pairs permits fresh client_eq server_eq
  | pairsNext _ phase_eq server_eq => exact holding_pairs permits phase_eq server_eq

end

/-- No forwarders were spawned, and either no continuation spawns them or no accepted server
handler is at work any more. -/
def NeverPaired (setting : TunnelSetting) (tunnel : Tunnel) : Prop :=
  tunnel.spawned = [] ∧
    (¬ WillPair setting tunnel ∨ ∀ number, isActive (tunnel.phase (.tunnel number)) = false)

/-- In every orderly run, a connect handler that accepted the client's readiness and returned
without a pair has told the client, closed its socket and removed the tunnel. -/
theorem failed_handshake_is_reported (setting : TunnelSetting) (final : Tunnel)
    (run : Reaches (stepTunnel setting) OrderlyHandshake (Tunnel.created setting) final)
    (returned : final.phase .connect = .finished)
    (accepted : final.handle.clientReady = true) (unpaired : NeverPaired setting final) :
    final.tunnelFailedSent = true ∧ .connect ∈ final.givenUp ∧ final.inMap = false := by
  have holds := reaches_handshake run
  have told : final.tunnelFailedSent = true := by
    by_contra untold
    rw [Bool.not_eq_true] at untold
    obtain ⟨number, left⟩ := holds.left_to_server returned accepted unpaired.1 untold
    rcases unpaired.2 with never | idle
    · exact never (left.willPair returned)
    · have active := left.active
      rw [idle number] at active
      cases active
  obtain ⟨given_up, place⟩ := holds.reporting.told told
  refine ⟨told, given_up, ?_⟩
  rcases place with removing | unmapped
  · rw [returned] at removing
    cases removing
  · exact unmapped

instance (tunnel : Tunnel) (action : TunnelAction) :
    Decidable (OrderlyHandshake tunnel action) := by
  rcases action with _ | ⟨_ | _⟩ | _ | _ | _ <;> unfold OrderlyHandshake <;> infer_instance

/-- The client is ready, no server comes, and the wait times out. -/
def lonelyActions : List TunnelAction :=
  prompts .connect 11 ++ [.expire .connect] ++ prompts .connect 4

theorem lonely_client_is_told :
    ∃ final : Tunnel, final.phase .connect = .finished ∧ final.tunnelFailedSent = true ∧
      .connect ∈ final.givenUp ∧ final.inMap = false := by
  obtain ⟨final, run, returned, ready, accepted_eq, spawned_eq⟩ :
      ∃ final, Reaches (stepTunnel oneServer) OrderlyHandshake (Tunnel.created oneServer) final ∧
        final.phase .connect = .finished ∧ final.handle.clientReady = true ∧
        final.accepted = [] ∧ final.spawned = [] :=
    reaches_of_evaluated lonelyActions (by decide)
  have idle := idle_of_accepted (reaches_invariant run) (by simp [accepted_eq])
  exact ⟨final, returned,
    failed_handshake_is_reported oneServer final run returned ready ⟨spawned_eq, Or.inr idle⟩⟩

/-- After the handlers crossed, the client was told nothing, and the tunnel stays in the map
with both handlers gone and no cleanup task left. -/
theorem crossed_client_is_told_nothing :
    ∃ final : Tunnel,
      Reaches (stepTunnel oneServer) anyAction (Tunnel.created oneServer) final ∧
      final.phase .connect = .finished ∧ final.phase (.tunnel 0) = .finished ∧
      final.cleanupTasks = 0 ∧ final.handle.clientReady = true ∧
      (∀ later, Reaches (stepTunnel oneServer) anyAction final later → later.spawned = []) ∧
      final.tunnelFailedSent = false ∧ final.inMap = true := by
  obtain ⟨final, run, returned, server_returned, tasks_eq, ready, untold, mapped, secret_eq, done,
      spawned_eq⟩ :
      ∃ final, Reaches (stepTunnel oneServer) anyAction (Tunnel.created oneServer) final ∧
        final.phase .connect = .finished ∧ final.phase (.tunnel 0) = .finished ∧
        final.cleanupTasks = 0 ∧ final.handle.clientReady = true ∧
        final.tunnelFailedSent = false ∧ final.inMap = true ∧ final.handle.serverSecret = none ∧
        (∀ number ∈ final.accepted, final.phase (.tunnel number) = .finished) ∧
        final.spawned = [] :=
    reaches_of_evaluated crossingActions (by decide)
  have settled := settled_of_accepted (reaches_invariant run) secret_eq returned done
  refine ⟨final, run, returned, server_returned, tasks_eq, ready, ?_, untold, mapped⟩
  intro later continued
  exact (settled_spawns_nothing settled continued).2.trans spawned_eq

end HandControl.TunnelReporting
