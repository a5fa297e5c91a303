import HandControl.Inevitability

/-!
# Shutting down the local bridge of a relay channel

`startLocalBridge` launches the accept job, which blocks in `serverSocket.accept()` and launches a
child job for every local connection. `BridgeContext.shutdown` cancels that job and joins it before
it closes the server socket and the tunnel.

`accept` has no suspension point: cancelling the job does not wake it. It returns when a connection
is pending, and throws when the server socket is closed or taking a connection fails. A job
cancelled before its first dispatch never runs. The caller of `shutdown` is not cancelled.
-/

namespace HandControl.BridgeShutdown

open TransitionRuns Inevitability

/-- The accept job: `accepted` is between the return of `accept` and the `launch`, `left` is
after the loop, while the job waits for its children. -/
inductive AcceptPhase where
  | notStarted
  | accepting
  | accepted
  | left
  | ended
deriving DecidableEq

inductive ChildPhase where
  | launched
  | bridging
  | joiningSend
  | joiningReceive
  | closing
  | ended
deriving DecidableEq

inductive ShutdownPhase where
  | notCalled
  | cancelling
  | joining
  | closingSocket
  | closingTunnel
  | completed
deriving DecidableEq

structure BridgeContext where
  acceptJob : AcceptPhase
  children : List ChildPhase
  /-- Local connections that arrived and were not taken by `accept`. -/
  backlog : Nat
  serverSocketClosed : Bool
  tunnelClosed : Bool
  shutdown : ShutdownPhase
deriving DecidableEq

def BridgeContext.started : BridgeContext where
  acceptJob := .notStarted
  children := []
  backlog := 0
  serverSocketClosed := false
  tunnelClosed := false
  shutdown := .notCalled

/-- `acceptJob.cancel()` was called, which cancels the children with the job. -/
def BridgeContext.cancelled (bridge : BridgeContext) : Bool :=
  match bridge.shutdown with
  | .notCalled | .cancelling => false
  | _ => true

def BridgeContext.callShutdown (bridge : BridgeContext) : BridgeContext :=
  { bridge with shutdown := .cancelling }

inductive ShutdownAction where
  /-- A local connection arrives at the server socket. -/
  | connects
  /-- The coroutine of the accept job is dispatched. -/
  | acceptStarts
  /-- `accept` returns a socket. -/
  | acceptReturns
  /-- `accept` throws an `IOException`. -/
  | acceptThrows
  | launches
  /-- A child job advances. `succeeds` is what its call answers: that the tunnel is healthy,
  or that the socket gave its two streams. -/
  | child (position : Nat) (succeeds : Bool)
  /-- The accept job is complete once its body and its children are. -/
  | acceptCompletes
  /-- `shutdown` is called, or goes on. -/
  | shutdown
deriving DecidableEq

/-- One advance of a child job. A cancelled child leaves at its next suspension point: before its
first dispatch, or in a `join`, after which `finally` closes the socket. Otherwise a `join` returns
when the joined job ends. -/
def stepChild (cancelled succeeds : Bool) : ChildPhase → Option ChildPhase
  | .launched =>
    if cancelled then some .ended else if succeeds then some .bridging else some .closing
  | .bridging => if succeeds then some .joiningSend else some .closing
  | .joiningSend => if cancelled then some .closing else some .joiningReceive
  | .joiningReceive => some .closing
  | .closing => some .ended
  | .ended => none

def BridgeContext.stepShutdownCall (bridge : BridgeContext) : Option BridgeContext :=
  match bridge.shutdown with
  | .notCalled => some bridge.callShutdown
  | .cancelling => some { bridge with shutdown := .joining }
  | .joining =>
    if bridge.acceptJob = .ended then some { bridge with shutdown := .closingSocket } else none
  | .closingSocket =>
    -- an `IOException` of `close` is logged and ignored
    some { bridge with serverSocketClosed := true, shutdown := .closingTunnel }
  | .closingTunnel => some { bridge with tunnelClosed := true, shutdown := .completed }
  | .completed => none

def stepBridgeContext (bridge : BridgeContext) : ShutdownAction → Option BridgeContext
  | .connects =>
    if bridge.serverSocketClosed then none else some { bridge with backlog := bridge.backlog + 1 }
  | .acceptStarts =>
    if bridge.acceptJob = .notStarted then
      some { bridge with acceptJob := if bridge.cancelled then .ended else .accepting }
    else none
  | .acceptReturns =>
    if bridge.acceptJob = .accepting ∧ bridge.serverSocketClosed = false ∧
        0 < bridge.backlog then
      some { bridge with acceptJob := .accepted, backlog := bridge.backlog - 1 }
    else none
  | .acceptThrows =>
    if bridge.acceptJob = .accepting ∧
        (bridge.serverSocketClosed = true ∨ 0 < bridge.backlog) then
      some { bridge with acceptJob := .left, backlog := bridge.backlog - 1 }
    else none
  | .launches =>
    if bridge.acceptJob = .accepted then
      some { bridge with acceptJob := .accepting, children := bridge.children ++ [.launched] }
    else none
  | .child position succeeds =>
    match bridge.children[position]? with
    | some phase =>
      (stepChild bridge.cancelled succeeds phase).map fun next =>
        { bridge with children := bridge.children.set position next }
    | none => none
  | .acceptCompletes =>
    if bridge.acceptJob = .left ∧ ∀ phase ∈ bridge.children, phase = .ended then
      some { bridge with acceptJob := .ended }
    else none
  | .shutdown => bridge.stepShutdownCall

/-- A schedule in which no further local connection arrives. -/
def NoFurtherConnection (_ : BridgeContext) (action : ShutdownAction) : Prop :=
  action ≠ .connects

/-- `shutdown` returned: the accept job ended, the server socket and the tunnel were
closed. -/
def ShutdownComplete (bridge : BridgeContext) : Prop :=
  bridge.shutdown = .completed ∧ bridge.acceptJob = .ended ∧
    bridge.serverSocketClosed = true ∧ bridge.tunnelClosed = true

def BridgeContext.LoopLeft (bridge : BridgeContext) : Prop :=
  bridge.acceptJob = .left ∨ bridge.acceptJob = .ended

def ChildPhase.work : ChildPhase → Nat
  | .launched => 5
  | .bridging => 4
  | .joiningSend => 3
  | .joiningReceive => 2
  | .closing => 1
  | .ended => 0

def AcceptPhase.work : AcceptPhase → Nat
  | .ended => 0
  | _ => 1

def ShutdownPhase.work : ShutdownPhase → Nat
  | .notCalled => 5
  | .cancelling => 4
  | .joining => 3
  | .closingSocket => 2
  | .closingTunnel => 1
  | .completed => 0

def childrenWork (children : List ChildPhase) : Nat :=
  (children.map ChildPhase.work).sum

def BridgeContext.work (bridge : BridgeContext) : Nat :=
  childrenWork bridge.children + bridge.acceptJob.work + bridge.shutdown.work

variable {succeeds : Bool} {phase next : ChildPhase} {position : Nat}
variable {before after bridge : BridgeContext} {action : ShutdownAction}

theorem stepChild_lowers {cancelled : Bool}
    (moved : stepChild cancelled succeeds phase = some next) :
    next.work < phase.work := by
  revert moved
  cases phase <;> cases cancelled <;> cases succeeds <;> simp [stepChild] <;>
    rintro rfl <;> decide

theorem childrenWork_set {children : List ChildPhase} (found : children[position]? = some phase)
    (less : next.work < phase.work) :
    childrenWork (children.set position next) < childrenWork children := by
  induction children generalizing position with
  | nil => cases found
  | cons first rest ih =>
    cases position with
    | zero =>
      cases found
      simp only [List.set_cons_zero, childrenWork, List.map_cons, List.sum_cons]
      omega
    | succ =>
      have lower := ih found
      simp only [childrenWork] at lower
      simp only [List.set_cons_succ, childrenWork, List.map_cons, List.sum_cons]
      omega

theorem stepChild_enabled (alive : phase ≠ .ended) (cancelled : Bool) :
    ∃ next, stepChild cancelled true phase = some next := by
  cases phase <;> cases cancelled <;> simp_all [stepChild]

theorem step_child (moved : stepBridgeContext before (.child position succeeds) = some after) :
    ∃ children, after = { before with children := children } ∧
      childrenWork children < childrenWork before.children := by
  simp only [stepBridgeContext] at moved
  split at moved
  next phase found =>
    obtain ⟨_, advanced, after_eq⟩ := Option.map_eq_some_iff.mp moved
    exact ⟨_, after_eq.symm, childrenWork_set found (stepChild_lowers advanced)⟩
  next => cases moved

/-- The states of a shutdown under way after the loop was left. -/
structure Finishing (bridge : BridgeContext) : Prop where
  called : bridge.shutdown ≠ .notCalled
  left : bridge.LoopLeft
  joined : bridge.shutdown ∈ [.closingSocket, .closingTunnel, .completed] →
    bridge.acceptJob = .ended
  socketClosed : bridge.shutdown ∈ [.closingTunnel, .completed] →
    bridge.serverSocketClosed = true
  tunnelClosed : bridge.shutdown = .completed → bridge.tunnelClosed = true

theorem Finishing.child (finishing : Finishing bridge) (children : List ChildPhase) :
    Finishing { bridge with children := children } :=
  ⟨finishing.called, finishing.left, finishing.joined, finishing.socketClosed,
    finishing.tunnelClosed⟩

open BridgeContext

theorem callShutdown_finishing (left : bridge.LoopLeft) : Finishing bridge.callShutdown := by
  refine ⟨?_, left, ?_, ?_, ?_⟩ <;> simp [callShutdown]

theorem stepShutdownCall_finishing (finishing : Finishing before)
    (moved : before.stepShutdownCall = some after) :
    Finishing after ∧ after.work < before.work := by
  simp only [stepShutdownCall] at moved
  split at moved
  next phase => exact absurd phase finishing.called
  next phase =>
    cases moved
    refine ⟨⟨?_, finishing.left, ?_, ?_, ?_⟩, ?_⟩ <;>
      simp [work, ShutdownPhase.work, phase]
  next phase =>
    split at moved
    next ended =>
      cases moved
      refine ⟨⟨?_, finishing.left, fun _ => ended, ?_, ?_⟩, ?_⟩ <;>
        simp [work, ShutdownPhase.work, phase]
    next => cases moved
  next phase =>
    cases moved
    have ended := finishing.joined (by simp [phase])
    refine ⟨⟨?_, finishing.left, fun _ => ended, fun _ => rfl, ?_⟩, ?_⟩ <;>
      simp [work, ShutdownPhase.work, phase]
  next phase =>
    cases moved
    have ended := finishing.joined (by simp [phase])
    have closed := finishing.socketClosed (by simp [phase])
    refine ⟨⟨?_, finishing.left, fun _ => ended, fun _ => closed, fun _ => rfl⟩, ?_⟩ <;>
      simp [work, ShutdownPhase.work, phase]
  next => cases moved

/-- Once the loop was left, a step without a further connection keeps the shutdown under way
and brings it closer to its end. -/
theorem step_finishing (finishing : Finishing before)
    (permitted : NoFurtherConnection before action)
    (moved : stepBridgeContext before action = some after) :
    Finishing after ∧ after.work < before.work := by
  have not_accepting : before.acceptJob ∉ [.notStarted, .accepting, .accepted] := by
    rcases finishing.left with left | left <;> simp [left]
  simp only [List.mem_cons, List.not_mem_nil, or_false, not_or] at not_accepting
  obtain ⟨started, blocked, holding⟩ := not_accepting
  cases action with
  | connects => exact absurd rfl permitted
  | acceptStarts => simp [stepBridgeContext, started] at moved
  | acceptReturns | acceptThrows => simp [stepBridgeContext, blocked] at moved
  | launches => simp [stepBridgeContext, holding] at moved
  | child =>
    obtain ⟨_, rfl, _⟩ := step_child moved
    refine ⟨finishing.child _, ?_⟩
    simp only [work]
    omega
  | acceptCompletes =>
    simp only [stepBridgeContext] at moved
    split at moved
    next completes =>
      cases moved
      refine ⟨⟨finishing.called, Or.inr rfl, fun _ => rfl, finishing.socketClosed,
        finishing.tunnelClosed⟩, ?_⟩
      simp [work, completes.1, AcceptPhase.work]
    next => cases moved
  | shutdown => exact stepShutdownCall_finishing finishing moved

theorem finishing_progress (finishing : Finishing bridge) (short : ¬ ShutdownComplete bridge) :
    ∃ after, Permitted stepBridgeContext NoFurtherConnection bridge after := by
  have goes_on : (∃ after, bridge.stepShutdownCall = some after) →
      ∃ after, Permitted stepBridgeContext NoFurtherConnection bridge after := by
    rintro ⟨after, moved⟩
    exact ⟨after, .shutdown, by simp [NoFurtherConnection], moved⟩
  cases phase : bridge.shutdown with
  | notCalled => exact absurd phase finishing.called
  | cancelling | closingSocket | closingTunnel => exact goes_on (by simp [stepShutdownCall, phase])
  | completed =>
    have ended := finishing.joined (by simp [phase])
    have closed := finishing.socketClosed (by simp [phase])
    exact absurd ⟨phase, ended, closed, finishing.tunnelClosed phase⟩ short
  | joining =>
    rcases finishing.left with left | ended
    · by_cases all_ended : ∀ child ∈ bridge.children, child = .ended
      · refine ⟨{ bridge with acceptJob := .ended }, .acceptCompletes, ?_, ?_⟩
        · simp [NoFurtherConnection]
        · exact if_pos ⟨left, all_ended⟩
      · push Not at all_ended
        obtain ⟨_, member, alive⟩ := all_ended
        obtain ⟨position, found⟩ := List.mem_iff_getElem?.mp member
        obtain ⟨next, advanced⟩ := stepChild_enabled alive bridge.cancelled
        refine ⟨{ bridge with children := bridge.children.set position next },
          .child position true, ?_, ?_⟩
        · simp [NoFurtherConnection]
        · simp [stepBridgeContext, found, advanced]
    · exact goes_on (by simp [stepShutdownCall, phase, ended])

/-- The accept job is in its loop, or will still be dispatched into it, and `shutdown` has
not got past `join`. -/
structure Looping (bridge : BridgeContext) : Prop where
  phase : bridge.shutdown = .cancelling ∨ bridge.shutdown = .joining
  loop : bridge.acceptJob = .accepting ∨ bridge.acceptJob = .accepted ∨
    bridge.acceptJob = .notStarted ∧ bridge.shutdown = .cancelling
  open_socket : bridge.serverSocketClosed = false

theorem Looping.not_complete (looping : Looping bridge) : ¬ ShutdownComplete bridge := by
  intro complete
  rcases looping.phase with phase | phase <;> rw [complete.1] at phase <;> cases phase

theorem Looping.child (looping : Looping before)
    (moved : stepBridgeContext before (.child position succeeds) = some after) : Looping after := by
  obtain ⟨_, rfl, _⟩ := step_child moved
  exact ⟨looping.phase, looping.loop, looping.open_socket⟩

theorem Looping.launches (looping : Looping bridge) (holding : bridge.acceptJob = .accepted) :
    ∃ other, Permitted stepBridgeContext NoFurtherConnection bridge other ∧ Looping other := by
  refine ⟨_, ⟨.launches, by simp [NoFurtherConnection], if_pos holding⟩, ?_⟩
  exact ⟨looping.phase, Or.inl rfl, looping.open_socket⟩

theorem Looping.accepts (looping : Looping bridge) (blocked : bridge.acceptJob = .accepting)
    (pending : 0 < bridge.backlog) :
    ∃ other, Permitted stepBridgeContext NoFurtherConnection bridge other ∧ Looping other := by
  refine ⟨_, ⟨.acceptReturns, by simp [NoFurtherConnection],
    if_pos ⟨blocked, looping.open_socket, pending⟩⟩, ?_⟩
  exact ⟨looping.phase, Or.inr (Or.inl rfl), looping.open_socket⟩

theorem Looping.starts (looping : Looping bridge) (waiting : bridge.acceptJob = .notStarted)
    (phase : bridge.shutdown = .cancelling) :
    ∃ other, Permitted stepBridgeContext NoFurtherConnection bridge other ∧ Looping other := by
  refine ⟨_, ⟨.acceptStarts, by simp [NoFurtherConnection], if_pos waiting⟩, ?_⟩
  refine ⟨looping.phase, Or.inl ?_, looping.open_socket⟩
  simp [cancelled, phase]

theorem Looping.stays (looping : Looping before)
    (step : Permitted stepBridgeContext NoFurtherConnection before after) :
    ∃ other, Permitted stepBridgeContext NoFurtherConnection before other ∧ Looping other := by
  rcases looping.loop with blocked | holding | ⟨waiting, phase⟩
  · obtain ⟨action, permitted, moved⟩ := step
    cases action with
    | connects => exact absurd rfl permitted
    | acceptStarts => simp [stepBridgeContext, blocked] at moved
    | acceptReturns =>
      simp only [stepBridgeContext] at moved
      split at moved
      next returns => exact looping.accepts blocked returns.2.2
      next => cases moved
    | acceptThrows =>
      simp only [stepBridgeContext] at moved
      split at moved
      next throws =>
        have pending : 0 < before.backlog := by
          simpa [looping.open_socket] using throws.2
        exact looping.accepts blocked pending
      next => cases moved
    | launches => simp [stepBridgeContext, blocked] at moved
    | child => exact ⟨after, ⟨_, permitted, moved⟩, looping.child moved⟩
    | acceptCompletes => simp [stepBridgeContext, blocked] at moved
    | shutdown =>
      rcases looping.phase with phase | phase
      · refine ⟨{ before with shutdown := .joining }, ⟨.shutdown, permitted, ?_⟩, ?_⟩
        · simp only [stepBridgeContext, stepShutdownCall, phase]
        · exact ⟨Or.inr rfl, Or.inl blocked, looping.open_socket⟩
      · simp [stepBridgeContext, stepShutdownCall, phase, blocked] at moved
  · exact looping.launches holding
  · exact looping.starts waiting phase

theorem step_closed_late (holds : before.serverSocketClosed = true →
      before.shutdown = .closingTunnel ∨ before.shutdown = .completed)
    (moved : stepBridgeContext before action = some after) :
    after.serverSocketClosed = true →
      after.shutdown = .closingTunnel ∨ after.shutdown = .completed := by
  cases action with
  | child =>
    obtain ⟨_, rfl, _⟩ := step_child moved
    exact holds
  | shutdown =>
    simp only [stepBridgeContext, stepShutdownCall] at moved
    intro closed
    split at moved
    all_goals try split at moved
    all_goals cases moved
    all_goals simp_all [callShutdown]
  | _ =>
    simp only [stepBridgeContext] at moved
    split at moved
    all_goals cases moved
    all_goals exact holds

theorem open_until_called (established : Reaches stepBridgeContext anyAction started bridge)
    (running : bridge.shutdown = .notCalled) : bridge.serverSocketClosed = false := by
  have closed_late : bridge.serverSocketClosed = true →
      bridge.shutdown = .closingTunnel ∨ bridge.shutdown = .completed := by
    apply established.invariant
    · intro closed
      cases closed
    · intro before action after holds _ moved
      exact step_closed_late holds moved
  cases closed : bridge.serverSocketClosed with
  | false => rfl
  | true =>
    have late := closed_late closed
    rw [running] at late
    rcases late with late | late <;> cases late

/-- Shutting an established bridge down completes on every schedule without a further local
connection exactly if the accept loop was left before. -/
theorem shutdown_completes_iff (bridge : BridgeContext)
    (established : Reaches stepBridgeContext anyAction BridgeContext.started bridge)
    (running : bridge.shutdown = .notCalled) :
    Inevitable stepBridgeContext NoFurtherConnection ShutdownComplete bridge.callShutdown ↔
      bridge.LoopLeft := by
  constructor
  · intro inevitable
    by_contra inside
    have looping : Looping bridge.callShutdown := by
      have open_socket := open_until_called established running
      refine ⟨Or.inl rfl, ?_, open_socket⟩
      simp only [BridgeContext.LoopLeft, not_or] at inside
      cases job : bridge.acceptJob <;> simp_all [BridgeContext.callShutdown]
    exact not_inevitable (fun _ => Looping.not_complete) (fun _ _ => Looping.stays) looping
      inevitable
  · intro left
    apply Inevitable.of_measure BridgeContext.work
    · rintro _ _ finishing ⟨_, permitted, moved⟩
      exact (step_finishing finishing permitted moved).1
    · rintro _ _ finishing ⟨_, permitted, moved⟩
      exact (step_finishing finishing permitted moved).2
    · intro state finishing short
      exact finishing_progress finishing short
    · exact callShutdown_finishing left

def failedAccept : List ShutdownAction :=
  [.acceptStarts, .connects, .acceptReturns, .launches, .child 0 true, .connects, .acceptThrows]

theorem failed_accept_shuts_down :
    ∃ bridge, Reaches stepBridgeContext anyAction BridgeContext.started bridge ∧
      bridge.shutdown = .notCalled ∧ bridge.children = [.bridging] ∧
      Inevitable stepBridgeContext NoFurtherConnection ShutdownComplete
        bridge.callShutdown := by
  obtain ⟨bridge, established, running, children_eq, left⟩ :
      ∃ bridge, Reaches stepBridgeContext anyAction BridgeContext.started bridge ∧
        bridge.shutdown = .notCalled ∧ bridge.children = [.bridging] ∧ bridge.acceptJob = .left :=
    reaches_of_evaluated failedAccept (by decide)
  exact ⟨bridge, established, running, children_eq,
    (shutdown_completes_iff bridge established running).mpr (Or.inl left)⟩

/-- `shutdown` waits in `join` for a job that is blocked in `accept`. -/
structure Blocked (bridge : BridgeContext) : Prop where
  phase : bridge.shutdown = .cancelling ∨ bridge.shutdown = .joining
  blocked : bridge.acceptJob = .accepting
  no_connection : bridge.backlog = 0
  open_socket : bridge.serverSocketClosed = false
  open_tunnel : bridge.tunnelClosed = false

theorem step_blocked (holds : Blocked before) (permitted : NoFurtherConnection before action)
    (moved : stepBridgeContext before action = some after) : Blocked after := by
  obtain ⟨phase, blocked, no_connection, open_socket, open_tunnel⟩ := holds
  cases action with
  | connects => exact absurd rfl permitted
  | child =>
    obtain ⟨_, rfl, _⟩ := step_child moved
    exact ⟨phase, blocked, no_connection, open_socket, open_tunnel⟩
  | shutdown =>
    rcases phase with phase | phase
    · simp only [stepBridgeContext, stepShutdownCall, phase] at moved
      cases moved
      exact ⟨Or.inr rfl, blocked, no_connection, open_socket, open_tunnel⟩
    · simp [stepBridgeContext, stepShutdownCall, phase, blocked] at moved
  | _ => simp [stepBridgeContext, blocked, no_connection, open_socket] at moved

/-- The first thing the accept job does is to block in `accept`. If no connection arrives
after the call of `shutdown`, neither the server socket nor the tunnel is ever closed. -/
theorem blocked_accept_hangs_shutdown :
    ∃ bridge, Reaches stepBridgeContext anyAction BridgeContext.started bridge ∧
      bridge.shutdown = .notCalled ∧
      ¬ Inevitable stepBridgeContext NoFurtherConnection ShutdownComplete
        bridge.callShutdown ∧
      ∀ later, Reaches stepBridgeContext NoFurtherConnection bridge.callShutdown later →
        later.acceptJob = .accepting ∧ later.serverSocketClosed = false ∧
          later.tunnelClosed = false := by
  have dispatched : stepBridgeContext BridgeContext.started .acceptStarts =
      some { BridgeContext.started with acceptJob := .accepting } := rfl
  have blocked : Blocked
      ({ BridgeContext.started with acceptJob := .accepting } : BridgeContext).callShutdown :=
    ⟨Or.inl rfl, rfl, rfl, rfl, rfl⟩
  refine ⟨_, Reaches.single trivial dispatched, rfl, ?_, ?_⟩
  · exact not_inevitable (fun _ => Looping.not_complete) (fun _ _ => Looping.stays)
      ⟨blocked.phase, Or.inl blocked.blocked, blocked.open_socket⟩
  · intro later run
    have still : Blocked later :=
      run.invariant blocked (fun _ _ _ holds permitted moved => step_blocked holds permitted moved)
    exact ⟨still.blocked, still.open_socket, still.open_tunnel⟩

end HandControl.BridgeShutdown
