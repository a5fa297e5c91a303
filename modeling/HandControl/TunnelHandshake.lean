import HandControl.TransitionRuns

/-!
# The handshake of one relay tunnel

The connect handler that created a tunnel and the handlers of its tunnel requests share a
`TunnelHandle` under four locks; a step runs from one lock acquisition, notification or await to the
next. Tunnel identifiers are fresh, so the model keeps one entry of the tunnel map.
-/

namespace HandControl.TunnelHandshake

/-- The requests that concern one tunnel. A WebSocket is named by its request. -/
inductive TunnelRequest where
  | connect
  | tunnel (number : Nat)
deriving DecidableEq

structure TunnelQuery where
  role : Option String
  token : Option String
deriving DecidableEq

structure TunnelReadyPayload where
  type : String
  role : String
  tunnelId : String
deriving DecidableEq

/-- What is fixed for a tunnel: its identifier and secret, and the query parameters of
every tunnel request that names it. -/
structure TunnelSetting where
  tunnelId : String
  serverSecret : String
  query : Nat → TunnelQuery

structure TunnelHandle where
  clientReady : Bool
  serverReady : Bool
  clientWs : Option TunnelRequest
  serverWs : Option TunnelRequest
  serverSecret : Option String
deriving DecidableEq

namespace TunnelHandle

def new (serverSecret : String) : TunnelHandle where
  clientReady := false
  serverReady := false
  clientWs := none
  serverWs := none
  serverSecret := some serverSecret

def isFullyReady (handle : TunnelHandle) : Bool :=
  handle.clientReady && handle.serverReady

/-- `mark_client_ready` and `mark_server_ready`. -/
def markReady (handle : TunnelHandle) : TunnelRequest → TunnelHandle
  | .connect => { handle with clientReady := true }
  | .tunnel _ => { handle with serverReady := true }

/-- The first lock of `attach_client` and of `attach_server`. -/
def storeSocket (handle : TunnelHandle) : TunnelRequest → TunnelHandle
  | .connect => { handle with clientWs := some .connect }
  | .tunnel number => { handle with serverWs := some (.tunnel number) }

/-- The socket of a handler's own side that `take_client_socket` or
`take_server_socket` finds. -/
def ownSocket (handle : TunnelHandle) : TunnelRequest → Option TunnelRequest
  | .connect => handle.clientWs
  | .tunnel _ => handle.serverWs

def clearOwnSocket (handle : TunnelHandle) : TunnelRequest → TunnelHandle
  | .connect => { handle with clientWs := none }
  | .tunnel _ => { handle with serverWs := none }

/-- `verify_server_secret`; the comparison is equality of the bytes. -/
def verifyServerSecret (handle : TunnelHandle) (provided : String) : Bool × TunnelHandle :=
  match handle.serverSecret with
  | some expected =>
    if expected = provided then (true, { handle with serverSecret := none })
    else (false, handle)
  | none => (false, handle)

end TunnelHandle

/-- Where a handler is. `looking`, `holding` and `restoring` are the locks of
`take_pair_if_ready`, called from `attach_*` or from the wait loop. -/
inductive HandlerPhase where
  | absent
  | commanding
  | unreachable
  | acknowledging
  | lookingUp
  | verifying
  | rejecting
  | awaitingReady
  | marking
  | announcing
  | storing
  | announcingStored
  | looking (inLoop : Bool)
  | holding (inLoop : Bool) (client : TunnelRequest)
  | restoring (inLoop : Bool) (client : TunnelRequest)
  | entering
  | waiting
  | checking
  | expired
  | withdrawing
  | removing
  | leaving
  | finished
deriving DecidableEq

/-- One tunnel with all its handlers. `cleanupTasks` counts the tasks that a dropped cleanup guard
spawned. The last five fields record the requests that passed `verify_server_secret`, the sockets
that were stored, the calls of `spawn_forwarders`, the sockets that a timed-out handler closed or
dropped, and whether the client was told of the failure. -/
structure Tunnel where
  inMap : Bool
  handle : TunnelHandle
  phase : TunnelRequest → HandlerPhase
  disarmed : Bool
  cleanupTasks : Nat
  accepted : List Nat
  stored : List TunnelRequest
  spawned : List (TunnelRequest × TunnelRequest)
  givenUp : List TunnelRequest
  tunnelFailedSent : Bool

def Tunnel.created (setting : TunnelSetting) : Tunnel where
  inMap := true
  handle := TunnelHandle.new setting.serverSecret
  phase := fun request => if request = .connect then .commanding else .absent
  disarmed := false
  cleanupTasks := 0
  accepted := []
  stored := []
  spawned := []
  givenUp := []
  tunnelFailedSent := false

/-- What the environment contributes to a step: whether a send succeeds, and the message
that is received, if one is and it parses. -/
structure StepInput where
  sendOk : Bool
  received : Option TunnelReadyPayload
deriving DecidableEq

namespace Tunnel

def moveTo (tunnel : Tunnel) (request : TunnelRequest) (next : HandlerPhase) : Tunnel :=
  { tunnel with phase := Function.update tunnel.phase request next }

/-- `notify_waiters` wakes the handlers that wait in `notified()`; they look for the
pair. -/
def notifyWaiters (tunnel : Tunnel) : Tunnel :=
  { tunnel with
    phase := fun request =>
      if tunnel.phase request = .waiting then .looking true else tunnel.phase request }

/-- The connect handler returns; its cleanup guard is dropped. -/
def dropGuard (tunnel : Tunnel) : Tunnel :=
  if tunnel.disarmed then tunnel else { tunnel with cleanupTasks := tunnel.cleanupTasks + 1 }

def isValidReady (setting : TunnelSetting) (request : TunnelRequest)
    (ready : TunnelReadyPayload) : Bool :=
  let role :=
    match request with
    | .connect => "client"
    | .tunnel _ => "server"
  decide (ready.type = "tunnel_ready") && decide (ready.role = role) &&
    decide (ready.tunnelId = setting.tunnelId)

def verify (setting : TunnelSetting) (tunnel : Tunnel) (number : Nat) : Tunnel :=
  let query := setting.query number
  if query.role = some "server" then
    match query.token with
    | some token =>
      let verified := tunnel.handle.verifyServerSecret token
      if verified.1 then
        ({ tunnel with
          handle := verified.2
          accepted := tunnel.accepted ++ [number] }).moveTo (.tunnel number) .awaitingReady
      else tunnel.moveTo (.tunnel number) .rejecting
    | none => tunnel.moveTo (.tunnel number) .rejecting
  else tunnel.moveTo (.tunnel number) .rejecting

/-- The forwarders are spawned. A pair found by `attach_client` disarms the guard and
returns; in the wait loop the handler leaves the loop. -/
def pairUp (tunnel : Tunnel) (request : TunnelRequest) (inLoop : Bool)
    (client server : TunnelRequest) : Tunnel :=
  let paired := { tunnel with
    handle := { tunnel.handle with serverWs := none }
    spawned := tunnel.spawned ++ [(client, server)] }
  if inLoop then paired.moveTo request .leaving
  else
    match request with
    | .connect => ({ paired with disarmed := true }).moveTo request .finished
    | .tunnel _ => paired.moveTo request .finished

def noPair (inLoop : Bool) : HandlerPhase :=
  if inLoop then .checking else .entering

/-- Take the handler's own socket out of the handle after its timeout. -/
def withdraw (tunnel : Tunnel) (request : TunnelRequest) : Tunnel :=
  let handle := tunnel.handle.clearOwnSocket request
  match tunnel.handle.ownSocket request with
  | some socket =>
    let told := tunnel.tunnelFailedSent || decide (request = .connect)
    let givenUp := tunnel.givenUp ++ [socket]
    ({ tunnel with handle := handle, givenUp := givenUp, tunnelFailedSent := told }).moveTo
      request .removing
  | none => ({ tunnel with handle := handle }).moveTo request .removing

end Tunnel

open Tunnel in
def stepHandler (setting : TunnelSetting) (tunnel : Tunnel) (request : TunnelRequest)
    (input : StepInput) : Option Tunnel :=
  match tunnel.phase request with
  | .absent => none
  | .commanding =>
    some (tunnel.moveTo request (if input.sendOk then .acknowledging else .unreachable))
  | .unreachable =>
    some (({ tunnel with inMap := false, disarmed := true }).moveTo request .finished)
  | .acknowledging =>
    if input.sendOk then some (tunnel.moveTo request .awaitingReady)
    else some (tunnel.dropGuard.moveTo request .finished)
  | .lookingUp =>
    some (tunnel.moveTo request (if tunnel.inMap then .verifying else .finished))
  | .verifying =>
    match request with
    | .connect => none
    | .tunnel number => some (tunnel.verify setting number)
  | .rejecting => some (({ tunnel with inMap := false }).moveTo request .finished)
  | .awaitingReady =>
    let valid := (input.received.map (isValidReady setting request)).getD false
    if valid then some (tunnel.moveTo request .marking)
    else
      match request with
      | .connect => some (tunnel.dropGuard.moveTo request .finished)
      | .tunnel _ => some (tunnel.moveTo request .rejecting)
  | .marking =>
    some (({ tunnel with handle := tunnel.handle.markReady request }).moveTo request
      .announcing)
  | .announcing => some (tunnel.notifyWaiters.moveTo request .storing)
  | .storing =>
    let stored := tunnel.stored ++ [request]
    let handle := tunnel.handle.storeSocket request
    some (({ tunnel with handle := handle, stored := stored }).moveTo request
      .announcingStored)
  | .announcingStored => some (tunnel.notifyWaiters.moveTo request (.looking false))
  | .looking inLoop =>
    match tunnel.handle.clientWs with
    | some client =>
      let handle := { tunnel.handle with clientWs := none }
      some (({ tunnel with handle := handle }).moveTo request (.holding inLoop client))
    | none => some (tunnel.moveTo request (noPair inLoop))
  | .holding inLoop client =>
    match tunnel.handle.serverWs with
    | some server => some (tunnel.pairUp request inLoop client server)
    | none => some (tunnel.moveTo request (.restoring inLoop client))
  | .restoring inLoop client =>
    let handle := { tunnel.handle with clientWs := some client }
    some (({ tunnel with handle := handle }).moveTo request (noPair inLoop))
  | .entering => some (tunnel.moveTo request .waiting)
  | .waiting => none
  | .checking =>
    some (tunnel.moveTo request (if tunnel.handle.isFullyReady then .leaving else .entering))
  | .expired =>
    some (tunnel.moveTo request (if tunnel.handle.isFullyReady then .leaving else .withdrawing))
  | .withdrawing => some (tunnel.withdraw request)
  | .removing =>
    let disarmed := tunnel.disarmed || decide (request = .connect)
    some (({ tunnel with inMap := false, disarmed := disarmed }).moveTo request .leaving)
  | .leaving =>
    match request with
    | .connect =>
      let disarmed := tunnel.disarmed || tunnel.handle.isFullyReady
      some (({ tunnel with disarmed := disarmed }).dropGuard.moveTo request .finished)
    | .tunnel _ => some (tunnel.moveTo request .finished)
  | .finished => none

/-- The timeout of the wait loop fires: the loop is dropped together with a socket that
it took out of the handle. -/
def stepExpire (tunnel : Tunnel) (request : TunnelRequest) : Option Tunnel :=
  match tunnel.phase request with
  | .looking true | .entering | .waiting | .checking =>
    some (tunnel.moveTo request .expired)
  | .holding true client | .restoring true client =>
    let givenUp := tunnel.givenUp ++ [client]
    some (({ tunnel with givenUp := givenUp }).moveTo request .expired)
  | _ => none

inductive TunnelAction where
  | arrive (number : Nat)
  | advance (request : TunnelRequest) (input : StepInput)
  | expire (request : TunnelRequest)
  | cleanup
  | forwardersEnd
deriving DecidableEq

/-- One step of a tunnel. The forwarding task removes the tunnel when it ends. -/
def stepTunnel (setting : TunnelSetting) (tunnel : Tunnel) : TunnelAction → Option Tunnel
  | .arrive number =>
    if tunnel.phase (.tunnel number) = .absent then
      some (tunnel.moveTo (.tunnel number) .lookingUp)
    else none
  | .advance request input => stepHandler setting tunnel request input
  | .expire request => stepExpire tunnel request
  | .cleanup =>
    if 0 < tunnel.cleanupTasks then
      let remaining := tunnel.cleanupTasks - 1
      some { tunnel with inMap := false, cleanupTasks := remaining }
    else none
  | .forwardersEnd => if tunnel.spawned ≠ [] then some { tunnel with inMap := false } else none

/-- Steps of a handler that touch no socket, no secret and no other handler. -/
inductive Passes : HandlerPhase → HandlerPhase → Prop where
  | commanded : Passes .commanding .acknowledging
  | unreached : Passes .commanding .unreachable
  | dismissed : Passes .unreachable .finished
  | acknowledged : Passes .acknowledging .awaitingReady
  | unacknowledged : Passes .acknowledging .finished
  | found : Passes .lookingUp .verifying
  | unknown : Passes .lookingUp .finished
  | refused : Passes .verifying .rejecting
  | rejected : Passes .rejecting .finished
  | readied : Passes .awaitingReady .marking
  | hungUp : Passes .awaitingReady .finished
  | misspoke : Passes .awaitingReady .rejecting
  | marked : Passes .marking .announcing
  | entered : Passes .entering .waiting
  | satisfied : Passes .checking .leaving
  | unsatisfied : Passes .checking .entering
  | overtaken : Passes .expired .leaving
  | gaveUp : Passes .expired .withdrawing
  | removed : Passes .removing .leaving
  | left : Passes .leaving .finished

/-- The same sockets in the same places, and the same records. -/
structure SameSockets (before after : Tunnel) : Prop where
  clientWs : after.handle.clientWs = before.handle.clientWs
  serverWs : after.handle.serverWs = before.handle.serverWs
  serverSecret : after.handle.serverSecret = before.handle.serverSecret
  accepted : after.accepted = before.accepted
  stored : after.stored = before.stored
  spawned : after.spawned = before.spawned
  givenUp : after.givenUp = before.givenUp

inductive HandlerMove (setting : TunnelSetting) (tunnel : Tunnel) (request : TunnelRequest) :
    Tunnel → Prop where
  | passes (next : HandlerPhase) (after : Tunnel)
      (passage : Passes (tunnel.phase request) next) (same : SameSockets tunnel after)
      (phases : after.phase = Function.update tunnel.phase request next) :
      HandlerMove setting tunnel request after
  | verifies (number : Nat) (secret : String) (request_eq : request = .tunnel number)
      (phase_eq : tunnel.phase request = .verifying)
      (role_eq : (setting.query number).role = some "server")
      (token_eq : (setting.query number).token = some secret)
      (secret_eq : tunnel.handle.serverSecret = some secret) :
      HandlerMove setting tunnel request (({ tunnel with
          handle := { tunnel.handle with serverSecret := none }
          accepted := tunnel.accepted ++ [number] }).moveTo (.tunnel number) .awaitingReady)
  | notifies (next : HandlerPhase)
      (phase_eq : (tunnel.phase request = .announcing ∧ next = .storing) ∨
        (tunnel.phase request = .announcingStored ∧ next = .looking false)) :
      HandlerMove setting tunnel request (tunnel.notifyWaiters.moveTo request next)
  | stores (phase_eq : tunnel.phase request = .storing) :
      HandlerMove setting tunnel request (({ tunnel with
          handle := tunnel.handle.storeSocket request
          stored := tunnel.stored ++ [request] }).moveTo request .announcingStored)
  | takesClient (inLoop : Bool) (client : TunnelRequest)
      (phase_eq : tunnel.phase request = .looking inLoop)
      (client_eq : tunnel.handle.clientWs = some client) :
      HandlerMove setting tunnel request
        (({ tunnel with handle := { tunnel.handle with clientWs := none } }).moveTo request
          (.holding inLoop client))
  | misses (inLoop : Bool) (phase_eq : tunnel.phase request = .looking inLoop)
      (client_eq : tunnel.handle.clientWs = none) :
      HandlerMove setting tunnel request (tunnel.moveTo request (Tunnel.noPair inLoop))
  | pairs (inLoop : Bool) (client server : TunnelRequest) (next : HandlerPhase)
      (after : Tunnel) (phase_eq : tunnel.phase request = .holding inLoop client)
      (server_eq : tunnel.handle.serverWs = some server)
      (next_eq : next = .leaving ∨ next = .finished)
      (handle_eq : after.handle = { tunnel.handle with serverWs := none })
      (spawned_eq : after.spawned = tunnel.spawned ++ [(client, server)])
      (records_eq : after.accepted = tunnel.accepted ∧ after.stored = tunnel.stored ∧
        after.givenUp = tunnel.givenUp)
      (phases : after.phase = Function.update tunnel.phase request next) :
      HandlerMove setting tunnel request after
  | findsNoServer (inLoop : Bool) (client : TunnelRequest)
      (phase_eq : tunnel.phase request = .holding inLoop client)
      (server_eq : tunnel.handle.serverWs = none) :
      HandlerMove setting tunnel request (tunnel.moveTo request (.restoring inLoop client))
  | restores (inLoop : Bool) (client : TunnelRequest)
      (phase_eq : tunnel.phase request = .restoring inLoop client) :
      HandlerMove setting tunnel request
        (({ tunnel with handle := { tunnel.handle with clientWs := some client } }).moveTo
          request (Tunnel.noPair inLoop))
  | withdraws (after : Tunnel) (phase_eq : tunnel.phase request = .withdrawing)
      (handle_eq : after.handle = tunnel.handle.clearOwnSocket request)
      (givenUp_eq : after.givenUp =
        tunnel.givenUp ++ (tunnel.handle.ownSocket request).toList)
      (records_eq : after.accepted = tunnel.accepted ∧ after.stored = tunnel.stored ∧
        after.spawned = tunnel.spawned)
      (phases : after.phase = Function.update tunnel.phase request .removing) :
      HandlerMove setting tunnel request after

theorem SameSockets.refl (tunnel : Tunnel) : SameSockets tunnel tunnel :=
  ⟨rfl, rfl, rfl, rfl, rfl, rfl, rfl⟩

theorem sameSockets_moveTo {tunnel after : Tunnel} (same : SameSockets tunnel after)
    (request : TunnelRequest) (next : HandlerPhase) :
    SameSockets tunnel (after.moveTo request next) :=
  ⟨same.clientWs, same.serverWs, same.serverSecret, same.accepted, same.stored,
    same.spawned, same.givenUp⟩

theorem dropGuard_sameSockets (tunnel : Tunnel) : SameSockets tunnel tunnel.dropGuard := by
  unfold Tunnel.dropGuard
  split
  · exact SameSockets.refl tunnel
  · exact ⟨rfl, rfl, rfl, rfl, rfl, rfl, rfl⟩

theorem dropGuard_phase (tunnel : Tunnel) : tunnel.dropGuard.phase = tunnel.phase := by
  unfold Tunnel.dropGuard
  split <;> rfl

theorem markReady_sameSockets (tunnel : Tunnel) (request : TunnelRequest) :
    SameSockets tunnel { tunnel with handle := tunnel.handle.markReady request } := by
  cases request <;> exact ⟨rfl, rfl, rfl, rfl, rfl, rfl, rfl⟩

theorem verifyServerSecret_accepts {handle : TunnelHandle} {provided : String}
    (accepted : (handle.verifyServerSecret provided).1 = true) :
    handle.serverSecret = some provided ∧
      (handle.verifyServerSecret provided).2 = { handle with serverSecret := none } := by
  unfold TunnelHandle.verifyServerSecret at accepted ⊢
  cases secret_eq : handle.serverSecret with
  | none => simp [secret_eq] at accepted
  | some expected =>
    by_cases same : expected = provided
    · simp [same]
    · simp [secret_eq, same] at accepted

variable {setting : TunnelSetting} {tunnel after : Tunnel} {request : TunnelRequest}

theorem passes_moveTo {phase next : HandlerPhase} (phase_eq : tunnel.phase request = phase)
    (passage : Passes phase next) (same : SameSockets tunnel after)
    (unmoved : after.phase = tunnel.phase) :
    HandlerMove setting tunnel request (after.moveTo request next) := by
  apply HandlerMove.passes next _ _ (sameSockets_moveTo same request next)
  · rw [Tunnel.moveTo, unmoved]
  · rw [phase_eq]
    exact passage

theorem verify_move {number : Nat} (phase_eq : tunnel.phase (.tunnel number) = .verifying) :
    HandlerMove setting tunnel (.tunnel number) (tunnel.verify setting number) := by
  have refusal : HandlerMove setting tunnel (.tunnel number)
      (tunnel.moveTo (.tunnel number) .rejecting) :=
    passes_moveTo phase_eq .refused (SameSockets.refl tunnel) rfl
  simp only [Tunnel.verify]
  split
  · rename_i role_eq
    split
    · rename_i token token_eq
      split
      · rename_i accepted
        have verified := verifyServerSecret_accepts accepted
        rw [verified.2]
        exact .verifies number token rfl phase_eq role_eq token_eq verified.1
      · exact refusal
    · exact refusal
  · exact refusal

theorem pairUp_move {inLoop : Bool} {client server : TunnelRequest}
    (phase_eq : tunnel.phase request = .holding inLoop client)
    (server_eq : tunnel.handle.serverWs = some server) :
    HandlerMove setting tunnel request (tunnel.pairUp request inLoop client server) := by
  simp only [Tunnel.pairUp]
  split
  · exact .pairs inLoop client server .leaving _ phase_eq server_eq (Or.inl rfl) rfl rfl
      ⟨rfl, rfl, rfl⟩ rfl
  · split
    · exact .pairs inLoop client server .finished _ phase_eq server_eq (Or.inr rfl) rfl rfl
        ⟨rfl, rfl, rfl⟩ rfl
    · exact .pairs inLoop client server .finished _ phase_eq server_eq (Or.inr rfl) rfl rfl
        ⟨rfl, rfl, rfl⟩ rfl

theorem withdraw_move (phase_eq : tunnel.phase request = .withdrawing) :
    HandlerMove setting tunnel request (tunnel.withdraw request) := by
  simp only [Tunnel.withdraw]
  split
  · rename_i socket_eq
    exact .withdraws _ phase_eq rfl (by rw [socket_eq]; rfl) ⟨rfl, rfl, rfl⟩ rfl
  · rename_i socket_eq
    exact .withdraws _ phase_eq rfl (by rw [socket_eq]; simp [Tunnel.moveTo]) ⟨rfl, rfl, rfl⟩ rfl

/-- The phases whose step touches no socket, no secret and no other handler. -/
def HandlerPhase.isPassing : HandlerPhase → Bool
  | .commanding | .unreachable | .acknowledging | .lookingUp | .rejecting | .awaitingReady
  | .marking | .entering | .checking | .expired | .removing | .leaving => true
  | _ => false

section

variable {input : StepInput} (moved : stepHandler setting tunnel request input = some after)

include moved

theorem stepHandler_passes (passing : (tunnel.phase request).isPassing = true) :
    HandlerMove setting tunnel request after := by
  have same := SameSockets.refl tunnel
  have unmapped (disarmed : Bool) :
      SameSockets tunnel { tunnel with inMap := false, disarmed := disarmed } :=
    ⟨rfl, rfl, rfl, rfl, rfl, rfl, rfl⟩
  unfold stepHandler at moved
  cases phase_eq : tunnel.phase request <;>
    simp only [phase_eq, HandlerPhase.isPassing, Bool.false_eq_true] at moved passing
  case commanding =>
    cases moved
    apply passes_moveTo phase_eq _ same rfl
    split
    · exact .commanded
    · exact .unreached
  case unreachable =>
    cases moved
    exact passes_moveTo phase_eq .dismissed (unmapped true) rfl
  case acknowledging =>
    split at moved
    · cases moved
      exact passes_moveTo phase_eq .acknowledged same rfl
    · cases moved
      exact passes_moveTo phase_eq .unacknowledged (dropGuard_sameSockets tunnel)
        (dropGuard_phase tunnel)
  case lookingUp =>
    cases moved
    apply passes_moveTo phase_eq _ same rfl
    split
    · exact .found
    · exact .unknown
  case rejecting =>
    cases moved
    exact passes_moveTo phase_eq .rejected (unmapped tunnel.disarmed) rfl
  case awaitingReady =>
    split at moved
    · cases moved
      exact passes_moveTo phase_eq .readied same rfl
    · split at moved
      · cases moved
        exact passes_moveTo phase_eq .hungUp (dropGuard_sameSockets tunnel) (dropGuard_phase tunnel)
      · cases moved
        exact passes_moveTo phase_eq .misspoke same rfl
  case marking =>
    cases moved
    exact passes_moveTo phase_eq .marked (markReady_sameSockets tunnel request) rfl
  case entering =>
    cases moved
    exact passes_moveTo phase_eq .entered same rfl
  case checking =>
    cases moved
    apply passes_moveTo phase_eq _ same rfl
    split
    · exact .satisfied
    · exact .unsatisfied
  case expired =>
    cases moved
    apply passes_moveTo phase_eq _ same rfl
    split
    · exact .overtaken
    · exact .gaveUp
  case removing =>
    cases moved
    exact passes_moveTo phase_eq .removed (unmapped _) rfl
  case leaving =>
    split at moved
    · cases moved
      have dropped := dropGuard_sameSockets
        { tunnel with disarmed := tunnel.disarmed || tunnel.handle.isFullyReady }
      exact passes_moveTo phase_eq .left
        ⟨dropped.clientWs, dropped.serverWs, dropped.serverSecret, dropped.accepted,
          dropped.stored, dropped.spawned, dropped.givenUp⟩ (dropGuard_phase _)
    · cases moved
      exact passes_moveTo phase_eq .left same rfl

theorem stepHandler_move : HandlerMove setting tunnel request after := by
  by_cases passing : (tunnel.phase request).isPassing = true
  · exact stepHandler_passes moved passing
  unfold stepHandler at moved
  cases phase_eq : tunnel.phase request <;>
    simp only [phase_eq, HandlerPhase.isPassing, not_true_eq_false] at moved passing
  case absent | waiting | finished => cases moved
  case verifying =>
    split at moved
    · cases moved
    · cases moved
      exact verify_move phase_eq
  case announcing =>
    cases moved
    exact .notifies .storing (Or.inl ⟨phase_eq, rfl⟩)
  case storing =>
    cases moved
    exact .stores phase_eq
  case announcingStored =>
    cases moved
    exact .notifies (.looking false) (Or.inr ⟨phase_eq, rfl⟩)
  case looking inLoop =>
    split at moved
    · rename_i client client_eq
      cases moved
      exact .takesClient inLoop client phase_eq client_eq
    · rename_i client_eq
      cases moved
      exact .misses inLoop phase_eq client_eq
  case holding inLoop client =>
    split at moved
    · rename_i server_eq
      cases moved
      exact pairUp_move phase_eq server_eq
    · rename_i server_eq
      cases moved
      exact .findsNoServer inLoop client phase_eq server_eq
  case restoring inLoop client =>
    cases moved
    exact .restores inLoop client phase_eq
  case withdrawing =>
    cases moved
    exact withdraw_move phase_eq

end

/-- The timeout leaves the handler expired; a socket that it held is lost. -/
inductive ExpireMove (tunnel : Tunnel) (request : TunnelRequest) : Tunnel → Prop where
  | idle (phase_eq : tunnel.phase request = .looking true ∨ tunnel.phase request = .entering ∨
        tunnel.phase request = .waiting ∨ tunnel.phase request = .checking) :
      ExpireMove tunnel request (tunnel.moveTo request .expired)
  | drops (client : TunnelRequest) (phase_eq : tunnel.phase request = .holding true client ∨
        tunnel.phase request = .restoring true client) :
      ExpireMove tunnel request
        (({ tunnel with givenUp := tunnel.givenUp ++ [client] }).moveTo request .expired)

theorem stepExpire_move (moved : stepExpire tunnel request = some after) :
    ExpireMove tunnel request after := by
  unfold stepExpire at moved
  split at moved
  · rename_i phase_eq
    cases moved
    exact .idle (Or.inl phase_eq)
  · rename_i phase_eq
    cases moved
    exact .idle (Or.inr (Or.inl phase_eq))
  · rename_i phase_eq
    cases moved
    exact .idle (Or.inr (Or.inr (Or.inl phase_eq)))
  · rename_i phase_eq
    cases moved
    exact .idle (Or.inr (Or.inr (Or.inr phase_eq)))
  · rename_i client phase_eq
    cases moved
    exact .drops client (Or.inl phase_eq)
  · rename_i client phase_eq
    cases moved
    exact .drops client (Or.inr phase_eq)
  · cases moved

/-- The moves of a tunnel. A cleanup task or the end of the forwarders takes the tunnel
out of the map and touches no handler. -/
inductive TunnelMove (setting : TunnelSetting) (tunnel : Tunnel) :
    TunnelAction → Tunnel → Prop where
  | arrives (number : Nat) (phase_eq : tunnel.phase (.tunnel number) = .absent) :
      TunnelMove setting tunnel (.arrive number) (tunnel.moveTo (.tunnel number) .lookingUp)
  | advances (request : TunnelRequest) (input : StepInput) (after : Tunnel)
      (move : HandlerMove setting tunnel request after) :
      TunnelMove setting tunnel (.advance request input) after
  | expires (request : TunnelRequest) (after : Tunnel) (move : ExpireMove tunnel request after) :
      TunnelMove setting tunnel (.expire request) after
  | removed (action : TunnelAction) (tasks : Nat) :
      TunnelMove setting tunnel action { tunnel with inMap := false, cleanupTasks := tasks }

theorem stepTunnel_move {action : TunnelAction}
    (moved : stepTunnel setting tunnel action = some after) :
    TunnelMove setting tunnel action after := by
  cases action with
  | arrive number =>
    rw [stepTunnel] at moved
    split at moved
    · rename_i phase_eq
      cases moved
      exact .arrives number phase_eq
    · cases moved
  | advance request input => exact .advances request input after (stepHandler_move moved)
  | expire request => exact .expires request after (stepExpire_move moved)
  | cleanup =>
    simp only [stepTunnel] at moved
    split at moved
    · cases moved
      exact .removed .cleanup _
    · cases moved
  | forwardersEnd =>
    rw [stepTunnel] at moved
    split at moved
    · cases moved
      exact .removed .forwardersEnd tunnel.cleanupTasks
    · cases moved

end HandControl.TunnelHandshake
