import HandControl.RelayProcesses

/-!
# Every tunnel of the relay is authorised

A tunnel or a queued `open_tunnel` command leads back to one connect handler, to the moment at which
it fetched the registration of the server, and to the token that passed all checks under its key. If
the registration has been replaced since, the command goes to the handler whose key was used.
-/

namespace HandControl.RelayAuthorization

open ByteEncoding KeyedTable RelayAccess RelayProcesses TransitionRuns Relay
open TunnelHandshake (TunnelHandle)

section

variable (setting : RelaySetting) (libraries : RelayLibraries)

/-- On the way to `current` the connect handler read the entry of its server from the
registration map. -/
def Fetched (current : Relay) (handler : Nat) (request : ConnectRequest)
    (entry : RegisteredServer) : Prop :=
  Once (stepRelay setting libraries) anyAction .started current fun moment =>
    moment.connects handler = .fetching request ∧
      moment.serverEntry request.serverId = some entry

/-- The admission is that of a connect request naming a server and a client, whose token
is authorised under the key of the registration fetched for it. -/
structure Admitted (current : Relay) (handler : Nat) (admission : Admission) : Prop where
  names : Names libraries admission.request
  fetched : Fetched setting libraries current handler admission.request admission.entry
  authorized : Authorized setting libraries admission.decidedAt admission.entry.decodingKey
    admission.request admission.claims

/-- On the way to `current` the handler opened the tunnel for its admitted request. -/
def OpenedBy (current : Relay) (handler : Nat) (admission : Admission) (tunnelId : Uuid)
    (serverSecret : String) : Prop :=
  Once (stepRelay setting libraries) anyAction .started current fun moment =>
    moment.connects handler = .notifying admission tunnelId serverSecret ∧
      Admitted setting libraries moment handler admission

/-- The request of a handler in this phase fails a check. While nothing is decided, any
request counts as failing. -/
def FailsChecks (now : Nat) : ConnectPhase → Prop
  | .deciding request entry =>
    ∀ claims, ¬ Authorized setting libraries now entry.decodingKey request claims
  | .opening admission | .notifying admission _ _ | .withdrawing admission _
  | .opened admission _ =>
    ¬ Authorized setting libraries admission.decidedAt admission.entry.decodingKey
      admission.request admission.claims
  | _ => True

/-- `jsonwebtoken` rejects tokens that expired longer ago than its leeway of a minute. -/
def tokenLeeway : Nat := 60

/-- What `decode` is documented to guarantee; `Signed` relates a key to the EdDSA tokens
signed by its owner and to their claims. -/
def DecodesOnlySigned (Signed : DecodingKey → String → RelayClaims → Prop) : Prop :=
  ∀ now key token claims, libraries.decodeToken now key token = some claims →
    Signed key token claims ∧ now ≤ claims.exp + tokenLeeway

end

def owner : RegisterPhase → Option Uuid
  | .serving serverId _ | .dispatching serverId _ _ | .leaving serverId _
  | .returning serverId | .left serverId => some serverId
  | _ => none

section

variable (setting : RelaySetting) (libraries : RelayLibraries)

def PhaseHistory (current : Relay) (handler : Nat) : ConnectPhase → Prop
  | .fetching request => Names libraries request
  | .deciding request entry =>
    Names libraries request ∧ Fetched setting libraries current handler request entry ∧
      owner (current.registers entry.controlTx) = some request.serverId
  | .opening admission | .withdrawing admission _ =>
    Admitted setting libraries current handler admission ∧
      owner (current.registers admission.entry.controlTx) =
        some admission.request.serverId
  | .notifying admission tunnelId serverSecret =>
    OpenedBy setting libraries current handler admission tunnelId serverSecret ∧
      Admitted setting libraries current handler admission ∧
      owner (current.registers admission.entry.controlTx) =
        some admission.request.serverId
  | _ => True

def TunnelHistory (current : Relay) (tunnelId : Uuid) : Prop :=
  ∃ handler admission serverSecret,
    OpenedBy setting libraries current handler admission tunnelId serverSecret

def CommandHistory (current : Relay) (channel : Nat) (command : ServerCommand) : Prop :=
  ∃ handler admission tunnelId deadline serverSecret,
    owner (current.registers channel) = some admission.request.serverId ∧
    command = .openTunnel tunnelId admission.request.clientId "binary" deadline
      serverSecret ∧
    OpenedBy setting libraries current handler admission tunnelId serverSecret

structure History (current : Relay) : Prop where
  entries : ∀ serverId entry, current.serverEntry serverId = some entry →
    owner (current.registers entry.controlTx) = some serverId
  handlers : ∀ handler, PhaseHistory setting libraries current handler (current.connects handler)
  tunnels : ∀ tunnelId handle, current.tunnels.lookup tunnelId = some handle →
    TunnelHistory setting libraries current tunnelId
  queues : ∀ channel command, command ∈ current.controls channel →
    CommandHistory setting libraries current channel command

end

def OwnersKept (before after : Relay) : Prop :=
  ∀ channel serverId, owner (before.registers channel) = some serverId →
    owner (after.registers channel) = some serverId

variable {handler channel : Nat} {request : ConnectRequest} {entry : RegisteredServer}
variable {admission : Admission} {tunnelId serverId : Uuid} {phase next : RegisterPhase}
variable {command : ServerCommand} {input : ConnectInput} {failure : ConnectFailure}

section

variable {setting : RelaySetting} {libraries : RelayLibraries} {before after : Relay}
  {action : RelayAction}

variable (moved : stepRelay setting libraries before action = some after)

include moved in
theorem Fetched.later (fetched : Fetched setting libraries before handler request entry) :
    Fetched setting libraries after handler request entry :=
  Once.later fetched trivial moved

include moved in
theorem Admitted.later (admitted : Admitted setting libraries before handler admission) :
    Admitted setting libraries after handler admission :=
  ⟨admitted.names, admitted.fetched.later moved, admitted.authorized⟩

include moved in
theorem OpenedBy.later {serverSecret : String}
    (opened : OpenedBy setting libraries before handler admission tunnelId serverSecret) :
    OpenedBy setting libraries after handler admission tunnelId serverSecret :=
  Once.later opened trivial moved

include moved in
theorem PhaseHistory.later {phase : ConnectPhase}
    (history : PhaseHistory setting libraries before handler phase)
    (kept : OwnersKept before after) : PhaseHistory setting libraries after handler phase := by
  cases phase with
  | fetching => exact history
  | deciding =>
    obtain ⟨names, fetched, owned⟩ := history
    exact ⟨names, fetched.later moved, kept _ _ owned⟩
  | opening | withdrawing =>
    obtain ⟨admitted, owned⟩ := history
    exact ⟨admitted.later moved, kept _ _ owned⟩
  | notifying =>
    obtain ⟨opened, admitted, owned⟩ := history
    exact ⟨opened.later moved, admitted.later moved, kept _ _ owned⟩
  | _ => trivial

include moved in
theorem TunnelHistory.later (history : TunnelHistory setting libraries before tunnelId) :
    TunnelHistory setting libraries after tunnelId := by
  obtain ⟨handler, admission, serverSecret, opened⟩ := history
  exact ⟨handler, admission, serverSecret, opened.later moved⟩

include moved in
theorem CommandHistory.later (history : CommandHistory setting libraries before channel command)
    (kept : OwnersKept before after) : CommandHistory setting libraries after channel command := by
  obtain ⟨handler, admission, tunnelId, deadline, serverSecret, owned, command_eq, opened⟩ :=
    history
  exact ⟨handler, admission, tunnelId, deadline, serverSecret, kept _ _ owned, command_eq,
    opened.later moved⟩

variable (past : History setting libraries before) (kept : OwnersKept before after)
  (entries : ∀ serverId entry, after.serverEntry serverId = some entry →
    before.serverEntry serverId = some entry ∨
      owner (after.registers entry.controlTx) = some serverId)
  (tunnels : ∀ tunnelId handle, after.tunnels.lookup tunnelId = some handle →
    before.tunnels.lookup tunnelId = some handle ∨
      TunnelHistory setting libraries after tunnelId)
  (queues : ∀ channel command, command ∈ after.controls channel →
    command ∈ before.controls channel ∨
      CommandHistory setting libraries after channel command)

include moved past kept entries tunnels queues in
/-- A step keeps the history if whatever it adds to the shared state has one. -/
theorem History.extend (handlers : ∀ handler, after.connects handler = before.connects handler ∨
      PhaseHistory setting libraries after handler (after.connects handler)) :
    History setting libraries after := by
  constructor
  · intro serverId entry found
    rcases entries serverId entry found with old | new
    · exact kept _ _ (past.entries serverId entry old)
    · exact new
  · intro handler
    rcases handlers handler with same | new
    · rw [same]
      exact (past.handlers handler).later moved kept
    · exact new
  · intro tunnelId handle found
    rcases tunnels tunnelId handle found with old | new
    · exact (past.tunnels tunnelId handle old).later moved
    · exact new
  · intro channel command queued
    rcases queues channel command queued with old | new
    · exact (past.queues channel command old).later moved kept
    · exact new

theorem RegisterPasses.owner_kept (passage : RegisterPasses setting libraries phase next)
    (owned : owner phase = some serverId) : owner next = some serverId := by
  cases passage with
  | hears | closes | dispatches | breaks => exact owned
  | _ => cases owned

theorem serverEntry_of_removed {other registrationId : Uuid}
    (found : (before.removeServerIfCurrent serverId registrationId).serverEntry other =
      some entry) : before.serverEntry other = some entry := by
  rw [serverEntry] at found
  simp only [removeServerIfCurrent] at found
  split_ifs at found
  · exact (Table.lookup_of_erase found).2
  · exact found

theorem mem_of_mem_update {queue : List ServerCommand}
    (queued : command ∈ Function.update before.controls handler queue channel)
    (shorter : ∀ command ∈ queue, command ∈ before.controls handler) :
    command ∈ before.controls channel := by
  by_cases acting : channel = handler
  · subst acting
    rw [Function.update_self] at queued
    exact shorter command queued
  · rw [Function.update_of_ne acting] at queued
    exact queued

include moved past entries in
theorem History.of_register (phase_eq : before.registers handler = phase)
    (registers_eq : after.registers = Function.update before.registers handler next)
    (same : ∀ serverId, owner phase = some serverId → owner next = some serverId)
    (connects_eq : after.connects = before.connects) (tunnels_eq : after.tunnels = before.tunnels)
    (queues : ∀ channel command, command ∈ after.controls channel →
      command ∈ before.controls channel) :
    History setting libraries after := by
  have kept : OwnersKept before after := by
    intro channel serverId owned
    rw [registers_eq]
    by_cases acting : channel = handler
    · rw [acting, phase_eq] at owned
      rw [acting, Function.update_self]
      exact same serverId owned
    · rw [Function.update_of_ne acting]
      exact owned
  apply past.extend moved kept entries
  · intro tunnelId handle found
    rw [tunnels_eq] at found
    exact Or.inl found
  · intro channel command queued
    exact Or.inl (queues channel command queued)
  · intro handler
    exact Or.inl (by rw [connects_eq])

include moved past in
theorem RegisterMove.history (move : RegisterMove setting libraries before handler after) :
    History setting libraries after := by
  cases move with
  | passes _ passage =>
    refine past.of_register moved ?_ rfl rfl ?_ rfl rfl ?_
    · exact fun serverId entry found => Or.inl found
    · exact fun serverId owned => RegisterPasses.owner_kept passage owned
    · exact fun channel command queued => queued
  | upserts _ _ phase_eq =>
    refine past.of_register moved ?_ phase_eq rfl ?_ rfl rfl ?_
    · apply Table.lookup_insert_or
      simp [moveRegister, owner]
    · intro serverId owned
      cases owned
    · exact fun channel command queued => queued
  | takes serverId _ command _ phase_eq queue_eq =>
    refine past.of_register moved ?_ phase_eq rfl (fun _ owned => owned) rfl rfl ?_
    · exact fun serverId entry found => Or.inl found
    · intro channel queuedCommand queued
      apply mem_of_mem_update queued
      intro waiting member
      rw [queue_eq]
      exact List.mem_cons_of_mem command member
  | removes _ _ phase_eq =>
    refine past.of_register moved ?_ phase_eq rfl (fun _ owned => owned) rfl rfl ?_
    · exact fun other entry found => Or.inl (serverEntry_of_removed found)
    · exact fun channel command queued => queued
  | drops serverId phase_eq =>
    refine past.of_register moved ?_ phase_eq rfl (fun _ owned => owned) rfl rfl ?_
    · exact fun serverId entry found => Or.inl found
    · intro channel command queued
      apply mem_of_mem_update queued
      intro waiting member
      cases member

include moved past tunnels queues in
theorem History.of_connect {next : ConnectPhase}
    (registers_eq : after.registers = before.registers)
    (servers_eq : after.registeredServers = before.registeredServers)
    (connects_eq : after.connects = Function.update before.connects handler next)
    (phase : PhaseHistory setting libraries after handler next) :
    History setting libraries after := by
  have kept : OwnersKept before after := by
    intro channel serverId owned
    rw [registers_eq]
    exact owned
  apply past.extend moved kept _ tunnels queues
  · intro other
    rw [connects_eq]
    by_cases acting : other = handler
    · subst acting
      rw [Function.update_self]
      exact Or.inr phase
    · rw [Function.update_of_ne acting]
      exact Or.inl rfl
  · intro serverId entry found
    rw [serverEntry, servers_eq] at found
    exact Or.inl found

section

variable (run : Reaches (stepRelay setting libraries) anyAction .started before)

include run

include past in
theorem ConnectPasses.history {next : ConnectPhase}
    (passage : ConnectPasses setting libraries before (before.connects handler) next) :
    PhaseHistory setting libraries before handler next := by
  have known := past.handlers handler
  generalize phase_eq : before.connects handler = phase at passage known
  cases passage with
  | parses _ _ parsed => exact parseConnect_ok_names parsed
  | fetches _ entry found =>
    -- The map is read in this very state, so the moment of the fetch is now.
    exact ⟨known, Once.now run ⟨phase_eq, found⟩, past.entries _ entry found⟩
  | admits _ _ _ _ passed =>
    obtain ⟨names, fetched, owned⟩ := known
    exact ⟨⟨names, fetched, authorizeConnect_ok_iff.mp passed⟩, owned⟩
  | unreachable => exact known.2
  | _ => trivial

include moved past in
theorem ConnectMove.history (move : ConnectMove setting libraries before handler after) :
    History setting libraries after := by
  have known := past.handlers handler
  cases move with
  | passes _ passage =>
    refine past.of_connect moved ?_ ?_ rfl rfl rfl ?_
    · exact fun tunnelId handle found => Or.inl found
    · exact fun channel command queued => Or.inl queued
    · apply (ConnectPasses.history past run passage).later moved
      exact fun channel serverId owned => owned
  | opens admission tunnelId serverSecret phase_eq =>
    rw [phase_eq] at known
    obtain ⟨admitted, owned⟩ := known
    have opened : OpenedBy setting libraries _ handler admission tunnelId serverSecret :=
      Once.now (run.tail trivial moved)
        ⟨Function.update_self handler _ before.connects, admitted.later moved⟩
    refine past.of_connect moved ?_ ?_ rfl rfl rfl ⟨opened, admitted.later moved, owned⟩
    · exact Table.lookup_insert_or ⟨handler, admission, serverSecret, opened⟩
    · exact fun channel command queued => Or.inl queued
  | notifies admission tunnelId serverSecret deadline _ phase_eq =>
    rw [phase_eq] at known
    obtain ⟨opened, _, owned⟩ := known
    refine past.of_connect moved ?_ ?_ rfl rfl rfl trivial
    · exact fun tunnelId handle found => Or.inl found
    · -- The command goes to the registration that was fetched, current or not.
      intro channel command queued
      simp only [moveConnect, setControl] at queued
      by_cases acting : channel = admission.entry.controlTx
      · subst acting
        rw [Function.update_self, List.mem_append, List.mem_singleton] at queued
        rcases queued with old | new
        · exact Or.inl old
        · exact Or.inr ⟨handler, admission, tunnelId, deadline, serverSecret, owned, new,
            opened.later moved⟩
      · rw [Function.update_of_ne acting] at queued
        exact Or.inl queued
  | withdraws =>
    refine past.of_connect moved ?_ ?_ rfl rfl rfl trivial
    · exact fun other handle found => Or.inl (Table.lookup_of_erase found).2
    · exact fun channel command queued => Or.inl queued

include moved past in
theorem step_history : History setting libraries after := by
  cases stepRelay_move moved with
  | registerArrives _ _ absent =>
    refine past.of_register moved ?_ absent rfl ?_ rfl rfl ?_
    · exact fun serverId entry found => Or.inl found
    · intro serverId owned
      cases owned
    · exact fun channel command queued => queued
  | registers _ _ _ move => exact RegisterMove.history moved past move
  | connectArrives =>
    refine past.of_connect moved ?_ ?_ rfl rfl rfl trivial
    · exact fun tunnelId handle found => Or.inl found
    · exact fun channel command queued => Or.inl queued
  | connects _ _ _ move => exact ConnectMove.history moved past run move
  | removes =>
    apply past.extend moved
    · exact fun channel serverId owned => owned
    · exact fun serverId entry found => Or.inl found
    · exact fun other handle found => Or.inl (Table.lookup_of_erase found).2
    · exact fun channel command queued => Or.inl queued
    · exact fun handler => Or.inl rfl

end

theorem started_history : History setting libraries .started := by
  constructor
  · intro serverId entry found
    cases found
  · intro handler
    trivial
  · intro tunnelId handle found
    cases found
  · intro channel command queued
    cases queued

theorem reaches_history {final : Relay}
    (run : Reaches (stepRelay setting libraries) anyAction .started final) :
    History setting libraries final := by
  apply run.history started_history
  intro before action after front history _ moved
  exact step_history moved history front

/-- A step of a connect handler whose request fails a check touches nothing shared. -/
theorem failing_step_unshared (history : History setting libraries before)
    (moved : stepRelay setting libraries before (.connect handler input) = some after)
    (fails : FailsChecks setting libraries input.now (before.connects handler)) :
    after.tunnels = before.tunnels ∧ after.registeredServers = before.registeredServers ∧
      after.controls = before.controls := by
  have known := history.handlers handler
  cases stepConnect_move moved with
  | passes => exact ⟨rfl, rfl, rfl⟩
  | opens _ _ _ phase_eq | withdraws admission tunnelId phase_eq =>
    rw [phase_eq] at known fails
    exact absurd known.1.authorized fails
  | notifies _ _ _ _ _ phase_eq =>
    rw [phase_eq] at known fails
    exact absurd known.2.1.authorized fails

/-- The handler that decides on a failing request ends with a negative acknowledgement. -/
theorem failing_request_refused
    (moved : stepRelay setting libraries before (.connect handler input) = some after)
    (phase_eq : before.connects handler = .deciding request entry)
    (fails : ∀ claims, ¬ Authorized setting libraries input.now entry.decodingKey request claims) :
    ∃ error, after.connects handler = .failed (.refused error) := by
  simp only [stepRelay, stepConnect, phase_eq] at moved
  split at moved
  · rename_i claims passed
    exact absurd (authorizeConnect_ok_iff.mp passed) (fails claims)
  · rename_i error _
    cases moved
    exact ⟨error, Function.update_self handler _ before.connects⟩

theorem ConnectMove.connects_eq (move : ConnectMove setting libraries before handler after) :
    ∃ next, after.connects = Function.update before.connects handler next := by
  cases move <;> exact ⟨_, rfl⟩

theorem RegisterMove.connects_eq (move : RegisterMove setting libraries before handler after) :
    after.connects = before.connects := by
  cases move <;> rfl

include moved in
theorem step_keeps_failed (failed : before.connects handler = .failed failure) :
    after.connects handler = .failed failure := by
  cases stepRelay_move moved with
  | registerArrives => exact failed
  | registers _ _ _ move =>
    rw [RegisterMove.connects_eq move]
    exact failed
  | connectArrives arriving _ absent =>
    have different : handler ≠ arriving := by
      intro same
      rw [← same, failed] at absent
      cases absent
    exact (Function.update_of_ne different _ _).trans failed
  | connects acting _ _ move =>
    have different : handler ≠ acting := by
      intro same
      rw [stepRelay, stepConnect, ← same, failed] at moved
      cases moved
    obtain ⟨_, connects_eq⟩ := ConnectMove.connects_eq move
    rw [connects_eq, Function.update_of_ne different]
    exact failed
  | removes => exact failed

theorem failed_for_good {later : Relay} (failed : before.connects handler = .failed failure)
    (run : Reaches (stepRelay setting libraries) anyAction before later) :
    later.connects handler = .failed failure := by
  apply run.invariant failed
  intro middle action next still_failed _ moved
  exact step_keeps_failed moved still_failed

end

/-- In every run, each tunnel of the map and each queued command was caused by a connect request
authorised under the registration fetched for it; and a request that fails a check changes neither
map and no control channel, and is refused for good. -/
theorem relay_authorization_sound (setting : RelaySetting) (libraries : RelayLibraries)
    (Signed : DecodingKey → String → RelayClaims → Prop)
    (documented : DecodesOnlySigned libraries Signed)
    (final : Relay)
    (run : Reaches (stepRelay setting libraries) anyAction .started final) :
    (∀ tunnelId handle, final.tunnels.lookup tunnelId = some handle →
      ∃ handler admission serverSecret,
        OpenedBy setting libraries final handler admission tunnelId serverSecret ∧
        Signed admission.entry.decodingKey admission.request.payload.relayToken
          admission.claims ∧
        admission.decidedAt ≤ admission.claims.exp + tokenLeeway) ∧
    (∀ channel command, command ∈ final.controls channel →
      ∃ handler admission tunnelId deadline serverSecret,
        owner (final.registers channel) = some admission.request.serverId ∧
        command = .openTunnel tunnelId admission.request.clientId "binary" deadline
          serverSecret ∧
        OpenedBy setting libraries final handler admission tunnelId serverSecret ∧
        Signed admission.entry.decodingKey admission.request.payload.relayToken
          admission.claims ∧
        admission.decidedAt ≤ admission.claims.exp + tokenLeeway) ∧
    (∀ handler input after,
      stepRelay setting libraries final (.connect handler input) = some after →
      FailsChecks setting libraries input.now (final.connects handler) →
      after.tunnels = final.tunnels ∧ after.registeredServers = final.registeredServers ∧
      after.controls = final.controls ∧
      (∀ request entry, final.connects handler = .deciding request entry →
        ∃ error, ∀ later, Reaches (stepRelay setting libraries) anyAction after later →
          later.connects handler = .failed (.refused error))) := by
  have history := reaches_history run
  have signed : ∀ {handler admission tunnelId serverSecret},
      OpenedBy setting libraries final handler admission tunnelId serverSecret →
      Signed admission.entry.decodingKey admission.request.payload.relayToken
        admission.claims ∧
      admission.decidedAt ≤ admission.claims.exp + tokenLeeway := by
    rintro handler admission tunnelId serverSecret ⟨moment, _, _, _, admitted⟩
    exact documented _ _ _ _ admitted.authorized.decodes
  refine ⟨?_, ?_, ?_⟩
  · intro tunnelId handle found
    obtain ⟨handler, admission, serverSecret, opened⟩ := history.tunnels tunnelId handle found
    exact ⟨handler, admission, serverSecret, opened, signed opened⟩
  · intro channel command queued
    obtain ⟨handler, admission, tunnelId, deadline, serverSecret, owned, command_eq, opened⟩ :=
      history.queues channel command queued
    exact ⟨handler, admission, tunnelId, deadline, serverSecret, owned, command_eq, opened,
      signed opened⟩
  · intro handler input after moved fails
    obtain ⟨tunnels_eq, servers_eq, controls_eq⟩ := failing_step_unshared history moved fails
    refine ⟨tunnels_eq, servers_eq, controls_eq, ?_⟩
    intro request entry phase_eq
    rw [phase_eq] at fails
    obtain ⟨error, refused⟩ := failing_request_refused moved phase_eq fails
    exact ⟨error, fun later continued => failed_for_good refused continued⟩

def demoUuid (byte : UInt8) : Uuid := ⟨List.replicate 16 byte, by simp⟩

def demoKey : DecodingKey := ⟨List.replicate 32 7, by simp⟩

def demoClaims : RelayClaims where
  sub := (demoUuid 2).text
  aud := "relay.test"
  exp := 1000
  serverId := (demoUuid 1).text
  serverAudience := none
  bindingType := none
  bindingValue := none
  permissions := ["connect"]

def demoLibraries : RelayLibraries where
  parseUuid := fun text => [demoUuid 1, demoUuid 2].find? fun uuid => uuid.text == text
  parseUrl := fun _ => none
  readUri := fun _ => none
  byteSerialize := fun _ => ""
  decodeBase64 := fun text => if text = "key" then some demoKey.bytes else none
  encodeBase64 := fun bytes => String.ofList (hexEncode bytes)
  decodeToken := fun now key token =>
    if now ≤ 1000 ∧ key = demoKey ∧ token = "token" then some demoClaims else none

def demoSetting : RelaySetting where
  listenPort := 443
  relayHost := "relay.test"
  secrets := (∅ : Table Uuid String).insert (demoUuid 1) "secret"
  handshakeTimeout := 30

def demoRegister : RegisterPayload where
  type := "register"
  serverId := (demoUuid 1).text
  relaySecret := "secret"
  publicKey := "key"
  tlsAuthority := none

def demoConnect : ConnectPayload where
  type := "connect"
  serverId := (demoUuid 1).text
  relayToken := "token"
  clientId := (demoUuid 2).text

def demoActions : List RelayAction :=
  let served : RelayAction := .register 0 ⟨true, demoUuid 3, .frame⟩
  let connected : RelayAction := .connect 0 ⟨500, demoUuid 4, demoKey⟩
  [.registerArrives 0 (.payload demoRegister), served, served, served,
    .connectArrives 0 (.payload demoConnect)] ++ List.replicate 5 connected

def demoSigned (key : DecodingKey) (token : String) (claims : RelayClaims) : Prop :=
  key = demoKey ∧ token = "token" ∧ claims = demoClaims

theorem demo_decodes_only_signed : DecodesOnlySigned demoLibraries demoSigned := by
  intro now key token claims decoded
  simp only [demoLibraries] at decoded
  split at decoded
  · rename_i valid
    cases decoded
    refine ⟨⟨valid.2.1, valid.2.2, rfl⟩, ?_⟩
    exact le_trans valid.1 (Nat.le_add_right 1000 tokenLeeway)
  · cases decoded

theorem demo_tunnel_caused :
    ∃ final : Relay, ∃ handler admission serverSecret, (final.controls 0).length = 1 ∧
      OpenedBy demoSetting demoLibraries final handler admission (demoUuid 4) serverSecret ∧
      demoSigned admission.entry.decodingKey admission.request.payload.relayToken
        admission.claims := by
  obtain ⟨final, run, handle, found, sent⟩ :
      ∃ final, Reaches (stepRelay demoSetting demoLibraries) anyAction .started final ∧
        ∃ handle ∈ final.tunnels.lookup (demoUuid 4), (final.controls 0).length = 1 :=
    reaches_of_evaluated demoActions (by decide +kernel)
  obtain ⟨handler, admission, serverSecret, opened, signed, _⟩ :=
    (relay_authorization_sound demoSetting demoLibraries demoSigned demo_decodes_only_signed
      final run).1 (demoUuid 4) handle found
  exact ⟨final, handler, admission, serverSecret, sent, opened, signed⟩

end HandControl.RelayAuthorization
