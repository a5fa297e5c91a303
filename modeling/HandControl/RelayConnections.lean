import HandControl.KeyedTable
import HandControl.TransitionRuns

/-!
# Relay connections of the Android client

`ServerConnectionManager` shares one relay channel for each server among its callers and counts
them. The last one that disconnects starts a job which shuts it down after a while. A step is a
section under `relayLock`, or what happens between two suspension points, where a call may be
cancelled.
-/

namespace HandControl.RelayConnections

open KeyedTable Table

/-- What `tryRelayConnection` reads of an enrolled server. -/
structure EnrolledServerEntity where
  serverId : String
  relayEnabled : Bool
  relayUrl : Option String
  relayToken : Option String
  deriving DecidableEq

structure RelayConnectionException where
  shortMessage : String
  userMessage : String
  deriving DecidableEq

inductive Thrown where
  | timeout
  | relay (exception : RelayConnectionException)
  | io (message : Option String)
  | other (message : Option String) (className : String)
  deriving DecidableEq

/-- A relay result of `connect`: a channel, for the server it was created for. -/
structure ConnectionResult where
  serverId : String
  channel : Nat
  deriving DecidableEq

structure CachedRelayConnection where
  result : ConnectionResult
  refCount : Int
  shutdownJob : Option Nat
  deriving DecidableEq

def notConfigured : RelayConnectionException where
  shortMessage := "Relay not configured"
  userMessage :=
    "The server does not have relay support enabled or is missing relay configuration."

def relayConfigured (server : EnrolledServerEntity) : Bool :=
  server.relayEnabled && server.relayUrl.isSome && server.relayToken.isSome

def networkErrorMessage (message : Option String) : String :=
  let contains (text : String) : Bool :=
    message.any fun whole => decide (text.toList <:+: whole.toList)
  if contains "Software caused connection abort" then
    "Network connection was interrupted or lost."
  else if contains "Failed to connect" then
    "Unable to reach the relay server. Check your internet connection."
  else if contains "tunnel health check" then
    "Relay connection became unresponsive and was closed."
  else message.getD "Network error occurred during relay connection."

def relayFailure : Thrown → RelayConnectionException
  | .timeout =>
    ⟨"Connection timeout", "Failed to establish relay connection within 15 seconds. " ++
      "The relay server may be unreachable."⟩
  | .relay exception => exception
  | .io message => ⟨"Network error", networkErrorMessage message⟩
  | .other message className =>
    ⟨"Connection failed", message.getD s!"An unexpected error occurred: {className}"⟩

/-- How far a caller has come with `connect`, and with its result. -/
inductive Phase where
  | starting
  | probing (result : ConnectionResult)
  | stale (result : ConnectionResult)
  | dropping (result : ConnectionResult)
  | creating
  | created (result : ConnectionResult)
  | returning (result : ConnectionResult)
  | holding (result : ConnectionResult)
  | disconnected (result : ConnectionResult)
  | cancelled
  | failed (exception : RelayConnectionException)
  deriving DecidableEq

structure RelayCall where
  server : EnrolledServerEntity
  phase : Phase
  deriving DecidableEq

/-- How far a call of `disconnectRelay`, or an idle-shutdown job, has come. Both end with
`performRelayShutdown`, whose section under the lock comes after `closing`. -/
inductive TaskPhase where
  | releasing (forceClose : Bool)
  | delaying
  | closing
  | shutting
  | finished
  deriving DecidableEq

structure Task where
  result : ConnectionResult
  isJob : Bool
  cancelled : Bool
  phase : TaskPhase
  deriving DecidableEq

/-- The manager with everything that runs on it. `created` has the server of each channel made,
`shutdowns` the calls of `shutdownChannel`, and `down` the channels that these really shut down. -/
structure State where
  cachedRelayConnections : Table String CachedRelayConnection
  calls : Table Nat RelayCall
  tasks : Table Nat Task
  created : Table Nat String
  shutdowns : List Nat
  down : List Nat

def State.initial : State where
  cachedRelayConnections := ∅
  calls := ∅
  tasks := ∅
  created := ∅
  shutdowns := []
  down := []

def State.setPhase (state : State) (id : Nat) (call : RelayCall) (phase : Phase) : State :=
  { state with calls := state.calls.insert id { call with phase := phase } }

def State.addTask (state : State) (id : Nat) (task : Task) : State :=
  { state with tasks := state.tasks.insert id task }

def State.setTask (state : State) (id : Nat) (task : Task) (phase : TaskPhase) : State :=
  state.addTask id { task with phase := phase }

def State.setCached (state : State) (serverId : String) (cached : CachedRelayConnection) :
    State :=
  { state with cachedRelayConnections := state.cachedRelayConnections.insert serverId cached }

def State.uncache (state : State) (serverId : String) : State :=
  { state with cachedRelayConnections := state.cachedRelayConnections.erase serverId }

/-- `shutdownJob?.cancel()`. A job that has resumed from its delay goes on. -/
def State.cancelJob (state : State) : Option Nat → State
  | none => state
  | some job =>
    { state with
      tasks := Table.modify job (fun task => { task with cancelled := true }) state.tasks }

/-- A call of `shutdownChannel`. It does nothing if its coroutine is cancelled by then. -/
def State.shutdownChannel (state : State) (channel : Nat) (carriedOut : Bool) : State :=
  { state with
    shutdowns := state.shutdowns ++ [channel]
    down := if carriedOut then channel :: state.down else state.down }

/-- `refCount += 1` on a 32-bit integer. -/
def incremented (count : Int) : Int := (count + 1).bmod (2 ^ 32)

/-- `if (refCount > 0) refCount--`. -/
def decremented (count : Int) : Int := if count > 0 then count - 1 else count

def connect (state : State) (id : Nat) (server : EnrolledServerEntity) : Option State :=
  match state.calls.lookup id with
  | some _ => none
  | none =>
    some { state with
      calls := state.calls.insert id
        ⟨server, if relayConfigured server then .starting else .failed notConfigured⟩ }

/-- The first section under the lock. -/
def lookUp (state : State) (id : Nat) : Option State := do
  let call ← state.calls.lookup id
  let serverId := call.server.serverId
  match call.phase with
  | .starting =>
    match state.cachedRelayConnections.lookup serverId with
    | none => some (state.setPhase id call .creating)
    | some cached =>
      if cached.result.channel ∉ state.down then
        some (((state.cancelJob cached.shutdownJob).setCached serverId
          ⟨cached.result, incremented cached.refCount, none⟩).setPhase id call
            (.probing cached.result))
      else
        some (((state.cancelJob cached.shutdownJob).uncache serverId).setPhase id call
          .creating)
  | _ => none

/-- `awaitChannelReady`. It says no when it is cancelled, too, and always once the channel is
shut down. -/
def probe (state : State) (id : Nat) (ready : Bool) : Option State := do
  let call ← state.calls.lookup id
  match call.phase with
  | .probing result =>
    if ready then
      if result.channel ∈ state.down then none
      else some (state.setPhase id call (.returning result))
    else some (state.setPhase id call (.stale result))
  | _ => none

/-- The second section under the lock. It drops whatever entry there is. -/
def dropStale (state : State) (id : Nat) : Option State := do
  let call ← state.calls.lookup id
  match call.phase with
  | .stale result =>
    some ((state.uncache call.server.serverId).setPhase id call (.dropping result))
  | _ => none

def shutStale (state : State) (id : Nat) (carriedOut : Bool) : Option State := do
  let call ← state.calls.lookup id
  match call.phase with
  | .dropping result =>
    some ((state.shutdownChannel result.channel carriedOut).setPhase id call .creating)
  | _ => none

def create (state : State) (id channel : Nat) : Option State := do
  let call ← state.calls.lookup id
  match call.phase, state.created.lookup channel with
  | .creating, none =>
    some { state.setPhase id call (.created ⟨call.server.serverId, channel⟩) with
      created := state.created.insert channel call.server.serverId }
  | _, _ => none

/-- Something is thrown inside the `try` block. A channel that has been made by then is lost. -/
def fail (state : State) (id : Nat) (thrown : Thrown) : Option State := do
  let call ← state.calls.lookup id
  match call.phase with
  | .creating | .created _ => some (state.setPhase id call (.failed (relayFailure thrown)))
  | _ => none

/-- The third section under the lock. It replaces whatever entry there is. -/
def store (state : State) (id : Nat) : Option State := do
  let call ← state.calls.lookup id
  match call.phase with
  | .created result =>
    some ((state.setCached call.server.serverId ⟨result, 1, none⟩).setPhase id call
      (.returning result))
  | _ => none

def deliver (state : State) (id : Nat) : Option State := do
  let call ← state.calls.lookup id
  match call.phase with
  | .returning result => some (state.setPhase id call (.holding result))
  | _ => none

/-- The call is cancelled while it waits for the lock outside the `try` block, or before its
result is handed over. -/
def abandon (state : State) (id : Nat) : Option State := do
  let call ← state.calls.lookup id
  match call.phase with
  | .starting | .stale _ | .returning _ => some (state.setPhase id call .cancelled)
  | _ => none

/-- The caller disconnects its result, for the first time or again. -/
def disconnect (state : State) (id task : Nat) (forceClose : Bool) : Option State := do
  let call ← state.calls.lookup id
  match call.phase, state.tasks.lookup task with
  | .holding result, none | .disconnected result, none =>
    some ((state.setPhase id call (.disconnected result)).addTask task
      { result := result, isJob := false, cancelled := false, phase := .releasing forceClose })
  | _, _ => none

/-- The section of `disconnectRelay` under the lock. `job` names the job if one is launched. -/
def release (state : State) (id job : Nat) : Option State := do
  let task ← state.tasks.lookup id
  match task.phase with
  | .releasing forceClose =>
    match state.cachedRelayConnections.lookup task.result.serverId with
    | none => some (state.setTask id task .closing)
    | some cached =>
      if cached.result.channel ≠ task.result.channel then
        some (state.setTask id task .closing)
      else
        let refCount := decremented cached.refCount
        let undisturbed := state.cancelJob cached.shutdownJob
        if forceClose then
          some ((undisturbed.setCached task.result.serverId
            ⟨cached.result, 0, none⟩).setTask id task .closing)
        else if refCount > 0 then
          some ((undisturbed.setCached task.result.serverId
            ⟨cached.result, refCount, none⟩).setTask id task .finished)
        else
          match state.tasks.lookup job with
          | some _ => none
          | none =>
            some (((undisturbed.setCached task.result.serverId
              ⟨cached.result, refCount, some job⟩).setTask id task .finished).addTask job
                { result := task.result, isJob := true, cancelled := false, phase := .delaying })
  | _ => none

def elapse (state : State) (id : Nat) : Option State := do
  let task ← state.tasks.lookup id
  match task.phase with
  | .delaying => if task.cancelled then none else some (state.setTask id task .closing)
  | _ => none

/-- The section of `performRelayShutdown` under the lock. A job may get here although it has been
cancelled since its delay passed. -/
def close (state : State) (id : Nat) : Option State := do
  let task ← state.tasks.lookup id
  match task.phase with
  | .closing =>
    match state.cachedRelayConnections.lookup task.result.serverId with
    | none => some (state.setTask id task .finished)
    | some cached =>
      if cached.result.channel = task.result.channel then
        some ((state.uncache task.result.serverId).setTask id task .shutting)
      else some (state.setTask id task .finished)
  | _ => none

/-- The call of `shutdownChannel` in `performRelayShutdown`. A job cannot be cancelled any more
after its section under the lock. -/
def shut (state : State) (id : Nat) (carriedOut : Bool) : Option State := do
  let task ← state.tasks.lookup id
  match task.phase with
  | .shutting =>
    if task.isJob && carriedOut == task.cancelled then none
    else some ((state.shutdownChannel task.result.channel carriedOut).setTask id task .finished)
  | _ => none

/-- A cancelled job ends, or a call of `disconnect` is cancelled while it waits for the lock. -/
def abandonTask (state : State) (id : Nat) : Option State := do
  let task ← state.tasks.lookup id
  if task.isJob && !task.cancelled then none
  else
    match task.phase with
    | .releasing _ | .delaying | .closing => some (state.setTask id task .finished)
    | _ => none

inductive Action where
  | connect (call : Nat) (server : EnrolledServerEntity)
  | lookUp (call : Nat)
  | probe (call : Nat) (ready : Bool)
  | dropStale (call : Nat)
  | shutStale (call : Nat) (carriedOut : Bool)
  | create (call channel : Nat)
  | fail (call : Nat) (thrown : Thrown)
  | store (call : Nat)
  | deliver (call : Nat)
  | abandon (call : Nat)
  | disconnect (call task : Nat) (forceClose : Bool)
  | release (task job : Nat)
  | elapse (task : Nat)
  | close (task : Nat)
  | shut (task : Nat) (carriedOut : Bool)
  | abandonTask (task : Nat)

def step (state : State) : Action → Option State
  | .connect call server => connect state call server
  | .lookUp call => lookUp state call
  | .probe call ready => probe state call ready
  | .dropStale call => dropStale state call
  | .shutStale call carriedOut => shutStale state call carriedOut
  | .create call channel => create state call channel
  | .fail call thrown => fail state call thrown
  | .store call => store state call
  | .deliver call => deliver state call
  | .abandon call => abandon state call
  | .disconnect call task forceClose => disconnect state call task forceClose
  | .release task job => release state task job
  | .elapse task => elapse state task
  | .close task => close state task
  | .shut task carriedOut => shut state task carriedOut
  | .abandonTask task => abandonTask state task

/-- A call that goes on without the manager's tables: nothing was cached, a probe is answered, a
result is handed over, or the call ends. -/
inductive Proceeds (state : State) (server : EnrolledServerEntity) (id : Nat) :
    Action → Phase → Phase → Prop where
  | missed (absent : state.cachedRelayConnections.lookup server.serverId = none) :
      Proceeds state server id (.lookUp id) .starting .creating
  | ready (result : ConnectionResult) (up : result.channel ∉ state.down) :
      Proceeds state server id (.probe id true) (.probing result) (.returning result)
  | unready (result : ConnectionResult) :
      Proceeds state server id (.probe id false) (.probing result) (.stale result)
  | notMade (thrown : Thrown) :
      Proceeds state server id (.fail id thrown) .creating (.failed (relayFailure thrown))
  | lost (thrown : Thrown) (result : ConnectionResult) :
      Proceeds state server id (.fail id thrown) (.created result) (.failed (relayFailure thrown))
  | delivered (result : ConnectionResult) :
      Proceeds state server id (.deliver id) (.returning result) (.holding result)
  | notStarted : Proceeds state server id (.abandon id) .starting .cancelled
  | notDropped (result : ConnectionResult) :
      Proceeds state server id (.abandon id) (.stale result) .cancelled
  | notDelivered (result : ConnectionResult) :
      Proceeds state server id (.abandon id) (.returning result) .cancelled

/-- The slot of the server has no entry, or one with another channel. -/
def Unlisted (state : State) (result : ConnectionResult) : Prop :=
  ∀ cached, state.cachedRelayConnections.lookup result.serverId = some cached →
    cached.result.channel ≠ result.channel

/-- The same for a task: it finds nothing to close, its delay passes, or it ends. -/
inductive TaskProceeds (state : State) (task : Task) (id : Nat) :
    Action → TaskPhase → TaskPhase → Prop where
  | unlisted (job : Nat) (forceClose : Bool) (absent : Unlisted state task.result) :
      TaskProceeds state task id (.release id job) (.releasing forceClose) .closing
  | elapsed (live : task.cancelled = false) :
      TaskProceeds state task id (.elapse id) .delaying .closing
  | nothing (absent : Unlisted state task.result) :
      TaskProceeds state task id (.close id) .closing .finished
  | abandoned (phase : TaskPhase) (ends : task.isJob = true → task.cancelled = true)
      (waiting : phase ≠ .shutting) :
      TaskProceeds state task id (.abandonTask id) phase .finished

inductive Move (before : State) : Action → State → Prop where
  | connects (id : Nat) (server : EnrolledServerEntity) (fresh : before.calls.lookup id = none)
      (phase : Phase) (entered : phase = .starting ∨ ∃ exception, phase = .failed exception) :
      Move before (.connect id server)
        { before with calls := before.calls.insert id ⟨server, phase⟩ }
  | proceeds (action : Action) (id : Nat) (call : RelayCall) (next : Phase)
      (present : before.calls.lookup id = some call)
      (way : Proceeds before call.server id action call.phase next) :
      Move before action (before.setPhase id call next)
  | reuses (id : Nat) (call : RelayCall) (cached : CachedRelayConnection)
      (present : before.calls.lookup id = some call) (phase_eq : call.phase = .starting)
      (found : before.cachedRelayConnections.lookup call.server.serverId = some cached)
      (up : cached.result.channel ∉ before.down) :
      Move before (.lookUp id)
        (((before.cancelJob cached.shutdownJob).setCached call.server.serverId
          ⟨cached.result, incremented cached.refCount, none⟩).setPhase id call
            (.probing cached.result))
  | discards (id : Nat) (call : RelayCall) (cached : CachedRelayConnection)
      (present : before.calls.lookup id = some call) (phase_eq : call.phase = .starting)
      (found : before.cachedRelayConnections.lookup call.server.serverId = some cached)
      (down : cached.result.channel ∈ before.down) :
      Move before (.lookUp id)
        (((before.cancelJob cached.shutdownJob).uncache call.server.serverId).setPhase id call
          .creating)
  | drops (id : Nat) (call : RelayCall) (result : ConnectionResult)
      (present : before.calls.lookup id = some call) (phase_eq : call.phase = .stale result) :
      Move before (.dropStale id)
        ((before.uncache call.server.serverId).setPhase id call (.dropping result))
  | shutsStale (id : Nat) (carriedOut : Bool) (call : RelayCall) (result : ConnectionResult)
      (present : before.calls.lookup id = some call) (phase_eq : call.phase = .dropping result) :
      Move before (.shutStale id carriedOut)
        ((before.shutdownChannel result.channel carriedOut).setPhase id call .creating)
  | creates (id channel : Nat) (call : RelayCall) (present : before.calls.lookup id = some call)
      (phase_eq : call.phase = .creating) (fresh : before.created.lookup channel = none) :
      Move before (.create id channel)
        { before.setPhase id call (.created ⟨call.server.serverId, channel⟩) with
          created := before.created.insert channel call.server.serverId }
  | stores (id : Nat) (call : RelayCall) (result : ConnectionResult)
      (present : before.calls.lookup id = some call) (phase_eq : call.phase = .created result) :
      Move before (.store id)
        ((before.setCached call.server.serverId ⟨result, 1, none⟩).setPhase id call
          (.returning result))
  | disconnects (id task : Nat) (forceClose : Bool) (call : RelayCall) (result : ConnectionResult)
      (present : before.calls.lookup id = some call)
      (phase_eq : call.phase = .holding result ∨ call.phase = .disconnected result)
      (fresh : before.tasks.lookup task = none) :
      Move before (.disconnect id task forceClose)
        ((before.setPhase id call (.disconnected result)).addTask task
          { result := result, isJob := false, cancelled := false, phase := .releasing forceClose })
  | taskProceeds (action : Action) (id : Nat) (task : Task) (next : TaskPhase)
      (present : before.tasks.lookup id = some task)
      (way : TaskProceeds before task id action task.phase next) :
      Move before action (before.setTask id task next)
  | forces (id job : Nat) (task : Task) (cached : CachedRelayConnection)
      (present : before.tasks.lookup id = some task) (phase_eq : task.phase = .releasing true)
      (found : before.cachedRelayConnections.lookup task.result.serverId = some cached)
      (same : cached.result.channel = task.result.channel) :
      Move before (.release id job)
        (((before.cancelJob cached.shutdownJob).setCached task.result.serverId
          ⟨cached.result, 0, none⟩).setTask id task .closing)
  | keeps (id job : Nat) (task : Task) (cached : CachedRelayConnection)
      (present : before.tasks.lookup id = some task) (phase_eq : task.phase = .releasing false)
      (found : before.cachedRelayConnections.lookup task.result.serverId = some cached)
      (same : cached.result.channel = task.result.channel)
      (used : 0 < decremented cached.refCount) :
      Move before (.release id job)
        (((before.cancelJob cached.shutdownJob).setCached task.result.serverId
          ⟨cached.result, decremented cached.refCount, none⟩).setTask id task .finished)
  | schedules (id job : Nat) (task : Task) (cached : CachedRelayConnection)
      (present : before.tasks.lookup id = some task) (phase_eq : task.phase = .releasing false)
      (found : before.cachedRelayConnections.lookup task.result.serverId = some cached)
      (same : cached.result.channel = task.result.channel)
      (unused : decremented cached.refCount ≤ 0) (fresh : before.tasks.lookup job = none) :
      Move before (.release id job)
        ((((before.cancelJob cached.shutdownJob).setCached task.result.serverId
          ⟨cached.result, decremented cached.refCount, some job⟩).setTask id task
            .finished).addTask job
              { result := task.result, isJob := true, cancelled := false, phase := .delaying })
  | closes (id : Nat) (task : Task) (cached : CachedRelayConnection)
      (present : before.tasks.lookup id = some task) (phase_eq : task.phase = .closing)
      (found : before.cachedRelayConnections.lookup task.result.serverId = some cached)
      (same : cached.result.channel = task.result.channel) :
      Move before (.close id) ((before.uncache task.result.serverId).setTask id task .shutting)
  | shuts (id : Nat) (carriedOut : Bool) (task : Task)
      (present : before.tasks.lookup id = some task) (phase_eq : task.phase = .shutting) :
      Move before (.shut id carriedOut)
        ((before.shutdownChannel task.result.channel carriedOut).setTask id task .finished)

variable {state before after : State} {result : ConnectionResult} {cached : CachedRelayConnection}
variable {id channel : Nat} {call : RelayCall} {action : Action} {phase next : Phase} {task : Task}
variable {server : EnrolledServerEntity} {carriedOut : Bool} {serverId : String}

theorem unlisted_of_absent (absent : state.cachedRelayConnections.lookup result.serverId = none) :
    Unlisted state result := by
  intro cached found
  rw [absent] at found
  cases found

theorem unlisted_of_other
    (found : state.cachedRelayConnections.lookup result.serverId = some cached)
    (other : cached.result.channel ≠ result.channel) : Unlisted state result := by
  intro another found_again
  rw [found] at found_again
  cases found_again
  exact other

theorem Move.of_proceeds (present : before.calls.lookup id = some call)
    (phase_eq : call.phase = phase) (way : Proceeds before call.server id action phase next) :
    Move before action (before.setPhase id call next) := by
  subst phase_eq
  exact .proceeds action id call next present way

theorem Move.of_taskProceeds {phase next : TaskPhase} (present : before.tasks.lookup id = some task)
    (phase_eq : task.phase = phase) (way : TaskProceeds before task id action phase next) :
    Move before action (before.setTask id task next) := by
  subst phase_eq
  exact .taskProceeds action id task next present way

theorem connect_move (moved : connect before id server = some after) :
    Move before (.connect id server) after := by
  unfold connect at moved
  split at moved
  · cases moved
  · rename_i fresh
    cases moved
    apply Move.connects id server fresh
    split_ifs
    · exact Or.inl rfl
    · exact Or.inr ⟨_, rfl⟩

theorem lookUp_move (moved : lookUp before id = some after) : Move before (.lookUp id) after := by
  obtain ⟨call, present, moved⟩ := Option.bind_eq_some_iff.mp moved
  dsimp only at moved
  split at moved
  · rename_i starting
    split at moved
    · rename_i absent
      cases moved
      exact .of_proceeds present starting (.missed absent)
    · rename_i cached found
      split_ifs at moved with down
      · cases moved
        exact .discards id call cached present starting found down
      · cases moved
        exact .reuses id call cached present starting found down
  · cases moved

theorem probe_move {ready : Bool} (moved : probe before id ready = some after) :
    Move before (.probe id ready) after := by
  obtain ⟨_, present, moved⟩ := Option.bind_eq_some_iff.mp moved
  split at moved
  · rename_i result probing
    split_ifs at moved with answer down
    · cases moved
      subst answer
      exact .of_proceeds present probing (.ready result down)
    · cases moved
      rw [Bool.not_eq_true] at answer
      subst answer
      exact .of_proceeds present probing (.unready result)
  · cases moved

theorem dropStale_move (moved : dropStale before id = some after) :
    Move before (.dropStale id) after := by
  obtain ⟨call, present, moved⟩ := Option.bind_eq_some_iff.mp moved
  split at moved
  · rename_i result stale
    cases moved
    exact .drops id call result present stale
  · cases moved

theorem shutStale_move (moved : shutStale before id carriedOut = some after) :
    Move before (.shutStale id carriedOut) after := by
  obtain ⟨call, present, moved⟩ := Option.bind_eq_some_iff.mp moved
  split at moved
  · rename_i result dropping
    cases moved
    exact .shutsStale id carriedOut call result present dropping
  · cases moved

theorem create_move (moved : create before id channel = some after) :
    Move before (.create id channel) after := by
  obtain ⟨call, present, moved⟩ := Option.bind_eq_some_iff.mp moved
  split at moved
  · rename_i creating fresh
    cases moved
    exact .creates id channel call present creating fresh
  · cases moved

theorem fail_move {thrown : Thrown} (moved : fail before id thrown = some after) :
    Move before (.fail id thrown) after := by
  obtain ⟨_, present, moved⟩ := Option.bind_eq_some_iff.mp moved
  split at moved
  · rename_i creating
    cases moved
    exact .of_proceeds present creating (.notMade thrown)
  · rename_i result created
    cases moved
    exact .of_proceeds present created (.lost thrown result)
  · cases moved

theorem store_move (moved : store before id = some after) : Move before (.store id) after := by
  obtain ⟨call, present, moved⟩ := Option.bind_eq_some_iff.mp moved
  split at moved
  · rename_i result created
    cases moved
    exact .stores id call result present created
  · cases moved

theorem deliver_move (moved : deliver before id = some after) :
    Move before (.deliver id) after := by
  obtain ⟨_, present, moved⟩ := Option.bind_eq_some_iff.mp moved
  split at moved
  · rename_i result returning
    cases moved
    exact .of_proceeds present returning (.delivered result)
  · cases moved

theorem abandon_move (moved : abandon before id = some after) :
    Move before (.abandon id) after := by
  obtain ⟨_, present, moved⟩ := Option.bind_eq_some_iff.mp moved
  split at moved
  · rename_i starting
    cases moved
    exact .of_proceeds present starting .notStarted
  · rename_i result stale
    cases moved
    exact .of_proceeds present stale (.notDropped result)
  · rename_i result returning
    cases moved
    exact .of_proceeds present returning (.notDelivered result)
  · cases moved

theorem disconnect_move {task : Nat} {forceClose : Bool}
    (moved : disconnect before id task forceClose = some after) :
    Move before (.disconnect id task forceClose) after := by
  obtain ⟨call, present, moved⟩ := Option.bind_eq_some_iff.mp moved
  split at moved
  · rename_i result holding fresh
    cases moved
    exact .disconnects id task forceClose call result present (Or.inl holding) fresh
  · rename_i result disconnected fresh
    cases moved
    exact .disconnects id task forceClose call result present (Or.inr disconnected) fresh
  · cases moved

theorem release_move {job : Nat} (moved : release before id job = some after) :
    Move before (.release id job) after := by
  obtain ⟨task, present, moved⟩ := Option.bind_eq_some_iff.mp moved
  split at moved
  · rename_i forceClose releasing
    have unlisted (absent : Unlisted before task.result) :
        Move before (.release id job) (before.setTask id task .closing) :=
      .of_taskProceeds present releasing (.unlisted job forceClose absent)
    split at moved
    · rename_i absent
      cases moved
      exact unlisted (unlisted_of_absent absent)
    · rename_i cached found
      dsimp only at moved
      split_ifs at moved with other force used
      · cases moved
        exact unlisted (unlisted_of_other found other)
      · cases moved
        subst force
        exact .forces id job task cached present releasing found (not_not.mp other)
      · cases moved
        rw [Bool.not_eq_true] at force
        subst force
        exact .keeps id job task cached present releasing found (not_not.mp other) used
      · split at moved
        · cases moved
        · rename_i fresh
          cases moved
          rw [Bool.not_eq_true] at force
          subst force
          exact .schedules id job task cached present releasing found (not_not.mp other)
            (not_lt.mp used) fresh
  · cases moved

theorem elapse_move (moved : elapse before id = some after) : Move before (.elapse id) after := by
  obtain ⟨_, present, moved⟩ := Option.bind_eq_some_iff.mp moved
  split at moved
  · rename_i delaying
    split_ifs at moved with cancelled
    cases moved
    exact .of_taskProceeds present delaying (.elapsed (Bool.not_eq_true _ ▸ cancelled))
  · cases moved

theorem close_move (moved : close before id = some after) : Move before (.close id) after := by
  obtain ⟨task, present, moved⟩ := Option.bind_eq_some_iff.mp moved
  split at moved
  · rename_i closing
    split at moved
    · rename_i absent
      cases moved
      exact .of_taskProceeds present closing (.nothing (unlisted_of_absent absent))
    · rename_i cached found
      split_ifs at moved with same
      · cases moved
        exact .closes id task cached present closing found same
      · cases moved
        exact .of_taskProceeds present closing (.nothing (unlisted_of_other found same))
  · cases moved

theorem shut_move (moved : shut before id carriedOut = some after) :
    Move before (.shut id carriedOut) after := by
  obtain ⟨task, present, moved⟩ := Option.bind_eq_some_iff.mp moved
  split at moved
  · rename_i shutting
    split_ifs at moved
    cases moved
    exact .shuts id carriedOut task present shutting
  · cases moved

theorem abandonTask_move (moved : abandonTask before id = some after) :
    Move before (.abandonTask id) after := by
  obtain ⟨task, present, moved⟩ := Option.bind_eq_some_iff.mp moved
  split_ifs at moved with running
  have ends : task.isJob = true → task.cancelled = true := by simpa using running
  split at moved
  · rename_i releasing
    cases moved
    exact .of_taskProceeds present releasing (.abandoned _ ends (by simp))
  · rename_i delaying
    cases moved
    exact .of_taskProceeds present delaying (.abandoned _ ends (by simp))
  · rename_i closing
    cases moved
    exact .of_taskProceeds present closing (.abandoned _ ends (by simp))
  · cases moved

theorem move_of_step (moved : step before action = some after) : Move before action after := by
  cases action with
  | connect => exact connect_move moved
  | lookUp => exact lookUp_move moved
  | probe => exact probe_move moved
  | dropStale => exact dropStale_move moved
  | shutStale => exact shutStale_move moved
  | create => exact create_move moved
  | fail => exact fail_move moved
  | store => exact store_move moved
  | deliver => exact deliver_move moved
  | abandon => exact abandon_move moved
  | disconnect => exact disconnect_move moved
  | release => exact release_move moved
  | elapse => exact elapse_move moved
  | close => exact close_move moved
  | shut => exact shut_move moved
  | abandonTask => exact abandonTask_move moved

open State

section

variable (state : State) (job : Option Nat)

@[simp] theorem cancelJob_cached :
    (state.cancelJob job).cachedRelayConnections = state.cachedRelayConnections := by
  cases job <;> rfl

@[simp] theorem cancelJob_calls : (state.cancelJob job).calls = state.calls := by
  cases job <;> rfl

@[simp] theorem cancelJob_created : (state.cancelJob job).created = state.created := by
  cases job <;> rfl

@[simp] theorem cancelJob_shutdowns : (state.cancelJob job).shutdowns = state.shutdowns := by
  cases job <;> rfl

@[simp] theorem cancelJob_down : (state.cancelJob job).down = state.down := by
  cases job <;> rfl

theorem cancelJob_lookup (id : Nat) :
    (state.cancelJob job).tasks.lookup id =
      (state.tasks.lookup id).map fun task =>
        if job = some id then { task with cancelled := true } else task := by
  cases job with
  | none => simp [cancelJob]
  | some other =>
    rw [cancelJob, lookup_modify]
    by_cases same : id = other
    · subst same
      simp
    · have different : other ≠ id := Ne.symm same
      simp [same, different]

theorem cancelJob_found {state : State} {job : Option Nat}
    (found : (state.cancelJob job).tasks.lookup id = some task) :
    ∃ old, state.tasks.lookup id = some old ∧ task.result = old.result ∧
      task.phase = old.phase ∧ task.isJob = old.isJob ∧
        (task.cancelled = false → task = old ∧ job ≠ some id) := by
  rw [cancelJob_lookup] at found
  obtain ⟨old, old_eq, task_eq⟩ := Option.map_eq_some_iff.mp found
  refine ⟨old, old_eq, ?_⟩
  by_cases cancelled : job = some id
  · rw [if_pos cancelled] at task_eq
    subst task_eq
    simp
  · rw [if_neg cancelled] at task_eq
    subst task_eq
    simp [cancelled]

end

def Phase.result? : Phase → Option ConnectionResult
  | .probing result | .stale result | .dropping result | .created result | .returning result
  | .holding result | .disconnected result => some result
  | _ => none

def Phase.uses (channel : Nat) : Phase → Bool
  | .probing result | .returning result | .holding result => result.channel == channel
  | _ => false

/-- The call has been counted as a user, and nothing has been done about it since. -/
def Phase.counts (channel : Nat) : Phase → Bool
  | .probing result | .stale result | .returning result | .holding result =>
    result.channel == channel
  | _ => false

def Task.releases (channel : Nat) (task : Task) : Bool :=
  match task.phase with
  | .releasing _ => task.result.channel == channel
  | _ => false

def users (state : State) (channel : Nat) : Nat :=
  Table.count (fun call => call.phase.counts channel) state.calls +
    Table.count (Task.releases channel) state.tasks

theorem Phase.unused_of_uncounted (uncounted : phase.counts channel = false) :
    phase.uses channel = false := by
  cases phase <;> first | exact uncounted | rfl

theorem Phase.result_of_counts (counts : phase.counts channel = true) :
    ∃ result ∈ phase.result?, result.channel = channel := by
  cases phase <;> simp_all [Phase.counts, Phase.result?]

theorem count_cancelJob (channel : Nat) (job : Option Nat) :
    count (Task.releases channel) (state.cancelJob job).tasks =
      count (Task.releases channel) state.tasks := by
  cases job with
  | none => rfl
  | some =>
    unfold cancelJob
    dsimp only
    rw [count_modify]
    intro task
    rfl

/-- One call takes another phase, and the job of an entry may be cancelled. -/
theorem users_turned (before after : State) (channel : Nat) (job : Option Nat) {id : Nat}
    {call : RelayCall} {phase next : Phase} (present : before.calls.lookup id = some call)
    (phase_eq : call.phase = phase)
    (calls_eq : after.calls = (before.cancelJob job).calls.insert id ⟨call.server, next⟩)
    (tasks_eq : after.tasks = (before.cancelJob job).tasks) :
    users after channel + (phase.counts channel).toNat =
      users before channel + (next.counts channel).toNat := by
  have replaced := count_insert (fun call => call.phase.counts channel) before.calls id
    ⟨call.server, next⟩
  simp only [present, weight, phase_eq] at replaced
  rw [users, calls_eq, cancelJob_calls, tasks_eq, count_cancelJob, users]
  omega

/-- One task goes on to a phase in which it gives nothing back. -/
theorem users_worked (before after : State) (channel : Nat) (job : Option Nat) {id : Nat}
    {task : Task} {next : TaskPhase} {seen : Bool} (present : before.tasks.lookup id = some task)
    (released : task.releases channel = seen)
    (unreleased : Task.releases channel { task with phase := next } = false)
    (calls_eq : after.calls = (before.cancelJob job).calls)
    (tasks_eq : after.tasks = (before.cancelJob job).tasks.insert id { task with phase := next }) :
    users after channel + seen.toNat = users before channel := by
  have replaced := count_insert (Task.releases channel) (before.cancelJob job).tasks id
    { task with phase := next }
  have weight_eq : weight (Task.releases channel) ((before.cancelJob job).tasks.lookup id) =
      seen.toNat := by
    rw [cancelJob_lookup, present, Option.map_some, weight, ← released]
    split_ifs <;> rfl
  rw [weight_eq, weight, unreleased, count_cancelJob] at replaced
  rw [users, calls_eq, cancelJob_calls, tasks_eq, users, Nat.add_assoc, replaced]
  rfl

theorem users_addTask (channel : Nat) (fresh : state.tasks.lookup id = none) :
    users (state.addTask id task) channel =
      users state channel + (task.releases channel).toNat := by
  have added := count_insert (Task.releases channel) state.tasks id task
  rw [fresh] at added
  rw [users, users, Nat.add_assoc]
  exact congrArg (_ + ·) added

/-- A new call is counted nowhere. -/
theorem users_addCall (channel : Nat) (fresh : state.calls.lookup id = none)
    (uncounted : call.phase.counts channel = false) :
    users { state with calls := state.calls.insert id call } channel = users state channel := by
  have replaced := count_insert (fun call => call.phase.counts channel) state.calls id call
  simp only [fresh, weight, uncounted, Bool.toNat_false] at replaced
  unfold users
  dsimp only
  omega

structure Owned (state : State) : Prop where
  calls : Table.Every (fun call => ∀ result ∈ call.phase.result?,
    state.created.lookup result.channel = some result.serverId ∧
      result.serverId = call.server.serverId) state.calls
  tasks : Table.Every (fun task =>
    state.created.lookup task.result.channel = some task.result.serverId) state.tasks
  cached : ∀ serverId cached, state.cachedRelayConnections.lookup serverId = some cached →
    cached.result.serverId = serverId ∧
      state.created.lookup cached.result.channel = some serverId
  shutdowns : ∀ channel ∈ state.shutdowns, ∃ serverId, state.created.lookup channel = some serverId

theorem Owned.uncached_of_erase (owned : Owned state)
    (known : state.created.lookup result.channel = some result.serverId) :
    Table.Every (fun cached => cached.result.channel ≠ result.channel)
      (state.cachedRelayConnections.erase result.serverId) := by
  intro serverId cached found same
  obtain ⟨different, earlier⟩ := lookup_of_erase found
  have owner := (owned.cached serverId cached earlier).2
  rw [same, known] at owner
  exact different (Option.some.inj owner).symm

section

variable (way : Proceeds state server id action phase next)

include way

theorem Proceeds.result_of_next : ∀ result ∈ next.result?, result ∈ phase.result? := by
  cases way <;> simp [Phase.result?]

theorem Proceeds.counts_le (channel : Nat) :
    (next.counts channel).toNat ≤ (phase.counts channel).toNat := by
  cases way <;> simp [Phase.counts]

theorem Proceeds.uses_next (unused : phase.uses channel = false) : next.uses channel = false := by
  cases way <;> first | exact unused | rfl

theorem Proceeds.phase_ne (result : ConnectionResult) : phase ≠ .dropping result := by
  cases way <;> simp

/-- No call starts to drop a channel, or creates one, in this way. -/
theorem Proceeds.next_ne (result : ConnectionResult) :
    next ≠ .dropping result ∧ next ≠ .created result := by
  cases way <;> simp

end

section

variable {next : TaskPhase} {phase : TaskPhase} (way : TaskProceeds state task id action phase next)

include way

theorem TaskProceeds.next_eq : next = .closing ∨ next = .finished := by
  cases way <;> simp

theorem TaskProceeds.phase_ne : phase ≠ .shutting := by
  cases way with
  | unlisted | elapsed | nothing => simp
  | abandoned _ _ waiting => exact waiting

theorem TaskProceeds.releases_next (channel : Nat) :
    Task.releases channel { task with phase := next } = false := by
  rcases way.next_eq with rfl | rfl <;> rfl

end

/-- A job, or a forced close, that will still look for its channel. -/
def Task.Armed (task : Task) : Prop :=
  (task.phase = .delaying ∨ task.phase = .closing) ∧ task.cancelled = false

/-- `shutdownChannel` has been called on the channel, or is about to be. -/
inductive Retired (state : State) (channel : Nat) : Prop where
  | dropping (id : Nat) (call : RelayCall) (result : ConnectionResult)
      (present : state.calls.lookup id = some call) (phase_eq : call.phase = .dropping result)
      (same : result.channel = channel)
  | shutting (id : Nat) (task : Task) (present : state.tasks.lookup id = some task)
      (phase_eq : task.phase = .shutting) (same : task.result.channel = channel)
  | called (member : channel ∈ state.shutdowns)

/-- How a step changes the phase of a call. -/
inductive Turns (before after : State) (server : EnrolledServerEntity) (id : Nat) :
    Action → Phase → Phase → Prop where
  | proceeds {action : Action} {phase next : Phase}
      (way : Proceeds before server id action phase next) :
      Turns before after server id action phase next
  | reuses (cached : CachedRelayConnection)
      (found : before.cachedRelayConnections.lookup server.serverId = some cached) :
      Turns before after server id (.lookUp id) .starting (.probing cached.result)
  | discards : Turns before after server id (.lookUp id) .starting .creating
  | drops (result : ConnectionResult) :
      Turns before after server id (.dropStale id) (.stale result) (.dropping result)
  | shuts (carriedOut : Bool) (result : ConnectionResult)
      (called : result.channel ∈ after.shutdowns) :
      Turns before after server id (.shutStale id carriedOut) (.dropping result) .creating
  | creates (channel : Nat) (fresh : before.created.lookup channel = none)
      (made : after.created.lookup channel = some server.serverId) :
      Turns before after server id (.create id channel) .creating
        (.created ⟨server.serverId, channel⟩)
  | stores (result : ConnectionResult)
      (stored : after.cachedRelayConnections.lookup server.serverId = some ⟨result, 1, none⟩) :
      Turns before after server id (.store id) (.created result) (.returning result)
  | disconnects (task : Nat) (forceClose : Bool) (result : ConnectionResult) {phase : Phase}
      (held : phase = .holding result ∨ phase = .disconnected result) :
      Turns before after server id (.disconnect id task forceClose) phase (.disconnected result)

inductive TaskTurns (before after : State) (task : Task) (id : Nat) :
    Action → TaskPhase → TaskPhase → Prop where
  | proceeds {action : Action} {phase next : TaskPhase}
      (way : TaskProceeds before task id action phase next) :
      TaskTurns before after task id action phase next
  | forces (job : Nat) : TaskTurns before after task id (.release id job) (.releasing true) .closing
  | releases (job : Nat) :
      TaskTurns before after task id (.release id job) (.releasing false) .finished
  | closes (listed : ¬ Unlisted before task.result) :
      TaskTurns before after task id (.close id) .closing .shutting
  | shuts (carriedOut : Bool) (called : task.result.channel ∈ after.shutdowns) :
      TaskTurns before after task id (.shut id carriedOut) .shutting .finished

/-- Where a task comes from: it was there, perhaps as the job of an entry that is cancelled now or
as the task that takes the step, or it is new. -/
inductive TaskOrigin (before after : State) (action : Action) (id : Nat) : Task → Prop where
  | kept (old : Task) (present : before.tasks.lookup id = some old) :
      TaskOrigin before after action id old
  | cancelled (old : Task) (present : before.tasks.lookup id = some old) (serverId : String)
      (entry : CachedRelayConnection)
      (found : before.cachedRelayConnections.lookup serverId = some entry)
      (own : entry.shutdownJob = some id) :
      TaskOrigin before after action id { old with cancelled := true }
  | turned (old : Task) (next : TaskPhase) (present : before.tasks.lookup id = some old)
      (way : TaskTurns before after old id action old.phase next) :
      TaskOrigin before after action id { old with phase := next }
  | called (other : Nat) (call : RelayCall) (result : ConnectionResult) (forceClose : Bool)
      (disconnects : action = .disconnect other id forceClose)
      (fresh : before.tasks.lookup id = none) (present : before.calls.lookup other = some call)
      (held : call.phase = .holding result ∨ call.phase = .disconnected result) :
      TaskOrigin before after action id ⟨result, false, false, .releasing forceClose⟩
  | launched (other : Nat) (old : Task) (fresh : before.tasks.lookup id = none)
      (present : before.tasks.lookup other = some old) :
      TaskOrigin before after action id ⟨old.result, true, false, .delaying⟩

/-- Where an entry comes from, and what the step does to the number of its users. -/
inductive EntryOrigin (before after : State) (action : Action) (serverId : String)
    (cached : CachedRelayConnection) : Prop where
  | kept (found : before.cachedRelayConnections.lookup serverId = some cached)
      (same : users after cached.result.channel = users before cached.result.channel)
  | proceeds (id : Nat) (call : RelayCall) (next : Phase)
      (found : before.cachedRelayConnections.lookup serverId = some cached)
      (present : before.calls.lookup id = some call)
      (way : Proceeds before call.server id action call.phase next)
      (count : users after cached.result.channel + (call.phase.counts cached.result.channel).toNat =
        users before cached.result.channel + (next.counts cached.result.channel).toNat)
  | taskProceeds (id : Nat) (task : Task) (next : TaskPhase)
      (found : before.cachedRelayConnections.lookup serverId = some cached)
      (present : before.tasks.lookup id = some task)
      (way : TaskProceeds before task id action task.phase next)
      (count : users after cached.result.channel + (task.releases cached.result.channel).toNat =
        users before cached.result.channel)
  | repeated (id task : Nat) (forceClose : Bool) (call : RelayCall) (result : ConnectionResult)
      (disconnects : action = .disconnect id task forceClose)
      (found : before.cachedRelayConnections.lookup serverId = some cached)
      (present : before.calls.lookup id = some call) (phase_eq : call.phase = .disconnected result)
      (more : users before cached.result.channel ≤ users after cached.result.channel)
  | reused (id : Nat) (call : RelayCall) (entry : CachedRelayConnection)
      (looksUp : action = .lookUp id) (present : before.calls.lookup id = some call)
      (own : call.server.serverId = serverId)
      (found : before.cachedRelayConnections.lookup serverId = some entry)
      (written : cached = ⟨entry.result, incremented entry.refCount, none⟩)
      (more : users after entry.result.channel = users before entry.result.channel + 1)
  | stored (id : Nat) (call : RelayCall) (result : ConnectionResult)
      (present : before.calls.lookup id = some call) (phase_eq : call.phase = .created result)
      (written : cached = ⟨result, 1, none⟩)
      (more : users after result.channel = users before result.channel + 1)
  | forced (id : Nat) (task : Task) (entry : CachedRelayConnection)
      (present : before.tasks.lookup id = some task) (phase_eq : task.phase = .releasing true)
      (same : task.result = entry.result) (written : cached = ⟨entry.result, 0, none⟩)
      (later : after.tasks.lookup id = some { task with phase := .closing })
  | released (entry : CachedRelayConnection) (used : 0 < decremented entry.refCount)
      (found : before.cachedRelayConnections.lookup serverId = some entry)
      (written : cached = ⟨entry.result, decremented entry.refCount, none⟩)
      (less : users after entry.result.channel + 1 = users before entry.result.channel)
  | scheduled (job : Nat) (entry : CachedRelayConnection) (unused : decremented entry.refCount ≤ 0)
      (found : before.cachedRelayConnections.lookup serverId = some entry)
      (written : cached = ⟨entry.result, decremented entry.refCount, some job⟩)
      (launched : after.tasks.lookup job = some ⟨entry.result, true, false, .delaying⟩)
      (less : users after entry.result.channel + 1 = users before entry.result.channel)

/-- The result of a call was its own, or it has just been found or made. -/
theorem Turns.result_of_next (way : Turns before after server id action phase next)
    (member : result ∈ next.result?) :
    result ∈ phase.result? ∨
      (∃ cached, before.cachedRelayConnections.lookup server.serverId = some cached ∧
        cached.result = result) ∨
      ∃ channel, action = .create id channel ∧ before.created.lookup channel = none ∧
        after.created.lookup channel = some server.serverId ∧
        result = ⟨server.serverId, channel⟩ := by
  cases way with
  | proceeds way => exact .inl (way.result_of_next result member)
  | reuses cached found => exact .inr (.inl ⟨cached, found, Option.some.inj member⟩)
  | discards | shuts => cases member
  | drops | stores => exact .inl member
  | creates channel fresh made =>
    exact .inr (.inr ⟨channel, rfl, fresh, made, (Option.some.inj member).symm⟩)
  | disconnects _ _ _ held =>
    rcases held with rfl | rfl
    · exact .inl member
    · exact .inl member

section

variable (move : Move before action after)

include move

theorem Move.calls_eq :
    after.calls = before.calls ∨ ∃ id call, after.calls = before.calls.insert id call ∧
      (before.calls.lookup id = none ∧ call.phase.result? = none ∨
        ∃ phase, before.calls.lookup id = some ⟨call.server, phase⟩ ∧
          Turns before after call.server id action phase call.phase) := by
  cases move with
  | connects id _ fresh _ entered =>
    refine .inr ⟨id, _, rfl, .inl ⟨fresh, ?_⟩⟩
    rcases entered with rfl | ⟨_, rfl⟩ <;> rfl
  | proceeds _ id call _ present way =>
    exact .inr ⟨id, _, rfl, .inr ⟨call.phase, present, .proceeds way⟩⟩
  | reuses id call cached present phase_eq found =>
    refine .inr ⟨id, ⟨call.server, .probing cached.result⟩, by simp [setPhase, setCached],
      .inr ⟨call.phase, present, ?_⟩⟩
    rw [phase_eq]
    exact .reuses cached found
  | discards id call _ present phase_eq =>
    refine .inr ⟨id, ⟨call.server, .creating⟩, by simp [setPhase, uncache],
      .inr ⟨call.phase, present, ?_⟩⟩
    rw [phase_eq]
    exact .discards
  | drops id call result present phase_eq =>
    refine .inr ⟨id, _, rfl, .inr ⟨call.phase, present, ?_⟩⟩
    rw [phase_eq]
    exact .drops result
  | shutsStale id carriedOut call result present phase_eq =>
    refine .inr ⟨id, _, rfl, .inr ⟨call.phase, present, ?_⟩⟩
    rw [phase_eq]
    exact .shuts carriedOut result (List.mem_append_right _ (List.mem_singleton_self _))
  | creates id channel call present phase_eq fresh =>
    refine .inr ⟨id, _, rfl, .inr ⟨call.phase, present, ?_⟩⟩
    rw [phase_eq]
    exact .creates channel fresh (AList.lookup_insert _)
  | stores id call result present phase_eq =>
    refine .inr ⟨id, _, rfl, .inr ⟨call.phase, present, ?_⟩⟩
    rw [phase_eq]
    exact .stores result (AList.lookup_insert _)
  | disconnects id task forceClose call result present held =>
    exact .inr ⟨id, _, rfl, .inr ⟨call.phase, present, .disconnects task forceClose result held⟩⟩
  | taskProceeds | closes | shuts => exact .inl rfl
  | forces _ _ _ cached | keeps _ _ _ cached | schedules _ _ _ cached =>
    exact .inl (cancelJob_calls before cached.shutdownJob)

theorem Move.call_before (found : after.calls.lookup id = some call) :
    before.calls.lookup id = some call ∨ call.phase.result? = none ∨
      ∃ phase, before.calls.lookup id = some ⟨call.server, phase⟩ ∧
        Turns before after call.server id action phase call.phase := by
  rcases move.calls_eq with same | ⟨_, _, inserted, origin⟩
  · rw [same] at found
    exact .inl found
  · rw [inserted] at found
    rcases lookup_insert_cases found with earlier | ⟨rfl, rfl⟩
    · exact .inl earlier
    · exact .inr (origin.imp_left And.right)

theorem Move.call_after (present : before.calls.lookup id = some call) :
    after.calls.lookup id = some call ∨
      ∃ next, Turns before after call.server id action call.phase next := by
  rcases move.calls_eq with same | ⟨other, new, inserted, ⟨fresh, _⟩ | ⟨_, old_eq, way⟩⟩
  · rw [same]
    exact .inl present
  · rw [inserted]
    exact .inl (lookup_insert_of_absent fresh present _)
  · rw [inserted]
    by_cases same : id = other
    · subst same
      cases present.symm.trans old_eq
      exact .inr ⟨new.phase, way⟩
    · exact .inl ((AList.lookup_insert_ne same).trans present)

theorem Move.created_kept (known : before.created.lookup channel = some serverId) :
    after.created.lookup channel = some serverId := by
  cases move with
  | creates _ _ _ _ _ fresh => exact lookup_insert_of_absent fresh known _
  | connects | proceeds | drops | shutsStale | stores | disconnects | taskProceeds | closes
  | shuts => exact known
  | reuses | discards | forces | keeps | schedules =>
    simpa [setPhase, setCached, uncache, setTask, addTask] using known

theorem Move.task_before (found : after.tasks.lookup id = some task) :
    TaskOrigin before after action id task := by
  have uncancelled {serverId : String} {entry : CachedRelayConnection} {task : Task}
      (entry_eq : before.cachedRelayConnections.lookup serverId = some entry)
      (earlier : (before.cancelJob entry.shutdownJob).tasks.lookup id = some task) :
      TaskOrigin before after action id task := by
    rw [cancelJob_lookup] at earlier
    obtain ⟨old, old_eq, rfl⟩ := Option.map_eq_some_iff.mp earlier
    split_ifs with own
    · exact .cancelled old old_eq serverId entry entry_eq own
    · exact .kept old old_eq
  cases move with
  | connects | proceeds | drops | shutsStale | creates | stores => exact .kept task found
  | reuses _ _ _ _ _ entry_eq | discards _ _ _ _ _ entry_eq => exact uncancelled entry_eq found
  | disconnects other _ forceClose call result present held fresh =>
    rcases lookup_insert_cases found with earlier | ⟨rfl, rfl⟩
    · exact .kept task earlier
    · exact .called other call result forceClose rfl fresh present held
  | taskProceeds _ _ old next present way =>
    rcases lookup_insert_cases found with earlier | ⟨rfl, rfl⟩
    · exact .kept task earlier
    · exact .turned old next present (.proceeds way)
  | forces _ job old _ present phase_eq entry_eq =>
    rcases lookup_insert_cases found with earlier | ⟨rfl, rfl⟩
    · exact uncancelled entry_eq earlier
    · exact .turned old _ present (phase_eq ▸ .forces job)
  | keeps _ job old _ present phase_eq entry_eq =>
    rcases lookup_insert_cases found with earlier | ⟨rfl, rfl⟩
    · exact uncancelled entry_eq earlier
    · exact .turned old _ present (phase_eq ▸ .releases job)
  | schedules other job old _ present phase_eq entry_eq _ _ fresh =>
    rcases lookup_insert_cases found with older | ⟨rfl, rfl⟩
    · rcases lookup_insert_cases older with earlier | ⟨rfl, rfl⟩
      · exact uncancelled entry_eq earlier
      · exact .turned old _ present (phase_eq ▸ .releases job)
    · exact .launched other old fresh present
  | closes _ old entry present phase_eq entry_eq same =>
    rcases lookup_insert_cases found with earlier | ⟨rfl, rfl⟩
    · exact .kept task earlier
    · exact .turned old _ present (phase_eq ▸ .closes fun absent => absent entry entry_eq same)
  | shuts _ carriedOut old present phase_eq =>
    rcases lookup_insert_cases found with earlier | ⟨rfl, rfl⟩
    · exact .kept task earlier
    · exact .turned old _ present
        (phase_eq ▸ .shuts carriedOut (List.mem_append_right _ (List.mem_singleton_self _)))

/-- An entry keeps its channel, or it has just been stored. -/
theorem Move.entry_before (found : after.cachedRelayConnections.lookup serverId = some cached) :
    (∃ entry, before.cachedRelayConnections.lookup serverId = some entry ∧
        cached.result = entry.result) ∨
      ∃ id call, before.calls.lookup id = some call ∧ call.phase = .created cached.result ∧
        call.server.serverId = serverId ∧
        after.calls.lookup id = some ⟨call.server, .returning cached.result⟩ := by
  cases move with
  | connects | proceeds | shutsStale | creates | disconnects | taskProceeds | shuts =>
    exact .inl ⟨cached, found, rfl⟩
  | drops | closes => exact .inl ⟨cached, (lookup_of_erase found).2, rfl⟩
  | discards =>
    obtain ⟨_, earlier⟩ := lookup_of_erase found
    rw [cancelJob_cached] at earlier
    exact .inl ⟨cached, earlier, rfl⟩
  | stores id call _ present phase_eq =>
    rcases lookup_insert_cases found with earlier | ⟨rfl, rfl⟩
    · exact .inl ⟨cached, earlier, rfl⟩
    · exact .inr ⟨id, call, present, phase_eq, rfl, AList.lookup_insert _⟩
  | reuses _ _ entry _ _ entry_eq | forces _ _ _ entry _ _ entry_eq
  | keeps _ _ _ entry _ _ entry_eq | schedules _ _ _ entry _ _ entry_eq =>
    rcases lookup_insert_cases found with earlier | ⟨rfl, rfl⟩
    · rw [cancelJob_cached] at earlier
      exact .inl ⟨cached, earlier, rfl⟩
    · exact .inl ⟨entry, entry_eq, rfl⟩

theorem called_before (member : channel ∈ after.shutdowns) : Retired before channel := by
  cases move with
  | connects | proceeds | drops | creates | stores | disconnects | taskProceeds | closes =>
    exact .called member
  | reuses id call entry | discards id call entry | forces _ _ _ entry | keeps _ _ _ entry
  | schedules _ _ _ entry =>
    apply Retired.called
    rw [← cancelJob_shutdowns before entry.shutdownJob]
    exact member
  | shutsStale id _ call result present phase_eq =>
    rcases List.mem_append.mp member with earlier | new
    · exact .called earlier
    · exact .dropping id call result present phase_eq (List.mem_singleton.mp new).symm
  | shuts id _ task present phase_eq =>
    rcases List.mem_append.mp member with earlier | new
    · exact .called earlier
    · exact .shutting id task present phase_eq (List.mem_singleton.mp new).symm

theorem Move.task_after (present : before.tasks.lookup id = some task) :
    ∃ later, after.tasks.lookup id = some later := by
  cases move with
  | connects | proceeds | drops | shutsStale | creates | stores => exact ⟨task, present⟩
  | reuses _ _ entry | discards _ _ entry =>
    exact ⟨_, (cancelJob_lookup before entry.shutdownJob id).trans (by rw [present]; rfl)⟩
  | disconnects | taskProceeds | forces | keeps | schedules | closes | shuts =>
    rw [← Option.isSome_iff_exists]
    simp only [setPhase, setCached, uncache, setTask, addTask, shutdownChannel, lookup_insert_eq,
      cancelJob_lookup, present]
    split_ifs <;> simp

end

/-- The channel of another server is not the channel of this entry. -/
theorem Owned.unseen {other : String} (owned : Owned state)
    (known : state.created.lookup channel = some other) (different : serverId ≠ other)
    (earlier : state.cachedRelayConnections.lookup serverId = some cached) :
    (channel == cached.result.channel) = false := by
  rw [beq_eq_false_iff_ne]
  rintro rfl
  have owner := (owned.cached serverId cached earlier).2
  rw [known] at owner
  exact different (Option.some.inj owner).symm

theorem owned_initial : Owned initial where
  calls id call found := by simp [initial] at found
  tasks id task found := by simp [initial] at found
  cached serverId cached found := by simp [initial] at found
  shutdowns channel member := by simp [initial] at member

theorem lookup_job_eq_none {job : Nat} {cancelled : Option Nat}
    (present : before.tasks.lookup id = some task)
    (fresh : before.tasks.lookup job = none) :
    (((before.cancelJob cancelled).setCached serverId cached).setTask id task
      .finished).tasks.lookup job = none := by
  have different : job ≠ id := by
    rintro rfl
    rw [fresh] at present
    cases present
  show AList.lookup job (AList.insert id _ (before.cancelJob cancelled).tasks) = none
  rw [AList.lookup_insert_ne different, cancelJob_lookup, fresh]
  rfl

theorem result_eq_of_found (owned : Owned before)
    (entry_eq : before.cachedRelayConnections.lookup task.result.serverId = some cached)
    (same : cached.result.channel = task.result.channel) : task.result = cached.result := by
  have named := (owned.cached _ cached entry_eq).1
  rcases task with ⟨⟨_, _⟩, _, _, _⟩
  rcases cached with ⟨⟨_, _⟩, _, _⟩
  dsimp only at named same ⊢
  rw [named, same]

/-- A task that releases a channel rewrites the entry of its server and nothing else. -/
theorem released_entry {forceClose : Bool} {next : TaskPhase} {count : Int} {job : Option Nat}
    {entry : CachedRelayConnection} (owned : Owned before)
    (present : before.tasks.lookup id = some task) (phase_eq : task.phase = .releasing forceClose)
    (same : entry.result.channel = task.result.channel) (ends : next = .closing ∨ next = .finished)
    (after_eq : after = ((before.cancelJob entry.shutdownJob).setCached task.result.serverId
      ⟨entry.result, count, job⟩).setTask id task next)
    (found : after.cachedRelayConnections.lookup serverId = some cached) :
    (before.cachedRelayConnections.lookup serverId = some cached ∧
        users after cached.result.channel = users before cached.result.channel) ∨
      (serverId = task.result.serverId ∧ cached = ⟨entry.result, count, job⟩ ∧
        users after entry.result.channel + 1 = users before entry.result.channel) := by
  have unreleased (channel : Nat) : Task.releases channel { task with phase := next } = false := by
    rcases ends with rfl | rfl <;> rfl
  have worked (channel : Nat) := users_worked before after channel entry.shutdownJob present
    (by rw [Task.releases, phase_eq]) (unreleased channel) (by rw [after_eq]; rfl)
    (by rw [after_eq]; rfl)
  rw [after_eq] at found
  rcases lookup_insert_split found with ⟨different, earlier⟩ | ⟨rfl, rfl⟩
  · rw [cancelJob_cached] at earlier
    refine .inl ⟨earlier, ?_⟩
    rw [← worked cached.result.channel,
      owned.unseen (owned.tasks id task present) different earlier]
    rfl
  · refine .inr ⟨rfl, rfl, ?_⟩
    rw [← worked entry.result.channel, same, beq_self_eq_true]
    rfl

variable (owned : Owned before) (move : Move before action after)

include owned move

theorem task_known (found : after.tasks.lookup id = some task) :
    before.created.lookup task.result.channel = some task.result.serverId := by
  cases move.task_before found with
  | kept _ present => exact owned.tasks id task present
  | cancelled old present | turned old _ present => exact owned.tasks id old present
  | called other call result _ _ _ present held =>
    have member : result ∈ call.phase.result? := by
      rcases held with held | held <;> simp [held, Phase.result?]
    exact (owned.calls other call present result member).1
  | launched other old _ present => exact owned.tasks other old present

theorem entry_known (found : after.cachedRelayConnections.lookup serverId = some cached) :
    cached.result.serverId = serverId ∧
      before.created.lookup cached.result.channel = some serverId := by
  rcases move.entry_before found with ⟨entry, entry_eq, same⟩ | ⟨id, call, present, created, rfl, _⟩
  · rw [same]
    exact owned.cached serverId entry entry_eq
  · obtain ⟨known, named⟩ := owned.calls id call present cached.result
      (by simp [created, Phase.result?])
    exact ⟨named, named ▸ known⟩

theorem shutdown_known (member : channel ∈ after.shutdowns) :
    ∃ serverId, before.created.lookup channel = some serverId := by
  cases called_before move member with
  | dropping id call result present phase_eq same =>
    subst same
    exact ⟨_, (owned.calls id call present result (by simp [phase_eq, Phase.result?])).1⟩
  | shutting id task present _ same =>
    subst same
    exact ⟨_, owned.tasks id task present⟩
  | called earlier => exact owned.shutdowns channel earlier

theorem owned_move : Owned after where
  calls id call found result member := by
    rcases move.call_before found with earlier | none | ⟨_, earlier, way⟩
    · obtain ⟨known, named⟩ := owned.calls id call earlier result member
      exact ⟨move.created_kept known, named⟩
    · rw [none] at member
      cases member
    · rcases way.result_of_next member with old | ⟨cached, cached_eq, rfl⟩ |
        ⟨_, _, _, made, rfl⟩
      · obtain ⟨known, named⟩ := owned.calls id _ earlier result old
        exact ⟨move.created_kept known, named⟩
      · obtain ⟨named, known⟩ := owned.cached _ cached cached_eq
        exact ⟨move.created_kept (known.trans (congrArg some named.symm)), named⟩
      · exact ⟨made, rfl⟩
  tasks id task found := move.created_kept (task_known owned move found)
  cached serverId cached found := by
    obtain ⟨named, known⟩ := entry_known owned move found
    exact ⟨named, move.created_kept known⟩
  shutdowns channel member := by
    obtain ⟨serverId, known⟩ := shutdown_known owned move member
    exact ⟨serverId, move.created_kept known⟩

theorem entry_origin (found : after.cachedRelayConnections.lookup serverId = some cached) :
    EntryOrigin before after action serverId cached := by
  have turned := @users_turned before after cached.result.channel
  have worked := @users_worked before after cached.result.channel
  cases move with
  | connects _ _ fresh _ entered =>
    refine .kept found (users_addCall _ fresh ?_)
    rcases entered with rfl | ⟨_, rfl⟩ <;> rfl
  | proceeds _ id call next present way =>
    exact .proceeds id call next found present way (turned none present rfl rfl rfl)
  | reuses id call entry present phase_eq entry_eq =>
    have count := turned entry.shutdownJob present phase_eq rfl rfl
    simp only [Phase.counts] at count
    rcases lookup_insert_split found with ⟨different, earlier⟩ | ⟨rfl, rfl⟩
    · rw [cancelJob_cached] at earlier
      rw [owned.unseen (owned.cached _ entry entry_eq).2 different earlier] at count
      exact .kept earlier count
    · rw [beq_self_eq_true] at count
      exact .reused id call entry rfl present rfl entry_eq rfl count
  | discards _ _ entry present phase_eq =>
    obtain ⟨_, earlier⟩ := lookup_of_erase found
    rw [cancelJob_cached] at earlier
    exact .kept earlier (turned entry.shutdownJob present phase_eq rfl rfl)
  | drops id call result present phase_eq =>
    obtain ⟨different, earlier⟩ := lookup_of_erase found
    obtain ⟨known, named⟩ := owned.calls id call present result
      (by simp [phase_eq, Phase.result?])
    have count := turned none present phase_eq rfl rfl
    simp only [Phase.counts, owned.unseen (named ▸ known) different earlier] at count
    exact .kept earlier count
  | shutsStale _ _ _ _ present phase_eq | creates _ _ _ present phase_eq =>
    exact .kept found (turned none present phase_eq rfl rfl)
  | stores id call result present phase_eq =>
    have count := turned none present phase_eq rfl rfl
    simp only [Phase.counts] at count
    rcases lookup_insert_split found with ⟨different, earlier⟩ | ⟨rfl, rfl⟩
    · obtain ⟨known, named⟩ := owned.calls id call present result
        (by simp [phase_eq, Phase.result?])
      rw [owned.unseen (named ▸ known) different earlier] at count
      exact .kept earlier count
    · rw [beq_self_eq_true] at count
      exact .stored id call result present phase_eq rfl count
  | disconnects id task forceClose call result present phase_eq fresh =>
    have absent : (before.setPhase id call (.disconnected result)).tasks.lookup task = none := fresh
    have count := @users_turned before (before.setPhase id call (.disconnected result))
      cached.result.channel none
    rcases phase_eq with holding | disconnected
    · exact .kept found ((users_addTask _ absent).trans (count present holding rfl rfl))
    · refine .repeated id task forceClose call result rfl found present disconnected ?_
      rw [users_addTask _ absent, Nat.add_right_cancel (count present disconnected rfl rfl)]
      exact Nat.le_add_right _ _
  | taskProceeds _ id task next present way =>
    exact .taskProceeds id task next found present way
      (worked none present rfl (way.releases_next _) rfl rfl)
  | forces id _ task entry present phase_eq entry_eq same =>
    rcases released_entry owned present phase_eq same (.inl rfl) rfl found with
      ⟨earlier, users_eq⟩ | ⟨rfl, rfl, _⟩
    · exact .kept earlier users_eq
    · exact .forced id task entry present phase_eq (result_eq_of_found owned entry_eq same) rfl
        (AList.lookup_insert _)
  | keeps _ _ _ entry present phase_eq entry_eq same used =>
    rcases released_entry owned present phase_eq same (.inr rfl) rfl found with
      ⟨earlier, users_eq⟩ | ⟨rfl, rfl, less⟩
    · exact .kept earlier users_eq
    · exact .released entry used entry_eq rfl less
  | schedules _ job _ entry present phase_eq entry_eq same unused fresh =>
    rcases released_entry owned present phase_eq same (.inr rfl) rfl found with
      ⟨earlier, users_eq⟩ | ⟨rfl, rfl, less⟩
    · exact .kept earlier ((users_addTask _ (lookup_job_eq_none present fresh)).trans users_eq)
    · refine .scheduled job entry unused entry_eq rfl ?_ ?_
      · rw [← result_eq_of_found owned entry_eq same]
        exact AList.lookup_insert _
      · rw [← less, users_addTask _ (lookup_job_eq_none present fresh)]
        rfl
  | closes _ task _ present phase_eq =>
    have unseen : task.releases cached.result.channel = false := by rw [Task.releases, phase_eq]
    exact .kept (lookup_of_erase found).2 (worked none present unseen rfl rfl rfl)
  | shuts _ _ task present phase_eq =>
    have unseen : task.releases cached.result.channel = false := by rw [Task.releases, phase_eq]
    exact .kept found (worked none present unseen rfl rfl rfl)

end HandControl.RelayConnections
