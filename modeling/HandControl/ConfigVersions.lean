import HandControl.CapabilityListing
import HandControl.ConfigReload

/-!
# Capabilities and the version they are listed with

A reload swaps the configuration under the write guard and increments the version after that.
`list_capabilities` holds a read guard from before it builds the registry until it loaded the
version. A step is one access to a shared variable.
-/

namespace HandControl.ConfigVersions

open CapabilityListing ConfigReload KeyedTable ServerConfiguration TransitionRuns

inductive WatcherPhase where
  | waiting
  | comparing (newConfig : ListedConfig)
  | swapping (newConfig : ListedConfig)
  -- holds the write guard
  | writing (newConfig : ListedConfig)
  | announcing
  | stamping (newVersion : Nat)
  | broadcasting (newVersion : Nat) (timestampMs : Int)
  | stopped

/-- Where the data of a reply come from: the number of swaps before the registry was built and
the number of increments before the version was loaded. No step reads them. -/
structure Origin where
  swaps : Nat
  announced : Nat
deriving DecidableEq

structure ListReply where
  capabilities : List ProtoCapability
  configVersion : Nat
  origin : Origin
deriving DecidableEq

inductive CallPhase where
  | listArrived
  | wanting
  -- the next three hold a read guard
  | building
  | loading (registry : CapabilityRegistry) (swaps : Nat)
  | listing (registry : CapabilityRegistry) (configVersion : Nat) (origin : Origin)
  | listed (reply : ListReply)
  | versionArrived
  | versionLoading
  | versionLoaded (configVersion : Nat)
  | versionReturned (configVersion lastUpdatedMs : Nat)
  | refused
  | failed (error : String)

def CallPhase.holdsRead : CallPhase → Bool
  | .building | .loading _ _ | .listing _ _ _ => true
  | _ => false

/-- `history` has every configuration that was in use, the current one last, and `announced`
counts the increments of the version. No step reads them. -/
structure ConfigServer where
  config : ListedConfig
  configVersion : Nat
  lastUpdate : Nat
  notifications : List ConfigUpdateNotification
  warnings : Nat
  watcher : WatcherPhase
  calls : Table Nat CallPhase
  history : List ListedConfig
  announced : Nat

def ConfigServer.started (config : ListedConfig) (lastUpdate : Nat) : ConfigServer where
  config := config
  configVersion := 1
  lastUpdate := lastUpdate
  notifications := []
  warnings := 0
  watcher := .waiting
  calls := ∅
  history := [config]
  announced := 0

namespace ConfigServer

def unread (server : ConfigServer) : Bool :=
  server.calls.values.all fun phase => !phase.holdsRead

def moveCall (server : ConfigServer) (number : Nat) (next : CallPhase) : ConfigServer :=
  { server with calls := server.calls.insert number next }

def betweenSwapAndIncrement (server : ConfigServer) : Prop :=
  match server.watcher with
  | .announcing => True
  | _ => False

/-- What the watcher shares, in the form of `ConfigReload`. -/
def toWatcherState (server : ConfigServer) : WatcherState where
  config := server.config.toConfig
  configVersion := server.configVersion
  lastUpdate := server.lastUpdate
  notifications := server.notifications
  warnings := server.warnings
  running :=
    match server.watcher with
    | .stopped => false
    | _ => true

end ConfigServer

def stepWatcher (server : ConfigServer) (clockMs : Int) : Option ConfigServer :=
  match server.watcher with
  | .comparing newConfig =>
    let warnings :=
      if configReloadAllowed server.config.toConfig newConfig.toConfig then server.warnings
      else server.warnings + 1
    some { server with warnings := warnings, watcher := .swapping newConfig }
  | .swapping newConfig =>
    if server.unread then some { server with watcher := .writing newConfig } else none
  | .writing newConfig =>
    some
      { server with
        config := newConfig
        watcher := .announcing
        history := server.history ++ [newConfig] }
  | .announcing =>
    let newVersion := (server.configVersion + 1) % 2 ^ 64
    some
      { server with
        configVersion := newVersion
        watcher := .stamping newVersion
        announced := server.announced + 1 }
  | .stamping newVersion =>
    if clockMs < 0 then some { server with watcher := .stopped }
    else
      let timestampMs := asI64 clockMs
      some
        { server with
          lastUpdate := asU64 timestampMs
          watcher := .broadcasting newVersion timestampMs }
  | .broadcasting newVersion timestampMs =>
    some
      { server with
        notifications := server.notifications ++ [⟨newVersion, timestampMs⟩]
        watcher := .waiting }
  | .waiting | .stopped => none

/-- What the environment contributes to a step of a call: whether the client is enrolled, and
the order in which the hash map is iterated. -/
structure CallInput where
  enrolled : Bool
  order : List ProtoCapability

def stepCall (server : ConfigServer) (number : Nat) (input : CallInput) : Option ConfigServer :=
  match server.calls.lookup number with
  | some .listArrived =>
    some (server.moveCall number (if input.enrolled then .wanting else .refused))
  | some .wanting =>
    match server.watcher with
    | .writing _ => none
    | _ => some (server.moveCall number .building)
  | some .building =>
    match fromConfig server.config with
    | .error _ => some (server.moveCall number (.failed "Failed to load capabilities"))
    | .ok registry =>
      some (server.moveCall number (.loading registry (server.history.length - 1)))
  | some (.loading registry swaps) =>
    some (server.moveCall number (.listing registry server.configVersion ⟨swaps, server.announced⟩))
  | some (.listing registry configVersion origin) =>
    if input.order.Perm ((listMetadata registry).map protoFromMetadata) then
      some (server.moveCall number (.listed ⟨input.order, configVersion, origin⟩))
    else none
  | some .versionArrived =>
    some (server.moveCall number (if input.enrolled then .versionLoading else .refused))
  | some .versionLoading =>
    some (server.moveCall number (.versionLoaded server.configVersion))
  | some (.versionLoaded configVersion) =>
    some (server.moveCall number (.versionReturned configVersion server.lastUpdate))
  | _ => none

inductive ConfigAction where
  /-- The debounce timer ticks after a change of the file, which may fail to load. -/
  | reload (loaded : Option ListedConfig)
  | watch (clockMs : Int)
  | listCapabilities (number : Nat)
  | getConfigVersion (number : Nat)
  | proceed (number : Nat) (input : CallInput)

def stepConfig (server : ConfigServer) : ConfigAction → Option ConfigServer
  | .reload loaded =>
    match server.watcher with
    | .waiting =>
      match loaded with
      | some newConfig => some { server with watcher := .comparing newConfig }
      | none => some server
    | _ => none
  | .watch clockMs => stepWatcher server clockMs
  | .listCapabilities number =>
    match server.calls.lookup number with
    | none => some (server.moveCall number .listArrived)
    | some _ => none
  | .getConfigVersion number =>
    match server.calls.lookup number with
    | none => some (server.moveCall number .versionArrived)
    | some _ => none
  | .proceed number input => stepCall server number input

/-- The steps of one reload. A clock before the epoch ends the watcher. -/
def reloadActions (newConfig : ListedConfig) (clockMs : Int) : List ConfigAction :=
  .reload (some newConfig) :: List.replicate (if clockMs < 0 then 5 else 6) (.watch clockMs)

/-- One reload with no call in between is the reload of the sequential model. -/
theorem uninterrupted_reload (server : ConfigServer) (newConfig : ListedConfig) (clockMs : Int)
    (waiting : server.watcher = .waiting) (unread : server.unread = true) :
    (runActions stepConfig server (reloadActions newConfig clockMs)).map
        ConfigServer.toWatcherState =
      some (installConfig server.toWatcherState newConfig.toConfig clockMs) := by
  have still_unread : ∀ other : ConfigServer, other.calls = server.calls →
      other.unread = true := by
    intro other calls_eq
    rw [ConfigServer.unread, calls_eq]
    exact unread
  by_cases before_epoch : clockMs < 0
  · simp [reloadActions, runActions, stepConfig, stepWatcher, ConfigServer.toWatcherState,
      installConfig, waiting, still_unread, before_epoch, List.replicate]
  · simp [reloadActions, runActions, stepConfig, stepWatcher, ConfigServer.toWatcherState,
      installConfig, waiting, still_unread, before_epoch, List.replicate]

inductive CallPasses (server : ConfigServer) : Option CallPhase → CallPhase → Prop where
  | outside (before next) (free : next.holdsRead = false)
      (unlisted : ∀ reply, next ≠ .listed reply) : CallPasses server before next
  | acquires (unlocked : ∀ newConfig, server.watcher ≠ .writing newConfig) :
      CallPasses server (some .wanting) .building
  | builds (registry) (built : fromConfig server.config = .ok registry) :
      CallPasses server (some .building) (.loading registry (server.history.length - 1))
  | loads (registry swaps) :
      CallPasses server (some (.loading registry swaps))
        (.listing registry server.configVersion ⟨swaps, server.announced⟩)
  | returns (registry configVersion origin order)
      (permuted : order.Perm ((listMetadata registry).map protoFromMetadata)) :
      CallPasses server (some (.listing registry configVersion origin))
        (.listed ⟨order, configVersion, origin⟩)

inductive WatcherPasses : WatcherPhase → WatcherPhase → Prop where
  | begins (newConfig) : WatcherPasses .waiting (.comparing newConfig)
  | compares (newConfig) : WatcherPasses (.comparing newConfig) (.swapping newConfig)
  | stops (newVersion) : WatcherPasses (.stamping newVersion) .stopped
  | stamps (newVersion timestampMs) :
      WatcherPasses (.stamping newVersion) (.broadcasting newVersion timestampMs)
  | broadcasts (newVersion timestampMs) :
      WatcherPasses (.broadcasting newVersion timestampMs) .waiting

inductive ConfigMove (server : ConfigServer) : ConfigServer → Prop where
  | stays : ConfigMove server server
  | passes (next lastUpdate notifications warnings) (passage : WatcherPasses server.watcher next) :
      ConfigMove server
        { server with
          lastUpdate := lastUpdate
          notifications := notifications
          warnings := warnings
          watcher := next }
  | locks (newConfig) (watcher_eq : server.watcher = .swapping newConfig)
      (unread : server.unread = true) :
      ConfigMove server { server with watcher := .writing newConfig }
  | swaps (newConfig) (watcher_eq : server.watcher = .writing newConfig) :
      ConfigMove server
        { server with
          config := newConfig
          watcher := .announcing
          history := server.history ++ [newConfig] }
  | announces (watcher_eq : server.watcher = .announcing) :
      ConfigMove server
        { server with
          configVersion := (server.configVersion + 1) % 2 ^ 64
          watcher := .stamping ((server.configVersion + 1) % 2 ^ 64)
          announced := server.announced + 1 }
  | moves (number next) (passage : CallPasses server (server.calls.lookup number) next) :
      ConfigMove server (server.moveCall number next)

variable {number : Nat} {phase : CallPhase} {before next : WatcherPhase}

section

variable {server after : ConfigServer}

theorem stepWatcher_move {clockMs : Int} (moved : stepWatcher server clockMs = some after) :
    ConfigMove server after := by
  unfold stepWatcher at moved
  split at moved
  case h_1 newConfig watcher_eq =>
    cases moved
    exact .passes _ _ _ _ (watcher_eq ▸ .compares newConfig)
  case h_2 newConfig watcher_eq =>
    split_ifs at moved with unread
    cases moved
    exact .locks newConfig watcher_eq unread
  case h_3 newConfig watcher_eq =>
    cases moved
    exact .swaps newConfig watcher_eq
  case h_4 watcher_eq =>
    cases moved
    exact .announces watcher_eq
  case h_5 newVersion watcher_eq =>
    split_ifs at moved
    all_goals cases moved
    · exact .passes _ _ _ _ (watcher_eq ▸ .stops newVersion)
    · exact .passes _ _ _ _ (watcher_eq ▸ .stamps newVersion _)
  case h_6 newVersion timestampMs watcher_eq =>
    cases moved
    exact .passes _ _ _ _ (watcher_eq ▸ .broadcasts newVersion timestampMs)
  all_goals cases moved

theorem stepCall_move {input : CallInput} (moved : stepCall server number input = some after) :
    ConfigMove server after := by
  unfold stepCall at moved
  split at moved
  case h_1 phase_eq =>
    cases moved
    apply ConfigMove.moves
    cases input.enrolled <;> exact .outside _ _ rfl (fun _ => CallPhase.noConfusion)
  case h_2 phase_eq =>
    split at moved
    · cases moved
    · rename_i unlocked
      cases moved
      exact .moves number _ (phase_eq ▸ .acquires unlocked)
  case h_3 phase_eq =>
    split at moved
    all_goals cases moved
    · exact .moves number _ (.outside _ _ rfl (fun _ => CallPhase.noConfusion))
    · rename_i registry built
      exact .moves number _ (phase_eq ▸ .builds registry built)
  case h_4 registry swaps phase_eq =>
    cases moved
    exact .moves number _ (phase_eq ▸ .loads registry swaps)
  case h_5 registry configVersion origin phase_eq =>
    split_ifs at moved with permuted
    cases moved
    exact .moves number _ (phase_eq ▸ .returns registry configVersion origin _ permuted)
  case h_6 phase_eq =>
    cases moved
    apply ConfigMove.moves
    cases input.enrolled <;> exact .outside _ _ rfl (fun _ => CallPhase.noConfusion)
  case h_7 phase_eq =>
    cases moved
    exact .moves number _ (.outside _ _ rfl (fun _ => CallPhase.noConfusion))
  case h_8 configVersion phase_eq =>
    cases moved
    exact .moves number _ (.outside _ _ rfl (fun _ => CallPhase.noConfusion))
  case h_9 => cases moved

theorem stepConfig_move {action : ConfigAction} (moved : stepConfig server action = some after) :
    ConfigMove server after := by
  cases action with
  | reload loaded =>
    cases loaded with
    | some newConfig =>
      simp only [stepConfig] at moved
      split at moved
      · rename_i watcher_eq
        cases moved
        exact .passes _ _ _ _ (watcher_eq ▸ .begins newConfig)
      · cases moved
    | none =>
      simp only [stepConfig] at moved
      split at moved
      · cases moved
        exact .stays
      · cases moved
  | watch => exact stepWatcher_move moved
  | listCapabilities number | getConfigVersion number =>
    rw [stepConfig] at moved
    split at moved
    · cases moved
      exact .moves number _ (.outside _ _ rfl (fun _ => CallPhase.noConfusion))
    · cases moved
  | proceed => exact stepCall_move moved

end

def versionAfter (announced : Nat) : Nat := (1 + announced) % 2 ^ 64

/-- What is known about a call from the state it left behind. -/
def CallSound (server : ConfigServer) : CallPhase → Prop
  | .loading registry swaps =>
    server.history.length = swaps + 1 ∧ fromConfig server.config = .ok registry
  | .listing registry configVersion origin =>
    server.history.length = origin.swaps + 1 ∧ fromConfig server.config = .ok registry ∧
      configVersion = versionAfter origin.announced ∧ origin.announced ≤ origin.swaps
  | .listed reply =>
    (∃ config, server.history[reply.origin.swaps]? = some config ∧
      reply.capabilities.Perm (capabilityList config)) ∧
      reply.configVersion = versionAfter reply.origin.announced ∧
      reply.origin.announced ≤ reply.origin.swaps
  | _ => True

structure VersionInvariant (server : ConfigServer) : Prop where
  current : server.history.getLast? = some server.config
  version : server.configVersion = versionAfter server.announced
  swaps_between : server.watcher = .announcing → server.history.length = server.announced + 2
  swaps_settled : server.watcher ≠ .announcing → server.history.length = server.announced + 1
  exclusive : ∀ newConfig, server.watcher = .writing newConfig →
    ∀ number phase, server.calls.lookup number = some phase → phase.holdsRead = false
  sound : ∀ number phase, server.calls.lookup number = some phase → CallSound server phase

section

variable {server after : ConfigServer}

theorem ConfigServer.holdsRead_of_unread (unread : server.unread = true)
    (phase_eq : server.calls.lookup number = some phase) : phase.holdsRead = false := by
  have member : phase ∈ server.calls.values :=
    List.mem_map.mpr ⟨⟨number, phase⟩, AList.mem_lookup_iff.mp phase_eq, rfl⟩
  simpa using List.all_eq_true.mp unread phase member

theorem CallSound.swap (sound : CallSound server phase) (free : phase.holdsRead = false)
    {later : List ListedConfig} (history_eq : after.history = server.history ++ later) :
    CallSound after phase := by
  cases phase with
  | loading | listing => cases free
  | listed =>
    obtain ⟨⟨config, config_eq, permuted⟩, version_eq, newer⟩ := sound
    have inside := (List.getElem?_eq_some_iff.mp config_eq).1
    refine ⟨⟨config, ?_, permuted⟩, version_eq, newer⟩
    rw [history_eq, List.getElem?_append_left inside]
    exact config_eq
  | _ => trivial

theorem CallSound.congr (sound : CallSound server phase) (config_eq : after.config = server.config)
    (history_eq : after.history = server.history) : CallSound after phase := by
  cases phase <;> simp_all [CallSound]

theorem WatcherPasses.not_announcing (passage : WatcherPasses before next) :
    before ≠ .announcing ∧ next ≠ .announcing := by
  cases passage <;> exact ⟨WatcherPhase.noConfusion, WatcherPhase.noConfusion⟩

theorem WatcherPasses.not_writing (passage : WatcherPasses before next) (newConfig : ListedConfig) :
    next ≠ .writing newConfig := by
  cases passage <;> exact WatcherPhase.noConfusion

theorem versionAfter_succ (announced : Nat) :
    (versionAfter announced + 1) % 2 ^ 64 = versionAfter (announced + 1) := by
  unfold versionAfter
  omega

theorem VersionInvariant.announced_lt (holds : VersionInvariant server) :
    server.announced < server.history.length := by
  by_cases between : server.watcher = .announcing
  · have := holds.swaps_between between
    omega
  · have := holds.swaps_settled between
    omega

theorem VersionInvariant.current_at (holds : VersionInvariant server) {swaps : Nat}
    (length_eq : server.history.length = swaps + 1) :
    server.history[swaps]? = some server.config := by
  rw [← holds.current, List.getLast?_eq_getElem?, length_eq]
  rfl

theorem CallPasses.sound {phase : Option CallPhase} {next : CallPhase}
    (passage : CallPasses server phase next) (holds : VersionInvariant server)
    (known : ∀ found ∈ phase, CallSound server found) : CallSound server next := by
  cases passage with
  | outside _ _ free unlisted =>
    cases next with
    | loading | listing => cases free
    | listed reply => exact absurd rfl (unlisted reply)
    | _ => trivial
  | acquires => trivial
  | builds _ built =>
    have some_config := holds.announced_lt
    exact ⟨by omega, built⟩
  | loads =>
    obtain ⟨length_eq, built⟩ := known _ rfl
    have not_older := holds.announced_lt
    rw [length_eq] at not_older
    exact ⟨length_eq, built, holds.version, Nat.le_of_lt_succ not_older⟩
  | returns _ _ _ _ permuted =>
    obtain ⟨length_eq, built, version_eq, newer⟩ := known _ rfl
    exact ⟨⟨server.config, holds.current_at length_eq,
      permuted.trans (listMetadata_fromConfig built)⟩, version_eq, newer⟩

theorem CallPasses.exclusive {phase : Option CallPhase} {next : CallPhase}
    (passage : CallPasses server phase next) {newConfig : ListedConfig}
    (writing : server.watcher = .writing newConfig)
    (free : ∀ found ∈ phase, found.holdsRead = false) : next.holdsRead = false := by
  cases passage with
  | outside _ _ free => exact free
  | acquires unlocked => exact absurd writing (unlocked newConfig)
  | builds | loads => cases free _ rfl
  | returns => rfl

theorem ConfigMove.invariant (move : ConfigMove server after) (holds : VersionInvariant server) :
    VersionInvariant after := by
  cases move with
  | stays => exact holds
  | passes _ _ _ _ passage =>
    constructor
    · exact holds.current
    · exact holds.version
    · intro between
      exact absurd between passage.not_announcing.2
    · intro _
      exact holds.swaps_settled passage.not_announcing.1
    · intro newConfig writing
      exact absurd writing (passage.not_writing newConfig)
    · intro number phase phase_eq
      exact (holds.sound number phase phase_eq).congr rfl rfl
  | locks _ watcher_eq unread =>
    constructor
    · exact holds.current
    · exact holds.version
    · intro between
      cases between
    · intro _
      apply holds.swaps_settled
      rw [watcher_eq]
      exact WatcherPhase.noConfusion
    · intro _ _ number phase phase_eq
      exact ConfigServer.holdsRead_of_unread unread phase_eq
    · intro number phase phase_eq
      exact (holds.sound number phase phase_eq).congr rfl rfl
  | swaps newConfig watcher_eq =>
    have length_eq := holds.swaps_settled (by rw [watcher_eq]; exact WatcherPhase.noConfusion)
    constructor
    · exact List.getLast?_concat
    · exact holds.version
    · intro _
      simp [length_eq]
    · intro settled
      exact absurd rfl settled
    · intro _ writing
      cases writing
    · intro number phase phase_eq
      exact (holds.sound number phase phase_eq).swap
        (holds.exclusive newConfig watcher_eq number phase phase_eq) rfl
  | announces watcher_eq =>
    constructor
    · exact holds.current
    · show (server.configVersion + 1) % 2 ^ 64 = _
      rw [holds.version, versionAfter_succ]
    · intro between
      cases between
    · intro _
      exact holds.swaps_between watcher_eq
    · intro _ writing
      cases writing
    · intro number phase phase_eq
      exact (holds.sound number phase phase_eq).congr rfl rfl
  | moves number _ passage =>
    constructor
    · exact holds.current
    · exact holds.version
    · exact holds.swaps_between
    · exact holds.swaps_settled
    · intro newConfig writing other phase phase_eq
      rcases Table.lookup_insert_cases phase_eq with earlier | ⟨_, rfl⟩
      · exact holds.exclusive newConfig writing other phase earlier
      · exact passage.exclusive writing (holds.exclusive newConfig writing number)
    · intro other phase phase_eq
      have phase_sound : CallSound server phase := by
        rcases Table.lookup_insert_cases phase_eq with earlier | ⟨_, rfl⟩
        · exact holds.sound other phase earlier
        · exact passage.sound holds (holds.sound number)
      exact phase_sound.congr rfl rfl

theorem invariant_of_run {config : ListedConfig} {lastUpdate : Nat}
    (run : Reaches stepConfig anyAction (ConfigServer.started config lastUpdate) server) :
    VersionInvariant server := by
  apply run.invariant
  · constructor
    · rfl
    · rfl
    · intro between
      cases between
    · intro _
      rfl
    · intro _ writing
      cases writing
    · intro number phase phase_eq
      cases phase_eq
  · intro before action after holds _ moved
    exact (stepConfig_move moved).invariant holds

end

/-- The version is the one of the reply, and it has not run through all values of its type
since. -/
def StillEquals (server : ConfigServer) (reply : ListReply) : Prop :=
  server.configVersion = reply.configVersion ∧
    server.announced - reply.origin.announced < 2 ^ 64

/-- The capabilities of a reply are those of a configuration in use when its version was announced
or later. While the version stays the same and no reload has swapped without incrementing, they are
those of the current configuration. -/
theorem listed_capabilities_as_new_as_version (config : ListedConfig) (lastUpdate : Nat)
    (server : ConfigServer)
    (run : Reaches stepConfig anyAction (ConfigServer.started config lastUpdate) server)
    (number : Nat) (reply : ListReply)
    (returned : server.calls.lookup number = some (.listed reply)) :
    (∃ source, server.history[reply.origin.swaps]? = some source ∧
      reply.capabilities.Perm (capabilityList source)) ∧
    reply.configVersion = versionAfter reply.origin.announced ∧
    reply.origin.announced ≤ reply.origin.swaps ∧
    (StillEquals server reply → ¬ server.betweenSwapAndIncrement →
      reply.capabilities.Perm (capabilityList server.config)) := by
  have holds := invariant_of_run run
  obtain ⟨⟨source, source_eq, permuted⟩, version_eq, newer⟩ := holds.sound number _ returned
  refine ⟨⟨source, source_eq, permuted⟩, version_eq, newer, ?_⟩
  rintro ⟨same_version, _⟩ settled
  have inside := (List.getElem?_eq_some_iff.mp source_eq).1
  have length_eq : server.history.length = server.announced + 1 := by
    apply holds.swaps_settled
    intro between
    apply settled
    rw [ConfigServer.betweenSwapAndIncrement, between]
    trivial
  have latest : reply.origin.swaps = server.announced := by
    rw [holds.version, version_eq, versionAfter, versionAfter] at same_version
    omega
  rw [latest, holds.current_at length_eq] at source_eq
  cases source_eq
  exact permuted

def configWith (ids : List String) : ListedConfig :=
  let listed : List ListedCapability := ids.map fun id =>
    { id := id, name := id, parameters := []
      definition := .shellScript ⟨"true", 30, ∅, true, .oneShot⟩
      description := none, tags := [], requiresConfirmation := false, privileged := false
      listedParameters := [], parameters_eq := rfl }
  { Document.empty.withDefaults false with
    capabilities := listed.map fun capability => capability.toNamedCapability
    listed := listed
    capabilities_eq := rfl }

/-- A client lists the capabilities between the swap and the increment of a reload, and
another one after it. -/
def reloadAndList : List ConfigAction :=
  let listAs (number : Nat) : List ConfigAction :=
    .listCapabilities number ::
      List.replicate 5 (.proceed number ⟨true, capabilityList (configWith ["lock", "mute"])⟩)
  (reloadActions (configWith ["mute", "lock"]) 2000).take 4 ++ listAs 0 ++
    (reloadActions (configWith ["mute", "lock"]) 2000).drop 4 ++ listAs 1

def replyOf (server : ConfigServer) (number : Nat) : Option ListReply :=
  match server.calls.lookup number with
  | some (.listed reply) => some reply
  | _ => none

theorem replyOf_eq_some {server : ConfigServer} {reply : ListReply}
    (replied : replyOf server number = some reply) :
    server.calls.lookup number = some (.listed reply) := by
  unfold replyOf at replied
  split at replied
  · rename_i found
    cases replied
    exact found
  · cases replied

theorem second_reply_is_current : ∃ server first second,
    Reaches stepConfig anyAction (ConfigServer.started (configWith ["mute"]) 1000) server ∧
      server.calls.lookup 0 = some (.listed first) ∧ first.configVersion = 1 ∧
      first.origin.swaps = 1 ∧
      server.calls.lookup 1 = some (.listed second) ∧ second.configVersion = 2 ∧
      first.origin.announced ≤ first.origin.swaps ∧
      second.capabilities.Perm (capabilityList server.config) := by
  obtain ⟨server, run, ⟨first, first_eq, first_version, first_swaps⟩,
      ⟨second, second_eq, second_version, still_equals⟩, _⟩ :
      ∃ server, Reaches stepConfig anyAction (ConfigServer.started (configWith ["mute"]) 1000) server ∧
        (∃ first ∈ replyOf server 0, first.configVersion = 1 ∧ first.origin.swaps = 1) ∧
        (∃ second ∈ replyOf server 1, second.configVersion = 2 ∧
          server.configVersion = second.configVersion ∧
            server.announced - second.origin.announced < 2 ^ 64) ∧
        ¬ (server.watcher matches .announcing) = true :=
    reaches_of_evaluated reloadAndList (by decide +kernel)
  have first_facts := listed_capabilities_as_new_as_version (configWith ["mute"]) 1000 server
    run 0 first (replyOf_eq_some first_eq)
  have second_facts := listed_capabilities_as_new_as_version (configWith ["mute"]) 1000 server
    run 1 second (replyOf_eq_some second_eq)
  refine ⟨server, first, second, run, replyOf_eq_some first_eq, first_version, first_swaps,
    replyOf_eq_some second_eq, second_version, first_facts.2.2.1,
    second_facts.2.2.2 still_equals ?_⟩
  intro between
  unfold ConfigServer.betweenSwapAndIncrement at between
  split at between
  · simp_all
  · exact between

end HandControl.ConfigVersions
