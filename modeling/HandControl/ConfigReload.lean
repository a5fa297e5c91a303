import HandControl.ConfigValidation
import HandControl.TransitionRuns

/-!
# Reloading the configuration

The server validates its configuration when it starts. A watcher loads the file again after every
change and replaces the running configuration without validating it, so that one stays valid exactly
as long as the watcher never meets a file that loads and is invalid.
-/

namespace HandControl.ConfigReload

open ConfigValidation ServerConfiguration TransitionRuns

structure ConfigUpdateNotification where
  version : Nat
  timestampMs : Int
deriving DecidableEq

/-- What the watcher shares with the service. `running` is the watcher's own task, and
`warnings` counts the warnings about changes that need a restart. -/
structure WatcherState where
  config : Config
  configVersion : Nat
  lastUpdate : Nat
  notifications : List ConfigUpdateNotification
  warnings : Nat
  running : Bool

/-- The file as it is read, and the system clock in milliseconds since the epoch. -/
structure Reading extends ConfigFile where
  clockMs : Int

def asI64 (value : Int) : Int := value.bmod (2 ^ 64)

def asU64 (value : Int) : Nat := (value % 2 ^ 64).toNat

inductive StartError where
  | load (error : LoadError)
  | validation (message : String)
  | clockBeforeEpoch

def startHandcontrolServer (platform : Platform) (crate : RegexCrate) (reading : Reading) :
    Except StartError WatcherState :=
  match loadConfig platform reading.toConfigFile with
  | .error error => .error (.load error)
  | .ok config =>
    match validateConfig crate config with
    | .error message => .error (.validation message)
    | .ok () =>
      if reading.clockMs < 0 then .error .clockBeforeEpoch
      else
        .ok
          { config := config
            configVersion := 1
            lastUpdate := asU64 reading.clockMs
            notifications := []
            warnings := 0
            running := true }

def configReloadAllowed (old new : Config) : Bool :=
  let serverChanged :=
    old.server.port != new.server.port ||
      old.server.bindAddress != new.server.bindAddress ||
      old.server.mdnsServiceName != new.server.mdnsServiceName ||
      old.server.mdnsInstanceName != new.server.mdnsInstanceName
  let securityChanged :=
    old.security.certPath != new.security.certPath ||
      old.security.keyPath != new.security.keyPath ||
      old.security.authorizedClientsDir != new.security.authorizedClientsDir ||
      old.security.enrollmentTokenTtl != new.security.enrollmentTokenTtl ||
      old.security.enrollment != new.security.enrollment
  !serverChanged && !securityChanged

/-- The part of a reload after the file is loaded. A clock before the epoch ends the task
after the swap. -/
def installConfig (state : WatcherState) (newConfig : Config) (clockMs : Int) : WatcherState :=
  let warnings :=
    if configReloadAllowed state.config newConfig then state.warnings else state.warnings + 1
  let newVersion := (state.configVersion + 1) % 2 ^ 64
  let swapped :=
    { state with config := newConfig, configVersion := newVersion, warnings := warnings }
  if clockMs < 0 then { swapped with running := false }
  else
    let timestampMs := asI64 clockMs
    { swapped with
      lastUpdate := asU64 timestampMs
      notifications := state.notifications ++ [⟨newVersion, timestampMs⟩] }

/-- A watcher that has ended does nothing. -/
def reloadConfig (platform : Platform) (state : WatcherState) (reading : Reading) :
    WatcherState :=
  if state.running = false then state
  else
    match loadConfig platform reading.toConfigFile with
    | .error _ => state
    | .ok newConfig => installConfig state newConfig reading.clockMs

def seenReadings (platform : Platform) : List Reading → List Reading
  | [] => []
  | reading :: rest =>
    match loadConfig platform reading.toConfigFile with
    | .error _ => reading :: seenReadings platform rest
    | .ok _ =>
      if reading.clockMs < 0 then [reading] else reading :: seenReadings platform rest

variable {reading : Reading} {state : WatcherState} {clockMs : Int}

section

variable (platform : Platform) (crate : RegexCrate)

def Rejected (reading : Reading) : Prop :=
  ∀ config, loadConfig platform reading.toConfigFile = .ok config →
    validateConfig crate config ≠ .ok ()

def LoadsValid (reading : Reading) : Prop :=
  ∀ config, loadConfig platform reading.toConfigFile = .ok config →
    validateConfig crate config = .ok ()

/-- The running configuration is valid, and a rejected file has changed nothing. -/
structure AllOrNothing (before : WatcherState) (reading : Reading) (after : WatcherState) :
    Prop where
  valid : validateConfig crate after.config = .ok ()
  config : Rejected platform crate reading → after.config = before.config
  configVersion : Rejected platform crate reading → after.configVersion = before.configVersion
  lastUpdate : Rejected platform crate reading → after.lastUpdate = before.lastUpdate
  notifications : Rejected platform crate reading → after.notifications = before.notifications

variable {platform crate}

theorem startHandcontrolServer_ok {start : WatcherState}
    (started : startHandcontrolServer platform crate reading = .ok start) :
    validateConfig crate start.config = .ok () ∧ start.running = true := by
  unfold startHandcontrolServer at started
  split at started
  · cases started
  · split at started
    · cases started
    · rename_i accepted
      split at started
      · cases started
      · cases started
        exact ⟨accepted, rfl⟩

theorem reloadConfig_of_stopped (stopped : state.running = false) (reading : Reading) :
    reloadConfig platform state reading = state := by
  simp [reloadConfig, stopped]

theorem reloadConfig_of_error {error : LoadError}
    (failed : loadConfig platform reading.toConfigFile = .error error) :
    reloadConfig platform state reading = state := by
  simp [reloadConfig, failed]

theorem reloadConfig_of_ok {config : Config} (running : state.running = true)
    (loaded : loadConfig platform reading.toConfigFile = .ok config) :
    reloadConfig platform state reading = installConfig state config reading.clockMs := by
  simp [reloadConfig, running, loaded]

@[simp] theorem installConfig_config (state : WatcherState) (newConfig : Config)
    (clockMs : Int) : (installConfig state newConfig clockMs).config = newConfig := by
  unfold installConfig
  by_cases before_epoch : clockMs < 0
  · simp [before_epoch]
  · simp [before_epoch]

theorem installConfig_running_of_neg (before_epoch : clockMs < 0) (state : WatcherState)
    (newConfig : Config) : (installConfig state newConfig clockMs).running = false := by
  simp [installConfig, before_epoch]

theorem installConfig_running_of_nonneg (since_epoch : ¬ clockMs < 0) (state : WatcherState)
    (newConfig : Config) : (installConfig state newConfig clockMs).running = state.running := by
  simp [installConfig, since_epoch]

theorem AllOrNothing.of_unchanged (reading : Reading)
    (valid : validateConfig crate state.config = .ok ()) :
    AllOrNothing platform crate state reading state :=
  ⟨valid, fun _ => rfl, fun _ => rfl, fun _ => rfl, fun _ => rfl⟩

theorem reloadConfig_allOrNothing_iff (reading : Reading) (running : state.running = true)
    (valid : validateConfig crate state.config = .ok ()) :
    AllOrNothing platform crate state reading (reloadConfig platform state reading) ↔
      LoadsValid platform crate reading := by
  cases loaded : loadConfig platform reading.toConfigFile with
  | error =>
    rw [reloadConfig_of_error loaded]
    apply iff_of_true
    · exact .of_unchanged reading valid
    · intro config loads
      simp [loaded] at loads
  | ok config =>
    rw [reloadConfig_of_ok running loaded]
    constructor
    · intro kept other loads
      rw [loaded] at loads
      cases loads
      simpa using kept.valid
    · intro loads_valid
      have accepted : ¬ Rejected platform crate reading := fun rejected =>
        rejected config loaded (loads_valid config loaded)
      have valid_now : validateConfig crate
          (installConfig state config reading.clockMs).config = .ok () := by
        simpa using loads_valid config loaded
      exact ⟨valid_now, fun rejected => absurd rejected accepted,
        fun rejected => absurd rejected accepted, fun rejected => absurd rejected accepted,
        fun rejected => absurd rejected accepted⟩

theorem throughout_of_stopped (readings : List Reading) (stopped : state.running = false)
    (valid : validateConfig crate state.config = .ok ()) :
    Throughout (reloadConfig platform) (AllOrNothing platform crate) state readings := by
  induction readings with
  | nil => trivial
  | cons reading rest ih =>
    rw [Throughout, reloadConfig_of_stopped stopped]
    exact ⟨.of_unchanged reading valid, ih⟩

theorem throughout_iff (readings : List Reading) (running : state.running = true)
    (valid : validateConfig crate state.config = .ok ()) :
    Throughout (reloadConfig platform) (AllOrNothing platform crate) state readings ↔
      ∀ reading ∈ seenReadings platform readings, LoadsValid platform crate reading := by
  induction readings generalizing state with
  | nil => simp [Throughout, seenReadings]
  | cons reading rest ih =>
    rw [Throughout, reloadConfig_allOrNothing_iff reading running valid, seenReadings]
    cases loaded : loadConfig platform reading.toConfigFile with
    | error =>
      rw [reloadConfig_of_error loaded, ih running valid]
      simp
    | ok config =>
      -- The rest of the run starts from a valid configuration if this step was right.
      rw [reloadConfig_of_ok running loaded]
      have valid_next (loads_valid : LoadsValid platform crate reading) :
          validateConfig crate (installConfig state config reading.clockMs).config = .ok () := by
        simpa using loads_valid config loaded
      split_ifs with before_epoch
      · have stopped := installConfig_running_of_neg before_epoch state config
        simp only [List.mem_singleton, forall_eq, and_iff_left_iff_imp]
        intro loads_valid
        exact throughout_of_stopped rest stopped (valid_next loads_valid)
      · have continues := installConfig_running_of_nonneg before_epoch state config
        simp only [List.forall_mem_cons]
        apply and_congr_right
        intro loads_valid
        exact ih (continues.trans running) (valid_next loads_valid)

/-- From the start of the server on, the running configuration is valid and rejected files
change nothing, exactly if every file that the watcher could load was valid. -/
theorem reload_all_or_nothing_iff (platform : Platform) (crate : RegexCrate)
    (first : Reading) (start : WatcherState)
    (started : startHandcontrolServer platform crate first = .ok start)
    (readings : List Reading) :
    Throughout (reloadConfig platform) (AllOrNothing platform crate) start readings ↔
      ∀ reading ∈ seenReadings platform readings, LoadsValid platform crate reading := by
  rcases startHandcontrolServer_ok started with ⟨valid, running⟩
  exact throughout_iff readings running valid

end

def plainText : String := "[server]\n[security]\n"

def portZeroText : String := "[server]\nport = 0\n[security]\n"

def samplePlatform : Platform where
  parse content :=
    if content = plainText then some Document.empty
    else if content = portZeroText then
      some { Document.empty with server := { Document.empty.server with port := some 0 } }
    else none
  windows := false
  join home rest := home ++ "/" ++ rest

def sampleCrate : RegexCrate where
  compileError _ := none
  isWord symbol := symbol.isAlphanum || symbol == '_'
  brace_not_word := by decide

def readAt (clockMs : Int) (content : String) : Reading :=
  { content := some content, home := some "/home/user", clockMs := clockMs }

def plainStart : WatcherState where
  config := Document.empty.withDefaults false
  configVersion := 1
  lastUpdate := 1000
  notifications := []
  warnings := 0
  running := true

theorem plain_file_loads (clockMs : Int) :
    loadConfig samplePlatform (readAt clockMs plainText).toConfigFile =
      .ok (Document.empty.withDefaults false) := by
  rfl

theorem plain_file_starts :
    startHandcontrolServer samplePlatform sampleCrate (readAt 1000 plainText) =
      .ok plainStart := by
  rfl

theorem broken_file_ignored :
    startHandcontrolServer samplePlatform sampleCrate (readAt 1000 plainText) =
        .ok plainStart ∧
      Throughout (reloadConfig samplePlatform) (AllOrNothing samplePlatform sampleCrate)
        plainStart [readAt 2000 "[server", readAt 3000 plainText] := by
  refine ⟨plain_file_starts,
    (reload_all_or_nothing_iff samplePlatform sampleCrate _ plainStart plain_file_starts
      _).mpr ?_⟩
  have valid := (validateConfig_eq_ok_iff sampleCrate _).mpr (defaults_valid sampleCrate false)
  intro reading seen config loaded
  have cases_of_seen : reading = readAt 2000 "[server" ∨ reading = readAt 3000 plainText := by
    simpa [seenReadings, loadConfig, samplePlatform, readAt, plainText, portZeroText,
      expandPaths] using seen
  rcases cases_of_seen with broken | plain
  · subst broken
    cases loaded
  · subst plain
    rw [plain_file_loads] at loaded
    cases loaded
    exact valid

/-- A file that parses but sets the port to zero replaces the running configuration. The
version, the time of the last update and the notifications change with it. -/
theorem invalid_file_installed :
    startHandcontrolServer samplePlatform sampleCrate (readAt 1000 plainText) =
        .ok plainStart ∧
      Rejected samplePlatform sampleCrate (readAt 2000 portZeroText) ∧
      validateConfig sampleCrate
          (reloadConfig samplePlatform plainStart (readAt 2000 portZeroText)).config =
        .error "Server port cannot be 0" ∧
      (reloadConfig samplePlatform plainStart (readAt 2000 portZeroText)).configVersion = 2 ∧
      (reloadConfig samplePlatform plainStart (readAt 2000 portZeroText)).lastUpdate = 2000 ∧
      (reloadConfig samplePlatform plainStart (readAt 2000 portZeroText)).notifications =
        [⟨2, 2000⟩] ∧
      ¬ Throughout (reloadConfig samplePlatform) (AllOrNothing samplePlatform sampleCrate)
        plainStart [readAt 2000 portZeroText] := by
  have refused : validateConfig sampleCrate
      (reloadConfig samplePlatform plainStart (readAt 2000 portZeroText)).config =
        .error "Server port cannot be 0" := by
    rfl
  have rejected : Rejected samplePlatform sampleCrate (readAt 2000 portZeroText) := by
    intro config loaded
    cases loaded
    intro accepted
    cases accepted
  have broken : ¬ Throughout (reloadConfig samplePlatform)
      (AllOrNothing samplePlatform sampleCrate) plainStart [readAt 2000 portZeroText] := by
    intro kept
    have accepted := kept.1.valid
    rw [refused] at accepted
    cases accepted
  exact ⟨plain_file_starts, rejected, refused, by decide, by decide, by decide, broken⟩

end HandControl.ConfigReload
