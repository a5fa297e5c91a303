import HandControl.LockOrder
import HandControl.TransitionRuns

/-!
# The locks of enrollment and of the reload

The enrollment calls hold a read guard of the configuration to their end. `generate_relay_info`
takes a second one, in `enroll` and in `generate_enrollment_qr` while the first is alive. The reload
takes the write guard. What the branches depend on is left out.
-/

namespace HandControl.ConfigLocking

open LockOrder LockPrograms TransitionRuns

inductive ServerLock where
  | config
  | clientStore
  | tokens
  | requests
deriving DecidableEq

abbrev ServerProgram := Program ServerLock

def readConfig (rest : ServerProgram) : ServerProgram := .acquire .shared .config rest

def withMutex (mutex : ServerLock) (rest : ServerProgram) : ServerProgram :=
  .acquire .exclusive mutex (.release mutex rest)

def generateRelayInfo (rest : ServerProgram) : ServerProgram :=
  readConfig (.release .config rest)

def dropConfig : ServerProgram := .release .config .done

def enroll : ServerProgram :=
  readConfig <|
  -- The enrollment by QR code is disabled.
  .choose dropConfig <|
  withMutex .tokens <|
  -- The token is refused, or there is no certificate.
  .choose dropConfig <|
  .acquire .exclusive .clientStore <|
  -- The client cannot be stored.
  .choose (.release .clientStore dropConfig) <|
  generateRelayInfo <|
  .release .clientStore dropConfig

def generateEnrollmentQr : ServerProgram :=
  readConfig <|
  -- The enrollment by QR code is disabled.
  .choose dropConfig <|
  withMutex .tokens <|
  -- No token could be made.
  .choose dropConfig <|
  generateRelayInfo dropConfig

def requestPairing : ServerProgram :=
  readConfig <|
  -- Approval is disabled, the certificate is missing, or the codes differ.
  .choose dropConfig <|
  withMutex .requests dropConfig

def checkPairingStatus : ServerProgram :=
  withMutex .requests <|
  -- Only an approved request needs the relay.
  .choose .done <|
  generateRelayInfo .done

def reloadConfig : ServerProgram :=
  -- The file cannot be loaded.
  .choose .done <|
  readConfig <| .release .config <|
  .acquire .exclusive .config <| .release .config .done

inductive ServerCall where
  | enroll
  | generateEnrollmentQr
  | requestPairing
  | checkPairingStatus
  | reloadConfig

def ServerCall.program : ServerCall → ServerProgram
  | .enroll => ConfigLocking.enroll
  | .generateEnrollmentQr => ConfigLocking.generateEnrollmentQr
  | .requestPairing => ConfigLocking.requestPairing
  | .checkPairingStatus => ConfigLocking.checkPairingStatus
  | .reloadConfig => ConfigLocking.reloadConfig

inductive ServerAction where
  | begin (number : Nat) (call : ServerCall)
  | proceed (action : ThreadAction)

def stepServer (threads : Threads ServerLock) : ServerAction → Option (Threads ServerLock)
  | .begin number call => threads.start number call.program
  | .proceed action => stepThreads threads action

/-- The reload asks for the write guard only while no call that holds a read guard has a
second read ahead. -/
def ReloadsCalmly (threads : Threads ServerLock) : ServerAction → Prop
  | .begin _ _ => True
  | .proceed action => QueuesCalmly threads action

def lockRank : ServerLock → Nat
  | .config => 0
  | .clientStore => 1
  | .tokens => 1
  | .requests => 1

theorem lockRank_le (lock : ServerLock) : lockRank lock ≤ 1 := by
  cases lock <;> decide

theorem program_ordered (call : ServerCall) : isOrdered lockRank [] call.program = true := by
  cases call <;> decide

theorem lockInvariant_of_reaches {threads : Threads ServerLock}
    (run : Reaches stepServer ReloadsCalmly Threads.empty threads) :
    LockInvariant lockRank threads := by
  apply run.invariant (LockInvariant.empty lockRank)
  intro before action after invariant calmly moved
  cases action with
  | begin _ call => exact invariant.start (program_ordered call) moved
  | proceed => exact invariant.step calmly moved

/-- In every run in which reloads queue calmly, no set of calls and reloads is deadlocked. -/
theorem enrollment_and_reload_never_deadlock {threads : Threads ServerLock}
    (run : Reaches stepServer ReloadsCalmly Threads.empty threads) (members : Set Nat) :
    ¬ Deadlocked threads members :=
  (lockInvariant_of_reaches run).not_deadlocked lockRank_le members

instance (threads : Threads ServerLock) (action : ServerAction) :
    Decidable (ReloadsCalmly threads action) := by
  cases action <;> unfold ReloadsCalmly <;> infer_instance

def reloadingActions : List ServerAction :=
  [.begin 0 .reloadConfig, .proceed (.branch 0 false), .proceed (.lock 0), .proceed (.unlock 0)]

def waits (numbers : List Nat) (threads : Threads ServerLock) :
    List (Option (Access × ServerLock)) :=
  numbers.map fun number => (threads.table.lookup number).bind Thread.waitingFor

/-- A reload queues behind a pairing request and an enrollment behind the reload. All of
them go on when the pairing request returns. -/
theorem reload_waits_for_pairing_request :
    ∃ threads, Reaches stepServer ReloadsCalmly Threads.empty threads ∧
      waits [0, 1, 2] threads =
        [some (.exclusive, .config), none, some (.shared, .config)] ∧
      ∀ members, ¬ Deadlocked threads members := by
  obtain ⟨threads, run, waiting⟩ : ∃ threads, Reaches stepServer ReloadsCalmly Threads.empty threads ∧
      waits [0, 1, 2] threads = [some (.exclusive, .config), none, some (.shared, .config)] :=
    reaches_of_evaluated
      (reloadingActions ++ [.begin 1 .requestPairing, .proceed (.lock 1), .proceed (.lock 0),
        .begin 2 .enroll, .proceed (.lock 2)]) (by decide +kernel)
  exact ⟨threads, run, waiting, enrollment_and_reload_never_deadlock run⟩

def enrollingActions : List ServerAction :=
  [.begin 1 .enroll, .proceed (.lock 1), .proceed (.branch 1 false), .proceed (.lock 1),
    .proceed (.unlock 1), .proceed (.branch 1 false), .proceed (.lock 1),
    .proceed (.branch 1 false)]

/-- The second read of the enrollment waits for the reload, and the reload for the first
read. -/
theorem enroll_and_reload_deadlock :
    ∃ threads reload enrollment, Reaches stepServer anyAction Threads.empty threads ∧
      threads.table.lookup 0 = some reload ∧ threads.table.lookup 1 = some enrollment ∧
      Blocks enrollment reload ∧ Blocks reload enrollment ∧ Deadlocked threads {0, 1} := by
  let reload : Thread ServerLock :=
    ⟨.acquire .exclusive .config (.release .config .done), [], some 0⟩
  let enrollment : Thread ServerLock :=
    ⟨generateRelayInfo (.release .clientStore dropConfig),
      [(.exclusive, .clientStore), (.shared, .config)], some 1⟩
  obtain ⟨threads, run, reload_eq, enrollment_eq⟩ :
      ∃ threads, Reaches stepServer anyAction Threads.empty threads ∧
        threads.table.lookup 0 = some reload ∧ threads.table.lookup 1 = some enrollment :=
    reaches_of_evaluated
      (enrollingActions ++ reloadingActions ++ [.proceed (.lock 0), .proceed (.lock 1)])
      (by decide +kernel)
  have reload_waits : Blocks enrollment reload :=
    ⟨.exclusive, .config, rfl, Or.inl ⟨.shared, by decide⟩⟩
  have enrollment_waits : Blocks reload enrollment :=
    ⟨.shared, .config, rfl, Or.inr ⟨rfl, Or.inl rfl⟩⟩
  have deadlocked : Deadlocked threads {0, 1} := by
    constructor
    · exact ⟨0, by simp⟩
    · rintro number (zero | one)
      · subst zero
        exact ⟨reload, reload_eq, 1, by simp, enrollment, enrollment_eq, reload_waits⟩
      · cases one
        exact ⟨enrollment, enrollment_eq, 0, by simp, reload, reload_eq, enrollment_waits⟩
  exact ⟨threads, reload, enrollment, run, reload_eq, enrollment_eq, reload_waits,
    enrollment_waits, deadlocked⟩

end HandControl.ConfigLocking
