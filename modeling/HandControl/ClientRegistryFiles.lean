import HandControl.EnrolledClients
import HandControl.KeyedTable
import HandControl.TransitionRuns

/-!
# The store of clients and its directory

Each client has a certificate file, and the registry is one file that every operation writes
again. The registry in memory changes first, so a failed write leaves the two apart.
-/

namespace HandControl.ClientRegistryFiles

open ByteEncoding EnrolledClients KeyedTable TransitionRuns

/-- How the registry is written as text. What is written is read back. -/
structure RegistryFormat (Content : Type) where
  toStringPretty : List ClientMetadata → Content
  fromStr : Content → Except String (List ClientMetadata)
  fromStr_toStringPretty : ∀ registry, fromStr (toStringPretty registry) = .ok registry

/-- The files of the clients directory: `metadata.toml`, and one `.crt` file for each client. -/
structure ClientsDirectory (Content : Type) where
  metadata : Option Content
  certificates : Table String Bytes

structure OpenedStore (Content : Type) where
  clientsDir : String
  store : ClientStore
  directory : ClientsDirectory Content

section

variable {Content : Type}

def certPath (clientsDir clientId : String) : String := s!"{clientsDir}/{clientId}.crt"

def metadataPath (clientsDir : String) : String := s!"{clientsDir}/metadata.toml"

def loadRegistry (format : RegistryFormat Content) (clientsDir : String) (content : Content) :
    Except String (List ClientMetadata) :=
  (format.fromStr content).mapError fun _ =>
    s!"Failed to parse metadata file: {metadataPath clientsDir}"

def openStore (format : RegistryFormat Content) (clientsDir : String)
    (directory : ClientsDirectory Content) : Except String (OpenedStore Content) :=
  let registry := match directory.metadata with
    | some content => loadRegistry format clientsDir content
    | none => .ok []
  registry.map fun registry => ⟨clientsDir, ⟨registry⟩, directory⟩

/-- A failed write leaves the file as it was. -/
def saveRegistry (format : RegistryFormat Content) (opened : OpenedStore Content)
    (write : Except String Unit) : OpenedStore Content × Except String Unit :=
  match write with
  | .error _ => (opened, .error s!"Failed to write metadata file: {metadataPath opened.clientsDir}")
  | .ok () =>
    ({ opened with
        directory := { opened.directory with
          metadata := some (format.toStringPretty opened.store.registry) } }, .ok ())

def pushClient (opened : OpenedStore Content) (certDer : Bytes) (metadata : ClientMetadata) :
    OpenedStore Content :=
  { opened with
    store := ⟨opened.store.registry ++ [metadata]⟩
    directory := { opened.directory with
      certificates := opened.directory.certificates.insert metadata.id certDer } }

def addClient (format : RegistryFormat Content) (sha256 : Bytes → Digest)
    (opened : OpenedStore Content) (certDer : Bytes) (deviceName : String) (ip : Option String)
    (inputs : ClientStore.AddClientInputs) : OpenedStore Content × Except String String :=
  match inputs.certificateWrite with
  | .error _ =>
    (opened, .error
      s!"Failed to write client certificate: {certPath opened.clientsDir inputs.clientId}")
  | .ok () =>
    let metadata := ClientStore.newMetadata sha256 certDer deviceName ip inputs
    let (saved, result) :=
      saveRegistry format (pushClient opened certDer metadata) inputs.registrySave
    (saved, result.map fun _ => inputs.clientId)

def retainOthers (opened : OpenedStore Content) (clientId : String) : OpenedStore Content :=
  { opened with store := ⟨opened.store.registry.filter fun client => client.id ≠ clientId⟩ }

def dropCertificate (opened : OpenedStore Content) (clientId : String) : OpenedStore Content :=
  { opened with
    directory := { opened.directory with
      certificates := opened.directory.certificates.erase clientId } }

/-- `removeFile` and `registryWrite` are the outcomes of the two file operations. -/
def removeClient (format : RegistryFormat Content) (opened : OpenedStore Content)
    (clientId : String) (removeFile registryWrite : Except String Unit) :
    OpenedStore Content × Except String Unit :=
  let retained := retainOthers opened clientId
  if retained.store.registry.length = opened.store.registry.length then
    (retained, .error s!"Client not found: {clientId}")
  else if (opened.directory.certificates.lookup clientId).isSome then
    match removeFile with
    | .error _ =>
      (retained, .error
        s!"Failed to remove certificate: {certPath opened.clientsDir clientId}")
    | .ok () => saveRegistry format (dropCertificate retained clientId) registryWrite
  else saveRegistry format retained registryWrite

def maxIpHistory : Nat := 100

def lastIp (client : ClientMetadata) : Option String :=
  client.ipHistory.getLast?.map IpConnection.ipAddress

/-- A client that was seen. An address is added to the history when the last one is another. -/
def touch (ip : Option String) (now : Time) (client : ClientMetadata) : ClientMetadata :=
  let seen := { client with lastSeen := now }
  match ip with
  | none => seen
  | some address =>
    if lastIp client = some address then seen
    else
      let extended := client.ipHistory ++ [⟨address, now⟩]
      { seen with ipHistory := extended.drop (extended.length - maxIpHistory) }

def modifyFirst {α : Type} (chosen : α → Bool) (change : α → α) : List α → Option (List α)
  | [] => none
  | head :: tail =>
    if chosen head then some (change head :: tail)
    else (modifyFirst chosen change tail).map (head :: ·)

def updateLastSeenWithIp (format : RegistryFormat Content) (opened : OpenedStore Content)
    (clientId : String) (ip : Option String) (now : Time) (registryWrite : Except String Unit) :
    OpenedStore Content × Except String Unit :=
  match modifyFirst (fun client => client.id = clientId) (touch ip now) opened.store.registry with
  | none => (opened, .error s!"Client not found: {clientId}")
  | some registry => saveRegistry format { opened with store := ⟨registry⟩ } registryWrite

end

section

variable {Content : Type} {format : RegistryFormat Content} {sha256 : Bytes → Digest}
  {opened : OpenedStore Content}

theorem addClient_store (certDer : Bytes) (deviceName : String) (ip : Option String)
    (inputs : ClientStore.AddClientInputs) :
    (addClient format sha256 opened certDer deviceName ip inputs).1.store =
      (opened.store.addClient sha256 certDer deviceName ip inputs).1 := by
  unfold addClient ClientStore.addClient saveRegistry
  cases inputs.certificateWrite with
  | error => rfl
  | ok => cases inputs.registrySave <;> rfl

@[simp] theorem saveRegistry_store (write : Except String Unit) :
    (saveRegistry format opened write).1.store = opened.store := by
  cases write <;> rfl

theorem modifyFirst_some {α : Type} {chosen : α → Bool} {change : α → α} :
    ∀ {list changed : List α}, modifyFirst chosen change list = some changed →
      ∃ before target after, list.find? chosen = some target ∧
        list = before ++ target :: after ∧ changed = before ++ change target :: after := by
  intro list
  induction list with
  | nil => intro changed found; cases found
  | cons head tail induction =>
    intro changed found
    unfold modifyFirst at found
    by_cases taken : chosen head = true
    · rw [if_pos taken] at found
      cases found
      exact ⟨[], head, tail, List.find?_cons_of_pos taken, rfl, rfl⟩
    · rw [if_neg taken] at found
      obtain ⟨_, later, rfl⟩ := Option.map_eq_some_iff.mp found
      obtain ⟨before, target, after, lookup, rfl, rfl⟩ := induction later
      exact ⟨head :: before, target, after, (List.find?_cons_of_neg taken).trans lookup, rfl, rfl⟩

theorem modifyFirst_none {α : Type} {chosen : α → Bool} {change : α → α} :
    ∀ {list : List α}, modifyFirst chosen change list = none → list.find? chosen = none := by
  intro list
  induction list with
  | nil => intro _; rfl
  | cons head tail induction =>
    intro missing
    unfold modifyFirst at missing
    by_cases taken : chosen head = true
    · rw [if_pos taken] at missing
      cases missing
    · rw [if_neg taken] at missing
      exact (List.find?_cons_of_neg taken).trans (induction (Option.map_eq_none_iff.mp missing))

theorem lastIp_touch (now : Time) (client : ClientMetadata) (address : String) :
    lastIp (touch (some address) now client) = some address := by
  unfold touch
  by_cases same : lastIp client = some address
  · dsimp only
    rw [if_pos same]
    exact same
  · have kept : (client.ipHistory ++ [(⟨address, now⟩ : IpConnection)]).length - maxIpHistory ≤
        client.ipHistory.length := by
      simp only [List.length_append, List.length_singleton, maxIpHistory]
      omega
    dsimp only
    rw [if_neg same, lastIp, List.drop_append_of_le_length kept, List.getLast?_concat]
    rfl

theorem touch_eq_self_iff (ip : Option String) (now : Time) (client : ClientMetadata) :
    touch ip now client = client ↔
      client.lastSeen = now ∧ ∀ address, ip = some address → lastIp client = some address := by
  constructor
  · intro same
    constructor
    · rw [← same]
      unfold touch
      cases ip with
      | none => rfl
      | some => dsimp only; split_ifs <;> rfl
    · rintro address rfl
      rw [← same]
      exact lastIp_touch now client address
  · rintro ⟨rfl, known⟩
    unfold touch
    cases ip with
    | none => rfl
    | some address => simp only [known address rfl, if_true]

end

inductive StoreCall where
  | addClient (certDer : Bytes) (deviceName : String) (ip : Option String)
      (inputs : ClientStore.AddClientInputs)
  | removeClient (clientId : String) (removeFile registryWrite : Except String Unit)
  | updateLastSeenWithIp (clientId : String) (ip : Option String) (now : Time)
      (registryWrite : Except String Unit)

section

variable {Content : Type} (format : RegistryFormat Content) (sha256 : Bytes → Digest)

def execute (opened : OpenedStore Content) :
    StoreCall → OpenedStore Content × Except String Unit
  | .addClient certDer deviceName ip inputs =>
    let (after, result) := addClient format sha256 opened certDer deviceName ip inputs
    (after, result.map fun _ => ())
  | .removeClient clientId removeFile registryWrite =>
    removeClient format opened clientId removeFile registryWrite
  | .updateLastSeenWithIp clientId ip now registryWrite =>
    updateLastSeenWithIp format opened clientId ip now registryWrite

def runCalls (opened : OpenedStore Content) : List StoreCall → OpenedStore Content
  | [] => opened
  | call :: rest => runCalls (execute format sha256 opened call).1 rest

/-- What holds of each call of a sequence, in the state that the calls before it left. -/
def AtEveryCall (property : OpenedStore Content → StoreCall → Prop) :
    OpenedStore Content → List StoreCall → Prop :=
  Throughout (fun opened call => (execute format sha256 opened call).1)
    fun opened call _ => property opened call

def reloaded (opened : OpenedStore Content) : Except String (List ClientMetadata) :=
  (openStore format opened.clientsDir opened.directory).map fun fresh => fresh.store.registry

/-- A call that fails changes neither registry, and after one that succeeds they are equal. -/
structure AtomicAndDurable (opened : OpenedStore Content) (call : StoreCall) : Prop where
  failure : ∀ message, (execute format sha256 opened call).2 = .error message →
    (execute format sha256 opened call).1.store = opened.store ∧
      reloaded format (execute format sha256 opened call).1 = reloaded format opened
  success : (execute format sha256 opened call).2 = .ok () →
    reloaded format (execute format sha256 opened call).1 =
      .ok (execute format sha256 opened call).1.store.registry

end

/-- No file operation fails after the call changed the registry in memory. An update that finds
the time and the address already there changes nothing. -/
def FailsBeforeChange {Content : Type} (opened : OpenedStore Content) : StoreCall → Prop
  | .addClient _ _ _ inputs =>
    inputs.certificateWrite = .ok () → inputs.registrySave = .ok ()
  | .removeClient clientId removeFile registryWrite =>
    (∃ client ∈ opened.store.registry, client.id = clientId) →
      ((opened.directory.certificates.lookup clientId).isSome → removeFile = .ok ()) ∧
        registryWrite = .ok ()
  | .updateLastSeenWithIp clientId ip now registryWrite =>
    ∀ client, opened.store.registry.find? (fun client => client.id = clientId) = some client →
      registryWrite = .ok () ∨ client.lastSeen = now ∧
        ∀ address, ip = some address → lastIp client = some address

section

variable {Content : Type} {format : RegistryFormat Content} {sha256 : Bytes → Digest}
  {opened changed : OpenedStore Content}

theorem reloaded_congr (path : changed.clientsDir = opened.clientsDir)
    (file : changed.directory.metadata = opened.directory.metadata) :
    reloaded format changed = reloaded format opened := by
  unfold reloaded openStore
  rw [path, file]
  dsimp only
  generalize (match opened.directory.metadata with
    | some content => loadRegistry format opened.clientsDir content
    | none => .ok []) = registry
  cases registry <;> rfl

theorem reloaded_saved (write : Except String Unit)
    (saved : (saveRegistry format changed write).2 = .ok ()) :
    reloaded format (saveRegistry format changed write).1 = .ok changed.store.registry := by
  cases write with
  | error => cases saved
  | ok =>
    simp only [saveRegistry, reloaded, openStore, loadRegistry, format.fromStr_toStringPretty]
    rfl

/-- A call that ends by saving a registry. It is atomic exactly if the save succeeds or there was
no change. -/
theorem atomicAndDurable_of_save {call : StoreCall} {write : Except String Unit}
    (saves : execute format sha256 opened call = saveRegistry format changed write)
    (path : changed.clientsDir = opened.clientsDir)
    (file : changed.directory.metadata = opened.directory.metadata) :
    AtomicAndDurable format sha256 opened call ↔
      (write = .ok () ∨ changed.store = opened.store) := by
  constructor
  · intro holds
    cases write with
    | ok => exact Or.inl rfl
    | error =>
      have kept := (holds.failure _ (congrArg Prod.snd saves)).1
      rw [saves] at kept
      exact Or.inr kept
  · intro unchanged
    constructor
    · intro message failed
      rw [saves] at failed ⊢
      cases write with
      | ok => cases failed
      | error =>
        rcases unchanged with impossible | unchanged
        · cases impossible
        · exact ⟨unchanged, reloaded_congr path file⟩
    · intro succeeded
      rw [saves] at succeeded ⊢
      rw [saveRegistry_store]
      exact reloaded_saved write succeeded

theorem atomicAndDurable_of_refused {call : StoreCall} {message : String}
    (refused : execute format sha256 opened call = (opened, .error message)) :
    AtomicAndDurable format sha256 opened call := by
  constructor
  · intro _ _
    rw [refused]
    exact ⟨rfl, rfl⟩
  · intro succeeded
    rw [refused] at succeeded
    cases succeeded

end

section

variable {Content : Type} {format : RegistryFormat Content} {sha256 : Bytes → Digest}
  {opened : OpenedStore Content}

theorem pushClient_store_ne (certDer : Bytes) (metadata : ClientMetadata) :
    (pushClient opened certDer metadata).store ≠ opened.store := by
  intro same
  have lengths := congrArg (fun store => store.registry.length) same
  simp [pushClient] at lengths

theorem addClient_atomic_iff (certDer : Bytes) (deviceName : String) (ip : Option String)
    (inputs : ClientStore.AddClientInputs) :
    AtomicAndDurable format sha256 opened (.addClient certDer deviceName ip inputs) ↔
      FailsBeforeChange opened (.addClient certDer deviceName ip inputs) := by
  simp only [FailsBeforeChange]
  cases written : inputs.certificateWrite with
  | error =>
    apply iff_of_true
    · apply atomicAndDurable_of_refused
      · simp only [execute, addClient, written]
        rfl
    · intro impossible
      cases impossible
  | ok =>
    have saves : execute format sha256 opened (.addClient certDer deviceName ip inputs) =
        saveRegistry format
          (pushClient opened certDer (ClientStore.newMetadata sha256 certDer deviceName ip inputs))
          inputs.registrySave := by
      simp only [execute, addClient, written]
      cases inputs.registrySave <;> rfl
    rw [atomicAndDurable_of_save saves rfl rfl, or_iff_left (pushClient_store_ne _ _)]
    exact ⟨fun saved _ => saved, fun condition => condition rfl⟩

theorem retainOthers_length_iff (clientId : String) :
    (retainOthers opened clientId).store.registry.length = opened.store.registry.length ↔
      ¬ ∃ client ∈ opened.store.registry, client.id = clientId := by
  unfold retainOthers
  rw [List.length_filter_eq_length_iff]
  simp

theorem retainOthers_eq_self {clientId : String}
    (unknown : ¬ ∃ client ∈ opened.store.registry, client.id = clientId) :
    retainOthers opened clientId = opened := by
  have kept : opened.store.registry.filter (fun client => client.id ≠ clientId) =
      opened.store.registry := by
    rw [List.filter_eq_self]
    intro client member
    exact decide_eq_true fun same => unknown ⟨client, member, same⟩
  unfold retainOthers
  rw [kept]

theorem retainOthers_store_ne {clientId : String}
    (known : ∃ client ∈ opened.store.registry, client.id = clientId) :
    (retainOthers opened clientId).store ≠ opened.store := by
  intro same
  exact (retainOthers_length_iff clientId).mp
    (congrArg (fun store => store.registry.length) same) known

theorem removeClient_atomic_iff (clientId : String)
    (removeFile registryWrite : Except String Unit) :
    AtomicAndDurable format sha256 opened (.removeClient clientId removeFile registryWrite) ↔
      FailsBeforeChange opened (.removeClient clientId removeFile registryWrite) := by
  simp only [FailsBeforeChange]
  by_cases known : ∃ client ∈ opened.store.registry, client.id = clientId
  · have shorter := fun same => (retainOthers_length_iff clientId).mp same known
    have removes : execute format sha256 opened (.removeClient clientId removeFile registryWrite) =
          if (opened.directory.certificates.lookup clientId).isSome then
            match removeFile with
            | .error _ => (retainOthers opened clientId, .error
                s!"Failed to remove certificate: {certPath opened.clientsDir clientId}")
            | .ok () =>
              saveRegistry format (dropCertificate (retainOthers opened clientId) clientId)
                registryWrite
          else saveRegistry format (retainOthers opened clientId) registryWrite :=
      if_neg shorter
    by_cases present : (opened.directory.certificates.lookup clientId).isSome
    · rw [if_pos present] at removes
      cases removeFile with
      | error =>
        apply iff_of_false
        · intro holds
          have kept := (holds.failure _ (congrArg Prod.snd removes)).1
          rw [removes] at kept
          exact retainOthers_store_ne known kept
        · intro condition
          cases (condition known).1 present
      | ok =>
        rw [atomicAndDurable_of_save removes rfl rfl,
          or_iff_left (b := (dropCertificate (retainOthers opened clientId) clientId).store =
            opened.store) (retainOthers_store_ne known)]
        exact ⟨fun saved _ => ⟨fun _ => rfl, saved⟩, fun condition => (condition known).2⟩
    · rw [if_neg present] at removes
      rw [atomicAndDurable_of_save removes rfl rfl, or_iff_left (retainOthers_store_ne known)]
      exact ⟨fun saved _ => ⟨fun impossible => absurd impossible present, saved⟩,
        fun condition => (condition known).2⟩
  · apply iff_of_true
    · apply atomicAndDurable_of_refused
      · exact (if_pos ((retainOthers_length_iff clientId).mpr known)).trans
          (congrArg (·, _) (retainOthers_eq_self known))
    · exact fun impossible => absurd impossible known

theorem updateLastSeen_atomic_iff (clientId : String) (ip : Option String) (now : Time)
    (registryWrite : Except String Unit) :
    AtomicAndDurable format sha256 opened (.updateLastSeenWithIp clientId ip now registryWrite) ↔
      FailsBeforeChange opened (.updateLastSeenWithIp clientId ip now registryWrite) := by
  simp only [FailsBeforeChange]
  cases updated : modifyFirst (fun client => decide (client.id = clientId)) (touch ip now)
      opened.store.registry with
  | none =>
    apply iff_of_true
    · apply atomicAndDurable_of_refused
      · simp only [execute, updateLastSeenWithIp, updated]
        rfl
    · intro client found
      rw [modifyFirst_none updated] at found
      cases found
  | some registry =>
    have saves : execute format sha256 opened
        (.updateLastSeenWithIp clientId ip now registryWrite) =
          saveRegistry format { opened with store := ⟨registry⟩ } registryWrite := by
      simp only [execute, updateLastSeenWithIp, updated]
    obtain ⟨_, target, _, found, list, changed⟩ := modifyFirst_some updated
    have same_iff : (⟨registry⟩ : ClientStore) = opened.store ↔ target.lastSeen = now ∧
        ∀ address, ip = some address → lastIp target = some address := by
      rw [← touch_eq_self_iff]
      cases opened with
      | mk _ store =>
        cases store with
        | mk =>
          subst list
          subst changed
          simp
    rw [atomicAndDurable_of_save saves rfl rfl, found]
    constructor
    · rintro atomic _ ⟨⟩
      exact atomic.imp_right same_iff.mp
    · intro condition
      exact (condition target rfl).imp_right same_iff.mpr

theorem atomicAndDurable_iff (call : StoreCall) :
    AtomicAndDurable format sha256 opened call ↔ FailsBeforeChange opened call := by
  cases call with
  | addClient certDer deviceName ip inputs =>
    exact addClient_atomic_iff certDer deviceName ip inputs
  | removeClient clientId removeFile registryWrite =>
    exact removeClient_atomic_iff clientId removeFile registryWrite
  | updateLastSeenWithIp clientId ip now registryWrite =>
    exact updateLastSeen_atomic_iff clientId ip now registryWrite

end

/-- A sequence of calls keeps memory and directory together exactly if in each of its calls no
file operation fails after the registry in memory changed. -/
theorem calls_atomic_and_durable_iff {Content : Type} (format : RegistryFormat Content)
    (sha256 : Bytes → Digest) (opened : OpenedStore Content) (calls : List StoreCall) :
    AtEveryCall format sha256 (AtomicAndDurable format sha256) opened calls ↔
      AtEveryCall format sha256 FailsBeforeChange opened calls :=
  throughout_congr (fun _ call _ => atomicAndDurable_iff call) calls opened

def plainFormat : RegistryFormat (List ClientMetadata) := ⟨id, .ok, fun _ => rfl⟩

def emptyStore : OpenedStore (List ClientMetadata) := ⟨"clients", ⟨[]⟩, ⟨none, ∅⟩⟩

def zeroDigest : Bytes → Digest := fun _ => ⟨List.replicate 32 0, rfl⟩

def unsavedClient : StoreCall :=
  .addClient [1] "phone" none ⟨"id", 0, .ok (), .error "disk full"⟩

theorem failed_add_leaves_client :
    openStore plainFormat "clients" emptyStore.directory = .ok emptyStore ∧
      (execute plainFormat zeroDigest emptyStore unsavedClient).2 =
        .error "Failed to write metadata file: clients/metadata.toml" ∧
      (execute plainFormat zeroDigest emptyStore unsavedClient).1.store.isAuthorized
        (fingerprintHex zeroDigest [1]) = true ∧
      reloaded plainFormat (execute plainFormat zeroDigest emptyStore unsavedClient).1 = .ok [] ∧
      ¬ AtEveryCall plainFormat zeroDigest (AtomicAndDurable plainFormat zeroDigest) emptyStore
        [unsavedClient] := by
  refine ⟨rfl, by decide +kernel, by decide +kernel, rfl, ?_⟩
  rintro ⟨atomic, _⟩
  cases (atomicAndDurable_iff unsavedClient).mp atomic rfl

end HandControl.ClientRegistryFiles
