import HandControl.RelayConnections

/-!
# Nobody loses a shared relay connection

The idle job of a channel that a caller holds has been cancelled. The channel is shut down
nevertheless when another caller's probe fails, or when a job that has been cancelled too late goes
on. Without these two, no channel is shut down under a caller.
-/

namespace HandControl.SharedRelayUse

open KeyedTable RelayConnections TransitionRuns Table State

def isHolding : Phase → Bool
  | .holding _ => true
  | _ => false

/-- A cached channel fails a probe only when nobody else uses it, a cancelled job does not go on,
and a result is disconnected once and without `forceClose`. Fewer than 2^31 callers share a channel.
-/
def Considerate (state : State) : Action → Prop
  | .lookUp id => ∀ call ∈ state.calls.lookup id,
      ∀ cached ∈ state.cachedRelayConnections.lookup call.server.serverId,
        cached.refCount + 1 < 2 ^ 31
  | .dropStale id => ∀ call ∈ state.calls.lookup id, ∀ result ∈ call.phase.result?,
      Table.count (fun other => other.phase.uses result.channel) state.calls = 0
  | .disconnect id _ forceClose =>
    forceClose = false ∧ ∀ call ∈ state.calls.lookup id, isHolding call.phase = true
  | .close id => ∀ task ∈ state.tasks.lookup id, task.cancelled = false
  | _ => True

instance (state : State) (action : Action) : Decidable (Considerate state action) := by
  cases action <;> unfold Considerate <;> infer_instance

/-- No call uses the channel, and it is not in the cache. -/
structure Clear (state : State) (channel : Nat) : Prop where
  unused : Table.Every (fun call => call.phase.uses channel = false) state.calls
  uncached : Table.Every (fun cached => cached.result.channel ≠ channel)
    state.cachedRelayConnections

/-- Only the call that created the channel knows of it. -/
structure Unshared (state : State) (id channel : Nat) : Prop where
  calls : ∀ other call, state.calls.lookup other = some call → ∀ result ∈ call.phase.result?,
    result.channel = channel → other = id
  tasks : Table.Every (fun task => task.result.channel ≠ channel) state.tasks
  cached : Table.Every (fun cached => cached.result.channel ≠ channel)
    state.cachedRelayConnections
  shutdowns : channel ∉ state.shutdowns

structure Safe (state : State) : Prop extends Owned state where
  unforced : Table.Every (fun task => task.phase ≠ .releasing true) state.tasks
  counted : ∀ serverId cached, state.cachedRelayConnections.lookup serverId = some cached →
    (users state cached.result.channel : Int) ≤ cached.refCount
  scheduled : ∀ id task, state.tasks.lookup id = some task → task.Armed →
    ∀ cached, state.cachedRelayConnections.lookup task.result.serverId = some cached →
      cached.result.channel = task.result.channel →
        cached.shutdownJob = some id ∧ cached.refCount = 0
  retired : ∀ channel, Retired state channel → Clear state channel
  unshared : ∀ id call result, state.calls.lookup id = some call →
    call.phase = .created result → Unshared state id result.channel

theorem incremented_eq {count : Int} (nonneg : 0 ≤ count) (small : count + 1 < 2 ^ 31) :
    incremented count = count + 1 := by
  unfold incremented
  rw [Int.bmod_eq_of_le]
  · omega
  · omega

theorem decremented_ge (count : Int) : count - 1 ≤ decremented count := by
  unfold decremented
  split_ifs <;> omega

variable {state before : State} {id channel other : Nat} {call : RelayCall}
variable {result : ConnectionResult} {task : Task} {next : Phase} {serverId : String}
variable {entry : CachedRelayConnection} {action : Action}

theorem users_of_unshared (present : state.calls.lookup id = some call)
    (phase_eq : call.phase = .created result) (unshared : Unshared state id result.channel) :
    users state result.channel = 0 := by
  have no_calls : count (fun call => call.phase.counts result.channel) state.calls = 0 := by
    rw [count_eq_zero_iff]
    intro other found found_eq
    rw [← Bool.not_eq_true]
    intro counts
    obtain ⟨known, member, same⟩ := Phase.result_of_counts counts
    have other_eq := unshared.calls other found found_eq known member same
    rw [other_eq, present] at found_eq
    cases found_eq
    rw [phase_eq] at counts
    cases counts
  have no_tasks : count (Task.releases result.channel) state.tasks = 0 := by
    rw [count_eq_zero_iff]
    intro other task found_eq
    have different := unshared.tasks other task found_eq
    unfold Task.releases
    split
    · simpa using different
    · rfl
  unfold users
  omega

theorem releasing_counted {forceClose : Bool} (present : state.tasks.lookup id = some task)
    (phase_eq : task.phase = .releasing forceClose) : 0 < users state task.result.channel := by
  rw [Nat.pos_iff_ne_zero]
  intro nobody
  have no_tasks : count (Task.releases task.result.channel) state.tasks = 0 := by
    unfold users at nobody
    omega
  have unreleased := count_eq_zero_iff.mp no_tasks id task present
  simp [Task.releases, phase_eq] at unreleased

section

variable {after : State}

section

variable (safe : Safe before) (permitted : Considerate before action)
  (move : Move before action after)

include safe permitted move

theorem counted_move (serverId : String) (cached : CachedRelayConnection)
    (found : after.cachedRelayConnections.lookup serverId = some cached) :
    (users after cached.result.channel : Int) ≤ cached.refCount := by
  cases entry_origin safe.toOwned move found with
  | kept earlier same =>
    rw [same]
    exact safe.counted serverId cached earlier
  | proceeds _ _ _ earlier _ way =>
    have counted := safe.counted serverId cached earlier
    have fewer := way.counts_le cached.result.channel
    omega
  | taskProceeds _ _ _ earlier =>
    have counted := safe.counted serverId cached earlier
    omega
  | repeated _ _ _ call _ disconnects _ present disconnected =>
    subst disconnects
    have held := permitted.2 call present
    rw [disconnected] at held
    cases held
  | reused _ call entry looksUp present own entry_eq written =>
    subst looksUp own written
    have counted := safe.counted _ entry entry_eq
    have small : entry.refCount + 1 < 2 ^ 31 := permitted call present entry entry_eq
    have grown := incremented_eq ((Int.natCast_nonneg _).trans counted) small
    dsimp only
    omega
  | stored id call result present created written =>
    subst written
    have nobody := users_of_unshared present created (safe.unshared id call result present created)
    dsimp only
    omega
  | forced id task _ present phase_eq => exact absurd phase_eq (safe.unforced id task present)
  | released entry _ entry_eq written less | scheduled _ entry _ entry_eq written _ less =>
    subst written
    have counted := safe.counted _ entry entry_eq
    have shrunk := decremented_ge entry.refCount
    dsimp only
    omega

theorem unforced_move : Table.Every (fun task => task.phase ≠ .releasing true) after.tasks := by
  intro id task found
  cases move.task_before found with
  | kept _ present => exact safe.unforced id task present
  | cancelled old present => exact safe.unforced id old present
  | turned old _ _ way =>
    generalize old.phase = phase at way
    cases way with
    | proceeds way => rcases way.next_eq with rfl | rfl <;> simp
    | forces | releases | closes | shuts => simp
  | called _ _ _ _ disconnects =>
    subst disconnects
    simp [permitted.1]
  | launched => simp

end

/-- A task that is armed after the job of an entry has been cancelled was so before, and it is
not about this entry. -/
theorem armed_after_cancelJob (safe : Safe before)
    (entry_eq : before.cachedRelayConnections.lookup serverId = some entry) {job : Nat}
    {idle : Task} (idle_eq : (before.cancelJob entry.shutdownJob).tasks.lookup job = some idle)
    (armed : idle.Armed) :
    before.tasks.lookup job = some idle ∧
      (idle.result.serverId = serverId → entry.result.channel ≠ idle.result.channel) := by
  obtain ⟨old, old_eq, _, _, _, survives⟩ := cancelJob_found idle_eq
  obtain ⟨rfl, not_cancelled⟩ := survives armed.2
  refine ⟨old_eq, ?_⟩
  rintro rfl same
  exact not_cancelled (safe.scheduled job idle old_eq armed entry entry_eq same).1

theorem scheduled_move (safe : Safe before) (permitted : Considerate before action)
    (move : Move before action after) (job : Nat) (idle : Task)
    (idle_eq : after.tasks.lookup job = some idle) (armed : idle.Armed)
    (cached : CachedRelayConnection)
    (found : after.cachedRelayConnections.lookup idle.result.serverId = some cached)
    (same_channel : cached.result.channel = idle.result.channel) :
    cached.shutdownJob = some job ∧ cached.refCount = 0 := by
  have scheduled_before := safe.scheduled job idle
  -- An entry that is written anew has the channel of the one whose job was cancelled.
  have rewritten {serverId : String} {entry written : CachedRelayConnection}
      (entry_eq : before.cachedRelayConnections.lookup serverId = some entry)
      (still_there : (before.cancelJob entry.shutdownJob).tasks.lookup job = some idle)
      (found : ((before.cancelJob entry.shutdownJob).cachedRelayConnections.insert serverId
        written).lookup idle.result.serverId = some cached)
      (same_result : written.result = entry.result) :
      cached.shutdownJob = some job ∧ cached.refCount = 0 := by
    obtain ⟨earlier, unrelated⟩ := armed_after_cancelJob safe entry_eq still_there armed
    rcases lookup_insert_split found with ⟨_, cached_eq⟩ | ⟨same_server, rfl⟩
    · rw [cancelJob_cached] at cached_eq
      exact scheduled_before earlier armed cached cached_eq same_channel
    · exact absurd (same_result ▸ same_channel) (unrelated same_server)
  cases move with
  | connects | proceeds | shutsStale | creates =>
    exact scheduled_before idle_eq armed cached found same_channel
  | reuses _ _ _ _ _ entry_eq => exact rewritten entry_eq idle_eq found rfl
  | discards _ _ _ _ _ entry_eq =>
    obtain ⟨earlier, _⟩ := armed_after_cancelJob safe entry_eq idle_eq armed
    obtain ⟨_, cached_eq⟩ := lookup_of_erase found
    rw [cancelJob_cached] at cached_eq
    exact scheduled_before earlier armed cached cached_eq same_channel
  | drops => exact scheduled_before idle_eq armed cached (lookup_of_erase found).2 same_channel
  | stores id call result present phase_eq =>
    have unshared := safe.unshared id call result present phase_eq
    rcases lookup_insert_split found with ⟨_, earlier⟩ | ⟨_, rfl⟩
    · exact scheduled_before idle_eq armed cached earlier same_channel
    · exact absurd same_channel.symm (unshared.tasks job idle idle_eq)
  | disconnects =>
    rcases lookup_insert_split idle_eq with ⟨_, earlier⟩ | ⟨_, rfl⟩
    · exact scheduled_before earlier armed cached found same_channel
    · simp [Task.Armed] at armed
  | taskProceeds _ _ task _ present way =>
    rcases lookup_insert_split idle_eq with ⟨_, earlier⟩ | ⟨rfl, rfl⟩
    · exact scheduled_before earlier armed cached found same_channel
    · generalize phase_eq : task.phase = phase at way
      cases way with
      | unlisted _ _ absent => exact absurd same_channel (absent cached found)
      | elapsed live =>
        exact safe.scheduled job task present ⟨Or.inl phase_eq, live⟩ cached found
          same_channel
      | nothing | abandoned => simp [Task.Armed] at armed
  | forces id _ task _ present phase_eq =>
    exact absurd phase_eq (safe.unforced id task present)
  | keeps _ _ _ _ _ _ entry_eq =>
    rcases lookup_insert_split idle_eq with ⟨_, still_there⟩ | ⟨_, rfl⟩
    · exact rewritten entry_eq still_there found rfl
    · simp [Task.Armed] at armed
  | schedules _ _ _ entry present phase_eq entry_eq same unused =>
    rcases lookup_insert_split idle_eq with ⟨_, older⟩ | ⟨rfl, rfl⟩
    · rcases lookup_insert_split older with ⟨_, still_there⟩ | ⟨_, rfl⟩
      · exact rewritten entry_eq still_there found rfl
      · simp [Task.Armed] at armed
    · -- The new job is the entry's own, and the last user is gone.
      have written : cached = ⟨entry.result, decremented entry.refCount, some job⟩ := by
        rcases lookup_insert_split found with ⟨different, _⟩ | ⟨_, eq⟩
        · exact absurd rfl different
        · exact eq
      subst written
      have counted := safe.counted _ entry entry_eq
      have pending := releasing_counted present phase_eq
      rw [same] at counted
      refine ⟨rfl, le_antisymm unused ?_⟩
      have shrunk := decremented_ge entry.refCount
      dsimp only
      omega
  | closes =>
    obtain ⟨_, earlier⟩ := lookup_of_erase found
    rcases lookup_insert_split idle_eq with ⟨_, idle_earlier⟩ | ⟨_, rfl⟩
    · exact scheduled_before idle_earlier armed cached earlier same_channel
    · simp [Task.Armed] at armed
  | shuts =>
    rcases lookup_insert_split idle_eq with ⟨_, idle_earlier⟩ | ⟨_, rfl⟩
    · exact scheduled_before idle_earlier armed cached found same_channel
    · simp [Task.Armed] at armed

theorem clear_move (clear : Clear before channel)
    (unstored : ∀ id call result, before.calls.lookup id = some call →
      call.phase = .created result → result.channel ≠ channel) (move : Move before action after) :
    Clear after channel where
  unused id call found := by
    rcases move.call_before found with earlier | _ | ⟨_, earlier, way⟩
    · exact clear.unused id call earlier
    · cases phase_eq : call.phase <;> simp_all [Phase.result?, Phase.uses]
    · have unused_before := clear.unused id _ earlier
      generalize call.phase = next at way ⊢
      cases way with
      | proceeds way => exact way.uses_next unused_before
      | reuses cached cached_eq =>
        exact beq_eq_false_iff_ne.mpr (clear.uncached _ cached cached_eq)
      | stores result => exact beq_eq_false_iff_ne.mpr (unstored id _ result earlier rfl)
      | discards | drops | shuts | creates | disconnects => rfl
  uncached serverId cached found := by
    rcases move.entry_before found with ⟨entry, entry_eq, same⟩ | ⟨id, call, present, created, _⟩
    · rw [same]
      exact clear.uncached serverId entry entry_eq
    · exact unstored id call _ present created

theorem unstored_of_retired (safe : Safe before) (retired : Retired before channel) (id : Nat)
    (call : RelayCall) (result : ConnectionResult) (present : before.calls.lookup id = some call)
    (phase_eq : call.phase = .created result) : result.channel ≠ channel := by
  rintro rfl
  have unshared := safe.unshared id call result present phase_eq
  cases retired with
  | dropping other found dropped found_eq dropping_eq same =>
    have other_eq := unshared.calls other found found_eq dropped
      (by simp [dropping_eq, Phase.result?]) same
    rw [other_eq, present] at found_eq
    cases found_eq
    rw [phase_eq] at dropping_eq
    cases dropping_eq
  | shutting other task found_eq _ same => exact unshared.tasks other task found_eq same
  | called member => exact unshared.shutdowns member

/-- A call begins to drop a channel when its probe has failed. -/
theorem dropping_before (move : Move before action after)
    (present : after.calls.lookup id = some call) (phase_eq : call.phase = .dropping result) :
    before.calls.lookup id = some call ∨
      ∃ old, action = .dropStale id ∧ before.calls.lookup id = some old ∧
        old.phase = .stale result := by
  rcases move.call_before present with earlier | none | ⟨_, earlier, way⟩
  · exact Or.inl earlier
  · simp [phase_eq, Phase.result?] at none
  · rw [phase_eq] at way
    cases way with
    | proceeds way => exact absurd rfl (way.next_ne result).1
    | drops => exact Or.inr ⟨_, rfl, earlier, rfl⟩

/-- A task begins to shut a channel down when it finds it in the cache. -/
theorem shutting_before (move : Move before action after)
    (present : after.tasks.lookup id = some task) (phase_eq : task.phase = .shutting) :
    ∃ old, before.tasks.lookup id = some old ∧ task.result = old.result ∧
      (old.phase = .shutting ∨
        action = .close id ∧ old.phase = .closing ∧ ¬ Unlisted before old.result) := by
  cases move.task_before present with
  | kept _ old_eq => exact ⟨task, old_eq, rfl, Or.inl phase_eq⟩
  | cancelled old old_eq => exact ⟨old, old_eq, rfl, Or.inl phase_eq⟩
  | turned old _ old_eq way =>
    refine ⟨old, old_eq, rfl, ?_⟩
    cases phase_eq
    generalize old.phase = phase at way ⊢
    cases way with
    | proceeds way => rcases way.next_eq with next | next <;> cases next
    | closes listed => exact Or.inr ⟨rfl, rfl, listed⟩
  | called | launched => cases phase_eq

theorem clear_of_dropStale (safe : Safe before) (permitted : Considerate before (.dropStale id))
    (move : Move before (.dropStale id) after) (present : before.calls.lookup id = some call)
    (phase_eq : call.phase = .stale result) : Clear after result.channel := by
  have member : result ∈ call.phase.result? := by simp [phase_eq, Phase.result?]
  have unused := count_eq_zero_iff.mp (permitted call present result member)
  obtain ⟨known, named⟩ := safe.calls id call present result member
  cases move with
  | proceeds _ _ _ _ _ way | taskProceeds _ _ _ _ _ way => cases way
  | drops id _ _ old_eq =>
    rw [present] at old_eq
    cases old_eq
    refine ⟨unused.insert id rfl, ?_⟩
    have uncached := safe.toOwned.uncached_of_erase known
    rwa [named] at uncached

/-- An armed task that finds its channel finds nobody who uses it. -/
theorem clear_of_close (safe : Safe before) (permitted : Considerate before (.close id))
    (move : Move before (.close id) after) (present : before.tasks.lookup id = some task)
    (phase_eq : task.phase = .closing) (listed : ¬ Unlisted before task.result) :
    Clear after task.result.channel := by
  have armed : task.Armed := ⟨Or.inr phase_eq, permitted task present⟩
  unfold Unlisted at listed
  push Not at listed
  obtain ⟨entry, entry_eq, same⟩ := listed
  have idle := (safe.scheduled id task present armed entry entry_eq same).2
  have counted := safe.counted _ entry entry_eq
  rw [same] at counted
  have nobody : count (fun call => call.phase.counts task.result.channel)
      before.calls = 0 := by
    unfold users at counted
    omega
  cases move with
  | proceeds _ _ _ _ _ way => cases way
  | taskProceeds _ _ old _ old_eq way =>
    generalize old.phase = phase at way
    cases way with
    | nothing absent =>
      rw [present] at old_eq
      cases old_eq
      exact absurd same (absent entry entry_eq)
  | closes id _ _ old_eq =>
    rw [present] at old_eq
    cases old_eq
    refine ⟨?_, safe.toOwned.uncached_of_erase (safe.tasks id task present)⟩
    intro other call call_eq
    exact Phase.unused_of_uncounted (count_eq_zero_iff.mp nobody other call call_eq)

theorem retired_move (safe : Safe before) (permitted : Considerate before action)
    (move : Move before action after) (channel : Nat) (retired : Retired after channel) :
    Clear after channel := by
  have kept (earlier : Retired before channel) : Clear after channel :=
    clear_move (safe.retired channel earlier) (unstored_of_retired safe earlier) move
  cases retired with
  | dropping id call result present phase_eq same =>
    rcases dropping_before move present phase_eq with earlier | ⟨_, rfl, old_eq, stale⟩
    · exact kept (.dropping id call result earlier phase_eq same)
    · subst same
      exact clear_of_dropStale safe permitted move old_eq stale
  | shutting id _ present phase_eq same =>
    obtain ⟨old, old_eq, same_result, shutting | ⟨rfl, closing, listed⟩⟩ :=
      shutting_before move present phase_eq
    · exact kept (.shutting id old old_eq shutting (same_result ▸ same))
    · subst same
      rw [same_result]
      exact clear_of_close safe permitted move old_eq closing listed
  | called member => exact kept (called_before move member)

/-- As long as a call has not stored its channel, nobody else learns of it. -/
theorem unshared_kept (safe : Safe before) (move : Move before action after)
    (earlier : before.calls.lookup id = some call) (present : after.calls.lookup id = some call)
    (phase_eq : call.phase = .created result) : Unshared after id result.channel := by
  have unshared := safe.unshared id call result earlier phase_eq
  refine ⟨?_, ?_, ?_, ?_⟩
  · intro other found found_eq known member same
    rcases move.call_before found_eq with before_eq | none | ⟨_, before_eq, way⟩
    · exact unshared.calls other found before_eq known member same
    · rw [none] at member
      cases member
    · rcases way.result_of_next member with old_member | ⟨cached, cached_eq, rfl⟩ |
        ⟨_, _, fresh, _, rfl⟩
      · exact unshared.calls other _ before_eq known old_member same
      · exact absurd same (unshared.cached _ cached cached_eq)
      · have own := (safe.calls id call earlier result (by simp [phase_eq, Phase.result?])).1
        rw [← same, fresh] at own
        cases own
  · intro other task found_eq same
    cases move.task_before found_eq with
    | kept _ old_eq => exact unshared.tasks other task old_eq same
    | cancelled old old_eq | turned old _ old_eq => exact unshared.tasks other old old_eq same
    | called caller held learned _ _ _ held_eq holds =>
      have caller_eq := unshared.calls caller held held_eq learned
        (by rcases holds with holds | holds <;> simp [holds, Phase.result?]) same
      rw [caller_eq, earlier] at held_eq
      cases held_eq
      rw [phase_eq] at holds
      rcases holds with holds | holds <;> cases holds
    | launched third old _ old_eq => exact unshared.tasks third old old_eq same
  · intro serverId cached found_eq same
    rcases move.entry_before found_eq with ⟨entry, entry_eq, same_result⟩ |
      ⟨other, stored, stored_eq, created, _, returning⟩
    · exact unshared.cached serverId entry entry_eq (same_result ▸ same)
    · have other_eq := unshared.calls other stored stored_eq cached.result
        (by simp [created, Phase.result?]) same
      rw [other_eq, present] at returning
      cases returning
      cases phase_eq
  · intro member
    exact unstored_of_retired safe (called_before move member) id call result earlier phase_eq rfl

theorem unshared_created (owned : Owned before) (move : Move before (.create id channel) after)
    (fresh : before.created.lookup channel = none) : Unshared after id channel := by
  have unknown {other : Nat} {serverId : String}
      (known : before.created.lookup other = some serverId) : other ≠ channel := by
    rintro rfl
    rw [fresh] at known
    cases known
  refine ⟨?_, ?_, ?_, ?_⟩
  · intro other found found_eq result member same
    rcases move.call_before found_eq with earlier | none | ⟨_, earlier, way⟩
    · exact absurd same (unknown (owned.calls other found earlier result member).1)
    · rw [none] at member
      cases member
    · rcases way.result_of_next member with old_member | ⟨cached, cached_eq, rfl⟩ |
        ⟨_, action_eq, _⟩
      · exact absurd same (unknown (owned.calls other _ earlier result old_member).1)
      · exact absurd same (unknown (owned.cached _ cached cached_eq).2)
      · cases action_eq
        rfl
  · intro other task found_eq
    exact unknown (task_known owned move found_eq)
  · intro serverId cached found_eq
    exact unknown (entry_known owned move found_eq).2
  · intro member
    obtain ⟨_, known⟩ := shutdown_known owned move member
    exact unknown known rfl

theorem unshared_move (safe : Safe before) (move : Move before action after) (id : Nat)
    (call : RelayCall) (result : ConnectionResult) (present : after.calls.lookup id = some call)
    (phase_eq : call.phase = .created result) : Unshared after id result.channel := by
  rcases move.call_before present with earlier | none | ⟨_, earlier, way⟩
  · exact unshared_kept safe move earlier present phase_eq
  · simp [phase_eq, Phase.result?] at none
  · rw [phase_eq] at way
    cases way with
    | proceeds way => exact absurd rfl (way.next_ne result).2
    | creates _ fresh => exact unshared_created safe.toOwned move fresh

end

theorem safe_initial : Safe initial where
  toOwned := owned_initial
  unforced id task found := by simp [initial] at found
  counted serverId cached found := by simp [initial] at found
  scheduled id task found := by simp [initial] at found
  retired channel retired := by
    cases retired with
    | dropping _ _ _ present | shutting id task present => simp [initial] at present
    | called member => simp [initial] at member
  unshared id call result present := by simp [initial] at present

theorem safe_move {after : State} (safe : Safe before) (permitted : Considerate before action)
    (move : Move before action after) : Safe after where
  toOwned := owned_move safe.toOwned move
  unforced := unforced_move safe permitted move
  counted := counted_move safe permitted move
  scheduled := scheduled_move safe permitted move
  retired := retired_move safe permitted move
  unshared := unshared_move safe move

theorem safe_of_reaches (run : Reaches step Considerate initial state) : Safe state :=
  run.invariant safe_initial fun _ _ _ safe permitted moved =>
    safe_move safe permitted (move_of_step moved)

def Shuts (before : State) (action : Action) (channel : Nat) : Prop :=
  ∃ after, step before action = some after ∧ after.shutdowns = before.shutdowns ++ [channel]

theorem retired_of_shuts (shuts : Shuts before action channel) : Retired before channel := by
  obtain ⟨_, moved, called⟩ := shuts
  apply called_before (move_of_step moved)
  rw [called]
  exact List.mem_append_right _ (List.mem_singleton_self channel)

/-- The caller has a result with this channel from `connect` and has not disconnected it. -/
def Holds (state : State) (id channel : Nat) : Prop :=
  ∃ call result, state.calls.lookup id = some call ∧ call.phase = .holding result ∧
    result.channel = channel

/-- `shutdownChannel` is not called on a channel that a caller has. -/
theorem shutdown_finds_no_holder {before : State} {action : Action} {channel : Nat}
    (run : Reaches step Considerate State.initial before)
    (shuts : Shuts before action channel) (id : Nat) : ¬ Holds before id channel := by
  rintro ⟨call, _, present, holding, same⟩
  have clear := (safe_of_reaches run).retired channel (retired_of_shuts shuts)
  have unused : call.phase.uses channel = false := clear.unused id call present
  rw [holding] at unused
  exact absurd same (beq_eq_false_iff_ne.mp unused)

def relayServer (serverId : String) : EnrolledServerEntity where
  serverId := serverId
  relayEnabled := true
  relayUrl := some "wss://relay"
  relayToken := some "token"

def newChannel (id : Nat) (serverId : String) (channel : Nat) : List Action :=
  [.connect id (relayServer serverId), .lookUp id, .create id channel, .store id, .deliver id]

/-- The idle job of one server's channel runs to its end while a caller uses another one. -/
def idleRun : List Action :=
  newChannel 0 "desk" 7 ++ newChannel 1 "lab" 8 ++
    [.disconnect 0 0 false, .release 0 1, .elapse 1, .close 1]

theorem idle_channel_shut_down :
    ∃ before, Reaches step Considerate State.initial before ∧ Holds before 1 8 ∧
      Shuts before (.shut 1 true) 7 ∧ ∀ id, ¬ Holds before id 7 := by
  obtain ⟨before, run, ⟨call, present, holding⟩, shuts⟩ :
      ∃ before, Reaches step Considerate State.initial before ∧
        (∃ call ∈ before.calls.lookup 1, call.phase = .holding ⟨"lab", 8⟩) ∧
        ∃ after ∈ step before (.shut 1 true), after.shutdowns = before.shutdowns ++ [7] :=
    reaches_of_evaluated idleRun (by decide +kernel)
  exact ⟨before, run, ⟨call, _, present, holding, rfl⟩, shuts, shutdown_finds_no_holder run shuts⟩

/-- The probe of a second caller fails, and the caller drops the channel that it shares. -/
def staleRun : List Action :=
  newChannel 0 "desk" 7 ++
    [.connect 1 (relayServer "desk"), .lookUp 1, .probe 1 false, .dropStale 1]

/-- The delay of the idle job has passed when a second caller takes the channel over. -/
def lateRun : List Action :=
  newChannel 0 "desk" 7 ++
    [.disconnect 0 0 false, .release 0 1, .elapse 1, .connect 1 (relayServer "desk"), .lookUp 1,
      .probe 1 true, .deliver 1, .close 1]

theorem shared_channel_shut_down :
    (∃ before, Reaches step anyAction State.initial before ∧ Holds before 0 7 ∧
      Shuts before (.shutStale 1 true) 7) ∧
    ∃ before, Reaches step anyAction State.initial before ∧ Holds before 1 7 ∧
      Shuts before (.shut 1 false) 7 := by
  have shared (actions : List Action) (id : Nat) (action : Action)
      (evaluated : ∃ before ∈ runPermitted step anyAction State.initial actions,
        (∃ call ∈ before.calls.lookup id, call.phase = .holding ⟨"desk", 7⟩) ∧
        ∃ after ∈ step before action, after.shutdowns = before.shutdowns ++ [7]) :
      ∃ before, Reaches step anyAction State.initial before ∧ Holds before id 7 ∧
        Shuts before action 7 := by
    obtain ⟨before, run, ⟨call, present, holding⟩, shuts⟩ := reaches_of_evaluated actions evaluated
    exact ⟨before, run, ⟨call, _, present, holding, rfl⟩, shuts⟩
  constructor
  · refine shared staleRun 0 _ ?_
    decide +kernel
  · refine shared lateRun 1 _ ?_
    decide +kernel

end HandControl.SharedRelayUse
