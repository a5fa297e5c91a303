import HandControl.SharedRelayUse

/-!
# Relay connections that nobody closes

Whoever counts as a user of a cached channel gives the use back, and the last one starts a job that
closes the channel. A channel taken out of the cache is closed by the one who took it out. Two
callers that both find no entry break this: one replaces the entry of the other.
-/

namespace HandControl.RelayLeaks

open KeyedTable RelayConnections SharedRelayUse TransitionRuns Table

/-- A caller stores its channel where there is no entry and drops only the entry it has probed. No
call fails or is cancelled after it got a channel, and no `disconnect` is cancelled. -/
def Undisturbed (state : State) : Action → Prop
  | .store id => ∀ call ∈ state.calls.lookup id,
      state.cachedRelayConnections.lookup call.server.serverId = none
  | .dropStale id => ∀ call ∈ state.calls.lookup id, ∀ result ∈ call.phase.result?,
      ∀ cached ∈ state.cachedRelayConnections.lookup call.server.serverId,
        cached.result.channel = result.channel
  | .fail id _ => ∀ call ∈ state.calls.lookup id, call.phase.result? = none
  | .abandon id => ∀ call ∈ state.calls.lookup id, call.phase.result? = none
  | .abandonTask id => ∀ task ∈ state.tasks.lookup id, task.isJob = true
  | _ => True

instance (state : State) (action : Action) : Decidable (Undisturbed state action) := by
  rcases action <;> unfold Undisturbed <;> infer_instance

/-- A task will look for the channel of this result and close it. -/
def Guarded (state : State) (result : ConnectionResult) : Prop :=
  ∃ id task, state.tasks.lookup id = some task ∧ task.Armed ∧ task.result = result

/-- Somebody has the channel and will store it, cache it or close it. -/
inductive Pending (state : State) (channel : Nat) : Prop where
  | created (id : Nat) (call : RelayCall) (result : ConnectionResult)
      (present : state.calls.lookup id = some call) (phase_eq : call.phase = .created result)
      (same : result.channel = channel)
  | cached (serverId : String) (cached : CachedRelayConnection)
      (found : state.cachedRelayConnections.lookup serverId = some cached)
      (same : cached.result.channel = channel)
  | retired (retired : Retired state channel)

/-- The count of an entry is at most the number of its users, and somebody will close it. -/
structure Attended (state : State) (cached : CachedRelayConnection) : Prop where
  ranged : -2 ^ 31 ≤ cached.refCount
  counted : cached.refCount ≤ users state cached.result.channel
  closed : 0 < users state cached.result.channel ∨ Guarded state cached.result

/-- Only jobs are cancelled by the manager, and only calls of `disconnect` release. -/
structure Regular (task : Task) : Prop where
  calling : task.isJob = false → task.cancelled = false
  releasing : ∀ forceClose, task.phase = .releasing forceClose → task.isJob = false

def JobFor (state : State) (result : ConnectionResult) (job : Nat) : Prop :=
  ∃ task, state.tasks.lookup job = some task ∧ task.isJob = true ∧ task.result = result

structure Accounted (state : State) : Prop extends Owned state where
  regular : Table.Every Regular state.tasks
  jobs : ∀ serverId cached job, state.cachedRelayConnections.lookup serverId = some cached →
    cached.shutdownJob = some job → JobFor state cached.result job
  attended : Table.Every (Attended state) state.cachedRelayConnections
  channels : ∀ channel serverId, state.created.lookup channel = some serverId →
    Pending state channel
  down : ∀ channel ∈ state.down, channel ∈ state.shutdowns

variable {id channel : Nat} {new task : Task} {count : Int} {before after state : State}
variable {cached entry : CachedRelayConnection} {call : RelayCall} {forceClose : Bool}
variable {serverId : String} {result : ConnectionResult}

section

variable (guarded : Guarded state result)

include guarded

theorem Guarded.addTask
    (kept : ∀ old, state.tasks.lookup id = some old → old.Armed → old.result = result →
      new.Armed ∧ new.result = result) : Guarded (state.addTask id new) result := by
  obtain ⟨other, task, found, armed, same⟩ := guarded
  by_cases same_id : other = id
  · subst same_id
    exact ⟨other, new, AList.lookup_insert _, kept task found armed same⟩
  · exact ⟨other, task, (AList.lookup_insert_ne same_id).trans found, armed, same⟩

theorem Guarded.setTask {old : Task} (present : state.tasks.lookup id = some old)
    (other : old.Armed → old.result ≠ result) (next : TaskPhase) :
    Guarded (state.setTask id old next) result := by
  apply guarded.addTask
  intro found found_eq armed same
  rw [present] at found_eq
  cases found_eq
  exact absurd same (other armed)

theorem Guarded.cancelJob {job : Option Nat}
    (other : ∀ id task, job = some id → state.tasks.lookup id = some task →
      task.result ≠ result) : Guarded (state.cancelJob job) result := by
  obtain ⟨id, task, found, armed, same⟩ := guarded
  refine ⟨id, task, ?_, armed, same⟩
  have untouched : job ≠ some id := fun cancelled => other id task cancelled found same
  rw [cancelJob_lookup, found, Option.map_some, if_neg untouched]

end

theorem le_incremented (count : Int) : -2 ^ 31 ≤ incremented count := by
  unfold incremented Int.bmod
  dsimp only
  split_ifs <;> omega

theorem incremented_le (ranged : -2 ^ 31 ≤ count) : incremented count ≤ count + 1 := by
  unfold incremented Int.bmod
  dsimp only
  split_ifs <;> omega

theorem decremented_le {bound : Int} (pos : 0 < decremented count) (le : count ≤ bound + 1) :
    decremented count ≤ bound := by
  unfold decremented at pos ⊢
  split_ifs at pos ⊢ <;> omega

theorem Attended.kept (attended : Attended before cached)
    (more : users before cached.result.channel ≤ users after cached.result.channel)
    (guards : Guarded before cached.result → Guarded after cached.result) :
    Attended after cached where
  ranged := attended.ranged
  counted := attended.counted.trans (Int.ofNat_le.mpr more)
  closed := attended.closed.imp (fun used => used.trans_le more) guards

section

variable {action : Action}

theorem guarded_cancelJob (accounted : Accounted before) {first second : String}
    (entry_eq : before.cachedRelayConnections.lookup first = some entry)
    (cached_eq : before.cachedRelayConnections.lookup second = some cached)
    (untouched : second = first → ∀ job, cached.shutdownJob = some job → before.tasks.lookup job = none)
    (guarded : Guarded before cached.result) :
    Guarded (before.cancelJob entry.shutdownJob) cached.result := by
  apply guarded.cancelJob
  intro id task job_eq found same
  obtain ⟨_, job_found, _, result_eq⟩ := accounted.jobs first entry id entry_eq job_eq
  cases found.symm.trans job_found
  have own : second = first := by
    rw [← (accounted.cached second cached cached_eq).1, ← same, result_eq]
    exact (accounted.cached first entry entry_eq).1
  subst own
  cases entry_eq.symm.trans cached_eq
  cases found.symm.trans (untouched rfl id job_eq)

theorem Proceeds.counts_eq {next : Phase} (present : before.calls.lookup id = some call)
    (permitted : Undisturbed before action)
    (way : Proceeds before call.server id action call.phase next) (channel : Nat) :
    next.counts channel = call.phase.counts channel := by
  generalize phase_eq : call.phase = phase at way
  cases way with
  | lost | notDropped | notDelivered =>
    have none_made := permitted call present
    rw [phase_eq] at none_made
    cases none_made
  | missed | ready | unready | notMade | delivered | notStarted => rfl

theorem releases_of_ne (different : task.result.channel ≠ channel) :
    task.releases channel = false := by
  unfold Task.releases
  split
  · exact beq_eq_false_iff_ne.mpr different
  · rfl

theorem not_armed_of_releasing (phase_eq : task.phase = .releasing forceClose) : ¬ task.Armed := by
  rintro ⟨delaying | closing, _⟩
  · rw [phase_eq] at delaying
    cases delaying
  · rw [phase_eq] at closing
    cases closing

theorem guarded_released (present : before.tasks.lookup id = some task)
    (phase_eq : task.phase = .releasing forceClose) {job : Option Nat} {next : TaskPhase}
    (guarded : Guarded (before.cancelJob job) result) :
    Guarded (((before.cancelJob job).setCached serverId cached).setTask id task next) result := by
  apply Guarded.addTask guarded
  intro old old_eq armed _
  obtain ⟨_, found_eq, _, same_phase, _⟩ := cancelJob_found old_eq
  cases present.symm.trans found_eq
  exact absurd armed (not_armed_of_releasing (same_phase.trans phase_eq))

/-- An armed task of an entry that stays as it is goes on to look for its channel. -/
theorem guarded_move (accounted : Accounted before) (permitted : Undisturbed before action)
    (move : Move before action after)
    (earlier : before.cachedRelayConnections.lookup serverId = some cached)
    (found : after.cachedRelayConnections.lookup serverId = some cached)
    (guarded : Guarded before cached.result) : Guarded after cached.result := by
  cases move with
  | connects | proceeds | drops | shutsStale | creates | stores => exact guarded
  | reuses _ _ _ _ _ entry_eq =>
    refine guarded_cancelJob accounted entry_eq earlier ?_ guarded
    rintro rfl job job_eq
    cases (AList.lookup_insert _).symm.trans found
    cases job_eq
  | discards _ _ _ _ _ entry_eq =>
    refine guarded_cancelJob accounted entry_eq earlier ?_ guarded
    intro same
    exact absurd same (lookup_of_erase found).1
  | disconnects id task forceClose call result present phase_eq fresh =>
    apply Guarded.addTask guarded
    intro old old_eq
    cases fresh.symm.trans old_eq
  | taskProceeds _ _ task _ present way =>
    apply Guarded.addTask guarded
    intro old old_eq armed same
    cases present.symm.trans old_eq
    have listed : ¬ Unlisted before task.result := by
      intro absent
      rw [same] at absent
      exact absent cached ((accounted.cached serverId cached earlier).1 ▸ earlier) rfl
    generalize phase_eq : task.phase = phase at way
    cases way with
    | unlisted _ _ absent | nothing absent => exact absurd absent listed
    | elapsed live => exact ⟨⟨Or.inr rfl, live⟩, same⟩
    | abandoned _ ends => cases armed.2.symm.trans (ends (permitted task present))
  | forces id job task entry present phase_eq entry_eq
  | keeps _ job _ _ present phase_eq entry_eq =>
    apply guarded_released present phase_eq
    refine guarded_cancelJob accounted entry_eq earlier ?_ guarded
    rintro rfl job job_eq
    cases (AList.lookup_insert _).symm.trans found
    cases job_eq
  | schedules _ job _ _ present phase_eq entry_eq _ _ fresh =>
    apply Guarded.addTask
    · apply guarded_released present phase_eq
      refine guarded_cancelJob accounted entry_eq earlier ?_ guarded
      rintro rfl job job_eq
      cases (AList.lookup_insert _).symm.trans found
      cases job_eq
      exact fresh
    · intro old old_eq
      cases (lookup_job_eq_none present fresh).symm.trans old_eq
  | closes _ _ _ present =>
    apply Guarded.setTask guarded present
    intro _ equal
    apply (lookup_of_erase found).1
    rw [equal]
    exact (accounted.cached serverId cached earlier).1.symm
  | shuts _ _ _ present phase_eq =>
    apply Guarded.setTask guarded present
    rintro ⟨delaying | closing, _⟩
    · cases phase_eq.symm.trans delaying
    · cases phase_eq.symm.trans closing

theorem TaskProceeds.unreleased {next : TaskPhase} (accounted : Accounted before)
    (permitted : Undisturbed before action) (present : before.tasks.lookup id = some task)
    (way : TaskProceeds before task id action task.phase next)
    (found : before.cachedRelayConnections.lookup serverId = some cached) :
    task.releases cached.result.channel = false := by
  generalize phase_eq : task.phase = phase at way
  cases way with
  | unlisted _ _ absent =>
    apply releases_of_ne
    intro same
    have known := (accounted.cached serverId cached found).2
    rw [← same, accounted.tasks id task present] at known
    exact absent cached ((Option.some.inj known) ▸ found) same.symm
  | elapsed | nothing => simp [Task.releases, phase_eq]
  | abandoned =>
    have isJob := permitted task present
    unfold Task.releases
    split
    · rename_i forceClose releasing
      rw [(accounted.regular id task present).releasing forceClose releasing] at isJob
      cases isJob
    · rfl

theorem attended_move (accounted : Accounted before) (permitted : Undisturbed before action)
    (move : Move before action after) :
    Table.Every (Attended after) after.cachedRelayConnections := by
  intro serverId cached found
  have kept (earlier : before.cachedRelayConnections.lookup serverId = some cached)
      (more : users before cached.result.channel ≤ users after cached.result.channel) :
      Attended after cached :=
    (accounted.attended serverId cached earlier).kept more
      (guarded_move accounted permitted move earlier found)
  cases entry_origin accounted.toOwned move found with
  | kept earlier same => exact kept earlier same.ge
  | proceeds _ _ _ earlier present way count =>
    rw [Proceeds.counts_eq present permitted way] at count
    exact kept earlier (Nat.add_right_cancel count).ge
  | taskProceeds _ _ _ earlier present way count =>
    rw [TaskProceeds.unreleased accounted permitted present way earlier] at count
    exact kept earlier count.ge
  | repeated _ _ _ _ _ _ earlier _ _ more => exact kept earlier more
  | reused _ _ entry _ _ _ entry_eq written =>
    subst written
    have attended := accounted.attended _ entry entry_eq
    have counted := attended.counted
    have grown := incremented_le attended.ranged
    refine ⟨le_incremented _, ?_, Or.inl ?_⟩
    · dsimp only
      omega
    · dsimp only
      omega
  | stored _ _ _ _ _ written =>
    subst written
    refine ⟨by norm_num, ?_, Or.inl ?_⟩
    · dsimp only
      omega
    · dsimp only
      omega
  | forced id task _ present phase_eq same written later =>
    subst written
    have regular := accounted.regular id task present
    have called := regular.calling (regular.releasing true phase_eq)
    refine ⟨by norm_num, Int.natCast_nonneg _, Or.inr ?_⟩
    exact ⟨id, _, later, ⟨Or.inr rfl, called⟩, same⟩
  | released entry used entry_eq written less =>
    subst written
    have counted := (accounted.attended _ entry entry_eq).counted
    have shrunk := decremented_le used (counted.trans (by
      rw [← Int.natCast_succ, Int.ofNat_le]
      exact less.ge))
    refine ⟨?_, shrunk, Or.inl ?_⟩
    · dsimp only
      omega
    · dsimp only
      omega
  | scheduled job entry unused entry_eq written launched =>
    subst written
    have ranged := (accounted.attended _ entry entry_eq).ranged
    refine ⟨?_, unused.trans (Int.natCast_nonneg _), Or.inr ?_⟩
    · have shrunk := decremented_ge entry.refCount
      unfold decremented
      dsimp only
      split_ifs <;> omega
    · exact ⟨job, _, launched, ⟨Or.inl rfl, rfl⟩, rfl⟩

theorem regular_move (accounted : Accounted before) (move : Move before action after) :
    Table.Every Regular after.tasks := by
  intro id task found
  cases move.task_before found with
  | kept _ present => exact accounted.regular id task present
  | cancelled old present serverId entry entry_eq own =>
    obtain ⟨_, job_eq, isJob, _⟩ := accounted.jobs serverId entry id entry_eq own
    cases present.symm.trans job_eq
    refine ⟨?_, (accounted.regular id old present).releasing⟩
    intro call
    cases call.symm.trans isJob
  | turned old next present way =>
    refine ⟨(accounted.regular id old present).calling, ?_⟩
    rintro forceClose rfl
    generalize old.phase = phase at way
    cases way with
    | proceeds way => rcases way.next_eq with next | next <;> cases next
  | called => exact ⟨fun _ => rfl, fun _ _ => rfl⟩
  | launched =>
    constructor
    · intro call
      cases call
    · intro _ releasing
      cases releasing

theorem JobFor.move {job : Nat} (jobFor : JobFor before result job)
    (move : Move before action after) : JobFor after result job := by
  obtain ⟨_, present, isJob, same⟩ := jobFor
  obtain ⟨later, later_eq⟩ := move.task_after present
  refine ⟨later, later_eq, ?_⟩
  cases move.task_before later_eq with
  | kept _ old_eq | cancelled _ old_eq | turned _ _ old_eq =>
    cases present.symm.trans old_eq
    exact ⟨isJob, same⟩
  | called _ _ _ _ _ fresh | launched _ _ fresh => cases present.symm.trans fresh

theorem jobs_move (accounted : Accounted before) (move : Move before action after)
    (serverId : String) (cached : CachedRelayConnection) (job : Nat)
    (found : after.cachedRelayConnections.lookup serverId = some cached)
    (job_eq : cached.shutdownJob = some job) : JobFor after cached.result job := by
  cases entry_origin accounted.toOwned move found with
  | kept earlier | proceeds _ _ _ earlier | taskProceeds _ _ _ earlier
  | repeated _ _ _ _ _ _ earlier =>
    exact (accounted.jobs serverId cached job earlier job_eq).move move
  | reused _ _ _ _ _ _ _ written | stored _ _ _ _ _ written | forced _ _ _ _ _ _ written
  | released _ _ _ written =>
    subst written
    cases job_eq
  | scheduled _ _ _ _ written launched =>
    subst written
    cases job_eq
    exact ⟨_, launched, rfl, rfl⟩

theorem down_move (accounted : Accounted before) (move : Move before action after) :
    ∀ channel ∈ after.down, channel ∈ after.shutdowns := by
  have shut (channel : Nat) (carriedOut : Bool) :
      ∀ other ∈ (before.shutdownChannel channel carriedOut).down,
        other ∈ (before.shutdownChannel channel carriedOut).shutdowns := by
    intro other member
    apply List.mem_append.mpr
    cases carriedOut with
    | false => exact Or.inl (accounted.down other member)
    | true =>
      rcases List.mem_cons.mp member with rfl | earlier
      · exact Or.inr (List.mem_singleton_self other)
      · exact Or.inl (accounted.down other earlier)
  cases move with
  | connects | proceeds | drops | creates | stores | disconnects | taskProceeds | closes =>
    exact accounted.down
  | reuses id call entry | discards id call entry | forces _ _ _ entry | keeps _ _ _ entry
  | schedules _ _ _ entry =>
    intro channel member
    have member_before : channel ∈ before.down := by
      rw [← cancelJob_down before entry.shutdownJob]
      exact member
    have called := accounted.down channel member_before
    rw [← cancelJob_shutdowns before entry.shutdownJob] at called
    exact called
  | shutsStale | shuts => exact shut _ _

section

variable (move : Move before action after)

include move

/-- Whoever drops a channel goes on to shut it down. -/
theorem dropping_after (present : before.calls.lookup id = some call)
    (phase_eq : call.phase = .dropping result) : Retired after result.channel := by
  rcases move.call_after present with still | ⟨_, way⟩
  · exact .dropping id call result still phase_eq rfl
  · rw [phase_eq] at way
    cases way with
    | proceeds way => exact absurd rfl (way.phase_ne result)
    | shuts _ _ called => exact .called called
    | disconnects _ _ _ held => rcases held with held | held <;> cases held

/-- Whoever has taken a channel out of the cache goes on to shut it down. -/
theorem shutting_after (present : before.tasks.lookup id = some task)
    (phase_eq : task.phase = .shutting) : Retired after task.result.channel := by
  obtain ⟨_, later_eq⟩ := move.task_after present
  cases move.task_before later_eq with
  | kept _ old_eq | cancelled _ old_eq =>
    cases present.symm.trans old_eq
    exact .shutting id _ later_eq phase_eq rfl
  | turned _ _ old_eq way =>
    cases present.symm.trans old_eq
    rw [phase_eq] at way
    cases way with
    | proceeds way => exact absurd rfl way.phase_ne
    | shuts _ called => exact .called called
  | called _ _ _ _ _ fresh | launched _ _ fresh => cases present.symm.trans fresh

theorem called_after (member : channel ∈ before.shutdowns) : channel ∈ after.shutdowns := by
  cases move with
  | connects | proceeds | drops | creates | stores | disconnects | taskProceeds | closes =>
    exact member
  | reuses id call entry | discards id call entry | forces _ _ _ entry | keeps _ _ _ entry
  | schedules _ _ _ entry =>
    rw [← cancelJob_shutdowns before entry.shutdownJob] at member
    exact member
  | shutsStale | shuts => exact List.mem_append_left _ member

theorem retired_after (retired : Retired before channel) : Retired after channel := by
  cases retired with
  | dropping _ _ _ present phase_eq same =>
    subst same
    exact dropping_after move present phase_eq
  | shutting _ _ present phase_eq same =>
    subst same
    exact shutting_after move present phase_eq
  | called member => exact .called (called_after move member)

end

theorem created_after (permitted : Undisturbed before action) (move : Move before action after)
    (present : before.calls.lookup id = some call) (phase_eq : call.phase = .created result) :
    Pending after result.channel := by
  rcases move.call_after present with still | ⟨_, way⟩
  · exact .created id call result still phase_eq rfl
  · rw [phase_eq] at way
    cases way with
    | proceeds way =>
      cases way with
      | lost =>
        have none_made := permitted call present
        rw [phase_eq] at none_made
        cases none_made
    | stores _ stored => exact .cached _ _ stored rfl
    | disconnects _ _ _ held => rcases held with held | held <;> cases held

section

variable (accounted : Accounted before) (permitted : Undisturbed before action)
  (move : Move before action after)

include accounted permitted move

/-- An entry stays, or whoever takes it out shuts its channel down. -/
theorem cached_after (found : before.cachedRelayConnections.lookup serverId = some cached) :
    Pending after cached.result.channel := by
  have kept (still : after.cachedRelayConnections.lookup serverId = some cached) :
      Pending after cached.result.channel := .cached serverId cached still rfl
  -- An entry that is kept with another count has the same channel.
  have recounted {other : String} {entry written : CachedRelayConnection}
      (entry_eq : before.cachedRelayConnections.lookup other = some entry)
      (after_eq : after.cachedRelayConnections =
        (before.cancelJob entry.shutdownJob).cachedRelayConnections.insert other written)
      (same_result : written.result = entry.result) : Pending after cached.result.channel := by
    rw [cancelJob_cached] at after_eq
    by_cases same : serverId = other
    · subst same
      rw [found] at entry_eq
      cases entry_eq
      have still : after.cachedRelayConnections.lookup serverId = some written := by
        rw [after_eq]
        exact AList.lookup_insert _
      exact .cached serverId written still (by rw [same_result])
    · apply kept
      rw [after_eq]
      exact (AList.lookup_insert_ne same).trans found
  cases move with
  | connects | proceeds | shutsStale | creates | disconnects | taskProceeds | shuts =>
    exact kept found
  | reuses _ _ _ _ _ entry_eq => exact recounted entry_eq rfl rfl
  | discards _ call entry _ _ entry_eq down =>
    by_cases same : serverId = call.server.serverId
    · subst same
      rw [found] at entry_eq
      cases entry_eq
      apply Pending.retired (.called _)
      show _ ∈ (before.cancelJob cached.shutdownJob).shutdowns
      rw [cancelJob_shutdowns]
      exact accounted.down _ down
    · apply kept
      show AList.lookup serverId (AList.erase call.server.serverId
        (before.cancelJob entry.shutdownJob).cachedRelayConnections) = some cached
      rw [AList.lookup_erase_ne same, cancelJob_cached, found]
  | drops id call result present phase_eq =>
    by_cases same : serverId = call.server.serverId
    · subst same
      have own := permitted call present result (by simp [phase_eq, Phase.result?]) cached found
      exact .retired (.dropping id _ result (AList.lookup_insert _) rfl own.symm)
    · exact kept ((AList.lookup_erase_ne same).trans found)
  | stores _ call _ present =>
    have vacant := permitted call present
    exact kept (lookup_insert_of_absent vacant found _)
  | forces _ _ _ _ _ _ entry_eq | keeps _ _ _ _ _ _ entry_eq | schedules _ _ _ _ _ _ entry_eq =>
    exact recounted entry_eq rfl rfl
  | closes id task _ _ _ entry_eq same =>
    by_cases same_server : serverId = task.result.serverId
    · subst same_server
      rw [found] at entry_eq
      cases entry_eq
      exact .retired (.shutting id _ (AList.lookup_insert _) rfl same.symm)
    · exact kept ((AList.lookup_erase_ne same_server).trans found)

theorem pending_after (pending : Pending before channel) : Pending after channel := by
  cases pending with
  | created _ _ _ present phase_eq same =>
    subst same
    exact created_after permitted move present phase_eq
  | cached _ _ found same =>
    subst same
    exact cached_after accounted permitted move found
  | retired retired => exact .retired (retired_after move retired)

theorem channels_move (channel : Nat) (serverId : String)
    (known : after.created.lookup channel = some serverId) : Pending after channel := by
  have kept (earlier : before.created.lookup channel = some serverId) : Pending after channel :=
    pending_after accounted permitted move (accounted.channels channel serverId earlier)
  cases move with
  | connects | proceeds | drops | shutsStale | stores | disconnects | taskProceeds | closes
  | shuts => exact kept known
  | reuses id call entry | discards id call entry | forces _ _ _ entry | keeps _ _ _ entry
  | schedules _ _ _ entry =>
    exact kept (by rw [← cancelJob_created before entry.shutdownJob]; exact known)
  | creates id =>
    rcases lookup_insert_split known with ⟨_, earlier⟩ | ⟨rfl, _⟩
    · exact kept earlier
    · exact .created id _ _ (AList.lookup_insert _) rfl rfl

end

end

theorem accounted_initial : Accounted State.initial where
  toOwned := owned_initial
  regular id task found := by simp [State.initial] at found
  jobs serverId cached job found := by simp [State.initial] at found
  attended serverId cached found := by simp [State.initial] at found
  channels channel serverId known := by simp [State.initial] at known
  down channel member := by simp [State.initial] at member

theorem accounted_move {action : Action} (accounted : Accounted before)
    (permitted : Undisturbed before action) (move : Move before action after) :
    Accounted after where
  toOwned := owned_move accounted.toOwned move
  regular := regular_move accounted move
  jobs := jobs_move accounted move
  attended := attended_move accounted permitted move
  channels := channels_move accounted permitted move
  down := down_move accounted move

theorem accounted_of_reaches (run : Reaches step Undisturbed State.initial state) :
    Accounted state :=
  run.invariant accounted_initial fun _ _ _ accounted permitted moved =>
    accounted_move accounted permitted (move_of_step moved)

def ended : Phase → Bool
  | .disconnected _ | .cancelled | .failed _ => true
  | _ => false

/-- Every caller has disconnected its result or has got none, and no call of `disconnect` and no
job is going on. -/
structure Quiescent (state : State) : Prop where
  calls : Table.Every (fun call => ended call.phase = true) state.calls
  tasks : Table.Every (fun task => task.phase = .finished) state.tasks

theorem users_of_quiescent (quiescent : Quiescent state) (channel : Nat) :
    users state channel = 0 := by
  have no_calls : count (fun call => call.phase.counts channel) state.calls = 0 := by
    rw [count_eq_zero_iff]
    intro id call found
    have ended_eq : ended call.phase = true := quiescent.calls id call found
    generalize call.phase = phase at ended_eq
    cases phase <;> first | rfl | cases ended_eq
  have no_tasks : count (Task.releases channel) state.tasks = 0 := by
    rw [count_eq_zero_iff]
    intro id task found
    simp [Task.releases, quiescent.tasks id task found]
  unfold users
  omega

theorem uncached_of_quiescent (accounted : Accounted state) (quiescent : Quiescent state)
    (serverId : String) : state.cachedRelayConnections.lookup serverId = none := by
  rw [Option.eq_none_iff_forall_ne_some]
  intro cached found
  rcases (accounted.attended serverId cached found).closed with used | guarded
  · rw [users_of_quiescent quiescent] at used
    exact absurd used (lt_irrefl 0)
  · obtain ⟨id, task, task_eq, ⟨delaying | closing, _⟩, _⟩ := guarded
    · rw [quiescent.tasks id task task_eq] at delaying
      cases delaying
    · rw [quiescent.tasks id task task_eq] at closing
      cases closing

/-- When everything has come to rest, `shutdownChannel` has been called on every channel, and
the cache is empty. -/
theorem every_channel_shut_down {state : State}
    (run : Reaches step Undisturbed State.initial state) (quiescent : Quiescent state) :
    (∀ channel serverId, state.created.lookup channel = some serverId →
      channel ∈ state.shutdowns) ∧
    ∀ serverId, state.cachedRelayConnections.lookup serverId = none := by
  have accounted := accounted_of_reaches run
  have uncached := uncached_of_quiescent accounted quiescent
  refine ⟨?_, uncached⟩
  intro channel serverId known
  cases accounted.channels channel serverId known with
  | created id call _ present phase_eq =>
    have ended_eq : ended call.phase = true := quiescent.calls id call present
    rw [phase_eq] at ended_eq
    cases ended_eq
  | cached owner _ found =>
    rw [uncached owner] at found
    cases found
  | retired retired =>
    cases retired with
    | dropping id call _ present phase_eq =>
      have ended_eq : ended call.phase = true := quiescent.calls id call present
      rw [phase_eq] at ended_eq
      cases ended_eq
    | shutting id task present phase_eq =>
      have finished : task.phase = .finished := quiescent.tasks id task present
      rw [phase_eq] at finished
      cases finished
    | called member => exact member

instance (state : State) : Decidable (Quiescent state) :=
  decidable_of_iff (Table.Every (fun call => ended call.phase = true) state.calls ∧
    Table.Every (fun task => task.phase = .finished) state.tasks)
    ⟨fun rest => ⟨rest.1, rest.2⟩, fun rest => ⟨rest.calls, rest.tasks⟩⟩

/-- The second caller takes the channel of the first one over before the idle job runs. -/
def sharedRun : List Action :=
  newChannel 0 "desk" 7 ++
    [.disconnect 0 0 false, .release 0 1, .connect 1 (relayServer "desk"), .lookUp 1,
      .abandonTask 1, .probe 1 true, .deliver 1, .disconnect 1 2 false, .release 2 3, .elapse 3,
      .close 3, .shut 3 true]

theorem shared_channel_shut_down_once :
    ∃ state, Reaches step Undisturbed State.initial state ∧ Quiescent state ∧
      state.shutdowns = [7] ∧
      (∀ channel serverId, state.created.lookup channel = some serverId →
        channel ∈ state.shutdowns) ∧
      ∀ serverId, state.cachedRelayConnections.lookup serverId = none := by
  obtain ⟨state, run, quiescent, shutdowns_eq⟩ :
      ∃ state, Reaches step Undisturbed State.initial state ∧ Quiescent state ∧
        state.shutdowns = [7] :=
    reaches_of_evaluated sharedRun (by decide +kernel)
  exact ⟨state, run, quiescent, shutdowns_eq, every_channel_shut_down run quiescent⟩

/-- Both callers find no entry, and the second one replaces the entry of the first. -/
def overwritingRun : List Action :=
  [.connect 0 (relayServer "desk"), .connect 1 (relayServer "desk"), .lookUp 0, .lookUp 1,
    .create 0 7, .create 1 8, .store 0, .store 1, .deliver 0, .deliver 1,
    .disconnect 0 0 false, .release 0 9, .close 0,
    .disconnect 1 1 false, .release 1 2, .elapse 2, .close 2, .shut 2 true]

/-- Both results are disconnected and the job has run, but one channel is never shut down. -/
theorem overwritten_channel_leaks :
    ∃ state, Reaches step anyAction State.initial state ∧ Quiescent state ∧
      7 ∈ state.created ∧ 7 ∉ state.shutdowns := by
  refine reaches_of_evaluated overwritingRun ?_
  decide +kernel

end HandControl.RelayLeaks
