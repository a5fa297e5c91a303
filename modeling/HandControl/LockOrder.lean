import HandControl.LockPrograms

/-!
# Deadlocks and the order of locks

A program takes locks of rising rank, and may take a lock shared that it already holds shared. Such
a nested acquisition waits for a thread that queues exclusively, which waits for the first guard.
Threads with ordered programs never deadlock as long as no thread queues exclusively for a lock that
another one holds and will take again.
-/

namespace HandControl.LockOrder

open KeyedTable LockPrograms

variable {Lock : Type} [DecidableEq Lock]

/-- The waiting thread wants a lock that the other one holds, or for which the other one
queues exclusively: before it, or anywhere in the queue if the lock is wanted shared. -/
def Blocks (other waiting : Thread Lock) : Prop :=
  ∃ access lock, waiting.waitingFor = some (access, lock) ∧
    ((∃ held, (held, lock) ∈ other.held) ∨
      other.waitingFor = some (.exclusive, lock) ∧
        (access = .shared ∨ ∃ early late, other.ticket = some early ∧
          waiting.ticket = some late ∧ early < late))

/-- Every member waits for a lock that a member holds or queues for. -/
structure Deadlocked (threads : Threads Lock) (members : Set Nat) : Prop where
  nonempty : members.Nonempty
  blocked : ∀ number ∈ members, ∃ thread, threads.table.lookup number = some thread ∧
    ∃ other ∈ members, ∃ blocker, threads.table.lookup other = some blocker ∧
      Blocks blocker thread

/-- The program takes every lock above those it holds, or again as a shared lock. -/
def isOrdered (rank : Lock → Nat) : Guards Lock → Program Lock → Bool
  | _, .done => true
  | held, .acquire access lock rest =>
    ((access = .shared ∧ (.shared, lock) ∈ held) ∨
        ∀ guard ∈ held, rank guard.2 < rank lock) &&
      isOrdered rank ((access, lock) :: held) rest
  | held, .release lock rest => isOrdered rank (dropGuard lock held) rest
  | held, .choose left right => isOrdered rank held left && isOrdered rank held right

/-- On some branch the program takes the lock while it holds it shared. -/
def nestsAhead (lock : Lock) : Guards Lock → Program Lock → Bool
  | _, .done => false
  | held, .acquire access other rest =>
    (access = .shared ∧ other = lock ∧ (.shared, lock) ∈ held) ||
      nestsAhead lock ((access, other) :: held) rest
  | held, .release other rest => nestsAhead lock (dropGuard other held) rest
  | held, .choose left right => nestsAhead lock held left || nestsAhead lock held right

/-- A thread queues exclusively only while no thread that holds the lock shared will take it
again. -/
def QueuesCalmly (threads : Threads Lock) (action : ThreadAction) : Prop :=
  ∀ number thread lock, action = .lock number → threads.table.lookup number = some thread →
    thread.remaining.wanted = some (.exclusive, lock) →
      Table.Every (fun other => (.shared, lock) ∈ other.held →
        nestsAhead lock other.held other.remaining = false) threads.table

instance (threads : Threads Lock) (action : ThreadAction) :
    Decidable (QueuesCalmly threads action) := by
  cases action with
  | lock number =>
    exact decidable_of_iff (∀ thread ∈ threads.table.lookup number,
      ∀ wanted ∈ thread.remaining.wanted, wanted.1 = .exclusive →
        Table.Every (fun other : Thread Lock => (.shared, wanted.2) ∈ other.held →
          nestsAhead wanted.2 other.held other.remaining = false) threads.table)
      ⟨by rintro holds _ thread lock ⟨⟩ found wanted; exact holds thread found _ wanted rfl,
        by rintro holds thread found ⟨_, lock⟩ wanted ⟨⟩; exact holds _ thread lock rfl found wanted⟩
  | _ => exact isTrue (by simp [QueuesCalmly])

/-- A thread on its way through an ordered program, which never waits for a nested
acquisition. -/
structure Disciplined (rank : Lock → Nat) (thread : Thread Lock) : Prop where
  ordered : isOrdered rank thread.held thread.remaining = true
  unnested : ∀ lock, thread.waitingFor = some (.shared, lock) → (.shared, lock) ∉ thread.held

/-- No lock is held in both ways, and a thread that queues exclusively has not met a
holder that takes the lock again. -/
structure Compatible (thread other : Thread Lock) : Prop where
  exclusion : ∀ lock, (.exclusive, lock) ∈ thread.held → (.shared, lock) ∉ other.held
  calm : ∀ lock, thread.waitingFor = some (.exclusive, lock) → (.shared, lock) ∈ other.held →
    nestsAhead lock other.held other.remaining = false

structure LockInvariant (rank : Lock → Nat) (threads : Threads Lock) : Prop where
  disciplined : Table.Every (Disciplined rank) threads.table
  compatible : Table.Pairs Compatible threads.table

omit [DecidableEq Lock] in
@[simp] theorem waitingFor_none (remaining : Program Lock) (held : Guards Lock) :
    Thread.waitingFor ⟨remaining, held, none⟩ = none := rfl

variable {rank : Lock → Nat} {remaining : Program Lock} {held : Guards Lock} {number : Nat}
variable {access : Access} {ticket : Option Nat} {members : Set Nat}

theorem Disciplined.of_running (ordered : isOrdered rank held remaining = true) :
    Disciplined rank ⟨remaining, held, none⟩ :=
  ⟨ordered, fun lock waits => by simp at waits⟩

variable {thread other : Thread Lock}

theorem Compatible.of_fewer (fewer : held ⊆ thread.held)
    (ahead : ∀ lock, nestsAhead lock thread.held thread.remaining = false →
      nestsAhead lock held remaining = false) (there : Compatible thread other)
    (back : Compatible other thread) :
    Compatible ⟨remaining, held, none⟩ other ∧ Compatible other ⟨remaining, held, none⟩ := by
  constructor
  · constructor
    · intro lock exclusive
      exact there.exclusion lock (fewer exclusive)
    · intro lock waits
      simp at waits
  · constructor
    · intro lock exclusive shared
      exact back.exclusion lock exclusive (fewer shared)
    · intro lock waits shared
      exact ahead lock (back.calm lock waits (fewer shared))

theorem Compatible.self_of_fewer (fewer : held ⊆ thread.held) (self : Compatible thread thread) :
    Compatible (⟨remaining, held, none⟩ : Thread Lock) ⟨remaining, held, none⟩ := by
  constructor
  · intro lock exclusive shared
    exact self.exclusion lock (fewer exclusive) (fewer shared)
  · intro lock waits
    simp at waits

variable {threads after : Threads Lock}

theorem LockInvariant.insert_fewer (invariant : LockInvariant rank threads)
    (present : threads.table.lookup number = some thread)
    (ordered : isOrdered rank held remaining = true) (fewer : held ⊆ thread.held)
    (ahead : ∀ lock, nestsAhead lock thread.held thread.remaining = false →
      nestsAhead lock held remaining = false)
    (after_eq : after.table = threads.table.insert number ⟨remaining, held, none⟩) :
    LockInvariant rank after := by
  constructor
  · rw [after_eq]
    exact invariant.disciplined.insert number (Disciplined.of_running ordered)
  · rw [after_eq]
    apply invariant.compatible.insert number
    · apply Compatible.self_of_fewer fewer
      exact invariant.compatible number number thread thread present present
    · intro other found found_eq
      apply Compatible.of_fewer fewer ahead
      · exact invariant.compatible number other thread found present found_eq
      · exact invariant.compatible other number found thread found_eq present

variable {lock : Lock} {rest : Program Lock}

theorem Compatible.of_available {found : Nat} (free : threads.available access lock = true)
    (found_eq : threads.table.lookup found = some other)
    (there : Compatible ⟨.acquire access lock rest, held, ticket⟩ other)
    (back : Compatible other ⟨.acquire access lock rest, held, ticket⟩) :
    Compatible ⟨rest, (access, lock) :: held, none⟩ other ∧
      Compatible other ⟨rest, (access, lock) :: held, none⟩ := by
  have unhindered := (available_iff threads access lock).mp free found other found_eq
  constructor
  · constructor
    · intro taken exclusive
      rcases List.mem_cons.mp exclusive with new | old
      · cases new
        exact (hinders_exclusive_iff other lock).mp unhindered .shared
      · exact there.exclusion taken old
    · intro taken waits
      simp at waits
  · constructor
    · intro taken exclusive shared
      rcases List.mem_cons.mp shared with new | old
      · cases new
        exact ((hinders_shared_iff other lock).mp unhindered).1 exclusive
      · exact back.exclusion taken exclusive old
    · intro taken waits shared
      rcases List.mem_cons.mp shared with new | old
      · cases new
        exact absurd waits ((hinders_shared_iff other lock).mp unhindered).2
      · have before := back.calm taken waits old
        simp only [nestsAhead, Bool.or_eq_false_iff] at before
        exact before.2

theorem Compatible.self_of_available (held_eq : thread.held = held)
    (unhindered : thread.hinders lock access = false) (self : Compatible thread thread) :
    Compatible ⟨rest, (access, lock) :: held, none⟩ ⟨rest, (access, lock) :: held, none⟩ := by
  subst held_eq
  constructor
  · intro taken exclusive shared
    rcases List.mem_cons.mp exclusive with new | old
    · cases new
      rcases List.mem_cons.mp shared with same | earlier
      · cases same
      · exact (hinders_exclusive_iff thread lock).mp unhindered .shared earlier
    · rcases List.mem_cons.mp shared with same | earlier
      · cases same
        exact ((hinders_shared_iff thread lock).mp unhindered).1 old
      · exact self.exclusion taken old earlier
  · intro taken waits
    simp at waits

section

variable (invariant : LockInvariant rank threads)

include invariant

theorem LockInvariant.insert_locked
    (present : threads.table.lookup number = some ⟨.acquire access lock rest, held, ticket⟩)
    (free : threads.available access lock = true)
    (after_eq : after.table =
      threads.table.insert number ⟨rest, (access, lock) :: held, none⟩) :
    LockInvariant rank after := by
  have ordered := (invariant.disciplined number _ present).ordered
  simp only [isOrdered, Bool.and_eq_true] at ordered
  have unhindered := (available_iff threads access lock).mp free number _ present
  constructor
  · rw [after_eq]
    exact invariant.disciplined.insert number (Disciplined.of_running ordered.2)
  · rw [after_eq]
    apply invariant.compatible.insert number
    · apply Compatible.self_of_available _ unhindered
      · exact invariant.compatible number number _ _ present present
      · rfl
    · intro other found found_eq
      apply Compatible.of_available free found_eq
      · exact invariant.compatible number other _ found present found_eq
      · exact invariant.compatible other number found _ found_eq present

/-- A thread that has to queue for a lock shared does not hold it: the one in its way would
have met a holder that takes the lock again. -/
theorem LockInvariant.queue_unnested
    (present : threads.table.lookup number = some ⟨.acquire .shared lock rest, held, ticket⟩)
    (taken : threads.available .shared lock = false) : (.shared, lock) ∉ held := by
  intro nested
  have free : threads.available .shared lock = true := by
    rw [available_iff]
    intro other found found_eq
    have compatible := invariant.compatible other number found _ found_eq present
    rw [hinders_shared_iff]
    constructor
    · intro exclusive
      exact compatible.exclusion lock exclusive nested
    · intro waits
      have calm := compatible.calm lock waits nested
      simp [nestsAhead, nested] at calm
  simp [free] at taken

theorem LockInvariant.insert_queued {newTicket : Nat} (calmly : QueuesCalmly threads (.lock number))
    (present : threads.table.lookup number = some ⟨.acquire access lock rest, held, ticket⟩)
    (taken : threads.available access lock = false)
    (after_eq : after.table =
      threads.table.insert number ⟨.acquire access lock rest, held, some newTicket⟩) :
    LockInvariant rank after := by
  have calm_new (other : Thread Lock) (found : Nat)
      (found_eq : threads.table.lookup found = some other) (wanted : Lock)
      (waits : some (access, lock) = some (.exclusive, wanted))
      (shared : (.shared, wanted) ∈ other.held) :
      nestsAhead wanted other.held other.remaining = false := by
    cases waits
    exact calmly number _ lock rfl present rfl found other found_eq shared
  have self := invariant.compatible number number _ _ present present
  constructor
  · rw [after_eq]
    apply invariant.disciplined.insert number
    constructor
    · exact (invariant.disciplined number _ present).ordered
    · intro wanted waits
      have same : some (access, lock) = some (.shared, wanted) := waits
      cases same
      exact invariant.queue_unnested present taken
  · rw [after_eq]
    apply invariant.compatible.insert number
    · constructor
      · exact self.exclusion
      · exact calm_new ⟨.acquire access lock rest, held, ticket⟩ number present
    · intro other found found_eq
      have there := invariant.compatible number other _ found present found_eq
      have back := invariant.compatible other number found _ found_eq present
      exact ⟨⟨there.exclusion, calm_new found other found_eq⟩, ⟨back.exclusion, back.calm⟩⟩

theorem LockInvariant.step {action : ThreadAction} (calmly : QueuesCalmly threads action)
    (moved : stepThreads threads action = some after) : LockInvariant rank after := by
  rcases stepThreads_advance moved with ⟨number, thread, _, present, advance, after_eq⟩
  have ordered := (invariant.disciplined number thread present).ordered
  cases advance with
  | branch _ _ side =>
    simp only [isOrdered, Bool.and_eq_true] at ordered
    rcases side with first | second
    · subst first
      apply invariant.insert_fewer present ordered.1 (List.Subset.refl _) _ after_eq
      intro lock ahead
      simp only [nestsAhead, Bool.or_eq_false_iff] at ahead
      exact ahead.1
    · subst second
      apply invariant.insert_fewer present ordered.2 (List.Subset.refl _) _ after_eq
      intro lock ahead
      simp only [nestsAhead, Bool.or_eq_false_iff] at ahead
      exact ahead.2
  | unlock =>
    simp only [isOrdered] at ordered
    apply invariant.insert_fewer present ordered (dropGuard_subset _ _) _ after_eq
    intro lock ahead
    exact ahead
  | lock _ free => exact invariant.insert_locked present free after_eq
  | queue _ taken => exact invariant.insert_queued calmly present taken after_eq

theorem LockInvariant.start {program : Program Lock} (ordered : isOrdered rank [] program = true)
    (started : threads.start number program = some after) : LockInvariant rank after := by
  have after_eq := start_table started
  constructor
  · rw [after_eq]
    exact invariant.disciplined.insert number (Disciplined.of_running ordered)
  · rw [after_eq]
    apply invariant.compatible.insert number
    · constructor
      · intro lock exclusive
        cases exclusive
      · intro lock waits
        simp at waits
    · intro other found found_eq
      constructor
      · constructor
        · intro lock exclusive
          cases exclusive
        · intro lock waits
          simp at waits
      · constructor
        · intro lock _ shared
          cases shared
        · intro lock _ shared
          cases shared

end

theorem LockInvariant.empty (rank : Lock → Nat) : LockInvariant rank Threads.empty := by
  constructor
  · intro number thread present
    cases present
  · intro first second left right present
    cases present

omit [DecidableEq Lock] in
/-- Some member holds the lock that a member wants exclusively. The induction is on the
place in the queue. -/
theorem Deadlocked.exclusive_holder (deadlocked : Deadlocked threads members) (place : Nat) :
    ∀ number ∈ members, ∀ thread, threads.table.lookup number = some thread →
      thread.waitingFor = some (.exclusive, lock) → thread.ticket = some place →
        ∃ other ∈ members, ∃ holder, threads.table.lookup other = some holder ∧
          ∃ access, (access, lock) ∈ holder.held := by
  induction place using Nat.strong_induction_on with
  | _ _ ih =>
    intro number member thread present waits ticket_eq
    rcases deadlocked.blocked number member with
      ⟨same, same_eq, other, other_member, blocker, blocker_eq, access, wanted, wants, blocks⟩
    rw [present] at same_eq
    cases same_eq
    rw [waits] at wants
    cases wants
    rcases blocks with held | ⟨queued, shared | ⟨early, _, early_eq, late_eq, before⟩⟩
    · exact ⟨other, other_member, blocker, blocker_eq, held⟩
    · cases shared
    · rw [ticket_eq] at late_eq
      cases late_eq
      exact ih early before other other_member blocker blocker_eq queued early_eq

omit [DecidableEq Lock] in
theorem ticket_of_waitingFor {wanted : Access × Lock} (waits : thread.waitingFor = some wanted) :
    ∃ place, thread.ticket = some place := by
  unfold Thread.waitingFor at waits
  split_ifs at waits with queued
  exact Option.isSome_iff_exists.mp queued

omit [DecidableEq Lock] in
theorem Deadlocked.holder (deadlocked : Deadlocked threads members) (member : number ∈ members)
    (present : threads.table.lookup number = some thread)
    (waits : thread.waitingFor = some (access, lock)) :
    ∃ other ∈ members, ∃ holder, threads.table.lookup other = some holder ∧
      ∃ access, (access, lock) ∈ holder.held := by
  rcases deadlocked.blocked number member with
    ⟨same, same_eq, other, other_member, blocker, blocker_eq, wanted, wanted_lock, wants, blocks⟩
  rw [present] at same_eq
  cases same_eq
  rw [waits] at wants
  cases wants
  rcases blocks with held | ⟨queued, _⟩
  · exact ⟨other, other_member, blocker, blocker_eq, held⟩
  · rcases ticket_of_waitingFor queued with ⟨place, place_eq⟩
    exact deadlocked.exclusive_holder place other other_member blocker blocker_eq queued place_eq

theorem Disciplined.rank_lt (disciplined : Disciplined rank thread)
    (waits : thread.waitingFor = some (access, lock)) {guard : Access × Lock}
    (held : guard ∈ thread.held) : rank guard.2 < rank lock := by
  have unnested := disciplined.unnested lock
  have ordered := disciplined.ordered
  rcases thread with ⟨remaining, _, ticket⟩
  cases ticket with
  | none => simp at waits
  | some =>
    cases remaining with
    | acquire wanted_access wanted =>
      have same : some (wanted_access, wanted) = some (access, lock) := waits
      cases same
      simp only [isOrdered, Bool.and_eq_true, decide_eq_true_eq] at ordered
      rcases ordered.1 with ⟨shared, nested⟩ | rising
      · subst shared
        exact absurd nested (unnested rfl)
      · exact rising guard held
    | done | release | choose => cases waits

/-- The ranks of the locks that members wait for would rise without bound. -/
theorem LockInvariant.not_deadlocked (invariant : LockInvariant rank threads) {bound : Nat}
    (bounded : ∀ lock, rank lock ≤ bound) (members : Set Nat) : ¬ Deadlocked threads members := by
  intro deadlocked
  have rises (distance : Nat) : ∀ number ∈ members, ∀ thread access lock,
      threads.table.lookup number = some thread →
        thread.waitingFor = some (access, lock) → bound - rank lock = distance → False := by
    induction distance using Nat.strong_induction_on with
    | _ distance ih =>
      intro number member thread access lock present waits distance_eq
      rcases deadlocked.holder member present waits with
        ⟨other, other_member, holder, holder_eq, held, held_eq⟩
      rcases deadlocked.blocked other other_member with
        ⟨same, same_eq, _, _, _, _, next_access, next_lock, next_waits, _⟩
      rw [holder_eq] at same_eq
      cases same_eq
      have higher : rank lock < rank next_lock :=
        (invariant.disciplined other holder holder_eq).rank_lt next_waits held_eq
      have below := bounded next_lock
      have closer : bound - rank next_lock < distance := by omega
      exact ih _ closer other other_member holder next_access next_lock holder_eq next_waits rfl
  rcases deadlocked.nonempty with ⟨number, member⟩
  rcases deadlocked.blocked number member with
    ⟨thread, present, _, _, _, _, access, lock, waits, _⟩
  exact rises _ number member thread access lock present waits rfl

end HandControl.LockOrder
