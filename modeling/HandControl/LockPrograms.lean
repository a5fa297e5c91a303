import HandControl.KeyedTable

/-!
# Threads that take locks

Code is reduced to the locks it takes and releases, shared or exclusively; a mutex is only taken
exclusively. A thread that wants a lock shared waits while another one holds it or waits for it
exclusively.
-/

namespace HandControl.LockPrograms

open KeyedTable

inductive Access where
  | shared
  | exclusive
deriving DecidableEq

/-- The lock operations of a piece of code. `choose` is a branch on data that is not
modelled. -/
inductive Program (Lock : Type) where
  | done
  | acquire (access : Access) (lock : Lock) (rest : Program Lock)
  | release (lock : Lock) (rest : Program Lock)
  | choose (left right : Program Lock)
deriving DecidableEq

abbrev Guards (Lock : Type) := List (Access × Lock)

variable {Lock : Type}

instance lawfulGuard [DecidableEq Lock] : LawfulBEq (Access × Lock) := inferInstance

/-- What a thread has still to do, the guards it holds, the last one first, and its number
in the queue if it waits. -/
structure Thread (Lock : Type) where
  remaining : Program Lock
  held : Guards Lock
  ticket : Option Nat
deriving DecidableEq

def Program.wanted : Program Lock → Option (Access × Lock)
  | .acquire access lock _ => some (access, lock)
  | _ => none

def Thread.waitingFor (thread : Thread Lock) : Option (Access × Lock) :=
  if thread.ticket.isSome then thread.remaining.wanted else none

structure Threads (Lock : Type) where
  table : Table Nat (Thread Lock)
  nextTicket : Nat

def Threads.empty : Threads Lock := ⟨∅, 0⟩

variable [DecidableEq Lock]

def dropGuard (lock : Lock) (held : Guards Lock) : Guards Lock :=
  held.eraseP fun guard => guard.2 = lock

def Thread.hinders (thread : Thread Lock) (lock : Lock) : Access → Bool
  | .shared => (.exclusive, lock) ∈ thread.held ∨ thread.waitingFor = some (.exclusive, lock)
  | .exclusive => ∃ guard ∈ thread.held, guard.2 = lock

def Threads.available (threads : Threads Lock) (access : Access) (lock : Lock) : Bool :=
  threads.table.entries.all fun entry => !entry.2.hinders lock access

inductive ThreadAction where
  | branch (number : Nat) (left : Bool)
  | unlock (number : Nat)
  | lock (number : Nat)

/-- Start a program on a new thread, or on one that has finished its last program. -/
def Threads.start (threads : Threads Lock) (number : Nat) (program : Program Lock) :
    Option (Threads Lock) :=
  let begun : Thread Lock := { remaining := program, held := [], ticket := none }
  match threads.table.lookup number with
  | none => some { threads with table := threads.table.insert number begun }
  | some thread =>
    if thread.remaining = .done ∧ thread.held = [] then
      some { threads with table := threads.table.insert number begun }
    else none

/-- One operation of a thread. A thread that waits is given the lock when it is available. -/
def stepThreads (threads : Threads Lock) : ThreadAction → Option (Threads Lock)
  | .branch number left =>
    match threads.table.lookup number with
    | some { remaining := .choose first second, held, .. } =>
      let chosen := if left then first else second
      some { threads with table := threads.table.insert number ⟨chosen, held, none⟩ }
    | _ => none
  | .unlock number =>
    match threads.table.lookup number with
    | some { remaining := .release lock rest, held, .. } =>
      some { threads with
        table := threads.table.insert number ⟨rest, dropGuard lock held, none⟩ }
    | _ => none
  | .lock number =>
    match threads.table.lookup number with
    | some { remaining := .acquire access lock rest, held, ticket } =>
      if threads.available access lock then
        some { threads with
          table := threads.table.insert number ⟨rest, (access, lock) :: held, none⟩ }
      else if ticket.isSome then none
      else
        some
          { table := threads.table.insert number
              ⟨.acquire access lock rest, held, some threads.nextTicket⟩
            nextTicket := threads.nextTicket + 1 }
    | _ => none

inductive Advance (threads : Threads Lock) : ThreadAction → Nat → Thread Lock → Thread Lock → Prop
  | branch (number : Nat) (left : Bool) {first second chosen : Program Lock}
      {held : Guards Lock} {ticket : Option Nat} (side : chosen = first ∨ chosen = second) :
      Advance threads (.branch number left) number ⟨.choose first second, held, ticket⟩
        ⟨chosen, held, none⟩
  | unlock (number : Nat) {lock : Lock} {rest : Program Lock} {held : Guards Lock}
      {ticket : Option Nat} :
      Advance threads (.unlock number) number ⟨.release lock rest, held, ticket⟩
        ⟨rest, dropGuard lock held, none⟩
  | lock (number : Nat) {access : Access} {lock : Lock} {rest : Program Lock}
      {held : Guards Lock} {ticket : Option Nat}
      (free : threads.available access lock = true) :
      Advance threads (.lock number) number ⟨.acquire access lock rest, held, ticket⟩
        ⟨rest, (access, lock) :: held, none⟩
  | queue (number : Nat) {access : Access} {lock : Lock} {rest : Program Lock}
      {held : Guards Lock} {ticket : Option Nat}
      (taken : threads.available access lock = false) :
      Advance threads (.lock number) number ⟨.acquire access lock rest, held, ticket⟩
        ⟨.acquire access lock rest, held, some threads.nextTicket⟩

theorem stepThreads_advance {threads after : Threads Lock} {action : ThreadAction}
    (moved : stepThreads threads action = some after) :
    ∃ number thread changed, threads.table.lookup number = some thread ∧
      Advance threads action number thread changed ∧
        after.table = threads.table.insert number changed := by
  cases action with
  | branch number left =>
    simp only [stepThreads] at moved
    split at moved
    · rename_i present
      cases moved
      refine ⟨number, _, _, present, .branch number left ?_, rfl⟩
      cases left with
      | true => exact Or.inl rfl
      | false => exact Or.inr rfl
    · cases moved
  | unlock number =>
    simp only [stepThreads] at moved
    split at moved
    · rename_i present
      cases moved
      exact ⟨number, _, _, present, .unlock number, rfl⟩
    · cases moved
  | lock number =>
    simp only [stepThreads] at moved
    split at moved
    · rename_i access lock _ _ _ present
      split_ifs at moved with free waiting
      · cases moved
        exact ⟨number, _, _, present, .lock number free, rfl⟩
      · cases moved
        have taken : threads.available access lock = false := by simpa using free
        exact ⟨number, _, _, present, .queue number taken, rfl⟩
    · cases moved

theorem start_table {threads after : Threads Lock} {number : Nat} {program : Program Lock}
    (started : threads.start number program = some after) :
    after.table = threads.table.insert number ⟨program, [], none⟩ := by
  unfold Threads.start at started
  split at started
  · cases started
    rfl
  · split_ifs at started with finished
    cases started
    rfl

theorem available_iff (threads : Threads Lock) (access : Access) (lock : Lock) :
    threads.available access lock = true ↔
      Table.Every (fun thread => thread.hinders lock access = false) threads.table := by
  unfold Threads.available Table.Every
  simp only [List.all_eq_true, Bool.not_eq_true']
  constructor
  · intro free number thread present
    exact free ⟨number, thread⟩ (AList.mem_lookup_iff.mp present)
  · rintro free ⟨number, thread⟩ listed
    exact free number thread (AList.mem_lookup_iff.mpr listed)

theorem hinders_shared_iff (thread : Thread Lock) (lock : Lock) :
    thread.hinders lock .shared = false ↔
      (.exclusive, lock) ∉ thread.held ∧ thread.waitingFor ≠ some (.exclusive, lock) := by
  simp [Thread.hinders]

theorem hinders_exclusive_iff (thread : Thread Lock) (lock : Lock) :
    thread.hinders lock .exclusive = false ↔ ∀ access, (access, lock) ∉ thread.held := by
  simp only [Thread.hinders, decide_eq_false_iff_not]
  constructor
  · intro untouched access held
    exact untouched ⟨(access, lock), held, rfl⟩
  · rintro untouched ⟨⟨access, _⟩, held, same⟩
    cases same
    exact untouched access held

theorem dropGuard_subset (lock : Lock) (held : Guards Lock) : dropGuard lock held ⊆ held :=
  List.eraseP_subset

end HandControl.LockPrograms
