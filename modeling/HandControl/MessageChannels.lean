import Mathlib.Tactic

/-!
# Message channels between tasks

A bounded queue makes its sender wait while it is full. A broadcast channel never does: a receiver
behind by more than the capacity loses the oldest events and is told so.
-/

namespace HandControl.MessageChannels

variable {Message Event : Type}

/-- Put a message into a bounded queue; `none` while the sender has to wait. -/
def offer (capacity : Nat) (queue : List Message) (message : Message) :
    Option (List Message) :=
  if queue.length < capacity then some (queue ++ [message]) else none

theorem offer_eq_some_iff (capacity : Nat) (queue next : List Message) (message : Message) :
    offer capacity queue message = some next ↔
      queue.length < capacity ∧ next = queue ++ [message] := by
  unfold offer
  split
  · simp_all [eq_comm]
  · simp_all

variable {capacity : Nat} {queue : List Message}

theorem offer_of_room (room : queue.length < capacity) (message : Message) :
    offer capacity queue message = some (queue ++ [message]) := by
  rw [offer_eq_some_iff]
  exact ⟨room, rfl⟩

theorem room_of_map_offer {State : Type} {change : List Message → State} {after : State}
    {message : Message} (moved : (offer capacity queue message).map change = some after) :
    queue.length < capacity ∧ after = change (queue ++ [message]) := by
  obtain ⟨_, offered, rfl⟩ := Option.map_eq_some_iff.mp moved
  obtain ⟨room, rfl⟩ := (offer_eq_some_iff _ _ _ _).mp offered
  exact ⟨room, rfl⟩

theorem offer_of_full (full : capacity ≤ queue.length) (message : Message) :
    offer capacity queue message = none := by
  unfold offer
  rw [if_neg (Nat.not_lt.mpr full)]

inductive Reception (Event : Type) where
  | event (received : Event) (waiting : List Event)
  | lagged (waiting : List Event)

/-- Receive from a broadcast channel. A receiver that is more than `capacity` events
behind skips to the oldest retained one. -/
def receive (capacity : Nat) : List Event → Option (Reception Event)
  | [] => none
  | event :: rest =>
    if (event :: rest).length > capacity then
      some (.lagged ((event :: rest).drop ((event :: rest).length - capacity)))
    else
      some (.event event rest)

variable {event : Event} {rest : List Event}

theorem receive_of_fits (fits : (event :: rest).length ≤ capacity) :
    receive capacity (event :: rest) = some (.event event rest) := by
  rw [receive, if_neg (Nat.not_lt.mpr fits)]

variable {waiting : List Event}

theorem receive_of_behind (behind : capacity < waiting.length) :
    receive capacity waiting = some (.lagged (waiting.drop (waiting.length - capacity))) := by
  cases waiting with
  | nil => simp at behind
  | cons => rw [receive, if_pos behind]

theorem receive_event (received : receive capacity waiting = some (.event event rest)) :
    waiting = event :: rest ∧ waiting.length ≤ capacity := by
  unfold receive at received
  split at received
  · cases received
  · split at received
    · cases received
    · rename_i fits
      cases received
      exact ⟨rfl, Nat.not_lt.mp fits⟩

theorem receive_lagged (received : receive capacity waiting = some (.lagged rest)) :
    capacity < waiting.length ∧ rest = waiting.drop (waiting.length - capacity) := by
  unfold receive at received
  split at received
  · cases received
  · split at received
    · rename_i behind
      cases received
      exact ⟨behind, rfl⟩
    · cases received

theorem receive_none (received : receive capacity waiting = none) : waiting = [] := by
  cases waiting with
  | nil => rfl
  | cons =>
    rw [receive] at received
    split_ifs at received

end HandControl.MessageChannels
