import HandControl.TransitionRuns

/-!
# Forwarding between the two sockets of a tunnel

The relay runs `forward_stream` once for each direction of a paired tunnel and keeps the tunnel in
its map until both have returned. What a read yields and whether a send succeeds is up to the peers.
-/

namespace HandControl.TunnelForwarding

open TransitionRuns

structure CloseFrame where
  code : Nat
  reason : String
deriving DecidableEq

inductive Frame where
  | binary (bytes : List UInt8)
  | text (payload : String)
  | ping (data : List UInt8)
  | pong (data : List UInt8)
  | close (frame : Option CloseFrame)
deriving DecidableEq

inductive Reading where
  | message (frame : Frame)
  | failed
  | ended
deriving DecidableEq

/-- Where `forward_stream` is. A send in `sending` is followed by the error operator; the
results of the other two sends are ignored. -/
inductive ForwardPhase where
  | reading
  | sending (frame : Frame)
  | relayingClose (frame : Option CloseFrame)
  | closing
  | returned (ok : Bool)
deriving DecidableEq

namespace ForwardPhase

/-- The arms of the loop in `forward_stream`. -/
def onReading : Reading → ForwardPhase
  | .message (.binary bytes) => .sending (.binary bytes)
  | .message (.close frame) => .relayingClose frame
  | .message (.ping data) => .sending (.ping data)
  | .message (.pong data) => .sending (.pong data)
  | .message (.text _) => .reading
  | .failed => .returned false
  | .ended => .closing

end ForwardPhase

/-- A direction, with the frames that it sent or tried to send on its outbound socket. -/
structure Direction where
  phase : ForwardPhase
  attempts : List Frame
deriving DecidableEq

namespace Direction

def started : Direction where
  phase := .reading
  attempts := []

def stepRead (direction : Direction) (reading : Reading) : Option Direction :=
  match direction.phase with
  | .reading => some { direction with phase := .onReading reading }
  | _ => none

/-- A send that the error operator follows. -/
def stepSend (direction : Direction) (ok : Bool) : Option Direction :=
  match direction.phase with
  | .sending frame =>
    let next : ForwardPhase := if ok then .reading else .returned false
    some { phase := next, attempts := direction.attempts ++ [frame] }
  | _ => none

/-- A send of a close frame. A received close leaves the loop, after which another close
is sent. -/
def stepClose (direction : Direction) : Option Direction :=
  match direction.phase with
  | .relayingClose frame =>
    some { phase := .closing, attempts := direction.attempts ++ [.close frame] }
  | .closing =>
    some { phase := .returned true, attempts := direction.attempts ++ [.close none] }
  | _ => none

end Direction

inductive Side where
  | clientToServer
  | serverToClient
deriving DecidableEq

def Side.other : Side → Side
  | .clientToServer => .serverToClient
  | .serverToClient => .clientToServer

structure Forwarding where
  direction : Side → Direction
  inMap : Bool

def Forwarding.started : Forwarding where
  direction := fun _ => Direction.started
  inMap := true

namespace Forwarding

def put (forwarding : Forwarding) (side : Side) (direction : Direction) : Forwarding :=
  { forwarding with direction := Function.update forwarding.direction side direction }

def isReturned (forwarding : Forwarding) (side : Side) : Bool :=
  match (forwarding.direction side).phase with
  | .returned _ => true
  | _ => false

end Forwarding

inductive ForwardAction where
  | reads (side : Side) (reading : Reading)
  | sends (side : Side) (ok : Bool)
  | closes (side : Side) (ok : Bool)
  | joins
deriving DecidableEq

/-- One step of a tunnel's forwarders. The tunnel leaves the map when both directions
were joined. -/
def stepForwarding (forwarding : Forwarding) : ForwardAction → Option Forwarding
  | .reads side reading =>
    ((forwarding.direction side).stepRead reading).map (forwarding.put side)
  | .sends side ok => ((forwarding.direction side).stepSend ok).map (forwarding.put side)
  | .closes side _ => ((forwarding.direction side).stepClose).map (forwarding.put side)
  | .joins =>
    if forwarding.isReturned .clientToServer && forwarding.isReturned .serverToClient then
      some { forwarding with inMap := false }
    else none

inductive DirectionMove (side : Side) (direction : Direction) :
    ForwardAction → Direction → Prop where
  | reads (reading : Reading) (phase_eq : direction.phase = .reading) :
      DirectionMove side direction (.reads side reading)
        { direction with phase := .onReading reading }
  | sends (frame : Frame) (phase_eq : direction.phase = .sending frame) :
      DirectionMove side direction (.sends side true)
        { phase := .reading, attempts := direction.attempts ++ [frame] }
  | breaks (frame : Frame) (phase_eq : direction.phase = .sending frame) :
      DirectionMove side direction (.sends side false)
        { phase := .returned false, attempts := direction.attempts ++ [frame] }
  | relaysClose (frame : Option CloseFrame) (ok : Bool)
      (phase_eq : direction.phase = .relayingClose frame) :
      DirectionMove side direction (.closes side ok)
        { phase := .closing, attempts := direction.attempts ++ [.close frame] }
  | closes (ok : Bool) (phase_eq : direction.phase = .closing) :
      DirectionMove side direction (.closes side ok)
        { phase := .returned true, attempts := direction.attempts ++ [.close none] }

inductive ForwardMove (forwarding : Forwarding) : ForwardAction → Forwarding → Prop where
  | advances (side : Side) (action : ForwardAction) (direction : Direction)
      (move : DirectionMove side (forwarding.direction side) action direction) :
      ForwardMove forwarding action (forwarding.put side direction)
  | joined (returned : ∀ side, forwarding.isReturned side = true) :
      ForwardMove forwarding .joins { forwarding with inMap := false }

section

variable {direction next : Direction} {forwarding after : Forwarding}

theorem stepRead_move (side : Side) {reading : Reading}
    (moved : direction.stepRead reading = some next) :
    DirectionMove side direction (.reads side reading) next := by
  unfold Direction.stepRead at moved
  split at moved
  · rename_i phase_eq
    cases moved
    exact .reads reading phase_eq
  · cases moved

theorem stepSend_move (side : Side) {ok : Bool} (moved : direction.stepSend ok = some next) :
    DirectionMove side direction (.sends side ok) next := by
  unfold Direction.stepSend at moved
  split at moved
  · rename_i frame phase_eq
    cases moved
    cases ok with
    | true => exact .sends frame phase_eq
    | false => exact .breaks frame phase_eq
  · cases moved

theorem stepClose_move (side : Side) (ok : Bool) (moved : direction.stepClose = some next) :
    DirectionMove side direction (.closes side ok) next := by
  unfold Direction.stepClose at moved
  split at moved
  · rename_i frame phase_eq
    cases moved
    exact .relaysClose frame ok phase_eq
  · rename_i phase_eq
    cases moved
    exact .closes ok phase_eq
  · cases moved

theorem stepForwarding_move {action : ForwardAction}
    (moved : stepForwarding forwarding action = some after) :
    ForwardMove forwarding action after := by
  cases action with
  | reads side =>
    obtain ⟨direction, stepped, after_eq⟩ := Option.map_eq_some_iff.mp moved
    subst after_eq
    exact .advances side _ direction (stepRead_move side stepped)
  | sends side =>
    obtain ⟨direction, stepped, after_eq⟩ := Option.map_eq_some_iff.mp moved
    subst after_eq
    exact .advances side _ direction (stepSend_move side stepped)
  | closes side ok =>
    obtain ⟨direction, stepped, after_eq⟩ := Option.map_eq_some_iff.mp moved
    subst after_eq
    exact .advances side _ direction (stepClose_move side ok stepped)
  | joins =>
    rw [stepForwarding] at moved
    split at moved
    · rename_i both
      cases moved
      rw [Bool.and_eq_true] at both
      refine .joined ?_
      intro side
      cases side with
      | clientToServer => exact both.1
      | serverToClient => exact both.2
    · cases moved

end

/-- A read that fails, or a failed send that the error operator follows. -/
def Breaks (side : Side) (action : ForwardAction) : Prop :=
  action = .reads side .failed ∨ action = .sends side false

def CloseAttempted (direction : Direction) : Prop :=
  ∃ frame, .close frame ∈ direction.attempts

/-- The direction has returned, and the tunnel is kept by the other direction, which waits
for a peer that this one did not tell. -/
def Stranded (side : Side) (forwarding : Forwarding) : Prop :=
  forwarding.isReturned side = true ∧ forwarding.inMap = true ∧
    (forwarding.direction side.other).phase = .reading ∧
    ¬ CloseAttempted (forwarding.direction side)

/-- The frames that a phase is about to send with the error operator are no close frames. -/
def SendsData : ForwardPhase → Prop
  | .sending frame => ∀ content, frame ≠ .close content
  | _ => True

/-- What the phase of a direction says about the actions so far. -/
def Account (side : Side) (done : List ForwardAction) (direction : Direction) : Prop :=
  SendsData direction.phase ∧
    match direction.phase with
    | .reading | .sending _ | .relayingClose _ =>
      (∀ action ∈ done, ¬ Breaks side action) ∧ ¬ CloseAttempted direction
    | .closing => ∀ action ∈ done, ¬ Breaks side action
    | .returned true => (∀ action ∈ done, ¬ Breaks side action) ∧ CloseAttempted direction
    | .returned false => (∃ action ∈ done, Breaks side action) ∧ ¬ CloseAttempted direction

section

variable {side : Side} {done : List ForwardAction} {direction next : Direction}
variable {action : ForwardAction}

theorem clean_snoc (clean : ∀ earlier ∈ done, ¬ Breaks side earlier)
    (last : ¬ Breaks side action) : ∀ earlier ∈ done ++ [action], ¬ Breaks side earlier :=
  List.forall_mem_append.mpr ⟨clean, List.forall_mem_singleton.mpr last⟩

theorem closeAttempted_snoc {attempts : List Frame} {phase : ForwardPhase} {frame : Frame}
    (data : ∀ content, frame ≠ .close content) :
    CloseAttempted ⟨phase, attempts ++ [frame]⟩ ↔ ∃ content, .close content ∈ attempts := by
  unfold CloseAttempted
  apply exists_congr
  intro content
  rw [List.mem_append, List.mem_singleton]
  have different : ¬ Frame.close content = frame := fun same => data content same.symm
  simp [different]

theorem onReading_sendsData (reading : Reading) : SendsData (.onReading reading) := by
  rcases reading with frame | _ | _
  · cases frame <;> simp [ForwardPhase.onReading, SendsData]
  · trivial
  · trivial

theorem Account.of_silent (account : Account side done direction)
    (silent : ¬ Breaks side action) : Account side (done ++ [action]) direction := by
  refine ⟨account.1, ?_⟩
  have told := account.2
  split at told
  · exact ⟨clean_snoc told.1 silent, told.2⟩
  · exact ⟨clean_snoc told.1 silent, told.2⟩
  · exact ⟨clean_snoc told.1 silent, told.2⟩
  · exact clean_snoc told silent
  · exact ⟨clean_snoc told.1 silent, told.2⟩
  · obtain ⟨earlier, member, breaks⟩ := told.1
    exact ⟨⟨earlier, List.mem_append_left _ member, breaks⟩, told.2⟩

/-- A read keeps the account: a message or the end of the stream breaks nothing, a failure
returns at once. -/
theorem reads_account {reading : Reading} (account : Account side done direction)
    (phase_eq : direction.phase = .reading) :
    Account side (done ++ [.reads side reading])
      { direction with phase := .onReading reading } := by
  obtain ⟨_, told⟩ := account
  rw [phase_eq] at told
  obtain ⟨clean, untold⟩ := told
  refine ⟨onReading_sendsData reading, ?_⟩
  rcases reading with frame | _ | _
  · have silent : ¬ Breaks side (.reads side (.message frame)) := by simp [Breaks]
    cases frame <;> exact ⟨clean_snoc clean silent, untold⟩
  · exact ⟨⟨_, by simp, Or.inl rfl⟩, untold⟩
  · have silent : ¬ Breaks side (.reads side .ended) := by simp [Breaks]
    exact clean_snoc clean silent

theorem DirectionMove.account (account : Account side done direction)
    (moved : DirectionMove side direction action next) :
    Account side (done ++ [action]) next := by
  have data := account.1
  cases moved with
  | reads _ phase_eq => exact reads_account account phase_eq
  | sends _ phase_eq =>
    have told := account.2
    rw [phase_eq] at told data
    refine ⟨trivial, clean_snoc told.1 (by simp [Breaks]), ?_⟩
    rw [closeAttempted_snoc data]
    exact told.2
  | breaks _ phase_eq =>
    have told := account.2
    rw [phase_eq] at told data
    refine ⟨trivial, ⟨_, by simp, Or.inr rfl⟩, ?_⟩
    rw [closeAttempted_snoc data]
    exact told.2
  | relaysClose _ _ phase_eq =>
    have told := account.2
    rw [phase_eq] at told
    exact ⟨trivial, clean_snoc told.1 (by simp [Breaks])⟩
  | closes _ phase_eq =>
    have told := account.2
    rw [phase_eq] at told
    exact ⟨trivial, clean_snoc told (by simp [Breaks]), none, by simp⟩

theorem DirectionMove.foreign {other : Side} (moved : DirectionMove other direction action next)
    (different : other ≠ side) : ¬ Breaks side action := by
  cases moved <;> simp [Breaks, different]

theorem ForwardMove.account {forwarding after : Forwarding}
    (account : ∀ side, Account side done (forwarding.direction side))
    (moved : ForwardMove forwarding action after) (side : Side) :
    Account side (done ++ [action]) (after.direction side) := by
  cases moved with
  | advances acting _ direction move =>
    by_cases same : side = acting
    · subst same
      simpa [Forwarding.put] using DirectionMove.account (account side) move
    · have unmoved : (forwarding.put acting direction).direction side =
          forwarding.direction side := Function.update_of_ne same _ _
      rw [unmoved]
      exact (account side).of_silent (DirectionMove.foreign move (Ne.symm same))
  | joined => exact (account side).of_silent (by simp [Breaks])

theorem performs_account {actions : List ForwardAction} {final : Forwarding}
    (run : Performs stepForwarding anyAction Forwarding.started actions final) (side : Side) :
    Account side actions (final.direction side) := by
  have everywhere : ∀ side, Account side actions (final.direction side) := by
    apply run.invariant
    · intro side
      exact ⟨trivial, by simp, by simp [CloseAttempted, Forwarding.started, Direction.started]⟩
    · intro done before action after account _ moved
      exact ForwardMove.account account (stepForwarding_move moved)
  exact everywhere side

end

/-- A direction that has returned sent or tried to send a close frame on its outbound socket if and
only if none of its reads failed and none of its sends of a data, ping or pong frame did; and
without such a failure no peer is left untold while the tunnel waits for it. -/
theorem forward_stream_closes_iff (actions : List ForwardAction) (final : Forwarding)
    (run : Performs stepForwarding anyAction Forwarding.started actions final) (side : Side) :
    (final.isReturned side = true →
      (CloseAttempted (final.direction side) ↔ ∀ action ∈ actions, ¬ Breaks side action)) ∧
    ((∀ action ∈ actions, ¬ Breaks side action) → ¬ Stranded side final) := by
  have account := (performs_account run side).2
  have told_iff : final.isReturned side = true →
      (CloseAttempted (final.direction side) ↔ ∀ action ∈ actions, ¬ Breaks side action) := by
    intro returned
    unfold Forwarding.isReturned at returned
    split at returned
    · rename_i ok phase_eq
      rw [phase_eq] at account
      cases ok with
      | true => exact ⟨fun _ => account.1, fun _ => account.2⟩
      | false =>
        obtain ⟨⟨broken, member, breaks⟩, untold⟩ := account
        exact ⟨fun told => absurd told untold, fun clean => absurd breaks (clean broken member)⟩
    · cases returned
  refine ⟨told_iff, ?_⟩
  intro clean stranded
  exact stranded.2.2.2 ((told_iff stranded.1).mpr clean)

/-- The client sends one frame and leaves with a close frame. -/
def partingActions : List ForwardAction :=
  [.reads .clientToServer (.message (.binary [7])), .sends .clientToServer true,
    .reads .clientToServer (.message (.close none)), .closes .clientToServer true,
    .closes .clientToServer true]

theorem parting_client_is_announced :
    ∃ final, Performs stepForwarding anyAction Forwarding.started partingActions final ∧
      final.isReturned .clientToServer = true ∧
      CloseAttempted (final.direction .clientToServer) := by
  obtain ⟨final, run, returned⟩ :
      ∃ final, Performs stepForwarding anyAction Forwarding.started partingActions final ∧
        final.isReturned .clientToServer = true :=
    performs_of_evaluated (by decide)
  refine ⟨final, run, returned, ?_⟩
  apply ((forward_stream_closes_iff partingActions final run .clientToServer).1 returned).mpr
  simp [partingActions, Breaks]

/-- The client's connection breaks: the read fails, the direction towards the server
returns, and the server is never told, although the tunnel waits for it. -/
theorem vanished_client_strands_tunnel :
    ∃ final, Performs stepForwarding anyAction Forwarding.started
        [.reads .clientToServer .failed] final ∧
      final.isReturned .clientToServer = true ∧
      ¬ CloseAttempted (final.direction .clientToServer) ∧ Stranded .clientToServer final := by
  obtain ⟨final, run, returned, kept, waiting, nothing⟩ :
      ∃ final, Performs stepForwarding anyAction Forwarding.started
          [.reads .clientToServer .failed] final ∧
        final.isReturned .clientToServer = true ∧ final.inMap = true ∧
        (final.direction .serverToClient).phase = .reading ∧
        (final.direction .clientToServer).attempts = [] :=
    performs_of_evaluated (by decide)
  have untold : ¬ CloseAttempted (final.direction .clientToServer) := by
    simp [CloseAttempted, nothing]
  exact ⟨final, run, returned, untold, returned, kept, waiting, untold⟩

end HandControl.TunnelForwarding
