import HandControl.HopChains
import HandControl.TransitionRuns

/-!
# The relay bridge of the Android client

The WebSocket listener starts a coroutine for every binary frame, which puts the frame into the
channel `incomingData`. Every local connection has a job that takes frames out of this one channel.
The channel is first in, first out, also for senders that wait, and what was sent before it was
closed is still received.
-/

namespace HandControl.AndroidBridge

open HopChains TransitionRuns

inductive ReceivePhase where
  | absent
  | accepted
  | receiving
  | writing (rest : List UInt8)
  | ended
deriving DecidableEq

structure Connection where
  phase : ReceivePhase
  written : List UInt8
deriving DecidableEq

/-- A tunnel and its bridge. `arrived` are the binary frames that arrived in data mode, `launched`
those whose coroutine has not called `send` yet, and `takers` the connection that took each frame.
-/
structure BridgeState where
  dataMode : Bool
  healthy : Bool
  arrived : List (List UInt8)
  launched : List (List UInt8)
  incomingData : List (List UInt8)
  closed : Bool
  connection : Nat → Connection
  takers : List Nat

def BridgeState.opened : BridgeState where
  dataMode := false
  healthy := true
  arrived := []
  launched := []
  incomingData := []
  closed := false
  connection := fun _ => { phase := .absent, written := [] }
  takers := []

inductive BridgeAction where
  | tunnelReady
  | onMessage (bytes : List UInt8)
  | coroutineSends (position : Nat)
  | stopsHealth
  | closesChannel
  | accepts (number : Nat)
  | bridges (number : Nat)
  | receives (number : Nat)
  | writes (number count : Nat)
  | writeFails (number : Nat)
  | loopEnds (number : Nat)
deriving DecidableEq

namespace BridgeState

def putConnection (state : BridgeState) (number : Nat) (connection : Connection) :
    BridgeState :=
  { state with connection := Function.update state.connection number connection }

/-- The listener gets a binary frame. Before the tunnel is ready the frame is dropped. -/
def stepOnMessage (state : BridgeState) (bytes : List UInt8) : BridgeState :=
  if state.dataMode then
    { state with
      arrived := state.arrived ++ [bytes]
      launched := state.launched ++ [bytes] }
  else state

/-- The coroutine of one of the frames calls `send`, which throws if the channel is
closed. -/
def stepCoroutineSends (state : BridgeState) (position : Nat) : Option BridgeState :=
  match state.launched[position]? with
  | some bytes =>
    let launched := state.launched.eraseIdx position
    if state.closed then some { state with launched := launched }
    else some { state with
      launched := launched
      incomingData := state.incomingData ++ [bytes] }
  | none => none

/-- The start of `bridgeSocketToTunnel`: the connection is refused if the tunnel is not
healthy. -/
def stepBridges (state : BridgeState) (number : Nat) : Option BridgeState :=
  let connection := state.connection number
  match connection.phase with
  | .accepted =>
    let next : ReceivePhase := if state.healthy then .receiving else .ended
    some (state.putConnection number { connection with phase := next })
  | _ => none

def stepReceives (state : BridgeState) (number : Nat) : Option BridgeState :=
  let connection := state.connection number
  match connection.phase, state.incomingData with
  | .receiving, bytes :: rest =>
    let taken := { state with
      incomingData := rest
      takers := state.takers ++ [number] }
    some (taken.putConnection number { connection with phase := .writing bytes })
  | _, _ => none

/-- `outputStream.write` writes some of the bytes; after the last of them the loop goes
on. -/
def stepWrites (state : BridgeState) (number count : Nat) : Option BridgeState :=
  let connection := state.connection number
  match connection.phase with
  | .writing rest =>
    if count ≤ rest.length then
      let left := rest.drop count
      let next : ReceivePhase := if left.isEmpty then .receiving else .writing left
      some (state.putConnection number
        { connection with phase := next, written := connection.written ++ rest.take count })
    else none
  | _ => none

def stepWriteFails (state : BridgeState) (number : Nat) : Option BridgeState :=
  let connection := state.connection number
  match connection.phase with
  | .writing _ => some (state.putConnection number { connection with phase := .ended })
  | _ => none

def stepLoopEnds (state : BridgeState) (number : Nat) : Option BridgeState :=
  let connection := state.connection number
  match connection.phase, state.incomingData, state.closed with
  | .receiving, [], true =>
    some (state.putConnection number { connection with phase := .ended })
  | _, _, _ => none

end BridgeState

def stepBridge (state : BridgeState) : BridgeAction → Option BridgeState
  | .tunnelReady => some { state with dataMode := true }
  | .onMessage bytes => some (state.stepOnMessage bytes)
  | .coroutineSends position => state.stepCoroutineSends position
  | .stopsHealth => some { state with healthy := false }
  | .closesChannel => some { state with closed := true }
  | .accepts number =>
    let connection := state.connection number
    match connection.phase with
    | .absent => some (state.putConnection number { connection with phase := .accepted })
    | _ => none
  | .bridges number => state.stepBridges number
  | .receives number => state.stepReceives number
  | .writes number count => state.stepWrites number count
  | .writeFails number => state.stepWriteFails number
  | .loopEnds number => state.stepLoopEnds number

/-- The coroutines call `send` in the order in which their frames arrived, and a local
connection takes a frame only if no other one has taken any. -/
def OrderlyBridge (state : BridgeState) : BridgeAction → Prop
  | .coroutineSends position => position = 0
  | .receives number => ∀ other ∈ state.takers, other = number
  | _ => True

def receiveHop : ReceivePhase → Hop UInt8
  | .writing rest => ⟨rest, false⟩
  | .ended => ⟨[], true⟩
  | _ => ⟨[], false⟩

def BridgeState.hops (state : BridgeState) (number : Nat) : List (Hop UInt8) :=
  [⟨(state.connection number).written, false⟩, receiveHop (state.connection number).phase,
    ⟨state.incomingData.flatten, state.closed⟩, ⟨state.launched.flatten, false⟩]

def isWriting : ReceivePhase → Bool
  | .writing _ => true
  | _ => false

/-- At most one connection has taken frames, and only such a connection was written to or
has bytes in hand; a connection that has no rival is on the way of all bytes. -/
structure BridgeInvariant (state : BridgeState) : Prop where
  quiet : ∀ number, number ∉ state.takers →
    (state.connection number).written = [] ∧
      isWriting (state.connection number).phase = false
  single : ∀ number ∈ state.takers, ∀ other ∈ state.takers, other = number
  faithful : ∀ number, (∀ other ∈ state.takers, other = number) →
    Faithful state.arrived.flatten (state.hops number)

open BridgeState

theorem opened_invariant : BridgeInvariant opened := by
  refine ⟨?_, ?_, ?_⟩
  · intro number _
    exact ⟨rfl, rfl⟩
  · intro number took
    cases took
  · intro number _
    exact ⟨List.nil_prefix, fun _ => rfl⟩

section

variable {state after : BridgeState} {number : Nat}

section

variable (holds : BridgeInvariant state)

include holds

theorem BridgeInvariant.of_shared (same : after.connection = state.connection)
    (takers_eq : after.takers = state.takers)
    (kept : ∀ number, Faithful state.arrived.flatten (state.hops number) →
      Faithful after.arrived.flatten (after.hops number)) : BridgeInvariant after := by
  refine ⟨?_, ?_, ?_⟩
  · rw [same, takers_eq]
    exact holds.quiet
  · rw [takers_eq]
    exact holds.single
  · intro number alone
    rw [takers_eq] at alone
    exact kept number (holds.faithful number alone)

theorem BridgeInvariant.of_connection {next : Connection}
    (quiet : number ∉ state.takers → next.written = [] ∧ isWriting next.phase = false)
    (kept : Faithful state.arrived.flatten (state.hops number) →
      Faithful state.arrived.flatten ((state.putConnection number next).hops number)) :
    BridgeInvariant (state.putConnection number next) := by
  refine ⟨?_, holds.single, ?_⟩
  · intro other untaken
    by_cases same : other = number
    · subst same
      simpa [putConnection] using quiet untaken
    · simpa [putConnection, Function.update_of_ne same] using
        holds.quiet other untaken
  · intro other alone
    by_cases same : other = number
    · subst same
      exact kept (holds.faithful other alone)
    · have unchanged : (state.putConnection number next).hops other = state.hops other := by
        simp [hops, putConnection, Function.update_of_ne same]
      rw [unchanged]
      exact holds.faithful other alone

theorem onMessage_invariant (bytes : List UInt8) : BridgeInvariant (state.stepOnMessage bytes) := by
  unfold stepOnMessage
  split
  · apply holds.of_shared
    · rfl
    · rfl
    · intro number faithful
      have longer := Faithful.extend
        [⟨(state.connection number).written, false⟩, receiveHop (state.connection number).phase,
          ⟨state.incomingData.flatten, state.closed⟩] bytes faithful
      simpa [hops] using longer
  · exact holds

theorem coroutineSends_invariant (moved : state.stepCoroutineSends 0 = some after) :
    BridgeInvariant after := by
  unfold stepCoroutineSends at moved
  split at moved
  · rename_i launched_eq
    cases launched_is : state.launched with
    | nil =>
      rw [launched_is] at launched_eq
      cases launched_eq
    | cons first rest =>
      rw [launched_is] at launched_eq
      cases launched_eq
      simp only [launched_is, List.eraseIdx_cons_zero] at moved
      split at moved
      · rename_i closed
        cases moved
        apply holds.of_shared
        · rfl
        · rfl
        · intro number faithful
          simp only [hops, closed] at faithful ⊢
          exact Faithful.behind_cut
            [⟨(state.connection number).written, false⟩,
              receiveHop (state.connection number).phase] faithful
      · rename_i still_open
        cases moved
        apply holds.of_shared
        · rfl
        · rfl
        · intro number faithful
          rw [Bool.not_eq_true] at still_open
          simp only [hops, still_open, launched_is, List.flatten_cons] at faithful
          have passed := Faithful.pass
            [⟨(state.connection number).written, false⟩,
              receiveHop (state.connection number).phase] faithful
          simpa [hops, still_open] using passed
  · cases moved

theorem closesChannel_invariant : BridgeInvariant { state with closed := true } := by
  apply holds.of_shared
  · rfl
  · rfl
  · intro number faithful
    exact Faithful.lose
      [⟨(state.connection number).written, false⟩, receiveHop (state.connection number).phase]
      faithful (List.prefix_refl _)

theorem ended_invariant :
    BridgeInvariant (state.putConnection number
      { state.connection number with phase := .ended }) := by
  apply holds.of_connection
  · intro untaken
    exact ⟨(holds.quiet number untaken).1, rfl⟩
  · intro faithful
    have stopped := Faithful.stop [⟨(state.connection number).written, false⟩] faithful
    simpa [hops, putConnection, receiveHop] using stopped

theorem idle_invariant {next : ReceivePhase}
    (idle_before : receiveHop (state.connection number).phase = ⟨[], false⟩)
    (idle : receiveHop next = ⟨[], false⟩) (not_writing : isWriting next = false) :
    BridgeInvariant (state.putConnection number
      { state.connection number with phase := next }) := by
  apply holds.of_connection
  · intro untaken
    exact ⟨(holds.quiet number untaken).1, not_writing⟩
  · intro faithful
    simpa [hops, putConnection, idle_before, idle] using faithful

theorem receives_invariant (alone : ∀ other ∈ state.takers, other = number)
    (moved : state.stepReceives number = some after) : BridgeInvariant after := by
  simp only [stepReceives] at moved
  split at moved
  · rename_i phase_eq incoming_eq
    cases moved
    have takers_alone : ∀ other ∈ state.takers ++ [number], other = number :=
      List.forall_mem_append.mpr ⟨alone, List.forall_mem_singleton.mpr rfl⟩
    refine ⟨?_, ?_, ?_⟩
    · intro other untaken
      have absent : other ∉ state.takers ∧ other ≠ number := by
        simpa [putConnection] using untaken
      simpa [putConnection, Function.update_of_ne absent.2] using
        holds.quiet other absent.1
    · intro taker took other other_took
      rw [takers_alone taker took, takers_alone other other_took]
    · intro other without_rival
      have same : number = other := without_rival number (by simp [putConnection])
      subst same
      have faithful := holds.faithful number alone
      simp only [hops, phase_eq, receiveHop, incoming_eq, List.flatten_cons] at faithful
      have took := Faithful.take [⟨(state.connection number).written, false⟩] faithful
      simpa [hops, putConnection, receiveHop] using took
  · cases moved

theorem writes_invariant {count : Nat} (moved : state.stepWrites number count = some after) :
    BridgeInvariant after := by
  simp only [stepWrites] at moved
  split at moved
  · rename_i rest phase_eq
    split at moved
    · cases moved
      apply holds.of_connection
      · intro untaken
        have silent := (holds.quiet number untaken).2
        rw [phase_eq] at silent
        cases silent
      · intro faithful
        rw [hops, phase_eq, ← List.take_append_drop count rest] at faithful
        have passed := Faithful.pass [] faithful
        by_cases nothing_left : rest.drop count = []
        · simpa [hops, putConnection, nothing_left, receiveHop]
            using passed
        · simpa [hops, putConnection, nothing_left, receiveHop]
            using passed
    · cases moved
  · cases moved

theorem stepBridge_invariant {action : BridgeAction} (orderly : OrderlyBridge state action)
    (moved : stepBridge state action = some after) : BridgeInvariant after := by
  cases action with
  | tunnelReady | stopsHealth =>
    cases moved
    exact holds.of_shared rfl rfl (fun _ faithful => faithful)
  | onMessage bytes =>
    cases moved
    exact onMessage_invariant holds bytes
  | coroutineSends position =>
    rw [show position = 0 from orderly] at moved
    exact coroutineSends_invariant holds moved
  | closesChannel =>
    cases moved
    exact closesChannel_invariant holds
  | accepts =>
    simp only [stepBridge] at moved
    split at moved
    · rename_i phase_eq
      cases moved
      exact idle_invariant holds (by rw [phase_eq]; rfl) rfl rfl
    · cases moved
  | bridges =>
    simp only [stepBridge, stepBridges] at moved
    split at moved
    · rename_i phase_eq
      cases moved
      cases state.healthy with
      | true => exact idle_invariant holds (by rw [phase_eq]; rfl) rfl rfl
      | false => exact ended_invariant holds
    · cases moved
  | receives => exact receives_invariant holds orderly moved
  | writes => exact writes_invariant holds moved
  | writeFails =>
    simp only [stepBridge, stepWriteFails] at moved
    split at moved
    · cases moved
      exact ended_invariant holds
    · cases moved
  | loopEnds =>
    simp only [stepBridge, stepLoopEnds] at moved
    split at moved
    · cases moved
      exact ended_invariant holds
    · cases moved

end

end

/-- In every orderly run, what was written to a local connection is a prefix of the frames
in the order of their arrival. -/
theorem bridge_delivers_prefix (final : BridgeState)
    (run : Reaches stepBridge OrderlyBridge BridgeState.opened final) (number : Nat) :
    (final.connection number).written <+: final.arrived.flatten := by
  have holds : BridgeInvariant final := by
    apply run.invariant opened_invariant
    intro before action after invariant orderly moved
    exact stepBridge_invariant invariant orderly moved
  by_cases took : number ∈ final.takers
  · exact (holds.faithful number (holds.single number took)).delivered
  · rw [(holds.quiet number took).1]
    exact List.nil_prefix

instance (state : BridgeState) (action : BridgeAction) : Decidable (OrderlyBridge state action) := by
  cases action <;> unfold OrderlyBridge <;> infer_instance

def orderlyFrames : List BridgeAction :=
  [.tunnelReady, .onMessage [1, 2], .onMessage [3], .accepts 0, .bridges 0, .coroutineSends 0,
    .coroutineSends 0, .receives 0, .writes 0 2, .receives 0]

theorem orderly_frames_arrive :
    ∃ final, Reaches stepBridge OrderlyBridge BridgeState.opened final ∧
      (final.connection 0).written = [1, 2] ∧ [1, 2] <+: final.arrived.flatten := by
  obtain ⟨final, run, written_eq⟩ :
      ∃ final, Reaches stepBridge OrderlyBridge BridgeState.opened final ∧
        (final.connection 0).written = [1, 2] :=
    reaches_of_evaluated orderlyFrames (by decide)
  have delivered := bridge_delivers_prefix final run 0
  rw [written_eq] at delivered
  exact ⟨final, run, written_eq, delivered⟩

/-- Two frames arrive, and the coroutine of the second one is scheduled first. -/
def overtakingFrames : List BridgeAction :=
  [.tunnelReady, .onMessage [1], .onMessage [2], .accepts 0, .bridges 0, .coroutineSends 1,
    .receives 0, .writes 0 1]

theorem overtaking_frame_is_written_first :
    ∃ final, Reaches stepBridge anyAction BridgeState.opened final ∧
      (final.connection 0).written = [2] ∧ final.arrived.flatten = [1, 2] ∧
      ¬ (final.connection 0).written <+: final.arrived.flatten := by
  refine reaches_of_evaluated overtakingFrames ?_
  decide

end HandControl.AndroidBridge
