import HandControl.CapabilitySessions
import HandControl.MessageChannels
import HandControl.TransitionRuns

/-!
# The events of a capability session

A capability announces itself, sends output and heartbeat replies, reports its exit or errors, and
closes. Its events go through a bounded channel to the event loop, which stops at the first closing
event.
-/

namespace HandControl.EventTranscripts

open CapabilitySessions MessageChannels TransitionRuns

def isInner : SessionServerEvent → Bool
  | .output _ _ _ _ => true
  | .heartbeatAck _ _ => true
  | _ => false

def isError : SessionServerEvent → Bool
  | .error _ _ => true
  | _ => false

/-- The report at the end of a session: one exit, or errors. -/
def IsReport (ending : List SessionServerEvent) : Prop :=
  (∃ exitCode timedOut message, ending = [.exit exitCode timedOut message]) ∨
    (ending ≠ [] ∧ ∀ event ∈ ending, isError event = true)

def IsTranscript (events : List SessionServerEvent) : Prop :=
  ∃ message inner ending reason,
    events = .ready message :: (inner ++ (ending ++ [.closed reason])) ∧
      (∀ event ∈ inner, isInner event = true) ∧ IsReport ending

def IsBeginning (events : List SessionServerEvent) : Prop :=
  ∃ rest, IsTranscript (events ++ rest)

inductive Stage where
  | initial
  | active
  | exited
  | failed
  | closed
deriving DecidableEq

def Stage.next : Stage → SessionServerEvent → Option Stage
  | .initial, .ready _ => some .active
  | .active, .output _ _ _ _ => some .active
  | .active, .heartbeatAck _ _ => some .active
  | .active, .exit _ _ _ => some .exited
  | .active, .error _ _ => some .failed
  | .failed, .error _ _ => some .failed
  | .failed, .closed _ => some .closed
  | .exited, .closed _ => some .closed
  | _, _ => none

def scan (events : List SessionServerEvent) : Option Stage :=
  runActions Stage.next .initial events

variable {events : List SessionServerEvent} {stage : Stage} {sent : Bool}

theorem scan_snoc (scanned : scan events = some stage) (event : SessionServerEvent) :
    scan (events ++ [event]) = stage.next event := by
  unfold scan at scanned ⊢
  rw [runActions_append, scanned]
  simp [runActions]

theorem closed_is_last (scanned : runActions Stage.next .closed events = some stage) :
    events = [] := by
  cases events with
  | nil => rfl
  | cons event => cases event <;> cases scanned

theorem exited_transcript (scanned : runActions Stage.next .exited events = some .closed) :
    ∃ reason, events = [.closed reason] := by
  cases events with
  | nil => cases scanned
  | cons event =>
    cases event with
    | closed reason =>
      have last := closed_is_last scanned
      subst last
      exact ⟨reason, rfl⟩
    | _ => cases scanned

theorem failed_transcript (scanned : runActions Stage.next .failed events = some .closed) :
    ∃ errors reason, events = errors ++ [.closed reason] ∧
      ∀ event ∈ errors, isError event = true := by
  induction events with
  | nil => cases scanned
  | cons event rest ih =>
    cases event with
    | error message code =>
      obtain ⟨errors, reason, rest_eq, all_errors⟩ := ih scanned
      exact ⟨.error message code :: errors, reason, by rw [rest_eq]; rfl,
        List.forall_mem_cons.mpr ⟨rfl, all_errors⟩⟩
    | closed reason =>
      have last := closed_is_last scanned
      subst last
      exact ⟨[], reason, rfl, List.forall_mem_nil _⟩
    | _ => cases scanned

theorem active_transcript (scanned : runActions Stage.next .active events = some .closed) :
    ∃ inner ending reason, events = inner ++ (ending ++ [.closed reason]) ∧
      (∀ event ∈ inner, isInner event = true) ∧ IsReport ending := by
  induction events with
  | nil => cases scanned
  | cons event rest ih =>
    have inner_first : isInner event = true →
        runActions Stage.next .active rest = some .closed →
        ∃ inner ending reason, event :: rest = inner ++ (ending ++ [.closed reason]) ∧
          (∀ event ∈ inner, isInner event = true) ∧ IsReport ending := by
      intro is_inner rest_scanned
      obtain ⟨inner, ending, reason, rest_eq, all_inner, report⟩ := ih rest_scanned
      exact ⟨event :: inner, ending, reason, by rw [rest_eq]; rfl,
        List.forall_mem_cons.mpr ⟨is_inner, all_inner⟩, report⟩
    cases event with
    | output | heartbeatAck => exact inner_first rfl scanned
    | exit exitCode timedOut message =>
      obtain ⟨reason, rest_eq⟩ := exited_transcript scanned
      exact ⟨[], [.exit exitCode timedOut message], reason, by rw [rest_eq]; rfl,
        List.forall_mem_nil _, Or.inl ⟨exitCode, timedOut, message, rfl⟩⟩
    | error message code =>
      obtain ⟨errors, reason, rest_eq, all_errors⟩ := failed_transcript scanned
      exact ⟨[], .error message code :: errors, reason, by rw [rest_eq]; rfl, List.forall_mem_nil _,
        Or.inr ⟨by simp, List.forall_mem_cons.mpr ⟨rfl, all_errors⟩⟩⟩
    | _ => cases scanned

theorem transcript_of_scan (scanned : scan events = some .closed) : IsTranscript events := by
  cases events with
  | nil => cases scanned
  | cons event =>
    cases event with
    | ready message =>
      obtain ⟨inner, ending, reason, rest_eq, all_inner, report⟩ := active_transcript scanned
      exact ⟨message, inner, ending, reason, by rw [rest_eq], all_inner, report⟩
    | _ => cases scanned

def Stage.completion : Stage → List SessionServerEvent
  | .initial => [.ready none, .exit 0 false none, .closed none]
  | .active => [.exit 0 false none, .closed none]
  | .exited => [.closed none]
  | .failed => [.closed none]
  | .closed => []

theorem beginning_of_scan (scanned : scan events = some stage) : IsBeginning events := by
  refine ⟨stage.completion, transcript_of_scan ?_⟩
  unfold scan at scanned ⊢
  rw [runActions_append, scanned]
  cases stage <;> rfl

theorem scan_prefix {front back : List SessionServerEvent}
    (scanned : scan (front ++ back) = some stage) : ∃ earlier, scan front = some earlier := by
  unfold scan at scanned ⊢
  rw [runActions_append, Option.bind_eq_some_iff] at scanned
  obtain ⟨earlier, front_scanned, _⟩ := scanned
  exact ⟨earlier, front_scanned⟩

theorem scanned_closed_iff {start : Stage} (open_start : start ≠ .closed)
    (scanned : runActions Stage.next start events = some stage) :
    stage = .closed ↔ ∃ event ∈ events, event.isClosed = true := by
  induction events generalizing start with
  | nil =>
    cases scanned
    simp [open_start]
  | cons event rest ih =>
    rw [runActions, Option.bind_eq_some_iff] at scanned
    obtain ⟨middle, moved, rest_scanned⟩ := scanned
    by_cases closes : event.isClosed = true
    · have middle_eq : middle = .closed := by
        cases event with
        | closed => cases start <;> cases moved <;> rfl
        | _ => cases closes
      subst middle_eq
      have last := closed_is_last rest_scanned
      subst last
      cases rest_scanned
      simp [closes]
    · have middle_open : middle ≠ .closed := by
        intro middle_eq
        subst middle_eq
        cases event with
        | closed => exact closes rfl
        | _ => cases start <;> cases moved
      rw [ih middle_open rest_scanned]
      simp [closes]

def throughClosed : List SessionServerEvent → List SessionServerEvent
  | [] => []
  | event :: rest => if event.isClosed then [event] else event :: throughClosed rest

theorem throughClosed_snoc_of_open (still_open : ¬ ∃ event ∈ events, event.isClosed = true)
    (event : SessionServerEvent) :
    throughClosed (events ++ [event]) = throughClosed events ++ [event] := by
  induction events with
  | nil => simp [throughClosed]
  | cons first rest ih =>
    have first_open : first.isClosed = false := by
      rw [Bool.eq_false_iff]
      exact fun closes => still_open ⟨first, List.mem_cons_self, closes⟩
    have rest_open : ¬ ∃ event ∈ rest, event.isClosed = true := by
      rintro ⟨other, member, closes⟩
      exact still_open ⟨other, List.mem_cons_of_mem _ member, closes⟩
    simp [throughClosed, first_open, ih rest_open]

theorem throughClosed_append_of_closed (closed : ∃ event ∈ events, event.isClosed = true)
    (more : List SessionServerEvent) : throughClosed (events ++ more) = throughClosed events := by
  induction events with
  | nil => simp at closed
  | cons first rest ih =>
    by_cases closes : first.isClosed = true
    · simp [throughClosed, closes]
    · have later : ∃ event ∈ rest, event.isClosed = true := by
        simpa [closes] using closed
      simp [throughClosed, closes, ih later]

theorem closed_mem_throughClosed_iff :
    (∃ event ∈ throughClosed events, event.isClosed = true) ↔
      ∃ event ∈ events, event.isClosed = true := by
  induction events with
  | nil => simp [throughClosed]
  | cons first rest ih =>
    by_cases closes : first.isClosed = true
    · simp [throughClosed, closes]
    · simp [throughClosed, closes, ih]

/-- The channel of a session with its event loop. `sent` and `received` record its events.
`openerDone` says that `SessionManager::open_session` has returned and dropped its sender. -/
structure EventChannel where
  queue : List SessionServerEvent
  sent : List SessionServerEvent
  received : List SessionServerEvent
  openerDone : Bool
  loopEnded : Bool
deriving DecidableEq

def EventChannel.new : EventChannel where
  queue := []
  sent := []
  received := []
  openerDone := false
  loopEnded := false

def serverChannelCapacity : Nat := 128

namespace EventChannel

/-- Send an event: it waits for room, and fails when the event loop has ended. -/
def send (channel : EventChannel) (event : SessionServerEvent) : Option (Bool × EventChannel) :=
  if channel.loopEnded then some (false, channel)
  else
    (offer serverChannelCapacity channel.queue event).map fun queue =>
      (true, { channel with queue := queue, sent := channel.sent ++ [event] })

/-- One turn of `run_session_event_loop`. What is left in the channel is dropped with its
receiver. -/
def receive (channel : EventChannel) (producersGone : Bool) : Option EventChannel :=
  if channel.loopEnded then none
  else
    match channel.queue with
    | event :: queue =>
      let received := channel.received ++ [event]
      if event.isClosed then
        some { channel with queue := [], received := received, loopEnded := true }
      else some { channel with queue := queue, received := received }
    | [] =>
      if producersGone && channel.openerDone then some { channel with loopEnded := true }
      else none

end EventChannel

/-- What is in the channel is a beginning of a transcript that has got to `stage`, as far as
the event loop will receive it. -/
structure Conforms (channel : EventChannel) (stage : Stage) : Prop where
  scanned : scan (channel.received ++ throughClosed channel.queue) = some stage
  running : channel.loopEnded = false → ¬ ∃ event ∈ channel.received, event.isClosed = true
  ended : channel.loopEnded = true → scan channel.received = some .closed

theorem Conforms.new : Conforms EventChannel.new .initial := by
  refine ⟨rfl, ?_, ?_⟩
  · intro _
    simp [EventChannel.new]
  · intro ended
    cases ended

variable {channel after : EventChannel} {next : Stage} {event : SessionServerEvent}

theorem Conforms.loop_running (conforms : Conforms channel stage) (still_open : stage ≠ .closed) :
    channel.loopEnded = false := by
  rw [Bool.eq_false_iff]
  intro ended
  have closed := conforms.ended ended
  have scanned := conforms.scanned
  unfold scan at closed scanned
  rw [runActions_append, closed, Option.bind_some] at scanned
  have nothing := closed_is_last scanned
  rw [nothing] at scanned
  cases scanned
  exact still_open rfl

theorem Conforms.queue_open_iff (conforms : Conforms channel stage)
    (running : channel.loopEnded = false) :
    stage = .closed ↔ ∃ event ∈ channel.queue, event.isClosed = true := by
  rw [scanned_closed_iff (by decide) conforms.scanned]
  have none_received := conforms.running running
  constructor
  · rintro ⟨event, member, closes⟩
    rcases List.mem_append.mp member with received | queued
    · exact absurd ⟨event, received, closes⟩ none_received
    · exact closed_mem_throughClosed_iff.mp ⟨event, queued, closes⟩
  · intro queued
    obtain ⟨event, member, closes⟩ := closed_mem_throughClosed_iff.mpr queued
    exact ⟨event, List.mem_append_right _ member, closes⟩

theorem send_cases (moved : channel.send event = some (sent, after)) :
    channel.loopEnded = true ∧ sent = false ∧ after = channel ∨
      channel.loopEnded = false ∧ sent = true ∧
        after =
          { channel with queue := channel.queue ++ [event], sent := channel.sent ++ [event] } := by
  unfold EventChannel.send at moved
  split at moved
  · rename_i ended
    cases moved
    exact Or.inl ⟨ended, rfl, rfl⟩
  · rename_i running
    right
    obtain ⟨_, offered, parts⟩ := Option.map_eq_some_iff.mp moved
    obtain ⟨_, queue_eq⟩ := (offer_eq_some_iff _ _ _ _).mp offered
    cases parts
    rw [queue_eq]
    exact ⟨by simpa using running, rfl, rfl⟩

theorem Conforms.send (conforms : Conforms channel stage) (still_open : stage ≠ .closed)
    (follows : stage.next event = some next) (moved : channel.send event = some (sent, after)) :
    Conforms after next := by
  have running := conforms.loop_running still_open
  rcases send_cases moved with ⟨ended, _⟩ | ⟨_, _, after_eq⟩
  · rw [running] at ended
    cases ended
  · subst after_eq
    have queue_open : ¬ ∃ event ∈ channel.queue, event.isClosed = true := by
      rw [← conforms.queue_open_iff running]
      exact still_open
    refine ⟨?_, conforms.running, ?_⟩
    · show scan (channel.received ++ throughClosed (channel.queue ++ [event])) = some next
      rw [throughClosed_snoc_of_open queue_open, ← List.append_assoc, scan_snoc conforms.scanned]
      exact follows
    · intro ended
      exact absurd (ended.symm.trans running) (by simp)

theorem Conforms.send_late (conforms : Conforms channel .closed)
    (moved : channel.send event = some (sent, after)) : Conforms after .closed := by
  rcases send_cases moved with ⟨_, _, after_eq⟩ | ⟨running, _, after_eq⟩
  · rw [after_eq]
    exact conforms
  · subst after_eq
    have queue_closed := (conforms.queue_open_iff running).mp rfl
    refine ⟨?_, conforms.running, ?_⟩
    · show scan (channel.received ++ throughClosed (channel.queue ++ [event])) = some .closed
      rw [throughClosed_append_of_closed queue_closed]
      exact conforms.scanned
    · intro ended
      exact absurd (ended.symm.trans running) (by simp)

section

variable (conforms : Conforms channel stage)

include conforms

/-- The event loop receives the next event. It does not find the channel at its end before
the session is closed. -/
theorem Conforms.receive {producersGone : Bool} (gone : producersGone = true → stage = .closed)
    (moved : channel.receive producersGone = some after) : Conforms after stage := by
  unfold EventChannel.receive at moved
  split at moved
  · cases moved
  rename_i not_ended
  have running : channel.loopEnded = false := by simpa using not_ended
  split at moved
  next event queue queue_eq =>
    have scanned := conforms.scanned
    rw [queue_eq] at scanned
    split at moved
    next closes =>
      cases moved
      rw [throughClosed, if_pos closes] at scanned
      have stage_eq : stage = .closed :=
        (conforms.queue_open_iff running).mpr ⟨event, by simp [queue_eq], closes⟩
      subst stage_eq
      refine ⟨by simpa [throughClosed] using scanned, ?_, fun _ => scanned⟩
      intro still_running
      cases still_running
    next stays_open =>
      cases moved
      rw [throughClosed, if_neg stays_open] at scanned
      refine ⟨by simpa using scanned, ?_, ?_⟩
      · intro _
        have none_received := conforms.running running
        rintro ⟨other, member, closes⟩
        rcases List.mem_append.mp member with received | now
        · exact none_received ⟨other, received, closes⟩
        · rw [List.mem_singleton] at now
          rw [now] at closes
          exact stays_open closes
      · intro ended
        exact absurd (ended.symm.trans running) (by simp)
  next queue_eq =>
    split at moved
    next ends =>
      rw [Bool.and_eq_true] at ends
      have stage_eq := gone ends.1
      have queued := (conforms.queue_open_iff running).mp stage_eq
      simp [queue_eq] at queued
    next => cases moved

theorem Conforms.openerReturns :
    Conforms { channel with openerDone := true } stage :=
  ⟨conforms.scanned, conforms.running, conforms.ended⟩

theorem Conforms.beginning : IsBeginning channel.received := by
  obtain ⟨_, scanned⟩ := scan_prefix conforms.scanned
  exact beginning_of_scan scanned

end

section

variable {Phase : Type} {fits : Phase → Stage → Prop} {phase nextPhase : Phase}

/-- What was sent fits the phase that the sending task has got to. -/
def Accords (fits : Phase → Stage → Prop) (phase : Phase) (channel : EventChannel) : Prop :=
  ∃ stage, fits phase stage ∧ Conforms channel stage

/-- The event may follow in this phase, and the next phase fits what it leads to. -/
def Leads (fits : Phase → Stage → Prop) (phase : Phase) (event : SessionServerEvent)
    (nextPhase : Phase) : Prop :=
  ∀ stage, fits phase stage → stage ≠ .closed ∧
    ∃ later, stage.next event = some later ∧ fits nextPhase later

variable (accords : Accords fits phase channel)

include accords

theorem Accords.send (leads : Leads fits phase event nextPhase)
    (moved : channel.send event = some (sent, after)) : Accords fits nextPhase after := by
  obtain ⟨stage, fit, conforms⟩ := accords
  obtain ⟨still_open, later, follows, later_fit⟩ := leads stage fit
  exact ⟨later, later_fit, conforms.send still_open follows moved⟩

theorem Accords.moves (still_fits : ∀ stage, fits phase stage → fits nextPhase stage) :
    Accords fits nextPhase channel := by
  obtain ⟨stage, fit, conforms⟩ := accords
  exact ⟨stage, still_fits stage fit, conforms⟩

theorem Accords.openerReturns : Accords fits phase { channel with openerDone := true } := by
  obtain ⟨stage, fit, conforms⟩ := accords
  exact ⟨stage, fit, conforms.openerReturns⟩

theorem Accords.receive {producersGone : Bool}
    (gone : producersGone = true → ∀ stage, fits phase stage → stage = .closed)
    (moved : channel.receive producersGone = some after) : Accords fits phase after := by
  obtain ⟨stage, fit, conforms⟩ := accords
  exact ⟨stage, fit, conforms.receive (fun ended => gone ended stage fit) moved⟩

end

end HandControl.EventTranscripts
