import HandControl.ResumeOrdering
import HandControl.SessionAttachments

/-!
# The output of an opened session

A client that opens a session is subscribed before the session produces anything. Every recorded
output is in one place on its way: the event loop, the broadcast channel, the forwarder, the
response channel or the client. These places in their order hold the numbers 1, 2, 3, ... as long as
the forwarder is never more than the capacity of the broadcast channel behind. Otherwise the oldest
events are skipped silently.
-/

namespace HandControl.OpenedStream

open KeyedTable CapabilitySessions NumberedStreams SessionResume ResumeOrdering
open SessionManager SessionService SessionAttachments TransitionRuns ServiceState Table

def deliveredNumbers (stream : OutputStream) (call : Call) : List Nat :=
  numbers stream (call.received.flatMap messageTags)

/-- The forwarder of the call finds at most as many events waiting as the broadcast channel
retains. -/
def KeepsUp (number : Nat) (service : ServiceState) (action : ServiceAction) : Prop :=
  action = .forwarder number → ∀ call waiting, service.calls.lookup number = some call →
    call.forwarder = some .receiving → call.subscription = some waiting →
      waiting.length ≤ defaultEventChannelCapacity

def callTags (call : Call) : List (OutputStream × Nat) :=
  call.received.flatMap messageTags ++
    (call.queue.flatMap messageTags ++
      (forwarderTags call.forwarder ++ waitingTags call.subscription))

/-- What the event loop of a session holds, and the numbers that come next. -/
def loopView (found : Option SessionEntry) :
    Option (List (OutputStream × Nat) × (OutputStream → Nat)) :=
  found.map fun entry => (loopTags entry.eventLoop, entry.state.nextSequence)

/-- All numbers that were assigned are on the way or were received. -/
def Numbered (tags : List (OutputStream × Nat)) :
    Option (List (OutputStream × Nat) × (OutputStream → Nat)) → Prop
  | none => ∀ stream, ∃ size, numbers stream tags = List.range' 1 size
  | some (held, next) => ∀ stream, ∃ size,
      numbers stream (tags ++ held) = List.range' 1 size ∧ next stream = 1 + size

variable {seen : Option (List (OutputStream × Nat) × (OutputStream → Nat))}
variable {tags : List (OutputStream × Nat)} {next : OutputStream → Nat} {sessionId : String}
variable {broadcast : SessionBroadcastEvent} {entry updated : SessionEntry} {service : ServiceState}
variable {count : Nat} {call : Call}

theorem Numbered.front_numbers {front back : List (OutputStream × Nat)}
    (numbered : Numbered (front ++ back) seen) (stream : OutputStream) :
    numbers stream front = List.range' 1 (numbers stream front).length := by
  match seen with
  | none =>
    obtain ⟨_, whole⟩ := numbered stream
    rw [numbers_append] at whole
    exact range_of_append whole
  | some (held, next) =>
    obtain ⟨_, whole, _⟩ := numbered stream
    rw [List.append_assoc, numbers_append] at whole
    exact range_of_append whole

theorem Numbered.removed (numbered : Numbered tags (some ([], next))) : Numbered tags none := by
  intro stream
  obtain ⟨size, whole, _⟩ := numbered stream
  rw [List.append_nil] at whole
  exact ⟨size, whole⟩

theorem Numbered.recorded {state : SessionState}
    (numbered : Numbered tags (some ([], state.nextSequence))) (event : SessionServerEvent) :
    Numbered tags (some (liveTags event (state.recordServerEvent event).1,
      (state.recordServerEvent event).2.nextSequence)) := by
  intro stream
  obtain ⟨size, whole, next_eq⟩ := numbered stream
  obtain ⟨added, live_eq, later_eq⟩ := recordServerEvent_numbers state event stream
  refine ⟨size + added, ?_, ?_⟩
  · rw [List.append_nil] at whole
    rw [numbers_append, whole, live_eq, next_eq, List.range'_append_1]
  · rw [later_eq, next_eq]
    omega

theorem Numbered.published {held : List (OutputStream × Nat)}
    (numbered : Numbered tags (some (held, next))) : Numbered (tags ++ held) (some ([], next)) := by
  intro stream
  obtain ⟨size, whole, next_eq⟩ := numbered stream
  exact ⟨size, by rw [List.append_nil]; exact whole, next_eq⟩

def InOrder (call : Call) : Prop :=
  ∀ stream, deliveredNumbers stream call = List.range' 1 (deliveredNumbers stream call).length

/-- The session is not created yet, or its output flows to the client, or the client gets
nothing any more. -/
inductive StreamPhase (known : Bool) (found : Option SessionEntry) (call : Call) : Prop where
  | unborn (stage_eq : ∃ capabilityName, call.stage = .opening capabilityName)
      (nothing : call.received = [] ∧ call.queue = [] ∧ call.forwarder = none)
  | flowing (stage_eq : call.stage = .opened ∨ call.stage = .attached none ∨ call.stage = .returned)
      (subscribed : call.subscription ≠ none) (known_eq : known = true)
      (numbered : Numbered (callTags call) (loopView found))
  | stopped (stage_eq : call.streamOpen = false ∨ ∃ status, call.stage = .failed status)
      (ordered : InOrder call)

section

variable {known : Bool} {found later : Option SessionEntry} {changed : Call}

theorem Numbered.inOrder (numbered : Numbered (callTags call) seen) : InOrder call := by
  intro stream
  exact Numbered.front_numbers numbered stream

section

variable (phase : StreamPhase known found call)

include phase

theorem StreamPhase.inOrder : InOrder call := by
  cases phase with
  | unborn _ nothing =>
    intro stream
    simp [deliveredNumbers, nothing.1]
  | flowing _ _ _ numbered => exact numbered.inOrder
  | stopped _ ordered => exact ordered

theorem StreamPhase.of_found
    (goes_on : ∀ tags, Numbered tags (loopView found) → Numbered tags (loopView later)) :
    StreamPhase known later call := by
  cases phase with
  | unborn opening nothing => exact .unborn opening nothing
  | flowing stage subscribed known_eq numbered =>
    exact .flowing stage subscribed known_eq (goes_on _ numbered)
  | stopped stage ordered => exact .stopped stage ordered

theorem StreamPhase.of_same (stage_eq : changed.stage = call.stage)
    (open_eq : changed.streamOpen = call.streamOpen)
    (places : changed.received = call.received ∧ changed.queue = call.queue ∧
      changed.forwarder = call.forwarder ∧ changed.subscription = call.subscription) :
    StreamPhase known found changed := by
  obtain ⟨received_eq, queue_eq, forwarder_eq, subscription_eq⟩ := places
  cases phase with
  | unborn opening nothing =>
    apply StreamPhase.unborn
    · rw [stage_eq]
      exact opening
    · rw [received_eq, queue_eq, forwarder_eq]
      exact nothing
  | flowing stage subscribed known_eq numbered =>
    apply StreamPhase.flowing _ _ known_eq
    · rw [callTags, received_eq, queue_eq, forwarder_eq, subscription_eq]
      exact numbered
    · rw [stage_eq]
      exact stage
    · rw [subscription_eq]
      exact subscribed
  | stopped stage ordered =>
    apply StreamPhase.stopped
    · rw [open_eq, stage_eq]
      exact stage
    · intro stream
      rw [deliveredNumbers, received_eq]
      exact ordered stream

end

theorem StreamPhase.blind (phase : StreamPhase false found call) :
    StreamPhase known later call := by
  cases phase with
  | unborn opening nothing => exact .unborn opening nothing
  | flowing _ _ known_eq => cases known_eq
  | stopped stage ordered => exact .stopped stage ordered

theorem InOrder.of_sameCall (same : SameCall call changed) (ordered : InOrder call) :
    InOrder changed := by
  intro stream
  rw [deliveredNumbers, same.received]
  exact ordered stream

section

variable (phase : StreamPhase known found call)

include phase

theorem StreamPhase.handler (formed : WellFormed call) (move : HandlerMove service call changed) :
    StreamPhase known found changed := by
  have open_eq : changed.streamOpen = call.streamOpen := by cases move <;> rfl
  have received_same := InOrder.of_sameCall (HandlerMove.sameCall move)
  cases phase with
  | unborn opening =>
    obtain ⟨_, opening⟩ := opening
    cases move <;> simp_all
  | flowing _ subscribed known_eq numbered =>
    cases move with
    | fails status => exact .stopped (Or.inr ⟨status, rfl⟩) (received_same numbered.inOrder)
    | spawns stage_eq =>
      have unspawned := (formed.attached none stage_eq).2.2
      refine .flowing (Or.inr (Or.inr rfl)) subscribed known_eq ?_
      simpa [callTags, Call.spawn, unspawned, forwarderTags] using numbered
    | _ => simp_all
  | stopped stage ordered =>
    rcases stage with closed | ⟨_, _⟩
    · exact .stopped (Or.inl (open_eq.trans closed)) (received_same ordered)
    · cases move <;> simp_all

theorem StreamPhase.forwarder
    (keeps_up : ∀ waiting, call.forwarder = some .receiving → call.subscription = some waiting →
      waiting.length ≤ defaultEventChannelCapacity) (move : ForwarderMove call changed) :
    StreamPhase known found changed := by
  have received_same := InOrder.of_sameCall (ForwarderMove.sameCall move)
  cases phase with
  | unborn _ nothing =>
    have unspawned := nothing.2.2
    cases move <;> simp_all
  | flowing stage subscribed known_eq numbered =>
    cases move with
    | receives _ _ forwarder_eq subscription_eq =>
      refine .flowing stage (by simp) known_eq ?_
      simpa [callTags, forwarder_eq, subscription_eq, forwarderTags, waitingTags,
        messageTags_sessionEventToProto, broadcastTags] using numbered
    | lags waiting forwarder_eq subscription_eq =>
      have fits := keeps_up waiting forwarder_eq subscription_eq
      omega
    | closes forwarder_eq | sends message forwarder_eq =>
      refine .flowing stage subscribed known_eq ?_
      simpa [callTags, forwarder_eq, forwarderTags] using numbered
    | stops _ _ closed_eq =>
      exact .stopped (Or.inl closed_eq) (received_same numbered.inOrder)
  | stopped stage ordered =>
    apply StreamPhase.stopped _ (received_same ordered)
    rw [ForwarderMove.streamOpen_eq move, ForwarderMove.stage_eq move]
    exact stage

theorem StreamPhase.drop (move : DropMove call changed) : StreamPhase known found changed := by
  apply StreamPhase.stopped (Or.inl (DropMove.closed move))
  exact InOrder.of_sameCall (DropMove.sameCall move) phase.inOrder

theorem StreamPhase.reads (stage_eq : call.stage = .returned) (open_eq : call.streamOpen = true)
    {message : SessionServerMessage} {queue : List SessionServerMessage}
    (queue_eq : call.queue = message :: queue) :
    StreamPhase known found
      { call with queue := queue, received := call.received ++ [message] } := by
  cases phase with
  | unborn => simp_all
  | flowing stage subscribed known_eq numbered =>
    refine .flowing stage subscribed known_eq ?_
    simpa [callTags, queue_eq] using numbered
  | stopped => simp_all

theorem StreamPhase.created {capabilityName : String}
    (stage_eq : call.stage = .opening capabilityName)
    (view_eq : loopView later = some ([], fun _ => 1)) :
    StreamPhase true later (call.created sessionId) := by
  cases phase with
  | unborn _ nothing =>
    obtain ⟨received_eq, queue_eq, unspawned⟩ := nothing
    refine .flowing (Or.inl rfl) (by simp [Call.created]) rfl ?_
    rw [view_eq]
    intro stream
    refine ⟨0, ?_, rfl⟩
    simp [callTags, Call.created, received_eq, queue_eq, unspawned, forwarderTags, waitingTags]
  | flowing => simp_all
  | stopped stage ordered =>
    rcases stage with closed | ⟨_, _⟩
    · exact .stopped (Or.inl closed) ordered
    · simp_all

theorem StreamPhase.attaches (stage_eq : call.stage = .opened ∨ call.stage = .senderTaken)
    (nextToken : Option String) (plain : call.stage = .opened → nextToken = none)
    (attachment : AttachmentState) :
    StreamPhase known found
      { call with stage := .attached nextToken, attachment := some attachment } := by
  cases phase with
  | unborn opening =>
    obtain ⟨_, opening⟩ := opening
    rw [opening] at stage_eq
    rcases stage_eq with impossible | impossible <;> cases impossible
  | flowing _ subscribed known_eq numbered =>
    have opened : call.stage = .opened := by
      rcases stage_eq with opened | taken
      · exact opened
      · simp_all
    rw [plain opened]
    exact .flowing (Or.inr (Or.inl rfl)) subscribed known_eq numbered
  | stopped stage ordered =>
    rcases stage with closed | ⟨_, _⟩
    · exact .stopped (Or.inl closed) ordered
    · simp_all

end

theorem StreamPhase.published (phase : StreamPhase known (some entry) call)
    (loop_eq : entry.eventLoop = .publishing broadcast) {eventLoop : LoopPhase}
    (drained : loopTags eventLoop = []) :
    StreamPhase known (some { entry with eventLoop := eventLoop })
      { call with subscription := call.subscription.map fun waiting => waiting ++ [broadcast] } := by
  cases phase with
  | unborn opening nothing => exact .unborn opening nothing
  | flowing stage subscribed known_eq numbered =>
    obtain ⟨waiting, subscription_eq⟩ := Option.ne_none_iff_exists'.mp subscribed
    refine .flowing stage (by simp [subscription_eq]) known_eq ?_
    have tags_eq : callTags { call with
        subscription := call.subscription.map fun waiting => waiting ++ [broadcast] } =
          callTags call ++ broadcastTags broadcast := by
      simp [callTags, subscription_eq, waitingTags]
    simp only [loopView, Option.map_some, loop_eq, loopTags] at numbered
    rw [tags_eq, loopView, Option.map_some, drained]
    exact Numbered.published numbered
  | stopped stage ordered => exact .stopped stage ordered

end

section

variable {after : ServiceState} {action : ServiceAction} {number : Nat}

/-- The call with this number, if it opens a session, is in one of the phases. -/
structure StreamInvariant (number : Nat) (service : ServiceState) : Prop where
  formed : Table.Every WellFormed service.calls
  phase : Tracked StreamPhase number service.opened service.sessions service.calls

theorem EntryMove.numbered (move : EntryMove sessionId entry action updated)
    (numbered : Numbered tags (loopView (some entry))) :
    Numbered tags (loopView (some updated)) := by
  cases move with
  | sends => exact numbered
  | records event _ loop_eq =>
    simp only [loopView, Option.map_some, loop_eq, loopTags] at numbered
    exact numbered.recorded event
  | prepares _ _ _ loop_eq | exits loop_eq =>
    simpa only [loopView, Option.map_some, loop_eq, loopTags, broadcastTags] using numbered

/-- A call attaches or detaches, and its session goes on as before. -/
theorem StreamInvariant.seats (invariant : StreamInvariant number service) {other : Nat}
    {earlier changed : Call} (earlier_eq : service.calls.lookup other = some earlier)
    (entry_eq : service.sessions.lookup earlier.setting.sessionId = some entry)
    (loop_eq : updated.eventLoop = entry.eventLoop)
    (next_eq : updated.state.nextSequence = entry.state.nextSequence)
    (kind_eq : changed.kind = earlier.kind)
    (session_eq : changed.setting.sessionId = earlier.setting.sessionId)
    (step : ∀ {known found}, StreamPhase known found earlier → StreamPhase known found changed) :
    Tracked StreamPhase number service.opened
      (service.sessions.insert earlier.setting.sessionId updated)
      (service.calls.insert other changed) := by
  have seated {known : Bool} {call : Call} (phase : StreamPhase known (some entry) call) :
      StreamPhase known (some updated) call := by
    apply phase.of_found
    simp [loopView, loop_eq, next_eq]
  exact invariant.phase.seats earlier_eq entry_eq kind_eq session_eq
    (fun _ _ phase => seated (step phase)) fun _ _ _ _ _ => seated

theorem ServiceMove.streamPhase (move : ServiceMove service action after)
    (keeps_up : KeepsUp number service action) (invariant : StreamInvariant number service) :
    Tracked StreamPhase number after.opened after.sessions after.calls := by
  cases move with
  | calls _ _ _ _ new_call =>
    intro call call_eq opens
    rcases lookup_insert_cases call_eq with kept | ⟨_, rfl⟩
    · exact invariant.phase call kept opens
    · obtain ⟨_, _, _, rfl, arrival⟩ := new_call
      rcases arrival with ⟨_, capabilityName, rfl⟩ | ⟨resumes, _⟩
      · exact .unborn ⟨capabilityName, rfl⟩ ⟨rfl, rfl, rfl⟩
      · cases resumes.symm.trans opens
  | handles other _ _ earlier _ earlier_eq move =>
    apply invariant.phase.step_call earlier_eq move.sameCall.kind move.sameCall.session
    exact fun _ _ _ _ phase => phase.handler (invariant.formed other earlier earlier_eq) move
  | forwards _ earlier _ earlier_eq move =>
    apply invariant.phase.step_call earlier_eq move.sameCall.kind move.sameCall.session
    rintro rfl _ known found phase
    exact phase.forwarder (fun waiting => keeps_up rfl earlier waiting earlier_eq) move
  | drops _ _ _ _ _ earlier_eq move =>
    apply invariant.phase.step_call earlier_eq move.sameCall.kind move.sameCall.session
    exact fun _ _ _ _ phase => phase.drop move
  | creates _ _ _ _ _ earlier_eq stage_eq new_session =>
    refine invariant.phase.creates earlier_eq new_session _ StreamPhase.blind fun phase => ?_
    apply phase.created stage_eq
    apply congrArg some
    refine Prod.ext rfl (funext fun stream => ?_)
    cases stream <;> rfl
  | attaches _ _ _ _ _ earlier_eq stage_eq entry_eq =>
    refine invariant.seats earlier_eq entry_eq ?_ ?_ ?_ ?_ ?_ <;> try rfl
    exact fun phase => phase.attaches (Or.inl stage_eq) none (fun _ => rfl) _
  | resumes _ _ freshToken _ _ earlier_eq stage_eq entry_eq =>
    refine invariant.seats earlier_eq entry_eq ?_ ?_ ?_ ?_ ?_ <;> try rfl
    exact fun phase => phase.attaches (Or.inr stage_eq) (some freshToken) (by simp [stage_eq]) _
  | detaches _ _ _ earlier_eq _ entry_eq =>
    refine invariant.seats earlier_eq entry_eq ?_ ?_ ?_ ?_ ?_ <;> try rfl
    exact fun phase => phase.of_same rfl rfl ⟨rfl, rfl, rfl, rfl⟩
  | reads _ _ _ _ earlier_eq stage_eq open_eq queue_eq =>
    refine invariant.phase.step_call earlier_eq ?_ ?_ ?_ <;> try rfl
    exact fun _ _ _ _ phase => phase.reads stage_eq open_eq queue_eq
  | leaves _ _ earlier_eq =>
    refine invariant.phase.step_call earlier_eq ?_ ?_ ?_ <;> try rfl
    exact fun _ _ _ _ phase => phase.of_same rfl rfl ⟨rfl, rfl, rfl, rfl⟩
  | works _ _ _ _ entry_eq move =>
    apply invariant.phase.session (fun _ different => AList.lookup_insert_ne different)
      (fun _ phase => phase)
    intro call _ _ known phase
    rw [entry_eq] at phase
    rw [AList.lookup_insert]
    exact phase.of_found fun tags => EntryMove.numbered move
  | publishes _ _ _ _ entry_eq loop_eq next_eq =>
    apply invariant.phase.publishes entry_eq
    intro known call phase
    apply phase.published loop_eq
    rcases next_eq with ⟨rfl, _⟩ | rfl <;> rfl
  | removes _ _ entry_eq loop_eq =>
    apply invariant.phase.session (fun _ different => AList.lookup_erase_ne different)
      (fun _ phase => phase)
    intro call _ _ known phase
    apply phase.of_found
    intro tags numbered
    rw [entry_eq] at numbered
    rw [AList.lookup_erase]
    simp only [loopView, Option.map_some, loop_eq, loopTags] at numbered
    exact numbered.removed
  | lists => exact invariant.phase

end

/-- A client whose forwarder never falls behind the broadcast channel receives the output
of the session it opened from number 1 on without a gap. -/
theorem opened_client_sees_no_gap {number : Nat} {service : ServiceState}
    (run : Reaches stepService (KeepsUp number) ServiceState.empty service) {call : Call}
    (call_eq : service.calls.lookup number = some call) (opens : call.kind = .opens)
    (stream : OutputStream) :
    deliveredNumbers stream call = List.range' 1 (deliveredNumbers stream call).length := by
  have invariant : StreamInvariant number service := by
    apply run.invariant
    · constructor
      · intro other found found_eq
        cases found_eq
      · intro found found_eq
        cases found_eq
    · intro before action after invariant keeps_up moved
      have move := stepService_move moved
      exact ⟨ServiceMove.wellFormed move invariant.formed,
        ServiceMove.streamPhase move keeps_up invariant⟩
  exact (invariant.phase call call_eq opens).inOrder stream

/-- The client reads each line of the capability when it was written in one run. In the other the
forwarder runs only after one line more than the broadcast channel retains. -/
def lineActions : List ServiceAction := emits (.output [] false false none)

def readingActions : List ServiceAction := [.forwarder 1, .forwarder 1, .clientReads 1]

instance (number : Nat) (service : ServiceState) (action : ServiceAction) :
    Decidable (KeepsUp number service action) := by
  rcases action
  case forwarder other =>
    exact decidable_of_iff (other = number → ∀ call ∈ service.calls.lookup number,
      call.forwarder = some .receiving → ∀ waiting ∈ call.subscription,
        waiting.length ≤ defaultEventChannelCapacity) (by simp [KeepsUp]; grind)
  all_goals exact isTrue (by simp [KeepsUp])

theorem reading_client_sees_both_lines :
    ∃ service call, Reaches stepService (KeepsUp 1) ServiceState.empty service ∧
      service.calls.lookup 1 = some call ∧ call.kind = .opens ∧
      (deliveredNumbers .stdout call).length = 2 ∧
      deliveredNumbers .stdout call =
        List.range' 1 (deliveredNumbers .stdout call).length := by
  obtain ⟨service, run, call, call_eq, opens, length_eq⟩ :
      ∃ service, Reaches stepService (KeepsUp 1) ServiceState.empty service ∧
        ∃ call ∈ service.calls.lookup 1,
          call.kind = .opens ∧ (deliveredNumbers .stdout call).length = 2 :=
    reaches_of_evaluated
      (openingActions ++ lineActions ++ readingActions ++ lineActions ++ readingActions)
      (by decide +kernel)
  exact ⟨service, call, run, call_eq, opens, length_eq,
    opened_client_sees_no_gap run call_eq opens .stdout⟩

theorem slow_forwarder_skips_first_line :
    ∃ service call, Reaches stepService anyAction ServiceState.empty service ∧
      service.calls.lookup 1 = some call ∧ call.kind = .opens ∧
      call.clientTask = .forwarding ∧ call.streamOpen = true ∧
      deliveredNumbers .stdout call = [2] := by
  refine found_of_evaluated
    (openingActions ++ (List.replicate (defaultEventChannelCapacity + 1) lineActions).flatten ++
      .forwarder 1 :: readingActions) ?_
  decide +kernel

end HandControl.OpenedStream
