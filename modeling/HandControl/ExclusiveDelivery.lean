import HandControl.SessionAttachments

/-!
# Who receives the output of a session

The task that reads the request stream of a call gives the attachment back. The task that writes the
response stream goes on until that stream is closed. So a client that half-closes its request stream
still receives the output, next to the client that attaches after it.
-/

namespace HandControl.ExclusiveDelivery

open KeyedTable SessionResume SessionService SessionAttachments TransitionRuns

/-- The task `forward_session_events` of the call still runs and its response stream is
open. -/
def canDeliver (call : Call) : Bool :=
  call.streamOpen &&
    match call.forwarder with
    | some .receiving => true
    | some (.sending _) => true
    | some .ended => false
    | none => false

def deliveryOf (found : Option Call) : Option String :=
  found.bind fun call => if canDeliver call then some call.setting.sessionId else none

def deliversTo (service : ServiceState) (number : Nat) : Option String :=
  deliveryOf (service.calls.lookup number)

/-- The calls whose task can still put messages of the session into an open stream. -/
def deliveringCalls (service : ServiceState) (sessionId : String) : Set Nat :=
  {number | deliversTo service number = some sessionId}

/-- The request stream of a call ends after its response stream, or after the session. -/
def EndsAfterResponse (service : ServiceState) (action : ServiceAction) : Prop :=
  ∀ number call, action = .requestEnded number → service.calls.lookup number = some call →
    canDeliver call = true → service.sessions.lookup call.setting.sessionId = none

variable {action : ServiceAction}

section

variable {service after : ServiceState} {call changed : Call} {number other : Nat}
variable {sessionId : String}

theorem deliveryOf_eq_some {found : Option Call} (delivers : deliveryOf found = some sessionId) :
    ∃ call, found = some call ∧ canDeliver call = true ∧ call.setting.sessionId = sessionId := by
  obtain ⟨call, call_eq, delivered⟩ := Option.bind_eq_some_iff.mp delivers
  split_ifs at delivered with can_deliver
  exact ⟨call, call_eq, can_deliver, Option.some.inj delivered⟩

theorem canDeliver_forwarder (delivers : canDeliver call = true) : call.forwarder ≠ none := by
  intro unspawned
  simp [canDeliver, unspawned] at delivers

def StartsAttached (call changed : Call) : Prop :=
  canDeliver changed = true → changed.setting.sessionId = call.setting.sessionId ∧
    (canDeliver call = true ∨ holds call = some call.setting.sessionId)

theorem StartsAttached.of_same (session_eq : changed.setting.sessionId = call.setting.sessionId)
    (open_eq : changed.streamOpen = call.streamOpen)
    (forwarder_eq : changed.forwarder = call.forwarder) : StartsAttached call changed := by
  intro delivers
  rw [canDeliver, open_eq, forwarder_eq] at delivers
  exact ⟨session_eq, Or.inl delivers⟩

theorem StartsAttached.of_attached (formed : WellFormed call) {nextToken : Option String}
    (stage_eq : call.stage = .attached nextToken) (stage : CallStage) :
    StartsAttached call (call.spawn stage) := by
  intro _
  obtain ⟨attached, task_eq, _⟩ := formed.attached nextToken stage_eq
  exact ⟨rfl, Or.inr (by simp [holds, attached, task_eq])⟩

theorem StartsAttached.of_unspawned (unspawned : changed.forwarder = none) :
    StartsAttached call changed := by
  intro delivers
  exact absurd unspawned (canDeliver_forwarder delivers)

theorem HandlerMove.startsAttached (formed : WellFormed call)
    (move : HandlerMove service call changed) : StartsAttached call changed := by
  cases move with
  | spawns stage_eq | snapshots nextToken entry stage_eq => exact .of_attached formed stage_eq _
  | _ => exact .of_same rfl rfl rfl

theorem ForwarderMove.startsAttached (move : ForwarderMove call changed) :
    StartsAttached call changed := by
  cases move with
  | receives _ _ forwarder_eq =>
    intro delivers
    refine ⟨rfl, Or.inl ?_⟩
    simpa [canDeliver, forwarder_eq] using delivers
  | lags => exact .of_same rfl rfl rfl
  | closes | stops =>
    intro delivers
    simp [canDeliver] at delivers
  | sends _ forwarder_eq open_eq =>
    intro _
    exact ⟨rfl, Or.inl (by simp [canDeliver, forwarder_eq, open_eq])⟩

theorem DropMove.startsAttached (move : DropMove call changed) : StartsAttached call changed := by
  have closed := DropMove.closed move
  intro delivers
  simp [canDeliver, closed] at delivers

theorem deliver_startsAttached (broadcast : SessionBroadcastEvent) (call : Call) :
    StartsAttached call (ServiceState.deliver sessionId broadcast call) := by
  unfold ServiceState.deliver
  split_ifs <;> exact .of_same rfl rfl rfl

theorem CallMove.startsAttached (move : CallMove service number call action changed)
    (formed : WellFormed call) : StartsAttached call changed := by
  cases move with
  | handles _ _ _ move => exact HandlerMove.startsAttached formed move
  | forwards _ move => exact ForwarderMove.startsAttached move
  | drops _ _ _ move => exact DropMove.startsAttached move
  | creates _ _ _ stage_eq =>
    apply StartsAttached.of_unspawned
    exact (formed.early (by rw [stage_eq]; rfl)).2.2
  | attaches | reads | leaves => exact .of_same rfl rfl rfl

theorem StartsAttached.engaged (starts : StartsAttached call changed)
    (call_eq : service.calls.lookup other = some call)
    (delivers : deliveryOf (some changed) = some sessionId) :
    (ledger service).Engaged (deliversTo service) other sessionId := by
  obtain ⟨_, found_eq, can_deliver, session_eq⟩ := deliveryOf_eq_some delivers
  cases found_eq
  obtain ⟨kept, delivered | held⟩ := starts can_deliver
  · right
    simp [deliversTo, deliveryOf, call_eq, delivered, ← kept, session_eq]
  · left
    simp [ledger, holdingOf, call_eq, held, ← kept, session_eq]

theorem newCall_delivery (new_call : IsNewCall call) : deliveryOf (some call) = none := by
  rcases new_call with ⟨_, _, _, rfl, _⟩
  simp [deliveryOf, canDeliver, newCall]

theorem ServiceMove.starts (move : ServiceMove service action after)
    (formed : Table.Every WellFormed service.calls)
    (delivers : deliversTo after other = some sessionId) :
    (ledger service).Engaged (deliversTo service) other sessionId := by
  rw [deliversTo] at delivers
  cases ServiceMove.callsAfter move with
  | arrives _ _ _ _ new_call calls_eq =>
    rw [calls_eq, Table.lookup_insert_eq] at delivers
    split_ifs at delivers
    · rw [newCall_delivery new_call] at delivers
      cases delivers
    · exact Or.inr delivers
  | changes _ number call _ call_eq call_move calls_eq =>
    have starts := CallMove.startsAttached call_move (formed number call call_eq)
    rw [calls_eq, Table.lookup_insert_eq] at delivers
    split_ifs at delivers with same
    · rw [← same] at call_eq
      exact starts.engaged call_eq delivers
    · exact Or.inr delivers
  | delivers _ broadcast calls_eq =>
    rw [calls_eq, Table.lookup_mapValues] at delivers
    obtain ⟨_, found_eq, _⟩ := deliveryOf_eq_some delivers
    obtain ⟨call, call_eq, _⟩ := Option.map_eq_some_iff.mp found_eq
    rw [call_eq] at delivers
    exact (deliver_startsAttached broadcast call).engaged call_eq delivers
  | stays _ calls_eq =>
    rw [calls_eq] at delivers
    exact Or.inr delivers

end

section

variable {service after : ServiceState} {call changed : Call} {number other : Nat}
variable {sessionId : String}

theorem CallMove.holds_kept (move : CallMove service number call action changed)
    (formed : WellFormed call) (unended : action ≠ .requestEnded number)
    (held : holds call = some sessionId) : holds changed = some sessionId := by
  cases move with
  | handles _ _ _ move => rw [(HandlerMove.holds_eq formed move).1, held]
  | forwards _ move => rw [(ForwarderMove.holds_eq move).1, held]
  | drops _ _ _ move => rw [(DropMove.holds_eq move).1, held]
  | creates _ _ _ stage_eq =>
    have unattached := (formed.early (by rw [stage_eq]; rfl)).1
    rw [holds_eq_none_of_unattached unattached] at held
    cases held
  | attaches _ _ _ stage_eq =>
    have early : isEarly call.stage = true := by
      rcases stage_eq with stage_eq | stage_eq <;> rw [stage_eq] <;> rfl
    rw [holds_eq_none_of_unattached (formed.early early).1] at held
    cases held
  | reads => exact held
  | leaves => exact absurd rfl unended

theorem ServiceMove.released (move : ServiceMove service action after)
    (formed : Table.Every WellFormed service.calls)
    (held : (ledger service).holding other = some sessionId)
    (gone : (ledger after).holding other ≠ some sessionId) : action = .requestEnded other := by
  by_contra unended
  apply gone
  obtain ⟨call, call_eq, call_holds⟩ := Option.bind_eq_some_iff.mp held
  simp only [ledger]
  cases ServiceMove.callsAfter move with
  | arrives _ _ _ unused _ calls_eq =>
    rw [calls_eq, Table.lookup_insert_of_absent unused call_eq]
    exact call_holds
  | changes _ _ _ _ earlier_eq call_move calls_eq =>
    rw [calls_eq, Table.lookup_insert_eq]
    split_ifs with same
    · subst same
      rw [call_eq] at earlier_eq
      cases earlier_eq
      exact CallMove.holds_kept call_move (formed other call call_eq) unended call_holds
    · exact held
  | delivers published broadcast calls_eq =>
    rw [calls_eq, Table.lookup_mapValues, call_eq]
    exact (deliver_holds published broadcast call).1.trans call_holds
  | stays _ calls_eq =>
    rw [calls_eq]
    exact held

theorem ServiceMove.delivers_before (move : ServiceMove service (.requestEnded number) after)
    (delivers : deliversTo after number = some sessionId) :
    deliversTo service number = some sessionId := by
  rw [deliversTo] at delivers ⊢
  cases ServiceMove.callsAfter move with
  | arrives _ _ _ _ new_call calls_eq =>
    rw [calls_eq, Table.lookup_insert_eq] at delivers
    split_ifs at delivers
    · rw [newCall_delivery new_call] at delivers
      cases delivers
    · exact delivers
  | changes _ _ _ _ call_eq call_move calls_eq =>
    cases call_move with
    | drops _ _ own => rcases own with own | own <;> cases own
    | leaves =>
      rw [calls_eq, AList.lookup_insert] at delivers
      rw [call_eq]
      exact delivers
  | stays _ calls_eq =>
    rw [calls_eq] at delivers
    exact delivers

end

structure DeliveryInvariant (service : ServiceState) : Prop where
  attachments : AttachmentInvariant service
  exclusive : (ledger service).ExclusiveUse (deliversTo service)

theorem deliveryInvariant_empty : DeliveryInvariant ServiceState.empty := by
  refine ⟨attachmentInvariant_empty, ?_, ?_, ?_⟩
  · intro number sessionId delivers
    cases delivers
  · intro number sessionId delivers
    cases delivers
  · intro sessionId first second engaged
    rcases engaged with held | delivers
    · cases held
    · cases delivers

theorem ServiceMove.delivery {service after : ServiceState}
    (move : ServiceMove service action after) (permitted : EndsAfterResponse service action)
    (invariant : DeliveryInvariant service) : DeliveryInvariant after := by
  have formed := invariant.attachments.formed
  refine ⟨ServiceMove.attachments move invariant.attachments, ?_⟩
  apply (ServiceMove.ledgerStep move invariant.attachments).step.exclusiveUse
    invariant.attachments.sound invariant.exclusive
  · intro number sessionId delivers
    exact ServiceMove.starts move formed delivers
  · intro number sessionId held gone delivers
    have ended := ServiceMove.released move formed held gone
    subst ended
    obtain ⟨call, call_eq, can_deliver, session_eq⟩ :=
      deliveryOf_eq_some (ServiceMove.delivers_before move delivers)
    have absent := permitted number call rfl call_eq can_deliver
    rw [session_eq] at absent
    simp [ledger, slotOf, absent]

/-- As long as no request stream ends before the response stream of its call, the output of
a session is delivered by at most one task. -/
theorem output_delivered_exclusively {service : ServiceState}
    (run : Reaches stepService EndsAfterResponse ServiceState.empty service)
    (sessionId : String) : (deliveringCalls service sessionId).Subsingleton := by
  have invariant : DeliveryInvariant service := by
    apply run.invariant deliveryInvariant_empty
    intro before action after invariant permitted moved
    exact ServiceMove.delivery (stepService_move moved) permitted invariant
  intro first first_delivers second second_delivers
  exact invariant.exclusive.unique sessionId first second (Or.inr first_delivers)
    (Or.inr second_delivers)

/-- A client opens a session and another one resumes it. The first client closes its response stream
first in one run, and only half-closes its request stream in the other. -/
def resumingActions : List ServiceAction :=
  [.callResume 2 (some "bob") "session" "first" none none, .handler 2 "" "", .handler 2 "" "",
    .handler 2 "" "", .handler 2 "" "second", .handler 2 "" "", .handler 2 "" ""]

instance (service : ServiceState) (action : ServiceAction) :
    Decidable (EndsAfterResponse service action) := by
  cases action with
  | requestEnded number =>
    exact decidable_of_iff (∀ call ∈ service.calls.lookup number, canDeliver call = true →
      service.sessions.lookup call.setting.sessionId = none)
      ⟨by rintro holds _ call ⟨⟩; exact holds call, fun holds call => holds number call rfl⟩
  | _ => exact isTrue (by simp [EndsAfterResponse])

theorem second_client_delivers_alone :
    ∃ service, Reaches stepService EndsAfterResponse ServiceState.empty service ∧
      2 ∈ deliveringCalls service "session" ∧
      (deliveringCalls service "session").Subsingleton := by
  obtain ⟨service, run, delivers⟩ :
      ∃ service, Reaches stepService EndsAfterResponse ServiceState.empty service ∧
        deliversTo service 2 = some "session" :=
    reaches_of_evaluated
      (leavingActions ++ resumingActions) (by decide +kernel)
  exact ⟨service, run, delivers, output_delivered_exclusively run "session"⟩

def helloMessage : SessionServerMessage where
  sessionId := "session"
  payload := some (.output [104, 105] (some false) (some false) none 1)

def received (service : ServiceState) (number : Nat) : List SessionServerMessage :=
  ((service.calls.lookup number).map Call.received).getD []

theorem half_closed_client_still_receives :
    ∃ service, Reaches stepService anyAction ServiceState.empty service ∧
      1 ∈ deliveringCalls service "session" ∧ 2 ∈ deliveringCalls service "session" ∧
      helloMessage ∈ received service 1 ∧ helloMessage ∈ received service 2 := by
  refine reaches_of_evaluated (openingActions ++ [.requestEnded 1] ++ resumingActions ++
      emits (.output [104, 105] false false none) ++
      [.forwarder 1, .forwarder 1, .forwarder 2, .forwarder 2, .clientReads 1, .clientReads 2,
        .clientReads 2]) ?_
  simp only [deliveringCalls, Set.mem_ofPred_eq]
  decide +kernel

end HandControl.ExclusiveDelivery
