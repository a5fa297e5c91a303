import HandControl.TransitionRuns

/-!
# Command lists of the terminal client

The command list of a server is fetched in the background. A result for another server than the
pending one is ignored, but while no server is pending any result is taken.
-/

namespace HandControl.CommandLists

open TransitionRuns

structure CommandListState (Id : Type) where
  commands : List String := []
  configVersion : Option Nat := none
  loading : Bool := false
  error : Option String := none
  serverId : Option Id := none

/-- `requests` are the fetches that are going on. `begun` is the server of the last
`begin_command_load`, if `clear_commands` was not called since. -/
structure App (Id : Type) where
  registry : List Id
  commandState : CommandListState Id := {}
  pendingCommandServer : Option Id := none
  requests : List Id := []
  begun : Option Id := none

inductive Event (Id : Type) where
  | enter (server : Id)
  | removeServer (server : Id)
  | commandListLoaded (server : Id) (result : Except String (List String × Nat))

variable {Id : Type} [DecidableEq Id]

def isStale (app : App Id) (server : Id) : Bool := app.pendingCommandServer.any (· != server)

def applyResult (app : App Id) (server : Id) (result : Except String (List String × Nat)) :
    App Id where
  registry := app.registry
  commandState :=
    match result with
    | .ok (commands, version) => ⟨commands, some version, false, none, some server⟩
    | .error message => { app.commandState with loading := false, error := some message }
  pendingCommandServer := none
  requests := app.requests.erase server
  begun := app.begun

def step (app : App Id) : Event Id → Option (App Id)
  | .enter server =>
    -- only an enrolled server can be asked for its commands
    if server ∉ app.registry then none
    else if app.commandState.loading then some app
    else some
      { registry := app.registry
        commandState := { app.commandState with loading := true, error := none }
        pendingCommandServer := some server
        requests := server :: app.requests
        begun := some server }
  | .removeServer server =>
    some { registry := app.registry.filter (· ≠ server), requests := app.requests }
  | .commandListLoaded server result =>
    if server ∉ app.requests then none
    else if isStale app server then some { app with requests := app.requests.erase server }
    else some (applyResult app server result)

/-- No result arrives while no server is pending. -/
def Awaited (app : App Id) : Event Id → Prop
  | .commandListLoaded _ _ => app.pendingCommandServer.isSome
  | _ => True

instance (app : App Id) (event : Event Id) : Decidable (Awaited app event) := by
  rcases event <;> unfold Awaited <;> infer_instance

structure Current (app : App Id) : Prop where
  begun : ∀ server ∈ app.pendingCommandServer, app.begun = some server ∧ server ∈ app.registry
  shown : ∀ server ∈ app.commandState.serverId, server ∈ app.registry

variable {app after : App Id} {event : Event Id} {server : Id}

theorem pending_of_not_stale (waits : app.pendingCommandServer.isSome)
    (fresh : isStale app server = false) : app.pendingCommandServer = some server := by
  obtain ⟨_, pending_eq⟩ := Option.isSome_iff_exists.mp waits
  simpa [isStale, pending_eq] using fresh

theorem Current.step (current : Current app) (awaited : Awaited app event)
    (moved : step app event = some after) : Current after := by
  cases event with
  | enter =>
    simp only [CommandLists.step, ite_not] at moved
    split_ifs at moved with enrolled <;> cases moved
    · exact current
    · exact ⟨by rintro _ ⟨⟩; exact ⟨rfl, enrolled⟩, current.shown⟩
  | removeServer =>
    cases moved
    exact ⟨by simp, by simp⟩
  | commandListLoaded server result =>
    simp only [CommandLists.step, ite_not] at moved
    split_ifs at moved with _ stale <;> cases moved
    · exact ⟨current.begun, current.shown⟩
    · have pending := pending_of_not_stale awaited (by simpa using stale)
      refine ⟨by simp [applyResult], ?_⟩
      cases result with
      | ok =>
        rintro _ ⟨⟩
        exact (current.begun server pending).2
      | error => exact current.shown

/-- The list that is shown belongs to an enrolled server, and a result that is applied to the
server asked last. -/
theorem command_list_current (registry : List Id) (app : App Id)
    (run : Reaches step Awaited { registry := registry } app) :
    (∀ server ∈ app.commandState.serverId, server ∈ app.registry) ∧
      ∀ server result, Awaited app (.commandListLoaded server result) →
        isStale app server = false → app.begun = some server := by
  have current : Current app := by
    refine run.invariant ⟨by simp, by simp⟩ ?_
    intro before event next current awaited moved
    exact current.step awaited moved
  refine ⟨current.shown, ?_⟩
  intro server result awaited fresh
  exact (current.begun server (pending_of_not_stale awaited fresh)).1

theorem loaded_list_shown :
    ∃ app : App Nat, Reaches step Awaited { registry := [1] } app ∧
      app.commandState.serverId = some 1 ∧ 1 ∈ app.registry := by
  obtain ⟨app, run, shown⟩ : ∃ app : App Nat, Reaches step Awaited { registry := [1] } app ∧
      app.commandState.serverId = some 1 :=
    reaches_of_evaluated [.enter 1, .commandListLoaded 1 (.ok ([], 0))] (by decide)
  exact ⟨app, run, shown, (command_list_current [1] app run).1 1 shown⟩

/-- The server is removed while its commands are fetched. -/
theorem removed_server_shown :
    ∃ app : App Nat, Reaches step anyAction { registry := [1] } app ∧
      app.commandState.serverId = some 1 ∧ 1 ∉ app.registry :=
  reaches_of_evaluated [.enter 1, .removeServer 1, .commandListLoaded 1 (.ok ([], 0))] (by decide)

end HandControl.CommandLists
