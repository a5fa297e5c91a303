import HandControl.EnrollmentTokens
import HandControl.TransitionRuns

/-!
# Enrollment tokens over time

Used tokens stay in the manager until they expire. Over any sequence of calls each token is consumed
at most once, and no later than the time to live after it was generated.
-/

namespace HandControl.TokenHistories

open EnrolledClients EnrollmentTokens KeyedTable TransitionRuns

inductive TokenCall where
  | generateToken (text : String) (created cleaned : Time)
  | validateAndConsume (text : String) (now : Time)

/-- The manager, the last reading of the clock, the tokens generated so far with their times,
and the tokens that were consumed. -/
structure TokenHistory where
  manager : EnrollmentTokenManager
  clock : Time
  generated : List (String × Time)
  consumed : List String

def TokenHistory.started (ttlSeconds : UInt64) (clock : Time) : TokenHistory :=
  ⟨⟨∅, ttlSeconds⟩, clock, [], []⟩

def stepToken (range : TimeRange) (history : TokenHistory) : TokenCall → Option TokenHistory
  | .generateToken text created cleaned =>
    if history.clock ≤ created ∧ created ≤ cleaned then
      match history.manager.generateToken range text created cleaned with
      | none => some { history with clock := created }
      | some (manager, _) =>
        some
          { history with
            manager := manager
            clock := cleaned
            generated := history.generated ++ [(text, created)] }
    else none
  | .validateAndConsume text now =>
    if history.clock ≤ now then
      let outcome := history.manager.validateAndConsume text now
      some
        { history with
          manager := outcome.1
          clock := now
          consumed := match outcome.2 with
            | .ok () => history.consumed ++ [text]
            | .error _ => history.consumed }
    else none

def DistinctTokens (history : TokenHistory) : TokenCall → Prop
  | .generateToken text _ _ => text ∉ history.generated.map Prod.fst
  | _ => True

instance (history : TokenHistory) (call : TokenCall) : Decidable (DistinctTokens history call) := by
  cases call <;> unfold DistinctTokens <;> infer_instance

/-- Every token of the manager is a generated one with the time to live of the manager, and one
that was consumed is marked. Every consumed token was generated, and none twice. -/
structure Accounted (history : TokenHistory) : Prop where
  known : ∀ text token, history.manager.tokens.lookup text = some token →
    ∃ created, (text, created) ∈ history.generated ∧
      token.expiresAt = created.afterSeconds (asI64 history.manager.ttlSeconds)
  marked : ∀ text token, history.manager.tokens.lookup text = some token →
    text ∈ history.consumed → token.used = true
  consumed_generated : ∀ text ∈ history.consumed, text ∈ history.generated.map Prod.fst
  consumed_once : history.consumed.Nodup

theorem accounted_started (ttlSeconds : UInt64) (clock : Time) :
    Accounted (TokenHistory.started ttlSeconds clock) where
  known text token found := by cases found
  marked text token found := by cases found
  consumed_generated text member := by cases member
  consumed_once := List.nodup_nil

variable {message text : String} {history before after : TokenHistory} {now : Time}
variable {call : TokenCall} {range : TimeRange}

section

variable {manager : EnrollmentTokenManager}

theorem validateAndConsume_ok (accepted : (manager.validateAndConsume text now).2 = .ok ()) :
    ∃ token, manager.tokens.lookup text = some token ∧ token.used = false ∧
      now ≤ token.expiresAt ∧
      (manager.validateAndConsume text now).1 =
        { manager with tokens := manager.tokens.insert text { token with used := true } } := by
  unfold EnrollmentTokenManager.validateAndConsume at accepted ⊢
  cases found : manager.tokens.lookup text with
  | none =>
    rw [found] at accepted
    cases accepted
  | some token =>
    rw [found] at accepted
    dsimp only at accepted ⊢
    split_ifs at accepted ⊢ with used expired
    have unexpired : now ≤ token.expiresAt := by
      simpa [EnrollmentToken.isExpired] using expired
    exact ⟨token, rfl, by simpa using used, unexpired, rfl⟩

theorem validateAndConsume_error
    (refused : (manager.validateAndConsume text now).2 = .error message) :
    (manager.validateAndConsume text now).1.ttlSeconds = manager.ttlSeconds ∧
      ∀ other token, (manager.validateAndConsume text now).1.tokens.lookup other = some token →
        manager.tokens.lookup other = some token := by
  unfold EnrollmentTokenManager.validateAndConsume at refused ⊢
  cases found : manager.tokens.lookup text with
  | none => exact ⟨rfl, fun _ _ kept => kept⟩
  | some =>
    rw [found] at refused
    dsimp only at refused ⊢
    split_ifs at refused ⊢
    · exact ⟨rfl, fun _ _ kept => kept⟩
    · refine ⟨rfl, ?_⟩
      intro other token kept
      exact (Table.lookup_of_erase kept).2

end

theorem Accounted.generate (held : Accounted history) {created cleaned : Time}
    {manager : EnrollmentTokenManager} {made : EnrollmentToken}
    (generated : history.manager.generateToken range text created cleaned = some (manager, made))
    (new : text ∉ history.generated.map Prod.fst) (clock : Time) :
    Accounted
      { history with
        manager := manager
        clock := clock
        generated := history.generated ++ [(text, created)] } := by
  obtain ⟨token, fresh_eq, result⟩ := Option.map_eq_some_iff.mp generated
  obtain ⟨expiresAt, added, token_eq⟩ := Option.map_eq_some_iff.mp fresh_eq
  have expires := TimeRange.checkedAdd_eq_some added
  subst token_eq
  cases result
  have stored {other : String} {token : EnrollmentToken}
      (found : (Table.retain (fun entry => !entry.isExpired cleaned)
        (history.manager.tokens.insert text ⟨text, created, expiresAt, false⟩)).lookup other =
          some token) :
      history.manager.tokens.lookup other = some token ∨
        other = text ∧ token = ⟨text, created, expiresAt, false⟩ := by
    rw [Table.lookup_retain] at found
    exact Table.lookup_insert_cases (Option.filter_eq_some_iff.mp found).1
  constructor
  · intro other token found
    rcases stored found with earlier | ⟨rfl, rfl⟩
    · obtain ⟨moment, member, expires⟩ := held.known other token earlier
      exact ⟨moment, List.mem_append_left _ member, expires⟩
    · exact ⟨created, List.mem_append_right _ (List.mem_singleton_self _), expires⟩
  · intro other token found spent
    rcases stored found with earlier | ⟨rfl, rfl⟩
    · exact held.marked other token earlier spent
    · exact absurd (held.consumed_generated other spent) new
  · intro other spent
    rw [List.map_append]
    exact List.mem_append_left _ (held.consumed_generated other spent)
  · exact held.consumed_once

theorem Accounted.consume (held : Accounted history)
    (accepted : (history.manager.validateAndConsume text now).2 = .ok ()) :
    Accounted
      { history with
        manager := (history.manager.validateAndConsume text now).1
        clock := now
        consumed := history.consumed ++ [text] } := by
  obtain ⟨token, found, unused, _, after_eq⟩ := validateAndConsume_ok accepted
  rw [after_eq]
  obtain ⟨moment, generated, expires⟩ := held.known text token found
  have not_spent : text ∉ history.consumed := by
    intro spent
    rw [held.marked text token found spent] at unused
    cases unused
  constructor
  · intro other stored stored_eq
    rcases Table.lookup_insert_cases stored_eq with earlier | ⟨rfl, rfl⟩
    · exact held.known other stored earlier
    · exact ⟨moment, generated, expires⟩
  · intro other stored stored_eq spent
    rcases Table.lookup_insert_split stored_eq with ⟨different, earlier⟩ | ⟨rfl, rfl⟩
    · rcases List.mem_append.mp spent with before | now_spent
      · exact held.marked other stored earlier before
      · exact absurd (List.mem_singleton.mp now_spent) different
    · rfl
  · refine List.forall_mem_append.mpr ⟨held.consumed_generated, ?_⟩
    exact List.forall_mem_singleton.mpr (List.mem_map_of_mem generated)
  · rw [← List.concat_eq_append]
    exact held.consumed_once.concat not_spent

theorem Accounted.refuse (held : Accounted history)
    (refused : (history.manager.validateAndConsume text now).2 = .error message) :
    Accounted
      { history with
        manager := (history.manager.validateAndConsume text now).1
        clock := now } := by
  obtain ⟨ttl_eq, earlier⟩ := validateAndConsume_error refused
  constructor
  · intro other token found
    obtain ⟨moment, member, expires⟩ := held.known other token (earlier other token found)
    exact ⟨moment, member, by rw [ttl_eq]; exact expires⟩
  · intro other token found
    exact held.marked other token (earlier other token found)
  · exact held.consumed_generated
  · exact held.consumed_once

theorem Accounted.step (held : Accounted before) (distinct : DistinctTokens before call)
    (moved : stepToken range before call = some after) : Accounted after := by
  cases call with
  | generateToken _ _ cleaned =>
    simp only [stepToken] at moved
    split_ifs at moved
    split at moved <;> cases moved
    · exact ⟨held.known, held.marked, held.consumed_generated, held.consumed_once⟩
    · rename_i generated
      exact held.generate generated distinct cleaned
  | validateAndConsume text now =>
    simp only [stepToken] at moved
    split_ifs at moved
    cases moved
    cases outcome : (before.manager.validateAndConsume text now).2 with
    | ok => exact held.consume outcome
    | error => exact held.refuse outcome

theorem stepToken_ttl (moved : stepToken range before call = some after) :
    after.manager.ttlSeconds = before.manager.ttlSeconds := by
  cases call with
  | generateToken =>
    simp only [stepToken] at moved
    split_ifs at moved
    split at moved <;> cases moved
    · rfl
    · rename_i generated
      obtain ⟨_, _, result⟩ := Option.map_eq_some_iff.mp generated
      cases result
      rfl
  | validateAndConsume text now =>
    simp only [stepToken] at moved
    split_ifs at moved
    cases moved
    cases outcome : (before.manager.validateAndConsume text now).2 with
    | ok =>
      obtain ⟨token, _, _, _, after_eq⟩ := validateAndConsume_ok outcome
      show (before.manager.validateAndConsume text now).1.ttlSeconds = _
      rw [after_eq]
    | error => exact (validateAndConsume_error outcome).1

/-- Over any sequence of calls a token is consumed at most once, and a token that is consumed was
generated by the manager no longer ago than its time to live. -/
theorem tokens_single_use_and_timely (range : TimeRange) (ttlSeconds : UInt64) (start : Time)
    (history : TokenHistory)
    (run : Reaches (stepToken range) DistinctTokens (TokenHistory.started ttlSeconds start)
      history) :
    (∀ text, history.consumed.count text ≤ 1) ∧
      ∀ text now, (history.manager.validateAndConsume text now).2 = .ok () →
        text ∉ history.consumed ∧
          ∃ created, (text, created) ∈ history.generated ∧
            now ≤ created.afterSeconds ttlSeconds.toNat := by
  have held : Accounted history ∧ history.manager.ttlSeconds = ttlSeconds := by
    apply run.invariant
    · exact ⟨accounted_started ttlSeconds start, rfl⟩
    · intro before call after held distinct moved
      exact ⟨held.1.step distinct moved, (stepToken_ttl moved).trans held.2⟩
  obtain ⟨accounted, ttl_eq⟩ := held
  constructor
  · exact List.nodup_iff_count_le_one.mp accounted.consumed_once
  · intro text now accepted
    obtain ⟨token, found, unused, timely, _⟩ := validateAndConsume_ok accepted
    obtain ⟨created, generated, expires⟩ := accounted.known text token found
    refine ⟨?_, created, generated, ?_⟩
    · intro spent
      rw [accounted.marked text token found spent] at unused
      cases unused
    · rw [expires, ttl_eq] at timely
      exact timely.trans (created.afterSeconds_mono (asI64_le ttlSeconds))

def twoTokens : List TokenCall :=
  [.generateToken "a" 0 0, .generateToken "b" 5 5, .validateAndConsume "a" 10]

theorem second_token_still_consumable :
    ∃ history, Reaches (stepToken .sample) DistinctTokens (TokenHistory.started 300 0)
        history ∧
      history.consumed = ["a"] ∧ (history.manager.validateAndConsume "b" 20).2 = .ok () ∧
      (∀ text, history.consumed.count text ≤ 1) ∧
      ∃ created, ("b", created) ∈ history.generated ∧
        20 ≤ Time.afterSeconds created 300 := by
  obtain ⟨history, run, consumed_eq, accepted⟩ :
      ∃ history, Reaches (stepToken .sample) DistinctTokens (TokenHistory.started 300 0)
          history ∧
        history.consumed = ["a"] ∧ (history.manager.validateAndConsume "b" 20).2 = .ok () :=
    reaches_of_evaluated twoTokens (by decide +kernel)
  obtain ⟨once, timely⟩ := tokens_single_use_and_timely .sample 300 0 history run
  exact ⟨history, run, consumed_eq, accepted, once, (timely "b" 20 accepted).2⟩

end HandControl.TokenHistories
