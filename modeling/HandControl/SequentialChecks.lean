import Mathlib.Tactic

/-!
# Checks made one after the other

A validator refuses its input at the first check that fails. `refuse` is one check and
`checkDistinct` the loop over a list whose items must have different keys.
-/

namespace HandControl.SequentialChecks

variable {Item Key Value : Type}

def refuse (condition : Prop) [Decidable condition] (message : String) : Except String Unit :=
  if condition then .error message else .ok ()

@[simp] theorem refuse_eq_ok_iff (condition : Prop) [Decidable condition] (message : String) :
    refuse condition message = .ok () ↔ ¬ condition := by
  unfold refuse
  split_ifs with holds
  · simp [holds]
  · simp [holds]

@[simp] theorem bind_eq_ok_iff (check : Except String Unit) (rest : Except String Unit) :
    (check >>= fun _ => rest) = .ok () ↔ check = .ok () ∧ rest = .ok () := by
  cases check with
  | error | ok => simp [bind, Except.bind]

def checkSome (value : Option Value) (check : Value → Except String Unit) :
    Except String Unit :=
  match value with
  | none => .ok ()
  | some found => check found

@[simp] theorem checkSome_eq_ok_iff (value : Option Value) (check : Value → Except String Unit) :
    checkSome value check = .ok () ↔ ∀ found, value = some found → check found = .ok () := by
  cases value with
  | none | some => simp [checkSome]

def checkWhen (condition : Bool) (check : Except String Unit) : Except String Unit :=
  if condition then check else .ok ()

@[simp] theorem checkWhen_eq_ok_iff (condition : Bool) (check : Except String Unit) :
    checkWhen condition check = .ok () ↔ (condition = true → check = .ok ()) := by
  cases condition with
  | false | true => simp [checkWhen]

variable [DecidableEq Key]

def checkDistinct (key : Item → Key) (duplicate : Item → String)
    (check : Item → Except String Unit) : List Key → List Item → Except String Unit
  | _, [] => .ok ()
  | seen, item :: rest => do
    refuse (key item ∈ seen) (duplicate item)
    check item
    checkDistinct key duplicate check (key item :: seen) rest

theorem checkDistinct_eq_ok_iff (key : Item → Key) (duplicate : Item → String)
    (check : Item → Except String Unit) (seen : List Key) (items : List Item) :
    checkDistinct key duplicate check seen items = .ok () ↔
      (items.map key).Nodup ∧ (∀ item ∈ items, key item ∉ seen) ∧
        ∀ item ∈ items, check item = .ok () := by
  induction items generalizing seen with
  | nil => simp [checkDistinct]
  | cons item rest ih =>
    simp only [checkDistinct, bind_eq_ok_iff, refuse_eq_ok_iff, ih, List.map_cons,
      List.nodup_cons, List.mem_map, List.mem_cons, forall_eq_or_imp]
    constructor
    · rintro ⟨unseen, accepted, distinct, later_unseen, later_accepted⟩
      refine ⟨⟨?_, distinct⟩, ⟨unseen, ?_⟩, accepted, later_accepted⟩
      · rintro ⟨other, other_in, same⟩
        exact later_unseen other other_in (Or.inl same)
      · intro other other_in seen_before
        exact later_unseen other other_in (Or.inr seen_before)
    · rintro ⟨⟨new, distinct⟩, ⟨unseen, later_unseen⟩, accepted, later_accepted⟩
      refine ⟨unseen, accepted, distinct, ?_, later_accepted⟩
      rintro other other_in (same | seen_before)
      · exact new ⟨other, other_in, same⟩
      · exact later_unseen other other_in seen_before

end HandControl.SequentialChecks
