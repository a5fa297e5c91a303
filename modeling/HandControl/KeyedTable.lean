import Mathlib.Data.List.AList
import Mathlib.Tactic

/-!
# Keyed tables

A hash map is modelled by a finite table with one entry for each key. The order
of the entries stands for the map's arbitrary iteration order.
-/

namespace HandControl.KeyedTable

abbrev Table (Key Value : Type) := AList (fun _ : Key => Value)

variable {Key Value : Type}

variable {key other : Key} {value found : Value} {table : Table Key Value} {holds : Value → Prop}
variable {change : Value → Value} {test : Value → Bool}

namespace Table

def retain (keep : Value → Bool) (table : Table Key Value) : Table Key Value where
  entries := table.entries.filter fun entry => keep entry.2
  nodupKeys := List.NodupKeys.sublist List.filter_sublist table.nodupKeys

def values (table : Table Key Value) : List Value :=
  table.entries.map fun entry => entry.2

def mapValues (change : Value → Value) (table : Table Key Value) : Table Key Value where
  entries := table.entries.map fun entry => ⟨entry.1, change entry.2⟩
  nodupKeys := by
    have keys_eq : (table.entries.map fun entry =>
        (⟨entry.1, change entry.2⟩ : Sigma fun _ : Key => Value)).keys = table.entries.keys := by
      simp [List.keys, Function.comp_def]
    show List.Nodup _
    rw [keys_eq]
    exact table.nodupKeys

variable [DecidableEq Key]

def modify (key : Key) (change : Value → Value) (table : Table Key Value) :
    Table Key Value :=
  match table.lookup key with
  | some value => table.insert key (change value)
  | none => table

theorem lookup_insert_eq (key other : Key) (value : Value) (table : Table Key Value) :
    (table.insert key value).lookup other =
      if other = key then some value else table.lookup other := by
  split_ifs with same
  · subst same
    exact AList.lookup_insert table
  · exact AList.lookup_insert_ne same

theorem lookup_erase_eq (key other : Key) (table : Table Key Value) :
    (table.erase key).lookup other = if other = key then none else table.lookup other := by
  split_ifs with same
  · subst same
    exact AList.lookup_erase other table
  · exact AList.lookup_erase_ne same

theorem lookup_retain (keep : Value → Bool) (key : Key) (table : Table Key Value) :
    (retain keep table).lookup key = (table.lookup key).filter keep := by
  apply Option.ext
  intro value
  have kept : value ∈ (retain keep table).lookup key ↔
      (⟨key, value⟩ : Sigma fun _ : Key => Value) ∈ table.entries ∧ keep value = true :=
    AList.mem_lookup_iff.trans List.mem_filter
  rw [← Option.mem_def, kept, ← AList.mem_lookup_iff, Option.filter_eq_some_iff, Option.mem_def]

theorem lookup_insert_split (found_eq : (table.insert key value).lookup other = some found) :
    other ≠ key ∧ table.lookup other = some found ∨ other = key ∧ found = value := by
  rw [lookup_insert_eq] at found_eq
  split_ifs at found_eq with same
  · exact Or.inr ⟨same, (Option.some.inj found_eq).symm⟩
  · exact Or.inl ⟨same, found_eq⟩

theorem lookup_insert_cases (found_eq : (table.insert key value).lookup other = some found) :
    table.lookup other = some found ∨ other = key ∧ found = value :=
  (lookup_insert_split found_eq).imp_left And.right

theorem lookup_of_erase (found_eq : (table.erase key).lookup other = some found) :
    other ≠ key ∧ table.lookup other = some found := by
  rw [lookup_erase_eq] at found_eq
  split_ifs at found_eq with same
  exact ⟨same, found_eq⟩

theorem lookup_insert_or {described : Key → Value → Prop} (new : described key value) (other : Key)
    (found : Value) (found_eq : (table.insert key value).lookup other = some found) :
    table.lookup other = some found ∨ described other found := by
  rcases lookup_insert_cases found_eq with earlier | ⟨same_key, same_value⟩
  · exact Or.inl earlier
  · rw [same_key, same_value]
    exact Or.inr new

theorem lookup_insert_of_absent (absent : table.lookup key = none)
    (found_eq : table.lookup other = some found) (value : Value) :
    (table.insert key value).lookup other = some found := by
  have different : other ≠ key := by
    intro same
    rw [same, absent] at found_eq
    cases found_eq
  rw [lookup_insert_eq, if_neg different, found_eq]

theorem lookup_mapValues (change : Value → Value) (key : Key) (table : Table Key Value) :
    (mapValues change table).lookup key = (table.lookup key).map change :=
  @List.dlookup_map₂ Key _ (fun _ => Value) (fun _ => Value) table.entries (fun _ => change) key

theorem view_insert {Seen : Type} (view : Option Value → Seen) (table : Table Key Value)
    (key : Key) (value : Value) :
    (fun other => view ((table.insert key value).lookup other)) =
      Function.update (fun other => view (table.lookup other)) key (view (some value)) := by
  funext other
  rw [lookup_insert_eq, Function.update_apply]
  split_ifs <;> rfl

theorem view_erase {Seen : Type} (view : Option Value → Seen) (table : Table Key Value)
    (key : Key) :
    (fun other => view ((table.erase key).lookup other)) =
      Function.update (fun other => view (table.lookup other)) key (view none) := by
  funext other
  rw [lookup_erase_eq, Function.update_apply]
  split_ifs <;> rfl

theorem view_insert_same {Seen : Type} (view : Option Value → Seen)
    (same : view (some value) = view (table.lookup key)) :
    (fun other => view ((table.insert key value).lookup other)) =
      fun other => view (table.lookup other) := by
  rw [view_insert, same]
  exact Function.update_eq_self key _

def Every (holds : Value → Prop) (table : Table Key Value) : Prop :=
  ∀ key value, table.lookup key = some value → holds value

theorem Every.insert (every : Every holds table) (key : Key) (new : holds value) :
    Every holds (table.insert key value) := by
  intro other found found_eq
  rcases lookup_insert_cases found_eq with earlier | ⟨_, rfl⟩
  · exact every other found earlier
  · exact new

/-- Every two entries, an entry and itself included, are related. -/
def Pairs (related : Value → Value → Prop) (table : Table Key Value) : Prop :=
  ∀ first second left right, table.lookup first = some left →
    table.lookup second = some right → related left right

theorem Pairs.insert {related : Value → Value → Prop} (pairs : Pairs related table) (key : Key)
    (self : related value value)
    (others : ∀ other found, table.lookup other = some found →
      related value found ∧ related found value) : Pairs related (table.insert key value) := by
  intro first second left right left_eq right_eq
  rcases lookup_insert_cases left_eq with left_old | ⟨_, left_new⟩
  · rcases lookup_insert_cases right_eq with right_old | ⟨_, right_new⟩
    · exact pairs first second left right left_old right_old
    · rw [right_new]
      exact (others first left left_old).2
  · rw [left_new]
    rcases lookup_insert_cases right_eq with right_old | ⟨_, right_new⟩
    · exact (others second right right_old).1
    · rw [right_new]
      exact self

theorem Every.mapValues (every : Every holds table)
    (kept : ∀ value, holds value → holds (change value)) :
    Every holds (mapValues change table) := by
  intro key found found_eq
  rw [lookup_mapValues] at found_eq
  obtain ⟨value, value_eq, rfl⟩ := Option.map_eq_some_iff.mp found_eq
  exact kept value (every key value value_eq)

def count (test : Value → Bool) (table : Table Key Value) : Nat :=
  table.entries.countP fun entry => test entry.2

def weight (test : Value → Bool) : Option Value → Nat
  | some value => (test value).toNat
  | none => 0

theorem count_insert (test : Value → Bool) (table : Table Key Value) (key : Key) (value : Value) :
    count test (table.insert key value) + weight test (table.lookup key) =
      count test table + weight test (some value) := by
  rcases table with ⟨entries, _⟩
  have erased : (List.kerase key entries).countP (fun entry => test entry.2) +
      weight test (List.dlookup key entries) = entries.countP fun entry => test entry.2 := by
    by_cases present : key ∈ entries.keys
    · obtain ⟨found, _, _, absent, rfl, erased⟩ := List.exists_of_kerase present
      rw [erased, List.dlookup_append, List.dlookup_eq_none.mpr absent, Option.none_or,
        List.dlookup_cons_eq, List.countP_append, List.countP_append, List.countP_cons, weight]
      cases test found <;> rfl
    · rw [List.kerase_of_notMem_keys present, List.dlookup_eq_none.mpr present]
      rfl
  show (List.kinsert key value entries).countP (fun entry => test entry.2) +
      weight test (List.dlookup key entries) =
    entries.countP (fun entry => test entry.2) + weight test (some value)
  rw [List.kinsert_def, List.countP_cons, ← erased, weight]
  cases test value
  · rfl
  · exact Nat.add_right_comm _ _ _

theorem count_modify (unseen : ∀ value, test (change value) = test value) (key : Key)
    (table : Table Key Value) : count test (modify key change table) = count test table := by
  unfold modify
  cases found : table.lookup key with
  | none => rfl
  | some value =>
    have replaced := count_insert test table key (change value)
    rw [found, weight, weight, unseen] at replaced
    exact Nat.add_right_cancel replaced

theorem lookup_modify (key other : Key) (change : Value → Value) (table : Table Key Value) :
    (modify key change table).lookup other =
      if other = key then (table.lookup key).map change else table.lookup other := by
  unfold modify
  cases found : table.lookup key with
  | none =>
    split_ifs with same
    · rw [same, found]
      rfl
    · rfl
  | some value => exact lookup_insert_eq key other (change value) table

theorem count_eq_zero_iff :
    count test table = 0 ↔ Every (fun value => test value = false) table := by
  unfold count Every
  rw [List.countP_eq_zero]
  constructor
  · intro none key value found
    have member : (⟨key, value⟩ : Sigma fun _ : Key => Value) ∈ table.entries :=
      List.of_mem_dlookup found
    simpa using none _ member
  · rintro every ⟨key, value⟩ member
    have found : table.lookup key = some value :=
      (List.mem_dlookup_iff table.nodupKeys).mpr member
    simp [every key value found]

instance [DecidablePred holds] : Decidable (Every holds table) :=
  decidable_of_iff (count (fun value => !decide (holds value)) table = 0) (by
    rw [count_eq_zero_iff]
    simp [Every])

end Table

end HandControl.KeyedTable
