import HandControl.QrEnrollment

/-!
# The client's registry of servers

The registry is a list, which is written to a file and read back. The steps of a history are listed
from the last to the first.
-/

namespace HandControl.RegistryHistories

open ByteEncoding PinnedConnection QrEnrollment

def loadedEntry (entry : ServerRegistryEntry) : ServerRegistryEntry :=
  let filled :=
    match entry.addresses, entry.ip with
    | [], some ip => { entry with addresses := [ip] }
    | _, _ => entry
  match filled.ip with
  | none => { filled with ip := filled.addresses.head? }
  | some _ => filled

/-- An empty registry is written as no list at all. -/
def save (entries : List ServerRegistryEntry) : Option (List ServerRegistryEntry) :=
  if entries = [] then none else some (entries.map savedEntry)

def load (server : Option (List ServerRegistryEntry)) : List ServerRegistryEntry :=
  (server.getD []).map loadedEntry

def remove (id : Uuid) (entries : List ServerRegistryEntry) : List ServerRegistryEntry :=
  entries.filter fun entry => entry.id ≠ id

inductive RegistryStep where
  | upsert (entry : ServerRegistryEntry)
  | remove (id : Uuid)
  | saveAndLoad

def registry : List RegistryStep → List ServerRegistryEntry
  | [] => []
  | .upsert entry :: earlier => upsert entry (registry earlier)
  | .remove id :: earlier => remove id (registry earlier)
  | .saveAndLoad :: earlier => load (save (registry earlier))

/-- An absent ip becomes the first address, and empty addresses become the ip. -/
def normalized (entry : ServerRegistryEntry) : ServerRegistryEntry :=
  { entry with
    ip := entry.ip.or entry.addresses.head?
    addresses := if entry.addresses = [] then entry.ip.toList else entry.addresses }

def lastUpsert (id : Uuid) : List RegistryStep → Option ServerRegistryEntry
  | [] => none
  | .upsert entry :: earlier => if entry.id = id then some entry else lastUpsert id earlier
  | .remove removed :: earlier => if removed = id then none else lastUpsert id earlier
  | .saveAndLoad :: earlier => lastUpsert id earlier

/-- The registry was written and read back since the last upsert of the id. -/
def reloadedSince (id : Uuid) : List RegistryStep → Bool
  | [] => false
  | .upsert entry :: earlier => if entry.id = id then false else reloadedSince id earlier
  | .remove _ :: earlier => reloadedSince id earlier
  | .saveAndLoad :: _ => true

/-- The entry that an id should have: the last one put in, in the form that the file gives it once
it was there. -/
def currentEntry (id : Uuid) (history : List RegistryStep) : Option ServerRegistryEntry :=
  if reloadedSince id history then (lastUpsert id history).map normalized
  else lastUpsert id history

/-- How many steps came before the last upsert that found no entry of the id. -/
def insertedAt (id : Uuid) : List RegistryStep → Nat
  | [] => 0
  | .upsert entry :: earlier =>
    if entry.id = id ∧ lastUpsert id earlier = none then earlier.length else insertedAt id earlier
  | .remove _ :: earlier | .saveAndLoad :: earlier => insertedAt id earlier

theorem load_save (entries : List ServerRegistryEntry) :
    load (save entries) = entries.map normalized := by
  have entry_eq (entry) : loadedEntry (savedEntry entry) = normalized entry := by
    rcases entry with ⟨_, _, _ | _, _, _, _ | _, _⟩ <;> rfl
  rw [load, save]
  split_ifs with empty <;> simp [empty, entry_eq]

theorem normalized_comp : normalized ∘ normalized = normalized := by
  funext entry
  rcases entry with ⟨_, _, _ | _, _, _, _ | _, _⟩ <;> rfl

theorem ids_upsert (entry : ServerRegistryEntry) (entries : List ServerRegistryEntry) :
    (upsert entry entries).map (·.id) =
      if entry.id ∈ entries.map (·.id) then entries.map (·.id)
      else entries.map (·.id) ++ [entry.id] := by
  induction entries with
  | nil => simp [upsert]
  | cons existing rest induction =>
    rw [upsert]
    split_ifs with same <;> simp_all [eq_comm]

theorem findById_remove (removed : Uuid) (entries : List ServerRegistryEntry) (id : Uuid) :
    findById (remove removed entries) id = if removed = id then none else findById entries id := by
  rw [findById, remove, List.find?_filter]
  split_ifs with same
  · simp [same]
  · apply List.find?_congr
    grind

theorem registry_found (id : Uuid) (history : List RegistryStep) :
    findById (registry history) id = currentEntry id history := by
  induction history with
  | nil => rfl
  | cons step earlier induction =>
    cases step with
    | upsert =>
      rw [registry, findById_upsert, currentEntry, reloadedSince, lastUpsert]
      split_ifs <;> simp_all [currentEntry]
    | remove =>
      rw [registry, findById_remove, currentEntry, reloadedSince, lastUpsert]
      split_ifs <;> simp_all [currentEntry]
    | saveAndLoad =>
      have found : findById ((registry earlier).map normalized) id =
        (findById (registry earlier) id).map normalized := List.find?_map
      rw [registry, load_save, found, induction, currentEntry, currentEntry, reloadedSince,
        lastUpsert, if_pos rfl]
      split_ifs
      · rw [Option.map_map, normalized_comp]
      · rfl

theorem lastUpsert_eq_none_iff {id : Uuid} {history : List RegistryStep} :
    lastUpsert id history = none ↔ id ∉ (registry history).map (·.id) := by
  have listed : (findById (registry history) id).isSome ↔ id ∈ (registry history).map (·.id) := by
    simp [findById, List.find?_isSome]
  rw [← listed, registry_found, currentEntry]
  split_ifs <;> simp

theorem insertedAt_le (id : Uuid) (history : List RegistryStep) :
    insertedAt id history ≤ history.length - 1 := by
  induction history with
  | nil => exact Nat.le_refl 0
  | cons step earlier induction =>
    cases step with
    | upsert =>
      rw [insertedAt, List.length_cons]
      split_ifs <;> omega
    | remove | saveAndLoad => exact induction.trans (Nat.sub_le _ _)

theorem registry_order (history : List RegistryStep) :
    ((registry history).map (·.id)).Pairwise fun left right =>
      insertedAt left history < insertedAt right history := by
  induction history with
  | nil => exact .nil
  | cons step earlier induction =>
    cases step with
    | upsert entry =>
      have kept (id) (listed : id ∈ (registry earlier).map (·.id)) :
          insertedAt id (.upsert entry :: earlier) = insertedAt id earlier := by
        rw [insertedAt, if_neg]
        rintro ⟨_, absent⟩
        exact lastUpsert_eq_none_iff.mp absent listed
      have order := induction.imp_of_mem fun {left right} left_in right_in before =>
        (kept left left_in).trans_lt (before.trans_eq (kept right right_in).symm)
      rw [registry, ids_upsert]
      split_ifs with listed
      · exact order
      · -- the new id is behind the others, which earlier steps inserted
        refine List.pairwise_append.mpr ⟨order, List.pairwise_singleton _ _, ?_⟩
        intro id id_in new new_eq
        have last : insertedAt new (.upsert entry :: earlier) = earlier.length := by
          rw [List.mem_singleton.mp new_eq]
          exact if_pos ⟨rfl, lastUpsert_eq_none_iff.mpr listed⟩
        have nonempty : earlier ≠ [] := by
          rintro rfl
          cases id_in
        have bound := insertedAt_le id earlier
        have positive := List.length_pos_iff.mpr nonempty
        rw [kept id id_in, last]
        omega
    | remove => exact induction.sublist (List.filter_sublist.map _)
    | saveAndLoad =>
      rw [registry, load_save, List.map_map]
      exact induction

/-- The registry is a map with the entries in the order of their insertion. -/
theorem registry_is_persistent_map (history : List RegistryStep) :
    ((registry history).map (·.id)).Nodup ∧
      (∀ id, findById (registry history) id = currentEntry id history) ∧
      ((registry history).map (·.id)).Pairwise (fun left right =>
        insertedAt left history < insertedAt right history) ∧
      registry (.saveAndLoad :: .saveAndLoad :: history) = registry (.saveAndLoad :: history) := by
  have order := registry_order history
  refine ⟨?_, fun id => registry_found id history, order, ?_⟩
  · apply order.imp
    rintro left right before rfl
    exact lt_irrefl _ before
  · simp [registry, load_save, normalized_comp]

end HandControl.RegistryHistories
