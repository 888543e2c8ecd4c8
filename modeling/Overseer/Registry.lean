import Overseer.Log

/-!
# Registries

A registry lists entries in the order of their registration. The first entry of a name wins: a later
one with the same name is ignored, and a new name that no longer fits is dropped. Both are logged.
-/
namespace Overseer

/-- Entries that can be registered. -/
class Registrable (α : Type) where
  /-- The name that an entry is found by. -/
  id : α → String
  /-- What logs call the registry. -/
  registry : String
  /-- What logs call an entry. -/
  kind : String

/-- Why an entry was not registered. -/
inductive Refusal where
  /-- Another entry has its name. -/
  | duplicate
  /-- The registry is full. -/
  | full
deriving DecidableEq, Repr

/-- Entries in the order of their registration: at most as many as fit, and no two of one name. -/
structure Registry (α : Type) [Registrable α] (capacity : Nat) where
  /-- The entries. -/
  entries : List α := []
  /-- The entries fit. -/
  length_le : entries.length ≤ capacity := by exact Nat.zero_le _
  /-- Every entry has a name of its own. -/
  nodup : (entries.map Registrable.id).Nodup := by exact List.nodup_nil

namespace Registry

variable {α : Type} [Registrable α] {capacity : Nat}

/-- The entry of a name. -/
def find? (registry : Registry α capacity) (id : String) : Option α :=
  registry.entries.find? fun entry => Registrable.id entry == id

/-- The names of the entries. -/
def ids (registry : Registry α capacity) : List String := registry.entries.map Registrable.id

/-- The number of entries. -/
def size (registry : Registry α capacity) : Nat := registry.entries.length

/-- A name is free exactly when no entry has it. -/
theorem find?_eq_none_iff (registry : Registry α capacity) (id : String) :
    registry.find? id = none ↔ id ∉ registry.ids := by
  simp [find?, ids]

/-- The entry found under a name has that name. -/
theorem id_of_find? {registry : Registry α capacity} {id : String} {entry : α}
    (found : registry.find? id = some entry) : Registrable.id entry = id := by
  simpa using List.find?_some found

/-- The entry found under a name is one of the entries. -/
theorem mem_of_find? {registry : Registry α capacity} {id : String} {entry : α}
    (found : registry.find? id = some entry) : entry ∈ registry.entries :=
  List.mem_of_find?_eq_some found

/-- Every entry is found under its own name. -/
theorem find?_id {registry : Registry α capacity} {entry : α}
    (member : entry ∈ registry.entries) :
    registry.find? (Registrable.id entry) = some entry := by
  have distinct := registry.nodup
  simp only [find?]
  generalize registry.entries = entries at member distinct
  induction entries with
  | nil => simp at member
  | cons first rest ih =>
    rw [List.map_cons, List.nodup_cons] at distinct
    rcases List.mem_cons.mp member with rfl | later
    · simp
    · have other : Registrable.id first ≠ Registrable.id entry := fun same =>
        distinct.1 (same ▸ List.mem_map_of_mem later)
      simp [other, ih later distinct.2]

/-- The registry with a further entry, which fits and has a name of its own. -/
def append (registry : Registry α capacity) (entry : α) (fits : registry.size < capacity)
    (free : registry.find? (Registrable.id entry) = none) : Registry α capacity where
  entries := registry.entries ++ [entry]
  length_le := by
    rw [List.length_append]
    exact fits
  nodup := by
    have free := (registry.find?_eq_none_iff _).mp free
    simpa [List.nodup_append, registry.nodup, ids] using free

/-- Add an entry, or say why it was refused. A name that is taken is refused as such even when the
registry is full. -/
def offer (registry : Registry α capacity) (entry : α) : Option Refusal × Registry α capacity :=
  if free : registry.find? (Registrable.id entry) = none then
    if fits : registry.size < capacity then (none, registry.append entry fits free)
    else (some .full, registry)
  else (some .duplicate, registry)

/-- An entry was added exactly when its name was free and there was room; then it stands last. -/
theorem entries_offer (registry : Registry α capacity) (entry : α) :
    (registry.offer entry).2.entries =
      if Registrable.id entry ∉ registry.ids ∧ registry.size < capacity then
        registry.entries ++ [entry]
      else registry.entries := by
  unfold offer
  split
  · rename_i free
    have free := (registry.find?_eq_none_iff _).mp free
    split
    · simp_all [append]
    · simp_all
  · rename_i taken
    have taken := mt (registry.find?_eq_none_iff _).mpr taken
    simp_all

/-- The log line of a refusal. -/
def refusalLine (_registry : Registry α capacity) (entry : α) : Refusal → Line
  | .duplicate =>
    .warn (s!"{Registrable.registry α}: duplicate {Registrable.kind α} " ++
      s!"'{Registrable.id entry}' ignored")
  | .full =>
    .warn s!"{Registrable.registry α}: table full ({capacity}), '{Registrable.id entry}' dropped"

/-- Register an entry: whether it was added, and the registry after it. -/
def register (registry : Registry α capacity) (entry : α) : Logged (Bool × Registry α capacity) :=
  match registry.offer entry with
  | (none, registry) => return (true, registry)
  | (some refusal, registry) => do
    Logged.say (registry.refusalLine entry refusal)
    return (false, registry)

/-- Registering is offering and logging a refusal. -/
theorem register_value (registry : Registry α capacity) (entry : α) :
    (registry.register entry).value.2 = (registry.offer entry).2 := by
  unfold register
  split
  · rename_i offering
    rw [offering]
    rfl
  · rename_i offering
    rw [offering]
    rfl

/-- Register entries in turn: how many were added, and the registry after them. -/
def registerAll (registry : Registry α capacity) : List α → Logged (Nat × Registry α capacity)
  | [] => return (0, registry)
  | entry :: rest => do
    let (added, registry) ← registry.register entry
    let (count, registry) ← registry.registerAll rest
    return (if added then count + 1 else count, registry)

end Registry

end Overseer
