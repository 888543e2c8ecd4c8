import Overseer.Supervisor.Command
import Overseer.Supervisor.Environment
import Overseer.Supervisor.Telemetry

/-!
# Adapters

An adapter is a component of the platform that the supervisor drives. It has a name, offers
commands and telemetry, and responds to callbacks with a program that may change the adapter's own
memory. The roster holds the registered adapters in the order of their registration, which is the
order of every round of callbacks.
-/
namespace Overseer

/-- A component with a memory. -/
structure Adapter (σ : Type) where
  /-- The name shown in logs. -/
  name : String
  /-- Whether the adapter opts in to safe mode. -/
  runsInSafeMode : Bool := false
  /-- What the adapter remembers. -/
  memory : σ
  /-- What the adapter does when it is called; by default nothing. -/
  respond : Callback → σ → Program .callback σ := fun _ memory => .done memory
  /-- The commands that the adapter offers. -/
  commands : List Command := []
  /-- The telemetry entries that the adapter offers. -/
  telemetry : List Telemetry := []
  /-- A description of the adapter for other platforms; the supervisor never reads it. -/
  metadata : Option Json := none

/-- Call an adapter in its place: the adapter with its new memory, and the environment after. -/
def Adapter.call {σ : Type} (adapter : Adapter σ) (slot : Nat) (callback : Callback)
    (environment : Environment) : Adapter σ × Environment :=
  let (memory, environment) :=
    (adapter.respond callback adapter.memory).run (.adapter slot)
      (environment.note (.adapter slot callback))
  ({ adapter with memory }, environment)

/-- The registered adapters, in the order of their registration. -/
structure Roster (σ : Type) where
  /-- The adapters. -/
  adapters : List (Adapter σ) := []
  /-- The adapters fit. -/
  length_le : adapters.length ≤ adapterLimit := by exact Nat.zero_le _

namespace Roster

variable {σ : Type}

/-- The names of the adapters. -/
def names (roster : Roster σ) : List String := roster.adapters.map Adapter.name

/-- The number of adapters. -/
def size (roster : Roster σ) : Nat := roster.adapters.length

/-- The roster with a further adapter, which fits. -/
def append (roster : Roster σ) (adapter : Adapter σ) (room : roster.size < adapterLimit) :
    Roster σ where
  adapters := roster.adapters ++ [adapter]
  length_le := by
    rw [List.length_append]
    exact room

/-- Take a place for an adapter. Capacity is looked at first; a refusal changes nothing. -/
def register (roster : Roster σ) (adapter : Option (Adapter σ)) :
    Logged (Except RegistrationError (Adapter σ) × Roster σ) :=
  if room : roster.size < adapterLimit then
    match adapter with
    | none => do
      Logged.say (.error "Supervisor: refusing to register null adapter")
      return (.error .missingAdapter, roster)
    | some adapter => do
      Logged.say (.info (s!"Supervisor: registered adapter '{adapter.name}' " ++
        s!"({roster.size + 1}/{adapterLimit})"))
      return (.ok adapter, roster.append adapter room)
  else do
    Logged.say (.error
      s!"Supervisor: cannot register adapter, capacity ({adapterLimit}) exceeded")
    return (.error (.capacityExceeded adapterLimit), roster)

/-- Visit adapters in turn, the first of them in the given place. -/
def visitFrom (visit : Nat → Adapter σ → Environment → Adapter σ × Environment) (slot : Nat) :
    List (Adapter σ) → Environment → List (Adapter σ) × Environment
  | [], environment => ([], environment)
  | adapter :: rest, environment =>
    let (adapter, environment) := visit slot adapter environment
    let (rest, environment) := visitFrom visit (slot + 1) rest environment
    (adapter :: rest, environment)

/-- A visit neither adds nor removes an adapter. -/
@[simp] theorem length_visitFrom
    (visit : Nat → Adapter σ → Environment → Adapter σ × Environment) (slot : Nat)
    (adapters : List (Adapter σ)) (environment : Environment) :
    (visitFrom visit slot adapters environment).1.length = adapters.length := by
  induction adapters generalizing slot environment with
  | nil => rfl
  | cons adapter rest ih => simp [visitFrom, ih]

/-- Visit every adapter, in the order of registration. -/
def visitAll (roster : Roster σ)
    (visit : Nat → Adapter σ → Environment → Adapter σ × Environment)
    (environment : Environment) : Roster σ × Environment :=
  let visited := visitFrom visit 0 roster.adapters environment
  ({ adapters := visited.1
     length_le := by simpa [visited] using roster.length_le }, visited.2)

/-- Call every adapter, in the order of registration. -/
def callAll (roster : Roster σ) (callback : Callback) (environment : Environment) :
    Roster σ × Environment :=
  roster.visitAll (fun slot adapter => adapter.call slot callback) environment

end Roster

end Overseer
