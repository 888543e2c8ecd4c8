import Overseer.Component.ButtonPoller
import Overseer.Component.DebugPrinter
import Overseer.Supervisor.Builder

/-!
# Components

Adapters of different kinds serve one supervisor when their memories are parts of one type.
`Memory` has a part for adapters without a memory, for the debug printer and for the button poller.
The polling task runs beside the loop: `Supervisor.pollButton` is one step of it. A component that
may own a task is never left to itself: `Builder.admit` shuts it down if it is refused.
-/
namespace Overseer

/-- An adapter whose own memory is a part of a larger type; it leaves every other part alone. -/
def Adapter.within {σ τ : Type} (adapter : Adapter σ) (inject : σ → τ) (part? : τ → Option σ) :
    Adapter τ where
  name := adapter.name
  runsInSafeMode := adapter.runsInSafeMode
  memory := inject adapter.memory
  respond := fun callback memory =>
    match part? memory with
    | some own => (adapter.respond callback own).bind fun own => .done (inject own)
    | none => .done memory
  commands := adapter.commands
  telemetry := adapter.telemetry
  metadata := adapter.metadata

/-- What one of the known adapters remembers. -/
inductive Memory where
  /-- Nothing. -/
  | nothing
  /-- Whether the debug printer is on. -/
  | debugPrinter (isOn : Bool)
  /-- The polling task of the button. -/
  | buttonPoller (poller : Poller)
deriving DecidableEq, Repr, Inhabited

namespace Memory

/-- The part of the debug printer. -/
def debugPrinter? : Memory → Option Bool
  | .debugPrinter isOn => some isOn
  | _ => none

/-- The part of the button poller. -/
def buttonPoller? : Memory → Option Poller
  | .buttonPoller poller => some poller
  | _ => none

end Memory

/-- The debug printer beside other adapters. -/
def Adapter.debugPrinter : Adapter Memory :=
  DebugPrinter.adapter.within .debugPrinter Memory.debugPrinter?

/-- The button poller beside other adapters. -/
def Adapter.buttonPoller (activeLow : Bool) : Adapter Memory :=
  (ButtonPoller.adapter activeLow).within .buttonPoller Memory.buttonPoller?

/-- What is done with an adapter that is let go: one that may own a task is shut down. -/
def Adapter.dismiss (adapter : Adapter Memory) : Program .callback Unit :=
  match adapter.memory with
  | .buttonPoller _ => (adapter.respond .shutdown adapter.memory).bind fun _ => .done ()
  | _ => .done ()

/-- Register an adapter, and let it go if it is refused. -/
def Builder.admit (builder : Builder Memory) (adapter : Option (Adapter Memory)) :
    Except RegistrationError Unit × Builder Memory :=
  let (result, builder) := builder.register adapter
  match result, adapter with
  | .error _, some refused =>
    let ((), environment) := refused.dismiss.run .producer builder.environment
    (result, { builder with environment })
  | _, _ => (result, builder)

/-- The place of the last adapter that polls a button, and the button. -/
def Roster.polledButton? (roster : Roster Memory) : Option (Nat × Button) :=
  roster.adapters.zipIdx.reverse.findSome? fun (adapter, slot) =>
    match adapter.memory with
    | .buttonPoller (.polling button) => some (slot, button)
    | _ => none

/-- Replace the memory of the adapter in a place. -/
def Roster.remember {σ : Type} (roster : Roster σ) (slot : Nat) (memory : σ) : Roster σ where
  adapters := roster.adapters.modify slot fun adapter => { adapter with memory }
  length_le := by simpa using roster.length_le

namespace Supervisor

/-- One step of the polling task: take a sample of the button and submit what it completes. Without
a polling task nothing happens. -/
def pollButton (supervisor : Supervisor Memory) (now : UInt32) (reading : PinReading) :
    Supervisor Memory :=
  match supervisor.roster.polledButton? with
  | none => supervisor
  | some (slot, button) =>
    let (button, environment) :=
      (ButtonPoller.sample button now reading).run (.adapter slot) supervisor.environment
    { supervisor with
      roster := supervisor.roster.remember slot (.buttonPoller (.polling button)), environment }

/-- Whether a polling task runs. -/
def isPolling (supervisor : Supervisor Memory) : Bool := supervisor.roster.polledButton?.isSome

end Supervisor

end Overseer
