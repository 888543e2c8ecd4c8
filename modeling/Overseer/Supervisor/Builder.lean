import Overseer.Supervisor.Adapter
import Overseer.Supervisor.Core
import Overseer.Supervisor.Loop

/-!
# Building a supervisor

A builder starts with the core commands and telemetry and takes in adapters with what they offer.
Building fixes the tables and hands everything over to the loop.
-/
namespace Overseer

/-- A supervisor in the making. -/
structure Builder (σ : Type) where
  /-- The configuration. -/
  config : Config
  /-- The device, and what is shared with producers. -/
  environment : Environment
  /-- The adapters so far. -/
  roster : Roster σ := {}
  /-- The commands so far. -/
  commands : CommandTable := {}
  /-- The telemetry entries so far. -/
  telemetry : TelemetryTable := {}

namespace Builder

variable {σ : Type}

/-- A builder with the core commands and telemetry. -/
def onBoard (config : Config) (board : Board) : Builder σ :=
  let commands := Registry.registerAll ({} : CommandTable) Core.commands
  let telemetry := Registry.registerAll ({} : TelemetryTable) Core.telemetry
  { config
    environment := { board := (board.say commands.lines).say telemetry.lines }
    commands := commands.value.2
    telemetry := telemetry.value.2 }

/-- Take in an adapter with the commands and telemetry that it offers. -/
def enlist (builder : Builder σ) (adapter : Option (Adapter σ)) :
    Logged (Except RegistrationError Unit × Builder σ) := do
  let slot := builder.roster.size
  let (result, roster) ← builder.roster.register adapter
  match result with
  | .error error => return (.error error, builder)
  | .ok adapter => do
    let offered := adapter.commands.map fun command => { command with owner := .adapter slot }
    let (newCommands, commands) ← builder.commands.registerAll offered
    let (newTelemetry, telemetry) ← builder.telemetry.registerAll adapter.telemetry
    if 0 < newCommands ∨ 0 < newTelemetry then
      Logged.say (.info (s!"Supervisor: '{adapter.name}' added {newCommands} command(s), " ++
        s!"{newTelemetry} telemetry"))
    return (.ok (), { builder with roster, commands, telemetry })

/-- Register an adapter. -/
def register (builder : Builder σ) (adapter : Option (Adapter σ)) :
    Except RegistrationError Unit × Builder σ :=
  let done := builder.enlist adapter
  (done.value.1,
    { done.value.2 with environment := done.value.2.environment.say done.lines })

/-- Fix the tables and hand over to the loop, with every stage armed at the current reading. -/
def build (builder : Builder σ) : Supervisor σ :=
  let hub := { builder.environment.hub with
    commands := some builder.commands, telemetry := some builder.telemetry }
  let environment := { builder.environment with hub }
  { config := builder.config
    environment := environment.say [.info (s!"Supervisor: built with {builder.roster.size} " ++
      s!"adapter(s), {builder.commands.size} command(s)")]
    roster := builder.roster
    scheduler := .armedAt environment.board.clock
    detector := .ofConfig builder.config }

end Builder

end Overseer
