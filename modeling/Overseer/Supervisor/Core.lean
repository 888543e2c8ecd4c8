import Overseer.Led.Argument
import Overseer.Supervisor.Command
import Overseer.Supervisor.Telemetry

/-!
# Core commands and telemetry

The commands and telemetry entries that every supervisor has. They are registered before those of
any adapter, so their names always win.
-/
namespace Overseer.Core

/-- Restart the device. -/
def restart : Program .handler Unit := do
  Program.say (.info "Supervisor: restart requested")
  Program.askRestart

/-- The line of one command in the listing: its name in a column of sixteen characters. -/
def helpLine (id description : String) : Line :=
  .info ("  " ++ id ++ String.ofList (List.replicate (16 - id.length) ' ') ++ " " ++ description)

/-- List the commands. -/
def help : Program .handler Unit := do
  let listing ← Program.listing
  Program.say (.info s!"Supervisor: {listing.length} commands available")
  Program.sayAll (listing.map fun (id, description) => helpLine id description)

/-- Override the stored configuration with a JSON object. -/
def setconf (args : Option String) : Program .handler Unit :=
  match args with
  | none => Program.say (.warn "Supervisor: setconf needs a JSON object")
  | some text =>
    match Json.ofText? text with
    | none => Program.say (.warn "Supervisor: setconf invalid JSON")
    | some (.object members) => do
      match ← Program.overrideConfig (.object members) with
      | .ok () =>
        Program.say (.info "Supervisor: configuration updated (applies after restart)")
      | .error error => Program.say (.warn s!"Supervisor: setconf rejected: {error.message}")
    | some _ => Program.say (.warn "Supervisor: setconf expects a JSON object")

/-- Erase the stored configuration and restart. -/
def resetconf : Program .handler Unit := do
  match ← Program.eraseConfig with
  | .ok () =>
    Program.say (.info "Supervisor: configuration reset, restarting")
    Program.askRestart
  | .error error => Program.say (.warn s!"Supervisor: resetconf failed: {error.message}")

/-- Drive the onboard LED. -/
def onboardLed (args : Option String) : Program .handler Unit :=
  match args.bind LedAction.ofArgument? with
  | none =>
    Program.say
      (.warn s!"Supervisor: onboard_led expects on/off/toggle, got {Text.quoteOption args}")
  | some action => do
    let isOn ← Program.setLed action
    let state := if isOn then "on" else "off"
    Program.say (.info s!"Supervisor: onboard LED {state}")

/-- The core commands, in the order of their registration. -/
def commands : List Command :=
  [{ id := "restart", description := "Restart the device", handler := fun _ => restart },
    { id := "help", description := "Show available commands", handler := fun _ => help },
    { id := "setconf", description := "Set configuration from JSON", handler := setconf },
    { id := "resetconf", description := "Reset configuration and restart",
      handler := fun _ => resetconf },
    { id := "onboard_led", description := "Set onboard LED state (on/off/toggle)",
      handler := onboardLed }]

/-- The core telemetry entries, in the order of their registration. -/
def telemetry : List Telemetry :=
  [{ id := "uptime", append := fun vitals id document =>
      document.set id (.integer vitals.uptime.toNat) },
    { id := "onboard_led", append := fun vitals id document =>
      document.set id (.bool vitals.ledOn) }]

end Overseer.Core
