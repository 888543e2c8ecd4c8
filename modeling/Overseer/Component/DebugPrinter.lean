import Overseer.Supervisor.Adapter

/-!
# Debug printer

An adapter that logs every event word it receives, with the names of the agreed events in it, and
the uptime on every two-second stage, until it is shut down.
-/
namespace Overseer.DebugPrinter

/-- The lines about an event word. -/
def eventLines (events : EventSet) : List Line :=
  .info s!"DebugAdapter: event received {events.render}" ::
    events.events.map fun event => .info s!"DebugAdapter:   -> {event.name}"

/-- The response to a callback; the memory is whether the printer is still on. -/
def respond (callback : Callback) (isOn : Bool) : Program .callback Bool := do
  match callback with
  | .init =>
    Program.say (.info "DebugAdapter: initialising")
    Program.say (.info "DebugAdapter: host simulation")
    return isOn
  | .shutdown =>
    Program.say (.info "DebugAdapter: shutdown, disabling periodic logging")
    return false
  | .event events =>
    if isOn then
      Program.sayAll (eventLines events)
    return isOn
  | .interval stage =>
    if isOn && stage = .every2s then
      let now ← Program.now
      Program.say (.info s!"DebugAdapter: uptime {now / 1000} s")
    return isOn

/-- The debug printer. -/
def adapter : Adapter Bool where
  name := "debug"
  memory := true
  respond := respond

end Overseer.DebugPrinter
