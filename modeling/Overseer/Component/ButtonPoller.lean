import Overseer.Button
import Overseer.Supervisor.Adapter
import Overseer.Task

/-!
# Button poller

An adapter that owns the button. Its initialisation hands the button to a polling task, once; while
the task runs, each sample of the button may complete a gesture, and the gesture's command is
submitted at once. Shutting the adapter down ends the task for good.
-/
namespace Overseer

/-- How far the polling task has come. -/
inductive Poller where
  /-- Not started; the button is still the adapter's own. -/
  | unstarted (button : Button)
  /-- Polling the button. -/
  | polling (button : Button)
  /-- Ended. -/
  | ended
deriving DecidableEq, Repr, Inhabited

namespace ButtonPoller

/-- The milliseconds between two samples. -/
def interval : Nat := 10

/-- The response to a callback. -/
def respond (callback : Callback) (poller : Poller) : Program .callback Poller := do
  match callback, poller with
  | .init, .unstarted button =>
    Program.say Task.buttonPoller.spawnLine
    Program.say (.info s!"ButtonAdapter: polling every {interval}ms")
    return .polling button
  | .init, poller =>
    Program.say (.warn "ButtonAdapter: already initialised")
    return poller
  | .shutdown, poller =>
    Program.say (.info "ButtonAdapter: shutting down")
    match poller with
    | .polling _ => return .ended
    | other => return other
  | _, poller => return poller

/-- Submit the command of a gesture. -/
def dispatch (gesture : Gesture) : Program .callback Unit := do
  let (command, args) := gesture.command
  Program.say (.info s!"ButtonAdapter: {gesture.name} -> '{command}'")
  match ← Program.request command args with
  | .ok () => return
  | .error error =>
    Program.say (.warn s!"ButtonAdapter: '{command}' not submitted: {error.message}")

/-- Take one sample of a button and submit what it completes: the button after it. -/
def sample (button : Button) (now : UInt32) (reading : PinReading) : Program .callback Button := do
  let polled := button.poll now reading
  Program.sayAll polled.lines
  match polled.value.1 with
  | none => return polled.value.2
  | some gesture => do
    dispatch gesture
    return polled.value.2

/-- The button poller of a button that was not pressed yet. -/
def adapter (activeLow : Bool) : Adapter Poller where
  name := "button"
  memory := .unstarted { activeLow }
  respond := respond

end ButtonPoller

end Overseer
