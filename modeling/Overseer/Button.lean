import Overseer.Gesture
import Overseer.Log

/-!
# Button

A button on an input pin. A button that pulls the pin low while it is pressed is active low. A read
that fails counts as a sample of the released button.
-/
namespace Overseer

/-- What reading the pin gives. -/
inductive PinReading where
  | high
  | low
  | failed
deriving DecidableEq, Repr

/-- A button and the phase of its current press. -/
structure Button where
  /-- Whether a low level means that the button is pressed. -/
  activeLow : Bool := false
  /-- Where the classification of the press stands. -/
  phase : Gesture.Phase := .idle
deriving DecidableEq, Repr, Inhabited

namespace Button

/-- Whether a reading means that the button is pressed. -/
def isPressed (button : Button) : PinReading → Bool
  | .high => !button.activeLow
  | .low => button.activeLow
  | .failed => false

/-- Take one sample: the gesture it completes, and the button after it. -/
def poll (button : Button) (now : UInt32) (reading : PinReading) :
    Logged (Option Gesture × Button) := do
  if reading = .failed then
    Logged.say (.warn "Button: GPIO read failed: PinError")
  let (phase, gesture) := button.phase.sample now (button.isPressed reading)
  return (gesture, { button with phase })

end Button

end Overseer
