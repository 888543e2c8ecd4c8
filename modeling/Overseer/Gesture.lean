/-!
# Button gestures

A press of a button is classified from samples of its level, each taken at a reading of a
millisecond counter of thirty-two bits that may wrap around. A press counts once it has lasted the
debounce time. It is reported as long while it is still held; a shorter one is reported as short
when the time for a second press has passed, or as double when the second press begins in time. All
times are differences of readings, so only the distance between samples matters.
-/
namespace Overseer

/-- What a press of the button means. -/
inductive Gesture where
  | shortPress
  | longPress
  | doublePress
deriving DecidableEq, Repr

namespace Gesture

/-- The name shown in logs. -/
def name : Gesture → String
  | .shortPress => "ShortPress"
  | .longPress => "LongPress"
  | .doublePress => "DoublePress"

/-- The command of a gesture, with its argument: a short press toggles the LED, a double press
asks for the station network and a long press for the access point. -/
def command : Gesture → String × Option String
  | .shortPress => ("onboard_led", some "\"toggle\"")
  | .doublePress => ("sta", none)
  | .longPress => ("ap", none)

/-- Milliseconds that a press must last to count. -/
def debounceTime : UInt32 := 50

/-- Milliseconds after which a held press is long. -/
def longPressTime : UInt32 := 5000

/-- Milliseconds after a release within which a second press may begin. -/
def secondPressTime : UInt32 := 300

/-- Where the classification of a press stands. -/
inductive Phase where
  /-- Nothing is going on. -/
  | idle
  /-- Pressed since a reading, not long enough to count. -/
  | settling (since : UInt32)
  /-- Pressed since a reading, long enough to count. -/
  | held (since : UInt32)
  /-- Released at a reading after a press that counted; a second press may follow. -/
  | released (since : UInt32)
  /-- The gesture has been reported; its release is awaited. -/
  | reported
deriving DecidableEq, Repr, Inhabited

/-- Classify one sample: the phase after it and the gesture that it completes. -/
def Phase.sample (phase : Phase) (now : UInt32) (pressed : Bool) : Phase × Option Gesture :=
  match phase with
  | .idle => (if pressed then .settling now else .idle, none)
  | .settling since =>
    if !pressed then (.idle, none)
    else if debounceTime ≤ now - since then (.held since, none)
    else (.settling since, none)
  | .held since =>
    if !pressed then (.released now, none)
    else if longPressTime ≤ now - since then (.reported, some .longPress)
    else (.held since, none)
  | .released since =>
    if secondPressTime < now - since then
      (if pressed then .settling now else .idle, some .shortPress)
    else if pressed then (.reported, some .doublePress)
    else (.released since, none)
  | .reported => (if pressed then .reported else .idle, none)

/-- Classify samples in turn: the phase after them and what each completed. -/
def Phase.samples (phase : Phase) :
    List (UInt32 × Bool) → Phase × List (UInt32 × Option Gesture)
  | [] => (phase, [])
  | (now, pressed) :: rest =>
    let (next, gesture) := phase.sample now pressed
    let (last, reports) := next.samples rest
    (last, (now, gesture) :: reports)

end Gesture

end Overseer
