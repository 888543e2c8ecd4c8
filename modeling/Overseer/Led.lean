import Overseer.Log

/-!
# Onboard LED

One LED on an output pin. A LED that is lit by a low level is active low. The driver remembers
whether it was last told to be on, and that memory alone answers questions: a pin that fails to be
written keeps its level, while the memory follows the request.
-/
namespace Overseer

/-- An output pin. -/
structure Pin where
  /-- Whether the level is high. -/
  high : Bool := false
  /-- Whether writes fail; a failed write keeps the level. -/
  failing : Bool := false
  /-- The number of writes so far, failed ones included. -/
  writes : Nat := 0
deriving DecidableEq, Repr, Inhabited

/-- Write a level; the result says whether it was taken. -/
def Pin.write (pin : Pin) (high : Bool) : Bool × Pin :=
  (!pin.failing,
    { pin with writes := pin.writes + 1, high := if pin.failing then pin.high else high })

/-- What a LED can be told to do. -/
inductive LedAction where
  | on
  | off
  | toggle
deriving DecidableEq, Repr

/-- Whether the LED is to be on after the action, given whether it is on before. -/
def LedAction.target (isOn : Bool) : LedAction → Bool
  | .on => true
  | .off => false
  | .toggle => !isOn

/-- The LED and its pin. -/
structure Led where
  /-- The pin. -/
  pin : Pin := {}
  /-- Whether a low level lights the LED. -/
  activeLow : Bool := false
  /-- Whether the LED was last told to be on. -/
  isOn : Bool := false
deriving DecidableEq, Repr, Inhabited

namespace Led

/-- Tell the LED to be on or off. -/
def set (led : Led) (on : Bool) : Logged Led := do
  let (taken, pin) := led.pin.write (on != led.activeLow)
  unless taken do
    Logged.say (.warn "OnboardLed: GPIO write failed: PinError")
  return { led with pin, isOn := on }

/-- A LED on a pin, told to be off. -/
def onPin (pin : Pin) (activeLow : Bool) : Logged Led := set { pin, activeLow } false

/-- Carry out an action. -/
def perform (led : Led) (action : LedAction) : Logged Led := led.set (action.target led.isOn)

end Led

end Overseer
