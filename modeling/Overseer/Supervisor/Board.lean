import Overseer.Flash
import Overseer.Led
import Overseer.ResetReason
import Overseer.Supervisor.Journal

/-!
# Board

The device under the supervisor: its clock, its flash, its firmware image, the cause of its last
reset, its LED, and the journal of what happened on it.
-/
namespace Overseer

/-- The device. -/
structure Board where
  /-- Milliseconds since the start. -/
  clock : UInt64 := 0
  /-- Flash. -/
  store : Store := {}
  /-- The running firmware image. -/
  firmware : Firmware := {}
  /-- Why the chip last started. -/
  resetReason : ResetReason := .powerOn
  /-- How often the chip was told to restart. -/
  restarts : Nat := 0
  /-- The onboard LED. -/
  led : Led := {}
  /-- What happened. -/
  journal : Journal := {}
deriving Repr, Inhabited

namespace Board

/-- Whole seconds since the start. -/
def uptime (board : Board) : UInt64 := board.clock / 1000

/-- Let time pass; the clock wraps around. -/
def elapse (board : Board) (milliseconds : UInt64) : Board :=
  { board with clock := board.clock + milliseconds }

/-- Add log lines to the journal. -/
def say (board : Board) (lines : List Line) : Board :=
  { board with journal := board.journal.say lines }

/-- Add an entry to the trace. -/
def note (board : Board) (entry : Entry) : Board :=
  { board with journal := board.journal.note entry }

/-- Read the boot counter. -/
def bootCounter (board : Board) : UInt32 × Board :=
  let read := board.store.flash.bootCounter
  (read.value, board.say read.lines)

/-- Store the boot counter. -/
def setBootCounter (board : Board) (actor : Actor) (value : UInt32) :
    Except StorageError Unit × Board :=
  let (result, store) := board.store.setBootCounter value
  (result, { board with store }.note (.counterWritten actor value result))

/-- Load the stored configuration. -/
def load (board : Board) : Except ConfigError Config × Board :=
  let loaded := board.store.flash.load
  (loaded.value, board.say loaded.lines)

/-- Save a configuration. -/
def save (board : Board) (actor : Actor) (config : Config) : Except ConfigError Unit × Board :=
  let done := board.store.save config
  (done.value.1,
    ({ board with store := done.value.2 }.say done.lines).note (.saved actor done.value.1))

/-- Override the stored configuration. -/
def override (board : Board) (actor : Actor) (overrides : Json) : Except ConfigError Unit × Board :=
  let done := board.store.override overrides
  (done.value.1,
    ({ board with store := done.value.2 }.say done.lines).note (.overridden actor done.value.1))

/-- Erase the stored configuration. -/
def resetConfig (board : Board) (actor : Actor) : Except StorageError Unit × Board :=
  let done := board.store.reset
  (done.value.1,
    ({ board with store := done.value.2 }.say done.lines).note (.configReset actor done.value.1))

/-- Ask for the state of the firmware image. -/
def imageState (board : Board) : Except FirmwareError ImageState × Board :=
  (board.firmware.state, board.note (.imageQueried board.firmware.state))

/-- Mark the firmware image valid. -/
def markImage (board : Board) : Except FirmwareError Unit × Board :=
  let done := board.firmware.markValid
  (done.value.1,
    ({ board with firmware := done.value.2 }.say done.lines).note (.imageMarked done.value.1))

/-- Carry out an action on the LED. -/
def driveLed (board : Board) (action : LedAction) : Board :=
  let done := board.led.perform action
  { board with led := done.value }.say done.lines

/-- Restart the chip; the board only counts it. -/
def restart (board : Board) : Board :=
  let restarts := board.restarts + 1
  ({ board with restarts }.say [.info s!"System (simulation): restart #{restarts}"]).note .restart

end Board

end Overseer
