import Overseer.Flash
import Overseer.Json.Value
import Overseer.Led
import Overseer.Supervisor.Journal

/-!
# Programs

What a callback of an adapter or the handler of a command may do, as a value: a sequence of
operations, each of which may depend on the answers to the operations before it. A callback can
log, look at the clock and at what a handle shows, take time, raise events and submit commands. The
handler of a command can, besides, list the commands, ask for a restart, do with the stored data
whatever the supervisor itself can, and drive the LED. Nothing else of the supervisor is within
reach of either.
-/
namespace Overseer

/-- Who runs a program. -/
inductive Role where
  /-- A callback of an adapter. -/
  | callback
  /-- The handler of a command. -/
  | handler
deriving DecidableEq, Repr

/-- What a handle shows of the supervisor at a moment. -/
structure View where
  /-- The events raised since the last pass. -/
  pending : EventSet
  /-- The number of commands that wait. -/
  waiting : Nat
  /-- The names and descriptions of the commands, once they are fixed. -/
  commands : Option (List (String × String))
  /-- A document with the readings of every telemetry entry. -/
  append : Document → Document
  /-- A document with the readings of one telemetry entry, and whether there is such an entry. -/
  appendOf : String → Document → Bool × Document

/-- A program of a role that ends with a value. -/
inductive Program (role : Role) (α : Type) where
  /-- End. -/
  | done (value : α)
  /-- Write a log line. -/
  | log (line : Line) (next : Program role α)
  /-- Read the clock, in milliseconds. -/
  | clock (next : UInt64 → Program role α)
  /-- Look at what a handle shows. -/
  | inspect (next : View → Program role α)
  /-- Take time. -/
  | elapse (milliseconds : UInt64) (next : Program role α)
  /-- Raise events. -/
  | notify (events : EventSet) (next : Program role α)
  /-- Submit a command. -/
  | submit (id : String) (args : Option String)
      (next : Except SubmissionError Unit → Program role α)
  /-- List the commands with their descriptions. -/
  | commands (allowed : role = .handler) (next : List (String × String) → Program role α)
  /-- Ask for a restart at the end of the pass. -/
  | requestRestart (allowed : role = .handler) (next : Program role α)
  /-- Read the boot counter. -/
  | bootCounter (allowed : role = .handler) (next : UInt32 → Program role α)
  /-- Store the boot counter. -/
  | setBootCounter (allowed : role = .handler) (value : UInt32)
      (next : Except StorageError Unit → Program role α)
  /-- Load the stored configuration. -/
  | load (allowed : role = .handler) (next : Except ConfigError Config → Program role α)
  /-- Save a configuration. -/
  | save (allowed : role = .handler) (config : Config)
      (next : Except ConfigError Unit → Program role α)
  /-- Override the stored configuration. -/
  | override (allowed : role = .handler) (overrides : Json)
      (next : Except ConfigError Unit → Program role α)
  /-- Erase the stored configuration. -/
  | resetConfig (allowed : role = .handler) (next : Except StorageError Unit → Program role α)
  /-- Drive the LED; the answer is whether it is on afterwards. -/
  | driveLed (allowed : role = .handler) (action : LedAction) (next : Bool → Program role α)

namespace Program

variable {role : Role} {α β : Type}

/-- Continue after the end of a program. -/
def bind (program : Program role α) (continuation : α → Program role β) : Program role β :=
  match program with
  | .done value => continuation value
  | .log line next => .log line (next.bind continuation)
  | .clock next => .clock fun now => (next now).bind continuation
  | .inspect next => .inspect fun view => (next view).bind continuation
  | .elapse milliseconds next => .elapse milliseconds (next.bind continuation)
  | .notify events next => .notify events (next.bind continuation)
  | .submit id args next => .submit id args fun result => (next result).bind continuation
  | .commands allowed next => .commands allowed fun listing => (next listing).bind continuation
  | .requestRestart allowed next => .requestRestart allowed (next.bind continuation)
  | .bootCounter allowed next =>
    .bootCounter allowed fun counter => (next counter).bind continuation
  | .setBootCounter allowed value next =>
    .setBootCounter allowed value fun result => (next result).bind continuation
  | .load allowed next => .load allowed fun loaded => (next loaded).bind continuation
  | .save allowed config next =>
    .save allowed config fun result => (next result).bind continuation
  | .override allowed overrides next =>
    .override allowed overrides fun result => (next result).bind continuation
  | .resetConfig allowed next => .resetConfig allowed fun result => (next result).bind continuation
  | .driveLed allowed action next =>
    .driveLed allowed action fun isOn => (next isOn).bind continuation

instance : Monad (Program role) where
  pure := .done
  bind := bind

/-- Write a log line. -/
def say (line : Line) : Program role Unit := .log line (.done ())

/-- Write log lines. -/
def sayAll : List Line → Program role Unit
  | [] => .done ()
  | line :: rest => .log line (sayAll rest)

/-- Read the clock, in milliseconds. -/
def now : Program role UInt64 := .clock .done

/-- Raise events. -/
def raise (events : EventSet) : Program role Unit := .notify events (.done ())

/-- Take time, in milliseconds. -/
def wait (milliseconds : UInt64) : Program role Unit := .elapse milliseconds (.done ())

/-- Submit a command. -/
def request (id : String) (args : Option String) : Program role (Except SubmissionError Unit) :=
  .submit id args .done

/-- List the commands with their descriptions. -/
def listing : Program .handler (List (String × String)) := .commands rfl .done

/-- Ask for a restart at the end of the pass. -/
def askRestart : Program .handler Unit := .requestRestart rfl (.done ())

/-- Store the boot counter. -/
def storeCounter (value : UInt32) : Program .handler (Except StorageError Unit) :=
  .setBootCounter rfl value .done

/-- Load the stored configuration. -/
def loadConfig : Program .handler (Except ConfigError Config) := .load rfl .done

/-- The stored configuration if it can be read and keeps every rule, the defaults otherwise. -/
def loadOrDefault : Program .handler Config := do
  let settled := Flash.orDefault (← loadConfig)
  sayAll settled.lines
  return settled.value

/-- Save a configuration. -/
def saveConfig (config : Config) : Program .handler (Except ConfigError Unit) :=
  .save rfl config .done

/-- Override the stored configuration. -/
def overrideConfig (overrides : Json) : Program .handler (Except ConfigError Unit) :=
  .override rfl overrides .done

/-- Erase the stored configuration. -/
def eraseConfig : Program .handler (Except StorageError Unit) := .resetConfig rfl .done

/-- Drive the LED; the answer is whether it is on afterwards. -/
def setLed (action : LedAction) : Program .handler Bool := .driveLed rfl action .done

end Program

end Overseer
