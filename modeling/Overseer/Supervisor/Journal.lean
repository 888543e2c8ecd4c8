import Overseer.Event
import Overseer.Config.Error
import Overseer.Firmware
import Overseer.Scheduler
import Overseer.Supervisor.Error

/-!
# Journal

What happened, in order: the log lines, and the trace. The trace holds the calls that the supervisor
makes (callbacks of adapters, command handlers, the safe-mode hook, the restart) and the deeds that
change what the parties share (submissions, events raised and taken, stored counters, overrides and
the like), each with the party that did it.
-/
namespace Overseer

/-- A party that acts on the device. -/
inductive Actor where
  /-- The supervisor itself: its loop and its own commands. -/
  | core
  /-- A task beside the loop. -/
  | producer
  /-- The crash-loop detector. -/
  | detector
  /-- The adapter registered in a place, counted from zero. -/
  | adapter (slot : Nat)
deriving DecidableEq, Repr, Inhabited

/-- An occasion on which an adapter is called. -/
inductive Callback where
  /-- Once, when the platform starts. -/
  | init
  /-- Before a restart, or when the platform stops. -/
  | shutdown
  /-- Once a pass, with every event bit raised since the pass before. -/
  | event (events : EventSet)
  /-- When a stage is due. -/
  | interval (stage : Stage)
deriving DecidableEq, Repr

/-- One entry of the trace. -/
inductive Entry where
  /-- The supervisor called an adapter. -/
  | adapter (slot : Nat) (callback : Callback)
  /-- The supervisor ran the handler of a command. -/
  | handler (owner : Actor) (id : String) (args : Option String)
  /-- The supervisor ran the safe-mode hook of a stage. -/
  | hook (stage : Stage)
  /-- The supervisor restarted the chip. -/
  | restart
  /-- A command was submitted. -/
  | submitted (actor : Actor) (id : String) (args : Option String)
      (result : Except SubmissionError Unit)
  /-- Events were raised. -/
  | raised (actor : Actor) (events : EventSet)
  /-- The loop took every raised event. -/
  | taken (events : EventSet)
  /-- The command table was listed. -/
  | listed (actor : Actor) (ids : List String)
  /-- The boot counter was to be stored. -/
  | counterWritten (actor : Actor) (value : UInt32) (result : Except StorageError Unit)
  /-- A configuration was to be saved. -/
  | saved (actor : Actor) (result : Except ConfigError Unit)
  /-- The configuration was to be overridden. -/
  | overridden (actor : Actor) (result : Except ConfigError Unit)
  /-- The stored configuration was to be erased. -/
  | configReset (actor : Actor) (result : Except StorageError Unit)
  /-- A restart at the end of the pass was asked for. -/
  | restartRequested (actor : Actor)
  /-- The state of the firmware image was asked for. -/
  | imageQueried (result : Except FirmwareError ImageState)
  /-- The firmware image was to be marked valid. -/
  | imageMarked (result : Except FirmwareError Unit)
deriving Repr

/-- Whether the entry is a call by the supervisor. -/
def Entry.isCall : Entry → Bool
  | .adapter .. | .handler .. | .hook .. | .restart => true
  | _ => false

/-- The log lines and the trace, oldest first. -/
structure Journal where
  /-- The log lines. -/
  lines : List Line := []
  /-- The trace. -/
  trace : List Entry := []
deriving Repr, Inhabited

namespace Journal

/-- Add log lines. -/
def say (journal : Journal) (lines : List Line) : Journal :=
  { journal with lines := journal.lines ++ lines }

/-- Add an entry to the trace. -/
def note (journal : Journal) (entry : Entry) : Journal :=
  { journal with trace := journal.trace ++ [entry] }

@[simp] theorem lines_say (journal : Journal) (lines : List Line) :
    (journal.say lines).lines = journal.lines ++ lines := rfl

@[simp] theorem trace_say (journal : Journal) (lines : List Line) :
    (journal.say lines).trace = journal.trace := rfl

@[simp] theorem lines_note (journal : Journal) (entry : Entry) :
    (journal.note entry).lines = journal.lines := rfl

@[simp] theorem trace_note (journal : Journal) (entry : Entry) :
    (journal.note entry).trace = journal.trace ++ [entry] := rfl

end Journal

end Overseer
