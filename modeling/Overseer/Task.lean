import Overseer.Config.Basic
import Overseer.Log

/-!
# Tasks

A task runs on one of two processor cores with a priority and a stack. The scheduler of the chip
wants its name closed by a null character; people see it without.
-/
namespace Overseer

/-- A processor core. -/
inductive Processor where
  /-- The core shared with the radio stacks. -/
  | protocol
  /-- The core left to applications. -/
  | application
deriving DecidableEq, Repr

namespace Processor

/-- The core of an index; every index but zero is the application core. -/
def ofIndex (index : UInt8) : Processor := if index = 0 then .protocol else .application

/-- The index of the core. -/
def index : Processor → Nat
  | .protocol => 0
  | .application => 1

/-- The name shown in logs. -/
def name : Processor → String
  | .protocol => "Pro"
  | .application => "App"

end Processor

/-- Where and how a task runs. -/
structure Task where
  /-- The name, closed by a null character. -/
  name : String
  /-- The core. -/
  core : Processor
  /-- The priority. -/
  priority : UInt8
  /-- The stack, in KiB. -/
  stack : UInt16
deriving DecidableEq, Repr

namespace Task

/-- The task of the supervisor loop. -/
def supervisor (config : Config) : Task where
  name := "supervisor\x00"
  core := .ofIndex config.taskCore
  priority := config.taskPriority
  stack := config.taskStack

/-- The task that polls the button. -/
def buttonPoller : Task where
  name := "button\x00"
  core := .protocol
  priority := 3
  stack := 4

/-- The name without the null characters that close it. -/
def label (task : Task) : String :=
  String.ofList ((task.name.toList.reverse.dropWhile (· == '\x00')).reverse)

/-- The line about the start of the task. -/
def spawnLine (task : Task) : Line :=
  .info (s!"Task: spawning '{task.label}' on {task.core.name} " ++
    s!"(pri={task.priority}, stack={task.stack}KB)")

end Task

end Overseer
