import Overseer.Config.Basic
import Overseer.Registry
import Overseer.Supervisor.Program
import Overseer.Text.Quoted

/-!
# Commands

A command has a name, a description and a handler, which is a program of the text submitted with the
command. Commands are found by name in one table.
-/
namespace Overseer

/-- A command. -/
structure Command where
  /-- The name that the command is submitted by. -/
  id : String
  /-- What the command does, for people. -/
  description : String
  /-- The party that offers the command. -/
  owner : Actor := .core
  /-- What running the command with an argument does. -/
  handler : Option String → Program .handler Unit

namespace Command

/-- The command as it is shown to a developer. -/
def render (command : Command) : String :=
  "CommandEntry \x7b command_id: " ++ Text.quote command.id ++ ", description: " ++
    Text.quote command.description ++ ", .. \x7d"

instance : Registrable Command where
  id := Command.id
  registry := "Cmnd"
  kind := "command"

end Command

/-- The table of commands. -/
abbrev CommandTable := Registry Command commandLimit

/-- The names and descriptions of the commands of a table. -/
def CommandTable.listing (table : CommandTable) : List (String × String) :=
  table.entries.map fun command => (command.id, command.description)

/-- A command that waits to be run, with its argument. -/
structure Job where
  /-- The command, as it was found when it was submitted. -/
  command : Command
  /-- The text submitted with it. -/
  args : Option String

end Overseer
