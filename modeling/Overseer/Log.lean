/-!
# Log lines

Every component reports what it did as lines of text at one of four levels. `Logged` carries a
value together with the lines written while it was computed, oldest first, so that the functions
on stored data stay pure.
-/
namespace Overseer

/-- The urgency of a log line. -/
inductive Level where
  | error
  | warn
  | info
  | debug
deriving DecidableEq, Repr

/-- The word that opens a line of this level. -/
def Level.name : Level → String
  | .error => "ERROR"
  | .warn => "WARN"
  | .info => "INFO"
  | .debug => "DEBUG"

/-- One line of the log. -/
structure Line where
  /-- How urgent the line is. -/
  level : Level
  /-- What it reports. -/
  text : String
deriving DecidableEq, Repr

namespace Line

/-- A line about a failure. -/
def error (text : String) : Line := ⟨.error, text⟩

/-- A line about something unexpected that was handled. -/
def warn (text : String) : Line := ⟨.warn, text⟩

/-- A line about ordinary progress. -/
def info (text : String) : Line := ⟨.info, text⟩

/-- A line of interest to a developer only. -/
def debug (text : String) : Line := ⟨.debug, text⟩

/-- The line as it is shown: its level, a space, its text. -/
def render (line : Line) : String := line.level.name ++ " " ++ line.text

end Line

/-- A value and the lines written while it was computed, oldest first. -/
structure Logged (α : Type) where
  /-- The computed value. -/
  value : α
  /-- The lines, oldest first. -/
  lines : List Line := []
deriving Repr

namespace Logged

variable {α β : Type}

/-- Lines of consecutive computations follow one another. -/
instance : Monad Logged where
  pure value := ⟨value, []⟩
  bind logged next := ⟨(next logged.value).value, logged.lines ++ (next logged.value).lines⟩

/-- Write one line. -/
def say (line : Line) : Logged Unit := ⟨(), [line]⟩

@[simp] theorem pure_value (value : α) : (pure value : Logged α).value = value := rfl

@[simp] theorem pure_lines (value : α) : (pure value : Logged α).lines = [] := rfl

@[simp] theorem bind_value (logged : Logged α) (next : α → Logged β) :
    (logged >>= next).value = (next logged.value).value := rfl

@[simp] theorem bind_lines (logged : Logged α) (next : α → Logged β) :
    (logged >>= next).lines = logged.lines ++ (next logged.value).lines := rfl

@[simp] theorem say_lines (line : Line) : (say line).lines = [line] := rfl

end Logged

end Overseer
