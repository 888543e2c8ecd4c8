/-!
# Refusals of the supervisor

Why an adapter was not registered, and why a command was not queued.
-/
namespace Overseer

/-- Why an adapter was not registered. -/
inductive RegistrationError where
  /-- Every place is taken. -/
  | capacityExceeded (capacity : Nat)
  /-- There was no adapter to register. -/
  | missingAdapter
deriving DecidableEq, Repr

/-- The error, in words. -/
def RegistrationError.message : RegistrationError → String
  | .capacityExceeded capacity => s!"adapter capacity ({capacity}) exceeded"
  | .missingAdapter => "null adapter"

/-- Why a command was not queued. -/
inductive SubmissionError where
  /-- No registered command has the name. -/
  | unknownCommand
  /-- As many commands as the queue can hold are waiting. -/
  | queueFull
  /-- There was no memory for the argument; a device may run out of it, this model never does. -/
  | argumentAllocation
deriving DecidableEq, Repr

/-- The error, in words. -/
def SubmissionError.message : SubmissionError → String
  | .unknownCommand => "unknown command"
  | .queueFull => "command queue full"
  | .argumentAllocation => "command argument allocation failed"

end Overseer
