import Overseer.Config.Basic

/-!
# Errors of stored data

Why an operation on flash, or on the configuration in it, was refused.
-/
namespace Overseer

/-- Why flash refused an operation. -/
inductive StorageError where
  /-- Nothing is stored under the key. -/
  | notFound
  /-- The partition has no room left. -/
  | full
  /-- The memory did not answer as it should. -/
  | inputOutput
deriving DecidableEq, Repr

/-- The error, in words. -/
def StorageError.message : StorageError → String
  | .notFound => "key not found"
  | .full => "storage full"
  | .inputOutput => "I/O error"

/-- Why a configuration was not loaded or not stored. -/
inductive ConfigError where
  /-- The stored bytes are no configuration. -/
  | corrupted
  /-- The configuration breaks a rule. -/
  | invalid (violation : Violation)
  /-- The overrides are no object, or one of them does not fit its field. -/
  | invalidOverride
  /-- Flash refused. -/
  | storage (error : StorageError)
deriving DecidableEq, Repr

/-- The text of a refused rule, given in words. -/
def ConfigError.invalidMessage (reason : String) : String := "validation failed: " ++ reason

/-- The error, in words. -/
def ConfigError.message : ConfigError → String
  | .corrupted => "config corrupted"
  | .invalid violation => invalidMessage violation.reason
  | .invalidOverride => "invalid config override"
  | .storage error => "storage: " ++ error.message

end Overseer
