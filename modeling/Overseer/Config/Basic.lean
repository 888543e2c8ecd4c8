import Overseer.Stage

/-!
# Configuration

The tunables of a supervisor and the ranges they must lie in. A configuration as such may hold any
values of its words; `Config.validate` names the first violated rule, in the order in which the
fields are declared. Only validated configurations are ever stored.
-/
namespace Overseer

/-- The largest number of adapters. -/
abbrev adapterLimit : Nat := 8

/-- The depth of the command queue. -/
abbrev queueLimit : Nat := 16

/-- The largest number of commands, core commands included. -/
abbrev commandLimit : Nat := 64

/-- The largest number of telemetry entries, core entries included. -/
abbrev telemetryLimit : Nat := 64

/-- The tunables of a supervisor; the defaults of a fresh device. -/
structure Config where
  /-- Consecutive abnormal resets at which safe mode is entered. -/
  safeModeThreshold : UInt32 := 5
  /-- Seconds of uptime after which the boot counter is cleared. -/
  stableSeconds : UInt32 := 60
  /-- Milliseconds that a pass waits for a command; zero only polls. -/
  commandWait : UInt32 := 100
  /-- The stage on which the running firmware is validated. -/
  validationStage : Stage := .every10s
  /-- Priority of the supervisor's task. -/
  taskPriority : UInt8 := 5
  /-- Stack of the supervisor's task, in KiB. -/
  taskStack : UInt16 := 8
  /-- Processor core of the supervisor's task. -/
  taskCore : UInt8 := 1
deriving DecidableEq, Repr, Inhabited

/-- The fields of a configuration. -/
inductive Field where
  | safeModeThreshold
  | stableSeconds
  | commandWait
  | validationStage
  | taskPriority
  | taskStack
  | taskCore
deriving DecidableEq, Repr

namespace Field

/-- Every field, in declaration order. -/
def all : List Field :=
  [.safeModeThreshold, .stableSeconds, .commandWait, .validationStage, .taskPriority, .taskStack,
    .taskCore]

/-- The name of the field in a JSON configuration. -/
def name : Field → String
  | .safeModeThreshold => "safe_mode_threshold"
  | .stableSeconds => "safe_mode_stable_time_secs"
  | .commandWait => "command_wait_ms"
  | .validationStage => "firmware_validation_stage"
  | .taskPriority => "task_priority"
  | .taskStack => "task_stack_kb"
  | .taskCore => "task_core"

/-- The field of a name. -/
def ofName? (name : String) : Option Field := all.find? fun field => field.name == name

/-- Every field is listed. -/
theorem mem_all (field : Field) : field ∈ all := by cases field <;> decide

/-- The name of a field is read back as that field. -/
@[simp] theorem ofName?_name (field : Field) : ofName? field.name = some field := by
  cases field <;> decide

/-- Only a field's own name is read as that field. -/
theorem name_of_ofName? {text : String} {field : Field} (found : ofName? text = some field) :
    field.name = text := by
  simpa using List.find?_some found

end Field

/-- A rule that a configuration may break. -/
inductive Violation where
  | safeModeThreshold
  | stableSeconds
  | commandWait
  /-- The validation stage comes later than the stable-time window, so that a bad image could lose
  its crash count before it is validated. -/
  | validationStage
  | taskPriority
  | taskStack
  | taskCore
deriving DecidableEq, Repr

/-- The rule, in words. -/
def Violation.reason : Violation → String
  | .safeModeThreshold => "safe_mode_threshold must be 1–100"
  | .stableSeconds => "safe_mode_stable_time_secs must be 10–86400"
  | .commandWait => "command_wait_ms must be 0–1000"
  | .validationStage => "firmware_validation_stage must not exceed the stable-time window"
  | .taskPriority => "task_priority must be 1–24"
  | .taskStack => "task_stack_kb must be 4–64"
  | .taskCore => "task_core must be 0 or 1"

namespace Config

/-- What the rules ask of a configuration. -/
structure Valid (config : Config) : Prop where
  safeModeThreshold : 1 ≤ config.safeModeThreshold.toNat ∧ config.safeModeThreshold.toNat ≤ 100
  stableSeconds : 10 ≤ config.stableSeconds.toNat ∧ config.stableSeconds.toNat ≤ 86400
  commandWait : config.commandWait.toNat ≤ 1000
  validationStage : config.validationStage.period ≤ config.stableSeconds.toNat * 1000
  taskPriority : 1 ≤ config.taskPriority.toNat ∧ config.taskPriority.toNat ≤ 24
  taskStack : 4 ≤ config.taskStack.toNat ∧ config.taskStack.toNat ≤ 64
  taskCore : config.taskCore.toNat ≤ 1

/-- The first violated rule, in declaration order of the fields. -/
def violation? (config : Config) : Option Violation :=
  if ¬(1 ≤ config.safeModeThreshold.toNat ∧ config.safeModeThreshold.toNat ≤ 100) then
    some .safeModeThreshold
  else if ¬(10 ≤ config.stableSeconds.toNat ∧ config.stableSeconds.toNat ≤ 86400) then
    some .stableSeconds
  else if 1000 < config.commandWait.toNat then some .commandWait
  else if config.stableSeconds.toNat * 1000 < config.validationStage.period then
    some .validationStage
  else if ¬(1 ≤ config.taskPriority.toNat ∧ config.taskPriority.toNat ≤ 24) then
    some .taskPriority
  else if ¬(4 ≤ config.taskStack.toNat ∧ config.taskStack.toNat ≤ 64) then some .taskStack
  else if 1 < config.taskCore.toNat then some .taskCore
  else none

/-- Accept a configuration that keeps every rule, or name the first rule it breaks. -/
def validate (config : Config) : Except Violation Unit :=
  match config.violation? with
  | none => .ok ()
  | some violation => .error violation

/-- No rule is found violated exactly in a valid configuration. -/
theorem violation?_eq_none_iff (config : Config) : config.violation? = none ↔ config.Valid := by
  constructor
  · intro clear
    unfold violation? at clear
    repeat' split at clear
    all_goals first | contradiction | constructor <;> omega
  · rintro ⟨threshold, stable, wait, stage, priority, stack, core⟩
    unfold violation?
    repeat' split
    all_goals first | rfl | omega

/-- The validated configurations are the valid ones. -/
theorem validate_eq_ok_iff (config : Config) : config.validate = .ok () ↔ config.Valid := by
  rw [← violation?_eq_none_iff]
  unfold validate
  cases config.violation? <;> simp

/-- The defaults keep every rule. -/
theorem valid_default : Valid {} := by
  rw [← violation?_eq_none_iff]
  decide

end Config

end Overseer
