/-!
# Reset reasons

Why the chip last started. Panics and watchdog resets are abnormal: they count towards safe mode.
-/
namespace Overseer

/-- The cause of the last reset. -/
inductive ResetReason where
  | unknown
  | powerOn
  | external
  | software
  | panic
  | interruptWatchdog
  | taskWatchdog
  | watchdog
  | deepSleep
  | brownout
  | sdio
deriving DecidableEq, Repr, Inhabited

namespace ResetReason

/-- Every reason. -/
def all : List ResetReason :=
  [.unknown, .powerOn, .external, .software, .panic, .interruptWatchdog, .taskWatchdog, .watchdog,
    .deepSleep, .brownout, .sdio]

/-- The name shown in logs. -/
def name : ResetReason → String
  | .unknown => "Unknown"
  | .powerOn => "PowerOn"
  | .external => "External"
  | .software => "Software"
  | .panic => "Panic"
  | .interruptWatchdog => "InterruptWatchdog"
  | .taskWatchdog => "TaskWatchdog"
  | .watchdog => "Watchdog"
  | .deepSleep => "DeepSleep"
  | .brownout => "Brownout"
  | .sdio => "Sdio"

/-- Whether the reset counts as a crash. -/
def isAbnormal : ResetReason → Bool
  | .panic | .interruptWatchdog | .taskWatchdog | .watchdog => true
  | _ => false

end ResetReason

end Overseer
