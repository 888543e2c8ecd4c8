import Overseer.Supervisor.Board

/-!
# Crash-loop detector

A counter in flash counts consecutive abnormal resets. When a boot finds it at the threshold, that
whole boot runs in safe mode. Once the device has been up for longer than the stable time, the
counter is cleared, which matters only to the next boot. The detector also lets a new firmware image
prove itself: it attempts to mark the image valid at most once in a boot.
-/
namespace Overseer

/-- The detector's settings and what it knows of the current boot. -/
structure Detector where
  /-- The counter value at which a boot is in safe mode. -/
  threshold : UInt32
  /-- Seconds of uptime that must be exceeded before the counter is cleared. -/
  stableSeconds : UInt32
  /-- The stage on which the firmware is validated. -/
  validationStage : Stage
  /-- Consecutive abnormal resets, as this boot knows them. -/
  bootCounter : UInt32 := 0
  /-- Whether this boot is in safe mode. -/
  active : Bool := false
  /-- Whether the firmware needs no further validation. -/
  validated : Bool := false
  /-- Whether validation was attempted in this boot. -/
  attempted : Bool := false
deriving DecidableEq, Repr

namespace Detector

/-- The detector of a configuration, before the boot is evaluated. -/
def ofConfig (config : Config) : Detector where
  threshold := config.safeModeThreshold
  stableSeconds := config.stableSeconds
  validationStage := config.validationStage

/-- The counter after a further abnormal reset; it stays at its greatest value. -/
def increment (counter : UInt32) : UInt32 :=
  if counter.toNat + 1 < UInt32.size then counter + 1 else counter

/-- Count an abnormal reset and store the count; a count that could not be stored still holds for
this boot. -/
def countReset (reason : ResetReason) (board : Board) : UInt32 × Board :=
  let (stored, board) := board.bootCounter
  if reason.isAbnormal then
    let counter := increment stored
    match board.setBootCounter .detector counter with
    | (.ok (), board) => (counter, board)
    | (.error error, board) =>
      (counter, board.say [.error s!"SafeMode: failed to persist boot counter: {error.message}"])
  else (stored, board)

/-- Decide at boot whether safe mode is entered. -/
def evaluateBoot (detector : Detector) (reason : ResetReason) (board : Board) : Detector × Board :=
  let (counter, board) := countReset reason board
  let threshold := detector.threshold
  let active := threshold ≤ counter
  let line : Line :=
    if active then
      .warn (s!"SafeMode: ENTERING SAFE MODE ({counter} consecutive abnormal resets, " ++
        s!"threshold {threshold}, last {reason.name})")
    else .info s!"SafeMode: normal boot (counter {counter}/{threshold}, reset {reason.name})"
  ({ detector with bootCounter := counter, active }, board.say [line])

/-- The line about a firmware image that was marked valid. -/
def markedLine : Option Firmware.Description → Line
  | some description =>
    .info (s!"SafeMode: firmware {description.project} {description.version} " ++
      "marked valid (rollback cancelled)")
  | none => .info "SafeMode: firmware marked valid (rollback cancelled)"

/-- Validate the firmware, once in a boot. An image that is not pending verification, or whose state
cannot be read, needs no validation; one that cannot be marked stays unvalidated for this boot. -/
def validateFirmware (detector : Detector) (board : Board) : Detector × Board :=
  if detector.validated || detector.attempted then (detector, board)
  else
    let detector := { detector with attempted := true }
    match board.imageState with
    | (.ok .pendingVerify, board) =>
      match board.markImage with
      | (.ok (), board) =>
        ({ detector with validated := true }, board.say [markedLine board.firmware.description?])
      | (.error error, board) =>
        (detector, board.say [.error s!"SafeMode: mark valid failed: {error.message}"])
    | (.ok state, board) =>
      ({ detector with validated := true },
        board.say [.info s!"SafeMode: running image state {state.name}, nothing to validate"])
    | (.error error, board) =>
      ({ detector with validated := true },
        board.say [.warn (s!"SafeMode: OTA state unavailable ({error.message}), " ++
          "skipping validation")])

/-- Whether the counter is to be cleared on a stage at an uptime. -/
def clears (detector : Detector) (stage : Stage) (uptime : UInt64) : Bool :=
  stage = .every5s && 0 < detector.bootCounter && detector.stableSeconds.toNat < uptime.toNat

/-- Clear the stored counter; a failed write is tried again on a later stage. -/
def clearCounter (detector : Detector) (uptime : UInt64) (board : Board) : Detector × Board :=
  match board.setBootCounter .detector 0 with
  | (.ok (), board) =>
    let advice := if detector.active then "; restart to leave safe mode" else ""
    ({ detector with bootCounter := 0 },
      board.say [.info s!"SafeMode: stable for {uptime}s, counter cleared{advice}"])
  | (.error error, board) =>
    (detector, board.say [.error s!"SafeMode: failed to clear boot counter: {error.message}"])

/-- The work of a due stage: validation on its own stage, then clearing. -/
def onInterval (detector : Detector) (stage : Stage) (uptime : UInt64) (board : Board) :
    Detector × Board :=
  let (detector, board) :=
    if stage = detector.validationStage then detector.validateFirmware board else (detector, board)
  if detector.clears stage uptime then detector.clearCounter uptime board else (detector, board)

end Detector

end Overseer
