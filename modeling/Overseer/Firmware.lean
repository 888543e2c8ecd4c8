import Overseer.Log

/-!
# Firmware image

The image that is running may still have to prove itself: until it is marked valid, the next reset
rolls back to the image before it. Only an image that is pending verification can be marked.
-/
namespace Overseer

/-- What the boot loader knows of the running image. -/
inductive ImageState where
  | new
  /-- First boot after an update: rolled back on the next reset unless marked valid. -/
  | pendingVerify
  | valid
  | invalid
  | aborted
  /-- An image that was not installed by an update; nothing to verify. -/
  | undefined
deriving DecidableEq, Repr, Inhabited

namespace ImageState

/-- Every state. -/
def all : List ImageState := [.new, .pendingVerify, .valid, .invalid, .aborted, .undefined]

/-- The name shown in logs. -/
def name : ImageState → String
  | .new => "New"
  | .pendingVerify => "PendingVerify"
  | .valid => "Valid"
  | .invalid => "Invalid"
  | .aborted => "Aborted"
  | .undefined => "Undefined"

end ImageState

/-- Why the image could not be asked about or marked. -/
inductive FirmwareError where
  /-- The running partition could not be found. -/
  | noRunningPartition
  /-- The state of the image could not be read. -/
  | stateUnavailable
  /-- The image was not marked; its rollback stays pending. -/
  | markValidFailed
deriving DecidableEq, Repr

/-- The error, in words. -/
def FirmwareError.message : FirmwareError → String
  | .noRunningPartition => "no running partition"
  | .stateUnavailable => "OTA state unavailable"
  | .markValidFailed => "mark valid failed"

/-- The running image, and how the questions about it fail. -/
structure Firmware where
  /-- The true state of the image. -/
  image : ImageState := .undefined
  /-- How asking for the state fails, if it does. -/
  stateFault : Option FirmwareError := none
  /-- How marking the image fails, if it does. -/
  markFault : Option FirmwareError := none
  /-- Whether the image describes itself. -/
  described : Bool := true
deriving DecidableEq, Repr, Inhabited

namespace Firmware

/-- The project and version that an image gives of itself. -/
structure Description where
  /-- The name of the project. -/
  project : String
  /-- The version of the image. -/
  version : String
deriving DecidableEq, Repr

/-- Ask for the state of the image. -/
def state (firmware : Firmware) : Except FirmwareError ImageState :=
  match firmware.stateFault with
  | some error => .error error
  | none => .ok firmware.image

/-- Mark the image valid and cancel its rollback. -/
def markValid (firmware : Firmware) : Logged (Except FirmwareError Unit × Firmware) :=
  match firmware.markFault with
  | some error => return (.error error, firmware)
  | none => do
    if firmware.image = .pendingVerify then
      Logged.say (.info "OTA (simulation): firmware marked valid")
      return (.ok (), { firmware with image := .valid })
    Logged.say (.warn "OTA (simulation): image not pending verification")
    return (.error .markValidFailed, firmware)

/-- The description of the image, if it has one. -/
def description? (firmware : Firmware) : Option Description :=
  if firmware.described then some ⟨"cikon", "0.3.0"⟩ else none

end Firmware

end Overseer
