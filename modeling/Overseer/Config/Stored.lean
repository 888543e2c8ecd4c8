import Overseer.Bytes.Varint
import Overseer.Config.Basic

/-!
# Stored form of a configuration

A configuration is stored as its fields in declaration order. A field of one byte is that byte; a
wider field, and the position of the stage in its listing, is a number in base 128, read within the
width of the field. The reader leaves the bytes after the last field unread.
-/
namespace Overseer

namespace Config

/-- The stored form. -/
def encode (config : Config) : List UInt8 :=
  Varint.encode config.safeModeThreshold.toNat ++ Varint.encode config.stableSeconds.toNat ++
    Varint.encode config.commandWait.toNat ++ Varint.encode config.validationStage.position ++
    [config.taskPriority] ++ Varint.encode config.taskStack.toNat ++ [config.taskCore]

/-- Read one byte. -/
def byte? : List UInt8 → Option (UInt8 × List UInt8)
  | [] => none
  | byte :: rest => some (byte, rest)

/-- Read the position of a stage; a number without a stage is refused. -/
def stage? (bytes : List UInt8) : Option (Stage × List UInt8) := do
  let (position, rest) ← Varint.word32? bytes
  let stage ← Stage.ofPosition? position
  some (stage, rest)

/-- Read a configuration from the front of a byte sequence; the bytes after it come second. -/
def decode? (bytes : List UInt8) : Option (Config × List UInt8) := do
  let (safeModeThreshold, rest) ← Varint.word32? bytes
  let (stableSeconds, rest) ← Varint.word32? rest
  let (commandWait, rest) ← Varint.word32? rest
  let (validationStage, rest) ← stage? rest
  let (taskPriority, rest) ← byte? rest
  let (taskStack, rest) ← Varint.word16? rest
  let (taskCore, rest) ← byte? rest
  some ({ safeModeThreshold := .ofNat safeModeThreshold, stableSeconds := .ofNat stableSeconds,
          commandWait := .ofNat commandWait, validationStage, taskPriority,
          taskStack := .ofNat taskStack, taskCore }, rest)

/-- A stored configuration is read back, whatever its fields hold and whatever follows it. -/
theorem decode?_encode (config : Config) (rest : List UInt8) :
    decode? (config.encode ++ rest) = some (config, rest) := by
  have stage (rest : List UInt8) :
      stage? (Varint.encode config.validationStage.position ++ rest) =
        some (config.validationStage, rest) := by
    have found := Varint.word32?_encode (.ofNat config.validationStage.position) rest
    have small : (UInt32.ofNat config.validationStage.position).toNat =
        config.validationStage.position := by
      cases config.validationStage <;> rfl
    rw [small] at found
    simp [stage?, found]
  simp [decode?, encode, List.append_assoc, Varint.word32?_encode, Varint.word16?_encode, stage,
    byte?]

end Config

end Overseer
