import Overseer.Bytes.LittleEndian
import Overseer.Config.Error
import Overseer.Config.Setting
import Overseer.Config.Stored
import Overseer.Log

/-!
# Flash

Flash keeps blobs of bytes under a namespace and a key; both are joined by `::` into the one name
that a blob is found by. Two blobs belong to the supervisor: its stored configuration and the boot
counter, four bytes with the least first. A configuration is validated before it is written, so
whatever is refused leaves flash as it was.
-/
namespace Overseer

/-- The blobs, each with its joined name; the first blob of a name counts. -/
structure Flash where
  /-- The blobs. -/
  blobs : List (String × List UInt8) := []
deriving DecidableEq, Repr, Inhabited

namespace Flash

/-- The name that a blob of a namespace and key is found by. -/
def joinedName (space key : String) : String := space ++ "::" ++ key

/-- The namespace of the supervisor. -/
def supervisorSpace : String := "cikon"

/-- The key of the stored configuration. -/
def configKey : String := "supcfg"

/-- The key of the boot counter. -/
def counterKey : String := "boot_cnt"

/-- The longest blob that is read as a configuration. -/
def configBlobLimit : Nat := 512

/-- The blob of a joined name. -/
def blob? (flash : Flash) (name : String) : Option (List UInt8) :=
  (flash.blobs.find? fun (other, _) => other == name).map Prod.snd

/-- Fill the front of a buffer with the blob of a key: the number of bytes filled, and the buffer
after it. A blob longer than the buffer is cut. -/
def read (flash : Flash) (space key : String) (buffer : List UInt8) :
    Except StorageError (Nat × List UInt8) :=
  match flash.blob? (joinedName space key) with
  | none => .error .notFound
  | some blob =>
    let filled := blob.take buffer.length
    .ok (filled.length, filled ++ buffer.drop filled.length)

/-- Remove the blob of a key; there need not be one. -/
def delete (flash : Flash) (space key : String) : Flash :=
  ⟨flash.blobs.filter fun (other, _) => other != joinedName space key⟩

/-- Put a blob under a key, replacing an earlier one. -/
def write (flash : Flash) (space key : String) (blob : List UInt8) : Flash :=
  ⟨(joinedName space key, blob) :: (flash.delete space key).blobs⟩

/-- Whether there is a blob under a key. -/
def holds (flash : Flash) (space key : String) : Bool :=
  (flash.blob? (joinedName space key)).isSome

/-- A deleted blob is not found, and every other name finds what it found. -/
theorem blob?_delete (flash : Flash) (space key name : String) :
    (flash.delete space key).blob? name =
      if joinedName space key = name then none else flash.blob? name := by
  by_cases same : joinedName space key = name
  · subst same
    simp [blob?, delete]
  · simp only [blob?, delete, List.find?_filter, same, ↓reduceIte]
    congr 2
    funext entry
    by_cases named : entry.1 = name
    · simp [named, Ne.symm same]
    · simp [named]

/-- A blob that was written is found by its name, and every other name finds what it found. -/
theorem blob?_write (flash : Flash) (space key name : String) (blob : List UInt8) :
    (flash.write space key blob).blob? name =
      if joinedName space key = name then some blob else flash.blob? name := by
  by_cases same : joinedName space key = name
  · simp [write, blob?, same]
  · have kept := blob?_delete flash space key name
    simp only [same, ↓reduceIte] at kept ⊢
    rw [← kept]
    simp [write, blob?, same]

/-- The stored boot counter. It is read through a buffer of four bytes, so a longer blob counts as
its first four; a shorter one, like a missing one, counts as zero. -/
def bootCounter (flash : Flash) : Logged UInt32 :=
  match flash.read supervisorSpace counterKey (List.replicate 4 0) with
  | .ok (filled, buffer) => do
    if filled = 4 then return .ofNat (LittleEndian.decode buffer)
    Logged.say (.warn s!"NvsAdapter: boot counter has {filled} bytes, treating as 0")
    return 0
  | .error .notFound => return 0
  | .error error => do
    Logged.say (.warn s!"NvsAdapter: boot counter read failed: {error.message}")
    return 0

/-- Store the boot counter. -/
def setBootCounter (flash : Flash) (value : UInt32) : Flash :=
  flash.write supervisorSpace counterKey (LittleEndian.encode 4 value.toNat)

/-- The stored configuration, or the defaults if none is stored. -/
def load (flash : Flash) : Logged (Except ConfigError Config) :=
  match flash.read supervisorSpace configKey (List.replicate configBlobLimit 0) with
  | .ok (filled, buffer) =>
    match Config.decode? (buffer.take filled) with
    | none => return .error .corrupted
    | some (config, _) => do
      Logged.say (.info s!"NvsAdapter: loaded config ({filled} bytes)")
      return .ok config
  | .error .notFound => do
    Logged.say (.info "NvsAdapter: no stored config, using defaults")
    return .ok {}
  | .error error => return .error (.storage error)

/-- A configuration that was loaded if it keeps every rule, the defaults otherwise. -/
def orDefault (loaded : Except ConfigError Config) : Logged Config := do
  let checked : Except ConfigError Config := do
    let config ← loaded
    match config.validate with
    | .ok () => .ok config
    | .error violation => .error (.invalid violation)
  match checked with
  | .ok config => return config
  | .error error => do
    Logged.say (.warn s!"Config: stored config rejected ({error.message}), using defaults")
    return {}

/-- The stored configuration if it can be read and keeps every rule, the defaults otherwise. -/
def loadOrDefault (flash : Flash) : Logged Config := do
  let loaded ← flash.load
  orDefault loaded

/-- Store a configuration that keeps every rule. -/
def save (flash : Flash) (config : Config) : Logged (Except ConfigError Unit × Flash) :=
  match config.validate with
  | .error violation => return (.error (.invalid violation), flash)
  | .ok () => do
    let bytes := config.encode
    Logged.say (.info s!"NvsAdapter: config saved ({bytes.length} bytes)")
    return (.ok (), flash.write supervisorSpace configKey bytes)

/-- Overlay the stored configuration with the members of an object, and store the result. -/
def override (flash : Flash) : Json → Logged (Except ConfigError Unit × Flash)
  | .object members => do
    match ← flash.load with
    | .error error => return (.error error, flash)
    | .ok config =>
      match config.overlay members with
      | .ok updated => flash.save updated
      | .error .unfit => return (.error .invalidOverride, flash)
      | .error (.unknownKey key) => do
        Logged.say (.warn s!"NvsAdapter: unknown config key '{key}'")
        return (.error .invalidOverride, flash)
  | _ => return (.error .invalidOverride, flash)

/-- Erase the stored configuration. -/
def reset (flash : Flash) : Logged Flash := do
  Logged.say (.info "NvsAdapter: config erased")
  return flash.delete supervisorSpace configKey

end Flash

/-- Flash that may refuse some operations; an operation that is refused changes nothing. -/
structure Store where
  /-- What is stored. -/
  flash : Flash := {}
  /-- How writing the boot counter fails, if it does. -/
  counterFault : Option StorageError := none
  /-- How erasing the configuration fails, if it does. -/
  resetFault : Option StorageError := none
  /-- How overriding the configuration fails, if it does. -/
  overrideFault : Option StorageError := none
  /-- How saving a configuration fails, if it does. -/
  saveFault : Option StorageError := none
deriving DecidableEq, Repr, Inhabited

namespace Store

/-- Store the boot counter. -/
def setBootCounter (store : Store) (value : UInt32) : Except StorageError Unit × Store :=
  match store.counterFault with
  | some error => (.error error, store)
  | none => (.ok (), { store with flash := store.flash.setBootCounter value })

/-- Store a configuration that keeps every rule. -/
def save (store : Store) (config : Config) : Logged (Except ConfigError Unit × Store) :=
  match store.saveFault with
  | some error => return (.error (.storage error), store)
  | none => do
    let (result, flash) ← store.flash.save config
    return (result, { store with flash })

/-- Overlay the stored configuration with the members of an object. -/
def override (store : Store) (overrides : Json) : Logged (Except ConfigError Unit × Store) :=
  match store.overrideFault with
  | some error => return (.error (.storage error), store)
  | none => do
    let (result, flash) ← store.flash.override overrides
    return (result, { store with flash })

/-- Erase the stored configuration. -/
def reset (store : Store) : Logged (Except StorageError Unit × Store) :=
  match store.resetFault with
  | some error => return (.error error, store)
  | none => do
    let flash ← store.flash.reset
    return (.ok (), { store with flash })

end Store

end Overseer
