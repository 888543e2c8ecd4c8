import Overseer.Flash

/-!
# What flash holds

The supervisor stores a configuration and a counter. A configuration is read through a buffer of
fixed size, which cuts a longer blob. The cut does no harm: a configuration takes no more than
twenty-five bytes, and its reader never looks further (`Within`). So what is loaded depends on the
blob alone (`Flash.load_value`), and what was saved is what is loaded
(`Flash.stored?_write_encode`). The counter, like every blob of another name, is untouched by all
that is done with the configuration.
-/
namespace Overseer

/-! ### Readers that need few bytes -/

/-- A reader that needs no more than a count of bytes: those after them change nothing but what is
left unread. -/
structure Within {α : Type} (count : Nat) (read : List UInt8 → Option (α × List UInt8)) : Prop where
  extend : ∀ bytes more, count ≤ bytes.length →
    read (bytes ++ more) = (read bytes).map fun (value, rest) => (value, rest ++ more)
  left : ∀ bytes value rest, read bytes = some (value, rest) → bytes.length ≤ rest.length + count

namespace Within

variable {α β : Type}

/-- Reading nothing needs no bytes. -/
theorem pure (value : α) : Within 0 fun bytes => some (value, bytes) where
  extend _ _ _ := rfl
  left bytes read rest done := by
    rw [Option.some.injEq, Prod.mk.injEq] at done
    rw [done.2]
    exact Nat.le_refl _

/-- A reader that gives nothing needs no bytes. -/
theorem none : Within 0 fun _ : List UInt8 => (Option.none : Option (α × List UInt8)) where
  extend _ _ _ := rfl
  left _ _ _ done := by contradiction

/-- Readers in a row need the bytes of both. -/
theorem bind {first : List UInt8 → Option (α × List UInt8)}
    {next : α × List UInt8 → Option (β × List UInt8)} {count further : Nat}
    (head : Within count first) (tail : ∀ value, Within further fun rest => next (value, rest)) :
    Within (further + count) fun bytes => (first bytes).bind next where
  extend bytes more enough := by
    have extended := head.extend bytes more (by omega)
    cases done : first bytes with
    | none =>
      rw [done] at extended
      simp [extended]
    | some found =>
      obtain ⟨value, rest⟩ := found
      have used := head.left bytes value rest done
      have remaining : further ≤ rest.length := by omega
      rw [done] at extended
      simp only [extended, Option.map_some, Option.bind_some]
      exact (tail value).extend rest more remaining
  left bytes value rest done := by
    obtain ⟨⟨middle, between⟩, earlier, later⟩ := Option.bind_eq_some_iff.mp done
    have used := head.left bytes middle between earlier
    have more := (tail middle).left between value rest later
    omega

end Within

/-- A number in base 128 takes no more bytes than it may have digits. -/
theorem Varint.within_decode? (top digits : Nat) : Within digits (decode? top digits) := by
  induction digits with
  | zero => exact Within.none
  | succ digits ih =>
    constructor
    · intro bytes more enough
      cases bytes with
      | nil => simp at enough
      | cons byte rest =>
        have remaining : digits ≤ rest.length := by simpa using enough
        simp only [List.cons_append, decode?]
        by_cases last : byte.toNat < 128
        · simp only [last, ↓reduceIte]
          split
          · rfl
          · rfl
        · simp only [last, ↓reduceIte, ih.extend rest more remaining, Option.map_map]
          rfl
    · intro bytes value rest done
      cases bytes with
      | nil => contradiction
      | cons byte tail =>
        simp only [decode?] at done
        by_cases last : byte.toNat < 128
        · simp only [last, ↓reduceIte] at done
          split at done
          · contradiction
          · rw [Option.some.injEq, Prod.mk.injEq] at done
            rw [← done.2, List.length_cons]
            omega
        · simp only [last, ↓reduceIte] at done
          obtain ⟨⟨high, unread⟩, deeper, same⟩ := Option.map_eq_some_iff.mp done
          have used := ih.left tail high unread deeper
          obtain ⟨_, rfl⟩ := Prod.mk.inj same
          change tail.length + 1 ≤ unread.length + (digits + 1)
          omega

namespace Config

/-- The number of bytes that no configuration exceeds. -/
def lengthLimit : Nat := 25

/-- A byte takes one byte. -/
theorem within_byte? : Within 1 byte? where
  extend bytes more enough := by
    cases bytes with
    | nil => simp at enough
    | cons byte rest => rfl
  left bytes value rest done := by
    cases bytes with
    | nil => contradiction
    | cons byte tail =>
      obtain ⟨rfl, rfl⟩ := Prod.mk.inj (Option.some.inj done)
      exact Nat.le_refl _

/-- A stage takes five bytes. -/
theorem within_stage? : Within 5 stage? := by
  unfold stage?
  refine Within.bind (Varint.within_decode? 15 5) fun position => ?_
  show Within 0 fun rest => (Stage.ofPosition? position).bind fun stage => some (stage, rest)
  cases Stage.ofPosition? position with
  | none => exact Within.none
  | some stage => exact Within.pure stage

/-- The reader of a configuration keeps within the limit. -/
theorem within_decode? : Within lengthLimit decode? := by
  have word32 : Within 5 Varint.word32? := Varint.within_decode? 15 5
  have word16 : Within 3 Varint.word16? := Varint.within_decode? 3 3
  unfold decode?
  refine Within.bind word32 fun _ => ?_
  refine Within.bind word32 fun _ => ?_
  refine Within.bind word32 fun _ => ?_
  refine Within.bind within_stage? fun _ => ?_
  refine Within.bind within_byte? fun _ => ?_
  refine Within.bind word16 fun _ => ?_
  exact Within.bind within_byte? fun _ => Within.pure _

end Config

/-! ### What flash holds as a configuration -/

namespace Flash

/-- The name that the stored configuration is found by. -/
def configName : String := joinedName supervisorSpace configKey

/-- The configuration that is stored, or the defaults if none is; a blob that cannot be read as one
gives nothing. -/
def stored? (flash : Flash) : Option Config :=
  match flash.blob? configName with
  | none => some {}
  | some blob => (Config.decode? blob).map Prod.fst

/-- The buffer that a configuration is read through is long enough. -/
theorem decode?_take (blob : List UInt8) :
    (Config.decode? (blob.take configBlobLimit)).map Prod.fst =
      (Config.decode? blob).map Prod.fst := by
  by_cases short : blob.length ≤ configBlobLimit
  · rw [List.take_of_length_le short]
  · have enough : Config.lengthLimit ≤ (blob.take configBlobLimit).length := by
      rw [List.length_take]
      unfold Config.lengthLimit configBlobLimit at *
      omega
    have extended := Config.within_decode?.extend (blob.take configBlobLimit)
      (blob.drop configBlobLimit) enough
    rw [List.take_append_drop] at extended
    rw [extended, Option.map_map]
    rfl

/-- What is loaded is what is stored; only a blob that cannot be read is an error. -/
theorem load_value (flash : Flash) :
    flash.load.value = flash.stored?.elim (.error .corrupted) .ok := by
  unfold load read stored? configName
  cases flash.blob? (joinedName supervisorSpace configKey) with
  | none => rfl
  | some blob =>
    have cut := decode?_take blob
    simp only [List.length_replicate, List.take_left]
    rw [← cut]
    cases Config.decode? (blob.take configBlobLimit) with
    | none => rfl
    | some read => rfl

/-- The configuration to start with is the stored one if it can be read and keeps every rule, and
the defaults otherwise. -/
theorem loadOrDefault_value (flash : Flash) :
    flash.loadOrDefault.value =
      (flash.stored?.filter fun config => config.violation? = none).getD {} := by
  have loaded := flash.load_value
  unfold loadOrDefault orDefault
  rw [Logged.bind_value, loaded]
  cases flash.stored? with
  | none => rfl
  | some config =>
    simp only [Option.elim_some, bind, Except.bind]
    cases broken : config.violation? with
    | none =>
      have checked : config.validate = .ok () := by rw [Config.validate, broken]
      rw [checked]
      simp [Option.filter, broken]
    | some violation =>
      have checked : config.validate = .error violation := by rw [Config.validate, broken]
      rw [checked]
      simp [Option.filter, broken]

/-- It keeps every rule, whatever flash holds. -/
theorem valid_loadOrDefault (flash : Flash) : flash.loadOrDefault.value.Valid := by
  rw [loadOrDefault_value]
  cases kept : flash.stored?.filter fun config => config.violation? = none with
  | none => exact Config.valid_default
  | some config =>
    have rules := (Option.filter_eq_some_iff.mp kept).2
    exact config.violation?_eq_none_iff.mp (of_decide_eq_true rules)

/-- A configuration that is written is stored. -/
theorem stored?_write_encode (flash : Flash) (config : Config) :
    (flash.write supervisorSpace configKey config.encode).stored? = some config := by
  have found : (flash.write supervisorSpace configKey config.encode).blob? configName =
      some config.encode := by
    rw [blob?_write]
    exact if_pos rfl
  have decoded := Config.decode?_encode config []
  rw [List.append_nil] at decoded
  simp only [stored?, found, decoded, Option.map_some]

end Flash

/-! ### The stored counter -/

namespace Flash

/-- The name that the boot counter is found by. -/
def counterName : String := joinedName supervisorSpace counterKey

/-- Flash that has the same blob for the counter has the same counter. -/
theorem bootCounter_congr {flash other : Flash}
    (same : flash.blob? counterName = other.blob? counterName) :
    flash.bootCounter = other.bootCounter := by
  unfold counterName at same
  unfold bootCounter read
  rw [same]

/-- The counter that was stored is read back. -/
@[simp] theorem bootCounter_setBootCounter (flash : Flash) (value : UInt32) :
    (flash.setBootCounter value).bootCounter.value = value := by
  have found : (flash.setBootCounter value).blob? counterName =
      some (LittleEndian.encode 4 value.toNat) := by
    rw [setBootCounter, blob?_write]
    exact if_pos rfl
  have fits : value.toNat < 256 ^ 4 := value.toNat_lt
  unfold counterName at found
  unfold bootCounter read
  rw [found]
  simp [LittleEndian.decode_encode fits, List.take_of_length_le]

/-! ### What the configuration shares flash with -/

/-- Storing a configuration touches no other blob. -/
theorem blob?_save (flash : Flash) (config : Config) {name : String} (other : name ≠ configName) :
    (flash.save config).value.2.blob? name = flash.blob? name := by
  unfold save
  split
  · rfl
  · exact (blob?_write flash _ _ _ _).trans (if_neg other.symm)

/-- Overriding the configuration touches no other blob. -/
theorem blob?_override (flash : Flash) (overrides : Json) {name : String}
    (other : name ≠ configName) :
    (flash.override overrides).value.2.blob? name = flash.blob? name := by
  unfold override
  split
  · simp only [Logged.bind_value]
    split
    · rfl
    · split
      · exact flash.blob?_save _ other
      · rfl
      · rfl
  · rfl

/-- Erasing the configuration touches no other blob. -/
theorem blob?_reset (flash : Flash) {name : String} (other : name ≠ configName) :
    flash.reset.value.blob? name = flash.blob? name :=
  (blob?_delete flash _ _ _).trans (if_neg other.symm)

/-- The boot counter has another name. -/
theorem counterName_ne : counterName ≠ configName := by decide

/-- Storing a configuration leaves the counter alone. -/
theorem bootCounter_save (flash : Flash) (config : Config) :
    (flash.save config).value.2.bootCounter = flash.bootCounter :=
  bootCounter_congr (flash.blob?_save config counterName_ne)

/-- Overriding the configuration leaves the counter alone. -/
theorem bootCounter_override (flash : Flash) (overrides : Json) :
    (flash.override overrides).value.2.bootCounter = flash.bootCounter :=
  bootCounter_congr (flash.blob?_override overrides counterName_ne)

/-- Erasing the configuration leaves the counter alone. -/
theorem bootCounter_reset (flash : Flash) :
    flash.reset.value.bootCounter = flash.bootCounter :=
  bootCounter_congr (flash.blob?_reset counterName_ne)

end Flash

end Overseer
