import Overseer.Proofs.Stored

/-!
# Framing of the stored form

The fields of a stored configuration follow one another without separators or lengths. Each of them
shows by itself where it ends, and so does the whole (`Framed`): nothing after it is looked at, and
nothing less than all of it is taken for a configuration (`Framed.refuses`). A reader also accepts
numbers with leading zero digits, so a configuration has several forms; the one that is written is
the shortest. `Config.durable` puts together what flash can rely on.
-/
namespace Overseer

/-! ### Readers that find the end by themselves -/

/-- A reader that finds the end of what it reads by itself: the bytes that it takes are read alike
whatever follows them. -/
structure Framed {α : Type} (read : List UInt8 → Option (α × List UInt8)) : Prop where
  front : ∀ bytes value rest, read bytes = some (value, rest) →
    ∃ taken, bytes = taken ++ rest ∧ ∀ other, read (taken ++ other) = some (value, other)

namespace Framed

variable {α β : Type}

/-- Reading nothing takes no bytes. -/
theorem pure (value : α) : Framed fun bytes => some (value, bytes) where
  front bytes read rest done := by
    obtain ⟨rfl, rfl⟩ := Prod.mk.inj (Option.some.inj done)
    exact ⟨[], rfl, fun _ => rfl⟩

/-- A reader that gives nothing takes nothing. -/
theorem none : Framed fun _ : List UInt8 => (Option.none : Option (α × List UInt8)) where
  front _ _ _ done := by contradiction

/-- Readers in a row take the bytes of both. -/
theorem bind {first : List UInt8 → Option (α × List UInt8)}
    {next : α × List UInt8 → Option (β × List UInt8)} (head : Framed first)
    (tail : ∀ value, Framed fun rest => next (value, rest)) :
    Framed fun bytes => (first bytes).bind next where
  front bytes value rest done := by
    obtain ⟨⟨middle, between⟩, earlier, later⟩ := Option.bind_eq_some_iff.mp done
    obtain ⟨taken, rfl, alike⟩ := head.front bytes middle between earlier
    obtain ⟨more, rfl, further⟩ := (tail middle).front between value rest later
    refine ⟨taken ++ more, (List.append_assoc ..).symm, fun other => ?_⟩
    rw [List.append_assoc, alike (more ++ other), Option.bind_some]
    exact further other

/-- What is read whatever follows it is not read while a part of it is missing. -/
theorem refuses {read : List UInt8 → Option (α × List UInt8)} (framed : Framed read)
    {front missing : List UInt8} {value : α}
    (whole : ∀ rest, read (front ++ missing ++ rest) = some (value, rest))
    (partly : missing ≠ []) : read front = Option.none := by
  cases done : read front with
  | none => rfl
  | some found =>
    -- What was taken of the front is also read from the whole, and then the missing part is left.
    obtain ⟨early, left⟩ := found
    obtain ⟨taken, rfl, alike⟩ := framed.front front early left done
    have again := whole []
    rw [List.append_nil, List.append_assoc, alike (left ++ missing)] at again
    have nothing := (Prod.mk.inj (Option.some.inj again)).2
    exact absurd (List.append_eq_nil_iff.mp nothing).2 partly

end Framed

namespace Varint

/-- A number in base 128 ends with its last digit. -/
theorem framed_decode? (top digits : Nat) : Framed (decode? top digits) := by
  induction digits with
  | zero => exact Framed.none
  | succ digits ih =>
    constructor
    intro bytes value rest done
    cases bytes with
    | nil => contradiction
    | cons byte tail =>
      simp only [decode?] at done
      by_cases last : byte.toNat < 128
      · simp only [last, ↓reduceIte, Option.ite_none_left_eq_some] at done
        obtain ⟨small, same⟩ := done
        obtain ⟨rfl, rfl⟩ := Prod.mk.inj (Option.some.inj same)
        refine ⟨[byte], rfl, fun other => ?_⟩
        simp [decode?, last, small]
      · simp only [last, ↓reduceIte] at done
        obtain ⟨⟨high, unread⟩, deeper, same⟩ := Option.map_eq_some_iff.mp done
        obtain ⟨rfl, rfl⟩ := Prod.mk.inj same
        obtain ⟨taken, rfl, alike⟩ := ih.front tail high unread deeper
        refine ⟨byte :: taken, rfl, fun other => ?_⟩
        simp [decode?, last, alike other]

/-- A number that was read is within the bounds. -/
theorem lt_of_decode? {top digits value : Nat} {bytes rest : List UInt8}
    (done : decode? top (digits + 1) bytes = some (value, rest)) :
    value < (top + 1) * Nat.pow 128 digits := by
  induction digits generalizing bytes value rest with
  | zero =>
    cases bytes with
    | nil => contradiction
    | cons byte tail =>
      simp only [decode?] at done
      by_cases last : byte.toNat < 128
      · simp only [last, ↓reduceIte, true_and, Option.ite_none_left_eq_some] at done
        obtain ⟨rfl, -⟩ := Prod.mk.inj (Option.some.inj done.2)
        change byte.toNat < (top + 1) * 1
        omega
      · simp [last] at done
  | succ digits ih =>
    cases bytes with
    | nil => contradiction
    | cons byte tail =>
      rw [decode?] at done
      have room : 0 < Nat.pow 128 digits := Nat.pow_pos (by decide)
      have enough : Nat.pow 128 digits ≤ (top + 1) * Nat.pow 128 digits :=
        Nat.le_mul_of_pos_left _ (Nat.succ_pos top)
      have wider : (top + 1) * Nat.pow 128 (digits + 1) =
          128 * ((top + 1) * Nat.pow 128 digits) := by
        rw [Nat.mul_left_comm, Nat.mul_comm 128]
        rfl
      by_cases last : byte.toNat < 128
      · rw [if_pos last] at done
        simp only [Nat.succ_ne_zero, false_and, ↓reduceIte] at done
        obtain ⟨rfl, -⟩ := Prod.mk.inj (Option.some.inj done)
        omega
      · rw [if_neg last] at done
        obtain ⟨⟨high, unread⟩, deeper, same⟩ := Option.map_eq_some_iff.mp done
        obtain ⟨rfl, -⟩ := Prod.mk.inj same
        have below := ih deeper
        have byteSmall := byte.toNat_lt
        omega

/-- A number takes no more digits than its size asks for. -/
theorem length_encode_le {digits value : Nat} (fits : value < Nat.pow 128 (digits + 1)) :
    (encode value).length ≤ digits + 1 := by
  induction digits generalizing value with
  | zero =>
    have last : value < 128 := fits
    rw [encode, if_pos last]
    exact Nat.le_refl 1
  | succ digits ih =>
    rw [encode]
    by_cases last : value < 128
    · rw [if_pos last, List.length_singleton]
      omega
    · have high : value / 128 < Nat.pow 128 (digits + 1) := by
        apply Nat.div_lt_of_lt_mul
        rw [Nat.mul_comm]
        exact fits
      have shorter := ih high
      rw [if_neg last, List.length_cons]
      omega

/-- No form of a number that is read is shorter than the one that is written. -/
theorem length_encode_add_le {top digits value : Nat} {bytes rest : List UInt8}
    (done : decode? top digits bytes = some (value, rest)) :
    (encode value).length + rest.length ≤ bytes.length := by
  induction digits generalizing bytes value rest with
  | zero => contradiction
  | succ digits ih =>
    cases bytes with
    | nil => contradiction
    | cons byte tail =>
      rw [decode?] at done
      by_cases last : byte.toNat < 128
      · rw [if_pos last, Option.ite_none_left_eq_some] at done
        obtain ⟨rfl, rfl⟩ := Prod.mk.inj (Option.some.inj done.2)
        rw [encode, if_pos last]
        exact Nat.le_of_eq (Nat.add_comm 1 tail.length)
      · rw [if_neg last] at done
        obtain ⟨⟨high, unread⟩, deeper, same⟩ := Option.map_eq_some_iff.mp done
        obtain ⟨rfl, rfl⟩ := Prod.mk.inj same
        have shorter := ih deeper
        have byteSmall := byte.toNat_lt
        -- Leading zero digits are those after which the number is written with one digit less.
        rw [encode]
        split
        · show 1 + unread.length ≤ tail.length + 1
          omega
        · have rest : (byte.toNat - 128 + 128 * high) / 128 = high := by omega
          simp only [rest, List.length_cons]
          omega

/-- A word of thirty-two bits that was read is the number that was read. -/
theorem toNat_of_word32? {value : Nat} {bytes rest : List UInt8}
    (done : word32? bytes = some (value, rest)) : (UInt32.ofNat value).toNat = value :=
  UInt32.toNat_ofNat_of_lt (lt_of_decode? done)

/-- A word of sixteen bits that was read is the number that was read. -/
theorem toNat_of_word16? {value : Nat} {bytes rest : List UInt8}
    (done : word16? bytes = some (value, rest)) : (UInt16.ofNat value).toNat = value :=
  UInt16.toNat_ofNat_of_lt (lt_of_decode? done)

end Varint

/-- Only its own position is read as a stage. -/
theorem Stage.position_of_ofPosition? {position : Nat} {stage : Stage}
    (found : ofPosition? position = some stage) : position = stage.position := by
  have inside := (List.getElem?_eq_some_iff.mp found).1
  have distinct : all.Nodup := by decide
  exact (List.getElem?_inj inside distinct).mp (found.trans (ofPosition?_position stage).symm)

namespace Config

/-! ### The fields in a row -/

/-- A byte that was read is the first one. -/
theorem cons_of_byte? {bytes rest : List UInt8} {byte : UInt8}
    (done : byte? bytes = some (byte, rest)) : bytes = byte :: rest := by
  cases bytes with
  | nil => contradiction
  | cons first tail =>
    obtain ⟨rfl, rfl⟩ := Prod.mk.inj (Option.some.inj done)
    rfl

/-- A byte ends with itself. -/
theorem framed_byte? : Framed byte? where
  front _ value _ done := ⟨[value], cons_of_byte? done, fun _ => rfl⟩

/-- A stage ends with its number. -/
theorem framed_stage? : Framed stage? := by
  unfold stage?
  refine Framed.bind (Varint.framed_decode? 15 5) fun position => ?_
  show Framed fun rest => (Stage.ofPosition? position).bind fun stage => some (stage, rest)
  cases Stage.ofPosition? position with
  | none => exact Framed.none
  | some stage => exact Framed.pure stage

/-- A configuration ends with its last field. -/
theorem framed_decode? : Framed decode? := by
  have word32 : Framed Varint.word32? := Varint.framed_decode? 15 5
  have word16 : Framed Varint.word16? := Varint.framed_decode? 3 3
  unfold decode?
  refine Framed.bind word32 fun _ => ?_
  refine Framed.bind word32 fun _ => ?_
  refine Framed.bind word32 fun _ => ?_
  refine Framed.bind framed_stage? fun _ => ?_
  refine Framed.bind framed_byte? fun _ => ?_
  refine Framed.bind word16 fun _ => ?_
  exact Framed.bind framed_byte? fun _ => Framed.pure _

/-- A stage that was read has the position that was read. -/
theorem word32?_of_stage? {bytes rest : List UInt8} {stage : Stage}
    (done : stage? bytes = some (stage, rest)) :
    Varint.word32? bytes = some ((stage.position : Nat), rest) := by
  obtain ⟨⟨position, between⟩, read, found⟩ := Option.bind_eq_some_iff.mp done
  obtain ⟨other, named, same⟩ := Option.bind_eq_some_iff.mp found
  obtain ⟨rfl, rfl⟩ := Prod.mk.inj (Option.some.inj same)
  rw [read, Stage.position_of_ofPosition? named]

/-- A configuration that was read has the fields that were read one after another. -/
theorem fields_of_decode? {bytes rest : List UInt8} {config : Config}
    (done : decode? bytes = some (config, rest)) :
    ∃ second third fourth fifth sixth,
      Varint.word32? bytes = some (config.safeModeThreshold.toNat, second) ∧
      Varint.word32? second = some (config.stableSeconds.toNat, third) ∧
      Varint.word32? third = some (config.commandWait.toNat, fourth) ∧
      Varint.word32? fourth =
        some ((config.validationStage.position : Nat), config.taskPriority :: fifth) ∧
      Varint.word16? fifth = some (config.taskStack.toNat, sixth) ∧
      sixth = config.taskCore :: rest := by
  simp only [decode?, Option.bind_eq_bind, Option.bind_eq_some_iff, Prod.exists,
    Option.some.injEq, Prod.mk.injEq] at done
  obtain ⟨threshold, second, readThreshold, stable, third, readStable, wait, fourth, readWait,
    stage, between, readStage, priority, fifth, readPriority, stack, sixth, readStack,
    core, last, readCore, rfl, rfl⟩ := done
  refine ⟨second, third, fourth, fifth, sixth, ?_, ?_, ?_, ?_, ?_, cons_of_byte? readCore⟩
  · rw [Varint.toNat_of_word32? readThreshold, readThreshold]
  · rw [Varint.toNat_of_word32? readStable, readStable]
  · rw [Varint.toNat_of_word32? readWait, readWait]
  · rw [← cons_of_byte? readPriority]
    exact word32?_of_stage? readStage
  · rw [Varint.toNat_of_word16? readStack, readStack]

/-- No form of a configuration that is read is shorter than the one that is written. -/
theorem length_encode_add_le {bytes rest : List UInt8} {config : Config}
    (done : decode? bytes = some (config, rest)) :
    config.encode.length + rest.length ≤ bytes.length := by
  obtain ⟨second, third, fourth, fifth, sixth, threshold, stable, wait, stage, stack, rfl⟩ :=
    fields_of_decode? done
  have first := Varint.length_encode_add_le threshold
  have next := Varint.length_encode_add_le stable
  have further := Varint.length_encode_add_le wait
  have staged := Varint.length_encode_add_le stage
  have last := Varint.length_encode_add_le stack
  simp only [encode, List.length_append, List.length_cons, List.length_nil] at staged last ⊢
  omega

/-- The number of bytes that the written form of a configuration never exceeds. -/
def writtenLimit : Nat := 21

/-- A written configuration keeps to the limit: five bytes for each of the three widest fields,
three for the stack, and one for each of the others. -/
theorem length_encode_le (config : Config) : config.encode.length ≤ writtenLimit := by
  have word32 (word : UInt32) : (Varint.encode word.toNat).length ≤ 5 :=
    Varint.length_encode_le (Nat.lt_trans word.toNat_lt (by decide))
  have stage : (Varint.encode config.validationStage.position).length ≤ 1 :=
    Varint.length_encode_le (Nat.lt_trans config.validationStage.position.isLt (by decide))
  have stack : (Varint.encode config.taskStack.toNat).length ≤ 3 :=
    Varint.length_encode_le (Nat.lt_trans config.taskStack.toNat_lt (by decide))
  have threshold := word32 config.safeModeThreshold
  have stable := word32 config.stableSeconds
  have wait := word32 config.commandWait
  simp only [encode, writtenLimit, List.length_append, List.length_singleton]
  omega

/-! ### What flash can rely on -/

/-- A configuration survives being stored. -/
structure Durable (config : Config) : Prop where
  /-- It is read back, whatever follows it. -/
  back : ∀ tail, decode? (config.encode ++ tail) = some (config, tail)
  /-- While a part of it is missing, nothing is read. -/
  cut : ∀ front missing, config.encode = front ++ missing → missing ≠ [] → decode? front = none
  /-- It fits the buffer that it is loaded through. -/
  short : config.encode.length ≤ writtenLimit ∧ writtenLimit ≤ Flash.configBlobLimit
  /-- It is loaded after it was written. -/
  loaded : ∀ flash : Flash, (flash.write Flash.supervisorSpace Flash.configKey
    config.encode).load.value = .ok config
  /-- Bytes that are read as it begin with a form of it, which is no shorter than the one that is
  written, and writing and reading it again changes nothing. -/
  form : ∀ bytes rest, decode? bytes = some (config, rest) →
    ∃ taken, bytes = taken ++ rest ∧ decode? taken = some (config, []) ∧
      config.encode.length ≤ taken.length ∧ decode? config.encode = some (config, [])
  /-- If it was loaded and is valid, saving it leaves its shortest form, and what is loaded then is
  what was loaded before. -/
  canonical : ∀ flash : Flash, flash.load.value = .ok config → config.Valid →
    (flash.save config).value.1 = .ok () ∧
    (flash.save config).value.2.blob? Flash.configName = some config.encode ∧
    (flash.save config).value.2.load.value = flash.load.value

/-- A written configuration is loaded. -/
theorem load_write_encode (flash : Flash) (config : Config) :
    (flash.write Flash.supervisorSpace Flash.configKey config.encode).load.value = .ok config := by
  rw [Flash.load_value, Flash.stored?_write_encode, Option.elim_some]

/-- Every configuration survives being stored, valid or not: it is read back from what is written,
from no less than that, and from no shorter form. -/
theorem durable (config : Config) : config.Durable where
  back tail := config.decode?_encode tail
  cut front missing split partly := by
    have whole (rest : List UInt8) : decode? (front ++ missing ++ rest) = some (config, rest) := by
      rw [← split]
      exact config.decode?_encode rest
    exact framed_decode?.refuses whole partly
  short := ⟨config.length_encode_le, by decide⟩
  loaded flash := load_write_encode flash config
  form bytes rest done := by
    obtain ⟨taken, rfl, alike⟩ := framed_decode?.front bytes config rest done
    have alone := alike []
    rw [List.append_nil] at alone
    have length := length_encode_add_le alone
    have again := config.decode?_encode []
    rw [List.append_nil] at again
    exact ⟨taken, rfl, alone, length, again⟩
  canonical flash before valid := by
    have saved : (flash.save config).value =
        (.ok (), flash.write Flash.supervisorSpace Flash.configKey config.encode) := by
      rw [Flash.save, (config.validate_eq_ok_iff).mpr valid]
      rfl
    have blob := flash.blob?_write Flash.supervisorSpace Flash.configKey Flash.configName
      config.encode
    rw [saved, before]
    exact ⟨rfl, blob.trans (if_pos rfl), load_write_encode flash config⟩

/-- The defaults are read from eight bytes, too, of which the second is a leading zero digit. -/
example : decode? [0x85, 0, 60, 100, 3, 5, 8, 1] = some ({}, []) ∧
    encode {} = [5, 60, 100, 3, 5, 8, 1] := by
  decide +kernel

end Config

end Overseer
