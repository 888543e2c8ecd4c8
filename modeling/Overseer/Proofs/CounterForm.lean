import Overseer.Proofs.Detector
import Overseer.Proofs.Stored

/-!
# The form of the boot counter

Four bytes are a counter, the least first, and no other blob is one. The counter is read through a
buffer of just that length, so what does not fill the buffer is told apart, and counts as zero; but
a longer blob is cut to its front, and cannot be told from a counter any more. `Flash.reads_counter`
says when this matters: exactly for a longer blob of which the front is not all zeros, and in a boot
of which the mode depends on it.
-/
namespace Overseer

/-- The number of bytes is zero exactly if each of them is. -/
theorem LittleEndian.decode_eq_zero_iff (bytes : List UInt8) :
    decode bytes = 0 ↔ ∀ byte ∈ bytes, byte = 0 := by
  induction bytes with
  | nil => simp [decode]
  | cons byte rest ih =>
    have step : decode (byte :: rest) = byte.toNat + 256 * decode rest := rfl
    have zero : byte.toNat = 0 ↔ byte = 0 := UInt8.toNat_inj (b := 0)
    rw [step, List.forall_mem_cons, ← ih, ← zero]
    omega

namespace Flash

/-- The length of a counter. -/
def counterLength : Nat := 4

/-- The counter that a blob is by its form: its number if it has the length of one, and zero
otherwise. -/
def counterOf (blob : List UInt8) : UInt32 :=
  if blob.length = counterLength then .ofNat (LittleEndian.decode blob) else 0

/-- A blob of a counter's length with more bytes behind it, which is not all zeros. -/
def Overlong (blob : List UInt8) : Prop :=
  counterLength < blob.length ∧ ∃ byte ∈ blob.take counterLength, byte ≠ 0

/-- A blob of another length than a counter's counts as zero. -/
theorem counterOf_of_length_ne {blob : List UInt8} (other : blob.length ≠ counterLength) :
    counterOf blob = 0 := if_neg other

/-- The counter of a blob of the right length is zero exactly if its bytes are. -/
theorem counterOf_eq_zero_iff {blob : List UInt8} (formed : blob.length = counterLength) :
    counterOf blob = 0 ↔ ∀ byte ∈ blob, byte = 0 := by
  have bound : LittleEndian.decode blob < 2 ^ 32 := by
    have fits := LittleEndian.decode_lt blob
    rw [formed] at fits
    exact fits
  rw [counterOf, if_pos formed, ← LittleEndian.decode_eq_zero_iff, ← UInt32.toNat_inj,
    UInt32.toNat_ofNat', Nat.mod_eq_of_lt bound, UInt32.toNat_zero]

/-- The counter is that of the front of its blob. -/
theorem bootCounter_of_blob {flash : Flash} {blob : List UInt8}
    (held : flash.blob? counterName = some blob) :
    flash.bootCounter.value = counterOf (blob.take counterLength) := by
  unfold counterName at held
  unfold bootCounter read counterOf counterLength
  rw [held]
  simp only [List.length_replicate]
  by_cases formed : (blob.take 4).length = 4
  · rw [if_pos formed, if_pos formed, formed]
    simp
  · rw [if_neg formed, if_neg formed]
    rfl

/-- The front of a blob is the same counter as the blob, unless the blob is overlong. -/
theorem counterOf_take_iff (blob : List UInt8) :
    counterOf (blob.take counterLength) = counterOf blob ↔ ¬Overlong blob := by
  by_cases longer : counterLength < blob.length
  · have formed : (blob.take counterLength).length = counterLength := by
      rw [List.length_take, Nat.min_eq_left (Nat.le_of_lt longer)]
    rw [counterOf_of_length_ne (Nat.ne_of_gt longer), counterOf_eq_zero_iff formed]
    simp [Overlong, longer]
  · rw [List.take_of_length_le (Nat.le_of_not_lt longer)]
    simp [Overlong, longer]

end Flash

/-! ### The mode of a boot -/

/-- The device without its stored counter. -/
def Board.uncounted (board : Board) : Board :=
  let flash := board.store.flash.delete Flash.supervisorSpace Flash.counterKey
  { board with store := { board.store with flash } }

/-- Whether the stored counter is what puts a boot into safe mode. -/
def Detector.Pushed (detector : Detector) (reason : ResetReason) (board : Board) : Prop :=
  (detector.evaluateBoot reason board).1.active = true ∧
    (detector.evaluateBoot reason board.uncounted).1.active = false

/-- A device without its stored counter counts from zero. -/
theorem Board.bootCounter_uncounted (board : Board) :
    board.uncounted.store.flash.bootCounter.value = 0 := by
  have gone : board.uncounted.store.flash.blob? Flash.counterName = none :=
    (board.store.flash.blob?_delete _ _ _).trans (if_pos rfl)
  unfold Flash.counterName at gone
  unfold Flash.bootCounter Flash.read
  rw [gone]
  rfl

/-- The counter puts a boot into safe mode if the threshold is between the count from zero and the
count from the counter. -/
theorem Detector.pushed_iff (detector : Detector) (reason : ResetReason) (board : Board) :
    detector.Pushed reason board ↔ countAfter reason 0 < detector.threshold ∧
      detector.threshold ≤ countAfter reason board.store.flash.bootCounter.value := by
  rw [Pushed, (detector.evaluateBoot_counted reason board).1,
    (detector.evaluateBoot_counted reason board.uncounted).1, board.bootCounter_uncounted]
  simp only [decide_eq_true_eq, decide_eq_false_iff_not, UInt32.not_le]
  exact and_comm

namespace Flash

/-- How the counter of flash is read. -/
structure ReadsCounter (flash : Flash) : Prop where
  /-- What was stored last is read, whatever was there before. -/
  stored : ∀ value, (flash.setBootCounter value).bootCounter.value = value
  /-- A blob is read as its form says, unless it is overlong. -/
  formed_iff : ∀ blob, flash.blob? counterName = some blob →
    (flash.bootCounter.value = counterOf blob ↔ ¬Overlong blob)
  /-- Of an overlong blob it is the front that is read. -/
  front : ∀ blob, flash.blob? counterName = some blob →
    flash.bootCounter.value = counterOf (blob.take counterLength)
  /-- A blob that is no counter puts the next boot into safe mode exactly if it is longer than one
  and the count from its front reaches a threshold that the count from zero does not. -/
  pushed_iff : ∀ blob, flash.blob? counterName = some blob → blob.length ≠ counterLength →
    ∀ (detector : Detector) (reason : ResetReason) (board : Board), board.store.flash = flash →
      (detector.Pushed reason board ↔ counterLength < blob.length ∧
        Detector.countAfter reason 0 < detector.threshold ∧
        detector.threshold ≤ Detector.countAfter reason (counterOf (blob.take counterLength)))

/-- A stored counter is read back, and any other blob is read by its form, but for one that is
longer than a counter. -/
theorem reads_counter (flash : Flash) : flash.ReadsCounter where
  stored := flash.bootCounter_setBootCounter
  formed_iff blob held := by
    rw [bootCounter_of_blob held]
    exact counterOf_take_iff blob
  front blob held := bootCounter_of_blob held
  pushed_iff blob held malformed detector reason board here := by
    subst here
    rw [detector.pushed_iff, bootCounter_of_blob held, iff_and_self]
    rintro ⟨above, reached⟩
    refine Nat.lt_of_not_le fun shorter => ?_
    -- A blob that is shorter is its own front, and counts as zero.
    rw [List.take_of_length_le shorter, counterOf_of_length_ne malformed] at reached
    exact UInt32.not_le.mpr above reached

/-- Flash with a byte behind the counter. -/
def overlongFlash : Flash :=
  ({} : Flash).write supervisorSpace counterKey [5, 0, 0, 0, 0]

/-- Five bytes are read as the counter of the first four, and put a device with the default
configuration that was just switched on into safe mode. -/
theorem reads_overlong :
    overlongFlash.blob? counterName = some [5, 0, 0, 0, 0] ∧ counterOf [5, 0, 0, 0, 0] = 0 ∧
      overlongFlash.bootCounter.value = 5 ∧
      (Detector.ofConfig {}).Pushed .powerOn { store := { flash := overlongFlash } } := by
  refine ⟨rfl, rfl, rfl, ?_, ?_⟩
  · rfl
  · rfl

end Flash

end Overseer
