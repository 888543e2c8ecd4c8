import Overseer.Proofs.Detector
import Overseer.Proofs.Outside
import Overseer.Proofs.Stored

/-!
# The counter's two books

A boot counter is kept twice: in flash, and by the detector for the boot that is running. Writes of
it may fail, so the two may differ. `Books` follows both of them, and the writes, through the calls
of a boot: counting at its start, and then any calls of the periodic work, each with failures of its
own. The detector keeps its books that way (`books_boot`, `books_tick`), and from this
`Detector.bookkept` says how far the books may differ and what is written when.
-/
namespace Overseer

/-- A write of the boot counter: the value, and how flash answered. -/
abbrev CounterWrite := UInt32 × Except StorageError Unit

/-- The write of the boot counter that an entry is, if the detector made it. -/
def Entry.counterWrite? : Entry → Option CounterWrite
  | .counterWritten .detector value answer => some (value, answer)
  | _ => none

/-- Validation writes no counter. -/
theorem Entry.IsValidation.counterWrite?_eq_none {entry : Entry} (validation : entry.IsValidation) :
    entry.counterWrite? = none := by
  rcases validation with ⟨_, rfl⟩ | ⟨_, rfl⟩
  · rfl
  · rfl

/-- How flash answers a write of the boot counter. -/
def Faults.answer (faults : Faults) : Except StorageError Unit :=
  match faults.counter with
  | some error => .error error
  | none => .ok ()

/-- A call of the periodic work: the stage, the uptime, and what fails meanwhile. -/
structure Tick where
  /-- The stage that is due. -/
  stage : Stage
  /-- Seconds since the start. -/
  uptime : UInt64
  /-- What fails. -/
  faults : Faults

/-- The counter as the detector knows it, the counter as it is stored, and the writes of it. -/
structure Books where
  /-- The counter of the running boot. -/
  known : UInt32
  /-- The counter in flash. -/
  stored : UInt32
  /-- The detector's writes, oldest first. -/
  writes : List CounterWrite

namespace Books

/-- The counter after one more abnormal reset, up to the greatest value of its word. -/
def successor (counter : UInt32) : UInt32 := .ofNat (min (counter.toNat + 1) (UInt32.size - 1))

/-- The books after a boot was counted, given the stored counter and the writes before it. An
abnormal reset is one more, for this boot at any rate. -/
def start (reason : ResetReason) (faults : Faults) (stored : UInt32)
    (writes : List CounterWrite) : Books :=
  if reason.isAbnormal then
    { known := successor stored
      stored := if faults.counter = none then successor stored else stored
      writes := writes ++ [(successor stored, faults.answer)] }
  else { known := stored, stored, writes }

/-- Whether a call of the periodic work writes the counter. -/
def Due (books : Books) (stable : UInt32) (tick : Tick) : Prop :=
  tick.stage = .every5s ∧ stable.toNat < tick.uptime.toNat ∧ 0 < books.known

instance (books : Books) (stable : UInt32) (tick : Tick) : Decidable (books.Due stable tick) :=
  inferInstanceAs (Decidable (_ ∧ _ ∧ _))

/-- A call of the periodic work: a write of zero if one is due, and zero in both books if it
succeeds. -/
def tick (stable : UInt32) (books : Books) (tick : Tick) : Books :=
  if books.Due stable tick then
    { known := if tick.faults.counter = none then 0 else books.known
      stored := if tick.faults.counter = none then 0 else books.stored
      writes := books.writes ++ [(0, tick.faults.answer)] }
  else books

/-- Counting stops at the greatest value. -/
theorem increment_eq_successor (counter : UInt32) :
    Detector.increment counter = successor counter := by
  have small : min (counter.toNat + 1) (UInt32.size - 1) < UInt32.size := by
    have bound : min (counter.toNat + 1) (UInt32.size - 1) ≤ UInt32.size - 1 := Nat.min_le_right _ _
    have positive : 0 < UInt32.size := by decide
    omega
  apply UInt32.toNat_inj.mp
  have counted := Detector.toNat_increment counter
  exact counted.trans (UInt32.toNat_ofNat_of_lt' small).symm

/-- A successor is not zero. -/
theorem successor_ne_zero (counter : UInt32) : successor counter ≠ 0 := by
  rw [← increment_eq_successor]
  exact Detector.increment_ne_zero counter

/-! ### The calls of a boot -/

/-- How the books stand some calls after the start, given the writes since then: up to a success
nothing changed, and a success was the last write. -/
structure Balance (start now : Books) (clears : List CounterWrite) : Prop where
  writes : now.writes = start.writes ++ clears
  zeros : ∀ write ∈ clears, write.1 = 0
  failed : ∀ write ∈ clears.dropLast, write.2 ≠ .ok ()
  kept : (0, .ok ()) ∉ clears → now.known = start.known ∧ now.stored = start.stored
  done : (0, .ok ()) ∈ clears → now.known = 0 ∧ now.stored = 0
  positive : clears ≠ [] → 0 < start.known

/-- The books stand so at the start. -/
theorem Balance.refl (start : Books) : Balance start start [] where
  writes := (List.append_nil _).symm
  zeros := by simp
  failed := by simp
  kept _ := ⟨rfl, rfl⟩
  done := by simp
  positive := by simp

/-- Something to clear means that it was not cleared yet. -/
theorem Balance.pending {start now : Books} {clears : List CounterWrite}
    (balance : Balance start now clears) (known : 0 < now.known) : (0, .ok ()) ∉ clears := by
  intro success
  rw [(balance.done success).1] at known
  exact absurd known (by decide)

/-- A write succeeds if nothing fails. -/
theorem answer_eq_ok_iff (faults : Faults) : faults.answer = .ok () ↔ faults.counter = none := by
  unfold Faults.answer
  cases faults.counter with
  | none => simp
  | some error => simp

/-- The books stand so after a write that was due. -/
theorem Balance.write {start now : Books} {clears : List CounterWrite}
    (balance : Balance start now clears) (stable : UInt32) {call : Tick}
    (due : now.Due stable call) :
    Balance start (now.tick stable call) (clears ++ [(0, call.faults.answer)]) := by
  have pending := balance.pending due.2.2
  have kept := balance.kept pending
  -- Whether there is a success now is up to the new write.
  have success : (0, .ok ()) ∈ clears ++ [(0, call.faults.answer)] ↔
      call.faults.counter = none := by
    rw [← answer_eq_ok_iff]
    simp [pending, eq_comm]
  rw [Books.tick, if_pos due]
  constructor
  · show now.writes ++ _ = _
    rw [balance.writes, List.append_assoc]
  · intro write member
    rcases List.mem_append.mp member with earlier | last
    · exact balance.zeros write earlier
    · rw [List.mem_singleton.mp last]
  · intro write member same
    rw [List.dropLast_concat] at member
    have whole : write = (0, .ok ()) := Prod.ext (balance.zeros write member) same
    exact pending (whole ▸ member)
  · intro failed
    have fault : call.faults.counter ≠ none := fun fault => failed (success.mpr fault)
    show (if _ then _ else _) = _ ∧ (if _ then _ else _) = _
    rw [if_neg fault, if_neg fault]
    exact kept
  · intro succeeded
    have fault := success.mp succeeded
    show (if _ then _ else _) = _ ∧ (if _ then _ else _) = _
    rw [if_pos fault, if_pos fault]
    exact ⟨rfl, rfl⟩
  · intro _
    rw [← kept.1]
    exact due.2.2

/-- The books stand so after a further call. -/
theorem Balance.tick {start now : Books} {clears : List CounterWrite}
    (balance : Balance start now clears) (stable : UInt32) (call : Tick) :
    ∃ more, Balance start (now.tick stable call) (clears ++ more) := by
  by_cases due : now.Due stable call
  · exact ⟨_, balance.write stable due⟩
  · refine ⟨[], ?_⟩
    rw [Books.tick, if_neg due, List.append_nil]
    exact balance

/-- The books stand so after any further calls. -/
theorem Balance.ticks {start now : Books} {clears : List CounterWrite}
    (balance : Balance start now clears) (stable : UInt32) (calls : List Tick) :
    ∃ more, Balance start (calls.foldl (Books.tick stable) now) (clears ++ more) := by
  induction calls generalizing now clears with
  | nil =>
    refine ⟨[], ?_⟩
    rw [List.append_nil]
    exact balance
  | cons call later ih =>
    obtain ⟨first, next⟩ := balance.tick stable call
    obtain ⟨rest, final⟩ := ih next
    refine ⟨first ++ rest, ?_⟩
    rw [← List.append_assoc]
    exact final

/-- A call adds the write that is due. -/
theorem writes_tick (stable : UInt32) (books : Books) (call : Tick) :
    (books.tick stable call).writes = books.writes ++
      if call.stage = .every5s ∧ stable.toNat < call.uptime.toNat ∧ 0 < books.known then
        [(0, call.faults.answer)]
      else [] := by
  unfold Books.tick
  split
  · rename_i due
    exact (congrArg (books.writes ++ ·) (if_pos due)).symm
  · rename_i idle
    exact ((congrArg (books.writes ++ ·) (if_neg idle)).trans (List.append_nil _)).symm

/-- With nothing to clear no call does anything. -/
theorem foldl_tick_of_zero {books : Books} (zero : books.known = 0) (stable : UInt32)
    (calls : List Tick) : calls.foldl (Books.tick stable) books = books := by
  induction calls with
  | nil => rfl
  | cons call later ih =>
    have idle : ¬books.Due stable call := by
      rintro ⟨-, -, known⟩
      rw [zero] at known
      exact absurd known (by decide)
    rw [List.foldl_cons, Books.tick, if_neg idle]
    exact ih

/-- At the start the books agree, unless an abnormal reset could not be stored. -/
theorem start_agrees (reason : ResetReason) (faults : Faults) (stored : UInt32)
    (writes : List CounterWrite) :
    (start reason faults stored writes).known = (start reason faults stored writes).stored ∨
      (reason.isAbnormal = true ∧ faults.counter ≠ none ∧
        (start reason faults stored writes).known =
          successor (start reason faults stored writes).stored) := by
  unfold start
  by_cases abnormal : reason.isAbnormal = true
  · rw [if_pos abnormal]
    by_cases fault : faults.counter = none
    · rw [if_pos fault]
      exact .inl rfl
    · rw [if_neg fault]
      exact .inr ⟨abnormal, fault, rfl⟩
  · rw [if_neg abnormal]
    exact .inl rfl

/-- The only write at the start is that of an abnormal reset. -/
theorem writes_start (reason : ResetReason) (faults : Faults) (stored : UInt32)
    (writes : List CounterWrite) :
    (start reason faults stored writes).writes =
      writes ++ if reason.isAbnormal then [(successor stored, faults.answer)] else [] := by
  unfold start
  split
  · rfl
  · exact (List.append_nil _).symm

end Books

/-! ### The detector's books -/

namespace Detector

/-- The writes of the counter on a device. -/
def counterWrites (board : Board) : List CounterWrite :=
  board.journal.trace.filterMap Entry.counterWrite?

/-- The books of a detector on a device. -/
def books (state : Detector × Board) : Books where
  known := state.1.bootCounter
  stored := state.2.store.flash.bootCounter.value
  writes := counterWrites state.2

/-- The start of a boot, with failures of its own. -/
def boot (config : Config) (reason : ResetReason) (faults : Faults) (board : Board) :
    Detector × Board :=
  (ofConfig config).evaluateBoot reason (board.failing faults)

/-- A call of the periodic work, with failures of its own. -/
def tick (state : Detector × Board) (tick : Tick) : Detector × Board :=
  state.1.onInterval tick.stage tick.uptime (state.2.failing tick.faults)

/-- How a device with failures answers a write of the counter. -/
theorem answer_setBootCounter (board : Board) (faults : Faults) (value : UInt32) :
    ((board.failing faults).store.setBootCounter value).1 = faults.answer := by
  have fault : (board.failing faults).store.counterFault = faults.counter := rfl
  unfold Store.setBootCounter Faults.answer
  rw [fault]
  cases faults.counter with
  | none => rfl
  | some error => rfl

/-- What is stored after a write of the counter on a device with failures. -/
theorem stored_setBootCounter (board : Board) (faults : Faults) (value : UInt32) :
    ((board.failing faults).store.setBootCounter value).2.flash.bootCounter.value =
      if faults.counter = none then value else board.store.flash.bootCounter.value := by
  have fault : (board.failing faults).store.counterFault = faults.counter := rfl
  unfold Store.setBootCounter
  rw [fault]
  cases faults.counter with
  | none => exact Flash.bootCounter_setBootCounter _ _
  | some error => rfl

/-- The books after the start of a boot. -/
theorem books_boot (config : Config) (reason : ResetReason) (faults : Faults) (board : Board) :
    books (boot config reason faults board) =
      Books.start reason faults board.store.flash.bootCounter.value (counterWrites board) := by
  obtain ⟨decided, store, -, added⟩ :=
    (ofConfig config).evaluateBoot_counted reason (board.failing faults)
  have trace := added.trace
  change (boot config reason faults board).2.store = _ at store
  change (boot config reason faults board).2.journal.trace = board.journal.trace ++ _ at trace
  change (boot config reason faults board).1 = _ at decided
  have flash : (board.failing faults).store.flash = board.store.flash := rfl
  rw [books, counterWrites, decided, store, trace, List.filterMap_append, ← counterWrites]
  cases abnormal : reason.isAbnormal with
  | false =>
    simp [Books.start, counting, countAfter, storeAfter, abnormal, flash]
  | true =>
    simp [Books.start, counting, countAfter, storeAfter, abnormal, flash,
      Books.increment_eq_successor, answer_setBootCounter, stored_setBootCounter,
      Entry.counterWrite?]

/-- A detector clears the counter when its books say that a write is due. -/
theorem clears_iff_due (state : Detector × Board) (call : Tick) :
    state.1.clears call.stage call.uptime = true ↔
      (books state).Due state.1.stableSeconds call := by
  simp only [clears, Books.Due, books, Bool.and_eq_true, decide_eq_true_eq]
  constructor
  · rintro ⟨⟨stage, known⟩, uptime⟩
    exact ⟨stage, uptime, known⟩
  · rintro ⟨stage, uptime, known⟩
    exact ⟨⟨stage, known⟩, uptime⟩

/-- The books after a call of the periodic work. -/
theorem books_tick (state : Detector × Board) (call : Tick) :
    books (tick state call) = (books state).tick state.1.stableSeconds call := by
  have worked := state.1.onInterval_worked call.stage call.uptime (state.2.failing call.faults)
  have counter := worked.bootCounter
  have store := worked.store
  obtain ⟨validation, added, kinds, -⟩ := worked.added
  have silent : validation.filterMap Entry.counterWrite? = [] := by
    rw [List.filterMap_eq_nil_iff]
    intro entry member
    exact (kinds entry member).counterWrite?_eq_none
  have writes : counterWrites (tick state call).2 = counterWrites state.2 ++
      (state.1.clearing call.stage call.uptime (state.2.failing call.faults)).filterMap
        Entry.counterWrite? := by
    rw [counterWrites, tick, added.trace, List.filterMap_append, List.filterMap_append, silent,
      List.nil_append]
    rfl
  have fault : (state.2.failing call.faults).store.counterFault = call.faults.counter := rfl
  have flash : (state.2.failing call.faults).store.flash = state.2.store.flash := rfl
  change (tick state call).1.bootCounter = _ at counter
  change (tick state call).2.store = _ at store
  rw [books, counter, store, writes, fault, clearing]
  have due := clears_iff_due state call
  by_cases now : (books state).Due state.1.stableSeconds call
  · rw [Books.tick, if_pos now]
    simp only [due.mpr now, true_and, ↓reduceIte]
    rw [stored_setBootCounter, answer_setBootCounter]
    rfl
  · rw [Books.tick, if_neg now]
    simp [books, mt due.mp now, flash]

/-- The stable time does not change. -/
theorem stableSeconds_tick (state : Detector × Board) (call : Tick) :
    (tick state call).1.stableSeconds = state.1.stableSeconds :=
  (state.1.onInterval_worked call.stage call.uptime (state.2.failing call.faults)).stableSeconds

/-- The books after any calls of the periodic work. -/
theorem books_foldl_tick (state : Detector × Board) (calls : List Tick) :
    books (calls.foldl tick state) =
      calls.foldl (Books.tick state.1.stableSeconds) (books state) := by
  induction calls generalizing state with
  | nil => rfl
  | cons call later ih =>
    rw [List.foldl_cons, List.foldl_cons, ih, stableSeconds_tick, books_tick]

/-- The stable time is that of the configuration. -/
theorem stableSeconds_boot (config : Config) (reason : ResetReason) (faults : Faults)
    (board : Board) : (boot config reason faults board).1.stableSeconds = config.stableSeconds := by
  have decided := ((ofConfig config).evaluateBoot_counted reason (board.failing faults)).1
  change (boot config reason faults board).1 = _ at decided
  rw [decided]
  rfl

/-- The stable time does not change over several calls. -/
theorem stableSeconds_foldl_tick (state : Detector × Board) (calls : List Tick) :
    (calls.foldl tick state).1.stableSeconds = state.1.stableSeconds := by
  induction calls generalizing state with
  | nil => rfl
  | cons call later ih => rw [List.foldl_cons, ih, stableSeconds_tick]

/-- The account of a boot: the state right after its start, the state now, some calls later, and the
writes of the counter between. -/
structure Bookkept (config : Config) (reason : ResetReason) (faults : Faults) (board : Board)
    (start now : Detector × Board) (clears : List CounterWrite) : Prop where
  /-- The start writes the counter only after an abnormal reset, once and one higher. -/
  counted : counterWrites start.2 = counterWrites board ++
    if reason.isAbnormal then
      [(Books.successor board.store.flash.bootCounter.value, faults.answer)]
    else []
  /-- The writes after the start. -/
  cleared : counterWrites now.2 = counterWrites start.2 ++ clears
  /-- They are all zero. -/
  zeros : ∀ write ∈ clears, write.1 = 0
  /-- All but the last one failed, so none follows a success. -/
  failed : ∀ write ∈ clears.dropLast, write.2 ≠ .ok ()
  /-- Up to a success the books agree, unless the write of the start failed. -/
  unsettled : (0, .ok ()) ∉ clears → (books now).known = (books now).stored ∨
    (reason.isAbnormal = true ∧ faults.counter ≠ none ∧
      (books now).known = Books.successor (books now).stored)
  /-- From a success on both are zero, and nothing more is written. -/
  settled : (0, .ok ()) ∈ clears → ∀ later : List Tick,
    books (later.foldl tick now) = { known := 0, stored := 0, writes := counterWrites now.2 }
  /-- A counter known to be zero is zero in flash. -/
  zero : (books now).known = 0 → (books now).stored = 0
  /-- A call writes on the stage of five seconds, after the stable time, and if the counter is not
  known to be zero. -/
  next : ∀ call, counterWrites (tick now call).2 = counterWrites now.2 ++
    if call.stage = .every5s ∧ config.stableSeconds.toNat < call.uptime.toNat ∧
        0 < (books now).known then
      [(0, call.faults.answer)]
    else []
  /-- After a failure the next such call writes again. -/
  retried : clears ≠ [] → (0, .ok ()) ∉ clears → ∀ call, call.stage = .every5s →
    config.stableSeconds.toNat < call.uptime.toNat →
      counterWrites (tick now call).2 = counterWrites now.2 ++ [(0, call.faults.answer)]

/-- The books of every boot are in order, whatever fails: they agree until the counter is cleared,
unless an abnormal reset could not be stored, and then both are zero; a boot is counted at most
once, and after that zero is written until it succeeds. -/
theorem bookkept (config : Config) (reason : ResetReason) (faults : Faults) (board : Board)
    (calls : List Tick) :
    ∃ clears, Bookkept config reason faults board (boot config reason faults board)
      (calls.foldl tick (boot config reason faults board)) clears := by
  have start := books_boot config reason faults board
  have stable := stableSeconds_boot config reason faults board
  generalize boot config reason faults board = first at start stable
  have run := books_foldl_tick first calls
  have still := stableSeconds_foldl_tick first calls
  rw [stable] at run still
  generalize calls.foldl tick first = now at run still
  have agrees := Books.start_agrees reason faults board.store.flash.bootCounter.value
    (counterWrites board)
  rw [← start] at agrees
  obtain ⟨clears, balance⟩ := (Books.Balance.refl (books first)).ticks config.stableSeconds calls
  rw [← run, List.nil_append] at balance
  have next (call : Tick) := congrArg Books.writes (books_tick now call)
  simp only [still, Books.writes_tick] at next
  have unsettled : (0, .ok ()) ∉ clears → (books now).known = (books now).stored ∨
      (reason.isAbnormal = true ∧ faults.counter ≠ none ∧
        (books now).known = Books.successor (books now).stored) := by
    intro pending
    obtain ⟨known, stored⟩ := balance.kept pending
    rw [known, stored]
    exact agrees
  refine ⟨clears, ?_, balance.writes, balance.zeros, balance.failed, unsettled, ?_, ?_, next, ?_⟩
  · have writes := Books.writes_start reason faults board.store.flash.bootCounter.value
      (counterWrites board)
    rw [← start] at writes
    exact writes
  · intro success later
    obtain ⟨known, stored⟩ := balance.done success
    have same : books now = ⟨(books now).known, (books now).stored, counterWrites now.2⟩ := rfl
    rw [books_foldl_tick, Books.foldl_tick_of_zero known, same, known, stored]
  · intro known
    by_cases success : (0, .ok ()) ∈ clears
    · exact (balance.done success).2
    · rcases unsettled success with same | ⟨-, -, more⟩
      · rw [← same, known]
      · rw [known] at more
        exact absurd more.symm (Books.successor_ne_zero _)
  · intro failed pending call stage uptime
    have known : 0 < (books now).known := by
      rw [(balance.kept pending).1]
      exact balance.positive failed
    have written := next call
    rw [if_pos ⟨stage, uptime, known⟩] at written
    exact written

end Detector

end Overseer
