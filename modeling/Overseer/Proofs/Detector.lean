import Overseer.Supervisor.Loop

/-!
# What the detector can do

One lemma for each operation of the crash-loop detector says everything that the operation can
change: of the detector's own state, of the device, and of the trace. Later proofs use these lemmas
and not the definitions.
-/
namespace Overseer

/-- Work on a device that added entries to its trace, and may have changed what is stored, the
firmware and the log, but nothing else. -/
structure Board.Adds (entries : List Entry) (before after : Board) : Prop where
  trace : after.journal.trace = before.journal.trace ++ entries
  clock : after.clock = before.clock
  resetReason : after.resetReason = before.resetReason
  restarts : after.restarts = before.restarts

namespace Board.Adds

variable {first second third : Board} {earlier later : List Entry}

/-- Doing nothing. -/
theorem refl (board : Board) : Adds [] board board := ⟨by simp, rfl, rfl, rfl⟩

/-- Entries are added one after the other. -/
theorem trans (before : Adds earlier first second) (after : Adds later second third) :
    Adds (earlier ++ later) first third where
  trace := by rw [after.trace, before.trace, List.append_assoc]
  clock := after.clock.trans before.clock
  resetReason := after.resetReason.trans before.resetReason
  restarts := after.restarts.trans before.restarts

end Board.Adds

namespace Board

/-- Log lines are no entries. -/
theorem adds_say (board : Board) (lines : List Line) : Adds [] board (board.say lines) :=
  ⟨by simp [say], rfl, rfl, rfl⟩

/-- A note is one entry. -/
theorem adds_note (board : Board) (entry : Entry) : Adds [entry] board (board.note entry) :=
  ⟨rfl, rfl, rfl, rfl⟩

/-- A write of the boot counter is one entry. -/
theorem adds_setBootCounter (board : Board) (actor : Actor) (value : UInt32) :
    Adds [.counterWritten actor value (board.store.setBootCounter value).1] board
      (board.setBootCounter actor value).2 :=
  ⟨rfl, rfl, rfl, rfl⟩

/-- Marking the firmware image is one entry. -/
theorem adds_markImage (board : Board) :
    Adds [.imageMarked board.firmware.markValid.value.1] board board.markImage.2 :=
  ⟨by simp [markImage, say, note], rfl, rfl, rfl⟩

end Board

/-! ### What the detector notes -/

namespace Entry

/-- A write of the counter that is not a clearing. -/
def IsCount (entry : Entry) : Prop :=
  ∃ value result, entry = .counterWritten .detector value result ∧ value ≠ 0

/-- A question about the firmware image, or a mark on it. -/
def IsValidation (entry : Entry) : Prop :=
  (∃ state, entry = .imageQueried state) ∨ ∃ outcome, entry = .imageMarked outcome

/-- What the detector notes at all: writes of the counter, and validation. -/
def IsDetection : Entry → Prop
  | .counterWritten .detector .. | .imageQueried _ | .imageMarked _ => True
  | _ => False

/-- Validation is the detector's. -/
theorem IsValidation.isDetection {entry : Entry} (validation : entry.IsValidation) :
    entry.IsDetection := by
  rcases validation with ⟨_, rfl⟩ | ⟨_, rfl⟩
  · trivial
  · trivial

/-- Counting is the detector's. -/
theorem IsCount.isDetection {entry : Entry} (count : entry.IsCount) : entry.IsDetection := by
  obtain ⟨_, _, rfl, _⟩ := count
  trivial

end Entry

namespace Detector

/-! ### The boot -/

/-- Counting one more abnormal reset stops at the greatest value. -/
theorem toNat_increment (counter : UInt32) :
    (increment counter).toNat = min (counter.toNat + 1) (UInt32.size - 1) := by
  have bound : counter.toNat < UInt32.size := counter.toNat_lt
  unfold increment
  split
  · rename_i fits
    rw [UInt32.toNat_add, UInt32.toNat_one, Nat.mod_eq_of_lt fits]
    omega
  · omega

/-- Counting an abnormal reset never leaves the counter at zero. -/
theorem increment_ne_zero (counter : UInt32) : increment counter ≠ 0 := by
  intro zero
  have count := toNat_increment counter
  rw [zero, UInt32.toNat_zero, Nat.min_def] at count
  split at count
  · exact absurd count.symm (Nat.succ_ne_zero _)
  · contradiction

/-- The counter of a boot, given the stored one. -/
def countAfter (reason : ResetReason) (stored : UInt32) : UInt32 :=
  if reason.isAbnormal then increment stored else stored

/-- The store after the boot was counted. -/
def storeAfter (reason : ResetReason) (store : Store) : Store :=
  if reason.isAbnormal then
    (store.setBootCounter (increment store.flash.bootCounter.value)).2
  else store

/-- The entry of counting a boot, if it is counted. -/
def counting (reason : ResetReason) (board : Board) : List Entry :=
  if reason.isAbnormal then
    [.counterWritten .detector (increment board.store.flash.bootCounter.value)
      (board.store.setBootCounter (increment board.store.flash.bootCounter.value)).1]
  else []

/-- Counting is no clearing. -/
theorem isCount_of_mem_counting {reason : ResetReason} {board : Board} :
    ∀ entry ∈ counting reason board, entry.IsCount := by
  intro entry member
  unfold counting at member
  split at member
  · exact ⟨_, _, List.mem_singleton.mp member, increment_ne_zero _⟩
  · contradiction

/-- What counting a boot does to the device: the count is stored by one write, if it is stored. -/
structure Counted (reason : ResetReason) (before after : Board) : Prop where
  store : after.store = storeAfter reason before.store
  firmware : after.firmware = before.firmware
  added : Board.Adds (counting reason before) before after

/-- Log lines change nothing about it. -/
theorem Counted.say {reason : ResetReason} {before after : Board}
    (counted : Counted reason before after) (lines : List Line) :
    Counted reason before (after.say lines) where
  store := counted.store
  firmware := counted.firmware
  added := by
    rw [← List.append_nil (counting reason before)]
    exact counted.added.trans (after.adds_say lines)

/-- Counting does that, and gives the counter of the boot. -/
theorem countReset_counted (reason : ResetReason) (board : Board) :
    (countReset reason board).1 = countAfter reason board.store.flash.bootCounter.value ∧
      Counted reason board (countReset reason board).2 := by
  cases abnormal : reason.isAbnormal with
  | false =>
    simp only [countReset, countAfter, abnormal, Board.bootCounter, Bool.false_eq_true, ↓reduceIte,
      true_and]
    refine ⟨?_, rfl, ?_⟩
    · simp [storeAfter, abnormal, Board.say]
    · simpa [counting, abnormal] using board.adds_say _
  | true =>
    let read := board.say board.store.flash.bootCounter.lines
    have added := (board.adds_say _).trans (read.adds_setBootCounter .detector
      (increment board.store.flash.bootCounter.value))
    have written : Counted reason board (read.setBootCounter .detector
        (increment board.store.flash.bootCounter.value)).2 := by
      refine ⟨?_, rfl, ?_⟩
      · simp only [storeAfter, abnormal, ↓reduceIte]
        rfl
      · simp only [counting, abnormal, ↓reduceIte]
        exact added
    simp only [countReset, countAfter, abnormal, Board.bootCounter, ↓reduceIte]
    split
    · rename_i outcome
      rw [show read.setBootCounter .detector _ = _ from outcome] at written
      exact ⟨rfl, written⟩
    · rename_i outcome
      rw [show read.setBootCounter .detector _ = _ from outcome] at written
      exact ⟨rfl, written.say _⟩

/-- Deciding the mode of a boot fixes the counter and the mode, and counts the boot. -/
theorem evaluateBoot_counted (detector : Detector) (reason : ResetReason) (board : Board) :
    (detector.evaluateBoot reason board).1 = { detector with
        bootCounter := countAfter reason board.store.flash.bootCounter.value
        active := detector.threshold ≤ countAfter reason board.store.flash.bootCounter.value } ∧
      Counted reason board (detector.evaluateBoot reason board).2 := by
  obtain ⟨counter, counted⟩ := countReset_counted reason board
  rw [← counter]
  exact ⟨rfl, counted.say _⟩

/-! ### Validation -/

/-- Whether the firmware needs no further validation in this boot, because it passed or because an
attempt was made. -/
def settled (detector : Detector) : Bool := detector.validated || detector.attempted

/-- What an attempt to validate the firmware notes, and whether the firmware then counts as
validated. The state of the image is asked for; only an image that is pending verification is
marked, and only a mark that fails leaves the firmware unvalidated. -/
inductive Attempt : List Entry → Bool → Prop where
  | unmarked {answer : Except FirmwareError ImageState} (settled : answer ≠ .ok .pendingVerify) :
      Attempt [.imageQueried answer] true
  | marked : Attempt [.imageQueried (.ok .pendingVerify), .imageMarked (.ok ())] true
  | failed (error : FirmwareError) :
      Attempt [.imageQueried (.ok .pendingVerify), .imageMarked (.error error)] false

/-- An attempt notes validation only. -/
theorem Attempt.isValidation {entries : List Entry} {validated : Bool}
    (attempt : Attempt entries validated) : ∀ entry ∈ entries, entry.IsValidation := by
  intro entry member
  cases attempt with
  | unmarked settled =>
    exact .inl ⟨_, List.mem_singleton.mp member⟩
  | marked | failed _ =>
    simp only [List.mem_cons, List.not_mem_nil, or_false] at member
    rcases member with asked | mark
    · exact .inl ⟨_, asked⟩
    · exact .inr ⟨_, mark⟩

/-- Every attempt asks for the state of the image. -/
theorem Attempt.asks {entries : List Entry} {validated : Bool}
    (attempt : Attempt entries validated) : ∃ answer, .imageQueried answer ∈ entries := by
  cases attempt with
  | unmarked _ | marked | failed _ => exact ⟨_, List.mem_cons_self⟩

/-- What the one attempt of a boot did. -/
structure Attempted (detector : Detector) (board : Board) (result : Detector × Board) : Prop where
  changed : ∃ validated, result.1 = { detector with attempted := true, validated }
  store : result.2.store = board.store
  added : ∃ entries, Board.Adds entries board result.2 ∧ Attempt entries result.1.validated

/-- Log lines change nothing about it. -/
theorem Attempted.say {detector : Detector} {board : Board} {result : Detector × Board}
    (attempted : Attempted detector board result) (lines : List Line) :
    Attempted detector board (result.1, result.2.say lines) where
  changed := attempted.changed
  store := attempted.store
  added := by
    obtain ⟨entries, added, attempt⟩ := attempted.added
    refine ⟨entries, ?_, attempt⟩
    rw [← List.append_nil entries]
    exact added.trans (result.2.adds_say lines)

/-- Firmware that is settled is left alone. -/
theorem validateFirmware_of_settled {detector : Detector} (settled : detector.settled = true)
    (board : Board) : detector.validateFirmware board = (detector, board) :=
  if_pos settled

/-- Firmware that is not settled is settled in one attempt. -/
theorem validateFirmware_attempted {detector : Detector} (unsettled : detector.settled = false)
    (board : Board) : Attempted detector board (detector.validateFirmware board) := by
  obtain ⟨validated, attempted⟩ := Bool.or_eq_false_iff.mp unsettled
  have asked (other : board.firmware.state ≠ .ok .pendingVerify) :
      Attempted detector board ({ detector with attempted := true, validated := true },
        board.note (.imageQueried board.firmware.state)) :=
    ⟨⟨true, rfl⟩, rfl, _, board.adds_note _, .unmarked other⟩
  simp only [validateFirmware, validated, attempted, Bool.or_self, Bool.false_eq_true, ↓reduceIte,
    Board.imageState]
  cases state : board.firmware.state with
  | error error =>
    rw [state] at asked
    exact (asked (by simp)).say _
  | ok image =>
    rw [state] at asked
    by_cases pending : image = .pendingVerify
    · subst pending
      dsimp only
      have added := (board.adds_note (.imageQueried (.ok .pendingVerify))).trans
        (Board.adds_markImage _)
      have answered : (board.note (.imageQueried (.ok .pendingVerify))).markImage.1 =
        (board.note (.imageQueried (.ok .pendingVerify))).firmware.markValid.value.1 := rfl
      have store : (board.note (.imageQueried (.ok .pendingVerify))).markImage.2.store =
        board.store := rfl
      rw [← answered] at added
      generalize (board.note (.imageQueried (.ok .pendingVerify))).markImage = done
        at added store ⊢
      rcases done with ⟨failed | done, after⟩
      · have attempt : Attempted detector board
            ({ detector with attempted := true, validated := false }, after) :=
          ⟨⟨false, rfl⟩, store, _, added, .failed _⟩
        exact attempt.say _
      · have attempt : Attempted detector board
            ({ detector with attempted := true, validated := true }, after) :=
          ⟨⟨true, rfl⟩, store, _, added, .marked⟩
        exact attempt.say _
    · cases image with
      | pendingVerify => contradiction
      | new | valid | invalid | aborted | undefined => exact (asked (by simp)).say _

/-- Validate the firmware if that is due. -/
def check (detector : Detector) (due : Bool) (board : Board) : Detector × Board :=
  if due then detector.validateFirmware board else (detector, board)

/-- What a check notes, and whether the firmware then counts as validated: an attempt if one is due
and the firmware is not settled, and otherwise nothing new. -/
def Validation (detector : Detector) (due : Bool) (entries : List Entry) (validated : Bool) :
    Prop :=
  if detector.settled = false ∧ due = true then Attempt entries validated
  else entries = [] ∧ validated = detector.validated

/-- A check notes validation only. -/
theorem Validation.isValidation {detector : Detector} {due : Bool} {entries : List Entry}
    {validated : Bool} (validation : detector.Validation due entries validated) :
    ∀ entry ∈ entries, entry.IsValidation := by
  unfold Validation at validation
  split at validation
  · exact validation.isValidation
  · rw [validation.1]
    simp

/-- A check asks for the state of the image if an attempt is due and the firmware is not settled. -/
theorem Validation.asks_iff {detector : Detector} {due : Bool} {entries : List Entry}
    {validated : Bool} (validation : detector.Validation due entries validated) :
    (∃ answer, .imageQueried answer ∈ entries) ↔ detector.settled = false ∧ due = true := by
  unfold Validation at validation
  split at validation
  · rename_i attempt
    exact iff_of_true validation.asks attempt
  · rename_i idle
    rw [validation.1]
    simpa using idle

/-- What a check did. -/
structure Checked (detector : Detector) (due : Bool) (board : Board)
    (result : Detector × Board) : Prop where
  changed : ∃ validated attempted, result.1 = { detector with validated, attempted }
  settled : result.1.settled = (detector.settled || due)
  store : result.2.store = board.store
  noted : ∃ validation, Board.Adds validation board result.2 ∧
    detector.Validation due validation result.1.validated

/-- A check leaves a detector alone that is settled, or for which nothing is due. -/
theorem checked_refl {detector : Detector} {due : Bool}
    (idle : detector.settled = true ∨ due = false) (board : Board) :
    Checked detector due board (detector, board) := by
  have kept : ¬(detector.settled = false ∧ due = true) := by
    rintro ⟨unsettled, now⟩
    simp [unsettled, now] at idle
  refine ⟨⟨_, _, rfl⟩, ?_, rfl, [], .refl board, ?_⟩
  · rcases idle with settled | undue
    · simp [settled]
    · simp [undue]
  · rw [Validation, if_neg kept]
    exact ⟨rfl, rfl⟩

/-- Every check does that. -/
theorem check_checked (detector : Detector) (due : Bool) (board : Board) :
    Checked detector due board (detector.check due board) := by
  cases due with
  | false => exact checked_refl (.inr rfl) board
  | true =>
    change Checked detector true board (detector.validateFirmware board)
    cases unsettled : detector.settled with
    | true =>
      rw [validateFirmware_of_settled unsettled]
      exact checked_refl (.inl unsettled) board
    | false =>
      obtain ⟨⟨validated, result⟩, store, entries, added, attempt⟩ :=
        validateFirmware_attempted unsettled board
      refine ⟨⟨validated, true, result⟩, ?_, store, entries, added, ?_⟩
      · rw [result]
        simp [settled]
      · rw [Validation, if_pos ⟨unsettled, rfl⟩]
        exact attempt

/-! ### The work of a stage -/

/-- What clearing the counter does: one write of zero, and if it succeeds the counter is forgotten.
-/
structure Cleared (detector : Detector) (board : Board) (result : Detector × Board) : Prop where
  changed : result.1 = { detector with
    bootCounter := if board.store.counterFault = none then 0 else detector.bootCounter }
  store : result.2.store = (board.store.setBootCounter 0).2
  added : Board.Adds [.counterWritten .detector 0 (board.store.setBootCounter 0).1] board result.2

/-- Clearing does that. -/
theorem clearCounter_cleared (detector : Detector) (uptime : UInt64) (board : Board) :
    Cleared detector board (detector.clearCounter uptime board) := by
  have written := board.adds_setBootCounter .detector 0
  have say (lines : List Line) :=
    written.trans ((board.setBootCounter .detector 0).2.adds_say lines)
  have stored : (board.setBootCounter .detector 0).2.store = (board.store.setBootCounter 0).2 := rfl
  have answered : (board.setBootCounter .detector 0).1 = (board.store.setBootCounter 0).1 := rfl
  unfold clearCounter
  cases fault : board.store.counterFault with
  | none =>
    rw [Store.setBootCounter, fault] at answered
    generalize board.setBootCounter .detector 0 = done at say stored answered ⊢
    rcases done with ⟨failed | done, after⟩
    · contradiction
    · exact ⟨by rw [fault]; rfl, stored, say _⟩
  | some error =>
    rw [Store.setBootCounter, fault] at answered
    generalize board.setBootCounter .detector 0 = done at say stored answered ⊢
    rcases done with ⟨failed | done, after⟩
    · exact ⟨by rw [fault]; rfl, stored, say _⟩
    · contradiction

/-- The entry of clearing the counter on a stage, if it is cleared there. -/
def clearing (detector : Detector) (stage : Stage) (uptime : UInt64) (board : Board) : List Entry :=
  if detector.clears stage uptime then
    [.counterWritten .detector 0 (board.store.setBootCounter 0).1]
  else []

/-- What the work of a stage did: first at most one attempt to validate the firmware, on the stage
for that, and then at most one clearing of the counter. -/
structure Worked (detector : Detector) (stage : Stage) (uptime : UInt64) (board : Board)
    (result : Detector × Board) : Prop where
  active : result.1.active = detector.active
  stableSeconds : result.1.stableSeconds = detector.stableSeconds
  validationStage : result.1.validationStage = detector.validationStage
  settled : result.1.settled = (detector.settled || stage = detector.validationStage)
  bootCounter : result.1.bootCounter =
    if detector.clears stage uptime ∧ board.store.counterFault = none then 0
    else detector.bootCounter
  store : result.2.store =
    if detector.clears stage uptime then (board.store.setBootCounter 0).2 else board.store
  noted : ∃ validation,
    Board.Adds (validation ++ detector.clearing stage uptime board) board result.2 ∧
      detector.Validation (stage = detector.validationStage) validation result.1.validated

/-- What the work of a stage notes is validation, by an attempt if one is due, and clearing. -/
theorem Worked.added {detector : Detector} {stage : Stage} {uptime : UInt64} {board : Board}
    {result : Detector × Board} (worked : Worked detector stage uptime board result) :
    ∃ validation,
      Board.Adds (validation ++ detector.clearing stage uptime board) board result.2 ∧
        (∀ entry ∈ validation, entry.IsValidation) ∧
        ((∃ state, .imageQueried state ∈ validation) ↔
          detector.settled = false ∧ stage = detector.validationStage) := by
  obtain ⟨validation, added, noted⟩ := worked.noted
  have asks := noted.asks_iff
  rw [decide_eq_true_eq] at asks
  exact ⟨validation, added, noted.isValidation, asks⟩

/-- The work of a stage does what `Worked` says. -/
theorem onInterval_worked (detector : Detector) (stage : Stage) (uptime : UInt64) (board : Board) :
    Worked detector stage uptime board (detector.onInterval stage uptime board) := by
  obtain ⟨⟨validated, attempted, changed⟩, settled, store, validation, added, noted⟩ :=
    detector.check_checked (stage = detector.validationStage) board
  have work : detector.onInterval stage uptime board =
      let checked := detector.check (stage = detector.validationStage) board
      if checked.1.clears stage uptime then checked.1.clearCounter uptime checked.2
      else checked := by
    simp only [onInterval, check, decide_eq_true_eq]
  generalize detector.check (stage = detector.validationStage) board = checked
    at changed settled store added noted work
  obtain ⟨middle, after⟩ := checked
  dsimp only at changed settled store added noted work
  have clears : middle.clears stage uptime = detector.clears stage uptime := by rw [changed]; rfl
  rw [work, clears]
  cases due : detector.clears stage uptime with
  | false =>
    refine ⟨?_, ?_, ?_, settled, ?_, ?_, validation, ?_, noted⟩
    · simp [changed]
    · simp [changed]
    · simp [changed]
    · simp [changed, due]
    · simp [store, due]
    · simpa [clearing, due] using added
  | true =>
    obtain ⟨cleared, emptied, write⟩ := middle.clearCounter_cleared uptime after
    rw [store] at cleared emptied write
    simp only [↓reduceIte]
    refine ⟨?_, ?_, ?_, ?_, ?_, ?_, validation, ?_, ?_⟩
    · rw [cleared, changed]
    · rw [cleared, changed]
    · rw [cleared, changed]
    · rw [cleared, ← settled]
      rfl
    · rw [cleared, changed]
      simp [due]
    · rw [emptied, if_pos due]
    · simp only [clearing, due, ↓reduceIte]
      exact added.trans write
    · rw [cleared]
      exact noted

/-- All that a stage's work notes is the detector's. -/
theorem Worked.detections {detector : Detector} {stage : Stage} {uptime : UInt64} {board : Board}
    {result : Detector × Board} (worked : Worked detector stage uptime board result) :
    ∃ entries, Board.Adds entries board result.2 ∧ ∀ entry ∈ entries, entry.IsDetection := by
  obtain ⟨validation, added, kinds, _⟩ := worked.added
  refine ⟨_, added, fun entry member => ?_⟩
  rcases List.mem_append.mp member with validating | clearing
  · exact (kinds entry validating).isDetection
  · unfold Detector.clearing at clearing
    split at clearing
    · rw [List.mem_singleton.mp clearing]
      trivial
    · contradiction

end Detector

/-! ### The boot of a supervisor -/

namespace Supervisor

variable {σ : Type}

/-- What the first part of the start did: the boot is counted and its mode decided, and in safe mode
the firmware is validated if it was not settled. -/
structure Booted (before after : Supervisor σ) : Prop where
  config : after.config = before.config
  roster : after.roster = before.roster
  hub : after.environment.hub = before.environment.hub
  restartPending : after.environment.restartPending = before.environment.restartPending
  bootCounter : after.detector.bootCounter =
    Detector.countAfter before.environment.board.resetReason
      before.environment.board.store.flash.bootCounter.value
  active : after.detector.active = decide (before.detector.threshold ≤ after.detector.bootCounter)
  stableSeconds : after.detector.stableSeconds = before.detector.stableSeconds
  validationStage : after.detector.validationStage = before.detector.validationStage
  settled : after.detector.settled = (before.detector.settled || after.detector.active)
  store : after.environment.board.store =
    Detector.storeAfter before.environment.board.resetReason before.environment.board.store
  noted : ∃ validation,
    Board.Adds (Detector.counting before.environment.board.resetReason before.environment.board ++
        validation) before.environment.board after.environment.board ∧
      before.detector.Validation after.detector.active validation after.detector.validated

/-- What the first part of the start notes is the count of the boot, and then validation, by an
attempt if one is due. -/
theorem Booted.added {before after : Supervisor σ} (booted : Booted before after) :
    ∃ counting validation,
      Board.Adds (counting ++ validation) before.environment.board after.environment.board ∧
        (∀ entry ∈ counting, entry.IsCount) ∧ (∀ entry ∈ validation, entry.IsValidation) ∧
        ((∃ state, .imageQueried state ∈ validation) ↔
          before.detector.settled = false ∧ after.detector.active = true) := by
  obtain ⟨validation, added, noted⟩ := booted.noted
  exact ⟨_, validation, added, Detector.isCount_of_mem_counting, noted.isValidation,
    noted.asks_iff⟩

/-- The first part of the start does that. -/
theorem evaluateBoot_booted (supervisor : Supervisor σ) :
    Booted supervisor supervisor.evaluateBoot := by
  obtain ⟨decided, counted, firmware, added⟩ :=
    supervisor.detector.evaluateBoot_counted supervisor.environment.board.resetReason
      supervisor.environment.board
  have evaluation : supervisor.evaluateBoot =
      let decided := supervisor.detector.evaluateBoot supervisor.environment.board.resetReason
        supervisor.environment.board
      let checked := decided.1.check decided.1.active decided.2
      { supervisor with
        detector := checked.1
        environment := { supervisor.environment with board := checked.2 } } := rfl
  rw [evaluation]
  generalize supervisor.detector.evaluateBoot supervisor.environment.board.resetReason
    supervisor.environment.board = result at decided counted firmware added ⊢
  obtain ⟨detector, board⟩ := result
  dsimp only at decided counted firmware added ⊢
  obtain ⟨⟨validated, attempted, changed⟩, settled, store, validation, further, noted⟩ :=
    detector.check_checked detector.active board
  have unsettled : detector.settled = supervisor.detector.settled := by rw [decided]; rfl
  have unvalidated : detector.validated = supervisor.detector.validated := by rw [decided]
  rw [Detector.Validation, unsettled, unvalidated] at noted
  rw [unsettled] at settled
  generalize detector.check detector.active board = checked
    at changed settled store further noted ⊢
  have same : checked.1.active = detector.active := by rw [changed]
  refine ⟨rfl, rfl, rfl, rfl, ?_, ?_, ?_, ?_, ?_, ?_, validation, added.trans further, ?_⟩
  · rw [changed, decided]
  · rw [changed, decided]
  · rw [changed, decided]
  · rw [changed, decided]
  · rw [settled, same]
  · rw [store, counted]
  · rw [same]
    exact noted

end Supervisor

end Overseer
