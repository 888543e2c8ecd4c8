import Mathlib.Algebra.Order.Floor.Div
import Mathlib.Data.List.Chain
import Overseer.Scheduler

/-!
# Cadence of the stages

Every stage is a timer of its own: what it does at readings of the clock depends on its period and
on the reading at which it last fired, and on nothing else (`Scheduler.firingsOf_outcomes`). So what
is to be said of the scheduler is said of one such timer first (`Stage.firings`), by induction on
the readings. `Scheduler.keeps_cadence` holds for readings of any kind, also of a clock that steps
back; `Scheduler.steady_rate` gives the exact ticks of a clock that advances evenly.
-/
namespace Overseer

/-! ### One stage by itself -/

namespace Stage

/-- The readings at which a stage fires, given the reading that it is armed at. -/
def firings (stage : Stage) (armed : Nat) : List Nat → List Nat
  | [] => []
  | now :: rest =>
    if armed + stage.period ≤ now then now :: stage.firings now rest
    else stage.firings armed rest

variable (stage : Stage)

/-- Firings are at least a period apart, whatever the clock did between them. -/
theorem spaced_firings (armed : Nat) (readings : List Nat) :
    (armed :: stage.firings armed readings).IsChain fun one next => one + stage.period ≤ next := by
  induction readings generalizing armed with
  | nil => exact .singleton armed
  | cons now rest ih =>
    by_cases due : armed + stage.period ≤ now
    · rw [firings, if_pos due]
      exact List.isChain_cons_cons.mpr ⟨due, ih now⟩
    · rw [firings, if_neg due]
      exact ih armed

/-- The periods of all firings fit between the reading that the stage was armed at and the
greatest one. -/
theorem length_firings_mul_period_le (armed greatest : Nat) {readings : List Nat}
    (bound : ∀ reading ∈ readings, reading ≤ greatest) :
    (stage.firings armed readings).length * stage.period ≤ greatest - armed := by
  induction readings generalizing armed with
  | nil => simp [firings]
  | cons now rest ih =>
    obtain ⟨within, others⟩ := List.forall_mem_cons.mp bound
    by_cases due : armed + stage.period ≤ now
    · have later := ih now others
      rw [firings, if_pos due, List.length_cons, Nat.succ_mul]
      omega
    · rw [firings, if_neg due]
      exact ih armed others

/-- If no reading is ahead of the one before it by more than a gap, the next firing comes less than
a period and a gap after the last one. -/
theorem prompt_firings {gap : Nat} (armed previous : Nat) (readings : List Nat)
    (idle : previous < armed + stage.period)
    (close : (previous :: readings).IsChain fun one next => next ≤ one + gap) :
    (armed :: stage.firings armed readings).IsChain fun one next =>
      next < one + stage.period + gap := by
  -- The stage was not due at the reading before, so it is not overdue by more than the gap.
  induction readings generalizing armed previous with
  | nil => exact .singleton armed
  | cons now rest ih =>
    obtain ⟨step, further⟩ := List.isChain_cons_cons.mp close
    by_cases due : armed + stage.period ≤ now
    · have positive := stage.period_pos
      rw [firings, if_pos due]
      exact List.isChain_cons_cons.mpr ⟨by omega, ih now now (by omega) further⟩
    · rw [firings, if_neg due]
      exact ih armed now (by omega) further

end Stage

/-! ### The scheduler as its stages -/

namespace Scheduler

/-- The time since an earlier reading, as a word; zero if the clock stepped back behind it. -/
def elapsed (last now : UInt64) : UInt64 := if last ≤ now then now - last else 0

/-- A stage is due by the words exactly if it is by the numbers: no step of the computation leaves
the word. -/
theorem period_le_elapsed_iff (stage : Stage) (last now : UInt64) :
    UInt64.ofNat stage.period ≤ elapsed last now ↔ last.toNat + stage.period ≤ now.toNat := by
  have exact : (UInt64.ofNat stage.period).toNat = stage.period := by cases stage <;> rfl
  have positive := stage.period_pos
  rw [UInt64.le_iff_toNat_le, exact]
  unfold elapsed
  split
  · rename_i ahead
    have ordered := UInt64.le_iff_toNat_le.mp ahead
    rw [UInt64.toNat_sub_of_le _ _ ahead]
    omega
  · rename_i behind
    have ordered : ¬last.toNat ≤ now.toNat := fun ahead => behind (UInt64.le_iff_toNat_le.mpr ahead)
    simp only [UInt64.toNat_zero]
    omega

/-- A reading of the clock, and the stages that fired at it. -/
structure Outcome where
  /-- The reading. -/
  reading : UInt64
  /-- The stages that fired. -/
  fired : List Stage

/-- The outcomes of readings in turn. -/
def outcomes (scheduler : Scheduler) : List UInt64 → List Outcome
  | [] => []
  | now :: rest => ⟨now, (scheduler.fire now).1⟩ :: (scheduler.fire now).2.outcomes rest

/-- The scheduler after readings in turn. -/
def after (scheduler : Scheduler) (readings : List UInt64) : Scheduler :=
  readings.foldl (fun between now => (between.fire now).2) scheduler

/-- The readings at which a stage fired. -/
def firingsOf (stage : Stage) (outcomes : List Outcome) : List UInt64 :=
  (outcomes.filter fun outcome => stage ∈ outcome.fired).map (·.reading)

/-- The reading at which a stage fired last, or the start if it did not fire. -/
def lastOf (start : UInt64) (outcomes : List Outcome) (stage : Stage) : UInt64 :=
  (firingsOf stage outcomes).getLast?.getD start

/-- A reading is a firing of the stage if that is due at it. -/
theorem firingsOf_outcomes_cons (scheduler : Scheduler) (stage : Stage) (now : UInt64)
    (rest : List UInt64) :
    firingsOf stage (scheduler.outcomes (now :: rest)) =
      if stage ∈ scheduler.due now then
        now :: firingsOf stage ((scheduler.fire now).2.outcomes rest)
      else firingsOf stage ((scheduler.fire now).2.outcomes rest) := by
  have fired : (scheduler.fire now).1 = scheduler.due now := rfl
  by_cases due : stage ∈ scheduler.due now
  · simp [firingsOf, outcomes, fired, due]
  · simp [firingsOf, outcomes, fired, due]

/-- In a scheduler every stage fires as it does by itself. -/
theorem firingsOf_outcomes (scheduler : Scheduler) (stage : Stage) (readings : List UInt64) :
    (firingsOf stage (scheduler.outcomes readings)).map UInt64.toNat =
      stage.firings (scheduler.lastFired stage).toNat (readings.map UInt64.toNat) := by
  induction readings generalizing scheduler with
  | nil => rfl
  | cons now rest ih =>
    have further := ih (scheduler.fire now).2
    have due := scheduler.mem_due_iff now stage
    rw [lastFired_fire] at further
    rw [firingsOf_outcomes_cons, List.map_cons, Stage.firings]
    by_cases fires : stage ∈ scheduler.due now
    · rw [if_pos fires] at further
      rw [if_pos fires, if_pos (due.mp fires), List.map_cons, further]
    · rw [if_neg fires] at further
      rw [if_neg fires, if_neg (mt due.mpr fires), further]

/-- A stage remembers the reading at which it fired last. -/
theorem lastFired_after (scheduler : Scheduler) (readings : List UInt64) (stage : Stage) :
    (scheduler.after readings).lastFired stage =
      lastOf (scheduler.lastFired stage) (scheduler.outcomes readings) stage := by
  induction readings generalizing scheduler with
  | nil => rfl
  | cons now rest ih =>
    have further : (scheduler.after (now :: rest)).lastFired stage = _ :=
      ih (scheduler.fire now).2
    rw [further, lastFired_fire, lastOf, lastOf, firingsOf_outcomes_cons]
    by_cases fires : stage ∈ scheduler.due now
    · rw [if_pos fires, if_pos fires, List.getLast?_cons, Option.getD_some]
    · rw [if_neg fires, if_neg fires]

/-! ### Any clock -/

/-- What a scheduler does at one reading, given the outcomes since it was armed at a start. -/
structure Serves (start : UInt64) (earlier : List Outcome) (scheduler : Scheduler) (now : UInt64) :
    Prop where
  /-- The stages that fire ascend strictly by period, so none fires twice. -/
  ascending : (scheduler.fire now).1.Pairwise fun one next => one.period < next.period
  /-- They are the stages of which a period has passed since they fired last. -/
  due : ∀ stage, stage ∈ (scheduler.fire now).1 ↔
    (lastOf start earlier stage).toNat + stage.period ≤ now.toNat
  /-- Words of sixty-four bits decide that as well as unbounded numbers do. -/
  words : ∀ stage, stage ∈ (scheduler.fire now).1 ↔
    UInt64.ofNat stage.period ≤ elapsed (lastOf start earlier stage) now
  /-- A stage that fires is armed anew, and the others stay as they were. -/
  rearmed : ∀ stage, (scheduler.fire now).2.lastFired stage =
    if stage ∈ (scheduler.fire now).1 then now else scheduler.lastFired stage

/-- What a scheduler that was armed at a start does at readings in turn. -/
structure Cadence (start : UInt64) (readings : List UInt64) : Prop where
  /-- It serves each of them. -/
  serves : ∀ earlier now later, readings = earlier ++ now :: later →
    Serves start ((armedAt start).outcomes earlier) ((armedAt start).after earlier) now
  /-- A stage fires no sooner than a period after the start, or after it fired before. -/
  spaced : ∀ stage, (start :: firingsOf stage ((armedAt start).outcomes readings)).IsChain
    fun one next => one.toNat + stage.period ≤ next.toNat
  /-- It fires no more often than its period fits between the start and the greatest reading. -/
  bounded : ∀ stage greatest, (∀ reading ∈ readings, reading ≤ greatest) →
    (firingsOf stage ((armedAt start).outcomes readings)).length ≤
      (greatest.toNat - start.toNat) / stage.period
  /-- It does not fire at all if no reading exceeds the start. -/
  idle : (∀ reading ∈ readings, reading ≤ start) →
    ∀ stage, firingsOf stage ((armedAt start).outcomes readings) = []
  /-- If no reading is ahead of the one before it by more than a gap, it fires less than a period
  and a gap after the start, or after it fired before. -/
  prompt : ∀ gap, ((start :: readings).IsChain fun one next => next.toNat ≤ one.toNat + gap) →
    ∀ stage, (start :: firingsOf stage ((armedAt start).outcomes readings)).IsChain
      fun one next => next.toNat < one.toNat + stage.period + gap

/-- Armed at a start, a stage fires just when the outcomes so far say that it is due. -/
theorem serves_after (start : UInt64) (earlier : List UInt64) (now : UInt64) :
    Serves start ((armedAt start).outcomes earlier) ((armedAt start).after earlier) now := by
  have remembered (stage : Stage) : ((armedAt start).after earlier).lastFired stage =
      lastOf start ((armedAt start).outcomes earlier) stage := by
    rw [lastFired_after, lastFired_armedAt]
  have due (stage : Stage) : stage ∈ (((armedAt start).after earlier).fire now).1 ↔
      (lastOf start ((armedAt start).outcomes earlier) stage).toNat + stage.period ≤ now.toNat := by
    rw [← remembered stage]
    exact mem_due_iff _ now stage
  exact {
    ascending := Stage.pairwise_period.filter _
    due := due
    words := fun stage => (due stage).trans (period_le_elapsed_iff stage _ now).symm
    rearmed := lastFired_fire _ now }

/-- A stage of a scheduler that was armed at a start fires no more often than its period fits
between the start and the greatest reading. -/
theorem length_firingsOf_le (start greatest : UInt64) {readings : List UInt64}
    (bound : ∀ reading ∈ readings, reading ≤ greatest) (stage : Stage) :
    (firingsOf stage ((armedAt start).outcomes readings)).length ≤
      (greatest.toNat - start.toNat) / stage.period := by
  have below : ∀ reading ∈ readings.map UInt64.toNat, reading ≤ greatest.toNat := by
    simpa only [List.forall_mem_map, UInt64.le_iff_toNat_le] using bound
  have alone := (armedAt start).firingsOf_outcomes stage readings
  have fits := stage.length_firings_mul_period_le start.toNat greatest.toNat below
  rw [lastFired_armedAt] at alone
  rw [← alone, List.length_map] at fits
  exact (Nat.le_div_iff_mul_le stage.period_pos).mpr fits

/-- What holds of neighbouring firings of a stage by itself holds of those in a scheduler that was
armed at a start. -/
theorem isChain_firingsOf {start : UInt64} {stage : Stage} {readings : List UInt64}
    {related : Nat → Nat → Prop}
    (alone : (start.toNat :: stage.firings start.toNat (readings.map UInt64.toNat)).IsChain
      related) :
    (start :: firingsOf stage ((armedAt start).outcomes readings)).IsChain fun one next =>
      related one.toNat next.toNat := by
  have same := (armedAt start).firingsOf_outcomes stage readings
  rw [lastFired_armedAt] at same
  rw [← same, ← List.map_cons, List.isChain_map] at alone
  exact alone

/-- Whatever the clock shows, each reading fires the stages that are due; so a stage fires never
sooner than its period, nor more often than its period fits into the time, and late only by as much
as the readings are apart. -/
theorem keeps_cadence (start : UInt64) (readings : List UInt64) : Cadence start readings where
  serves earlier now _ _ := serves_after start earlier now
  spaced stage := isChain_firingsOf (stage.spaced_firings start.toNat _)
  bounded stage greatest bound := length_firingsOf_le start greatest bound stage
  idle bound stage := by
    have none := length_firingsOf_le start start bound stage
    rw [Nat.sub_self, Nat.zero_div] at none
    exact List.length_eq_zero_iff.mp (Nat.le_zero.mp none)
  prompt gap close stage := by
    have positive := stage.period_pos
    have numbers : (start.toNat :: readings.map UInt64.toNat).IsChain
        fun one next => next ≤ one + gap := by
      rw [← List.map_cons, List.isChain_map]
      exact close
    exact isChain_firingsOf (stage.prompt_firings start.toNat start.toNat _ (by omega) numbers)

/-! ### A steady clock -/

/-- The reading at a tick of a clock that advances evenly; the start is tick zero. -/
def tick (start : UInt64) (length number : Nat) : UInt64 :=
  UInt64.ofNat (start.toNat + number * length)

/-- The readings at the first ticks after the start. -/
def ticks (start : UInt64) (length count : Nat) : List UInt64 :=
  (List.range count).map fun number => tick start length (number + 1)

/-- The number of ticks from one firing of a stage to the next: its period in ticks, rounded up. -/
def ticksApart (stage : Stage) (length : Nat) : Nat := stage.period ⌈/⌉ length

variable {start : UInt64} {length : Nat}

/-- One more tick comes last. -/
theorem ticks_succ (count : Nat) :
    ticks start length (count + 1) =
      ticks start length count ++ [tick start length (count + 1)] := by
  simp [ticks, List.range_succ]

/-- One more reading is served last. -/
theorem after_append_singleton (scheduler : Scheduler) (readings : List UInt64) (now : UInt64) :
    scheduler.after (readings ++ [now]) = ((scheduler.after readings).fire now).2 := by
  simp [after]

/-- One more reading adds its firing last. -/
theorem firingsOf_append_singleton (scheduler : Scheduler) (stage : Stage)
    (readings : List UInt64) (now : UInt64) :
    firingsOf stage (scheduler.outcomes (readings ++ [now])) =
      firingsOf stage (scheduler.outcomes readings) ++
        if stage ∈ ((scheduler.after readings).fire now).1 then [now] else [] := by
  induction readings generalizing scheduler with
  | nil => exact firingsOf_outcomes_cons scheduler stage now []
  | cons first rest ih =>
    have further : _ = _ ++
        if stage ∈ ((scheduler.after (first :: rest)).fire now).1 then _ else _ :=
      ih (scheduler.fire first).2
    rw [List.cons_append, firingsOf_outcomes_cons, firingsOf_outcomes_cons, further]
    by_cases fires : stage ∈ scheduler.due first
    · rw [if_pos fires, if_pos fires, List.cons_append]
    · rw [if_neg fires, if_neg fires]

/-- If the word can hold a tick, it can hold the ticks before. -/
theorem fits_of_le {number count : Nat} (within : number ≤ count)
    (fits : start.toNat + count * length < UInt64.size) :
    start.toNat + number * length < UInt64.size := by
  have product := Nat.mul_le_mul_right length within
  omega

/-- A tick that the word can hold is read as it is. -/
theorem toNat_tick {number : Nat} (fits : start.toNat + number * length < UInt64.size) :
    (tick start length number).toNat = start.toNat + number * length :=
  UInt64.toNat_ofNat_of_lt fits

/-- Stages are at least one tick apart. -/
theorem ticksApart_pos (stage : Stage) (positive : 0 < length) : 0 < ticksApart stage length := by
  rw [Nat.pos_iff_ne_zero]
  intro none
  have covered := (ceilDiv_le_iff_le_mul positive).mp (Nat.le_of_eq none)
  have period := stage.period_pos
  omega

/-- A number is one short of a multiple exactly if its remainder is the greatest there is. -/
theorem le_mod_succ_iff_dvd {divisor : Nat} (positive : 0 < divisor) (number : Nat) :
    divisor ≤ number % divisor + 1 ↔ divisor ∣ number + 1 := by
  have whole := Nat.div_add_mod number divisor
  have small := Nat.mod_lt number positive
  have remains : divisor ∣ divisor * (number / divisor) + (number % divisor + 1) ↔
      divisor ∣ number % divisor + 1 :=
    Nat.dvd_add_right (Nat.dvd_mul_right divisor (number / divisor))
  rw [← Nat.add_assoc, whole] at remains
  rw [remains]
  constructor
  · intro full
    have exact : number % divisor + 1 = divisor := by omega
    rw [exact]
  · exact Nat.le_of_dvd (Nat.succ_pos _)

/-- A stage that last fired at the latest multiple is due at the next tick if that is one, too. -/
theorem due_tick_iff (stage : Stage) (positive : 0 < length) {number : Nat}
    (fits : start.toNat + (number + 1) * length < UInt64.size) :
    (tick start length (number / ticksApart stage length * ticksApart stage length)).toNat +
        stage.period ≤ (tick start length (number + 1)).toNat ↔
      ticksApart stage length ∣ number + 1 := by
  have apart := ticksApart_pos stage positive
  have latest := Nat.div_mul_le_self number (ticksApart stage length)
  rw [toNat_tick (fits_of_le (by omega) fits), toNat_tick fits, ← le_mod_succ_iff_dvd apart number]
  have since : (number + 1) * length = number / ticksApart stage length * ticksApart stage length *
      length + length * (number % ticksApart stage length + 1) := by
    have whole := Nat.div_add_mod' number (ticksApart stage length)
    rw [Nat.mul_comm length (_ + 1), ← Nat.add_mul, ← Nat.add_assoc, whole]
  have rounded : ticksApart stage length ≤ number % ticksApart stage length + 1 ↔
      stage.period ≤ length * (number % ticksApart stage length + 1) :=
    ceilDiv_le_iff_le_mul positive
  rw [rounded, since]
  omega

/-- After some ticks a stage has last fired at the latest of them whose number is a multiple. -/
theorem lastFired_after_ticks {scheduler : Scheduler} {stage : Stage}
    (armed : scheduler.lastFired stage = start) (positive : 0 < length) {count : Nat}
    (fits : start.toNat + count * length < UInt64.size) :
    (scheduler.after (ticks start length count)).lastFired stage =
      tick start length (count / ticksApart stage length * ticksApart stage length) := by
  induction count with
  | zero => simp [ticks, after, tick, armed]
  | succ number ih =>
    have before := ih (fits_of_le (Nat.le_succ number) fits)
    rw [ticks_succ, after_append_singleton, lastFired_fire, before, Nat.succ_div]
    have due := mem_due_iff (scheduler.after (ticks start length number))
      (tick start length (number + 1)) stage
    rw [before, due_tick_iff stage positive fits] at due
    by_cases multiple : ticksApart stage length ∣ number + 1
    · have full := Nat.div_mul_cancel multiple
      rw [Nat.succ_div, if_pos multiple] at full
      rw [if_pos (due.mpr multiple), if_pos multiple, full]
    · rw [if_neg fun early => multiple (due.mp early), if_neg multiple, Nat.add_zero]

/-- After the ticks before it, a tick fires a stage if its number is a multiple. -/
theorem mem_fire_tick_iff {scheduler : Scheduler} {stage : Stage}
    (armed : scheduler.lastFired stage = start) (positive : 0 < length) {number : Nat}
    (fits : start.toNat + (number + 1) * length < UInt64.size) :
    stage ∈ ((scheduler.after (ticks start length number)).fire
      (tick start length (number + 1))).1 ↔ ticksApart stage length ∣ number + 1 := by
  have due := mem_due_iff (scheduler.after (ticks start length number))
    (tick start length (number + 1)) stage
  have earlier := fits_of_le (Nat.le_succ number) fits
  rw [lastFired_after_ticks armed positive earlier, due_tick_iff stage positive fits] at due
  exact due

/-- Some ticks fire a stage as often as there are multiples among their numbers. -/
theorem length_firingsOf_ticks {scheduler : Scheduler} {stage : Stage}
    (armed : scheduler.lastFired stage = start) (positive : 0 < length) {count : Nat}
    (fits : start.toNat + count * length < UInt64.size) :
    (firingsOf stage (scheduler.outcomes (ticks start length count))).length =
      count / ticksApart stage length := by
  induction count with
  | zero => simp [ticks, outcomes, firingsOf]
  | succ number ih =>
    have before := ih (fits_of_le (Nat.le_succ number) fits)
    have fires := mem_fire_tick_iff armed positive fits
    rw [ticks_succ, firingsOf_append_singleton, List.length_append, before, Nat.succ_div]
    by_cases multiple : ticksApart stage length ∣ number + 1
    · rw [if_pos (fires.mpr multiple), if_pos multiple, List.length_singleton]
    · rw [if_neg (mt fires.mp multiple), if_neg multiple, List.length_nil]

/-- A clock that advances evenly fires a stage at the ticks whose number is a multiple of the ticks
apart, and at no other, whatever the other stages do. -/
theorem steady_rate {scheduler : Scheduler} {stage : Stage}
    (armed : scheduler.lastFired stage = start) (positive : 0 < length) {count : Nat}
    (fits : start.toNat + count * length < UInt64.size) :
    (∀ number < count, stage ∈ ((scheduler.after (ticks start length number)).fire
      (tick start length (number + 1))).1 ↔ ticksApart stage length ∣ number + 1) ∧
    (firingsOf stage (scheduler.outcomes (ticks start length count))).length =
      count / ticksApart stage length := by
  refine ⟨fun number early => ?_, length_firingsOf_ticks armed positive fits⟩
  have within : number + 1 ≤ count := early
  exact mem_fire_tick_iff armed positive (fits_of_le within fits)

/-- Ticks of one and a half seconds fire the five-second stage at every fourth of them. -/
theorem steady_rate_uneven :
    ((armedAt 7).lastFired .every5s = 7 ∧ 0 < 1500 ∧
      (7 : UInt64).toNat + 9 * 1500 < UInt64.size) ∧
    (∀ number < 9, .every5s ∈ (((armedAt 7).after (ticks 7 1500 number)).fire
      (tick 7 1500 (number + 1))).1 ↔ 4 ∣ number + 1) ∧
    (firingsOf .every5s ((armedAt 7).outcomes (ticks 7 1500 9))).length = 2 := by
  have armed : (armedAt 7).lastFired .every5s = 7 := lastFired_armedAt 7 .every5s
  have fits : (7 : UInt64).toNat + 9 * 1500 < UInt64.size := by decide
  exact ⟨⟨armed, by decide, fits⟩, steady_rate armed (by decide) fits⟩

end Scheduler

end Overseer
