import Overseer.Stage

/-!
# Interval scheduler

Each stage remembers the clock reading at which it last fired. A stage is due when at least its
period has passed since then; firing re-arms it at the current reading, so a stage that was due
several times over fires once. A reading before the last firing never makes a stage due.
-/
namespace Overseer

/-- The clock reading, in milliseconds, at which each stage last fired or was armed. -/
structure Scheduler where
  /-- One reading for each stage, in listing order. -/
  readings : Vector UInt64 Stage.count
deriving DecidableEq, Repr

namespace Scheduler

/-- Every stage armed at one reading. -/
def armedAt (now : UInt64) : Scheduler := ⟨.replicate _ now⟩

/-- The reading at which a stage last fired or was armed. -/
def lastFired (scheduler : Scheduler) (stage : Stage) : UInt64 :=
  scheduler.readings[stage.position]

/-- Whether at least the stage's period has passed since it last fired. -/
def isDue (scheduler : Scheduler) (now : UInt64) (stage : Stage) : Bool :=
  (scheduler.lastFired stage).toNat + stage.period ≤ now.toNat

/-- The due stages, in ascending order of period. -/
def due (scheduler : Scheduler) (now : UInt64) : List Stage :=
  Stage.all.filter (scheduler.isDue now)

/-- Re-arm one stage. -/
def rearm (scheduler : Scheduler) (now : UInt64) (stage : Stage) : Scheduler :=
  ⟨scheduler.readings.set stage.position now⟩

/-- Fire every due stage: the stages fired, ascending, and the scheduler with those re-armed. -/
def fire (scheduler : Scheduler) (now : UInt64) : List Stage × Scheduler :=
  (scheduler.due now, (scheduler.due now).foldl (·.rearm now) scheduler)

@[simp] theorem lastFired_armedAt (now : UInt64) (stage : Stage) :
    (armedAt now).lastFired stage = now := by
  simp [armedAt, lastFired]

@[simp] theorem lastFired_rearm (scheduler : Scheduler) (now : UInt64) (stage other : Stage) :
    (scheduler.rearm now stage).lastFired other =
      if stage = other then now else scheduler.lastFired other := by
  by_cases same : stage = other
  · subst same
    simp [rearm, lastFired]
  · have different : (stage.position : Nat) ≠ other.position := fun equal =>
      same (Stage.position_injective (Fin.ext equal))
    simp [rearm, lastFired, same, different]

/-- A stage is among the due ones exactly when its period has passed since it last fired. -/
theorem mem_due_iff (scheduler : Scheduler) (now : UInt64) (stage : Stage) :
    stage ∈ scheduler.due now ↔
      (scheduler.lastFired stage).toNat + stage.period ≤ now.toNat := by
  simp [due, Stage.mem_all, isDue]

/-- After firing, a stage that was due carries the current reading and another one its old one. -/
theorem lastFired_fire (scheduler : Scheduler) (now : UInt64) (stage : Stage) :
    (scheduler.fire now).2.lastFired stage =
      if stage ∈ scheduler.due now then now else scheduler.lastFired stage := by
  have rearmed : ∀ (stages : List Stage) (start : Scheduler),
      (stages.foldl (·.rearm now) start).lastFired stage =
        if stage ∈ stages then now else start.lastFired stage := by
    intro stages
    induction stages with
    | nil => simp
    | cons first rest ih =>
      intro start
      simp only [List.foldl_cons, ih, lastFired_rearm, List.mem_cons]
      by_cases isFirst : first = stage
      · simp [isFirst]
      · simp [isFirst, Ne.symm isFirst]
  rw [fire, rearmed]

end Scheduler

end Overseer
