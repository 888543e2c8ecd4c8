/-!
# Interval stages

Ten fixed cadences drive all periodic work. Their listing is in ascending order of period, and the
position of a stage in it is also its number in the stored configuration.
-/
namespace Overseer

/-- A fixed cadence of periodic work. -/
inductive Stage where
  | every1s
  | every2s
  | every5s
  | every10s
  | every30s
  | every60s
  | every5m
  | every10m
  | every2h
  | every12h
deriving DecidableEq, Repr

namespace Stage

/-- The number of stages. -/
abbrev count : Nat := 10

/-- Every stage, in ascending order of period. -/
def all : List Stage :=
  [.every1s, .every2s, .every5s, .every10s, .every30s, .every60s, .every5m, .every10m, .every2h,
    .every12h]

/-- The time between two firings, in milliseconds. -/
def period : Stage → Nat
  | .every1s => 1000
  | .every2s => 2000
  | .every5s => 5000
  | .every10s => 10000
  | .every30s => 30000
  | .every60s => 60000
  | .every5m => 300000
  | .every10m => 600000
  | .every2h => 7200000
  | .every12h => 43200000

/-- The short name shown to people. -/
def label : Stage → String
  | .every1s => "1s"
  | .every2s => "2s"
  | .every5s => "5s"
  | .every10s => "10s"
  | .every30s => "30s"
  | .every60s => "60s"
  | .every5m => "5m"
  | .every10m => "10m"
  | .every2h => "2h"
  | .every12h => "12h"

/-- The name used in configurations. -/
def name : Stage → String
  | .every1s => "Every1s"
  | .every2s => "Every2s"
  | .every5s => "Every5s"
  | .every10s => "Every10s"
  | .every30s => "Every30s"
  | .every60s => "Every60s"
  | .every5m => "Every5m"
  | .every10m => "Every10m"
  | .every2h => "Every2h"
  | .every12h => "Every12h"

/-- The stage of a configuration name. -/
def ofName? (name : String) : Option Stage := all.find? fun stage => stage.name == name

/-- The position in the listing. -/
def position : Stage → Fin count
  | .every1s => 0
  | .every2s => 1
  | .every5s => 2
  | .every10s => 3
  | .every30s => 4
  | .every60s => 5
  | .every5m => 6
  | .every10m => 7
  | .every2h => 8
  | .every12h => 9

/-- The stage at a position of the listing, if there is one. -/
def ofPosition? (position : Nat) : Option Stage := all[position]?

/-- Every stage is listed. -/
theorem mem_all (stage : Stage) : stage ∈ all := by cases stage <;> decide

/-- The name of a stage is read back as that stage. -/
@[simp] theorem ofName?_name (stage : Stage) : ofName? stage.name = some stage := by
  cases stage <;> decide

/-- Only a stage's own name is read as that stage. -/
theorem name_of_ofName? {text : String} {stage : Stage} (found : ofName? text = some stage) :
    stage.name = text := by
  simpa using List.find?_some found

/-- The position of a stage is read back as that stage. -/
@[simp] theorem ofPosition?_position (stage : Stage) :
    ofPosition? stage.position = some stage := by
  cases stage <;> rfl

/-- Different stages have different positions. -/
theorem position_injective {left right : Stage} (same : left.position = right.position) :
    left = right := by
  have found := congrArg (fun position : Fin count => ofPosition? position) same
  simpa using found

/-- Every period is positive. -/
theorem period_pos (stage : Stage) : 0 < stage.period := by cases stage <;> decide

/-- The listing ascends strictly by period. -/
theorem pairwise_period : all.Pairwise fun earlier later => earlier.period < later.period := by
  decide

end Stage

end Overseer
