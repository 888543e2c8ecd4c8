import Overseer.Proofs.Cadence
import Overseer.Proofs.Stored
import Overseer.Proofs.Timeless

/-!
# Crash loops over the life of a device

The boots of a device hand one number on: the stored boot counter. `CrashLoop.Model` says what a
boot makes of it, given the cause of the reset and the readings of the clock; over any boots, with
any adapters and commands that leave the counter alone, the supervisor agrees with it
(`CrashLoop.lifetime_eq`). Between the start of a boot and its end the counter changes at most once,
to zero, and detector and flash agree on it throughout (`Counts`).
-/
namespace Overseer

variable {σ : Type}

/-- A step that leaves the stored counter alone, and the failures of writing it. -/
structure Spares (before after : Environment) : Prop where
  counter : after.board.store.flash.bootCounter = before.board.store.flash.bootCounter
  fault : after.board.store.counterFault = before.board.store.counterFault

/-- Commands whose handler never stores the boot counter. -/
def Command.SparesCounter (command : Command) : Prop :=
  ∀ args, (command.handler args).Only (· ≠ .setBootCounter)

namespace Spares

theorem refl (environment : Environment) : Spares environment environment := ⟨rfl, rfl⟩

theorem trans (first second third : Environment) (earlier : Spares first second)
    (later : Spares second third) : Spares first third :=
  ⟨later.counter.trans earlier.counter, later.fault.trans earlier.fault⟩

/-- Overriding the configuration, or failing to, leaves the counter alone. -/
theorem store_override (store : Store) (overrides : Json) :
    (store.override overrides).value.2.flash.bootCounter = store.flash.bootCounter ∧
      (store.override overrides).value.2.counterFault = store.counterFault := by
  unfold Store.override
  split
  · exact ⟨rfl, rfl⟩
  · exact ⟨store.flash.bootCounter_override overrides, rfl⟩

/-- Saving a configuration, or failing to, leaves the counter alone. -/
theorem store_save (store : Store) (config : Config) :
    (store.save config).value.2.flash.bootCounter = store.flash.bootCounter ∧
      (store.save config).value.2.counterFault = store.counterFault := by
  unfold Store.save
  split
  · exact ⟨rfl, rfl⟩
  · exact ⟨store.flash.bootCounter_save config, rfl⟩

/-- Erasing the configuration, or failing to, leaves the counter alone. -/
theorem store_reset (store : Store) :
    store.reset.value.2.flash.bootCounter = store.flash.bootCounter ∧
      store.reset.value.2.counterFault = store.counterFault := by
  unfold Store.reset
  split
  · exact ⟨rfl, rfl⟩
  · exact ⟨store.flash.bootCounter_reset, rfl⟩

/-- Every operation but one leaves the stored counter alone. -/
theorem operation {actor : Actor} {verb : Verb} {before after : Environment}
    (other : verb ≠ .setBootCounter) (operation : Operation actor verb before after) :
    Spares before after := by
  cases operation with
  | setBootCounter => contradiction
  | save _ config =>
    have kept := store_save before.board.store config
    exact ⟨kept.1, kept.2⟩
  | override _ overrides =>
    have kept := store_override before.board.store overrides
    exact ⟨kept.1, kept.2⟩
  | resetConfig =>
    have kept := store_reset before.board.store
    exact ⟨kept.1, kept.2⟩
  | log | clock | inspect | elapse | notify | submit | commands | requestRestart | bootCounter |
    load | driveLed => exact ⟨rfl, rfl⟩

/-- Whatever a pass does but for the work of the detector leaves the stored counter alone, if the
commands do. -/
theorem spansPass : SpansPass Command.SparesCounter Spares where
  refl := refl
  trans := trans
  say _ _ := ⟨rfl, rfl⟩
  call _ _ _ := ⟨rfl, rfl⟩
  operation _ verb _ _ isCallback operation := by
    refine Spares.operation ?_ operation
    rintro rfl
    exact isCallback.elim
  handler command args environment spares :=
    Program.run_relates Spares (spares args) refl trans
      (fun _ _ _ other operation => Spares.operation other operation) environment
  notify _ _ := ⟨rfl, rfl⟩
  takeJob environment := by
    unfold Environment.takeJob
    split
    · exact refl _
    · exact ⟨rfl, rfl⟩
  takeEvents _ := ⟨rfl, rfl⟩
  hook _ _ := ⟨rfl, rfl⟩
  withdraw _ := ⟨rfl, rfl⟩
  restart _ := ⟨rfl, rfl⟩

end Spares

/-! ### One boot -/

/-- Flash has a counter, and it can be written. -/
structure Stores (counter : UInt32) (environment : Environment) : Prop where
  stored : environment.board.store.flash.bootCounter.value = counter
  writable : environment.board.store.counterFault = none

/-- The detector has the same counter. -/
structure Counts (counter : UInt32) (detector : Detector) (environment : Environment) : Prop
    extends Stores counter environment where
  known : detector.bootCounter = counter

/-- What leaves the stored counter alone leaves it in flash. -/
theorem Stores.spares {counter : UInt32} {before after : Environment}
    (stores : Stores counter before) (spares : Spares before after) : Stores counter after where
  stored := by rw [spares.counter, stores.stored]
  writable := spares.fault.trans stores.writable

/-- What leaves the stored counter alone keeps the agreement. -/
theorem Counts.spares {counter : UInt32} {detector : Detector} {before after : Environment}
    (counts : Counts counter detector before) (spares : Spares before after) :
    Counts counter detector after := ⟨counts.toStores.spares spares, counts.known⟩

/-- The counter after stages were served: it is cleared by the stage of five seconds, once the
device was up for longer than the stable time. -/
def servedCounter (stable : UInt32) (uptime : UInt64) (stages : List Stage) (counter : UInt32) :
    UInt32 :=
  if .every5s ∈ stages ∧ stable.toNat < uptime.toNat then 0 else counter

/-- The counter is cleared exactly when that changes it. -/
theorem servedCounter_eq {detector : Detector} {stage : Stage} {uptime : UInt64} :
    servedCounter detector.stableSeconds uptime [stage] detector.bootCounter =
      if detector.clears stage uptime then 0 else detector.bootCounter := by
  by_cases zero : detector.bootCounter = 0
  · simp [servedCounter, zero]
  · have positive : 0 < detector.bootCounter := UInt32.pos_iff_ne_zero.mpr zero
    by_cases due : Stage.every5s = stage
    · simp [servedCounter, Detector.clears, positive, ← due]
    · simp [servedCounter, Detector.clears, due, Ne.symm due]

/-- The hook of a stage clears the counter if it is the stage of five seconds, and the device was up
for longer than the stable time. -/
theorem Counts.hook {counter : UInt32} {detector : Detector} {environment : Environment}
    (counts : Counts counter detector environment) (uptime : UInt64) (stage : Stage) :
    Counts (servedCounter detector.stableSeconds uptime [stage] counter)
      (detector.onInterval stage uptime environment.board).1
      { environment with board := (detector.onInterval stage uptime environment.board).2 } := by
  obtain ⟨⟨stored, writable⟩, rfl⟩ := counts
  have worked := detector.onInterval_worked stage uptime environment.board
  have counter := worked.bootCounter
  have store := worked.store
  rw [servedCounter_eq]
  cases clears : detector.clears stage uptime with
  | false =>
    simp only [clears, Bool.false_eq_true, false_and, ↓reduceIte] at counter store ⊢
    exact ⟨⟨by rw [store, stored], by rw [store, writable]⟩, counter⟩
  | true =>
    simp only [clears, writable, and_self, ↓reduceIte] at counter store ⊢
    simp only [Store.setBootCounter, writable] at store
    refine ⟨⟨?_, by rw [store]⟩, counter⟩
    rw [store]
    exact Flash.bootCounter_setBootCounter _ _

/-- The service of a stage clears the counter as its hook does. -/
theorem Counts.serveStage {counter : UInt32} {supervisor : Supervisor σ}
    (counts : Counts counter supervisor.detector supervisor.environment) (uptime : UInt64)
    (safe : Bool) (stage : Stage) :
    Counts (servedCounter supervisor.detector.stableSeconds uptime [stage] counter)
      (supervisor.serveStage uptime safe stage).detector
      (supervisor.serveStage uptime safe stage).environment := by
  have noted := counts.spares (Spares.spansPass.hook _ stage)
  have hooked := noted.hook uptime stage
  rw [Supervisor.detector_serveStage]
  exact hooked.spares (Spares.spansPass.across_serveStage uptime safe supervisor stage)

/-- The stages in turn clear the counter if one of them does. -/
theorem Counts.serveEach {counter : UInt32} {supervisor : Supervisor σ}
    (counts : Counts counter supervisor.detector supervisor.environment) (uptime : UInt64)
    (safe : Bool) (stages : List Stage) :
    let served := stages.foldl (Supervisor.serveStage uptime safe) supervisor
    Counts (servedCounter supervisor.detector.stableSeconds uptime stages counter)
        served.detector served.environment ∧
      served.detector.stableSeconds = supervisor.detector.stableSeconds := by
  induction stages generalizing supervisor counter with
  | nil => exact ⟨by simpa [servedCounter] using counts, rfl⟩
  | cons stage rest ih =>
    have first := counts.serveStage uptime safe stage
    have stable : (supervisor.serveStage uptime safe stage).detector.stableSeconds =
        supervisor.detector.stableSeconds := by
      rw [Supervisor.detector_serveStage]
      exact (supervisor.detector.onInterval_worked stage uptime _).stableSeconds
    obtain ⟨later, settings⟩ := ih first
    rw [stable] at later settings
    refine ⟨?_, settings⟩
    have both : servedCounter supervisor.detector.stableSeconds uptime rest
        (servedCounter supervisor.detector.stableSeconds uptime [stage] counter) =
          servedCounter supervisor.detector.stableSeconds uptime (stage :: rest) counter := by
      unfold servedCounter
      by_cases up : supervisor.detector.stableSeconds.toNat < uptime.toNat
      · by_cases first : Stage.every5s = stage
        · simp [up, first]
        · simp [up, first]
      · simp [up]
    rw [← both]
    exact later

/-- A pass clears the counter if the stage of five seconds is due in it, and the device was up for
longer than the stable time. -/
theorem Counts.pass {counter : UInt32} {supervisor : Supervisor σ}
    (counts : Counts counter supervisor.detector supervisor.environment)
    (knows : Knows Command.SparesCounter supervisor.environment) :
    Counts (servedCounter supervisor.detector.stableSeconds (supervisor.nextReading / 1000)
        supervisor.nextStages counter) supervisor.pass.2.detector supervisor.pass.2.environment ∧
      supervisor.pass.2.detector.stableSeconds = supervisor.detector.stableSeconds := by
  obtain ⟨fired, same, before, detector, after⟩ := Spares.spansPass.across_pass knows
  have agreed : Counts counter fired.detector fired.environment := by
    rw [same]
    exact counts.spares before
  obtain ⟨served, stable⟩ := agreed.serveEach (supervisor.nextReading / 1000)
    supervisor.detector.active supervisor.nextStages
  rw [same] at served stable
  rw [detector]
  exact ⟨served.spares after, stable⟩

/-! ### From pass to pass -/

/-- Writing the boot counter does not begin to fail in a turn. -/
def Turn.Writable (turn : Turn) : Prop :=
  ∀ faults, .faults faults ∈ turn.happened → faults.counter = none

/-- A turn in which writing does not fail leaves the counter in flash. -/
theorem Stores.meet {counter : UInt32} {environment : Environment}
    (stores : Stores counter environment) {turn : Turn} (writable : turn.Writable) :
    Stores counter (environment.meet turn) := by
  have single (environment : Environment) (stores : Stores counter environment)
      (occurrence : Occurrence)
      (writable : ∀ faults, occurrence = .faults faults → faults.counter = none) :
      Stores counter (environment.undergo occurrence) := by
    cases occurrence with
    | faults faults => exact ⟨stores.stored, writable faults rfl⟩
    | log | clock | submit | notify => exact ⟨stores.stored, stores.writable⟩
  have all (happened : List Occurrence)
      (writable : ∀ faults, .faults faults ∈ happened → faults.counter = none)
      (environment : Environment) (stores : Stores counter environment) :
      Stores counter (happened.foldl Environment.undergo environment) := by
    induction happened generalizing environment with
    | nil => exact stores
    | cons first rest ih =>
      refine ih (fun faults later => writable faults (List.mem_cons_of_mem _ later)) _ ?_
      exact single environment stores first fun faults same => writable faults (by simp [same])
  exact single _ (all turn.happened writable environment stores) _ fun _ other => by contradiction

/-- The counter after passes with these readings. -/
def passedCounter (stable : UInt32) (armed : UInt64) (readings : List UInt64) (counter : UInt32) :
    UInt32 :=
  if ∃ now ∈ Stage.every5s.firings armed.toNat (readings.map UInt64.toNat),
    stable.toNat < now / 1000 then 0 else counter

/-- One pass after another, the counter is cleared when the stage of five seconds fires for the
first time after the stable time. -/
theorem passedCounter_cons (stable : UInt32) (scheduler : Scheduler) (now : UInt64)
    (readings : List UInt64) (counter : UInt32) :
    passedCounter stable (scheduler.lastFired .every5s) (now :: readings) counter =
      passedCounter stable ((scheduler.fire now).2.lastFired .every5s) readings
        (servedCounter stable (now / 1000) (scheduler.due now) counter) := by
  have seconds : (now / 1000).toNat = now.toNat / 1000 := rfl
  unfold passedCounter servedCounter
  rw [Scheduler.lastFired_fire, seconds]
  by_cases due : Stage.every5s ∈ scheduler.due now
  · have fires := (scheduler.mem_due_iff now .every5s).mp due
    simp only [List.map_cons, Stage.firings, if_pos fires, due, true_and, List.mem_cons,
      exists_eq_or_imp, ↓reduceIte]
    by_cases up : stable.toNat < now.toNat / 1000
    · simp [up]
    · simp [up]
  · have waits := mt (scheduler.mem_due_iff now .every5s).mpr due
    simp only [List.map_cons, Stage.firings, if_neg waits, due, false_and, ↓reduceIte]

/-- The passes of a boot keep the agreement on the counter, and the mode. -/
theorem Counts.passes {counter : UInt32} {supervisor : Supervisor σ}
    (counts : Counts counter supervisor.detector supervisor.environment)
    (knows : Knows Command.SparesCounter supervisor.environment) {turns : List Turn}
    (writable : ∀ turn ∈ turns, turn.Writable) :
    let done := supervisor.passes turns
    Counts (passedCounter supervisor.detector.stableSeconds
        (supervisor.scheduler.lastFired .every5s) (done.1.map Passed.reading) counter)
        done.2.detector done.2.environment ∧
      done.1.map Passed.safe = List.replicate done.1.length supervisor.detector.active := by
  induction turns generalizing supervisor counter with
  | nil => exact ⟨by simpa [Supervisor.passes, passedCounter, Stage.firings] using counts, rfl⟩
  | cons turn rest ih =>
    let met := supervisor.meet turn
    have agreed : Counts counter met.detector met.environment :=
      ⟨counts.toStores.meet (writable turn List.mem_cons_self), counts.known⟩
    have known : Knows Command.SparesCounter met.environment := knows.meet turn
    obtain ⟨passed, stable⟩ := agreed.pass known
    obtain ⟨later, modes⟩ := ih passed known.pass
      fun turn member => writable turn (List.mem_cons_of_mem _ member)
    have settings : met.pass.2.detector.stableSeconds = supervisor.detector.stableSeconds := stable
    have active : met.pass.2.detector.active = supervisor.detector.active := met.active_pass
    have next := passedCounter_cons supervisor.detector.stableSeconds supervisor.scheduler
      met.nextReading ((met.pass.2.passes rest).1.map Passed.reading) counter
    rw [settings, met.scheduler_pass] at later
    rw [active] at modes
    refine ⟨?_, ?_⟩
    · change Counts (passedCounter _ _ (_ :: _) _) _ _
      rw [next]
      exact later
    · change _ :: _ = List.replicate (_ + 1) _
      rw [List.replicate_succ, ← modes, active]

/-! ### A whole boot -/

/-- Counting an abnormal reset in flash stores what the detector counts. -/
theorem Stores.boot {counter : UInt32} {supervisor : Supervisor σ}
    (stores : Stores counter supervisor.environment) :
    let booted := supervisor.evaluateBoot
    Counts (Detector.countAfter supervisor.environment.board.resetReason counter)
      booted.detector booted.environment := by
  obtain ⟨rfl, writable⟩ := stores
  have booted := supervisor.evaluateBoot_booted
  have store := booted.store
  refine ⟨?_, booted.bootCounter⟩
  unfold Detector.storeAfter at store
  unfold Detector.countAfter
  cases abnormal : supervisor.environment.board.resetReason.isAbnormal with
  | false =>
    rw [abnormal] at store
    exact ⟨congrArg (fun store => store.flash.bootCounter.value) store,
      (congrArg Store.counterFault store).trans writable⟩
  | true =>
    rw [abnormal] at store
    simp only [Store.setBootCounter, writable, ↓reduceIte] at store
    refine ⟨?_, congrArg Store.counterFault store⟩
    rw [store]
    exact Flash.bootCounter_setBootCounter _ _

namespace Boot

variable (boot : Boot σ) (store : Store)

/-- What the lifetimes of a device are about: writing the boot counter never fails, and no adapter
offers a command that stores it. -/
structure Sound : Prop where
  opening : boot.opening.Writable
  turns : ∀ turn ∈ boot.turns, turn.Writable
  spares : ∀ adapter, some adapter ∈ boot.adapters →
    ∀ command ∈ adapter.commands, command.SparesCounter

/-- The counter of the boot, given the stored one. -/
def counter (stored : UInt32) : UInt32 := Detector.countAfter boot.reason stored

variable {boot store}

/-- Commands of a sound boot leave the counter alone. -/
theorem Sound.knows (sound : boot.Sound) :
    Knows Command.SparesCounter (boot.opened store).environment := by
  refine boot.opened_knows store (fun command member args => ?_)
    fun adapter member command offered slot => sound.spares adapter member command offered
  refine (Core.only_isCore command member args).imp fun verb core => ?_
  rintro rfl
  exact core.elim

/-- When the platform has started, detector and flash agree on the counter of the boot, and the mode
is decided by it. -/
theorem Sound.started (sound : boot.Sound) (writable : store.counterFault = none) :
    Counts (boot.counter store.flash.bootCounter.value) (boot.started store).detector
        (boot.started store).environment ∧
      (boot.started store).detector.active =
        decide (boot.config.safeModeThreshold ≤ boot.counter store.flash.bootCounter.value) ∧
      (boot.started store).detector.stableSeconds = boot.config.stableSeconds := by
  have built : Stores store.flash.bootCounter.value (boot.builder store).build.environment := by
    obtain ⟨_, _, lines, said⟩ := boot.builder_reached store
    constructor
    · change (boot.builder store).environment.board.store.flash.bootCounter.value = _
      rw [said]
      rfl
    · change (boot.builder store).environment.board.store.counterFault = _
      rw [said]
      exact writable
  have opened : Stores store.flash.bootCounter.value (boot.opened store).environment :=
    built.meet sound.opening
  have counted := opened.boot
  rw [(boot.opened_board store).1] at counted
  have initialised := counted.spares
    (Spares.spansPass.across_initAdapters (boot.opened store).evaluateBoot)
  obtain ⟨_, active, stable, _⟩ := boot.started_detector store
  exact ⟨initialised.spares ⟨rfl, rfl⟩, active, stable⟩

/-- At the end of the boot they agree on what its passes made of the counter, and the mode was the
same in every pass. -/
theorem Sound.final (sound : boot.Sound) (writable : store.counterFault = none) :
    Counts (passedCounter boot.config.stableSeconds (boot.armed store) (boot.readings store)
        (boot.counter store.flash.bootCounter.value)) (boot.final store).detector
        (boot.final store).environment ∧
      (boot.passed store).map Passed.safe =
        List.replicate (boot.passed store).length (boot.started store).detector.active := by
  obtain ⟨counts, _, stable⟩ := sound.started writable
  have passes := counts.passes sound.knows.start sound.turns
  rw [stable, lastFired_started] at passes
  exact passes

end Boot

/-! ### The life of a device -/

namespace CrashLoop

/-- What decides about the counter in a boot. -/
structure Input where
  /-- The counter at which a boot is in safe mode. -/
  threshold : Nat
  /-- The seconds of uptime after which the counter is cleared. -/
  stable : Nat
  /-- Whether the reset was abnormal. -/
  abnormal : Bool
  /-- The clock at the start of the platform, in milliseconds. -/
  armed : Nat
  /-- The clock in each pass, in milliseconds. -/
  readings : List Nat

/-- What comes of it. -/
structure Outcome where
  /-- Whether safe mode is active: after the start, and after each pass. -/
  modes : List Bool
  /-- The counter that is stored at the end. -/
  stored : Nat
deriving DecidableEq

/-- The counter of a boot. -/
def Input.counter (input : Input) (stored : Nat) : Nat :=
  if input.abnormal then min (stored + 1) (UInt32.size - 1) else stored

/-- The reference model of one boot. -/
def Input.outcome (input : Input) (stored : Nat) : Outcome where
  modes := List.replicate (input.readings.length + 1) (input.threshold ≤ input.counter stored)
  stored :=
    if input.counter stored = 0 ∨ ∃ now ∈ Stage.every5s.firings input.armed input.readings,
      input.stable < now / 1000 then 0
    else input.counter stored

/-- The reference model of a life: every boot starts from what the one before stored. -/
def outcomes (stored : Nat) : List Input → List Outcome
  | [] => []
  | input :: rest => input.outcome stored :: outcomes (input.outcome stored).stored rest

end CrashLoop

namespace Boot

variable {boot : Boot σ} {store : Store}

/-- What decides about the counter in a boot, with the clock as the boot read it. -/
def input (boot : Boot σ) (store : Store) : CrashLoop.Input where
  threshold := boot.config.safeModeThreshold.toNat
  stable := boot.config.stableSeconds.toNat
  abnormal := boot.reason.isAbnormal
  armed := (boot.armed store).toNat
  readings := (boot.readings store).map UInt64.toNat

/-- The same, with the clock at each call. -/
def plan (boot : Boot σ) : CrashLoop.Input where
  threshold := boot.config.safeModeThreshold.toNat
  stable := boot.config.stableSeconds.toNat
  abnormal := boot.reason.isAbnormal
  armed := boot.opening.now.toNat
  readings := boot.turns.map fun turn => turn.now.toNat

/-- What came of the boot. -/
def outcome (boot : Boot σ) (store : Store) : CrashLoop.Outcome where
  modes := (boot.started store).detector.active :: (boot.passed store).map Passed.safe
  stored := (boot.left store).flash.bootCounter.value.toNat

/-- The detector counts as the reference model does. -/
theorem toNat_counter (boot : Boot σ) (store : Store) (stored : UInt32) :
    (boot.counter stored).toNat = (boot.input store).counter stored.toNat := by
  unfold counter Detector.countAfter CrashLoop.Input.counter
  change _ = if boot.reason.isAbnormal = true then _ else _
  split
  · exact Detector.toNat_increment stored
  · rfl

/-- A counter that is cleared, or was zero before, is zero. -/
theorem toNat_cleared (cleared : Prop) [Decidable cleared] (counter : UInt32) :
    (if cleared then 0 else counter).toNat =
      if counter.toNat = 0 ∨ cleared then 0 else counter.toNat := by
  by_cases clears : cleared
  · rw [if_pos clears, if_pos (.inr clears)]
    rfl
  · by_cases zero : counter.toNat = 0
    · rw [if_neg clears, if_pos (.inl zero), zero]
    · rw [if_neg clears, if_neg (not_or.mpr ⟨zero, clears⟩)]

/-- One boot agrees with the reference model, and leaves a store that can be written. -/
theorem Sound.outcome_eq (sound : boot.Sound) (writable : store.counterFault = none) :
    boot.outcome store = (boot.input store).outcome store.flash.bootCounter.value.toNat ∧
      (boot.left store).counterFault = none := by
  obtain ⟨_, mode, _⟩ := sound.started writable
  obtain ⟨final, modes⟩ := sound.final writable
  have count := boot.toNat_counter store store.flash.bootCounter.value
  have length : (boot.input store).readings.length = (boot.passed store).length := by
    simp [input, readings]
  refine ⟨?_, final.writable⟩
  unfold outcome CrashLoop.Input.outcome
  congr 1
  · rw [modes, length, List.replicate_succ, mode, ← count]
    simp only [UInt32.le_iff_toNat_le, input]
    rfl
  · change (boot.final store).environment.board.store.flash.bootCounter.value.toNat = _
    rw [final.stored, ← count, passedCounter]
    exact toNat_cleared _ _

/-- The boots of a device, each from what the one before left: what decided about the counter, and
what came of it. -/
def life : List (Boot σ) → Store → List (CrashLoop.Input × CrashLoop.Outcome)
  | [], _ => []
  | boot :: rest, store => (boot.input store, boot.outcome store) :: life rest (boot.left store)

end Boot

namespace CrashLoop

/-- Crash-loop detection over the life of a device. Over any boots that never fail to write the
counter, with any adapters and commands that leave it alone, the modes and the stored counters are
those of the reference model, from one boot to the next. When nothing takes time, the clock that
decides is the one at the start and at each pass. -/
theorem lifetime_eq (boots : List (Boot σ)) (store : Store) (writable : store.counterFault = none)
    (sound : ∀ boot ∈ boots, boot.Sound) :
    (Boot.life boots store).map Prod.snd =
        outcomes store.flash.bootCounter.value.toNat ((Boot.life boots store).map Prod.fst) ∧
      ((∀ boot ∈ boots, boot.Timeless) →
        (Boot.life boots store).map Prod.fst = boots.map Boot.plan) := by
  induction boots generalizing store with
  | nil => exact ⟨rfl, fun _ => rfl⟩
  | cons boot rest ih =>
    obtain ⟨outcome, left⟩ := (sound boot List.mem_cons_self).outcome_eq writable
    obtain ⟨later, plans⟩ := ih (boot.left store) left
      fun other member => sound other (List.mem_cons_of_mem _ member)
    have next : (boot.left store).flash.bootCounter.value.toNat =
        ((boot.input store).outcome store.flash.bootCounter.value.toNat).stored :=
      congrArg Outcome.stored outcome
    rw [next] at later
    constructor
    · simp only [Boot.life, List.map_cons, outcomes, outcome, later]
    · intro timeless
      have own := timeless boot List.mem_cons_self
      have plan : boot.input store = boot.plan := by
        have readings : boot.readings store = boot.turns.map Turn.now :=
          Boot.readings_of_timeless own
        have armed : boot.armed store = boot.opening.now := own.started.2
        simp only [Boot.input, Boot.plan, readings, armed, List.map_map]
        rfl
      rw [Boot.life, List.map_cons, List.map_cons, plan]
      rw [plans fun other member => timeless other (List.mem_cons_of_mem _ member)]

/-- A boot after a panic, with two passes, and one after a loss of power. -/
def fifthCrash : List (Boot Unit) :=
  [{ reason := .panic, opening := { now := 0 }, turns := [{ now := 5000 }, { now := 61000 }] },
    { reason := .powerOn, opening := { now := 0 }, turns := [{ now := 5000 }] }]

/-- Flash after four crashes. -/
def crashed : Store where
  flash := ({} : Flash).setBootCounter 4

/-- The fifth crash leads to safe mode, which lasts for the boot though its second pass clears the
counter. The next boot is a normal one. -/
theorem lifetime_eq_fifth :
    (Boot.life fifthCrash crashed).map Prod.snd =
      [⟨[true, true, true], 0⟩, ⟨[false, false], 0⟩] := by
  have plain : ∀ boot ∈ fifthCrash, boot.adapters = [] ∧ boot.opening.happened = [] ∧
      ∀ turn ∈ boot.turns, turn.happened = [] := by
    intro boot member
    simp only [fifthCrash, List.mem_cons, List.not_mem_nil, or_false] at member
    rcases member with rfl | rfl <;> simp
  have sound : ∀ boot ∈ fifthCrash, boot.Sound := by
    intro boot member
    obtain ⟨adapters, opening, turns⟩ := plain boot member
    constructor
    · simp [Turn.Writable, opening]
    · intro turn later
      simp [Turn.Writable, turns turn later]
    · simp [adapters]
  have timeless : ∀ boot ∈ fifthCrash, boot.Timeless := by
    intro boot member
    constructor <;> simp [(plain boot member).1]
  obtain ⟨model, plans⟩ := lifetime_eq fifthCrash crashed rfl sound
  rw [model, plans timeless]
  decide

end CrashLoop

end Overseer
