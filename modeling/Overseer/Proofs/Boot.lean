import Overseer.Proofs.Commands
import Overseer.Proofs.Pass

/-!
# Boots

A boot starts from what the boots before it left in flash. It is given by the cause of the reset, by
the adapters that are registered, and by what happens beside the loop up to the start of the
platform and from one pass to the next; each of these turns ends with a reading of the clock. The
lemmas say across which parts of a boot a relation holds that the operations of its programs keep.
-/
namespace Overseer

variable {σ : Type}

/-- What happens beside the loop before a call of its owner, and the clock at the call. -/
structure Turn where
  /-- What happens. -/
  happened : List Occurrence := []
  /-- The clock. -/
  now : UInt64

/-- A boot: everything but what is stored. -/
structure Boot (σ : Type) where
  /-- The configuration. -/
  config : Config := {}
  /-- Why the chip started. -/
  reason : ResetReason := .powerOn
  /-- The firmware image. -/
  firmware : Firmware := {}
  /-- The LED. -/
  led : Led := {}
  /-- The adapters, in the order of their registration. -/
  adapters : List (Option (Adapter σ)) := []
  /-- What happens before the platform starts. -/
  opening : Turn
  /-- What happens before each pass. -/
  turns : List Turn

/-- The environment after a turn. -/
def Environment.meet (environment : Environment) (turn : Turn) : Environment :=
  (turn.happened.foldl Environment.undergo environment).undergo (.clock turn.now)

/-- The supervisor after a turn. -/
def Supervisor.meet (supervisor : Supervisor σ) (turn : Turn) : Supervisor σ :=
  { supervisor with environment := supervisor.environment.meet turn }

/-- What one pass of a boot looked like from outside. -/
structure Passed where
  /-- The clock as the pass read it for its stages. -/
  reading : UInt64
  /-- Whether safe mode is active after the pass. -/
  safe : Bool

/-- A pass for each turn: what the passes looked like, and the supervisor after them. -/
def Supervisor.passes (supervisor : Supervisor σ) : List Turn → List Passed × Supervisor σ
  | [] => ([], supervisor)
  | turn :: rest =>
    let met := supervisor.meet turn
    let (passed, final) := met.pass.2.passes rest
    (⟨met.nextReading, met.pass.2.detector.active⟩ :: passed, final)

namespace Boot

/-- The device at the reset. -/
def board (boot : Boot σ) (store : Store) : Board where
  store := store
  firmware := boot.firmware
  resetReason := boot.reason
  led := boot.led

/-- The builder, once every adapter is registered. -/
def builder (boot : Boot σ) (store : Store) : Builder σ :=
  boot.adapters.foldl (fun builder adapter => (builder.register adapter).2)
    (Builder.onBoard boot.config (boot.board store))

/-- The supervisor when the platform is to start. -/
def opened (boot : Boot σ) (store : Store) : Supervisor σ :=
  (boot.builder store).build.meet boot.opening

/-- The supervisor when the platform has started. -/
def started (boot : Boot σ) (store : Store) : Supervisor σ := (boot.opened store).start

/-- The reading at which the start armed the stages. -/
def armed (boot : Boot σ) (store : Store) : UInt64 :=
  (boot.opened store).evaluateBoot.initAdapters.environment.board.clock

/-- What the passes looked like. -/
def passed (boot : Boot σ) (store : Store) : List Passed :=
  ((boot.started store).passes boot.turns).1

/-- The supervisor at the end of the boot. -/
def final (boot : Boot σ) (store : Store) : Supervisor σ :=
  ((boot.started store).passes boot.turns).2

/-- The readings of the passes. -/
def readings (boot : Boot σ) (store : Store) : List UInt64 :=
  (boot.passed store).map Passed.reading

/-- What the boot leaves in flash. -/
def left (boot : Boot σ) (store : Store) : Store := (boot.final store).environment.board.store

end Boot

/-! ### Across a boot -/

/-- What every occurrence keeps is kept by a turn. -/
theorem Environment.meet_holds (holds : Environment → Prop)
    (kept : ∀ environment occurrence, holds environment → holds (environment.undergo occurrence))
    (turn : Turn) {environment : Environment} (before : holds environment) :
    holds (environment.meet turn) := by
  have all (happened : List Occurrence) (environment : Environment) (before : holds environment) :
      holds (happened.foldl Environment.undergo environment) := by
    induction happened generalizing environment with
    | nil => exact before
    | cons first rest ih => exact ih _ (kept environment first before)
  exact kept _ _ (all turn.happened environment before)

/-- What no occurrence changes is not changed by a turn. -/
theorem Environment.meet_keeps {β : Type} (observe : Environment → β)
    (kept : ∀ environment occurrence,
      observe (environment.undergo occurrence) = observe environment)
    (turn : Turn) (environment : Environment) :
    observe (environment.meet turn) = observe environment :=
  meet_holds (fun later => observe later = observe environment)
    (fun later occurrence same => (kept later occurrence).trans same) turn rfl

/-- What is known of commands before a turn is known after it. -/
theorem Knows.meet {holds : Command → Prop} {environment : Environment}
    (knows : Knows holds environment) (turn : Turn) : Knows holds (environment.meet turn) :=
  Environment.meet_holds (Knows holds)
    (fun environment occurrence known => known.submits (Submits.undergo environment occurrence))
    turn knows

/-- A relation that holds across everything that a pass does but for the work of the detector, given
what holds of every command. -/
structure SpansPass (holds : Command → Prop) (relation : Environment → Environment → Prop) : Prop
    extends Spans relation where
  handler : ∀ command args environment, holds command →
    relation environment ((command.handler args).run command.owner environment).2
  notify : ∀ environment events, relation environment (environment.notify .core events)
  takeJob : ∀ environment, relation environment environment.takeJob.2
  takeEvents : ∀ environment, relation environment environment.takeEvents.2
  hook : ∀ environment stage, relation environment (environment.note (.hook stage))
  withdraw : ∀ environment : Environment,
    relation environment { environment with restartPending := false }
  restart : ∀ environment : Environment,
    relation environment { environment with board := environment.board.restart }

namespace SpansPass

variable {holds : Command → Prop} {relation : Environment → Environment → Prop}

/-- Across the first phase. -/
theorem across_serveCommand (spans : SpansPass holds relation) {supervisor : Supervisor σ}
    (knows : Knows holds supervisor.environment) :
    relation supervisor.environment supervisor.serveCommand.2.environment := by
  cases waiting : supervisor.environment.hub.queue with
  | nil =>
    rw [Supervisor.serveCommand_of_nil waiting]
    exact spans.refl _
  | cons job rest =>
    rw [Supervisor.serveCommand_of_cons waiting]
    have known : holds job.command := knows.waiting job (by simp [waiting])
    have taken := spans.takeJob supervisor.environment
    have ran := spans.handler job.command job.args supervisor.environment.takeJob.2 known
    exact spans.trans _ _ _ (spans.trans _ _ _ taken ran) (spans.notify _ _)

/-- Across the second phase. -/
theorem across_deliverEvents (spans : SpansPass holds relation) (supervisor : Supervisor σ) :
    relation supervisor.environment supervisor.deliverEvents.2.environment := by
  have taken := spans.takeEvents supervisor.environment
  unfold Supervisor.deliverEvents
  dsimp only
  split
  · exact taken
  · exact spans.trans _ _ _ taken (spans.across_callAll _ _ _)

/-- Across the round of a stage, once the hook did its work. -/
theorem across_serveStage (spans : SpansPass holds relation) (uptime : UInt64) (safe : Bool)
    (supervisor : Supervisor σ) (stage : Stage) :
    let noted := supervisor.environment.note (.hook stage)
    relation { noted with board := (supervisor.detector.onInterval stage uptime noted.board).2 }
      (supervisor.serveStage uptime safe stage).environment := by
  unfold Supervisor.serveStage
  dsimp only
  split
  · exact spans.refl _
  · exact spans.across_callAll _ _ _

/-- Across the last phase. -/
theorem across_serveRestart (spans : SpansPass holds relation) (supervisor : Supervisor σ) :
    relation supervisor.environment supervisor.serveRestart.2.environment := by
  unfold Supervisor.serveRestart
  split
  · have withdrawn := spans.withdraw supervisor.environment
    have stopped := spans.across_shutdown { supervisor with
      environment := { supervisor.environment with restartPending := false } }
    refine spans.trans _ _ _ (spans.trans _ _ _ withdrawn stopped) ?_
    exact spans.trans _ _ _ (spans.say _ _) (spans.restart _)
  · exact spans.refl _

end SpansPass

/-! ### The detector and the scheduler in a pass -/

namespace Supervisor

/-- Until the stages are served, the detector is left alone. -/
theorem detector_deliverEvents (supervisor : Supervisor σ) :
    supervisor.serveCommand.2.deliverEvents.2.detector = supervisor.detector := by
  have delivered (supervisor : Supervisor σ) :
      supervisor.deliverEvents.2.detector = supervisor.detector := by
    unfold deliverEvents
    dsimp only
    split
    · rfl
    · rfl
  rw [delivered]
  cases waiting : supervisor.environment.hub.queue with
  | nil => rw [serveCommand_of_nil waiting]
  | cons job rest => rw [serveCommand_of_cons waiting]

/-- Afterwards it is left alone again. -/
theorem detector_serveRestart (supervisor : Supervisor σ) :
    supervisor.serveRestart.2.detector = supervisor.detector := by
  unfold serveRestart
  split
  · rfl
  · rfl

/-- The service of a stage leaves the detector as the hook does. -/
theorem detector_serveStage (uptime : UInt64) (safe : Bool) (supervisor : Supervisor σ)
    (stage : Stage) :
    (supervisor.serveStage uptime safe stage).detector =
      (supervisor.detector.onInterval stage uptime
        (supervisor.environment.note (.hook stage)).board).1 := by
  unfold serveStage
  dsimp only
  split
  · rfl
  · rfl

/-- A pass goes through four phases. -/
theorem pass_eq (supervisor : Supervisor σ) : supervisor.pass.2 =
    supervisor.serveCommand.2.deliverEvents.2.serveStages.2.serveRestart.2 := rfl

/-- A pass re-arms the stages that are due at its reading. -/
theorem scheduler_pass (supervisor : Supervisor σ) :
    supervisor.pass.2.scheduler = (supervisor.scheduler.fire supervisor.nextReading).2 := by
  obtain ⟨_, _, first, _, _⟩ := supervisor.serveCommand_phase
  obtain ⟨_, _, second, _⟩ := supervisor.serveCommand.2.deliverEvents_phase
  obtain ⟨_, _, third, _⟩ := supervisor.serveCommand.2.deliverEvents.2.serveStages_phase
  obtain ⟨_, _, fourth, _⟩ :=
    supervisor.serveCommand.2.deliverEvents.2.serveStages.2.serveRestart_phase
  rw [pass_eq, fourth, third, second, first]
  rfl

/-- A pass leaves the mode alone. -/
theorem active_pass (supervisor : Supervisor σ) :
    supervisor.pass.2.detector.active = supervisor.detector.active := by
  have third := supervisor.serveCommand.2.deliverEvents.2.serveStages_phase.2.1
  rw [pass_eq, detector_serveRestart, third.active, detector_deliverEvents]

end Supervisor

/-- A pass is the service of its stages, between steps that do no work of the detector. -/
theorem SpansPass.across_pass {holds : Command → Prop}
    {relation : Environment → Environment → Prop} (spans : SpansPass holds relation)
    {supervisor : Supervisor σ} (knows : Knows holds supervisor.environment) :
    ∃ fired : Supervisor σ, fired.detector = supervisor.detector ∧
      relation supervisor.environment fired.environment ∧
      let served := supervisor.nextStages.foldl
        (Supervisor.serveStage (supervisor.nextReading / 1000) supervisor.detector.active) fired
      supervisor.pass.2.detector = served.detector ∧
        relation served.environment supervisor.pass.2.environment := by
  let delivered := supervisor.serveCommand.2.deliverEvents.2
  let fired : Supervisor σ :=
    { delivered with scheduler := (delivered.scheduler.fire supervisor.nextReading).2 }
  have detector : delivered.detector = supervisor.detector := supervisor.detector_deliverEvents
  have first := spans.across_serveCommand knows
  have second := spans.across_deliverEvents supervisor.serveCommand.2
  have last := spans.across_serveRestart delivered.serveStages.2
  have scheduler : delivered.scheduler = supervisor.scheduler :=
    supervisor.serveCommand.2.deliverEvents_phase.2.2.1.trans supervisor.serveCommand_phase.2.2.1
  have serving : supervisor.nextStages.foldl
      (Supervisor.serveStage (supervisor.nextReading / 1000) supervisor.detector.active) fired =
        delivered.serveStages.2 := by
    rw [Supervisor.nextStages, ← scheduler, ← detector]
    rfl
  refine ⟨fired, detector, spans.trans _ _ _ first second, ?_⟩
  rw [serving]
  exact ⟨delivered.serveStages.2.detector_serveRestart, last⟩

/-! ### The start of a boot -/

namespace Boot

variable (boot : Boot σ) (store : Store)

/-- Registering adapters leads to a builder, for the configuration of the boot, and does nothing to
the device but log. -/
theorem builder_reached : (boot.builder store).Reached ∧
    (boot.builder store).config = boot.config ∧
    ∃ lines, (boot.builder store).environment =
      ({ board := boot.board store } : Environment).say lines := by
  have all (adapters : List (Option (Adapter σ))) (builder : Builder σ) (reached : builder.Reached)
      (config : builder.config = boot.config)
      (said : ∃ lines, builder.environment =
        ({ board := boot.board store } : Environment).say lines) :
      let registered :=
        adapters.foldl (fun builder adapter => (builder.register adapter).2) builder
      registered.Reached ∧ registered.config = boot.config ∧ ∃ lines, registered.environment =
        ({ board := boot.board store } : Environment).say lines := by
    induction adapters generalizing builder with
    | nil => exact ⟨reached, config, said⟩
    | cons first rest ih =>
      obtain ⟨lines, said⟩ := said
      obtain ⟨further, more⟩ := builder.environment_register first
      refine ih _ (reached.register first) ((builder.config_register first).trans config) ?_
      refine ⟨lines ++ further, ?_⟩
      rw [more, said]
      simp [Environment.say, Board.say, Journal.say]
  refine all boot.adapters _ (.new boot.config (boot.board store) rfl) rfl ?_
  refine ⟨(Registry.registerAll ({} : CommandTable) Core.commands).lines ++
    (Registry.registerAll ({} : TelemetryTable) Core.telemetry).lines, ?_⟩
  simp only [Builder.onBoard, Environment.say, Board.say, Journal.say, List.append_assoc]

/-- When the platform is to start, the cause of the reset is that of the boot, and flash is as the
boot found it. -/
theorem opened_board : (boot.opened store).environment.board.resetReason = boot.reason ∧
    (boot.opened store).environment.board.store.flash = store.flash := by
  obtain ⟨_, _, lines, said⟩ := boot.builder_reached store
  have met := Environment.meet_keeps
    (fun environment => (environment.board.resetReason, environment.board.store.flash))
    (fun environment occurrence => by cases occurrence <;> rfl) boot.opening
    (boot.builder store).build.environment
  have same : (boot.builder store).environment.board.resetReason = boot.reason ∧
      (boot.builder store).environment.board.store.flash = store.flash := by
    rw [said]
    exact ⟨rfl, rfl⟩
  exact ⟨(congrArg Prod.fst met).trans same.1, (congrArg Prod.snd met).trans same.2⟩

/-- The detector is then that of the configuration. -/
theorem opened_detector : (boot.opened store).detector = .ofConfig boot.config := by
  obtain ⟨_, config, _⟩ := boot.builder_reached store
  exact congrArg Detector.ofConfig config

/-- When the platform has started, the detector has counted the reset, and has decided the mode by
the count and the settings of the boot. -/
theorem started_detector :
    let detector := (boot.started store).detector
    let counter := Detector.countAfter boot.reason store.flash.bootCounter.value
    detector.bootCounter = counter ∧
      detector.active = decide (boot.config.safeModeThreshold ≤ counter) ∧
      detector.stableSeconds = boot.config.stableSeconds ∧
      detector.validationStage = boot.config.validationStage := by
  obtain ⟨reason, flash⟩ := boot.opened_board store
  have opened := boot.opened_detector store
  have booted := (boot.opened store).evaluateBoot_booted
  have counter := booted.bootCounter
  have active := booted.active
  have stable := booted.stableSeconds
  have validation := booted.validationStage
  rw [reason, flash] at counter
  rw [opened, counter] at active
  rw [opened] at stable validation
  exact ⟨counter, active, stable, validation⟩

/-- What holds of the core commands and of the commands of every adapter is known when the platform
is to start. -/
theorem opened_knows {holds : Command → Prop} (core : ∀ command ∈ Core.commands, holds command)
    (offered : ∀ adapter, some adapter ∈ boot.adapters → ∀ command ∈ adapter.commands, ∀ slot,
      holds { command with owner := .adapter slot }) :
    Knows holds (boot.opened store).environment := by
  have reached := (boot.builder_reached store).1
  refine (Knows.build reached ?_).meet boot.opening
  refine Builder.forall_commands (fun command member => ?_) offered
  rcases Registry.mem_registerAll member with none | listed
  · contradiction
  · exact core command listed

/-- The start arms every stage. -/
theorem lastFired_started (stage : Stage) :
    (boot.started store).scheduler.lastFired stage = boot.armed store :=
  Scheduler.lastFired_armedAt _ stage

end Boot

end Overseer
