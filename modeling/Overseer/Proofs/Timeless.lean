import Overseer.Proofs.Boot

/-!
# When nothing takes time

A pass reads the clock once, after the handler and the callbacks of its events ran. If none of the
programs of a boot takes time, that is the clock at which the pass was called, and the start arms
the stages at the clock at which it was called (`Boot.readings_of_timeless`).
-/
namespace Overseer

variable {σ : Type}

/-- A command whose handler takes no time. -/
def Command.Timeless (command : Command) : Prop :=
  ∀ args, (command.handler args).Only (· ≠ .elapse)

/-- An adapter whose callbacks take no time, whatever it remembers. -/
def Adapter.Timeless (adapter : Adapter σ) : Prop :=
  ∀ callback memory, (adapter.respond callback memory).Only (· ≠ .elapse)

/-- Adapters whose callbacks take no time. -/
def Roster.Timeless (roster : Roster σ) : Prop := ∀ adapter ∈ roster.adapters, adapter.Timeless

/-- The clock of an environment. -/
def Environment.clock (environment : Environment) : UInt64 := environment.board.clock

/-- A program that takes no time leaves the clock alone. -/
theorem Program.clock_run {role : Role} {α : Type} {program : Program role α}
    (timeless : program.Only (· ≠ .elapse)) (actor : Actor) (environment : Environment) :
    (program.run actor environment).2.clock = environment.clock := by
  refine Program.run_keeps Environment.clock timeless ?_ environment
  intro verb before after other operation
  cases operation with
  | elapse => contradiction
  | log | clock | inspect | notify | submit | commands | requestRestart | bootCounter |
    setBootCounter | load | save | override | resetConfig | driveLed => rfl

/-! ### Rounds -/

/-- A visit that takes no time. -/
structure Adapter.Instant (before : Adapter σ) (environment : Environment)
    (result : Adapter σ × Environment) : Prop where
  timeless : before.Timeless → result.1.Timeless
  clock : before.Timeless → result.2.clock = environment.clock

/-- A call of an adapter takes no time, if its callbacks do not. -/
theorem Adapter.call_instant (adapter : Adapter σ) (slot : Nat) (callback : Callback)
    (environment : Environment) :
    adapter.Instant environment (adapter.call slot callback environment) where
  timeless timeless := timeless
  clock timeless := Program.clock_run (timeless callback adapter.memory) _ _

/-- Visits in turn take no time if each of them takes none. -/
theorem Roster.visitFrom_instant
    {visit : Nat → Adapter σ → Environment → Adapter σ × Environment}
    (instant : ∀ slot (adapter : Adapter σ) environment,
      adapter.Instant environment (visit slot adapter environment))
    (slot : Nat) (adapters : List (Adapter σ)) (environment : Environment)
    (timeless : ∀ adapter ∈ adapters, adapter.Timeless) :
    (∀ adapter ∈ (visitFrom visit slot adapters environment).1, adapter.Timeless) ∧
      (visitFrom visit slot adapters environment).2.clock = environment.clock := by
  induction adapters generalizing slot environment with
  | nil => exact ⟨timeless, rfl⟩
  | cons first rest ih =>
    have visited := instant slot first environment
    have own := timeless first List.mem_cons_self
    obtain ⟨others, clock⟩ := ih (slot + 1) (visit slot first environment).2
      fun adapter member => timeless adapter (List.mem_cons_of_mem _ member)
    refine ⟨fun adapter member => ?_, clock.trans (visited.clock own)⟩
    rcases List.mem_cons.mp member with rfl | later
    · exact visited.timeless own
    · exact others adapter later

/-- A round takes no time. -/
theorem Roster.callAll_instant {roster : Roster σ} (timeless : roster.Timeless)
    (callback : Callback) (environment : Environment) :
    (roster.callAll callback environment).1.Timeless ∧
      (roster.callAll callback environment).2.clock = environment.clock :=
  visitFrom_instant (fun slot adapter => adapter.call_instant slot callback) 0 _ _ timeless

/-! ### Passes -/

namespace Supervisor

/-- A supervisor none of whose programs takes time. -/
structure Timeless (supervisor : Supervisor σ) : Prop where
  roster : supervisor.roster.Timeless
  commands : Knows Command.Timeless supervisor.environment

/-- The first phase takes no time, and leaves the adapters alone. -/
theorem serveCommand_instant {supervisor : Supervisor σ} (timeless : supervisor.Timeless) :
    supervisor.serveCommand.2.roster = supervisor.roster ∧
      supervisor.serveCommand.2.environment.clock = supervisor.environment.clock := by
  cases waiting : supervisor.environment.hub.queue with
  | nil =>
    rw [serveCommand_of_nil waiting]
    exact ⟨rfl, rfl⟩
  | cons job rest =>
    rw [serveCommand_of_cons waiting]
    have known := timeless.commands.waiting job (by simp [waiting])
    have ran := Program.clock_run (known job.args) job.command.owner
      supervisor.environment.takeJob.2
    have taken : supervisor.environment.takeJob.2.clock = supervisor.environment.clock := by
      unfold Environment.takeJob
      split
      · rfl
      · rfl
    exact ⟨rfl, ran.trans taken⟩

/-- The second phase takes no time. -/
theorem deliverEvents_instant {supervisor : Supervisor σ} (timeless : supervisor.roster.Timeless) :
    supervisor.deliverEvents.2.roster.Timeless ∧
      supervisor.deliverEvents.2.environment.clock = supervisor.environment.clock := by
  unfold deliverEvents
  dsimp only
  split
  · exact ⟨timeless, rfl⟩
  · exact Roster.callAll_instant timeless _ _

/-- So the pass reads the clock at which it was called. -/
theorem nextReading_of_timeless {supervisor : Supervisor σ} (timeless : supervisor.Timeless) :
    supervisor.nextReading = supervisor.environment.clock := by
  obtain ⟨roster, first⟩ := serveCommand_instant timeless
  have second := deliverEvents_instant (roster ▸ timeless.roster)
  exact second.2.trans first

/-- The service of stages leaves the callbacks of adapters alone. -/
theorem serveEach_timeless (uptime : UInt64) (safe : Bool) (stages : List Stage)
    {supervisor : Supervisor σ} (timeless : supervisor.roster.Timeless) :
    (stages.foldl (serveStage uptime safe) supervisor).roster.Timeless := by
  induction stages generalizing supervisor with
  | nil => exact timeless
  | cons stage rest ih =>
    refine ih ?_
    unfold serveStage
    dsimp only
    split
    · exact timeless
    · exact (Roster.callAll_instant timeless _ _).1

/-- A restart leaves the callbacks of adapters alone. -/
theorem serveRestart_timeless {supervisor : Supervisor σ} (timeless : supervisor.roster.Timeless) :
    supervisor.serveRestart.2.roster.Timeless := by
  unfold serveRestart
  split
  · refine (Roster.visitFrom_instant (fun slot adapter environment => ?_) 0 _ _ timeless).1
    exact ⟨fun timeless => timeless, fun timeless =>
      (adapter.call_instant slot .shutdown _).clock timeless⟩
  · exact timeless

/-- A pass leaves a supervisor none of whose programs takes time. -/
theorem Timeless.pass {supervisor : Supervisor σ} (timeless : supervisor.Timeless) :
    supervisor.pass.2.Timeless := by
  obtain ⟨roster, _⟩ := serveCommand_instant timeless
  let delivered := supervisor.serveCommand.2.deliverEvents.2
  let now := supervisor.nextReading
  let fired : Supervisor σ := { delivered with scheduler := (delivered.scheduler.fire now).2 }
  have second : fired.roster.Timeless := (deliverEvents_instant (roster ▸ timeless.roster)).1
  have third := serveEach_timeless (now / 1000) delivered.detector.active
    (delivered.scheduler.due now) second
  exact ⟨serveRestart_timeless third, timeless.commands.pass⟩

/-- So every pass of a boot reads the clock at which it was called. -/
theorem passes_of_timeless {supervisor : Supervisor σ} (timeless : supervisor.Timeless)
    (turns : List Turn) :
    (supervisor.passes turns).1.map Passed.reading = turns.map Turn.now := by
  induction turns generalizing supervisor with
  | nil => rfl
  | cons turn rest ih =>
    have met : (supervisor.meet turn).Timeless := ⟨timeless.roster, timeless.commands.meet turn⟩
    have reading : (supervisor.meet turn).nextReading = turn.now := nextReading_of_timeless met
    have later := ih met.pass
    rw [List.map_cons, ← later, ← reading]
    rfl

end Supervisor

/-! ### Boots -/

namespace Boot

/-- A boot none of whose programs takes time. -/
structure Timeless (boot : Boot σ) : Prop where
  adapters : ∀ adapter, some adapter ∈ boot.adapters → adapter.Timeless
  commands : ∀ adapter, some adapter ∈ boot.adapters →
    ∀ command ∈ adapter.commands, command.Timeless

variable {boot : Boot σ} {store : Store}

/-- Registering adapters whose callbacks take no time leads to a roster of them. -/
theorem Timeless.roster (timeless : boot.Timeless) : (boot.builder store).roster.Timeless := by
  have all (adapters : List (Option (Adapter σ))) (builder : Builder σ)
      (offered : ∀ adapter, some adapter ∈ adapters → adapter.Timeless)
      (before : builder.roster.Timeless) :
      (adapters.foldl (fun builder adapter => (builder.register adapter).2)
        builder).roster.Timeless := by
    induction adapters generalizing builder with
    | nil => exact before
    | cons first rest ih =>
      refine ih _ (fun adapter later => offered adapter (List.mem_cons_of_mem _ later)) ?_
      intro adapter member
      rcases Builder.mem_register member with earlier | new
      · exact before adapter earlier
      · exact offered adapter (by simp [new])
  exact all boot.adapters _ timeless.adapters fun _ none => by contradiction

/-- When the platform is to start, nothing takes time. -/
theorem Timeless.opened (timeless : boot.Timeless) : (boot.opened store).Timeless := by
  refine ⟨timeless.roster, boot.opened_knows store (fun command member args => ?_)
    fun adapter member command offered slot => timeless.commands adapter member command offered⟩
  refine (Core.only_isCore command member args).imp fun verb core => ?_
  rintro rfl
  exact core.elim

/-- The initialisation of an adapter takes no time, if its callbacks take none. -/
theorem initAdapter_instant (safe : Bool) (slot : Nat) (adapter : Adapter σ)
    (environment : Environment) :
    adapter.Instant environment (Supervisor.initAdapter safe slot adapter environment) := by
  unfold Supervisor.initAdapter
  split
  · exact ⟨fun timeless => timeless, fun _ => rfl⟩
  · exact ⟨fun timeless => timeless, fun timeless =>
      (adapter.call_instant slot .init _).clock timeless⟩

/-- Nothing takes time once the platform has started, and the start armed the stages at the clock at
which it was called. -/
theorem Timeless.started (timeless : boot.Timeless) :
    (boot.started store).Timeless ∧ boot.armed store = boot.opening.now := by
  have opened : (boot.opened store).Timeless := timeless.opened
  obtain ⟨_, _, added, _⟩ := (boot.opened store).evaluateBoot_booted.added
  have initialised := Roster.visitFrom_instant
    (initAdapter_instant (boot.opened store).evaluateBoot.detector.active) 0
    (boot.opened store).roster.adapters (boot.opened store).evaluateBoot.environment opened.roster
  exact ⟨⟨initialised.1, opened.commands.start⟩, initialised.2.trans added.clock⟩

/-- Every pass of a boot without a program that takes time reads the clock at which it was called.
-/
theorem readings_of_timeless (timeless : boot.Timeless) :
    boot.readings store = boot.turns.map Turn.now :=
  Supervisor.passes_of_timeless timeless.started.1 boot.turns

end Boot

end Overseer
