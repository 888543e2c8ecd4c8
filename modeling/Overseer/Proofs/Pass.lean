import Overseer.Proofs.Detector
import Overseer.Proofs.Round

/-!
# The calls of a pass

A pass calls, in this order and nothing besides: the handler of the first job that waits; one round
of events, if any were raised; for each due stage the safe-mode hook and, outside safe mode, one
round; and, if the handler asked for a restart, one round of shutdowns and the restart
(`Supervisor.Reachable.pass_exact`). One lemma for each phase says what the phase calls and what it
leaves for the next one.
-/
namespace Overseer.Supervisor

variable {σ : Type}

/-! ### What a pass is about to do -/

/-- The job that the next pass runs. -/
def nextJob (supervisor : Supervisor σ) : Option Job := supervisor.environment.hub.queue.head?

/-- What the handler of that job adds to the trace. -/
def handlerDeeds (supervisor : Supervisor σ) : List Entry :=
  match supervisor.nextJob with
  | none => []
  | some job =>
    (job.command.handler job.args).deeds job.command.owner supervisor.environment.takeJob.2

/-- The events that the pass delivers: those that are pending, those that the handler raises, and,
if a handler runs, its completion. -/
def nextEvents (supervisor : Supervisor σ) : EventSet :=
  supervisor.environment.hub.events.pending ∪ raised supervisor.handlerDeeds ∪
    if supervisor.nextJob.isSome then .singleton .commandCompleted else ∅

/-- The clock as the pass reads it for its stages: once events are delivered. -/
def nextReading (supervisor : Supervisor σ) : UInt64 :=
  supervisor.serveCommand.2.deliverEvents.2.environment.board.clock

/-- The stages that the pass serves. -/
def nextStages (supervisor : Supervisor σ) : List Stage :=
  supervisor.scheduler.due supervisor.nextReading

/-- Whether the handler asks for a restart. -/
def nextRestart (supervisor : Supervisor σ) : Bool := asksRestart supervisor.handlerDeeds

/-- The call of a job's handler. -/
def handlerCalls (job : Option Job) : List Entry :=
  job.toList.map fun job => .handler job.command.owner job.command.id job.args

/-- The calls of a delivery of events. -/
def eventCalls (events : EventSet) (count : Nat) : List Entry :=
  if events.isEmpty then [] else Roster.round (.event events) 0 count

/-- The calls of the service of one stage. -/
def stageCalls (safe : Bool) (count : Nat) (stage : Stage) : List Entry :=
  .hook stage :: if safe then [] else Roster.round (.interval stage) 0 count

/-- The calls of a restart. -/
def restartCalls (restart : Bool) (count : Nat) : List Entry :=
  if restart then Roster.round .shutdown 0 count ++ [.restart] else []

/-- The calls of a pass. -/
def passCalls (supervisor : Supervisor σ) : List Entry :=
  handlerCalls supervisor.nextJob ++
    eventCalls supervisor.nextEvents supervisor.roster.size ++
    supervisor.nextStages.flatMap
      (stageCalls supervisor.detector.active supervisor.roster.size) ++
    restartCalls supervisor.nextRestart supervisor.roster.size

/-! ### Phases -/

/-- What the phases before the restart have in common: they made some calls, they neither add nor
remove adapters, and they leave the mode and the count of restarts alone. -/
structure Phase (before after : Supervisor σ) (made : List Entry) : Prop where
  calls : calls after.environment.trace = calls before.environment.trace ++ made
  size : after.roster.size = before.roster.size
  active : after.detector.active = before.detector.active
  restarts : after.environment.board.restarts = before.environment.board.restarts

/-- Phases follow one another. -/
theorem Phase.trans {first second third : Supervisor σ} {earlier later : List Entry}
    (before : Phase first second earlier) (after : Phase second third later) :
    Phase first third (earlier ++ later) where
  calls := by rw [after.calls, before.calls, List.append_assoc]
  size := after.size.trans before.size
  active := after.active.trans before.active
  restarts := after.restarts.trans before.restarts

/-- A program never counts a restart. -/
theorem restarts_run {role : Role} {α : Type} (actor : Actor) (program : Program role α)
    (environment : Environment) :
    (program.run actor environment).2.board.restarts = environment.board.restarts := by
  refine Program.run_keeps (·.board.restarts) program.only_any ?_ environment
  intro verb before after _ operation
  cases operation <;> rfl

/-- A pass without a job starts with the delivery of events. -/
theorem serveCommand_of_nil {supervisor : Supervisor σ}
    (empty : supervisor.environment.hub.queue = []) :
    supervisor.serveCommand = (none, supervisor) := by
  rw [serveCommand, (supervisor.environment.hub.receive_eq_none_iff).mpr empty]

/-- A pass with a job runs its handler and raises the event of its completion. -/
theorem serveCommand_of_cons {supervisor : Supervisor σ} {job : Job} {rest : List Job}
    (waiting : supervisor.environment.hub.queue = job :: rest) :
    supervisor.serveCommand = (some job.command.id, { supervisor with
      environment := ((job.command.handler job.args).run job.command.owner
        supervisor.environment.takeJob.2).2.notify .core (.singleton .commandCompleted) }) := by
  have first := (Environment.takeJob_taken waiting).answer
  unfold serveCommand
  unfold Environment.takeJob at first ⊢
  cases received : supervisor.environment.hub.receive with
  | none =>
    rw [received] at first
    contradiction
  | some taken =>
    rw [received] at first
    dsimp only at first
    rw [← Option.some.inj first]
    rfl

/-- The first phase calls the handler of the next job. It leaves its events pending, and with them
the completion of a handler. -/
theorem serveCommand_phase (supervisor : Supervisor σ) :
    supervisor.serveCommand.1 = supervisor.nextJob.map (·.command.id) ∧
      Phase supervisor supervisor.serveCommand.2 (handlerCalls supervisor.nextJob) ∧
      supervisor.serveCommand.2.scheduler = supervisor.scheduler ∧
      supervisor.serveCommand.2.environment.hub.events.pending = supervisor.nextEvents ∧
      supervisor.serveCommand.2.environment.restartPending =
        (supervisor.environment.restartPending || supervisor.nextRestart) := by
  cases waiting : supervisor.environment.hub.queue with
  | nil =>
    have none : supervisor.nextJob = none := by rw [nextJob, waiting, List.head?_nil]
    have deeds : supervisor.handlerDeeds = [] := by rw [handlerDeeds, none]
    rw [serveCommand_of_nil waiting]
    refine ⟨?_, ⟨?_, rfl, rfl, rfl⟩, rfl, ?_, ?_⟩
    · rw [none, Option.map_none]
    · rw [none]
      exact (List.append_nil _).symm
    · simp [nextEvents, deeds, none, raised]
    · simp [nextRestart, deeds, asksRestart]
  | cons job rest =>
    have some : supervisor.nextJob = some job := by rw [nextJob, waiting, List.head?_cons]
    have deeds : supervisor.handlerDeeds = (job.command.handler job.args).deeds job.command.owner
        supervisor.environment.takeJob.2 := by rw [handlerDeeds, some]
    have taken := Environment.takeJob_taken waiting
    have acts := (job.command.handler job.args).acts job.command.owner
      supervisor.environment.takeJob.2
    rw [← deeds] at acts
    rw [serveCommand_of_cons waiting]
    refine ⟨?_, ⟨?_, rfl, rfl, ?_⟩, rfl, ?_, ?_⟩
    · rw [some, Option.map_some]
    · rw [Environment.trace_notify, calls_append, Program.calls_run, taken.trace, calls_append,
        some]
      simp [calls, Entry.isCall, handlerCalls]
    · exact (restarts_run _ _ _).trans taken.restarts
    · rw [nextEvents, some, ← taken.events, ← acts.pending]
      rfl
    · rw [Environment.restartPending_notify, acts.restart, taken.restartPending]
      rfl

/-- The second phase makes the round of the pending events. -/
theorem deliverEvents_phase (supervisor : Supervisor σ) :
    supervisor.deliverEvents.1 = supervisor.environment.hub.events.pending ∧
      Phase supervisor supervisor.deliverEvents.2
        (eventCalls supervisor.environment.hub.events.pending supervisor.roster.size) ∧
      supervisor.deliverEvents.2.scheduler = supervisor.scheduler ∧
      supervisor.deliverEvents.2.environment.restartPending =
        supervisor.environment.restartPending := by
  let events := supervisor.environment.hub.events.pending
  let left := supervisor.environment.takeEvents.2
  have taken : calls left.trace = calls supervisor.environment.trace := by
    rw [Environment.trace_takeEvents, calls_append]
    exact List.append_nil _
  by_cases empty : events.isEmpty = true
  · have none : supervisor.deliverEvents = (events, { supervisor with environment := left }) :=
      if_pos empty
    rw [none, eventCalls, if_pos empty]
    exact ⟨rfl, ⟨by rw [taken, List.append_nil], rfl, rfl, rfl⟩, rfl, rfl⟩
  · have round : supervisor.deliverEvents = (events, { supervisor with
        roster := (supervisor.roster.callAll (.event events) left).1
        environment := (supervisor.roster.callAll (.event events) left).2 }) := if_neg empty
    have undisturbed := spans_undisturbed.across_callAll supervisor.roster (.event events) left
    rw [round, eventCalls, if_neg empty]
    refine ⟨rfl, ⟨?_, ?_, rfl, undisturbed.restarts⟩, rfl, undisturbed.restartPending⟩
    · rw [Roster.calls_callAll, taken]
    · exact Roster.size_callAll _ _ _

/-- The service of a stage calls the hook and, outside safe mode, makes the round of the stage. -/
theorem serveStage_phase (uptime : UInt64) (safe : Bool) (supervisor : Supervisor σ)
    (stage : Stage) :
    Phase supervisor (supervisor.serveStage uptime safe stage)
        (stageCalls safe supervisor.roster.size stage) ∧
      (supervisor.serveStage uptime safe stage).scheduler = supervisor.scheduler ∧
      (supervisor.serveStage uptime safe stage).environment.restartPending =
        supervisor.environment.restartPending := by
  let noted := supervisor.environment.note (.hook stage)
  have worked := supervisor.detector.onInterval_worked stage uptime noted.board
  obtain ⟨entries, added, detections⟩ := worked.detections
  let hooked : Environment :=
    { noted with board := (supervisor.detector.onInterval stage uptime noted.board).2 }
  have hook : calls hooked.trace = calls supervisor.environment.trace ++ [.hook stage] := by
    have silent : calls entries = [] := by
      rw [calls, List.filter_eq_nil_iff]
      intro entry member
      have detection := detections entry member
      cases entry <;> first | exact Bool.false_ne_true | exact detection.elim
    have trace : hooked.trace = noted.trace ++ entries := added.trace
    rw [trace, calls_append, silent, List.append_nil, Environment.trace_note, calls_append]
    rfl
  cases safe with
  | true =>
    refine ⟨⟨?_, rfl, worked.active, added.restarts⟩, rfl, rfl⟩
    exact hook
  | false =>
    have undisturbed :=
      spans_undisturbed.across_callAll supervisor.roster (.interval stage) hooked
    refine ⟨⟨?_, ?_, worked.active, undisturbed.restarts.trans added.restarts⟩, rfl,
      undisturbed.restartPending⟩
    · have round := Roster.calls_callAll supervisor.roster (.interval stage) hooked
      rw [hook, List.append_assoc] at round
      exact round
    · exact Roster.size_callAll _ _ _

/-- The service of stages in turn makes the calls of each. -/
theorem serveEach_phase (uptime : UInt64) (safe : Bool) (stages : List Stage)
    (supervisor : Supervisor σ) :
    let served := stages.foldl (serveStage uptime safe) supervisor
    Phase supervisor served (stages.flatMap (stageCalls safe supervisor.roster.size)) ∧
      served.scheduler = supervisor.scheduler ∧
      served.environment.restartPending = supervisor.environment.restartPending := by
  induction stages generalizing supervisor with
  | nil => exact ⟨⟨(List.append_nil _).symm, rfl, rfl, rfl⟩, rfl, rfl⟩
  | cons stage rest ih =>
    obtain ⟨first, scheduler, pending⟩ := serveStage_phase uptime safe supervisor stage
    obtain ⟨later, kept, still⟩ := ih (supervisor.serveStage uptime safe stage)
    rw [first.size] at later
    exact ⟨first.trans later, kept.trans scheduler, still.trans pending⟩

/-- The third phase serves the due stages and re-arms them. -/
theorem serveStages_phase (supervisor : Supervisor σ) :
    let now := supervisor.environment.board.clock
    supervisor.serveStages.1 = supervisor.scheduler.due now ∧
      Phase supervisor supervisor.serveStages.2 ((supervisor.scheduler.due now).flatMap
        (stageCalls supervisor.detector.active supervisor.roster.size)) ∧
      supervisor.serveStages.2.scheduler = (supervisor.scheduler.fire now).2 ∧
      supervisor.serveStages.2.environment.restartPending =
        supervisor.environment.restartPending := by
  let now := supervisor.environment.board.clock
  let fired : Supervisor σ := { supervisor with scheduler := (supervisor.scheduler.fire now).2 }
  have served := serveEach_phase (now / 1000) supervisor.detector.active
    (supervisor.scheduler.due now) fired
  exact ⟨rfl, ⟨served.1.calls, served.1.size, served.1.active, served.1.restarts⟩, served.2⟩

/-- The last phase makes a round of shutdowns and restarts the chip, if that was asked for. -/
theorem serveRestart_phase (supervisor : Supervisor σ) :
    let restart := supervisor.environment.restartPending
    supervisor.serveRestart.1 = restart ∧
      calls supervisor.serveRestart.2.environment.trace =
        calls supervisor.environment.trace ++ restartCalls restart supervisor.roster.size ∧
      supervisor.serveRestart.2.scheduler = supervisor.scheduler ∧
      supervisor.serveRestart.2.environment.board.restarts =
        supervisor.environment.board.restarts + restart.toNat ∧
      supervisor.serveRestart.2.environment.restartPending = false := by
  by_cases restart : supervisor.environment.restartPending = true
  · let begun : Supervisor σ := { supervisor with
      environment := { supervisor.environment with restartPending := false } }
    have done : supervisor.serveRestart = (true, { begun.shutdown with
        environment :=
          let said := begun.shutdown.environment.say [.info "Supervisor: restarting"]
          { said with board := said.board.restart } }) := if_pos restart
    have undisturbed := spans_undisturbed.across_shutdown begun
    have single (slot : Nat) (adapter : Adapter σ) (environment : Environment) :
        calls (shutdownAdapter slot adapter environment).2.trace =
          calls environment.trace ++ [.adapter slot .shutdown] := Roster.calls_call _ _ _ _
    have round : calls begun.shutdown.environment.trace =
        calls supervisor.environment.trace ++ Roster.round .shutdown 0 supervisor.roster.size :=
      Roster.calls_visitFrom single 0 _ _
    rw [done, restart]
    refine ⟨rfl, ?_, rfl, ?_, undisturbed.restartPending⟩
    · have ending : calls (begun.shutdown.environment.trace ++ [.restart]) =
          calls supervisor.environment.trace ++ restartCalls true supervisor.roster.size := by
        rw [calls_append, round, List.append_assoc]
        rfl
      exact ending
    · exact congrArg (· + 1) undisturbed.restarts
  · have idle : supervisor.environment.restartPending = false := Bool.eq_false_iff.mpr restart
    have done : supervisor.serveRestart = (false, supervisor) := if_neg restart
    rw [done]
    simp only [idle]
    exact ⟨trivial, (List.append_nil _).symm, trivial, rfl, trivial⟩

/-! ### The whole pass -/

/-- What a pass does from a state without a pending restart. -/
structure Exact (supervisor : Supervisor σ) (result : PassReport × Supervisor σ) : Prop where
  /-- It makes its calls, and no others. -/
  calls : calls result.2.environment.trace =
    calls supervisor.environment.trace ++ supervisor.passCalls
  /-- It reports what it did. -/
  report : result.1 = {
    command := supervisor.nextJob.map (·.command.id)
    events := supervisor.nextEvents
    stages := supervisor.nextStages
    restarted := supervisor.nextRestart }
  /-- A completion is delivered exactly when a job ran, or the event was already pending. -/
  completion : supervisor.nextEvents.contains .commandCompleted = true ↔
    supervisor.nextJob.isSome = true ∨
      supervisor.environment.hub.events.pending.contains .commandCompleted = true
  /-- The stages are those whose period has passed since they last fired. -/
  due : ∀ stage, stage ∈ supervisor.nextStages ↔
    (supervisor.scheduler.lastFired stage).toNat + stage.period ≤ supervisor.nextReading.toNat
  /-- They are served in ascending order of their periods. -/
  ascending : supervisor.nextStages.Pairwise fun earlier later => earlier.period < later.period
  /-- Each stage that was served is armed at the reading, and each other one as before. -/
  armed : ∀ stage, result.2.scheduler.lastFired stage =
    if stage ∈ supervisor.nextStages then supervisor.nextReading
    else supervisor.scheduler.lastFired stage
  /-- A restart is carried out once. -/
  restarts : result.2.environment.board.restarts =
    supervisor.environment.board.restarts + supervisor.nextRestart.toNat
  /-- None is left pending. -/
  settled : result.2.environment.restartPending = false

/-- The completion is delivered exactly when a job ran, or the event was already pending. -/
theorem completion_iff (supervisor : Supervisor σ) :
    supervisor.nextEvents.contains .commandCompleted = true ↔
      supervisor.nextJob.isSome = true ∨
        supervisor.environment.hub.events.pending.contains .commandCompleted = true := by
  cases next : supervisor.nextJob with
  | none =>
    have deeds : supervisor.handlerDeeds = [] := by rw [handlerDeeds, next]
    simp [nextEvents, deeds, next, raised]
  | some job => simp [nextEvents, next, EventSet.contains_union_singleton]

/-- A pass without a pending restart is exact. -/
theorem pass_of_settled {supervisor : Supervisor σ}
    (settled : supervisor.environment.restartPending = false) :
    Exact supervisor supervisor.pass := by
  obtain ⟨command, first, scheduler, pending, restart⟩ := supervisor.serveCommand_phase
  obtain ⟨events, second, kept, still⟩ := supervisor.serveCommand.2.deliverEvents_phase
  obtain ⟨stages, third, fired, waiting⟩ :=
    supervisor.serveCommand.2.deliverEvents.2.serveStages_phase
  obtain ⟨restarted, fourth, armed, count, final⟩ :=
    supervisor.serveCommand.2.deliverEvents.2.serveStages.2.serveRestart_phase
  -- What each phase is given, in terms of the state before the pass.
  rw [pending] at events second
  rw [first.size] at second
  have due : supervisor.serveCommand.2.deliverEvents.2.scheduler = supervisor.scheduler :=
    kept.trans scheduler
  rw [due, second.size, first.size, second.active, first.active] at third
  rw [due] at stages fired
  have asked : supervisor.serveCommand.2.deliverEvents.2.serveStages.2.environment.restartPending =
      supervisor.nextRestart := by
    rw [waiting, still, restart, settled, Bool.false_or]
  have phases := (first.trans second).trans third
  rw [asked] at restarted fourth count
  rw [phases.size, phases.calls, List.append_assoc] at fourth
  rw [phases.restarts] at count
  let served := supervisor.serveCommand.2.deliverEvents.2.serveStages
  have result : supervisor.pass = (
      { command := supervisor.serveCommand.1, events := supervisor.serveCommand.2.deliverEvents.1,
        stages := served.1, restarted := served.2.serveRestart.1 },
      served.2.serveRestart.2) := rfl
  rw [command, events, stages, restarted] at result
  rw [result]
  refine ⟨fourth, rfl, supervisor.completion_iff, fun stage => ?_, ?_, fun stage => ?_, count,
    final⟩
  · exact Scheduler.mem_due_iff _ _ stage
  · exact Stage.pairwise_period.filter _
  · rw [armed, fired, Scheduler.lastFired_fire]
    rfl

/-! ### No restart is pending between two calls -/

/-- A step that neither asks for a restart nor withdraws one. -/
def Steady (before after : Environment) : Prop := after.restartPending = before.restartPending

theorem Steady.refl (environment : Environment) : Steady environment environment := rfl

theorem Steady.trans (first second third : Environment) (earlier : Steady first second)
    (later : Steady second third) : Steady first third := Eq.trans later earlier

/-- Where nothing is pending, nothing is after a steady step. -/
theorem Steady.settled {before after : Environment} (steady : Steady before after)
    (settled : before.restartPending = false) : after.restartPending = false :=
  Eq.trans steady settled

/-- What happens beside the loop is steady. -/
theorem Steady.outside (before after : Environment) (outside : Environment.Outside before after) :
    Steady before after := by
  obtain ⟨occurrence, rfl⟩ := outside
  exact before.restartPending_undergo occurrence

/-- Between two moments of a thread all of whose steps are steady, whatever is pending stays so. -/
theorem steady_of_reaches {α : Type} {thread left : Thread Environment α}
    {before after : Environment}
    (reaches : Thread.Reaches Environment.Outside thread before left after)
    (each : thread.Each Steady) : Steady before after :=
  (reaches.each Steady.refl Steady.trans Steady.outside each).1

/-- Every step of a round is steady. -/
theorem admits_steady : Admits Steady where
  say environment lines := (spans_undisturbed.say environment lines).restartPending
  call environment slot callback :=
    (spans_undisturbed.call environment slot callback).restartPending
  operation slot verb before after isCallback operation :=
    (spans_undisturbed.operation slot verb before after isCallback operation).restartPending

/-- Every step of the start is steady. -/
theorem each_start_steady (loop : Loop σ) : loop.start.Each Steady := by
  refine fun environment => ⟨(evaluateBoot_booted _).restartPending, ?_⟩
  refine Thread.each_bind (Admits.each_threadAll (admits_steady.each_initAdapter _) _) fun _ => ?_
  refine Thread.each_bind (Thread.each_look Steady.refl _) fun _ => ?_
  refine Thread.each_bind (Thread.each_change fun _ => rfl) fun _ => ?_
  exact Thread.each_bind (Thread.each_change fun _ => rfl) fun _ => trivial

/-- A restart that was asked for is not pending when the last phase is over. -/
theorem serveRestart_settles {loop : Loop σ} {result : Bool × Loop σ} {before after : Environment}
    (reaches : Thread.Reaches Environment.Outside loop.serveRestart before (.done result) after) :
    after.restartPending = false := by
  obtain ⟨found, _, later⟩ := reaches.of_step Steady.refl Steady.trans Steady.outside
  refine (steady_of_reaches later ?_).settled rfl
  split
  · refine Thread.each_bind (admits_steady.each_shutdown loop) fun _ => ?_
    refine Thread.each_bind (Thread.each_change fun _ => rfl) fun _ => ?_
    exact Thread.each_bind (Thread.each_change fun _ => rfl) fun _ => trivial
  · trivial

/-- A pass leaves no restart pending. -/
theorem pass_settles {loop : Loop σ} {result : PassReport × Loop σ} {before after : Environment}
    (reaches : Thread.Reaches Environment.Outside loop.pass before (.done result) after) :
    after.restartPending = false := by
  obtain ⟨_, _, _, passing⟩ := reaches.split
  obtain ⟨_, _, _, finishing⟩ := passing.split
  obtain ⟨_, _, _, finishing⟩ := finishing.split
  obtain ⟨_, _, _, finishing⟩ := finishing.split
  obtain ⟨_, _, restarting, reporting⟩ := finishing.split
  exact (steady_of_reaches reporting trivial).settled (serveRestart_settles restarting)

/-- A call of the owner leaves no restart pending. -/
theorem call_settles {loop final : Loop σ} {call : Call σ} {before after : Environment}
    (reaches : Thread.Reaches Environment.Outside (loop.call call) before (.done final) after)
    (settled : before.restartPending = false) : after.restartPending = false := by
  cases call with
  | start => exact (steady_of_reaches reaches (each_start_steady loop)).settled settled
  | shutdown => exact (steady_of_reaches reaches (admits_steady.each_shutdown loop)).settled settled
  | remember slot memory => exact (steady_of_reaches reaches trivial).settled settled
  | pass =>
    obtain ⟨_, _, passing, returning⟩ := reaches.split
    exact (steady_of_reaches returning trivial).settled (pass_settles passing)

/-- Calls in turn leave no restart pending. -/
theorem perform_settles {loop final : Loop σ} {calls : List (Call σ)} {before after : Environment}
    (reaches : Thread.Reaches Environment.Outside (loop.perform calls) before (.done final) after)
    (settled : before.restartPending = false) : after.restartPending = false := by
  induction calls generalizing loop before with
  | nil => exact (steady_of_reaches reaches trivial).settled settled
  | cons call rest ih =>
    obtain ⟨_, _, first, later⟩ := reaches.split
    exact ih later (call_settles first settled)

/-- A builder has no restart pending. -/
theorem settled_of_reached {builder : Builder σ} (reached : builder.Reached) :
    builder.environment.restartPending = false := by
  induction reached with
  | new config board blank => rfl
  | register _ adapter ih =>
    obtain ⟨lines, said⟩ := Builder.environment_register _ adapter
    rw [said]
    exact ih
  | outside _ occurrence ih => exact (Environment.restartPending_undergo _ occurrence).trans ih

/-- The exact call trace of a pass. From every state between two calls, a pass makes the calls of
`passCalls` in that order and no others, and its report agrees with them. It serves the stages that
are due, in ascending order, and arms each of them at its reading; a restart is carried out once if
the handler asked for it. -/
theorem Reachable.pass_exact {supervisor : Supervisor σ} (reachable : supervisor.Reachable) :
    Exact supervisor supervisor.pass := by
  obtain ⟨builder, reached, calls, reaches⟩ := reachable
  exact pass_of_settled (perform_settles reaches (settled_of_reached reached))

/-- A builder with one adapter. -/
def probeBuilder : Builder Unit :=
  ((Builder.onBoard {} {}).register (some { name := "probe", memory := () })).2

/-- Its supervisor, five seconds after the start, when a restart was requested. -/
def probe : Supervisor Unit :=
  probeBuilder.build.loop.supervisor
    ((probeBuilder.build.environment.undergo (.submit .producer "restart" none)).undergo
      (.clock 5000))

/-- It calls the handler, delivers its completion, serves the three stages that are due, and
restarts. -/
theorem pass_exact_probe :
    probe.passCalls = [.handler .core "restart" none,
      .adapter 0 (.event (.singleton .commandCompleted)),
      .hook .every1s, .adapter 0 (.interval .every1s),
      .hook .every2s, .adapter 0 (.interval .every2s),
      .hook .every5s, .adapter 0 (.interval .every5s),
      .adapter 0 .shutdown, .restart] ∧ Exact probe probe.pass := by
  have reached : probeBuilder.Reached := .register (.new {} {} rfl) _
  refine ⟨rfl, Reachable.pass_exact ⟨probeBuilder, reached, [], ?_⟩⟩
  exact .other ⟨.submit .producer "restart" none, rfl⟩ (.other ⟨.clock 5000, rfl⟩ (.here _ _))

end Overseer.Supervisor
