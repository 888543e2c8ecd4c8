import Overseer.Component
import Overseer.Proofs.Detector
import Overseer.Proofs.Operation
import Overseer.Proofs.Outside

/-!
# The loop beside others

The supervisor's own data (its adapters, its scheduler and its detector) is out of everyone else's
reach. What it does to the environment is here a thread: every operation of a callback or handler is
a step, and so are the two looks at the queue, the taking of the events, the reading of the clock
and the notes of the supervisor itself. Between any two of them tasks may use their handles. Run
alone, the threads are `Supervisor.start`, `Supervisor.pass` and `Supervisor.shutdown`.
-/
namespace Overseer

variable {σ : Type}

/-- The part of a supervisor that only the supervisor itself reads and writes. -/
structure Loop (σ : Type) where
  /-- The configuration. -/
  config : Config
  /-- The adapters. -/
  roster : Roster σ
  /-- When each stage last fired. -/
  scheduler : Scheduler
  /-- The crash-loop detector. -/
  detector : Detector

/-- The supervisor of a loop in an environment. -/
def Loop.supervisor (loop : Loop σ) (environment : Environment) : Supervisor σ where
  config := loop.config
  environment := environment
  roster := loop.roster
  scheduler := loop.scheduler
  detector := loop.detector

/-- A supervisor's own part. -/
def Supervisor.loop (supervisor : Supervisor σ) : Loop σ where
  config := supervisor.config
  roster := supervisor.roster
  scheduler := supervisor.scheduler
  detector := supervisor.detector

@[simp] theorem Supervisor.supervisor_loop (supervisor : Supervisor σ) :
    supervisor.loop.supervisor supervisor.environment = supervisor := rfl

/-! ### Rounds -/

/-- A call of an adapter. -/
def Adapter.thread (slot : Nat) (callback : Callback) (adapter : Adapter σ) :
    Thread Environment (Adapter σ) := do
  Thread.change (·.note (.adapter slot callback))
  let memory ← (adapter.respond callback adapter.memory).thread (.adapter slot)
  return { adapter with memory }

/-- Alone, it is `Adapter.call`. -/
theorem Adapter.run_thread (adapter : Adapter σ) (slot : Nat) (callback : Callback)
    (environment : Environment) :
    (adapter.thread slot callback).run environment = adapter.call slot callback environment := by
  simp [Adapter.thread, Adapter.call]

namespace Roster

/-- Visits to adapters in turn, the first of them in the given place. -/
def threadFrom (visit : Nat → Adapter σ → Thread Environment (Adapter σ)) :
    (slot : Nat) → (adapters : List (Adapter σ)) →
      Thread Environment { visited : List (Adapter σ) // visited.length = adapters.length }
  | _, [] => return ⟨[], rfl⟩
  | slot, adapter :: rest => do
    let adapter ← visit slot adapter
    let ⟨rest, same⟩ ← threadFrom visit (slot + 1) rest
    return ⟨adapter :: rest, congrArg (· + 1) same⟩

/-- Visits to every adapter. -/
def threadAll (visit : Nat → Adapter σ → Thread Environment (Adapter σ)) (roster : Roster σ) :
    Thread Environment (Roster σ) := do
  let ⟨adapters, same⟩ ← threadFrom visit 0 roster.adapters
  return { adapters, length_le := same ▸ roster.length_le }

/-- Alone, the visits are `Roster.visitFrom`. -/
theorem run_threadFrom {visit : Nat → Adapter σ → Thread Environment (Adapter σ)}
    {call : Nat → Adapter σ → Environment → Adapter σ × Environment}
    (alone : ∀ slot adapter environment,
      (visit slot adapter).run environment = call slot adapter environment)
    (slot : Nat) (adapters : List (Adapter σ)) (environment : Environment) :
    let done := (threadFrom visit slot adapters).run environment
    (done.1.val, done.2) = visitFrom call slot adapters environment := by
  induction adapters generalizing slot environment with
  | nil => rfl
  | cons adapter rest ih =>
    have later := ih (slot + 1) (call slot adapter environment).2
    simp only [threadFrom, Thread.run_bind, alone, visitFrom, ← later]
    rfl

/-- Alone, the visits to every adapter are `Roster.visitAll`. -/
theorem run_threadAll {visit : Nat → Adapter σ → Thread Environment (Adapter σ)}
    {call : Nat → Adapter σ → Environment → Adapter σ × Environment}
    (alone : ∀ slot adapter environment,
      (visit slot adapter).run environment = call slot adapter environment)
    (roster : Roster σ) (environment : Environment) :
    (threadAll visit roster).run environment = roster.visitAll call environment := by
  have visits := run_threadFrom alone 0 roster.adapters environment
  simp only [threadAll, visitAll, Thread.run_bind, ← visits]
  rfl

/-- A call of every adapter. -/
def callThread (roster : Roster σ) (callback : Callback) : Thread Environment (Roster σ) :=
  roster.threadAll fun slot adapter => adapter.thread slot callback

@[simp] theorem run_callThread (roster : Roster σ) (callback : Callback)
    (environment : Environment) :
    (roster.callThread callback).run environment = roster.callAll callback environment :=
  roster.run_threadAll (fun slot adapter => adapter.run_thread slot callback) environment

end Roster

/-! ### The start and the stop -/

namespace Loop

/-- Initialise an adapter, unless safe mode keeps it out. -/
def initAdapter (safe : Bool) (slot : Nat) (adapter : Adapter σ) :
    Thread Environment (Adapter σ) :=
  if safe && !adapter.runsInSafeMode then do
    Thread.change (·.say [.warn s!"Supervisor: safe mode, skipping init of '{adapter.name}'"])
    return adapter
  else do
    Thread.change (·.say [.info s!"Supervisor: init '{adapter.name}'"])
    adapter.thread slot .init

/-- Initialise the adapters, given what the detector decided. -/
def initialise (loop : Loop σ) (detector : Detector) : Thread Environment (Loop σ) := do
  let roster ← loop.roster.threadAll (initAdapter detector.active)
  let now ← Thread.look (·.board.clock)
  Thread.change (·.notify .core (.singleton .platformInitialized))
  Thread.change (·.say
    [.info s!"Supervisor: platform initialised (safe mode: {detector.active})"])
  return { loop with detector, roster, scheduler := .armedAt now }

/-- Start the platform. Deciding the mode is one step, since only the supervisor itself can reach
what it reads and writes. -/
def start (loop : Loop σ) : Thread Environment (Loop σ) :=
  .step (fun environment => (loop.supervisor environment).evaluateBoot.environment)
    fun environment => loop.initialise (loop.supervisor environment).evaluateBoot.detector

/-- Shut down one adapter. -/
def shutdownAdapter (slot : Nat) (adapter : Adapter σ) : Thread Environment (Adapter σ) := do
  Thread.change (·.say [.info s!"Supervisor: shutdown '{adapter.name}'"])
  adapter.thread slot .shutdown

/-- Shut down every adapter. -/
def shutdown (loop : Loop σ) : Thread Environment (Loop σ) := do
  let roster ← loop.roster.threadAll shutdownAdapter
  return { loop with roster }

/-- Alone, the initialisation of an adapter is `Supervisor.initAdapter`. -/
theorem run_initAdapter (safe : Bool) (slot : Nat) (adapter : Adapter σ)
    (environment : Environment) :
    (initAdapter safe slot adapter).run environment =
      Supervisor.initAdapter safe slot adapter environment := by
  unfold initAdapter Supervisor.initAdapter
  split
  · rfl
  · simp only [Thread.run_bind, Thread.run_change, Adapter.run_thread]

/-- Alone, the start is `Supervisor.start`. -/
theorem run_start (loop : Loop σ) (environment : Environment) :
    loop.start.run environment =
      let started := (loop.supervisor environment).start
      (started.loop, started.environment) := by
  have visits := loop.roster.run_threadAll
    (run_initAdapter (loop.supervisor environment).evaluateBoot.detector.active)
    (loop.supervisor environment).evaluateBoot.environment
  simp only [start, initialise, Thread.run_step, Thread.run_bind, visits]
  rfl

/-- Alone, the shutdown is `Supervisor.shutdown`. -/
theorem run_shutdown (loop : Loop σ) (environment : Environment) :
    loop.shutdown.run environment = ((loop.supervisor environment).shutdown.loop,
      (loop.supervisor environment).shutdown.environment) := by
  have single (slot : Nat) (adapter : Adapter σ) (environment : Environment) :
      (shutdownAdapter slot adapter).run environment =
        Supervisor.shutdownAdapter slot adapter environment := by
    simp only [shutdownAdapter, Thread.run_bind, Thread.run_change, Adapter.run_thread]
    rfl
  have visits := loop.roster.run_threadAll single environment
  simp only [shutdown, Thread.run_bind, visits]
  rfl

end Loop

/-! ### A pass -/

namespace Environment

/-- A job's handler is about to be run. -/
def begin (environment : Environment) (job : Job) : Environment :=
  (environment.say [.info s!"Supervisor: received command '{job.command.id}'"]).note
    (.handler job.command.owner job.command.id job.args)

/-- Take the job that has waited longest, and begin to run it. -/
def takeJob (environment : Environment) : Option Job × Environment :=
  match environment.hub.receive with
  | none => (none, environment)
  | some (job, hub) => (some job, { environment with hub }.begin job)

/-- When no job waits, none is taken and nothing happens. -/
theorem takeJob_of_nil {environment : Environment} (empty : environment.hub.queue = []) :
    environment.takeJob = (none, environment) := by
  rw [takeJob, (environment.hub.receive_eq_none_iff).mpr empty]

/-- What taking the first of the jobs that wait does. -/
structure Taken (job : Job) (rest : List Job) (before : Environment)
    (result : Option Job × Environment) : Prop where
  answer : result.1 = some job
  queue : result.2.hub.queue = rest
  commands : result.2.hub.commands = before.hub.commands
  events : result.2.hub.events = before.hub.events
  trace : result.2.trace =
    before.trace ++ [.handler job.command.owner job.command.id job.args]
  restartPending : result.2.restartPending = before.restartPending
  restarts : result.2.board.restarts = before.board.restarts

/-- When jobs wait, the first of them is taken, and its handler is called. -/
theorem takeJob_taken {environment : Environment} {job : Job} {rest : List Job}
    (waiting : environment.hub.queue = job :: rest) :
    Taken job rest environment environment.takeJob := by
  unfold takeJob
  cases received : environment.hub.receive with
  | none =>
    rw [(environment.hub.receive_eq_none_iff).mp received] at waiting
    contradiction
  | some taken =>
    obtain ⟨first, hub⟩ := taken
    have split := Hub.queue_of_receive received
    rw [waiting, List.cons.injEq] at split
    obtain ⟨rfl, rfl⟩ := split
    unfold Hub.receive at received
    split at received
    · contradiction
    · simp only [Option.some.injEq, Prod.mk.injEq] at received
      obtain ⟨rfl, rfl⟩ := received
      exact ⟨rfl, rfl, rfl, rfl, rfl, rfl, rfl⟩

end Environment

namespace Loop

/-- A look at the queue. Taking a job and beginning to run it is one step, since no one else can see
the job in between. -/
def take : Thread Environment (Option Job) :=
  .step (·.takeJob.2) fun environment => .done environment.takeJob.1

/-- Take the next job. When none waits, a pass that does not only poll looks again later: when a job
came in, or when the time to wait is over. -/
def receive (wait : UInt32) : Thread Environment (Option Job) := do
  match ← take with
  | some job => return some job
  | none => if wait = 0 then return none else take

/-- Raise the event of a job's completion. -/
def complete : Thread Environment Unit :=
  Thread.change (·.notify .core (.singleton .commandCompleted))

/-- Run a job's handler and raise the event of its completion. -/
def runJob (job : Job) : Thread Environment Unit := do
  (job.command.handler job.args).thread job.command.owner
  complete

/-- Run the job that was taken, if there is one. -/
def runTaken : Option Job → Thread Environment Unit
  | none => return ()
  | some job => runJob job

/-- Take the raised events and deliver them, if there are any, to every adapter. -/
def deliverEvents (loop : Loop σ) : Thread Environment (EventSet × Loop σ) :=
  .step (·.takeEvents.2) fun environment =>
    let events := environment.takeEvents.1
    if events.isEmpty then return (events, loop)
    else do
      let roster ← loop.roster.callThread (.event events)
      return (events, { loop with roster })

/-- Serve one due stage: the safe-mode hook, then, outside safe mode, every adapter. The hook is one
step, since only the supervisor itself can reach what it reads and writes. -/
def serveStage (uptime : UInt64) (safe : Bool) (loop : Loop σ) (stage : Stage) :
    Thread Environment (Loop σ) :=
  let hook (environment : Environment) :=
    loop.detector.onInterval stage uptime (environment.note (.hook stage)).board
  .step (fun environment => { environment with board := (hook environment).2 })
    fun environment =>
      if safe then return { loop with detector := (hook environment).1 }
      else do
        let roster ← loop.roster.callThread (.interval stage)
        return { loop with detector := (hook environment).1, roster }

/-- Serve stages in turn. -/
def serveEach (uptime : UInt64) (safe : Bool) : List Stage → Loop σ → Thread Environment (Loop σ)
  | [], loop => return loop
  | stage :: rest, loop => do
    let loop ← loop.serveStage uptime safe stage
    serveEach uptime safe rest loop

/-- Serve every stage that is due at the current reading. -/
def serveStages (loop : Loop σ) : Thread Environment (List Stage × Loop σ) := do
  let now ← Thread.look (·.board.clock)
  let (stages, scheduler) := loop.scheduler.fire now
  let loop ← serveEach (now / 1000) loop.detector.active stages { loop with scheduler }
  return (stages, loop)

/-- Carry out a restart, if one was asked for. -/
def serveRestart (loop : Loop σ) : Thread Environment (Bool × Loop σ) :=
  .step ({ · with restartPending := false }) fun environment =>
    if environment.restartPending then do
      let loop ← loop.shutdown
      Thread.change (·.say [.info "Supervisor: restarting"])
      Thread.change fun environment => { environment with board := environment.board.restart }
      return (true, loop)
    else return (false, loop)

/-- What is left of a pass when the job that was taken was run, or none was. -/
def finish (loop : Loop σ) (taken : Option Job) : Thread Environment (PassReport × Loop σ) := do
  let (events, loop) ← loop.deliverEvents
  let (stages, loop) ← loop.serveStages
  let (restarted, loop) ← loop.serveRestart
  return ({ command := taken.map (·.command.id), events, stages, restarted }, loop)

/-- What is left of a pass when its job was taken, or none was. -/
def passWith (loop : Loop σ) (taken : Option Job) : Thread Environment (PassReport × Loop σ) := do
  runTaken taken
  loop.finish taken

/-- One pass. -/
def pass (loop : Loop σ) : Thread Environment (PassReport × Loop σ) := do
  let taken ← receive loop.config.commandWait
  loop.passWith taken

/-! ### Alone -/

/-- Alone, the first phase is `Supervisor.serveCommand`; a second look finds what the first one
found. -/
theorem run_receive (loop : Loop σ) (environment : Environment) :
    let taken := (receive loop.config.commandWait).run environment
    let served := (loop.supervisor environment).serveCommand
    served = (taken.1.map (·.command.id),
      loop.supervisor ((runTaken taken.1).run taken.2).2) := by
  cases waiting : environment.hub.receive with
  | none =>
    by_cases polls : loop.config.commandWait = 0
    · simp [receive, take, Environment.takeJob, waiting, polls, Supervisor.serveCommand,
        runTaken, Loop.supervisor]
    · simp [receive, take, Environment.takeJob, waiting, polls, Supervisor.serveCommand,
        runTaken, Loop.supervisor]
  | some taken =>
    obtain ⟨job, hub⟩ := taken
    simp [receive, take, Environment.takeJob, waiting, Supervisor.serveCommand, runTaken, runJob,
      complete, Loop.supervisor, Supervisor.runJob, Environment.begin]

/-- Alone, the delivery is `Supervisor.deliverEvents`. -/
theorem run_deliverEvents (loop : Loop σ) (environment : Environment) :
    let done := loop.deliverEvents.run environment
    (loop.supervisor environment).deliverEvents = (done.1.1, done.1.2.supervisor done.2) := by
  simp only [deliverEvents, Supervisor.deliverEvents, Thread.run_step, Loop.supervisor]
  by_cases empty : environment.takeEvents.1.isEmpty
  · simp only [empty, ↓reduceIte]
    rfl
  · simp only [empty, Bool.false_eq_true, ↓reduceIte, Thread.run_bind, Roster.run_callThread]
    rfl

/-- Alone, the service of a stage is `Supervisor.serveStage`. -/
theorem run_serveStage (uptime : UInt64) (safe : Bool) (loop : Loop σ) (stage : Stage)
    (environment : Environment) :
    let done := (loop.serveStage uptime safe stage).run environment
    (loop.supervisor environment).serveStage uptime safe stage =
      done.1.supervisor done.2 := by
  cases safe with
  | true => rfl
  | false =>
    simp only [serveStage, Supervisor.serveStage, Bool.false_eq_true, ↓reduceIte,
      Thread.run_step, Thread.run_bind, Roster.run_callThread]
    rfl

/-- Alone, the service of stages in turn is a fold. -/
theorem run_serveEach (uptime : UInt64) (safe : Bool) (stages : List Stage) (loop : Loop σ)
    (environment : Environment) :
    let done := (serveEach uptime safe stages loop).run environment
    stages.foldl (Supervisor.serveStage uptime safe) (loop.supervisor environment) =
      done.1.supervisor done.2 := by
  induction stages generalizing loop environment with
  | nil => rfl
  | cons stage rest ih =>
    simp only [List.foldl_cons, run_serveStage, ih, serveEach, Thread.run_bind]

/-- Alone, the service of the due stages is `Supervisor.serveStages`. -/
theorem run_serveStages (loop : Loop σ) (environment : Environment) :
    let done := loop.serveStages.run environment
    (loop.supervisor environment).serveStages = (done.1.1, done.1.2.supervisor done.2) := by
  let now := environment.board.clock
  let fired : Loop σ := { loop with scheduler := (loop.scheduler.fire now).2 }
  have served := run_serveEach (now / 1000) loop.detector.active (loop.scheduler.fire now).1 fired
    environment
  simp only [serveStages, Thread.run_bind, Thread.run_look]
  exact congrArg _ served

/-- Alone, the last phase is `Supervisor.serveRestart`. -/
theorem run_serveRestart (loop : Loop σ) (environment : Environment) :
    let done := loop.serveRestart.run environment
    (loop.supervisor environment).serveRestart = (done.1.1, done.1.2.supervisor done.2) := by
  simp only [serveRestart, Supervisor.serveRestart, Thread.run_step, Loop.supervisor]
  by_cases pending : environment.restartPending = true
  · simp only [pending, ↓reduceIte, Thread.run_bind, run_shutdown]
    rfl
  · have idle : environment.restartPending = false := Bool.eq_false_iff.mpr pending
    have same : { environment with restartPending := false } = environment := by rw [← idle]
    simp only [pending, Bool.false_eq_true, ↓reduceIte, same]
    rfl

/-- Alone, the pass is `Supervisor.pass`. -/
theorem run_pass (loop : Loop σ) (environment : Environment) :
    let done := loop.pass.run environment
    (loop.supervisor environment).pass = (done.1.1, done.1.2.supervisor done.2) := by
  have command := loop.run_receive environment
  simp only [pass, passWith, finish, Thread.run_bind, Supervisor.pass] at command ⊢
  generalize (receive loop.config.commandWait).run environment = taken at command ⊢
  generalize (runTaken taken.1).run taken.2 = ran at command ⊢
  have delivery := loop.run_deliverEvents ran.2
  generalize loop.deliverEvents.run ran.2 = delivered at delivery ⊢
  have service := delivered.1.2.run_serveStages delivered.2
  generalize delivered.1.2.serveStages.run delivered.2 = served at service ⊢
  have restart := served.1.2.run_serveRestart served.2
  generalize served.1.2.serveRestart.run served.2 = restarted at restart ⊢
  dsimp only at delivery service restart ⊢
  rw [command]
  dsimp only
  rw [delivery]
  dsimp only
  rw [service]
  dsimp only
  rw [restart]
  rfl

end Loop

/-! ### What holds of each step -/

/-- A relation that holds across every step of a round: log lines, calls of adapters, and operations
of their callbacks. -/
structure Admits (relation : Environment → Environment → Prop) : Prop where
  say : ∀ environment lines, relation environment (environment.say lines)
  call : ∀ environment slot callback,
    relation environment (environment.note (.adapter slot callback))
  operation : ∀ slot verb before after, verb.IsCallback →
    Operation (.adapter slot) verb before after → relation before after

namespace Admits

variable {relation : Environment → Environment → Prop}

/-- It holds of each step of a call. -/
theorem each_call (admits : Admits relation) (adapter : Adapter σ) (slot : Nat)
    (callback : Callback) : (adapter.thread slot callback).Each relation := by
  refine Thread.each_bind (Thread.each_change fun environment => admits.call environment _ _)
    fun _ => Thread.each_bind ?_ fun _ => trivial
  exact Program.each_thread relation (Program.only_isCallback _) (admits.operation slot)

/-- It holds of each step of visits in turn of which it holds. -/
theorem each_threadFrom {visit : Nat → Adapter σ → Thread Environment (Adapter σ)}
    (each : ∀ slot adapter, (visit slot adapter).Each relation) (slot : Nat)
    (adapters : List (Adapter σ)) : (Roster.threadFrom visit slot adapters).Each relation := by
  induction adapters generalizing slot with
  | nil => trivial
  | cons adapter rest ih =>
    refine Thread.each_bind (each slot adapter) fun visited => ?_
    exact Thread.each_bind (ih (slot + 1)) fun _ => trivial

/-- It holds of each step of visits to every adapter. -/
theorem each_threadAll {visit : Nat → Adapter σ → Thread Environment (Adapter σ)}
    (each : ∀ slot adapter, (visit slot adapter).Each relation) (roster : Roster σ) :
    (roster.threadAll visit).Each relation :=
  Thread.each_bind (each_threadFrom each 0 roster.adapters) fun _ => trivial

/-- It holds of each step of a round. -/
theorem each_callThread (admits : Admits relation) (roster : Roster σ) (callback : Callback) :
    (roster.callThread callback).Each relation :=
  each_threadAll (fun slot adapter => admits.each_call adapter slot callback) roster

/-- It holds of each step of the initialisation. -/
theorem each_initAdapter (admits : Admits relation) (safe : Bool) (slot : Nat)
    (adapter : Adapter σ) : (Loop.initAdapter safe slot adapter).Each relation := by
  unfold Loop.initAdapter
  split
  · exact Thread.each_bind (Thread.each_change fun environment => admits.say environment _)
      fun _ => trivial
  · exact Thread.each_bind (Thread.each_change fun environment => admits.say environment _)
      fun _ => admits.each_call adapter slot .init

/-- It holds of each step of the shutdown. -/
theorem each_shutdown (admits : Admits relation) (loop : Loop σ) :
    loop.shutdown.Each relation := by
  refine Thread.each_bind (each_threadAll (fun slot adapter => ?_) loop.roster) fun _ => trivial
  exact Thread.each_bind (Thread.each_change fun environment => admits.say environment _)
    fun _ => admits.each_call adapter slot .shutdown

/-- It holds of each step of the delivery of events, if it holds across their taking. -/
theorem each_deliverEvents (admits : Admits relation)
    (takeEvents : ∀ environment, relation environment environment.takeEvents.2) (loop : Loop σ) :
    loop.deliverEvents.Each relation := by
  refine fun environment => ⟨takeEvents environment, ?_⟩
  dsimp only
  split
  · trivial
  · exact Thread.each_bind (admits.each_callThread _ _) fun _ => trivial

end Admits

/-- What holds across every look at the queue holds of each step of receiving a job. -/
theorem Loop.each_receive {relation : Environment → Environment → Prop}
    (takes : ∀ environment, relation environment environment.takeJob.2) (wait : UInt32) :
    (Loop.receive wait).Each relation := by
  have look : Loop.take.Each relation := fun environment => ⟨takes environment, trivial⟩
  refine Thread.each_bind look fun taken => ?_
  cases taken with
  | some job => trivial
  | none =>
    dsimp only
    split
    · trivial
    · exact look

/-- A relation that holds across every step of the loop itself, but for those of the detector and
the looks at the queue. -/
structure Carries (relation : Environment → Environment → Prop) : Prop
    extends Admits relation where
  refl : ∀ environment, relation environment environment
  notify : ∀ environment events, relation environment (environment.notify .core events)
  takeEvents : ∀ environment, relation environment environment.takeEvents.2
  withdraw : ∀ environment, relation environment { environment with restartPending := false }
  restart : ∀ environment,
    relation environment { environment with board := environment.board.restart }

namespace Carries

variable {relation : Environment → Environment → Prop}

/-- It holds of each step of running a job that was taken, if it holds across those of the job's
handler. -/
theorem each_runTaken (carries : Carries relation) (taken : Option Job)
    (handler : ∀ job ∈ taken,
      ((job.command.handler job.args).thread job.command.owner).Each relation) :
    (Loop.runTaken taken).Each relation := by
  cases taken with
  | none => trivial
  | some job =>
    refine Thread.each_bind (handler job rfl) fun _ => ?_
    exact Thread.each_change fun environment => carries.notify environment _

/-- It holds of each step of the delivery of events. -/
theorem each_deliverEvents (carries : Carries relation) (loop : Loop σ) :
    loop.deliverEvents.Each relation :=
  carries.toAdmits.each_deliverEvents carries.takeEvents loop

/-- It holds of each step of the start that follows the decision on the mode. -/
theorem each_initialise (carries : Carries relation) (loop : Loop σ) (detector : Detector) :
    (loop.initialise detector).Each relation := by
  refine Thread.each_bind (Admits.each_threadAll (carries.each_initAdapter _) _) fun _ => ?_
  refine Thread.each_bind (Thread.each_look carries.refl _) fun _ => ?_
  refine Thread.each_bind (Thread.each_change fun environment => carries.notify environment _)
    fun _ => ?_
  exact Thread.each_bind (Thread.each_change fun environment => carries.say environment _)
    fun _ => trivial

/-- It holds of each step of the restart. -/
theorem each_serveRestart (carries : Carries relation) (loop : Loop σ) :
    loop.serveRestart.Each relation := by
  refine fun environment => ⟨carries.withdraw environment, ?_⟩
  dsimp only
  split
  · refine Thread.each_bind (carries.each_shutdown loop) fun _ => ?_
    refine Thread.each_bind (Thread.each_change fun environment => carries.say environment _)
      fun _ => ?_
    exact Thread.each_bind (Thread.each_change carries.restart) fun _ => trivial
  · trivial

end Carries

/-- Whether an entry is one that the loop makes about its own steps. -/
def Entry.IsStep : Entry → Prop
  | .adapter .. | .hook _ | .taken _ | .restart => True
  | _ => False

/-- All that the operations of callbacks note are requests. -/
theorem Environment.Notes.of_callback {actor : Actor} {verb : Verb} {before after : Environment}
    (callback : verb.IsCallback) (operation : Operation actor verb before after) :
    Notes Entry.IsRequest before after := by
  cases operation with
  | log _ line => exact .of_silence rfl
  | clock | inspect => exact .refl _
  | elapse _ milliseconds => exact .of_silence rfl
  | notify _ events => exact .of_note (before.trace_notify actor events) trivial
  | submit _ id args => exact .of_note (before.trace_submit actor id args) trivial
  | _ => exact callback.elim

/-- What includes requests and the entries of the loop's own steps is noted by these steps. -/
theorem Carries.notes {kind : Entry → Prop}
    (requests : ∀ entry : Entry, entry.IsRequest → kind entry)
    (steps : ∀ entry : Entry, entry.IsStep → kind entry) : Carries (Environment.Notes kind) where
  say environment lines := .of_silence (environment.trace_say lines)
  call environment _ _ := .of_note (environment.trace_note _) (steps _ trivial)
  operation _ _ _ _ callback operation :=
    (Environment.Notes.of_callback callback operation).imp requests
  refl environment := .refl environment
  notify environment _ := .of_note (environment.trace_notify _ _) (requests _ trivial)
  takeEvents environment := .of_note environment.trace_takeEvents (steps _ trivial)
  withdraw _ := .of_silence rfl
  restart environment :=
    .of_note (show _ = environment.trace ++ [.restart] from rfl) (steps _ trivial)

/-- The device after the safe-mode hook of a stage. -/
def Environment.hooked (environment : Environment) (detector : Detector) (stage : Stage)
    (uptime : UInt64) : Environment :=
  { environment with
    board := (detector.onInterval stage uptime (environment.note (.hook stage)).board).2 }

/-- All that the decision on the mode notes is the detector's. -/
theorem Loop.notes_boot (loop : Loop σ) (environment : Environment) :
    Environment.Notes Entry.IsDetection environment
      (loop.supervisor environment).evaluateBoot.environment := by
  obtain ⟨counting, validation, added, counts, kinds, -⟩ :=
    (loop.supervisor environment).evaluateBoot_booted.added
  refine ⟨_, added.trace, fun entry member => ?_⟩
  rcases List.mem_append.mp member with count | validating
  · exact (counts entry count).isDetection
  · exact (kinds entry validating).isDetection

/-- A hook notes its call, and then only what is the detector's. -/
theorem Environment.trace_hooked (environment : Environment) (detector : Detector) (stage : Stage)
    (uptime : UInt64) : ∃ entries,
      (environment.hooked detector stage uptime).trace =
        environment.trace ++ .hook stage :: entries ∧ ∀ entry ∈ entries, entry.IsDetection := by
  have worked := detector.onInterval_worked stage uptime (environment.note (.hook stage)).board
  obtain ⟨entries, added, detections⟩ := worked.detections
  exact ⟨entries, ((environment.board.adds_note (.hook stage)).trans added).trace, detections⟩

/-- All that a hook notes is its call and what is the detector's. -/
theorem Environment.notes_hooked (environment : Environment) (detector : Detector) (stage : Stage)
    (uptime : UInt64) :
    Notes (fun entry => entry.IsStep ∨ entry.IsDetection) environment
      (environment.hooked detector stage uptime) := by
  obtain ⟨entries, trace, detections⟩ := environment.trace_hooked detector stage uptime
  refine ⟨_, trace, fun entry member => ?_⟩
  rcases List.mem_cons.mp member with rfl | later
  · exact .inl trivial
  · exact .inr (detections entry later)

namespace Admits

variable {relation : Environment → Environment → Prop} (admits : Admits relation)
  (hook : ∀ environment detector stage uptime,
    relation environment (environment.hooked detector stage uptime))

include admits hook

/-- It holds of each step of the service of a stage, if it holds across the hook. -/
theorem each_serveStage (loop : Loop σ) (uptime : UInt64) (safe : Bool) (stage : Stage) :
    (loop.serveStage uptime safe stage).Each relation := by
  refine fun environment => ⟨hook environment loop.detector stage uptime, ?_⟩
  split
  · trivial
  · exact Thread.each_bind (admits.each_callThread _ _) fun _ => trivial

/-- So it does of the service of stages in turn. -/
theorem each_serveEach (uptime : UInt64) (safe : Bool) (stages : List Stage) (loop : Loop σ) :
    (Loop.serveEach uptime safe stages loop).Each relation := by
  induction stages generalizing loop with
  | nil => trivial
  | cons stage rest ih => exact Thread.each_bind (each_serveStage admits hook _ _ _ _) ih

/-- So it does of the service of the due stages. -/
theorem each_serveStages (refl : ∀ environment, relation environment environment)
    (loop : Loop σ) : loop.serveStages.Each relation := by
  refine Thread.each_bind (Thread.each_look refl _) fun now => ?_
  exact Thread.each_bind (each_serveEach admits hook _ _ _ _) fun _ => trivial

end Admits

/-- A relation that holds across every step of the loop itself but the looks at the queue. -/
structure Covers (relation : Environment → Environment → Prop) : Prop
    extends Carries relation where
  boot : ∀ {σ : Type} (loop : Loop σ) environment,
    relation environment (loop.supervisor environment).evaluateBoot.environment
  hook : ∀ environment detector stage uptime,
    relation environment (environment.hooked detector stage uptime)

namespace Covers

variable {relation : Environment → Environment → Prop}

/-- What includes requests, the entries of the loop's own steps and those of the detector is noted
by all these steps. -/
theorem notes {kind : Entry → Prop} (requests : ∀ entry : Entry, entry.IsRequest → kind entry)
    (steps : ∀ entry : Entry, entry.IsStep → kind entry)
    (detections : ∀ entry : Entry, entry.IsDetection → kind entry) :
    Covers (Environment.Notes kind) where
  toCarries := .notes requests steps
  boot loop environment := (loop.notes_boot environment).imp detections
  hook environment detector stage uptime :=
    (environment.notes_hooked detector stage uptime).imp fun entry kinds =>
      kinds.elim (steps entry) (detections entry)

/-- Two relations that hold across these steps. -/
theorem and {other : Environment → Environment → Prop} (covers : Covers relation)
    (also : Covers other) :
    Covers fun before after => relation before after ∧ other before after where
  say environment lines := ⟨covers.say environment lines, also.say environment lines⟩
  call environment slot callback :=
    ⟨covers.call environment slot callback, also.call environment slot callback⟩
  operation slot verb before after callback done :=
    ⟨covers.operation slot verb before after callback done,
      also.operation slot verb before after callback done⟩
  refl environment := ⟨covers.refl environment, also.refl environment⟩
  notify environment events := ⟨covers.notify environment events, also.notify environment events⟩
  takeEvents environment := ⟨covers.takeEvents environment, also.takeEvents environment⟩
  withdraw environment := ⟨covers.withdraw environment, also.withdraw environment⟩
  restart environment := ⟨covers.restart environment, also.restart environment⟩
  boot loop environment := ⟨covers.boot loop environment, also.boot loop environment⟩
  hook environment detector stage uptime :=
    ⟨covers.hook environment detector stage uptime, also.hook environment detector stage uptime⟩

/-- What follows from a relation that holds across these steps holds across them. -/
theorem imp {weaker : Environment → Environment → Prop} (covers : Covers relation)
    (follows : ∀ before after, relation before after → weaker before after) : Covers weaker where
  say environment lines := follows _ _ (covers.say environment lines)
  call environment slot callback := follows _ _ (covers.call environment slot callback)
  operation slot verb before after callback done :=
    follows _ _ (covers.operation slot verb before after callback done)
  refl environment := follows _ _ (covers.refl environment)
  notify environment events := follows _ _ (covers.notify environment events)
  takeEvents environment := follows _ _ (covers.takeEvents environment)
  withdraw environment := follows _ _ (covers.withdraw environment)
  restart environment := follows _ _ (covers.restart environment)
  boot loop environment := follows _ _ (covers.boot loop environment)
  hook environment detector stage uptime :=
    follows _ _ (covers.hook environment detector stage uptime)

/-- It holds of each step of the start. -/
theorem each_start (covers : Covers relation) (loop : Loop σ) : loop.start.Each relation :=
  fun environment => ⟨covers.boot loop environment, covers.each_initialise loop _⟩

/-- It holds of each step of the service of the due stages. -/
theorem each_serveStages (covers : Covers relation) (loop : Loop σ) :
    loop.serveStages.Each relation :=
  covers.toAdmits.each_serveStages covers.hook covers.refl loop

/-- It holds of each step of what is left of a pass when its job was run. -/
theorem each_finish (covers : Covers relation) (loop : Loop σ) (taken : Option Job) :
    (loop.finish taken).Each relation := by
  refine Thread.each_bind (covers.each_deliverEvents _) fun delivered => ?_
  refine Thread.each_bind (covers.each_serveStages _) fun served => ?_
  exact Thread.each_bind (covers.each_serveRestart _) fun _ => trivial

/-- It holds of each step of what is left of a pass when its job was taken, if it holds across those
of the job's handler. -/
theorem each_passWith (covers : Covers relation) (loop : Loop σ) (taken : Option Job)
    (handler : ∀ job ∈ taken,
      ((job.command.handler job.args).thread job.command.owner).Each relation) :
    (loop.passWith taken).Each relation :=
  Thread.each_bind (covers.each_runTaken taken handler) fun _ => covers.each_finish loop taken

end Covers

/-! ### Runs -/

/-- What the owner of a supervisor does with it. -/
inductive Call (σ : Type) where
  /-- Start the platform. -/
  | start
  /-- Make one pass. -/
  | pass
  /-- Shut down every adapter. -/
  | shutdown
  /-- Let the adapter in a place, by what a task of its own did, remember something else. -/
  | remember (slot : Nat) (memory : σ)

namespace Loop

/-- Carry out a call. -/
def call (loop : Loop σ) : Call σ → Thread Environment (Loop σ)
  | .start => loop.start
  | .pass => do
    let (_, loop) ← loop.pass
    return loop
  | .shutdown => loop.shutdown
  | .remember slot memory => return { loop with roster := loop.roster.remember slot memory }

/-- Carry out calls in turn. -/
def perform (loop : Loop σ) : List (Call σ) → Thread Environment (Loop σ)
  | [] => return loop
  | call :: rest => do
    let loop ← loop.call call
    loop.perform rest

/-- Further calls are carried out from where the earlier ones lead. -/
theorem perform_append (loop : Loop σ) (calls more : List (Call σ)) :
    loop.perform (calls ++ more) = loop.perform calls >>= fun loop => loop.perform more := by
  induction calls generalizing loop with
  | nil => rfl
  | cons call rest ih =>
    simp only [List.cons_append, perform, ih, Thread.bind_assoc]

end Loop

/-- A relation that holds across every step there is: those of the loop itself, those of handlers,
and everything beside them. -/
structure Pervades (relation : Environment → Environment → Prop) : Prop
    extends Covers relation where
  trans : ∀ first second third, relation first second → relation second third →
    relation first third
  takeJob : ∀ environment, relation environment environment.takeJob.2
  program : ∀ actor verb before after, Operation actor verb before after → relation before after
  outside : ∀ before after, Environment.Outside before after → relation before after

namespace Pervades

variable {relation : Environment → Environment → Prop}

/-- Every step only adds to the trace. -/
theorem grows : Pervades (Environment.Notes fun _ => True) where
  toCovers := .notes (fun _ _ => trivial) (fun _ _ => trivial) fun _ _ => trivial
  trans := .trans
  takeJob environment := by
    cases waiting : environment.hub.queue with
    | nil =>
      rw [Environment.takeJob_of_nil waiting]
      exact .refl _
    | cons job rest => exact .of_note (Environment.takeJob_taken waiting).trace trivial
  program _ _ _ _ operation :=
    (Environment.Notes.of_operation operation).imp fun _ _ => trivial
  outside before after outside :=
    (Environment.Outside.notes before after outside).imp fun _ _ => trivial

/-- It holds of each step of a pass. -/
theorem each_pass (pervades : Pervades relation) (loop : Loop σ) : loop.pass.Each relation := by
  refine Thread.each_bind (Loop.each_receive pervades.takeJob _) fun taken => ?_
  refine pervades.each_passWith loop taken fun job _ => ?_
  exact Program.each_thread relation (Program.only_any _) fun verb before after _ operation =>
    pervades.program _ verb before after operation

/-- It holds of each step of calls in turn. -/
theorem each_perform (pervades : Pervades relation) (loop : Loop σ) (calls : List (Call σ)) :
    (loop.perform calls).Each relation := by
  induction calls generalizing loop with
  | nil => trivial
  | cons call rest ih =>
    refine Thread.each_bind ?_ ih
    cases call with
    | start => exact pervades.each_start loop
    | pass => exact Thread.each_bind (pervades.each_pass loop) fun _ => trivial
    | shutdown => exact pervades.each_shutdown loop
    | remember slot memory => trivial

/-- It holds between any two moments of a thread of each of whose steps it holds. -/
theorem across {α : Type} {thread left : Thread Environment α} {start stop : Environment}
    (pervades : Pervades relation) (each : thread.Each relation)
    (reaches : Thread.Reaches Environment.Outside thread start left stop) : relation start stop :=
  (reaches.each pervades.refl pervades.trans pervades.outside each).1

end Pervades

/-- The supervisors between two calls of their owner: any calls were made, and between any two steps
of them things happened beside the loop. -/
def Supervisor.Reachable (supervisor : Supervisor σ) : Prop :=
  ∃ builder : Builder σ, builder.Reached ∧ ∃ calls,
    Thread.Reaches Environment.Outside (builder.build.loop.perform calls)
      builder.build.environment (.done supervisor.loop) supervisor.environment

end Overseer
