import Overseer.Supervisor.Adapter
import Overseer.Supervisor.Detector

/-!
# The supervisor loop

The platform starts once: the safe-mode state of the boot is decided, the adapters that may run are
initialised, and the event of that is raised. Then the loop makes one pass after another. A pass
runs at most one command, delivers the events raised since the pass before, serves every stage that
is due, and carries out a restart that its command asked for. In safe mode no adapter is called for
a stage.
-/
namespace Overseer

/-- A running supervisor. -/
structure Supervisor (σ : Type) where
  /-- The configuration. -/
  config : Config
  /-- The device, and what is shared with producers. -/
  environment : Environment
  /-- The adapters. -/
  roster : Roster σ
  /-- When each stage last fired. -/
  scheduler : Scheduler
  /-- The crash-loop detector. -/
  detector : Detector

/-- What one pass did. -/
structure PassReport where
  /-- The command that was run. -/
  command : Option String := none
  /-- The events that were delivered. -/
  events : EventSet := ∅
  /-- The stages that were served. -/
  stages : List Stage := []
  /-- Whether the chip was restarted. -/
  restarted : Bool := false
deriving DecidableEq, Repr, Inhabited

namespace Supervisor

variable {σ : Type}

/-- Submit a command from a task beside the loop. -/
def submit (supervisor : Supervisor σ) (id : String) (args : Option String) :
    Except SubmissionError Unit × Supervisor σ :=
  let (result, environment) := supervisor.environment.submit .producer id args
  (result, { supervisor with environment })

/-- Raise events from a task beside the loop. -/
def notify (supervisor : Supervisor σ) (events : EventSet) : Supervisor σ :=
  { supervisor with environment := supervisor.environment.notify .producer events }

/-- Initialise an adapter, unless safe mode keeps it out. -/
def initAdapter (safe : Bool) (slot : Nat) (adapter : Adapter σ) (environment : Environment) :
    Adapter σ × Environment :=
  if safe && !adapter.runsInSafeMode then
    (adapter,
      environment.say [.warn s!"Supervisor: safe mode, skipping init of '{adapter.name}'"])
  else
    adapter.call slot .init (environment.say [.info s!"Supervisor: init '{adapter.name}'"])

/-- Decide the safe-mode state of the boot; in safe mode the firmware is validated at once. -/
def evaluateBoot (supervisor : Supervisor σ) : Supervisor σ :=
  let board := supervisor.environment.board
  let (detector, board) := supervisor.detector.evaluateBoot board.resetReason board
  let (detector, board) :=
    if detector.active then detector.validateFirmware board else (detector, board)
  { supervisor with detector, environment := { supervisor.environment with board } }

/-- Initialise the adapters that may run. -/
def initAdapters (supervisor : Supervisor σ) : Supervisor σ :=
  let (roster, environment) :=
    supervisor.roster.visitAll (initAdapter supervisor.detector.active) supervisor.environment
  { supervisor with roster, environment }

/-- Start the platform: decide the safe-mode state, initialise adapters, arm every stage at the
reading after that, and raise the event of it. -/
def start (supervisor : Supervisor σ) : Supervisor σ :=
  let supervisor := supervisor.evaluateBoot.initAdapters
  let environment := supervisor.environment.notify .core (.singleton .platformInitialized)
  let safe := supervisor.detector.active
  { supervisor with
    scheduler := .armedAt environment.board.clock
    environment :=
      environment.say [.info s!"Supervisor: platform initialised (safe mode: {safe})"] }

/-- Run a job's handler and raise the event of its completion. -/
def runJob (supervisor : Supervisor σ) (job : Job) : Supervisor σ :=
  let command := job.command
  let environment := (supervisor.environment.say
    [.info s!"Supervisor: received command '{command.id}'"]).note
      (.handler command.owner command.id job.args)
  let ((), environment) := (command.handler job.args).run command.owner environment
  { supervisor with environment := environment.notify .core (.singleton .commandCompleted) }

/-- First phase of a pass: run the command that has waited longest, if there is one. -/
def serveCommand (supervisor : Supervisor σ) : Option String × Supervisor σ :=
  match supervisor.environment.hub.receive with
  | none => (none, supervisor)
  | some (job, hub) =>
    (some job.command.id,
      { supervisor with environment := { supervisor.environment with hub } }.runJob job)

/-- Second phase: take the raised events and deliver them, if there are any, to every adapter. -/
def deliverEvents (supervisor : Supervisor σ) : EventSet × Supervisor σ :=
  let (events, environment) := supervisor.environment.takeEvents
  if events.isEmpty then (events, { supervisor with environment })
  else
    let (roster, environment) := supervisor.roster.callAll (.event events) environment
    (events, { supervisor with roster, environment })

/-- Serve one due stage: the safe-mode hook, then, outside safe mode, every adapter. -/
def serveStage (uptime : UInt64) (safe : Bool) (supervisor : Supervisor σ) (stage : Stage) :
    Supervisor σ :=
  let environment := supervisor.environment.note (.hook stage)
  let (detector, board) := supervisor.detector.onInterval stage uptime environment.board
  let environment := { environment with board }
  if safe then { supervisor with detector, environment }
  else
    let (roster, environment) := supervisor.roster.callAll (.interval stage) environment
    { supervisor with detector, roster, environment }

/-- Third phase: serve every stage that is due at the current reading, in ascending order. -/
def serveStages (supervisor : Supervisor σ) : List Stage × Supervisor σ :=
  let now := supervisor.environment.board.clock
  let safe := supervisor.detector.active
  let (stages, scheduler) := supervisor.scheduler.fire now
  (stages, stages.foldl (serveStage (now / 1000) safe) { supervisor with scheduler })

/-- Shut down one adapter. -/
def shutdownAdapter (slot : Nat) (adapter : Adapter σ) (environment : Environment) :
    Adapter σ × Environment :=
  adapter.call slot .shutdown (environment.say [.info s!"Supervisor: shutdown '{adapter.name}'"])

/-- Shut down every adapter, in the order of registration. -/
def shutdown (supervisor : Supervisor σ) : Supervisor σ :=
  let (roster, environment) := supervisor.roster.visitAll shutdownAdapter supervisor.environment
  { supervisor with roster, environment }

/-- Last phase: carry out a restart, if one was asked for. -/
def serveRestart (supervisor : Supervisor σ) : Bool × Supervisor σ :=
  if supervisor.environment.restartPending then
    let environment := { supervisor.environment with restartPending := false }
    let supervisor := { supervisor with environment }.shutdown
    let environment := supervisor.environment.say [.info "Supervisor: restarting"]
    let environment := { environment with board := environment.board.restart }
    (true, { supervisor with environment })
  else (false, supervisor)

/-- One pass of the loop. -/
def pass (supervisor : Supervisor σ) : PassReport × Supervisor σ :=
  let (command, supervisor) := supervisor.serveCommand
  let (events, supervisor) := supervisor.deliverEvents
  let (stages, supervisor) := supervisor.serveStages
  let (restarted, supervisor) := supervisor.serveRestart
  ({ command, events, stages, restarted }, supervisor)

/-- One pass during which a command is submitted some milliseconds after the pass began to wait. A
pass with an empty queue waits for as long as the configuration says, so a submission within that
time is run by this very pass; otherwise the pass is over before the submission comes. -/
def passWithArrival (supervisor : Supervisor σ) (delay : Nat) (id : String)
    (args : Option String) : Except SubmissionError Unit × PassReport × Supervisor σ :=
  if supervisor.environment.hub.queue.isEmpty ∧ delay < supervisor.config.commandWait.toNat then
    let (result, supervisor) := supervisor.submit id args
    (result, supervisor.pass)
  else
    let (report, supervisor) := supervisor.pass
    let (result, supervisor) := supervisor.submit id args
    (result, report, supervisor)

/-- A telemetry document with the readings of every entry. -/
def telemetry (supervisor : Supervisor σ) : Document :=
  supervisor.environment.hub.appendTelemetry supervisor.environment.vitals []

end Supervisor

end Overseer
