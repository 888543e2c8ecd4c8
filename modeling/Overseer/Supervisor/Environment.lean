import Overseer.Supervisor.Board
import Overseer.Supervisor.Hub

/-!
# Environment of programs

Programs run on the board and the hub. Running a program carries out its operations one by one; what
changes more than the log is noted in the trace under the party that runs it.
-/
namespace Overseer

/-- What programs run on. -/
structure Environment where
  /-- The device. -/
  board : Board := {}
  /-- What the supervisor shares with producers. -/
  hub : Hub := {}
  /-- Whether a restart is to follow at the end of the pass. -/
  restartPending : Bool := false

instance : Inhabited Environment := ⟨{}⟩

namespace Environment

/-- Add log lines to the journal. -/
def say (environment : Environment) (lines : List Line) : Environment :=
  { environment with board := environment.board.say lines }

/-- No lines add nothing. -/
theorem say_nil (environment : Environment) : environment.say [] = environment := by
  simp only [say, Board.say, Journal.say, List.append_nil]

/-- Lines that are added one after the other are added together. -/
theorem say_say (environment : Environment) (lines more : List Line) :
    (environment.say lines).say more = environment.say (lines ++ more) := by
  simp only [say, Board.say, Journal.say, List.append_assoc]

/-- Add an entry to the trace. -/
def note (environment : Environment) (entry : Entry) : Environment :=
  { environment with board := environment.board.note entry }

/-- The readings that telemetry may use. -/
def vitals (environment : Environment) : Vitals where
  uptime := environment.board.uptime
  ledOn := environment.board.led.isOn

/-- Raise events. -/
def notify (environment : Environment) (actor : Actor) (events : EventSet) : Environment :=
  { environment with hub := environment.hub.notify events }.note (.raised actor events)

/-- Take every raised event. -/
def takeEvents (environment : Environment) : EventSet × Environment :=
  let (events, hub) := environment.hub.takeEvents
  (events, { environment with hub }.note (.taken events))

/-- Submit a command. -/
def submit (environment : Environment) (actor : Actor) (id : String) (args : Option String) :
    Except SubmissionError Unit × Environment :=
  let done := environment.hub.submit id args
  (done.value.1, ({ environment with hub := done.value.2 }.say done.lines).note
    (.submitted actor id args done.value.1))

/-- The names and descriptions of the commands. -/
def listing (environment : Environment) : List (String × String) :=
  match environment.hub.commands with
  | none => []
  | some table => CommandTable.listing table

/-- What a handle shows. -/
def view (environment : Environment) : View where
  pending := environment.hub.events.pending
  waiting := environment.hub.queue.length
  commands := environment.hub.commands.map CommandTable.listing
  append := environment.hub.appendTelemetry environment.vitals
  appendOf := environment.hub.appendTelemetryOf environment.vitals

end Environment

/-- Run a program for a party: the value it ends with, and the environment after it. -/
def Program.run {role : Role} {α : Type} (actor : Actor) :
    Program role α → Environment → α × Environment
  | .done value, environment => (value, environment)
  | .log line next, environment => next.run actor (environment.say [line])
  | .clock next, environment => (next environment.board.clock).run actor environment
  | .inspect next, environment => (next environment.view).run actor environment
  | .elapse milliseconds next, environment =>
    next.run actor { environment with board := environment.board.elapse milliseconds }
  | .notify events next, environment => next.run actor (environment.notify actor events)
  | .submit id args next, environment =>
    let (result, environment) := environment.submit actor id args
    (next result).run actor environment
  | .commands _ next, environment =>
    let listing := environment.listing
    (next listing).run actor (environment.note (.listed actor (listing.map Prod.fst)))
  | .requestRestart _ next, environment =>
    next.run actor ({ environment with restartPending := true }.note (.restartRequested actor))
  | .bootCounter _ next, environment =>
    let (counter, board) := environment.board.bootCounter
    (next counter).run actor { environment with board }
  | .setBootCounter _ value next, environment =>
    let (result, board) := environment.board.setBootCounter actor value
    (next result).run actor { environment with board }
  | .load _ next, environment =>
    let (loaded, board) := environment.board.load
    (next loaded).run actor { environment with board }
  | .save _ config next, environment =>
    let (result, board) := environment.board.save actor config
    (next result).run actor { environment with board }
  | .override _ overrides next, environment =>
    let (result, board) := environment.board.override actor overrides
    (next result).run actor { environment with board }
  | .resetConfig _ next, environment =>
    let (result, board) := environment.board.resetConfig actor
    (next result).run actor { environment with board }
  | .driveLed _ action next, environment =>
    let board := environment.board.driveLed action
    (next board.led.isOn).run actor { environment with board }

namespace Program

variable {role : Role} {α β : Type}

/-- A program that goes on after its end runs from where it ended. -/
@[simp] theorem run_bind (actor : Actor) (program : Program role α) (next : α → Program role β)
    (environment : Environment) :
    (program >>= next).run actor environment =
      (next (program.run actor environment).1).run actor (program.run actor environment).2 := by
  induction program generalizing environment with
  | done value => rfl
  | log line rest ih => exact ih _
  | clock rest ih => exact ih _ _
  | inspect rest ih => exact ih _ _
  | elapse milliseconds rest ih => exact ih _
  | notify events rest ih => exact ih _
  | submit id args rest ih => exact ih _ _
  | commands allowed rest ih => exact ih _ _
  | requestRestart allowed rest ih => exact ih _
  | bootCounter allowed rest ih => exact ih _ _
  | setBootCounter allowed value rest ih => exact ih _ _
  | load allowed rest ih => exact ih _ _
  | save allowed config rest ih => exact ih _ _
  | override allowed overrides rest ih => exact ih _ _
  | resetConfig allowed rest ih => exact ih _ _
  | driveLed allowed action rest ih => exact ih _ _

/-- Log lines are written in order. -/
@[simp] theorem run_sayAll (actor : Actor) (lines : List Line) (environment : Environment) :
    (sayAll lines : Program role Unit).run actor environment = ((), environment.say lines) := by
  induction lines generalizing environment with
  | nil =>
    rw [environment.say_nil]
    rfl
  | cons line rest ih =>
    have together := environment.say_say [line] rest
    rw [List.singleton_append] at together
    rw [← together]
    exact ih (environment.say [line])

/-- A handler that loads the configuration or the defaults gets what flash gives the supervisor. -/
theorem run_loadOrDefault (actor : Actor) (environment : Environment) :
    loadOrDefault.run actor environment =
      let settled := environment.board.store.flash.loadOrDefault
      (settled.value, environment.say settled.lines) := by
  have loading : loadConfig.run actor environment =
      (environment.board.store.flash.load.value,
        environment.say environment.board.store.flash.load.lines) := rfl
  rw [loadOrDefault, run_bind, loading, run_bind, run_sayAll, environment.say_say]
  rfl

end Program

end Overseer
