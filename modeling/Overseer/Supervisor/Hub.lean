import Overseer.Supervisor.Command
import Overseer.Supervisor.Telemetry

/-!
# Hub

What the supervisor shares with everything that produces work for it: the queue of commands, the
event group, and the tables of commands and telemetry. The tables are filled once, when the
supervisor is built; before that every command is unknown.
-/
namespace Overseer

/-- What the supervisor shares with producers. -/
structure Hub where
  /-- The commands that wait, the next one first. -/
  queue : List Job := []
  /-- No more commands wait than the queue can hold. -/
  length_queue_le : queue.length ≤ queueLimit := by exact Nat.zero_le _
  /-- The events raised since the last pass. -/
  events : EventGroup := {}
  /-- The commands, once they are fixed. -/
  commands : Option CommandTable := none
  /-- The telemetry entries, once they are fixed. -/
  telemetry : Option TelemetryTable := none

instance : Inhabited Hub := ⟨{}⟩

namespace Hub

/-- The command of a name, once commands are fixed. -/
def find? (hub : Hub) (id : String) : Option Command := hub.commands.bind (·.find? id)

/-- The hub with a further job at the end of its queue, which has room. -/
def enqueue (hub : Hub) (job : Job) (room : hub.queue.length < queueLimit) : Hub :=
  { hub with
    queue := hub.queue ++ [job]
    length_queue_le := by
      rw [List.length_append]
      exact room }

/-- Queue a command by name. A name that is not known is refused, then a queue that is full; a
refusal changes nothing. -/
def submit (hub : Hub) (id : String) (args : Option String) :
    Logged (Except SubmissionError Unit × Hub) :=
  match hub.find? id with
  | none => do
    Logged.say (.warn s!"Dispatch: unknown command '{id}'")
    return (.error .unknownCommand, hub)
  | some command =>
    if room : hub.queue.length < queueLimit then do
      Logged.say (.debug s!"Dispatch: queued '{id}'")
      return (.ok (), hub.enqueue ⟨command, args⟩ room)
    else do
      Logged.say (.error s!"Dispatch: queue full ({queueLimit}), '{id}' dropped")
      return (.error .queueFull, hub)

/-- Take the command that has waited longest. -/
def receive (hub : Hub) : Option (Job × Hub) :=
  match waiting : hub.queue with
  | [] => none
  | job :: rest =>
    some (job, { hub with
      queue := rest
      length_queue_le := by
        have := hub.length_queue_le
        rw [waiting, List.length_cons] at this
        omega })

/-- There is nothing to take exactly when no command waits. -/
theorem receive_eq_none_iff (hub : Hub) : hub.receive = none ↔ hub.queue = [] := by
  unfold receive
  split <;> simp_all

/-- The command that is taken stood first; the others stay in their order. -/
theorem queue_of_receive {hub after : Hub} {job : Job}
    (taken : hub.receive = some (job, after)) : hub.queue = job :: after.queue := by
  unfold receive at taken
  split at taken
  · contradiction
  · rename_i waiting
    simp only [Option.some.injEq, Prod.mk.injEq] at taken
    rw [waiting, ← taken.1, ← taken.2]

/-- Raise events. -/
def notify (hub : Hub) (events : EventSet) : Hub := { hub with events := hub.events.notify events }

/-- Take every raised event. -/
def takeEvents (hub : Hub) : EventSet × Hub :=
  let (events, group) := hub.events.take
  (events, { hub with events := group })

/-- Run every appender on a document; before the tables are fixed there is none. -/
def appendTelemetry (hub : Hub) (vitals : Vitals) (document : Document) : Document :=
  match hub.telemetry with
  | none => document
  | some table => table.appendAll vitals document

/-- Run the appender of a name on a document: whether there is one, and the document after it. -/
def appendTelemetryOf (hub : Hub) (vitals : Vitals) (id : String) (document : Document) :
    Bool × Document :=
  match hub.telemetry with
  | none => (false, document)
  | some table => table.appendOne vitals id document

end Hub

end Overseer
