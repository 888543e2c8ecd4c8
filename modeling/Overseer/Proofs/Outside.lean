import Overseer.Proofs.Trace
import Overseer.Supervisor.Builder

/-!
# What happens beside the loop

Beside the supervisor the clock runs, ports begin to fail and recover, and tasks log, raise events
and submit commands through their handles. None of it depends on the supervisor being built: a
handle may be used as soon as there is a builder. `Builder.Reached` describes every builder that
calls and such occurrences lead to. `Thread.Writes` says what a thread adds to the trace, whatever
happens beside it.
-/
namespace Overseer

/-- Which operations of the ports fail, and how. -/
structure Faults where
  /-- Of writing the boot counter. -/
  counter : Option StorageError := none
  /-- Of erasing the configuration. -/
  reset : Option StorageError := none
  /-- Of overriding the configuration. -/
  override : Option StorageError := none
  /-- Of saving a configuration. -/
  save : Option StorageError := none
  /-- Of asking for the state of the firmware image. -/
  state : Option FirmwareError := none
  /-- Of marking the firmware image. -/
  mark : Option FirmwareError := none
  /-- Whether the firmware image describes itself. -/
  described : Bool := true
  /-- Whether writes of the LED's pin fail. -/
  pin : Bool := false

/-- The device with other failures. -/
def Board.failing (board : Board) (faults : Faults) : Board :=
  { board with
    store := { board.store with
      counterFault := faults.counter
      resetFault := faults.reset
      overrideFault := faults.override
      saveFault := faults.save }
    firmware := { board.firmware with
      stateFault := faults.state
      markFault := faults.mark
      described := faults.described }
    led := { board.led with pin := { board.led.pin with failing := faults.pin } } }

/-- Whether an entry is a request that a task makes through its handle. -/
def Entry.IsRequest : Entry → Prop
  | .submitted .. | .raised .. => True
  | _ => False

/-- Something that happens beside the supervisor. -/
inductive Occurrence where
  /-- A task logs a line. -/
  | log (line : Line)
  /-- The clock reads another time. -/
  | clock (now : UInt64)
  /-- Ports begin to fail, or recover. -/
  | faults (faults : Faults)
  /-- A task submits a command through a handle. -/
  | submit (actor : Actor) (id : String) (args : Option String)
  /-- A task raises events through a handle. -/
  | notify (actor : Actor) (events : EventSet)

namespace Environment

/-- The environment after an occurrence. -/
def undergo (environment : Environment) : Occurrence → Environment
  | .log line => environment.say [line]
  | .clock now => { environment with board := { environment.board with clock := now } }
  | .faults faults => { environment with board := environment.board.failing faults }
  | .submit actor id args => (environment.submit actor id args).2
  | .notify actor events => environment.notify actor events

/-- One occurrence leads from one environment to the other. -/
def Outside (before after : Environment) : Prop :=
  ∃ occurrence, after = before.undergo occurrence

/-- Occurrences neither ask for a restart nor withdraw one. -/
@[simp] theorem restartPending_undergo (environment : Environment) (occurrence : Occurrence) :
    (environment.undergo occurrence).restartPending = environment.restartPending := by
  cases occurrence <;> rfl

/-- All that an occurrence notes is a request. -/
theorem notes_undergo (environment : Environment) (occurrence : Occurrence) :
    Notes Entry.IsRequest environment (environment.undergo occurrence) := by
  cases occurrence with
  | log line => exact .of_silence rfl
  | clock now => exact .of_silence rfl
  | faults faults => exact .of_silence rfl
  | submit actor id args => exact .of_note (environment.trace_submit actor id args) trivial
  | notify actor events => exact .of_note (environment.trace_notify actor events) trivial

/-- All that is noted beside the loop are requests. -/
theorem Outside.notes (before after : Environment) (outside : Outside before after) :
    Notes Entry.IsRequest before after := by
  obtain ⟨occurrence, rfl⟩ := outside
  exact before.notes_undergo occurrence

end Environment

/-- A step beside the loop notes requests only. -/
abbrev Aside : Environment → Environment → Prop := Environment.Notes Entry.IsRequest

/-! ### What a thread writes -/

namespace Thread

variable {α β : Type} {outcome : α → List Entry → Prop}

/-- Whatever a thread finds and whatever happens beside it, the value that it ends with and the
entries that are added until then are as the outcome says. -/
def Writes (thread : Thread Environment α) (outcome : α → List Entry → Prop) : Prop :=
  ∀ start, thread.Assures Aside (fun _ _ => True)
    (fun value later => ∃ entries, later.trace = start.trace ++ entries ∧ outcome value entries)
    start

namespace Writes

/-- Where nothing is left to do, only requests are added. -/
theorem done {value : α}
    (holds : ∀ requests : List Entry, (∀ entry ∈ requests, entry.IsRequest) →
      outcome value requests) : (Thread.done value : Thread Environment α).Writes outcome := by
  rintro start later ⟨requests, trace, asked⟩
  exact ⟨requests, trace, holds requests asked⟩

/-- A step adds its entries to the requests that were made before it. -/
theorem step {change : Environment → Environment} {rest : Environment → Thread Environment α}
    (holds : ∀ (found : Environment) (requests : List Entry),
      (∀ entry ∈ requests, entry.IsRequest) → ∃ made, (change found).trace = found.trace ++ made ∧
        (rest found).Writes fun value more => outcome value (requests ++ made ++ more)) :
    (Thread.step change rest).Writes outcome := by
  rintro start found ⟨requests, waited, asked⟩
  obtain ⟨made, trace, remaining⟩ := holds found requests asked
  refine ⟨trivial, (remaining _).imp (fun _ _ _ => trivial) ?_⟩
  rintro value later ⟨more, longer, done⟩
  refine ⟨requests ++ made ++ more, ?_, done⟩
  rw [longer, trace, waited, List.append_assoc, List.append_assoc, List.append_assoc]

/-- Threads in a row add the entries of both. -/
theorem bind {final : β → List Entry → Prop} {thread : Thread Environment α}
    {next : α → Thread Environment β} (first : thread.Writes outcome)
    (second : ∀ value entries, outcome value entries →
      (next value).Writes fun result more => final result (entries ++ more)) :
    (thread >>= next).Writes final := by
  intro start
  refine (first start).bind .refl ?_
  rintro value middle ⟨entries, trace, holds⟩
  refine (second value entries holds middle).imp (fun _ _ _ => trivial) ?_
  rintro result later ⟨more, longer, done⟩
  refine ⟨entries ++ more, ?_, done⟩
  rw [longer, trace, List.append_assoc]

/-- What follows from an outcome is one. -/
theorem imp {weaker : α → List Entry → Prop} {thread : Thread Environment α}
    (writes : thread.Writes outcome)
    (follows : ∀ value entries, outcome value entries → weaker value entries) :
    thread.Writes weaker := by
  intro start
  refine (writes start).imp (fun _ _ _ => trivial) ?_
  rintro value later ⟨entries, trace, holds⟩
  exact ⟨entries, trace, follows value entries holds⟩

/-- A thread all of whose steps note entries of a kind, to which requests belong, adds only such
entries. -/
theorem of_each {kind : Entry → Prop} {holds : α → Prop} {thread : Thread Environment α}
    (requests : ∀ entry : Entry, entry.IsRequest → kind entry)
    (each : thread.Each (Environment.Notes kind)) (ends : thread.Ends holds) :
    thread.Writes fun value entries => holds value ∧ ∀ entry ∈ entries, kind entry := by
  intro start
  have kept : thread.Assures Aside (Environment.Notes kind)
      (fun _ later => Environment.Notes kind start later) start := by
    refine Each.assures (each.imp fun _ _ step _ => step) ?_ ?_ (.refl start)
    · exact fun before after step sofar => .trans _ _ _ sofar step
    · exact fun before after aside sofar => .trans _ _ _ sofar (aside.imp requests)
  refine (kept.ends ends).imp (fun _ _ _ => trivial) ?_
  rintro value later ⟨held, entries, trace, kinds⟩
  exact ⟨entries, trace, held, kinds⟩

/-- When a thread has ended, its outcome holds of the entries that were added. -/
theorem ends {thread : Thread Environment α} {value : α} {start stop : Environment}
    (writes : thread.Writes outcome)
    (reaches : Reaches Environment.Outside thread start (.done value) stop) :
    ∃ entries, stop.trace = start.trace ++ entries ∧ outcome value entries :=
  reaches.ends Environment.Notes.refl Environment.Notes.trans Environment.Outside.notes
    (writes start)

/-- At any moment of a thread that only adds to the trace, what was added so far is the beginning of
what an outcome says. -/
theorem sofar {thread left : Thread Environment α} {start moment : Environment}
    (writes : thread.Writes outcome)
    (grows : thread.Each (Environment.Notes fun _ => True))
    (reaches : Reaches Environment.Outside thread start left moment) :
    ∃ entries rest value, moment.trace = start.trace ++ entries ∧
      outcome value (entries ++ rest) := by
  -- The thread is completed from the moment on; its outcome is that of the completed run.
  have completed := reaches.trans (reaches_run left moment)
  obtain ⟨whole, total, holds⟩ := writes.ends completed
  have outside (before after : Environment) (allowed : Environment.Outside before after) :
      Environment.Notes (fun _ => True) before after :=
    (Environment.Outside.notes before after allowed).imp fun _ _ => trivial
  obtain ⟨⟨entries, trace, _⟩, left⟩ := reaches.each .refl .trans outside grows
  obtain ⟨rest, longer, _⟩ := run_each .refl .trans left moment
  have split : whole = entries ++ rest := by
    apply List.append_cancel_left
    rw [← total, longer, trace, List.append_assoc]
  rw [split] at holds
  exact ⟨entries, rest, _, trace, holds⟩

end Writes

end Thread

namespace Builder

variable {σ : Type}

/-- A registration does nothing to the environment but log. -/
theorem environment_register (builder : Builder σ) (adapter : Option (Adapter σ)) :
    ∃ lines, (builder.register adapter).2.environment = builder.environment.say lines := by
  refine ⟨(builder.enlist adapter).lines, ?_⟩
  have same : (builder.enlist adapter).value.2.environment = builder.environment := by
    simp only [enlist, Logged.bind_value]
    split
    · rfl
    · simp only [Logged.bind_value]
      split
      · rfl
      · rfl
  simp only [register, same]

/-- A registration leaves the configuration alone. -/
theorem config_register (builder : Builder σ) (adapter : Option (Adapter σ)) :
    (builder.register adapter).2.config = builder.config := by
  change (builder.enlist adapter).value.2.config = builder.config
  simp only [enlist, Logged.bind_value]
  split
  · rfl
  · simp only [Logged.bind_value]
    split
    · rfl
    · rfl

/-- The builders that the calls of an owner and occurrences lead to, from a device on which nothing
was done yet. -/
inductive Reached : Builder σ → Prop
  /-- A new builder. -/
  | new (config : Config) (board : Board) (blank : board.journal.trace = []) :
      Reached (onBoard config board)
  /-- An adapter was registered, or refused. -/
  | register {builder : Builder σ} (before : Reached builder) (adapter : Option (Adapter σ)) :
      Reached (builder.register adapter).2
  /-- Something happened. -/
  | outside {builder : Builder σ} (before : Reached builder) (occurrence : Occurrence) :
      Reached { builder with environment := builder.environment.undergo occurrence }

/-- Before a builder is built there are only requests in the trace. -/
theorem Reached.requests {builder : Builder σ} (reached : builder.Reached) :
    ∀ entry ∈ builder.environment.trace, entry.IsRequest := by
  induction reached with
  | new config board blank =>
    have trace : (onBoard config board : Builder σ).environment.trace = [] := blank
    rw [trace]
    simp
  | register _ adapter ih =>
    obtain ⟨lines, said⟩ := environment_register _ adapter
    rw [said]
    exact ih
  | @outside builder _ occurrence ih =>
    obtain ⟨entries, trace, requests⟩ := builder.environment.notes_undergo occurrence
    intro entry member
    rw [trace] at member
    rcases List.mem_append.mp member with earlier | later
    · exact ih entry earlier
    · exact requests entry later

end Builder

end Overseer
