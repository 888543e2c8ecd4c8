import Overseer.Proofs.Detector
import Overseer.Proofs.Interleaving

/-!
# The dispatch of commands

Any number of tasks submit commands while the loop takes them one by one. `Ledger` ties the queue to
the trace: what was accepted is what was executed and what still waits, in that order. Every step
keeps it, the loop's own ones and those beside it, so it holds at every moment of every run. That a
job counts as executed is more than an entry in the trace: `Loop.Executes` follows the pass that
took it through the end of its handler to the end of the pass, and `Loop.Executed` does so for all
passes of a run (`Builder.Reached.dispatches`).
-/
namespace Overseer

/-! ### What the trace says of jobs -/

/-- The request that an entry accepted. -/
def Entry.accepted? : Entry → Option (String × Option String)
  | .submitted _ id args (.ok ()) => some (id, args)
  | _ => none

/-- The handler that an entry is a call of: its owner, its command, and the argument. -/
def Entry.handled? : Entry → Option (Actor × String × Option String)
  | .handler owner id args => some (owner, id, args)
  | _ => none

/-- The requests that were accepted, in order. -/
def accepted (trace : List Entry) : List (String × Option String) :=
  trace.filterMap Entry.accepted?

/-- The handlers that were called, in order. -/
def handled (trace : List Entry) : List (Actor × String × Option String) :=
  trace.filterMap Entry.handled?

@[simp] theorem accepted_append (earlier later : List Entry) :
    accepted (earlier ++ later) = accepted earlier ++ accepted later := List.filterMap_append

@[simp] theorem handled_append (earlier later : List Entry) :
    handled (earlier ++ later) = handled earlier ++ handled later := List.filterMap_append

/-- What a job was submitted as. -/
def Job.request (job : Job) : String × Option String := (job.command.id, job.args)

/-- How a job's handler is called. -/
def Job.call (job : Job) : Actor × String × Option String :=
  (job.command.owner, job.command.id, job.args)

/-! ### A submission -/

/-- What a submission answers, given the table of commands if it is fixed, and the number of jobs
that wait. -/
def submissionAnswer (commands : Option CommandTable) (waiting : Nat) (id : String) :
    Except SubmissionError Unit :=
  if commands.bind (·.find? id) = none then .error .unknownCommand
  else if waiting = queueLimit then .error .queueFull
  else .ok ()

namespace Environment

variable {environment : Environment} {actor : Actor} {id : String} {args : Option String}

/-- A name that is not known is refused first, then a queue that is full. -/
theorem submit_answer (environment : Environment) (actor : Actor) (id : String)
    (args : Option String) :
    (environment.submit actor id args).1 =
      submissionAnswer environment.hub.commands environment.hub.queue.length id := by
  have bound := environment.hub.length_queue_le
  change (environment.hub.submit id args).value.1 = _
  unfold Hub.submit submissionAnswer
  change environment.hub.queue.length ≤ queueLimit at bound
  cases found : environment.hub.commands.bind (·.find? id) with
  | none =>
    have unknown : environment.hub.find? id = none := found
    simp only [unknown, ↓reduceIte]
    rfl
  | some command =>
    have known : environment.hub.find? id = some command := found
    simp only [known, reduceCtorEq, ↓reduceIte]
    by_cases full : environment.hub.queue.length = queueLimit
    · rw [dif_neg (by omega), if_pos full]
      rfl
    · rw [dif_pos (by omega), if_neg full]
      rfl

/-- A refused submission leaves everything as it was, but for the log and the note of it. -/
theorem submit_refused {error : SubmissionError}
    (refused : (environment.submit actor id args).1 = .error error) :
    ∃ lines, (environment.submit actor id args).2 =
      (environment.say lines).note (.submitted actor id args (.error error)) := by
  have answer : (environment.hub.submit id args).value.1 = .error error := refused
  have same : (environment.hub.submit id args).value.2 = environment.hub := by
    unfold Hub.submit at answer ⊢
    split
    · rfl
    · rename_i known
      rw [known] at answer
      dsimp only at answer
      split
      · rename_i room
        rw [dif_pos room] at answer
        contradiction
      · rfl
  refine ⟨(environment.hub.submit id args).lines, ?_⟩
  simp only [submit, answer, same]

/-- An accepted submission puts the job of the known command, with the argument, at the end of the
queue. -/
theorem submit_accepted (taken : (environment.submit actor id args).1 = .ok ()) :
    ∃ command, environment.hub.find? id = some command ∧
      (environment.submit actor id args).2.hub.queue =
        environment.hub.queue ++ [⟨command, args⟩] := by
  have answer : (environment.hub.submit id args).value.1 = .ok () := taken
  rw [hub_submit]
  unfold Hub.submit at answer ⊢
  split
  · rename_i unknown
    rw [unknown] at answer
    contradiction
  · rename_i command known
    rw [known] at answer
    dsimp only at answer
    split
    · exact ⟨command, known, rfl⟩
    · rename_i full
      rw [dif_neg full] at answer
      contradiction

end Environment

/-! ### The ledger -/

/-- What was executed so far, and what waits, is what was accepted; each of these jobs has the
command that the table has for its name. Before the table is fixed there is none. -/
structure Ledger (commands : Option CommandTable) (executed : List Job)
    (environment : Environment) : Prop where
  frozen : environment.hub.commands = commands
  executions : handled environment.trace = executed.map Job.call
  requests : accepted environment.trace = (executed ++ environment.hub.queue).map Job.request
  known : ∀ job ∈ executed ++ environment.hub.queue,
    commands.bind (·.find? job.command.id) = some job.command

/-- A step that does nothing about jobs. -/
structure Quiet (before after : Environment) : Prop where
  queue : after.hub.queue = before.hub.queue
  commands : after.hub.commands = before.hub.commands
  executions : handled after.trace = handled before.trace
  requests : accepted after.trace = accepted before.trace

/-- A step that does nothing about jobs but, at most, submit one. -/
def Submits (before after : Environment) : Prop :=
  Quiet before after ∨ ∃ actor id args, after = (before.submit actor id args).2

variable {σ : Type} {commands : Option CommandTable} {executed : List Job}
  {before after environment : Environment}

/-- A job is known by how it is called, when its command is the one that the table has for its name.
-/
theorem map_call_injective {first second : List Job}
    (known : ∀ job ∈ first, commands.bind (·.find? job.command.id) = some job.command)
    (named : ∀ job ∈ second, commands.bind (·.find? job.command.id) = some job.command)
    (same : first.map Job.call = second.map Job.call) : first = second := by
  let resolve (call : Actor × String × Option String) : Option Job :=
    (commands.bind (·.find? call.2.1)).map (Job.mk · call.2.2)
  have resolved (jobs : List Job)
      (known : ∀ job ∈ jobs, commands.bind (·.find? job.command.id) = some job.command) :
      (jobs.map Job.call).map resolve = jobs.map some := by
    rw [List.map_map]
    refine List.map_congr_left fun job member => ?_
    simp only [Function.comp_apply, resolve, Job.call, known job member, Option.map_some]
  have options : first.map some = second.map some := by
    rw [← resolved first known, ← resolved second named, same]
  exact (List.map_inj_right fun _ _ => Option.some.inj).mp options

/-- At a moment there is only one list of jobs that were executed so far. -/
theorem Ledger.unique {others : List Job} (ledger : Ledger commands executed environment)
    (other : Ledger commands others environment) : executed = others := by
  have known := fun job member => ledger.known job (List.mem_append_left _ member)
  have named := fun job member => other.known job (List.mem_append_left _ member)
  have same : executed.map Job.call = others.map Job.call :=
    ledger.executions.symm.trans other.executions
  exact map_call_injective known named same

/-- A quiet step keeps the ledger. -/
theorem Ledger.quiet (ledger : Ledger commands executed before) (quiet : Quiet before after) :
    Ledger commands executed after where
  frozen := quiet.commands.trans ledger.frozen
  executions := quiet.executions.trans ledger.executions
  requests := by rw [quiet.requests, quiet.queue, ledger.requests]
  known := by
    rw [quiet.queue]
    exact ledger.known

/-- A submission keeps the ledger: if it is accepted, its job is the last to wait. -/
theorem Ledger.submit (ledger : Ledger commands executed environment) (actor : Actor) (id : String)
    (args : Option String) :
    Ledger commands executed (environment.submit actor id args).2 := by
  cases answer : (environment.submit actor id args).1 with
  | error error =>
    obtain ⟨lines, same⟩ := Environment.submit_refused answer
    rw [same]
    apply ledger.quiet
    constructor
    · rfl
    · rfl
    · simp [handled, Entry.handled?]
    · simp [accepted, Entry.accepted?]
  | ok done =>
    obtain ⟨command, found, queue⟩ := Environment.submit_accepted answer
    have known : commands.bind (·.find? id) = some command := by
      rw [Hub.find?, ledger.frozen] at found
      exact found
    obtain ⟨table, _, listed⟩ := Option.bind_eq_some_iff.mp known
    have named : command.id = id := Registry.id_of_find? listed
    constructor
    · exact (environment.hub.tables_submit id args).1.trans ledger.frozen
    · rw [Environment.trace_submit, handled_append, ledger.executions]
      simp [handled, Entry.handled?]
    · rw [Environment.trace_submit, accepted_append, ledger.requests, queue, answer]
      simp [accepted, Entry.accepted?, Job.request, named]
    · rw [queue, ← List.append_assoc]
      intro job member
      rcases List.mem_append.mp member with earlier | last
      · exact ledger.known job earlier
      · rw [List.mem_singleton.mp last, named]
        exact known

/-- A step that at most submits keeps the ledger. -/
theorem Ledger.submits (ledger : Ledger commands executed before) (step : Submits before after) :
    Ledger commands executed after := by
  rcases step with quiet | ⟨actor, id, args, rfl⟩
  · exact ledger.quiet quiet
  · exact ledger.submit actor id args

/-- A step that at most submits takes nothing from the queue. -/
theorem Submits.queue (step : Submits before after) :
    ∃ further, after.hub.queue = before.hub.queue ++ further := by
  rcases step with quiet | ⟨actor, id, args, rfl⟩
  · exact ⟨[], by rw [quiet.queue, List.append_nil]⟩
  · cases answer : (before.submit actor id args).1 with
    | error error =>
      obtain ⟨lines, same⟩ := Environment.submit_refused answer
      rw [same]
      exact ⟨[], (List.append_nil _).symm⟩
    | ok done =>
      obtain ⟨command, _, queue⟩ := Environment.submit_accepted answer
      exact ⟨_, queue⟩

/-- Taking a job moves it from the queue to what was executed. -/
theorem Ledger.takeJob (ledger : Ledger commands executed environment) :
    Ledger commands (executed ++ environment.takeJob.1.toList) environment.takeJob.2 := by
  cases waiting : environment.hub.queue with
  | nil =>
    rw [Environment.takeJob_of_nil waiting]
    simpa using ledger
  | cons job rest =>
    obtain ⟨taken, queue, kept, _, trace, _, _⟩ := Environment.takeJob_taken waiting
    obtain ⟨frozen, executions, requests, known⟩ := ledger
    rw [waiting] at requests known
    rw [taken, Option.toList_some]
    constructor
    · rw [kept, frozen]
    · rw [trace, handled_append, executions, List.map_append]
      rfl
    · rw [trace, accepted_append, requests, queue]
      simp [accepted, Entry.accepted?]
    · rw [queue, List.append_assoc]
      exact known

/-! ### Every step but a taking at most submits -/

/-- A step that leaves the hub alone and notes nothing about jobs is quiet. -/
theorem Quiet.of_trace (hub : after.hub = before.hub) {entries : List Entry}
    (trace : after.trace = before.trace ++ entries)
    (silent : ∀ entry ∈ entries, entry.accepted? = none ∧ entry.handled? = none) :
    Quiet before after where
  queue := by rw [hub]
  commands := by rw [hub]
  executions := by
    have none : handled entries = [] :=
      List.filterMap_eq_nil_iff.mpr fun entry member => (silent entry member).2
    rw [trace, handled_append, none, List.append_nil]
  requests := by
    have none : accepted entries = [] :=
      List.filterMap_eq_nil_iff.mpr fun entry member => (silent entry member).1
    rw [trace, accepted_append, none, List.append_nil]

/-- What the detector notes is not about jobs. -/
theorem Entry.IsDetection.silent {entry : Entry} (detection : entry.IsDetection) :
    entry.accepted? = none ∧ entry.handled? = none := by
  cases entry <;> first | exact ⟨rfl, rfl⟩ | exact detection.elim

namespace Submits

/-- Noting nothing but one entry that is not about jobs. -/
theorem of_note (hub : after.hub = before.hub) {entry : Entry}
    (trace : after.trace = before.trace ++ [entry])
    (silent : entry.accepted? = none ∧ entry.handled? = none) : Submits before after := by
  refine .inl (.of_trace hub trace fun other member => ?_)
  rw [List.mem_singleton.mp member]
  exact silent

/-- Noting nothing. -/
theorem of_silence (hub : after.hub = before.hub) (trace : after.trace = before.trace) :
    Submits before after := by
  have unchanged : after.trace = before.trace ++ [] := by rw [trace, List.append_nil]
  exact .inl (.of_trace hub unchanged (by simp))

/-- Raising events. -/
theorem notify (environment : Environment) (actor : Actor) (events : EventSet) :
    Submits environment (environment.notify actor events) := by
  refine .inl ⟨rfl, rfl, ?_, ?_⟩
  · simp [handled, Entry.handled?]
  · simp [accepted, Entry.accepted?]

/-- Taking events. -/
theorem takeEvents (environment : Environment) : Submits environment environment.takeEvents.2 := by
  refine .inl ⟨rfl, rfl, ?_, ?_⟩
  · simp [handled, Entry.handled?]
  · simp [accepted, Entry.accepted?]

/-- Every operation of a program. -/
theorem operation {actor : Actor} {verb : Verb} (operation : Operation actor verb before after) :
    Submits before after := by
  cases operation with
  | log _ line => exact of_silence rfl rfl
  | clock | inspect => exact of_silence rfl rfl
  | elapse _ milliseconds => exact of_silence rfl rfl
  | notify _ events => exact notify before actor events
  | submit _ id args => exact .inr ⟨actor, id, args, rfl⟩
  | commands _ ids => exact of_note rfl (Environment.trace_note _ _) ⟨rfl, rfl⟩
  | requestRestart => exact of_note rfl (Environment.trace_note _ _) ⟨rfl, rfl⟩
  | bootCounter | load => exact of_silence rfl rfl
  | setBootCounter _ value =>
    exact of_note rfl (before.board.adds_setBootCounter actor value).trace ⟨rfl, rfl⟩
  | save _ config => exact of_note rfl rfl ⟨rfl, rfl⟩
  | override _ overrides => exact of_note rfl rfl ⟨rfl, rfl⟩
  | resetConfig => exact of_note rfl rfl ⟨rfl, rfl⟩
  | driveLed _ action => exact of_silence rfl (before.board.trace_driveLed action)

/-- Every occurrence beside the loop. -/
theorem undergo (environment : Environment) (occurrence : Occurrence) :
    Submits environment (environment.undergo occurrence) := by
  cases occurrence with
  | log line => exact of_silence rfl rfl
  | clock now => exact of_silence rfl rfl
  | faults faults => exact of_silence rfl rfl
  | submit actor id args => exact .inr ⟨actor, id, args, rfl⟩
  | notify actor events => exact notify environment actor events

/-- Every step of the loop itself but the looks at the queue. -/
theorem covers : Covers Submits where
  say _ _ := of_silence rfl rfl
  call environment _ _ := of_note rfl (environment.trace_note _) ⟨rfl, rfl⟩
  operation _ _ _ _ _ operation := Submits.operation operation
  refl _ := of_silence rfl rfl
  notify environment events := notify environment .core events
  takeEvents environment := takeEvents environment
  withdraw _ := of_silence rfl rfl
  restart environment :=
    of_note rfl (show _ = environment.trace ++ [.restart] from rfl) ⟨rfl, rfl⟩
  boot loop environment := by
    have booted := (loop.supervisor environment).evaluateBoot_booted
    obtain ⟨entries, trace, detections⟩ := loop.notes_boot environment
    exact .inl (.of_trace booted.hub trace fun entry member => (detections entry member).silent)
  hook environment detector stage uptime := by
    obtain ⟨entries, trace, kinds⟩ := environment.notes_hooked detector stage uptime
    refine .inl (.of_trace rfl trace fun entry member => ?_)
    rcases kinds entry member with step | detection
    · cases entry <;> first | exact ⟨rfl, rfl⟩ | exact step.elim
    · exact detection.silent

/-- Every operation of a handler. -/
theorem each_handler {role : Role} {α : Type} (actor : Actor) (program : Program role α) :
    (program.thread actor).Each Submits :=
  Program.each_thread Submits (Program.only_any _) fun _ _ _ _ operation =>
    Submits.operation operation

/-- Every step of a pass but the looks at the queue. -/
theorem each_passWith (loop : Loop σ) (taken : Option Job) :
    (loop.passWith taken).Each Submits :=
  covers.each_passWith loop taken fun _ _ => each_handler _ _

/-- Every step of a call but a pass. -/
theorem each_call (loop : Loop σ) {call : Call σ} (other : call ≠ .pass) :
    (loop.call call).Each Submits := by
  cases call with
  | start => exact covers.each_start loop
  | pass => contradiction
  | shutdown => exact covers.each_shutdown loop
  | remember slot memory => trivial

end Submits

/-! ### Runs -/

/-- What steps that take no job keep: the ledger, and the front of the queue. -/
def Idles (commands : Option CommandTable) (before after : Environment) : Prop :=
  (∀ executed, Ledger commands executed before → Ledger commands executed after) ∧
    ∃ further, after.hub.queue = before.hub.queue ++ further

/-- What every step keeps: the ledger, with what was executed in between. -/
def Dispatching (commands : Option CommandTable) (before after : Environment) : Prop :=
  ∀ executed, Ledger commands executed before →
    ∃ further, Ledger commands (executed ++ further) after

theorem Idles.refl (environment : Environment) : Idles commands environment environment :=
  ⟨fun _ ledger => ledger, [], (List.append_nil _).symm⟩

theorem Idles.trans (first second third : Environment) (earlier : Idles commands first second)
    (later : Idles commands second third) : Idles commands first third := by
  obtain ⟨further, queue⟩ := earlier.2
  obtain ⟨more, longer⟩ := later.2
  refine ⟨fun executed ledger => later.1 executed (earlier.1 executed ledger), further ++ more, ?_⟩
  rw [longer, queue, List.append_assoc]

theorem Submits.idles (step : Submits before after) : Idles commands before after :=
  ⟨fun _ ledger => ledger.submits step, step.queue⟩

theorem Outside.idles (before after : Environment) (outside : Environment.Outside before after) :
    Idles commands before after := by
  obtain ⟨occurrence, rfl⟩ := outside
  exact (Submits.undergo before occurrence).idles

theorem Dispatching.refl (environment : Environment) :
    Dispatching commands environment environment := fun executed ledger =>
  ⟨[], by rwa [List.append_nil]⟩

theorem Dispatching.trans (first second third : Environment)
    (earlier : Dispatching commands first second) (later : Dispatching commands second third) :
    Dispatching commands first third := by
  intro executed ledger
  obtain ⟨further, middle⟩ := earlier executed ledger
  obtain ⟨more, final⟩ := later _ middle
  exact ⟨further ++ more, by rwa [← List.append_assoc]⟩

theorem Idles.dispatching (idles : Idles commands before after) :
    Dispatching commands before after := fun executed ledger =>
  ⟨[], by rw [List.append_nil]; exact idles.1 executed ledger⟩

/-- A relation that holds across every step that at most submits, and across every look at the
queue. -/
structure Serial (relation : Environment → Environment → Prop) : Prop where
  submits : ∀ before after, Submits before after → relation before after
  takes : ∀ environment, relation environment environment.takeJob.2

namespace Serial

variable {relation : Environment → Environment → Prop}

/-- It holds of each step of a pass. -/
theorem each_pass (serial : Serial relation) (loop : Loop σ) : loop.pass.Each relation :=
  Thread.each_bind (Loop.each_receive serial.takes _) fun taken =>
    (Submits.each_passWith loop taken).imp serial.submits

/-- It holds of each step of a call. -/
theorem each_call (serial : Serial relation) (loop : Loop σ) (call : Call σ) :
    (loop.call call).Each relation := by
  cases call with
  | pass => exact Thread.each_bind (serial.each_pass loop) fun _ => trivial
  | start | shutdown | remember => exact (Submits.each_call loop (by simp)).imp serial.submits

/-- It holds of each step of calls in turn. -/
theorem each_perform (serial : Serial relation) (loop : Loop σ) (calls : List (Call σ)) :
    (loop.perform calls).Each relation := by
  induction calls generalizing loop with
  | nil => trivial
  | cons call rest ih => exact Thread.each_bind (serial.each_call loop call) ih

end Serial

/-- Every step keeps the ledger. -/
theorem Dispatching.serial : Serial (Dispatching commands) where
  submits _ _ step := step.idles.dispatching
  takes _ _ ledger := ⟨_, ledger.takeJob⟩

/-- Where every step at most submits, no job is taken. -/
theorem Thread.Reaches.idles {α : Type} {thread left : Thread Environment α}
    (reaches : Thread.Reaches Environment.Outside thread before left after)
    (each : thread.Each Submits) : Idles commands before after :=
  (reaches.each Idles.refl Idles.trans Outside.idles (each.imp fun _ _ step => step.idles)).1

/-- From one moment of a run to another, the ledger is kept. -/
theorem Thread.Reaches.dispatching {α : Type} {thread left : Thread Environment α}
    (reaches : Thread.Reaches Environment.Outside thread before left after)
    (each : thread.Each (Dispatching commands)) :
    Dispatching commands before after ∧ left.Each (Dispatching commands) :=
  reaches.each Dispatching.refl Dispatching.trans
    (fun before after outside => (Outside.idles before after outside).dispatching) each

/-- Receiving takes the first of the jobs that wait; then the ledger has it as executed. -/
theorem Ledger.receive {wait : UInt32} {taken : Option Job} {start stop : Environment}
    (ledger : Ledger commands executed start)
    (reaches : Thread.Reaches Environment.Outside (Loop.receive wait) start (.done taken) stop) :
    Ledger commands (executed ++ taken.toList) stop ∧
      ∀ job rest, start.hub.queue = job :: rest → taken = some job := by
  obtain ⟨found, waited, later⟩ := reaches.of_step Idles.refl Idles.trans Outside.idles
  obtain ⟨further, queue⟩ := waited.2
  have ledger := waited.1 executed ledger
  cases waiting : found.hub.queue with
  | cons job rest =>
    have first := (Environment.takeJob_taken waiting).answer
    have moved := ledger.takeJob
    rw [first] at moved
    simp only [Thread.bind, first] at later
    obtain ⟨same, idles⟩ := later.of_done Idles.refl Idles.trans Outside.idles
    rw [← same]
    refine ⟨idles.1 _ moved, fun head rest front => ?_⟩
    rw [front, waiting, List.cons_append, List.cons.injEq] at queue
    rw [queue.1]
  | nil =>
    rw [waiting] at queue
    have none : start.hub.queue = [] := (List.append_eq_nil_iff.mp queue.symm).1
    refine ⟨?_, fun job rest front => by rw [none] at front; contradiction⟩
    simp only [Thread.bind, Environment.takeJob_of_nil waiting] at later
    split at later
    · obtain ⟨same, idles⟩ := later.of_done Idles.refl Idles.trans Outside.idles
      rw [← same, Option.toList_none, List.append_nil]
      exact idles.1 _ ledger
    · obtain ⟨again, waited, later⟩ := later.of_step Idles.refl Idles.trans Outside.idles
      obtain ⟨same, idles⟩ := later.of_done Idles.refl Idles.trans Outside.idles
      rw [← same]
      exact idles.1 _ (waited.1 _ ledger).takeJob

/-! ### What a pass runs -/

namespace Loop

/-- A pass that led from one moment to another, cut at a moment when it had received: what it took
then, and what it reports in the end. -/
structure Receives (loop final : Loop σ) (before received after : Environment)
    (taken : Option Job) (report : PassReport) : Prop where
  /-- Until then the pass received, and took that. -/
  receiving : Thread.Reaches Environment.Outside (receive loop.config.commandWait) before
    (.done taken) received
  /-- What it took is still to be run then. -/
  moment : Thread.Reaches Environment.Outside loop.pass before (loop.passWith taken) received
  /-- The rest leads to the end of the pass. -/
  rest : Thread.Reaches Environment.Outside (loop.passWith taken) received (.done (report, final))
    after

/-- What a pass does with what it took, from the moment when it had received it to its end. -/
inductive Executes (loop final : Loop σ) (report : PassReport) (received after : Environment) :
    Option Job → Prop
  /-- When nothing was taken, nothing is run. -/
  | idle
      (finishing : Thread.Reaches Environment.Outside (loop.finish none) received
        (.done (report, final)) after) :
      Executes loop final report received after none
  /-- The handler of a job that was taken runs on the job's argument to its end. Only the completion
  and the rest of the pass are left then, and these follow. -/
  | job {job : Job} {finished completed : Environment}
      (handling : Thread.Reaches Environment.Outside
        ((job.command.handler job.args).thread job.command.owner) received (.done ()) finished)
      (moment : Thread.Reaches Environment.Outside (loop.passWith (some job)) received
        (complete >>= fun _ => loop.finish (some job)) finished)
      (completing : Thread.Reaches Environment.Outside complete finished (.done ()) completed)
      (finishing : Thread.Reaches Environment.Outside (loop.finish (some job)) completed
        (.done (report, final)) after) :
      Executes loop final report received after (some job)

/-- The jobs that the passes among calls of the owner executed, given where the calls led from and
to. -/
inductive Executed : Loop σ → Environment → List (Call σ) → Loop σ → Environment → List Job → Prop
  /-- Without a call none is. -/
  | idle {loop final : Loop σ} {before after : Environment}
      (waiting : Thread.Reaches Environment.Outside (.done loop) before (.done final) after) :
      Executed loop before [] final after []
  /-- A pass executes what it took. -/
  | pass {loop next final : Loop σ} {before received middle after : Environment}
      {taken : Option Job} {report : PassReport} {rest : List (Call σ)} {jobs : List Job}
      (receives : loop.Receives next before received middle taken report)
      (executes : loop.Executes next report received middle taken)
      (later : Executed next middle rest final after jobs) :
      Executed loop before (.pass :: rest) final after (taken.toList ++ jobs)
  /-- Other calls execute none. -/
  | other {loop next final : Loop σ} {before middle after : Environment} {call : Call σ}
      {rest : List (Call σ)} {jobs : List Job} (other : call ≠ .pass)
      (calling : Thread.Reaches Environment.Outside (loop.call call) before (.done next) middle)
      (later : Executed next middle rest final after jobs) :
      Executed loop before (call :: rest) final after jobs

/-- Every pass can be cut so. -/
theorem receives_of_pass {loop final : Loop σ} {before after : Environment} {report : PassReport}
    (passing : Thread.Reaches Environment.Outside loop.pass before (.done (report, final)) after) :
    ∃ taken received, loop.Receives final before received after taken report := by
  obtain ⟨taken, received, receiving, moment, rest⟩ := passing.between
  exact ⟨taken, received, receiving, moment, rest⟩

/-- So can a pass that runs alone, where its receipt ends. -/
theorem receives_run (loop : Loop σ) (environment : Environment) :
    let received := (receive loop.config.commandWait).run environment
    let done := (loop.passWith received.1).run received.2
    loop.Receives done.1.2 environment received.2 done.2 received.1 done.1.1 :=
  ⟨Thread.reaches_run _ _, (Thread.reaches_run _ _).before _, Thread.reaches_run _ _⟩

/-- A pass that took a job executes it. -/
theorem executes_of_passWith {loop final : Loop σ} {received after : Environment}
    {taken : Option Job} {report : PassReport}
    (rest : Thread.Reaches Environment.Outside (loop.passWith taken) received
      (.done (report, final)) after) :
    loop.Executes final report received after taken := by
  cases taken with
  | none => exact .idle rest
  | some job =>
    have parts : loop.passWith (some job) =
        ((job.command.handler job.args).thread job.command.owner >>= fun _ =>
          complete >>= fun _ => loop.finish (some job)) :=
      Thread.bind_assoc _ _ _
    rw [parts] at rest
    obtain ⟨_, finished, handling, moment, rest⟩ := rest.between
    obtain ⟨_, completed, completing, finishing⟩ := rest.split
    rw [← parts] at moment
    exact .job handling moment completing finishing

/-- So calls of the owner execute some jobs. -/
theorem executed_of_perform {loop final : Loop σ} {calls : List (Call σ)}
    {before after : Environment}
    (reaches : Thread.Reaches Environment.Outside (loop.perform calls) before (.done final) after) :
    ∃ jobs, loop.Executed before calls final after jobs := by
  induction calls generalizing loop before with
  | nil => exact ⟨[], .idle reaches⟩
  | cons call rest ih =>
    obtain ⟨next, middle, calling, later⟩ := reaches.split
    obtain ⟨jobs, executed⟩ := ih later
    cases call with
    | start | shutdown | remember => exact ⟨jobs, .other (by simp) calling executed⟩
    | pass =>
      obtain ⟨⟨report, last⟩, ended, passing, returning⟩ := calling.split
      -- What happens beside the loop before the next call is part of the pass.
      have waiting := returning.before fun _ => Thread.done (report, last)
      have ends : (Thread.done last : Thread Environment (Loop σ)).Ends (· = last) := rfl
      rw [ends.holds returning] at executed
      obtain ⟨taken, received, receives⟩ := receives_of_pass (passing.trans waiting)
      exact ⟨_, .pass receives (executes_of_passWith receives.rest) executed⟩

/-- A pass reports the command of what it took. -/
theorem passWith_reports (loop : Loop σ) (taken : Option Job) :
    (loop.passWith taken).Ends fun result =>
      result.1.command = taken.map fun job => job.command.id := by
  refine (Thread.ends_any _).bind fun _ _ => (Thread.ends_any _).bind fun _ _ => ?_
  exact (Thread.ends_any _).bind fun _ _ => (Thread.ends_any _).bind fun _ _ => rfl

end Loop

/-! ### The law of dispatch -/

/-- What holds of jobs at a moment, given the table of commands if it is fixed. -/
structure Orderly (commands : Option CommandTable) (environment : Environment) : Prop where
  /-- A submission is answered by the table first, and then by the number of jobs that wait. -/
  answer : ∀ actor id args, (environment.submit actor id args).1 =
    submissionAnswer commands environment.hub.queue.length id
  /-- A refused submission changes nothing but the log and the trace. -/
  refused : ∀ actor id args error, (environment.submit actor id args).1 = .error error →
    ∃ lines, (environment.submit actor id args).2 =
      (environment.say lines).note (.submitted actor id args (.error error))
  /-- What was accepted is what was executed, by the handlers of the table, and what still waits. -/
  order : ∃ executed, Ledger commands executed environment
  /-- No more jobs wait than the queue can hold. -/
  bound : environment.hub.queue.length ≤ queueLimit

/-- What a pass did about jobs, given what it took, when it had received it, and what it reported.
-/
structure Serves (commands : Option CommandTable) (loop final : Loop σ)
    (before received after : Environment) (taken : Option Job) (report : PassReport) : Prop where
  /-- The first of the jobs that waited was taken. -/
  first : ∀ job rest, before.hub.queue = job :: rest → taken = some job
  /-- When none waited, and none was accepted while the pass received, none was taken. -/
  idle : before.hub.queue = [] → accepted received.trace = accepted before.trace → taken = none
  /-- A job that was taken has the command of the table. -/
  known : ∀ job ∈ taken, commands.bind (·.find? job.command.id) = some job.command
  /-- What was taken is run: the handler of a job to its end, on the job's argument. -/
  executes : loop.Executes final report received after taken
  /-- No other handler was called. -/
  executions : handled after.trace = handled before.trace ++ (taken.map Job.call).toList
  /-- The report names the job's command. -/
  reported : report.command = taken.map fun job => job.command.id

/-- At a moment at which the ledger is kept, submissions are answered as they should be. -/
theorem Ledger.orderly (ledger : Ledger commands executed environment) :
    Orderly commands environment where
  answer actor id args := by rw [environment.submit_answer, ledger.frozen]
  refused _ _ _ _ refused := Environment.submit_refused refused
  order := ⟨executed, ledger⟩
  bound := environment.hub.length_queue_le

/-- What is left of a pass keeps the ledger. -/
theorem Ledger.passWith {loop : Loop σ} {taken : Option Job} {left : Thread Environment _}
    (ledger : Ledger commands executed before)
    (rest : Thread.Reaches Environment.Outside (loop.passWith taken) before left after) :
    Ledger commands executed after :=
  (rest.idles (Submits.each_passWith loop taken)).1 _ ledger

/-- A pass that starts when the ledger is kept serves at most one job. -/
theorem Ledger.serves {loop final : Loop σ} {taken : Option Job} {received : Environment}
    {report : PassReport} (ledger : Ledger commands executed before)
    (receives : loop.Receives final before received after taken report) :
    Serves commands loop final before received after taken report := by
  obtain ⟨moved, first⟩ := ledger.receive receives.receiving
  have finished := moved.passWith receives.rest
  constructor
  · exact first
  · intro empty none
    have requests := moved.requests
    rw [none, ledger.requests, empty, List.append_nil] at requests
    have lengths := congrArg List.length requests
    simp only [List.length_map, List.length_append] at lengths
    have short : taken.toList.length = 0 := by omega
    rw [List.length_eq_zero_iff] at short
    exact Option.toList_eq_nil_iff.mp short
  · intro job member
    exact moved.known job (by simp [Option.mem_def.mp member])
  · exact Loop.executes_of_passWith receives.rest
  · rw [finished.executions, ledger.executions, List.map_append]
    cases taken <;> rfl
  · exact (loop.passWith_reports taken).holds receives.rest

/-- What the passes among calls execute, the ledger has as executed after them. -/
theorem Ledger.perform {loop final : Loop σ} {calls : List (Call σ)} {jobs : List Job}
    (ledger : Ledger commands executed before)
    (ran : loop.Executed before calls final after jobs) :
    Ledger commands (executed ++ jobs) after := by
  induction ran generalizing executed with
  | idle waiting =>
    rw [List.append_nil]
    exact (waiting.of_done Idles.refl Idles.trans Outside.idles).2.1 _ ledger
  | pass receives _ _ ih =>
    rw [← List.append_assoc]
    exact ih ((ledger.receive receives.receiving).1.passWith receives.rest)
  | @other loop _ _ _ _ _ call _ _ other calling _ ih =>
    exact ih ((calling.idles (Submits.each_call loop other)).1 _ ledger)

namespace Builder

/-- Before a builder is built, nothing was accepted and nothing executed. -/
theorem Reached.ledger {builder : Builder σ} (reached : builder.Reached) :
    Ledger none [] builder.environment := by
  induction reached with
  | new config board blank =>
    have trace : (Builder.onBoard config board : Builder σ).environment.trace = [] := blank
    refine ⟨rfl, ?_, ?_, by simp [onBoard]⟩
    · rw [trace]
      rfl
    · rw [trace]
      rfl
  | register _ adapter ih =>
    apply ih.submits
    obtain ⟨lines, said⟩ := environment_register _ adapter
    rw [said]
    exact Submits.of_silence rfl rfl
  | outside _ occurrence ih => exact ih.submits (Submits.undergo _ occurrence)

/-- Before a builder is built, no job waits. -/
theorem Reached.queue {builder : Builder σ} (reached : builder.Reached) :
    builder.environment.hub.queue = [] := by
  have known := reached.ledger.known
  cases queue : builder.environment.hub.queue with
  | nil => rfl
  | cons job rest =>
    rw [queue] at known
    have impossible := known job (by simp)
    contradiction

/-- Building fixes the table, and accepts and executes nothing. -/
theorem Reached.ledger_build {builder : Builder σ} (reached : builder.Reached) :
    Ledger (some builder.commands) [] builder.build.environment := by
  have ledger := reached.ledger
  refine ⟨rfl, ledger.executions, ledger.requests, fun job member => ?_⟩
  have none : job ∈ ([] : List Job) := reached.queue ▸ member
  contradiction

/-- Commands are executed at most once, in the order of their acceptance, and none is lost. Before
the supervisor is built, every command is unknown. Afterwards, whatever calls the owner makes and
whatever happens beside them, the queue is orderly at every moment, and what counts as executed then
is the first part of what the passes among the calls run, however the calls go on to their end. At
their end it is all of that. Every further pass, wherever it is cut when it had received, serves the
first job that waits. -/
theorem Reached.dispatches {builder : Builder σ} (reached : builder.Reached) :
    Orderly none builder.environment ∧ ∀ calls : List (Call σ),
      (∀ left moment, Thread.Reaches Environment.Outside (builder.build.loop.perform calls)
          builder.build.environment left moment →
        Orderly (some builder.commands) moment ∧
          ∀ executed, Ledger (some builder.commands) executed moment →
            ∀ loop after, Thread.Reaches Environment.Outside left moment (.done loop) after →
              ∃ further, builder.build.loop.Executed builder.build.environment calls loop after
                (executed ++ further)) ∧
      ∀ loop before, Thread.Reaches Environment.Outside (builder.build.loop.perform calls)
          builder.build.environment (.done loop) before →
        (∃ executed, Ledger (some builder.commands) executed before ∧
          builder.build.loop.Executed builder.build.environment calls loop before executed) ∧
        ∀ final report after,
          (Thread.Reaches Environment.Outside loop.pass before (.done (report, final)) after →
            ∃ taken received, loop.Receives final before received after taken report) ∧
          ∀ taken received, loop.Receives final before received after taken report →
            Serves (some builder.commands) loop final before received after taken report := by
  refine ⟨reached.ledger.orderly, fun calls => ⟨?_, ?_⟩⟩
  · intro left moment reaches
    obtain ⟨across, remaining⟩ := reaches.dispatching
      (Dispatching.serial.each_perform builder.build.loop calls)
    obtain ⟨_, started⟩ := across [] reached.ledger_build
    refine ⟨started.orderly, fun executed ledger loop after ending => ?_⟩
    obtain ⟨further, ended⟩ := (ending.dispatching remaining).1 executed ledger
    obtain ⟨jobs, ran⟩ := Loop.executed_of_perform (reaches.trans ending)
    have all : jobs = executed ++ further := (reached.ledger_build.perform ran).unique ended
    exact ⟨further, all ▸ ran⟩
  · intro loop before reaches
    obtain ⟨executed, ran⟩ := Loop.executed_of_perform reaches
    have ledger := reached.ledger_build.perform ran
    refine ⟨⟨executed, ledger, ran⟩, fun final report after => ⟨Loop.receives_of_pass, ?_⟩⟩
    exact fun taken received receives => ledger.serves receives

/-- Of two commands that were submitted before the first pass, a restart and a listing, the first
pass runs the restart, and the next one serves the listing. -/
theorem dispatches_restart :
    let builder : Builder Unit := onBoard {} {}
    let once := builder.build.environment.undergo (.submit .producer "restart" none)
    let twice := once.undergo (.submit .producer "help" none)
    let first := (builder.build.loop.perform [.pass]).run twice
    let received := (Loop.receive first.1.config.commandWait).run first.2
    let done := (first.1.passWith received.1).run received.2
    twice.hub.queue.length = 2 ∧ first.2.board.restarts = 1 ∧ first.2.hub.queue.length = 1 ∧
      (∃ executed, Ledger (some builder.commands) executed first.2 ∧
        builder.build.loop.Executed builder.build.environment [.pass] first.1 first.2 executed) ∧
      Serves (some builder.commands) first.1 done.1.2 first.2 received.2 done.2 received.1
        done.1.1 := by
  intro builder once twice first received done
  have reaches : Thread.Reaches Environment.Outside (builder.build.loop.perform [.pass])
      builder.build.environment (.done first.1) first.2 :=
    .other ⟨_, rfl⟩ (.other ⟨_, rfl⟩ (Thread.reaches_run _ twice))
  obtain ⟨executed, served⟩ :=
    ((Reached.dispatches (.new {} {} rfl : builder.Reached)).2 [.pass]).2 first.1 first.2 reaches
  refine ⟨by decide, by decide, by decide, executed, ?_⟩
  have receives : first.1.Receives done.1.2 first.2 received.2 done.2 received.1 done.1.1 :=
    first.1.receives_run first.2
  exact (served done.1.2 done.1.1 done.2).2 received.1 received.2 receives

end Builder

end Overseer
