import Mathlib.Data.List.TakeWhile
import Overseer.Proofs.Commands
import Overseer.Proofs.Landmarks

/-!
# Restarts

A handler may ask for a restart; the pass that runs the handler carries it out at its very end,
after every delivery and one round of shutdowns. Between the two the request is only a flag of the
environment, while tasks go on beside the loop. The flag follows the trace: over any steps it is set
exactly if it was set before or a restart was asked for in what they added (`Asks`), and only the
last phase withdraws it, as its first step. So a pass restarts the chip exactly if its own job asked
(`Loop.pass_restarts`), and over any run there are as many restarts as jobs that asked
(`Builder.Reached.restarts_on_request`). Which core commands ask is read from what they write
(`Core.restartRule_writes`).
-/
namespace Overseer

variable {σ : Type}

/-! ### Entries -/

namespace Entry

/-- Whether the entry is the call of a handler. -/
def isHandler : Entry → Bool
  | .handler .. => true
  | _ => false

/-- Whether the entry is a restart of the chip. -/
def isRestart : Entry → Bool
  | .restart => true
  | _ => false

/-- Whether the entry asks for no restart. -/
def IsTacit : Entry → Prop
  | .restartRequested _ => False
  | _ => True

/-- Requests of tasks ask for no restart. -/
theorem IsRequest.isTacit {entry : Entry} (request : entry.IsRequest) : entry.IsTacit := by
  cases entry <;> trivial

/-- The detector asks for no restart. -/
theorem IsDetection.isTacit {entry : Entry} (detection : entry.IsDetection) : entry.IsTacit := by
  cases entry <;> trivial

/-- The loop's own steps ask for no restart. -/
theorem IsStep.isTacit {entry : Entry} (step : entry.IsStep) : entry.IsTacit := by
  cases entry <;> trivial

end Entry

/-- In entries that ask for no restart none is asked for. -/
theorem asksRestart_eq_false {entries : List Entry} (tacit : ∀ entry ∈ entries, entry.IsTacit) :
    asksRestart entries = false := by
  rw [asksRestart, List.any_eq_false]
  intro entry member asks
  have kept := tacit entry member
  cases entry <;> contradiction

/-- How often the chip was restarted in a trace. -/
def restarts (trace : List Entry) : Nat := trace.countP Entry.isRestart

@[simp] theorem restarts_append (earlier later : List Entry) :
    restarts (earlier ++ later) = restarts earlier + restarts later := List.countP_append

/-- The entries before the first call of a handler. -/
def beforeHandler (trace : List Entry) : List Entry :=
  trace.takeWhile fun entry => !entry.isHandler

/-- Without the call of a handler these are all. -/
theorem beforeHandler_eq_self {entries : List Entry} (none : entries.countP Entry.isHandler = 0) :
    beforeHandler entries = entries := by
  rw [beforeHandler, List.takeWhile_eq_self_iff]
  intro entry member
  simpa using List.countP_eq_zero.mp none entry member

/-- What is added later asks for no restart before the first handler, if none is asked for before
the first handler in what is added. -/
theorem asksRestart_beforeHandler_append (earlier : List Entry) {later : List Entry}
    (unasked : asksRestart (beforeHandler later) = false) :
    asksRestart (beforeHandler (earlier ++ later)) = asksRestart (beforeHandler earlier) := by
  rw [beforeHandler, List.takeWhile_append]
  split
  · rename_i whole
    have all : beforeHandler earlier = earlier :=
      (List.takeWhile_prefix fun entry : Entry => !entry.isHandler).eq_of_length whole
    rw [asksRestart_append, ← beforeHandler, unasked, Bool.or_false, all]
  · rfl

/-- How many handlers asked for a restart in a trace: after the call of the handler, and before that
of another one. -/
def askingJobs : List Entry → Nat
  | [] => 0
  | entry :: rest =>
    (if entry.isHandler && asksRestart (beforeHandler rest) then 1 else 0) + askingJobs rest

/-- Without the call of a handler none asked. -/
theorem askingJobs_eq_zero {entries : List Entry} (none : entries.countP Entry.isHandler = 0) :
    askingJobs entries = 0 := by
  induction entries with
  | nil => rfl
  | cons entry rest ih =>
    rw [List.countP_eq_zero, List.forall_mem_cons, ← List.countP_eq_zero] at none
    simp [askingJobs, none.1, ih none.2]

/-- A handler asked if a restart was asked for after its call, and no other handler was called. -/
theorem askingJobs_cons {entry : Entry} {rest : List Entry} (handler : entry.isHandler = true)
    (none : rest.countP Entry.isHandler = 0) :
    askingJobs (entry :: rest) = if asksRestart rest then 1 else 0 := by
  rw [askingJobs, askingJobs_eq_zero none, beforeHandler_eq_self none, handler, Bool.true_and,
    Nat.add_zero]

/-- What is added later changes nothing about the jobs before it, if no restart is asked for before
the next handler is called. -/
theorem askingJobs_append (earlier : List Entry) {later : List Entry}
    (unasked : asksRestart (beforeHandler later) = false) :
    askingJobs (earlier ++ later) = askingJobs earlier + askingJobs later := by
  induction earlier with
  | nil => exact (Nat.zero_add _).symm
  | cons entry rest ih =>
    rw [List.cons_append, askingJobs, askingJobs, asksRestart_beforeHandler_append rest unasked, ih,
      Nat.add_assoc]

/-- What is counted among landmarks only is counted in the landmarks of a trace. -/
theorem countP_landmarks {counts : Entry → Bool}
    (marked : ∀ entry : Entry, counts entry = true → entry.isLandmark = true)
    (trace : List Entry) : (landmarks trace).countP counts = trace.countP counts := by
  rw [landmarks, List.countP_filter]
  congr 1
  funext entry
  cases counted : counts entry with
  | false => rfl
  | true => rw [marked entry counted, Bool.and_self]

/-- Restarts are landmarks. -/
theorem restarts_landmarks (trace : List Entry) : restarts (landmarks trace) = restarts trace :=
  countP_landmarks (fun entry restart => by cases entry <;> first | rfl | contradiction) trace

/-- Calls of handlers are landmarks. -/
theorem handlers_landmarks (trace : List Entry) :
    (landmarks trace).countP Entry.isHandler = trace.countP Entry.isHandler :=
  countP_landmarks (fun entry handler => by cases entry <;> first | rfl | contradiction) trace

/-! ### The flag -/

/-- The restart flag follows the trace: it is set if it was, or if a restart was asked for in what
was added. -/
def Asks (before after : Environment) : Prop :=
  ∃ deeds, after.trace = before.trace ++ deeds ∧
    after.restartPending = (before.restartPending || asksRestart deeds)

namespace Asks

/-- Nothing added, nothing asked for. -/
theorem refl (environment : Environment) : Asks environment environment :=
  ⟨[], (List.append_nil _).symm, (Bool.or_false _).symm⟩

/-- The flag follows one addition after the other. -/
theorem trans (first second third : Environment) (earlier : Asks first second)
    (later : Asks second third) : Asks first third := by
  obtain ⟨deeds, trace, flag⟩ := earlier
  obtain ⟨more, longer, further⟩ := later
  refine ⟨deeds ++ more, ?_, ?_⟩
  · rw [longer, trace, List.append_assoc]
  · rw [further, flag, asksRestart_append, Bool.or_assoc]

/-- A step that leaves the flag alone and asks for no restart. -/
theorem of_steady {before after : Environment} (steady : Supervisor.Steady before after)
    (notes : Environment.Notes Entry.IsTacit before after) : Asks before after := by
  obtain ⟨deeds, trace, tacit⟩ := notes
  refine ⟨deeds, trace, ?_⟩
  rw [asksRestart_eq_false tacit, Bool.or_false]
  exact steady

/-- An operation of a program. -/
theorem of_operation {actor : Actor} {verb : Verb} {before after : Environment}
    (operation : Operation actor verb before after) : Asks before after := by
  obtain ⟨deeds, acts⟩ := Acts.of_operation operation
  exact ⟨deeds, acts.trace, acts.restart⟩

/-- What happens beside the loop. -/
theorem outside (before after : Environment) (allowed : Environment.Outside before after) :
    Asks before after :=
  of_steady (.outside before after allowed)
    ((Environment.Outside.notes before after allowed).imp fun _ request => request.isTacit)

end Asks

namespace Loop

/-- Running a job that was taken sets the flag exactly if the job asks for a restart. -/
theorem runTaken_asks {taken : Option Job} {received ran : Environment}
    (running : Thread.Reaches Environment.Outside (runTaken taken) received (.done ()) ran) :
    Asks received ran := by
  refine (running.each Asks.refl Asks.trans Asks.outside ?_).1
  cases taken with
  | none => trivial
  | some job =>
    refine Thread.each_bind (Program.each_thread Asks (Program.only_any _) ?_) fun _ => ?_
    · exact fun _ _ _ _ operation => .of_operation operation
    · refine Thread.each_change fun environment => .of_steady rfl ?_
      exact .of_note (environment.trace_notify _ _) trivial

/-- Only the job that is run asks for a restart. -/
theorem runTaken_own {taken : Option Job} {received ran : Environment}
    (running : Thread.Reaches Environment.Outside (runTaken taken) received (.done ()) ran) :
    Environment.Notes (fun entry => ∀ actor, entry = .restartRequested actor →
      ∃ job, taken = some job ∧ job.command.owner = actor) received ran := by
  refine (running.each .refl .trans (fun before after allowed => ?_) ?_).1
  · refine (Environment.Outside.notes before after allowed).imp fun entry request actor same => ?_
    rw [same] at request
    exact request.elim
  · cases taken with
    | none => trivial
    | some job =>
      refine Thread.each_bind (Program.each_thread _ (Program.only_any _) ?_) fun _ => ?_
      · intro verb before after _ operation
        refine (Environment.Notes.of_operation operation).imp fun entry deed actor same => ?_
        rw [same] at deed
        exact ⟨job, rfl, Eq.symm deed⟩
      · exact Thread.each_change fun environment =>
          .of_note (environment.trace_notify _ _) fun _ same => by contradiction

/-- The last phase reports whether the flag was set when it began. -/
theorem serveRestart_reports {loop : Loop σ} {result : Bool × Loop σ} {before after : Environment}
    (reaches : Thread.Reaches Environment.Outside loop.serveRestart before (.done result) after) :
    result.1 = before.restartPending := by
  obtain ⟨found, steady, later⟩ := reaches.of_step Supervisor.Steady.refl Supervisor.Steady.trans
    Supervisor.Steady.outside
  rw [← steady]
  refine @Thread.Ends.holds _ _ _ (fun result : Bool × Loop σ =>
    result.1 = found.restartPending) _ _ _ _ ?_ later
  split
  · rename_i pending
    refine (Thread.ends_any _).bind fun last _ => ?_
    refine (Thread.ends_any _).bind fun _ _ => (Thread.ends_any _).bind fun _ _ => ?_
    exact pending.symm
  · rename_i idle
    exact (Bool.eq_false_iff.mpr idle).symm

/-- A pass reports a restart exactly if the flag was set when its job had been run. -/
theorem finish_reports {loop : Loop σ} {taken : Option Job} {result : PassReport × Loop σ}
    {ran after : Environment}
    (finishing : Thread.Reaches Environment.Outside (loop.finish taken) ran (.done result) after) :
    result.1.restarted = ran.restartPending := by
  obtain ⟨delivered, atStages, delivering, rest⟩ := finishing.split
  obtain ⟨served, atRestart, serving, rest⟩ := rest.split
  obtain ⟨restarted, stop, restarting, reporting⟩ := rest.split
  have first : Supervisor.Steady ran atStages := Supervisor.steady_of_reaches delivering
    (Supervisor.admits_steady.each_deliverEvents (fun _ => rfl) loop)
  have second : Supervisor.Steady atStages atRestart := Supervisor.steady_of_reaches serving
    (Supervisor.admits_steady.each_serveStages (fun _ _ _ _ => rfl) Supervisor.Steady.refl _)
  have reported := (reporting.of_done Supervisor.Steady.refl Supervisor.Steady.trans
    Supervisor.Steady.outside).1
  rw [← reported, ← first, ← second]
  exact serveRestart_reports restarting

end Loop

/-! ### What asks for no restart -/

/-- The loop itself asks for no restart. -/
theorem covers_tacit : Covers (Environment.Notes Entry.IsTacit) :=
  .notes (fun _ request => request.isTacit) (fun _ step => step.isTacit)
    fun _ detection => detection.isTacit

/-- Nor does a look at the queue. -/
theorem takeJob_tacit (environment : Environment) :
    Environment.Notes Entry.IsTacit environment environment.takeJob.2 := by
  cases waiting : environment.hub.queue with
  | nil =>
    rw [Environment.takeJob_of_nil waiting]
    exact .refl _
  | cons job rest => exact .of_note (Environment.takeJob_taken waiting).trace trivial

/-- A thread that asks for no restart adds only entries that ask for none. -/
theorem asksRestart_of_reaches {α : Type} {thread left : Thread Environment α}
    {before after : Environment} (each : thread.Each (Environment.Notes Entry.IsTacit))
    (reaches : Thread.Reaches Environment.Outside thread before left after)
    {entries : List Entry} (added : after.trace = before.trace ++ entries) :
    asksRestart entries = false := by
  have outside (before after : Environment) (allowed : Environment.Outside before after) :
      Environment.Notes Entry.IsTacit before after :=
    (Environment.Outside.notes before after allowed).imp fun _ request => request.isTacit
  obtain ⟨others, trace, tacit⟩ := (reaches.each .refl .trans outside each).1
  have same : entries = others := List.append_cancel_left (added.symm.trans trace)
  exact asksRestart_eq_false (same ▸ tacit)

/-! ### The core commands -/

/-- The results of the erasures of the configuration in a trace. -/
def erasures (trace : List Entry) : List (Except StorageError Unit) :=
  trace.filterMap fun
    | .configReset _ result => some result
    | _ => none

@[simp] theorem erasures_append (earlier later : List Entry) :
    erasures (earlier ++ later) = erasures earlier ++ erasures later := List.filterMap_append

@[simp] theorem erasures_configReset (actor : Actor) (result : Except StorageError Unit)
    (rest : List Entry) : erasures (.configReset actor result :: rest) = result :: erasures rest :=
  rfl

@[simp] theorem erasures_restartRequested (actor : Actor) (rest : List Entry) :
    erasures (.restartRequested actor :: rest) = erasures rest := rfl

@[simp] theorem asksRestart_configReset (actor : Actor) (result : Except StorageError Unit)
    (rest : List Entry) : asksRestart (.configReset actor result :: rest) = asksRestart rest := rfl

@[simp] theorem asksRestart_restartRequested (actor : Actor) (rest : List Entry) :
    asksRestart (.restartRequested actor :: rest) = true := rfl

/-- Whether the entry neither asks for a restart nor erases the configuration. -/
def Entry.IsMild : Entry → Prop
  | .restartRequested _ | .configReset .. => False
  | _ => True

/-- In mild entries no restart is asked for, and nothing is erased. -/
theorem silent_of_isMild {entries : List Entry} (mild : ∀ entry ∈ entries, entry.IsMild) :
    asksRestart entries = false ∧ erasures entries = [] := by
  constructor
  · refine asksRestart_eq_false fun entry member => ?_
    have kept := mild entry member
    cases entry <;> trivial
  · refine List.filterMap_eq_nil_iff.mpr fun entry member => ?_
    have kept := mild entry member
    cases entry <;> first | rfl | contradiction

/-- Requests of tasks are mild. -/
theorem Entry.IsRequest.isMild {entry : Entry} (request : entry.IsRequest) : entry.IsMild := by
  cases entry <;> trivial

/-- Requests of tasks neither ask for a restart nor erase the configuration. -/
theorem silent_of_requests {entries : List Entry} (requests : ∀ entry ∈ entries, entry.IsRequest) :
    asksRestart entries = false ∧ erasures entries = [] :=
  silent_of_isMild fun entry member => (requests entry member).isMild

/-- Mild operations add mild entries. -/
theorem Environment.Notes.of_isMild {actor : Actor} {verb : Verb} {before after : Environment}
    (mild : verb.IsMild) (operation : Operation actor verb before after) :
    Notes Entry.IsMild before after := by
  cases operation with
  | log _ line => exact .of_silence rfl
  | commands _ ids => exact .of_note (before.trace_note _) trivial
  | override _ overrides =>
    exact .of_note (show _ = before.trace ++ [.overridden actor _] from rfl) trivial
  | driveLed _ action => exact .of_silence (before.board.trace_driveLed action)
  | _ => exact mild.elim

namespace Core

/-- What a core command has to do with restarts. Only `resetconf` erases the configuration, once. Of
all only `restart` asks for a restart always, and `resetconf` if its erasure succeeded. -/
structure RestartRule (id : String) (entries : List Entry) : Prop where
  erased : (erasures entries).length = if id = "resetconf" then 1 else 0
  asks_iff : asksRestart entries = true ↔ id = "restart" ∨ .ok () ∈ erasures entries

/-- A mild program neither asks for a restart nor erases the configuration. -/
theorem mild_writes {program : Program .handler Unit} (only : program.Only Verb.IsMild)
    (actor : Actor) : (program.thread actor).Writes fun _ entries =>
      asksRestart entries = false ∧ erasures entries = [] := by
  have each : (program.thread actor).Each (Environment.Notes Entry.IsMild) :=
    Program.each_thread _ only fun _ _ _ mild operation => .of_isMild mild operation
  have writes := Thread.Writes.of_each (fun _ request => request.isMild) each (Thread.ends_any _)
  exact writes.imp fun _ _ outcome => silent_of_isMild outcome.2

/-- After a log line a restart is asked for. -/
theorem askRestart_writes (line : Line) (actor : Actor) :
    ((Program.say line >>= fun _ => Program.askRestart).thread actor).Writes fun _ entries =>
      asksRestart entries = true ∧ erasures entries = [] := by
  refine Thread.Writes.step fun found early first =>
    ⟨[], (List.append_nil _).symm, Thread.Writes.step fun again between second =>
      ⟨[.restartRequested actor], again.trace_note _, Thread.Writes.done fun late third => ?_⟩⟩
  simp [silent_of_requests first, silent_of_requests second, silent_of_requests third]

/-- Erasing the configuration asks for a restart exactly if it succeeds. -/
theorem resetconf_writes (actor : Actor) :
    (resetconf.thread actor).Writes fun _ entries => RestartRule "resetconf" entries := by
  refine Thread.Writes.step fun found early first => ?_
  have silent := silent_of_requests first
  refine ⟨[.configReset actor (found.board.resetConfig actor).1], rfl, ?_⟩
  cases (found.board.resetConfig actor).1 with
  | ok done =>
    refine (askRestart_writes _ actor).imp fun _ later asking => ⟨?_, ?_⟩
    · simp [silent, asking]
    · simp [silent, asking]
  | error error =>
    refine (mild_writes ?_ actor).imp fun _ later mild => ⟨?_, ?_⟩
    · exact ⟨trivial, trivial⟩
    · simp [silent, mild]
    · simp [silent, mild]

/-- What the core commands have to do with restarts, for any argument and whatever fails. -/
theorem restartRule_writes {command : Command} (member : command ∈ commands) (args : Option String)
    (actor : Actor) : ((command.handler args).thread actor).Writes fun _ entries =>
      RestartRule command.id entries := by
  have mild {id : String} (other : id ≠ "restart" ∧ id ≠ "resetconf")
      {program : Program .handler Unit} (only : program.Only Verb.IsMild) :
      (program.thread actor).Writes fun _ entries => RestartRule id entries := by
    refine (mild_writes only actor).imp fun _ entries silent => ⟨?_, ?_⟩
    · simp [silent, other]
    · simp [silent, other]
  simp only [commands, List.mem_cons, List.not_mem_nil, or_false] at member
  rcases member with rfl | rfl | rfl | rfl | rfl
  · refine (askRestart_writes _ actor).imp fun _ entries asking => ⟨?_, ?_⟩
    · simp [asking]
    · simp [asking]
  · exact mild (by decide) only_help
  · exact mild (by decide) (only_setconf args)
  · exact resetconf_writes actor
  · exact mild (by decide) (only_onboardLed args)

end Core

/-- What running a job does when it is one of a core command. -/
theorem Loop.runTaken_core {job : Job} (member : job.command ∈ Core.commands) :
    (Loop.runTaken (some job)).Writes fun _ entries =>
      Core.RestartRule job.command.id entries := by
  refine (Core.restartRule_writes member job.args job.command.owner).bind fun _ entries rule => ?_
  have noted : (Thread.change fun environment : Environment =>
      environment.notify .core (.singleton .commandCompleted)).Each
        (Environment.Notes Entry.IsRequest) :=
    Thread.each_change fun environment => .of_note (environment.trace_notify _ _) trivial
  refine (Thread.Writes.of_each (fun _ request => request) noted (Thread.ends_any _)).imp
    fun _ more requests => ?_
  have silent := silent_of_requests requests.2
  constructor
  · rw [erasures_append, silent.2, List.append_nil]
    exact rule.erased
  · rw [erasures_append, silent.2, List.append_nil, asksRestart_append, silent.1, Bool.or_false]
    exact rule.asks_iff

/-! ### A pass -/

namespace Loop

open Supervisor (handlerCalls eventCalls stageCalls restartCalls)

/-- What a pass has to do with restarts. Its entries are those until a job was received, those of
the job, and those of the rest. The rest of the pass takes the events, delivers them, serves the
stages and only then, if the job asked for a restart, shuts every adapter down once, in order, and
restarts the chip once. -/
structure PassRestarts (loop : Loop σ) (before : Environment) (report : PassReport)
    (after : Environment) (taken : Option Job) (receipt deeds rest : List Entry) : Prop where
  /-- The pass receives the job, and then runs it. -/
  parts : ∃ received ran,
    Thread.Reaches Environment.Outside (receive loop.config.commandWait) before (.done taken)
      received ∧ received.trace = before.trace ++ receipt ∧
    Thread.Reaches Environment.Outside (runTaken taken) received (.done ()) ran ∧
      ran.trace = received.trace ++ deeds ∧ after.trace = ran.trace ++ rest
  command : report.command = taken.map (·.command.id)
  /-- A restart is carried out exactly if the job asked for one. -/
  restarted : report.restarted = asksRestart deeds
  once : restarts (receipt ++ deeds ++ rest) = if asksRestart deeds then 1 else 0
  own : ∀ actor, .restartRequested actor ∈ deeds →
    ∃ job, taken = some job ∧ job.command.owner = actor
  core : ∀ job, taken = some job → job.command ∈ Core.commands →
    Core.RestartRule job.command.id deeds
  handler : landmarks receipt = handlerCalls taken
  quiet : landmarks deeds = []
  order : ∃ earlier later, rest = earlier ++ .taken report.events :: later ∧
    landmarks earlier = [] ∧
    landmarks later = eventCalls report.events loop.roster.size ++
      report.stages.flatMap (stageCalls loop.detector.active loop.roster.size) ++
      restartCalls report.restarted loop.roster.size
  unasked : asksRestart receipt = false ∧ asksRestart rest = false
  settled : after.restartPending = false

/-- What the deliveries of a pass call: adapters and hooks. -/
theorem mem_deliveries {events : EventSet} {safe : Bool} {count : Nat} {stages : List Stage}
    {entry : Entry}
    (member : entry ∈ eventCalls events count ++ stages.flatMap (stageCalls safe count)) :
    (∃ slot callback, entry = .adapter slot callback) ∨ ∃ stage, entry = .hook stage := by
  rcases List.mem_append.mp member with delivered | served
  · obtain ⟨slot, rfl⟩ := mem_eventCalls delivered
    exact .inl ⟨slot, _, rfl⟩
  · obtain ⟨stage, rfl | ⟨-, slot, rfl⟩⟩ := mem_stageCalls served
    · exact .inr ⟨stage, rfl⟩
    · exact .inl ⟨slot, _, rfl⟩

/-- The calls of a restart, among them the restart itself. -/
theorem restarts_restartCalls (restart : Bool) (count : Nat) :
    restarts (restartCalls restart count) = if restart then 1 else 0 := by
  cases restart with
  | false => rfl
  | true =>
    have shutdowns : restarts (Roster.round .shutdown 0 count) = 0 := by
      refine List.countP_eq_zero.mpr fun entry member => ?_
      obtain ⟨slot, _, rfl⟩ := List.mem_map.mp member
      exact Bool.false_ne_true
    rw [restartCalls, if_pos rfl, restarts_append, shutdowns]
    rfl

/-- A pass restarts the chip once if it reports a restart, and never otherwise. -/
theorem PassAdds.restarts_eq {loop : Loop σ} {result : PassReport × Loop σ} {entries : List Entry}
    (adds : loop.PassAdds result entries) :
    restarts entries = if result.1.restarted then 1 else 0 := by
  obtain ⟨taken, marks⟩ := adds.landmarks
  have handlers : restarts (handlerCalls taken) = 0 := by
    refine List.countP_eq_zero.mpr fun entry member => ?_
    obtain ⟨owner, id, args, rfl⟩ := mem_handlerCalls member
    exact Bool.false_ne_true
  have deliveries : restarts (eventCalls result.1.events loop.roster.size ++
      result.1.stages.flatMap (stageCalls loop.detector.active loop.roster.size)) = 0 := by
    refine List.countP_eq_zero.mpr fun entry member => ?_
    rcases mem_deliveries member with ⟨slot, callback, rfl⟩ | ⟨stage, rfl⟩
    · exact Bool.false_ne_true
    · exact Bool.false_ne_true
  have taking : restarts [.taken result.1.events] = 0 := rfl
  have last := restarts_restartCalls result.1.restarted loop.roster.size
  rw [← restarts_landmarks, marks, restarts_append, handlers, ← List.singleton_append,
    restarts_append, taking, restarts_append, deliveries, last, Nat.zero_add, Nat.zero_add,
    Nat.zero_add]

/-- A look at the queue leaves the restart flag alone. -/
theorem takeJob_steady (environment : Environment) :
    Supervisor.Steady environment environment.takeJob.2 := by
  cases waiting : environment.hub.queue with
  | nil =>
    rw [Environment.takeJob_of_nil waiting]
    exact .refl _
  | cons job rest => exact (Environment.takeJob_taken waiting).restartPending

/-- A pass with nothing pending does that. -/
theorem pass_restarts {loop last : Loop σ} {report : PassReport} {before after : Environment}
    (passing : Thread.Reaches Environment.Outside loop.pass before (.done (report, last)) after)
    (settled : before.restartPending = false) :
    ∃ taken receipt deeds rest, loop.PassRestarts before report after taken receipt deeds rest := by
  obtain ⟨entries, added, adds⟩ := loop.pass_writes.ends passing
  have settles := Supervisor.pass_settles passing
  obtain ⟨taken, received, receiving, running⟩ := passing.split
  rw [passWith] at running
  obtain ⟨_, ran, running, finishing⟩ := running.split
  obtain ⟨receipt, first, handler⟩ := (receive_writes _).ends receiving
  obtain ⟨deeds, second, quiet, -⟩ := (runTaken_writes taken).ends running
  obtain ⟨rest, third, alike, command, order⟩ := (loop.finish_writes taken).ends finishing
  have whole : receipt ++ deeds ++ rest = entries := by
    apply List.append_cancel_left
    rw [← added, third, second, first, List.append_assoc, List.append_assoc, List.append_assoc]
  -- Nothing is pending when the job begins, so what is pending after it is what it asked for.
  have waited : received.restartPending = false :=
    (Supervisor.steady_of_reaches receiving (each_receive takeJob_steady _)).settled settled
  have asked : ran.restartPending = asksRestart deeds := by
    obtain ⟨others, trace, flag⟩ := runTaken_asks running
    obtain rfl : deeds = others := List.append_cancel_left (second.symm.trans trace)
    rw [flag, waited, Bool.false_or]
  have restarted : report.restarted = asksRestart deeds :=
    (finish_reports finishing).trans asked
  refine ⟨taken, receipt, deeds, rest, ?_⟩
  refine ⟨⟨received, ran, receiving, first, running, second, third⟩, command, restarted, ?_, ?_,
    ?_, handler, quiet, order, ⟨?_, ?_⟩, settles⟩
  · rw [whole, adds.restarts_eq, restarted]
  · intro actor member
    obtain ⟨others, trace, own⟩ := runTaken_own running
    obtain rfl : deeds = others := List.append_cancel_left (second.symm.trans trace)
    exact own _ member actor rfl
  · rintro job rfl member
    obtain ⟨others, trace, rule⟩ := (runTaken_core member).ends running
    obtain rfl : deeds = others := List.append_cancel_left (second.symm.trans trace)
    exact rule
  · exact asksRestart_of_reaches (each_receive takeJob_tacit _) receiving first
  · exact asksRestart_of_reaches (covers_tacit.each_finish loop taken) finishing third

/-- What the rest of a pass adds calls no handler. -/
theorem PassRestarts.handlers_rest {loop : Loop σ} {before after : Environment}
    {report : PassReport} {taken : Option Job} {receipt deeds rest : List Entry}
    (pass : loop.PassRestarts before report after taken receipt deeds rest) :
    rest.countP Entry.isHandler = 0 := by
  obtain ⟨earlier, later, split, first, second⟩ := pass.order
  have calls : (landmarks later).countP Entry.isHandler = 0 := by
    rw [second, List.countP_eq_zero]
    intro entry member
    rcases List.mem_append.mp member with delivery | restart
    · rcases mem_deliveries delivery with ⟨slot, callback, rfl⟩ | ⟨stage, rfl⟩
      · exact Bool.false_ne_true
      · exact Bool.false_ne_true
    · rcases mem_restartCalls restart with rfl | ⟨slot, rfl⟩
      · exact Bool.false_ne_true
      · exact Bool.false_ne_true
  have none : earlier.countP Entry.isHandler = 0 := by rw [← handlers_landmarks, first]; rfl
  rw [handlers_landmarks] at calls
  rw [split, List.countP_append, none, List.countP_cons_of_neg Bool.false_ne_true, calls]

end Loop

/-! ### Runs -/

/-- Entries with as many restarts as jobs that asked, and no request before the first handler. -/
structure Settles (entries : List Entry) : Prop where
  equal : restarts entries = askingJobs entries
  unasked : asksRestart (beforeHandler entries) = false

namespace Settles

/-- Entries that settle follow one another. -/
theorem append {earlier later : List Entry} (first : Settles earlier) (second : Settles later) :
    Settles (earlier ++ later) where
  equal := by
    rw [restarts_append, askingJobs_append earlier second.unasked, first.equal, second.equal]
  unasked := (asksRestart_beforeHandler_append earlier second.unasked).trans first.unasked

/-- Entries without handlers, restarts and requests of them. -/
theorem of_idle {entries : List Entry} (handlers : entries.countP Entry.isHandler = 0)
    (none : restarts entries = 0) (unasked : asksRestart entries = false) : Settles entries where
  equal := by rw [none, askingJobs_eq_zero handlers]
  unasked := by rw [beforeHandler_eq_self handlers, unasked]

/-- Entries that call nothing but adapters, and ask for no restart. -/
theorem of_landmarks {entries : List Entry}
    (adapters : ∀ mark ∈ landmarks entries, ∃ slot callback, mark = .adapter slot callback)
    (unasked : asksRestart entries = false) : Settles entries := by
  refine .of_idle ?_ ?_ unasked
  · rw [← handlers_landmarks, List.countP_eq_zero]
    intro mark member
    obtain ⟨slot, callback, rfl⟩ := adapters mark member
    exact Bool.false_ne_true
  · rw [← restarts_landmarks, restarts, List.countP_eq_zero]
    intro mark member
    obtain ⟨slot, callback, rfl⟩ := adapters mark member
    exact Bool.false_ne_true

/-- Requests of tasks. -/
theorem of_requests {entries : List Entry} (requests : ∀ entry ∈ entries, entry.IsRequest) :
    Settles entries := by
  refine .of_landmarks ?_ (asksRestart_eq_false fun entry member => (requests entry member).isTacit)
  rw [landmarks_eq_nil fun entry member => (requests entry member).isUnmarked]
  simp

end Settles

namespace Loop

open Supervisor (handlerCalls)

/-- What a pass adds settles. -/
theorem PassRestarts.settles {loop : Loop σ} {before after : Environment} {report : PassReport}
    {taken : Option Job} {receipt deeds rest : List Entry}
    (pass : loop.PassRestarts before report after taken receipt deeds rest) :
    Settles (receipt ++ deeds ++ rest) := by
  have last := pass.handlers_rest
  have middle : deeds.countP Entry.isHandler = 0 := by
    rw [← handlers_landmarks, pass.quiet]
    rfl
  cases taken with
  | none =>
    have first : receipt.countP Entry.isHandler = 0 := by
      rw [← handlers_landmarks, pass.handler]
      rfl
    have unasked : asksRestart deeds = false := by
      refine asksRestart_eq_false fun entry member => ?_
      cases entry with
      | restartRequested actor =>
        obtain ⟨job, impossible, -⟩ := pass.own actor member
        contradiction
      | _ => trivial
    refine .of_idle ?_ ?_ ?_
    · rw [List.countP_append, List.countP_append, first, middle, last]
    · rw [pass.once, unasked]
      rfl
    · rw [asksRestart_append, asksRestart_append, pass.unasked.1, unasked, pass.unasked.2]
      rfl
  | some job =>
    -- The handler is called in the receipt; all other entries are no calls of handlers.
    obtain ⟨requests, others, split, early, -, late⟩ := List.filter_eq_cons_iff.mp pass.handler
    let call : Entry := .handler job.command.owner job.command.id job.args
    have whole : receipt ++ deeds ++ rest = requests ++ call :: (others ++ deeds ++ rest) := by
      simp only [split, call, List.append_assoc, List.cons_append]
    have none : requests.countP Entry.isHandler = 0 := by
      rw [← handlers_landmarks, landmarks_eq_nil fun entry member =>
        Bool.eq_false_iff.mpr (early entry member)]
      rfl
    have alone : (others ++ deeds ++ rest).countP Entry.isHandler = 0 := by
      rw [List.countP_append, List.countP_append, ← handlers_landmarks others, landmarks, late,
        middle, last]
      rfl
    have unasked : asksRestart requests = false ∧ asksRestart others = false := by
      have receipt := pass.unasked.1
      rw [split, asksRestart_append, Bool.or_eq_false_iff] at receipt
      exact receipt
    have called : asksRestart (beforeHandler (call :: (others ++ deeds ++ rest))) = false := rfl
    constructor
    · rw [pass.once, whole, askingJobs_append requests called, askingJobs_eq_zero none,
        askingJobs_cons rfl alone, asksRestart_append, asksRestart_append, unasked.2,
        pass.unasked.2, Bool.false_or, Bool.or_false, Nat.zero_add]
    · rw [whole, asksRestart_beforeHandler_append requests called, beforeHandler_eq_self none,
        unasked.1]

/-- What is added when nothing is left to do settles. -/
theorem done_settles (loop : Loop σ) :
    (Thread.done loop : Thread Environment (Loop σ)).Writes fun _ entries => Settles entries :=
  .done fun _ requests => .of_requests requests

/-- What a call of the owner adds settles, if nothing is pending before it. -/
theorem call_adds {loop final : Loop σ} {call : Call σ} {before after : Environment}
    (reaches : Thread.Reaches Environment.Outside (loop.call call) before (.done final) after)
    (settled : before.restartPending = false) :
    ∃ entries, after.trace = before.trace ++ entries ∧ Settles entries := by
  cases call with
  | start =>
    obtain ⟨entries, added, -, marks, -⟩ := loop.start_writes.ends reaches
    refine ⟨entries, added, .of_landmarks ?_ ?_⟩
    · rw [marks]
      intro mark member
      obtain ⟨slot, -, rfl⟩ := List.mem_map.mp member
      exact ⟨slot, .init, rfl⟩
    · exact asksRestart_of_reaches (covers_tacit.each_start loop) reaches added
  | shutdown =>
    obtain ⟨entries, added, -, marks⟩ := loop.shutdown_writes.ends reaches
    refine ⟨entries, added, .of_landmarks ?_ ?_⟩
    · rw [marks]
      intro mark member
      obtain ⟨slot, -, rfl⟩ := List.mem_map.mp member
      exact ⟨slot, .shutdown, rfl⟩
    · exact asksRestart_of_reaches (covers_tacit.each_shutdown loop) reaches added
  | remember slot memory =>
    obtain ⟨entries, added, settles⟩ := (done_settles _).ends reaches
    exact ⟨entries, added, settles⟩
  | pass =>
    obtain ⟨⟨report, last⟩, done, passing, returning⟩ := reaches.split
    obtain ⟨taken, receipt, deeds, rest, pass⟩ := pass_restarts passing settled
    obtain ⟨received, ran, -, first, -, second, third⟩ := pass.parts
    obtain ⟨more, added, settles⟩ := (done_settles _).ends returning
    refine ⟨receipt ++ deeds ++ rest ++ more, ?_, pass.settles.append settles⟩
    simp only [added, third, second, first, List.append_assoc]

/-- After calls of the owner in turn a trace settles if it did before. -/
theorem perform_adds {loop final : Loop σ} {calls : List (Call σ)} {before after : Environment}
    (reaches : Thread.Reaches Environment.Outside (loop.perform calls) before (.done final) after)
    (settled : before.restartPending = false) (settles : Settles before.trace) :
    Settles after.trace := by
  induction calls generalizing loop before with
  | nil =>
    obtain ⟨entries, added, settling⟩ := (done_settles loop).ends reaches
    rw [added]
    exact settles.append settling
  | cons call rest ih =>
    obtain ⟨next, middle, first, later⟩ := reaches.split
    obtain ⟨entries, added, settling⟩ := call_adds first settled
    refine ih later (Supervisor.call_settles first settled) ?_
    rw [added]
    exact settles.append settling

end Loop

/-! ### The protocol -/

namespace Builder

/-- How restarts come about in whatever is done with the supervisor of a builder, and whatever
happens beside it. -/
structure RestartProtocol (builder : Builder σ) : Prop where
  /-- A pass carries out the restart that its own job asks for, and no other. -/
  pass : ∀ (calls : List (Call σ)) (loop last : Loop σ) (report : PassReport)
    (before after : Environment),
    Thread.Reaches Environment.Outside (builder.build.loop.perform calls)
      builder.build.environment (.done loop) before →
    Thread.Reaches Environment.Outside loop.pass before (.done (report, last)) after →
    ∃ taken receipt deeds rest, loop.PassRestarts before report after taken receipt deeds rest
  /-- Between two calls no restart is pending, and there were as many as jobs that asked. -/
  total : ∀ (calls : List (Call σ)) (loop : Loop σ) (environment : Environment),
    Thread.Reaches Environment.Outside (builder.build.loop.perform calls)
      builder.build.environment (.done loop) environment →
    environment.restartPending = false ∧
      restarts environment.trace = askingJobs environment.trace
  /-- Which core commands ask, for any argument and whatever fails. -/
  core : ∀ command ∈ Core.commands, ∀ (args : Option String) (actor : Actor),
    ((command.handler args).thread actor).Writes fun _ entries =>
      Core.RestartRule command.id entries

/-- Every builder that can be reached builds a supervisor that keeps to the protocol. -/
theorem Reached.restarts_on_request {builder : Builder σ} (reached : builder.Reached) :
    RestartProtocol builder := by
  have settled : builder.build.environment.restartPending = false :=
    Supervisor.settled_of_reached reached
  have settles : Settles builder.build.environment.trace := .of_requests reached.requests
  refine ⟨?_, ?_, fun command member => Core.restartRule_writes member⟩
  · intro calls loop last report before after reaches passing
    exact Loop.pass_restarts passing (Supervisor.perform_settles reaches settled)
  · intro calls loop environment reaches
    have trace := Loop.perform_adds reaches settled settles
    exact ⟨Supervisor.perform_settles reaches settled, trace.equal⟩

/-- An adapter that counts how often it was shut down. Its command saves a lower threshold, and asks
for a restart if that succeeded. -/
def beacon : Adapter Nat where
  name := "beacon"
  memory := 0
  respond
    | .shutdown, count => return count + 1
    | _, count => return count
  commands := [{
    id := "renew"
    description := "Enter safe mode earlier"
    handler := fun _ => do
      let config ← Program.loadOrDefault
      match ← Program.saveConfig { config with safeModeThreshold := 3 } with
      | .ok () => Program.askRestart
      | .error error => Program.say (.warn error.message) }]

/-- A builder with that adapter. -/
def beaconBuilder : Builder Nat := ((onBoard {} {}).register (some beacon)).2

/-- Two commands that ask for a restart were submitted together, one of the core and one of the
adapter. -/
def beaconAsked : Environment :=
  (beaconBuilder.build.environment.undergo (.submit .producer "restart" none)).undergo
    (.submit .producer "renew" none)

/-- The first pass runs only the first of the two, and shuts the adapter down before it restarts;
after the second pass there were two restarts and two shutdowns. -/
theorem restarts_twice :
    let first := beaconBuilder.build.loop.pass.run beaconAsked
    let after := (beaconBuilder.build.loop.perform [.pass, .pass]).run beaconAsked
    (∃ taken receipt deeds rest, beaconBuilder.build.loop.PassRestarts beaconAsked first.1.1
        first.2 taken receipt deeds rest) ∧
      landmarks first.2.trace = [.handler .core "restart" none,
        .taken (.singleton .commandCompleted),
        .adapter 0 (.event (.singleton .commandCompleted)), .adapter 0 .shutdown, .restart] ∧
      Overseer.restarts after.2.trace = 2 ∧ after.1.roster.adapters.map Adapter.memory = [2] ∧
      after.2.restartPending = false ∧
      Overseer.restarts after.2.trace = askingJobs after.2.trace := by
  have protocol : RestartProtocol beaconBuilder :=
    Reached.restarts_on_request (.register (.new {} {} rfl) (some beacon))
  have submitted (calls : List (Call Nat)) :
      Thread.Reaches Environment.Outside (beaconBuilder.build.loop.perform calls)
        beaconBuilder.build.environment (beaconBuilder.build.loop.perform calls) beaconAsked :=
    .other ⟨.submit .producer "restart" none, rfl⟩
      (.other ⟨.submit .producer "renew" none, rfl⟩ (.here _ _))
  refine ⟨?_, by rfl, by decide, by rfl, ?_⟩
  · exact protocol.pass [] _ _ _ _ _ (submitted []) (Thread.reaches_run _ beaconAsked)
  · exact protocol.total [.pass, .pass] _ _
      ((submitted _).trans (Thread.reaches_run _ beaconAsked))

end Builder

end Overseer
