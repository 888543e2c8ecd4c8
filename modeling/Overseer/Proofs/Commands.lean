import Overseer.Proofs.Dispatch
import Overseer.Proofs.Registration

/-!
# Which commands there are

The commands of a supervisor are the core commands and those that its adapters offer. What holds of
all of these holds of every command in the table and in the queue, at every moment (`Knows`), since
nothing adds to the table once it is fixed.
-/
namespace Overseer

variable {σ : Type}

/-! ### Tables -/

namespace Registry

variable {α : Type} [Registrable α] {capacity : Nat}

/-- An entry that is registered after others was there before, or is one of them. -/
theorem mem_registerAll {registry : Registry α capacity} {offered : List α} {entry : α}
    (member : entry ∈ (registry.registerAll offered).value.2.entries) :
    entry ∈ registry.entries ∨ entry ∈ offered := by
  induction offered generalizing registry with
  | nil => exact .inl member
  | cons first rest ih =>
    rcases ih member with earlier | later
    · rw [register_value, entries_offer] at earlier
      split at earlier
      · rcases List.mem_append.mp earlier with old | new
        · exact .inl old
        · exact .inr (List.mem_cons.mpr (.inl (List.mem_singleton.mp new)))
      · exact .inl earlier
    · exact .inr (List.mem_cons_of_mem _ later)

end Registry

namespace Builder

/-- An adapter of a builder after a registration was there before, or is the one that was
registered. -/
theorem mem_register {builder : Builder σ} {offered : Option (Adapter σ)} {adapter : Adapter σ}
    (member : adapter ∈ (builder.register offered).2.roster.adapters) :
    adapter ∈ builder.roster.adapters ∨ offered = some adapter := by
  rcases builder.register_cases offered with alike | ⟨taken, rfl, takes⟩
  · rw [alike.roster] at member
    exact .inl member
  · rw [takes.roster] at member
    rcases List.mem_append.mp member with earlier | new
    · exact .inl earlier
    · exact .inr (congrArg some (List.mem_singleton.mp new).symm)

/-- A command of a builder after a registration was there before, or is one of the adapter that was
registered. -/
theorem mem_commands_register {builder : Builder σ} {offered : Option (Adapter σ)}
    {command : Command} (member : command ∈ (builder.register offered).2.commands.entries) :
    command ∈ builder.commands.entries ∨ ∃ adapter, offered = some adapter ∧
      ∃ own ∈ adapter.commands, command = { own with owner := .adapter builder.roster.size } := by
  rcases builder.register_cases offered with alike | ⟨taken, rfl, takes⟩
  · rw [alike.commands] at member
    exact .inl member
  · rw [takes.commands] at member
    rcases Registry.mem_registerAll member with earlier | new
    · exact .inl earlier
    · obtain ⟨own, owned, same⟩ := List.mem_map.mp new
      exact .inr ⟨taken, rfl, own, owned, same.symm⟩

/-- What holds of the core commands, and of every command of an adapter in whatever place, holds of
every command of a builder that adapters were registered with. -/
theorem forall_commands {holds : Command → Prop} {builder : Builder σ}
    {adapters : List (Option (Adapter σ))}
    (before : ∀ command ∈ builder.commands.entries, holds command)
    (offered : ∀ adapter, some adapter ∈ adapters → ∀ command ∈ adapter.commands, ∀ slot,
      holds { command with owner := .adapter slot }) :
    ∀ command ∈ (adapters.foldl (fun builder adapter => (builder.register adapter).2)
      builder).commands.entries, holds command := by
  induction adapters generalizing builder with
  | nil => exact before
  | cons first rest ih =>
    refine ih (fun command member => ?_)
      fun adapter later => offered adapter (List.mem_cons_of_mem _ later)
    rcases mem_commands_register member with earlier | ⟨adapter, rfl, own, owned, rfl⟩
    · exact before command earlier
    · exact offered adapter List.mem_cons_self own owned _

end Builder

/-! ### The core commands -/

/-- Whether the core commands have operations of this kind. -/
def Verb.IsCore : Verb → Prop
  | .log | .commands | .requestRestart | .override | .resetConfig | .driveLed => True
  | _ => False

/-- Log lines use nothing but the log. -/
theorem Program.only_sayAll {role : Role} {allowed : Verb → Prop} (log : allowed .log)
    (lines : List Line) : (Program.sayAll lines : Program role Unit).Only allowed := by
  induction lines with
  | nil => trivial
  | cons line rest ih => exact ⟨log, ih⟩

/-- Whether the core commands that neither restart nor reset have operations of this kind. -/
def Verb.IsMild : Verb → Prop
  | .log | .commands | .override | .driveLed => True
  | _ => False

/-- What is mild is core. -/
theorem Verb.IsMild.isCore {verb : Verb} (mild : verb.IsMild) : verb.IsCore := by
  cases verb <;> trivial

namespace Core

/-- Listing the commands is mild. -/
theorem only_help : help.Only Verb.IsMild :=
  ⟨trivial, fun _ => ⟨trivial, Program.only_sayAll trivial _⟩⟩

/-- Overriding the configuration is mild. -/
theorem only_setconf (args : Option String) : (setconf args).Only Verb.IsMild := by
  unfold setconf
  split
  · exact ⟨trivial, trivial⟩
  · split
    · exact ⟨trivial, trivial⟩
    · refine ⟨trivial, fun result => ?_⟩
      cases result with
      | ok done => exact ⟨trivial, trivial⟩
      | error error => exact ⟨trivial, trivial⟩
    · exact ⟨trivial, trivial⟩

/-- Driving the LED is mild. -/
theorem only_onboardLed (args : Option String) : (onboardLed args).Only Verb.IsMild := by
  unfold onboardLed
  split
  · exact ⟨trivial, trivial⟩
  · exact ⟨trivial, fun isOn => ⟨trivial, trivial⟩⟩

/-- The core commands have six kinds of operations. -/
theorem only_isCore : ∀ command ∈ commands, ∀ args,
    (command.handler args).Only Verb.IsCore := by
  intro command member args
  simp only [commands, List.mem_cons, List.not_mem_nil, or_false] at member
  rcases member with rfl | rfl | rfl | rfl | rfl
  · exact ⟨trivial, trivial, trivial⟩
  · exact only_help.imp fun _ mild => mild.isCore
  · exact (only_setconf args).imp fun _ mild => mild.isCore
  · refine ⟨trivial, fun result => ?_⟩
    cases result with
    | ok done => exact ⟨trivial, trivial, trivial⟩
    | error error => exact ⟨trivial, trivial⟩
  · exact (only_onboardLed args).imp fun _ mild => mild.isCore

end Core

/-! ### Commands at a moment -/

/-- What holds of every command that can be submitted, and of every one that waits. -/
structure Knows (holds : Command → Prop) (environment : Environment) : Prop where
  listed : ∀ id command, environment.hub.find? id = some command → holds command
  waiting : ∀ job ∈ environment.hub.queue, holds job.command

namespace Knows

variable {holds : Command → Prop} {before after environment : Environment}

/-- The same tables list the same commands. -/
theorem listed_of_commands (knows : Knows holds before)
    (same : after.hub.commands = before.hub.commands) :
    ∀ id command, after.hub.find? id = some command → holds command := by
  intro id command found
  rw [Hub.find?, same] at found
  exact knows.listed id command found

/-- Steps that at most submit add no commands that are not known. -/
theorem submits (knows : Knows holds before) (step : Submits before after) :
    Knows holds after := by
  rcases step with quiet | ⟨actor, id, args, rfl⟩
  · exact ⟨knows.listed_of_commands quiet.commands, quiet.queue ▸ knows.waiting⟩
  · refine ⟨knows.listed_of_commands (before.hub.tables_submit id args).1, ?_⟩
    cases answer : (before.submit actor id args).1 with
    | error error =>
      obtain ⟨lines, same⟩ := Environment.submit_refused answer
      rw [same]
      exact knows.waiting
    | ok done =>
      obtain ⟨command, found, queue⟩ := Environment.submit_accepted answer
      rw [queue]
      intro job member
      rcases List.mem_append.mp member with earlier | last
      · exact knows.waiting job earlier
      · rw [List.mem_singleton.mp last]
        exact knows.listed id command found

/-- Taking a job adds no command. -/
theorem takeJob (knows : Knows holds environment) : Knows holds environment.takeJob.2 := by
  cases waiting : environment.hub.queue with
  | nil =>
    rw [Environment.takeJob_of_nil waiting]
    exact knows
  | cons job rest =>
    have taken := Environment.takeJob_taken waiting
    refine ⟨knows.listed_of_commands taken.commands, fun other member => ?_⟩
    rw [taken.queue] at member
    exact knows.waiting other (by rw [waiting]; exact List.mem_cons_of_mem _ member)

/-- Every step keeps what is known of commands. -/
theorem serial : Serial fun before after => Knows holds before → Knows holds after where
  submits _ _ step knows := knows.submits step
  takes _ knows := knows.takeJob

/-- What holds of every command of a builder is known when it is built. -/
theorem build {builder : Builder σ} (reached : builder.Reached)
    (all : ∀ command ∈ builder.commands.entries, holds command) :
    Knows holds builder.build.environment := by
  refine ⟨fun id command found => all command (Registry.mem_of_find? found), fun job member => ?_⟩
  have none : job ∈ ([] : List Job) := reached.queue ▸ member
  contradiction

/-- A call of the owner, run alone, keeps what is known of commands. -/
theorem call (knows : Knows holds environment) (loop : Loop σ) (call : Call σ) :
    Knows holds ((loop.call call).run environment).2 :=
  Thread.run_each (fun _ knows => knows) (fun _ _ _ first second knows => second (first knows))
    (serial.each_call loop call) environment knows

/-- The start keeps what is known of commands. -/
theorem start {supervisor : Supervisor σ} (knows : Knows holds supervisor.environment) :
    Knows holds supervisor.start.environment := by
  have kept := knows.call supervisor.loop .start
  rw [Loop.call, Loop.run_start] at kept
  exact kept

/-- A pass keeps what is known of commands. -/
theorem pass {supervisor : Supervisor σ} (knows : Knows holds supervisor.environment) :
    Knows holds supervisor.pass.2.environment := by
  have alone := supervisor.loop.run_pass supervisor.environment
  have kept := Thread.run_each (fun _ knows => knows)
    (fun _ _ _ first second knows => second (first knows))
    (serial.each_pass supervisor.loop) supervisor.environment knows
  rw [Supervisor.supervisor_loop] at alone
  rw [alone]
  exact kept

end Knows

end Overseer
