import Overseer.Proofs.Thread
import Overseer.Supervisor.Environment

/-!
# Operations of programs

What a program does to its environment is a sequence of operations, each of one kind and each one
atomic step. A law of runs is therefore a law of the kinds of operations that the program may use:
`Program.run_keeps` and `Program.run_relates` lift it from one operation to a whole run, and
`Program.each_thread` to a run beside others. The callbacks of adapters have only six of the kinds.
-/
namespace Overseer

/-- The kinds of operations. -/
inductive Verb where
  | log
  | clock
  | inspect
  | elapse
  | notify
  | submit
  | commands
  | requestRestart
  | bootCounter
  | setBootCounter
  | load
  | save
  | override
  | resetConfig
  | driveLed
deriving DecidableEq

/-- Whether the callbacks of adapters have operations of this kind. -/
def Verb.IsCallback : Verb → Prop
  | .log | .clock | .inspect | .elapse | .notify | .submit => True
  | _ => False

/-- What one operation of a party does to the environment. -/
inductive Operation (actor : Actor) : Verb → Environment → Environment → Prop where
  | log (environment : Environment) (line : Line) :
      Operation actor .log environment (environment.say [line])
  | clock (environment : Environment) : Operation actor .clock environment environment
  | inspect (environment : Environment) : Operation actor .inspect environment environment
  | elapse (environment : Environment) (milliseconds : UInt64) :
      Operation actor .elapse environment
        { environment with board := environment.board.elapse milliseconds }
  | notify (environment : Environment) (events : EventSet) :
      Operation actor .notify environment (environment.notify actor events)
  | submit (environment : Environment) (id : String) (args : Option String) :
      Operation actor .submit environment (environment.submit actor id args).2
  | commands (environment : Environment) (ids : List String) :
      Operation actor .commands environment (environment.note (.listed actor ids))
  | requestRestart (environment : Environment) :
      Operation actor .requestRestart environment
        ({ environment with restartPending := true }.note (.restartRequested actor))
  | bootCounter (environment : Environment) :
      Operation actor .bootCounter environment
        { environment with board := environment.board.bootCounter.2 }
  | setBootCounter (environment : Environment) (value : UInt32) :
      Operation actor .setBootCounter environment
        { environment with board := (environment.board.setBootCounter actor value).2 }
  | load (environment : Environment) :
      Operation actor .load environment { environment with board := environment.board.load.2 }
  | save (environment : Environment) (config : Config) :
      Operation actor .save environment
        { environment with board := (environment.board.save actor config).2 }
  | override (environment : Environment) (overrides : Json) :
      Operation actor .override environment
        { environment with board := (environment.board.override actor overrides).2 }
  | resetConfig (environment : Environment) :
      Operation actor .resetConfig environment
        { environment with board := (environment.board.resetConfig actor).2 }
  | driveLed (environment : Environment) (action : LedAction) :
      Operation actor .driveLed environment
        { environment with board := environment.board.driveLed action }

namespace Program

variable {role : Role} {α β : Type}

/-- Every operation that a program may come to, whatever the answers, is of an allowed kind. -/
def Only (allowed : Verb → Prop) : Program role α → Prop
  | .done _ => True
  | .log _ next => allowed .log ∧ next.Only allowed
  | .clock next => allowed .clock ∧ ∀ now, (next now).Only allowed
  | .inspect next => allowed .inspect ∧ ∀ view, (next view).Only allowed
  | .elapse _ next => allowed .elapse ∧ next.Only allowed
  | .notify _ next => allowed .notify ∧ next.Only allowed
  | .submit _ _ next => allowed .submit ∧ ∀ result, (next result).Only allowed
  | .commands _ next => allowed .commands ∧ ∀ listing, (next listing).Only allowed
  | .requestRestart _ next => allowed .requestRestart ∧ next.Only allowed
  | .bootCounter _ next => allowed .bootCounter ∧ ∀ counter, (next counter).Only allowed
  | .setBootCounter _ _ next => allowed .setBootCounter ∧ ∀ result, (next result).Only allowed
  | .load _ next => allowed .load ∧ ∀ loaded, (next loaded).Only allowed
  | .save _ _ next => allowed .save ∧ ∀ result, (next result).Only allowed
  | .override _ _ next => allowed .override ∧ ∀ result, (next result).Only allowed
  | .resetConfig _ next => allowed .resetConfig ∧ ∀ result, (next result).Only allowed
  | .driveLed _ _ next => allowed .driveLed ∧ ∀ isOn, (next isOn).Only allowed

/-- A program that uses only some kinds of operations uses only kinds that include these. -/
theorem Only.imp {allowed wider : Verb → Prop} {program : Program role α}
    (only : program.Only allowed) (includes : ∀ verb, allowed verb → wider verb) :
    program.Only wider := by
  induction program with
  | done value => trivial
  | log line next ih => exact ⟨includes _ only.1, ih only.2⟩
  | clock next ih => exact ⟨includes _ only.1, fun now => ih now (only.2 now)⟩
  | inspect next ih => exact ⟨includes _ only.1, fun view => ih view (only.2 view)⟩
  | elapse milliseconds next ih => exact ⟨includes _ only.1, ih only.2⟩
  | notify events next ih => exact ⟨includes _ only.1, ih only.2⟩
  | submit id args next ih => exact ⟨includes _ only.1, fun result => ih result (only.2 result)⟩
  | commands role next ih => exact ⟨includes _ only.1, fun listing => ih listing (only.2 listing)⟩
  | requestRestart role next ih => exact ⟨includes _ only.1, ih only.2⟩
  | bootCounter role next ih =>
    exact ⟨includes _ only.1, fun counter => ih counter (only.2 counter)⟩
  | setBootCounter role value next ih =>
    exact ⟨includes _ only.1, fun result => ih result (only.2 result)⟩
  | load role next ih => exact ⟨includes _ only.1, fun loaded => ih loaded (only.2 loaded)⟩
  | save role config next ih =>
    exact ⟨includes _ only.1, fun result => ih result (only.2 result)⟩
  | override role overrides next ih =>
    exact ⟨includes _ only.1, fun result => ih result (only.2 result)⟩
  | resetConfig role next ih =>
    exact ⟨includes _ only.1, fun result => ih result (only.2 result)⟩
  | driveLed role action next ih => exact ⟨includes _ only.1, fun isOn => ih isOn (only.2 isOn)⟩

/-- Every program uses some kinds of operations. -/
theorem only_any (program : Program role α) : program.Only fun _ => True := by
  induction program <;> simp_all only [Only, implies_true, and_self]

/-- The program of a callback uses only what callbacks have. -/
theorem only_isCallback (program : Program .callback α) : program.Only Verb.IsCallback := by
  induction program with
  | done value => trivial
  | log line next ih => exact ⟨trivial, ih⟩
  | clock next ih => exact ⟨trivial, ih⟩
  | inspect next ih => exact ⟨trivial, ih⟩
  | elapse milliseconds next ih => exact ⟨trivial, ih⟩
  | notify events next ih => exact ⟨trivial, ih⟩
  | submit id args next ih => exact ⟨trivial, ih⟩
  | commands role => contradiction
  | requestRestart role => contradiction
  | bootCounter role => contradiction
  | setBootCounter role => contradiction
  | load role => contradiction
  | save role => contradiction
  | override role => contradiction
  | resetConfig role => contradiction
  | driveLed role => contradiction

/-- The operations of a program, one step each. -/
def thread (actor : Actor) : Program role α → Thread Environment α
  | .done value => .done value
  | .log line next => .step (·.say [line]) fun _ => next.thread actor
  | .clock next => .step id fun environment => (next environment.board.clock).thread actor
  | .inspect next => .step id fun environment => (next environment.view).thread actor
  | .elapse milliseconds next =>
    .step (fun environment => { environment with board := environment.board.elapse milliseconds })
      fun _ => next.thread actor
  | .notify events next => .step (·.notify actor events) fun _ => next.thread actor
  | .submit id args next =>
    .step (fun environment => (environment.submit actor id args).2)
      fun environment => (next (environment.submit actor id args).1).thread actor
  | .commands _ next =>
    .step (fun environment => environment.note (.listed actor (environment.listing.map Prod.fst)))
      fun environment => (next environment.listing).thread actor
  | .requestRestart _ next =>
    .step (fun environment =>
      { environment with restartPending := true }.note (.restartRequested actor))
      fun _ => next.thread actor
  | .bootCounter _ next =>
    .step (fun environment => { environment with board := environment.board.bootCounter.2 })
      fun environment => (next environment.board.bootCounter.1).thread actor
  | .setBootCounter _ value next =>
    .step (fun environment =>
      { environment with board := (environment.board.setBootCounter actor value).2 })
      fun environment => (next (environment.board.setBootCounter actor value).1).thread actor
  | .load _ next =>
    .step (fun environment => { environment with board := environment.board.load.2 })
      fun environment => (next environment.board.load.1).thread actor
  | .save _ config next =>
    .step (fun environment =>
      { environment with board := (environment.board.save actor config).2 })
      fun environment => (next (environment.board.save actor config).1).thread actor
  | .override _ overrides next =>
    .step (fun environment =>
      { environment with board := (environment.board.override actor overrides).2 })
      fun environment => (next (environment.board.override actor overrides).1).thread actor
  | .resetConfig _ next =>
    .step (fun environment =>
      { environment with board := (environment.board.resetConfig actor).2 })
      fun environment => (next (environment.board.resetConfig actor).1).thread actor
  | .driveLed _ action next =>
    .step (fun environment => { environment with board := environment.board.driveLed action })
      fun environment => (next (environment.board.driveLed action).led.isOn).thread actor

/-- The operations, run alone, are the program. -/
@[simp] theorem run_thread (actor : Actor) (program : Program role α)
    (environment : Environment) :
    (program.thread actor).run environment = program.run actor environment := by
  induction program generalizing environment with
  | done value => rfl
  | log line next ih => exact ih _
  | clock next ih => exact ih _ _
  | inspect next ih => exact ih _ _
  | elapse milliseconds next ih => exact ih _
  | notify events next ih => exact ih _
  | submit id args next ih => exact ih _ _
  | commands role next ih => exact ih _ _
  | requestRestart role next ih => exact ih _
  | bootCounter role next ih => exact ih _ _
  | setBootCounter role value next ih => exact ih _ _
  | load role next ih => exact ih _ _
  | save role config next ih => exact ih _ _
  | override role overrides next ih => exact ih _ _
  | resetConfig role next ih => exact ih _ _
  | driveLed role action next ih => exact ih _ _

variable {allowed : Verb → Prop} {actor : Actor}

/-- What holds across every operation of the kinds that a program uses holds across each of its
steps. -/
theorem each_thread (relation : Environment → Environment → Prop) {program : Program role α}
    (only : program.Only allowed)
    (holds : ∀ verb before after, allowed verb → Operation actor verb before after →
      relation before after) : (program.thread actor).Each relation := by
  induction program with
  | done value => trivial
  | log line next ih => exact fun _ => ⟨holds _ _ _ only.1 (.log _ _), ih only.2⟩
  | clock next ih => exact fun _ => ⟨holds _ _ _ only.1 (.clock _), ih _ (only.2 _)⟩
  | inspect next ih => exact fun _ => ⟨holds _ _ _ only.1 (.inspect _), ih _ (only.2 _)⟩
  | elapse milliseconds next ih => exact fun _ => ⟨holds _ _ _ only.1 (.elapse _ _), ih only.2⟩
  | notify events next ih => exact fun _ => ⟨holds _ _ _ only.1 (.notify _ _), ih only.2⟩
  | submit id args next ih => exact fun _ => ⟨holds _ _ _ only.1 (.submit _ _ _), ih _ (only.2 _)⟩
  | commands role next ih => exact fun _ => ⟨holds _ _ _ only.1 (.commands _ _), ih _ (only.2 _)⟩
  | requestRestart role next ih =>
    exact fun _ => ⟨holds _ _ _ only.1 (.requestRestart _), ih only.2⟩
  | bootCounter role next ih =>
    exact fun _ => ⟨holds _ _ _ only.1 (.bootCounter _), ih _ (only.2 _)⟩
  | setBootCounter role value next ih =>
    exact fun _ => ⟨holds _ _ _ only.1 (.setBootCounter _ _), ih _ (only.2 _)⟩
  | load role next ih => exact fun _ => ⟨holds _ _ _ only.1 (.load _), ih _ (only.2 _)⟩
  | save role config next ih =>
    exact fun _ => ⟨holds _ _ _ only.1 (.save _ _), ih _ (only.2 _)⟩
  | override role overrides next ih =>
    exact fun _ => ⟨holds _ _ _ only.1 (.override _ _), ih _ (only.2 _)⟩
  | resetConfig role next ih =>
    exact fun _ => ⟨holds _ _ _ only.1 (.resetConfig _), ih _ (only.2 _)⟩
  | driveLed role action next ih =>
    exact fun _ => ⟨holds _ _ _ only.1 (.driveLed _ _), ih _ (only.2 _)⟩

/-- A reflexive and transitive relation that holds across every operation of the kinds that a
program uses holds across its run. -/
theorem run_relates (relation : Environment → Environment → Prop) {program : Program role α}
    (only : program.Only allowed) (refl : ∀ environment, relation environment environment)
    (trans : ∀ first second third, relation first second → relation second third →
      relation first third)
    (holds : ∀ verb before after, allowed verb → Operation actor verb before after →
      relation before after) (environment : Environment) :
    relation environment (program.run actor environment).2 := by
  rw [← run_thread]
  exact Thread.run_each refl trans (each_thread relation only holds) environment

/-- What no operation of the kinds that a program uses changes is not changed by its run. -/
theorem run_keeps (observe : Environment → β) {program : Program role α}
    (only : program.Only allowed)
    (kept : ∀ verb before after, allowed verb → Operation actor verb before after →
      observe after = observe before) (environment : Environment) :
    observe (program.run actor environment).2 = observe environment :=
  run_relates (fun before after => observe after = observe before) only
    (fun _ => rfl) (fun _ _ _ first second => second.trans first) kept environment

end Program

end Overseer
