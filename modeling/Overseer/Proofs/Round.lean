import Overseer.Proofs.Interleaving

/-!
# Rounds of callbacks

The supervisor calls its adapters in rounds. A round calls every adapter once, in the order of
registration (`Roster.calls_callAll`), and whatever the callbacks do, it cannot get at the stored
data, the firmware or the restart (`Undisturbed`). A relation that spans a single call spans every
round (`Spans`).
-/
namespace Overseer

/-- A relation that holds across everything that happens in a round. -/
structure Spans (relation : Environment → Environment → Prop) : Prop extends Admits relation where
  refl : ∀ environment, relation environment environment
  trans : ∀ first second third, relation first second → relation second third →
    relation first third

namespace Spans

variable {σ : Type} {relation : Environment → Environment → Prop}

/-- Across a round of calls. -/
theorem across_callAll (spans : Spans relation) (roster : Roster σ) (callback : Callback)
    (environment : Environment) : relation environment (roster.callAll callback environment).2 := by
  rw [← Roster.run_callThread]
  exact Thread.run_each spans.refl spans.trans (spans.each_callThread roster callback) environment

/-- Across the initialisation of the adapters that may run. -/
theorem across_initAdapters (spans : Spans relation) (supervisor : Supervisor σ) :
    relation supervisor.environment supervisor.initAdapters.environment := by
  have alone := supervisor.roster.run_threadAll
    (Loop.run_initAdapter supervisor.detector.active) supervisor.environment
  have each := Admits.each_threadAll
    (spans.each_initAdapter supervisor.detector.active) supervisor.roster
  have across := Thread.run_each spans.refl spans.trans each supervisor.environment
  rw [alone] at across
  exact across

/-- Across the shutdown of every adapter. -/
theorem across_shutdown (spans : Spans relation) (supervisor : Supervisor σ) :
    relation supervisor.environment supervisor.shutdown.environment := by
  have across := Thread.run_each spans.refl spans.trans (spans.each_shutdown supervisor.loop)
    supervisor.environment
  rw [Loop.run_shutdown] at across
  exact across

end Spans

/-! ### What callbacks cannot get at -/

/-- The parts of the environment that are out of the reach of callbacks are as before. -/
structure Undisturbed (before after : Environment) : Prop where
  store : after.board.store = before.board.store
  firmware : after.board.firmware = before.board.firmware
  restarts : after.board.restarts = before.board.restarts
  restartPending : after.restartPending = before.restartPending
  commands : after.hub.commands = before.hub.commands
  telemetry : after.hub.telemetry = before.hub.telemetry

/-- Callbacks leave those parts alone. -/
theorem spans_undisturbed : Spans Undisturbed where
  refl _ := ⟨rfl, rfl, rfl, rfl, rfl, rfl⟩
  trans _ _ _ first second := by
    constructor
    · exact second.store.trans first.store
    · exact second.firmware.trans first.firmware
    · exact second.restarts.trans first.restarts
    · exact second.restartPending.trans first.restartPending
    · exact second.commands.trans first.commands
    · exact second.telemetry.trans first.telemetry
  say _ _ := ⟨rfl, rfl, rfl, rfl, rfl, rfl⟩
  call _ _ _ := ⟨rfl, rfl, rfl, rfl, rfl, rfl⟩
  operation _ _ before _ isCallback operation := by
    cases operation with
    | log | clock | inspect | elapse | notify => exact ⟨rfl, rfl, rfl, rfl, rfl, rfl⟩
    | submit _ id args =>
      have tables := before.hub.tables_submit id args
      exact ⟨rfl, rfl, rfl, rfl, tables.1, tables.2⟩
    | _ => exact isCallback.elim

/-! ### The calls of a round -/

namespace Roster

variable {σ : Type}

/-- The calls of one round over a number of adapters, the first of them in the given place. -/
def round (callback : Callback) (slot count : Nat) : List Entry :=
  (List.range' slot count).map fun slot => .adapter slot callback

/-- Calling an adapter is one call. -/
theorem calls_call (adapter : Adapter σ) (slot : Nat) (callback : Callback)
    (environment : Environment) :
    calls (adapter.call slot callback environment).2.trace =
      calls environment.trace ++ [.adapter slot callback] := by
  have run := Program.calls_run (.adapter slot) (adapter.respond callback adapter.memory)
    (environment.note (.adapter slot callback))
  rw [Environment.trace_note, calls_append] at run
  exact run

/-- Visits that make one call each make a round. -/
theorem calls_visitFrom {visit : Nat → Adapter σ → Environment → Adapter σ × Environment}
    {callback : Callback}
    (single : ∀ slot adapter environment, calls (visit slot adapter environment).2.trace =
      calls environment.trace ++ [.adapter slot callback])
    (slot : Nat) (adapters : List (Adapter σ)) (environment : Environment) :
    calls (visitFrom visit slot adapters environment).2.trace =
      calls environment.trace ++ round callback slot adapters.length := by
  induction adapters generalizing slot environment with
  | nil => exact (List.append_nil _).symm
  | cons adapter rest ih =>
    have later := ih (slot + 1) (visit slot adapter environment).2
    rw [single, List.append_assoc] at later
    exact later

/-- Calling every adapter is a round. -/
theorem calls_callAll (roster : Roster σ) (callback : Callback) (environment : Environment) :
    calls (roster.callAll callback environment).2.trace =
      calls environment.trace ++ round callback 0 roster.size :=
  calls_visitFrom (fun slot adapter => calls_call adapter slot callback) 0 _ _

/-- A round leaves as many adapters as there were. -/
@[simp] theorem size_callAll (roster : Roster σ) (callback : Callback)
    (environment : Environment) : (roster.callAll callback environment).1.size = roster.size :=
  length_visitFrom _ _ _ _

end Roster

end Overseer
