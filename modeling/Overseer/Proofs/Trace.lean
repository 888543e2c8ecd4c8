import Overseer.Proofs.Operation

/-!
# Reading the trace

The trace holds the calls that the supervisor makes and the deeds of the parties it calls. A program
only ever adds deeds of the party that runs it: `Program.acts` says what a run adds, and ties the
events that it leaves pending and the restart that it leaves requested to those deeds.
-/
namespace Overseer

namespace EventSet

theorem union_assoc (first second third : EventSet) :
    first ∪ second ∪ third = first ∪ (second ∪ third) :=
  congrArg EventSet.mk (UInt32.or_assoc _ _ _)

@[simp] theorem union_empty (events : EventSet) : events ∪ ∅ = events :=
  congrArg EventSet.mk UInt32.or_zero

@[simp] theorem empty_union (events : EventSet) : ∅ ∪ events = events :=
  congrArg EventSet.mk UInt32.zero_or

/-- An event is in every set that it was added to. -/
theorem contains_union_singleton (set : EventSet) (event : Event) :
    (set ∪ singleton event).contains event = true := by
  have absorbed : (set.word ||| event.bit) &&& event.bit = event.bit := by
    apply UInt32.toBitVec_inj.mp
    ext i bound
    simp only [UInt32.toBitVec_and, UInt32.toBitVec_or, BitVec.getElem_and, BitVec.getElem_or]
    cases event.bit.toBitVec[i] <;> simp
  have nonzero : event.bit ≠ 0 := by cases event <;> decide
  change ((set.word ||| event.bit) &&& event.bit != 0) = true
  rw [absorbed]
  exact bne_iff_ne.mpr nonzero

end EventSet

/-! ### The environment under its own operations -/

namespace Environment

/-- What happened so far, oldest first. -/
def trace (environment : Environment) : List Entry := environment.board.journal.trace

@[simp] theorem trace_say (environment : Environment) (lines : List Line) :
    (environment.say lines).trace = environment.trace := rfl

@[simp] theorem hub_say (environment : Environment) (lines : List Line) :
    (environment.say lines).hub = environment.hub := rfl

@[simp] theorem restartPending_say (environment : Environment) (lines : List Line) :
    (environment.say lines).restartPending = environment.restartPending := rfl

@[simp] theorem trace_note (environment : Environment) (entry : Entry) :
    (environment.note entry).trace = environment.trace ++ [entry] := rfl

@[simp] theorem hub_note (environment : Environment) (entry : Entry) :
    (environment.note entry).hub = environment.hub := rfl

@[simp] theorem restartPending_note (environment : Environment) (entry : Entry) :
    (environment.note entry).restartPending = environment.restartPending := rfl

@[simp] theorem trace_notify (environment : Environment) (actor : Actor) (events : EventSet) :
    (environment.notify actor events).trace = environment.trace ++ [.raised actor events] := rfl

@[simp] theorem hub_notify (environment : Environment) (actor : Actor) (events : EventSet) :
    (environment.notify actor events).hub = environment.hub.notify events := rfl

@[simp] theorem restartPending_notify (environment : Environment) (actor : Actor)
    (events : EventSet) :
    (environment.notify actor events).restartPending = environment.restartPending := rfl

@[simp] theorem trace_takeEvents (environment : Environment) :
    environment.takeEvents.2.trace =
      environment.trace ++ [.taken environment.hub.events.pending] := rfl

@[simp] theorem restartPending_takeEvents (environment : Environment) :
    environment.takeEvents.2.restartPending = environment.restartPending := rfl

/-- A submission is noted with its result. -/
@[simp] theorem trace_submit (environment : Environment) (actor : Actor) (id : String)
    (args : Option String) :
    (environment.submit actor id args).2.trace = environment.trace ++
      [.submitted actor id args (environment.submit actor id args).1] := rfl

@[simp] theorem hub_submit (environment : Environment) (actor : Actor) (id : String)
    (args : Option String) :
    (environment.submit actor id args).2.hub = (environment.hub.submit id args).value.2 := rfl

@[simp] theorem restartPending_submit (environment : Environment) (actor : Actor) (id : String)
    (args : Option String) :
    (environment.submit actor id args).2.restartPending = environment.restartPending := rfl

end Environment

/-- A submission leaves the events alone. -/
@[simp] theorem Hub.events_submit (hub : Hub) (id : String) (args : Option String) :
    (hub.submit id args).value.2.events = hub.events := by
  unfold Hub.submit
  split
  · rfl
  · split <;> rfl

/-- A submission leaves the tables alone. -/
theorem Hub.tables_submit (hub : Hub) (id : String) (args : Option String) :
    (hub.submit id args).value.2.commands = hub.commands ∧
      (hub.submit id args).value.2.telemetry = hub.telemetry := by
  unfold Hub.submit
  split
  · exact ⟨rfl, rfl⟩
  · split <;> exact ⟨rfl, rfl⟩

/-- Driving the LED adds nothing to the trace. -/
@[simp] theorem Board.trace_driveLed (board : Board) (action : LedAction) :
    (board.driveLed action).journal.trace = board.journal.trace := rfl

/-! ### What entries say -/

namespace Entry

/-- Whether a program of the actor may add the entry. -/
def IsDeedOf (actor : Actor) : Entry → Prop
  | .submitted doer .. | .raised doer _ | .listed doer _ | .counterWritten doer .. | .saved doer _
  | .overridden doer _ | .configReset doer _ | .restartRequested doer => doer = actor
  | _ => False

/-- A deed is not a call by the supervisor. -/
theorem IsDeedOf.not_isCall {actor : Actor} {entry : Entry} (deed : entry.IsDeedOf actor) :
    entry.isCall = false := by
  cases entry <;> first | rfl | exact deed.elim

end Entry

/-- The calls by the supervisor in a trace. -/
def calls (trace : List Entry) : List Entry := trace.filter Entry.isCall

@[simp] theorem calls_append (earlier later : List Entry) :
    calls (earlier ++ later) = calls earlier ++ calls later := List.filter_append _ _

/-- Deeds are no calls. -/
theorem calls_deeds {actor : Actor} {deeds : List Entry}
    (owned : ∀ entry ∈ deeds, entry.IsDeedOf actor) : calls deeds = [] := by
  rw [calls, List.filter_eq_nil_iff]
  intro entry member isCall
  rw [(owned entry member).not_isCall] at isCall
  contradiction

/-- Every event that was raised in a trace. -/
def raised : List Entry → EventSet
  | [] => ∅
  | .raised _ events :: rest => events ∪ raised rest
  | _ :: rest => raised rest

@[simp] theorem raised_append (earlier later : List Entry) :
    raised (earlier ++ later) = raised earlier ∪ raised later := by
  induction earlier with
  | nil => simp [raised]
  | cons entry rest ih => cases entry <;> simp [raised, ih, EventSet.union_assoc]

/-- Whether a restart was asked for in a trace. -/
def asksRestart (trace : List Entry) : Bool :=
  trace.any fun
    | .restartRequested _ => true
    | _ => false

@[simp] theorem asksRestart_append (earlier later : List Entry) :
    asksRestart (earlier ++ later) = (asksRestart earlier || asksRestart later) :=
  List.any_append

/-! ### What a run adds -/

/-- Between two environments a party did the deeds, and nothing else was added to the trace. -/
structure Acts (actor : Actor) (before after : Environment) (deeds : List Entry) : Prop where
  /-- The deeds are what the trace has more. -/
  trace : after.trace = before.trace ++ deeds
  /-- They are the party's own. -/
  owned : ∀ entry ∈ deeds, entry.IsDeedOf actor
  /-- The events that they raised are pending. -/
  pending : after.hub.events.pending = before.hub.events.pending ∪ raised deeds
  /-- The restart that they asked for is. -/
  restart : after.restartPending = (before.restartPending || asksRestart deeds)

namespace Acts

variable {actor : Actor}

/-- Doing nothing. -/
theorem refl (environment : Environment) : Acts actor environment environment [] where
  trace := (List.append_nil _).symm
  owned := by simp
  pending := by simp [raised]
  restart := by simp [asksRestart]

/-- Deeds follow one another. -/
theorem trans {first second third : Environment} {earlier later : List Entry}
    (before : Acts actor first second earlier) (after : Acts actor second third later) :
    Acts actor first third (earlier ++ later) where
  trace := by rw [after.trace, before.trace, List.append_assoc]
  owned := fun entry member => (List.mem_append.mp member).elim (before.owned entry)
    (after.owned entry)
  pending := by rw [after.pending, before.pending, raised_append, EventSet.union_assoc]
  restart := by rw [after.restart, before.restart, asksRestart_append, Bool.or_assoc]

/-- An operation is at most one deed. -/
theorem of_operation {verb : Verb} {before after : Environment}
    (operation : Operation actor verb before after) : ∃ deeds, Acts actor before after deeds := by
  cases operation with
  | log _ line => exact ⟨[], by constructor <;> simp [raised, asksRestart]⟩
  | clock | inspect => exact ⟨[], refl _⟩
  | elapse _ milliseconds =>
    exact ⟨[], by constructor <;> simp [raised, asksRestart, Environment.trace, Board.elapse]⟩
  | notify _ events =>
    exact ⟨[.raised actor events], by
      constructor <;> simp [raised, asksRestart, Entry.IsDeedOf, Hub.notify]⟩
  | submit _ id args =>
    exact ⟨[_], by constructor <;> first | rfl | simp [raised, asksRestart, Entry.IsDeedOf]⟩
  | commands _ ids =>
    exact ⟨[.listed actor ids], by constructor <;> simp [raised, asksRestart, Entry.IsDeedOf]⟩
  | requestRestart =>
    exact ⟨[.restartRequested actor], by
      constructor <;> simp [raised, asksRestart, Entry.IsDeedOf, Environment.trace,
        Environment.note, Board.note]⟩
  | bootCounter | load =>
    exact ⟨[], by
      constructor <;> simp [raised, asksRestart, Environment.trace, Board.bootCounter, Board.load,
        Board.say]⟩
  | setBootCounter _ value =>
    exact ⟨[_], by constructor <;> first | rfl | simp [raised, asksRestart, Entry.IsDeedOf]⟩
  | save _ config =>
    exact ⟨[_], by constructor <;> first | rfl | simp [raised, asksRestart, Entry.IsDeedOf]⟩
  | override _ overrides =>
    exact ⟨[_], by constructor <;> first | rfl | simp [raised, asksRestart, Entry.IsDeedOf]⟩
  | resetConfig =>
    exact ⟨[_], by constructor <;> first | rfl | simp [raised, asksRestart, Entry.IsDeedOf]⟩
  | driveLed _ action =>
    exact ⟨[], by constructor <;> simp [raised, asksRestart, Environment.trace]⟩

end Acts

namespace Program

variable {role : Role} {α : Type}

/-- What running a program for a party adds to the trace. -/
def deeds (actor : Actor) (program : Program role α) (environment : Environment) : List Entry :=
  (program.run actor environment).2.trace.drop environment.trace.length

/-- A run does its deeds, and nothing else. -/
theorem acts (actor : Actor) (program : Program role α) (environment : Environment) :
    Acts actor environment (program.run actor environment).2 (program.deeds actor environment) := by
  obtain ⟨deeds, acts⟩ := run_relates (fun before after => ∃ deeds, Acts actor before after deeds)
    program.only_any (fun environment => ⟨[], .refl environment⟩)
    (fun _ _ _ ⟨_, first⟩ ⟨_, second⟩ => ⟨_, first.trans second⟩)
    (fun _ _ _ _ operation => Acts.of_operation operation) environment
  have same : program.deeds actor environment = deeds := by
    rw [Program.deeds, acts.trace, List.drop_left]
  rw [same]
  exact acts

/-- No program makes a call of the supervisor. -/
@[simp] theorem calls_run (actor : Actor) (program : Program role α) (environment : Environment) :
    calls (program.run actor environment).2.trace = calls environment.trace := by
  have acts := program.acts actor environment
  rw [acts.trace, calls_append, calls_deeds acts.owned, List.append_nil]

end Program

/-! ### What a step notes -/

namespace Environment

/-- A step that added only entries of a kind to the trace. -/
def Notes (kind : Entry → Prop) (before after : Environment) : Prop :=
  ∃ entries, after.trace = before.trace ++ entries ∧ ∀ entry ∈ entries, kind entry

namespace Notes

variable {kind : Entry → Prop} {before after : Environment}

/-- Doing nothing notes nothing. -/
theorem refl (environment : Environment) : Notes kind environment environment :=
  ⟨[], (List.append_nil _).symm, by simp⟩

/-- Entries are noted one after the other. -/
theorem trans (first second third : Environment) (earlier : Notes kind first second)
    (later : Notes kind second third) : Notes kind first third := by
  obtain ⟨entries, trace, only⟩ := earlier
  obtain ⟨more, longer, further⟩ := later
  refine ⟨entries ++ more, ?_, ?_⟩
  · rw [longer, trace, List.append_assoc]
  · intro entry member
    rcases List.mem_append.mp member with early | late
    · exact only entry early
    · exact further entry late

/-- Entries of a kind are of every kind that includes it. -/
theorem imp {wider : Entry → Prop} (notes : Notes kind before after)
    (includes : ∀ entry, kind entry → wider entry) : Notes wider before after := by
  obtain ⟨entries, trace, only⟩ := notes
  exact ⟨entries, trace, fun entry member => includes entry (only entry member)⟩

/-- A step that adds nothing to the trace. -/
theorem of_silence (trace : after.trace = before.trace) : Notes kind before after :=
  ⟨[], by rw [trace, List.append_nil], by simp⟩

/-- A step that adds one entry. -/
theorem of_note {entry : Entry} (trace : after.trace = before.trace ++ [entry])
    (own : kind entry) : Notes kind before after := by
  refine ⟨[entry], trace, ?_⟩
  intro other member
  rw [List.mem_singleton.mp member]
  exact own

/-- An operation adds at most a deed of its party. -/
theorem of_operation {actor : Actor} {verb : Verb} (operation : Operation actor verb before after) :
    Notes (Entry.IsDeedOf actor) before after := by
  obtain ⟨deeds, acts⟩ := Acts.of_operation operation
  exact ⟨deeds, acts.trace, acts.owned⟩

end Notes

end Environment

end Overseer
