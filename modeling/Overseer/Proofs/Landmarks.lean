import Overseer.Proofs.Pass

/-!
# Landmarks

The landmarks of a trace are the calls that the loop makes and its takings of the events. No one
else makes one, so whatever happens beside the loop, they are exactly those of its own steps, in the
order of these. One lemma for each part of a boot says which they are: `Loop.start_writes` for the
start, `Loop.pass_writes` for a pass, `Loop.shutdown_writes` for the shutdown.
-/
namespace Overseer

variable {σ : Type}

/-! ### Entries -/

namespace Entry

/-- Whether the entry is a taking of the raised events. -/
def isTaking : Entry → Bool
  | .taken _ => true
  | _ => false

/-- Whether the entry is a call of the loop or a taking of the events. -/
def isLandmark (entry : Entry) : Bool := entry.isCall || entry.isTaking

/-- Whether the entry is neither. -/
def IsUnmarked (entry : Entry) : Prop := entry.isLandmark = false

/-- Requests are no landmarks. -/
theorem IsRequest.isUnmarked {entry : Entry} (request : entry.IsRequest) : entry.IsUnmarked := by
  cases entry <;> first | rfl | exact request.elim

/-- What the detector notes is no landmark. -/
theorem IsDetection.isUnmarked {entry : Entry} (detection : entry.IsDetection) :
    entry.IsUnmarked := by
  cases entry <;> first | rfl | exact detection.elim

/-- Deeds of a program are no landmarks. -/
theorem IsDeedOf.isUnmarked {actor : Actor} {entry : Entry} (deed : entry.IsDeedOf actor) :
    entry.IsUnmarked := by
  cases entry <;> first | rfl | exact deed.elim

end Entry

/-- The calls and the takings in a trace. -/
def landmarks (trace : List Entry) : List Entry := trace.filter Entry.isLandmark

@[simp] theorem landmarks_append (earlier later : List Entry) :
    landmarks (earlier ++ later) = landmarks earlier ++ landmarks later := List.filter_append _ _

/-- Entries that are no landmarks. -/
theorem landmarks_eq_nil {entries : List Entry}
    (unmarked : ∀ entry ∈ entries, entry.IsUnmarked) : landmarks entries = [] := by
  rw [landmarks, List.filter_eq_nil_iff]
  intro entry member
  rw [unmarked entry member]
  exact Bool.false_ne_true

/-- What is read from landmarks only is read from the landmarks of a trace. -/
theorem filterMap_landmarks {α : Type} {read : Entry → Option α}
    (unread : ∀ entry : Entry, entry.IsUnmarked → read entry = none) (trace : List Entry) :
    (landmarks trace).filterMap read = trace.filterMap read := by
  rw [landmarks, List.filterMap_filter]
  congr 1
  funext entry
  cases marked : entry.isLandmark with
  | false => exact (unread entry marked).symm
  | true => rfl

/-! ### Threads without landmarks -/

namespace Thread.Writes

variable {α : Type} {holds : α → Prop}

/-- A thread that notes no landmark adds none. -/
theorem unmarked {thread : Thread Environment α}
    (each : thread.Each (Environment.Notes Entry.IsUnmarked)) (ends : thread.Ends holds) :
    thread.Writes fun value entries => holds value ∧ landmarks entries = [] := by
  have writes := of_each (fun _ request => request.isUnmarked) each ends
  exact writes.imp fun _ _ outcome => ⟨outcome.1, landmarks_eq_nil outcome.2⟩

/-- Where nothing is left to do, no landmark is added. -/
theorem ended {value : α} {outcome : α → List Entry → Prop}
    (holds : ∀ requests, landmarks requests = [] → outcome value requests) :
    (Thread.done value : Thread Environment α).Writes outcome :=
  done fun requests asked =>
    holds requests (landmarks_eq_nil fun entry member => (asked entry member).isUnmarked)

/-- A step adds its entries to others, none of which is a landmark. -/
theorem stepped {outcome : α → List Entry → Prop} {change : Environment → Environment}
    {rest : Environment → Thread Environment α}
    (holds : ∀ (found : Environment) (requests : List Entry), landmarks requests = [] →
      ∃ made, (change found).trace = found.trace ++ made ∧
        (rest found).Writes fun value more => outcome value (requests ++ made ++ more)) :
    (Thread.step change rest).Writes outcome :=
  step fun found requests asked =>
    holds found requests (landmarks_eq_nil fun entry member => (asked entry member).isUnmarked)

/-- A look adds no landmark. -/
theorem look_unmarked (value : Environment → α) :
    (Thread.look value).Writes fun _ entries => landmarks entries = [] :=
  (unmarked (Thread.each_look .refl value) (Thread.ends_any _)).imp fun _ _ outcome => outcome.2

/-- A change that notes something adds that. -/
theorem change {change : Environment → Environment} (made : List Entry)
    (trace : ∀ environment, (change environment).trace = environment.trace ++ made) :
    (Thread.change change).Writes fun _ entries =>
      landmarks entries = landmarks made ∧ ∀ entry ∈ made, entry ∈ entries := by
  refine stepped fun found requests before => ⟨made, trace found, ended fun later after => ?_⟩
  constructor
  · rw [landmarks_append, landmarks_append, before, after, List.append_nil, List.nil_append]
  · intro entry member
    exact List.mem_append_left _ (List.mem_append_right _ member)

/-- A change that notes nothing adds no landmark. -/
theorem silence {change : Environment → Environment}
    (trace : ∀ environment, (change environment).trace = environment.trace) :
    (Thread.change change).Writes fun _ entries => landmarks entries = [] := by
  have writes := Writes.change [] fun environment =>
    (trace environment).trans (List.append_nil _).symm
  exact writes.imp fun _ _ outcome => outcome.1

/-- A program makes no landmark. -/
theorem program {role : Role} (actor : Actor) (program : Program role α) :
    (program.thread actor).Writes fun _ entries => landmarks entries = [] := by
  have each : (program.thread actor).Each (Environment.Notes Entry.IsUnmarked) :=
    Program.each_thread _ program.only_any fun _ _ _ _ operation =>
      (Environment.Notes.of_operation operation).imp fun _ deed => deed.isUnmarked
  exact (unmarked each (Thread.ends_any _)).imp fun _ _ outcome => outcome.2

end Thread.Writes

/-! ### Rounds -/

/-- A call of an adapter. -/
theorem Adapter.thread_writes (adapter : Adapter σ) (slot : Nat) (callback : Callback) :
    (adapter.thread slot callback).Writes fun _ entries =>
      landmarks entries = [.adapter slot callback] := by
  have noted := Thread.Writes.change [.adapter slot callback] fun environment =>
    environment.trace_note (.adapter slot callback)
  refine noted.bind fun _ call called => ?_
  refine (Thread.Writes.program _ _).bind fun memory response silent => ?_
  refine Thread.Writes.ended fun more none => ?_
  rw [landmarks_append, landmarks_append, called.1, silent, none]
  rfl

namespace Roster

/-- Visits in turn make the landmarks of each, in order. -/
theorem threadFrom_writes {visit : Nat → Adapter σ → Thread Environment (Adapter σ)}
    {made : Nat → Adapter σ → List Entry}
    (single : ∀ slot adapter, (visit slot adapter).Writes fun _ entries =>
      landmarks entries = made slot adapter) (slot : Nat) (adapters : List (Adapter σ)) :
    (threadFrom visit slot adapters).Writes fun _ entries =>
      landmarks entries = (adapters.zipIdx slot).flatMap fun (adapter, slot) =>
        made slot adapter := by
  induction adapters generalizing slot with
  | nil => exact Thread.Writes.ended fun _ none => none
  | cons adapter rest ih =>
    refine (single slot adapter).bind fun visited first here => ?_
    refine (ih (slot + 1)).bind fun others later there => ?_
    refine Thread.Writes.ended fun more none => ?_
    rw [landmarks_append, landmarks_append, here, there, none, List.append_nil,
      List.zipIdx_cons, List.flatMap_cons]

/-- Visits to every adapter make the landmarks of each, and leave as many adapters. -/
theorem threadAll_writes {visit : Nat → Adapter σ → Thread Environment (Adapter σ)}
    {made : Nat → Adapter σ → List Entry}
    (single : ∀ slot adapter, (visit slot adapter).Writes fun _ entries =>
      landmarks entries = made slot adapter) (roster : Roster σ) :
    (roster.threadAll visit).Writes fun visited entries => visited.size = roster.size ∧
      landmarks entries = roster.adapters.zipIdx.flatMap fun (adapter, slot) =>
        made slot adapter := by
  refine (threadFrom_writes single 0 roster.adapters).bind fun visited entries marked => ?_
  refine Thread.Writes.ended fun more none => ⟨visited.property, ?_⟩
  rw [landmarks_append, marked, none, List.append_nil]

/-- The same call of each is a round. -/
theorem flatMap_zipIdx (callback : Callback) (slot : Nat) (adapters : List (Adapter σ)) :
    ((adapters.zipIdx slot).flatMap fun (_, slot) => [Entry.adapter slot callback]) =
      round callback slot adapters.length := by
  induction adapters generalizing slot with
  | nil => rfl
  | cons adapter rest ih =>
    rw [List.zipIdx_cons, List.flatMap_cons, ih]
    rfl

/-- A call of every adapter is a round. -/
theorem callThread_writes (roster : Roster σ) (callback : Callback) :
    (roster.callThread callback).Writes fun called entries => called.size = roster.size ∧
      landmarks entries = round callback 0 roster.size := by
  have calls := roster.threadAll_writes fun slot adapter => adapter.thread_writes slot callback
  refine calls.imp fun _ _ outcome => ⟨outcome.1, ?_⟩
  rw [outcome.2]
  exact flatMap_zipIdx callback 0 roster.adapters

/-- The places of the adapters that a boot initialises: of all, or in safe mode of those that opted
in. -/
def eligible (safe : Bool) (roster : Roster σ) : List Nat :=
  (roster.adapters.zipIdx.filter fun (adapter, _) => !safe || adapter.runsInSafeMode).map Prod.snd

end Roster

/-! ### The start and the stop -/

namespace Loop

/-- The parts of a loop that nothing after the start changes: how many adapters it has, and its
mode. -/
structure Alike (before after : Loop σ) : Prop where
  size : after.roster.size = before.roster.size
  active : after.detector.active = before.detector.active

theorem Alike.refl (loop : Loop σ) : loop.Alike loop := ⟨rfl, rfl⟩

theorem Alike.trans {first second third : Loop σ} (earlier : first.Alike second)
    (later : second.Alike third) : first.Alike third :=
  ⟨later.size.trans earlier.size, later.active.trans earlier.active⟩

/-- An adapter is initialised unless it is kept out. -/
theorem initAdapter_writes (safe : Bool) (slot : Nat) (adapter : Adapter σ) :
    (initAdapter safe slot adapter).Writes fun _ entries => landmarks entries =
      if !safe || adapter.runsInSafeMode then [.adapter slot .init] else [] := by
  have said (line : Line) := Thread.Writes.silence fun environment =>
    environment.trace_say [line]
  have kept : (safe && !adapter.runsInSafeMode) = !(!safe || adapter.runsInSafeMode) := by
    cases safe <;> simp
  unfold initAdapter
  rw [kept]
  cases runs : (!safe || adapter.runsInSafeMode) with
  | true =>
    refine (said _).bind fun _ line silent => ?_
    refine (adapter.thread_writes slot .init).imp fun _ more marked => ?_
    rw [landmarks_append, silent, marked]
    rfl
  | false =>
    refine (said _).bind fun _ line silent => ?_
    refine Thread.Writes.ended fun more none => ?_
    rw [landmarks_append, silent, none]
    rfl

/-- The initialisations of adapters are those of the eligible ones. -/
theorem flatMap_initAdapter (safe : Bool) (roster : Roster σ) :
    (roster.adapters.zipIdx.flatMap fun (adapter, slot) =>
      if !safe || adapter.runsInSafeMode then [Entry.adapter slot .init] else []) =
      (roster.eligible safe).map fun slot => .adapter slot .init := by
  unfold Roster.eligible
  rw [List.map_map]
  induction roster.adapters.zipIdx with
  | nil => rfl
  | cons place rest ih =>
    obtain ⟨adapter, slot⟩ := place
    rw [List.flatMap_cons, ih, List.filter_cons]
    cases runs : (!safe || adapter.runsInSafeMode) with
    | true => simp [runs]
    | false => simp [runs]

/-- The start initialises the eligible adapters in order, and raises the event of it. -/
theorem start_writes (loop : Loop σ) :
    loop.start.Writes fun started entries => started.roster.size = loop.roster.size ∧
      landmarks entries =
        (loop.roster.eligible started.detector.active).map (fun slot => .adapter slot .init) ∧
      .raised .core (.singleton .platformInitialized) ∈ entries := by
  refine Thread.Writes.stepped fun found requests early => ?_
  obtain ⟨decision, trace, detections⟩ := loop.notes_boot found
  refine ⟨decision, trace, ?_⟩
  let detector := (loop.supervisor found).evaluateBoot.detector
  have decided := landmarks_eq_nil fun entry member => (detections entry member).isUnmarked
  have visits := loop.roster.threadAll_writes (initAdapter_writes detector.active)
  refine visits.bind fun roster inits initialised => ?_
  refine (Thread.Writes.look_unmarked _).bind fun now look looked => ?_
  have raising := Thread.Writes.change
    [.raised .core (.singleton .platformInitialized)] fun environment =>
      environment.trace_notify .core (.singleton .platformInitialized)
  refine raising.bind fun _ raise raised => ?_
  refine (Thread.Writes.silence fun environment => environment.trace_say _).bind
    fun _ line said => ?_
  refine Thread.Writes.ended fun rest none => ⟨initialised.1, ?_, ?_⟩
  · have event : landmarks [.raised .core (.singleton .platformInitialized)] = [] := rfl
    simp only [landmarks_append, early, decided, initialised.2, looked, raised.1, event, said,
      none, List.append_nil, List.nil_append]
    exact flatMap_initAdapter detector.active loop.roster
  · have member := raised.2 _ (List.mem_singleton.mpr rfl)
    simp only [List.mem_append, member, true_or, or_true]

/-- The shutdown is a round. -/
theorem shutdown_writes (loop : Loop σ) :
    loop.shutdown.Writes fun last entries => loop.Alike last ∧
      landmarks entries = Roster.round .shutdown 0 loop.roster.size := by
  have single (slot : Nat) (adapter : Adapter σ) :
      (shutdownAdapter slot adapter).Writes fun _ entries =>
        landmarks entries = [.adapter slot .shutdown] := by
    refine (Thread.Writes.silence fun environment => environment.trace_say _).bind
      fun _ line said => ?_
    refine (adapter.thread_writes slot .shutdown).imp fun _ more marked => ?_
    rw [landmarks_append, said, marked]
    rfl
  refine (loop.roster.threadAll_writes single).bind fun roster entries visited => ?_
  refine Thread.Writes.ended fun more none => ⟨⟨visited.1, rfl⟩, ?_⟩
  rw [landmarks_append, visited.2, none, List.append_nil]
  exact Roster.flatMap_zipIdx .shutdown 0 loop.roster.adapters

end Loop

/-! ### A pass -/

namespace Loop

open Supervisor (handlerCalls eventCalls stageCalls restartCalls)

/-- What the calls of a handler are. -/
theorem mem_handlerCalls {taken : Option Job} {entry : Entry}
    (member : entry ∈ handlerCalls taken) : ∃ owner id args, entry = .handler owner id args := by
  obtain ⟨job, _, rfl⟩ := List.mem_map.mp member
  exact ⟨_, _, _, rfl⟩

/-- What the calls of a delivery are. -/
theorem mem_eventCalls {events : EventSet} {count : Nat} {entry : Entry}
    (member : entry ∈ eventCalls events count) : ∃ slot, entry = .adapter slot (.event events) := by
  unfold eventCalls at member
  split at member
  · contradiction
  · obtain ⟨slot, _, rfl⟩ := List.mem_map.mp member
    exact ⟨slot, rfl⟩

/-- What the calls of stages are: hooks, and outside safe mode intervals. -/
theorem mem_stageCalls {safe : Bool} {count : Nat} {stages : List Stage} {entry : Entry}
    (member : entry ∈ stages.flatMap (stageCalls safe count)) :
    ∃ stage, entry = .hook stage ∨
      safe = false ∧ ∃ slot, entry = .adapter slot (.interval stage) := by
  obtain ⟨stage, _, among⟩ := List.mem_flatMap.mp member
  refine ⟨stage, ?_⟩
  rcases List.mem_cons.mp among with hook | round
  · exact .inl hook
  · cases safe with
    | true => contradiction
    | false =>
      obtain ⟨slot, _, rfl⟩ := List.mem_map.mp round
      exact .inr ⟨rfl, slot, rfl⟩

/-- What the calls of a restart are. -/
theorem mem_restartCalls {restart : Bool} {count : Nat} {entry : Entry}
    (member : entry ∈ restartCalls restart count) :
    entry = .restart ∨ ∃ slot, entry = .adapter slot .shutdown := by
  unfold restartCalls at member
  split at member
  · rcases List.mem_append.mp member with round | last
    · obtain ⟨slot, _, rfl⟩ := List.mem_map.mp round
      exact .inr ⟨slot, rfl⟩
    · exact .inl (List.mem_singleton.mp last)
  · contradiction

/-- A look at the queue calls the handler of the job that it takes. -/
theorem take_writes : take.Writes fun taken entries => landmarks entries = handlerCalls taken := by
  refine Thread.Writes.stepped fun found requests early => ?_
  cases waiting : found.hub.queue with
  | nil =>
    rw [Environment.takeJob_of_nil waiting]
    refine ⟨[], (List.append_nil _).symm, Thread.Writes.ended fun more none => ?_⟩
    rw [landmarks_append, landmarks_append, early, none]
    rfl
  | cons job rest =>
    have taken := Environment.takeJob_taken waiting
    rw [taken.answer]
    refine ⟨_, taken.trace, Thread.Writes.ended fun more none => ?_⟩
    rw [landmarks_append, landmarks_append, early, none]
    rfl

/-- Receiving calls the handler of the job that it takes. -/
theorem receive_writes (wait : UInt32) :
    (receive wait).Writes fun taken entries => landmarks entries = handlerCalls taken := by
  refine take_writes.bind fun taken first looked => ?_
  cases taken with
  | some job =>
    refine Thread.Writes.ended fun more none => ?_
    rw [landmarks_append, looked, none, List.append_nil]
  | none =>
    have nothing : handlerCalls none = [] := rfl
    dsimp only
    split
    · refine Thread.Writes.ended fun more none => ?_
      rw [landmarks_append, looked, none, List.append_nil]
    · refine take_writes.imp fun taken more again => ?_
      rw [landmarks_append, looked, again, nothing, List.nil_append]

/-- Running a job that was taken makes no landmark; in the end its completion is raised. -/
theorem runTaken_writes (taken : Option Job) :
    (runTaken taken).Writes fun _ entries => landmarks entries = [] ∧
      (taken.isSome = true → .raised .core (.singleton .commandCompleted) ∈ entries) := by
  cases taken with
  | none =>
    exact Thread.Writes.ended fun _ none => ⟨none, fun some => absurd some Bool.false_ne_true⟩
  | some job =>
    refine (Thread.Writes.program _ _).bind fun _ deeds silent => ?_
    have raising := Thread.Writes.change
      [.raised .core (.singleton .commandCompleted)] fun environment =>
        environment.trace_notify .core (.singleton .commandCompleted)
    refine raising.imp fun _ raise raised => ⟨?_, fun _ => ?_⟩
    · rw [landmarks_append, silent, raised.1]
      rfl
    · exact List.mem_append_right _ (raised.2 _ (List.mem_singleton.mpr rfl))

/-- What the delivery of events adds to the trace: one taking, and the calls that the taken events
are delivered by. -/
structure Delivers (loop : Loop σ) (result : EventSet × Loop σ) (entries : List Entry) : Prop where
  alike : loop.Alike result.2
  added : ∃ earlier later, entries = earlier ++ .taken result.1 :: later ∧
    landmarks earlier = [] ∧ landmarks later = eventCalls result.1 loop.roster.size

/-- The delivery of events does that. -/
theorem deliverEvents_writes (loop : Loop σ) : loop.deliverEvents.Writes loop.Delivers := by
  refine Thread.Writes.stepped fun found requests early => ⟨_, found.trace_takeEvents, ?_⟩
  have events : found.takeEvents.1 = found.hub.events.pending := rfl
  rw [events]
  dsimp only
  have arrange (later : List Entry) :
      requests ++ [.taken found.hub.events.pending] ++ later =
        requests ++ .taken found.hub.events.pending :: later := by
    rw [List.append_assoc, List.singleton_append]
  cases empty : found.hub.events.pending.isEmpty with
  | true =>
    refine Thread.Writes.ended fun more none => ⟨.refl loop, requests, more, arrange _, early, ?_⟩
    rw [none, eventCalls, if_pos empty]
  | false =>
    refine (loop.roster.callThread_writes _).bind fun roster calls called => ?_
    refine Thread.Writes.ended fun more none =>
      ⟨⟨called.1, rfl⟩, requests, calls ++ more, arrange _, early, ?_⟩
    have nonempty : ¬found.hub.events.pending.isEmpty = true := Bool.eq_false_iff.mp empty
    rw [landmarks_append, called.2, none, List.append_nil, eventCalls, if_neg nonempty]

/-- The service of a stage calls the hook and, outside safe mode, every adapter. -/
theorem serveStage_writes (uptime : UInt64) (safe : Bool) (loop : Loop σ) (stage : Stage) :
    (loop.serveStage uptime safe stage).Writes fun last entries => loop.Alike last ∧
      landmarks entries = stageCalls safe loop.roster.size stage := by
  refine Thread.Writes.stepped fun found requests early => ?_
  have worked := loop.detector.onInterval_worked stage uptime (found.note (.hook stage)).board
  obtain ⟨entries, trace, detections⟩ := found.trace_hooked loop.detector stage uptime
  have hook : landmarks (.hook stage :: entries) = [.hook stage] := by
    have silent := landmarks_eq_nil fun entry member => (detections entry member).isUnmarked
    exact congrArg (Entry.hook stage :: ·) silent
  refine ⟨_, trace, ?_⟩
  cases safe with
  | true =>
    refine Thread.Writes.ended fun more none => ⟨⟨rfl, worked.active⟩, ?_⟩
    rw [landmarks_append, landmarks_append, early, hook, none]
    rfl
  | false =>
    refine (loop.roster.callThread_writes _).bind fun roster calls called => ?_
    refine Thread.Writes.ended fun more none => ⟨⟨called.1, worked.active⟩, ?_⟩
    simp only [landmarks_append, early, hook, called.2, none, List.append_nil, List.nil_append]
    rfl

/-- The service of stages in turn makes the calls of each. -/
theorem serveEach_writes (uptime : UInt64) (safe : Bool) (stages : List Stage) (loop : Loop σ) :
    (serveEach uptime safe stages loop).Writes fun last entries => loop.Alike last ∧
      landmarks entries = stages.flatMap (stageCalls safe loop.roster.size) := by
  induction stages generalizing loop with
  | nil => exact Thread.Writes.ended fun _ none => ⟨.refl loop, none⟩
  | cons stage rest ih =>
    refine (serveStage_writes uptime safe loop stage).bind fun middle entries served => ?_
    refine (ih middle).imp fun last more others => ⟨served.1.trans others.1, ?_⟩
    rw [landmarks_append, served.2, others.2, served.1.size, List.flatMap_cons]

/-- The service of the due stages makes the calls of those that it reports. -/
theorem serveStages_writes (loop : Loop σ) :
    loop.serveStages.Writes fun result entries => loop.Alike result.2 ∧
      landmarks entries =
        result.1.flatMap (stageCalls loop.detector.active loop.roster.size) := by
  refine (Thread.Writes.look_unmarked _).bind fun now look looked => ?_
  refine (serveEach_writes _ _ _ _).bind fun last entries served => ?_
  refine Thread.Writes.ended fun more none => ⟨⟨served.1.size, served.1.active⟩, ?_⟩
  simp only [landmarks_append, looked, served.2, none, List.append_nil, List.nil_append]

/-- The last phase makes the calls of a restart, if it reports one. -/
theorem serveRestart_writes (loop : Loop σ) :
    loop.serveRestart.Writes fun result entries => loop.Alike result.2 ∧
      landmarks entries = restartCalls result.1 loop.roster.size := by
  refine Thread.Writes.stepped fun found requests early => ⟨[], (List.append_nil _).symm, ?_⟩
  split
  · refine loop.shutdown_writes.bind fun last entries shut => ?_
    refine (Thread.Writes.silence fun environment => environment.trace_say _).bind
      fun _ line said => ?_
    have restarting := Thread.Writes.change [.restart] fun environment =>
      show ({ environment with board := environment.board.restart } : Environment).trace =
        environment.trace ++ [.restart] from rfl
    refine restarting.bind fun _ restart restarted => ?_
    refine Thread.Writes.ended fun more none => ⟨shut.1, ?_⟩
    simp only [landmarks_append, early, shut.2, said, restarted.1, none, List.append_nil,
      List.nil_append]
    rfl
  · refine Thread.Writes.ended fun more none => ⟨.refl loop, ?_⟩
    rw [landmarks_append, landmarks_append, early, none]
    rfl

/-- What a pass adds to the trace. The handler of the job that was taken is called, and its
completion raised; then the events are taken and delivered; then come the calls of the stages and
those of a restart. -/
structure PassAdds (loop : Loop σ) (result : PassReport × Loop σ) (entries : List Entry) :
    Prop where
  alike : loop.Alike result.2
  added : ∃ taken earlier later, result.1.command = taken.map (·.command.id) ∧
    entries = earlier ++ .taken result.1.events :: later ∧
    landmarks earlier = handlerCalls taken ∧
    (taken.isSome = true → .raised .core (.singleton .commandCompleted) ∈ earlier) ∧
    landmarks later = eventCalls result.1.events loop.roster.size ++
      result.1.stages.flatMap (stageCalls loop.detector.active loop.roster.size) ++
      restartCalls result.1.restarted loop.roster.size

/-- The landmarks of a pass, in order. -/
theorem PassAdds.landmarks {loop : Loop σ} {result : PassReport × Loop σ} {entries : List Entry}
    (adds : loop.PassAdds result entries) : ∃ taken, Overseer.landmarks entries =
      handlerCalls taken ++ .taken result.1.events ::
        (eventCalls result.1.events loop.roster.size ++
          result.1.stages.flatMap (stageCalls loop.detector.active loop.roster.size) ++
          restartCalls result.1.restarted loop.roster.size) := by
  obtain ⟨taken, earlier, later, _, split, first, _, rest⟩ := adds.added
  refine ⟨taken, ?_⟩
  have taking : Overseer.landmarks (.taken result.1.events :: later) =
      .taken result.1.events :: Overseer.landmarks later := rfl
  rw [split, landmarks_append, taking, first, rest]

/-- What is read only from deliveries and from the service of stages is read from those of a pass.
-/
theorem PassAdds.filterMap {α : Type} {read : Entry → Option α} {loop : Loop σ}
    {result : PassReport × Loop σ} {entries : List Entry} (adds : loop.PassAdds result entries)
    (unmarked : ∀ entry : Entry, entry.IsUnmarked → read entry = none)
    (handler : ∀ owner id args, read (.handler owner id args) = none)
    (taken : ∀ events, read (.taken events) = none)
    (shutdown : ∀ slot, read (.adapter slot .shutdown) = none) (restart : read .restart = none) :
    entries.filterMap read =
      (eventCalls result.1.events loop.roster.size).filterMap read ++
        (result.1.stages.flatMap (stageCalls loop.detector.active loop.roster.size)).filterMap
          read := by
  obtain ⟨job, marks⟩ := adds.landmarks
  have handlers : (handlerCalls job).filterMap read = [] := by
    apply List.filterMap_eq_nil_iff.mpr
    intro entry member
    obtain ⟨owner, id, args, rfl⟩ := mem_handlerCalls member
    exact handler owner id args
  have restarts : (restartCalls result.1.restarted loop.roster.size).filterMap read = [] := by
    apply List.filterMap_eq_nil_iff.mpr
    intro entry member
    rcases mem_restartCalls member with rfl | ⟨slot, rfl⟩
    · exact restart
    · exact shutdown slot
  rw [← filterMap_landmarks unmarked, marks, List.filterMap_append, handlers, List.nil_append,
    List.filterMap_cons_none (taken _), List.filterMap_append, List.filterMap_append, restarts,
    List.append_nil]

/-- The landmarks that a pass may make, given whether it is one in safe mode. -/
inductive IsOfPass (safe : Bool) : Entry → Prop
  | handler (owner : Actor) (id : String) (args : Option String) :
      IsOfPass safe (.handler owner id args)
  | taken (events : EventSet) : IsOfPass safe (.taken events)
  | event (slot : Nat) (events : EventSet) : IsOfPass safe (.adapter slot (.event events))
  | hook (stage : Stage) : IsOfPass safe (.hook stage)
  | interval (normal : safe = false) (slot : Nat) (stage : Stage) :
      IsOfPass safe (.adapter slot (.interval stage))
  | shutdown (slot : Nat) : IsOfPass safe (.adapter slot .shutdown)
  | restart : IsOfPass safe .restart

/-- A pass makes no others. -/
theorem PassAdds.isOfPass {loop : Loop σ} {result : PassReport × Loop σ} {entries : List Entry}
    (adds : loop.PassAdds result entries) :
    ∀ mark ∈ Overseer.landmarks entries, IsOfPass loop.detector.active mark := by
  intro mark member
  obtain ⟨taken, marks⟩ := adds.landmarks
  rw [marks] at member
  rcases List.mem_append.mp member with handler | later
  · obtain ⟨owner, id, args, rfl⟩ := mem_handlerCalls handler
    exact .handler owner id args
  · rcases List.mem_cons.mp later with rfl | others
    · exact .taken _
    · rcases List.mem_append.mp others with calls | restart
      · rcases List.mem_append.mp calls with events | stages
        · obtain ⟨slot, rfl⟩ := mem_eventCalls events
          exact .event slot _
        · obtain ⟨stage, rfl | ⟨normal, slot, rfl⟩⟩ := mem_stageCalls stages
          · exact .hook stage
          · exact .interval normal slot stage
      · rcases mem_restartCalls restart with rfl | ⟨slot, rfl⟩
        · exact .restart
        · exact .shutdown slot

/-- When the job was run, the events are taken and delivered; then come the calls of the stages and
those of a restart. -/
theorem finish_writes (loop : Loop σ) (taken : Option Job) :
    (loop.finish taken).Writes fun result entries => loop.Alike result.2 ∧
      result.1.command = taken.map (·.command.id) ∧
      ∃ earlier later, entries = earlier ++ .taken result.1.events :: later ∧
        Overseer.landmarks earlier = [] ∧
        Overseer.landmarks later = eventCalls result.1.events loop.roster.size ++
          result.1.stages.flatMap (stageCalls loop.detector.active loop.roster.size) ++
          restartCalls result.1.restarted loop.roster.size := by
  refine loop.deliverEvents_writes.bind fun delivered delivery delivers => ?_
  obtain ⟨before, after, split, quiet, calls⟩ := delivers.added
  refine delivered.2.serveStages_writes.bind fun served service serves => ?_
  refine served.2.serveRestart_writes.bind fun restarted restart restarts => ?_
  have alike := (delivers.alike.trans serves.1).trans restarts.1
  refine Thread.Writes.ended fun more none => ⟨alike, rfl, before,
    after ++ (service ++ (restart ++ more)), ?_, quiet, ?_⟩
  · rw [split]
    simp only [List.append_assoc, List.cons_append]
  · have kept := delivers.alike.trans serves.1
    rw [landmarks_append, landmarks_append, landmarks_append, calls, serves.2, restarts.2, none,
      List.append_nil, delivers.alike.active, delivers.alike.size, kept.size, List.append_assoc]

/-- A pass does that. -/
theorem pass_writes (loop : Loop σ) : loop.pass.Writes loop.PassAdds := by
  refine (receive_writes loop.config.commandWait).bind fun taken receipt received => ?_
  refine (runTaken_writes taken).bind fun _ work ran => ?_
  refine (loop.finish_writes taken).imp fun result rest finished => ?_
  obtain ⟨alike, command, before, after, split, quiet, calls⟩ := finished
  refine ⟨alike, taken, receipt ++ work ++ before, after, command, ?_, ?_, ?_, calls⟩
  · rw [split]
    simp only [List.append_assoc]
  · rw [landmarks_append, landmarks_append, received, ran.1, quiet, List.append_nil,
      List.append_nil]
  · intro some
    exact List.mem_append_left _ (List.mem_append_right _ (ran.2 some))

/-! ### The stages of a pass -/

/-- The delivery of events leaves the scheduler alone. -/
theorem deliverEvents_scheduler (loop : Loop σ) :
    loop.deliverEvents.Ends fun result => result.2.scheduler = loop.scheduler := by
  intro environment
  dsimp only
  split
  · rfl
  · exact (Thread.ends_any _).bind fun roster _ => rfl

/-- The service of the stages that are due at a reading reports them. -/
theorem serveDue_reports (loop : Loop σ) (now : UInt64) :
    Thread.Ends (fun result : List Stage × Loop σ => result.1 = loop.scheduler.due now) (do
      let (stages, scheduler) := loop.scheduler.fire now
      let last ← serveEach (now / 1000) loop.detector.active stages { loop with scheduler }
      return (stages, last)) :=
  (Thread.ends_any _).bind fun _ _ => rfl

/-- Between the steps of a pass there is a moment at which the stages that it reports are those that
are due. -/
theorem due_of_pass {loop last : Loop σ} {report : PassReport} {before after : Environment}
    (passing : Thread.Reaches Environment.Outside loop.pass before (.done (report, last)) after) :
    ∃ left reading, Thread.Reaches Environment.Outside loop.pass before left reading ∧
      Thread.Reaches Environment.Outside left reading (.done (report, last)) after ∧
      report.stages = loop.scheduler.due reading.board.clock := by
  obtain ⟨taken, received, _, toReceived, rest⟩ := passing.between
  obtain ⟨_, ran, _, toRan, rest⟩ := rest.between
  obtain ⟨delivered, atStages, delivering, toStages, serving⟩ := rest.between
  obtain ⟨reading, waiting, served⟩ := serving.at_step
  refine ⟨_, reading, toReceived.trans (toRan.trans (toStages.trans waiting)), .own served, ?_⟩
  have armed : delivered.2.scheduler = loop.scheduler :=
    loop.deliverEvents_scheduler.holds delivering
  rw [← armed]
  refine @Thread.Ends.holds _ _ _ (fun result : PassReport × Loop σ =>
    result.1.stages = delivered.2.scheduler.due reading.board.clock) _ _ _ _ ?_ served
  refine (serveDue_reports delivered.2 reading.board.clock).bind fun service same => ?_
  exact (Thread.ends_any _).bind fun _ _ => same

end Loop

end Overseer
