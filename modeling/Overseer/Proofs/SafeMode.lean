import Overseer.Proofs.Events

/-!
# Adapters in safe mode

The mode of a boot is decided when the platform starts, and nothing after that changes it. It
decides which adapters are initialised, and whether stages are served to adapters at all; events are
delivered in either mode. `Ran` says what any calls after the start add to the trace, and
`Builder.Boots.gates` what an adapter sees at any moment of a boot.
-/
namespace Overseer

variable {σ : Type}

/-! ### What adapters see -/

/-- The place of the adapter that an entry initialises. -/
def Entry.initialised? : Entry → Option Nat
  | .adapter slot .init => some slot
  | _ => none

/-- The places of the adapters that were initialised, in order. -/
def initialised (trace : List Entry) : List Nat := trace.filterMap Entry.initialised?

@[simp] theorem initialised_append (earlier later : List Entry) :
    initialised (earlier ++ later) = initialised earlier ++ initialised later :=
  List.filterMap_append

/-- Initialisations are read from the landmarks. -/
theorem initialised_landmarks (trace : List Entry) :
    (landmarks trace).filterMap Entry.initialised? = initialised trace := by
  refine filterMap_landmarks (fun entry unmarked => ?_) trace
  cases entry <;> first | rfl | contradiction

/-- Takings are read from the landmarks. -/
theorem takings_landmarks (trace : List Entry) :
    (landmarks trace).filterMap Entry.taken? = takings trace := by
  refine filterMap_landmarks (fun entry unmarked => ?_) trace
  cases entry <;> first | rfl | contradiction

namespace Roster

/-- An adapter is eligible if the boot is not in safe mode or the adapter opted in. -/
theorem mem_eligible (safe : Bool) (roster : Roster σ) (slot : Nat) :
    slot ∈ roster.eligible safe ↔ ∃ adapter, roster.adapters[slot]? = some adapter ∧
      (safe = true → adapter.runsInSafeMode = true) := by
  have runs (adapter : Adapter σ) : (!safe || adapter.runsInSafeMode) = true ↔
      (safe = true → adapter.runsInSafeMode = true) := by
    cases safe <;> simp
  unfold eligible
  constructor
  · intro member
    obtain ⟨⟨adapter, place⟩, found, rfl⟩ := List.mem_map.mp member
    obtain ⟨listed, opted⟩ := List.mem_filter.mp found
    exact ⟨adapter, List.mem_zipIdx_iff_getElem?.mp listed, (runs adapter).mp opted⟩
  · rintro ⟨adapter, listed, opted⟩
    refine List.mem_map.mpr ⟨(adapter, slot), List.mem_filter.mpr ⟨?_, ?_⟩, rfl⟩
    · exact List.mem_zipIdx_iff_getElem?.mpr listed
    · exact (runs adapter).mpr opted

/-- Eligible adapters are in the order of registration. -/
theorem pairwise_eligible (safe : Bool) (roster : Roster σ) :
    (roster.eligible safe).Pairwise (· < ·) := by
  have places : (roster.adapters.zipIdx.map Prod.snd).Pairwise (· < ·) := by
    rw [List.zipIdx_map_snd]
    exact List.pairwise_lt_range'
  exact List.Pairwise.sublist (List.filter_sublist.map Prod.snd) places

end Roster

/-! ### After the start -/

namespace Loop

/-- What calls after the start add to the trace: the landmarks of passes; and every adapter hears
each word that was taken, unless it is empty. -/
structure Ran (loop last : Loop σ) (calls : List (Call σ)) (entries : List Entry) : Prop where
  alike : loop.Alike last
  marks : ∀ mark ∈ landmarks entries, IsOfPass loop.detector.active mark
  heard : ∀ slot, slot < loop.roster.size →
    Overseer.heard slot entries = (takings entries).flatMap delivery
  taken : .pass ∈ calls → takings entries ≠ []

/-- Calls that make no pass: their landmarks are shutdowns, if there are any. -/
theorem Ran.idle {loop last : Loop σ} {calls : List (Call σ)} {entries marks : List Entry}
    (alike : loop.Alike last) (same : landmarks entries = marks)
    (shutdowns : ∀ mark ∈ marks, ∃ slot, mark = .adapter slot .shutdown)
    (none : .pass ∉ calls) : loop.Ran last calls entries := by
  have words : takings entries = [] := by
    rw [← takings_landmarks, same]
    apply List.filterMap_eq_nil_iff.mpr
    intro mark member
    obtain ⟨_, rfl⟩ := shutdowns mark member
    rfl
  refine ⟨alike, ?_, ?_, ?_⟩
  · intro mark member
    rw [same] at member
    obtain ⟨slot, rfl⟩ := shutdowns mark member
    exact .shutdown slot
  · intro slot _
    rw [words, ← heard_landmarks, same]
    apply List.filterMap_eq_nil_iff.mpr
    intro mark member
    obtain ⟨_, rfl⟩ := shutdowns mark member
    rfl
  · intro passes
    exact absurd passes none

/-- What one call adds, before what the others add. -/
theorem Ran.cons {first middle last : Loop σ} {call : Call σ} {rest : List (Call σ)}
    {entries more : List Entry} (single : first.Ran middle [call] entries)
    (others : middle.Ran last rest more) : first.Ran last (call :: rest) (entries ++ more) where
  alike := single.alike.trans others.alike
  marks mark member := by
    rw [landmarks_append] at member
    rcases List.mem_append.mp member with early | late
    · exact single.marks mark early
    · rw [← single.alike.active]
      exact others.marks mark late
  heard slot present := by
    have still : slot < middle.roster.size := by rw [single.alike.size]; exact present
    rw [heard_append, takings_append, List.flatMap_append, single.heard slot present,
      others.heard slot still]
  taken passes := by
    rw [takings_append]
    intro none
    obtain ⟨early, late⟩ := List.append_eq_nil_iff.mp none
    rcases List.mem_cons.mp passes with now | later
    · exact single.taken (List.mem_singleton.mpr now) early
    · exact others.taken later late

/-- A pass. -/
theorem PassAdds.ran {loop : Loop σ} {result : PassReport × Loop σ} {entries : List Entry}
    (adds : loop.PassAdds result entries) : loop.Ran result.2 [.pass] entries := by
  obtain ⟨waited, later, split, before, after, _⟩ := adds.untaken
  have words : takings entries = [result.1.events] := by
    rw [split, takings_append, before.takings, List.nil_append]
    exact congrArg (result.1.events :: ·) after.takings
  refine ⟨adds.alike, adds.isOfPass, ?_, ?_⟩
  · intro slot present
    rw [adds.heard present, words, List.flatMap_singleton]
  · intro _
    rw [words]
    exact List.cons_ne_nil _ _

/-- A call other than the start. -/
theorem call_ran (loop : Loop σ) {call : Call σ} (after : call ≠ .start) :
    (loop.call call).Writes fun last entries => loop.Ran last [call] entries := by
  cases call with
  | start => contradiction
  | pass =>
    refine loop.pass_writes.bind fun result entries adds => ?_
    refine Thread.Writes.ended fun more none => ?_
    exact adds.ran.cons (.idle (.refl _) none (by simp) (by simp))
  | shutdown =>
    refine loop.shutdown_writes.imp fun last entries shut => ?_
    refine .idle shut.1 shut.2 (fun mark member => ?_) (by simp)
    obtain ⟨slot, _, rfl⟩ := List.mem_map.mp member
    exact ⟨slot, rfl⟩
  | remember slot memory =>
    refine Thread.Writes.ended fun more none => ?_
    exact .idle ⟨List.length_modify _ _ _, rfl⟩ none (by simp) (by simp)

/-- Calls after the start. -/
theorem perform_ran (calls : List (Call σ)) (after : .start ∉ calls) (loop : Loop σ) :
    (loop.perform calls).Writes fun last entries => loop.Ran last calls entries := by
  induction calls generalizing loop with
  | nil =>
    exact Thread.Writes.ended fun entries none => .idle (.refl loop) none (by simp) (by simp)
  | cons call rest ih =>
    rw [List.mem_cons, not_or] at after
    refine (loop.call_ran (Ne.symm after.1)).bind fun middle entries single => ?_
    exact (ih after.2 middle).imp fun last more others => single.cons others

end Loop

/-! ### A boot -/

/-- A boot up to a moment of the calls that follow the start: what is left to do of them, and the
environment. -/
structure Builder.Boots (builder : Builder σ) (started : Loop σ) (ready : Environment)
    (calls : List (Call σ)) (left : Thread Environment (Loop σ)) (moment : Environment) :
    Prop where
  reached : builder.Reached
  starts : Thread.Reaches Environment.Outside builder.build.loop.start builder.build.environment
    (.done started) ready
  once : .start ∉ calls
  runs : Thread.Reaches Environment.Outside (started.perform calls) ready left moment

namespace Builder.Boots

variable {builder : Builder σ} {started : Loop σ} {ready moment : Environment}
  {calls : List (Call σ)} {left : Thread Environment (Loop σ)}

/-- The start and the calls after it are calls in turn. -/
theorem reaches (boots : builder.Boots started ready calls left moment) :
    Thread.Reaches Environment.Outside (builder.build.loop.perform (.start :: calls))
      builder.build.environment left moment :=
  (boots.starts.before fun loop => loop.perform calls).trans boots.runs

/-- What is in the trace of a boot at a moment: what was there when the start had ended, and what
was added since. -/
structure Adds (builder : Builder σ) (started : Loop σ) (calls : List (Call σ))
    (left : Thread Environment (Loop σ)) (moment : Environment) (early added : List Entry) :
    Prop where
  trace : moment.trace = early ++ added
  inits : landmarks early =
    (builder.roster.eligible started.detector.active).map fun slot => .adapter slot .init
  event : .raised .core (.singleton .platformInitialized) ∈ early
  size : started.roster.size = builder.roster.size
  sofar : ∃ rest last, started.Ran last calls (added ++ rest)
  ended : ∀ now, left = .done now → started.Ran now calls added

/-- Up to the end of the start the eligible adapters are initialised; then come calls. -/
theorem adds (boots : builder.Boots started ready calls left moment) :
    ∃ early added, Adds builder started calls left moment early added := by
  obtain ⟨start, began, size, inits, event⟩ := builder.build.loop.start_writes.ends boots.starts
  have runs := Loop.perform_ran calls boots.once started
  have grows := Pervades.grows.each_perform started calls
  obtain ⟨added, rest, last, trace, ran⟩ := runs.sofar grows boots.runs
  have before : landmarks builder.build.environment.trace = [] :=
    landmarks_eq_nil fun entry member => (boots.reached.requests entry member).isUnmarked
  refine ⟨builder.build.environment.trace ++ start, added, ?_, ?_, ?_, size, ⟨rest, last, ran⟩, ?_⟩
  · rw [trace, began]
  · rw [landmarks_append, before, inits]
    rfl
  · exact List.mem_append_right _ event
  · rintro now rfl
    obtain ⟨whole, total, done⟩ := runs.ends boots.runs
    rw [trace] at total
    rw [List.append_cancel_left total]
    exact done

namespace Adds

variable {early added : List Entry}

/-- All landmarks since the start are those of passes. -/
theorem isOfPass (adds : Adds builder started calls left moment early added) :
    ∀ mark ∈ landmarks added, Loop.IsOfPass started.detector.active mark := by
  obtain ⟨rest, last, ran⟩ := adds.sofar
  intro mark member
  apply ran.marks mark
  rw [landmarks_append]
  exact List.mem_append_left _ member

/-- The adapters that were initialised are the eligible ones. -/
theorem initialised (adds : Adds builder started calls left moment early added) :
    Overseer.initialised moment.trace = builder.roster.eligible started.detector.active := by
  have later : (landmarks added).filterMap Entry.initialised? = [] := by
    apply List.filterMap_eq_nil_iff.mpr
    intro mark member
    cases adds.isOfPass mark member <;> rfl
  have first (slots : List Nat) : (slots.map fun slot => Entry.adapter slot .init).filterMap
      Entry.initialised? = slots := by
    rw [List.filterMap_map]
    exact List.filterMap_some
  rw [adds.trace, initialised_append, ← initialised_landmarks, ← initialised_landmarks, later,
    adds.inits, first, List.append_nil]

/-- In safe mode no adapter is served a stage. -/
theorem not_interval (adds : Adds builder started calls left moment early added)
    (safe : started.detector.active = true) (slot : Nat) (stage : Stage) :
    .adapter slot (.interval stage) ∉ moment.trace := by
  intro served
  rw [adds.trace] at served
  rcases List.mem_append.mp served with first | later
  · have mark : .adapter slot (.interval stage) ∈ landmarks early :=
      List.mem_filter.mpr ⟨first, rfl⟩
    rw [adds.inits] at mark
    obtain ⟨_, _, same⟩ := List.mem_map.mp mark
    cases same
  · have mark : .adapter slot (.interval stage) ∈ landmarks added :=
      List.mem_filter.mpr ⟨later, rfl⟩
    cases adds.isOfPass _ mark with
    | interval normal =>
      rw [safe] at normal
      contradiction

/-- Nothing was taken or delivered when the start had ended. -/
theorem quiet (adds : Adds builder started calls left moment early added) :
    Untaken early ∧ ∀ slot, heard slot early = [] := by
  constructor
  · apply untaken_of_landmarks
    intro mark member
    rw [adds.inits] at member
    obtain ⟨_, _, rfl⟩ := List.mem_map.mp member
    rfl
  · intro slot
    rw [← heard_landmarks, adds.inits]
    apply List.filterMap_eq_nil_iff.mpr
    intro mark member
    obtain ⟨_, _, rfl⟩ := List.mem_map.mp member
    rfl

/-- All words were taken since the start. -/
theorem takings (adds : Adds builder started calls left moment early added) :
    Overseer.takings moment.trace = Overseer.takings added := by
  rw [adds.trace, takings_append, adds.quiet.1.takings, List.nil_append]

end Adds

/-- The first word that is taken has the event of the start. -/
theorem first_taken (boots : builder.Boots started ready calls left moment) (word : EventSet)
    (head : (takings moment.trace).head? = some word) :
    word.contains .platformInitialized = true := by
  obtain ⟨early, added, adds⟩ := boots.adds
  rw [adds.takings] at head
  obtain ⟨rest, taken⟩ := List.head?_eq_some_iff.mp head
  obtain ⟨front, entry, back, split, none, taking, _⟩ := List.filterMap_eq_cons_iff.mp taken
  obtain rfl : entry = .taken word := by
    cases entry <;> first | contradiction | exact congrArg Entry.taken (Option.some.inj taking)
  -- Nothing was taken before, so the word is all that was raised until then.
  have before : Untaken (early ++ front) := by
    intro other among
    rcases List.mem_append.mp among with start | later
    · exact adds.quiet.1 other start
    · have unread := none other later
      cases other <;> first | rfl | contradiction
  have exact := (boots.reached.tally_perform boots.reaches).exact (early ++ front) word back (by
    rw [adds.trace, split, List.append_assoc])
  have all : sinceTaken (early ++ front) = early ++ front := sinceTaken_append [] before
  rw [exact, all]
  exact contains_raised (List.mem_append_left _ adds.event)

/-- What adapters see up to a moment of a boot. -/
structure Gates (builder : Builder σ) (started : Loop σ) (calls : List (Call σ))
    (left : Thread Environment (Loop σ)) (moment : Environment) : Prop where
  /-- Adapters are initialised in the order of registration, none of them twice. -/
  ordered : (Overseer.initialised moment.trace).Pairwise (· < ·)
  /-- They are all adapters, or in safe mode those that opted in. -/
  eligible : ∀ slot, slot ∈ Overseer.initialised moment.trace ↔
    ∃ adapter, builder.roster.adapters[slot]? = some adapter ∧
      (started.detector.active = true → adapter.runsInSafeMode = true)
  /-- In safe mode an adapter that did not opt in is neither initialised nor served a stage. -/
  off : started.detector.active = true → ∀ slot adapter,
    builder.roster.adapters[slot]? = some adapter → adapter.runsInSafeMode = false →
      .adapter slot .init ∉ moment.trace ∧ ∀ stage, .adapter slot (.interval stage) ∉ moment.trace
  /-- The first word has the event of the start. -/
  first : ∀ word, (takings moment.trace).head? = some word →
    word.contains .platformInitialized = true
  /-- Between two calls, every adapter has been delivered every word that is not empty. -/
  heard : ∀ now, left = .done now → ∀ slot, slot < builder.roster.size →
    Overseer.heard slot moment.trace = (takings moment.trace).flatMap delivery
  /-- There is one, if a pass was made. -/
  taken : ∀ now, left = .done now → .pass ∈ calls → takings moment.trace ≠ []
  /-- The mode is that of the start. -/
  frozen : ∀ now, left = .done now → now.detector.active = started.detector.active

/-- In safe mode the adapters that did not opt in stay off for the whole boot, whatever calls follow
the start and whatever happens beside them: they are neither initialised nor served a stage. Those
that opted in are initialised once, in the order of registration, and outside safe mode all are. In
either mode every adapter is delivered every event word that is not empty, and the first of them has
the event of the start. -/
theorem gates (boots : builder.Boots started ready calls left moment) :
    Gates builder started calls left moment := by
  obtain ⟨early, added, adds⟩ := boots.adds
  have member (slot : Nat) : slot ∈ Overseer.initialised moment.trace ↔
      ∃ adapter, builder.roster.adapters[slot]? = some adapter ∧
        (started.detector.active = true → adapter.runsInSafeMode = true) := by
    rw [adds.initialised, Roster.mem_eligible]
  refine ⟨?_, member, ?_, boots.first_taken, ?_, ?_, ?_⟩
  · rw [adds.initialised]
    exact builder.roster.pairwise_eligible _
  · intro safe slot adapter listed aside
    refine ⟨fun called => ?_, adds.not_interval safe slot⟩
    have found : slot ∈ Overseer.initialised moment.trace := List.mem_filterMap.mpr ⟨_, called, rfl⟩
    obtain ⟨other, same, opted⟩ := (member slot).mp found
    rw [listed, Option.some.injEq] at same
    rw [← same, aside] at opted
    exact absurd (opted safe) Bool.false_ne_true
  · intro now ended slot present
    rw [adds.takings, adds.trace, heard_append, adds.quiet.2, List.nil_append]
    exact (adds.ended now ended).heard slot (by rw [adds.size]; exact present)
  · intro now ended passes
    rw [adds.takings]
    exact (adds.ended now ended).taken passes
  · intro now ended
    exact (adds.ended now ended).alike.active

end Builder.Boots

/-- A device that restarts after a panic for the fifth time. -/
def crashedBoard : Board where
  store := { flash := ({} : Flash).setBootCounter 4 }
  resetReason := .panic

/-- Its builder, with two adapters of which the first one opts in to safe mode. -/
def crashedBuilder : Builder Unit :=
  let network := (Builder.onBoard {} crashedBoard).register
    (some { name := "network", runsInSafeMode := true, memory := () })
  (network.2.register (some { name := "sensor", memory := () })).2

/-- Its supervisor after the start. -/
def crashedStarted : Loop Unit × Environment :=
  crashedBuilder.build.loop.start.run crashedBuilder.build.environment

/-- The same, when the stable time is over. -/
def crashedStable : Environment := crashedStarted.2.undergo (.clock 61000)

/-- The next pass. -/
def crashedPassed : Loop Unit × Environment :=
  (crashedStarted.1.perform [.pass]).run crashedStable

/-- The start of that device is the start of a boot. -/
theorem crashed_boots (calls : List (Call Unit)) (once : .start ∉ calls)
    {left : Thread Environment (Loop Unit)} {moment : Environment}
    (runs : Thread.Reaches Environment.Outside (crashedStarted.1.perform calls) crashedStarted.2
      left moment) :
    crashedBuilder.Boots crashedStarted.1 crashedStarted.2 calls left moment where
  reached := .register (.register (.new {} crashedBoard rfl) _) _
  starts := Thread.reaches_run _ _
  once := once
  runs := runs

/-- The boot of that device is in safe mode: only the adapter that opted in is initialised, both are
delivered the event of the start, and clearing the counter does not change the mode. -/
theorem gates_crashed :
    crashedStarted.1.detector.active = true ∧ initialised crashedPassed.2.trace = [0] ∧
      heard 1 crashedPassed.2.trace = [.singleton .platformInitialized] ∧
      crashedPassed.2.board.store.flash.bootCounter.value = 0 ∧
      crashedPassed.1.detector.active = true ∧
      Builder.Boots.Gates crashedBuilder crashedStarted.1 [.pass] (.done crashedPassed.1)
        crashedPassed.2 := by
  have waited : Thread.Reaches Environment.Outside (crashedStarted.1.perform [.pass])
      crashedStarted.2 (.done crashedPassed.1) crashedPassed.2 :=
    .other ⟨.clock 61000, rfl⟩ (Thread.reaches_run _ _)
  have boots := crashed_boots [.pass] (by simp) waited
  exact ⟨by rfl, by rfl, by rfl, by rfl, by rfl, boots.gates⟩

/-! ### Stages in safe mode -/

/-- The stage that an entry is the hook of. -/
def Entry.hook? : Entry → Option Stage
  | .hook stage => some stage
  | _ => none

/-- The stages whose hook was called, in order. -/
def hooks (trace : List Entry) : List Stage := trace.filterMap Entry.hook?

/-- The stage that an entry serves to the adapter in a place. -/
def Entry.interval? (slot : Nat) : Entry → Option Stage
  | .adapter other (.interval stage) => if other = slot then some stage else none
  | _ => none

/-- The stages that were served to the adapter in a place, in order. -/
def intervals (slot : Nat) (trace : List Entry) : List Stage :=
  trace.filterMap (Entry.interval? slot)

namespace Loop

open Supervisor (eventCalls stageCalls)

/-- The hooks among the calls of stages are those of the stages. -/
theorem hooks_stageCalls (safe : Bool) (count : Nat) (stages : List Stage) :
    hooks (stages.flatMap (stageCalls safe count)) = stages := by
  have round (stage : Stage) : hooks (Roster.round (.interval stage) 0 count) = [] := by
    apply List.filterMap_eq_nil_iff.mpr
    intro entry member
    obtain ⟨_, _, rfl⟩ := List.mem_map.mp member
    rfl
  unfold hooks at round ⊢
  induction stages with
  | nil => rfl
  | cons stage rest ih =>
    rw [List.flatMap_cons, List.filterMap_append, ih]
    cases safe with
    | true => rfl
    | false =>
      have calls : stageCalls false count stage =
        .hook stage :: Roster.round (.interval stage) 0 count := rfl
      rw [calls, List.filterMap_cons, round]
      rfl

/-- A pass calls the hooks of the stages that it reports, in order. -/
theorem PassAdds.hooks {loop : Loop σ} {result : PassReport × Loop σ} {entries : List Entry}
    (adds : loop.PassAdds result entries) : Overseer.hooks entries = result.1.stages := by
  have stages := hooks_stageCalls loop.detector.active loop.roster.size result.1.stages
  have events : (eventCalls result.1.events loop.roster.size).filterMap Entry.hook? = [] := by
    apply List.filterMap_eq_nil_iff.mpr
    intro entry member
    obtain ⟨_, rfl⟩ := mem_eventCalls member
    rfl
  have unread (entry : Entry) (unmarked : entry.IsUnmarked) : entry.hook? = none := by
    cases entry <;> first | rfl | contradiction
  have read := adds.filterMap unread (fun _ _ _ => rfl) (fun _ => rfl) (fun _ => rfl) rfl
  rw [events, List.nil_append] at read
  exact read.trans stages

end Loop

namespace Builder.Boots

variable {builder : Builder σ} {started now last : Loop σ} {ready moment after : Environment}
  {calls : List (Call σ)} {report : PassReport}

/-- What a pass in safe mode does about stages. -/
structure Degrades (now last : Loop σ) (moment after : Environment) (report : PassReport) :
    Prop where
  /-- It serves the stages that are due at some moment of it. -/
  due : ∃ left reading, Thread.Reaches Environment.Outside now.pass moment left reading ∧
    Thread.Reaches Environment.Outside left reading (.done (report, last)) after ∧
    report.stages = now.scheduler.due reading.board.clock
  /-- They are in ascending order of their periods. -/
  ascending : report.stages.Pairwise fun earlier later => earlier.period < later.period
  /-- The hook of each is called once, in that order. -/
  hooks : Overseer.hooks after.trace = Overseer.hooks moment.trace ++ report.stages
  /-- No adapter has been served a stage, whether it opted in or not. -/
  off : ∀ slot, intervals slot after.trace = []

/-- A pass after the calls of a boot is one more call. -/
theorem pass (boots : builder.Boots started ready calls (.done now) moment)
    (passing : Thread.Reaches Environment.Outside now.pass moment (.done (report, last)) after) :
    builder.Boots started ready (calls ++ [.pass]) (.done last) after where
  reached := boots.reached
  starts := boots.starts
  once := by
    rw [List.mem_append, not_or]
    exact ⟨boots.once, by simp⟩
  runs := by
    rw [Loop.perform_append]
    have called : Thread.Reaches Environment.Outside (now.perform [.pass]) moment (.done last)
        after := (passing.before fun result => .done result.2).before fun loop => .done loop
    exact (boots.runs.before fun loop => loop.perform [.pass]).trans called

/-- In safe mode each pass calls the hook of each due stage once, in ascending order, and serves no
stage to any adapter, whether it opted in to safe mode or not. -/
theorem degrades (boots : builder.Boots started ready calls (.done now) moment)
    (safe : started.detector.active = true)
    (passing : Thread.Reaches Environment.Outside now.pass moment (.done (report, last)) after) :
    Degrades now last moment after report := by
  have due := Loop.due_of_pass passing
  refine ⟨due, ?_, ?_, ?_⟩
  · obtain ⟨_, reading, _, _, stages⟩ := due
    rw [stages]
    exact Stage.pairwise_period.filter _
  · obtain ⟨entries, trace, adds⟩ := now.pass_writes.ends passing
    rw [trace, hooks, List.filterMap_append]
    exact congrArg _ adds.hooks
  · intro slot
    obtain ⟨early, added, adds⟩ := (boots.pass passing).adds
    apply List.filterMap_eq_nil_iff.mpr
    intro entry member
    cases entry with
    | adapter other callback =>
      cases callback with
      | interval stage => exact absurd member (adds.not_interval safe other stage)
      | _ => rfl
    | _ => rfl

end Builder.Boots

/-- The device that crashed for the fifth time, five seconds after the start. -/
def crashedDue : Environment := crashedStarted.2.undergo (.clock 5000)

/-- Its pass then calls three hooks and serves no stage. -/
theorem degrades_crashed :
    let passed := crashedStarted.1.pass.run crashedDue
    passed.1.1.stages = [.every1s, .every2s, .every5s] ∧
      hooks passed.2.trace = [.every1s, .every2s, .every5s] ∧
      Builder.Boots.Degrades crashedStarted.1 passed.1.2 crashedDue passed.2 passed.1.1 := by
  have boots := crashed_boots [] (by simp) (.other ⟨.clock 5000, rfl⟩ (.here _ crashedDue))
  exact ⟨by decide, by decide, boots.degrades rfl (Thread.reaches_run _ _)⟩

/-- So the due stages are not served to the adapter that opted in. -/
theorem not_served_crashed :
    let passed := crashedStarted.1.pass.run crashedDue
    crashedBuilder.Boots crashedStarted.1 crashedStarted.2 [] (.done crashedStarted.1) crashedDue ∧
      crashedStarted.1.detector.active = true ∧
      ¬∀ slot adapter, crashedBuilder.roster.adapters[slot]? = some adapter →
        adapter.runsInSafeMode = true →
          intervals slot passed.2.trace = intervals slot crashedDue.trace ++ passed.1.1.stages := by
  have boots := crashed_boots [] (by simp) (.other ⟨.clock 5000, rfl⟩ (.here _ crashedDue))
  refine ⟨boots, by rfl, fun served => ?_⟩
  have opted := served 0 _ rfl rfl
  have none : intervals 0 (crashedStarted.1.pass.run crashedDue).2.trace = [] := by rfl
  rw [none] at opted
  exact absurd (List.append_eq_nil_iff.mp opted.symm).2 (by decide)

end Overseer
