import Overseer.Proofs.Detector
import Overseer.Proofs.Interleaving

/-!
# The verdict on the firmware

Two flags of the detector, the start of the platform and the hook of a stage share one attempt to
validate the running firmware image. `Validates` says what a part of a boot did about it, in its
entries and in the flags. It is proved for the two steps that the detector takes, and put together
for the start, for a pass and for any passes, each of them beside other tasks. So
`Builder.Reached.validates_once` says when the one attempt of a boot takes place and what its
outcome is; nothing after it asks again or changes the outcome.
-/
namespace Overseer

/-! ### Entries about the firmware -/

namespace Entry

/-- Whether the entry is a question about the firmware image, or a mark on it. -/
def isValidation : Entry → Bool
  | .imageQueried _ | .imageMarked _ => true
  | _ => false

/-- The test finds what it is meant to find. -/
theorem isValidation_iff (entry : Entry) : entry.isValidation = true ↔ entry.IsValidation := by
  constructor
  · intro found
    cases entry with
    | imageQueried answer => exact .inl ⟨answer, rfl⟩
    | imageMarked answer => exact .inr ⟨answer, rfl⟩
    | _ => contradiction
  · rintro (⟨_, rfl⟩ | ⟨_, rfl⟩)
    · rfl
    · rfl

/-- Requests are not about the firmware. -/
theorem IsRequest.not_isValidation {entry : Entry} (request : entry.IsRequest) :
    ¬entry.IsValidation := by
  rintro (⟨_, rfl⟩ | ⟨_, rfl⟩)
  · exact request
  · exact request

/-- The loop's own steps are not about the firmware. -/
theorem IsStep.not_isValidation {entry : Entry} (step : entry.IsStep) : ¬entry.IsValidation := by
  rintro (⟨_, rfl⟩ | ⟨_, rfl⟩)
  · exact step
  · exact step

/-- Deeds of a program are not about the firmware. -/
theorem IsDeedOf.not_isValidation {actor : Actor} {entry : Entry} (deed : entry.IsDeedOf actor) :
    ¬entry.IsValidation := by
  rintro (⟨_, rfl⟩ | ⟨_, rfl⟩)
  · exact deed
  · exact deed

/-- Counting is not about the firmware. -/
theorem IsCount.not_isValidation {entry : Entry} (count : entry.IsCount) :
    ¬entry.IsValidation := by
  obtain ⟨_, _, rfl, _⟩ := count
  rintro (⟨_, same⟩ | ⟨_, same⟩)
  · contradiction
  · contradiction

end Entry

/-- The questions about the firmware image and the marks on it, in order. -/
def validations (trace : List Entry) : List Entry := trace.filter Entry.isValidation

@[simp] theorem validations_append (earlier later : List Entry) :
    validations (earlier ++ later) = validations earlier ++ validations later :=
  List.filter_append _ _

/-- Entries that are not about the firmware. -/
theorem validations_eq_nil {entries : List Entry}
    (others : ∀ entry ∈ entries, ¬entry.IsValidation) : validations entries = [] := by
  rw [validations, List.filter_eq_nil_iff]
  intro entry member found
  exact others entry member (entry.isValidation_iff.mp found)

/-- Entries that are all about the firmware. -/
theorem validations_eq_self {entries : List Entry}
    (kinds : ∀ entry ∈ entries, entry.IsValidation) : validations entries = entries := by
  rw [validations, List.filter_eq_self]
  intro entry member
  exact entry.isValidation_iff.mpr (kinds entry member)

/-- Clearing the counter is not about the firmware. -/
theorem validations_clearing (detector : Detector) (stage : Stage) (uptime : UInt64)
    (board : Board) : validations (detector.clearing stage uptime board) = [] := by
  unfold Detector.clearing
  split
  · rfl
  · rfl

/-! ### Steps that do nothing about the firmware -/

/-- A step that notes nothing about the firmware. -/
abbrev Unasked : Environment → Environment → Prop := Environment.Notes fun entry =>
  ¬entry.IsValidation

/-- Requests are nothing about the firmware. -/
theorem Aside.unasked {before after : Environment} (aside : Aside before after) :
    Unasked before after :=
  aside.imp fun _ request => request.not_isValidation

/-- The entries of such a step. -/
theorem Unasked.validations {before after : Environment} (unasked : Unasked before after) :
    ∃ entries, after.trace = before.trace ++ entries ∧ Overseer.validations entries = [] := by
  obtain ⟨entries, trace, others⟩ := unasked
  exact ⟨entries, trace, validations_eq_nil others⟩

namespace Unasked

/-- The steps of the loop but for the detector's. -/
theorem carries : Carries Unasked :=
  .notes (fun _ request => request.not_isValidation) fun _ step => step.not_isValidation

/-- Looking at the queue. -/
theorem takeJob (environment : Environment) : Unasked environment environment.takeJob.2 := by
  cases waiting : environment.hub.queue with
  | nil =>
    rw [Environment.takeJob_of_nil waiting]
    exact .refl _
  | cons job rest =>
    have trace := (Environment.takeJob_taken waiting).trace
    exact .of_note trace (by rintro (⟨_, same⟩ | ⟨_, same⟩) <;> contradiction)

/-- The steps of a handler. -/
theorem each_handler {role : Role} {α : Type} (actor : Actor) (program : Program role α) :
    (program.thread actor).Each Unasked :=
  Program.each_thread Unasked (Program.only_any _) fun _ _ _ _ operation =>
    (Environment.Notes.of_operation operation).imp fun _ deed => deed.not_isValidation

/-- A thread all of whose steps are such leaves the firmware alone. -/
theorem assures {α : Type} {holds : α → Prop} {thread : Thread Environment α}
    (each : thread.Each Unasked) (ends : thread.Ends holds) (start : Environment) :
    thread.Assures Aside (fun _ _ => True)
      (fun value later => holds value ∧ Unasked start later) start := by
  have writes := Thread.Writes.of_each (fun _ request => request.not_isValidation) each ends
  refine (writes start).imp (fun _ _ _ => trivial) ?_
  rintro value later ⟨entries, trace, held, others⟩
  exact ⟨held, entries, trace, others⟩

end Unasked

/-! ### What a part of a boot does -/

/-- What a part of a boot did about the firmware, given whether validation was due in it. -/
structure Validates (due : Bool) (before after : Detector) (start stop : Environment) : Prop where
  noted : ∃ entries, stop.trace = start.trace ++ entries ∧
    before.Validation due (validations entries) after.validated
  settled : after.settled = (before.settled || due)
  validationStage : after.validationStage = before.validationStage

namespace Validates

variable {due further : Bool} {first second third : Detector} {start middle stop : Environment}

/-- A part that leaves the detector and the firmware alone. -/
theorem of_unasked (detector : Detector) (unasked : Unasked start stop) :
    Validates false detector detector start stop := by
  obtain ⟨entries, trace, none⟩ := unasked.validations
  refine ⟨⟨entries, trace, ?_⟩, ?_, rfl⟩
  · simp [Detector.Validation, none]
  · simp

/-- One part after the other. -/
theorem trans (earlier : Validates due first second start middle)
    (later : Validates further second third middle stop) :
    Validates (due || further) first third start stop := by
  obtain ⟨entries, trace, attempt⟩ := earlier.noted
  obtain ⟨more, longer, again⟩ := later.noted
  refine ⟨⟨entries ++ more, ?_, ?_⟩, ?_,
    later.validationStage.trans earlier.validationStage⟩
  · rw [longer, trace, List.append_assoc]
  · rw [validations_append]
    have settled := earlier.settled
    unfold Detector.Validation at *
    -- An attempt in the first part settles the firmware, so that the second part makes none.
    by_cases now : first.settled = false ∧ due = true
    · rw [if_pos now] at attempt
      rw [now.2, Bool.or_true] at settled
      rw [settled] at again
      simp only [Bool.true_eq_false, false_and, ↓reduceIte] at again
      rw [again.1, again.2, List.append_nil, now.2, Bool.true_or, if_pos ⟨now.1, rfl⟩]
      exact attempt
    · rw [if_neg now] at attempt
      rw [attempt.1, List.nil_append]
      have same : (second.settled = false ∧ further = true) ↔
          (first.settled = false ∧ (due || further) = true) := by
        cases fresh : first.settled with
        | true => simp [settled, fresh]
        | false =>
          have undue : due = false := by simpa [fresh] using now
          simp [settled, fresh, undue]
      rw [attempt.2] at again
      simpa only [same] using again
  · rw [later.settled, earlier.settled, Bool.or_assoc]

/-- Where validation is due and the firmware is not settled, an attempt is made. -/
theorem attempt (validates : Validates due first second start stop)
    (fresh : first.settled = false) (now : due = true) :
    ∃ entries, stop.trace = start.trace ++ entries ∧
      Detector.Attempt (validations entries) second.validated := by
  obtain ⟨entries, trace, noted⟩ := validates.noted
  rw [Detector.Validation, if_pos ⟨fresh, now⟩] at noted
  exact ⟨entries, trace, noted⟩

/-- Where validation is not due, or the firmware is settled, nothing is asked and nothing
decided. -/
theorem idle (validates : Validates due first second start stop)
    (idle : first.settled = true ∨ due = false) :
    (∃ entries, stop.trace = start.trace ++ entries ∧ validations entries = []) ∧
      second.validated = first.validated := by
  obtain ⟨entries, trace, noted⟩ := validates.noted
  have kept : ¬(first.settled = false ∧ due = true) := by
    rintro ⟨fresh, now⟩
    simp [fresh, now] at idle
  rw [Detector.Validation, if_neg kept] at noted
  exact ⟨⟨entries, trace, noted.1⟩, noted.2⟩

/-- Before and after it others may make requests. -/
theorem widen {before after : Environment} (validates : Validates due first second start stop)
    (earlier : Unasked before start) (later : Unasked stop after) :
    Validates due first second before after := by
  have whole := ((of_unasked first earlier).trans validates).trans (of_unasked second later)
  rw [Bool.false_or, Bool.or_false] at whole
  exact whole

/-- The hook of a stage. -/
theorem hook (environment : Environment) (detector : Detector) (stage : Stage)
    (uptime : UInt64) :
    Validates (stage = detector.validationStage) detector
      (detector.onInterval stage uptime (environment.note (.hook stage)).board).1
      environment (environment.hooked detector stage uptime) := by
  have worked := detector.onInterval_worked stage uptime (environment.note (.hook stage)).board
  obtain ⟨validation, added, noted⟩ := worked.noted
  have whole := (environment.board.adds_note (.hook stage)).trans added
  refine ⟨⟨_, whole.trace, ?_⟩, worked.settled, worked.validationStage⟩
  rw [validations_append, validations_append, validations_eq_self noted.isValidation,
    validations_clearing, List.append_nil]
  exact noted

end Validates

/-! ### The work of a boot -/

namespace Loop

variable {σ : Type}

/-- A round leaves the firmware alone. -/
theorem callThread_unasked (roster : Roster σ) (callback : Callback) (start : Environment) :
    (roster.callThread callback).Assures Aside (fun _ _ => True)
      (fun _ later => Unasked start later) start :=
  (Unasked.assures (Unasked.carries.each_callThread roster callback) (Thread.ends_any _) start).imp
    (fun _ _ _ => trivial) fun _ _ outcome => outcome.2

/-- The service of a stage validates the firmware if it is the stage for that. -/
theorem serveStage_validates (loop : Loop σ) (uptime : UInt64) (safe : Bool) (stage : Stage)
    (start : Environment) :
    (loop.serveStage uptime safe stage).Assures Aside (fun _ _ => True)
      (fun last later => Validates (stage = loop.detector.validationStage) loop.detector
        last.detector start later) start := by
  intro found aside
  have hooked := Validates.hook found loop.detector stage uptime
  refine ⟨trivial, ?_⟩
  split
  · exact fun later after => hooked.widen aside.unasked after.unasked
  · refine (callThread_unasked loop.roster (.interval stage) _).bind .refl ?_
    intro roster between unasked later after
    exact hooked.widen aside.unasked (.trans _ _ _ unasked after.unasked)

/-- The service of stages in turn validates the firmware if the stage for that is among them. -/
theorem serveEach_validates (uptime : UInt64) (safe : Bool) (stages : List Stage) (loop : Loop σ)
    (start : Environment) :
    (serveEach uptime safe stages loop).Assures Aside (fun _ _ => True)
      (fun last later => Validates (decide (loop.detector.validationStage ∈ stages)) loop.detector
        last.detector start later) start := by
  induction stages generalizing loop start with
  | nil => exact fun later aside => Validates.of_unasked loop.detector aside.unasked
  | cons stage rest ih =>
    refine (serveStage_validates loop uptime safe stage start).bind .refl ?_
    intro middle between first
    refine (ih middle between).imp (fun _ _ _ => trivial) fun last later others => ?_
    have whole := first.trans others
    rw [first.validationStage] at whole
    have due : decide (loop.detector.validationStage ∈ stage :: rest) =
        (decide (stage = loop.detector.validationStage) ||
          decide (loop.detector.validationStage ∈ rest)) := by
      simp [eq_comm]
    rw [due]
    exact whole

/-- The service of the due stages validates the firmware if the stage for that is due. -/
theorem serveStages_validates (loop : Loop σ) (start : Environment) :
    loop.serveStages.Assures Aside (fun _ _ => True)
      (fun result later => Validates (decide (loop.detector.validationStage ∈ result.1))
        loop.detector result.2.detector start later) start := by
  intro found aside
  refine ⟨trivial, ?_⟩
  refine (serveEach_validates _ _ _ _ found).bind .refl ?_
  intro last between validates later after
  exact validates.widen aside.unasked after.unasked

/-- The delivery of events leaves the detector and the firmware alone. -/
theorem deliverEvents_unasked (loop : Loop σ) (start : Environment) :
    loop.deliverEvents.Assures Aside (fun _ _ => True)
      (fun result later => result.2.detector = loop.detector ∧ Unasked start later) start := by
  refine Unasked.assures (Unasked.carries.each_deliverEvents loop) ?_ start
  intro environment
  dsimp only
  split
  · rfl
  · exact (Thread.ends_any _).bind fun roster _ => rfl

/-- A restart leaves the detector and the firmware alone. -/
theorem serveRestart_unasked (loop : Loop σ) (start : Environment) :
    loop.serveRestart.Assures Aside (fun _ _ => True)
      (fun result later => result.2.detector = loop.detector ∧ Unasked start later) start := by
  refine Unasked.assures (Unasked.carries.each_serveRestart loop) ?_ start
  intro environment
  dsimp only
  split
  · have shut : loop.shutdown.Ends fun last => last.detector = loop.detector :=
      (Thread.ends_any _).bind fun roster _ => rfl
    refine shut.bind fun last same => ?_
    exact (Thread.ends_any _).bind fun _ _ => (Thread.ends_any _).bind fun _ _ => same
  · rfl

/-- A pass validates the firmware if the stage for that is served in it. -/
theorem pass_validates (loop : Loop σ) (start : Environment) :
    loop.pass.Assures Aside (fun _ _ => True)
      (fun result later => Validates
        (decide (loop.detector.validationStage ∈ result.1.stages)) loop.detector
        result.2.detector start later) start := by
  have received := Unasked.assures (Loop.each_receive Unasked.takeJob loop.config.commandWait)
    (Thread.ends_any _) start
  refine received.bind .refl ?_
  intro taken atCommand receiving
  have ran := Unasked.assures (Unasked.carries.each_runTaken taken fun _ _ =>
    Unasked.each_handler _ _) (Thread.ends_any _) atCommand
  refine ran.bind .refl ?_
  intro _ atEvents running
  refine (deliverEvents_unasked loop atEvents).bind .refl ?_
  intro delivered atStages delivering
  refine (serveStages_validates delivered.2 atStages).bind .refl ?_
  intro served atRestart validates
  refine (serveRestart_unasked served.2 atRestart).bind .refl ?_
  intro restarted atEnd restarting later after
  have before : Unasked start atStages :=
    .trans _ _ _ receiving.2 (.trans _ _ _ running.2 delivering.2)
  have behind : Unasked atRestart later := .trans _ _ _ restarting.2 after.unasked
  have whole := validates.widen before behind
  rw [delivering.1, ← restarting.1] at whole
  exact whole

/-- The start validates the firmware in safe mode, and then before it calls any adapter. -/
theorem start_validates (loop : Loop σ) (start : Environment) :
    loop.start.Assures Aside (fun _ _ => True)
      (fun last later => ∃ early,
        (∀ entry ∈ early, ∀ slot callback, entry ≠ .adapter slot callback) ∧
        ∃ ready, ready.trace = start.trace ++ early ∧
          Validates last.detector.active loop.detector last.detector start ready ∧
          Unasked ready later) start := by
  intro found aside
  have booted := (loop.supervisor found).evaluateBoot_booted
  obtain ⟨validation, added, noted⟩ := booted.noted
  obtain ⟨requests, waited, asked⟩ := aside
  let ready := (loop.supervisor found).evaluateBoot.environment
  let detector := (loop.supervisor found).evaluateBoot.detector
  let counting := Detector.counting found.board.resetReason found.board
  have trace : ready.trace = start.trace ++ (requests ++ (counting ++ validation)) := by
    rw [← List.append_assoc, ← waited]
    exact added.trace
  have counted : validations counting = [] :=
    validations_eq_nil fun entry member =>
      (Detector.isCount_of_mem_counting entry member).not_isValidation
  have validates : Validates detector.active loop.detector detector start ready := by
    refine ⟨⟨_, trace, ?_⟩, booted.settled, booted.validationStage⟩
    rw [validations_append, validations_append, counted, validations_eq_self noted.isValidation,
      validations_eq_nil fun entry member => (asked entry member).not_isValidation]
    exact noted
  have early : ∀ entry ∈ requests ++ (counting ++ validation), ∀ slot callback,
      entry ≠ .adapter slot callback := by
    rintro entry member slot callback rfl
    rcases List.mem_append.mp member with request | detection
    · exact asked _ request
    · rcases List.mem_append.mp detection with count | question
      · obtain ⟨_, _, same, _⟩ := Detector.isCount_of_mem_counting _ count
        contradiction
      · rcases noted.isValidation _ question with ⟨_, same⟩ | ⟨_, same⟩
        · contradiction
        · contradiction
  have decided : (loop.initialise detector).Ends fun last => last.detector = detector := by
    refine (Thread.ends_any _).bind fun roster _ => ?_
    refine (Thread.ends_any _).bind fun now _ => ?_
    exact (Thread.ends_any _).bind fun _ _ => (Thread.ends_any _).bind fun _ _ => rfl
  refine ⟨trivial, ?_⟩
  have rest := Unasked.assures (Unasked.carries.each_initialise loop detector) decided ready
  refine rest.imp (fun _ _ _ => trivial) fun last later outcome => ?_
  rw [outcome.1]
  exact ⟨_, early, ready, trace, validates, outcome.2⟩

/-- A pass that has ended validated the firmware if the stage for that was served in it. -/
theorem validates_of_pass {loop last : Loop σ} {report : PassReport} {start stop : Environment}
    (passing : Thread.Reaches Environment.Outside loop.pass start (.done (report, last)) stop) :
    Validates (decide (loop.detector.validationStage ∈ report.stages)) loop.detector last.detector
      start stop :=
  passing.ends Environment.Notes.refl Environment.Notes.trans Environment.Outside.notes
    (loop.pass_validates start)

/-- Passes one after the other, with what they report; beside them other things happen. -/
inductive Passes : Loop σ → Environment → List PassReport → Loop σ → Environment → Prop
  /-- No pass was made. -/
  | none (loop : Loop σ) (environment : Environment) : Passes loop environment [] loop environment
  /-- A pass was made, and then others. -/
  | pass {first middle last : Loop σ} {start between stop : Environment} {report : PassReport}
      {reports : List PassReport}
      (passed : Thread.Reaches Environment.Outside first.pass start (.done (report, middle))
        between)
      (later : Passes middle between reports last stop) :
      Passes first start (report :: reports) last stop

/-- Passes validate the firmware if the stage for that is served in one of them. -/
theorem Passes.validates {first last : Loop σ} {start stop : Environment}
    {reports : List PassReport} (passes : Passes first start reports last stop) :
    Validates (decide (∃ report ∈ reports, first.detector.validationStage ∈ report.stages))
      first.detector last.detector start stop := by
  induction passes with
  | none loop environment => exact Validates.of_unasked loop.detector (.refl environment)
  | @pass first middle last start between stop report reports passed later ih =>
    have single := validates_of_pass passed
    have whole := single.trans ih
    rw [single.validationStage] at whole
    have due : decide (∃ other ∈ report :: reports,
          first.detector.validationStage ∈ other.stages) =
        (decide (first.detector.validationStage ∈ report.stages) ||
          decide (∃ other ∈ reports, first.detector.validationStage ∈ other.stages)) := by
      simp
    rw [due]
    exact whole

/-- Whether validation is due by the end of some passes: from the start on in safe mode, and
otherwise from the first pass in which the stage for it is served. -/
def DueBy (stage : Stage) (started : Loop σ) (reports : List PassReport) : Prop :=
  started.detector.active = true ∨ ∃ report ∈ reports, stage ∈ report.stages

/-- What a boot does about the firmware, given the loop after the start, and the loop and the moment
some passes later. -/
structure ValidatesOnce (stage : Stage) (started now : Loop σ) (reports : List PassReport)
    (moment : Environment) : Prop where
  /-- Before validation is due nothing is asked, and the firmware is not validated. -/
  pending : ¬DueBy stage started reports →
    validations moment.trace = [] ∧ now.detector.validated = false
  /-- Once it is due, all that was asked and marked is one attempt. -/
  attempted : DueBy stage started reports →
    Detector.Attempt (validations moment.trace) now.detector.validated
  /-- In safe mode the attempt comes before any call of an adapter. -/
  early : started.detector.active = true → ∃ earlier later, moment.trace = earlier ++ later ∧
    validations later = [] ∧ ∀ entry ∈ earlier, ∀ slot callback, entry ≠ .adapter slot callback
  /-- The pass in which it becomes due makes the attempt. -/
  next : ¬DueBy stage started reports → ∀ report last after,
    Thread.Reaches Environment.Outside now.pass moment (.done (report, last)) after →
      stage ∈ report.stages → ∃ entries, after.trace = moment.trace ++ entries ∧
        Detector.Attempt (validations entries) last.detector.validated
  /-- No later pass asks or marks again, or changes the outcome. -/
  final : DueBy stage started reports → ∀ report last after,
    Thread.Reaches Environment.Outside now.pass moment (.done (report, last)) after →
      validations after.trace = validations moment.trace ∧
        last.detector.validated = now.detector.validated

end Loop

/-- A builder's trace says nothing about the firmware. -/
theorem Builder.Reached.validations_build {σ : Type} {builder : Builder σ}
    (reached : builder.Reached) : validations builder.build.environment.trace = [] :=
  validations_eq_nil fun entry member => (reached.requests entry member).not_isValidation

/-- The firmware is validated at most once in a boot: in safe mode at the start, before any adapter
is initialised, and otherwise in the first pass in which the stage for it is due. The image is
marked exactly if it is pending verification, and the firmware counts as validated from then on,
unless the mark failed. -/
theorem Builder.Reached.validates_once {σ : Type} {builder : Builder σ} (reached : builder.Reached)
    {started now : Loop σ} {ready moment : Environment} {reports : List PassReport}
    (starting : Thread.Reaches Environment.Outside builder.build.loop.start
      builder.build.environment (.done started) ready)
    (passes : Loop.Passes started ready reports now moment) :
    Loop.ValidatesOnce builder.config.validationStage started now reports moment := by
  obtain ⟨early, calls, booted, trace, begun, initialised⟩ := starting.ends Environment.Notes.refl
    Environment.Notes.trans Environment.Outside.notes (builder.build.loop.start_validates _)
  have startup := begun.widen (.refl _) initialised
  have passed := passes.validates
  have whole := startup.trans passed
  have stage : started.detector.validationStage = builder.config.validationStage :=
    startup.validationStage
  have blank := reached.validations_build
  -- Whether validation is due, as the flags have it and as the reports do.
  have due : (started.detector.active || decide (∃ report ∈ reports,
      started.detector.validationStage ∈ report.stages)) = true ↔
      Loop.DueBy builder.config.validationStage started reports := by
    rw [Bool.or_eq_true, decide_eq_true_eq, stage]
    rfl
  have settled : now.detector.settled = true ↔
      Loop.DueBy builder.config.validationStage started reports := by
    rw [whole.settled, ← due]
    rfl
  have pass {report : PassReport} {last : Loop σ} {after : Environment}
      (passing : Thread.Reaches Environment.Outside now.pass moment (.done (report, last)) after) :
      Validates (decide (builder.config.validationStage ∈ report.stages)) now.detector
        last.detector moment after := by
    have single := Loop.validates_of_pass passing
    rw [whole.validationStage] at single
    exact single
  refine ⟨?_, ?_, ?_, ?_, ?_⟩
  · intro undue
    obtain ⟨⟨entries, trace, none⟩, same⟩ :=
      whole.idle (.inr (Bool.eq_false_iff.mpr (mt due.mp undue)))
    rw [trace, validations_append, blank, none, same]
    exact ⟨rfl, rfl⟩
  · intro now
    obtain ⟨entries, trace, attempt⟩ := whole.attempt rfl (due.mpr now)
    rw [trace, validations_append, blank, List.nil_append]
    exact attempt
  · intro active
    obtain ⟨between, later, unasked⟩ := initialised.validations
    have done : started.detector.settled = true := by rw [startup.settled, active, Bool.or_true]
    obtain ⟨⟨entries, further, none⟩, _⟩ := passed.idle (.inl done)
    refine ⟨builder.build.environment.trace ++ early, between ++ entries, ?_, ?_, ?_⟩
    · rw [further, later, trace, List.append_assoc]
    · rw [validations_append, unasked, none]
      rfl
    · intro entry member slot callback same
      rcases List.mem_append.mp member with request | first
      · rw [same] at request
        exact reached.requests _ request
      · exact calls entry first slot callback same
  · intro undue report last after passing served
    have fresh : now.detector.settled = false := Bool.eq_false_iff.mpr (mt settled.mp undue)
    exact (pass passing).attempt fresh (decide_eq_true served)
  · intro already report last after passing
    obtain ⟨⟨entries, trace, none⟩, same⟩ := (pass passing).idle (.inl (settled.mpr already))
    rw [trace, validations_append, none, List.append_nil]
    exact ⟨rfl, same⟩

/-- A new image is marked in the first pass ten seconds after the start. -/
theorem Builder.validates_once_pending :
    let builder : Builder Unit := .onBoard {} { firmware := { image := .pendingVerify } }
    let started := builder.build.loop.start.run builder.build.environment
    let done := started.1.pass.run (started.2.undergo (.clock 10000))
    done.1.1.stages = [.every1s, .every2s, .every5s, .every10s] ∧
      validations done.2.trace = [.imageQueried (.ok .pendingVerify), .imageMarked (.ok ())] ∧
      Loop.ValidatesOnce .every10s started.1 done.1.2 [done.1.1] done.2 := by
  refine ⟨by decide, by rfl, ?_⟩
  have reached : (onBoard {} { firmware := { image := .pendingVerify } } : Builder Unit).Reached :=
    .new {} _ rfl
  refine reached.validates_once (Thread.reaches_run _ _) (.pass ?_ (.none _ _))
  exact .other ⟨.clock 10000, rfl⟩ (Thread.reaches_run _ _)

end Overseer
