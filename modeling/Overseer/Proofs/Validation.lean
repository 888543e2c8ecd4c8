import Overseer.Proofs.Boot

/-!
# Validation and the clearing of the counter

The firmware should be validated before the counter of crashes is cleared. Which of the two comes
first depends on the readings of the clock: the validation stage counts from the start of the
platform, the stable time from the reset, and in one pass the stages are served in ascending order.
`Premature` says that a trace has a clearing before any validation, and `Boot.premature_iff_hasty`
says exactly for which boots that is so: outside safe mode, when a reading that clears the counter
comes before any that is late enough for a validation stage of more than five seconds.
-/
namespace Overseer

variable {σ : Type}

/-! ### Premature clearings -/

/-- Whether the state of the firmware image was asked for. -/
def queried : List Entry → Bool
  | [] => false
  | .imageQueried _ :: _ => true
  | _ :: rest => queried rest

/-- Whether the detector cleared the counter before the state of the image was asked for. -/
def clearedFirst : List Entry → Bool
  | [] => false
  | .imageQueried _ :: _ => false
  | .counterWritten .detector value _ :: rest => value == 0 || clearedFirst rest
  | _ :: rest => clearedFirst rest

/-- A trace in which the detector cleared the counter before the firmware was validated. -/
def Premature (trace : List Entry) : Prop :=
  ∃ before result after, trace = before ++ .counterWritten .detector 0 result :: after ∧
    ∀ state, .imageQueried state ∉ before

@[simp] theorem queried_append (earlier later : List Entry) :
    queried (earlier ++ later) = (queried earlier || queried later) := by
  induction earlier with
  | nil => rfl
  | cons entry rest ih => cases entry <;> simp [queried, ih]

@[simp] theorem clearedFirst_append (earlier later : List Entry) :
    clearedFirst (earlier ++ later) =
      (clearedFirst earlier || (!queried earlier && clearedFirst later)) := by
  induction earlier with
  | nil => rfl
  | cons entry rest ih =>
    cases entry with
    | counterWritten actor value result =>
      cases actor <;> simp [queried, clearedFirst, ih, Bool.or_assoc]
    | _ => simp [queried, clearedFirst, ih]

/-- The state was asked for exactly if an entry says so. -/
theorem queried_iff (trace : List Entry) :
    queried trace = true ↔ ∃ state, .imageQueried state ∈ trace := by
  induction trace with
  | nil => simp [queried]
  | cons entry rest ih => cases entry <;> simp [queried, ih]

/-- A trace can be searched for a premature clearing. -/
theorem premature_iff_clearedFirst (trace : List Entry) :
    Premature trace ↔ clearedFirst trace = true := by
  constructor
  · rintro ⟨before, result, after, rfl, unasked⟩
    have none : queried before = false := by
      rw [Bool.eq_false_iff, ne_eq, queried_iff]
      rintro ⟨state, member⟩
      exact unasked state member
    simp [none, clearedFirst]
  · intro cleared
    induction trace with
    | nil => contradiction
    | cons entry rest ih =>
      have extend (later : clearedFirst rest = true)
          (other : ∀ state, entry ≠ .imageQueried state) : Premature (entry :: rest) := by
        obtain ⟨before, result, after, split, unasked⟩ := ih later
        refine ⟨entry :: before, result, after, by rw [split, List.cons_append], ?_⟩
        intro state member
        rcases List.mem_cons.mp member with same | earlier
        · exact other state same.symm
        · exact unasked state earlier
      cases entry with
      | imageQueried state => contradiction
      | counterWritten actor value result =>
        cases actor with
        | detector =>
          by_cases zero : value = 0
          · subst zero
            exact ⟨[], result, rest, rfl, by simp⟩
          · exact extend (by simpa [clearedFirst, zero] using cleared) (by simp)
        | core | producer | adapter => exact extend cleared (by simp)
      | _ => exact extend cleared (by simp)

/-- What is not the detector's neither asks nor clears. -/
theorem silent_entries {entries : List Entry} (silent : ∀ entry ∈ entries, ¬entry.IsDetection) :
    queried entries = false ∧ clearedFirst entries = false := by
  induction entries with
  | nil => exact ⟨rfl, rfl⟩
  | cons entry rest ih =>
    have own := silent entry List.mem_cons_self
    have later := ih fun other member => silent other (List.mem_cons_of_mem _ member)
    cases entry with
    | counterWritten actor value result =>
      cases actor with
      | detector => exact (own trivial).elim
      | core | producer | adapter => exact later
    | imageQueried => exact (own trivial).elim
    | imageMarked => exact (own trivial).elim
    | _ => exact later

/-! ### What is not the detector's -/

/-- A step that adds nothing of the detector's to the trace. -/
def Silent (before after : Environment) : Prop :=
  ∃ entries, after.trace = before.trace ++ entries ∧ ∀ entry ∈ entries, ¬entry.IsDetection

namespace Silent

theorem refl (environment : Environment) : Silent environment environment :=
  Environment.Notes.refl environment

theorem trans (first second third : Environment) (earlier : Silent first second)
    (later : Silent second third) : Silent first third :=
  Environment.Notes.trans first second third earlier later

/-- One entry that is not the detector's. -/
theorem of_note {before after : Environment} {entry : Entry}
    (trace : after.trace = before.trace ++ [entry]) (silent : ¬entry.IsDetection) :
    Silent before after :=
  Environment.Notes.of_note trace silent

/-- Deeds of other parties. -/
theorem of_acts {actor : Actor} (other : actor ≠ .detector) {before after : Environment}
    {deeds : List Entry} (acts : Acts actor before after deeds) : Silent before after := by
  refine ⟨deeds, acts.trace, fun entry member detection => ?_⟩
  have owned := acts.owned entry member
  cases entry with
  | counterWritten doer value result =>
    have same : doer = actor := owned
    cases doer with
    | detector => exact other same.symm
    | core | producer | adapter => exact detection.elim
  | imageQueried | imageMarked => exact owned.elim
  | _ => exact detection.elim

/-- Whatever a pass does but for the work of the detector. -/
theorem spansPass : SpansPass (fun command => command.owner ≠ .detector) Silent where
  refl := refl
  trans := trans
  say environment _ := ⟨[], (List.append_nil _).symm, by simp⟩
  call environment _ _ := of_note (environment.trace_note _) id
  operation _ _ _ _ _ operation := by
    obtain ⟨deeds, acts⟩ := Acts.of_operation operation
    exact of_acts (by simp) acts
  handler _ _ _ other := of_acts other (Program.acts _ _ _)
  notify environment events := of_note (environment.trace_notify _ _) id
  takeJob environment := by
    cases waiting : environment.hub.queue with
    | nil =>
      rw [Environment.takeJob_of_nil waiting]
      exact refl environment
    | cons job rest => exact of_note (Environment.takeJob_taken waiting).trace id
  takeEvents environment := of_note environment.trace_takeEvents id
  hook environment _ := of_note (environment.trace_note _) id
  withdraw environment := refl environment
  restart environment := of_note (show _ = environment.trace ++ [.restart] from rfl) id

end Silent


/-! ### The work of the detector -/

/-- What the trace of a boot says, and the detector knows, of validation and clearing. -/
structure Watches (cleared : Bool) (detector : Detector) (environment : Environment) : Prop where
  settled : queried environment.trace = detector.settled
  cleared : clearedFirst environment.trace = cleared

/-- What is not the detector's changes nothing about it. -/
theorem Watches.silent {cleared : Bool} {detector : Detector} {before after : Environment}
    (watches : Watches cleared detector before) (silent : Silent before after) :
    Watches cleared detector after := by
  obtain ⟨entries, trace, others⟩ := silent
  obtain ⟨unasked, uncleared⟩ := silent_entries others
  constructor
  · rw [trace, queried_append, unasked, Bool.or_false, watches.settled]
  · rw [trace, clearedFirst_append, uncleared, Bool.and_false, Bool.or_false, watches.cleared]

/-- Validation alone clears nothing. -/
theorem clearedFirst_validation {validation : List Entry}
    (kinds : ∀ entry ∈ validation, entry.IsValidation) : clearedFirst validation = false := by
  induction validation with
  | nil => rfl
  | cons entry rest ih =>
    have later := ih fun other member => kinds other (List.mem_cons_of_mem _ member)
    rcases kinds entry List.mem_cons_self with ⟨state, rfl⟩ | ⟨outcome, rfl⟩
    · rfl
    · exact later

/-- Counting clears nothing, and asks for nothing. -/
theorem quiet_counting {counting : List Entry} (counts : ∀ entry ∈ counting, entry.IsCount) :
    queried counting = false ∧ clearedFirst counting = false := by
  induction counting with
  | nil => exact ⟨rfl, rfl⟩
  | cons entry rest ih =>
    have later := ih fun other member => counts other (List.mem_cons_of_mem _ member)
    obtain ⟨value, result, rfl, nonzero⟩ := counts entry List.mem_cons_self
    exact ⟨later.1, by simp [clearedFirst, nonzero, later.2]⟩

/-- The hook of a stage clears the counter too early if it clears it at all, the firmware is not
settled, and the stage is not the one for validation. -/
theorem Watches.hook {cleared : Bool} {detector : Detector} {environment : Environment}
    (watches : Watches cleared detector environment) (uptime : UInt64) (stage : Stage) :
    Watches (cleared || (!detector.settled && stage ≠ detector.validationStage &&
        detector.clears stage uptime))
      (detector.onInterval stage uptime environment.board).1
      { environment with board := (detector.onInterval stage uptime environment.board).2 } := by
  have worked := detector.onInterval_worked stage uptime environment.board
  obtain ⟨validation, added, kinds, asked⟩ := worked.added
  have trace : Environment.trace { environment with
      board := (detector.onInterval stage uptime environment.board).2 } =
        environment.trace ++ (validation ++ detector.clearing stage uptime environment.board) :=
    added.trace
  have asks : queried validation =
      (!detector.settled && decide (stage = detector.validationStage)) := by
    rw [Bool.eq_iff_iff, queried_iff, asked]
    simp
  have clears : queried (detector.clearing stage uptime environment.board) = false ∧
      clearedFirst (detector.clearing stage uptime environment.board) =
        detector.clears stage uptime := by
    unfold Detector.clearing
    split
    · rename_i clears
      exact ⟨rfl, clears.symm⟩
    · rename_i keeps
      exact ⟨rfl, (Bool.eq_false_iff.mpr keeps).symm⟩
  constructor
  · rw [trace, queried_append, queried_append, watches.settled, asks, clears.1, worked.settled]
    cases detector.settled <;> simp
  · rw [trace, clearedFirst_append, clearedFirst_append, watches.settled, watches.cleared,
      clearedFirst_validation kinds, asks, clears.2]
    cases detector.settled <;> simp

/-! ### The stages of a pass -/

/-- Whether the stage of five seconds is served, and the validation stage not before it. -/
def overtakes (validation : Stage) : List Stage → Bool
  | [] => false
  | stage :: rest =>
    if stage = validation then false else stage = .every5s || overtakes validation rest

@[simp] theorem overtakes_nil (validation : Stage) : overtakes validation [] = false := rfl

@[simp] theorem overtakes_cons (validation stage : Stage) (rest : List Stage) :
    overtakes validation (stage :: rest) =
      if stage = validation then false
      else stage = .every5s || overtakes validation rest := rfl

/-- Where the stage of five seconds does not overtake validation, validation is served with it. -/
theorem mem_of_not_overtakes {validation : Stage} {stages : List Stage}
    (five : .every5s ∈ stages) (behind : overtakes validation stages = false) :
    validation ∈ stages := by
  induction stages with
  | nil => contradiction
  | cons stage rest ih =>
    rw [overtakes_cons] at behind
    split at behind
    · rename_i same
      exact List.mem_cons.mpr (.inl same.symm)
    · obtain ⟨other, later⟩ := Bool.or_eq_false_iff.mp behind
      rcases List.mem_cons.mp five with same | five
      · simp [← same] at other
      · exact List.mem_cons_of_mem _ (ih five later)

/-- Whether the counter is cleared too early when these stages are served, and the firmware is not
settled before. -/
def Detector.hurries (detector : Detector) (uptime : UInt64) (stages : List Stage) : Bool :=
  !detector.settled && 0 < detector.bootCounter && detector.stableSeconds.toNat < uptime.toNat &&
    overtakes detector.validationStage stages

/-- The service of a stage changes nothing but by its hook. -/
theorem Watches.serveStage {cleared : Bool} {supervisor : Supervisor σ}
    (watches : Watches cleared supervisor.detector supervisor.environment) (uptime : UInt64)
    (safe : Bool) (stage : Stage) :
    Watches (cleared || supervisor.detector.hurries uptime [stage])
      (supervisor.serveStage uptime safe stage).detector
      (supervisor.serveStage uptime safe stage).environment := by
  have noted := watches.silent (Silent.spansPass.hook _ stage)
  have hooked := noted.hook uptime stage
  have hurries : supervisor.detector.hurries uptime [stage] =
      (!supervisor.detector.settled && stage ≠ supervisor.detector.validationStage &&
        supervisor.detector.clears stage uptime) := by
    simp only [Detector.hurries, Detector.clears, overtakes_cons, overtakes_nil]
    by_cases same : stage = supervisor.detector.validationStage
    · simp [same]
    · simp only [same, ↓reduceIte, ne_eq, not_false_eq_true, decide_true, Bool.and_true,
        Bool.or_false]
      cases supervisor.detector.settled with
      | true => rfl
      | false =>
        by_cases five : stage = .every5s
        · simp [five]
        · simp [five]
  rw [Supervisor.detector_serveStage, hurries]
  exact hooked.silent (Silent.spansPass.across_serveStage uptime safe supervisor stage)

/-- Stages clear the counter too early if the first of them does, or the others do after it. -/
theorem Detector.hurries_cons {detector : Detector} {board : Board} (uptime : UInt64)
    (stage : Stage) (rest : List Stage) :
    detector.hurries uptime (stage :: rest) = (detector.hurries uptime [stage] ||
      (detector.onInterval stage uptime board).1.hurries uptime rest) := by
  have worked := detector.onInterval_worked stage uptime board
  simp only [hurries, overtakes_cons, overtakes_nil, worked.settled, worked.stableSeconds,
    worked.validationStage]
  by_cases same : stage = detector.validationStage
  · simp [same]
  · cases settled : detector.settled with
    | true => simp
    | false =>
      by_cases five : stage = .every5s
      · have counter := worked.bootCounter
        by_cases up : detector.stableSeconds.toNat < uptime.toNat
        · by_cases positive : 0 < detector.bootCounter
          · have other : Stage.every5s ≠ detector.validationStage := five ▸ same
            simp [other, five, up, positive]
          · have idle : detector.clears stage uptime = false := by simp [clears, positive]
            rw [idle] at counter
            simp only [Bool.false_eq_true, false_and, ↓reduceIte] at counter
            simp [counter, positive]
        · simp [up]
      · have idle : detector.clears stage uptime = false := by simp [clears, five]
        have counter := worked.bootCounter
        rw [idle] at counter
        simp only [Bool.false_eq_true, false_and, ↓reduceIte] at counter
        simp [same, five, counter]

/-- The stages in turn clear the counter too early if they come in such an order. -/
theorem Watches.serveEach {cleared : Bool} {supervisor : Supervisor σ}
    (watches : Watches cleared supervisor.detector supervisor.environment) (uptime : UInt64)
    (safe : Bool) (stages : List Stage) :
    let served := stages.foldl (Supervisor.serveStage uptime safe) supervisor
    Watches (cleared || supervisor.detector.hurries uptime stages)
      served.detector served.environment := by
  induction stages generalizing supervisor cleared with
  | nil => simpa [Detector.hurries] using watches
  | cons stage rest ih =>
    have first := watches.serveStage uptime safe stage
    have later := ih first
    rw [Supervisor.detector_serveStage, Bool.or_assoc, ← Detector.hurries_cons] at later
    exact later

/-- What stages leave of the detector: they settle the firmware on its stage, and may clear the
counter on the stage of five seconds, once the device was up for longer than the stable time. -/
structure Served (uptime : UInt64) (stages : List Stage) (before after : Detector) : Prop where
  settled : after.settled = (before.settled || before.validationStage ∈ stages)
  stableSeconds : after.stableSeconds = before.stableSeconds
  validationStage : after.validationStage = before.validationStage
  bootCounter : after.bootCounter = before.bootCounter ∨
    after.bootCounter = 0 ∧ .every5s ∈ stages ∧ before.stableSeconds.toNat < uptime.toNat

/-- The stages in turn leave the detector so. -/
theorem served_serveEach (supervisor : Supervisor σ) (uptime : UInt64) (safe : Bool)
    (stages : List Stage) : Served uptime stages supervisor.detector
      (stages.foldl (Supervisor.serveStage uptime safe) supervisor).detector := by
  induction stages generalizing supervisor with
  | nil => exact ⟨by simp, rfl, rfl, .inl rfl⟩
  | cons stage rest ih =>
    have later := ih (supervisor.serveStage uptime safe stage)
    rw [Supervisor.detector_serveStage] at later
    have worked := supervisor.detector.onInterval_worked stage uptime
      (supervisor.environment.note (.hook stage)).board
    refine ⟨?_, later.stableSeconds.trans worked.stableSeconds,
      later.validationStage.trans worked.validationStage, ?_⟩
    · refine later.settled.trans ?_
      rw [worked.settled, worked.validationStage, Bool.or_assoc]
      simp [eq_comm]
    · have counter := worked.bootCounter
      rcases later.bootCounter with kept | ⟨zero, five, up⟩
      · rw [counter] at kept
        split at kept
        · rename_i cleared
          have clears := cleared.1
          simp only [Detector.clears, Bool.and_eq_true, decide_eq_true_eq] at clears
          exact .inr ⟨kept, List.mem_cons.mpr (.inl clears.1.1.symm), clears.2⟩
        · exact .inl kept
      · rw [worked.stableSeconds] at up
        exact .inr ⟨zero, List.mem_cons_of_mem _ five, up⟩

/-! ### From pass to pass -/

/-- Occurrences beside the loop are silent. -/
theorem Silent.undergo (environment : Environment) (occurrence : Occurrence) :
    Silent environment (environment.undergo occurrence) := by
  have requests := environment.notes_undergo occurrence
  refine requests.imp fun entry request detection => ?_
  cases entry <;> first | exact request | exact detection

/-- So are turns. -/
theorem Silent.meet (environment : Environment) (turn : Turn) :
    Silent environment (environment.meet turn) := by
  have all (happened : List Occurrence) (environment : Environment) :
      Silent environment (happened.foldl Environment.undergo environment) := by
    induction happened generalizing environment with
    | nil => exact refl environment
    | cons first rest ih => exact trans _ _ _ (undergo environment first) (ih _)
  exact trans _ _ _ (all turn.happened environment) (undergo _ _)

/-- A pass clears the counter too early if its stages do. -/
theorem Watches.pass {cleared : Bool} {supervisor : Supervisor σ}
    (watches : Watches cleared supervisor.detector supervisor.environment)
    (knows : Knows (fun command => command.owner ≠ .detector) supervisor.environment) :
    Watches (cleared ||
        supervisor.detector.hurries (supervisor.nextReading / 1000) supervisor.nextStages)
        supervisor.pass.2.detector supervisor.pass.2.environment ∧
      Served (supervisor.nextReading / 1000) supervisor.nextStages supervisor.detector
        supervisor.pass.2.detector := by
  obtain ⟨fired, same, before, detector, after⟩ := Silent.spansPass.across_pass knows
  have agreed : Watches cleared fired.detector fired.environment := by
    rw [same]
    exact watches.silent before
  have watched := agreed.serveEach (supervisor.nextReading / 1000) supervisor.detector.active
    supervisor.nextStages
  have served := served_serveEach fired (supervisor.nextReading / 1000) supervisor.detector.active
    supervisor.nextStages
  rw [same] at watched served
  rw [detector]
  exact ⟨watched.silent after, served⟩

/-- Whether passes with these readings clear a counter before the stage for validation is served. -/
def clearsEarly (validation : Stage) (stable : UInt32) : Scheduler → List UInt64 → Bool
  | _, [] => false
  | scheduler, now :: rest =>
    (stable.toNat < (now / 1000).toNat && overtakes validation (scheduler.due now)) ||
      (validation ∉ scheduler.due now && clearsEarly validation stable (scheduler.fire now).2 rest)

/-- A pass and those after it clear the counter too early if it does itself, or if they do and it
did not serve the stage for validation. -/
theorem Served.early {uptime : UInt64} {stages : List Stage} {before after : Detector}
    (served : Served uptime stages before after) (later : Bool) :
    (before.hurries uptime stages || (!after.settled && 0 < after.bootCounter && later)) =
      (!before.settled && 0 < before.bootCounter &&
        (before.stableSeconds.toNat < uptime.toNat && overtakes before.validationStage stages ||
          before.validationStage ∉ stages && later)) := by
  rw [served.settled, Detector.hurries]
  cases before.settled with
  | true => simp
  | false =>
    rcases served.bootCounter with kept | ⟨zero, five, up⟩
    · rw [kept]
      by_cases positive : 0 < before.bootCounter
      · simp [positive]
      · simp [positive]
    · cases overtaken : overtakes before.validationStage stages with
      | true => simp [zero, up]
      | false => simp [zero, mem_of_not_overtakes five overtaken]

/-- The passes of a boot clear the counter too early if there is a counter to clear, the firmware is
not settled before, and their readings are such. -/
theorem Watches.passes {cleared : Bool} {supervisor : Supervisor σ}
    (watches : Watches cleared supervisor.detector supervisor.environment)
    (knows : Knows (fun command => command.owner ≠ .detector) supervisor.environment)
    (turns : List Turn) :
    let done := supervisor.passes turns
    clearedFirst done.2.environment.trace = (cleared ||
      (!supervisor.detector.settled && 0 < supervisor.detector.bootCounter &&
        clearsEarly supervisor.detector.validationStage supervisor.detector.stableSeconds
          supervisor.scheduler (done.1.map Passed.reading))) := by
  induction turns generalizing supervisor cleared with
  | nil =>
    have none := watches.cleared
    simpa [Supervisor.passes, clearsEarly] using none
  | cons turn rest ih =>
    let met := supervisor.meet turn
    have known : Knows (fun command => command.owner ≠ .detector) met.environment :=
      knows.meet turn
    have watching : Watches cleared met.detector met.environment :=
      watches.silent (Silent.meet supervisor.environment turn)
    obtain ⟨watched, served⟩ := watching.pass known
    have later := ih watched known.pass
    rw [served.stableSeconds, served.validationStage, met.scheduler_pass] at later
    refine later.trans ?_
    rw [Bool.or_assoc, served.early]
    rfl

/-! ### Which readings are too early -/

/-- The reading at which a stage last fired after some readings, given the reading that it was armed
at. -/
def Stage.rearmed (stage : Stage) (armed : Nat) (readings : List Nat) : Nat :=
  readings.foldl (fun last now => if last + stage.period ≤ now then now else last) armed

/-- Readings, given the one at which stages were armed, that clear the counter before the validation
stage: that stage is longer than five seconds, and at some reading the stage of five seconds fires
and the stable time has passed, while every reading before it is too early for the validation stage.
-/
def Hasty (validation : Stage) (stable armed : Nat) (readings : List Nat) : Prop :=
  Stage.every5s.period < validation.period ∧
    ∃ earlier now later, readings = earlier ++ now :: later ∧
      Stage.every5s.rearmed armed earlier + Stage.every5s.period ≤ now ∧ stable < now / 1000 ∧
      ∀ reading ∈ earlier, reading < armed + validation.period

/-- Whether the stage of five seconds overtakes validation is decided stage by stage. -/
theorem overtakes_filter_cons (validation : Stage) (due : Stage → Bool) (stage : Stage)
    (rest : List Stage) : overtakes validation ((stage :: rest).filter due) =
      if due stage && stage = validation then false
      else due stage && stage = .every5s || overtakes validation (rest.filter due) := by
  cases isDue : due stage with
  | false => simp [isDue]
  | true => simp [isDue]

/-- Among the due stages, the stage of five seconds overtakes validation unless that is a shorter
stage, or the same, and due. -/
theorem overtakes_due (validation : Stage) (scheduler : Scheduler) (now : UInt64) :
    overtakes validation (scheduler.due now) = (scheduler.isDue now .every5s &&
      !(scheduler.isDue now validation && validation.period ≤ Stage.every5s.period)) := by
  unfold Scheduler.due Stage.all
  generalize scheduler.isDue now = due
  cases validation <;> simp [overtakes_filter_cons, Stage.period, Bool.and_comm]

/-- A pass clears the counter before the validation stage exactly if that stage is longer than five
seconds, the stage of five seconds is due, and the stable time has passed. -/
theorem overtaken_iff (validation : Stage) (stable : UInt32) {scheduler : Scheduler} {now : UInt64}
    (behind : (scheduler.lastFired validation).toNat ≤ (scheduler.lastFired .every5s).toNat) :
    (stable.toNat < (now / 1000).toNat && overtakes validation (scheduler.due now)) = true ↔
      Stage.every5s.period < validation.period ∧
        (scheduler.lastFired .every5s).toNat + Stage.every5s.period ≤ now.toNat ∧
        stable.toNat < now.toNat / 1000 := by
  have seconds : (now / 1000).toNat = now.toNat / 1000 := rfl
  rw [overtakes_due, seconds]
  simp only [Scheduler.isDue, Bool.and_eq_true, decide_eq_true_eq, Bool.not_eq_true',
    Bool.and_eq_false_iff, decide_eq_false_iff_not]
  omega

/-- After firing, a stage is armed as the reading leaves it. -/
theorem rearmed_fire (scheduler : Scheduler) (now : UInt64) (stage : Stage) :
    ((scheduler.fire now).2.lastFired stage).toNat =
      stage.rearmed (scheduler.lastFired stage).toNat [now.toNat] := by
  simp only [Scheduler.lastFired_fire, Scheduler.mem_due_iff, Stage.rearmed, List.foldl_cons,
    List.foldl_nil]
  split <;> rfl

/-- While the validation stage waits, the stage of five seconds does not fall behind it. -/
theorem behind_fire {validation : Stage} {scheduler : Scheduler} {now : UInt64}
    (behind : (scheduler.lastFired validation).toNat ≤ (scheduler.lastFired .every5s).toNat)
    (unserved : validation ∉ scheduler.due now) :
    (scheduler.fire now).2.lastFired validation = scheduler.lastFired validation ∧
      (scheduler.lastFired validation).toNat ≤
        ((scheduler.fire now).2.lastFired .every5s).toNat := by
  rw [Scheduler.lastFired_fire, if_neg unserved, Scheduler.lastFired_fire]
  refine ⟨rfl, ?_⟩
  split
  · rename_i five
    have fired := (scheduler.mem_due_iff now .every5s).mp five
    omega
  · exact behind

/-- The passes clear the counter early exactly if their readings are hasty, once every stage is
armed, and the stage of five seconds not before the one for validation. -/
theorem clearsEarly_iff (validation : Stage) (stable : UInt32) {scheduler : Scheduler}
    (behind : (scheduler.lastFired validation).toNat ≤ (scheduler.lastFired .every5s).toNat)
    (readings : List UInt64) :
    clearsEarly validation stable scheduler readings = true ↔
      Stage.every5s.period < validation.period ∧
        ∃ earlier now later, readings.map UInt64.toNat = earlier ++ now :: later ∧
          Stage.every5s.rearmed (scheduler.lastFired .every5s).toNat earlier +
            Stage.every5s.period ≤ now ∧ stable.toNat < now / 1000 ∧
          ∀ reading ∈ earlier,
            reading < (scheduler.lastFired validation).toNat + validation.period := by
  induction readings generalizing scheduler with
  | nil => simp [clearsEarly]
  | cons now rest ih =>
    have served := scheduler.mem_due_iff now validation
    have fired := rearmed_fire scheduler now .every5s
    rw [clearsEarly, Bool.or_eq_true, overtaken_iff validation stable behind]
    constructor
    · rintro (⟨longer, five, up⟩ | later)
      · exact ⟨longer, [], now.toNat, rest.map UInt64.toNat, rfl, five, up, by simp⟩
      · obtain ⟨unserved, later⟩ := Bool.and_eq_true_iff.mp later
        have unserved := of_decide_eq_true unserved
        obtain ⟨kept, behind⟩ := behind_fire behind unserved
        obtain ⟨longer, earlier, reading, after, split, five, up, early⟩ :=
          (ih (kept ▸ behind)).mp later
        rw [kept] at early
        rw [fired] at five
        refine ⟨longer, now.toNat :: earlier, reading, after, ?_, five, up, ?_⟩
        · rw [List.map_cons, split, List.cons_append]
        · intro other member
          rcases List.mem_cons.mp member with rfl | before
          · exact Nat.lt_of_not_le (mt served.mpr unserved)
          · exact early other before
    · rintro ⟨longer, earlier, reading, after, split, five, up, early⟩
      cases earlier with
      | nil =>
        obtain ⟨rfl, _⟩ := List.cons.inj split
        exact .inl ⟨longer, five, up⟩
      | cons head earlier =>
        obtain ⟨rfl, remaining⟩ := List.cons.inj split
        have unserved : validation ∉ scheduler.due now :=
          mt served.mp (Nat.not_le_of_lt (early _ List.mem_cons_self))
        obtain ⟨kept, behind⟩ := behind_fire behind unserved
        refine .inr (Bool.and_eq_true_iff.mpr ⟨decide_eq_true unserved, ?_⟩)
        refine (ih (kept ▸ behind)).mpr ⟨longer, earlier, reading, after, remaining, ?_, up, ?_⟩
        · rw [fired]
          exact five
        · rw [kept]
          exact fun other member => early other (List.mem_cons_of_mem _ member)

/-! ### A whole boot -/

/-- Counting the reset clears nothing, and asks about the image exactly if safe mode is entered. -/
theorem Watches.boot {supervisor : Supervisor σ} {cleared : Bool}
    (watches : Watches cleared supervisor.detector supervisor.environment) :
    Watches cleared supervisor.evaluateBoot.detector supervisor.evaluateBoot.environment := by
  have booted := supervisor.evaluateBoot_booted
  obtain ⟨counting, validation, added, counts, kinds, asked⟩ := booted.added
  obtain ⟨unasked, uncleared⟩ := quiet_counting counts
  have trace : supervisor.evaluateBoot.environment.trace =
      supervisor.environment.trace ++ (counting ++ validation) := added.trace
  constructor
  · rw [trace, queried_append, queried_append, watches.settled, unasked, booted.settled,
      Bool.eq_iff_iff]
    simp only [Bool.or_eq_true, queried_iff, asked]
    cases supervisor.detector.settled <;> simp
  · rw [trace, clearedFirst_append, clearedFirst_append, watches.cleared, uncleared,
      clearedFirst_validation kinds]
    simp

namespace Boot

variable (boot : Boot σ) (store : Store)

/-- When the platform has started, the firmware is settled exactly in safe mode, and no counter was
cleared. -/
theorem started_watches :
    Watches false (boot.started store).detector (boot.started store).environment ∧
      (boot.started store).detector.settled = (boot.started store).detector.active := by
  obtain ⟨_, _, lines, said⟩ := boot.builder_reached store
  have detector := boot.opened_detector store
  have empty : (boot.builder store).build.environment.trace = [] := by
    change (boot.builder store).environment.trace = []
    rw [said]
    rfl
  have built : Watches false (Detector.ofConfig boot.config)
      (boot.builder store).build.environment := ⟨by rw [empty]; rfl, by rw [empty]; rfl⟩
  have opened : Watches false (boot.opened store).detector (boot.opened store).environment := by
    rw [detector]
    exact built.silent (Silent.meet _ boot.opening)
  have initialised := opened.boot.silent
    (Silent.spansPass.across_initAdapters (boot.opened store).evaluateBoot)
  have announced := initialised.silent
    (Silent.spansPass.notify _ (.singleton .platformInitialized))
  have settled := (boot.opened store).evaluateBoot_booted.settled
  rw [detector] at settled
  exact ⟨announced.silent (Silent.spansPass.say _ _), settled.trans (Bool.false_or _)⟩

/-- When the firmware is not validated before the counter of crashes is cleared: exactly when the
boot is not in safe mode, there is a counter to clear, and the readings of the passes are hasty. -/
theorem premature_iff_hasty :
    Premature (boot.final store).environment.trace ↔
      ¬boot.config.safeModeThreshold ≤
          Detector.countAfter boot.reason store.flash.bootCounter.value ∧
        Detector.countAfter boot.reason store.flash.bootCounter.value ≠ 0 ∧
        Hasty boot.config.validationStage boot.config.stableSeconds.toNat
          (boot.armed store).toNat ((boot.readings store).map UInt64.toNat) := by
  obtain ⟨watches, settled⟩ := boot.started_watches store
  obtain ⟨counter, active, stable, validation⟩ := boot.started_detector store
  have core : ∀ command ∈ Core.commands, command.owner ≠ .detector := by
    intro command member
    simp only [Core.commands, List.mem_cons, List.not_mem_nil, or_false] at member
    rcases member with rfl | rfl | rfl | rfl | rfl <;> simp
  have knows : Knows (fun command => command.owner ≠ .detector)
      (boot.started store).environment :=
    (boot.opened_knows store core fun _ _ _ _ _ => by simp).start
  have cleared : clearedFirst (boot.final store).environment.trace = _ :=
    watches.passes knows boot.turns
  have armed (stage : Stage) := boot.lastFired_started store stage
  have level : ((boot.started store).scheduler.lastFired boot.config.validationStage).toNat ≤
      ((boot.started store).scheduler.lastFired .every5s).toNat :=
    Nat.le_of_eq (by rw [armed, armed])
  have early := clearsEarly_iff boot.config.validationStage boot.config.stableSeconds level
    (boot.readings store)
  rw [armed, armed] at early
  rw [settled, active, counter, stable, validation, Bool.false_or] at cleared
  rw [premature_iff_clearedFirst, cleared, Bool.and_eq_true, Bool.and_eq_true, and_assoc]
  refine and_congr (by simp) (and_congr (by simp [UInt32.pos_iff_ne_zero]) ?_)
  exact early

/-- A boot into an image that is pending verification. The platform starts a hundred seconds after
the reset, and the first pass is five seconds later. -/
def late : Boot Unit where
  firmware := { image := .pendingVerify }
  opening := { now := 100000 }
  turns := [{ now := 105000 }]

/-- Flash after one crash. -/
def crashed : Store where
  flash := ({} : Flash).setBootCounter 1

/-- The counter is cleared before the image is asked about, though the configuration is valid and
the clock never goes back. -/
theorem late_premature :
    late.config.validate = .ok () ∧ late.armed crashed = 100000 ∧
      late.readings crashed = [105000] ∧ Premature (late.final crashed).environment.trace := by
  refine ⟨rfl, rfl, by decide, (premature_iff_clearedFirst _).mpr ?_⟩
  decide

end Boot

end Overseer
