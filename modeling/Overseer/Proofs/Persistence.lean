import Overseer.Proofs.Commands
import Overseer.Proofs.Override

/-!
# What commands can do to flash

Flash outlives the boots of a device. `Guards` says what any of its operations can make of it: the
configuration is at no time anything but what it was at first, or nothing, or a valid one, and the
counter is what was last stored. Every step of the loop and of what happens beside it is such an
operation. Who stored a counter is in the trace, and besides the detector it can only be a command
of an adapter that was run (`Attributed`). `Lived.protects` puts the boots of a life together.
-/
namespace Overseer

variable {σ : Type}

/-! ### Flash and the trace -/

/-- The blob of the counter after an entry. -/
def Entry.counterBlob (blob : Option (List UInt8)) : Entry → Option (List UInt8)
  | .counterWritten _ value (.ok ()) => some (LittleEndian.encode 4 value.toNat)
  | _ => blob

/-- The blob of the counter after a trace: the one that was stored last, if one was. -/
def counterBlob (blob : Option (List UInt8)) (trace : List Entry) : Option (List UInt8) :=
  trace.foldl Entry.counterBlob blob

/-- Whether an entry is a write of the counter. -/
def Entry.IsCounterWrite : Entry → Prop
  | .counterWritten .. => True
  | _ => False

/-- Without writes the blob of the counter stays. -/
theorem counterBlob_of_unwritten (blob : Option (List UInt8)) {trace : List Entry}
    (unwritten : ∀ entry ∈ trace, ¬entry.IsCounterWrite) : counterBlob blob trace = blob := by
  induction trace with
  | nil => rfl
  | cons entry rest ih =>
    have first : Entry.counterBlob blob entry = blob := by
      cases entry with
      | counterWritten => exact absurd trivial (unwritten _ List.mem_cons_self)
      | _ => rfl
    rw [counterBlob, List.foldl_cons, first]
    exact ih fun other member => unwritten other (List.mem_cons_of_mem _ member)

/-- One entry that is no write. -/
theorem unwritten_singleton {entry : Entry} (unwritten : ¬entry.IsCounterWrite) :
    ∀ other ∈ [entry], ¬other.IsCounterWrite := by
  intro other member
  rw [List.mem_singleton.mp member]
  exact unwritten

/-- What became of flash between two moments, given the entries between them. -/
structure Guards (before after : Flash) (entries : List Entry) : Prop where
  /-- The stored configuration is the one before, or erased, or a valid one. -/
  config : after.blob? Flash.configName = before.blob? Flash.configName ∨
    after.blob? Flash.configName = none ∨
    ∃ config : Config, config.validate = .ok () ∧
      after.blob? Flash.configName = some config.encode
  /-- The counter is the one that was stored last. -/
  counter : after.blob? Flash.counterName =
    counterBlob (before.blob? Flash.counterName) entries
  /-- No other blob changes. -/
  others : ∀ name, name ≠ Flash.configName → name ≠ Flash.counterName →
    after.blob? name = before.blob? name

namespace Guards

variable {first second third : Flash} {entries more : List Entry}

/-- Doing nothing to flash. -/
theorem of_unwritten (flash : Flash) (unwritten : ∀ entry ∈ entries, ¬entry.IsCounterWrite) :
    Guards flash flash entries where
  config := .inl rfl
  counter := (counterBlob_of_unwritten _ unwritten).symm
  others _ _ _ := rfl

/-- One thing after the other. -/
theorem trans (earlier : Guards first second entries) (later : Guards second third more) :
    Guards first third (entries ++ more) where
  config := by
    rcases later.config with same | erased | stored
    · rw [same]
      exact earlier.config
    · exact .inr (.inl erased)
    · exact .inr (.inr stored)
  counter := by
    rw [later.counter, earlier.counter, counterBlob, counterBlob, counterBlob, List.foldl_append]
  others name config counter :=
    (later.others name config counter).trans (earlier.others name config counter)

/-- Storing the counter, or failing to. -/
theorem setBootCounter (store : Store) (actor : Actor) (value : UInt32) :
    Guards store.flash (store.setBootCounter value).2.flash
      [.counterWritten actor value (store.setBootCounter value).1] := by
  unfold Store.setBootCounter
  cases store.counterFault with
  | some error =>
    exact ⟨.inl rfl, rfl, fun _ _ _ => rfl⟩
  | none =>
    have blob (name : String) := store.flash.blob?_write Flash.supervisorSpace Flash.counterKey name
      (LittleEndian.encode 4 value.toNat)
    refine ⟨.inl ?_, ?_, fun name _ other => ?_⟩
    · exact (blob _).trans (if_neg Flash.counterName_ne)
    · exact (blob _).trans (if_pos rfl)
    · exact (blob _).trans (if_neg other.symm)

/-- Storing a valid configuration. -/
theorem of_written (flash : Flash) {config : Config} (valid : config.validate = .ok ())
    (unwritten : ∀ entry ∈ entries, ¬entry.IsCounterWrite) :
    Guards flash (flash.write Flash.supervisorSpace Flash.configKey config.encode) entries where
  config := .inr (.inr ⟨config, valid, (flash.blob?_write _ _ _ _).trans (if_pos rfl)⟩)
  counter := by
    rw [counterBlob_of_unwritten _ unwritten]
    exact (flash.blob?_write _ _ _ _).trans (if_neg Flash.counterName_ne.symm)
  others _ other _ := (flash.blob?_write _ _ _ _).trans (if_neg other.symm)

/-- Saving a configuration, or failing to. -/
theorem save (store : Store) (actor : Actor) (config : Config) :
    Guards store.flash (store.save config).value.2.flash
      [.saved actor (store.save config).value.1] := by
  unfold Store.save
  cases store.saveFault with
  | some error => exact of_unwritten _ (unwritten_singleton id)
  | none =>
    show Guards store.flash (store.flash.save config).value.2
      [.saved actor (store.flash.save config).value.1]
    unfold Flash.save
    cases valid : config.validate with
    | error violation => exact of_unwritten _ (unwritten_singleton id)
    | ok done => exact of_written _ valid (unwritten_singleton id)

/-- Overriding the configuration, or failing to. -/
theorem override (store : Store) (actor : Actor) (overrides : Json) :
    Guards store.flash (store.override overrides).value.2.flash
      [.overridden actor (store.override overrides).value.1] := by
  unfold Store.override
  cases store.overrideFault with
  | some error => exact of_unwritten _ (unwritten_singleton id)
  | none =>
    show Guards store.flash (store.flash.override overrides).value.2
      [.overridden actor (store.flash.override overrides).value.1]
    rcases store.flash.accepted_or_refused overrides with ⟨updated, accepted⟩ | ⟨_, refused⟩
    · rw [Flash.override_of_accepted accepted]
      exact of_written _ accepted.valid (unwritten_singleton id)
    · rw [Flash.override_of_refused refused]
      exact of_unwritten _ (unwritten_singleton id)

/-- Erasing the configuration, or failing to. -/
theorem reset (store : Store) (actor : Actor) :
    Guards store.flash store.reset.value.2.flash [.configReset actor store.reset.value.1] := by
  unfold Store.reset
  cases store.resetFault with
  | some error => exact of_unwritten _ (unwritten_singleton id)
  | none =>
    refine ⟨.inr (.inl ?_), ?_, fun name other _ => store.flash.blob?_reset other⟩
    · exact (store.flash.blob?_delete _ _ _).trans (if_pos rfl)
    · rw [counterBlob_of_unwritten _ (unwritten_singleton id)]
      exact store.flash.blob?_reset Flash.counterName_ne

end Guards

/-! ### The steps of a boot -/

/-- A step that added entries to the trace, and did to flash what they say. -/
def Preserves (before after : Environment) : Prop :=
  ∃ entries, after.trace = before.trace ++ entries ∧
    Guards before.board.store.flash after.board.store.flash entries

namespace Preserves

variable {before after : Environment}

/-- A step that leaves flash alone, and notes no write of the counter. -/
theorem of_notes {kind : Entry → Prop} (notes : Environment.Notes kind before after)
    (flash : after.board.store.flash = before.board.store.flash)
    (unwritten : ∀ entry, kind entry → ¬entry.IsCounterWrite) : Preserves before after := by
  obtain ⟨entries, trace, only⟩ := notes
  refine ⟨entries, trace, ?_⟩
  rw [flash]
  exact .of_unwritten _ fun entry member => unwritten entry (only entry member)

/-- A step that leaves flash alone, and notes one entry, which is no write of the counter. -/
theorem of_note {entry : Entry} (trace : after.trace = before.trace ++ [entry])
    (flash : after.board.store.flash = before.board.store.flash)
    (unwritten : ¬entry.IsCounterWrite) : Preserves before after :=
  of_notes (.of_note trace rfl) flash fun _ same => same ▸ unwritten

/-- A step that leaves flash alone, and notes nothing. -/
theorem of_silence (trace : after.trace = before.trace)
    (flash : after.board.store.flash = before.board.store.flash) : Preserves before after :=
  of_notes (.of_silence trace) flash fun _ impossible => impossible

theorem refl (environment : Environment) : Preserves environment environment :=
  of_silence rfl rfl

theorem trans (first second third : Environment) (earlier : Preserves first second)
    (later : Preserves second third) : Preserves first third := by
  obtain ⟨entries, trace, guards⟩ := earlier
  obtain ⟨more, longer, further⟩ := later
  refine ⟨entries ++ more, ?_, guards.trans further⟩
  rw [longer, trace, List.append_assoc]

/-- Every operation of a program. -/
theorem operation {actor : Actor} {verb : Verb} (operation : Operation actor verb before after) :
    Preserves before after := by
  cases operation with
  | log _ line => exact of_silence rfl rfl
  | clock | inspect => exact refl _
  | elapse _ milliseconds => exact of_silence rfl rfl
  | notify _ events => exact of_note (before.trace_notify actor events) rfl id
  | submit _ id args => exact of_note (before.trace_submit actor id args) rfl (fun write => write)
  | commands _ ids => exact of_note (before.trace_note _) rfl id
  | requestRestart =>
    exact of_note (show _ = before.trace ++ [.restartRequested actor] from rfl) rfl id
  | bootCounter | load => exact of_silence rfl rfl
  | setBootCounter _ value =>
    exact ⟨_, (before.board.adds_setBootCounter actor value).trace, .setBootCounter _ actor value⟩
  | save _ config =>
    exact ⟨[.saved actor (before.board.save actor config).1], rfl, .save _ actor config⟩
  | override _ overrides =>
    exact ⟨[.overridden actor (before.board.override actor overrides).1], rfl,
      .override _ actor overrides⟩
  | resetConfig =>
    exact ⟨[.configReset actor (before.board.resetConfig actor).1], rfl, .reset _ actor⟩
  | driveLed _ action => exact of_silence (before.board.trace_driveLed action) rfl

/-- Everything beside the loop. -/
theorem outside (before after : Environment) (outside : Environment.Outside before after) :
    Preserves before after := by
  have notes := Environment.Outside.notes before after outside
  obtain ⟨occurrence, rfl⟩ := outside
  refine of_notes notes ?_ fun entry request => ?_
  · cases occurrence <;> rfl
  · cases entry <;> first | exact id | exact request.elim

/-- Taking a job. -/
theorem takeJob (environment : Environment) : Preserves environment environment.takeJob.2 := by
  cases waiting : environment.hub.queue with
  | nil =>
    rw [Environment.takeJob_of_nil waiting]
    exact refl _
  | cons job rest =>
    refine of_note (Environment.takeJob_taken waiting).trace ?_ id
    unfold Environment.takeJob
    cases environment.hub.receive with
    | none => rfl
    | some taken => rfl

/-- The count of a boot. -/
theorem guards_counting (reason : ResetReason) (board : Board) :
    Guards board.store.flash (Detector.storeAfter reason board.store).flash
      (Detector.counting reason board) := by
  unfold Detector.storeAfter Detector.counting
  split
  · exact .setBootCounter _ _ _
  · exact .of_unwritten _ (by simp)

/-- The clearing of a stage. -/
theorem guards_clearing (detector : Detector) (stage : Stage) (uptime : UInt64) (board : Board) :
    Guards board.store.flash (if detector.clears stage uptime then
        (board.store.setBootCounter 0).2 else board.store).flash
      (detector.clearing stage uptime board) := by
  unfold Detector.clearing
  split
  · exact .setBootCounter _ _ _
  · exact .of_unwritten _ (by simp)

/-- Validation is no write of the counter. -/
theorem unwritten_validation {entries : List Entry}
    (kinds : ∀ entry ∈ entries, entry.IsValidation) :
    ∀ entry ∈ entries, ¬entry.IsCounterWrite := by
  intro entry member
  rcases kinds entry member with ⟨_, rfl⟩ | ⟨_, rfl⟩
  · exact id
  · exact id

/-- Every step of the loop itself but the looks at the queue. -/
theorem covers : Covers Preserves where
  say _ _ := of_silence rfl rfl
  call environment _ _ := of_note (environment.trace_note _) rfl id
  operation _ _ _ _ _ operation := Preserves.operation operation
  refl := refl
  notify environment _ := of_note (environment.trace_notify _ _) rfl id
  takeEvents environment := of_note environment.trace_takeEvents rfl id
  withdraw _ := of_silence rfl rfl
  restart environment := of_note (show _ = environment.trace ++ [.restart] from rfl) rfl id
  boot loop environment := by
    have booted := (loop.supervisor environment).evaluateBoot_booted
    obtain ⟨validation, added, noted⟩ := booted.noted
    have counted := guards_counting environment.board.resetReason environment.board
    have still : Guards (Detector.storeAfter environment.board.resetReason
        environment.board.store).flash _ validation :=
      .of_unwritten _ (unwritten_validation noted.isValidation)
    refine ⟨_, added.trace, ?_⟩
    rw [booted.store]
    exact counted.trans still
  hook environment detector stage uptime := by
    have worked := detector.onInterval_worked stage uptime (environment.note (.hook stage)).board
    obtain ⟨validation, added, noted⟩ := worked.noted
    have hooked := (environment.board.adds_note (.hook stage)).trans added
    refine ⟨_, hooked.trace, ?_⟩
    have store : (environment.hooked detector stage uptime).board.store = _ := worked.store
    have quiet : Guards environment.board.store.flash environment.board.store.flash
        ([.hook stage] ++ validation) := by
      refine .of_unwritten _ fun entry member => ?_
      rcases List.mem_cons.mp member with rfl | later
      · exact id
      · exact unwritten_validation noted.isValidation entry later
    rw [store, ← List.append_assoc]
    exact quiet.trans (guards_clearing detector stage uptime (environment.note (.hook stage)).board)

/-- Every step there is. -/
theorem pervades : Pervades Preserves where
  toCovers := covers
  trans := trans
  takeJob := takeJob
  program _ _ _ _ operation := .operation operation
  outside := outside

end Preserves

/-! ### Who writes the counter -/

/-- Every write of the counter is by the detector, or by an adapter a command of which was run. -/
def Attributed (trace : List Entry) : Prop :=
  ∀ actor value answer, .counterWritten actor value answer ∈ trace → actor = .detector ∨
    ∃ slot id args, actor = .adapter slot ∧ .handler actor id args ∈ trace

/-- An entry that needs no handler: any but a write of the counter by others than the detector. -/
def Entry.IsPlain (entry : Entry) : Prop :=
  ∀ actor value answer, entry = .counterWritten actor value answer → actor = .detector

namespace Attributed

variable {before after : Environment} {trace more : List Entry}

/-- Traces follow one another. -/
theorem append (earlier : Attributed trace) (later : Attributed more) :
    Attributed (trace ++ more) := by
  intro actor value answer member
  rcases List.mem_append.mp member with first | second
  · rcases earlier actor value answer first with own | ⟨slot, id, args, same, ran⟩
    · exact .inl own
    · exact .inr ⟨slot, id, args, same, List.mem_append_left _ ran⟩
  · rcases later actor value answer second with own | ⟨slot, id, args, same, ran⟩
    · exact .inl own
    · exact .inr ⟨slot, id, args, same, List.mem_append_right _ ran⟩

/-- Plain entries need nothing. -/
theorem of_plain (plain : ∀ entry ∈ trace, entry.IsPlain) : Attributed trace :=
  fun actor value answer member => .inl (plain _ member actor value answer rfl)

/-- Plain entries may be added. -/
theorem notes (attributed : Attributed before.trace)
    (notes : Environment.Notes Entry.IsPlain before after) : Attributed after.trace := by
  obtain ⟨entries, trace, plain⟩ := notes
  rw [trace]
  exact attributed.append (of_plain plain)

/-- An adapter a command of which was run may do anything. -/
theorem operation {slot : Nat} {id : String} {args : Option String} {verb : Verb}
    (attributed : Attributed before.trace)
    (ran : .handler (.adapter slot) id args ∈ before.trace)
    (operation : Operation (.adapter slot) verb before after) : Attributed after.trace := by
  obtain ⟨entries, trace, deeds⟩ := Environment.Notes.of_operation operation
  rw [trace]
  intro actor value answer member
  rcases List.mem_append.mp member with earlier | new
  · rcases attributed actor value answer earlier with own | ⟨slot, id, args, same, ran⟩
    · exact .inl own
    · exact .inr ⟨slot, id, args, same, List.mem_append_left _ ran⟩
  · obtain rfl : actor = .adapter slot := deeds _ new
    exact .inr ⟨slot, id, args, rfl, List.mem_append_left _ ran⟩

end Attributed

namespace Plain

variable {before after : Environment}

/-- Every operation but storing the counter notes something plain. -/
theorem operation {actor : Actor} {verb : Verb} (other : verb ≠ .setBootCounter)
    (operation : Operation actor verb before after) :
    Environment.Notes Entry.IsPlain before after := by
  cases operation with
  | log _ line => exact .of_silence rfl
  | clock | inspect => exact .refl _
  | elapse _ milliseconds => exact .of_silence rfl
  | notify _ events => exact .of_note (before.trace_notify actor events) (by simp [Entry.IsPlain])
  | submit _ id args =>
    exact .of_note (before.trace_submit actor id args) (by simp [Entry.IsPlain])
  | commands _ ids => exact .of_note (before.trace_note _) (by simp [Entry.IsPlain])
  | requestRestart =>
    exact .of_note (show _ = before.trace ++ [.restartRequested actor] from rfl)
      (by simp [Entry.IsPlain])
  | bootCounter | load => exact .of_silence rfl
  | setBootCounter _ value => contradiction
  | save _ config =>
    exact .of_note (show _ = before.trace ++ [.saved actor _] from rfl) (by simp [Entry.IsPlain])
  | override _ overrides =>
    exact .of_note (show _ = before.trace ++ [.overridden actor _] from rfl)
      (by simp [Entry.IsPlain])
  | resetConfig =>
    exact .of_note (show _ = before.trace ++ [.configReset actor _] from rfl)
      (by simp [Entry.IsPlain])
  | driveLed _ action => exact .of_silence (before.board.trace_driveLed action)

/-- Requests are plain. -/
theorem request {entry : Entry} (request : entry.IsRequest) : entry.IsPlain := by
  rintro actor value answer rfl
  exact request.elim

/-- The loop's own steps are plain. -/
theorem step {entry : Entry} (step : entry.IsStep) : entry.IsPlain := by
  rintro actor value answer rfl
  exact step.elim

/-- What the detector notes is plain. -/
theorem detection {entry : Entry} (detection : entry.IsDetection) : entry.IsPlain := by
  rintro actor value answer rfl
  cases actor with
  | detector => rfl
  | core | producer | adapter => exact detection.elim

/-- Every step of the loop itself but the looks at the queue notes what is plain. -/
theorem covers : Covers (Environment.Notes Entry.IsPlain) :=
  .notes (fun _ => request) (fun _ => step) fun _ => detection

/-- Taking a job notes what is plain. -/
theorem takeJob (environment : Environment) :
    Environment.Notes Entry.IsPlain environment environment.takeJob.2 := by
  cases waiting : environment.hub.queue with
  | nil =>
    rw [Environment.takeJob_of_nil waiting]
    exact .refl _
  | cons job rest =>
    exact .of_note (Environment.takeJob_taken waiting).trace (by simp [Entry.IsPlain])

end Plain

/-! ### The steps beside one another -/

/-- Commands of the core, which never store the counter, and commands of adapters. -/
def Command.IsKnown (command : Command) : Prop :=
  (command.owner = .core ∧ ∀ args, (command.handler args).Only Verb.IsCore) ∨
    ∃ slot, command.owner = .adapter slot

/-- All commands are known, and every write of the counter has its reason. -/
structure Accounts (environment : Environment) : Prop where
  knows : Knows Command.IsKnown environment
  attributed : Attributed environment.trace

/-- What every step does: it preserves flash, and where the accounts are in order it keeps them so.
-/
structure Keeps (before after : Environment) : Prop where
  preserves : Preserves before after
  accounts : Accounts before → Accounts after

namespace Keeps

variable {before after : Environment}

theorem refl (environment : Environment) : Keeps environment environment :=
  ⟨.refl environment, fun accounts => accounts⟩

theorem trans (first second third : Environment) (earlier : Keeps first second)
    (later : Keeps second third) : Keeps first third :=
  ⟨.trans _ _ _ earlier.preserves later.preserves,
    fun accounts => later.accounts (earlier.accounts accounts)⟩

/-- A step that at most submits and notes what is plain. -/
theorem of_plain (preserves : Preserves before after) (submits : Submits before after)
    (plain : Environment.Notes Entry.IsPlain before after) : Keeps before after :=
  ⟨preserves, fun accounts => ⟨accounts.knows.submits submits, accounts.attributed.notes plain⟩⟩

/-- Every step of the loop itself but the looks at the queue. -/
theorem covers : Covers Keeps :=
  (Preserves.covers.and (Submits.covers.and Plain.covers)).imp fun _ _ step =>
    of_plain step.1 step.2.1 step.2.2

/-- Everything beside the loop. -/
theorem outside (before after : Environment) (outside : Environment.Outside before after) :
    Keeps before after := by
  refine of_plain (.outside _ _ outside) ?_
    ((Environment.Outside.notes _ _ outside).imp fun _ => Plain.request)
  obtain ⟨occurrence, rfl⟩ := outside
  exact .undergo before occurrence

/-- Taking a job. -/
theorem takeJob (environment : Environment) : Keeps environment environment.takeJob.2 :=
  ⟨.takeJob environment, fun accounts =>
    ⟨accounts.knows.takeJob, accounts.attributed.notes (Plain.takeJob environment)⟩⟩

/-- What is in the trace stays there. -/
theorem mem (keeps : Keeps before after) {entry : Entry} (member : entry ∈ before.trace) :
    entry ∈ after.trace := by
  obtain ⟨entries, trace, _⟩ := keeps.preserves
  rw [trace]
  exact List.mem_append_left _ member

end Keeps

/-- A job that was taken: its command is known, and its handler was called. -/
structure Job.Begun (job : Job) (environment : Environment) : Prop where
  known : job.command.IsKnown
  ran : .handler job.command.owner job.command.id job.args ∈ environment.trace

/-- It stays so. -/
theorem Job.Begun.keeps {job : Job} {before after : Environment} (begun : job.Begun before)
    (keeps : Keeps before after) : job.Begun after := ⟨begun.known, keeps.mem begun.ran⟩

/-- A job that is taken where the accounts are in order has begun. -/
theorem Accounts.begun {environment : Environment} (accounts : Accounts environment) :
    ∀ job ∈ environment.takeJob.1, job.Begun environment.takeJob.2 := by
  intro job member
  cases waiting : environment.hub.queue with
  | nil =>
    rw [Environment.takeJob_of_nil waiting] at member
    contradiction
  | cons first rest =>
    have taken := Environment.takeJob_taken waiting
    rw [taken.answer] at member
    obtain rfl : first = job := Option.some.inj member
    refine ⟨accounts.knows.waiting first (by rw [waiting]; exact List.mem_cons_self), ?_⟩
    rw [taken.trace]
    exact List.mem_append_right _ (List.mem_singleton.mpr rfl)

namespace Loop

/-- Looking at the queue keeps the accounts, and begins the job that is taken. -/
theorem take_keeps {start : Environment} (accounts : Accounts start) :
    take.Assures Keeps Keeps
      (fun taken later => Accounts later ∧ ∀ job ∈ taken, job.Begun later) start := by
  intro found waited
  have before := waited.accounts accounts
  have taking := Keeps.takeJob found
  refine ⟨taking, fun later after => ⟨after.accounts (taking.accounts before), ?_⟩⟩
  exact fun job member => (before.begun job member).keeps after

/-- Receiving keeps the accounts, and begins the job that is taken. -/
theorem receive_keeps (wait : UInt32) {start : Environment} (accounts : Accounts start) :
    (receive wait).Assures Keeps Keeps
      (fun taken later => Accounts later ∧ ∀ job ∈ taken, job.Begun later) start := by
  refine (take_keeps accounts).bind .refl fun taken between outcome => ?_
  cases taken with
  | some job =>
    intro later after
    exact ⟨after.accounts outcome.1, fun other member => (outcome.2 other member).keeps after⟩
  | none =>
    dsimp only
    split
    · exact fun later after => ⟨after.accounts outcome.1, by simp⟩
    · exact take_keeps outcome.1

/-- The handler of a job that has begun keeps the accounts. -/
theorem each_handler_keeps {job : Job} (known : job.command.IsKnown) :
    ((job.command.handler job.args).thread job.command.owner).Each fun before after =>
      job.Begun before → Keeps before after := by
  -- A core command cannot store the counter. One of an adapter can, but its call is in the trace.
  rcases known with ⟨_, only⟩ | ⟨slot, owner⟩
  · refine Program.each_thread _ (only job.args) fun verb before after core operation _ => ?_
    have other : verb ≠ .setBootCounter := by
      rintro rfl
      exact core.elim
    exact .of_plain (.operation operation) (.operation operation) (Plain.operation other operation)
  · refine Program.each_thread _ (Program.only_any _) fun verb before after _ operation begun => ?_
    have ran := begun.ran
    rw [owner] at operation ran
    refine ⟨.operation operation, fun accounts => ⟨?_, ?_⟩⟩
    · exact accounts.knows.submits (.operation operation)
    · exact accounts.attributed.operation ran operation

/-- What is left of a pass keeps the accounts, if its job has begun. -/
theorem passWith_keeps (loop : Loop σ) (taken : Option Job) {start : Environment}
    (accounts : Accounts start) (begun : ∀ job ∈ taken, job.Begun start) :
    (loop.passWith taken).Assures Keeps Keeps (fun _ later => Accounts later) start := by
  -- The steps of the handler need their condition; the others, which do not, may have it.
  have steps : Covers fun before after =>
      (Accounts before ∧ ∀ job ∈ taken, job.Begun before) → Keeps before after :=
    Keeps.covers.imp fun _ _ step _ => step
  have each := steps.each_passWith loop taken fun job member =>
    (each_handler_keeps (begun job member).known).imp fun _ _ step held =>
      step (held.2 job member)
  refine (each.assures ?_ ?_ ⟨accounts, begun⟩).imp (fun _ _ step => step) fun _ _ held => held.1
  · exact fun before after step held =>
      ⟨step.accounts held.1, fun job member => (held.2 job member).keeps step⟩
  · exact fun before after step held =>
      ⟨step.accounts held.1, fun job member => (held.2 job member).keeps step⟩

/-- A thread all of whose steps keep the accounts. -/
theorem keeps_of_each {α : Type} {thread : Thread Environment α} (each : thread.Each Keeps)
    {start : Environment} (accounts : Accounts start) :
    thread.Assures Keeps Keeps (fun _ later => Accounts later) start := by
  have steps : thread.Each fun before after => Accounts before → Keeps before after :=
    each.imp fun _ _ step _ => step
  exact steps.assures (fun _ _ step held => step.accounts held)
    (fun _ _ step held => step.accounts held) accounts

/-- A call of the owner keeps the accounts. -/
theorem call_keeps (loop : Loop σ) (call : Call σ) {start : Environment}
    (accounts : Accounts start) :
    (loop.call call).Assures Keeps Keeps (fun _ later => Accounts later) start := by
  cases call with
  | start => exact keeps_of_each (Keeps.covers.each_start loop) accounts
  | shutdown => exact keeps_of_each (Keeps.covers.each_shutdown loop) accounts
  | remember slot memory => exact fun later after => after.accounts accounts
  | pass =>
    have passing : loop.pass.Assures Keeps Keeps (fun _ later => Accounts later) start :=
      (receive_keeps loop.config.commandWait accounts).bind .refl fun taken _ outcome =>
        loop.passWith_keeps taken outcome.1 outcome.2
    exact passing.bind .refl fun _ _ held later after => after.accounts held

/-- Calls in turn keep the accounts. -/
theorem perform_keeps (loop : Loop σ) (calls : List (Call σ)) {start : Environment}
    (accounts : Accounts start) :
    (loop.perform calls).Assures Keeps Keeps (fun _ later => Accounts later) start := by
  induction calls generalizing loop start with
  | nil => exact fun later after => after.accounts accounts
  | cons call rest ih =>
    exact (loop.call_keeps call accounts).bind .refl fun middle _ held => ih middle held

end Loop

/-! ### Boots -/

namespace Builder

/-- The commands of the core are its own. -/
theorem owner_core : ∀ command ∈ Core.commands, command.owner = .core := by
  intro command member
  simp only [Core.commands, List.mem_cons, List.not_mem_nil, or_false] at member
  rcases member with rfl | rfl | rfl | rfl | rfl <;> rfl

/-- Every command of a builder is known. -/
theorem Reached.isKnown {builder : Builder σ} (reached : builder.Reached) :
    ∀ command ∈ builder.commands.entries, command.IsKnown := by
  induction reached with
  | new config board blank =>
    intro command member
    rcases Registry.mem_registerAll member with none | core
    · contradiction
    · exact .inl ⟨owner_core command core, Core.only_isCore command core⟩
  | register _ adapter ih =>
    intro command member
    rcases mem_commands_register member with earlier | ⟨_, _, own, _, rfl⟩
    · exact ih command earlier
    · exact .inr ⟨_, rfl⟩
  | outside _ occurrence ih => exact ih

/-- When a supervisor is built, the accounts are in order. -/
theorem Reached.accounts {builder : Builder σ} (reached : builder.Reached) :
    Accounts builder.build.environment where
  knows := .build reached reached.isKnown
  attributed := .of_plain fun entry member => Plain.request (reached.requests entry member)

/-- At every moment of a boot, flash is what its entries made of it since the supervisor was
built. -/
theorem Reached.keeps {builder : Builder σ} (reached : builder.Reached) {calls : List (Call σ)}
    {left : Thread Environment (Loop σ)} {moment : Environment}
    (reaches : Thread.Reaches Environment.Outside (builder.build.loop.perform calls)
      builder.build.environment left moment) :
    Guards builder.environment.board.store.flash moment.board.store.flash moment.trace ∧
      Attributed moment.trace := by
  have across := reaches.relates Keeps.refl Keeps.trans Keeps.outside
    (builder.build.loop.perform_keeps calls reached.accounts)
  obtain ⟨entries, trace, guards⟩ := across.preserves
  refine ⟨?_, (across.accounts reached.accounts).attributed⟩
  have before : Guards builder.environment.board.store.flash builder.environment.board.store.flash
      builder.build.environment.trace := by
    refine .of_unwritten _ fun entry member => ?_
    have request := reached.requests entry member
    cases entry <;> first | exact id | exact request.elim
  rw [trace]
  exact before.trans guards

end Builder

/-- The moments of a device's life, given what flash held at first: what was noted in the boots
before the running one, and the environment. Flash is what a boot leaves to the next one, and any
moment may be the last of a boot. -/
inductive Lived (first : Flash) : List Entry → Environment → Prop
  /-- The first boot. -/
  | boot {σ : Type} {builder : Builder σ} {calls : List (Call σ)}
      {left : Thread Environment (Loop σ)} {moment : Environment} (reached : builder.Reached)
      (flash : builder.environment.board.store.flash = first)
      (reaches : Thread.Reaches Environment.Outside (builder.build.loop.perform calls)
        builder.build.environment left moment) : Lived first [] moment
  /-- A further boot. -/
  | reset {history : List Entry} {before : Environment} (past : Lived first history before)
      {σ : Type} {builder : Builder σ} {calls : List (Call σ)}
      {left : Thread Environment (Loop σ)} {moment : Environment} (reached : builder.Reached)
      (flash : builder.environment.board.store.flash = before.board.store.flash)
      (reaches : Thread.Reaches Environment.Outside (builder.build.loop.perform calls)
        builder.build.environment left moment) : Lived first (history ++ before.trace) moment

/-- What holds of flash at a moment of a life, given what it held at first and what was noted since.
-/
structure Protects (first : Flash) (happened : List Entry) (flash : Flash) : Prop
    extends Guards first flash happened where
  /-- Who writes the counter is the detector, or an adapter a command of which was run. -/
  writers : Attributed happened
  /-- Where only commands of the core were run, it is the detector. -/
  detector : (∀ owner id args, .handler owner id args ∈ happened → owner = .core) →
    ∀ actor value answer, .counterWritten actor value answer ∈ happened → actor = .detector

/-- At every moment of a life flash is what the entries since its beginning made of it. -/
theorem Lived.keeps {first : Flash} {history : List Entry} {moment : Environment}
    (lived : Lived first history moment) :
    Guards first moment.board.store.flash (history ++ moment.trace) ∧
      Attributed (history ++ moment.trace) := by
  induction lived with
  | boot reached flash reaches =>
    have boot := reached.keeps reaches
    rw [flash] at boot
    exact boot
  | reset past reached flash reaches ih =>
    have boot := reached.keeps reaches
    rw [flash] at boot
    exact ⟨ih.1.trans boot.1, ih.2.append boot.2⟩

/-- No command can put an invalid configuration in flash, and no core command touches the counter:
at every moment of every life the stored configuration is the first one, or erased, or a valid one,
the counter is what was last stored by the detector or by a command of an adapter, and every other
blob is what it was. -/
theorem Lived.protects {first : Flash} {history : List Entry} {moment : Environment}
    (lived : Lived first history moment) :
    Protects first (history ++ moment.trace) moment.board.store.flash := by
  obtain ⟨guards, attributed⟩ := lived.keeps
  refine ⟨guards, attributed, ?_⟩
  intro core actor value answer written
  rcases attributed actor value answer written with own | ⟨slot, id, args, same, ran⟩
  · exact own
  · have owner := core actor id args ran
    rw [same] at owner
    contradiction

/-- A stored configuration that cannot be read is erased by a command. -/
theorem Lived.protects_resetconf :
    let first : Flash := ⟨[(Flash.configName, [255])]⟩
    let builder : Builder Unit := .onBoard {} { store := { flash := first } }
    let submitted := builder.build.environment.undergo (.submit .producer "resetconf" none)
    let done := (builder.build.loop.perform [.pass]).run submitted
    first.stored? = none ∧ done.2.board.store.flash.blob? Flash.configName = none ∧
      Protects first ([] ++ done.2.trace) done.2.board.store.flash := by
  refine ⟨by rfl, by rfl, ?_⟩
  let builder : Builder Unit :=
    .onBoard {} { store := { flash := ⟨[(Flash.configName, [255])]⟩ } }
  have reached : builder.Reached := .new {} _ rfl
  let submitted := builder.build.environment.undergo (.submit .producer "resetconf" none)
  let done := (builder.build.loop.perform [.pass]).run submitted
  have passing : Thread.Reaches Environment.Outside (builder.build.loop.perform [.pass])
      builder.build.environment (.done done.1) done.2 :=
    .other ⟨.submit .producer "resetconf" none, rfl⟩ (Thread.reaches_run _ _)
  exact Lived.protects (.boot reached rfl passing)

end Overseer
