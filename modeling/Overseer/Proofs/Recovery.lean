import Mathlib.Logic.Relation
import Overseer.Proofs.Persistence
import Overseer.Proofs.SafeMode

/-!
# Recovery from crash loops

A threshold of zero would keep a device in safe mode for good, and one that cannot be reached would
let it crash for ever. Neither can come from flash: whatever is stored, the configuration to start
with is valid (`Flash.valid_loadOrDefault`). Each boot of a row of crashes hands a counter one
greater on to the next (`Crashed.counts`), so safe mode begins with the boot whose number is the
threshold, and with the hundredth at the latest (`Flash.recovers`).
-/
namespace Overseer

variable {σ : Type}

/-! ### The decision on the mode -/

/-- What happens beside the supervisor changes neither flash nor the cause of the reset. -/
theorem Environment.Outside.kept {before after : Environment}
    (waited : Relation.ReflTransGen Environment.Outside before after) :
    after.board.store.flash = before.board.store.flash ∧
      after.board.resetReason = before.board.resetReason := by
  induction waited with
  | refl => exact ⟨rfl, rfl⟩
  | tail _ last ih =>
    obtain ⟨occurrence, rfl⟩ := last
    cases occurrence <;> exact ih

/-- A count that was stored is in flash. -/
theorem Store.bootCounter_of_stored {store : Store} {value : UInt32}
    (stored : (store.setBootCounter value).1 = .ok ()) :
    (store.setBootCounter value).2.flash.bootCounter.value = value := by
  unfold setBootCounter at stored ⊢
  cases fault : store.counterFault with
  | none => exact store.flash.bootCounter_setBootCounter value
  | some error =>
    rw [fault] at stored
    contradiction

namespace Builder

variable {builder : Builder σ} {found ready moment : Environment} {started : Loop σ}
  {calls : List (Call σ)} {left : Thread Environment (Loop σ)}

/-- The supervisor of a builder after the decision on its mode, given what it found then. -/
def decision (builder : Builder σ) (found : Environment) : Supervisor σ :=
  (builder.build.loop.supervisor found).evaluateBoot

/-- A boot decides on its mode: its supervisor was built, and then things happened beside it until
it started. -/
structure Decides (builder : Builder σ) (found : Environment) : Prop where
  reached : builder.Reached
  waited : Relation.ReflTransGen Environment.Outside builder.build.environment found

/-- The mode is that of the threshold and the counter. -/
theorem Decides.active (decides : builder.Decides found) :
    (builder.decision found).detector.active =
      decide (builder.config.safeModeThreshold ≤
        Detector.countAfter builder.environment.board.resetReason
          builder.environment.board.store.flash.bootCounter.value) := by
  obtain ⟨flash, reason⟩ := Environment.Outside.kept decides.waited
  have booted := (builder.build.loop.supervisor found).evaluateBoot_booted
  have counter : (builder.decision found).detector.bootCounter =
      Detector.countAfter found.board.resetReason found.board.store.flash.bootCounter.value :=
    booted.bootCounter
  have active : (builder.decision found).detector.active =
      decide (builder.config.safeModeThreshold ≤ (builder.decision found).detector.bootCounter) :=
    booted.active
  rw [active, counter, flash, reason]
  rfl

/-- When the start of a boot has ended, its detector is that of a decision on its mode. -/
theorem Boots.decides (boots : builder.Boots started ready calls left moment) :
    ∃ found, builder.Decides found ∧ started.detector = (builder.decision found).detector := by
  have starts := boots.starts
  rw [Loop.start] at starts
  obtain ⟨found, waited, later⟩ : ∃ found,
      Relation.ReflTransGen Environment.Outside builder.build.environment found ∧
        Thread.Reaches Environment.Outside
          (builder.build.loop.initialise (builder.decision found).detector)
          (builder.decision found).environment (.done started) ready :=
    starts.of_step (fun _ => .refl) (fun _ _ _ => .trans) fun _ _ => .single
  have same : (builder.build.loop.initialise (builder.decision found).detector).Ends
      fun loop => loop.detector = (builder.decision found).detector := by
    refine (Thread.ends_any _).bind fun _ _ => (Thread.ends_any _).bind fun _ _ => ?_
    exact (Thread.ends_any _).bind fun _ _ => (Thread.ends_any _).bind fun _ _ => rfl
  exact ⟨found, ⟨boots.reached, waited⟩, same.holds later⟩

/-! ### Crashes in a row -/

/-- A boot after an abnormal reset, up to a moment after the decision on its mode, at which it may
crash itself: while the adapters are initialised, in the calls after the start or between them. The
count is stored, and nobody writes the counter after that. -/
structure Crashes (builder : Builder σ) (found : Environment) (calls : List (Call σ))
    (left : Thread Environment (Loop σ)) (moment : Environment) : Prop
    extends builder.Decides found where
  abnormal : builder.environment.board.resetReason.isAbnormal = true
  runs : Thread.Reaches Environment.Outside
    (builder.build.loop.initialise (builder.decision found).detector >>=
      fun loop => loop.perform calls) (builder.decision found).environment left moment
  stored : ∀ actor value outcome, .counterWritten actor value outcome ∈ moment.trace →
    outcome = .ok ()
  alone : Environment.Notes (fun entry => ¬entry.IsCounterWrite)
    (builder.decision found).environment moment

/-- It leaves a counter that is one greater. -/
theorem Crashes.bootCounter (crashes : builder.Crashes found calls left moment) :
    moment.board.store.flash.bootCounter.value =
      Detector.increment builder.environment.board.store.flash.bootCounter.value := by
  obtain ⟨flash, reason⟩ := Environment.Outside.kept crashes.waited
  have abnormal : found.board.resetReason.isAbnormal = true := by
    rw [reason]
    exact crashes.abnormal
  have same : found.board.store.flash.bootCounter.value =
      builder.environment.board.store.flash.bootCounter.value := by
    rw [flash]
    rfl
  -- What the decision wrote is in the trace, so it was stored.
  have booted := (builder.build.loop.supervisor found).evaluateBoot_booted
  have store : (builder.decision found).environment.board.store =
      Detector.storeAfter found.board.resetReason found.board.store := booted.store
  rw [Detector.storeAfter, if_pos abnormal] at store
  obtain ⟨validation, added, _⟩ := booted.noted
  obtain ⟨entries, trace, unwritten⟩ := crashes.alone
  let count := Detector.increment found.board.store.flash.bootCounter.value
  have written : .counterWritten .detector count (found.board.store.setBootCounter count).1 ∈
      moment.trace := by
    have decided : (builder.decision found).environment.trace = _ := added.trace
    rw [trace, decided, Detector.counting]
    simp [abnormal, Loop.supervisor, count]
  have counted := Store.bootCounter_of_stored (crashes.stored _ _ _ written)
  rw [← store] at counted
  -- Whatever happened since left the counter alone.
  have each := Thread.each_bind (Preserves.pervades.each_initialise builder.build.loop
    (builder.decision found).detector) fun loop => Preserves.pervades.each_perform loop calls
  obtain ⟨others, total, guards⟩ := Preserves.pervades.across each crashes.runs
  rw [trace] at total
  have blob := guards.counter
  rw [← List.append_cancel_left total, counterBlob_of_unwritten _ unwritten] at blob
  rw [Flash.bootCounter_congr blob, counted, ← same]

end Builder

/-- Crashes in a row, given what flash held at first: the configuration of each boot and whether it
was in safe mode, and what the last one left in flash. -/
inductive Crashed (first : Flash) : List (Config × Bool) → Flash → Prop
  /-- No boot yet. -/
  | none : Crashed first [] first
  /-- A further boot, from the flash that the one before left. -/
  | crash {boots : List (Config × Bool)} {flash : Flash} (past : Crashed first boots flash)
      {σ : Type} {builder : Builder σ} {found moment : Environment} {calls : List (Call σ)}
      {left : Thread Environment (Loop σ)} (crashes : builder.Crashes found calls left moment)
      (handed : builder.environment.board.store.flash = flash) :
      Crashed first (boots ++ [(builder.config, (builder.decision found).detector.active)])
        moment.board.store.flash

/-- From a counter of zero each crash is counted, and a boot is in safe mode if its number has
reached its threshold. -/
theorem Crashed.counts {first flash : Flash} {boots : List (Config × Bool)}
    (crashed : Crashed first boots flash) (zero : first.bootCounter.value = 0) :
    flash.bootCounter.value.toNat = min boots.length (UInt32.size - 1) ∧
      ∀ place config safe, boots[place]? = some (config, safe) →
        (safe = true ↔ config.safeModeThreshold.toNat ≤ place + 1) := by
  -- By induction on the row, which grows at its end: only the last boot is new.
  induction crashed with
  | none =>
    rw [zero]
    exact ⟨rfl, fun _ _ _ impossible => by contradiction⟩
  | @crash boots flash past σ builder found moment calls left crashes handed ih =>
    obtain ⟨count, modes⟩ := ih
    have next : (Detector.increment builder.environment.board.store.flash.bootCounter.value).toNat =
        min (boots.length + 1) (UInt32.size - 1) := by
      rw [Detector.toNat_increment, handed, count]
      omega
    constructor
    · rw [crashes.bootCounter, next, List.length_append, List.length_singleton]
    · intro place config safe listed
      rw [List.getElem?_append] at listed
      split at listed
      · exact modes place config safe listed
      · rename_i later
        rw [List.getElem?_singleton] at listed
        split at listed
        · rename_i last
          obtain ⟨rfl, rfl⟩ := Prod.mk.inj (Option.some.inj listed)
          have number : place = boots.length := by omega
          have bound : builder.config.safeModeThreshold.toNat < UInt32.size :=
            builder.config.safeModeThreshold.toNat_lt
          rw [crashes.active, Detector.countAfter, if_pos crashes.abnormal, decide_eq_true_eq,
            UInt32.le_iff_toNat_le, next, number]
          omega
        · contradiction

/-! ### Configurations from flash -/

/-- What makes a configuration safe to start with. -/
structure Config.Recovers (config : Config) : Prop where
  /-- It keeps every rule. -/
  accepted : config.validate = .ok ()
  /-- A boot without crashes before it is not in safe mode. -/
  normal : ∀ {σ : Type} {builder : Builder σ} {found : Environment}, builder.Decides found →
    builder.config = config → builder.environment.board.store.flash.bootCounter.value = 0 →
      builder.environment.board.resetReason.isAbnormal = false →
        (builder.decision found).detector.active = false
  /-- Nor is it later on. -/
  stays : ∀ {σ : Type} {builder : Builder σ} {started now : Loop σ} {ready moment : Environment}
    {calls : List (Call σ)}, builder.Boots started ready calls (.done now) moment →
      builder.config = config → builder.environment.board.store.flash.bootCounter.value = 0 →
        builder.environment.board.resetReason.isAbnormal = false → now.detector.active = false
  /-- Of crashes in a row, the boots from the threshold on are in safe mode, and so is the hundredth
  at the latest. -/
  degraded : ∀ {first flash : Flash} {boots : List (Config × Bool)}, Crashed first boots flash →
    first.bootCounter.value = 0 → ∀ place safe, boots[place]? = some (config, safe) →
      (safe = true ↔ config.safeModeThreshold.toNat ≤ place + 1) ∧
        (100 ≤ place + 1 → safe = true)

/-- Whatever flash holds as a configuration, a device that starts with what is loaded from it is not
in safe mode without crashes, and does not crash outside it for ever. -/
theorem Flash.recovers (flash : Flash) : flash.loadOrDefault.value.Recovers := by
  have valid := flash.valid_loadOrDefault
  obtain ⟨positive, limited⟩ := valid.safeModeThreshold
  have normal {σ : Type} {builder : Builder σ} {found : Environment}
      (decides : builder.Decides found) (config : builder.config = flash.loadOrDefault.value)
      (zero : builder.environment.board.store.flash.bootCounter.value = 0)
      (normal : builder.environment.board.resetReason.isAbnormal = false) :
      (builder.decision found).detector.active = false := by
    rw [decides.active, config, zero, Detector.countAfter, normal]
    simp only [Bool.false_eq_true, ↓reduceIte, decide_eq_false_iff_not, UInt32.le_iff_toNat_le,
      UInt32.toNat_zero]
    omega
  refine ⟨(Config.validate_eq_ok_iff _).mpr valid, normal, ?_, ?_⟩
  · intro σ builder started now ready moment calls boots config zero reset
    obtain ⟨found, decides, same⟩ := boots.decides
    obtain ⟨early, added, adds⟩ := boots.adds
    rw [(adds.ended now rfl).alike.active, same]
    exact normal decides config zero reset
  · intro first last boots crashed zero place safe listed
    have mode := (crashed.counts zero).2 place _ safe listed
    exact ⟨mode, fun late => mode.mpr (by omega)⟩

/-- Flash with a stored threshold of two. -/
def tightFlash : Flash := ({} : Flash).write Flash.supervisorSpace Flash.configKey
  ({ safeModeThreshold := 2 } : Config).encode

/-- A device that restarts after a panic. -/
def panickedBuilder (flash : Flash) : Builder Unit :=
  .onBoard flash.loadOrDefault.value { store := { flash }, resetReason := .panic }

/-- The same, when its mode was decided. -/
def panicked (flash : Flash) : Environment :=
  ((panickedBuilder flash).decision (panickedBuilder flash).build.environment).environment

/-- It may crash at that moment, so a row of crashes can go on for ever. -/
theorem Crashed.panic {first flash : Flash} {boots : List (Config × Bool)}
    (past : Crashed first boots flash) : ∃ safe,
      Crashed first (boots ++ [(flash.loadOrDefault.value, safe)])
        (panicked flash).board.store.flash := by
  obtain ⟨validation, added, noted⟩ := (panickedBuilder flash).build.evaluateBoot_booted.noted
  have trace : (panicked flash).trace = _ := added.trace
  have stored (actor : Actor) (value : UInt32) (outcome : Except StorageError Unit)
      (written : .counterWritten actor value outcome ∈ (panicked flash).trace) :
      outcome = .ok () := by
    rw [trace] at written
    rcases List.mem_append.mp written with before | decided
    · contradiction
    · rcases List.mem_append.mp decided with counted | validated
      · cases List.mem_singleton.mp counted
        rfl
      · exact absurd trivial (Preserves.unwritten_validation noted.isValidation _ validated)
  have crashes : ∃ left, (panickedBuilder flash).Crashes (panickedBuilder flash).build.environment
      [] left (panicked flash) :=
    ⟨_, ⟨.new _ _ rfl, .refl⟩, rfl, .here _ _, stored, .refl _⟩
  obtain ⟨_, crashes⟩ := crashes
  exact ⟨_, .crash past crashes rfl⟩

/-- Two panics in a row lead such a device to safe mode, but not the first of them. -/
theorem recovers_tight :
    let config := tightFlash.loadOrDefault.value
    config.safeModeThreshold = 2 ∧ ∃ safe degraded last,
      Crashed tightFlash [(config, safe), (config, degraded)] last ∧
        safe = false ∧ degraded = true := by
  let config := tightFlash.loadOrDefault.value
  have threshold : config.safeModeThreshold = 2 := by decide +kernel
  have zero : tightFlash.bootCounter.value = 0 := by decide +kernel
  have kept : (panicked tightFlash).board.store.flash.loadOrDefault.value = config := by
    decide +kernel
  have start : Crashed tightFlash [] tightFlash := .none
  obtain ⟨safe, once⟩ := start.panic
  obtain ⟨degraded, crashed⟩ := once.panic
  rw [kept] at crashed
  have modes := tightFlash.recovers.degraded crashed zero
  have below : ¬config.safeModeThreshold.toNat ≤ 0 + 1 := by
    rw [threshold]
    decide
  have reached : config.safeModeThreshold.toNat ≤ 1 + 1 := by
    rw [threshold]
    decide
  refine ⟨threshold, safe, degraded, _, crashed, ?_, (modes 1 _ rfl).1.mpr reached⟩
  exact Bool.eq_false_iff.mpr (mt (modes 0 _ rfl).1.mp below)

end Overseer
