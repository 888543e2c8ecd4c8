import Mathlib.Data.List.Induction
import Overseer.Proofs.Override

/-!
# What flash keeps for the supervisor

To the supervisor, flash is a pair: a configuration, if one was written, and a counter (`Kept`).
Behind it are blobs of bytes that are found by name, read through short buffers, and decoded each
time. `Represents` ties the two; every request keeps it and is answered alike by both
(`Represents.answer`), so any requests in turn are. For the pair it is plain what they come to: the
counter is the one set last, and the configuration is the one written last since the last reset
(`Flash.Leaves`). The configuration kept is always valid, so what the supervisor starts with is what
was written: it never falls back on the defaults (`Flash.keeps_pair`).
-/
namespace Overseer

/-! ### Requests and their answers -/

namespace Flash

/-- What the supervisor asks of flash. -/
inductive Request where
  | bootCounter
  | setBootCounter (value : UInt32)
  | load
  | loadOrDefault
  | save (config : Config)
  | override (overrides : Json)
  | reset

/-- What it is told. -/
inductive Response where
  | counter (value : UInt32)
  | loaded (result : Except ConfigError Config)
  | config (config : Config)
  | stored (result : Except ConfigError Unit)
  | done

/-- The answer to a request, and flash after it. -/
def answer (flash : Flash) : Request → Response × Flash
  | .bootCounter => (.counter flash.bootCounter.value, flash)
  | .setBootCounter value => (.done, flash.setBootCounter value)
  | .load => (.loaded flash.load.value, flash)
  | .loadOrDefault => (.config flash.loadOrDefault.value, flash)
  | .save config =>
    let (result, after) := (flash.save config).value
    (.stored result, after)
  | .override overrides =>
    let (result, after) := (flash.override overrides).value
    (.stored result, after)
  | .reset => (.done, flash.reset.value)

/-- The answers to requests in turn, and flash after them. -/
def answerAll (flash : Flash) : List Request → List Response × Flash
  | [] => ([], flash)
  | first :: rest =>
    let (response, between) := flash.answer first
    let (responses, after) := between.answerAll rest
    (response :: responses, after)

end Flash

/-! ### The pair behind it -/

namespace Config

/-- A configuration that keeps every rule, or the error of the first that is broken. -/
def checked (config : Config) : Except ConfigError Config :=
  match config.validate with
  | .ok () => .ok config
  | .error violation => .error (.invalid violation)

/-- A configuration overlaid with the members of an object, if they fit and the whole keeps every
rule. -/
def overridden (config : Config) : Json → Except ConfigError Config
  | .object members =>
    match config.overlay members with
    | .ok updated => updated.checked
    | .error _ => .error .invalidOverride
  | _ => .error .invalidOverride

/-- Only a valid configuration passes the check, as it is. -/
theorem checked_eq_ok_iff (config written : Config) :
    config.checked = .ok written ↔ config.Valid ∧ config = written := by
  rw [← config.validate_eq_ok_iff, checked]
  cases config.validate with
  | ok done => simp
  | error violation => simp

/-- Overrides make a configuration of another if they are an object whose members all fit, and their
overlay is valid. -/
theorem overridden_eq_ok_iff (config written : Config) (overrides : Json) :
    config.overridden overrides = .ok written ↔
      ∃ members, overrides = .object members ∧ (∀ member ∈ members, Fits member) ∧
        config.Overlaid members written ∧ written.Valid := by
  constructor
  · intro done
    unfold overridden at done
    split at done
    · rename_i members
      split at done
      · rename_i updated overlaid
        obtain ⟨valid, rfl⟩ := (updated.checked_eq_ok_iff written).mp done
        obtain ⟨fit, overlay⟩ := (config.overlay_eq_ok_iff updated members).mp overlaid
        exact ⟨members, rfl, fit, overlay, valid⟩
      · contradiction
    · contradiction
  · rintro ⟨members, rfl, fit, overlay, valid⟩
    have overlaid := (config.overlay_eq_ok_iff written members).mpr ⟨fit, overlay⟩
    simp only [overridden, overlaid]
    exact (written.checked_eq_ok_iff written).mpr ⟨valid, rfl⟩

end Config

/-- What flash keeps for the supervisor: a configuration, if one was written, and a counter. -/
structure Kept where
  /-- The configuration. -/
  config : Option Config := none
  /-- The counter. -/
  counter : UInt32 := 0

namespace Kept

/-- The configuration that is kept, or the defaults. -/
def current (kept : Kept) : Config := kept.config.getD {}

/-- Keep a configuration, unless there is an error instead. -/
def put (kept : Kept) : Except ConfigError Config → Flash.Response × Kept
  | .ok config => (.stored (.ok ()), { kept with config := some config })
  | .error error => (.stored (.error error), kept)

/-- The answer to a request, and what is kept after it. -/
def answer (kept : Kept) : Flash.Request → Flash.Response × Kept
  | .bootCounter => (.counter kept.counter, kept)
  | .setBootCounter value => (.done, { kept with counter := value })
  | .load => (.loaded (.ok kept.current), kept)
  | .loadOrDefault => (.config kept.current, kept)
  | .save config => kept.put config.checked
  | .override overrides => kept.put (kept.current.overridden overrides)
  | .reset => (.done, { kept with config := none })

/-- The answers to requests in turn, and what is kept after them. -/
def answerAll (kept : Kept) : List Flash.Request → List Flash.Response × Kept
  | [] => ([], kept)
  | first :: rest =>
    let (response, between) := kept.answer first
    let (responses, after) := between.answerAll rest
    (response :: responses, after)

end Kept

/-! ### Flash stands for the pair -/

/-- Flash represents a pair: it stores the configuration, which is valid, and the counter. -/
structure Represents (flash : Flash) (kept : Kept) : Prop where
  stored : flash.stored? = some kept.current
  valid : kept.current.Valid
  counter : flash.bootCounter.value = kept.counter

namespace Flash

/-- Flash that has the same blob for the configuration stores the same one. -/
theorem stored?_congr {flash other : Flash}
    (same : flash.blob? configName = other.blob? configName) :
    flash.stored? = other.stored? := by
  rw [stored?, stored?, same]

/-- Setting the counter leaves the configuration alone. -/
@[simp] theorem stored?_setBootCounter (flash : Flash) (value : UInt32) :
    (flash.setBootCounter value).stored? = flash.stored? :=
  stored?_congr ((blob?_write flash _ _ _ _).trans (if_neg counterName_ne))

/-- Writing a configuration leaves the counter alone. -/
theorem bootCounter_write_config (flash : Flash) (blob : List UInt8) :
    (flash.write supervisorSpace configKey blob).bootCounter = flash.bootCounter :=
  bootCounter_congr ((blob?_write flash _ _ _ _).trans (if_neg counterName_ne.symm))

/-- After a reset the defaults are stored. -/
theorem stored?_reset (flash : Flash) : flash.reset.value.stored? = some {} := by
  have gone : flash.reset.value.blob? configName = none :=
    (blob?_delete flash _ _ _).trans (if_pos rfl)
  rw [stored?, gone]

/-- Write a configuration, unless there is an error instead. -/
def put (flash : Flash) : Except ConfigError Config → Except ConfigError Unit × Flash
  | .ok config => (.ok (), flash.write supervisorSpace configKey config.encode)
  | .error error => (.error error, flash)

/-- Saving writes a configuration that passes the check. -/
theorem save_value (flash : Flash) (config : Config) :
    (flash.save config).value = flash.put config.checked := by
  unfold save Config.checked
  cases config.validate with
  | ok done => rfl
  | error violation => rfl

/-- Overriding writes what the overrides make of the stored configuration. -/
theorem override_value {flash : Flash} {config : Config} (stored : flash.stored? = some config)
    (overrides : Json) :
    (flash.override overrides).value = flash.put (config.overridden overrides) := by
  cases overrides with
  | object members =>
    simp only [override, Config.overridden, Logged.bind_value, load_value, stored,
      Option.elim_some]
    cases config.overlay members with
    | ok updated => exact flash.save_value updated
    | error fault =>
      cases fault with
      | unfit => rfl
      | unknownKey key => rfl
  | _ => rfl

/-- What the supervisor starts with is a stored configuration that is valid. -/
theorem loadOrDefault_of_valid {flash : Flash} {config : Config}
    (stored : flash.stored? = some config) (valid : config.Valid) :
    flash.loadOrDefault = ⟨config, flash.load.lines⟩ := by
  have loaded : flash.load.value = .ok config := by rw [load_value, stored, Option.elim_some]
  have passes := config.validate_eq_ok_iff.mpr valid
  unfold loadOrDefault orDefault
  simp [bind, Except.bind, loaded, passes]

end Flash

namespace Represents

variable {flash : Flash} {kept : Kept}

/-- Empty flash represents the empty pair. -/
theorem empty : Represents {} {} where
  stored := rfl
  valid := Config.valid_default
  counter := rfl

/-- What is put into both is represented, with the same answer. -/
theorem put (same : Represents flash kept) (made : Except ConfigError Config)
    (valid : ∀ config, made = .ok config → config.Valid) :
    .stored (flash.put made).1 = (kept.put made).1 ∧
      Represents (flash.put made).2 (kept.put made).2 := by
  cases made with
  | ok config =>
    refine ⟨rfl, ?_, valid config rfl, ?_⟩
    · exact flash.stored?_write_encode config
    · rw [Kept.put, ← same.counter, Flash.put, Flash.bootCounter_write_config]
  | error error => exact ⟨rfl, same⟩

/-- Every request is answered alike by flash and the pair that it represents, and leaves flash
representing the pair. -/
theorem answer (same : Represents flash kept) (request : Flash.Request) :
    (flash.answer request).1 = (kept.answer request).1 ∧
      Represents (flash.answer request).2 (kept.answer request).2 := by
  cases request with
  | bootCounter =>
    refine ⟨?_, same⟩
    rw [Flash.answer, same.counter, Kept.answer]
  | setBootCounter value =>
    refine ⟨rfl, ?_, same.valid, ?_⟩
    · exact (flash.stored?_setBootCounter value).trans same.stored
    · exact flash.bootCounter_setBootCounter value
  | load =>
    refine ⟨?_, same⟩
    rw [Flash.answer, flash.load_value, same.stored, Option.elim_some, Kept.answer]
  | loadOrDefault =>
    refine ⟨?_, same⟩
    rw [Flash.answer, Flash.loadOrDefault_of_valid same.stored same.valid, Kept.answer]
  | save config =>
    have alike := same.put config.checked fun written done => by
      obtain ⟨valid, rfl⟩ := (config.checked_eq_ok_iff written).mp done
      exact valid
    rw [Flash.answer, flash.save_value]
    exact alike
  | override overrides =>
    have alike := same.put (kept.current.overridden overrides) fun written done => by
      obtain ⟨members, -, -, -, valid⟩ :=
        (kept.current.overridden_eq_ok_iff written overrides).mp done
      exact valid
    rw [Flash.answer, Flash.override_value same.stored]
    exact alike
  | reset =>
    refine ⟨rfl, flash.stored?_reset, Config.valid_default, ?_⟩
    rw [Flash.answer, flash.bootCounter_reset, same.counter, Kept.answer]

/-- So are requests in turn. -/
theorem answerAll (same : Represents flash kept) (requests : List Flash.Request) :
    (flash.answerAll requests).1 = (kept.answerAll requests).1 ∧
      Represents (flash.answerAll requests).2 (kept.answerAll requests).2 := by
  induction requests generalizing flash kept with
  | nil => exact ⟨rfl, same⟩
  | cons first rest ih =>
    obtain ⟨response, between⟩ := same.answer first
    obtain ⟨responses, after⟩ := ih between
    refine ⟨?_, after⟩
    simp only [Flash.answerAll, Kept.answerAll, response, responses]

end Represents

/-! ### What requests come to -/

namespace Flash

/-- The counter that a request sets. -/
def Request.counter? : Request → Option UInt32
  | .setBootCounter value => some value
  | _ => none

/-- A request writes a configuration: a valid one that is saved, or the valid overlay of the
configuration before. -/
inductive Request.Writes (before : Config) : Request → Config → Prop where
  | save {config : Config} (valid : config.Valid) : Writes before (.save config) config
  | override {members : Document} {updated : Config}
      (fit : ∀ member ∈ members, Config.Fits member)
      (overlaid : before.Overlaid members updated) (valid : updated.Valid) :
      Writes before (.override (.object members)) updated

/-- A request spares a configuration that is kept: it is no reset, and it writes none. -/
structure Request.Spares (config : Config) (request : Request) : Prop where
  kept : request ≠ .reset
  unwritten : ∀ written, ¬request.Writes config written

/-- The configuration that requests leave, from empty flash: what the last of them that writes one
writes, or the defaults if that was before the last reset, or none does. -/
inductive Leaves : List Request → Config → Prop where
  | fresh {later : List Request} (spared : ∀ request ∈ later, request.Spares {}) :
      Leaves later {}
  | erased {earlier later : List Request} (spared : ∀ request ∈ later, request.Spares {}) :
      Leaves (earlier ++ .reset :: later) {}
  | written {earlier later : List Request} {request : Request} {before config : Config}
      (leaves : Leaves earlier before) (writes : request.Writes before config)
      (spared : ∀ request ∈ later, request.Spares config) :
      Leaves (earlier ++ request :: later) config

end Flash

namespace Kept

/-- Requests in two parts leave what the second part makes of what the first leaves. -/
theorem answerAll_append (kept : Kept) (earlier later : List Flash.Request) :
    (kept.answerAll (earlier ++ later)).2 = ((kept.answerAll earlier).2.answerAll later).2 := by
  induction earlier generalizing kept with
  | nil => rfl
  | cons first rest ih => exact ih (kept.answer first).2

/-- What a request writes is kept. -/
theorem current_answer_of_writes {kept : Kept} {request : Flash.Request} {config : Config}
    (writes : request.Writes kept.current config) :
    (kept.answer request).2.current = config := by
  cases writes with
  | save valid =>
    have passes := (config.checked_eq_ok_iff config).mpr ⟨valid, rfl⟩
    simp only [answer, passes, put, current, Option.getD_some]
  | @override members _ fit overlaid valid =>
    have made := (kept.current.overridden_eq_ok_iff config (.object members)).mpr
      ⟨members, rfl, fit, overlaid, valid⟩
    rw [answer, made]
    rfl

/-- A request that spares the configuration puts no other. -/
theorem current_put {kept : Kept} {request : Flash.Request} {made : Except ConfigError Config}
    (spares : request.Spares kept.current)
    (writes : ∀ config, made = .ok config → request.Writes kept.current config) :
    (kept.put made).2.current = kept.current := by
  cases made with
  | ok config => exact absurd (writes config rfl) (spares.unwritten config)
  | error error => rfl

/-- A configuration that a request spares is still kept. -/
theorem current_answer_of_spares {kept : Kept} {request : Flash.Request}
    (spares : request.Spares kept.current) :
    (kept.answer request).2.current = kept.current := by
  cases request with
  | save config =>
    refine current_put spares fun written done => ?_
    obtain ⟨valid, rfl⟩ := (config.checked_eq_ok_iff written).mp done
    exact .save valid
  | override overrides =>
    refine current_put spares fun written done => ?_
    obtain ⟨members, rfl, fit, overlaid, valid⟩ :=
      (kept.current.overridden_eq_ok_iff written overrides).mp done
    exact .override fit overlaid valid
  | reset => exact absurd rfl spares.kept
  | _ => rfl

/-- A configuration that requests in turn spare is still kept. -/
theorem current_answerAll_of_spares (kept : Kept) {requests : List Flash.Request}
    (spared : ∀ request ∈ requests, request.Spares kept.current) :
    (kept.answerAll requests).2.current = kept.current := by
  induction requests generalizing kept with
  | nil => rfl
  | cons first rest ih =>
    have same := current_answer_of_spares (spared first List.mem_cons_self)
    have later : ∀ request ∈ rest, request.Spares (kept.answer first).2.current := by
      intro request listed
      rw [same]
      exact spared request (List.mem_cons_of_mem first listed)
    exact (ih _ later).trans same

/-- Putting a configuration leaves the counter alone. -/
@[simp] theorem counter_put (kept : Kept) (made : Except ConfigError Config) :
    (kept.put made).2.counter = kept.counter := by
  cases made with
  | ok config => rfl
  | error error => rfl

/-- Only setting the counter changes it. -/
theorem counter_answer (kept : Kept) (request : Flash.Request) :
    (kept.answer request).2.counter = request.counter?.getD kept.counter := by
  cases request with
  | save config => exact kept.counter_put config.checked
  | override overrides => exact kept.counter_put (kept.current.overridden overrides)
  | _ => rfl

/-- The counter that is kept is the one that was set last. -/
theorem counter_answerAll (kept : Kept) (requests : List Flash.Request) :
    (kept.answerAll requests).2.counter =
      (requests.filterMap Flash.Request.counter?).getLast?.getD kept.counter := by
  induction requests generalizing kept with
  | nil => rfl
  | cons first rest ih =>
    have later := ih (kept.answer first).2
    rw [counter_answer] at later
    cases sets : first.counter? with
    | none =>
      rw [sets] at later
      rw [List.filterMap_cons_none sets]
      exact later
    | some value =>
      rw [sets] at later
      rw [List.filterMap_cons_some sets, List.getLast?_cons]
      exact later

end Kept

namespace Flash

/-- A spared configuration is still the one that is left. -/
theorem Leaves.append {requests : List Request} {config : Config} (leaves : Leaves requests config)
    {next : Request} (spares : next.Spares config) : Leaves (requests ++ [next]) config := by
  have more {later : List Request} (spared : ∀ request ∈ later, request.Spares config) :
      ∀ request ∈ later ++ [next], request.Spares config := by
    simpa [or_imp, forall_and] using ⟨spared, spares⟩
  cases leaves with
  | fresh spared => exact .fresh (more spared)
  | erased spared =>
    rw [List.append_assoc]
    exact .erased (more spared)
  | written leaves writes spared =>
    rw [List.append_assoc]
    exact .written leaves writes (more spared)

/-- The configuration that requests leave is the one that the pair keeps after them. -/
theorem leaves_iff (requests : List Request) (config : Config) :
    Leaves requests config ↔ (({} : Kept).answerAll requests).2.current = config := by
  constructor
  · intro leaves
    induction leaves with
    | fresh spared => exact Kept.current_answerAll_of_spares {} spared
    | @erased earlier later spared =>
      rw [Kept.answerAll_append]
      let erased := ((({} : Kept).answerAll earlier).2.answer .reset).2
      exact Kept.current_answerAll_of_spares erased spared
    | @written earlier later request before config leaves writes spared ih =>
      rw [Kept.answerAll_append]
      rw [← ih] at writes
      have kept := Kept.current_answer_of_writes writes
      rw [← kept] at spared
      exact (Kept.current_answerAll_of_spares _ spared).trans kept
  · rintro rfl
    induction requests using List.reverseRecOn with
    | nil => exact .fresh (by simp)
    | append_singleton earlier next ih =>
      rw [Kept.answerAll_append]
      -- The last request erases, or writes, or spares what is kept before it.
      generalize (({} : Kept).answerAll earlier).2 = kept at ih ⊢
      change Leaves (earlier ++ [next]) (kept.answer next).2.current
      by_cases reset : next = .reset
      · subst reset
        exact .erased (by simp)
      · by_cases writes : ∃ written, next.Writes kept.current written
        · obtain ⟨written, writes⟩ := writes
          rw [Kept.current_answer_of_writes writes]
          exact .written ih writes (by simp)
        · have spares : next.Spares kept.current := ⟨reset, not_exists.mp writes⟩
          rw [Kept.current_answer_of_spares spares]
          exact ih.append spares

/-- What flash keeps: it answers as the pair does, the counter is the one set last, and the
configuration is the one that the requests leave. That one is always loaded, and it is what the
supervisor starts with, with no word of a fallback. -/
structure Keeps (requests : List Request) (responses : List Response) (after : Flash) :
    Prop where
  responses : responses = (({} : Kept).answerAll requests).1
  counter : after.bootCounter.value = (requests.filterMap Request.counter?).getLast?.getD 0
  loaded : ∃ config, after.load.value = .ok config
  loaded_iff : ∀ config, after.load.value = .ok config ↔ Leaves requests config
  trusted : ∀ config, after.load.value = .ok config →
    after.loadOrDefault = ⟨config, after.load.lines⟩

/-- Whatever is asked of flash that was empty, it keeps the pair for the supervisor. -/
theorem keeps_pair (requests : List Request) :
    Keeps requests (({} : Flash).answerAll requests).1 (({} : Flash).answerAll requests).2 := by
  obtain ⟨responses, same⟩ := Represents.empty.answerAll requests
  have loaded := load_value (({} : Flash).answerAll requests).2
  rw [same.stored, Option.elim_some] at loaded
  refine ⟨responses, ?_, ⟨_, loaded⟩, ?_, ?_⟩
  · rw [same.counter, Kept.counter_answerAll]
  · intro config
    rw [leaves_iff, loaded, Except.ok.injEq]
  · intro config found
    obtain rfl := Except.ok.inj (loaded.symm.trans found)
    exact loadOrDefault_of_valid same.stored same.valid

end Flash

end Overseer
