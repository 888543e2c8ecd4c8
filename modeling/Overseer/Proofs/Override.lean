import Overseer.Proofs.Stored

/-!
# Overrides

Overrides are checked in four steps: their shape, what is stored, each member against its field, and
the rules for the whole. `Flash.override_exact` says which overrides pass, what is stored after
them, and which step refuses the others; a refusal changes nothing. Between them stands a
description of the overlay that knows no order of work: a field has the value of its last member,
and a field without one is what it was (`Config.Overlaid`).
-/
namespace Overseer

/-! ### Settings and their fields -/

/-- A JSON value stands for a setting: a natural number, or a stage, given by its name or by an
object with that name as its only key and null as its value. -/
inductive Setting.Denoted : Json → Setting → Prop where
  | natural (value : Nat) : Denoted (.integer value) (.natural value)
  | named (stage : Stage) : Denoted (.string stage.name) (.stage stage)
  | tagged (stage : Stage) : Denoted (.object [(stage.name, .null)]) (.stage stage)

namespace Setting

/-- What a JSON value is read as is what it stands for. -/
theorem ofJson?_eq_some_iff (value : Json) (setting : Setting) :
    ofJson? value = some setting ↔ Denoted value setting := by
  constructor
  · intro read
    unfold ofJson? at read
    split at read
    · rename_i value
      obtain rfl := Option.some.inj read
      exact .natural value
    · rename_i text
      obtain ⟨stage, found, rfl⟩ := Option.map_eq_some_iff.mp read
      rw [← Stage.name_of_ofName? found]
      exact .named stage
    · rename_i text
      obtain ⟨stage, found, rfl⟩ := Option.map_eq_some_iff.mp read
      rw [← Stage.name_of_ofName? found]
      exact .tagged stage
    · contradiction
  · intro denoted
    cases denoted with
    | natural value => rfl
    | named stage => simp [ofJson?]
    | tagged stage => simp [ofJson?]

/-- A JSON value stands for one setting at most. -/
theorem Denoted.unique {value : Json} {one other : Setting} (first : Denoted value one)
    (second : Denoted value other) : one = other := by
  have read := (ofJson?_eq_some_iff value one).mpr first
  have again := (ofJson?_eq_some_iff value other).mpr second
  rw [read] at again
  exact Option.some.inj again

end Setting

namespace Field

/-- The size of the word that a field is kept in; the stage is kept in none. -/
def wordSize? : Field → Option Nat
  | .safeModeThreshold | .stableSeconds | .commandWait => some UInt32.size
  | .taskStack => some UInt16.size
  | .taskPriority | .taskCore => some UInt8.size
  | .validationStage => none

/-- A field admits a number that its word can hold, or a stage if it is the one for a stage. -/
def Admits (field : Field) : Setting → Prop
  | .natural value => ∃ size, field.wordSize? = some size ∧ value < size
  | .stage _ => field.wordSize? = none

/-- The names that are read as a field are its own. -/
theorem ofName?_eq_some_iff (text : String) (field : Field) :
    ofName? text = some field ↔ text = field.name := by
  constructor
  · intro found
    exact (name_of_ofName? found).symm
  · rintro rfl
    exact ofName?_name field

/-- Different fields have different names. -/
theorem name_injective {one other : Field} (same : one.name = other.name) : one = other := by
  have found := congrArg ofName? same
  simpa using found

end Field

namespace Config

/-- A configuration is what its fields are set to. -/
theorem eq_of_setting {one other : Config}
    (same : ∀ field, one.setting field = other.setting field) : one = other := by
  have threshold := same .safeModeThreshold
  have stable := same .stableSeconds
  have wait := same .commandWait
  have stage := same .validationStage
  have priority := same .taskPriority
  have stack := same .taskStack
  have core := same .taskCore
  simp only [setting, Setting.natural.injEq, Setting.stage.injEq, UInt32.toNat_inj,
    UInt16.toNat_inj, UInt8.toNat_inj] at threshold stable wait stage priority stack core
  cases one
  cases other
  simp_all

/-- A configuration in which one field is set anew. -/
def Assigned (config : Config) (field : Field) (setting : Setting) (updated : Config) : Prop :=
  ∀ other, updated.setting other = if other = field then setting else config.setting other

/-- A setting that the field admits is assigned, and nothing else. -/
theorem exists_assign? (config : Config) {field : Field} {setting : Setting}
    (admitted : field.Admits setting) :
    ∃ updated, config.assign? field setting = some updated ∧
      config.Assigned field setting updated := by
  cases setting with
  | stage stage =>
    cases field with
    | validationStage =>
      refine ⟨_, rfl, ?_⟩
      intro other
      cases other <;> rfl
    | _ => contradiction
  | natural value =>
    obtain ⟨size, word, small⟩ := admitted
    cases field with
    | validationStage => contradiction
    | _ =>
      obtain rfl := Option.some.inj word
      refine ⟨_, if_pos small, ?_⟩
      intro other
      cases other <;> simp [setting, Nat.mod_eq_of_lt small]

/-- A setting that is assigned is one that the field admits. -/
theorem admits_of_assign? {config updated : Config} {field : Field} {setting : Setting}
    (assigned : config.assign? field setting = some updated) : field.Admits setting := by
  cases setting with
  | stage stage =>
    cases field with
    | validationStage => rfl
    | _ => contradiction
  | natural value =>
    cases field with
    | validationStage => contradiction
    | _ =>
      simp only [assign?, Option.ite_none_right_eq_some] at assigned
      exact ⟨_, rfl, assigned.1⟩

/-- Assigning is setting one field anew to something that it admits. -/
theorem assign?_eq_some_iff (config updated : Config) (field : Field) (setting : Setting) :
    config.assign? field setting = some updated ↔
      field.Admits setting ∧ config.Assigned field setting updated := by
  constructor
  · intro done
    have admitted := admits_of_assign? done
    obtain ⟨found, again, assigned⟩ := config.exists_assign? admitted
    rw [done] at again
    obtain rfl := Option.some.inj again
    exact ⟨admitted, assigned⟩
  · rintro ⟨admitted, assigned⟩
    obtain ⟨found, done, again⟩ := config.exists_assign? admitted
    have same : found = updated := by
      apply eq_of_setting
      intro other
      rw [again other, assigned other]
    rw [done, same]

/-! ### The overlay -/

/-- A member fits if its key names a field and its value is a setting that the field admits. -/
def Fits (member : String × Json) : Prop :=
  ∃ (field : Field) (setting : Setting),
    member.1 = field.name ∧ Setting.Denoted member.2 setting ∧ field.Admits setting

/-- A configuration overlaid with members: a field has the value of its last member, and a field
without one is what it was. -/
structure Overlaid (config : Config) (members : List (String × Json)) (updated : Config) :
    Prop where
  given : ∀ earlier field value later, members = earlier ++ (Field.name field, value) :: later →
    (∀ member ∈ later, member.1 ≠ field.name) → Setting.Denoted value (updated.setting field)
  kept : ∀ field, (∀ member ∈ members, member.1 ≠ Field.name field) →
    updated.setting field = config.setting field

/-- Without members there is nothing to overlay. -/
theorem overlaid_nil_iff (config updated : Config) :
    config.Overlaid [] updated ↔ updated = config := by
  constructor
  · intro overlaid
    exact eq_of_setting fun field => overlaid.kept field (by simp)
  · rintro rfl
    exact ⟨by simp, fun _ _ => rfl⟩

/-- The first member may be overlaid before the others. -/
theorem overlaid_cons_iff {config between : Config} {field : Field} {setting : Setting}
    (assigned : config.Assigned field setting between) {value : Json}
    (denoted : Setting.Denoted value setting) (rest : List (String × Json)) (updated : Config) :
    config.Overlaid ((field.name, value) :: rest) updated ↔ between.Overlaid rest updated := by
  constructor
  · intro overlaid
    refine ⟨?_, ?_⟩
    · intro earlier other found later split last
      refine overlaid.given ((field.name, value) :: earlier) other found later ?_ last
      rw [split, List.cons_append]
    · intro other absent
      rw [assigned other]
      -- The first member's own field is given by it, if no later member names it again.
      by_cases same : other = field
      · subst same
        have last := overlaid.given [] other value rest rfl absent
        rw [if_pos rfl]
        exact last.unique denoted
      · rw [if_neg same]
        refine overlaid.kept other ?_
        intro member listed
        rcases List.mem_cons.mp listed with rfl | listed
        · exact fun named => same (Field.name_injective named).symm
        · exact absent member listed
  · intro overlaid
    refine ⟨?_, ?_⟩
    · intro earlier other found later split last
      cases earlier with
      | nil =>
        obtain ⟨head, rfl⟩ := List.cons.inj split
        obtain ⟨named, rfl⟩ := Prod.mk.inj head
        obtain rfl := Field.name_injective named
        rw [overlaid.kept field last, assigned field, if_pos rfl]
        exact denoted
      | cons first earlier =>
        exact overlaid.given earlier other found later (List.cons.inj split).2 last
    · intro other absent
      have different : other ≠ field := by
        rintro rfl
        exact absent _ (List.mem_cons_self) rfl
      rw [overlaid.kept other fun member listed => absent member (List.mem_cons_of_mem _ listed),
        assigned other, if_neg different]

/-- The settings of members are found one after another. -/
theorem settings?_cons_eq_some_iff (member : String × Json) (rest : Document)
    (settings : List (Field × Setting)) :
    settings? (member :: rest) = some settings ↔
      ∃ (field : Field) (setting : Setting) (later : List (Field × Setting)),
        member.1 = field.name ∧ Setting.Denoted member.2 setting ∧
          settings? rest = some later ∧ settings = (field, setting) :: later := by
  simp only [settings?, List.mapM_cons, Option.bind_eq_bind, Option.bind_eq_some_iff,
    Field.ofName?_eq_some_iff, Setting.ofJson?_eq_some_iff, Option.some.injEq, Option.pure_def]
  constructor
  · rintro ⟨_, ⟨field, named, setting, denoted, rfl⟩, later, found, rfl⟩
    exact ⟨field, setting, later, named, denoted, found, rfl⟩
  · rintro ⟨field, setting, later, named, denoted, found, rfl⟩
    exact ⟨_, ⟨field, named, setting, denoted, rfl⟩, later, found, rfl⟩

/-- Members that all have settings are all named for fields. -/
theorem isSome_ofName?_of_settings? {members : Document} {settings : List (Field × Setting)}
    (found : settings? members = some settings) :
    ∀ member ∈ members, (Field.ofName? member.1).isSome := by
  induction members generalizing settings with
  | nil => simp
  | cons first rest ih =>
    obtain ⟨field, setting, later, named, denoted, further, -⟩ :=
      (settings?_cons_eq_some_iff first rest settings).mp found
    intro member listed
    rcases List.mem_cons.mp listed with rfl | listed
    · rw [named, Field.ofName?_name, Option.isSome_some]
    · exact ih further member listed

/-- Overlaying succeeds when every member has a setting and all of these can be assigned; that every
key is looked at first shows only in a refusal. -/
theorem overlay_eq_ok_iff_assignAll? (config updated : Config) (members : Document) :
    config.overlay members = .ok updated ↔
      ∃ settings, settings? members = some settings ∧
        config.assignAll? settings = some updated := by
  rw [← Option.bind_eq_some_iff]
  unfold overlay
  split
  · rename_i key value unknown
    have listed := List.mem_of_find?_eq_some unknown
    have nameless := List.find?_some unknown
    cases found : settings? members with
    | none => simp
    | some settings =>
      have named := isSome_ofName?_of_settings? found (key, value) listed
      rw [Option.isNone_iff_eq_none] at nameless
      rw [nameless] at named
      contradiction
  · cases (settings? members).bind config.assignAll? with
    | none => simp
    | some found => simp

/-- Overlaying with no members changes nothing. -/
theorem overlay_nil (config : Config) : config.overlay [] = .ok config := rfl

/-- Overlaying with several members assigns the first and overlays the others. -/
theorem overlay_cons_eq_ok_iff (config updated : Config) (member : String × Json)
    (rest : Document) :
    config.overlay (member :: rest) = .ok updated ↔
      ∃ (field : Field) (setting : Setting) (between : Config),
        member.1 = field.name ∧ Setting.Denoted member.2 setting ∧
          config.assign? field setting = some between ∧ between.overlay rest = .ok updated := by
  simp only [overlay_eq_ok_iff_assignAll?, settings?_cons_eq_some_iff]
  constructor
  · rintro ⟨_, ⟨field, setting, later, named, denoted, found, rfl⟩, done⟩
    obtain ⟨between, assigned, further⟩ := Option.bind_eq_some_iff.mp done
    exact ⟨field, setting, between, named, denoted, assigned, later, found, further⟩
  · rintro ⟨field, setting, between, named, denoted, assigned, later, found, further⟩
    refine ⟨_, ⟨field, setting, later, named, denoted, found, rfl⟩, ?_⟩
    exact Option.bind_eq_some_iff.mpr ⟨between, assigned, further⟩

/-- Overlaying succeeds exactly if every member fits, and gives the overlay. -/
theorem overlay_eq_ok_iff (config updated : Config) (members : Document) :
    config.overlay members = .ok updated ↔
      (∀ member ∈ members, Fits member) ∧ config.Overlaid members updated := by
  -- By induction on the members: the first is assigned, and the rest overlays what that gives.
  induction members generalizing config with
  | nil =>
    rw [overlay_nil, overlaid_nil_iff]
    simp [eq_comm]
  | cons member rest ih =>
    obtain ⟨key, value⟩ := member
    rw [overlay_cons_eq_ok_iff, List.forall_mem_cons]
    constructor
    · rintro ⟨field, setting, between, rfl, denoted, done, further⟩
      obtain ⟨admitted, assigned⟩ := (config.assign?_eq_some_iff between field setting).mp done
      obtain ⟨fit, overlaid⟩ := (ih between).mp further
      have whole := (overlaid_cons_iff assigned denoted rest updated).mpr overlaid
      exact ⟨⟨⟨field, setting, rfl, denoted, admitted⟩, fit⟩, whole⟩
    · rintro ⟨⟨⟨field, setting, rfl, denoted, admitted⟩, fit⟩, whole⟩
      obtain ⟨between, done, assigned⟩ := config.exists_assign? admitted
      have overlaid := (overlaid_cons_iff assigned denoted rest updated).mp whole
      exact ⟨field, setting, between, rfl, denoted, done, (ih between).mpr ⟨fit, overlaid⟩⟩

/-- Members that all fit can be overlaid. -/
theorem exists_overlaid (config : Config) {members : Document}
    (fit : ∀ member ∈ members, Fits member) : ∃ updated, config.Overlaid members updated := by
  induction members generalizing config with
  | nil => exact ⟨config, (overlaid_nil_iff config config).mpr rfl⟩
  | cons member rest ih =>
    obtain ⟨⟨field, setting, named, denoted, admitted⟩, later⟩ := List.forall_mem_cons.mp fit
    obtain ⟨key, value⟩ := member
    obtain rfl : key = field.name := named
    obtain ⟨between, -, assigned⟩ := config.exists_assign? admitted
    obtain ⟨updated, overlaid⟩ := ih between later
    exact ⟨updated, (overlaid_cons_iff assigned denoted rest updated).mpr overlaid⟩

end Config

/-! ### The checks in a row -/

namespace Flash

/-- Why overrides are refused: the first of the four checks that fails. -/
inductive Refused (flash : Flash) : Json → ConfigError → Prop where
  | shape {overrides : Json} (other : ∀ members, overrides ≠ .object members) :
      Refused flash overrides .invalidOverride
  | unreadable {members : Document} (nothing : flash.stored? = none) :
      Refused flash (.object members) .corrupted
  | member {members : Document} {config : Config} (stored : flash.stored? = some config)
      (unfit : ¬∀ member ∈ members, Config.Fits member) :
      Refused flash (.object members) .invalidOverride
  | rule {members : Document} {config updated : Config} {violation : Violation}
      (stored : flash.stored? = some config) (fit : ∀ member ∈ members, Config.Fits member)
      (overlaid : config.Overlaid members updated)
      (invalid : updated.validate = .error violation) :
      Refused flash (.object members) (.invalid violation)

/-- Overrides that pass every check, and the configuration that they make. -/
structure Accepted (flash : Flash) (overrides : Json) (updated : Config) : Prop where
  checked : ∃ members config, overrides = .object members ∧ flash.stored? = some config ∧
    (∀ member ∈ members, Config.Fits member) ∧ config.Overlaid members updated
  valid : updated.validate = .ok ()

/-- What overriding does: it accepts or refuses by the checks, it stores the overlay and nothing
else, and it changes nothing if it refuses. -/
structure Overridden (flash : Flash) (overrides : Json) (result : Except ConfigError Unit)
    (after : Flash) : Prop where
  accepted_iff : result = .ok () ↔ ∃ updated, flash.Accepted overrides updated
  loaded : ∀ updated, flash.Accepted overrides updated → after.load.value = .ok updated
  others : ∀ name, name ≠ configName → after.blob? name = flash.blob? name
  refused_iff : ∀ error, result = .error error ↔ flash.Refused overrides error
  unchanged : ∀ error, result = .error error → after = flash

/-- One check fails, or all of them pass. -/
theorem accepted_or_refused (flash : Flash) (overrides : Json) :
    (∃ updated, flash.Accepted overrides updated) ∨ ∃ error, flash.Refused overrides error := by
  by_cases object : ∃ members, overrides = .object members
  · obtain ⟨members, rfl⟩ := object
    cases stored : flash.stored? with
    | none => exact .inr ⟨_, .unreadable stored⟩
    | some config =>
      by_cases fit : ∀ member ∈ members, Config.Fits member
      · obtain ⟨updated, overlaid⟩ := config.exists_overlaid fit
        cases valid : updated.validate with
        | ok done => exact .inl ⟨updated, ⟨members, config, rfl, stored, fit, overlaid⟩, valid⟩
        | error violation => exact .inr ⟨_, .rule stored fit overlaid valid⟩
      · exact .inr ⟨_, .member stored fit⟩
  · have other : ∀ members, overrides ≠ .object members := by
      intro members same
      exact object ⟨members, same⟩
    exact .inr ⟨_, .shape other⟩

/-- Overrides that pass every check are stored. -/
theorem override_of_accepted {flash : Flash} {overrides : Json} {updated : Config}
    (accepted : flash.Accepted overrides updated) :
    (flash.override overrides).value =
      (.ok (), flash.write supervisorSpace configKey updated.encode) := by
  obtain ⟨⟨members, config, rfl, stored, fit, overlaid⟩, valid⟩ := accepted
  have done := (config.overlay_eq_ok_iff updated members).mpr ⟨fit, overlaid⟩
  simp only [override, Logged.bind_value, load_value, stored, Option.elim_some, done, save, valid,
    Logged.pure_value]

/-- Overrides that fail a check change nothing. -/
theorem override_of_refused {flash : Flash} {overrides : Json} {error : ConfigError}
    (refused : flash.Refused overrides error) :
    (flash.override overrides).value = (.error error, flash) := by
  cases refused with
  | shape other =>
    unfold override
    split
    · exact absurd rfl (other _)
    · rfl
  | unreadable nothing =>
    simp only [override, Logged.bind_value, load_value, nothing, Option.elim_none,
      Logged.pure_value]
  | @member members config stored unfit =>
    simp only [override, Logged.bind_value, load_value, stored, Option.elim_some]
    cases done : config.overlay members with
    | ok updated => exact absurd ((config.overlay_eq_ok_iff updated members).mp done).1 unfit
    | error fault =>
      cases fault with
      | unfit => rfl
      | unknownKey key => rfl
  | @rule members config updated violation stored fit overlaid invalid =>
    have done := (config.overlay_eq_ok_iff updated members).mpr ⟨fit, overlaid⟩
    simp only [override, Logged.bind_value, load_value, stored, Option.elim_some, done, save,
      invalid, Logged.pure_value]

/-- Overrides succeed exactly if every check passes. -/
theorem override_eq_ok_iff (flash : Flash) (overrides : Json) :
    (flash.override overrides).value.1 = .ok () ↔ ∃ updated, flash.Accepted overrides updated := by
  constructor
  · intro done
    rcases flash.accepted_or_refused overrides with accepted | ⟨error, refused⟩
    · exact accepted
    · rw [override_of_refused refused] at done
      contradiction
  · rintro ⟨updated, accepted⟩
    rw [override_of_accepted accepted]

/-- Overrides fail with the error of the first check that fails. -/
theorem override_eq_error_iff (flash : Flash) (overrides : Json) (error : ConfigError) :
    (flash.override overrides).value.1 = .error error ↔ flash.Refused overrides error := by
  constructor
  · intro failed
    rcases flash.accepted_or_refused overrides with ⟨updated, accepted⟩ | ⟨other, refused⟩
    · rw [override_of_accepted accepted] at failed
      contradiction
    · rw [override_of_refused refused] at failed
      obtain rfl := Except.error.inj failed
      exact refused
  · intro refused
    rw [override_of_refused refused]

/-- What overrides make of the stored configuration is what is loaded then. -/
theorem load_override {flash : Flash} {overrides : Json} {updated : Config}
    (accepted : flash.Accepted overrides updated) :
    (flash.override overrides).value.2.load.value = .ok updated := by
  rw [override_of_accepted accepted, load_value, stored?_write_encode, Option.elim_some]

/-- Overrides succeed exactly if every check passes. Then the overlay is what is stored, and all
other blobs are what they were; otherwise the error is that of the first check that fails, and flash
is what it was. -/
theorem override_exact (flash : Flash) (overrides : Json) :
    flash.Overridden overrides (flash.override overrides).value.1
      (flash.override overrides).value.2 where
  accepted_iff := flash.override_eq_ok_iff overrides
  loaded _ accepted := load_override accepted
  others _ other := flash.blob?_override overrides other
  refused_iff := flash.override_eq_error_iff overrides
  unchanged error failed := by
    have refused := (flash.override_eq_error_iff overrides error).mp failed
    rw [override_of_refused refused]

/-- A member that fits its field may still break a rule together with a field that is kept. -/
example : (override {} (.object [("firmware_validation_stage", .string "Every5m")])).value =
    (.error (.invalid .validationStage), {}) := by
  rfl

end Flash

end Overseer
