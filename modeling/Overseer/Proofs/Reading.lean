import Overseer.Proofs.Grammar
import Overseer.Proofs.Partial

/-!
# Reading configurations

A configuration is read against the defaults. An object that has members for some of its fields, in
any order and with members of other names in between, is read as the defaults with these fields
replaced, and so is an array of its first fields; the text that is written for a configuration is
read as that configuration (`Config.legible`). All of this is said of texts, by the grammar of
JSON, and not of what a reader makes of them.
-/
namespace Overseer

/-! ### Settings -/

namespace Setting

/-- How a setting is spelled: a natural number by its decimal digits, and a stage by its name, or by
an object with that name as its only key and null as its value. -/
inductive Spelled : Json.Tree → Setting → Prop
  | natural (value : Nat) :
      Spelled (.number ⟨false, Nat.toDigits 10 value, [], none⟩) (.natural value)
  | named {pieces : List Json.Piece} {stage : Stage}
      (named : Json.Piece.text? pieces = some stage.name) : Spelled (.string pieces) (.stage stage)
  | tagged {pieces : List Json.Piece} {stage : Stage}
      (named : Json.Piece.text? pieces = some stage.name) :
      Spelled (.object [(pieces, .null)]) (.stage stage)

/-- A field's setting is read as it is spelled. -/
theorem ofTree?_of_spelled {tree : Json.Tree} {setting : Setting} {field : Field}
    (spelled : Spelled tree setting) (admitted : field.Admits setting) :
    ofTree? tree = some setting := by
  cases spelled with
  | natural value =>
    obtain ⟨size, word, small⟩ := admitted
    have fits : value < UInt64.size := by
      cases field <;> cases word <;> exact Nat.lt_trans small (by decide)
    rw [ofTree?, Json.Numeral.integer?_toDigits fits]
  | named named => simp [ofTree?, named]
  | tagged named => simp [ofTree?, named]

end Setting

namespace Config

/-- A field admits what it is set to. -/
theorem admits_setting (config : Config) (field : Field) : field.Admits (config.setting field) := by
  cases field with
  | validationStage => rfl
  | safeModeThreshold | stableSeconds | commandWait => exact ⟨_, rfl, UInt32.toNat_lt _⟩
  | taskStack => exact ⟨_, rfl, UInt16.toNat_lt _⟩
  | taskPriority | taskCore => exact ⟨_, rfl, UInt8.toNat_lt _⟩

/-- A configuration with some fields replaced by what another one has. -/
def replace (base config : Config) (fields : List Field) : Config where
  safeModeThreshold :=
    if .safeModeThreshold ∈ fields then config.safeModeThreshold else base.safeModeThreshold
  stableSeconds := if .stableSeconds ∈ fields then config.stableSeconds else base.stableSeconds
  commandWait := if .commandWait ∈ fields then config.commandWait else base.commandWait
  validationStage :=
    if .validationStage ∈ fields then config.validationStage else base.validationStage
  taskPriority := if .taskPriority ∈ fields then config.taskPriority else base.taskPriority
  taskStack := if .taskStack ∈ fields then config.taskStack else base.taskStack
  taskCore := if .taskCore ∈ fields then config.taskCore else base.taskCore

/-- The replaced fields are set to what the other configuration has, and all others as before. -/
theorem setting_replace (base config : Config) (fields : List Field) (field : Field) :
    (base.replace config fields).setting field =
      if field ∈ fields then config.setting field else base.setting field := by
  cases field <;> simp only [replace, setting] <;> split <;> rfl

/-- With all fields replaced, it is the other configuration. -/
theorem replace_all (base config : Config) : base.replace config Field.all = config := by
  apply eq_of_setting
  intro field
  rw [setting_replace, if_pos field.mem_all]

/-- Assigning some fields what a configuration has replaces these fields. -/
theorem assignAll?_setting (base config : Config) (fields : List Field) :
    base.assignAll? (fields.map fun field => (field, config.setting field)) =
      some (base.replace config fields) := by
  induction fields generalizing base with
  | nil =>
    have same : base.replace config [] = base := by
      apply eq_of_setting
      simp [setting_replace]
    rw [same]
    rfl
  | cons field rest ih =>
    have assigned : base.Assigned field (config.setting field) (base.replace config [field]) := by
      intro other
      rw [setting_replace]
      by_cases same : other = field
      · subst same
        simp
      · simp [same]
    have done := (assign?_eq_some_iff ..).mpr ⟨config.admits_setting field, assigned⟩
    have both : (base.replace config [field]).replace config rest =
        base.replace config (field :: rest) := by
      apply eq_of_setting
      intro other
      simp only [setting_replace, List.mem_cons, List.not_mem_nil, or_false]
      grind
    rw [List.map_cons, assignAll?, List.foldlM_cons]
    show (base.assign? field (config.setting field) >>= _) = _
    rw [done]
    exact (ih _).trans (congrArg some both)

/-! ### Items and members -/

variable {config : Config} {fields : List Field}

/-- Values that spell what a configuration has are read as that. -/
theorem settings_of_spelled {values : List Json.Tree}
    (spelled : List.Forall₂ (fun value field => Setting.Spelled value (config.setting field))
      values fields) :
    ((fields.zip values).mapM fun (field, value) => do
      let setting ← Setting.ofTree? value
      some (field, setting)) = some (fields.map fun field => (field, config.setting field)) := by
  induction spelled with
  | nil => rfl
  | @cons value field values fields first _ ih =>
    have read := Setting.ofTree?_of_spelled first (config.admits_setting field)
    rw [List.zip_cons_cons, List.mapM_cons, ih]
    simp only [read, Option.bind_eq_bind, Option.bind_some]
    rfl

/-- Items that spell what a configuration has in its first fields are read as that. -/
theorem settingsOfItems?_of_spelled {items : List Json.Tree} (first : fields <+: Field.all)
    (spelled : List.Forall₂ (fun item field => Setting.Spelled item (config.setting field))
      items fields) :
    settingsOfItems? items = some (fields.map fun field => (field, config.setting field)) := by
  obtain ⟨others, all⟩ := first
  have paired : Field.all.zip items = fields.zip items := by
    have cut : (fields ++ others).zip (items ++ []) = fields.zip items ++ others.zip [] :=
      List.zip_append spelled.length_eq.symm
    rwa [all, List.append_nil, List.zip_nil_right, List.append_nil] at cut
  rw [settingsOfItems?, paired]
  exact settings_of_spelled spelled

/-- A member of a name that is no field's is passed over. -/
theorem knownMembers?_other {key : List Json.Piece} {name : String}
    (named : Json.Piece.text? key = some name) (unknown : ∀ field, name ≠ Field.name field)
    (value : Json.Tree) (rest : List (List Json.Piece × Json.Tree)) :
    knownMembers? ((key, value) :: rest) = knownMembers? rest := by
  have none : Field.ofName? name = none := by
    refine Option.eq_none_iff_forall_ne_some.mpr fun field found => ?_
    exact unknown field (Field.name_of_ofName? found).symm
  unfold knownMembers?
  rw [List.mapM_cons]
  simp only [named, Option.bind_eq_bind, Option.bind_some, Option.bind_assoc]
  refine congrArg _ (funext fun others => ?_)
  show some (List.filterMap _ _) = some _
  rw [List.filterMap_cons, none]
  rfl

/-- Members that give fields what a configuration has, in the order in which these are listed, with
members of other names in between. -/
inductive Carries (config : Config) : List (List Json.Piece × Json.Tree) → List Field → Prop
  | nil : Carries config [] []
  | field {key : List Json.Piece} {field : Field} {value : Json.Tree}
      {members : List (List Json.Piece × Json.Tree)} {fields : List Field}
      (named : Json.Piece.text? key = some field.name)
      (spelled : Setting.Spelled value (config.setting field))
      (rest : Carries config members fields) :
      Carries config ((key, value) :: members) (field :: fields)
  | other {key : List Json.Piece} {name : String} {value : Json.Tree}
      {members : List (List Json.Piece × Json.Tree)} {fields : List Field}
      (named : Json.Piece.text? key = some name) (unknown : ∀ field, name ≠ Field.name field)
      (rest : Carries config members fields) : Carries config ((key, value) :: members) fields

variable {members : List (List Json.Piece × Json.Tree)}

/-- The members that are known are those of the fields. -/
theorem Carries.known (carries : config.Carries members fields) :
    ∃ values, knownMembers? members = some (fields.zip values) ∧
      List.Forall₂ (fun value field => Setting.Spelled value (config.setting field))
        values fields := by
  induction carries with
  | nil => exact ⟨[], rfl, .nil⟩
  | @field key field value members fields named spelled _ ih =>
    obtain ⟨values, known, further⟩ := ih
    refine ⟨value :: values, ?_, .cons spelled further⟩
    rw [knownMembers?_cons named, known]
    rfl
  | other named unknown _ ih =>
    obtain ⟨values, known, further⟩ := ih
    exact ⟨values, by rw [knownMembers?_other named unknown, known], further⟩

/-- Members that give different fields what a configuration has are read as that. -/
theorem Carries.settings (carries : config.Carries members fields) (different : fields.Nodup) :
    settingsOfMembers? members = some (fields.map fun field => (field, config.setting field)) := by
  obtain ⟨values, known, spelled⟩ := carries.known
  have named : (fields.zip values).map Prod.fst = fields :=
    List.map_fst_zip (Nat.le_of_eq spelled.length_eq.symm)
  rw [settingsOfMembers?, known, Option.bind_eq_bind, Option.bind_some, named, if_pos different]
  exact settings_of_spelled spelled

end Config

/-! ### What is written -/

namespace Json

/-- A text with its quotes is written as a string of that text. -/
theorem written_renderString (text : String) : ∃ pieces, Piece.text? pieces = some text ∧
    Token.Written (renderString text).toList (.string pieces) := by
  obtain ⟨pieces, written, same⟩ := Piece.exists_written_iff.mpr (spells_escape text.toList)
  refine ⟨pieces, same, ?_⟩
  rw [renderString, String.toList_ofList]
  exact .string written

end Json

/-- What is written for a setting spells it. -/
theorem Setting.laid_render (setting : Setting) : ∃ tree, Spelled tree setting ∧
    Json.Token.Laid setting.json.render.toList tree.tokens := by
  cases setting with
  | natural value =>
    refine ⟨_, .natural value, ?_⟩
    have digits : (Json.render (.integer value)).toList = Nat.toDigits 10 value := Nat.toList_repr
    rw [json, digits]
    exact (Json.Token.Written.number (Json.Numeral.written_toDigits value)).laid
  | stage stage =>
    obtain ⟨pieces, named, written⟩ := Json.written_renderString stage.name
    exact ⟨_, .named named, written.laid⟩

namespace Config

/-- What is written for some fields of a configuration are members that carry them. -/
theorem laid_renderMembers (config : Config) (fields : List Field) :
    ∃ members, config.Carries members fields ∧ List.Forall₂ Json.Token.Laid
      ((Json.renderMembers (fields.map fun field =>
        (field.name, (config.setting field).json))).map String.toList)
      (Json.Tree.tokensOfMembers members) := by
  induction fields with
  | nil => exact ⟨[], .nil, .nil⟩
  | cons field rest ih =>
    obtain ⟨members, carries, later⟩ := ih
    obtain ⟨key, named, written⟩ := Json.written_renderString field.name
    obtain ⟨value, spelled, laid⟩ := (config.setting field).laid_render
    refine ⟨_, .field named spelled carries, .cons ?_ later⟩
    rw [String.toList_append, String.toList_append]
    exact (written.laid.append Json.Token.Written.colon.laid).append laid

/-- What is written for a configuration is an object that carries all fields. -/
theorem laid_render (config : Config) : ∃ members, config.Carries members Field.all ∧
    Json.Token.Laid config.render.toList (Json.Tree.object members).tokens := by
  obtain ⟨members, carries, parts⟩ := config.laid_renderMembers Field.all
  refine ⟨members, carries, ?_⟩
  have inner := Json.Token.laid_intercalate parts
  have text : config.render.toList = ['\x7b'] ++ [','].intercalate ((Json.renderMembers
      (Field.all.map fun field => (field.name, (config.setting field).json))).map String.toList) ++
        ['\x7d'] := by
    rw [render, Json.render, String.toList_append, String.toList_append, String.toList_intercalate]
    rfl
  rw [text]
  exact (Json.Token.Written.openObject.laid.append inner).append Json.Token.Written.closeObject.laid

/-- How texts that give what a configuration has are read. -/
structure Legible (config : Config) : Prop where
  /-- An object with members for different fields, in any order and with members of other names in
  between, is read as the defaults with these fields replaced. -/
  object : ∀ (text : String) (members : List (List Json.Piece × Json.Tree)) (fields : List Field),
    Json.Token.Laid text.toList (Json.Tree.object members).tokens → config.Carries members fields →
      fields.Nodup → ofText? text = some (({} : Config).replace config fields)
  /-- An array of the first fields is read as the defaults with these fields replaced. -/
  array : ∀ (text : String) (items : List Json.Tree) (count : Nat), count ≤ Field.all.length →
    Json.Token.Laid text.toList (Json.Tree.array items).tokens →
      List.Forall₂ (fun item field => Setting.Spelled item (config.setting field)) items
        (Field.all.take count) →
          ofText? text = some (({} : Config).replace config (Field.all.take count))
  /-- What is written for the configuration is read as it. -/
  rendered : ofText? config.render = some config

/-- Every configuration is legible. -/
theorem legible (config : Config) : config.Legible := by
  have object {text : String} {members : List (List Json.Piece × Json.Tree)} {fields : List Field}
      (laid : Json.Token.Laid text.toList (Json.Tree.object members).tokens)
      (carries : config.Carries members fields) (different : fields.Nodup) :
      ofText? text = some (({} : Config).replace config fields) := by
    rw [ofText?, Json.Tree.ofText?_eq_some_iff_laid.mpr laid, Option.bind_some, ofTree?,
      carries.settings different, Option.bind_some, assignAll?_setting]
  refine ⟨fun _ _ _ => object, fun text items count within laid spelled => ?_, ?_⟩
  · have length : items.length ≤ Field.all.length := by
      rw [spelled.length_eq]
      exact List.length_take_le' ..
    rw [ofText?, Json.Tree.ofText?_eq_some_iff_laid.mpr laid, Option.bind_some, ofTree?,
      if_pos length, settingsOfItems?_of_spelled (List.take_prefix ..) spelled, Option.bind_some,
      assignAll?_setting]
  · obtain ⟨members, carries, laid⟩ := config.laid_render
    rw [object laid carries (by decide), replace_all]

/-- A text that gives two fields, and has a note in which a number overflows and a code unit is not
paired. -/
def notedText : String :=
  " \x7b \"note\": [1e400, \x7b\"\": \"\\ud800\"\x7d], \"task_core\" :0,\n" ++
    "\"firmware_validation_stage\":\x7b\"Every5\\u0073\":null\x7d\x7d "

/-- The members of that text. -/
def notedMembers : List (List Json.Piece × Json.Tree) :=
  [("note".toList.map .character, .array [.number ⟨false, ['1'], [], some 400⟩,
      .object [([], .string [.escaped 0xd800])]]),
    ("task_core".toList.map .character, .number ⟨false, ['0'], [], none⟩),
    ("firmware_validation_stage".toList.map .character,
      .object [("Every5".toList.map .character ++ [.escaped 0x73], .null)])]

/-- The fields of that text are read, and its note is passed over. -/
theorem legible_noted :
    let config : Config := { stableSeconds := 90, validationStage := .every5s, taskCore := 0 }
    (Json.Token.Laid notedText.toList (Json.Tree.object notedMembers).tokens ∧
      config.Carries notedMembers [.taskCore, .validationStage]) ∧ config.Legible ∧
        ofText? notedText = some { validationStage := .every5s, taskCore := 0 } := by
  intro config
  have laid : Json.Token.Laid notedText.toList (Json.Tree.object notedMembers).tokens :=
    Json.Token.laid_of_scan (by decide +kernel)
  have carries : config.Carries notedMembers [.taskCore, .validationStage] := by
    have unknown : ∀ field, "note" ≠ Field.name field := by
      intro field
      cases field <;> decide
    exact .other (by decide) unknown
      (.field (by decide) (.natural 0) (.field (by decide) (.tagged (by decide)) .nil))
  have legible : config.Legible := config.legible
  exact ⟨⟨laid, carries⟩, legible, legible.object _ _ _ laid carries (by decide)⟩

end Config

end Overseer
