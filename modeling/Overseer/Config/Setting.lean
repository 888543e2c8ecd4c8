import Overseer.Config.Basic
import Overseer.Json.Writer

/-!
# Configurations in JSON

A configuration is written as an object of all its fields in declaration order. It is read in two
ways. Overrides are members of a JSON value: each must name a field and fit it, and the fields not
named keep what they were. A whole configuration is a JSON text, read against the defaults, either
an object, in which members of other names are passed over however they are written, or an array of
fields in declaration order that may end early.

Both ways ask for the same two kinds of setting: a natural number, or a stage, given by its name or
by an object with that name as its only key and null as its value.
-/
namespace Overseer

/-- What a field may be set to. -/
inductive Setting where
  | natural (value : Nat)
  | stage (stage : Stage)
deriving DecidableEq, Repr

namespace Setting

/-- The setting that a JSON value stands for. -/
def ofJson? : Json → Option Setting
  | .integer (.ofNat value) => some (.natural value)
  | .string name => (Stage.ofName? name).map .stage
  | .object [(name, .null)] => (Stage.ofName? name).map .stage
  | _ => none

/-- The setting that the syntax of a value stands for. -/
def ofTree? : Json.Tree → Option Setting
  | .number numeral =>
    match numeral.integer? with
    | some (.ofNat value) => some (.natural value)
    | _ => none
  | .string name => ((Json.Piece.text? name).bind Stage.ofName?).map .stage
  | .object [(name, .null)] => ((Json.Piece.text? name).bind Stage.ofName?).map .stage
  | _ => none

/-- A setting as a JSON value; a stage is written by its name. -/
def json : Setting → Json
  | .natural value => .integer value
  | .stage value => .string value.name

end Setting

/-- The stage that a JSON text stands for. -/
def Stage.ofText? (text : String) : Option Stage :=
  match (Json.Tree.ofText? text).bind Setting.ofTree? with
  | some (.stage stage) => some stage
  | _ => none

namespace Config

/-- Give one field a setting, if the setting is of the field's kind and within its word. -/
def assign? (config : Config) : Field → Setting → Option Config
  | .safeModeThreshold, .natural value =>
    if value < UInt32.size then some { config with safeModeThreshold := .ofNat value } else none
  | .stableSeconds, .natural value =>
    if value < UInt32.size then some { config with stableSeconds := .ofNat value } else none
  | .commandWait, .natural value =>
    if value < UInt32.size then some { config with commandWait := .ofNat value } else none
  | .validationStage, .stage stage => some { config with validationStage := stage }
  | .taskPriority, .natural value =>
    if value < UInt8.size then some { config with taskPriority := .ofNat value } else none
  | .taskStack, .natural value =>
    if value < UInt16.size then some { config with taskStack := .ofNat value } else none
  | .taskCore, .natural value =>
    if value < UInt8.size then some { config with taskCore := .ofNat value } else none
  | _, _ => none

/-- The setting that a configuration gives a field. -/
def setting (config : Config) : Field → Setting
  | .safeModeThreshold => .natural config.safeModeThreshold.toNat
  | .stableSeconds => .natural config.stableSeconds.toNat
  | .commandWait => .natural config.commandWait.toNat
  | .validationStage => .stage config.validationStage
  | .taskPriority => .natural config.taskPriority.toNat
  | .taskStack => .natural config.taskStack.toNat
  | .taskCore => .natural config.taskCore.toNat

/-- The members of a configuration, in declaration order. -/
def members (config : Config) : List (String × Json) :=
  Field.all.map fun field => (field.name, (config.setting field).json)

/-- The text of a configuration. -/
def render (config : Config) : String := (Json.object config.members).render

/-- Give several fields their settings in turn; all must fit. -/
def assignAll? (config : Config) (settings : List (Field × Setting)) : Option Config :=
  settings.foldlM (fun config (field, setting) => config.assign? field setting) config

/-- Why overrides were refused. -/
inductive OverrideFault where
  /-- A key is no field's name. -/
  | unknownKey (key : String)
  /-- A value does not fit its field. -/
  | unfit
deriving DecidableEq, Repr

/-- The settings of members that all name fields; a value that is no setting is refused. -/
def settings? (members : Document) : Option (List (Field × Setting)) :=
  members.mapM fun (key, value) => do
    let field ← Field.ofName? key
    let setting ← Setting.ofJson? value
    some (field, setting)

/-- Overlay a configuration with the members of an object. Every key is looked at before any value;
of several unknown keys the first one is named. -/
def overlay (config : Config) (members : Document) : Except OverrideFault Config :=
  match members.find? fun (key, _) => (Field.ofName? key).isNone with
  | some (key, _) => .error (.unknownKey key)
  | none =>
    match (settings? members).bind config.assignAll? with
    | some updated => .ok updated
    | none => .error .unfit

/-- The settings of items in declaration order. -/
def settingsOfItems? (items : List Json.Tree) : Option (List (Field × Setting)) :=
  (Field.all.zip items).mapM fun (field, item) => do
    let setting ← Setting.ofTree? item
    some (field, setting)

/-- The members that name fields, with their values; every key must be a text. -/
def knownMembers? (members : List (List Json.Piece × Json.Tree)) :
    Option (List (Field × Json.Tree)) := do
  let named ← members.mapM fun (key, value) => do
    let name ← Json.Piece.text? key
    some (name, value)
  some (named.filterMap fun (name, value) => (Field.ofName? name).map fun field => (field, value))

/-- The settings of members; a field may be named once. -/
def settingsOfMembers? (members : List (List Json.Piece × Json.Tree)) :
    Option (List (Field × Setting)) := do
  let known ← knownMembers? members
  if (known.map Prod.fst).Nodup then
    known.mapM fun (field, value) => do
      let setting ← Setting.ofTree? value
      some (field, setting)
  else none

/-- The configuration that the syntax of a value stands for. -/
def ofTree? : Json.Tree → Option Config
  | .array items =>
    if items.length ≤ Field.all.length then (settingsOfItems? items).bind (assignAll? {}) else none
  | .object members => (settingsOfMembers? members).bind (assignAll? {})
  | _ => none

/-- The configuration that a JSON text stands for. -/
def ofText? (text : String) : Option Config := (Json.Tree.ofText? text).bind ofTree?

end Config

end Overseer
