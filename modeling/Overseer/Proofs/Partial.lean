import Mathlib.Data.List.Nodup
import Overseer.Proofs.Override
import Overseer.Proofs.Trace
import Overseer.Supervisor.Core

/-!
# Partial configurations

A text that names some of the fields is read in two ways. As overrides it becomes a JSON value,
whose members are put in order and laid over what is stored; as a configuration it is read member
by member against the defaults, and never becomes a value. Each way refuses what the other refuses,
as long as no object of the text repeats a key: a value has forgotten how often a key was written,
while the reader of a configuration counts. `Core.setconf_agrees` says that the command that
overrides then stores exactly what the text stands for as a configuration, or nothing.
-/
namespace Overseer

/-! ### Documents of different keys -/

namespace Document

/-- A new key is put somewhere. -/
theorem set_perm {document : Document} {key : String} (value : Json)
    (absent : ∀ member ∈ document, member.1 ≠ key) :
    (document.set key value).Perm ((key, value) :: document) := by
  induction document with
  | nil => exact .refl _
  | cons member rest ih =>
    obtain ⟨other, held⟩ := member
    obtain ⟨first, later⟩ := List.forall_mem_cons.mp absent
    have different : ¬key = other := fun same => first same.symm
    by_cases before : key < other
    · simp only [set, before, ↓reduceIte]
      exact .refl _
    · simp only [set, before, different, ↓reduceIte]
      exact ((ih later).cons (other, held)).trans (.swap ..)

/-- The document of members with different keys holds these members. -/
theorem ofMembers_perm {members : List (String × Json)}
    (distinct : (members.map Prod.fst).Nodup) : (ofMembers members).Perm members := by
  -- By induction on the members, with a document that has none of their keys yet.
  have added : ∀ (members : List (String × Json)) (start : Document),
      ((start ++ members).map Prod.fst).Nodup →
        (members.foldl (fun document member => document.set member.1 member.2) start).Perm
          (start ++ members) := by
    intro members
    induction members with
    | nil =>
      intro start _
      rw [List.append_nil]
      exact .refl _
    | cons member rest ih =>
      intro start different
      obtain ⟨key, value⟩ := member
      have apart := List.nodup_append.mp (List.map_append ▸ different)
      have absent : ∀ held ∈ start, held.1 ≠ key := fun held listed =>
        apart.2.2 _ (List.mem_map_of_mem listed) _ List.mem_cons_self
      have put := set_perm value absent
      have moved : (start.set key value ++ rest).Perm (start ++ (key, value) :: rest) :=
        (put.append_right rest).trans List.perm_middle.symm
      exact (ih _ ((moved.map Prod.fst).nodup_iff.mpr different)).trans moved
  exact added members [] distinct

end Document

namespace Config

/-- With different keys, what an overlay gives is what each member gives by itself. -/
theorem overlaid_iff_of_distinct {members : List (String × Json)}
    (distinct : (members.map Prod.fst).Nodup) (config updated : Config) :
    config.Overlaid members updated ↔
      (∀ field value, (Field.name field, value) ∈ members →
        Setting.Denoted value (updated.setting field)) ∧
      ∀ field, (∀ member ∈ members, member.1 ≠ Field.name field) →
        updated.setting field = config.setting field := by
  constructor
  · intro overlaid
    refine ⟨fun field value listed => ?_, overlaid.kept⟩
    obtain ⟨earlier, later, rfl⟩ := List.append_of_mem listed
    have apart := (List.nodup_append.mp (List.map_append ▸ distinct)).2.1
    have last := (List.nodup_cons.mp apart).1
    refine overlaid.given earlier field value later rfl fun member further named => last ?_
    exact List.mem_map.mpr ⟨member, further, named⟩
  · rintro ⟨given, kept⟩
    refine ⟨fun earlier field value later split _ => given field value ?_, kept⟩
    rw [split]
    exact List.mem_append_right _ List.mem_cons_self

/-- Members with different keys may be overlaid in any order. -/
theorem overlay_eq_ok_iff_of_perm {members other : Document} (same : members.Perm other)
    (distinct : (members.map Prod.fst).Nodup) (config updated : Config) :
    config.overlay members = .ok updated ↔ config.overlay other = .ok updated := by
  have further : (other.map Prod.fst).Nodup := (same.map Prod.fst).nodup_iff.mp distinct
  rw [overlay_eq_ok_iff, overlay_eq_ok_iff, overlaid_iff_of_distinct distinct,
    overlaid_iff_of_distinct further]
  simp only [same.mem_iff]

end Config

/-! ### Texts that repeat no key -/

namespace Json

mutual

/-- No object in a tree repeats a key. -/
def Tree.Unrepeated : Tree → Prop
  | .array items => Tree.UnrepeatedItems items
  | .object members => Tree.UnrepeatedMembers members
  | _ => True

/-- No object in the items of an array repeats a key. -/
def Tree.UnrepeatedItems : List Tree → Prop
  | [] => True
  | item :: rest => item.Unrepeated ∧ Tree.UnrepeatedItems rest

/-- An object repeats no key, however it is written, and neither does any in its values. -/
def Tree.UnrepeatedMembers : List (List Piece × Tree) → Prop
  | [] => True
  | (key, value) :: rest =>
    (∀ member ∈ rest, ∀ text, Piece.text? key = some text → Piece.text? member.1 ≠ some text) ∧
      value.Unrepeated ∧ Tree.UnrepeatedMembers rest

end

/-- The texts of the keys of an object that repeats none are different. -/
theorem nodup_of_unrepeated {members : List (List Piece × Tree)} {keys : List String}
    (unrepeated : Tree.UnrepeatedMembers members)
    (written : members.map (fun member => Piece.text? member.1) = keys.map some) : keys.Nodup := by
  induction members generalizing keys with
  | nil =>
    obtain rfl := List.map_eq_nil_iff.mp written.symm
    exact .nil
  | cons member rest ih =>
    obtain ⟨key, value⟩ := member
    obtain ⟨text, texts, rfl, named, others⟩ := List.map_eq_cons_iff.mp written.symm
    obtain ⟨single, -, further⟩ := unrepeated
    refine List.nodup_cons.mpr ⟨fun repeated => ?_, ih further others.symm⟩
    have again : some text ∈ rest.map fun member => Piece.text? member.1 := by
      rw [← others]
      exact List.mem_map_of_mem repeated
    obtain ⟨member, listed, same⟩ := List.mem_map.mp again
    exact single member listed text named.symm same

/-- The keys of an object that becomes a value are the texts of its keys. -/
theorem keys_of_ofMembers? {members : List (List Piece × Tree)} {found : List (String × Json)}
    (read : ofMembers? members = some found) :
    members.map (fun member => Piece.text? member.1) = (found.map Prod.fst).map some := by
  induction members generalizing found with
  | nil =>
    obtain rfl := Option.some.inj read
    rfl
  | cons member rest ih =>
    obtain ⟨key, value⟩ := member
    simp only [ofMembers?, Option.bind_eq_bind, Option.bind_eq_some_iff, Option.some.injEq] at read
    obtain ⟨text, named, json, -, later, further, rfl⟩ := read
    simp only [List.map_cons, named, ih further]

/-- An object that repeats no key becomes a document of the same members. -/
theorem document_perm_of_ofMembers? {members : List (List Piece × Tree)}
    {found : List (String × Json)} (unrepeated : Tree.UnrepeatedMembers members)
    (read : ofMembers? members = some found) : (Document.ofMembers found).Perm found :=
  Document.ofMembers_perm (nodup_of_unrepeated unrepeated (keys_of_ofMembers? read))

end Json

/-! ### One value -/

namespace Setting

/-- Only a document of one member stands for a setting, and only if its value is null. -/
theorem ofJson?_object_eq_none {members : Document}
    (other : ∀ name, members ≠ [(name, .null)]) : ofJson? (.object members) = none := by
  unfold ofJson?
  split
  · contradiction
  · contradiction
  · rename_i name same
    exact absurd (Json.object.inj same) (other name)
  · rfl

/-- Only null is written for null. -/
theorem eq_null_of_ofTree? {tree : Json.Tree} (read : Json.ofTree? tree = some .null) :
    tree = .null := by
  cases tree with
  | null => rfl
  | bool value => simp [Json.ofTree?] at read
  | number numeral =>
    simp only [Json.ofTree?] at read
    cases whole : numeral.integer? with
    | none => cases number : numeral.double? <;> simp [whole, number] at read
    | some value => simp [whole] at read
  | string pieces => cases text : Json.Piece.text? pieces <;> simp [Json.ofTree?, text] at read
  | array items => cases found : Json.ofItems? items <;> simp [Json.ofTree?, found] at read
  | object members => cases found : Json.ofMembers? members <;> simp [Json.ofTree?, found] at read

/-- Only an object of one key and null is written for one. -/
theorem eq_singleton_of_ofMembers? {members : List (List Json.Piece × Json.Tree)} {name : String}
    (read : Json.ofMembers? members = some [(name, .null)]) : ∃ key, members = [(key, .null)] := by
  have length := congrArg List.length (Json.keys_of_ofMembers? read)
  simp only [List.length_map, List.length_singleton] at length
  obtain ⟨⟨key, value⟩, rfl⟩ := List.length_eq_one_iff.mp length
  simp only [Json.ofMembers?, Option.bind_eq_bind, Option.bind_eq_some_iff, Option.some.injEq,
    List.cons.injEq, Prod.mk.injEq] at read
  obtain ⟨text, -, json, valued, later, -, ⟨-, rfl⟩, -⟩ := read
  exact ⟨key, by rw [eq_null_of_ofTree? valued]⟩

/-- An object that repeats no key stands for a setting by its one key and null, or for none. -/
theorem ofTree?_object_eq_bind {members : List (List Json.Piece × Json.Tree)}
    (unrepeated : Json.Tree.UnrepeatedMembers members) :
    ofTree? (.object members) = (Json.ofTree? (.object members)).bind ofJson? := by
  by_cases tagged : ∃ key, members = [(key, .null)]
  · obtain ⟨key, rfl⟩ := tagged
    simp only [ofTree?, Json.ofTree?, Json.ofMembers?]
    cases Json.Piece.text? key <;> rfl
  · have untagged : ofTree? (.object members) = none := by
      unfold ofTree?
      split
      · contradiction
      · contradiction
      · rename_i key same
        exact absurd ⟨key, Json.Tree.object.inj same⟩ tagged
      · rfl
    rw [untagged, Json.ofTree?]
    cases read : Json.ofMembers? members with
    | none => rfl
    | some found =>
      -- The members are not lost on the way: one that is tagged was written so.
      refine (ofJson?_object_eq_none fun name same => ?_).symm
      have listed := Json.document_perm_of_ofMembers? unrepeated read
      rw [same, List.singleton_perm] at listed
      exact tagged (eq_singleton_of_ofMembers? (listed ▸ read))

/-- A value that repeats no key stands for the same setting, whether it becomes a value first or
is read as it is written. -/
theorem ofTree?_eq_bind {tree : Json.Tree} (unrepeated : tree.Unrepeated) :
    ofTree? tree = (Json.ofTree? tree).bind ofJson? := by
  cases tree with
  | null => rfl
  | bool value => rfl
  | number numeral =>
    simp only [ofTree?, Json.ofTree?]
    cases numeral.integer? with
    | none => cases numeral.double? <;> rfl
    | some value => cases value <;> rfl
  | string pieces =>
    simp only [ofTree?, Json.ofTree?]
    cases Json.Piece.text? pieces <;> rfl
  | array items =>
    simp only [ofTree?, Json.ofTree?]
    cases Json.ofItems? items <;> rfl
  | object members => exact ofTree?_object_eq_bind unrepeated

/-- A setting is written without nesting, or as an object of one member. -/
theorem depth_le_of_ofTree? {tree : Json.Tree} {setting : Setting}
    (read : ofTree? tree = some setting) : tree.depth ≤ 1 := by
  unfold ofTree? at read
  split at read
  · exact Nat.zero_le 1
  · exact Nat.zero_le 1
  · exact Nat.le_refl 1
  · contradiction

end Setting

/-! ### The members -/

namespace Config

/-- Keys that are all names of fields are the names of some fields in turn. -/
theorem exists_fields {members : List (List Json.Piece × Json.Tree)}
    (known : ∀ member ∈ members, ∃ field : Field, Json.Piece.text? member.1 = some field.name) :
    ∃ fields : List Field, members.map (fun member => Json.Piece.text? member.1) =
      (fields.map Field.name).map some := by
  induction members with
  | nil => exact ⟨[], rfl⟩
  | cons member rest ih =>
    obtain ⟨⟨field, named⟩, others⟩ := List.forall_mem_cons.mp known
    obtain ⟨fields, further⟩ := ih others
    exact ⟨field :: fields, by simp only [List.map_cons, named, further]⟩

/-- A member that is named for a field is known. -/
theorem knownMembers?_cons {key : List Json.Piece} {field : Field}
    (named : Json.Piece.text? key = some field.name) (value : Json.Tree)
    (rest : List (List Json.Piece × Json.Tree)) :
    knownMembers? ((key, value) :: rest) =
      (knownMembers? rest).map fun known => (field, value) :: known := by
  unfold knownMembers?
  rw [List.mapM_cons]
  simp only [named, Option.bind_eq_bind, Option.bind_some, Option.bind_assoc, Option.map_bind]
  refine congrArg _ (funext fun others => ?_)
  show some (List.filterMap _ _) = some _
  rw [List.filterMap_cons, Field.ofName?_name]
  rfl

section

variable {members : List (List Json.Piece × Json.Tree)} {fields : List Field}

/-- Members that are all named for fields are all known. -/
theorem knownMembers?_eq (named : members.map (fun member => Json.Piece.text? member.1) =
      (fields.map Field.name).map some) :
    knownMembers? members = some (fields.zip (members.map Prod.snd)) := by
  induction members generalizing fields with
  | nil =>
    obtain rfl : fields = [] := by simpa using named
    rfl
  | cons member rest ih =>
    obtain ⟨key, value⟩ := member
    cases fields with
    | nil => contradiction
    | cons field others =>
      obtain ⟨first, further⟩ := List.cons.inj named
      rw [knownMembers?_cons first, ih further]
      rfl

/-- Values of members that are named for fields are the same settings, whether they become values
first or are read as they are written. -/
theorem mapM_ofTree?_eq_bind (named : members.map (fun member => Json.Piece.text? member.1) =
      (fields.map Field.name).map some) (unrepeated : Json.Tree.UnrepeatedMembers members) :
    ((fields.zip (members.map Prod.snd)).mapM fun (field, value) => do
      let setting ← Setting.ofTree? value
      some (field, setting)) = (Json.ofMembers? members).bind settings? := by
  induction members generalizing fields with
  | nil =>
    obtain rfl : fields = [] := by simpa using named
    rfl
  | cons member rest ih =>
    obtain ⟨key, value⟩ := member
    cases fields with
    | nil => contradiction
    | cons field others =>
      obtain ⟨first, further⟩ := List.cons.inj named
      obtain ⟨-, plain, later⟩ := unrepeated
      have both := ih further later
      have single := Setting.ofTree?_eq_bind plain
      rw [List.map_cons, List.zip_cons_cons, List.mapM_cons, both]
      simp only [Json.ofMembers?, first, single, Option.bind_eq_bind, Option.bind_some]
      cases Json.ofTree? value with
      | none => rfl
      | some json =>
        cases Json.ofMembers? rest with
        | none =>
          simp only [Option.bind_some, Option.bind_none]
          cases Setting.ofJson? json <;> rfl
        | some found =>
          simp only [Option.bind_some, settings?, List.mapM_cons, Field.ofName?_name]
          rfl

/-- Members that are named for different fields have the same settings, whether they become values
first or are read as they are written. -/
theorem settingsOfMembers?_eq_bind (named : members.map (fun member => Json.Piece.text? member.1) =
      (fields.map Field.name).map some) (unrepeated : Json.Tree.UnrepeatedMembers members) :
    settingsOfMembers? members = (Json.ofMembers? members).bind settings? := by
  have distinct : fields.Nodup :=
    List.Nodup.of_map Field.name (Json.nodup_of_unrepeated unrepeated named)
  have length : fields.length ≤ (members.map Prod.snd).length := by
    have same := congrArg List.length named
    simp only [List.length_map] at same ⊢
    exact Nat.le_of_eq same.symm
  rw [settingsOfMembers?, knownMembers?_eq named, Option.bind_eq_bind, Option.bind_some,
    List.map_fst_zip length, if_pos distinct]
  exact mapM_ofTree?_eq_bind named unrepeated

end

/-- Members that have settings are not nested deeper than these. -/
theorem depthOfMembers_le {members : List (List Json.Piece × Json.Tree)} {found : Document}
    {settings : List (Field × Setting)} (unrepeated : Json.Tree.UnrepeatedMembers members)
    (read : Json.ofMembers? members = some found) (set : settings? found = some settings) :
    Json.Tree.depthOfMembers members ≤ 1 := by
  induction members generalizing found settings with
  | nil => exact Nat.zero_le 1
  | cons member rest ih =>
    obtain ⟨key, value⟩ := member
    obtain ⟨-, plain, later⟩ := unrepeated
    simp only [Json.ofMembers?, Option.bind_eq_bind, Option.bind_eq_some_iff,
      Option.some.injEq] at read
    obtain ⟨text, -, json, valued, others, further, rfl⟩ := read
    obtain ⟨field, setting, left, -, denoted, setLater, -⟩ :=
      (settings?_cons_eq_some_iff (text, json) others settings).mp set
    have direct : Setting.ofTree? value = some setting := by
      rw [Setting.ofTree?_eq_bind plain, valued]
      exact (Setting.ofJson?_eq_some_iff json setting).mpr denoted
    exact Nat.max_le.mpr ⟨Setting.depth_le_of_ofTree? direct, ih later further setLater⟩

/-! ### The whole text -/

/-- A text is an object whose keys are all names of fields, and no object in it repeats a key. -/
structure Partial (text : String) (members : List (List Json.Piece × Json.Tree)) : Prop where
  object : Json.Tree.ofText? text = some (.object members)
  known : ∀ member ∈ members, ∃ field : Field, Json.Piece.text? member.1 = some field.name
  unrepeated : (Json.Tree.object members).Unrepeated

variable {text : String} {members : List (List Json.Piece × Json.Tree)}

/-- The members of a partial configuration are overlaid alike in the order in which they are written
and in that of the document. -/
theorem Partial.overlay_ofMembers_iff (isPartial : Partial text members) {found : Document}
    (valued : Json.ofMembers? members = some found) (config updated : Config) :
    config.overlay (Document.ofMembers found) = .ok updated ↔
      config.overlay found = .ok updated := by
  have distinct := Json.nodup_of_unrepeated isPartial.unrepeated (Json.keys_of_ofMembers? valued)
  have same := Json.document_perm_of_ofMembers? isPartial.unrepeated valued
  exact (overlay_eq_ok_iff_of_perm same.symm distinct config updated).symm

/-- What a partial configuration stands for is what its members are overlaid on the defaults,
nested however deep. -/
theorem Partial.ofText?_eq_some_iff (isPartial : Partial text members) (config : Config) :
    ofText? text = some config ↔ ∃ found, Json.ofMembers? members = some found ∧
      ({} : Config).overlay (Document.ofMembers found) = .ok config := by
  obtain ⟨fields, named⟩ := exists_fields isPartial.known
  have read : ofText? text = ((Json.ofMembers? members).bind settings?).bind (assignAll? {}) := by
    rw [ofText?, isPartial.object, ← settingsOfMembers?_eq_bind named isPartial.unrepeated]
    rfl
  rw [read, Option.bind_assoc, Option.bind_eq_some_iff]
  refine exists_congr fun found => and_congr_right fun valued => ?_
  rw [isPartial.overlay_ofMembers_iff valued, overlay_eq_ok_iff_assignAll?,
    Option.bind_eq_some_iff]

/-- A partial configuration becomes a value if its members do and are not nested too deeply. -/
theorem Partial.json?_eq_some_iff (isPartial : Partial text members) (json : Json) :
    Json.ofText? text = some json ↔
      Json.Tree.depthOfMembers members + 1 ≤ Json.nestingLimit ∧
        ∃ found, Json.ofMembers? members = some found ∧
          json = .object (Document.ofMembers found) := by
  have read : Json.ofText? text =
      if Json.Tree.depthOfMembers members + 1 ≤ Json.nestingLimit then
        (Json.ofMembers? members).map fun found => .object (Document.ofMembers found)
      else none := by
    simp only [Json.ofText?, isPartial.object, Option.bind_eq_bind, Option.bind_some,
      Json.Tree.depth, Json.ofTree?]
    rfl
  rw [read, Option.ite_none_right_eq_some, Option.map_eq_some_iff]
  simp only [eq_comm]

/-- The configuration that a partial text stands for is the overlay of its value: a text without a
value stands for no configuration either. -/
theorem Partial.reads_alike (isPartial : Partial text members) (config : Config) :
    ofText? text = some config ↔ ∃ document, Json.ofText? text = some (.object document) ∧
      ({} : Config).overlay document = .ok config := by
  rw [isPartial.ofText?_eq_some_iff config]
  constructor
  · rintro ⟨found, valued, overlaid⟩
    have written := (isPartial.overlay_ofMembers_iff valued {} config).mp overlaid
    obtain ⟨settings, set, -⟩ := (overlay_eq_ok_iff_assignAll? {} config found).mp written
    have shallow := depthOfMembers_le isPartial.unrepeated valued set
    have within : Json.Tree.depthOfMembers members + 1 ≤ Json.nestingLimit := by
      unfold Json.nestingLimit
      omega
    exact ⟨_, (isPartial.json?_eq_some_iff _).mpr ⟨within, found, valued, rfl⟩, overlaid⟩
  · rintro ⟨document, read, overlaid⟩
    obtain ⟨-, found, valued, same⟩ := (isPartial.json?_eq_some_iff _).mp read
    obtain rfl := Json.object.inj same
    exact ⟨found, valued, overlaid⟩

end Config

/-! ### The command -/

namespace Flash

/-- With a known configuration stored, overrides are accepted if they can be overlaid and the whole
keeps every rule. -/
theorem accepted_object_iff {flash : Flash} {config : Config}
    (stored : flash.stored? = some config) (members : Document) (updated : Config) :
    flash.Accepted (.object members) updated ↔
      config.overlay members = .ok updated ∧ updated.validate = .ok () := by
  rw [config.overlay_eq_ok_iff]
  constructor
  · rintro ⟨⟨others, found, same, read, fit, overlaid⟩, valid⟩
    obtain rfl := Json.object.inj same
    obtain rfl := Option.some.inj (stored.symm.trans read)
    exact ⟨⟨fit, overlaid⟩, valid⟩
  · rintro ⟨⟨fit, overlaid⟩, valid⟩
    exact ⟨⟨members, config, rfl, stored, fit, overlaid⟩, valid⟩

end Flash

namespace Core

/-- What `setconf` says about the outcome of the override. -/
def verdict : Except ConfigError Unit → Line
  | .ok () => .info "Supervisor: configuration updated (applies after restart)"
  | .error error => .warn s!"Supervisor: setconf rejected: {error.message}"

variable {actor : Actor} {environment : Environment} {text : String}

/-- A text that is no value changes only the log. -/
theorem run_setconf_of_none (read : Json.ofText? text = none) :
    ((setconf (some text)).run actor environment).2 =
      environment.say [.warn "Supervisor: setconf invalid JSON"] := by
  unfold setconf
  simp only [read]
  rfl

/-- A text that is an object is taken for overrides. -/
theorem run_setconf_of_object {document : Document}
    (read : Json.ofText? text = some (.object document)) :
    ((setconf (some text)).run actor environment).2 =
      { environment with board := (environment.board.override actor (.object document)).2 }.say
        [verdict (environment.board.override actor (.object document)).1] := by
  unfold setconf
  simp only [read]
  show (Program.run actor (Program.bind (Program.overrideConfig (.object document)) _)
    environment).2 = _
  simp only [Program.overrideConfig, Program.bind, Program.run]
  cases (environment.board.override actor (.object document)).1 with
  | ok done => rfl
  | error error => rfl

/-- The command has overridden the stored configuration, and says so. -/
structure Succeeds (actor : Actor) (before after : Environment) : Prop where
  noted : after.trace = before.trace ++ [.overridden actor (.ok ())]
  said : after.board.journal.lines.getLast? = some (verdict (.ok ()))

/-- The command that overrides the stored configuration agrees with what its text stands for as a
configuration. -/
structure Agrees (actor : Actor) (text : String) (before after : Environment) : Prop where
  /-- It succeeds exactly if the text stands for a configuration that keeps every rule. -/
  succeeds_iff : Succeeds actor before after ↔
    ∃ config, Config.ofText? text = some config ∧ config.validate = .ok ()
  /-- That configuration is what is loaded then. -/
  loaded : ∀ config, Config.ofText? text = some config → config.validate = .ok () →
    after.board.store.flash.load.value = .ok config
  /-- If it does not succeed, flash is what it was. -/
  kept : ¬Succeeds actor before after → after.board.store.flash = before.board.store.flash

/-- A command that fails agrees with a text that stands for no configuration that keeps every
rule. -/
theorem Agrees.of_failure {before after : Environment}
    (never : ¬∃ config, Config.ofText? text = some config ∧ config.validate = .ok ())
    (fails : ¬Succeeds actor before after)
    (kept : after.board.store.flash = before.board.store.flash) :
    Agrees actor text before after where
  succeeds_iff := iff_of_false fails never
  loaded config direct valid := absurd ⟨config, direct, valid⟩ never
  kept _ := kept

section

variable {document : Document} (read : Json.ofText? text = some (.object document))
  (sound : environment.board.store.overrideFault = none)

include read sound

/-- Without a fault, the command does to flash what the overrides do, and tells their outcome. -/
theorem setconf_overrides (actor : Actor) :
    let done := (environment.board.store.flash.override (.object document)).value
    let after := ((setconf (some text)).run actor environment).2
    after.board.store.flash = done.2 ∧
      after.trace = environment.trace ++ [.overridden actor done.1] ∧
      after.board.journal.lines.getLast? = some (verdict done.1) := by
  have through : (environment.board.store.override (.object document)).value.1 =
        (environment.board.store.flash.override (.object document)).value.1 ∧
      (environment.board.store.override (.object document)).value.2.flash =
        (environment.board.store.flash.override (.object document)).value.2 := by
    unfold Store.override
    rw [sound]
    exact ⟨rfl, rfl⟩
  rw [run_setconf_of_object read]
  refine ⟨through.2, ?_, ?_⟩
  · rw [← through.1]
    rfl
  · rw [← through.1]
    exact List.getLast?_concat ..

/-- Overrides that pass every check make the command succeed, and are what is loaded then. -/
theorem setconf_of_accepted (actor : Actor) {updated : Config}
    (accepted : environment.board.store.flash.Accepted (.object document) updated) :
    Succeeds actor environment ((setconf (some text)).run actor environment).2 ∧
      ((setconf (some text)).run actor environment).2.board.store.flash.load.value =
        .ok updated := by
  obtain ⟨flash, noted, said⟩ := setconf_overrides read sound actor
  have loaded := Flash.load_override accepted
  rw [Flash.override_of_accepted accepted] at noted said
  rw [flash]
  exact ⟨⟨noted, said⟩, loaded⟩

/-- Overrides that fail a check make the command fail, and change nothing. -/
theorem setconf_of_refused (actor : Actor) {error : ConfigError}
    (refused : environment.board.store.flash.Refused (.object document) error) :
    ¬Succeeds actor environment ((setconf (some text)).run actor environment).2 ∧
      ((setconf (some text)).run actor environment).2.board.store.flash =
        environment.board.store.flash := by
  obtain ⟨flash, noted, -⟩ := setconf_overrides read sound actor
  rw [Flash.override_of_refused refused] at flash noted
  refine ⟨fun succeeds => ?_, flash⟩
  have same := List.append_cancel_left (noted.symm.trans succeeds.noted)
  simp at same

end

/-- On a device without a stored configuration, the command stores what its text stands for as a
configuration, if that keeps every rule, and refuses every other text. -/
theorem setconf_agrees {members : List (List Json.Piece × Json.Tree)}
    (isPartial : Config.Partial text members)
    (fresh : environment.board.store.flash.blob? Flash.configName = none)
    (sound : environment.board.store.overrideFault = none) :
    Agrees actor text environment ((setconf (some text)).run actor environment).2 := by
  have stored : environment.board.store.flash.stored? = some {} := by
    rw [Flash.stored?, fresh]
  have alike := isPartial.reads_alike
  cases read : Json.ofText? text with
  | none =>
    -- The text has no value: there are no overrides, and it stands for no configuration.
    have never : ¬∃ config, Config.ofText? text = some config ∧ config.validate = .ok () := by
      rintro ⟨config, direct, -⟩
      obtain ⟨document, valued, -⟩ := (alike config).mp direct
      rw [read] at valued
      contradiction
    rw [run_setconf_of_none read]
    refine .of_failure never (fun succeeds => ?_) rfl
    have longer := congrArg List.length succeeds.noted
    simp at longer
  | some json =>
    obtain ⟨-, found, -, rfl⟩ := (isPartial.json?_eq_some_iff json).mp read
    have direct (config : Config) :
        Config.ofText? text = some config ∧ config.validate = .ok () ↔
          environment.board.store.flash.Accepted (.object (Document.ofMembers found)) config := by
      rw [alike config, Flash.accepted_object_iff stored]
      refine and_congr_left fun _ => ⟨?_, fun overlaid => ⟨_, read, overlaid⟩⟩
      rintro ⟨document, valued, overlaid⟩
      rw [read] at valued
      obtain rfl := Json.object.inj (Option.some.inj valued)
      exact overlaid
    rcases environment.board.store.flash.accepted_or_refused (.object (Document.ofMembers found))
      with ⟨updated, accepted⟩ | ⟨error, refused⟩
    · have done {config : Config} (reads : Config.ofText? text = some config)
          (valid : config.validate = .ok ()) :=
        setconf_of_accepted read sound actor ((direct config).mp ⟨reads, valid⟩)
      obtain ⟨reads, valid⟩ := (direct updated).mpr accepted
      have succeeds := (done reads valid).1
      exact {
        succeeds_iff := iff_of_true succeeds ⟨updated, reads, valid⟩
        loaded := fun config reads valid => (done reads valid).2
        kept := fun fails => absurd succeeds fails }
    · obtain ⟨fails, kept⟩ := setconf_of_refused read sound actor refused
      refine .of_failure ?_ fails kept
      rintro ⟨config, reads⟩
      exact fails (setconf_of_accepted read sound actor ((direct config).mp reads)).1

/-- A text in which the stage is an object of its name and null, and the name holds an escape. -/
def taggedText : String :=
  "\x7b\"task_core\": 0, \"firmware_validation_stage\": \x7b\"Every5\\u0073\": null\x7d\x7d"

/-- The members of that text. -/
def taggedMembers : List (List Json.Piece × Json.Tree) :=
  [("task_core".toList.map .character, .number ⟨false, ['0'], [], none⟩),
    ("firmware_validation_stage".toList.map .character,
      .object [("Every5".toList.map .character ++ [.escaped 0x73], .null)])]

/-- The command stores the stage that this text stands for. -/
theorem setconf_agrees_tagged :
    let after := ((setconf (some taggedText)).run .core {}).2
    (Config.Partial taggedText taggedMembers ∧
      ({} : Environment).board.store.flash.blob? Flash.configName = none ∧
      ({} : Environment).board.store.overrideFault = none) ∧
    Agrees .core taggedText {} after ∧
    after.board.store.flash.load.value = .ok { validationStage := .every5s, taskCore := 0 } := by
  have core : Json.Piece.text? ("task_core".toList.map .character) = some "task_core" := by decide
  have stage : Json.Piece.text? ("firmware_validation_stage".toList.map .character) =
      some "firmware_validation_stage" := by decide
  have scanned : Json.Token.scan taggedText.toList = some [.openObject,
      .string ("task_core".toList.map .character), .colon, .number ⟨false, ['0'], [], none⟩, .comma,
      .string ("firmware_validation_stage".toList.map .character), .colon, .openObject,
      .string ("Every5".toList.map .character ++ [.escaped 0x73]), .colon, .null, .closeObject,
      .closeObject] := by decide +kernel
  have isPartial : Config.Partial taggedText taggedMembers := by
    refine ⟨?_, ?_, ?_⟩
    · rw [Json.Tree.ofText?, scanned]
      rfl
    · intro member listed
      rcases List.mem_pair.mp listed with rfl | rfl
      · exact ⟨.taskCore, core⟩
      · exact ⟨.validationStage, stage⟩
    · refine ⟨?_, trivial, by simp, ⟨by simp, trivial, trivial⟩, trivial⟩
      intro member listed name first
      obtain rfl := List.mem_singleton.mp listed
      rw [core] at first
      rw [stage, ← first]
      decide
  have agrees : Agrees .core taggedText {} ((setconf (some taggedText)).run .core {}).2 :=
    setconf_agrees isPartial rfl rfl
  have direct : Config.ofText? taggedText =
      some { validationStage := .every5s, taskCore := 0 } := by decide +kernel
  exact ⟨⟨isPartial, rfl, rfl⟩, agrees, agrees.loaded _ direct rfl⟩

/-- A repeated key parts the two ways: its last value is overridden with, and no configuration is
read. -/
example : (Json.ofText? "\x7b\"task_core\":0,\"task_core\":1\x7d").isSome = true ∧
    Config.ofText? "\x7b\"task_core\":0,\"task_core\":1\x7d" = none := by
  decide +kernel

end Core

end Overseer
