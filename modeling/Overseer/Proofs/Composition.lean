import Mathlib.Data.List.Induction
import Overseer.Proofs.Partial

/-!
# Overrides in a row

Overrides that follow one another come to the same as one object that has the members of all of
them, where a later value of a key replaces an earlier one (`Document.merge`). The overlay looks at
the last value of a key only (`IsLast`), and so does a document of members, so it makes no
difference whether the members are merged first (`Config.overlaid_ofMembers_iff`). What is stored
after the last override is one blob, whatever was stored in between (`Flash.override_composes`).
-/
namespace Overseer

/-! ### The last value of a key -/

/-- A value is the last one that members give to a key. -/
def IsLast (members : List (String × Json)) (key : String) (value : Json) : Prop :=
  ∃ earlier later, members = earlier ++ (key, value) :: later ∧ ∀ member ∈ later, member.1 ≠ key

section

variable {members earlier later : List (String × Json)} {key : String} {value : Json}

/-- No members give no value. -/
theorem not_isLast_nil : ¬IsLast [] key value := by
  rintro ⟨earlier, later, split, -⟩
  simp at split

/-- The last value of a key is that of a member. -/
theorem IsLast.mem (last : IsLast members key value) : (key, value) ∈ members := by
  obtain ⟨earlier, later, rfl, -⟩ := last
  exact List.mem_append_right _ List.mem_cons_self

/-- The last value of a key is given by the later members, or by the earlier ones if no later member
has the key. -/
theorem isLast_append_iff :
    IsLast (earlier ++ later) key value ↔
      IsLast later key value ∨
        (∀ member ∈ later, member.1 ≠ key) ∧ IsLast earlier key value := by
  constructor
  · rintro ⟨before, after, split, absent⟩
    rcases List.append_eq_append_iff.mp split with ⟨more, rfl, rest⟩ | ⟨more, rfl, rest⟩
    · exact .inl ⟨more, after, rest, absent⟩
    · cases more with
      | nil => exact .inl ⟨[], after, rest.symm, absent⟩
      | cons first more =>
        obtain ⟨rfl, rfl⟩ := List.cons.inj rest
        obtain ⟨inner, outer⟩ := List.forall_mem_append.mp absent
        exact .inr ⟨outer, before, more, rfl, inner⟩
  · rintro (⟨before, after, rfl, absent⟩ | ⟨outer, before, after, rfl, absent⟩)
    · exact ⟨earlier ++ before, after, (List.append_assoc ..).symm, absent⟩
    · exact ⟨before, after ++ later, by simp, List.forall_mem_append.mpr ⟨absent, outer⟩⟩

/-- A single member gives its value to its key. -/
theorem isLast_singleton_iff {member : String × Json} :
    IsLast [member] key value ↔ member = (key, value) := by
  constructor
  · intro last
    exact (List.mem_singleton.mp last.mem).symm
  · rintro rfl
    exact ⟨[], [], rfl, by simp⟩

/-- A key that members have has a last value. -/
theorem exists_isLast (listed : ∃ member ∈ members, member.1 = key) :
    ∃ value, IsLast members key value := by
  induction members with
  | nil => simp at listed
  | cons member rest ih =>
    by_cases again : ∃ member ∈ rest, member.1 = key
    · obtain ⟨value, last⟩ := ih again
      have grown : IsLast ([member] ++ rest) key value := isLast_append_iff.mpr (.inl last)
      exact ⟨value, grown⟩
    · have absent : ∀ member ∈ rest, member.1 ≠ key := fun member further named =>
        again ⟨member, further, named⟩
      obtain ⟨found, here, named⟩ := listed
      rcases List.mem_cons.mp here with rfl | further
      · exact ⟨found.2, [], rest, by rw [← named]; rfl, absent⟩
      · exact absurd named (absent found further)

/-- A key has no last value exactly if no member has it. -/
theorem forall_not_isLast_iff :
    (∀ value, ¬IsLast members key value) ↔ ∀ member ∈ members, member.1 ≠ key := by
  constructor
  · intro none member listed named
    obtain ⟨value, last⟩ := exists_isLast ⟨member, listed, named⟩
    exact none value last
  · intro absent value last
    exact absent (key, value) last.mem rfl

end

/-! ### Documents -/

namespace Document

/-- The keys of a document ascend, and none is repeated. -/
def Ascending (document : Document) : Prop :=
  document.Pairwise fun earlier later => earlier.1 < later.1

/-- The keys of such a document are different. -/
theorem Ascending.nodup {document : Document} (ascending : document.Ascending) :
    (document.map Prod.fst).Nodup := by
  refine List.pairwise_map.mpr (ascending.imp fun before same => ?_)
  rw [same] at before
  exact String.lt_irrefl _ before

/-- A key that comes before the first one comes before all. -/
theorem Ascending.before {key : String} {member : String × Json} {rest : Document}
    (ascending : Ascending (member :: rest)) (before : key < member.1) :
    ∀ later ∈ member :: rest, key < later.1 := by
  intro later listed
  rcases List.mem_cons.mp listed with rfl | further
  · exact before
  · exact String.lt_trans before ((List.pairwise_cons.mp ascending).1 later further)

/-- What a document holds after a key was given a value. -/
theorem mem_set_iff {document : Document} (ascending : document.Ascending) {key : String}
    {value : Json} {member : String × Json} :
    member ∈ document.set key value ↔
      member = (key, value) ∨ member.1 ≠ key ∧ member ∈ document := by
  -- A member that comes after the key has another key.
  have other {rest : Document} (after : ∀ later ∈ rest, key < later.1) :
      member ∈ rest ↔ member.1 ≠ key ∧ member ∈ rest := by
    refine ⟨fun listed => ⟨fun same => ?_, listed⟩, And.right⟩
    have self := after member listed
    rw [same] at self
    exact String.lt_irrefl key self
  induction document with
  | nil => simp [set]
  | cons first rest ih =>
    obtain ⟨name, held⟩ := first
    obtain ⟨head, tail⟩ := List.pairwise_cons.mp ascending
    by_cases before : key < name
    · have kept := other (ascending.before before)
      simp only [set, before, ↓reduceIte]
      rw [List.mem_cons]
      exact or_congr Iff.rfl kept
    · by_cases same : key = name
      · subst same
        simp only [set, before, ↓reduceIte]
        rw [List.mem_cons, List.mem_cons, other head]
        grind
      · have step := ih tail
        simp only [set, before, same, ↓reduceIte, List.mem_cons, step]
        grind

/-- A document stays ascending when a key is given a value. -/
theorem Ascending.set {document : Document} (ascending : document.Ascending) (key : String)
    (value : Json) : (document.set key value).Ascending := by
  induction document with
  | nil => exact List.pairwise_singleton _ _
  | cons first rest ih =>
    obtain ⟨name, held⟩ := first
    obtain ⟨head, tail⟩ := List.pairwise_cons.mp ascending
    by_cases before : key < name
    · simp only [Document.set, before, ↓reduceIte]
      exact List.pairwise_cons.mpr ⟨ascending.before before, ascending⟩
    · by_cases same : key = name
      · subst same
        simp only [Document.set, before, ↓reduceIte]
        exact List.pairwise_cons.mpr ⟨head, tail⟩
      · have after : name < key := Std.lt_of_le_of_ne (String.not_lt.mp before) (Ne.symm same)
        simp only [Document.set, before, same, ↓reduceIte]
        refine List.pairwise_cons.mpr ⟨fun later listed => ?_, ih tail⟩
        rcases (mem_set_iff tail).mp listed with rfl | ⟨-, kept⟩
        · exact after
        · exact head later kept

/-- The document of members ascends, and holds the last value of each key. -/
theorem ofMembers_spec (members : List (String × Json)) :
    (ofMembers members).Ascending ∧
      ∀ key value, (key, value) ∈ ofMembers members ↔ IsLast members key value := by
  -- By induction on the members, which grow at their end: the last one is given last.
  induction members using List.reverseRecOn with
  | nil => exact ⟨List.Pairwise.nil, fun key value => by simp [ofMembers, not_isLast_nil]⟩
  | append_singleton earlier next ih =>
    obtain ⟨ascending, lasts⟩ := ih
    have grown : ofMembers (earlier ++ [next]) = (ofMembers earlier).set next.1 next.2 := by
      simp [ofMembers]
    rw [grown]
    refine ⟨ascending.set next.1 next.2, fun key value => ?_⟩
    rw [mem_set_iff ascending, lasts, isLast_append_iff, isLast_singleton_iff, eq_comm,
      List.forall_mem_singleton, ne_comm]

/-- In such a document every value is the last one of its key. -/
theorem Ascending.isLast_iff {document : Document} (ascending : document.Ascending) {key : String}
    {value : Json} : IsLast document key value ↔ (key, value) ∈ document := by
  refine ⟨IsLast.mem, fun listed => ?_⟩
  obtain ⟨earlier, later, rfl⟩ := List.append_of_mem listed
  have above := (List.pairwise_cons.mp (List.pairwise_append.mp ascending).2.1).1
  refine ⟨earlier, later, rfl, fun member further same => ?_⟩
  have before := above member further
  rw [same] at before
  exact String.lt_irrefl key before

/-- The document of members has their last values. -/
theorem isLast_ofMembers_iff {members : List (String × Json)} {key : String} {value : Json} :
    IsLast (ofMembers members) key value ↔ IsLast members key value := by
  obtain ⟨ascending, lasts⟩ := ofMembers_spec members
  rw [ascending.isLast_iff, lasts]

/-- One document laid over another. -/
def merge (lower upper : Document) : Document := ofMembers (lower ++ upper)

/-- Documents that are merged keep their values, except that on a common key the upper one wins. -/
theorem mem_merge_iff {lower upper : Document} (below : lower.Ascending) (above : upper.Ascending)
    (key : String) (value : Json) :
    (key, value) ∈ lower.merge upper ↔
      (key, value) ∈ upper ∨ (∀ member ∈ upper, member.1 ≠ key) ∧ (key, value) ∈ lower := by
  rw [merge, (ofMembers_spec _).2, isLast_append_iff, above.isLast_iff, below.isLast_iff]

end Document

/-! ### Overlays -/

namespace Config

variable {config updated : Config} {members others : List (String × Json)}

/-- An overlay depends on the last values only. -/
theorem overlaid_congr (same : ∀ key value, IsLast members key value ↔ IsLast others key value) :
    config.Overlaid members updated ↔ config.Overlaid others updated := by
  have carried {one other : List (String × Json)}
      (same : ∀ key value, IsLast one key value ↔ IsLast other key value)
      (overlaid : config.Overlaid one updated) : config.Overlaid other updated := by
    constructor
    · intro earlier field value later split absent
      obtain ⟨before, after, cut, last⟩ :=
        (same field.name value).mpr ⟨earlier, later, split, absent⟩
      exact overlaid.given before field value after cut last
    · intro field absent
      refine overlaid.kept field (forall_not_isLast_iff.mp fun value last => ?_)
      exact forall_not_isLast_iff.mpr absent value ((same field.name value).mp last)
  exact ⟨carried same, carried fun key value => (same key value).symm⟩

/-- Members that are merged first make the same overlay. -/
theorem overlaid_ofMembers_iff :
    config.Overlaid (Document.ofMembers members) updated ↔ config.Overlaid members updated :=
  overlaid_congr fun _ _ => Document.isLast_ofMembers_iff

/-- Members that can be overlaid can be merged first. -/
theorem overlay_ofMembers (done : config.overlay members = .ok updated) :
    config.overlay (Document.ofMembers members) = .ok updated := by
  obtain ⟨fit, overlaid⟩ := (config.overlay_eq_ok_iff updated members).mp done
  refine (config.overlay_eq_ok_iff updated _).mpr ⟨fun member listed => ?_, ?_⟩
  · exact fit member (((Document.ofMembers_spec members).2 _ _).mp listed).mem
  · exact overlaid_ofMembers_iff.mpr overlaid

/-- Overlaying with all members is overlaying with some of them and then with the others. -/
theorem overlay_append_eq_ok_iff (config updated : Config) (first second : Document) :
    config.overlay (first ++ second) = .ok updated ↔
      ∃ between, config.overlay first = .ok between ∧ between.overlay second = .ok updated := by
  induction first generalizing config with
  | nil => simp [overlay_nil]
  | cons member rest ih =>
    simp only [List.cons_append, overlay_cons_eq_ok_iff, ih]
    constructor
    · rintro ⟨field, setting, next, named, denoted, assigned, between, done, further⟩
      exact ⟨between, ⟨field, setting, next, named, denoted, assigned, done⟩, further⟩
    · rintro ⟨between, ⟨field, setting, next, named, denoted, assigned, done⟩, further⟩
      exact ⟨field, setting, next, named, denoted, assigned, between, done, further⟩

/-- Overlays of different keys may be made in either order. -/
theorem overlay_append_comm {first second : Document}
    (apart : ∀ one ∈ first, ∀ other ∈ second, one.1 ≠ other.1)
    (done : config.overlay (first ++ second) = .ok updated) :
    config.overlay (second ++ first) = .ok updated := by
  obtain ⟨fit, overlaid⟩ := (config.overlay_eq_ok_iff updated _).mp done
  refine (config.overlay_eq_ok_iff updated _).mpr ⟨fun member listed => ?_, ?_⟩
  · exact fit member (List.mem_append.mpr (List.mem_append.mp listed).symm)
  · refine (overlaid_congr fun key value => ?_).mp overlaid
    -- A key of one document is none of the other, so its last value may be looked for first.
    have left (last : IsLast first key value) : ∀ member ∈ second, member.1 ≠ key :=
      fun member listed named => apart _ last.mem member listed named.symm
    have right (last : IsLast second key value) : ∀ member ∈ first, member.1 ≠ key :=
      fun member listed named => apart member listed _ last.mem named
    rw [isLast_append_iff, isLast_append_iff]
    constructor
    · rintro (last | ⟨-, last⟩)
      · exact .inr ⟨right last, last⟩
      · exact .inl last
    · rintro (last | ⟨-, last⟩)
      · exact .inr ⟨left last, last⟩
      · exact .inl last

/-- An overlay made again changes nothing. -/
theorem overlay_again {members : Document} (done : config.overlay members = .ok updated) :
    updated.overlay members = .ok updated := by
  obtain ⟨fit, overlaid⟩ := (config.overlay_eq_ok_iff updated members).mp done
  exact (updated.overlay_eq_ok_iff updated members).mpr ⟨fit, overlaid.given, fun _ _ => rfl⟩

end Config

/-! ### Overrides -/

namespace Flash

/-- A blob that was written replaces the one written before. -/
theorem write_write (flash : Flash) (space key : String) (earlier later : List UInt8) :
    (flash.write space key earlier).write space key later = flash.write space key later := by
  simp [write, delete]

/-- Overriding with an object succeeds, and flash is the other one then. -/
def Takes (flash : Flash) (members : Document) (after : Flash) : Prop :=
  (flash.override (.object members)).value = (.ok (), after)

/-- Overrides that succeed overlay what is stored with something that keeps every rule, and store
that. -/
theorem takes_iff (flash : Flash) (members : Document) (after : Flash) :
    flash.Takes members after ↔ ∃ config updated, flash.stored? = some config ∧
      config.overlay members = .ok updated ∧ updated.validate = .ok () ∧
        after = flash.write supervisorSpace configKey updated.encode := by
  constructor
  · intro done
    have succeeded := congrArg Prod.fst done
    obtain ⟨updated, accepted⟩ := (flash.override_eq_ok_iff _).mp succeeded
    obtain ⟨⟨_, config, -, stored, -⟩, -⟩ := id accepted
    obtain ⟨overlaid, valid⟩ := (accepted_object_iff stored members updated).mp accepted
    have same := congrArg Prod.snd (done.symm.trans (override_of_accepted accepted))
    exact ⟨config, updated, stored, overlaid, valid, same⟩
  · rintro ⟨config, updated, stored, overlaid, valid, rfl⟩
    exact override_of_accepted ((accepted_object_iff stored members updated).mpr ⟨overlaid, valid⟩)

/-- Two overrides in a row overlay what is stored with the members of both. -/
theorem overlay_of_takes {flash between after : Flash} {first second : Document}
    (earlier : flash.Takes first between) (later : between.Takes second after) :
    ∃ config updated, flash.stored? = some config ∧
      config.overlay (first ++ second) = .ok updated ∧ updated.validate = .ok () ∧
        after = flash.write supervisorSpace configKey updated.encode := by
  obtain ⟨config, middle, stored, done, -, rfl⟩ := (takes_iff ..).mp earlier
  obtain ⟨read, updated, again, further, valid, rfl⟩ := (takes_iff ..).mp later
  obtain rfl := Option.some.inj ((stored?_write_encode flash middle).symm.trans again)
  have joined := (config.overlay_append_eq_ok_iff updated first second).mpr ⟨middle, done, further⟩
  exact ⟨config, updated, stored, joined, valid, write_write ..⟩

/-- How overrides with two objects compose. -/
structure Composes (flash : Flash) (first second : Document) : Prop where
  /-- Two in a row leave what a single one leaves, with the second object laid over the first. -/
  joined : ∀ between after, flash.Takes first between → between.Takes second after →
    flash.Takes (first.merge second) after
  /-- If they have no key in common, they leave the same in either order. -/
  commutes : (∀ one ∈ first, ∀ other ∈ second, one.1 ≠ other.1) →
    ∀ between after, flash.Takes first between → between.Takes second after →
      ∀ turned other, flash.Takes second turned → turned.Takes first other → after = other
  /-- One that is made again succeeds again, and leaves what it found. -/
  repeats : ∀ after, flash.Takes first after → after.Takes first after

/-- Overrides compose, whatever is stored and whatever the objects are. -/
theorem override_composes (flash : Flash) (first second : Document) :
    flash.Composes first second where
  joined between after earlier later := by
    obtain ⟨config, updated, stored, done, valid, rfl⟩ := overlay_of_takes earlier later
    exact (takes_iff ..).mpr ⟨config, updated, stored, Config.overlay_ofMembers done, valid, rfl⟩
  commutes apart between after earlier later turned other turnedEarlier turnedLater := by
    obtain ⟨config, updated, stored, done, -, rfl⟩ := overlay_of_takes earlier later
    obtain ⟨read, made, again, also, -, rfl⟩ := overlay_of_takes turnedEarlier turnedLater
    obtain rfl := Option.some.inj (stored.symm.trans again)
    obtain rfl := Except.ok.inj ((Config.overlay_append_comm apart done).symm.trans also)
    rfl
  repeats after earlier := by
    obtain ⟨config, updated, stored, done, valid, rfl⟩ := (takes_iff ..).mp earlier
    refine (takes_iff ..).mpr ⟨updated, updated, stored?_write_encode flash updated, ?_, valid, ?_⟩
    · exact Config.overlay_again done
    · exact (write_write ..).symm

/-- A stage in its tagged spelling and a task core, and then another task core, come to one object
with the stage and the later core. -/
theorem override_composes_tagged :
    let stage : String × Json := ("firmware_validation_stage", .object [("Every5s", .null)])
    let first : Document := [stage, ("task_core", .integer 1)]
    let second : Document := [("task_core", .integer 0)]
    let between := write {} supervisorSpace configKey
      ({ validationStage := .every5s, taskCore := 1 } : Config).encode
    let after := write {} supervisorSpace configKey
      ({ validationStage := .every5s, taskCore := 0 } : Config).encode
    first.merge second = [stage, ("task_core", .integer 0)] ∧ Composes {} first second ∧
      Takes {} first between ∧ between.Takes second after ∧
        Takes {} (first.merge second) after := by
  intro stage first second between after
  have composes : Composes {} first second := override_composes {} first second
  have earlier : Takes {} first between := (takes_iff ..).mpr ⟨{}, _, rfl, rfl, rfl, rfl⟩
  have later : between.Takes second after :=
    (takes_iff ..).mpr ⟨_, _, stored?_write_encode {} _, rfl, rfl, (write_write ..).symm⟩
  have joined := composes.joined between after earlier later
  exact ⟨by rfl, composes, earlier, later, joined⟩

end Flash

end Overseer
