import Overseer.Proofs.Enrolment
import Overseer.Supervisor.Hub

/-!
# Telemetry documents, entry by entry

A document is built by every appender of a table in turn, or by asking for the entries one after the
other by their names. An appender may do anything to the document, so both give the same only if
each name leads to the very entry that it was listed for (`Registry.find?_id`). That every name is
listed once is part of a registry, and it stays so whatever is offered to it; a name that was
offered before changes nothing when it is offered again. `TelemetryTable.assembles` puts this
together for a table that was filled by any calls.
-/
namespace Overseer

/-- Ask for names in turn: whether there was an entry of each, and the document after them. -/
def Telemetry.inTurn (appendOne : String → Document → Bool × Document) :
    List String → Document → List Bool × Document
  | [], document => ([], document)
  | id :: rest, document =>
    let (found, between) := appendOne id document
    let (others, after) := inTurn appendOne rest between
    (found :: others, after)

namespace TelemetryTable

variable (table : TelemetryTable) (vitals : Vitals)

/-- The name of an entry runs its appender. -/
theorem appendOne_id {entry : Telemetry} (member : entry ∈ table.entries) (document : Document) :
    table.appendOne vitals entry.id document = (true, entry.run vitals document) := by
  have found : Registry.find? table entry.id = some entry := table.find?_id member
  rw [appendOne, found]

/-- A name that no entry has is not found, and leaves the document as it is. -/
theorem appendOne_of_notMem {id : String} (unlisted : id ∉ Registry.ids table)
    (document : Document) : table.appendOne vitals id document = (false, document) := by
  have missing := (Registry.find?_eq_none_iff table id).mpr unlisted
  rw [appendOne, missing]

/-- Asking for every entry by its name does what running every appender does, and each of them is
found. -/
theorem inTurn_ids (document : Document) :
    Telemetry.inTurn (table.appendOne vitals) (Registry.ids table) document =
      (List.replicate (Registry.size table) true, table.appendAll vitals document) := by
  have among (entries : List Telemetry) (listed : ∀ entry ∈ entries, entry ∈ table.entries)
      (document : Document) :
      Telemetry.inTurn (table.appendOne vitals) (entries.map Telemetry.id) document =
        (List.replicate entries.length true,
          entries.foldl (fun document entry => entry.run vitals document) document) := by
    induction entries generalizing document with
    | nil => rfl
    | cons entry rest ih =>
      have first := table.appendOne_id vitals (listed entry List.mem_cons_self) document
      have others := ih fun other member => listed other (List.mem_cons_of_mem _ member)
      rw [List.map_cons, Telemetry.inTurn, first]
      simp only [others]
      rfl
  exact among table.entries (fun _ member => member) document

/-- The table that calls make of an empty one. -/
def ofOffers (offers : List (Offer Telemetry)) : TelemetryTable :=
  Registry.ofOffers telemetryLimit offers

/-- A table that was filled by calls builds documents entry by entry, directly and through a hub
that has the table: each of its names is found, and in turn they give what all appenders give; any
other name is not found and changes nothing. Names that are offered again leave the table as it is.
-/
structure Assembles (offers : List (Offer Telemetry)) : Prop where
  each : ∀ vitals document,
    Telemetry.inTurn ((ofOffers offers).appendOne vitals) (Registry.ids (ofOffers offers))
        document =
      (List.replicate (Registry.size (ofOffers offers)) true,
        (ofOffers offers).appendAll vitals document)
  unknown : ∀ vitals, ∀ id ∉ Registry.ids (ofOffers offers), ∀ document,
    (ofOffers offers).appendOne vitals id document = (false, document)
  shared : ∀ hub : Hub, hub.telemetry = some (ofOffers offers) →
    hub.appendTelemetry = (ofOffers offers).appendAll ∧
      hub.appendTelemetryOf = (ofOffers offers).appendOne
  repeated : ∀ more : List (Offer Telemetry),
    (∀ offer ∈ more, ∀ entry ∈ offer.entries,
      entry.id ∈ (offers.flatMap Offer.entries).map Telemetry.id) →
        ofOffers (offers ++ more) = ofOffers offers

/-- Whatever the calls are and whatever the appenders do, documents are built so. -/
theorem assembles (offers : List (Offer Telemetry)) : Assembles offers := by
  refine ⟨(ofOffers offers).inTurn_ids, fun vitals id => appendOne_of_notMem _ vitals,
    fun hub has => ⟨?_, ?_⟩, fun more => Registry.ofOffers_append_of_repeated telemetryLimit⟩
  · funext vitals document
    rw [Hub.appendTelemetry, has]
  · funext vitals id document
    rw [Hub.appendTelemetryOf, has]

/-- An appender may remove what another one has set; the second offer of its name is ignored. -/
example (vitals : Vitals) :
    let offers : List (Offer Telemetry) :=
      [.group [⟨"a", fun _ id document => document.set id .null⟩,
        ⟨"b", fun _ id document => (document.erase "a").set id .null⟩],
        .single ⟨"b", fun _ _ document => document⟩]
    (ofOffers offers).appendAll vitals [] = [("b", .null)] := by
  rfl

end TelemetryTable

end Overseer
