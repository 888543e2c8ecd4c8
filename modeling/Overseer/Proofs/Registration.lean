import Overseer.Supervisor.Builder

/-!
# What registration comes to

A builder takes in adapters one after another, and three tables with different rules take in what
each of them brings. The adapters that are held are the first ones that were there, as many as fit;
one that comes later, or is missing, is refused and changes nothing. A table of commands or of
telemetry never refuses an adapter: it holds, of all the entries offered to it in order, the first
of each name (`Registry.distinct`), and of these the first that fit. Since the core entries are
offered first, their names always lead to them (`Builder.registers`).
-/
namespace Overseer

/-! ### Tables -/

namespace Registry

variable {α : Type} [Registrable α] {capacity : Nat}

/-- The entries without those whose name an earlier one has. -/
def distinct : List α → List α
  | [] => []
  | entry :: rest =>
    entry :: (distinct rest).filter fun other => Registrable.id other ≠ Registrable.id entry

/-- No name is lost. -/
theorem mem_ids_distinct (entries : List α) (id : String) :
    id ∈ (distinct entries).map Registrable.id ↔ id ∈ entries.map Registrable.id := by
  induction entries with
  | nil => exact Iff.rfl
  | cons entry rest ih =>
    by_cases same : id = Registrable.id entry
    · simp [distinct, same]
    · rw [distinct, List.map_cons, List.map_cons, List.mem_cons, List.mem_cons, ← ih]
      have kept : id ∈ ((distinct rest).filter fun other =>
          Registrable.id other ≠ Registrable.id entry).map Registrable.id ↔
          id ∈ (distinct rest).map Registrable.id := by
        simp only [List.mem_map, List.mem_filter, decide_eq_true_eq]
        constructor
        · rintro ⟨other, ⟨member, -⟩, named⟩
          exact ⟨other, member, named⟩
        · rintro ⟨other, member, rfl⟩
          exact ⟨other, ⟨member, same⟩, rfl⟩
      rw [kept]

/-- One more entry with a name of its own stands last. -/
theorem distinct_append_of_notMem {entries : List α} {entry : α}
    (free : Registrable.id entry ∉ entries.map Registrable.id) :
    distinct (entries ++ [entry]) = distinct entries ++ [entry] := by
  induction entries with
  | nil => rfl
  | cons first rest ih =>
    rw [List.map_cons, List.mem_cons, not_or] at free
    simp [distinct, ih free.2, free.1]

/-- One more entry whose name is taken is left out. -/
theorem distinct_append_of_mem {entries : List α} {entry : α}
    (taken : Registrable.id entry ∈ entries.map Registrable.id) :
    distinct (entries ++ [entry]) = distinct entries := by
  induction entries with
  | nil => contradiction
  | cons first rest ih =>
    by_cases later : Registrable.id entry ∈ rest.map Registrable.id
    · simp only [distinct, List.cons_append, ih later]
    · have same : Registrable.id entry = Registrable.id first :=
        (List.mem_cons.mp taken).resolve_right later
      simp [distinct, distinct_append_of_notMem later, same]

/-- Entries with names of their own lead all that follow. -/
theorem exists_distinct_append {first : List α} (own : (first.map Registrable.id).Nodup)
    (later : List α) : ∃ more, distinct (first ++ later) = first ++ more := by
  induction first with
  | nil => exact ⟨distinct later, rfl⟩
  | cons entry rest ih =>
    rw [List.map_cons, List.nodup_cons] at own
    obtain ⟨more, split⟩ := ih own.2
    have kept : rest.filter (fun other => Registrable.id other ≠ Registrable.id entry) = rest := by
      refine List.filter_eq_self.mpr fun other member => decide_eq_true fun same => own.1 ?_
      exact same ▸ List.mem_map_of_mem member
    refine ⟨more.filter fun other => Registrable.id other ≠ Registrable.id entry, ?_⟩
    rw [List.cons_append, distinct, split, List.filter_append, kept, List.cons_append]

/-- A registry holds what was offered: of all entries the first of each name, and of these as many
as fit. -/
def Holds (registry : Registry α capacity) (offered : List α) : Prop :=
  registry.entries = (distinct offered).take capacity

/-- An empty registry holds nothing. -/
theorem Holds.empty : Holds ({} : Registry α capacity) [] := by
  rw [Holds, distinct, List.take_nil]

/-- A registry that is offered another entry holds what was offered then. -/
theorem Holds.offer {registry : Registry α capacity} {offered : List α}
    (holds : registry.Holds offered) (entry : α) :
    (registry.offer entry).2.Holds (offered ++ [entry]) := by
  have fill : registry.size = min capacity (distinct offered).length := by
    rw [size, holds, List.length_take]
  have ids : registry.ids = ((distinct offered).take capacity).map Registrable.id := by
    rw [Registry.ids, holds]
  rw [Holds, entries_offer]
  by_cases room : (distinct offered).length < capacity
  · -- Nothing was dropped so far, so the names taken are those offered.
    have all : (distinct offered).take capacity = distinct offered :=
      List.take_of_length_le (Nat.le_of_lt room)
    have fits : registry.size < capacity := by omega
    rw [all] at ids
    by_cases taken : Registrable.id entry ∈ registry.ids
    · have listed := (mem_ids_distinct offered _).mp (ids ▸ taken)
      rw [if_neg fun free => free.1 taken, distinct_append_of_mem listed, holds]
    · have unlisted := mt (mem_ids_distinct offered _).mpr (ids ▸ taken)
      have short : (distinct offered ++ [entry]).length ≤ capacity := by
        rw [List.length_append]
        exact room
      rw [if_pos ⟨taken, fits⟩, distinct_append_of_notMem unlisted, holds, all,
        List.take_of_length_le short]
  · have full : ¬registry.size < capacity := by omega
    rw [if_neg fun free => full free.2, holds]
    by_cases listed : Registrable.id entry ∈ offered.map Registrable.id
    · rw [distinct_append_of_mem listed]
    · rw [distinct_append_of_notMem listed,
        List.take_append_of_le_length (Nat.le_of_not_lt room)]

/-- A registry that is offered entries in turn holds what was offered then. -/
theorem Holds.registerAll {registry : Registry α capacity} {earlier : List α}
    (holds : registry.Holds earlier) (later : List α) :
    (registry.registerAll later).value.2.Holds (earlier ++ later) := by
  induction later generalizing registry earlier with
  | nil =>
    rw [List.append_nil]
    exact holds
  | cons entry rest ih =>
    have next := holds.offer entry
    rw [← register_value] at next
    have done := ih next
    rw [List.append_assoc] at done
    exact done

/-- The name of an entry leads to it, if it was among the first that were offered, which have names
of their own and fit. -/
theorem Holds.find?_id {registry : Registry α capacity} {first later : List α}
    (holds : registry.Holds (first ++ later)) (own : (first.map Registrable.id).Nodup)
    (fits : first.length ≤ capacity) {entry : α} (member : entry ∈ first) :
    registry.find? (Registrable.id entry) = some entry := by
  obtain ⟨more, split⟩ := exists_distinct_append own later
  have listed : entry ∈ registry.entries := by
    rw [holds, split, List.take_append, List.take_of_length_le fits]
    exact List.mem_append_left _ member
  exact registry.find?_id listed

/-- An entry of a name is the one that the name leads to. -/
theorem eq_of_find? {registry : Registry α capacity} {id : String} {entry found : α}
    (leads : registry.find? id = some found) (member : entry ∈ registry.entries)
    (named : Registrable.id entry = id) : entry = found := by
  have own := registry.find?_id member
  rw [named, leads] at own
  exact (Option.some.inj own).symm

end Registry

/-! ### One registration -/

variable {σ : Type}

/-- The commands that an adapter offers in its place. -/
def Adapter.commandsIn (adapter : Adapter σ) (slot : Nat) : List Command :=
  adapter.commands.map fun command => { command with owner := .adapter slot }

namespace Builder

/-- The answer to an adapter, or to a missing one, when so many are held: whether there is room is
looked at first. -/
def due (held : Nat) (offered : Option (Adapter σ)) : Except RegistrationError Unit :=
  if adapterLimit ≤ held then .error (.capacityExceeded adapterLimit)
  else
    match offered with
    | none => .error .missingAdapter
    | some _ => .ok ()

/-- Only an adapter that is there is accepted, and only while there is room. -/
theorem due_eq_ok_iff (held : Nat) (offered : Option (Adapter σ)) :
    due held offered = .ok () ↔ held < adapterLimit ∧ offered.isSome := by
  unfold due
  split
  · rename_i full
    simp [Nat.not_lt.mpr full]
  · rename_i room
    cases offered with
    | none => simp
    | some adapter => simpa using room

/-- A builder has the adapters and the tables of another. -/
structure Alike (before after : Builder σ) : Prop where
  roster : after.roster = before.roster
  commands : after.commands = before.commands
  telemetry : after.telemetry = before.telemetry

/-- A builder has one more adapter than another, and its tables were offered what that adapter
offers. -/
structure Takes (adapter : Adapter σ) (before after : Builder σ) : Prop where
  roster : after.roster.adapters = before.roster.adapters ++ [adapter]
  commands : after.commands =
    (before.commands.registerAll (adapter.commandsIn before.roster.size)).value.2
  telemetry : after.telemetry = (before.telemetry.registerAll adapter.telemetry).value.2

/-- A refusal of the roster is the answer, and nothing is changed. -/
theorem register_of_refused {builder : Builder σ} {offered : Option (Adapter σ)}
    {error : RegistrationError}
    (refused : (builder.roster.register offered).value = (.error error, builder.roster)) :
    (builder.register offered).1 = .error error ∧ builder.Alike (builder.register offered).2 := by
  have enlisted : (builder.enlist offered).value = (.error error, builder) := by
    simp only [enlist, Logged.bind_value, refused, Logged.pure_value]
  simp only [register, enlisted]
  exact ⟨trivial, rfl, rfl, rfl⟩

/-- When there is room, an adapter is taken. -/
theorem register_of_room {builder : Builder σ} (room : builder.roster.size < adapterLimit)
    (adapter : Adapter σ) :
    (builder.register (some adapter)).1 = .ok () ∧
      Takes adapter builder (builder.register (some adapter)).2 := by
  have accepted : (builder.roster.register (some adapter)).value =
      (.ok adapter, builder.roster.append adapter room) := by
    rw [Roster.register, dif_pos room]
    rfl
  have enlisted : (builder.enlist (some adapter)).value =
      (.ok (), { builder with
        roster := builder.roster.append adapter room
        commands := (builder.commands.registerAll (adapter.commandsIn builder.roster.size)).value.2
        telemetry := (builder.telemetry.registerAll adapter.telemetry).value.2 }) := by
    simp only [enlist, Logged.bind_value, accepted]
    split
    · rfl
    · rfl
  simp only [register, enlisted]
  exact ⟨trivial, rfl, rfl, rfl⟩

/-- What a registration does: it gives the answer that is due, it takes an adapter if it says so,
and it changes nothing otherwise. -/
structure Answers (builder : Builder σ) (offered : Option (Adapter σ))
    (answer : Except RegistrationError Unit) (after : Builder σ) : Prop where
  due : answer = due builder.roster.size offered
  taken : answer = .ok () → ∃ adapter, offered = some adapter ∧ Takes adapter builder after
  refused : ∀ error, answer = .error error → builder.Alike after

/-- Every registration does so. -/
theorem register_answers (builder : Builder σ) (offered : Option (Adapter σ)) :
    builder.Answers offered (builder.register offered).1 (builder.register offered).2 := by
  by_cases room : builder.roster.size < adapterLimit
  · have vacant : ¬adapterLimit ≤ builder.roster.size := Nat.not_le.mpr room
    cases offered with
    | none =>
      have refused : (builder.roster.register none).value =
          (.error .missingAdapter, builder.roster) := by
        rw [Roster.register, dif_pos room]
        rfl
      obtain ⟨answer, alike⟩ := register_of_refused refused
      refine ⟨?_, fun ok => ?_, fun _ _ => alike⟩
      · rw [answer, due, if_neg vacant]
      · rw [answer] at ok
        contradiction
    | some adapter =>
      obtain ⟨answer, takes⟩ := register_of_room room adapter
      refine ⟨?_, fun _ => ⟨adapter, rfl, takes⟩, fun error failed => ?_⟩
      · rw [answer, due, if_neg vacant]
      · rw [answer] at failed
        contradiction
  · have full : adapterLimit ≤ builder.roster.size := Nat.not_lt.mp room
    have refused : (builder.roster.register offered).value =
        (.error (.capacityExceeded adapterLimit), builder.roster) := by
      rw [Roster.register, dif_neg room]
      rfl
    obtain ⟨answer, alike⟩ := register_of_refused refused
    refine ⟨?_, fun ok => ?_, fun _ _ => alike⟩
    · rw [answer]
      exact (if_pos full).symm
    · rw [answer] at ok
      contradiction

/-- A registration changes nothing, or it takes the adapter. -/
theorem register_cases (builder : Builder σ) (offered : Option (Adapter σ)) :
    builder.Alike (builder.register offered).2 ∨
      ∃ adapter, offered = some adapter ∧ Takes adapter builder (builder.register offered).2 := by
  have answers := builder.register_answers offered
  cases answer : (builder.register offered).1 with
  | ok done => exact .inr (answers.taken answer)
  | error error => exact .inl (answers.refused error answer)

end Builder

/-! ### Registrations in turn -/

namespace Builder

/-- The builder after registrations in turn. -/
def registerEach (builder : Builder σ) (offered : List (Option (Adapter σ))) : Builder σ :=
  offered.foldl (fun between adapter => (between.register adapter).2) builder

/-- Of adapters that were offered in turn, those that are held: the first that were there, as many
as fit. -/
def held (offered : List (Option (Adapter σ))) : List (Adapter σ) :=
  (offered.filterMap id).take adapterLimit

/-- The commands that adapters offer, each in its place. -/
def commandsOf (adapters : List (Adapter σ)) : List Command :=
  adapters.zipIdx.flatMap fun (adapter, slot) => adapter.commandsIn slot

/-- The telemetry entries that adapters offer. -/
def telemetryOf (adapters : List (Adapter σ)) : List Telemetry :=
  adapters.flatMap Adapter.telemetry

/-- A builder holds adapters: its tables hold the core entries and what the adapters offered after
them. -/
structure Holds (builder : Builder σ) (adapters : List (Adapter σ)) : Prop where
  roster : builder.roster.adapters = adapters
  commands : builder.commands.Holds (Core.commands ++ commandsOf adapters)
  telemetry : builder.telemetry.Holds (Core.telemetry ++ telemetryOf adapters)

/-- A new builder holds none. -/
theorem holds_onBoard (config : Config) (board : Board) :
    (onBoard config board : Builder σ).Holds (held []) where
  roster := rfl
  commands := Registry.Holds.empty.registerAll Core.commands
  telemetry := Registry.Holds.empty.registerAll Core.telemetry

/-- A builder that takes an adapter holds it after the others. -/
theorem Takes.holds {adapter : Adapter σ} {before after : Builder σ}
    (takes : Takes adapter before after) {adapters : List (Adapter σ)}
    (holds : before.Holds adapters) : after.Holds (adapters ++ [adapter]) where
  roster := by rw [takes.roster, holds.roster]
  commands := by
    have slot : before.roster.size = adapters.length := by rw [Roster.size, holds.roster]
    have offered := holds.commands.registerAll (adapter.commandsIn before.roster.size)
    rw [takes.commands, commandsOf, List.zipIdx_append, List.flatMap_append, ← List.append_assoc]
    rw [slot] at offered ⊢
    simpa [commandsOf] using offered
  telemetry := by
    have offered := holds.telemetry.registerAll adapter.telemetry
    rw [takes.telemetry, telemetryOf, List.flatMap_append, ← List.append_assoc]
    simpa [telemetryOf] using offered

/-- A builder like one that holds adapters holds them. -/
theorem Alike.holds {before after : Builder σ} (alike : before.Alike after)
    {adapters : List (Adapter σ)} (holds : before.Holds adapters) : after.Holds adapters where
  roster := by rw [alike.roster, holds.roster]
  commands := alike.commands ▸ holds.commands
  telemetry := alike.telemetry ▸ holds.telemetry

/-- An adapter that is there is held after the others while there is room. -/
theorem held_append_some {earlier : List (Option (Adapter σ))}
    (room : (held earlier).length < adapterLimit) (adapter : Adapter σ) :
    held (earlier ++ [some adapter]) = held earlier ++ [adapter] := by
  have few : (earlier.filterMap id).length < adapterLimit := by
    rw [held, List.length_take] at room
    omega
  have all : held earlier = earlier.filterMap id := List.take_of_length_le (Nat.le_of_lt few)
  have short : (earlier.filterMap id ++ [adapter]).length ≤ adapterLimit := by
    rw [List.length_append]
    exact few
  rw [all, held, List.filterMap_append]
  exact List.take_of_length_le short

/-- Nothing else changes what is held: a missing adapter, or any when there is no room. -/
theorem held_append_of_refused {earlier : List (Option (Adapter σ))} {next : Option (Adapter σ)}
    (refused : ¬((held earlier).length < adapterLimit ∧ next.isSome)) :
    held (earlier ++ [next]) = held earlier := by
  rw [held, List.filterMap_append]
  cases next with
  | none => rw [List.filterMap_cons_none rfl, List.filterMap_nil, List.append_nil, held]
  | some adapter =>
    have full : adapterLimit ≤ (earlier.filterMap id).length := by
      rw [held, List.length_take] at refused
      simp only [Option.isSome_some, and_true] at refused
      omega
    rw [List.take_append_of_le_length full, held]

/-- One more registration adds to what a builder holds, or changes nothing. -/
theorem Holds.register {builder : Builder σ} {earlier : List (Option (Adapter σ))}
    (holds : builder.Holds (held earlier)) (next : Option (Adapter σ)) :
    (builder.register next).2.Holds (held (earlier ++ [next])) := by
  have answers := builder.register_answers next
  have size : builder.roster.size = (held earlier).length := by rw [Roster.size, holds.roster]
  have due := answers.due
  rw [size] at due
  cases answer : (builder.register next).1 with
  | ok done =>
    obtain ⟨adapter, rfl, takes⟩ := answers.taken answer
    have room := ((due_eq_ok_iff _ _).mp (due.symm.trans answer)).1
    rw [held_append_some room]
    exact takes.holds holds
  | error error =>
    have refused : ¬((held earlier).length < adapterLimit ∧ next.isSome) := by
      rw [← due_eq_ok_iff, ← due, answer]
      exact nofun
    rw [held_append_of_refused refused]
    exact (answers.refused error answer).holds holds

/-- So do registrations in turn. -/
theorem Holds.registerEach {builder : Builder σ} {earlier : List (Option (Adapter σ))}
    (holds : builder.Holds (held earlier)) (later : List (Option (Adapter σ))) :
    (builder.registerEach later).Holds (held (earlier ++ later)) := by
  induction later generalizing builder earlier with
  | nil =>
    rw [List.append_nil]
    exact holds
  | cons next rest ih =>
    have done := ih (holds.register next)
    rw [List.append_assoc] at done
    exact done

/-- What adapters offered in turn come to: which of them are held, what the tables hold, what the
names of the core commands lead to, before and after building, and what one more registration
answers and, if it is refused, leaves alone. -/
structure Registered (offered : List (Option (Adapter σ))) (builder : Builder σ) : Prop where
  adapters : builder.roster.adapters = held offered
  commands : builder.commands.entries =
    (Registry.distinct (Core.commands ++ commandsOf (held offered))).take commandLimit
  telemetry : builder.telemetry.entries =
    (Registry.distinct (Core.telemetry ++ telemetryOf (held offered))).take telemetryLimit
  core : ∀ id ∈ ["restart", "help", "setconf", "resetconf", "onboard_led"],
    ∃ command ∈ Core.commands, command.id = id ∧ builder.commands.find? id = some command ∧
      builder.build.environment.hub.find? id = some command
  answered : ∀ next, (builder.register next).1 = due (held offered).length next
  refused : ∀ next error, (builder.register next).1 = .error error →
    builder.Alike (builder.register next).2

/-- The names of the core commands differ. -/
theorem nodup_core : (Core.commands.map Registrable.id).Nodup := by
  show ["restart", "help", "setconf", "resetconf", "onboard_led"].Nodup
  decide

/-- Whatever is registered on a new builder, the tables hold the first entries of each name, and the
core commands are among them. -/
theorem registers (config : Config) (board : Board) (offered : List (Option (Adapter σ))) :
    Registered offered ((onBoard config board).registerEach offered) := by
  have holds : ((onBoard config board).registerEach offered).Holds (held offered) :=
    (holds_onBoard config board).registerEach offered
  have size : ((onBoard config board).registerEach offered).roster.size =
      (held offered).length := by
    rw [Roster.size, holds.roster]
  refine ⟨holds.roster, holds.commands, holds.telemetry, fun id core => ?_, fun next => ?_,
    fun next error => (register_answers _ next).refused error⟩
  · have named : id ∈ Core.commands.map Command.id := core
    obtain ⟨command, member, rfl⟩ := List.mem_map.mp named
    have found := holds.commands.find?_id nodup_core (by decide) member
    exact ⟨command, member, rfl, found, found⟩
  · rw [← size]
    exact (register_answers _ next).due

end Builder

end Overseer
