import Mathlib.Data.List.Basic
import Mathlib.Data.List.Induction
import Overseer.Proofs.Registration

/-!
# Entries that are offered in calls

A table is filled by calls, each of which offers one entry or a group of them, and answers with what
it added. How the entries are split into calls does not show: calls in turn do to a registry, and
say in its log, what one group of all their entries does (`Registry.receiveAll_joined`), and the
registry holds what that group offers. A name leads to the first entry that was offered under it,
if the name is among the first that were offered and fit (`Registry.Holds.find?_eq`).
`Registry.enrols` says what comes of this for a registry that was empty at first.
-/
namespace Overseer

/-! ### Calls -/

/-- A call that offers entries to a registry. -/
inductive Offer (α : Type) where
  /-- One entry is offered. -/
  | single (entry : α)
  /-- Several entries are offered, one after the other. -/
  | group (entries : List α)

/-- What a call answers. -/
inductive Receipt where
  /-- Whether the entry was added. -/
  | accepted (added : Bool)
  /-- How many entries of the group were added. -/
  | count (added : Nat)
deriving DecidableEq, Repr

/-- How many entries were added, by an answer. -/
def Receipt.added : Receipt → Nat
  | .accepted added => added.toNat
  | .count added => added

/-- How many entries were added, by all answers. -/
def Receipt.total : List Receipt → Nat
  | [] => 0
  | receipt :: rest => receipt.added + total rest

namespace Offer

variable {α : Type}

/-- The entries that a call offers. -/
def entries : Offer α → List α
  | .single entry => [entry]
  | .group entries => entries

/-- What a call has to answer that added these entries. -/
def receipt (added : List α) : Offer α → Receipt
  | .single _ => .accepted !added.isEmpty
  | .group _ => .count added.length

/-- The answer to a call that added some of its entries tells their number. -/
theorem added_receipt {offer : Offer α} {added : List α} (part : added.Sublist offer.entries) :
    (offer.receipt added).added = added.length := by
  cases offer with
  | single entry => rcases List.sublist_singleton.mp part with rfl | rfl <;> rfl
  | group entries => rfl

end Offer

namespace Registry

variable {α : Type} [Registrable α] {capacity : Nat}

/-- Carry out a call: its answer, and the registry after it. -/
def receive (registry : Registry α capacity) :
    Offer α → Logged (Receipt × Registry α capacity)
  | .single entry => do
    let (added, after) ← registry.register entry
    return (.accepted added, after)
  | .group entries => do
    let (added, after) ← registry.registerAll entries
    return (.count added, after)

/-- Carry out calls in turn: their answers, and the registry after them. -/
def receiveAll (registry : Registry α capacity) :
    List (Offer α) → Logged (List Receipt × Registry α capacity)
  | [] => return ([], registry)
  | offer :: rest => do
    let (receipt, between) ← registry.receive offer
    let (receipts, after) ← between.receiveAll rest
    return (receipt :: receipts, after)

/-! ### What a call adds -/

/-- A registry grows by entries that stand behind those it had. -/
structure Grows (before : Registry α capacity) (offered added : List α)
    (after : Registry α capacity) : Prop where
  entries : after.entries = before.entries ++ added
  offered : added.Sublist offered

/-- An entry that is offered is added, or it is refused and nothing changes. -/
theorem offer_cases (registry : Registry α capacity) (entry : α) :
    (∃ after, registry.offer entry = (none, after) ∧
      after.entries = registry.entries ++ [entry]) ∨
    ∃ refusal, registry.offer entry = (some refusal, registry) := by
  unfold offer
  split
  · split
    · exact .inl ⟨_, rfl, rfl⟩
    · exact .inr ⟨_, rfl⟩
  · exact .inr ⟨_, rfl⟩

/-- Registering an entry adds it or nothing, and says which. -/
theorem register_grows (registry : Registry α capacity) (entry : α) :
    ∃ added, Grows registry [entry] added (registry.register entry).value.2 ∧
      (registry.register entry).value.1 = !added.isEmpty := by
  rcases registry.offer_cases entry with ⟨after, added, entries⟩ | ⟨refusal, refused⟩
  · refine ⟨[entry], ⟨?_, .refl _⟩, ?_⟩
    · rw [register_value, added, entries]
    · simp only [register, added]
      rfl
  · refine ⟨[], ⟨?_, List.nil_sublist _⟩, ?_⟩
    · rw [register_value, refused, List.append_nil]
    · simp only [register, refused]
      rfl

/-- Entries are registered one after the other. -/
theorem registerAll_cons (registry : Registry α capacity) (entry : α) (rest : List α) :
    registry.registerAll (entry :: rest) =
      let first := registry.register entry
      let others := first.value.2.registerAll rest
      ⟨(first.value.1.toNat + others.value.1, others.value.2), first.lines ++ others.lines⟩ := by
  have count (added : Bool) (others : Nat) :
      (if added then others + 1 else others) = added.toNat + others := by
    cases added with
    | false => exact (Nat.zero_add others).symm
    | true => exact Nat.add_comm others 1
  simp only [registerAll, bind, pure, List.append_nil, count]

/-- Registering entries in turn adds some of them, and says how many. -/
theorem registerAll_grows (registry : Registry α capacity) (entries : List α) :
    ∃ added, Grows registry entries added (registry.registerAll entries).value.2 ∧
      (registry.registerAll entries).value.1 = added.length := by
  induction entries generalizing registry with
  | nil => exact ⟨[], ⟨(List.append_nil _).symm, .slnil⟩, rfl⟩
  | cons entry rest ih =>
    obtain ⟨first, one, accepted⟩ := registry.register_grows entry
    obtain ⟨others, more, counted⟩ := ih (registry.register entry).value.2
    refine ⟨first ++ others, ⟨?_, one.offered.append more.offered⟩, ?_⟩
    · rw [registerAll_cons, ← List.append_assoc, ← one.entries]
      exact more.entries
    · have part : first.Sublist (Offer.single entry).entries := one.offered
      have length : (!first.isEmpty).toNat = first.length := Offer.added_receipt part
      rw [registerAll_cons, List.length_append, ← counted, ← length, ← accepted]

/-- A call adds some of the entries that it offers, and answers with what it added. -/
theorem receive_grows (registry : Registry α capacity) (offer : Offer α) :
    ∃ added, Grows registry offer.entries added (registry.receive offer).value.2 ∧
      (registry.receive offer).value.1 = offer.receipt added := by
  cases offer with
  | single entry =>
    obtain ⟨added, grows, answer⟩ := registry.register_grows entry
    exact ⟨added, grows, congrArg Receipt.accepted answer⟩
  | group entries =>
    obtain ⟨added, grows, answer⟩ := registry.registerAll_grows entries
    exact ⟨added, grows, congrArg Receipt.count answer⟩

/-! ### Calls in turn -/

/-- Groups in a row are one group. -/
theorem registerAll_append (registry : Registry α capacity) (earlier later : List α) :
    registry.registerAll (earlier ++ later) =
      let first := registry.registerAll earlier
      let second := first.value.2.registerAll later
      ⟨(first.value.1 + second.value.1, second.value.2), first.lines ++ second.lines⟩ := by
  induction earlier generalizing registry with
  | nil => simp only [List.nil_append, registerAll, pure, Nat.zero_add]
  | cons entry rest ih =>
    simp only [List.cons_append, registerAll_cons, ih, Nat.add_assoc, List.append_assoc]

/-- Every call of several adds to the registry that the calls before it leave, and answers with what
it added. -/
theorem receiveAll_grows (registry : Registry α capacity) {offers : List (Offer α)} {place : Nat}
    {offer : Offer α} (called : offers[place]? = some offer) :
    ∃ added, Grows (registry.receiveAll (offers.take place)).value.2 offer.entries added
        (registry.receiveAll (offers.take (place + 1))).value.2 ∧
      (registry.receiveAll offers).value.1[place]? = some (offer.receipt added) := by
  induction offers generalizing registry place with
  | nil => contradiction
  | cons first rest ih =>
    cases place with
    | zero =>
      obtain rfl : first = offer := Option.some.inj called
      obtain ⟨added, grows, answer⟩ := registry.receive_grows first
      exact ⟨added, grows, congrArg some answer⟩
    | succ place => exact ih (registry.receive first).value.2 called

/-- A call is a group of the entries that it offers. -/
theorem receive_joined (registry : Registry α capacity) (offer : Offer α) :
    registry.registerAll offer.entries =
      ⟨((registry.receive offer).value.1.added, (registry.receive offer).value.2),
        (registry.receive offer).lines⟩ := by
  cases offer with
  | single entry =>
    simp only [Offer.entries, registerAll_cons, registerAll, receive, bind, pure, Nat.add_zero]
    rfl
  | group entries =>
    simp only [Offer.entries, receive, bind, pure, List.append_nil]
    rfl

/-- Calls in turn are one group of all the entries that they offer. -/
theorem receiveAll_joined (registry : Registry α capacity) (offers : List (Offer α)) :
    registry.registerAll (offers.flatMap Offer.entries) =
      ⟨(Receipt.total (registry.receiveAll offers).value.1, (registry.receiveAll offers).value.2),
        (registry.receiveAll offers).lines⟩ := by
  induction offers generalizing registry with
  | nil => rfl
  | cons offer rest ih =>
    rw [List.flatMap_cons, registerAll_append, receive_joined]
    simp only [ih, receiveAll, bind, pure, List.append_nil]
    rfl

/-! ### Names -/

/-- Entries whose names were all offered before are left out. -/
theorem distinct_append_of_forall_mem {earlier later : List α}
    (taken : ∀ entry ∈ later, Registrable.id entry ∈ earlier.map Registrable.id) :
    distinct (earlier ++ later) = distinct earlier := by
  induction later using List.reverseRecOn with
  | nil => rw [List.append_nil]
  | append_singleton others last ih =>
    have before : Registrable.id last ∈ (earlier ++ others).map Registrable.id := by
      rw [List.map_append]
      exact List.mem_append_left _ (taken last (by simp))
    rw [← List.append_assoc, distinct_append_of_mem before]
    exact ih fun entry member => taken entry (List.mem_append_left _ member)

/-- The names of the entries that are first of their names are the names that were offered, in the
order in which they came first. -/
theorem ids_distinct (entries : List α) :
    (distinct entries).map Registrable.id = (entries.map Registrable.id).eraseDups := by
  induction entries using List.reverseRecOn with
  | nil => rfl
  | append_singleton earlier last ih =>
    rw [List.map_append, List.map_singleton, List.eraseDups_append, ← ih]
    by_cases taken : Registrable.id last ∈ earlier.map Registrable.id
    · have dropped : [Registrable.id last].removeAll (earlier.map Registrable.id) = [] := by
        simpa [List.removeAll] using taken
      rw [distinct_append_of_mem taken, dropped, List.eraseDups_nil, List.append_nil]
    · have kept : [Registrable.id last].removeAll (earlier.map Registrable.id) =
          [Registrable.id last] := by
        simpa [List.removeAll] using taken
      rw [distinct_append_of_notMem taken, kept, List.map_append]
      rfl

/-- A name leads to the same entry with or without the later entries of their names. -/
theorem find?_distinct (entries : List α) (id : String) :
    (distinct entries).find? (Registrable.id · == id) =
      entries.find? (Registrable.id · == id) := by
  induction entries with
  | nil => rfl
  | cons entry rest ih =>
    by_cases same : Registrable.id entry = id
    · rw [distinct, List.find?_cons_of_pos (by simpa using same),
        List.find?_cons_of_pos (by simpa using same)]
    · rw [distinct, List.find?_cons_of_neg (by simpa using same),
        List.find?_cons_of_neg (by simpa using same), ← ih, List.find?_filter]
      -- An entry of the name that is looked for is not one that was left out for another name.
      congr 1
      funext other
      by_cases named : Registrable.id other = id
      · simp [named, Ne.symm same]
      · simp [named]

/-- A name leads to the first entry that was offered under it, if it is among the first names that
were offered, as many as fit, and to nothing otherwise. -/
theorem Holds.find?_eq {registry : Registry α capacity} {offered : List α}
    (holds : registry.Holds offered) (id : String) :
    registry.find? id =
      if id ∈ (offered.map Registrable.id).eraseDups.take capacity then
        offered.find? (Registrable.id · == id)
      else none := by
  have ids : registry.ids = (offered.map Registrable.id).eraseDups.take capacity := by
    rw [Registry.ids, holds, List.map_take, ids_distinct]
  rw [← ids]
  split
  · rename_i listed
    obtain ⟨entry, found⟩ :=
      Option.ne_none_iff_exists'.mp (mt (registry.find?_eq_none_iff id).mp (not_not.mpr listed))
    have all : (distinct offered).find? (Registrable.id · == id) = some entry := by
      rw [find?, holds] at found
      rw [← List.take_append_drop capacity (distinct offered), List.find?_append, found]
      rfl
    rw [found, ← find?_distinct, all]
  · rename_i unlisted
    exact (registry.find?_eq_none_iff id).mpr unlisted

/-- A registry is what its entries are. -/
theorem eq_of_entries {first second : Registry α capacity}
    (same : first.entries = second.entries) : first = second := by
  cases first
  cases second
  obtain rfl := same
  rfl

/-! ### From an empty registry -/

/-- Calls, carried out on an empty registry: their answers, and the registry after them. -/
def enrolment (capacity : Nat) (offers : List (Offer α)) :
    Logged (List Receipt × Registry α capacity) :=
  ({} : Registry α capacity).receiveAll offers

/-- The registry that calls make of an empty one. -/
def ofOffers (capacity : Nat) (offers : List (Offer α)) : Registry α capacity :=
  (enrolment capacity offers).value.2

/-- What calls answer that are carried out on an empty registry. -/
def receipts (capacity : Nat) (offers : List (Offer α)) : List Receipt :=
  (enrolment capacity offers).value.1

section

variable (capacity : Nat) (offers : List (Offer α))

/-- Calls on an empty registry are one group of all the entries that they offer. -/
theorem enrolment_joined :
    ({} : Registry α capacity).registerAll (offers.flatMap Offer.entries) =
      ⟨(Receipt.total (receipts capacity offers), ofOffers capacity offers),
        (enrolment capacity offers).lines⟩ :=
  receiveAll_joined _ _

/-- The registry holds what the calls offered. -/
theorem holds_ofOffers :
    (ofOffers capacity offers).Holds (offers.flatMap Offer.entries) := by
  have empty : ({} : Registry α capacity).Holds [] := .empty
  have holds := empty.registerAll (offers.flatMap Offer.entries)
  rw [enrolment_joined] at holds
  exact holds

/-- Names that were offered before change nothing when they are offered again. -/
theorem ofOffers_append_of_repeated {offers more : List (Offer α)}
    (repeated : ∀ offer ∈ more, ∀ entry ∈ offer.entries,
      Registrable.id entry ∈ (offers.flatMap Offer.entries).map Registrable.id) :
    ofOffers capacity (offers ++ more) = ofOffers capacity offers := by
  have taken : ∀ entry ∈ more.flatMap Offer.entries,
      Registrable.id entry ∈ (offers.flatMap Offer.entries).map Registrable.id := by
    intro entry member
    obtain ⟨offer, called, offered⟩ := List.mem_flatMap.mp member
    exact repeated offer called entry offered
  refine eq_of_entries ?_
  rw [holds_ofOffers, holds_ofOffers, List.flatMap_append, distinct_append_of_forall_mem taken]

/-- The answers tell the number of entries. -/
theorem total_receipts :
    Receipt.total (receipts capacity offers) = (ofOffers capacity offers).size := by
  obtain ⟨added, grows, counted⟩ :=
    ({} : Registry α capacity).registerAll_grows (offers.flatMap Offer.entries)
  rw [enrolment_joined] at grows counted
  rw [size, grows.entries, List.nil_append]
  exact counted

end

/-- What comes of calls that offer entries to an empty registry. It holds the first entry of each
name that was offered, as many as fit. Each call answers with what it added. How the same entries
are split into calls changes neither the registry nor the number of entries that were added, nor
what is logged. And a name leads to the first entry that was offered under it, if it is among the
first names, as many as fit. -/
structure Enrols (capacity : Nat) (offers : List (Offer α)) : Prop where
  entries : (ofOffers capacity offers).entries =
    (distinct (offers.flatMap Offer.entries)).take capacity
  answered : ∀ place offer, offers[place]? = some offer →
    ∃ added, Grows (ofOffers capacity (offers.take place)) offer.entries added
        (ofOffers capacity (offers.take (place + 1))) ∧
      (receipts capacity offers)[place]? = some (offer.receipt added)
  counted : Receipt.total (receipts capacity offers) = (ofOffers capacity offers).size
  regrouped : ∀ others : List (Offer α),
    others.flatMap Offer.entries = offers.flatMap Offer.entries →
      ofOffers capacity others = ofOffers capacity offers ∧
      Receipt.total (receipts capacity others) = Receipt.total (receipts capacity offers) ∧
      (enrolment capacity others).lines = (enrolment capacity offers).lines
  found : ∀ id, (ofOffers capacity offers).find? id =
    if id ∈ ((offers.flatMap Offer.entries).map Registrable.id).eraseDups.take capacity then
      (offers.flatMap Offer.entries).find? (Registrable.id · == id)
    else none

/-- Whatever the calls are, this comes of them. -/
theorem enrols (capacity : Nat) (offers : List (Offer α)) : Enrols capacity offers := by
  refine ⟨holds_ofOffers capacity offers, fun place offer => receiveAll_grows _,
    total_receipts capacity offers, fun others same => ?_,
    (holds_ofOffers capacity offers).find?_eq⟩
  have joined := enrolment_joined capacity others
  rw [same, enrolment_joined capacity offers] at joined
  simp only [Logged.mk.injEq, Prod.mk.injEq] at joined
  exact ⟨joined.1.2.symm, joined.1.1.symm, joined.2.symm⟩

end Registry

/-- The tables of commands and of telemetry take in entries by these rules. -/
theorem tables_enrol :
    (∀ offers : List (Offer Command), Registry.Enrols commandLimit offers) ∧
      ∀ offers : List (Offer Telemetry), Registry.Enrols telemetryLimit offers :=
  ⟨Registry.enrols commandLimit, Registry.enrols telemetryLimit⟩

/-- A name that no longer fits is dropped as often as it is offered, within a group or alone. -/
example :
    let entry (id : String) : Telemetry := ⟨id, fun _ _ document => document⟩
    Registry.receipts 2 [.group [entry "a", entry "b", entry "a", entry "c"], .single (entry "c"),
      .single (entry "b")] = [.count 2, .accepted false, .accepted false] := by
  decide

end Overseer
