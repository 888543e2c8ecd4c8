import Mathlib.Data.List.DropRight
import Mathlib.Data.Nat.Bitwise
import Overseer.Proofs.Landmarks

/-!
# The delivery of events

Anyone may raise events between any two steps of the loop, and the loop takes all of them at once
in every pass. `Tally` ties the pending word and the words that were taken to the trace: a word is
the union of what was raised since the taking before it. Every step keeps it, so no event is lost,
delivered twice or invented at any moment of any run (`Builder.Reached.conserves_events`).
-/
namespace Overseer

variable {σ : Type}

/-! ### Bits -/

namespace EventSet

/-- Whether the bit in a position is set. -/
def has (set : EventSet) (position : Nat) : Bool := set.word.toNat.testBit position

@[simp] theorem has_empty (position : Nat) : (∅ : EventSet).has position = false :=
  Nat.zero_testBit position

@[simp] theorem has_union (left right : EventSet) (position : Nat) :
    (left ∪ right).has position = (left.has position || right.has position) := by
  unfold has
  rw [word_union, UInt32.toNat_or, Nat.testBit_or]

/-- A word below a power of two has no bit from there on. -/
theorem has_eq_false_of_lt {set : EventSet} {count position : Nat}
    (small : set.word.toNat < 2 ^ count) (beyond : count ≤ position) :
    set.has position = false := by
  apply Nat.testBit_lt_two_pow
  exact Nat.lt_of_lt_of_le small (Nat.pow_le_pow_right (by decide) beyond)

/-- The sets that can be made: the empty one, the usable bits of any word, the set of one event, a
set with one more event, and the union of two sets. -/
inductive Made : EventSet → Prop
  | empty : Made ∅
  | ofWord (word : UInt32) : Made (ofWord word)
  | singleton (event : Event) : Made (singleton event)
  | insert {set : EventSet} (made : Made set) (event : Event) : Made (set.insert event)
  | union {left right : EventSet} (first : Made left) (second : Made right) : Made (left ∪ right)

/-- An event's bit is a usable one. -/
theorem has_singleton_eq_false (event : Event) {position : Nat} (beyond : 24 ≤ position) :
    (singleton event).has position = false := by
  apply has_eq_false_of_lt _ beyond
  cases event <;> decide

/-- No set that can be made has a bit beyond the usable ones. -/
theorem Made.has_eq_false {set : EventSet} (made : set.Made) {position : Nat}
    (beyond : 24 ≤ position) : set.has position = false := by
  induction made with
  | empty => exact has_empty position
  | ofWord word =>
    apply has_eq_false_of_lt _ beyond
    change (word &&& usable).toNat < 2 ^ 24
    rw [UInt32.toNat_and]
    exact Nat.lt_of_le_of_lt Nat.and_le_right (by decide)
  | singleton event => exact has_singleton_eq_false event beyond
  | insert _ event ih => rw [insert_eq_union, has_union, ih, has_singleton_eq_false event beyond,
      Bool.or_self]
  | union _ _ first second => rw [has_union, first, second, Bool.or_self]

/-- An event is in a set exactly if the bit in its position is set. -/
theorem contains_eq_has (set : EventSet) (event : Event) :
    set.contains event = set.has event.position.toNat := by
  have bit : event.bit.toNat = 2 ^ event.position.toNat := by cases event <;> decide
  have word : (set.word &&& event.bit).toNat =
      (set.word.toNat.testBit event.position.toNat).toNat * 2 ^ event.position.toNat := by
    rw [UInt32.toNat_and, bit, Nat.and_two_pow]
  unfold contains has
  cases found : set.word.toNat.testBit event.position.toNat with
  | false =>
    rw [found, Bool.toNat_false, Nat.zero_mul] at word
    have zero : set.word &&& event.bit = 0 := UInt32.toNat_inj.mp word
    rw [zero]
    rfl
  | true =>
    rw [found, Bool.toNat_true, Nat.one_mul] at word
    apply bne_iff_ne.mpr
    intro zero
    rw [zero, UInt32.toNat_zero] at word
    exact absurd word.symm (Nat.two_pow_pos _).ne'

end EventSet

/-! ### What the trace says of events -/

/-- The word that an entry is a taking of. -/
def Entry.taken? : Entry → Option EventSet
  | .taken events => some events
  | _ => none

/-- The words that were taken, in order. -/
def takings (trace : List Entry) : List EventSet := trace.filterMap Entry.taken?

@[simp] theorem takings_append (earlier later : List Entry) :
    takings (earlier ++ later) = takings earlier ++ takings later := List.filterMap_append

/-- Every event that was taken in a trace. -/
def delivered (trace : List Entry) : EventSet := (takings trace).foldl (· ∪ ·) ∅

/-- The entries since the last taking. -/
def sinceTaken (trace : List Entry) : List Entry := trace.rtakeWhile fun entry => !entry.isTaking

/-- Entries without a taking. -/
def Untaken (entries : List Entry) : Prop := ∀ entry ∈ entries, entry.isTaking = false

/-- Entries without a taking have no words. -/
theorem Untaken.takings {entries : List Entry} (untaken : Untaken entries) :
    Overseer.takings entries = [] := by
  apply List.filterMap_eq_nil_iff.mpr
  intro entry member
  have other := untaken entry member
  cases entry <;> first | rfl | contradiction

/-- Entries none of whose landmarks is a taking. -/
theorem untaken_of_landmarks {entries : List Entry}
    (calls : ∀ mark ∈ landmarks entries, mark.isTaking = false) : Untaken entries := by
  intro entry member
  cases taking : entry.isTaking with
  | false => rfl
  | true =>
    have marked : entry.isLandmark = true := by rw [Entry.isLandmark, taking, Bool.or_true]
    rw [← taking]
    exact calls entry (List.mem_filter.mpr ⟨member, marked⟩)

/-- What is added without a taking was added since the last one. -/
theorem sinceTaken_append (trace : List Entry) {entries : List Entry}
    (untaken : Untaken entries) : sinceTaken (trace ++ entries) = sinceTaken trace ++ entries := by
  have all : ∀ entry ∈ entries.reverse, (!entry.isTaking) = true := by
    intro entry member
    rw [untaken entry (List.mem_reverse.mp member)]
    rfl
  unfold sinceTaken List.rtakeWhile
  rw [List.reverse_append, List.takeWhile_append_of_pos all, List.reverse_append,
    List.reverse_reverse]

/-- Right after a taking nothing was added since. -/
@[simp] theorem sinceTaken_taken (trace : List Entry) (word : EventSet) :
    sinceTaken (trace ++ [.taken word]) = [] :=
  List.rtakeWhile_concat_neg _ _ _ Bool.false_ne_true

/-- What was raised in a trace is what its entries raised. -/
theorem has_raised_iff (trace : List Entry) (position : Nat) :
    (raised trace).has position = true ↔
      ∃ actor events, .raised actor events ∈ trace ∧ events.has position = true := by
  induction trace with
  | nil => simp [raised]
  | cons entry rest ih =>
    cases entry with
    | raised actor events =>
      rw [raised, EventSet.has_union, Bool.or_eq_true, ih]
      constructor
      · rintro (now | ⟨other, later, member, found⟩)
        · exact ⟨actor, events, List.mem_cons_self, now⟩
        · exact ⟨other, later, List.mem_cons_of_mem _ member, found⟩
      · rintro ⟨other, later, member, found⟩
        rcases List.mem_cons.mp member with same | further
        · obtain ⟨_, rfl⟩ := Entry.raised.inj same
          exact .inl found
        · exact .inr ⟨other, later, further, found⟩
    | _ => simpa [raised] using ih

/-- A set that was raised is contained in what was raised. -/
theorem contains_raised {trace : List Entry} {actor : Actor} {event : Event}
    (member : .raised actor (.singleton event) ∈ trace) :
    (raised trace).contains event = true := by
  rw [EventSet.contains_eq_has, has_raised_iff]
  refine ⟨actor, _, member, ?_⟩
  rw [← EventSet.contains_eq_has]
  cases event <;> decide

/-- Where only sets were raised that can be made, so can what was raised. -/
theorem made_raised {trace : List Entry}
    (made : ∀ actor events, .raised actor events ∈ trace → events.Made) : (raised trace).Made := by
  induction trace with
  | nil => exact .empty
  | cons entry rest ih =>
    have others := ih fun actor events member => made actor events (List.mem_cons_of_mem _ member)
    cases entry with
    | raised actor events => exact .union (made actor events List.mem_cons_self) others
    | _ => exact others

/-! ### The tally -/

/-- The words that were taken and the one that is pending, by what was raised. -/
structure Tally (environment : Environment) : Prop where
  /-- A word that was taken is what was raised since the taking before. -/
  exact : ∀ earlier word later, environment.trace = earlier ++ .taken word :: later →
    word = raised (sinceTaken earlier)
  /-- The pending word is what was raised since the last taking. -/
  pending : environment.hub.events.pending = raised (sinceTaken environment.trace)
  /-- Together they are all that was raised. -/
  balance : delivered environment.trace ∪ environment.hub.events.pending =
    raised environment.trace

/-- A step that takes nothing, and leaves pending what it raises. -/
def Raises (before after : Environment) : Prop :=
  ∃ entries, after.trace = before.trace ++ entries ∧ Untaken entries ∧
    after.hub.events.pending = before.hub.events.pending ∪ raised entries

/-- A taking in a longer trace was in the shorter one, if there is none in the rest. -/
theorem taken_before {trace entries earlier later : List Entry} {word : EventSet}
    (untaken : Untaken entries) (split : trace ++ entries = earlier ++ .taken word :: later) :
    ∃ middle, trace = earlier ++ .taken word :: middle := by
  rcases List.append_eq_append_iff.mp split with ⟨between, _, rest⟩ | ⟨between, front, rest⟩
  · have taking := untaken (.taken word) (by rw [rest]; simp)
    contradiction
  · cases between with
    | nil =>
      have taking := untaken (.taken word) (by rw [List.nil_append] at rest; rw [← rest]; simp)
      contradiction
    | cons first middle =>
      rw [List.cons_append, List.cons.injEq] at rest
      rw [← rest.1] at front
      exact ⟨middle, front⟩

/-- A step that takes nothing keeps the tally. -/
theorem Tally.raises {before after : Environment} (tally : Tally before)
    (step : Raises before after) : Tally after := by
  obtain ⟨entries, trace, untaken, pending⟩ := step
  constructor
  · intro earlier word later split
    rw [trace] at split
    obtain ⟨middle, front⟩ := taken_before untaken split
    exact tally.exact earlier word middle front
  · rw [pending, trace, sinceTaken_append _ untaken, raised_append, tally.pending]
  · have words : delivered after.trace = delivered before.trace := by
      unfold delivered
      rw [trace, takings_append, untaken.takings, List.append_nil]
    rw [words, pending, ← EventSet.union_assoc, tally.balance, trace, raised_append]

/-- Taking the events keeps the tally: the pending word becomes the last that was taken. -/
theorem Tally.takeEvents {environment : Environment} (tally : Tally environment) :
    Tally environment.takeEvents.2 := by
  have none : environment.takeEvents.2.hub.events.pending = ∅ := rfl
  constructor
  · intro earlier word later split
    rw [Environment.trace_takeEvents] at split
    rcases List.eq_nil_or_concat later with rfl | ⟨middle, last, rfl⟩
    · obtain ⟨front, same⟩ := List.append_inj' split rfl
      rw [← front, ← tally.pending]
      exact (Entry.taken.inj (List.cons.inj same).1).symm
    · rw [List.concat_eq_append, ← List.cons_append, ← List.append_assoc] at split
      obtain ⟨front, _⟩ := List.append_inj' split rfl
      exact tally.exact earlier word middle front
  · rw [none, Environment.trace_takeEvents, sinceTaken_taken]
    rfl
  · have words : delivered environment.takeEvents.2.trace =
        delivered environment.trace ∪ environment.hub.events.pending := by
      unfold delivered
      rw [Environment.trace_takeEvents, takings_append, List.foldl_append]
      rfl
    rw [none, words, EventSet.union_empty, tally.balance, Environment.trace_takeEvents,
      raised_append]
    exact (EventSet.union_empty _).symm

/-! ### Every step keeps the tally -/

/-- Whether an entry neither raises events nor takes them. -/
def Entry.IsEventless : Entry → Prop
  | .raised .. | .taken _ => False
  | _ => True

/-- What the detector notes is about no events. -/
theorem Entry.IsDetection.isEventless {entry : Entry} (detection : entry.IsDetection) :
    entry.IsEventless := by
  cases entry <;> trivial

/-- Deeds of a program are no takings. -/
theorem Entry.IsDeedOf.untaken {actor : Actor} {entry : Entry} (deed : entry.IsDeedOf actor) :
    entry.isTaking = false := by
  cases entry <;> first | rfl | exact deed.elim

namespace Raises

variable {before after : Environment}

/-- A step that leaves the pending word alone and notes nothing about events. -/
theorem of_eventless (events : after.hub.events = before.hub.events) {entries : List Entry}
    (trace : after.trace = before.trace ++ entries)
    (eventless : ∀ entry ∈ entries, entry.IsEventless) : Raises before after := by
  have none : raised entries = ∅ := by
    clear trace
    induction entries with
    | nil => rfl
    | cons entry rest ih =>
      have first := eventless entry List.mem_cons_self
      have others := ih fun other member => eventless other (List.mem_cons_of_mem _ member)
      cases entry <;> first | exact first.elim | exact others
  refine ⟨entries, trace, ?_, ?_⟩
  · intro entry member
    have kind := eventless entry member
    cases entry <;> first | rfl | exact kind.elim
  · rw [none, events, EventSet.union_empty]

/-- A step that leaves the pending word alone and notes one entry that is about no events. -/
theorem of_note (events : after.hub.events = before.hub.events) {entry : Entry}
    (trace : after.trace = before.trace ++ [entry]) (eventless : entry.IsEventless) :
    Raises before after := by
  refine of_eventless events trace fun other member => ?_
  rw [List.mem_singleton.mp member]
  exact eventless

/-- A step that leaves the pending word alone and notes nothing. -/
theorem of_silence (events : after.hub.events = before.hub.events)
    (trace : after.trace = before.trace) : Raises before after := by
  have unchanged : after.trace = before.trace ++ [] := by rw [trace, List.append_nil]
  exact of_eventless events unchanged (by simp)

/-- Raising events. -/
theorem notify (environment : Environment) (actor : Actor) (events : EventSet) :
    Raises environment (environment.notify actor events) := by
  refine ⟨[.raised actor events], environment.trace_notify actor events, ?_, ?_⟩
  · intro entry member
    rw [List.mem_singleton.mp member]
    rfl
  · have one : raised [.raised actor events] = events := EventSet.union_empty events
    rw [one]
    rfl

/-- Every operation of a program. -/
theorem operation {actor : Actor} {verb : Verb} (operation : Operation actor verb before after) :
    Raises before after := by
  obtain ⟨deeds, acts⟩ := Acts.of_operation operation
  exact ⟨deeds, acts.trace, fun entry member => (acts.owned entry member).untaken, acts.pending⟩

/-- Every occurrence beside the loop. -/
theorem undergo (environment : Environment) (occurrence : Occurrence) :
    Raises environment (environment.undergo occurrence) := by
  cases occurrence with
  | log line => exact of_silence rfl rfl
  | clock now => exact of_silence rfl rfl
  | faults faults => exact of_silence rfl rfl
  | submit actor id args => exact operation (.submit environment id args)
  | notify actor events => exact notify environment actor events

/-- Taking a job. -/
theorem takeJob (environment : Environment) : Raises environment environment.takeJob.2 := by
  cases waiting : environment.hub.queue with
  | nil =>
    rw [Environment.takeJob_of_nil waiting]
    exact of_silence rfl rfl
  | cons job rest =>
    have taken := Environment.takeJob_taken waiting
    exact of_note taken.events taken.trace trivial

end Raises

/-- A step that keeps the tally. -/
def Tallies (before after : Environment) : Prop := Tally before → Tally after

/-- Every step there is keeps the tally. -/
theorem Tallies.pervades : Pervades Tallies where
  say _ _ tally := tally.raises (.of_silence rfl rfl)
  call environment _ _ tally := tally.raises (.of_note rfl (environment.trace_note _) trivial)
  operation _ _ _ _ _ operation tally := tally.raises (.operation operation)
  refl _ tally := tally
  notify environment events tally := tally.raises (.notify environment .core events)
  takeEvents _ tally := tally.takeEvents
  withdraw _ tally := tally.raises (.of_silence rfl rfl)
  restart environment tally := by
    have trace : ({ environment with board := environment.board.restart } : Environment).trace =
        environment.trace ++ [.restart] := rfl
    exact tally.raises (.of_note rfl trace trivial)
  boot loop environment tally := by
    have booted := (loop.supervisor environment).evaluateBoot_booted
    obtain ⟨entries, trace, detections⟩ := loop.notes_boot environment
    have events := congrArg Hub.events booted.hub
    exact tally.raises (.of_eventless events trace fun entry member =>
      (detections entry member).isEventless)
  hook environment detector stage uptime tally := by
    obtain ⟨entries, trace, detections⟩ := environment.trace_hooked detector stage uptime
    refine tally.raises (.of_eventless rfl trace fun entry member => ?_)
    rcases List.mem_cons.mp member with rfl | later
    · trivial
    · exact (detections entry later).isEventless
  trans _ _ _ earlier later tally := later (earlier tally)
  takeJob environment tally := tally.raises (.takeJob environment)
  program _ _ _ _ operation tally := tally.raises (.operation operation)
  outside before after outside tally := by
    obtain ⟨occurrence, rfl⟩ := outside
    exact tally.raises (.undergo before occurrence)

/-- Before a builder is built the tally is kept: nothing was taken yet. -/
theorem Builder.Reached.tally {builder : Builder σ} (reached : builder.Reached) :
    Tally builder.environment := by
  induction reached with
  | new config board blank =>
    have trace : (onBoard config board : Builder σ).environment.trace = [] := blank
    constructor
    · intro earlier word later split
      rw [trace] at split
      exact absurd split.symm (by simp)
    · rw [trace]
      rfl
    · rw [trace]
      exact EventSet.union_empty _
  | register _ adapter ih =>
    obtain ⟨lines, said⟩ := environment_register _ adapter
    rw [said]
    exact ih.raises (.of_silence rfl rfl)
  | outside _ occurrence ih => exact ih.raises (.undergo _ occurrence)

/-- At every moment of every run the tally is kept. -/
theorem Builder.Reached.tally_perform {builder : Builder σ} (reached : builder.Reached)
    {calls : List (Call σ)} {left : Thread Environment (Loop σ)} {moment : Environment}
    (reaches : Thread.Reaches Environment.Outside (builder.build.loop.perform calls)
      builder.build.environment left moment) : Tally moment := by
  have built : Tally builder.build.environment := reached.tally.raises (.of_silence rfl rfl)
  exact Tallies.pervades.across (Tallies.pervades.each_perform _ calls) reaches built

/-! ### What the adapters are told -/

/-- The word that an entry delivers to the adapter in a place. -/
def Entry.heard? (slot : Nat) : Entry → Option EventSet
  | .adapter other (.event events) => if other = slot then some events else none
  | _ => none

/-- The words that were delivered to the adapter in a place, in order. -/
def heard (slot : Nat) (trace : List Entry) : List EventSet := trace.filterMap (Entry.heard? slot)

@[simp] theorem heard_append (slot : Nat) (earlier later : List Entry) :
    heard slot (earlier ++ later) = heard slot earlier ++ heard slot later :=
  List.filterMap_append

/-- The word of a taking, as it is delivered: not at all if it is empty. -/
def delivery (word : EventSet) : List EventSet := if word.isEmpty then [] else [word]

/-- No word is read from an entry that is no landmark. -/
theorem Entry.IsUnmarked.heard? {entry : Entry} (unmarked : entry.IsUnmarked) (slot : Nat) :
    entry.heard? slot = none := by
  cases entry <;> first | rfl | contradiction

/-- What is delivered to an adapter is read from the landmarks. -/
theorem heard_landmarks (slot : Nat) (trace : List Entry) :
    (landmarks trace).filterMap (Entry.heard? slot) = heard slot trace :=
  filterMap_landmarks (fun _ unmarked => unmarked.heard? slot) trace

/-- A round delivers a word once to each of its adapters. -/
theorem filterMap_round (events : EventSet) (slot first count : Nat) :
    (Roster.round (.event events) first count).filterMap (Entry.heard? slot) =
      if first ≤ slot ∧ slot < first + count then [events] else [] := by
  induction count generalizing first with
  | zero => rw [if_neg (by omega)]; rfl
  | succ count ih =>
    have step : Roster.round (.event events) first (count + 1) =
        .adapter first (.event events) :: Roster.round (.event events) (first + 1) count := rfl
    rw [step, List.filterMap_cons]
    by_cases here : first = slot
    · have none : ¬(first + 1 ≤ slot ∧ slot < first + 1 + count) := by omega
      have found : first ≤ slot ∧ slot < first + (count + 1) := by omega
      simp only [Entry.heard?, if_pos here, ih, if_neg none, if_pos found]
    · have same : (first + 1 ≤ slot ∧ slot < first + 1 + count) ↔
          (first ≤ slot ∧ slot < first + (count + 1)) := by omega
      simp only [Entry.heard?, if_neg here, ih, same]

namespace Loop

open Supervisor (eventCalls stageCalls)

/-- A pass delivers the word that it takes to every adapter, once, unless it is empty. -/
theorem PassAdds.heard {loop : Loop σ} {result : PassReport × Loop σ} {entries : List Entry}
    (passed : loop.PassAdds result entries) {slot : Nat} (present : slot < loop.roster.size) :
    Overseer.heard slot entries = delivery result.1.events := by
  have stages : (result.1.stages.flatMap
      (stageCalls loop.detector.active loop.roster.size)).filterMap (Entry.heard? slot) = [] := by
    apply List.filterMap_eq_nil_iff.mpr
    intro entry member
    obtain ⟨stage, rfl | ⟨_, place, rfl⟩⟩ := mem_stageCalls member
    · rfl
    · rfl
  have events : (eventCalls result.1.events loop.roster.size).filterMap (Entry.heard? slot) =
      delivery result.1.events := by
    unfold eventCalls delivery
    split
    · rfl
    · rw [filterMap_round, if_pos (by omega)]
  have read := passed.filterMap (fun _ unmarked => unmarked.heard? slot) (fun _ _ _ => rfl)
    (fun _ => rfl) (fun _ => rfl) rfl
  rw [events, stages, List.append_nil] at read
  exact read

/-- A pass takes the events once. -/
theorem PassAdds.untaken {loop : Loop σ} {result : PassReport × Loop σ} {entries : List Entry}
    (passed : loop.PassAdds result entries) : ∃ waited later,
      entries = waited ++ .taken result.1.events :: later ∧ Untaken waited ∧ Untaken later ∧
      (result.1.command.isSome = true →
        .raised .core (.singleton .commandCompleted) ∈ waited) := by
  obtain ⟨taken, waited, later, command, split, first, completion, rest⟩ := passed.added
  refine ⟨waited, later, split, ?_, ?_, ?_⟩
  · apply untaken_of_landmarks
    intro mark member
    rw [first] at member
    obtain ⟨_, _, _, rfl⟩ := mem_handlerCalls member
    rfl
  · apply untaken_of_landmarks
    intro mark member
    rw [rest, List.append_assoc] at member
    rcases List.mem_append.mp member with delivery | others
    · obtain ⟨_, rfl⟩ := mem_eventCalls delivery
      rfl
    · rcases List.mem_append.mp others with stages | restart
      · obtain ⟨_, rfl | ⟨_, _, rfl⟩⟩ := mem_stageCalls stages
        · rfl
        · rfl
      · rcases mem_restartCalls restart with rfl | ⟨_, rfl⟩
        · rfl
        · rfl
  · intro ran
    rw [command, Option.isSome_map] at ran
    exact completion ran

end Loop

/-! ### No event is lost, delivered twice or invented -/

/-- What holds of the events at a moment. -/
structure Conserves (environment : Environment) : Prop extends Tally environment where
  /-- An event that was raised is in the first word taken after it. -/
  prompt : ∀ earlier actor events between word later,
    environment.trace = earlier ++ .raised actor events :: (between ++ .taken word :: later) →
      Untaken between → ∀ position, events.has position = true → word.has position = true
  /-- An event in a word was raised since the taking before: once delivered, it is delivered again
  only if it is raised again. -/
  fresh : ∀ earlier first between word later,
    environment.trace = earlier ++ .taken first :: (between ++ .taken word :: later) →
      Untaken between → ∀ position, word.has position = true →
        ∃ actor events, .raised actor events ∈ between ∧ events.has position = true
  /-- Where only sets were raised that can be made, no other word was taken or is pending. -/
  made : (∀ actor events, .raised actor events ∈ environment.trace → events.Made) →
    environment.hub.events.pending.Made ∧ ∀ word, .taken word ∈ environment.trace → word.Made

/-- What is in a part of the trace is raised there. -/
theorem sinceTaken_subset (trace : List Entry) : ∀ entry ∈ sinceTaken trace, entry ∈ trace :=
  fun _ member => (List.rtakeWhile_suffix _ _).subset member

/-- The tally conserves events. -/
theorem Tally.conserves {environment : Environment} (tally : Tally environment) :
    Conserves environment where
  toTally := tally
  prompt earlier actor events between word later split untaken position found := by
    have front : Untaken (.raised actor events :: between) := by
      intro entry member
      rcases List.mem_cons.mp member with rfl | further
      · rfl
      · exact untaken entry further
    have word_eq : word = raised (sinceTaken (earlier ++ .raised actor events :: between)) := by
      apply tally.exact _ word later
      rw [split, List.append_assoc, List.cons_append]
    rw [word_eq, sinceTaken_append _ front, has_raised_iff]
    exact ⟨actor, events, List.mem_append_right _ List.mem_cons_self, found⟩
  fresh earlier first between word later split untaken position found := by
    have word_eq : word = raised (sinceTaken (earlier ++ [.taken first] ++ between)) := by
      apply tally.exact _ word later
      rw [split, List.append_assoc, List.append_assoc, List.singleton_append]
    rw [word_eq, sinceTaken_append _ untaken, sinceTaken_taken, List.nil_append,
      has_raised_iff] at found
    exact found
  made all := by
    constructor
    · rw [tally.pending]
      exact made_raised fun actor events member =>
        all actor events (sinceTaken_subset _ _ member)
    · intro word member
      obtain ⟨earlier, later, split⟩ := List.append_of_mem member
      rw [tally.exact earlier word later split]
      refine made_raised fun actor events raised => all actor events ?_
      rw [split]
      exact List.mem_append_left _ (sinceTaken_subset _ _ raised)

/-- What a pass does about events. -/
structure Hears (count : Nat) (before after : Environment) (report : PassReport) : Prop where
  /-- It takes the events once: what was pending, and what was raised until then. -/
  taken : ∃ waited later,
    after.trace = before.trace ++ (waited ++ .taken report.events :: later) ∧
      Untaken waited ∧ Untaken later ∧
      report.events = before.hub.events.pending ∪ raised waited
  /-- It delivers them to every adapter, once, unless there are none. -/
  heard : ∀ slot, slot < count →
    heard slot after.trace = heard slot before.trace ++ delivery report.events
  /-- The completion of a job that it ran is among them. -/
  completed : report.command.isSome = true → report.events.contains .commandCompleted = true

/-- An event of either set is in the union. -/
theorem EventSet.contains_union (left right : EventSet) (event : Event) :
    (left ∪ right).contains event = (left.contains event || right.contains event) := by
  rw [contains_eq_has, contains_eq_has, contains_eq_has, has_union]

/-- A pass from where the tally is kept does that. -/
theorem Tally.hears {before after : Environment} (tally : Tally before) {loop last : Loop σ}
    {report : PassReport}
    (passing : Thread.Reaches Environment.Outside loop.pass before (.done (report, last)) after) :
    Hears loop.roster.size before after report := by
  obtain ⟨entries, trace, passed⟩ := loop.pass_writes.ends passing
  obtain ⟨waited, later, split, first, rest, completion⟩ := passed.untaken
  have kept : Tally after := Tallies.pervades.across (Tallies.pervades.each_pass loop) passing tally
  have word : report.events = before.hub.events.pending ∪ raised waited := by
    have exact := kept.exact (before.trace ++ waited) report.events later (by
      rw [trace, split, List.append_assoc])
    rw [sinceTaken_append _ first, raised_append, ← tally.pending] at exact
    exact exact
  refine ⟨⟨waited, later, ?_, first, rest, word⟩, ?_, ?_⟩
  · rw [trace, split]
  · intro slot present
    rw [trace, heard_append, passed.heard present]
  · intro ran
    rw [word, EventSet.contains_union, contains_raised (completion ran), Bool.or_true]

/-- A start from where the tally is kept leaves the event of it pending. -/
theorem Tally.initialised {before after : Environment} (tally : Tally before)
    {loop started : Loop σ}
    (starting : Thread.Reaches Environment.Outside loop.start before (.done started) after) :
    after.hub.events.pending.contains .platformInitialized = true := by
  obtain ⟨entries, trace, _, marks, member⟩ := loop.start_writes.ends starting
  have untaken : Untaken entries := by
    apply untaken_of_landmarks
    intro mark among
    rw [marks] at among
    obtain ⟨_, _, rfl⟩ := List.mem_map.mp among
    rfl
  have kept : Tally after :=
    Tallies.pervades.across (Tallies.pervades.each_start loop) starting tally
  rw [kept.pending, trace, sinceTaken_append _ untaken, raised_append, EventSet.contains_union,
    contains_raised member, Bool.or_true]

namespace Builder

/-- No event is lost, delivered twice or invented. No set that can be made has a bit beyond the
usable ones. At every moment of every run, whoever raises events beside it, a word that was taken is
the union of what was raised since the taking before, the pending word is the union of what was
raised since the last one, and together they are all that was raised. The start leaves its own event
pending, and every pass takes the pending word once and delivers it to every adapter. -/
theorem Reached.conserves_events {builder : Builder σ} (reached : builder.Reached) :
    (∀ set : EventSet, set.Made → ∀ position, 24 ≤ position → set.has position = false) ∧
      Conserves builder.environment ∧ ∀ calls : List (Call σ),
        (∀ left moment, Thread.Reaches Environment.Outside (builder.build.loop.perform calls)
          builder.build.environment left moment → Conserves moment) ∧
        ∀ loop before, Thread.Reaches Environment.Outside (builder.build.loop.perform calls)
          builder.build.environment (.done loop) before →
          (∀ started after,
            Thread.Reaches Environment.Outside loop.start before (.done started) after →
              after.hub.events.pending.contains .platformInitialized = true) ∧
          ∀ report last after,
            Thread.Reaches Environment.Outside loop.pass before (.done (report, last)) after →
              Hears loop.roster.size before after report := by
  refine ⟨fun set made position beyond => made.has_eq_false beyond, reached.tally.conserves,
    fun calls => ⟨?_, ?_⟩⟩
  · intro left moment reaches
    exact (reached.tally_perform reaches).conserves
  · intro loop before reaches
    have tally := reached.tally_perform reaches
    constructor
    · intro started after starting
      exact tally.initialised starting
    · intro report last after passing
      exact tally.hears passing

/-- The probe after its start. -/
def probeStarted : Loop Unit × Environment :=
  (Supervisor.probeBuilder.build.loop.perform [.start]).run
    Supervisor.probeBuilder.build.environment

/-- The same, when a task raised one event twice. -/
def probeRaised : Environment :=
  (probeStarted.2.undergo (.notify .producer (.singleton .timeSynced))).undergo
    (.notify .producer (.singleton .timeSynced))

/-- The next pass delivers that event once, with the event of the start. -/
theorem conserves_events_twice :
    let done := probeStarted.1.pass.run probeRaised
    done.1.1.events = .ofWord 18 ∧ heard 0 done.2.trace = [.ofWord 18] ∧
      (EventSet.ofWord 18).has 24 = false ∧ Conserves probeRaised ∧
      Hears probeStarted.1.roster.size probeRaised done.2 done.1.1 := by
  have reached : Supervisor.probeBuilder.Reached := .register (.new {} {} rfl) _
  obtain ⟨bounded, _, runs⟩ := reached.conserves_events
  have starting : Thread.Reaches Environment.Outside
      (Supervisor.probeBuilder.build.loop.perform [.start])
      Supervisor.probeBuilder.build.environment (.done probeStarted.1) probeStarted.2 :=
    Thread.reaches_run _ _
  have raising : Thread.Reaches Environment.Outside
      (Supervisor.probeBuilder.build.loop.perform [.start])
      Supervisor.probeBuilder.build.environment (.done probeStarted.1) probeRaised :=
    starting.trans (.other ⟨.notify .producer (.singleton .timeSynced), rfl⟩
      (.other ⟨.notify .producer (.singleton .timeSynced), rfl⟩ (.here _ _)))
  have passing : Thread.Reaches Environment.Outside probeStarted.1.pass probeRaised
      (.done (probeStarted.1.pass.run probeRaised).1) (probeStarted.1.pass.run probeRaised).2 :=
    Thread.reaches_run _ _
  refine ⟨by rfl, by rfl, bounded _ (.ofWord 18) 24 (Nat.le_refl 24), ?_, ?_⟩
  · exact (runs [.start]).1 _ _ raising
  · exact ((runs [.start]).2 _ _ raising).2 _ _ _ passing

end Builder

end Overseer
