import Overseer.Text.Hexadecimal

/-!
# Events

Adapters learn of happenings through single bits of a shared word: raising a bit twice before it is
delivered is observed once, and neither counts nor order are kept. A group word has twenty-four
usable bits; six of them have agreed meanings, the others are free for adapters. `EventGroup` is
the word that producers raise bits in and the supervisor drains once a pass.
-/
namespace Overseer

/-- The happenings with an agreed bit. -/
inductive Event where
  /-- A command handler has returned. -/
  | commandCompleted
  /-- Every eligible adapter has been initialised. -/
  | platformInitialized
  /-- The wall clock has been synchronised. -/
  | timeSynced
  /-- The station interface has an address. -/
  | stationReady
  /-- The access point is up. -/
  | accessPointReady
  /-- The peer-to-peer radio network is up. -/
  | peerNetworkReady
deriving DecidableEq, Repr

namespace Event

/-- All agreed events, in ascending bit order. -/
def all : List Event :=
  [.commandCompleted, .platformInitialized, .timeSynced, .stationReady, .accessPointReady,
    .peerNetworkReady]

/-- The position of the event's bit. -/
def position : Event → UInt32
  | .commandCompleted => 0
  | .platformInitialized => 1
  | .timeSynced => 4
  | .stationReady => 5
  | .accessPointReady => 6
  | .peerNetworkReady => 8

/-- The word with only this event's bit. -/
def bit (event : Event) : UInt32 := 1 <<< event.position

/-- The name shown in logs. -/
def name : Event → String
  | .commandCompleted => "CMND_COMPLETED"
  | .platformInitialized => "PLATFORM_INITIALIZED"
  | .timeSynced => "TIME_SYNCED"
  | .stationReady => "STA_READY"
  | .accessPointReady => "AP_READY"
  | .peerNetworkReady => "ESPNOW_NETWORK_READY"

/-- Every event is listed. -/
theorem mem_all (event : Event) : event ∈ all := by cases event <;> decide

end Event

/-- A snapshot of event bits. -/
structure EventSet where
  /-- The bits. -/
  word : UInt32
deriving DecidableEq, Repr

namespace EventSet

/-- The usable bits of a group word. -/
def usable : UInt32 := 0x00ffffff

/-- No bit. -/
def empty : EventSet := ⟨0⟩

instance : EmptyCollection EventSet := ⟨empty⟩
instance : Inhabited EventSet := ⟨empty⟩

/-- The usable bits of any word; the others are dropped. -/
def ofWord (word : UInt32) : EventSet := ⟨word &&& usable⟩

/-- The set of one event. -/
def singleton (event : Event) : EventSet := ⟨event.bit⟩

/-- The bits of either set. -/
def union (left right : EventSet) : EventSet := ⟨left.word ||| right.word⟩

instance : Union EventSet := ⟨union⟩

/-- The set with one more event. -/
def insert (set : EventSet) (event : Event) : EventSet := ⟨set.word ||| event.bit⟩

/-- Whether no bit is set. -/
def isEmpty (set : EventSet) : Bool := set.word == 0

/-- Whether the event's bit is set. -/
def contains (set : EventSet) (event : Event) : Bool := set.word &&& event.bit != 0

/-- Whether the two sets share a bit. -/
def intersects (left right : EventSet) : Bool := left.word &&& right.word != 0

/-- The agreed events of the set, in ascending bit order. -/
def events (set : EventSet) : List Event := Event.all.filter set.contains

/-- The set as it is shown: eight hexadecimal digits after `0x`. -/
def render (set : EventSet) : String :=
  "0x" ++ String.ofList (Hexadecimal.padded 8 set.word.toNat)

@[simp] theorem word_union (left right : EventSet) :
    (left ∪ right).word = left.word ||| right.word := rfl

/-- Adding an event is joining with its own set. -/
theorem insert_eq_union (set : EventSet) (event : Event) :
    set.insert event = set ∪ singleton event := rfl

/-- A set is empty exactly when it is the empty set. -/
theorem isEmpty_iff (set : EventSet) : set.isEmpty = true ↔ set = empty := by
  cases set
  simp [isEmpty, empty]

end EventSet

/-- The word in which producers raise bits until they are taken. -/
structure EventGroup where
  /-- The bits raised since the last take. -/
  pending : EventSet := ∅
deriving DecidableEq, Repr

namespace EventGroup

/-- Raise every bit of a set. -/
def notify (group : EventGroup) (events : EventSet) : EventGroup := ⟨group.pending ∪ events⟩

/-- Read and clear every raised bit. -/
def take (group : EventGroup) : EventSet × EventGroup := (group.pending, {})

/-- What is pending after a notification is what was pending and what was raised. -/
@[simp] theorem pending_notify (group : EventGroup) (events : EventSet) :
    (group.notify events).pending = group.pending ∪ events := rfl

/-- Nothing stays pending after a take. -/
@[simp] theorem pending_take (group : EventGroup) : group.take.2.pending = ∅ := rfl

end EventGroup

end Overseer
