import Overseer.Button

/-!
# Buttons wired the other way round

A button pulls its pin either low or high, and the counter may stand anywhere when it is pressed.
Neither shows in what is reported. A phase holds readings of the counter, but only their distance
from the current reading is looked at, so it may be shifted along with the counter
(`Gesture.Phase.sample_shift`). The levels of a pin that is wired the other way round mean the same
once they are exchanged, and a read that fails means the released button either way.
`Button.events_rewired` says what comes of both for polls in turn.
-/
namespace Overseer

namespace Gesture.Phase

/-- A phase with the readings that it holds moved by an offset. -/
def shift (offset : UInt32) : Phase → Phase
  | .idle => .idle
  | .settling since => .settling (since + offset)
  | .held since => .held (since + offset)
  | .released since => .released (since + offset)
  | .reported => .reported

/-- The distance of two readings does not depend on where the counter stands, even if it wraps
around between them. -/
theorem sub_shift (offset since now : UInt32) :
    now + offset - (since + offset) = now - since := by
  calc
    now + offset - (since + offset) = now - since + since + offset - (since + offset) := by
      rw [UInt32.sub_add_cancel]
    _ = now - since := by rw [UInt32.add_assoc, UInt32.add_sub_cancel]

/-- A sample at a moved reading completes the same gesture, and leaves the moved phase. -/
theorem sample_shift (phase : Phase) (offset now : UInt32) (pressed : Bool) :
    (phase.shift offset).sample (now + offset) pressed =
      ((phase.sample now pressed).1.shift offset, (phase.sample now pressed).2) := by
  cases phase with
  | idle => cases pressed <;> rfl
  | reported => cases pressed <;> rfl
  | settling since =>
    simp only [shift, sample, sub_shift]
    split
    · rfl
    · split <;> rfl
  | held since =>
    simp only [shift, sample, sub_shift]
    split
    · rfl
    · split <;> rfl
  | released since =>
    simp only [shift, sample, sub_shift]
    split
    · cases pressed <;> rfl
    · split <;> rfl

end Gesture.Phase

/-- The other level; a read that fails fails all the same. -/
def PinReading.exchanged : PinReading → PinReading
  | .high => .low
  | .low => .high
  | .failed => .failed

/-- Exchanging the levels twice changes nothing. -/
@[simp] theorem PinReading.exchanged_exchanged (reading : PinReading) :
    reading.exchanged.exchanged = reading := by cases reading <;> rfl

/-- Only a read that fails is one that fails with the levels exchanged. -/
theorem PinReading.exchanged_eq_failed_iff (reading : PinReading) :
    reading.exchanged = .failed ↔ reading = .failed := by cases reading <;> decide

namespace Button

/-- Take samples of the pin in turn, each at a reading of the counter: the gesture that each of them
completes, if it does, and the button after them. -/
def polls (button : Button) :
    List (UInt32 × PinReading) → Logged (List (Option Gesture) × Button)
  | [] => return ([], button)
  | (now, reading) :: rest => do
    let (event, next) ← button.poll now reading
    let (events, last) ← next.polls rest
    return (event :: events, last)

/-- What the polls of a button report that was not pressed yet, with what is logged meanwhile. -/
def events (activeLow : Bool) (polls : List (UInt32 × PinReading)) :
    Logged (List (Option Gesture)) := do
  let (events, _) ← ({ activeLow } : Button).polls polls
  return events

/-- The same button, wired the other way round and with the counter moved. -/
def rewired (offset : UInt32) (button : Button) : Button :=
  { activeLow := !button.activeLow, phase := button.phase.shift offset }

/-- The same polls, made at a moved counter. -/
def moved (offset : UInt32) (polls : List (UInt32 × PinReading)) : List (UInt32 × PinReading) :=
  polls.map fun (now, reading) => (now + offset, reading)

/-- The same polls, made at a moved counter and of a pin that is wired the other way round. -/
def exchanged (offset : UInt32) (polls : List (UInt32 × PinReading)) :
    List (UInt32 × PinReading) :=
  polls.map fun (now, reading) => (now + offset, reading.exchanged)

/-- Exchanging the levels twice only moves the counter. -/
theorem exchanged_exchanged (offset : UInt32) (polls : List (UInt32 × PinReading)) :
    exchanged 0 (exchanged offset polls) = moved offset polls := by
  simp [exchanged, moved, Function.comp_def]

/-- A button is pressed exactly if it is with the wiring and the levels exchanged. -/
theorem isPressed_rewired (offset : UInt32) (button : Button) (reading : PinReading) :
    (button.rewired offset).isPressed reading.exchanged = button.isPressed reading := by
  cases reading with
  | high => rfl
  | low => exact Bool.not_not button.activeLow
  | failed => rfl

/-- A poll of the rewired button reports the same, says the same, and leaves the rewired button. -/
theorem poll_rewired (offset : UInt32) (button : Button) (now : UInt32) (reading : PinReading) :
    (button.rewired offset).poll (now + offset) reading.exchanged =
      ⟨((button.poll now reading).value.1, (button.poll now reading).value.2.rewired offset),
        (button.poll now reading).lines⟩ := by
  have step := button.phase.sample_shift offset now (button.isPressed reading)
  have phase : (button.rewired offset).phase = button.phase.shift offset := rfl
  simp only [poll, isPressed_rewired, phase, step, PinReading.exchanged_eq_failed_iff]
  split <;> rfl

/-- So do polls in turn. -/
theorem polls_rewired (offset : UInt32) (button : Button)
    (polls : List (UInt32 × PinReading)) :
    (button.rewired offset).polls (exchanged offset polls) =
      ⟨((button.polls polls).value.1, (button.polls polls).value.2.rewired offset),
        (button.polls polls).lines⟩ := by
  induction polls generalizing button with
  | nil => rfl
  | cons poll rest ih =>
    obtain ⟨now, reading⟩ := poll
    have first := button.poll_rewired offset now reading
    have later := ih (button.poll now reading).value.2
    have front : exchanged offset ((now, reading) :: rest) =
        (now + offset, reading.exchanged) :: exchanged offset rest := rfl
    simp only [front, Button.polls, first, bind, later]
    rfl

/-- What is reported and logged depends neither on the wiring nor on where the counter stands: it is
the same with both changed, and so it is with the counter moved alone. -/
theorem events_rewired (offset : UInt32) (activeLow : Bool)
    (polls : List (UInt32 × PinReading)) :
    events (!activeLow) (exchanged offset polls) = events activeLow polls ∧
      events activeLow (moved offset polls) = events activeLow polls := by
  have both (offset : UInt32) (activeLow : Bool) (polls : List (UInt32 × PinReading)) :
      events (!activeLow) (exchanged offset polls) = events activeLow polls := by
    have alike := ({ activeLow } : Button).polls_rewired offset polls
    have fresh : ({ activeLow } : Button).rewired offset = { activeLow := !activeLow } := rfl
    rw [fresh] at alike
    rw [events, alike]
    rfl
  refine ⟨both offset activeLow polls, ?_⟩
  -- The wiring is exchanged twice, the second time with the counter left where it is.
  have again := both 0 (!activeLow) (exchanged offset polls)
  rw [exchanged_exchanged, Bool.not_not] at again
  exact again.trans (both offset activeLow polls)

/-- A press during which the counter wraps around, and a second one right after a read that fails,
which counts as the release between them. -/
example :
    (events true [(4294967290, .low), (50, .low), (60, .failed), (70, .low)]).value =
      [none, none, none, some .doublePress] := by
  decide

end Button

end Overseer
