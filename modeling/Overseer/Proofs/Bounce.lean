import Mathlib.Data.List.Induction
import Mathlib.Data.List.Pairwise
import Overseer.Proofs.Presses

/-!
# Bounce of the contact

A pulse is a run of samples of the pressed button, between samples of the released one, that is
shorter than the debounce time. What a pulse does is found by comparing two streams: the one with
the pulse, and the one that is still where the pulse is. They are reported alike unless the pulse
comes while a second press is awaited, for that is taken for one at its first sample, without a
debounce (`filters_bounce_iff`).
-/
namespace Overseer.Gesture

/-- What the samples of a new button are reported as, each with its reading. -/
def reports (stream : List (Nat × Bool)) : List (UInt32 × Option Gesture) :=
  (Phase.idle.samples (readings stream)).2

/-- Every sample has its report. -/
theorem length_reports (stream : List (Nat × Bool)) : (reports stream).length = stream.length := by
  have samples (phase : Phase) (samples : List (UInt32 × Bool)) :
      (phase.samples samples).2.length = samples.length := by
    induction samples generalizing phase with
    | nil => rfl
    | cons sample rest ih => exact congrArg (· + 1) (ih _)
  rw [reports, samples, readings, List.length_map]

/-- A report of a gesture gives the gesture its place. -/
theorem mem_gestures {stream : List (Nat × Bool)} {earlier later : List (UInt32 × Option Gesture)}
    {now : UInt32} {gesture : Gesture}
    (split : reports stream = earlier ++ (now, some gesture) :: later) :
    (earlier.length, gesture) ∈ gestures stream := by
  rw [gestures, ← reports, split, placed_append, Nat.zero_add]
  exact List.mem_append_right _ List.mem_cons_self

/-- A stream with a run of samples of one level in it, after which the button is released. -/
def across (pressed : Bool) (before : List (Nat × Bool)) (run : List Nat) (next : Nat)
    (after : List (Nat × Bool)) : List (Nat × Bool) :=
  before ++ hold pressed run ++ (next, false) :: after

namespace Phase

/-- The phase after samples of a new button. -/
def reached (stream : List (Nat × Bool)) : Phase := (idle.samples (readings stream)).1

/-- Whether a press at a reading is taken for the second one of a double press. -/
def awaitsSecond : Phase → UInt32 → Bool
  | released since, now => now - since ≤ secondPressTime
  | _, _ => false

/-- Whether a new press may begin: nothing is going on, or a press was released. -/
def IsResting : Phase → Prop
  | idle | released _ => True
  | _ => False

/-- After a sample of the released button the phase is at rest. -/
theorem isResting_of_sample (phase : Phase) (now : UInt32) :
    (phase.sample now false).1.IsResting := by
  cases phase with
  | idle | settling | held | reported => trivial
  | released since =>
    simp only [sample]
    split <;> trivial

/-- The phase is at rest unless the last sample was of the pressed button. -/
theorem isResting_reached {stream : List (Nat × Bool)}
    (loose : ∀ last ∈ stream.getLast?, last.2 = false) : (reached stream).IsResting := by
  induction stream using List.reverseRecOn with
  | nil => trivial
  | append_singleton earlier last =>
    obtain ⟨now, pressed⟩ := last
    obtain rfl : pressed = false := loose (now, pressed) List.getLast?_concat
    rw [reached, readings_append, samples_append]
    exact isResting_of_sample _ _

variable {phase : Phase} {first next : Nat} {others : List Nat}

/-- While no second press is awaited, a first sample of either level is reported alike; they differ
in whether a press has begun. -/
theorem sample_of_unawaited {now : UInt32} (resting : phase.IsResting)
    (unawaited : phase.awaitsSecond now = false) :
    ∃ gesture, phase.sample now true = (settling now, gesture) ∧
      phase.sample now false = (idle, gesture) := by
  cases phase with
  | idle => exact ⟨none, rfl, rfl⟩
  | released since =>
    have lapsed : secondPressTime < now - since := by simpa [awaitsSecond] using unawaited
    exact ⟨some .shortPress, by simp [sample, lapsed], by simp [sample, lapsed]⟩
  | settling | held | reported => exact resting.elim

/-- While a second press is awaited, the first sample of one is reported as a double press, and a
sample of the released button is not reported. -/
theorem sample_of_awaited {now : UInt32} (awaited : phase.awaitsSecond now = true) :
    phase.sample now true = (reported, some .doublePress) ∧
      phase.sample now false = (phase, none) := by
  cases phase with
  | released since =>
    have early : ¬secondPressTime < now - since := by simpa [awaitsSecond] using awaited
    exact ⟨by simp [sample, early], by simp [sample, early]⟩
  | idle | settling | held | reported => contradiction

/-- While no second press is awaited, a pulse is reported as if the button had stayed released, and
leaves nothing behind. -/
theorem samples_pulse (resting : phase.IsResting)
    (unawaited : phase.awaitsSecond (.ofNat first) = false)
    (short : ∀ now ∈ others, Follows first now ∧ ¬first + 50 ≤ now) :
    phase.samples (readings (hold true (first :: others) ++ [(next, false)])) =
      phase.samples (readings (hold false (first :: others) ++ [(next, false)])) := by
  obtain ⟨gesture, pressed, loose⟩ := sample_of_unawaited resting unawaited
  have pulse : (settling (.ofNat first)).Leads (hold true others ++ [(next, false)]) idle :=
    (settling_leads short).append (.single rfl)
  have still : idle.Leads (hold false others ++ [(next, false)]) idle :=
    (idle_leads others).append (.single rfl)
  have alike : (readings (hold true others ++ [(next, false)])).map
      (fun sample => (sample.1, (none : Option Gesture))) =
        (readings (hold false others ++ [(next, false)])).map fun sample => (sample.1, none) := by
    simp [readings, hold]
  unfold Leads at pulse still
  have front (level : Bool) : readings (hold level (first :: others) ++ [(next, false)]) =
      (.ofNat first, level) :: readings (hold level others ++ [(next, false)]) := rfl
  simp only [front, samples, pressed, loose, pulse, still, alike]

end Phase

variable {before after : List (Nat × Bool)} {first next : Nat} {others : List Nat}

/-- The report of a run's first sample stands behind those of the samples before it. -/
theorem reports_across (before after : List (Nat × Bool)) (first next : Nat) (others : List Nat)
    (pressed : Bool) :
    ∃ further, reports (across pressed before (first :: others) next after) = reports before ++
      (.ofNat first, ((Phase.reached before).sample (.ofNat first) pressed).2) :: further := by
  have split : readings (across pressed before (first :: others) next after) = readings before ++
      (.ofNat first, pressed) :: readings (hold pressed others ++ (next, false) :: after) := by
    simp [across, readings, hold]
  rw [reports, split, Phase.samples_append]
  exact ⟨_, rfl⟩

/-- Streams that are classified alike up to the release after a run are reported alike. -/
theorem reports_across_congr
    (alike : (Phase.reached before).samples
        (readings (hold true (first :: others) ++ [(next, false)])) =
      (Phase.reached before).samples
        (readings (hold false (first :: others) ++ [(next, false)]))) :
    reports (across true before (first :: others) next after) =
      reports (across false before (first :: others) next after) := by
  have split (pressed : Bool) : readings (across pressed before (first :: others) next after) =
      readings before ++ (readings (hold pressed (first :: others) ++ [(next, false)]) ++
        readings after) := by
    simp [across, readings]
  unfold Phase.reached at alike
  simp only [reports, split, Phase.samples_append, alike]

/-- The pulse of a timely stream follows its first sample, by less than the debounce time. -/
theorem pulse_follows
    (timely : Timely ((across true before (first :: others) next after).map Prod.fst))
    (short : ∀ last ∈ (first :: others).getLast?, last < first + 50) :
    ∀ now ∈ others, Follows first now ∧ ¬first + 50 ≤ now := by
  have instants : (across true before (first :: others) next after).map Prod.fst =
      before.map Prod.fst ++ first :: (others ++ next :: after.map Prod.fst) := by
    simp [across, hold, Function.comp_def]
  rw [instants] at timely
  intro now member
  refine ⟨timely.follows (by simp [member]), ?_⟩
  -- No sample of the run comes after its last one.
  have ordered := (List.pairwise_append.mp timely.ordered).2.1
  rw [← List.cons_append] at ordered
  have run := (List.pairwise_append.mp ordered).1
  have last := short _ (List.getLast?_eq_some_getLast (List.cons_ne_nil first others))
  have bound := run.rel_getLast (List.mem_cons_of_mem _ member)
  omega

/-- A pulse shorter than the debounce time changes no report, unless it begins while a second press
is awaited: then it is reported as a double press at its first sample. -/
theorem filters_bounce_iff
    (timely : Timely ((across true before (first :: others) next after).map Prod.fst))
    (separate : ∀ last ∈ before.getLast?, last.2 = false)
    (short : ∀ last ∈ (first :: others).getLast?, last < first + 50) :
    (reports (across true before (first :: others) next after) =
      reports (across false before (first :: others) next after) ↔
        (Phase.reached before).awaitsSecond (.ofNat first) = false) ∧
    ((Phase.reached before).awaitsSecond (.ofNat first) = true →
      (before.length, .doublePress) ∈
        gestures (across true before (first :: others) next after)) := by
  obtain ⟨further, pulse⟩ := reports_across before after first next others true
  obtain ⟨calm, still⟩ := reports_across before after first next others false
  refine ⟨⟨fun same => ?_, fun unawaited => ?_⟩, fun awaited => ?_⟩
  · by_contra awaited
    obtain ⟨pressed, loose⟩ := Phase.sample_of_awaited (by simpa using awaited)
    rw [pulse, still, pressed, loose] at same
    simp at same
  · have resting := Phase.isResting_reached separate
    exact reports_across_congr (Phase.samples_pulse resting unawaited (pulse_follows timely short))
  · rw [(Phase.sample_of_awaited awaited).1] at pulse
    rw [← length_reports before]
    exact mem_gestures pulse

/-- A pulse right after the time for a second press, as long as a pulse can be. -/
theorem filters_bounce_lapsed :
    let before := hold true [0, 50] ++ hold false [100]
    let after := hold false [500]
    Timely ((across true before [401, 450] 451 after).map Prod.fst) ∧
      (∀ last ∈ before.getLast?, last.2 = false) ∧
      (∀ last ∈ [401, 450].getLast?, last < 401 + 50) ∧
      reports (across true before [401, 450] 451 after) =
        reports (across false before [401, 450] 451 after) := by
  refine ⟨by decide, by decide, by decide, ?_⟩
  exact (filters_bounce_iff (by decide) (by decide) (by decide)).1.mpr (by decide)

/-- A pulse of one sample, ten milliseconds after the release of a short press, turns it into a
double press. -/
theorem bounce_doubles :
    let before := hold true [0, 50] ++ hold false [100]
    let after := hold false [500]
    Timely ((across true before [110] 120 after).map Prod.fst) ∧
      (∀ last ∈ before.getLast?, last.2 = false) ∧ (∀ last ∈ [110].getLast?, last < 110 + 50) ∧
      reports (across true before [110] 120 after) ≠
        reports (across false before [110] 120 after) ∧
      gestures (across true before [110] 120 after) = [(3, .doublePress)] ∧
      gestures (across false before [110] 120 after) = [(5, .shortPress)] := by
  decide

end Overseer.Gesture
