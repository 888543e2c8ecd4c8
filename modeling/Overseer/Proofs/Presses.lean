import Mathlib.Order.Bounds.Basic
import Overseer.Gesture

/-!
# Presses of the button

The readings of the counter wrap around, but only differences of readings are looked at. A stream of
samples that spans less than the range of the counter is therefore described by instants, which are
natural numbers that never go backwards. Samples of one level in a row leave most phases as they
are, or lead on to the next one; `Phase.Leads` says that they complete nothing on the way. Every
stream is cut where a phase ends, and `classifies` puts the parts together.
-/
namespace Overseer.Gesture

/-! ### Streams of samples -/

/-- Samples of one level, at instants. -/
def hold (pressed : Bool) (instants : List Nat) : List (Nat × Bool) := instants.map (·, pressed)

/-- What the counter shows of samples at instants. -/
def readings (stream : List (Nat × Bool)) : List (UInt32 × Bool) :=
  stream.map fun (instant, pressed) => (.ofNat instant, pressed)

/-- Instants that never go backwards, and that span less than the range of the counter. -/
structure Timely (instants : List Nat) : Prop where
  ordered : instants.Pairwise (· ≤ ·)
  near : ∀ first ∈ instants, ∀ last ∈ instants, last < first + UInt32.size

instance (instants : List Nat) : Decidable (Timely instants) :=
  decidable_of_iff (instants.Pairwise (· ≤ ·) ∧
      ∀ first ∈ instants, ∀ last ∈ instants, last < first + UInt32.size)
    ⟨fun holds => ⟨holds.1, holds.2⟩, fun timely => ⟨timely.ordered, timely.near⟩⟩

/-- The gestures among reports, each with its place; the first report is in the given one. -/
def placed (place : Nat) (reports : List (UInt32 × Option Gesture)) : List (Nat × Gesture) :=
  (reports.zipIdx place).filterMap fun ((_, gesture), place) => gesture.map (place, ·)

/-- The gestures that samples of a new button complete, each with the place of its sample. -/
def gestures (stream : List (Nat × Bool)) : List (Nat × Gesture) :=
  placed 0 (Phase.idle.samples (readings stream)).2

@[simp] theorem readings_append (earlier later : List (Nat × Bool)) :
    readings (earlier ++ later) = readings earlier ++ readings later := List.map_append

@[simp] theorem hold_append (pressed : Bool) (earlier later : List Nat) :
    hold pressed (earlier ++ later) = hold pressed earlier ++ hold pressed later :=
  List.map_append

@[simp] theorem length_hold (pressed : Bool) (instants : List Nat) :
    (hold pressed instants).length = instants.length := List.length_map _

/-! ### Differences of readings -/

/-- An instant that comes after another one, by less than the range of the counter. -/
structure Follows (since now : Nat) : Prop where
  ordered : since ≤ now
  near : now < since + UInt32.size

/-- An instant of a timely stream follows those before it. -/
theorem Timely.follows {earlier later : List Nat} {since now : Nat}
    (timely : Timely (earlier ++ since :: later)) (member : now ∈ later) : Follows since now := by
  have split := List.pairwise_append.mp timely.ordered
  refine ⟨(List.pairwise_cons.mp split.2.1).1 now member, ?_⟩
  exact timely.near since (by simp) now (by simp [member])

/-- The difference of two readings is the time between them, whether the counter wrapped around or
not. -/
theorem Follows.toNat_sub {since now : Nat} (follows : Follows since now) :
    (UInt32.ofNat now - UInt32.ofNat since).toNat = now - since := by
  obtain ⟨ordered, near⟩ := follows
  rw [UInt32.toNat_sub, UInt32.toNat_ofNat', UInt32.toNat_ofNat']
  have size : UInt32.size = 2 ^ 32 := rfl
  have nowSplit := Nat.div_add_mod now (2 ^ 32)
  have sinceSplit := Nat.div_add_mod since (2 ^ 32)
  omega

/-- A time has passed by the readings exactly if it has by the instants. -/
theorem Follows.le_sub_iff {since now : Nat} (follows : Follows since now) (time : UInt32) :
    time ≤ UInt32.ofNat now - UInt32.ofNat since ↔ since + time.toNat ≤ now := by
  have ordered := follows.ordered
  rw [UInt32.le_iff_toNat_le, follows.toNat_sub]
  omega

/-- More than a time has passed by the readings exactly if it has by the instants. -/
theorem Follows.lt_sub_iff {since now : Nat} (follows : Follows since now) (time : UInt32) :
    time < UInt32.ofNat now - UInt32.ofNat since ↔ since + time.toNat < now := by
  have ordered := follows.ordered
  rw [UInt32.lt_iff_toNat_lt, follows.toNat_sub]
  omega

namespace Phase

variable {since now : Nat}

/-- A press is settled once it has lasted the debounce time. -/
theorem sample_settling (follows : Follows since now) :
    (settling (.ofNat since)).sample (.ofNat now) true =
      (if since + 50 ≤ now then held (.ofNat since) else settling (.ofNat since), none) := by
  have settled : debounceTime ≤ UInt32.ofNat now - UInt32.ofNat since ↔ since + 50 ≤ now :=
    follows.le_sub_iff 50
  simp only [sample, Bool.not_true, Bool.false_eq_true, ↓reduceIte, settled]
  split <;> rfl

/-- A press that counts is reported as long once it has lasted long enough. -/
theorem sample_held (follows : Follows since now) :
    (held (.ofNat since)).sample (.ofNat now) true =
      if since + 5000 ≤ now then (reported, some .longPress) else (held (.ofNat since), none) := by
  have long : longPressTime ≤ UInt32.ofNat now - UInt32.ofNat since ↔ since + 5000 ≤ now :=
    follows.le_sub_iff 5000
  simp only [sample, Bool.not_true, Bool.false_eq_true, ↓reduceIte, long]

/-- After a release, a press is reported as short once the time for a second one has passed, and as
double if the second one comes before that. -/
theorem sample_released (follows : Follows since now) (pressed : Bool) :
    (released (.ofNat since)).sample (.ofNat now) pressed =
      if since + 300 < now then
        (if pressed then settling (.ofNat now) else idle, some .shortPress)
      else if pressed then (reported, some .doublePress)
      else (released (.ofNat since), none) := by
  have lapsed : secondPressTime < UInt32.ofNat now - UInt32.ofNat since ↔ since + 300 < now :=
    follows.lt_sub_iff 300
  simp only [sample, lapsed]

/-! ### Runs that complete nothing -/

/-- Samples that complete nothing lead from one phase to another. -/
def Leads (phase : Phase) (stream : List (Nat × Bool)) (next : Phase) : Prop :=
  phase.samples (readings stream) = (next, (readings stream).map fun sample => (sample.1, none))

/-- Samples in a row are classified one after the other. -/
theorem samples_append (phase : Phase) (earlier later : List (UInt32 × Bool)) :
    phase.samples (earlier ++ later) =
      (((phase.samples earlier).1.samples later).1,
        (phase.samples earlier).2 ++ ((phase.samples earlier).1.samples later).2) := by
  induction earlier generalizing phase with
  | nil => rfl
  | cons sample rest ih =>
    obtain ⟨now, pressed⟩ := sample
    simp only [List.cons_append, samples, ih]

namespace Leads

variable {phase between next : Phase} {earlier later : List (Nat × Bool)}

/-- No samples lead nowhere. -/
theorem nil (phase : Phase) : phase.Leads [] phase := rfl

/-- A sample that completes nothing leads to the phase after it. -/
theorem single {pressed : Bool} (step : phase.sample (.ofNat now) pressed = (next, none)) :
    phase.Leads [(now, pressed)] next := by
  simp only [Leads, readings, List.map_cons, List.map_nil, samples, step]

/-- One run after the other. -/
theorem append (first : phase.Leads earlier between) (second : between.Leads later next) :
    phase.Leads (earlier ++ later) next := by
  unfold Leads at *
  rw [readings_append, samples_append, first, second, List.map_append]

/-- Samples each of which leaves a phase as it is. -/
theorem stay {pressed : Bool} {instants : List Nat}
    (idles : ∀ now ∈ instants, phase.sample (.ofNat now) pressed = (phase, none)) :
    phase.Leads (hold pressed instants) phase := by
  induction instants with
  | nil => exact .nil phase
  | cons now rest ih =>
    obtain ⟨idle, others⟩ := List.forall_mem_cons.mp idles
    exact (single idle).append (ih others)

end Leads

/-- Nothing is completed while the button is not pressed. -/
theorem idle_leads (instants : List Nat) : idle.Leads (hold false instants) idle :=
  .stay fun _ _ => rfl

/-- Nothing is completed while a reported press is still held. -/
theorem reported_leads (instants : List Nat) : reported.Leads (hold true instants) reported :=
  .stay fun _ _ => rfl

/-- Nothing is completed by the release of a reported press. -/
theorem reported_released (instants : List Nat) :
    ∃ next, reported.Leads (hold false instants) next := by
  cases instants with
  | nil => exact ⟨reported, .nil _⟩
  | cons now rest =>
    have released : reported.Leads [(now, false)] idle := .single rfl
    exact ⟨idle, released.append (idle_leads rest)⟩

/-- A press stays unsettled until the debounce time has passed. -/
theorem settling_leads {instants : List Nat}
    (early : ∀ now ∈ instants, Follows since now ∧ ¬since + 50 ≤ now) :
    (settling (.ofNat since)).Leads (hold true instants) (settling (.ofNat since)) := by
  refine .stay fun now member => ?_
  rw [sample_settling (early now member).1, if_neg (early now member).2]

/-- A press that counts stays unreported until it is long. -/
theorem held_leads {instants : List Nat}
    (early : ∀ now ∈ instants, Follows since now ∧ ¬since + 5000 ≤ now) :
    (held (.ofNat since)).Leads (hold true instants) (held (.ofNat since)) := by
  refine .stay fun now member => ?_
  rw [sample_held (early now member).1, if_neg (early now member).2]

/-- A released press stays unreported until the time for a second one has passed. -/
theorem released_leads {instants : List Nat}
    (early : ∀ now ∈ instants, Follows since now ∧ ¬since + 300 < now) :
    (released (.ofNat since)).Leads (hold false instants) (released (.ofNat since)) := by
  refine .stay fun now member => ?_
  rw [sample_released (early now member).1, if_neg (early now member).2]
  rfl

end Phase

/-- Where nothing was completed there are no gestures. -/
theorem placed_eq_nil (place : Nat) (samples : List (UInt32 × Bool)) :
    placed place (samples.map fun sample => (sample.1, none)) = [] := by
  induction samples generalizing place with
  | nil => rfl
  | cons sample rest ih => exact ih (place + 1)

/-- Reports in a row keep their places. -/
theorem placed_append (place : Nat) (earlier later : List (UInt32 × Option Gesture)) :
    placed place (earlier ++ later) =
      placed place earlier ++ placed (place + earlier.length) later := by
  rw [placed, List.zipIdx_append, List.filterMap_append]
  rfl

/-- Samples of a new button that complete nothing. -/
theorem gestures_eq_nil {stream : List (Nat × Bool)} {next : Phase}
    (leads : Phase.idle.Leads stream next) : gestures stream = [] := by
  unfold Phase.Leads at leads
  rw [gestures, leads]
  exact placed_eq_nil 0 _

/-- Samples of a new button of which exactly one completes a gesture. -/
theorem gestures_eq_singleton {earlier later : List (Nat × Bool)} {now : Nat} {pressed : Bool}
    {between next last : Phase} {gesture : Gesture} (before : Phase.idle.Leads earlier between)
    (completes : between.sample (.ofNat now) pressed = (next, some gesture))
    (after : next.Leads later last) :
    gestures (earlier ++ (now, pressed) :: later) = [(earlier.length, gesture)] := by
  have split : readings (earlier ++ (now, pressed) :: later) =
      readings earlier ++ (.ofNat now, pressed) :: readings later := readings_append _ _
  have length : (readings earlier).length = earlier.length := List.length_map _
  have single (place : Nat) (reports : List (UInt32 × Option Gesture)) :
      placed place ((.ofNat now, some gesture) :: reports) =
        (place, gesture) :: placed (place + 1) reports := rfl
  unfold Phase.Leads at before after
  rw [gestures, split, Phase.samples_append, before]
  simp only [Phase.samples, completes, after]
  rw [placed_append, placed_eq_nil, single, placed_eq_nil, List.length_map, length]
  simp

/-! ### Places in a run -/

/-- The places of a run whose instants meet a condition. -/
def places (meets : Nat → Prop) (instants : List Nat) : Set Nat :=
  {place | ∃ instant, instants[place]? = some instant ∧ meets instant}

variable {meets : Nat → Prop}

/-- There are no places where no instant meets the condition. -/
theorem places_eq_empty_iff {instants : List Nat} :
    places meets instants = ∅ ↔ ∀ instant ∈ instants, ¬meets instant := by
  constructor
  · intro empty instant member met
    obtain ⟨place, found⟩ := List.mem_iff_getElem?.mp member
    have inside : place ∈ places meets instants := ⟨instant, found, met⟩
    rw [empty] at inside
    exact inside
  · intro none
    ext place
    constructor
    · rintro ⟨instant, found, met⟩
      exact none instant (List.mem_of_getElem? found) met
    · exact False.elim

/-- A run is cut at the first of its places. -/
theorem cut_at_least {instants : List Nat} {place : Nat}
    (least : IsLeast (places meets instants) place) :
    ∃ early instant late, instants = early ++ instant :: late ∧ early.length = place ∧
      meets instant ∧ ∀ other ∈ early, ¬meets other := by
  obtain ⟨⟨instant, found, met⟩, lower⟩ := least
  obtain ⟨bound, get⟩ := List.getElem?_eq_some_iff.mp found
  refine ⟨instants.take place, instant, instants.drop (place + 1), ?_, ?_, met, ?_⟩
  · rw [← get, ← List.drop_eq_getElem_cons bound, List.take_append_drop]
  · rw [List.length_take]
    omega
  · intro other member again
    obtain ⟨earlier, taken⟩ := List.mem_iff_getElem?.mp member
    obtain ⟨before, _⟩ := List.getElem?_eq_some_iff.mp taken
    rw [List.length_take] at before
    rw [List.getElem?_take_of_lt (by omega)] at taken
    have atLeast : place ≤ earlier := lower ⟨other, taken, again⟩
    omega

/-- The first place behind the front of a run is the first place of what comes after the front. -/
theorem least_behind {front back : List Nat} {place : Nat}
    (least : IsLeast (places meets (front ++ back) ∩ Set.Ici front.length) place) :
    ∃ later, front.length + later = place ∧ IsLeast (places meets back) later := by
  obtain ⟨⟨⟨instant, found, met⟩, behind⟩, lower⟩ := least
  have start : front.length ≤ place := behind
  refine ⟨place - front.length, by omega, ⟨instant, ?_, met⟩, ?_⟩
  · rwa [List.getElem?_append_right start] at found
  · rintro other ⟨candidate, at_, also⟩
    have inside : front.length + other ∈ places meets (front ++ back) ∩ Set.Ici front.length := by
      refine ⟨⟨candidate, ?_, also⟩, Nat.le_add_right _ _⟩
      rwa [List.getElem?_append_right (Nat.le_add_right _ _), Nat.add_sub_cancel_left]
    have := lower inside
    omega

/-- Nothing behind the front of a run meets a condition that no place behind it has. -/
theorem none_behind {front back : List Nat}
    (none : places meets (front ++ back) ∩ Set.Ici front.length = ∅) :
    ∀ instant ∈ back, ¬meets instant := by
  intro instant member met
  obtain ⟨place, found⟩ := List.mem_iff_getElem?.mp member
  have inside : front.length + place ∈ places meets (front ++ back) ∩ Set.Ici front.length := by
    refine ⟨⟨instant, ?_, met⟩, Nat.le_add_right _ _⟩
    rwa [List.getElem?_append_right (Nat.le_add_right _ _), Nat.add_sub_cancel_left]
  rw [none] at inside
  exact inside

/-! ### The classification -/

/-- The samples of one press: of the released button before it, of the pressed one, and of the
released one after it. -/
def press (before pressed released : List Nat) : List (Nat × Bool) :=
  hold false before ++ hold true pressed ++ hold false released

/-- How a press is classified that is first seen pressed at `down` and then at `held`, and first
seen released at `up` and then at `loose`. -/
structure Classified (before : List Nat) (down : Nat) (held : List Nat) (up : Nat)
    (loose : List Nat) : Prop where
  /-- If no sample comes fifty milliseconds after the first one, nothing is reported. -/
  bounce : places (down + 50 ≤ ·) (down :: held) = ∅ →
    gestures (press before (down :: held) (up :: loose)) = []
  /-- If after the first one that does, one comes five seconds after the first, the press is
  reported as long at the first such sample. -/
  long : ∀ settled, IsLeast (places (down + 50 ≤ ·) (down :: held)) settled →
    ∀ place, IsLeast (places (down + 5000 ≤ ·) (down :: held) ∩ Set.Ioi settled) place →
      gestures (press before (down :: held) (up :: loose)) =
        [(before.length + place, .longPress)]
  /-- Otherwise it is reported as short at the first sample that comes more than 300 milliseconds
  after the release. -/
  short : ∀ settled, IsLeast (places (down + 50 ≤ ·) (down :: held)) settled →
    places (down + 5000 ≤ ·) (down :: held) ∩ Set.Ioi settled = ∅ →
    ∀ place, IsLeast (places (up + 300 < ·) (up :: loose)) place →
      gestures (press before (down :: held) (up :: loose)) =
        [(before.length + (down :: held).length + place, .shortPress)]
  /-- If there is no such sample, nothing is reported. -/
  pending : ∀ settled, IsLeast (places (down + 50 ≤ ·) (down :: held)) settled →
    places (down + 5000 ≤ ·) (down :: held) ∩ Set.Ioi settled = ∅ →
    places (up + 300 < ·) (up :: loose) = ∅ →
      gestures (press before (down :: held) (up :: loose)) = []
  /-- If there is none, and the button is seen pressed again no more than 300 milliseconds after the
  release, a double press is reported at once, and nothing else, however long the second press is
  held and whatever follows of its release. -/
  double : ∀ settled, IsLeast (places (down + 50 ≤ ·) (down :: held)) settled →
    places (down + 5000 ≤ ·) (down :: held) ∩ Set.Ioi settled = ∅ →
    places (up + 300 < ·) (up :: loose) = ∅ →
    ∀ again more last,
      Timely (before ++ down :: held ++ up :: loose ++ again :: more ++ last) → again ≤ up + 300 →
      gestures (press before (down :: held) (up :: loose) ++ hold true (again :: more) ++
        hold false last) =
          [(before.length + (down :: held).length + (up :: loose).length, .doublePress)]

/-- Behind the first sample after the debounce time means behind all samples up to it. -/
theorem ioi_settled (down : Nat) {early : List Nat} {settled : Nat}
    (length : early.length = settled) :
    Set.Ioi settled = Set.Ici (down :: early).length := by
  rw [List.length_cons, length]
  rfl

namespace Phase

variable {before held loose : List Nat} {down up settled : Nat}

/-- A new button is pressed: until the debounce time has passed the press is not settled. -/
theorem idle_settles {early : List Nat}
    (unsettled : ∀ now ∈ early, Follows down now ∧ ¬down + 50 ≤ now) :
    idle.Leads (hold true (down :: early)) (settling (.ofNat down)) := by
  have first : idle.Leads [(down, true)] (settling (.ofNat down)) := .single rfl
  exact first.append (settling_leads unsettled)

/-- A new button is pressed: from the first sample after the debounce time on the press counts. -/
theorem idle_counts (follows : ∀ now ∈ held, Follows down now)
    (least : IsLeast (places (down + 50 ≤ ·) (down :: held)) settled) :
    ∃ early late, held = early ++ late ∧ early.length = settled ∧
      idle.Leads (hold true (down :: early)) (.held (.ofNat down)) := by
  obtain ⟨early, settle, late, cut, length, met, unmet⟩ := cut_at_least least
  cases early with
  | nil =>
    rw [List.nil_append, List.cons.injEq] at cut
    omega
  | cons first early =>
    rw [List.cons_append, List.cons.injEq] at cut
    obtain ⟨rfl, rfl⟩ := cut
    have unsettled : ∀ now ∈ early, Follows down now ∧ ¬down + 50 ≤ now := fun now member =>
      ⟨follows now (by simp [member]), unmet now (by simp [member])⟩
    have settles : (settling (.ofNat down)).Leads [(settle, true)] (.held (.ofNat down)) := by
      apply Leads.single
      rw [sample_settling (follows settle (by simp)), if_pos met]
    refine ⟨early ++ [settle], late, by simp, by simpa using length, ?_⟩
    rw [← List.cons_append, hold_append]
    exact (idle_settles unsettled).append settles

/-- A press that counts and was not long is released: a second one may follow. -/
theorem idle_released (before : List Nat) (up : Nat) (follows : ∀ now ∈ held, Follows down now)
    (least : IsLeast (places (down + 50 ≤ ·) (down :: held)) settled)
    (brief : places (down + 5000 ≤ ·) (down :: held) ∩ Set.Ioi settled = ∅) :
    idle.Leads (press before (down :: held) [up]) (released (.ofNat up)) := by
  obtain ⟨early, late, rfl, length, counts⟩ := idle_counts follows least
  rw [ioi_settled down length, ← List.cons_append] at brief
  have unmet := none_behind brief
  have waits : (Phase.held (.ofNat down)).Leads (hold true late) (.held (.ofNat down)) :=
    held_leads fun now member => ⟨follows now (by simp [member]), unmet now member⟩
  have release : (Phase.held (.ofNat down)).Leads [(up, false)] (released (.ofNat up)) :=
    .single rfl
  have pressed := counts.append waits
  rw [← hold_append] at pressed
  exact ((idle_leads before).append pressed).append release

end Phase

section

variable {before held loose : List Nat} {down up settled place : Nat}

/-- A press too short to count is not reported. -/
theorem gestures_of_bounce (heldFollows : ∀ now ∈ held, Follows down now)
    (empty : places (down + 50 ≤ ·) (down :: held) = ∅) :
    gestures (press before (down :: held) (up :: loose)) = [] := by
  have unmet := places_eq_empty_iff.mp empty
  have unsettled := Phase.idle_settles fun now member =>
    ⟨heldFollows now member, unmet now (List.mem_cons_of_mem _ member)⟩
  have release : (Phase.settling (.ofNat down)).Leads [(up, false)] .idle := .single rfl
  have pressed := (Phase.idle_leads before).append unsettled
  exact gestures_eq_nil (pressed.append (release.append (Phase.idle_leads loose)))

/-- A long press is reported while it is held, and its release is not. -/
theorem gestures_of_long (heldFollows : ∀ now ∈ held, Follows down now)
    (least : IsLeast (places (down + 50 ≤ ·) (down :: held)) settled)
    (first : IsLeast (places (down + 5000 ≤ ·) (down :: held) ∩ Set.Ioi settled) place) :
    gestures (press before (down :: held) (up :: loose)) =
      [(before.length + place, .longPress)] := by
  obtain ⟨early, late, rfl, length, counts⟩ := Phase.idle_counts heldFollows least
  rw [ioi_settled down length, ← List.cons_append] at first
  obtain ⟨later, sum, firstLate⟩ := least_behind first
  obtain ⟨waiting, now, more, rfl, waited, met, unmet⟩ := cut_at_least firstLate
  have waits : (Phase.held (.ofNat down)).Leads (hold true waiting) (.held (.ofNat down)) :=
    Phase.held_leads fun other member =>
      ⟨heldFollows other (by simp [member]), unmet other member⟩
  have completes : (Phase.held (.ofNat down)).sample (.ofNat now) true =
      (.reported, some .longPress) := by
    rw [Phase.sample_held (heldFollows now (by simp)), if_pos met]
  obtain ⟨last, released⟩ := Phase.reported_released (up :: loose)
  have reported := (Phase.reported_leads more).append released
  have pressed := (Phase.idle_leads before).append (counts.append waits)
  have split : press before (down :: (early ++ (waiting ++ now :: more))) (up :: loose) =
      (hold false before ++ (hold true (down :: early) ++ hold true waiting)) ++
        (now, true) :: (hold true more ++ hold false (up :: loose)) := by
    simp [press, hold]
  have front : (hold false before ++ (hold true (down :: early) ++ hold true waiting)).length =
      before.length + place := by
    simp only [List.length_append, length_hold, List.length_cons] at sum ⊢
    omega
  rw [split, gestures_eq_singleton pressed completes reported, front]

/-- A press that is neither too short nor long is reported when the time for a second one has
passed. -/
theorem gestures_of_short (heldFollows : ∀ now ∈ held, Follows down now)
    (looseFollows : ∀ now ∈ loose, Follows up now)
    (least : IsLeast (places (down + 50 ≤ ·) (down :: held)) settled)
    (brief : places (down + 5000 ≤ ·) (down :: held) ∩ Set.Ioi settled = ∅)
    (first : IsLeast (places (up + 300 < ·) (up :: loose)) place) :
    gestures (press before (down :: held) (up :: loose)) =
      [(before.length + (down :: held).length + place, .shortPress)] := by
  have released := Phase.idle_released before up heldFollows least brief
  obtain ⟨early, now, late, cut, length, met, unmet⟩ := cut_at_least first
  cases early with
  | nil =>
    rw [List.nil_append, List.cons.injEq] at cut
    omega
  | cons head early =>
    rw [List.cons_append, List.cons.injEq] at cut
    obtain ⟨rfl, rfl⟩ := cut
    have waits : (Phase.released (.ofNat up)).Leads (hold false early) (.released (.ofNat up)) :=
      Phase.released_leads fun other member =>
        ⟨looseFollows other (by simp [member]), unmet other (by simp [member])⟩
    have completes : (Phase.released (.ofNat up)).sample (.ofNat now) false =
        (.idle, some .shortPress) := by
      rw [Phase.sample_released (looseFollows now (by simp)), if_pos met]
      rfl
    have split : press before (down :: held) (up :: (early ++ now :: late)) =
        (press before (down :: held) [up] ++ hold false early) ++
          (now, false) :: hold false late := by
      simp [press, hold]
    have front : (press before (down :: held) [up] ++ hold false early).length =
        before.length + (down :: held).length + place := by
      simp only [press, List.length_append, length_hold, List.length_cons, List.length_nil]
        at length ⊢
      omega
    rw [split, gestures_eq_singleton (released.append waits) completes (Phase.idle_leads late),
      front]

/-- As long as the time for a second press has not passed, it is awaited. -/
theorem awaits_second (before : List Nat) (heldFollows : ∀ now ∈ held, Follows down now)
    (looseFollows : ∀ now ∈ loose, Follows up now)
    (least : IsLeast (places (down + 50 ≤ ·) (down :: held)) settled)
    (brief : places (down + 5000 ≤ ·) (down :: held) ∩ Set.Ioi settled = ∅)
    (unexpired : places (up + 300 < ·) (up :: loose) = ∅) :
    Phase.idle.Leads (press before (down :: held) (up :: loose)) (.released (.ofNat up)) := by
  have unmet := places_eq_empty_iff.mp unexpired
  have waits : (Phase.released (.ofNat up)).Leads (hold false loose) (.released (.ofNat up)) :=
    Phase.released_leads fun other member =>
      ⟨looseFollows other member, unmet other (List.mem_cons_of_mem _ member)⟩
  have released := Phase.idle_released before up heldFollows least brief
  have split : press before (down :: held) (up :: loose) =
      press before (down :: held) [up] ++ hold false loose := by
    simp [press, hold]
  rw [split]
  exact released.append waits

/-- A second press that comes in time is reported at once; neither how long it is held nor its
release is. -/
theorem gestures_of_double {again : Nat} {more last : List Nat}
    (awaits : Phase.idle.Leads (press before (down :: held) (up :: loose)) (.released (.ofNat up)))
    (follows : Follows up again) (soon : again ≤ up + 300) :
    gestures (press before (down :: held) (up :: loose) ++ hold true (again :: more) ++
      hold false last) =
        [(before.length + (down :: held).length + (up :: loose).length, .doublePress)] := by
  have completes : (Phase.released (.ofNat up)).sample (.ofNat again) true =
      (.reported, some .doublePress) := by
    rw [Phase.sample_released follows, if_neg (by omega)]
    rfl
  obtain ⟨final, released⟩ := Phase.reported_released last
  have reported := (Phase.reported_leads more).append released
  have split : press before (down :: held) (up :: loose) ++ hold true (again :: more) ++
      hold false last = press before (down :: held) (up :: loose) ++
        (again, true) :: (hold true more ++ hold false last) := by
    simp [hold]
  have front : (press before (down :: held) (up :: loose)).length =
      before.length + (down :: held).length + (up :: loose).length := by
    simp only [press, List.length_append, length_hold]
  rw [split, gestures_eq_singleton awaits completes reported, front]

end

/-- A press is classified by how long it is held and by what follows its release. -/
theorem classifies {before held loose : List Nat} {down up : Nat}
    (timely : Timely (before ++ down :: held ++ up :: loose)) :
    Classified before down held up loose := by
  have heldFollows : ∀ now ∈ held, Follows down now := fun now member => by
    rw [List.append_assoc, List.cons_append] at timely
    exact timely.follows (List.mem_append_left _ member)
  have looseFollows : ∀ now ∈ loose, Follows up now := fun now member => timely.follows member
  constructor
  · exact fun empty => gestures_of_bounce heldFollows empty
  · exact fun settled least place first => gestures_of_long heldFollows least first
  · exact fun settled least brief place first =>
      gestures_of_short heldFollows looseFollows least brief first
  · exact fun settled least brief unexpired =>
      gestures_eq_nil (awaits_second before heldFollows looseFollows least brief unexpired)
  · intro settled least brief unexpired again more last timely soon
    have awaits := awaits_second before heldFollows looseFollows least brief unexpired
    have follows : Follows up again := by
      rw [List.append_assoc, List.append_assoc, List.cons_append] at timely
      exact timely.follows (by simp)
    exact gestures_of_double awaits follows soon

/-- A press during which the counter wraps around, and a second one exactly 300 milliseconds after
its release. -/
theorem classifies_wrapped :
    let before := [4294966000]
    let held := [4294967249, 4294967250, 4294967300]
    let again := [4294967700, 4294967709]
    let last := [4294967710, 4294969000]
    Timely (before ++ 4294967200 :: held ++ 4294967400 :: [4294967699]) ∧
      Classified before 4294967200 held 4294967400 [4294967699] ∧
      gestures (press before (4294967200 :: held) [4294967400, 4294967699] ++
        hold true again ++ hold false last) = [(7, .doublePress)] :=
  ⟨by decide, classifies (by decide), by decide⟩

end Overseer.Gesture
