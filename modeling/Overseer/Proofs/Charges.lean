import Mathlib.Data.List.Induction
import Mathlib.Data.List.Nodup
import Overseer.Proofs.Presses

/-!
# Which presses a gesture is charged to

A press begins with a sample of the pressed button, unless the sample before it is of the pressed
button as well. A short or a long press is charged to the last press that began before the sample it
is reported at, and a double press to that one and to the one that begins with the sample. Time does
not enter into the account: the counter may stand still, jump or run backwards, and the phase alone
says whether there is a press that has begun and is not charged yet (`Phase.uncharged`). One sample
charges and leaves uncharged no more than was uncharged before it or begins with it
(`Phase.Move.charges`), so samples in turn never charge a press twice (`charges_once`).
-/
namespace Overseer.Gesture

/-! ### Presses and what they complete -/

/-- Whether the sample in a place is of the pressed button. -/
def isDownAt (samples : List (UInt32 × Bool)) (place : Nat) : Bool := samples[place]?.any Prod.snd

/-- Whether a press begins with the sample in a place: it is of the pressed button, and the one
before it is of the released button, or there is none. -/
def beginsAt (samples : List (UInt32 × Bool)) (place : Nat) : Bool :=
  isDownAt samples place && (place == 0 || !isDownAt samples (place - 1))

/-- The places in which presses begin, in their order. -/
def beginnings (samples : List (UInt32 × Bool)) : List Nat :=
  (List.range samples.length).filter (beginsAt samples)

/-- What each sample of a new button completes. -/
def completed (samples : List (UInt32 × Bool)) : List (Option Gesture) :=
  (Phase.idle.samples samples).2.map Prod.snd

/-- How many presses a gesture is made of. -/
def presses : Gesture → Nat
  | .shortPress | .longPress => 1
  | .doublePress => 2

/-- The presses that a gesture is charged to, of those that began before its sample and the one
that may begin with it. -/
def charge (begun : List Nat) (place : Nat) : Gesture → List Nat
  | .shortPress | .longPress => begun.getLast?.toList
  | .doublePress => begun.getLast?.toList ++ [place]

/-- The presses that each sample is charged to: none if it completes no gesture. -/
def charges (samples : List (UInt32 × Bool)) : List (List Nat) :=
  (completed samples).zipIdx.map fun (report, place) =>
    report.elim [] (charge (beginnings (samples.take place)) place)

/-- A gesture is charged to as many presses as it is made of, if any press has begun. -/
theorem length_charge {begun : List Nat} (nonempty : begun ≠ []) (place : Nat)
    (gesture : Gesture) : (charge begun place gesture).length = gesture.presses := by
  have last : begun.getLast?.toList.length = 1 := by
    rw [List.getLast?_eq_some_getLast nonempty]
    rfl
  cases gesture with
  | shortPress | longPress => exact last
  | doublePress =>
    rw [charge, List.length_append, last]
    rfl

/-- Where each gesture is charged to as many presses as it is made of, the charges tell how many
gestures of each kind there are. -/
theorem length_flatten_of_paid {charges : List (List Nat)} {reports : List (Option Gesture)}
    (paid : charges.map List.length = reports.map fun report => report.elim 0 presses) :
    charges.flatten.length = reports.count (some .shortPress) + reports.count (some .longPress) +
      2 * reports.count (some .doublePress) := by
  induction reports generalizing charges with
  | nil =>
    rw [List.map_nil, List.map_eq_nil_iff] at paid
    rw [paid]
    rfl
  | cons report rest ih =>
    obtain ⟨first, others, rfl, one, more⟩ := List.map_eq_cons_iff.mp paid
    rw [List.flatten_cons, List.length_append, one, ih more]
    rcases report with _ | _ | _ | _ <;> simp [presses] <;> omega

/-! ### One sample -/

namespace Phase

/-- Whether the sample that led to a phase was of the pressed button. -/
def isDown : Phase → Bool
  | settling _ | held _ | reported => true
  | idle | released _ => false

/-- Whether a press has begun that may still complete a gesture. -/
def isOpen : Phase → Bool
  | settling _ | held _ | released _ => true
  | idle | reported => false

/-- The press that has begun and is not charged yet. -/
def uncharged (phase : Phase) (begun : List Nat) : List Nat :=
  if phase.isOpen then begun.getLast?.toList else []

/-- The press that begins with a sample in a place, if one does. -/
def begins (phase : Phase) (pressed : Bool) (place : Nat) : List Nat :=
  if pressed && !phase.isDown then [place] else []

/-- What a sample can do to a phase, whatever the readings of the counter are. -/
inductive Move : Phase → Bool → Phase → Option Gesture → Prop where
  | rest : Move idle false idle none
  | press {now : UInt32} : Move idle true (settling now) none
  | bounce {since : UInt32} : Move (settling since) false idle none
  | settle {since : UInt32} : Move (settling since) true (settling since) none
  | count {since : UInt32} : Move (settling since) true (held since) none
  | hold {since : UInt32} : Move (held since) true (held since) none
  | long {since : UInt32} : Move (held since) true reported (some .longPress)
  | release {since now : UInt32} : Move (held since) false (released now) none
  | await {since : UInt32} : Move (released since) false (released since) none
  | double {since : UInt32} : Move (released since) true reported (some .doublePress)
  | short {since : UInt32} : Move (released since) false idle (some .shortPress)
  | again {since now : UInt32} : Move (released since) true (settling now) (some .shortPress)
  | stay : Move reported true reported none
  | leave : Move reported false idle none

/-- Every sample is one of these moves. -/
theorem move_sample (phase : Phase) (now : UInt32) (pressed : Bool) :
    Move phase pressed (phase.sample now pressed).1 (phase.sample now pressed).2 := by
  cases phase with
  | idle => cases pressed with
    | false => exact .rest
    | true => exact .press
  | settling since => cases pressed with
    | false => exact .bounce
    | true =>
      simp only [sample, Bool.not_true, Bool.false_eq_true, ↓reduceIte]
      split
      · exact .count
      · exact .settle
  | held since => cases pressed with
    | false => exact .release
    | true =>
      simp only [sample, Bool.not_true, Bool.false_eq_true, ↓reduceIte]
      split
      · exact .long
      · exact .hold
  | released since =>
    simp only [sample]
    split
    · cases pressed with
      | false => exact .short
      | true => exact .again
    · cases pressed with
      | false => exact .await
      | true => exact .double
  | reported => cases pressed with
    | false => exact .leave
    | true => exact .stay

namespace Move

variable {phase next : Phase} {pressed : Bool} {report : Option Gesture} {begun : List Nat}

/-- A phase knows the level of the sample that led to it. -/
theorem isDown_eq (move : Move phase pressed next report) : next.isDown = pressed := by
  cases move <;> rfl

/-- Only while a press is open a gesture is completed. -/
theorem isOpen_of_report {gesture : Gesture} (move : Move phase pressed next (some gesture)) :
    phase.isOpen := by
  cases move <;> rfl

/-- An open press was open before the sample, or it begins with it. -/
theorem begun_of_isOpen (move : Move phase pressed next report)
    (nonempty : phase.isOpen → begun ≠ []) (place : Nat) (opened : next.isOpen) :
    begun ++ phase.begins pressed place ≠ [] := by
  cases move <;> simp_all [isOpen, begins, isDown]

/-- What a sample is charged to and what it leaves uncharged was uncharged before it, or begins with
it. -/
theorem charges (move : Move phase pressed next report) (begun : List Nat) (place : Nat) :
    (report.elim [] (charge begun place) ++
      next.uncharged (begun ++ phase.begins pressed place)).Sublist
        (phase.uncharged begun ++ phase.begins pressed place) := by
  cases move <;> simp [charge, uncharged, begins, isOpen, isDown]

end Move

/-- The phase after samples of a new button. -/
def after (samples : List (UInt32 × Bool)) : Phase := (idle.samples samples).1

end Phase

/-! ### Samples in turn -/

section

variable {β : Type} {items : List (UInt32 × Bool) → List β} (empty : items [] = [])
  (grows : ∀ earlier last, ∃ item, items (earlier ++ [last]) = items earlier ++ [item])

include empty grows

/-- A list that grows by an item with every sample has an item for each. -/
theorem length_of_grows (samples : List (UInt32 × Bool)) :
    (items samples).length = samples.length := by
  induction samples using List.reverseRecOn with
  | nil =>
    rw [empty]
    rfl
  | append_singleton earlier last ih =>
    obtain ⟨item, grown⟩ := grows earlier last
    rw [grown, List.length_append, List.length_append, ih]
    rfl

/-- Its first items are those of the first samples. -/
theorem take_of_grows (samples : List (UInt32 × Bool)) (count : Nat) :
    items (samples.take count) = (items samples).take count := by
  have length := length_of_grows empty grows
  induction samples using List.reverseRecOn with
  | nil => rw [List.take_nil, empty, List.take_nil]
  | append_singleton earlier last ih =>
    rcases Nat.lt_or_ge earlier.length count with beyond | within
    · have all : (earlier ++ [last]).length ≤ count := by
        rw [List.length_append]
        exact beyond
      rw [List.take_of_length_le all, List.take_of_length_le ((length _).symm ▸ all)]
    · obtain ⟨item, grown⟩ := grows earlier last
      rw [grown, List.take_append_of_le_length within,
        List.take_append_of_le_length ((length earlier).symm ▸ within), ih]

end

section

variable (samples : List (UInt32 × Bool)) (now : UInt32) (pressed : Bool)

/-- One more sample leads on from the phase after the others. -/
theorem after_append : Phase.after (samples ++ [(now, pressed)]) =
    ((Phase.after samples).sample now pressed).1 := by
  rw [Phase.after, Phase.samples_append]
  rfl

/-- One more sample completes what it does in the phase after the others. -/
theorem completed_append : completed (samples ++ [(now, pressed)]) =
    completed samples ++ [((Phase.after samples).sample now pressed).2] := by
  rw [completed, Phase.samples_append, List.map_append]
  rfl

/-- Every sample completes something or nothing. -/
theorem length_completed : (completed samples).length = samples.length :=
  length_of_grows rfl (fun earlier last => ⟨_, completed_append earlier last.1 last.2⟩) samples

/-- One more sample is charged to presses that began before it or begin with it; what the others
are charged to stays. -/
theorem charges_append : charges (samples ++ [(now, pressed)]) = charges samples ++
    [((Phase.after samples).sample now pressed).2.elim []
      (charge (beginnings samples) samples.length)] := by
  rw [charges, completed_append, List.zipIdx_append, List.map_append, charges]
  congr 1
  · refine List.map_congr_left fun ⟨report, place⟩ member => ?_
    have before : place < samples.length := by
      have bound := List.snd_lt_of_mem_zipIdx member
      rw [length_completed] at bound
      omega
    have same : (samples ++ [(now, pressed)]).take place = samples.take place :=
      List.take_append_of_le_length (Nat.le_of_lt before)
    simp only [same]
  · simp [length_completed]

/-- A new button counts as released before its first sample. -/
theorem isDown_after : (Phase.after samples).isDown = samples.getLast?.any Prod.snd := by
  induction samples using List.reverseRecOn with
  | nil => rfl
  | append_singleton earlier last =>
    rw [after_append, (Phase.move_sample _ _ _).isDown_eq, List.getLast?_concat]
    rfl

/-- A press begins with one more sample if the phase after the others is of the released button;
the presses that began with the others stay. -/
theorem beginnings_append : beginnings (samples ++ [(now, pressed)]) =
    beginnings samples ++ (Phase.after samples).begins pressed samples.length := by
  have earlier : (List.range samples.length).filter (beginsAt (samples ++ [(now, pressed)])) =
      beginnings samples := by
    refine List.filter_congr fun place member => ?_
    have before := List.mem_range.mp member
    have same (other : Nat) (le : other ≤ place) :
        isDownAt (samples ++ [(now, pressed)]) other = isDownAt samples other := by
      rw [isDownAt, isDownAt, List.getElem?_append_left (by omega)]
    rw [beginsAt, beginsAt, same place le_rfl, same (place - 1) (Nat.sub_le _ _)]
  have last : beginsAt (samples ++ [(now, pressed)]) samples.length =
      (pressed && !(Phase.after samples).isDown) := by
    rw [beginsAt, isDownAt, List.getElem?_concat_length, isDown_after, List.getLast?_eq_getElem?]
    rcases Nat.eq_zero_or_pos samples.length with zero | positive
    · rw [zero, List.eq_nil_of_length_eq_zero zero]
      rfl
    · rw [isDownAt, List.getElem?_append_left (by omega), beq_false_of_ne (by omega)]
      rfl
  rw [beginnings, List.length_append, List.length_singleton, List.range_succ, List.filter_append,
    earlier, List.filter_cons, last]
  rfl

end

/-- What samples are charged to stands in the account of those that follow. -/
theorem charges_take (samples : List (UInt32 × Bool)) (count : Nat) :
    charges (samples.take count) = (charges samples).take count :=
  take_of_grows rfl (fun earlier last => ⟨_, charges_append earlier last.1 last.2⟩) samples count

/-- Later samples change nothing of what was completed. -/
theorem completed_take (samples : List (UInt32 × Bool)) (count : Nat) :
    completed (samples.take count) = (completed samples).take count :=
  take_of_grows rfl (fun earlier last => ⟨_, completed_append earlier last.1 last.2⟩) samples count

/-! ### The account -/

/-- An account of samples: every gesture is charged to as many presses as it is made of, and the
presses that were charged, with the one that is still open, are among those that began, each of them
once and in their order. -/
structure Balances (samples : List (UInt32 × Bool)) : Prop where
  begun : (Phase.after samples).isOpen → beginnings samples ≠ []
  paid : (charges samples).map List.length =
    (completed samples).map fun report => report.elim 0 presses
  own : ((charges samples).flatten ++
    (Phase.after samples).uncharged (beginnings samples)).Sublist (beginnings samples)

/-- One more sample keeps the account. -/
theorem Balances.sample {samples : List (UInt32 × Bool)} (balances : Balances samples)
    (now : UInt32) (pressed : Bool) : Balances (samples ++ [(now, pressed)]) := by
  have move := (Phase.after samples).move_sample now pressed
  refine ⟨fun opened => ?_, ?_, ?_⟩
  · rw [after_append] at opened
    rw [beginnings_append]
    exact move.begun_of_isOpen balances.begun samples.length opened
  · rw [charges_append, completed_append, List.map_append, List.map_append, balances.paid]
    generalize ((Phase.after samples).sample now pressed).2 = report at move
    cases report with
    | none => rfl
    | some gesture =>
      have nonempty := balances.begun move.isOpen_of_report
      rw [List.map_singleton, Option.elim_some, length_charge nonempty]
      rfl
  · have step := move.charges (beginnings samples) samples.length
    rw [charges_append, after_append, beginnings_append, List.flatten_append,
      List.flatten_singleton, List.append_assoc]
    refine (step.append_left _).trans ?_
    rw [← List.append_assoc]
    exact balances.own.append_right _

/-- The account of samples in turn is in order. -/
theorem balances (samples : List (UInt32 × Bool)) : Balances samples := by
  induction samples using List.reverseRecOn with
  | nil => exact ⟨nofun, rfl, .slnil⟩
  | append_singleton earlier last ih => exact ih.sample last.1 last.2

/-- A press is charged no more often than it stands among the charges. -/
theorem countP_mem_le_count (start : Nat) (charges : List (List Nat)) :
    charges.countP (start ∈ ·) ≤ charges.flatten.count start := by
  induction charges with
  | nil => exact le_rfl
  | cons first rest ih =>
    rw [List.flatten_cons, List.count_append, List.countP_cons]
    by_cases member : start ∈ first
    · have charged := List.count_pos_iff.mpr member
      simp only [member, decide_true, if_true]
      omega
    · simp only [member, decide_false, Bool.false_eq_true, if_false]
      omega

/-- What holds of gestures and presses after every sample: the gestures completed so far are made of
no more presses than began so far, each of them is charged to as many presses as it is made of,
among those that began so far, and no press is charged for two of them. -/
structure Charged (samples : List (UInt32 × Bool)) : Prop where
  bounded : ∀ count,
    ((completed samples).take count).count (some .shortPress) +
      ((completed samples).take count).count (some .longPress) +
      2 * ((completed samples).take count).count (some .doublePress) ≤
        (beginnings (samples.take count)).length
  paid : (charges samples).map List.length =
    (completed samples).map fun report => report.elim 0 presses
  own : ∀ count, ((charges samples).take count).flatten.Sublist (beginnings (samples.take count))
  once : ∀ start, (charges samples).countP (start ∈ ·) ≤ 1

/-- Whatever the readings of the counter are, gestures are paid for by presses, and no press pays
for two. -/
theorem charges_once (samples : List (UInt32 × Bool)) : Charged samples := by
  have own (count : Nat) :
      ((charges samples).take count).flatten.Sublist (beginnings (samples.take count)) := by
    rw [← charges_take]
    exact (List.sublist_append_left _ _).trans (balances _).own
  refine ⟨fun count => ?_, (balances samples).paid, own, fun start => ?_⟩
  · have paid := (balances (samples.take count)).paid
    rw [charges_take, completed_take] at paid
    rw [← length_flatten_of_paid paid]
    exact (own count).length_le
  · have all := own (charges samples).length
    rw [List.take_length] at all
    have distinct := all.nodup (List.nodup_range.filter _)
    exact (countP_mem_le_count start _).trans (List.nodup_iff_count_le_one.mp distinct start)

/-- A short press is reported with the sample that begins the next press, which is then the first of
a double press. -/
example :
    charges [(0, true), (50, true), (100, false), (401, true), (451, true), (500, false),
      (600, true)] = [[], [], [], [0], [], [], [3, 6]] := by
  decide

end Overseer.Gesture
