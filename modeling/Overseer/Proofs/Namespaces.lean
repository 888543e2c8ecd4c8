import Mathlib.Data.List.Induction
import Overseer.Flash

/-!
# Namespaces

A blob is put at a place, a key in a namespace, and is found by one name that joins the two by
`::`. Subsystems with namespaces of their own are isolated if a place shows what was last done to
that place, whatever was done elsewhere (`Flash.Isolates`). The joined name does not tell where its
parts meet: two different places have one name exactly if the name can be cut at two of its
separators (`Place.Shadows`, `Place.name_eq_iff`). So the places in use are isolated exactly if none
of them shadows another (`Flash.isolates_iff`), and namespaces without a colon never do.
-/
namespace Overseer

/-! ### Places and their names -/

/-- Where a blob is put: a key in a namespace. -/
@[ext]
structure Place where
  /-- The namespace. -/
  space : String
  /-- The key. -/
  key : String
deriving DecidableEq, Repr

namespace Place

/-- The name that the blob of a place is found by. -/
def name (place : Place) : String := Flash.joinedName place.space place.key

/-- A place shadows another if both have one name, which the first cuts at an earlier separator than
the other: the two separators share a colon, or one stands after the other. -/
inductive Shadows : Place → Place → Prop where
  | overlapping (space key : String) : Shadows ⟨space, ":" ++ key⟩ ⟨space ++ ":", key⟩
  | apart (space between key : String) :
      Shadows ⟨space, between ++ "::" ++ key⟩ ⟨space ++ "::" ++ between, key⟩

/-- The characters of a place's name. -/
theorem toList_name (place : Place) :
    place.name.toList = place.space.toList ++ ':' :: ':' :: place.key.toList := by
  simp [name, Flash.joinedName]

/-- A place that shadows another has its name. -/
theorem Shadows.name_eq {one other : Place} (shadows : one.Shadows other) :
    one.name = other.name := by
  apply String.toList_injective
  rw [toList_name, toList_name]
  cases shadows with
  | overlapping space key => simp
  | apart space between key => simp

/-- A place that shadows another is another place. -/
theorem Shadows.ne {one other : Place} (shadows : one.Shadows other) : one ≠ other := by
  intro same
  have spaces := congrArg (fun place => place.space.toList.length) same
  cases shadows with
  | overlapping space key => simp at spaces
  | apart space between key => simp at spaces

/-- If one name is cut at two separators, with characters between the beginnings of the two, the
first cut shadows the second. -/
theorem shadows_of_cuts {one other : Place} {between : List Char} (later : between ≠ [])
    (space : other.space.toList = one.space.toList ++ between)
    (rest : ':' :: ':' :: one.key.toList = between ++ ':' :: ':' :: other.key.toList) :
    one.Shadows other := by
  obtain ⟨first, start⟩ := one
  obtain ⟨second, key⟩ := other
  match between with
  | [] => contradiction
  | [colon] =>
    obtain ⟨rfl, -, start_eq⟩ : colon = ':' ∧ True ∧ start.toList = ':' :: key.toList := by
      simpa [eq_comm] using rest
    obtain rfl : start = ":" ++ key := String.toList_injective (by simpa using start_eq)
    obtain rfl : second = first ++ ":" := String.toList_injective (by simpa using space)
    exact .overlapping first key
  | colon :: next :: between =>
    obtain ⟨rfl, rfl, start_eq⟩ : colon = ':' ∧ next = ':' ∧
        start.toList = between ++ ':' :: ':' :: key.toList := by
      simpa [eq_comm] using rest
    obtain rfl : start = String.ofList between ++ "::" ++ key :=
      String.toList_injective (by simpa using start_eq)
    obtain rfl : second = first ++ "::" ++ String.ofList between :=
      String.toList_injective (by simpa using space)
    exact .apart first (String.ofList between) key

/-- If one name is cut twice, no later the first time than the second, the two cuts are the same or
the first shadows the second. -/
theorem eq_or_shadows_of_cuts {one other : Place} {between : List Char}
    (space : other.space.toList = one.space.toList ++ between)
    (rest : ':' :: ':' :: one.key.toList = between ++ ':' :: ':' :: other.key.toList) :
    one = other ∨ one.Shadows other := by
  by_cases later : between = []
  · subst later
    simp only [List.append_nil, String.toList_inj] at space
    simp only [List.nil_append, List.cons.injEq, true_and, String.toList_inj] at rest
    exact .inl (Place.ext space.symm rest)
  · exact .inr (shadows_of_cuts later space rest)

/-- Two places have one name exactly if they are the same or one shadows the other. -/
theorem name_eq_iff (one other : Place) :
    one.name = other.name ↔ one = other ∨ one.Shadows other ∨ other.Shadows one := by
  constructor
  · intro same
    have cuts := congrArg String.toList same
    rw [toList_name, toList_name, List.append_eq_append_iff] at cuts
    -- Of the two namespaces, one begins with the other.
    rcases cuts with ⟨between, space, rest⟩ | ⟨between, space, rest⟩
    · rcases eq_or_shadows_of_cuts space rest with equal | shadows
      · exact .inl equal
      · exact .inr (.inl shadows)
    · rcases eq_or_shadows_of_cuts space rest with equal | shadows
      · exact .inl equal.symm
      · exact .inr (.inr shadows)
  · rintro (rfl | shadows | shadows)
    · rfl
    · exact shadows.name_eq
    · exact shadows.name_eq.symm

end Place

/-! ### What is done at places -/

/-- What may be asked of flash at a place. -/
inductive Access where
  | write (place : Place) (blob : List UInt8)
  | delete (place : Place)
  | read (place : Place) (buffer : List UInt8)
  | holds (place : Place)
deriving DecidableEq, Repr

/-- What flash says to it. -/
inductive Reply where
  | done
  | filled (result : Except StorageError (Nat × List UInt8))
  | held (answer : Bool)
deriving DecidableEq

namespace Access

/-- The place that is accessed. -/
def place : Access → Place
  | .write place _ | .delete place | .read place _ | .holds place => place

/-- What an access leaves at its place: a blob, nothing, or what was there. -/
def left? : Access → Option (Option (List UInt8))
  | .write _ blob => some (some blob)
  | .delete _ => some none
  | .read _ _ | .holds _ => none

/-- What there is at a place after accesses in turn: what the last write or delete of that very
place left, and nothing if there was none. -/
def leave (accesses : List Access) (place : Place) : Option (List UInt8) :=
  ((accesses.filter fun access => access.place = place).filterMap left?).getLast?.join

/-- What an access should be told, by what there is at its place: a read fills the front of the
buffer with as much of the blob as both have room for. -/
def expected (held : Option (List UInt8)) : Access → Reply
  | .write _ _ | .delete _ => .done
  | .read _ buffer =>
    match held with
    | none => .filled (.error .notFound)
    | some blob =>
      let count := min blob.length buffer.length
      .filled (.ok (count, blob.take count ++ buffer.drop count))
  | .holds _ => .held held.isSome

end Access

namespace Access

/-- Nothing is left at a place by no accesses. -/
@[simp] theorem leave_nil (place : Place) : leave [] place = none := rfl

/-- One more access leaves at its place what it says, and every other place as it was. -/
theorem leave_append_singleton (earlier : List Access) (next : Access) (place : Place) :
    leave (earlier ++ [next]) place =
      if next.place = place then next.left?.getD (leave earlier place)
      else leave earlier place := by
  by_cases here : next.place = place
  · cases left : next.left? with
    | none => simp [leave, here, left]
    | some outcome => simp [leave, here, left]
  · simp [leave, here]

end Access

namespace Flash

/-- What flash says to an access, and flash after it. -/
def access (flash : Flash) : Access → Reply × Flash
  | .write place blob => (.done, flash.write place.space place.key blob)
  | .delete place => (.done, flash.delete place.space place.key)
  | .read place buffer => (.filled (flash.read place.space place.key buffer), flash)
  | .holds place => (.held (flash.holds place.space place.key), flash)

/-- Flash after accesses in turn. -/
def afterAll (flash : Flash) (accesses : List Access) : Flash :=
  accesses.foldl (fun between next => (between.access next).2) flash

/-- Flash isolates the places in use: whatever was done at them since it was empty, each shows what
was last done to it. -/
def Isolates (used : Place → Prop) : Prop :=
  ∀ (earlier : List Access) (next : Access),
    (∀ access ∈ earlier, used access.place) → used next.place →
      ((({} : Flash).afterAll earlier).access next).1 =
        next.expected (Access.leave earlier next.place)

/-- One more access is made last. -/
theorem afterAll_append_singleton (flash : Flash) (earlier : List Access) (next : Access) :
    flash.afterAll (earlier ++ [next]) = ((flash.afterAll earlier).access next).2 := by
  simp [afterAll]

/-- An access is told what it should be by what its name finds. -/
theorem access_reply (flash : Flash) (next : Access) :
    (flash.access next).1 = next.expected (flash.blob? next.place.name) := by
  cases next with
  | write place blob => rfl
  | delete place => rfl
  | holds place => rfl
  | read place buffer =>
    simp only [access, read, Access.expected, Access.place, Place.name]
    cases flash.blob? (joinedName place.space place.key) with
    | none => rfl
    | some blob =>
      have count : (blob.take buffer.length).length = min blob.length buffer.length := by
        rw [List.length_take, Nat.min_comm]
      have cut : blob.take buffer.length = blob.take (min blob.length buffer.length) := by
        rw [Nat.min_comm, ← List.take_eq_take_min]
      simp only [count]
      rw [cut]

/-- An access changes what its own name finds, and no other. -/
theorem blob?_access (flash : Flash) (next : Access) (name : String) :
    (flash.access next).2.blob? name =
      if next.place.name = name then next.left?.getD (flash.blob? name)
      else flash.blob? name := by
  cases next with
  | write place blob => exact flash.blob?_write place.space place.key name blob
  | delete place => exact flash.blob?_delete place.space place.key name
  | read place buffer => exact (ite_self _).symm
  | holds place => exact (ite_self _).symm

section

variable {used : Place → Prop}
  (clear : ∀ one other, used one → used other → ¬one.Shadows other)

include clear

/-- Places in use have one name only if they are the same, if none shadows another. -/
theorem name_inj_of_clear {one other : Place} (first : used one) (second : used other) :
    one.name = other.name ↔ one = other := by
  constructor
  · intro same
    rcases (one.name_eq_iff other).mp same with equal | shadows | shadows
    · exact equal
    · exact absurd shadows (clear one other first second)
    · exact absurd shadows (clear other one second first)
  · exact congrArg Place.name

/-- If no place in use shadows another, each finds what was last left there. -/
theorem blob?_afterAll {accesses : List Access}
    (within : ∀ access ∈ accesses, used access.place) {place : Place} (here : used place) :
    (({} : Flash).afterAll accesses).blob? place.name = Access.leave accesses place := by
  induction accesses using List.reverseRecOn with
  | nil => rfl
  | append_singleton earlier next ih =>
    have first : used next.place := within next (by simp)
    have found := ih fun access listed => within access (List.mem_append_left _ listed)
    rw [afterAll_append_singleton, blob?_access, found, Access.leave_append_singleton,
      if_congr (name_inj_of_clear clear first here) rfl rfl]

end

/-- The places in use are isolated exactly if none of them shadows another. -/
theorem isolates_iff (used : Place → Prop) :
    Isolates used ↔ ∀ one other, used one → used other → ¬one.Shadows other := by
  constructor
  · intro isolates one other first second shadows
    -- What is put at the one place is found at the other.
    have within : ∀ access ∈ [Access.write one []], used access.place :=
      List.forall_mem_singleton.mpr first
    have shown := isolates [.write one []] (.holds other) within second
    have nothing : Access.leave [.write one []] other = none := by
      simp [Access.leave, Access.place, shadows.ne]
    have found : (({} : Flash).afterAll [.write one []]).blob? other.name = some [] := by
      simp [afterAll, blob?_access, Access.place, Access.left?, shadows.name_eq]
    rw [access_reply, Access.place, found, nothing] at shown
    simp [Access.expected] at shown
  · intro clear earlier next within here
    rw [access_reply, blob?_afterAll clear within here]

/-- Namespaces without a colon are isolated. -/
theorem isolates_of_no_colon : Isolates fun place => ':' ∉ place.space.toList := by
  rw [isolates_iff]
  intro one other first second shadows
  cases shadows with
  | overlapping space key => simp at second
  | apart space between key => simp at second

/-- Arbitrary namespaces and keys are not: what is put under `b::c` in `a` is read under `c` in
`a::b`, where nothing was put. -/
theorem read_shadowed :
    ((({} : Flash).afterAll [.write ⟨"a", "b::c"⟩ [1]]).access (.read ⟨"a::b", "c"⟩ [0])).1 ≠
      (Access.read ⟨"a::b", "c"⟩ [0]).expected
        (Access.leave [.write ⟨"a", "b::c"⟩ [1]] ⟨"a::b", "c"⟩) := by
  decide

end Flash

end Overseer
