/-!
# Threads

A thread is work that is done in atomic steps on a shared state. What a step leaves to do may depend
on the state it found. Run alone, a thread goes through its steps in order. Run beside others, it
may find the state changed between any two of them: `Reaches` describes every moment of every such
run. What holds of each single step, of the thread's own and of the changes from outside, holds
between any two moments. Where a step needs what earlier ones did, `Assures` says what a thread does
from a state on, given what the others may do.
-/
namespace Overseer

/-- Work on a state that ends with a value. -/
inductive Thread (State : Type) (α : Type) where
  /-- Nothing is left to do. -/
  | done (value : α)
  /-- Change the state; what is left depends on the state before the change. -/
  | step (change : State → State) (rest : State → Thread State α)

namespace Thread

variable {State α β : Type}

/-- Continue after the end of a thread. -/
def bind : Thread State α → (α → Thread State β) → Thread State β
  | .done value, next => next value
  | .step change rest, next => .step change fun state => (rest state).bind next

instance : Monad (Thread State) where
  pure := .done
  bind := bind

@[simp] theorem pure_eq_done (value : α) : (pure value : Thread State α) = .done value := rfl

@[simp] theorem done_bind (value : α) (next : α → Thread State β) :
    (Thread.done value >>= next) = next value := rfl

@[simp] theorem step_bind (change : State → State) (rest : State → Thread State α)
    (next : α → Thread State β) :
    (Thread.step change rest >>= next) = .step change fun state => rest state >>= next := rfl

/-- Threads in a row may be grouped either way. -/
theorem bind_assoc {γ : Type} (thread : Thread State α) (first : α → Thread State β)
    (second : β → Thread State γ) :
    (thread >>= first) >>= second = thread >>= fun value => first value >>= second := by
  induction thread with
  | done value => rfl
  | step change rest ih => exact congrArg (Thread.step change) (funext ih)

/-- One step that changes the state. -/
def change (change : State → State) : Thread State Unit := .step change fun _ => .done ()

/-- One step that looks at the state and leaves it alone. -/
def look (value : State → α) : Thread State α := .step id fun state => .done (value state)

/-- Run a thread alone: the value it ends with, and the state after it. -/
def run : Thread State α → State → α × State
  | .done value, state => (value, state)
  | .step change rest, state => (rest state).run (change state)

@[simp] theorem run_done (value : α) (state : State) :
    (Thread.done value : Thread State α).run state = (value, state) := rfl

@[simp] theorem run_step (change : State → State) (rest : State → Thread State α)
    (state : State) : (Thread.step change rest).run state = (rest state).run (change state) := rfl

@[simp] theorem run_change (change : State → State) (state : State) :
    (Thread.change change).run state = ((), change state) := rfl

@[simp] theorem run_look (value : State → α) (state : State) :
    (look value).run state = (value state, state) := rfl

/-- Threads in a row run one after the other. -/
@[simp] theorem run_bind (thread : Thread State α) (next : α → Thread State β) (state : State) :
    (thread >>= next).run state = (next (thread.run state).1).run (thread.run state).2 := by
  induction thread generalizing state with
  | done value => rfl
  | step change rest ih => exact ih state (change state)

/-! ### What holds of each step -/

/-- A relation holds across every step that a thread may come to, in whatever state. -/
def Each (relation : State → State → Prop) : Thread State α → Prop
  | .done _ => True
  | .step change rest => ∀ state, relation state (change state) ∧ (rest state).Each relation

/-- What holds across a change holds across the one step that makes it. -/
theorem each_change {relation : State → State → Prop} {change : State → State}
    (holds : ∀ state, relation state (change state)) :
    (Thread.change change).Each relation := fun state => ⟨holds state, trivial⟩

/-- What holds of a state and itself holds across a look. -/
theorem each_look {relation : State → State → Prop} (refl : ∀ state, relation state state)
    (value : State → α) : (look value).Each relation := fun state => ⟨refl state, trivial⟩

/-- What holds across the steps of two threads holds across those of both in a row. -/
theorem each_bind {relation : State → State → Prop} {thread : Thread State α}
    {next : α → Thread State β} (first : thread.Each relation)
    (second : ∀ value, (next value).Each relation) : (thread >>= next).Each relation := by
  induction thread with
  | done value => exact second value
  | step change rest ih => exact fun state => ⟨(first state).1, ih state (first state).2⟩

/-- What follows from a relation that holds across every step holds across every step. -/
theorem Each.imp {relation weaker : State → State → Prop} {thread : Thread State α}
    (each : thread.Each relation) (follows : ∀ before after, relation before after →
      weaker before after) : thread.Each weaker := by
  induction thread with
  | done value => trivial
  | step change rest ih =>
    exact fun state => ⟨follows _ _ (each state).1, ih state (each state).2⟩

/-- Every value that a thread may end with, in whatever states it finds. -/
def Ends (holds : α → Prop) : Thread State α → Prop
  | .done value => holds value
  | .step _ rest => ∀ state, (rest state).Ends holds

/-- Every thread ends with some value. -/
theorem ends_any (thread : Thread State α) : thread.Ends fun _ => True := by
  induction thread with
  | done value => trivial
  | step change rest ih => exact fun state => ih state

/-- Threads in a row end with what the second one ends with, given what the first one may. -/
theorem Ends.bind {between : α → Prop} {holds : β → Prop} {thread : Thread State α}
    {next : α → Thread State β} (first : thread.Ends between)
    (second : ∀ value, between value → (next value).Ends holds) : (thread >>= next).Ends holds := by
  induction thread with
  | done value => exact second value first
  | step change rest ih => exact fun state => ih state (first state)

/-! ### Beside others -/

/-- The moments of a thread's runs beside others: from what was left to do in a state, what is left
to do in a later one. The others change the state between steps as `outside` allows. -/
inductive Reaches (outside : State → State → Prop) :
    Thread State α → State → Thread State α → State → Prop
  /-- No time has passed. -/
  | here (thread : Thread State α) (state : State) : Reaches outside thread state thread state
  /-- The thread takes a step. -/
  | own {change : State → State} {rest : State → Thread State α} {state after : State}
      {left : Thread State α} (later : Reaches outside (rest state) (change state) left after) :
      Reaches outside (.step change rest) state left after
  /-- Something else changes the state. -/
  | other {thread left : Thread State α} {state changed after : State}
      (allowed : outside state changed) (later : Reaches outside thread changed left after) :
      Reaches outside thread state left after

variable {outside : State → State → Prop}

/-- Running alone is one of the runs beside others. -/
theorem reaches_run (thread : Thread State α) (state : State) :
    Reaches outside thread state (.done (thread.run state).1) (thread.run state).2 := by
  induction thread generalizing state with
  | done value => exact .here _ _
  | step change rest ih => exact .own (ih state (change state))

/-- A run goes on from any of its moments. -/
theorem Reaches.trans {thread between left : Thread State α} {start middle stop : State}
    (earlier : Reaches outside thread start between middle)
    (later : Reaches outside between middle left stop) :
    Reaches outside thread start left stop := by
  induction earlier with
  | here thread state => exact later
  | own _ ih => exact .own (ih later)
  | other allowed _ ih => exact .other allowed (ih later)

/-- A moment of a thread is one of every thread that begins with it. -/
theorem Reaches.before {thread left : Thread State α} {start stop : State}
    (reaches : Reaches outside thread start left stop) (next : α → Thread State β) :
    Reaches outside (thread >>= next) start (left >>= next) stop := by
  induction reaches with
  | here thread state => exact .here _ _
  | own _ ih => exact .own ih
  | other allowed _ ih => exact .other allowed ih

/-- When two threads in a row have ended, the first had ended before the second began. -/
theorem Reaches.split {thread : Thread State α} {next : α → Thread State β} {result : β}
    {start stop : State} (reaches : Reaches outside (thread >>= next) start (.done result) stop) :
    ∃ value middle, Reaches outside thread start (.done value) middle ∧
      Reaches outside (next value) middle (.done result) stop := by
  generalize whole : (thread >>= next) = both at reaches
  generalize final : Thread.done result = ended at reaches
  induction reaches generalizing thread with
  | here left state =>
    cases thread with
    | done value =>
      rw [← whole]
      exact ⟨value, state, .here _ _, .here _ _⟩
    | step change rest =>
      rw [← final] at whole
      cases whole
  | own later ih =>
    cases thread with
    | done value =>
      refine ⟨value, _, .here _ _, ?_⟩
      rw [← done_bind value next, whole]
      exact .own later
    | step change rest =>
      cases whole
      obtain ⟨value, middle, first, second⟩ := ih rfl final
      exact ⟨value, middle, .own first, second⟩
  | other allowed later ih =>
    obtain ⟨value, middle, first, second⟩ := ih whole final
    exact ⟨value, middle, .other allowed first, second⟩

/-- When two threads in a row have ended, there was a moment between them. -/
theorem Reaches.between {thread : Thread State α} {next : α → Thread State β} {result : β}
    {start stop : State} (reaches : Reaches outside (thread >>= next) start (.done result) stop) :
    ∃ value middle, Reaches outside thread start (.done value) middle ∧
      Reaches outside (thread >>= next) start (next value) middle ∧
      Reaches outside (next value) middle (.done result) stop := by
  obtain ⟨value, middle, first, second⟩ := reaches.split
  exact ⟨value, middle, first, first.before next, second⟩

/-- A thread that has ended did so with such a value. -/
theorem Ends.holds {holds : α → Prop} {thread : Thread State α} {value : α} {start stop : State}
    (ends : thread.Ends holds) (reaches : Reaches outside thread start (.done value) stop) :
    holds value := by
  generalize final : Thread.done value = ended at reaches
  induction reaches with
  | here thread state =>
    rw [← final] at ends
    exact ends
  | own _ ih => exact ih (ends _) final
  | other _ _ ih => exact ih ends final

/-- A relation that holds across every step of a thread and every change from outside, and that is
reflexive and transitive, holds between any two moments; it also holds across every step that is
left. -/
theorem Reaches.each {relation : State → State → Prop} {thread left : Thread State α}
    {start stop : State} (reaches : Reaches outside thread start left stop)
    (refl : ∀ state, relation state state)
    (trans : ∀ first second third, relation first second → relation second third →
      relation first third)
    (others : ∀ before after, outside before after → relation before after)
    (each : thread.Each relation) : relation start stop ∧ left.Each relation := by
  induction reaches with
  | here thread state => exact ⟨refl state, each⟩
  | own _ ih =>
    obtain ⟨across, remaining⟩ := ih (each _).2
    exact ⟨trans _ _ _ (each _).1 across, remaining⟩
  | other allowed _ ih =>
    obtain ⟨across, remaining⟩ := ih each
    exact ⟨trans _ _ _ (others _ _ allowed) across, remaining⟩

/-- What a thread that had ended ends with later is the same; only the others changed the state. -/
theorem Reaches.of_done {relation : State → State → Prop} {value result : α} {start stop : State}
    (reaches : Reaches outside (.done value) start (.done result) stop)
    (refl : ∀ state, relation state state)
    (trans : ∀ first second third, relation first second → relation second third →
      relation first third)
    (others : ∀ before after, outside before after → relation before after) :
    value = result ∧ relation start stop := by
  refine ⟨?_, (reaches.each refl trans others trivial).1⟩
  generalize first : Thread.done value = thread at reaches
  generalize final : Thread.done result = ended at reaches
  induction reaches with
  | here thread state =>
    rw [← final] at first
    exact Thread.done.inj first
  | own => contradiction
  | other _ _ ih => exact ih first final

/-- Before a thread takes its first step only the others change the state. -/
theorem Reaches.of_step {relation : State → State → Prop} {change : State → State}
    {rest : State → Thread State α} {result : α} {start stop : State}
    (reaches : Reaches outside (.step change rest) start (.done result) stop)
    (refl : ∀ state, relation state state)
    (trans : ∀ first second third, relation first second → relation second third →
      relation first third)
    (others : ∀ before after, outside before after → relation before after) :
    ∃ found, relation start found ∧
      Reaches outside (rest found) (change found) (.done result) stop := by
  generalize first : Thread.step change rest = thread at reaches
  generalize final : Thread.done result = ended at reaches
  induction reaches with
  | here thread state =>
    rw [← final] at first
    contradiction
  | own later =>
    cases first
    cases final
    exact ⟨_, refl _, later⟩
  | other allowed _ ih =>
    obtain ⟨found, waited, later⟩ := ih first final
    exact ⟨found, trans _ _ _ (others _ _ allowed) waited, later⟩

/-- A thread that has ended took its first step at some moment. -/
theorem Reaches.at_step {change : State → State} {rest : State → Thread State α} {result : α}
    {start stop : State}
    (reaches : Reaches outside (.step change rest) start (.done result) stop) :
    ∃ found, Reaches outside (.step change rest) start (.step change rest) found ∧
      Reaches outside (rest found) (change found) (.done result) stop := by
  let waits (before after : State) : Prop :=
    Reaches outside (.step change rest) before (.step change rest) after
  have trans (first second third : State) (earlier : waits first second)
      (later : waits second third) : waits first third := Reaches.trans earlier later
  have others (before after : State) (allowed : outside before after) : waits before after :=
    .other allowed (.here _ _)
  exact reaches.of_step (fun state => (.here _ state : waits state state)) trans others

/-- A reflexive and transitive relation that holds across every step holds across a run alone. -/
theorem run_each {relation : State → State → Prop} {thread : Thread State α}
    (refl : ∀ state, relation state state)
    (trans : ∀ first second third, relation first second → relation second third →
      relation first third)
    (each : thread.Each relation) (state : State) : relation state (thread.run state).2 := by
  have alone : Reaches (fun _ _ => False) thread state _ _ := reaches_run thread state
  exact (alone.each refl trans (fun _ _ impossible => impossible.elim) each).1

/-! ### Assurances -/

/-- What a thread assures from a state on, as long as the others keep to a relation: its own steps
keep to another one, and when it has ended the outcome holds and goes on to hold. -/
def Assures (others own : State → State → Prop) (outcome : α → State → Prop) :
    Thread State α → State → Prop
  | .done value, state => ∀ later, others state later → outcome value later
  | .step change rest, state => ∀ found, others state found →
    own found (change found) ∧ (rest found).Assures others own outcome (change found)

section

variable {others own : State → State → Prop} {outcome : α → State → Prop}

/-- What is assured is still assured after the others took steps. -/
theorem Assures.later {thread : Thread State α} {state changed : State}
    (assures : thread.Assures others own outcome state)
    (trans : ∀ first second third, others first second → others second third →
      others first third)
    (allowed : others state changed) : thread.Assures others own outcome changed := by
  cases thread with
  | done value => exact fun later further => assures later (trans _ _ _ allowed further)
  | step change rest => exact fun found further => assures found (trans _ _ _ allowed further)

/-- Two threads in a row assure the outcome of the second, if the outcome of the first is enough for
that. -/
theorem Assures.bind {thread : Thread State α} {next : α → Thread State β}
    {final : β → State → Prop} {state : State}
    (first : thread.Assures others own outcome state)
    (refl : ∀ state, others state state)
    (second : ∀ value state, outcome value state →
      (next value).Assures others own final state) :
    (thread >>= next).Assures others own final state := by
  induction thread generalizing state with
  | done value => exact second value state (first state (refl state))
  | step change rest ih =>
    intro found allowed
    obtain ⟨step, remaining⟩ := first found allowed
    exact ⟨step, ih found remaining⟩

/-- What follows from what is assured is assured. -/
theorem Assures.imp {wider : State → State → Prop} {weaker : α → State → Prop}
    {thread : Thread State α} {state : State}
    (assures : thread.Assures others own outcome state)
    (steps : ∀ before after, own before after → wider before after)
    (ends : ∀ value state, outcome value state → weaker value state) :
    thread.Assures others wider weaker state := by
  induction thread generalizing state with
  | done value => exact fun later allowed => ends value later (assures later allowed)
  | step change rest ih =>
    intro found allowed
    obtain ⟨step, remaining⟩ := assures found allowed
    exact ⟨steps _ _ step, ih found remaining⟩

/-- What holds of every value that a thread may end with is part of its outcome. -/
theorem Assures.ends {holds : α → Prop} {thread : Thread State α} {state : State}
    (assures : thread.Assures others own outcome state) (ends : thread.Ends holds) :
    thread.Assures others own (fun value later => holds value ∧ outcome value later) state := by
  induction thread generalizing state with
  | done value => exact fun later allowed => ⟨ends, assures later allowed⟩
  | step change rest ih =>
    intro found allowed
    obtain ⟨step, remaining⟩ := assures found allowed
    exact ⟨step, ih found remaining (ends found)⟩

/-- What holds across every step under a condition that all steps keep is assured where the
condition holds; the condition itself holds in the end. -/
theorem Each.assures {condition : State → Prop} {thread : Thread State α} {state : State}
    (each : thread.Each fun before after => condition before → own before after)
    (kept : ∀ before after, own before after → condition before → condition after)
    (left : ∀ before after, others before after → condition before → condition after)
    (holds : condition state) :
    thread.Assures others own (fun _ later => condition later) state := by
  induction thread generalizing state with
  | done value => exact fun later allowed => left state later allowed holds
  | step change rest ih =>
    intro found allowed
    have before := left state found allowed holds
    have step := (each found).1 before
    exact ⟨step, ih found (each found).2 (kept _ _ step before)⟩

/-- At every moment of a run beside others the thread still assures what it assured at first. -/
theorem Reaches.assures {thread left : Thread State α} {start stop : State}
    (reaches : Reaches outside thread start left stop)
    (refl : ∀ state, others state state)
    (trans : ∀ first second third, others first second → others second third →
      others first third)
    (allowed : ∀ before after, outside before after → others before after)
    (assures : thread.Assures others own outcome start) :
    left.Assures others own outcome stop := by
  induction reaches with
  | here thread state => exact assures
  | own later ih => exact ih (assures _ (refl _)).2
  | other change later ih => exact ih (assures.later trans (allowed _ _ change))

/-- When a thread has ended, its outcome holds. -/
theorem Reaches.ends {thread : Thread State α} {value : α} {start stop : State}
    (reaches : Reaches outside thread start (.done value) stop)
    (refl : ∀ state, others state state)
    (trans : ∀ first second third, others first second → others second third →
      others first third)
    (allowed : ∀ before after, outside before after → others before after)
    (assures : thread.Assures others own outcome start) : outcome value stop := by
  have ended := reaches.assures refl trans allowed assures
  exact ended stop (refl stop)

/-- A reflexive and transitive relation that the others keep to, and that the thread assures for its
own steps, holds between any two moments. -/
theorem Reaches.relates {relation : State → State → Prop} {thread left : Thread State α}
    {start stop : State} (reaches : Reaches outside thread start left stop)
    (refl : ∀ state, relation state state)
    (trans : ∀ first second third, relation first second → relation second third →
      relation first third)
    (allowed : ∀ before after, outside before after → relation before after)
    (assures : thread.Assures relation relation outcome start) : relation start stop := by
  induction reaches with
  | here thread state => exact refl state
  | own later ih =>
    obtain ⟨step, remaining⟩ := assures _ (refl _)
    exact trans _ _ _ step (ih remaining)
  | other change later ih =>
    have waited := allowed _ _ change
    exact trans _ _ _ waited (ih (assures.later trans waited))

end

end Thread

end Overseer
