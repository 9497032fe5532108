import RowMapper.Session

/-!
# Runs of operations that may fail

Operations run on a state and may fail, and what a failing one did up to that point stays done. Two
properties are carried through such runs step by step. `Leaves` says that a part of the state never
changes. `Establishes` says what holds after a run, for each of its two ends; what one step
establishes is what the next one may rely on.
-/

namespace RowMapper

variable {ε σ α β γ : Type}

/-- How one operation runs after another: on what the first answers, unless that failed. -/
theorem bind_apply (first : ExceptT ε (StateM σ) α) (second : α → ExceptT ε (StateM σ) β)
    (state : σ) :
    (first >>= second) state =
      match first state with
      | (.ok answer, next) => second answer next
      | (.error fault, next) => (.error fault, next) := by
  have opened : (first >>= second) state =
      ExceptT.bindCont second (first state).1 (first state).2 := rfl
  rw [opened]
  rcases first state with ⟨fault | answer, next⟩
  · rfl
  · rfl

/-- Behind an operation that answers the next one runs on the answer. -/
theorem bind_of_ok {first : ExceptT ε (StateM σ) α} {second : α → ExceptT ε (StateM σ) β}
    {state next : σ} {answer : α} (ran : first state = (.ok answer, next)) :
    (first >>= second) state = second answer next := by
  rw [bind_apply, ran]

/-- Behind an operation that fails nothing runs. -/
theorem bind_of_error {first : ExceptT ε (StateM σ) α} {second : α → ExceptT ε (StateM σ) β}
    {state next : σ} {fault : ε} (ran : first state = (.error fault, next)) :
    (first >>= second) state = (.error fault, next) := by
  rw [bind_apply, ran]

/-- A part of the state that an operation leaves as it is. -/
def Leaves (view : σ → γ) (act : ExceptT ε (StateM σ) α) : Prop :=
  ∀ state, view (act state).2 = view state

namespace Leaves

variable {view : σ → γ}

theorem pure (answer : α) : Leaves view (pure answer : ExceptT ε (StateM σ) α) :=
  fun _ => rfl

theorem throw (fault : ε) : Leaves view (throw fault : ExceptT ε (StateM σ) α) :=
  fun _ => rfl

theorem bind {first : ExceptT ε (StateM σ) α} {second : α → ExceptT ε (StateM σ) β}
    (head : Leaves view first) (rest : ∀ answer, Leaves view (second answer)) :
    Leaves view (first >>= second) := by
  intro state
  have step := head state
  rw [bind_apply]
  cases ran : first state with
  | mk result next =>
      rw [ran] at step
      cases result with
      | error fault => exact step
      | ok answer => exact (rest answer next).trans step

end Leaves

/-- Whether every run from a state that meets `before` ends in one that meets `after` together with
the answer or, if it fails, in one that meets `failed`. -/
def Establishes (before : σ → Prop) (act : ExceptT ε (StateM σ) α) (after : α → σ → Prop)
    (failed : σ → Prop) : Prop :=
  ∀ state, before state →
    match act state with
    | (.ok answer, next) => after answer next
    | (.error _, next) => failed next

namespace Establishes

variable {before : σ → Prop} {after : α → σ → Prop} {failed : σ → Prop}

theorem pure {answer : α} (holds : ∀ state, before state → after answer state) :
    Establishes before (pure answer : ExceptT ε (StateM σ) α) after failed :=
  holds

theorem throw {fault : ε} (holds : ∀ state, before state → failed state) :
    Establishes before (throw fault : ExceptT ε (StateM σ) α) after failed :=
  holds

theorem bind {first : ExceptT ε (StateM σ) α} {second : α → ExceptT ε (StateM σ) β}
    {later : β → σ → Prop} (head : Establishes before first after failed)
    (rest : ∀ answer, Establishes (after answer) (second answer) later failed) :
    Establishes before (first >>= second) later failed := by
  intro state holds
  have step := head state holds
  rw [bind_apply]
  rcases ran : first state with ⟨fault | answer, next⟩
  · rw [ran] at step
    exact step
  · rw [ran] at step
    exact rest answer next step

/-- What is established for each answer that a fact about the start allows. -/
theorem assuming {fact : Prop} {act : ExceptT ε (StateM σ) α}
    (holds : fact → Establishes before act after failed) :
    Establishes (fun state => fact ∧ before state) act after failed :=
  fun state both => holds both.1 state both.2

/-- Both ends of a run as they bear on the state alone. -/
theorem of_run {act : ExceptT ε (StateM σ) α} {property : σ → Prop}
    (holds : Establishes before act (fun _ => property) property) {state : σ}
    (start : before state) : property (act state).2 := by
  have ends := holds state start
  rcases ran : act state with ⟨fault | answer, next⟩
  · rw [ran] at ends
    exact ends
  · rw [ran] at ends
    exact ends

end Establishes

end RowMapper
