import Mathlib.Logic.Relation
import Mathlib.Order.Nat

/-!
# Runs of a machine

Finite runs whose steps meet a condition, and endless runs that are fair to an action.
-/

/-! ## Runs of a state machine whose steps meet a condition -/

section

variable {σ α : Type*}

inductive GuardedRun (step : σ → α → Option σ) (allowed : σ → α → Prop)
    (start : σ) : σ → Prop where
  | refl : GuardedRun step allowed start start
  | tail {before after : σ} : GuardedRun step allowed start before → (action : α) →
      allowed before action → step before action = some after →
      GuardedRun step allowed start after

def runActions (step : σ → α → Option σ) : σ → List α → Option σ
  | state, [] => some state
  | state, action :: rest =>
    (step state action).bind fun next => runActions step next rest

namespace GuardedRun

variable {step : σ → α → Option σ} {allowed allowed' : σ → α → Prop}
variable {start middle last : σ}

theorem trans (first : GuardedRun step allowed start middle)
    (second : GuardedRun step allowed middle last) : GuardedRun step allowed start last := by
  induction second with
  | refl => exact first
  | tail _ action allowedStep stepTo ih => exact ih.tail action allowedStep stepTo

/-- A stronger condition leaves fewer runs. -/
theorem mono (weaker : ∀ state action, allowed state action → allowed' state action)
    (run : GuardedRun step allowed start last) : GuardedRun step allowed' start last := by
  induction run with
  | refl => exact .refl
  | tail _ action allowedStep stepTo ih =>
    exact ih.tail action (weaker _ _ allowedStep) stepTo

theorem invariant (Inv : σ → Prop) (holds : Inv start)
    (keeps : ∀ before after action, Inv before → allowed before action →
      step before action = some after → Inv after)
    (run : GuardedRun step allowed start last) : Inv last := by
  induction run with
  | refl => exact holds
  | tail _ action allowedStep stepTo ih => exact keeps _ _ action ih allowedStep stepTo

theorem of_runActions {actions : List α} (everywhere : ∀ state action, allowed state action)
    (runs : runActions step start actions = some last) : GuardedRun step allowed start last := by
  induction actions generalizing start with
  | nil => exact Option.some.inj runs ▸ .refl
  | cons action rest ih =>
    obtain ⟨next, stepTo, restRuns⟩ := Option.bind_eq_some_iff.mp runs
    exact (GuardedRun.refl.tail action (everywhere _ _) stepTo).trans (ih restRuns)

theorem of_checkedActions {check : σ → α → Bool}
    (sound : ∀ state action, check state action = true → allowed state action) {actions : List α}
    (runs : runActions (fun state action => if check state action then step state action else none)
      start actions = some last) : GuardedRun step allowed start last := by
  induction actions generalizing start with
  | nil => exact Option.some.inj runs ▸ .refl
  | cons action rest ih =>
    obtain ⟨next, checkedStep, restRuns⟩ := Option.bind_eq_some_iff.mp runs
    dsimp only at checkedStep
    split at checkedStep
    · next checked =>
      exact (GuardedRun.refl.tail action (sound _ _ checked) checkedStep).trans (ih restRuns)
    · cases checkedStep

end GuardedRun

end

/-! ## Endless runs and fairness -/

section

variable {σ α : Type*}

structure EndlessRun (step : σ → α → Option σ) where
  states : Nat → σ
  actions : Nat → Option α
  rests : ∀ time, actions time = none → states (time + 1) = states time
  follows : ∀ time action, actions time = some action →
    step (states time) action = some (states (time + 1))

namespace EndlessRun

variable {step : σ → α → Option σ} {run : EndlessRun step} {action : α} {start : Nat}

/-- An action that stays possible is taken. -/
def FairTo (run : EndlessRun step) (action : α) : Prop :=
  ∀ time, (∀ later ≥ time, (step (run.states later) action).isSome) →
    ∃ later ≥ time, run.actions later = some action

/-- What every step and every rest keeps, between two times. -/
theorem kept_until (Inv : σ → Prop)
    (kept : ∀ time ≥ start, Inv (run.states time) → Inv (run.states (time + 1)))
    (holds : Inv (run.states start)) : ∀ later ≥ start, Inv (run.states later) := by
  intro later atLeast
  induction later, atLeast using Nat.le_induction with
  | base => exact holds
  | succ time reached ih => exact kept time reached ih

theorem reachable (run : EndlessRun step) (time : Nat) :
    GuardedRun step (fun _ _ => True) (run.states 0) (run.states time) := by
  induction time with
  | zero => exact .refl
  | succ time ih =>
    cases taken : run.actions time with
    | none =>
      rw [run.rests time taken]
      exact ih
    | some action => exact ih.tail action trivial (run.follows time action taken)

/-- A goal is reached when, as long as it is not, a measure becomes smaller. -/
theorem eventually_of_descends (goal : σ → Prop) (measure : σ → Nat)
    (descends : ∀ time ≥ start, ¬ goal (run.states time) → ∃ later ≥ time, goal (run.states later) ∨
        measure (run.states later) < measure (run.states time)) :
    ∃ later ≥ start, goal (run.states later) := by
  have reached : ∀ bound, ∀ time ≥ start, measure (run.states time) ≤ bound →
      ∃ later ≥ start, goal (run.states later) := by
    intro bound
    induction bound with
    | zero =>
      intro time atLeast small
      by_cases done : goal (run.states time)
      · exact ⟨time, atLeast, done⟩
      · obtain ⟨later, afterTime, reached | smaller⟩ := descends time atLeast done
        · exact ⟨later, by omega, reached⟩
        · omega
    | succ bound ih =>
      intro time atLeast small
      by_cases done : goal (run.states time)
      · exact ⟨time, atLeast, done⟩
      · obtain ⟨later, afterTime, reached | smaller⟩ := descends time atLeast done
        · exact ⟨later, by omega, reached⟩
        · exact ih later (by omega) (by omega)
  exact reached _ start le_rfl le_rfl

end EndlessRun

end
