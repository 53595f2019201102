import Mathlib.Logic.Function.Basic

/-!
# Asynchronous programs

Programs that make calls, the threads of a machine that run them, and programs whose calls are
answered in one way.
-/

/-! ## Asynchronous programs over a shared state -/

inductive Program (Call : Type) (Answer : Call → Type) (ε α : Type) where
  | pure (value : α)
  | throw (error : ε)
  | call (request : Call) (next : Except ε (Answer request) → Program Call Answer ε α)

namespace Program

variable {Call : Type} {Answer : Call → Type} {ε α β : Type}

def bind : Program Call Answer ε α → (α → Program Call Answer ε β) → Program Call Answer ε β
  | .pure value, next => next value
  | .throw error, _ => .throw error
  | .call request rest, next => .call request fun answer => (rest answer).bind next

def tryCatch : Program Call Answer ε α → (ε → Program Call Answer ε α) → Program Call Answer ε α
  | .pure value, _ => .pure value
  | .throw error, handler => handler error
  | .call request rest, handler =>
    .call request fun answer => (rest answer).tryCatch handler

instance : Monad (Program Call Answer ε) where
  pure := .pure
  bind := bind

def ofExcept : Except ε α → Program Call Answer ε α
  | .ok value => .pure value
  | .error error => .throw error

def perform (request : Call) : Program Call Answer ε (Answer request) :=
  .call request ofExcept

def attempt (program : Program Call Answer ε α) : Program Call Answer ε (Except ε α) :=
  (program.bind fun value => .pure (.ok value)).tryCatch fun error => .pure (.error error)

def tryFinally (program : Program Call Answer ε α)
    (cleanup : Program Call Answer ε Unit) : Program Call Answer ε α :=
  program.attempt.bind fun outcome => cleanup.bind fun _ => ofExcept outcome

def isDone : Program Call Answer ε α → Bool
  | .call _ _ => false
  | .pure _ | .throw _ => true

def Calls (allowed : Call → Prop) : Program Call Answer ε α → Prop
  | .pure _ | .throw _ => True
  | .call request next => allowed request ∧ ∀ answer, (next answer).Calls allowed

def CallsOnce (allowed once : Call → Prop) : Program Call Answer ε α → Prop
  | .pure _ | .throw _ => True
  | .call request next =>
    (allowed request ∧ ∀ answer, (next answer).CallsOnce allowed once) ∨
    (once request ∧ ∀ answer, (next answer).Calls allowed)

section Calls

variable {allowed once : Call → Prop}

variable {request : Call} {handler : ε → Program Call Answer ε α}
  {cleanup : Program Call Answer ε Unit}

theorem calls_perform (isAllowed : allowed request) :
    (perform request : Program Call Answer ε (Answer request)).Calls allowed := by
  refine ⟨isAllowed, fun answer => ?_⟩
  cases answer <;> trivial

theorem calls_ofExcept (outcome : Except ε α) :
    (ofExcept outcome : Program Call Answer ε α).Calls allowed := by
  cases outcome <;> trivial

variable {program : Program Call Answer ε α} {next : α → Program Call Answer ε β}

theorem Calls.bind (first : program.Calls allowed) (rest : ∀ value, (next value).Calls allowed) :
    (program >>= next).Calls allowed := by
  change (program.bind next).Calls allowed
  induction program with
  | pure value => exact rest value
  | throw error => trivial
  | call request following ih =>
    exact ⟨first.1, fun answer => ih answer (first.2 answer)⟩

theorem Calls.tryCatch (first : program.Calls allowed)
    (handles : ∀ error, (handler error).Calls allowed) :
    (program.tryCatch handler).Calls allowed := by
  induction program with
  | pure value => trivial
  | throw error => exact handles error
  | call request following ih =>
    exact ⟨first.1, fun answer => ih answer (first.2 answer)⟩

theorem Calls.attempt (calls : program.Calls allowed) : program.attempt.Calls allowed := by
  induction program with
  | pure value => trivial
  | throw error => trivial
  | call request following ih =>
    exact ⟨calls.1, fun answer => ih answer (calls.2 answer)⟩

theorem Calls.tryFinally (calls : program.Calls allowed) (cleans : cleanup.Calls allowed) :
    (program.tryFinally cleanup).Calls allowed :=
  calls.attempt.bind fun outcome => cleans.bind fun _ => calls_ofExcept outcome

theorem Calls.callsOnce (calls : program.Calls allowed) : program.CallsOnce allowed once := by
  induction program with
  | pure value => trivial
  | throw error => trivial
  | call request following ih =>
    exact Or.inl ⟨calls.1, fun answer => ih answer (calls.2 answer)⟩

theorem callsOnce_perform (isOnce : once request) :
    (perform request : Program Call Answer ε (Answer request)).CallsOnce allowed once :=
  Or.inr ⟨isOnce, fun answer => calls_ofExcept answer⟩

theorem CallsOnce.bind (first : program.CallsOnce allowed once)
    (rest : ∀ value, (next value).Calls allowed) : (program >>= next).CallsOnce allowed once := by
  change (program.bind next).CallsOnce allowed once
  induction program with
  | pure value => exact (rest value).callsOnce
  | throw error => trivial
  | call request following ih =>
    rcases first with ⟨isAllowed, continues⟩ | ⟨isOnce, continues⟩
    · exact Or.inl ⟨isAllowed, fun answer => ih answer (continues answer)⟩
    · exact Or.inr ⟨isOnce, fun answer => (continues answer).bind rest⟩

theorem Calls.bind_callsOnce (first : program.Calls allowed)
    (rest : ∀ value, (next value).CallsOnce allowed once) :
    (program >>= next).CallsOnce allowed once := by
  change (program.bind next).CallsOnce allowed once
  induction program with
  | pure value => exact rest value
  | throw error => trivial
  | call request following ih =>
    exact Or.inl ⟨first.1, fun answer => ih answer (first.2 answer)⟩

theorem CallsOnce.tryCatch (first : program.CallsOnce allowed once)
    (handles : ∀ error, (handler error).Calls allowed) :
    (program.tryCatch handler).CallsOnce allowed once := by
  induction program with
  | pure value => trivial
  | throw error => exact (handles error).callsOnce
  | call request following ih =>
    rcases first with ⟨isAllowed, continues⟩ | ⟨isOnce, continues⟩
    · exact Or.inl ⟨isAllowed, fun answer => ih answer (continues answer)⟩
    · exact Or.inr ⟨isOnce, fun answer => (continues answer).tryCatch handles⟩

theorem CallsOnce.attempt (calls : program.CallsOnce allowed once) :
    program.attempt.CallsOnce allowed once := by
  induction program with
  | pure value => trivial
  | throw error => trivial
  | call request following ih =>
    rcases calls with ⟨isAllowed, continues⟩ | ⟨isOnce, continues⟩
    · exact Or.inl ⟨isAllowed, fun answer => ih answer (continues answer)⟩
    · exact Or.inr ⟨isOnce, fun answer => (continues answer).attempt⟩

theorem CallsOnce.tryFinally (calls : program.CallsOnce allowed once)
    (cleans : cleanup.Calls allowed) : (program.tryFinally cleanup).CallsOnce allowed once :=
  calls.attempt.bind fun outcome => cleans.bind fun _ => calls_ofExcept outcome

end Calls

end Program

structure Machine (σ Call : Type) (Answer : Call → Type)
    (ε Choice Request Environment : Type) where
  perform : Nat → (request : Call) → Choice → σ → Option (Except ε (Answer request) × σ)
  program : Request → Program Call Answer ε Unit
  environment : Environment → σ → Option σ

structure Pool (σ Call : Type) (Answer : Call → Type) (ε : Type) where
  shared : σ
  threads : Nat → Option (Program Call Answer ε Unit)

/-- One scheduling decision. -/
inductive PoolAction (Choice Request Environment : Type) where
  | start (thread : Nat) (request : Request)
  | perform (thread : Nat) (choice : Choice)
  | environment (event : Environment)

namespace Machine

variable {σ Call : Type} {Answer : Call → Type}
variable {ε Choice Request Environment : Type}

/-- The pool before any thread starts. -/
def initial (shared : σ) : Pool σ Call Answer ε := ⟨shared, fun _ => none⟩

def step (machine : Machine σ Call Answer ε Choice Request Environment)
    (pool : Pool σ Call Answer ε) :
    PoolAction Choice Request Environment → Option (Pool σ Call Answer ε)
  | .start thread request =>
    match pool.threads thread with
    | none => some { pool with
        threads := Function.update pool.threads thread
          (some (machine.program request)) }
    | some _ => none
  | .perform thread choice =>
    match pool.threads thread with
    | some (.call request next) =>
      (machine.perform thread request choice pool.shared).map fun outcome =>
        { shared := outcome.2
          threads := Function.update pool.threads thread
            (some (next outcome.1)) }
    | _ => none
  | .environment event =>
    (machine.environment event pool.shared).map fun shared =>
      { pool with shared }

inductive Reachable (machine : Machine σ Call Answer ε Choice Request Environment)
    (start : σ → Prop) : Pool σ Call Answer ε → Prop where
  | initial {shared : σ} : start shared → Reachable machine start (initial shared)
  | step {pool next : Pool σ Call Answer ε}
      {action : PoolAction Choice Request Environment} :
      Reachable machine start pool → machine.step pool action = some next →
      Reachable machine start next

/-- Perform a list of scheduling decisions in order. -/
def run (machine : Machine σ Call Answer ε Choice Request Environment) :
    Pool σ Call Answer ε → List (PoolAction Choice Request Environment) →
      Option (Pool σ Call Answer ε)
  | pool, [] => some pool
  | pool, action :: rest => (machine.step pool action).bind fun next => run machine next rest

variable {machine : Machine σ Call Answer ε Choice Request Environment} {start : σ → Prop}
  {pool : Pool σ Call Answer ε}

variable {last : Pool σ Call Answer ε} {actions : List (PoolAction Choice Request Environment)}

theorem Reachable.run (reachable : machine.Reachable start pool)
    (runs : machine.run pool actions = some last) : machine.Reachable start last := by
  induction actions generalizing pool with
  | nil => exact Option.some.inj runs ▸ reachable
  | cons action rest ih =>
    obtain ⟨next, stepTo, restRuns⟩ := Option.bind_eq_some_iff.mp runs
    exact ih (reachable.step stepTo) restRuns

theorem Reachable.get_run (reachable : machine.Reachable start pool)
    (actions : List (PoolAction Choice Request Environment))
    (runs : (machine.run pool actions).isSome = true) :
    machine.Reachable start ((machine.run pool actions).get runs) :=
  reachable.run (Option.some_get runs).symm

theorem threads_run {thread : Nat} (runs : machine.run pool actions = some last)
    (absent : pool.threads thread = none)
    (notStarted : ∀ action ∈ actions, ∀ request, action ≠ .start thread request) :
    last.threads thread = none := by
  induction actions generalizing pool with
  | nil => exact Option.some.inj runs ▸ absent
  | cons action rest ih =>
    obtain ⟨next, stepTo, restRuns⟩ := Option.bind_eq_some_iff.mp runs
    refine ih restRuns ?_ fun other mem => notStarted other (List.mem_cons_of_mem _ mem)
    have others := notStarted action List.mem_cons_self
    cases action with
    | start other request =>
      simp only [Machine.step] at stepTo
      split at stepTo
      · cases stepTo
        have isOther : thread ≠ other := fun same => others request (same ▸ rfl)
        exact (Function.update_of_ne isOther _ _).trans absent
      · cases stepTo
    | perform other choice =>
      simp only [Machine.step] at stepTo
      split at stepTo
      · next running =>
        obtain ⟨outcome, -, rfl⟩ := Option.map_eq_some_iff.mp stepTo
        have isOther : thread ≠ other := by
          rintro rfl
          rw [absent] at running
          cases running
        exact (Function.update_of_ne isOther _ _).trans absent
      · cases stepTo
    | environment event =>
      obtain ⟨shared, -, rfl⟩ := Option.map_eq_some_iff.mp stepTo
      exact absent

def execute {α : Type} (machine : Machine σ Call Answer ε Choice Request Environment)
    (thread : Nat) : Program Call Answer ε α → σ → List Choice → Option (Except ε α × σ)
  | .pure value, shared, [] => some (.ok value, shared)
  | .throw error, shared, [] => some (.error error, shared)
  | .call request next, shared, choice :: rest =>
    (machine.perform thread request choice shared).bind fun outcome =>
      execute machine thread (next outcome.1) outcome.2 rest
  | _, _, _ => none

/-- Keep only the steps whose call meets a condition on the state before it. -/
def restrict (machine : Machine σ Call Answer ε Choice Request Environment)
    (condition : Nat → Call → Choice → σ → Bool) :
    Machine σ Call Answer ε Choice Request Environment :=
  { machine with
    perform := fun thread request choice shared =>
      if condition thread request choice shared then
        machine.perform thread request choice shared
      else none }

theorem Reachable.restrict_mono {condition weaker : Nat → Call → Choice → σ → Bool}
    {starts : σ → Prop}
    (implies : ∀ thread request choice shared, condition thread request choice shared = true →
      weaker thread request choice shared = true)
    (startsAlso : ∀ shared, start shared → starts shared)
    (reachable : (machine.restrict condition).Reachable start pool) :
    (machine.restrict weaker).Reachable starts pool := by
  induction reachable with
  | initial started => exact .initial (startsAlso _ started)
  | @step pool next action _ stepTo ih =>
    refine ih.step (?_ : (machine.restrict weaker).step pool action = some next)
    cases action with
    | start thread request => exact stepTo
    | environment event => exact stepTo
    | perform thread choice =>
      simp only [Machine.step, restrict] at stepTo ⊢
      split at stepTo
      · next request rest running =>
        split at stepTo
        · next meets =>
          rw [if_pos (implies thread request choice pool.shared meets)]
          exact stepTo
        · simp at stepTo
      · exact absurd stepTo (by simp)

end Machine

/-! ## Programs whose calls are answered in one way -/

namespace Program

variable {Call σ : Type} {Answer : Call → Type} {ε α β : Type}

def evaluate (answer : (request : Call) → σ → Except ε (Answer request) × σ) :
    Program Call Answer ε α → σ → Except ε α × σ
  | .pure value, state => (.ok value, state)
  | .throw error, state => (.error error, state)
  | .call request next, state =>
    (next (answer request state).1).evaluate answer (answer request state).2

variable {answer : (request : Call) → σ → Except ε (Answer request) × σ} {state middle : σ}
variable {program : Program Call Answer ε α} {next : α → Program Call Answer ε β}

@[simp]
theorem evaluate_ofExcept (outcome : Except ε α) :
    evaluate answer (.ofExcept outcome : Program Call Answer ε α) state = (outcome, state) := by
  cases outcome <;> rfl

@[simp]
theorem evaluate_perform (request : Call) :
    evaluate answer (.perform request : Program Call Answer ε (Answer request)) state =
      answer request state :=
  evaluate_ofExcept _

theorem evaluate_bind_ok {value : α} (first : evaluate answer program state = (.ok value, middle)) :
    evaluate answer (program >>= next) state = evaluate answer (next value) middle := by
  change evaluate answer (program.bind next) state = _
  induction program generalizing state with
  | pure other =>
    cases first
    rfl
  | throw error => cases first
  | call request rest ih => exact ih _ first

theorem evaluate_bind_error {error : ε}
    (first : evaluate answer program state = (.error error, middle)) :
    evaluate answer (program >>= next) state = (.error error, middle) := by
  change evaluate answer (program.bind next) state = _
  induction program generalizing state with
  | pure other => cases first
  | throw other =>
    cases first
    rfl
  | call request rest ih => exact ih _ first

/-- A check in front of a program. -/
@[simp]
theorem evaluate_ofExcept_bind (outcome : Except ε α) :
    evaluate answer (.ofExcept outcome >>= next) state = match outcome with
      | .ok value => evaluate answer (next value) state
      | .error error => (.error error, state) := by
  cases outcome <;> rfl

theorem evaluate_perform_bind {request : Call} (next : Answer request → Program Call Answer ε β) :
    evaluate answer (.perform request >>= next) state = match answer request state with
      | (.ok value, after) => evaluate answer (next value) after
      | (.error error, after) => (.error error, after) := by
  cases answered : answer request state with
  | mk outcome after =>
    cases outcome with
    | ok value => exact evaluate_bind_ok ((evaluate_perform request).trans answered)
    | error error => exact evaluate_bind_error ((evaluate_perform request).trans answered)

@[simp]
theorem evaluate_attempt : evaluate answer program.attempt state =
      (.ok (evaluate answer program state).1, (evaluate answer program state).2) := by
  induction program generalizing state with
  | pure value => rfl
  | throw error => rfl
  | call request rest ih => exact ih _

end Program
