import LongHub.RecordedCalls
import LongHub.WorkflowEngine

/-!
# Safety of workflow executions

What holds of every history of calls that an execution may have made, whatever its calls answer.
-/

namespace LongHub

open List

namespace BoundedWorkflow

open Device

abbrev WorkflowEvent := Event WorkflowCall.Answer String

def costOf : WorkflowEvent → Option Int
  | ⟨.authorizeAndExecute _, .ok (result : WorkflowStepResult)⟩ => some result.costMicros
  | _ => none

def costs (history : List WorkflowEvent) : List Int := history.filterMap costOf

def isCheck : WorkflowEvent → Bool
  | ⟨.check, _⟩ => true
  | _ => false

def checks (history : List WorkflowEvent) : Nat := history.countP isCheck

def Refuses (context : WorkflowExecutionContext) : WorkflowEvent → Prop
  | ⟨_, .error _⟩ => True
  | ⟨.check, .ok (found : StepCheck)⟩ =>
    found.aborted = true ∨ context.maxDurationMs < found.elapsedMs
  | ⟨.requestConfirmation _, .ok (approved : Bool)⟩ => approved = false
  | _ => False

/-- Within the current step the skill has been described without external write
and confirmed if it asked for it. -/
def Admitted (stepPath skillId : String) (history : List WorkflowEvent) : Prop :=
  ∃ earlier descriptor between,
    history = earlier ++ ⟨.describeSkill skillId, .ok descriptor⟩ :: between ∧
    (∀ event ∈ between, isCheck event = false) ∧
    WorkflowSkillDescriptor.sideEffect descriptor ≠ .externalWrite ∧
    (WorkflowSkillDescriptor.requiresConfirmation descriptor = true →
      ∃ request : ConfirmationRequest, request.stepId = stepPath ∧
        ⟨.requestConfirmation request, .ok true⟩ ∈ between)

structure SafeEvent (context : WorkflowExecutionContext) (before : List WorkflowEvent)
    (event : WorkflowEvent) : Prop where
  notRefused : ∀ earlier ∈ before, ¬ Refuses context earlier
  fewSteps : checks before ≤ 20
  admitted : ∀ request, event.1 = .authorizeAndExecute request →
    Admitted request.stepId request.skillId before

structure SafeHistory (context : WorkflowExecutionContext) (history : List WorkflowEvent) :
    Prop where
  each : Each (SafeEvent context) history
  short : history.length ≤ 6 * checks history
  cost : (costs history).dropLast.sum ≤ context.maxCostMicros

/-- What holds inside a step that may make so many more calls, when so many
steps have started. -/
structure Inside (context : WorkflowExecutionContext) (started room : Nat)
    (history : List WorkflowEvent) : Prop where
  safe : SafeHistory context history
  notRefused : ∀ event ∈ history, ¬ Refuses context event
  steps : checks history = started
  fewSteps : checks history ≤ 20
  room : history.length + room ≤ 6 * checks history

structure Spent (amount : Int) (history : List WorkflowEvent) : Prop where
  nonnegative : ∀ cost ∈ costs history, 0 ≤ cost
  sum_le : (costs history).sum ≤ amount

section Histories

variable {context : WorkflowExecutionContext} {started room : Nat}
variable {history : List WorkflowEvent} {event : WorkflowEvent}

theorem checks_append_of_not (notCheck : isCheck event = false) :
    checks (history ++ [event]) = checks history := by
  simp [checks, countP_append, notCheck]

theorem costs_append_of_none (free : costOf event = none) :
    costs (history ++ [event]) = costs history := by
  simp [costs, filterMap_append, free]

theorem costs_append_of_some {cost : Int} (paid : costOf event = some cost) :
    costs (history ++ [event]) = costs history ++ [cost] := by
  simp [costs, filterMap_append, paid]

theorem Spent.append {amount : Int} (spent : Spent amount history) (free : costOf event = none) :
    Spent amount (history ++ [event]) := by
  have same : costs (history ++ [event]) = costs history := costs_append_of_none free
  exact ⟨by rw [same]; exact spent.nonnegative, by rw [same]; exact spent.sum_le⟩

theorem Inside.safe_append (inside : Inside context started (room + 1) history)
    (notCheck : isCheck event = false)
    (paid : costOf event ≠ none → (costs history).sum ≤ context.maxCostMicros)
    (admitted : ∀ request, event.1 = .authorizeAndExecute request →
      Admitted request.stepId request.skillId history) :
    SafeHistory context (history ++ [event]) := by
  have someRoom := inside.room
  refine ⟨each_append_singleton.mpr ⟨inside.safe.each, inside.notRefused, inside.fewSteps,
    admitted⟩, ?_, ?_⟩
  · rw [checks_append_of_not notCheck, length_append, length_singleton]
    omega
  · cases free : costOf event with
    | none =>
      rw [costs_append_of_none free]
      exact inside.safe.cost
    | some cost =>
      rw [costs_append_of_some free, dropLast_concat]
      exact paid (by simp [free])

theorem Inside.append (inside : Inside context started (room + 1) history)
    (notCheck : isCheck event = false) (goesOn : ¬ Refuses context event)
    (safe : SafeHistory context (history ++ [event])) :
    Inside context started room (history ++ [event]) := by
  have someRoom := inside.room
  refine
    { safe
      notRefused := ?_
      steps := (checks_append_of_not notCheck).trans inside.steps
      fewSteps := (checks_append_of_not notCheck).symm ▸ inside.fewSteps
      room := ?_ }
  · intro other mem
    rcases mem_append.mp mem with old | new
    · exact inside.notRefused other old
    · rw [mem_singleton.mp new]
      exact goesOn
  · rw [checks_append_of_not notCheck, length_append, length_singleton]
    omega

theorem Inside.less {fewer : Nat} (inside : Inside context started room history)
    (le : fewer ≤ room) : Inside context started fewer history := by
  have someRoom := inside.room
  exact { inside with room := by omega }

theorem Admitted.append {stepPath skillId : String} (admitted : Admitted stepPath skillId history)
    (notCheck : isCheck event = false) : Admitted stepPath skillId (history ++ [event]) := by
  obtain ⟨earlier, descriptor, between, rfl, noCheck, noWrite, confirmed⟩ := admitted
  refine ⟨earlier, descriptor, between ++ [event], by simp, ?_, noWrite, ?_⟩
  · intro other mem
    rcases mem_append.mp mem with old | new
    · exact noCheck other old
    · rw [mem_singleton.mp new]
      exact notCheck
  · intro requires
    obtain ⟨request, path, mem⟩ := confirmed requires
    exact ⟨request, path, mem_append_left _ mem⟩

end Histories

section Steps

variable {context : WorkflowExecutionContext} {started room : Nat} {amount : Int}
variable {history : List WorkflowEvent}

theorem keeps_quiet {α : Type} {Done : α → List WorkflowEvent → Prop} {request : WorkflowCall}
    {next : request.Answer → WorkflowProgram α} (inside : Inside context started (room + 1) history)
    (spent : Spent amount history) (notCheck : ∀ answer, isCheck ⟨request, answer⟩ = false)
    (notExecuted : ∀ other, request ≠ .authorizeAndExecute other)
    (answers : ∀ value, SafeHistory context (history ++ [⟨request, .ok value⟩]) →
      (¬ Refuses context ⟨request, .ok value⟩ →
        Inside context started room (history ++ [⟨request, .ok value⟩])) →
      Spent amount (history ++ [⟨request, .ok value⟩]) →
      recorder.Keeps (SafeHistory context) Done (next value) (history ++ [⟨request, .ok value⟩])) :
    recorder.Keeps (SafeHistory context) Done (Engine.ask request >>= next) history := by
  have free (answer : Except String request.Answer) : costOf ⟨request, answer⟩ = none := by
    cases request with
    | authorizeAndExecute other => exact absurd rfl (notExecuted other)
    | _ => rfl
  have safe (answer : Except String request.Answer) :
      SafeHistory context (history ++ [⟨request, answer⟩]) :=
    inside.safe_append (notCheck _) (fun paid => absurd (free answer) paid)
      (fun other same => absurd same (notExecuted other))
  apply keeps_recorded inside.safe (fun error => safe _)
  intro value
  exact answers value (safe _) (fun goesOn => inside.append (notCheck _) goesOn (safe _))
    (spent.append (free _))

variable {state : EngineState} {stepPath : String}

theorem keeps_startStep (inside : Inside context state.executedSteps 0 history)
    (spent : Spent amount history) :
    recorder.Keeps (SafeHistory context)
      (fun next after => next = { state with executedSteps := state.executedSteps + 1 } ∧
        Inside context (state.executedSteps + 1) 5 after ∧ Spent amount after)
      (startStep context state) history := by
  have checked (answer : Except String StepCheck) :
      checks (history ++ [⟨.check, answer⟩]) = checks history + 1 := by
    simp [checks, countP_append, isCheck]
  have noCost (answer : Except String StepCheck) :
      costs (history ++ [⟨.check, answer⟩]) = costs history := costs_append_of_none rfl
  have someRoom := inside.room
  have safe (answer : Except String StepCheck) :
      SafeHistory context (history ++ [⟨.check, answer⟩]) := by
    refine ⟨each_append_singleton.mpr ⟨inside.safe.each, inside.notRefused, inside.fewSteps,
      fun _ differ => by cases differ⟩, ?_, ?_⟩
    · rw [checked, length_append, length_singleton]
      omega
    · rw [noCost]
      exact inside.safe.cost
  apply keeps_recorded inside.safe (fun error => safe _)
  intro found
  split_ifs with aborted late many
  · exact keeps_throw (safe _)
  · exact keeps_throw (safe _)
  · exact keeps_throw (safe _)
  · apply keeps_pure (safe _)
    have steps := inside.steps
    refine ⟨rfl, ⟨safe _, ?_, ?_, ?_, ?_⟩, spent.append rfl⟩
    · intro event mem
      rcases mem_append.mp mem with old | new
      · exact inside.notRefused event old
      · rw [mem_singleton.mp new]
        intro refused
        rcases refused with wasAborted | wasLate
        · exact aborted wasAborted
        · exact late wasLate
    · rw [checked, steps]
    · rw [checked]
      omega
    · rw [checked, length_append, length_singleton]
      omega

theorem keeps_confirm {title summary : String} (inside : Inside context started (room + 1) history)
    (spent : Spent amount history) : recorder.Keeps (SafeHistory context)
      (fun _ after => (Inside context started room after ∧ Spent amount after) ∧
        after = history ++ [⟨.requestConfirmation
          ⟨context.runId, stepPath, context.agentId, title, summary⟩, .ok true⟩])
      (confirm context stepPath title summary) history := by
  apply keeps_quiet inside spent (fun _ => rfl) (fun _ differ => by cases differ)
  intro approved safe goesOn stillSpent
  cases approved with
  | false => exact keeps_throw safe
  | true => exact keeps_pure safe ⟨⟨goesOn (fun refused => by cases refused), stillSpent⟩, rfl⟩

theorem keeps_admitSkill {skillId : String} (inside : Inside context started 5 history)
    (spent : Spent amount history) : recorder.Keeps (SafeHistory context)
      (fun _ after => Inside context started 3 after ∧ Spent amount after ∧
        Admitted stepPath skillId after) (admitSkill context stepPath skillId) history := by
  apply keeps_quiet inside spent (fun _ => rfl) (fun _ differ => by cases differ)
  intro descriptor safe goesOn stillSpent
  have described := goesOn fun refused => refused
  by_cases writes : descriptor.sideEffect = .externalWrite
  · rw [if_pos writes]
    exact keeps_throw safe
  rw [if_neg writes]
  by_cases requires : descriptor.requiresConfirmation = true
  · rw [if_pos requires]
    apply (keeps_confirm described stillSpent).mono
    rintro _ after - ⟨⟨confirmed, confirmedSpent⟩, rfl⟩
    refine ⟨confirmed, confirmedSpent, history, descriptor, [_], append_assoc .., ?_,
      writes, fun _ => ?_⟩
    · intro event mem
      rw [mem_singleton.mp mem]
      rfl
    · exact ⟨_, rfl, mem_singleton_self _⟩
  · rw [if_neg requires]
    apply keeps_pure safe
    refine ⟨described.less (by omega), stillSpent, history, descriptor, [], rfl, ?_, writes, ?_⟩
    · intro event mem
      cases mem
    · intro required
      exact absurd required requires

theorem keeps_resultOf {request : ExecutionRequest} (inside : Inside context started 3 history)
    (spent : Spent amount history) (within : amount ≤ context.maxCostMicros)
    (admitted : Admitted request.stepId request.skillId history) :
    recorder.Keeps (SafeHistory context) (fun result after => Inside context started 0 after ∧
        Spent (amount + result.costMicros) after) (resultOf request) history := by
  apply keeps_quiet inside spent (fun _ => rfl) (fun _ differ => by cases differ)
  intro found safe goesOn stillSpent
  have looked := goesOn fun refused => refused
  cases found with
  | some result =>
    apply keeps_pure safe
    have nonnegative := result.nonnegative
    have sum_le := stillSpent.sum_le
    exact ⟨looked.less (by omega), stillSpent.nonnegative, by omega⟩
  | none =>
    have stillAdmitted : Admitted request.stepId request.skillId
        (history ++ [⟨.getCompleted request, .ok none⟩]) := admitted.append rfl
    have executed (answer : Except String WorkflowStepResult) :
        SafeHistory context (history ++ [⟨.getCompleted request, .ok none⟩] ++
          [⟨.authorizeAndExecute request, answer⟩]) := by
      apply looked.safe_append rfl (fun _ => stillSpent.sum_le.trans within)
      intro other same
      cases same
      exact stillAdmitted
    apply keeps_recorded safe (fun error => executed _)
    intro result
    split
    · next accepted =>
      have paid : Spent (amount + result.costMicros)
          (history ++ [⟨.getCompleted request, .ok none⟩] ++
            [⟨.authorizeAndExecute request, .ok result⟩]) := by
        have appended : costs (history ++ [⟨.getCompleted request, .ok none⟩] ++
            [⟨.authorizeAndExecute request, .ok result⟩]) =
            costs (history ++ [⟨.getCompleted request, .ok none⟩]) ++ [result.costMicros] :=
          costs_append_of_some rfl
        have sum_le := stillSpent.sum_le
        refine ⟨?_, ?_⟩
        · intro cost mem
          rw [appended] at mem
          rcases mem_append.mp mem with old | new
          · exact stillSpent.nonnegative cost old
          · rw [mem_singleton.mp new]
            exact accepted.2
        · rw [appended, sum_append]
          simp
          omega
      have executes : ¬ Refuses context ⟨.authorizeAndExecute request, .ok result⟩ :=
        fun refused => refused
      have ran := looked.append rfl executes (executed (.ok result))
      apply keeps_quiet ran paid (fun _ => rfl) (fun _ differ => by cases differ)
      intro done stored storedGoesOn storedPaid
      exact keeps_pure stored ⟨storedGoesOn (fun refused => refused), storedPaid⟩
    · exact keeps_throw (executed _)

/-- What holds between two steps. -/
structure Boundary (context : WorkflowExecutionContext) (state : EngineState)
    (history : List WorkflowEvent) : Prop where
  inside : Inside context state.executedSteps 0 history
  spent : Spent state.costMicros history
  within : state.costMicros ≤ context.maxCostMicros

theorem keeps_runSkill {id skillId : String} {payload : List (String × WorkflowLiteral)}
    (inside : Inside context state.executedSteps 5 history) (spent : Spent state.costMicros history)
    (within : state.costMicros ≤ context.maxCostMicros) :
    recorder.Keeps (SafeHistory context) (Boundary context)
      (runSkill context id stepPath skillId payload state) history := by
  apply Keeps.then (keeps_admitSkill inside spent)
  rintro _ admittedAt - ⟨admittedInside, admittedSpent, admitted⟩
  apply Keeps.then (keeps_resultOf admittedInside admittedSpent within admitted)
  rintro result after safe ⟨paidInside, paid⟩
  split
  · exact keeps_throw safe
  · next affordable =>
    exact keeps_pure safe ⟨paidInside, paid, Int.not_lt.mp affordable⟩

theorem keeps_runIterations {body : Nat → EngineState → WorkflowProgram EngineState}
    (keeps : ∀ iteration state history, Boundary context state history →
      recorder.Keeps (SafeHistory context) (Boundary context) (body iteration state) history)
    {left iteration : Nat} {history : List WorkflowEvent}
    (boundary : Boundary context state history) :
    recorder.Keeps (SafeHistory context) (Boundary context)
      (runIterations body left iteration state) history := by
  induction left generalizing iteration state history with
  | zero => exact keeps_pure boundary.inside.safe boundary
  | succ left ih =>
    apply Keeps.then (keeps iteration state history boundary)
    intro next after _ nextBoundary
    exact ih nextBoundary

/-- A step that has started may use its calls. -/
theorem Inside.boundary (inside : Inside context state.executedSteps room history)
    (spent : Spent state.costMicros history) (within : state.costMicros ≤ context.maxCostMicros) :
    Boundary context state history :=
  ⟨inside.less (by omega), spent, within⟩

mutual

theorem keeps_runSteps (steps : List WorkflowStep) (path : String) (index : Nat)
    (state : EngineState) (history : List WorkflowEvent)
    (boundary : Boundary context state history) :
    recorder.Keeps (SafeHistory context) (Boundary context)
      (runSteps context steps path index state) history := by
  match steps with
  | [] => exact keeps_pure boundary.inside.safe boundary
  | step :: rest =>
    unfold runSteps
    apply Keeps.then (keeps_startStep boundary.inside boundary.spent)
    rintro _ middle - ⟨rfl, inside, spent⟩
    have ran := keeps_runStep step (stepPathOf path index step.id)
      { state with executedSteps := state.executedSteps + 1 } middle inside spent
      boundary.within
    apply Keeps.then ran
    intro next after _ nextBoundary
    exact keeps_runSteps rest path (index + 1) next after nextBoundary

theorem keeps_runStep (step : WorkflowStep) (stepPath : String) (state : EngineState)
    (history : List WorkflowEvent) (inside : Inside context state.executedSteps 5 history)
    (spent : Spent state.costMicros history) (within : state.costMicros ≤ context.maxCostMicros) :
    recorder.Keeps (SafeHistory context) (Boundary context)
      (runStep context step stepPath state) history := by
  match step with
  | .confirm _ title summary =>
    unfold runStep
    apply Keeps.then (keeps_confirm inside spent)
    rintro _ after safe ⟨⟨confirmed, stillSpent⟩, _⟩
    exact keeps_pure safe (confirmed.boundary stillSpent within)
  | .skill id skillId payload => exact keeps_runSkill inside spent within
  | .branch _ inputKey equals thenSteps elseSteps =>
    unfold runStep
    split
    · exact keeps_runSteps thenSteps _ 0 state history (inside.boundary spent within)
    · exact keeps_runSteps elseSteps _ 0 state history (inside.boundary spent within)
  | .loop _ iterations steps =>
    unfold runStep
    apply keeps_runIterations _ (inside.boundary spent within)
    intro iteration next after boundary
    exact keeps_runSteps steps _ 0 next after boundary

end

end Steps

theorem safeHistory_nil {context : WorkflowExecutionContext} (valid : 0 ≤ context.maxCostMicros) :
    SafeHistory context [] :=
  ⟨each_nil, by simp [checks], by simpa [costs] using valid⟩

end BoundedWorkflow

end LongHub
