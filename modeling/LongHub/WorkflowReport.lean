import LongHub.WorkflowSafety

/-!
# What a workflow execution reports

The branches of a workflow depend on the input alone, so the steps that an execution runs are
planned before it starts.
-/

namespace LongHub

open List

namespace BoundedWorkflow

open Device

/-- A step and its path in the run. -/
structure PlannedStep where
  path : String
  step : WorkflowStep

mutual

def plan (input : List (String × WorkflowLiteral)) :
    List WorkflowStep → String → Nat → List PlannedStep
  | [], _, _ => []
  | step :: rest, path, index =>
    ⟨stepPathOf path index step.id, step⟩ ::
      (planStep input step (stepPathOf path index step.id) ++ plan input rest path (index + 1))

def planStep (input : List (String × WorkflowLiteral)) : WorkflowStep → String → List PlannedStep
  | .confirm _ _ _, _ | .skill _ _ _, _ => []
  | .branch _ inputKey equals thenSteps elseSteps, path =>
    if input.lookup inputKey = some equals then plan input thenSteps (path ++ ".branch") 0
    else plan input elseSteps (path ++ ".branch") 0
  | .loop _ iterations steps, path =>
    (range' 0 iterations).flatMap fun iteration =>
      plan input steps (path ++ ".loop-" ++ toString iteration) 0

end

def skillIdOf (planned : PlannedStep) : Option String :=
  match planned.step with
  | .skill id _ _ => some id
  | _ => none

def requestOf (context : WorkflowExecutionContext) (planned : PlannedStep) :
    Option ExecutionRequest :=
  match planned.step with
  | .skill _ skillId payload => some (executionRequest context planned.path skillId payload)
  | _ => none

/-- The request and the result of an event that yields one. -/
def resultFor : WorkflowEvent → Option (ExecutionRequest × WorkflowStepResult)
  | ⟨.authorizeAndExecute request, .ok (result : WorkflowStepResult)⟩ => some (request, result)
  | ⟨.getCompleted request, .ok (some (result : CompletedResult))⟩ =>
    some (request, result.toWorkflowStepResult)
  | _ => none

def resultsOf (history : List WorkflowEvent) : List (ExecutionRequest × WorkflowStepResult) :=
  history.filterMap resultFor

def assignments (planned : List PlannedStep)
    (results : List (ExecutionRequest × WorkflowStepResult)) : List (String × JsonValue) :=
  (planned.filterMap skillIdOf).zip (results.map fun result => result.2.output)

/-- Each planned step is counted and each of its results is charged once. -/
structure Reported (context : WorkflowExecutionContext) (planned : List PlannedStep)
    (results : List (ExecutionRequest × WorkflowStepResult)) (before after : EngineState) :
    Prop where
  requests : results.map Prod.fst = planned.filterMap (requestOf context)
  steps : after.executedSteps = before.executedSteps + planned.length
  cost : after.costMicros = before.costMicros + (results.map fun result => result.2.costMicros).sum
  outputs : after.outputs = (assignments planned results).foldl
    (fun outputs entry => assignOutput outputs entry.1 entry.2) before.outputs

section Reports

variable {context : WorkflowExecutionContext} {history : List WorkflowEvent}

theorem length_skillIds (planned : List PlannedStep) :
    (planned.filterMap skillIdOf).length = (planned.filterMap (requestOf context)).length := by
  induction planned with
  | nil => rfl
  | cons first rest ih =>
    rcases first with ⟨path, step⟩
    cases step <;> simp [filterMap_cons, skillIdOf, requestOf, ih]

variable {planned : List PlannedStep} {state : EngineState} {stepPath : String}

variable {results : List (ExecutionRequest × WorkflowStepResult)}
  {before after middle : EngineState} {more : List PlannedStep} {event : WorkflowEvent}
  {skillId : String}

theorem Reported.length_results (reported : Reported context planned results before after) :
    (planned.filterMap skillIdOf).length = results.length := by
  have lengths := congrArg List.length reported.requests
  rw [length_map] at lengths
  rw [length_skillIds, lengths]

theorem Reported.refl (state : EngineState) : Reported context [] [] state state :=
  ⟨rfl, rfl, by simp, rfl⟩

theorem Reported.append {others : List (ExecutionRequest × WorkflowStepResult)}
    (first : Reported context planned results before middle)
    (second : Reported context more others middle after) :
    Reported context (planned ++ more) (results ++ others) before after := by
  refine ⟨?_, ?_, ?_, ?_⟩
  · rw [map_append, filterMap_append, first.requests, second.requests]
  · rw [second.steps, first.steps, length_append]
    omega
  · rw [second.cost, first.cost, map_append, sum_append]
    omega
  · have split : assignments (planned ++ more) (results ++ others) =
        assignments planned results ++ assignments more others := by
      rw [assignments, filterMap_append, map_append, zip_append]
      · rfl
      · rw [length_map, first.length_results]
    rw [split, foldl_append, ← first.outputs, second.outputs]

def Runs (context : WorkflowExecutionContext) (planned : List PlannedStep) (state : EngineState)
    (history : List WorkflowEvent) (next : EngineState) (after : List WorkflowEvent) : Prop :=
  ∃ results, resultsOf after = resultsOf history ++ results ∧
    Reported context planned results state next

theorem Runs.append {next : EngineState} {between after : List WorkflowEvent}
    (first : Runs context planned state history middle between)
    (second : Runs context more middle between next after) :
    Runs context (planned ++ more) state history next after := by
  obtain ⟨results, given, reported⟩ := first
  obtain ⟨others, othersGiven, othersReported⟩ := second
  exact ⟨results ++ others, by rw [othersGiven, given, append_assoc],
    reported.append othersReported⟩

theorem resultsOf_append_of_none (free : resultFor event = none) :
    resultsOf (history ++ [event]) = resultsOf history := by
  simp [resultsOf, filterMap_append, free]

theorem resultsOf_append_of_some {result : ExecutionRequest × WorkflowStepResult}
    (gives : resultFor event = some result) :
    resultsOf (history ++ [event]) = resultsOf history ++ [result] := by
  simp [resultsOf, filterMap_append, gives]

theorem runs_call {α : Type} {Done : α → List WorkflowEvent → Prop} {request : WorkflowCall}
    {next : request.Answer → WorkflowProgram α}
    (answers : ∀ value, recorder.Keeps (fun _ => True) Done (next value)
      (history ++ [⟨request, .ok value⟩])) :
    recorder.Keeps (fun _ => True) Done (Engine.ask request >>= next) history :=
  keeps_recorded trivial (fun _ => trivial) answers

theorem runs_startStep (state : EngineState) :
    recorder.Keeps (fun _ => True)
      (fun next after => next = { state with executedSteps := state.executedSteps + 1 } ∧
        resultsOf after = resultsOf history)
      (startStep context state) history := by
  apply runs_call
  intro found
  split_ifs
  · exact keeps_throw trivial
  · exact keeps_throw trivial
  · exact keeps_throw trivial
  · exact keeps_pure trivial ⟨rfl, resultsOf_append_of_none rfl⟩

theorem runs_confirm {title summary : String} :
    recorder.Keeps (fun _ => True) (fun _ after => resultsOf after = resultsOf history)
      (confirm context stepPath title summary) history := by
  apply runs_call
  intro approved
  cases approved with
  | false => exact keeps_throw trivial
  | true => exact keeps_pure trivial (resultsOf_append_of_none rfl)

theorem runs_admitSkill :
    recorder.Keeps (fun _ => True) (fun _ after => resultsOf after = resultsOf history)
      (admitSkill context stepPath skillId) history := by
  apply runs_call
  intro descriptor
  have same : resultsOf (history ++ [⟨.describeSkill skillId, .ok descriptor⟩]) =
      resultsOf history := resultsOf_append_of_none rfl
  by_cases writes : descriptor.sideEffect = .externalWrite
  · rw [if_pos writes]
    exact keeps_throw trivial
  rw [if_neg writes]
  by_cases requires : descriptor.requiresConfirmation = true
  · rw [if_pos requires, ← same]
    exact runs_confirm
  · rw [if_neg requires]
    exact keeps_pure trivial same

theorem runs_resultOf {request : ExecutionRequest} : recorder.Keeps (fun _ => True)
      (fun result after => resultsOf after =
        resultsOf history ++ [(request, result.toWorkflowStepResult)])
      (resultOf request) history := by
  apply runs_call
  intro found
  cases found with
  | some result => exact keeps_pure trivial (resultsOf_append_of_some rfl)
  | none =>
    have looked : resultsOf (history ++ [⟨.getCompleted request, .ok none⟩]) =
        resultsOf history := resultsOf_append_of_none rfl
    apply runs_call
    intro result
    split
    · apply runs_call
      intro stored
      apply keeps_pure trivial
      rw [resultsOf_append_of_none rfl, resultsOf_append_of_some rfl, looked]
    · exact keeps_throw trivial

theorem runs_runSkill {id : String} {payload : List (String × WorkflowLiteral)} :
    recorder.Keeps (fun _ => True)
      (fun next after => ∃ result : WorkflowStepResult, resultsOf after = resultsOf history ++
          [(executionRequest context stepPath skillId payload, result)] ∧
        next = { state with
          costMicros := state.costMicros + result.costMicros
          outputs := assignOutput state.outputs id result.output })
      (runSkill context id stepPath skillId payload state) history := by
  apply Keeps.then runs_admitSkill
  intro _ admittedAt _ same
  rw [← same]
  apply Keeps.then runs_resultOf
  intro result after _ given
  split
  · exact keeps_throw trivial
  · exact keeps_pure trivial ⟨_, given, rfl⟩

theorem runs_runIterations {body : Nat → EngineState → WorkflowProgram EngineState}
    {planned : Nat → List PlannedStep}
    (runs : ∀ iteration state history, recorder.Keeps (fun _ => True)
      (Runs context (planned iteration) state history) (body iteration state) history)
    {left iteration : Nat} {history : List WorkflowEvent} : recorder.Keeps (fun _ => True)
      (Runs context ((range' iteration left).flatMap planned) state history)
      (runIterations body left iteration state) history := by
  induction left generalizing iteration state history with
  | zero => exact keeps_pure trivial ⟨[], by simp, Reported.refl state⟩
  | succ left ih =>
    apply Keeps.then (runs iteration state history)
    intro middle between _ first
    apply Keeps.mono _ ih
    intro next after _ second
    exact first.append second

theorem runs_started {step : WorkflowStep} (state : EngineState)
    (noSkill : ∀ id skillId payload, step ≠ .skill id skillId payload) :
    Runs context [⟨stepPath, step⟩] state history
      { state with executedSteps := state.executedSteps + 1 } history := by
  refine ⟨[], by simp, ?_⟩
  cases step with
  | skill id skillId payload => exact absurd rfl (noSkill id skillId payload)
  | _ => exact ⟨rfl, rfl, by simp, rfl⟩

mutual

theorem runs_runSteps (steps : List WorkflowStep) (path : String) (index : Nat)
    (state : EngineState) (history : List WorkflowEvent) :
    recorder.Keeps (fun _ => True)
      (Runs context (plan context.input steps path index) state history)
      (runSteps context steps path index state) history := by
  match steps with
  | [] => exact keeps_pure trivial ⟨[], by simp, Reported.refl state⟩
  | step :: rest =>
    unfold runSteps plan
    apply Keeps.then (runs_startStep state)
    rintro _ middle - ⟨rfl, same⟩
    apply Keeps.then (runs_runStep step (stepPathOf path index step.id) state middle)
    intro next between _ first
    apply Keeps.mono _ (runs_runSteps rest path (index + 1) next between)
    intro last after _ second
    have both := first.append second
    rw [Runs, same] at both
    exact both

theorem runs_runStep (step : WorkflowStep) (stepPath : String) (state : EngineState)
    (history : List WorkflowEvent) :
    recorder.Keeps (fun _ => True)
      (Runs context (⟨stepPath, step⟩ :: planStep context.input step stepPath) state history)
      (runStep context step stepPath { state with executedSteps := state.executedSteps + 1 })
      history := by
  match step with
  | .confirm id title summary =>
    unfold runStep planStep
    apply Keeps.then runs_confirm
    intro _ after _ same
    apply keeps_pure trivial
    have started : Runs context [⟨stepPath, .confirm id title summary⟩] state
        history { state with executedSteps := state.executedSteps + 1 } history :=
      runs_started state (fun _ _ _ different => by cases different)
    rw [Runs, same]
    exact started
  | .skill id skillId payload =>
    unfold runStep planStep
    apply Keeps.mono _ runs_runSkill
    rintro next after - ⟨result, given, rfl⟩
    refine ⟨_, given, rfl, rfl, by simp, rfl⟩
  | .branch id inputKey equals thenSteps elseSteps =>
    unfold runStep planStep
    have started : Runs context [⟨stepPath, .branch id inputKey equals thenSteps elseSteps⟩] state
        history { state with executedSteps := state.executedSteps + 1 } history :=
      runs_started state (fun _ _ _ different => by cases different)
    split
    · apply Keeps.mono _ (runs_runSteps thenSteps (stepPath ++ ".branch") 0 _ history)
      intro next after _ inner
      exact started.append inner
    · apply Keeps.mono _ (runs_runSteps elseSteps (stepPath ++ ".branch") 0 _ history)
      intro next after _ inner
      exact started.append inner
  | .loop id iterations steps =>
    unfold runStep planStep
    have started : Runs context [⟨stepPath, .loop id iterations steps⟩] state
        history { state with executedSteps := state.executedSteps + 1 } history :=
      runs_started state (fun _ _ _ different => by cases different)
    have each (iteration : Nat) (next : EngineState) (after : List WorkflowEvent) :
        recorder.Keeps (fun _ => True)
          (Runs context (plan context.input steps (stepPath ++ ".loop-" ++ toString iteration) 0)
            next after)
          (runSteps context steps (stepPath ++ ".loop-" ++ toString iteration) 0 next) after :=
      runs_runSteps steps _ 0 next after
    apply Keeps.mono _ (runs_runIterations each)
    intro next after _ inner
    exact started.append inner

end

end Reports

def lastOutput (assigned : List (String × JsonValue)) (id : String) : Option JsonValue :=
  assigned.reverse.lookup id

theorem get?_assignOutput (outputs : InsertionMap String JsonValue) (key id : String)
    (output : JsonValue) : (assignOutput outputs key output).get? id =
      if key = "__proto__" then outputs.get? id
      else if id = key then some output else outputs.get? id := by
  unfold assignOutput
  split
  · rfl
  · rw [InsertionMap.get?_set]

theorem get?_foldl_assignOutput (assigned : List (String × JsonValue)) (id : String) :
    (assigned.foldl (fun outputs entry => assignOutput outputs entry.1 entry.2)
      InsertionMap.empty).get? id = if id = "__proto__" then none else lastOutput assigned id := by
  induction assigned using reverseRecOn with
  | nil => simp [lastOutput]
  | append_singleton front entry ih =>
    rcases entry with ⟨key, output⟩
    rw [foldl_append, foldl_cons, foldl_nil, lastOutput, reverse_append,
      reverse_singleton, singleton_append, lookup_cons, get?_assignOutput, ih]
    by_cases isProto : key = "__proto__"
    · rw [if_pos isProto]
      by_cases asked : id = "__proto__"
      · rw [if_pos asked, if_pos asked]
      · have differ : (id == key) = false := by simp [isProto, asked]
        rw [if_neg asked, if_neg asked, differ]
        rfl
    · rw [if_neg isProto]
      by_cases same : id = key
      · subst same
        simp [isProto]
      · have differ : (id == key) = false := by simp [same]
        rw [if_neg same, differ]
        rfl

end BoundedWorkflow

end LongHub
