import LongHub.WorkflowPaths
import LongHub.WorkflowGuarantees

/-!
# The keys of workflow requests

The key of a request is the run id and the path of its step.
-/

namespace LongHub

open List Option

namespace BoundedWorkflow

open Device

structure WorkflowExecution where
  workflow : JsonValue
  context : WorkflowExecutionContext

def engineMachine {ι : Type} (executions : ι → WorkflowExecution) :
    Machine (InsertionMap String CompletedResult) WorkflowCall WorkflowCall.Answer String
      ((request : WorkflowCall) → Except String request.Answer) ι Empty where
  perform _ request choice completed :=
    match request with
    | .getCompleted request => some (.ok (completed.get? request.idempotencyKey), completed)
    | .setCompleted request result =>
      some (.ok (), completed.set request.idempotencyKey result)
    | request => some (choice request, completed)
  program execution := do
    let _ ← execute (executions execution).workflow (executions execution).context
    pure ()
  environment event _ := nomatch event

def Occurs (execution : WorkflowExecution) (place : Nat) (request : ExecutionRequest) : Prop :=
  ∃ workflow step, parseBoundedWorkflow execution.workflow = .ok workflow ∧
    (plan execution.context.input workflow.steps workflow.workflowId 0)[place]? = some step ∧
    requestOf execution.context step = some request

def OneRunPerId {ι : Type} (executions : ι → WorkflowExecution) : Prop :=
  ∀ first second, (executions first).context.runId = (executions second).context.runId →
    (executions first).workflow = (executions second).workflow ∧
    (executions first).context.agentId = (executions second).context.agentId ∧
    (executions first).context.input = (executions second).context.input

variable {request : ExecutionRequest} {place : Nat} {execution : WorkflowExecution}

theorem requestOf_eq_some {context : WorkflowExecutionContext} {step : PlannedStep}
    (makes : requestOf context step = some request) :
    ∃ id skillId payload, step.step = .skill id skillId payload ∧
      request = executionRequest context step.path skillId payload := by
  rcases step with ⟨path, step⟩
  cases step with
  | skill id skillId payload =>
    cases makes
    exact ⟨id, skillId, payload, rfl, rfl⟩
  | _ => cases makes

variable {first second : WorkflowExecution} {otherPlace : Nat} {other : ExecutionRequest}

theorem Occurs.runId_stepId (occurs : Occurs first place request)
    (otherOccurs : Occurs second otherPlace other)
    (sameKey : request.idempotencyKey = other.idempotencyKey) :
    request.runId = other.runId ∧ request.stepId = other.stepId := by
  obtain ⟨workflow, step, parsed, stepAt, makes⟩ := occurs
  obtain ⟨otherWorkflow, otherStep, otherParsed, otherAt, otherMakes⟩ := otherOccurs
  have plain : NoColon step.path := noColons_plan parsed _ step (mem_of_getElem? stepAt)
  have otherPlain : NoColon otherStep.path :=
    noColons_plan otherParsed _ otherStep (mem_of_getElem? otherAt)
  obtain ⟨id, skillId, payload, _, rfl⟩ := requestOf_eq_some makes
  obtain ⟨otherId, otherSkill, otherPayload, _, rfl⟩ := requestOf_eq_some otherMakes
  have lists := congrArg String.toList sameKey
  have colon : ":".toList = [':'] := by decide
  simp only [executionRequest, String.toList_append, colon, append_assoc, singleton_append] at lists
  obtain ⟨runIds, paths⟩ := append_lastSeparator_inj plain otherPlain lists
  exact ⟨String.toList_injective runIds, String.toList_injective paths⟩

theorem Occurs.unique (occurs : Occurs first place request)
    (otherOccurs : Occurs second otherPlace other) (sameWorkflow : first.workflow = second.workflow)
    (sameAgent : first.context.agentId = second.context.agentId)
    (sameInput : first.context.input = second.context.input) (sameRun : request.runId = other.runId)
    (sameStep : request.stepId = other.stepId) : place = otherPlace ∧ request = other := by
  obtain ⟨workflow, step, parsed, stepAt, makes⟩ := occurs
  obtain ⟨otherWorkflow, otherStep, otherParsed, otherAt, otherMakes⟩ := otherOccurs
  rw [← sameWorkflow, parsed] at otherParsed
  cases otherParsed
  rw [← sameInput] at otherAt
  obtain ⟨id, skillId, payload, isSkill, rfl⟩ := requestOf_eq_some makes
  obtain ⟨otherId, otherSkill, otherPayload, otherIsSkill, rfl⟩ := requestOf_eq_some otherMakes
  have pathAt := congrArg (Option.map PlannedStep.path) stepAt
  have otherPathAt := congrArg (Option.map PlannedStep.path) otherAt
  rw [← getElem?_map] at pathAt otherPathAt
  have samePath : step.path = otherStep.path := sameStep
  have inBounds := (List.getElem?_eq_some_iff.mp pathAt).1
  have samePlace : place = otherPlace := by
    apply (getElem?_inj inBounds
      (nodup_plan first.context.input workflow.steps workflow.workflowId 0)).mp
    rw [pathAt, otherPathAt]
    exact congrArg some samePath
  subst samePlace
  have same := Option.some.inj (stepAt.symm.trans otherAt)
  subst same
  rw [isSkill] at otherIsSkill
  cases otherIsSkill
  have sameRunId : first.context.runId = second.context.runId := sameRun
  refine ⟨rfl, ?_⟩
  rw [executionRequest, executionRequest, sameRunId, sameAgent]

def Planned (context : WorkflowExecutionContext) (planned : List PlannedStep)
    (request : ExecutionRequest) : Prop := request ∈ planned.filterMap (requestOf context)

/-- Results are looked up and computed for planned steps, and stored when they
have been computed. -/
def Keyed (context : WorkflowExecutionContext) (planned : List PlannedStep)
    (before : List WorkflowEvent) (event : WorkflowEvent) : Prop :=
  match event with
  | ⟨.getCompleted request, _⟩ | ⟨.authorizeAndExecute request, _⟩ =>
    Planned context planned request
  | ⟨.setCompleted request result, _⟩ =>
    Planned context planned request ∧
      ⟨.authorizeAndExecute request, .ok result.toWorkflowStepResult⟩ ∈ before
  | _ => True

/-- Whatever the calls answer, the program goes on as keyed. -/
abbrev KeepsKeyed {α : Type} (context : WorkflowExecutionContext) (planned : List PlannedStep) :
    WorkflowProgram α → List WorkflowEvent → Prop :=
  recorder.Keeps (Each (Keyed context planned)) fun _ _ => True

section Histories

variable {context : WorkflowExecutionContext} {planned : List PlannedStep}
variable {history : List WorkflowEvent}

theorem keyed_call {α : Type} {request : WorkflowCall}
    {next : request.Answer → WorkflowProgram α} (each : Each (Keyed context planned) history)
    (keyed : ∀ answer, Keyed context planned history ⟨request, answer⟩)
    (answers : ∀ value, Each (Keyed context planned) (history ++ [⟨request, .ok value⟩]) →
      KeepsKeyed context planned (next value) (history ++ [⟨request, .ok value⟩])) :
    KeepsKeyed context planned (Engine.ask request >>= next) history := by
  have recorded (answer : Except String request.Answer) :
      Each (Keyed context planned) (history ++ [⟨request, answer⟩]) :=
    each_append_singleton.mpr ⟨each, keyed answer⟩
  exact keeps_recorded each (fun error => recorded (.error error))
    fun value => answers value (recorded (.ok value))

theorem keyed_startStep (state : EngineState) (each : Each (Keyed context planned) history) :
    KeepsKeyed context planned (startStep context state) history := by
  apply keyed_call each
  · intro _
    trivial
  intro found recorded
  split_ifs
  · exact keeps_throw recorded
  · exact keeps_throw recorded
  · exact keeps_throw recorded
  · exact keeps_pure recorded trivial

variable {stepPath : String}

theorem keyed_confirm {title summary : String} (each : Each (Keyed context planned) history) :
    KeepsKeyed context planned (confirm context stepPath title summary) history := by
  apply keyed_call each
  · intro _
    trivial
  intro approved recorded
  cases approved with
  | false => exact keeps_throw recorded
  | true => exact keeps_pure recorded trivial

variable {skillId : String} {state : EngineState}

theorem keyed_admitSkill (each : Each (Keyed context planned) history) :
    KeepsKeyed context planned (admitSkill context stepPath skillId) history := by
  apply keyed_call each
  · intro _
    trivial
  intro descriptor recorded
  by_cases writes : descriptor.sideEffect = .externalWrite
  · rw [if_pos writes]
    exact keeps_throw recorded
  rw [if_neg writes]
  by_cases requires : descriptor.requiresConfirmation = true
  · rw [if_pos requires]
    exact keyed_confirm recorded
  · rw [if_neg requires]
    exact keeps_pure recorded trivial

theorem keyed_resultOf {request : ExecutionRequest} (isPlanned : Planned context planned request)
    (each : Each (Keyed context planned) history) :
    KeepsKeyed context planned (resultOf request) history := by
  apply keyed_call each
  · intro _
    exact isPlanned
  intro found recorded
  cases found with
  | some result => exact keeps_pure recorded trivial
  | none =>
    apply keyed_call recorded
    · intro _
      exact isPlanned
    intro result executed
    split
    · apply keyed_call executed
      · intro _
        exact ⟨isPlanned, by simp⟩
      · intro _ stored
        exact keeps_pure stored trivial
    · exact keeps_throw executed

theorem keyed_runSkill {id : String} {payload : List (String × WorkflowLiteral)}
    (isPlanned : Planned context planned (executionRequest context stepPath skillId payload))
    (each : Each (Keyed context planned) history) :
    KeepsKeyed context planned (runSkill context id stepPath skillId payload state) history := by
  apply Keeps.then (keyed_admitSkill each)
  intro _ _ admittedEach _
  apply Keeps.then (keyed_resultOf isPlanned admittedEach)
  intro result _ resultEach _
  split
  · exact keeps_throw resultEach
  · exact keeps_pure resultEach trivial

theorem keyed_runIterations {body : Nat → EngineState → WorkflowProgram EngineState}
    {left iteration : Nat} {history : List WorkflowEvent}
    (keyed : ∀ place state history, place < iteration + left → iteration ≤ place →
      Each (Keyed context planned) history →
      KeepsKeyed context planned (body place state) history)
    (each : Each (Keyed context planned) history) :
    KeepsKeyed context planned (runIterations body left iteration state) history := by
  induction left generalizing iteration state history with
  | zero => exact keeps_pure each trivial
  | succ left ih =>
    apply Keeps.then (keyed iteration state history (by omega) (by omega) each)
    intro middle between betweenEach _
    apply ih _ betweenEach
    intro place state history before after
    exact keyed place state history (by omega) (by omega)

mutual

theorem keyed_runSteps (steps : List WorkflowStep) (path : String) (index : Nat)
    (state : EngineState) (history : List WorkflowEvent)
    (included : ∀ step ∈ plan context.input steps path index, step ∈ planned)
    (each : Each (Keyed context planned) history) :
    KeepsKeyed context planned (runSteps context steps path index state) history := by
  match steps with
  | [] => exact keeps_pure each trivial
  | step :: rest =>
    unfold plan at included
    unfold runSteps
    apply Keeps.then (keyed_startStep state each)
    intro started between betweenEach _
    have inside : ∀ inner ∈ planStep context.input step (stepPathOf path index step.id),
        inner ∈ planned := fun inner mem =>
      included inner (mem_cons_of_mem _ (mem_append_left _ mem))
    have following : ∀ inner ∈ plan context.input rest path (index + 1), inner ∈ planned :=
      fun inner mem =>
        included inner (mem_cons_of_mem _ (mem_append_right _ mem))
    apply Keeps.then (keyed_runStep step (stepPathOf path index step.id) started between
      (included _ mem_cons_self) inside betweenEach)
    intro next after afterEach _
    exact keyed_runSteps rest path (index + 1) next after following afterEach

theorem keyed_runStep (step : WorkflowStep) (stepPath : String) (state : EngineState)
    (history : List WorkflowEvent) (isPlanned : ⟨stepPath, step⟩ ∈ planned)
    (included : ∀ inner ∈ planStep context.input step stepPath, inner ∈ planned)
    (each : Each (Keyed context planned) history) :
    KeepsKeyed context planned (runStep context step stepPath state) history := by
  match step with
  | .confirm id title summary =>
    unfold runStep
    apply Keeps.then (keyed_confirm each)
    intro _ after afterEach _
    exact keeps_pure afterEach trivial
  | .skill id skillId payload =>
    unfold runStep
    apply keyed_runSkill _ each
    exact mem_filterMap.mpr ⟨_, isPlanned, rfl⟩
  | .branch id inputKey equals thenSteps elseSteps =>
    unfold planStep at included
    unfold runStep
    by_cases takesThen : context.input.lookup inputKey = some equals
    · rw [if_pos takesThen] at included ⊢
      exact keyed_runSteps thenSteps _ 0 state history included each
    · rw [if_neg takesThen] at included ⊢
      exact keyed_runSteps elseSteps _ 0 state history included each
  | .loop id iterations steps =>
    unfold planStep at included
    unfold runStep
    apply keyed_runIterations _ each
    intro iteration state history before _ historyEach
    apply keyed_runSteps steps _ 0 state history _ historyEach
    intro inner mem
    apply included inner
    exact mem_flatMap.mpr ⟨iteration, mem_range'_1.mpr ⟨Nat.zero_le _, before⟩, mem⟩

end

end Histories

theorem keyed_execute {workflow : BoundedWorkflow}
    (parsed : parseBoundedWorkflow execution.workflow = .ok workflow) :
    KeepsKeyed execution.context
      (plan execution.context.input workflow.steps workflow.workflowId 0)
      (execute execution.workflow execution.context) [] := by
  rcases execute_cases execution.workflow execution.context with
    ⟨error, ended⟩ | ⟨other, otherParsed, _, runs⟩
  · rw [ended]
    exact keeps_throw each_nil
  · have same : other = workflow := Except.ok.inj (otherParsed.symm.trans parsed)
    subst same
    rw [runs]
    apply Keeps.then (keyed_runSteps other.steps other.workflowId 0 _ []
      (fun _ mem => mem) each_nil)
    intro state after afterEach _
    exact keeps_pure afterEach trivial

theorem execute_of_unparsed {error : String}
    (parsed : parseBoundedWorkflow execution.workflow = .error error) :
    execute execution.workflow execution.context = .throw error := by
  unfold execute
  rw [parsed]
  rfl

section Engine

variable {ι : Type} {executions : ι → WorkflowExecution}

def Computed (executions : ι → WorkflowExecution) (before : List WorkflowEvent)
    (event : WorkflowEvent) : Prop :=
  match event with
  | ⟨.getCompleted request, _⟩ | ⟨.authorizeAndExecute request, _⟩ =>
    ∃ execution place, Occurs (executions execution) place request
  | ⟨.setCompleted request result, _⟩ =>
    (∃ execution place, Occurs (executions execution) place request) ∧
      ⟨.authorizeAndExecute request, .ok result.toWorkflowStepResult⟩ ∈ before
  | _ => True

variable {workflow : BoundedWorkflow} {result : CompletedResult}

theorem occurs_of_planned {execution : ι} {request : ExecutionRequest}
    (parsed : parseBoundedWorkflow (executions execution).workflow = .ok workflow)
    (isPlanned : Planned (executions execution).context
      (plan (executions execution).context.input workflow.steps workflow.workflowId 0) request) :
    ∃ execution place, Occurs (executions execution) place request := by
  obtain ⟨step, mem, makes⟩ := mem_filterMap.mp isPlanned
  obtain ⟨place, stepAt⟩ := mem_iff_getElem?.mp mem
  exact ⟨execution, place, workflow, step, parsed, stepAt, makes⟩

theorem Keyed.computed {execution : ι} {before : List WorkflowEvent} {event : WorkflowEvent}
    (parsed : parseBoundedWorkflow (executions execution).workflow = .ok workflow)
    (keyed : Keyed (executions execution).context
      (plan (executions execution).context.input workflow.steps workflow.workflowId 0)
      before event) : Computed executions before event := by
  rcases event with ⟨request, answer⟩
  cases request with
  | getCompleted request => exact occurs_of_planned parsed keyed
  | authorizeAndExecute request => exact occurs_of_planned parsed keyed
  | setCompleted request result => exact ⟨occurs_of_planned parsed keyed.1, keyed.2⟩
  | _ => trivial

theorem computed_program (execution : ι) :
    recorder.Sound (Each (Computed executions)) (fun _ _ => True)
      ((engineMachine executions).program execution) [] := by
  change recorder.Sound (Each (Computed executions)) (fun _ _ => True)
    (execute (executions execution).workflow (executions execution).context >>= fun _ => pure ()) []
  cases parsed : parseBoundedWorkflow (executions execution).workflow with
  | error error =>
    rw [execute_of_unparsed parsed]
    exact sound_throw each_nil trivial
  | ok workflow =>
    have keyed : recorder.Sound (Each (Computed executions)) (fun _ _ => True)
        (execute (executions execution).workflow (executions execution).context) [] := by
      apply Sound.mono (fun _ _ _ _ => trivial)
      apply Sound.mono_keep _ (keyed_execute parsed)
      intro history each before event after split
      exact (each before event after split).computed parsed
    apply sound_bind keyed
    · intro _ after keep _
      exact sound_pure keep trivial
    · intro _ _ _ _
      trivial

/-- The events of all executions with their threads. -/
abbrev EngineHistory := List (Nat × WorkflowEvent)

def Stored (history : EngineHistory) (key : String) (result : CompletedResult) : Prop :=
  ∃ thread request answer, (thread, ⟨.setCompleted request result, answer⟩) ∈ history ∧
    request.idempotencyKey = key

/-- A result is reused after it has been stored under the key. -/
def Reused (before : EngineHistory) (entry : Nat × WorkflowEvent) : Prop :=
  match entry with
  | ⟨_, .getCompleted request, .ok (some (result : CompletedResult))⟩ =>
    Stored before request.idempotencyKey result
  | _ => True

structure EngineInv (state : InsertionMap String CompletedResult × EngineHistory) : Prop where
  stored : ∀ key result, state.1.get? key = some result → Stored state.2 key result
  reused : Each Reused state.2

theorem Stored.append {history : EngineHistory} {key : String} (stored : Stored history key result)
    (more : EngineHistory) : Stored (history ++ more) key result := by
  obtain ⟨thread, request, answer, mem, same⟩ := stored
  exact ⟨thread, request, answer, mem_append_left _ mem, same⟩

theorem engineInv_performs (thread : Nat) (request : WorkflowCall)
    (choice : (request : WorkflowCall) → Except String request.Answer)
    (before : InsertionMap String CompletedResult × EngineHistory)
    (answer : Except String request.Answer)
    (after : InsertionMap String CompletedResult × EngineHistory) (inv : EngineInv before)
    (acts : (engineMachine executions).recorded.perform thread request choice before =
      some (answer, after)) : EngineInv after := by
  obtain ⟨⟨given, completed⟩, performed, same⟩ := map_eq_some_iff.mp acts
  cases same
  cases request with
  | getCompleted request =>
    cases performed
    refine ⟨fun key result found => (inv.stored key result found).append _, ?_⟩
    apply each_append_singleton.mpr ⟨inv.reused, ?_⟩
    cases found : before.1.get? request.idempotencyKey with
    | none => trivial
    | some result => exact inv.stored _ _ found
  | setCompleted request result =>
    cases performed
    refine ⟨?_, each_append_singleton.mpr ⟨inv.reused, trivial⟩⟩
    intro key other found
    rw [InsertionMap.get?_set] at found
    split at found
    · next same =>
      cases found
      exact ⟨thread, request, .ok (), mem_append_right _ mem_cons_self, same.symm⟩
    · exact (inv.stored key other found).append _
  | _ =>
    cases performed
    refine ⟨fun key result found => (inv.stored key result found).append _, ?_⟩
    exact each_append_singleton.mpr ⟨inv.reused, trivial⟩

/-- The engine before any execution. -/
abbrev Fresh : InsertionMap String CompletedResult × EngineHistory → Prop :=
  Machine.Unrecorded fun completed => completed = InsertionMap.empty

theorem computed_of_reused {pool : Pool (InsertionMap String CompletedResult × EngineHistory)
    WorkflowCall WorkflowCall.Answer String}
    (reachable : (engineMachine executions).recorded.Reachable Fresh pool)
    {before after : EngineHistory} {thread : Nat} {request : ExecutionRequest}
    (split : pool.shared.2 =
      before ++ (thread, ⟨.getCompleted request, .ok (some result)⟩) :: after) :
    ∃ other computing, request.idempotencyKey = other.idempotencyKey ∧
      (computing, ⟨.authorizeAndExecute other, .ok result.toWorkflowStepResult⟩) ∈ before ∧
      (∃ execution place, Occurs (executions execution) place request) ∧
      ∃ execution place, Occurs (executions execution) place other := by
  have inv : EngineInv pool.shared := by
    apply reachable.shared_invariant
    · intro state fresh
      obtain ⟨noResults, noHistory⟩ := fresh
      constructor
      · intro key other found
        rw [noResults] at found
        cases found
      · rw [noHistory]
        exact each_nil
    · exact engineInv_performs
    · intro event
      exact nomatch event
  have computed (asked : Nat) : Each (Computed executions) (Machine.historyOf asked pool.shared.2)
    := reachable.keep_historyOf each_nil computed_program asked
  obtain ⟨storing, other, answer, stored, sameKey⟩ := inv.reused before _ after split
  obtain ⟨earlier, between, storedAt⟩ := append_of_mem stored
  have asking := computed thread
  have storingComputed := computed storing
  rw [split] at asking storingComputed
  have occurs : ∃ execution place, Occurs (executions execution) place request :=
    Machine.each_of_historyOf asking
  rw [storedAt, append_assoc, cons_append] at storingComputed
  obtain ⟨otherOccurs, executed⟩ := Machine.each_of_historyOf storingComputed
  refine ⟨other, storing, sameKey.symm, ?_, occurs, otherOccurs⟩
  rw [storedAt]
  exact mem_append_left _ (Machine.mem_of_mem_historyOf executed)

theorem idempotencyKeys_identify (executions : ι → WorkflowExecution) :
    (∀ first second place otherPlace request other,
      Occurs (executions first) place request → Occurs (executions second) otherPlace other →
      request.idempotencyKey = other.idempotencyKey →
        request.runId = other.runId ∧ request.stepId = other.stepId ∧
        (OneRunPerId executions → place = otherPlace ∧ request = other)) ∧
    ∀ pool, (engineMachine executions).recorded.Reachable Fresh pool →
      ∀ before thread request result after, pool.shared.2 =
          before ++ (thread, ⟨.getCompleted request, .ok (some result)⟩) :: after →
        ∃ other computing,
          (computing, ⟨.authorizeAndExecute other, .ok result.toWorkflowStepResult⟩) ∈ before ∧
          request.runId = other.runId ∧ request.stepId = other.stepId ∧
          (OneRunPerId executions → request = other) := by
  have identify (first second : ι) (place otherPlace : Nat) (request other : ExecutionRequest)
      (occurs : Occurs (executions first) place request)
      (otherOccurs : Occurs (executions second) otherPlace other)
      (sameKey : request.idempotencyKey = other.idempotencyKey) :
      request.runId = other.runId ∧ request.stepId = other.stepId ∧
        (OneRunPerId executions → place = otherPlace ∧ request = other) := by
    obtain ⟨sameRun, sameStep⟩ := occurs.runId_stepId otherOccurs sameKey
    refine ⟨sameRun, sameStep, ?_⟩
    intro oneRun
    have contexts : (executions first).context.runId = (executions second).context.runId := by
      obtain ⟨_, _, _, _, makes⟩ := occurs
      obtain ⟨_, _, _, _, otherMakes⟩ := otherOccurs
      obtain ⟨_, _, _, _, rfl⟩ := requestOf_eq_some makes
      obtain ⟨_, _, _, _, rfl⟩ := requestOf_eq_some otherMakes
      exact sameRun
    obtain ⟨sameWorkflow, sameAgent, sameInput⟩ := oneRun first second contexts
    exact occurs.unique otherOccurs sameWorkflow sameAgent sameInput sameRun sameStep
  refine ⟨identify, ?_⟩
  intro pool reachable before thread request result after split
  obtain ⟨other, computing, sameKey, executed, ⟨first, place, occurs⟩,
    ⟨second, otherPlace, otherOccurs⟩⟩ := computed_of_reused reachable split
  obtain ⟨sameRun, sameStep, unique⟩ :=
    identify first second place otherPlace request other occurs otherOccurs sameKey
  exact ⟨other, computing, executed, sameRun, sameStep, fun oneRun => (unique oneRun).2⟩

end Engine

def reusedRequest : Nat × WorkflowEvent → Option ExecutionRequest
  | ⟨_, .getCompleted request, .ok (some (_ : CompletedResult))⟩ => some request
  | _ => none

def twoAgents (finance : Bool) : WorkflowExecution where
  workflow := oneSkillWorkflow "read"
  context := { exampleContext 100 with agentId := if finance then "finance" else "hr" }

/-- What `hr` computes is looked up by a second thread. -/
def sharedResultRun (second : Bool) :
    List (PoolAction ((request : WorkflowCall) → Except String request.Answer) Bool Empty) :=
  .start 0 false :: replicate 5 (.perform 0 readOnlyAnswers) ++
    .start 1 second :: replicate 3 (.perform 1 readOnlyAnswers)

/-- The end of such a run. -/
def sharedResultPool (executions : Bool → WorkflowExecution) (second : Bool) :
    Option (Pool (InsertionMap String CompletedResult × EngineHistory) WorkflowCall
      WorkflowCall.Answer String) :=
  (engineMachine executions).recorded.run (Machine.initial (InsertionMap.empty, []))
    (sharedResultRun second)

theorem idempotencyKeys_identify_repeated : ∃ pool before thread request result after,
    (engineMachine fun _ : Bool => twoAgents false).recorded.Reachable Fresh pool ∧
    pool.shared.2 = before ++ (thread, ⟨.getCompleted request, .ok (some result)⟩) :: after ∧
    ∃ computing,
      (computing, ⟨.authorizeAndExecute request, .ok result.toWorkflowStepResult⟩) ∈ before := by
  have runs : (sharedResultPool (fun _ => twoAgents false) true).map
      (fun pool => (pool.shared.2.filterMap reusedRequest).length) = some 1 := by
    decide
  obtain ⟨pool, ran, one⟩ := map_eq_some_iff.mp runs
  have reachable : (engineMachine fun _ : Bool => twoAgents false).recorded.Reachable Fresh pool :=
    (Machine.Reachable.initial ⟨rfl, rfl⟩).run ran
  obtain ⟨request, isReused⟩ := exists_mem_of_length_pos (Nat.lt_of_lt_of_eq Nat.one_pos one.symm)
  obtain ⟨⟨thread, call, answer⟩, mem, reused⟩ := mem_filterMap.mp isReused
  obtain ⟨before, after, split⟩ := append_of_mem mem
  unfold reusedRequest at reused
  split at reused
  · next thread request result same =>
    cases same
    obtain ⟨other, computing, executed, _, _, unique⟩ :=
      (idempotencyKeys_identify fun _ : Bool => twoAgents false).2 pool reachable
        before thread request result after split
    have sameRequest := unique fun _ _ _ => ⟨rfl, rfl, rfl⟩
    exact ⟨pool, before, thread, request, result, after, reachable, split, computing,
      sameRequest ▸ executed⟩
  · cases reused

def requestAt (execution : WorkflowExecution) (place : Nat) : Option ExecutionRequest := do
  let workflow ← (parseBoundedWorkflow execution.workflow).toOption
  let step ← (plan execution.context.input workflow.steps workflow.workflowId 0)[place]?
  requestOf execution.context step

theorem occurs_of_requestAt (found : requestAt execution place = some request) :
    Occurs execution place request := by
  obtain ⟨workflow, parsedSome, rest⟩ := bind_eq_some_iff.mp found
  obtain ⟨step, stepAt, makes⟩ := bind_eq_some_iff.mp rest
  refine ⟨workflow, step, ?_, stepAt, makes⟩
  cases parsed : parseBoundedWorkflow execution.workflow with
  | error error => simp [parsed, Except.toOption] at parsedSome
  | ok other => simpa [parsed, Except.toOption] using parsedSome

/-- A run id may be given to two agents, and then their keys do not tell them apart. -/
theorem not_idempotencyKeys_identify : ¬ ∀ (executions : Bool → WorkflowExecution)
    (first second : Bool) (place otherPlace : Nat) (request other : ExecutionRequest),
    Occurs (executions first) place request → Occurs (executions second) otherPlace other →
    request.idempotencyKey = other.idempotencyKey → request.agentId = other.agentId := by
  intro claim
  have ofHr : (requestAt (twoAgents false) 0).map (fun request =>
      (request.idempotencyKey, request.agentId)) =
      some ("run-1:user.workflow.0f8fad5b-d9cb-469f-a165-70867728950e.0.read", "hr") := by
    decide
  have ofFinance : (requestAt (twoAgents true) 0).map (fun request =>
      (request.idempotencyKey, request.agentId)) =
      some ("run-1:user.workflow.0f8fad5b-d9cb-469f-a165-70867728950e.0.read", "finance") := by
    decide
  obtain ⟨request, found, parts⟩ := map_eq_some_iff.mp ofHr
  obtain ⟨other, otherFound, otherParts⟩ := map_eq_some_iff.mp ofFinance
  obtain ⟨key, agent⟩ := Prod.mk.inj parts
  obtain ⟨otherKey, otherAgent⟩ := Prod.mk.inj otherParts
  have sameAgent := claim twoAgents false true 0 0 request other (occurs_of_requestAt found)
    (occurs_of_requestAt otherFound) (key.trans otherKey.symm)
  rw [agent, otherAgent] at sameAgent
  revert sameAgent
  decide

end BoundedWorkflow

end LongHub
