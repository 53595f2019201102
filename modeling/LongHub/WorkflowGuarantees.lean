import LongHub.WorkflowReport

/-!
# Guarantees of workflow executions

An execution stays within its step budget and executes only admitted skills; the costs before its
last call stay within the cost budget, and all of them do when it returns; and it reports the steps
that ran.
-/

namespace LongHub

open List Option Prod

namespace BoundedWorkflow

open Device

section Execute

variable {input : JsonValue} {context : WorkflowExecutionContext} {history : List WorkflowEvent}

theorem execute_cases (input : JsonValue) (context : WorkflowExecutionContext) :
    (∃ error, execute input context = .throw error) ∨
    ∃ workflow, parseBoundedWorkflow input = .ok workflow ∧ isValidContext context = true ∧
      execute input context = (runSteps context workflow.steps workflow.workflowId 0
        ⟨0, 0, InsertionMap.empty⟩ >>= fun state =>
          pure ⟨context.runId, state.outputs, state.costMicros, state.executedSteps⟩) := by
  unfold execute
  cases parsed : parseBoundedWorkflow input with
  | error error => exact Or.inl ⟨error, rfl⟩
  | ok workflow =>
    cases valid : isValidContext context with
    | false => exact Or.inl ⟨"Workflow 执行上下文无效", rfl⟩
    | true => exact Or.inr ⟨workflow, rfl, rfl, rfl⟩

theorem maxCostMicros_nonneg (valid : isValidContext context = true) :
    0 ≤ context.maxCostMicros := by
  simp only [isValidContext, Bool.and_eq_true, decide_eq_true_eq] at valid
  omega

theorem keeps_execute : recorder.Keeps (fun history => history = [] ∨ SafeHistory context history)
      (fun result after => result.executedSteps = checks after ∧ result.executedSteps ≤ 20 ∧
        (costs after).sum ≤ result.costMicros ∧ result.costMicros ≤ context.maxCostMicros)
      (execute input context) [] := by
  rcases execute_cases input context with ⟨error, ended⟩ | ⟨workflow, _, valid, runs⟩
  · rw [ended]
    exact keeps_throw (Or.inl rfl)
  · have nonneg := maxCostMicros_nonneg valid
    have start : Boundary context ⟨0, 0, InsertionMap.empty⟩ [] :=
      ⟨⟨safeHistory_nil nonneg, by simp, rfl, by simp [checks], by simp [checks]⟩,
        ⟨by simp [costs], by simp [costs]⟩, nonneg⟩
    rw [runs]
    apply Sound.mono_keep (fun _ safe => Or.inr safe)
    apply Keeps.then (keeps_runSteps workflow.steps workflow.workflowId 0 _ [] start)
    intro state after safe boundary
    have steps := boundary.inside.steps
    have few := boundary.inside.fewSteps
    exact keeps_pure safe ⟨steps.symm, steps ▸ few, boundary.spent.sum_le, boundary.within⟩

theorem runs_execute {workflow : BoundedWorkflow}
    (parsed : parseBoundedWorkflow input = .ok workflow) : recorder.Keeps (fun _ => True)
      (fun result after => ∃ state, Runs context
          (plan context.input workflow.steps workflow.workflowId 0) ⟨0, 0, InsertionMap.empty⟩ []
          state after ∧
        result = ⟨context.runId, state.outputs, state.costMicros, state.executedSteps⟩)
      (execute input context) [] := by
  rcases execute_cases input context with ⟨error, ended⟩ | ⟨other, otherParsed, valid, runs⟩
  · rw [ended]
    exact keeps_throw trivial
  · have same : other = workflow := Except.ok.inj (otherParsed.symm.trans parsed)
    subst same
    rw [runs]
    apply Keeps.then (runs_runSteps other.steps other.workflowId 0 _ [])
    intro state after _ ran
    exact keeps_pure trivial ⟨state, ran, rfl⟩

end Execute

def oneSkillWorkflow (id : String) : JsonValue :=
  .record [("schemaVersion", .text "longhub/workflow/v1"),
    ("workflowId", .text "user.workflow.0f8fad5b-d9cb-469f-a165-70867728950e"),
    ("name", .text "评估"),
    ("steps", .array [.record [("id", .text id), ("kind", .text "skill"),
      ("skillId", .text "longhub.skill.lookup"),
      ("input", .record [("query", .text "候选人")])]])]

def exampleContext (maxCostMicros : Int) : WorkflowExecutionContext where
  runId := "run-1"
  agentId := "hr"
  input := []
  maxCostMicros
  maxDurationMs := 10000

def readOnlyAnswers : (request : WorkflowCall) → Except String request.Answer
  | .check => .ok ⟨false, 0⟩
  | .describeSkill _ => .ok ⟨.none, false⟩
  | .requestConfirmation _ => .ok true
  | .getCompleted _ => .ok none
  | .authorizeAndExecute _ => .ok ⟨.bool true, 10⟩
  | .setCompleted _ _ => .ok ()

/-- The outcome and the history of a run with these answers. -/
def finishOneSkill (id : String) (maxCostMicros : Int) :
    Option (Except String WorkflowExecutionResult × List WorkflowEvent) :=
  recorder.finish (execute (oneSkillWorkflow id) (exampleContext maxCostMicros)) []
    (replicate 5 readOnlyAnswers)

/-- The costs that executed skills return before the last of them are within the
budget, and all of them are when the execution returns. -/
theorem costBound (input : JsonValue) (context : WorkflowExecutionContext) :
    (∀ history, recorder.Stops (execute input context) [] history →
      ∀ earlier last, costs history = earlier ++ [last] → earlier.sum ≤ context.maxCostMicros) ∧
    ∀ result history, recorder.Ends (execute input context) [] (.ok result) history →
      (costs history).sum ≤ result.costMicros ∧ result.costMicros ≤ context.maxCostMicros := by
  constructor
  · intro history stops earlier last split
    rcases keeps_execute.stops stops with rfl | safe
    · simp [costs] at split
    · have within := safe.cost
      rwa [split, dropLast_concat] at within
  · intro result history ends
    exact (keeps_execute.ends ends).2.2

theorem costBound_lookup : ∃ result history,
    recorder.Ends (execute (oneSkillWorkflow "read") (exampleContext 100)) [] (.ok result) history ∧
      costs history = [10] ∧ (costs history).sum ≤ result.costMicros ∧ result.costMicros ≤ 100 := by
  have runs : (finishOneSkill "read" 100).map (fun run => (run.1.isOk, costs run.2)) =
      some (true, [10]) := by decide
  obtain ⟨⟨outcome, history⟩, finishes, facts⟩ := map_eq_some_iff.mp runs
  obtain ⟨isOk, spent⟩ := Prod.mk.inj facts
  cases outcome with
  | error error => cases isOk
  | ok result =>
    have ends := ends_of_finish finishes
    exact ⟨result, history, ends, spent, (costBound _ _).2 result history ends⟩

/-- A skill may return more than what is left of the budget. -/
theorem not_costBound : ¬ ∀ (input : JsonValue) (context : WorkflowExecutionContext)
    (history : List WorkflowEvent), recorder.Stops (execute input context) [] history →
      (costs history).sum ≤ context.maxCostMicros := by
  intro claim
  have runs : (finishOneSkill "read" 5).map (fun run => costs run.2) = some [10] := by
    decide
  obtain ⟨⟨outcome, history⟩, finishes, spent⟩ := map_eq_some_iff.mp runs
  have within := claim _ _ history (ends_of_finish finishes).stops
  rw [spent] at within
  revert within
  decide

structure Reports (context : WorkflowExecutionContext) (planned : List PlannedStep)
    (history : List WorkflowEvent) (result : WorkflowExecutionResult) : Prop where
  runId : result.runId = context.runId
  requests : (resultsOf history).map fst = planned.filterMap (requestOf context)
  executedSteps : result.executedSteps = planned.length
  checked : checks history = planned.length
  fewSteps : planned.length ≤ 20
  cost : result.costMicros = ((resultsOf history).map fun entry => entry.2.costMicros).sum

theorem lookup_eq_none_iff_not_mem {assigned : List (String × JsonValue)} {id : String} :
    lastOutput assigned id = none ↔ id ∉ assigned.map fst := by
  rw [lastOutput, lookup_eq_none_iff]
  simp only [mem_reverse, List.mem_map, bne_iff_ne, ne_eq]
  constructor
  · rintro absent ⟨entry, mem, same⟩
    exact absent entry mem same.symm
  · intro absent entry mem same
    exact absent ⟨entry, mem, same.symm⟩

theorem outputs_agree_iff {assigned : List (String × JsonValue)} :
    (∀ id, (assigned.foldl (fun outputs entry => assignOutput outputs entry.1 entry.2)
      InsertionMap.empty).get? id = lastOutput assigned id) ↔
      "__proto__" ∉ assigned.map fst := by
  simp only [get?_foldl_assignOutput]
  constructor
  · intro agree
    have lost := agree "__proto__"
    exact lookup_eq_none_iff_not_mem.mp lost.symm
  · intro absent id
    split
    · next isProto =>
      rw [isProto]
      exact (lookup_eq_none_iff_not_mem.mpr absent).symm
    · rfl

theorem length_le_of_each {context : WorkflowExecutionContext} {history : List WorkflowEvent}
    (safe : SafeHistory context history) : history.length ≤ 126 := by
  have short := safe.short
  rcases eq_nil_or_concat history with rfl | ⟨front, last, rfl⟩
  · simp
  · have few := (safe.each front last [] (by simp)).fewSteps
    have more : checks (front ++ [last]) ≤ checks front + 1 := by
      rw [checks, countP_append]
      have one := countP_le_length (p := isCheck) (l := [last])
      exact Nat.add_le_add_left one _
    rw [concat_eq_append] at short ⊢
    omega

/-- Every history is short and safe; an execution that returns reports its steps
and their cost, and their outputs if and only if no skill step that it runs is
named `__proto__`. -/
theorem executionSafety_iff (input : JsonValue) (context : WorkflowExecutionContext) :
    (∀ history, recorder.Stops (execute input context) [] history →
      Each (SafeEvent context) history ∧ history.length ≤ 126) ∧
    ∀ workflow planned result history, parseBoundedWorkflow input = .ok workflow →
      planned = plan context.input workflow.steps workflow.workflowId 0 →
      recorder.Ends (execute input context) [] (.ok result) history →
      Reports context planned history result ∧
      ((∀ id, result.outputs.get? id = lastOutput (assignments planned (resultsOf history)) id) ↔
        "__proto__" ∉ planned.filterMap skillIdOf) := by
  constructor
  · intro history stops
    rcases keeps_execute.stops stops with rfl | safe
    · exact ⟨each_nil, by simp⟩
    · exact ⟨safe.each, length_le_of_each safe⟩
  · rintro workflow _ result history parsed rfl ends
    obtain ⟨executed, few, _, _⟩ := keeps_execute.ends ends
    obtain ⟨state, ⟨results, given, reported⟩, rfl⟩ := (runs_execute parsed).ends ends
    have given : resultsOf history = results := by simpa [resultsOf] using given
    have steps := reported.steps
    have cost := reported.cost
    have lengths := reported.length_results
    simp only [Nat.zero_add, Int.zero_add] at steps cost
    refine ⟨⟨rfl, by rw [given, reported.requests], steps, ?_, ?_, by rw [given, cost]⟩, ?_⟩
    · rw [← steps, ← executed]
    · rw [← steps]
      exact few
    · have ids : (assignments (plan context.input workflow.steps workflow.workflowId 0)
          results).map fst = (plan context.input workflow.steps workflow.workflowId
            0).filterMap skillIdOf := by
        rw [assignments, map_fst_zip]
        rw [length_map, lengths]
      rw [given, ← ids, reported.outputs]
      exact outputs_agree_iff

theorem parsed_oneSkill {name : String}
    (planned : (parseBoundedWorkflow (oneSkillWorkflow name)).toOption.map
      (fun workflow => (plan [] workflow.steps workflow.workflowId 0).filterMap skillIdOf) =
        some [name]) :
    ∃ workflow, parseBoundedWorkflow (oneSkillWorkflow name) = .ok workflow ∧
      (plan [] workflow.steps workflow.workflowId 0).filterMap skillIdOf = [name] := by
  obtain ⟨workflow, parsed, ids⟩ := map_eq_some_iff.mp planned
  refine ⟨workflow, ?_, ids⟩
  cases outcome : parseBoundedWorkflow (oneSkillWorkflow name) with
  | error error => simp [outcome, Except.toOption] at parsed
  | ok other => simpa [outcome, Except.toOption] using parsed

theorem executionSafety_lookup : ∃ (workflow : BoundedWorkflow) (result : WorkflowExecutionResult)
    (history : List WorkflowEvent),
    recorder.Ends (execute (oneSkillWorkflow "read") (exampleContext 100)) [] (.ok result) history ∧
      Each (SafeEvent (exampleContext 100)) history ∧
      ∀ id, result.outputs.get? id = lastOutput (assignments
        (plan [] workflow.steps workflow.workflowId 0) (resultsOf history)) id := by
  have runs : (finishOneSkill "read" 100).map (fun run => run.1.isOk) = some true := by
    decide
  obtain ⟨⟨outcome, history⟩, finishes, isOk⟩ := map_eq_some_iff.mp runs
  obtain ⟨workflow, parsed, ids⟩ := @parsed_oneSkill "read" (by decide)
  cases outcome with
  | error error => cases isOk
  | ok result =>
    have ends := ends_of_finish finishes
    obtain ⟨stops, returns⟩ := executionSafety_iff (oneSkillWorkflow "read") (exampleContext 100)
    refine ⟨workflow, result, history, ends, (stops history ends.stops).1, ?_⟩
    apply (returns workflow _ result history parsed rfl ends).2.mpr
    change "__proto__" ∉ (plan [] workflow.steps workflow.workflowId 0).filterMap skillIdOf
    rw [ids]
    decide

/-- A step may be named `__proto__`, and its output is lost. -/
theorem not_executionSafety : ¬ ∀ (input : JsonValue) (context : WorkflowExecutionContext)
    (workflow : BoundedWorkflow) (result : WorkflowExecutionResult)
    (history : List WorkflowEvent), parseBoundedWorkflow input = .ok workflow →
      recorder.Ends (execute input context) [] (.ok result) history →
      ∀ id, result.outputs.get? id = lastOutput (assignments
        (plan context.input workflow.steps workflow.workflowId 0) (resultsOf history)) id := by
  intro claim
  have runs : (finishOneSkill "__proto__" 100).map (fun run => run.1.isOk) = some true := by
    decide
  obtain ⟨⟨outcome, history⟩, finishes, isOk⟩ := map_eq_some_iff.mp runs
  obtain ⟨workflow, parsed, ids⟩ := @parsed_oneSkill "__proto__" (by decide)
  cases outcome with
  | error error => cases isOk
  | ok result =>
    have ends := ends_of_finish finishes
    have agree := claim _ _ workflow result history parsed ends
    obtain ⟨state, ⟨results, given, reported⟩, rfl⟩ := (runs_execute parsed).ends ends
    have given : resultsOf history = results := by simpa [resultsOf] using given
    have lengths := reported.length_results
    rw [given, reported.outputs] at agree
    apply outputs_agree_iff.mp agree
    rw [assignments, map_fst_zip]
    · exact ids ▸ mem_singleton_self _
    · rw [length_map, lengths]

end BoundedWorkflow

end LongHub
