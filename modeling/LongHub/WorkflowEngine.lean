import LongHub.BridgeAuthorization
import LongHub.DoubleNumber
import LongHub.CrashSafety

/-!
# Workflows

Bounded workflows and the engine that executes them.
-/

namespace LongHub

/-! ## Bounded workflows -/

inductive WorkflowLiteral where
  | null
  | bool (value : Bool)
  | number (literal : String)
  | text (value : String)
  deriving DecidableEq

inductive WorkflowStep where
  | skill (id skillId : String) (input : List (String × WorkflowLiteral))
  | confirm (id title summary : String)
  | branch (id inputKey : String) (equals : WorkflowLiteral)
      (thenSteps elseSteps : List WorkflowStep)
  | loop (id : String) (iterations : Nat) (steps : List WorkflowStep)

def WorkflowStep.id : WorkflowStep → String
  | skill id _ _ | confirm id _ _ | branch id _ _ _ _ | loop id _ _ => id

structure BoundedWorkflow where
  workflowId : String
  name : String
  steps : List WorkflowStep

namespace BoundedWorkflow

def literalOf : JsonValue → Option WorkflowLiteral
  | .null => some .null
  | .bool value => some (.bool value)
  | .number literal => some (.number literal)
  | .text value => some (.text value)
  | .array _ | .record _ => none

def isIdChar (char : Char) : Bool := char.isAlphanum || char ∈ ['.', '_', '-']

def stepIdPattern : String → Bool := matchesClasses isIdChar isIdChar 0 63

def workflowSkillIdPattern : String → Bool :=
  matchesClasses (fun char => char.isLower || char.isDigit)
    (fun char => char.isLower || char.isDigit || char ∈ ['.', '_', '-']) 2 159

def workflowPrefix : List Char := "user.workflow.".toList

/-- The prefix in any case, then 36 hexadecimal digits or hyphens. -/
def workflowIdPattern (text : String) : Bool :=
  let chars := text.toList.map Char.toLower
  let rest := chars.drop workflowPrefix.length
  workflowPrefix.isPrefixOf chars && rest.length = 36 &&
    rest.all fun char => char.isDigit || char ∈ ['a', 'b', 'c', 'd', 'e', 'f', '-']

def isFilledText (text : String) (most : Nat) : Bool :=
  trimText text ≠ "" && utf16Length text ≤ most

/-- The ids and the count of the steps parsed so far. -/
structure VisitedSteps where
  ids : List String
  total : Nat

def skillStep (id : String) (fields : List (String × JsonValue)) : Option WorkflowStep :=
  match fields.lookup "skillId", fields.lookup "input" with
  | some (.text skillId), some (.record input) =>
    if hasExactKeys fields ["id", "kind", "skillId", "input"] ∧
        workflowSkillIdPattern skillId ∧ ¬ workflowPrefix.isPrefixOf skillId.toList ∧
        input.length ≤ 32 then
      (input.mapM fun field => (literalOf field.2).map (field.1, ·)).map (.skill id skillId)
    else none
  | _, _ => none

def confirmStep (id : String) (fields : List (String × JsonValue)) : Option WorkflowStep :=
  match fields.lookup "title", fields.lookup "summary" with
  | some (.text title), some (.text summary) =>
    if hasExactKeys fields ["id", "kind", "title", "summary"] ∧
        isFilledText title 80 ∧ isFilledText summary 500 then
      some (.confirm id title summary)
    else none
  | _, _ => none

def branchParts (fields : List (String × JsonValue)) :
    Option (String × WorkflowLiteral × List JsonValue × List JsonValue) :=
  match fields.lookup "inputKey", fields.lookup "then", fields.lookup "else" with
  | some (.text inputKey), some (.array thenSteps), some (.array elseSteps) =>
    if hasExactKeys fields ["id", "kind", "inputKey", "equals", "then", "else"] ∧
        stepIdPattern inputKey then
      ((fields.lookup "equals").bind literalOf).map (inputKey, ·, thenSteps, elseSteps)
    else none
  | _, _, _ => none

def loopParts (fields : List (String × JsonValue)) : Option (Nat × List JsonValue) :=
  match fields.lookup "iterations", fields.lookup "steps" with
  | some (.number literal), some (.array steps) =>
    match DoubleNumber.safeInteger literal with
    | some iterations =>
      if hasExactKeys fields ["id", "kind", "iterations", "steps"] ∧ 1 ≤ iterations ∧
          iterations ≤ 5 ∧ steps ≠ [] then some (iterations.toNat, steps)
      else none
    | none => none
  | _, _ => none

abbrev Visit := List JsonValue → VisitedSteps → Except String (List WorkflowStep × VisitedSteps)

def visitKind (visit : Visit) (id : String) (fields : List (String × JsonValue))
    (visited : VisitedSteps) : Except String (WorkflowStep × VisitedSteps) :=
  match fields.lookup "kind" with
  | some (.text kind) =>
    if kind = "skill" then do
      let step ← Except.require (skillStep id fields) "Workflow Skill 步骤无效"
      return (step, visited)
    else if kind = "confirm" then do
      let step ← Except.require (confirmStep id fields) "Workflow 确认步骤无效"
      return (step, visited)
    else if kind = "branch" then do
      let (inputKey, equals, thenSteps, elseSteps) ←
        Except.require (branchParts fields) "Workflow 分支步骤无效"
      let (thenSteps, visited) ← visit thenSteps visited
      let (elseSteps, visited) ← visit elseSteps visited
      return (.branch id inputKey equals thenSteps elseSteps, visited)
    else if kind = "loop" then do
      let (iterations, steps) ← Except.require (loopParts fields) "Workflow 循环步骤无效"
      let (steps, visited) ← visit steps visited
      return (.loop id iterations steps, visited)
    else .error "Workflow 未知步骤类型"
  | _ => .error "Workflow 未知步骤类型"

def visitStep (visit : Visit) (value : JsonValue) (visited : VisitedSteps) :
    Except String (WorkflowStep × VisitedSteps) :=
  match value with
  | .record fields =>
    if visited.total + 1 > 20 then .error "Workflow 步数或步骤无效"
    else
      match fields.lookup "id" with
      | some (.text id) =>
        if stepIdPattern id ∧ id ∉ visited.ids then
          visitKind visit id fields ⟨id :: visited.ids, visited.total + 1⟩
        else .error "Workflow step ID 无效或重复"
      | _ => .error "Workflow step ID 无效或重复"
  | _ => .error "Workflow 步数或步骤无效"

def visitEach (visit : Visit) : Visit
  | [], visited => .ok ([], visited)
  | value :: rest, visited => do
    let (step, visited) ← visitStep visit value visited
    let (steps, visited) ← visitEach visit rest visited
    return (step :: steps, visited)

/-- By the levels that are left. -/
def visitSteps : Nat → Visit
  | 0 => fun _ _ => .error "Workflow 深度超过 3"
  | levels + 1 => visitEach (visitSteps levels)

def parseBoundedWorkflow (input : JsonValue) : Except String BoundedWorkflow :=
  match input with
  | .record fields =>
    if hasExactKeys fields ["schemaVersion", "workflowId", "name", "steps"] then
      match fields.lookup "schemaVersion", fields.lookup "workflowId", fields.lookup "name",
        fields.lookup "steps" with
      | some (.text schema), some (.text workflowId), some (.text name), some (.array steps) =>
        if schema = "longhub/workflow/v1" ∧ workflowIdPattern workflowId ∧
            isFilledText name 80 ∧ steps ≠ [] then do
          let (steps, _) ← visitSteps 3 steps ⟨[], 0⟩
          return ⟨workflowId, name, steps⟩
        else .error "Workflow 字段无效"
      | _, _, _, _ => .error "Workflow 字段无效"
    else .error "Workflow 格式无效"
  | _ => .error "Workflow 格式无效"

end BoundedWorkflow

/-! ## The engine of bounded workflows -/

namespace BoundedWorkflow

inductive SkillSideEffect where
  | none
  | localRecoverable
  | externalWrite
  deriving DecidableEq

structure WorkflowSkillDescriptor where
  sideEffect : SkillSideEffect
  requiresConfirmation : Bool

structure WorkflowStepResult where
  output : JsonValue
  costMicros : Int

structure CompletedResult extends WorkflowStepResult where
  safe : isSafeInteger costMicros = true
  nonnegative : 0 ≤ costMicros

structure WorkflowExecutionContext where
  runId : String
  agentId : String
  input : List (String × WorkflowLiteral)
  maxCostMicros : Int
  maxDurationMs : Int

structure ConfirmationRequest where
  runId : String
  stepId : String
  agentId : String
  title : String
  summary : String

structure ExecutionRequest where
  runId : String
  stepId : String
  agentId : String
  skillId : String
  payload : List (String × WorkflowLiteral)
  idempotencyKey : String

structure StepCheck where
  aborted : Bool
  elapsedMs : Int

/-- What the engine asks of its host. -/
inductive WorkflowCall where
  | check
  | describeSkill (skillId : String)
  | requestConfirmation (request : ConfirmationRequest)
  | getCompleted (request : ExecutionRequest)
  | authorizeAndExecute (request : ExecutionRequest)
  | setCompleted (request : ExecutionRequest) (result : CompletedResult)

@[reducible]
def WorkflowCall.Answer : WorkflowCall → Type
  | check => StepCheck
  | describeSkill _ => WorkflowSkillDescriptor
  | requestConfirmation _ => Bool
  | getCompleted _ => Option CompletedResult
  | authorizeAndExecute _ => WorkflowStepResult
  | setCompleted _ _ => Unit

abbrev WorkflowProgram (α : Type) := Program WorkflowCall WorkflowCall.Answer String α

namespace Engine

def ask (request : WorkflowCall) : WorkflowProgram request.Answer := .perform request

def check : WorkflowProgram StepCheck := ask .check

def describeSkill (skillId : String) : WorkflowProgram WorkflowSkillDescriptor :=
  ask (.describeSkill skillId)

def requestConfirmation (request : ConfirmationRequest) : WorkflowProgram Bool :=
  ask (.requestConfirmation request)

variable (request : ExecutionRequest)

def getCompleted : WorkflowProgram (Option CompletedResult) :=
  ask (.getCompleted request)

def authorizeAndExecute : WorkflowProgram WorkflowStepResult :=
  ask (.authorizeAndExecute request)

def setCompleted (result : CompletedResult) :
    WorkflowProgram Unit := ask (.setCompleted request result)

end Engine

/-- What is counted and put out while the steps run. -/
structure EngineState where
  costMicros : Int
  executedSteps : Nat
  outputs : InsertionMap String JsonValue

/-- Assign a property of an ordinary object: `__proto__` names no own property. -/
def assignOutput (outputs : InsertionMap String JsonValue) (id : String) (output : JsonValue) :
    InsertionMap String JsonValue :=
  if id = "__proto__" then outputs else outputs.set id output

section Execution

variable (context : WorkflowExecutionContext)

def startStep (state : EngineState) : WorkflowProgram EngineState := do
  let found ← Engine.check
  if found.aborted then .throw "WORKFLOW_CANCELLED"
  else if context.maxDurationMs < found.elapsedMs then .throw "WORKFLOW_TIMEOUT"
  else if 20 ≤ state.executedSteps then .throw "WORKFLOW_STEP_BUDGET_EXCEEDED"
  else pure { state with executedSteps := state.executedSteps + 1 }

def confirm (stepPath title summary : String) : WorkflowProgram Unit := do
  let approved ← Engine.requestConfirmation
    ⟨context.runId, stepPath, context.agentId, title, summary⟩
  if approved then pure () else .throw "WORKFLOW_CONFIRMATION_DENIED"

def executionRequest (stepPath skillId : String) (payload : List (String × WorkflowLiteral)) :
    ExecutionRequest where
  runId := context.runId
  stepId := stepPath
  agentId := context.agentId
  skillId
  payload
  idempotencyKey := context.runId ++ ":" ++ stepPath

/-- A completed result is reused; else the Skill runs. -/
def resultOf (request : ExecutionRequest) : WorkflowProgram CompletedResult := do
  match ← Engine.getCompleted request with
  | some result => pure result
  | none =>
    let result ← Engine.authorizeAndExecute request
    if accepted : isSafeInteger result.costMicros = true ∧ 0 ≤ result.costMicros then
      let completed : CompletedResult := ⟨result, accepted.1, accepted.2⟩
      Engine.setCompleted request completed
      pure completed
    else .throw "Workflow 子步骤费用无效"

def admitSkill (stepPath skillId : String) : WorkflowProgram Unit := do
  let descriptor ← Engine.describeSkill skillId
  if descriptor.sideEffect = .externalWrite then .throw "WORKFLOW_EXTERNAL_WRITE_FORBIDDEN"
  else if descriptor.requiresConfirmation then
    confirm context stepPath ("执行 " ++ skillId)
      (if descriptor.sideEffect = .localRecoverable then "将产生可恢复的本机变更"
        else "执行只读能力")
  else pure ()

def runSkill (id stepPath skillId : String) (payload : List (String × WorkflowLiteral))
    (state : EngineState) : WorkflowProgram EngineState := do
  admitSkill context stepPath skillId
  let result ← resultOf (executionRequest context stepPath skillId payload)
  if context.maxCostMicros < state.costMicros + result.costMicros then
    .throw "WORKFLOW_COST_BUDGET_EXCEEDED"
  else
    pure { state with
      costMicros := state.costMicros + result.costMicros
      outputs := assignOutput state.outputs id result.output }

def runIterations (body : Nat → EngineState → WorkflowProgram EngineState) :
    Nat → Nat → EngineState → WorkflowProgram EngineState
  | 0, _, state => pure state
  | left + 1, iteration, state => do
    let state ← body iteration state
    runIterations body left (iteration + 1) state

def stepPathOf (path : String) (index : Nat) (id : String) : String :=
  path ++ "." ++ toString index ++ "." ++ id

mutual

def runSteps : List WorkflowStep → String → Nat → EngineState → WorkflowProgram EngineState
  | [], _, _, state => pure state
  | step :: rest, path, index, state => do
    let state ← startStep context state
    let state ← runStep step (stepPathOf path index step.id) state
    runSteps rest path (index + 1) state

def runStep : WorkflowStep → String → EngineState → WorkflowProgram EngineState
  | .confirm _ title summary, stepPath, state => do
    confirm context stepPath title summary
    pure state
  | .skill id skillId payload, stepPath, state =>
    runSkill context id stepPath skillId payload state
  | .branch _ inputKey equals thenSteps elseSteps, stepPath, state =>
    if context.input.lookup inputKey = some equals then
      runSteps thenSteps (stepPath ++ ".branch") 0 state
    else runSteps elseSteps (stepPath ++ ".branch") 0 state
  | .loop _ iterations steps, stepPath, state =>
    runIterations
      (fun iteration state => runSteps steps (stepPath ++ ".loop-" ++ toString iteration) 0 state)
      iterations 0 state

end

end Execution

structure WorkflowExecutionResult where
  runId : String
  outputs : InsertionMap String JsonValue
  costMicros : Int
  executedSteps : Nat

def contextIdPattern : String → Bool :=
  let allowed := fun char : Char => isIdChar char || char = ':'
  matchesClasses allowed allowed 0 159

def isValidContext (context : WorkflowExecutionContext) : Bool :=
  contextIdPattern context.runId && contextIdPattern context.agentId &&
    isSafeInteger context.maxCostMicros && 0 ≤ context.maxCostMicros &&
    isSafeInteger context.maxDurationMs && 100 ≤ context.maxDurationMs &&
    context.maxDurationMs ≤ 10 * 60000

def execute (input : JsonValue) (context : WorkflowExecutionContext) :
    WorkflowProgram WorkflowExecutionResult := do
  let workflow ← Program.ofExcept (parseBoundedWorkflow input)
  if !isValidContext context then .throw "Workflow 执行上下文无效"
  else
    let state ← runSteps context workflow.steps workflow.workflowId 0 ⟨0, 0, InsertionMap.empty⟩
    return ⟨context.runId, state.outputs, state.costMicros, state.executedSteps⟩

end BoundedWorkflow

end LongHub
