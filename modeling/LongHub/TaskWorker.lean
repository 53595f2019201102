import LongHub.TaskServer

/-!
# The task worker

`runTask` claims a pending task, checks its rights once more, calls the Executor under a deadline
and stores how the task ended.
-/

namespace LongHub

open Bool JsonValue List

structure DeviceIdentity where
  deviceId : String
  tenantId : String
  userId : Option String

namespace DeviceIdentity

def account (device : DeviceIdentity) : Option String :=
  device.userId.filter (· ≠ "")

end DeviceIdentity

def reservedCloudInputKeys : List String :=
  ["skill_id", "skillId", "skill_version", "skillVersion", "plan_id", "planId",
    "agent_id", "agentId", "tool_call_id", "toolCallId", "session_key_hash",
    "sessionKeyHash", "request_id", "requestId", "idempotency_key", "idempotencyKey",
    "schema_version", "schemaVersion"]

def isCheckedInput (strict : Bool) (input : List (String × JsonValue)) : Bool :=
  if strict then !input.any fun field => reservedCloudInputKeys.contains field.1
  else (textField input "skill_id").isSome || (textField input "skillId").isSome

structure NormalizedCloudTaskCall where
  strict : Bool
  requestId : String
  skillId : String
  skillVersion : String
  agentId : String
  toolCallId : String
  sessionKeyHash : String
  idempotencyKey : String
  requestedPlanId : Option String
  input : List (String × JsonValue)
  checkedInput : isCheckedInput strict input = true

private theorem not_mem_of_textField_eq_none {fields : List (String × JsonValue)} {key : String}
    (absent : ∀ field ∈ fields, field.1 ≠ key) : textField fields key = none := by
  have lookupNone : fields.lookup key = none := by
    rw [lookup_eq_none_iff]
    exact fun field mem => by simpa using Ne.symm (absent field mem)
  simp [textField, lookupNone]

private theorem mem_keys_of_textField {fields : List (String × JsonValue)} {key value : String}
    (found : textField fields key = some value) : key ∈ fields.map Prod.fst := by
  by_contra absent
  rw [@not_mem_of_textField_eq_none _ key] at found
  · cases found
  · intro field mem same
    exact absent (mem_map.mpr ⟨field, mem, same⟩)

theorem NormalizedCloudTaskCall.not_isPlaceholder (call : NormalizedCloudTaskCall)
    (expected : Option CloudTaskAdmissionPlaceholder) :
    isCloudTaskAdmissionPlaceholder (.record call.input) expected = false := by
  by_contra isPlaceholder
  simp only [isCloudTaskAdmissionPlaceholder, not_eq_false, and_eq_true,
    beq_iff_eq] at isPlaceholder
  obtain ⟨⟨lengthEq, schema⟩, binding⟩ := isPlaceholder
  have schemaKey := mem_keys_of_textField schema
  cases strict : call.strict with
  | true =>
    -- a strict input has no reserved key, and `schema_version` is one
    have checked := call.checkedInput
    obtain ⟨field, mem, keyEq⟩ := mem_map.mp schemaKey
    simp only [isCheckedInput, strict, if_true, not_eq_true', any_eq_false] at checked
    exact checked field mem (by rw [keyEq]; decide)
  | false =>
    -- a legacy input has a fourth key besides the three of a placeholder
    have checked := call.checkedInput
    simp only [isCheckedInput, strict, false_eq_true, if_false, or_eq_true,
      Option.isSome_iff_exists] at checked
    split at binding
    · next fingerprint digest fingerprintEq digestEq =>
      have fourth {key value : String}
          (found : textField call.input key = some value)
          (other : key ∉ ["schema_version", "request_fingerprint", "input_digest"]) :
          False := by
        have distinct : [key, "schema_version", "request_fingerprint",
            "input_digest"].Nodup := nodup_cons.mpr ⟨other, by decide⟩
        have contained : [key, "schema_version", "request_fingerprint",
            "input_digest"] ⊆ call.input.map Prod.fst := by
          simp only [cons_subset]
          exact ⟨mem_keys_of_textField found, schemaKey, mem_keys_of_textField fingerprintEq,
            mem_keys_of_textField digestEq, nil_subset _⟩
        have atMost := (subperm_of_subset distinct contained).length_le
        simp [lengthEq] at atMost
      rcases checked with ⟨value, found⟩ | ⟨value, found⟩
      · exact fourth found (by decide)
      · exact fourth found (by decide)
    · cases binding

structure CloudTaskRequestFingerprintInput where
  schemaVersion : String
  requestId : String
  kind : String
  tenantId : String
  deviceId : String
  agentId : String
  skillId : String
  skillVersion : String
  toolCallId : String
  sessionKeyHash : String
  idempotencyKey : String
  requestedPlanId : Option String
  inputDigest : String

structure TaskServerOptions where
  allowDevelopmentTasks : Bool
  computeExecutorInputDigest : List (String × JsonValue) → String
  computeCloudTaskRequestFingerprint : CloudTaskRequestFingerprintInput → String

namespace TaskServer

abbrev query (request : ServerCall) : ServerProgram request.Answer :=
  Program.perform request

def attempt (request : ServerCall) : ServerProgram (Except ServerError request.Answer) :=
  .call request .pure

/-- One call whose error is dropped. -/
def tolerate (request : ServerCall) : ServerProgram Unit := do
  let _ ← attempt request
  return ()

def getTaskOrNone (taskId : Nat) : ServerProgram (Option CloudTask) := do
  match ← attempt (.getTask taskId) with
  | .ok task => return task
  | .error _ => return none

def sendTask (status : Nat) (task : Option CloudTask) : ServerProgram Unit :=
  query (.respond (.task status task))

def sendError (status : Nat) (code message : String) (retryable : Bool) : ServerProgram Unit :=
  query (.respond (.problem ⟨status, code, message, retryable⟩))

structure RunTaskParams where
  taskId : Nat
  device : DeviceIdentity
  call : NormalizedCloudTaskCall
  grant : Option CloudSkillAccessGrant
  reservationId : Option String

def taskError (code message : String) (retryable : Bool) : TaskPatch :=
  { error := some ⟨code, message, retryable⟩ }

variable (params : RunTaskParams)

def releaseReservation : ServerProgram Unit :=
  match params.reservationId with
  | none => return ()
  | some reservationId => tolerate (.releaseCloudSkillExecution
      ⟨some reservationId, some (generatedId "ct-" params.taskId), params.device.userId,
        some params.device.tenantId, none⟩)

def completeRunningTask (taskId : Nat) (status : CloudTaskStatus) (patch : TaskPatch) :
    ServerCall :=
  .transitionIfStatus taskId [.running] status patch

def failAndRelease (patch : TaskPatch) : ServerProgram Unit := do
  let _ ← query (completeRunningTask params.taskId .failed patch)
  releaseReservation params

def tryFailAndRelease (status : CloudTaskStatus)
    (patch : TaskPatch) : ServerProgram Unit := do
  tolerate (completeRunningTask params.taskId status patch)
  releaseReservation params

variable (rest : ServerProgram Unit)

/-- Continue only while the task is running and nobody aborted the worker. -/
def unlessStopped :
    ServerProgram Unit := do
  let aborted : Bool ← query .isAborted
  if aborted then releaseReservation params
  else
    match ← attempt (.getTask params.taskId) with
    | .error _ =>
      tryFailAndRelease params .failed (taskError "TASK_STATE_UNAVAILABLE" "云端任务状态暂时不可用" true)
    | .ok current =>
      let abortedNow : Bool ← query .isAborted
      if abortedNow || !(current.any fun task => task.status == .running) then
        releaseReservation params
      else rest

def recheckGrant : ServerProgram Unit :=
  match params.grant, params.device.account with
  | some grant, some userId => do
    let active : Bool ← query (.isUserActive userId)
    unlessStopped params do
      let currentGrant : Option CloudSkillAccessGrant ←
        (if active then query (.resolveCloudSkillAccess
          ⟨userId, params.device.tenantId, params.call.skillId, some [grant.plan.planId], none⟩)
        else pure none : ServerProgram (Option CloudSkillAccessGrant))
      unlessStopped params <| if currentGrant.any fun current =>
            current.subscription.subscriptionId == grant.subscription.subscriptionId
        then rest
        else failAndRelease params (taskError "SUBSCRIPTION_EXPIRED" "云端 Skill 订阅已失效" false)
  | _, _ => rest

def policyError : PolicyDenial → TaskPatch
  | .emergencyDisabled => taskError "FEATURE_EMERGENCY_DISABLED" "该功能已紧急停用" true
  | .policyUnavailable => taskError "FEATURE_POLICY_UNAVAILABLE" "功能策略当前不可用" true
  | .accessDenied => taskError "FEATURE_ACCESS_DENIED" "该功能当前未开放" false

def recheckPolicy :
    ServerProgram Unit := do
  let denial : Option PolicyDenial ← query .checkDeviceFeaturePolicy
  unlessStopped params <| match denial with
    | some denial => failAndRelease params (policyError denial)
    | none => rest

variable (options : TaskServerOptions)

def recheckRelease (params : RunTaskParams) (rest : ServerProgram Unit) : ServerProgram Unit :=
  if params.grant.isSome && !options.allowDevelopmentTasks then (do
    let check : ReleaseCheck ←
      query (.checkExecutionRelease params.call.skillId params.call.skillVersion)
    unlessStopped params <| match check with
      | .refused problem => failAndRelease params
          (taskError problem.code problem.message problem.retryable)
      | .ok => rest)
  else rest

def recheckBinding (params : RunTaskParams) (rest : ServerProgram Unit) : ServerProgram Unit :=
  if !options.allowDevelopmentTasks && params.call.strict then (do
    match ← attempt (.resolveCloudAgentSkillBinding params.call.agentId
        params.call.skillId) with
    | .error _ =>
      unlessStopped params (tryFailAndRelease params .failed
        (taskError "AGENT_SKILL_BINDING_UNAVAILABLE" "Agent-Skill 绑定服务暂时不可用" true))
    | .ok binding =>
      unlessStopped params <| if binding then rest
        else tryFailAndRelease params .failed
          (taskError "AGENT_SKILL_BINDING_REQUIRED" "当前 Agent 未绑定该云端 Skill" false))
  else rest

def readResponse :
    ServerProgram (Option (Option ExecutorBody)) := do
  match ← attempt .readExecutorResponse with
  | .ok body => return some body
  | .error error =>
    let aborted : Bool ← query .isAborted
    if error.isAbortError || aborted then .throw error
    else
      failAndRelease params (taskError "EXECUTOR_INVALID_RESPONSE" "执行器响应无效" true)
      return none

mutual

def validateJsonValue (depth keys : Nat) : JsonValue → Option Nat
  | .array items =>
    if 32 < depth || 256 < items.length then none
    else validateItems (depth + 1) keys items
  | .record fields =>
    if 32 < depth || 256 < keys + fields.length then none
    else validateFields (depth + 1) (keys + fields.length) fields
  | _ => if 32 < depth then none else some keys

def validateItems (depth keys : Nat) : List JsonValue → Option Nat
  | [] => some keys
  | item :: rest =>
    match validateJsonValue depth keys item with
    | none => none
    | some counted => validateItems depth counted rest

def validateFields (depth keys : Nat) : List (String × JsonValue) → Option Nat
  | [] => some keys
  | field :: rest =>
    match validateJsonValue depth keys field.2 with
    | none => none
    | some counted => validateFields depth counted rest

end

def completeExecution (ok : Bool) (body : Option ExecutorBody) : ServerProgram Unit :=
  match body with
  | none => failAndRelease params (taskError "EXECUTOR_INVALID_RESPONSE" "执行器响应无效" true)
  | some body => do
    let current : Option CloudTask ← query (.getTask params.taskId)
    if current.any fun task => task.status == .cancelled then releaseReservation params
    else if !ok then
      failAndRelease params
        (taskError (body.code.getD "EXECUTOR_ERROR") "云端 Skill 执行失败" body.retryable)
    else if body.output.any fun output => (validateJsonValue 0 0 output).isNone then
      .throw .invalidJsonValue
    else do
      let _ ← query (completeRunningTask params.taskId .succeeded { output := body.output })
      releaseReservation params

def callExecutor (params : RunTaskParams) :
    ServerProgram Unit := do
  let aborted : Bool ← query .isAborted
  if aborted then releaseReservation params
  else
    query .setTimeout
    let fetched ← Program.tryFinally (do
      let ok : Bool ← query (.fetchExecutor
        ⟨params.taskId, params.device.tenantId, params.call.skillId,
          params.call.idempotencyKey, options.computeExecutorInputDigest params.call.input,
          .record params.call.input⟩)
      let body ← readResponse params
      return body.map fun body => (ok, body)) (query .clearTimeout)
    match fetched with
    | none => return ()
    | some (ok, body) => completeExecution params ok body

def runClaimedTask (params : RunTaskParams) :
    ServerProgram Unit := do
  query (.registerController params.taskId)
  unlessStopped params <| recheckGrant params <| recheckPolicy params <|
    recheckRelease options params <| recheckBinding options params <|
    unlessStopped params <| callExecutor options params

def runTaskBody (params : RunTaskParams) :
    ServerProgram Unit := do
  let claimed : Option CloudTask ← query (.claimPendingTask params.taskId)
  match claimed with
  | none => releaseReservation params
  | some _ => runClaimedTask options params

def recoverTask (error : ServerError) : ServerProgram Unit :=
  if error.isAbortError then
    tryFailAndRelease params .timedOut (taskError "EXECUTION_TIMEOUT" "云端 Skill 执行超时" true)
  else tryFailAndRelease params .failed (taskError "EXECUTOR_UNREACHABLE" "执行器请求失败" true)

def runTask (params : RunTaskParams) : ServerProgram Unit :=
  ((runTaskBody options params).tryCatch (recoverTask params)).tryFinally
    (query (.deleteController params.taskId))

end TaskServer

end LongHub
