import LongHub.CanonicalStringify
import LongHub.TaskWorker

/-!
# The task handlers

`POST /v1/tasks` stages a task, reserves an execution for it, admits the input in place of the
placeholder and starts the worker; the cancel route ends an open task and aborts its worker.
-/

namespace LongHub

namespace TaskServer

structure PostTaskRequest where
  device : DeviceIdentity
  call : NormalizedCloudTaskCall

namespace PostTaskRequest

def owner (request : PostTaskRequest) : CloudTaskOwner where
  tenantId := request.device.tenantId
  deviceId := request.device.deviceId
  agentId := request.call.agentId

def inputDigest (options : TaskServerOptions) (request : PostTaskRequest) : String :=
  options.computeExecutorInputDigest request.call.input

def requestFingerprint (options : TaskServerOptions) (request : PostTaskRequest) : String :=
  options.computeCloudTaskRequestFingerprint
    { schemaVersion :=
        if request.call.strict then "longhub/cloud-skill-call/v1"
        else "longhub/cloud-skill-call/legacy"
      requestId := request.call.requestId
      kind := "skill.execute"
      tenantId := request.owner.tenantId
      deviceId := request.owner.deviceId
      agentId := request.owner.agentId
      skillId := request.call.skillId
      skillVersion := request.call.skillVersion
      toolCallId := request.call.toolCallId
      sessionKeyHash := request.call.sessionKeyHash
      idempotencyKey := request.call.idempotencyKey
      requestedPlanId := request.call.requestedPlanId
      inputDigest := request.inputDigest options }

end PostTaskRequest

def cloudTaskRequestFingerprintTuple (input : CloudTaskRequestFingerprintInput) : List JsonValue :=
  [.text "longhub/cloud-task-request-fingerprint/v1", .text input.schemaVersion,
    .text input.requestId, .text input.kind, .text input.tenantId, .text input.deviceId,
    .text input.agentId, .text input.skillId, .text input.skillVersion, .text input.toolCallId,
    .text input.sessionKeyHash, .text input.idempotencyKey,
    input.requestedPlanId.elim .null .text, .text input.inputDigest]

def canonicalCloudTaskRequestFingerprintPayload (input : CloudTaskRequestFingerprintInput) :
    String :=
  String.ofList (JsonValue.array (cloudTaskRequestFingerprintTuple input)).print

def computeCloudTaskRequestFingerprint (sha256 : String → String)
    (input : CloudTaskRequestFingerprintInput) : String :=
  "v1:" ++ sha256 (canonicalCloudTaskRequestFingerprintPayload input)

theorem canonicalCloudTaskRequestFingerprintPayload_injective :
    Function.Injective canonicalCloudTaskRequestFingerprintPayload := by
  intro one other same
  have numerals (input : CloudTaskRequestFingerprintInput) :
      JsonValue.Numerals (.array (cloudTaskRequestFingerprintTuple input)) := by
    apply JsonValue.Numerals.array
    cases plan : input.requestedPlanId <;>
      simp [cloudTaskRequestFingerprintTuple, plan, JsonValue.Numerals.text,
        JsonValue.Numerals.null]
  have tuples := JsonValue.eq_of_print_eq (numerals one) (numerals other)
    (String.ofList_injective same)
  obtain ⟨_, _, _, _, _, _, _, _, _, _, _, plan, _⟩ := one
  obtain ⟨_, _, _, _, _, _, _, _, _, _, _, otherPlan, _⟩ := other
  cases plan <;> cases otherPlan <;> simp [cloudTaskRequestFingerprintTuple] at tuples ⊢ <;> tauto

namespace PostTaskRequest

structure SameRequest (options : TaskServerOptions) (one other : PostTaskRequest) : Prop where
  owner : one.owner = other.owner
  strict : one.call.strict = other.call.strict
  requestId : one.call.requestId = other.call.requestId
  skill : one.call.skillId = other.call.skillId ∧ one.call.skillVersion = other.call.skillVersion
  toolCall : one.call.toolCallId = other.call.toolCallId ∧
    one.call.sessionKeyHash = other.call.sessionKeyHash
  key : one.call.idempotencyKey = other.call.idempotencyKey
  plan : one.call.requestedPlanId = other.call.requestedPlanId
  input : one.inputDigest options = other.inputDigest options

/-- The text that is hashed for a request. -/
def fingerprintPayload (options : TaskServerOptions) (request : PostTaskRequest) : String :=
  request.requestFingerprint { options with
    computeCloudTaskRequestFingerprint := canonicalCloudTaskRequestFingerprintPayload }

theorem fingerprintPayload_eq_iff (options : TaskServerOptions) (one other : PostTaskRequest) :
    one.fingerprintPayload options = other.fingerprintPayload options ↔
      one.SameRequest options other := by
  have schemas : (if one.call.strict then "longhub/cloud-skill-call/v1"
      else "longhub/cloud-skill-call/legacy") = (if other.call.strict then
        "longhub/cloud-skill-call/v1" else "longhub/cloud-skill-call/legacy") ↔
      one.call.strict = other.call.strict := by
    cases one.call.strict <;> cases other.call.strict <;> simp
  constructor
  · intro same
    simp only [fingerprintPayload, requestFingerprint, inputDigest] at same
    have inputs := canonicalCloudTaskRequestFingerprintPayload_injective same
    simp only [CloudTaskRequestFingerprintInput.mk.injEq, schemas, true_and] at inputs
    obtain ⟨strict, requestId, tenant, device, agent, skill, version, toolCall, session, key, plan,
      input⟩ := inputs
    have owner : one.owner = other.owner := by
      cases oneOwner : one.owner
      cases otherOwner : other.owner
      simp_all
    exact ⟨owner, strict, requestId, ⟨skill, version⟩, ⟨toolCall, session⟩, key, plan, input⟩
  · intro same
    have digests := same.input
    simp only [inputDigest] at digests
    simp only [fingerprintPayload, requestFingerprint, inputDigest, same.owner, same.strict,
      same.requestId, same.skill, same.toolCall, same.key, same.plan, digests]

end PostTaskRequest

/-- Two requests have one fingerprint just when they are the same, or when the different texts that
are hashed for them collide. -/
theorem requestFingerprint_eq_iff (options : TaskServerOptions) (sha256 : String → String)
    (one other : PostTaskRequest) :
    let hashing := { options with
      computeCloudTaskRequestFingerprint := computeCloudTaskRequestFingerprint sha256 }
    one.requestFingerprint hashing = other.requestFingerprint hashing ↔
      one.SameRequest options other ∨
        one.fingerprintPayload options ≠ other.fingerprintPayload options ∧
        sha256 (one.fingerprintPayload options) = sha256 (other.fingerprintPayload options) := by
  intro hashing
  have fingerprint (request : PostTaskRequest) : request.requestFingerprint hashing =
      "v1:" ++ sha256 (request.fingerprintPayload options) := by
    simp only [hashing, PostTaskRequest.requestFingerprint, PostTaskRequest.inputDigest,
      PostTaskRequest.fingerprintPayload, computeCloudTaskRequestFingerprint]
  rw [fingerprint, fingerprint, String.append_right_inj,
    ← PostTaskRequest.fingerprintPayload_eq_iff]
  by_cases texts : one.fingerprintPayload options = other.fingerprintPayload options <;>
    simp [texts]

def cloudSkillReservationProblem : CloudSkillExecutionRejectionReason → Problem
  | .quotaExceeded =>
    ⟨403, "CLOUD_SKILL_QUOTA_EXCEEDED", "云端 Skill 周期额度已用尽", false⟩
  | .rateLimited => ⟨429, "CLOUD_SKILL_RATE_LIMITED", "云端 Skill 调用过于频繁", true⟩
  | .concurrencyLimit =>
    ⟨429, "CLOUD_SKILL_CONCURRENCY_LIMIT", "云端 Skill 并发额度已用尽", true⟩
  | .subscriptionInactive | .skillNotEntitled =>
    ⟨403, "CLOUD_SKILL_SUBSCRIPTION_REQUIRED", "云端 Skill 订阅无效或已失效", false⟩
  | .planMismatch =>
    ⟨403, "CLOUD_SKILL_PLAN_MISMATCH", "云端 Skill 计划与订阅不匹配", false⟩
  | .idempotencyConflict =>
    ⟨409, "IDEMPOTENCY_CONFLICT", "幂等键已绑定其他请求", false⟩
  | .invalidRequest => ⟨422, "SKILL_INPUT_INVALID", "云端 Skill 执行请求无效", false⟩
  | .storageUnavailable =>
    ⟨503, "CLOUD_SKILL_USAGE_UNAVAILABLE", "云端 Skill 用量服务暂时不可用", true⟩

def sendUsageUnavailable : ServerProgram Unit :=
  sendError 503 "CLOUD_SKILL_USAGE_UNAVAILABLE" "云端 Skill 用量服务暂时不可用" true

def sendInvalidEnvelope : ServerProgram Unit :=
  sendError 422 "INVALID_TASK" "云端 Skill 请求必须使用 longhub/cloud-skill-call/v1" false

def isStagedFor (placeholder : CloudTaskAdmissionPlaceholder) (task : CloudTask) : Bool :=
  task.status == .pending && isCloudTaskAdmissionPlaceholder task.input (some placeholder)

def PostTaskRequest.runParams (request : PostTaskRequest) (taskId : Nat)
    (grant : Option CloudSkillAccessGrant) (reservationId : Option String) : RunTaskParams :=
  ⟨taskId, request.device, request.call, grant, reservationId⟩

variable (options : TaskServerOptions)

variable (request : PostTaskRequest)

def startTask (existed : Bool)
    (task : CloudTask) (grant : Option CloudSkillAccessGrant)
    (reservationId : Option String) : ServerProgram Unit := do
  sendTask (if existed then 200 else 201) (some task)
  runTask options (request.runParams task.taskId grant reservationId)

def releaseOf (userId : String) (taskId : Nat) (reservationId : String) : ServerCall :=
  .releaseCloudSkillExecution ⟨some reservationId, some (generatedId "ct-" taskId),
    some userId, some request.device.tenantId, none⟩

variable (placeholder : CloudTaskAdmissionPlaceholder)

def admitAndStart (existed : Bool) (taskId : Nat)
    (grant : CloudSkillAccessGrant) (userId reservationId : String) :
    ServerProgram Unit := do
  match ← attempt (.admitPendingTaskInput taskId placeholder
      (.record request.call.input)) with
  | .error _ =>
    tolerate (releaseOf request userId taskId reservationId)
    tolerate (.discardPendingTask taskId placeholder)
    sendUsageUnavailable
  | .ok (some admitted) =>
    startTask options request existed admitted (some grant) (some reservationId)
  | .ok none =>
    let current ← getTaskOrNone taskId
    if current.any fun task =>
        !isCloudTaskAdmissionPlaceholder task.input (some placeholder) then
      sendTask 200 current
    else
      tolerate (releaseOf request userId taskId reservationId)
      if current.any fun task => task.status == .cancelled then sendTask 200 current
      else sendUsageUnavailable

def refuseExpiredReservation (taskId : Nat)
    (userId reservationId : String) : ServerProgram Unit := do
  let current ← getTaskOrNone taskId
  if current.any fun task =>
      !isCloudTaskAdmissionPlaceholder task.input (some placeholder) then
    sendTask 200 current
  else
    tolerate (releaseOf request userId taskId reservationId)
    tolerate (.discardPendingTask taskId placeholder)
    sendError 503 "CLOUD_SKILL_USAGE_UNAVAILABLE" "云端 Skill 用量预约已失效" true

def reservationRequest (taskId : Nat) (grant : CloudSkillAccessGrant) (userId : String) :
    CloudSkillExecutionReservationRequest where
  taskId := generatedId "ct-" taskId
  userId
  tenantId := request.device.tenantId
  deviceId := request.device.deviceId
  agentId := request.call.agentId
  skillId := request.call.skillId
  planId := grant.plan.planId
  subscriptionId := some grant.subscription.subscriptionId
  inputDigest := some (request.inputDigest options)
  now := none
  leaseTtlMs := none

def reserveAndStart (existed : Bool) (taskId : Nat)
    (grant : CloudSkillAccessGrant) (userId : String) : ServerProgram Unit := do
  match ← attempt (.reserveCloudSkillExecution
      (reservationRequest options request taskId grant userId)) with
  | .error _ =>
    tolerate (.discardPendingTask taskId placeholder)
    sendUsageUnavailable
  | .ok (.error rejection) =>
    let problem := cloudSkillReservationProblem rejection.reason
    tolerate (.discardPendingTask taskId placeholder)
    sendError problem.status problem.code problem.message problem.retryable
  | .ok (.ok reservation) =>
    let now : Instant ← query .dateNow
    if reservation.releasedAt.isSome || reservation.leaseExpiresAt ≤ now then
      refuseExpiredReservation request placeholder taskId userId reservation.reservationId
    else
      admitAndStart options request placeholder existed taskId grant userId
        reservation.reservationId

/-- Run a task of development without a reservation, reserve for any other. -/
def admitTask (existed : Bool) (task : CloudTask)
    (grant : Option CloudSkillAccessGrant) : ServerProgram Unit :=
  match grant, request.device.account with
  | some grant, some userId =>
    reserveAndStart options request placeholder existed task.taskId grant userId
  | _, _ => startTask options request existed task grant none

def stageTask (stagedTask : Option CloudTask)
    (grant : Option CloudSkillAccessGrant) : ServerProgram Unit :=
  match stagedTask with
  | some task => admitTask options request placeholder true task grant
  | none => do
    let input : JsonValue :=
      if grant.isSome && request.device.account.isSome then placeholder.toJson
      else .record request.call.input
    let (task, existed) ← query (.createTask request.call.idempotencyKey "skill.execute"
      input request.owner (request.requestFingerprint options))
    if existed && !isStagedFor placeholder task then sendTask 200 (some task)
    else admitTask options request placeholder existed task grant

def requireGrant (found : Option CloudSkillAccessGrant)
    (rest : Option CloudSkillAccessGrant → ServerProgram Unit) : ServerProgram Unit :=
  match found with
  | none =>
    sendError 403 "CLOUD_SKILL_SUBSCRIPTION_REQUIRED" "云端 Skill 订阅无效、已到期或不匹配" false
  | some grant =>
    if request.call.requestedPlanId.any (· != grant.plan.planId) then
      sendError 403 "CLOUD_SKILL_PLAN_MISMATCH" "云端 Skill 计划与当前订阅不匹配" false
    else if !request.call.strict then sendInvalidEnvelope
    else do
      let check : ReleaseCheck ← query
        (.checkExecutionRelease request.call.skillId request.call.skillVersion)
      match check with
      | .refused problem =>
        sendError problem.status problem.code problem.message problem.retryable
      | .ok => rest (some grant)

def requireAccess (cloudPlanIds : List String)
    (rest : Option CloudSkillAccessGrant → ServerProgram Unit) : ServerProgram Unit :=
  if cloudPlanIds.isEmpty || options.allowDevelopmentTasks then
    if !options.allowDevelopmentTasks && !request.call.strict then sendInvalidEnvelope
    else rest none
  else
    match request.device.account with
    | none => sendError 403 "SUBSCRIPTION_REQUIRED" "需要有效的 LongHub 账号订阅" false
    | some userId => do
      let active : Bool ← query (.isUserActive userId)
      if !active then
        sendError 403 "SUBSCRIPTION_REQUIRED" "需要有效的 LongHub 账号订阅" false
      else
        let allowedPlanIds := request.call.requestedPlanId.elim cloudPlanIds fun planId =>
          cloudPlanIds.filter (· == planId)
        if allowedPlanIds.isEmpty then requireGrant request none rest
        else do
          let found : Option CloudSkillAccessGrant ← query (.resolveCloudSkillAccess
            ⟨userId, request.device.tenantId, request.call.skillId, some allowedPlanIds, none⟩)
          requireGrant request found rest

def requireBinding (cloudPlanIds : List String) (rest : ServerProgram Unit) : ServerProgram Unit :=
  if !options.allowDevelopmentTasks && request.call.strict && !cloudPlanIds.isEmpty then (do
    match ← attempt (.resolveCloudAgentSkillBinding request.call.agentId
        request.call.skillId) with
    | .error _ =>
      sendError 503 "AGENT_SKILL_BINDING_UNAVAILABLE" "Agent-Skill 绑定服务暂时不可用" true
    | .ok binding =>
      if binding then rest
      else sendError 403 "AGENT_SKILL_BINDING_REQUIRED" "当前 Agent 未绑定该云端 Skill" false)
  else rest

def passGates
    (rest : Option CloudSkillAccessGrant → ServerProgram Unit) : ServerProgram Unit := do
  let plans : List CloudSkillPlanRecord ← query .listCloudSkillPlans
  let cloudPlanIds := (plans.filter fun plan =>
    plan.skillIds.contains request.call.skillId).map CloudSkillPlanRecord.planId
  let allowed : Bool ← query .enforceDeviceFeaturePolicy
  if !allowed then return ()
  else if !options.allowDevelopmentTasks && cloudPlanIds.isEmpty then
    if !request.call.strict then sendInvalidEnvelope
    else sendError 403 "CLOUD_SKILL_SUBSCRIPTION_REQUIRED" "云端 Skill 未配置可用订阅计划" false
  else requireBinding options request cloudPlanIds <|
    requireAccess options request cloudPlanIds rest

/-- The handler up to its outer `catch`. -/
def postTaskBody : ServerProgram Unit :=
  match createCloudTaskAdmissionPlaceholder (request.requestFingerprint options)
      (request.inputDigest options) with
  | .error error => .throw (.ofStore error)
  | .ok placeholder => do
    let existing : Option CloudTaskIdempotencyBinding ← query
      (.findTaskByIdempotency request.call.idempotencyKey request.owner)
    match existing with
    | none => passGates options request (stageTask options request placeholder none)
    | some existing =>
      if existing.requestFingerprint ≠ request.requestFingerprint options then
        sendError 409 "IDEMPOTENCY_CONFLICT" "幂等键已绑定其他请求" false
      else if !isStagedFor placeholder existing.task then
        sendTask 200 (some existing.task)
      else
        passGates options request (stageTask options request placeholder (some existing.task))

def postTask : ServerProgram Unit :=
  (postTaskBody options request).tryCatch fun error =>
    if error = .idempotencyConflict then
      sendError 409 "IDEMPOTENCY_CONFLICT" "幂等键已绑定其他请求" false
    else sendError 503 "TASK_CREATE_FAILED" "云端任务暂时不可用" true

structure CancelTaskRequest where
  device : DeviceIdentity
  agentId : String
  taskId : Nat

def taskBelongsToDevice (task : CloudTask) (device : DeviceIdentity) (agentId : String) : Bool :=
  task.tenantId == device.tenantId && task.deviceId == device.deviceId && task.agentId == agentId

def abortAndRelease (request : CancelTaskRequest) : ServerProgram Unit := do
  query (.abortController request.taskId)
  tolerate (.releaseCloudSkillExecution ⟨none, some (generatedId "ct-" request.taskId),
    request.device.userId, some request.device.tenantId, none⟩)

/-- End an open task.  When the write throws, the row decides what happened,
but the worker has been aborted by then. -/
def cancelOpenTask (request : CancelTaskRequest) : ServerProgram Unit := do
  match ← attempt (.transitionIfStatus request.taskId [.pending, .running] .cancelled {}) with
  | .error error =>
    abortAndRelease request
    let current ← getTaskOrNone request.taskId
    if current.any fun task => task.status == .cancelled then abortAndRelease request
    else .throw error
  | .ok (some _) => abortAndRelease request
  | .ok none => return ()

def cancelTask (request : CancelTaskRequest) : ServerProgram Unit := do
  let task : Option CloudTask ← query (.getTask request.taskId)
  match task with
  | none => sendError 404 "TASK_NOT_FOUND" "未知任务" false
  | some task =>
    if !taskBelongsToDevice task request.device request.agentId then
      sendError 404 "TASK_NOT_FOUND" "未知任务" false
    else
      if !task.status.isTerminal then cancelOpenTask request
      let current : Option CloudTask ← query (.getTask request.taskId)
      sendTask 202 current

end TaskServer

end LongHub
