import LongHub.BridgeAuthorization
import LongHub.GuardedRun

/-!
# The bridge of Core

`executeBridgeSkill` looks up the grant of the caller, waits for the online check of the
entitlement, and then decides without another pause: it consumes an approved confirmation where one
is needed and calls the executor.
-/

namespace LongHub

structure BridgeToolContext where
  agentId : String
  sessionKey : String
  sessionId : String
  toolCallId : String

structure BridgeCall where
  skillId : String
  input : JsonInput
  context : BridgeToolContext

inductive BridgeError where
  | forbidden (message : String)
  | confirmationRequired (confirmation : BridgeConfirmationRecord)
  | failed (message : String)

structure CoreRuntimeOptions where
  node : NodePlatform
  /-- `Date.parse`, none for `NaN`. -/
  parseDate : String → Option Instant
  /-- Whether `verifyBridgeEntitlement` is given. -/
  verifies : Bool
  defaultBudget : Option CoreBudget

structure CoreRuntime where
  bridgePolicy : BridgeExecutionPolicy
  confirmations : InsertionMap String BridgeConfirmationRecord
  confirmationIdsByBinding : InsertionMap String String

structure BridgeExecution where
  call : BridgeCall
  grant : BridgeSkillGrant
  permissions : List String
  budget : CoreBudget

namespace CoreRuntime

def defaultCoreBudget : CoreBudget := ⟨100000, 100, 60000⟩

def objectPrototypeNames : List String :=
  ["constructor", "hasOwnProperty", "isPrototypeOf", "propertyIsEnumerable", "toLocaleString",
    "toString", "valueOf", "__proto__", "__defineGetter__", "__defineSetter__",
    "__lookupGetter__", "__lookupSetter__"]

def replaceBridgePolicy (policy : BridgeExecutionPolicy) : CoreRuntime :=
  ⟨policy, .empty, .empty⟩

variable (options : CoreRuntimeOptions) (runtime : CoreRuntime)

variable (call : BridgeCall)

def lookupGrant : Except BridgeError BridgeSkillGrant := do
  let context := call.context
  let names := [context.agentId, context.sessionKey, context.sessionId, context.toolCallId]
  .ensure (names.all (· ≠ "")) (.forbidden "缺少可信 OpenClaw agent/session 上下文")
  let missing := BridgeError.forbidden ("Agent " ++ context.agentId ++ " 未获准调用技能 " ++ call.skillId)
  let grants ← match runtime.bridgePolicy.get? context.agentId with
    | some grants => pure grants
    | none =>
      -- an inherited member is found instead, and it has no `find`
      if context.agentId ∈ objectPrototypeNames then
        .error (.failed "this.bridgePolicy[agentId]?.find is not a function")
      else .error missing
  .require (grants.find? fun item => item.skillId = call.skillId) missing

/-- The grant whose entitlement is asked for. -/
def beginBridgeSkill : Except BridgeError BridgeSkillGrant := do
  let grant ← runtime.lookupGrant call
  .ensure options.verifies (.forbidden "未配置 Bridge entitlement 复验器")
  return grant

def checkEntitlement (answer : Option BridgeEntitlementStatus) (now : Instant) :
    Except BridgeError Unit := do
  let entitlement ← .require answer (.forbidden "Bridge entitlement 在线复验失败")
  let runs := (entitlement.expiresAt.bind options.parseDate).any fun expiry => now < expiry
  .ensure (entitlement.active && runs) (.forbidden (entitlement.reason.getD "Pack entitlement 已失效"))

/-- Whether a record has ended; an end that is no date is never reached. -/
def isExpired (record : BridgeConfirmationRecord) (now : Instant) : Bool :=
  (options.parseDate record.expiresAt).any (· ≤ now)

def dropConfirmation (record : BridgeConfirmationRecord) : CoreRuntime :=
  { runtime with
    confirmations := runtime.confirmations.delete record.confirmationId
    confirmationIdsByBinding :=
      match bridgeConfirmationBinding options.node record.toBridgeConfirmationSubject with
      | some binding => runtime.confirmationIdsByBinding.delete binding
      | none => runtime.confirmationIdsByBinding }

/-- Drop every record that is consumed or has ended. -/
def pruneConfirmations (now : Instant) : CoreRuntime :=
  runtime.confirmations.values.foldl (fun current record =>
    if record.status ≠ .consumed && !isExpired options record now then current
    else current.dropConfirmation options record) runtime

variable (grant : BridgeSkillGrant)

def sensitivePermissions : List String :=
  (intersectBridgePermissions options.node grant).filter permissionRequiresConfirmation

def confirmationSubject :
    Except BridgeError BridgeConfirmationSubject := do
  let descriptor ← .require grant.confirmation (.forbidden "写权限 Skill 缺少可信确认展示声明")
  let display ← match buildBridgeConfirmationDisplay options.node descriptor call.input with
    | .ok display => pure display
    | .error _ => .error (.forbidden "写权限 Skill 确认展示参数无效")
  let payloadDigest ← .require
    (CoreAuthorization.bridgePayloadDigest options.node call.skillId call.input)
    (.failed "确认摘要不接受非有限数字")
  return {
    agentId := call.context.agentId
    skillId := call.skillId
    profileVersion := grant.profileVersion
    sessionId := call.context.sessionId
    toolCallId := call.context.toolCallId
    permissions := sensitivePermissions options grant
    payloadDigest
    display }

/-- What comes with the answer of a check: the time, a fresh UUID, and the error
that `onConfirmationRequest` throws, if it throws. -/
structure Moment where
  now : Instant
  randomUUID : String
  listenerError : Option String

def consumeConfirmation (binding : String) (record : BridgeConfirmationRecord) : CoreRuntime :=
  { runtime with
    confirmations := runtime.confirmations.delete record.confirmationId
    confirmationIdsByBinding := runtime.confirmationIdsByBinding.delete binding }

def findConfirmation (binding : String) (now : Instant) :
    CoreRuntime × Option BridgeConfirmationRecord :=
  match (runtime.confirmationIdsByBinding.get? binding).bind runtime.confirmations.get? with
  | some record =>
    if isExpired options record now then (runtime.consumeConfirmation binding record, none)
    else (runtime, some record)
  | none => (runtime, none)

def requestConfirmation (subject : BridgeConfirmationSubject) (binding : String)
    (moment : Moment) : CoreRuntime × Except BridgeError Unit :=
  match createBridgeConfirmationRequest subject moment.randomUUID moment.now (5 * 60000) with
  | none => (runtime, .error (.failed "Invalid time value"))
  | some record =>
    ({ runtime with
        confirmations := runtime.confirmations.set record.confirmationId record
        confirmationIdsByBinding :=
          runtime.confirmationIdsByBinding.set binding record.confirmationId },
      match moment.listenerError with
      | some message => .error (.failed message)
      | none => .error (.confirmationRequired record))

def requireConfirmation (subject : BridgeConfirmationSubject) (binding : String)
    (moment : Moment) : CoreRuntime × Except BridgeError Unit :=
  let (current, found) := runtime.findConfirmation options binding moment.now
  match found with
  | none => current.requestConfirmation subject binding moment
  | some record =>
    match record.status with
    | .denied => (current, .error (.forbidden "用户已拒绝该操作"))
    | .approved => (current.consumeConfirmation binding record, .ok ())
    | .pending | .consumed => (current, .error (.confirmationRequired record))

def confirmCall (moment : Moment) : CoreRuntime × Except BridgeError Unit :=
  let current := runtime.pruneConfirmations options moment.now
  match confirmationSubject options call grant with
  | .error problem => (current, .error problem)
  | .ok subject =>
    match bridgeConfirmationBinding options.node subject with
    | none => (current, .error (.failed "确认摘要不接受非有限数字"))
    | some binding => current.requireConfirmation options subject binding moment

def checkPermissions : Except BridgeError Unit :=
  .ensure ((intersectBridgePermissions options.node grant).length =
    grant.requiredPermissions.eraseDups.length)
    (.forbidden "Profile/Pack/租户/设备权限交集不足")

def executorCall : Except BridgeError BridgeExecution :=
  match clampBudget (some grant.budget) (options.defaultBudget.getD defaultCoreBudget) with
  | .error message => .error (.failed message)
  | .ok budget => .ok ⟨call, grant, intersectBridgePermissions options.node grant, budget⟩

def finishBridgeSkill (answer : Option BridgeEntitlementStatus) (moment : Moment) :
    CoreRuntime × Except BridgeError BridgeExecution :=
  match (checkEntitlement options answer moment.now).bind fun _ =>
    checkPermissions options grant with
  | .error problem => (runtime, .error problem)
  | .ok () =>
    if sensitivePermissions options grant = [] then (runtime, executorCall options call grant)
    else
      match runtime.confirmCall options call grant moment with
      | (current, .error problem) => (current, .error problem)
      | (current, .ok ()) => (current, executorCall options call grant)

def respondBridgeConfirmation (response : BridgeConfirmationResponse) (now : Instant) :
    Except BridgeError (CoreRuntime × BridgeConfirmationRecord) :=
  let problem := BridgeError.forbidden "确认记录不存在、已过期或已使用"
  match runtime.confirmations.get? response.confirmationId with
  | none => .error problem
  | some confirmation =>
    if confirmation.status ≠ .pending || isExpired options confirmation now then .error problem
    else
      let answered := { confirmation with
        status := if response.approved then .approved else .denied }
      .ok ({ runtime with
        confirmations := runtime.confirmations.set response.confirmationId answered }, answered)

def consumed (now : Instant) (after : CoreRuntime) : List BridgeConfirmationRecord :=
  (runtime.confirmations.filter fun confirmationId record =>
    !isExpired options record now && (after.confirmations.get? confirmationId).isNone).values

end CoreRuntime

/-- What happens in a session. -/
inductive CoreEvent where
  /-- A policy is installed. -/
  | replaced (policy : BridgeExecutionPolicy)
  /-- A confirmation is created for a call. -/
  | requested (record : BridgeConfirmationRecord) (call : BridgeCall) (grant : BridgeSkillGrant)
  /-- The user approves or denies. -/
  | answered (record : BridgeConfirmationRecord) (time : Instant)
  /-- The executor is called under a policy; some confirmations are used up. -/
  | executed (execution : BridgeExecution) (policy : BridgeExecutionPolicy)
      (consumed : List BridgeConfirmationRecord)

structure PendingCall where
  call : BridgeCall
  grant : BridgeSkillGrant

structure CoreSession where
  runtime : CoreRuntime
  /-- The calls that wait for the check of an entitlement. -/
  calls : InsertionMap Nat PendingCall
  clock : Instant
  events : List CoreEvent

inductive CoreAction where
  | execute (name : Nat) (call : BridgeCall)
  | verified (name : Nat) (answer : Option BridgeEntitlementStatus) (randomUUID : String)
      (listenerError : Option String)
  | respond (response : BridgeConfirmationResponse)
  | replace (policy : BridgeExecutionPolicy)
  | wait (duration : Nat)

namespace CoreSession

def initial (policy : BridgeExecutionPolicy) (clock : Instant) : CoreSession :=
  ⟨⟨policy, .empty, .empty⟩, .empty, clock, []⟩

def requestedIds (events : List CoreEvent) : List String :=
  events.filterMap fun event =>
    match event with
    | .requested record _ _ => some record.confirmationId
    | _ => none

def eventsOf (options : CoreRuntimeOptions) (before after : CoreRuntime) (pending : PendingCall)
    (moment : CoreRuntime.Moment) (outcome : Except BridgeError BridgeExecution) : List CoreEvent :=
  (match outcome with
    | .ok execution =>
      [.executed execution before.bridgePolicy (before.consumed options moment.now after)]
    | .error _ => []) ++
  match after.confirmations.get? ("confirm-" ++ moment.randomUUID) with
  | some record => [.requested record pending.call pending.grant]
  | none => []

@[grind =]
def step (options : CoreRuntimeOptions) (session : CoreSession) : CoreAction → Option CoreSession
  | .execute name call =>
    if name ∈ session.calls.keys then none
    else
      match session.runtime.beginBridgeSkill options call with
      | .error _ => some session
      | .ok grant => some { session with calls := session.calls.set name ⟨call, grant⟩ }
  | .verified name answer randomUUID listenerError =>
    if "confirm-" ++ randomUUID ∈ requestedIds session.events then none
    else
      (session.calls.get? name).map fun pending =>
        let moment := ⟨session.clock, randomUUID, listenerError⟩
        let (runtime, outcome) :=
          session.runtime.finishBridgeSkill options pending.call pending.grant answer moment
        { session with
          runtime
          calls := session.calls.delete name
          events := eventsOf options session.runtime runtime pending moment outcome ++
            session.events }
  | .respond response =>
    match session.runtime.respondBridgeConfirmation options response session.clock with
    | .error _ => some session
    | .ok (runtime, record) =>
      some { session with runtime, events := .answered record session.clock :: session.events }
  | .replace policy =>
    some { session with
      runtime := .replaceBridgePolicy policy
      events := .replaced policy :: session.events }
  | .wait duration => some { session with clock := session.clock + duration }

end CoreSession

end LongHub
