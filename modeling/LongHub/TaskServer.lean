import LongHub.AsyncProgram
import LongHub.CloudSkillExecution

/-!
# The task server over the in-memory store

What the request handlers and workers of the Cloud API do between two awaits is one call.
-/

namespace LongHub

inductive ServerError where
  | idempotencyConflict
  | unknownTask (taskId : Nat)
  | storeUnavailable
  | abort
  | executorUnreachable
  | executorResponseBody
  | invalidJsonValue
  deriving DecidableEq

namespace ServerError

def ofStore : TaskStoreError → ServerError
  | .idempotencyConflict => .idempotencyConflict
  | .unknownTask taskId => .unknownTask taskId

def isAbortError (error : ServerError) : Bool := error = .abort

end ServerError

/-- An error answer of the server. -/
structure Problem where
  status : Nat
  code : String
  message : String
  retryable : Bool

inductive ServerResponse where
  | task (status : Nat) (task : Option CloudTask)
  | problem (problem : Problem)

structure ExecutorRequest where
  taskId : Nat
  tenantId : String
  skillId : String
  idempotencyKey : String
  inputDigest : String
  input : JsonValue

structure ExecutorBody where
  output : Option JsonValue
  code : Option String
  retryable : Bool

inductive ReleaseCheck where
  | ok
  | refused (problem : Problem)

inductive PolicyDenial where
  | emergencyDisabled
  | policyUnavailable
  | accessDenied

/-- The awaits of the handlers and the worker. -/
inductive ServerCall where
  | findTaskByIdempotency (idempotencyKey : String) (owner : CloudTaskOwner)
  | createTask (idempotencyKey kind : String) (input : JsonValue)
      (owner : CloudTaskOwner) (requestFingerprint : String)
  | getTask (taskId : Nat)
  | discardPendingTask (taskId : Nat) (placeholder : CloudTaskAdmissionPlaceholder)
  | admitPendingTaskInput (taskId : Nat) (placeholder : CloudTaskAdmissionPlaceholder)
      (input : JsonValue)
  | claimPendingTask (taskId : Nat)
  | transitionIfStatus (taskId : Nat) (expectedStatuses : List CloudTaskStatus)
      (status : CloudTaskStatus) (patch : TaskPatch)
  | reserveCloudSkillExecution (params : CloudSkillExecutionReservationRequest)
  | releaseCloudSkillExecution (params : CloudSkillExecutionReleaseRequest)
  | listCloudSkillPlans
  | resolveCloudSkillAccess (query : CloudSkillAccessQuery)
  | isUserActive (userId : String)
  | resolveCloudAgentSkillBinding (agentId skillId : String)
  | checkExecutionRelease (skillId version : String)
  | enforceDeviceFeaturePolicy
  | checkDeviceFeaturePolicy
  | dateNow
  | registerController (taskId : Nat)
  | deleteController (taskId : Nat)
  | abortController (taskId : Nat)
  | isAborted
  | setTimeout
  | clearTimeout
  | fetchExecutor (request : ExecutorRequest)
  | readExecutorResponse
  | respond (response : ServerResponse)

namespace ServerCall

abbrev Answer : ServerCall → Type
  | findTaskByIdempotency .. => Option CloudTaskIdempotencyBinding
  | createTask .. => CloudTask × Bool
  | getTask .. => Option CloudTask
  | discardPendingTask .. => Bool
  | admitPendingTaskInput .. => Option CloudTask
  | claimPendingTask .. => Option CloudTask
  | transitionIfStatus .. => Option CloudTask
  | reserveCloudSkillExecution .. => CloudSkillExecutionReservationResult
  | releaseCloudSkillExecution .. => CloudSkillExecutionReleaseResult
  | listCloudSkillPlans => List CloudSkillPlanRecord
  | resolveCloudSkillAccess .. => Option CloudSkillAccessGrant
  | isUserActive .. => Bool
  | resolveCloudAgentSkillBinding .. => Bool
  | checkExecutionRelease .. => ReleaseCheck
  | enforceDeviceFeaturePolicy => Bool
  | checkDeviceFeaturePolicy => Option PolicyDenial
  | dateNow => Instant
  | registerController .. => Unit
  | deleteController .. => Unit
  | abortController .. => Unit
  | isAborted => Bool
  | setTimeout => Unit
  | clearTimeout => Unit
  | fetchExecutor .. => Bool
  | readExecutorResponse => Option ExecutorBody
  | respond .. => Unit

def isStoreCall : ServerCall → Bool
  | enforceDeviceFeaturePolicy | checkDeviceFeaturePolicy | dateNow
  | registerController _ | deleteController _ | abortController _ | isAborted
  | setTimeout | clearTimeout | fetchExecutor _ | readExecutorResponse | respond _ => false
  | _ => true

end ServerCall

abbrev ServerProgram := Program ServerCall ServerCall.Answer ServerError

/-- What a call did that the properties speak about. -/
inductive ServerFact where
  | sought (ownerKey : String)
  | created (taskId : Nat)
  | reserved (taskId : String)
  | admitted (taskId : Nat) (input : JsonValue)
  | claimed (taskId : Nat)
  | executed (taskId : Nat)
  | refused (code : String)
  | deadlineSet
  | timedOut

/-- Whether a store call throws, and on which side of its effect. -/
inductive Fault where
  | beforeEffect
  | afterEffect
  deriving DecidableEq

/-- What the schedule decides at a call. -/
structure ServerChoice where
  now : Instant
  fault : Option Fault := none
  allowed : Bool := true
  releaseCheck : ReleaseCheck := .ok
  policyDenial : Option PolicyDenial := none
  fetchError : Option ServerError := none
  executorBody : Option ExecutorBody := none

structure TaskServerState where
  tables : TaskTables
  skills : CloudSkillTables
  controllers : InsertionMap Nat Nat
  aborted : List Nat
  armed : List Nat
  faults : Nat
  history : List (Nat × ServerFact)

namespace TaskServerState

variable (state : TaskServerState)

def recordFact (thread : Nat) (fact : ServerFact) : TaskServerState :=
  { state with history := state.history ++ [(thread, fact)] }

def Did (thread : Nat) (fact : ServerFact) : Prop :=
  (thread, fact) ∈ state.history

theorem did_recordFact {state : TaskServerState} {thread other : Nat} {recorded fact : ServerFact} :
    (state.recordFact thread recorded).Did other fact ↔
      state.Did other fact ∨ (other = thread ∧ fact = recorded) := by
  simp [Did, recordFact]

def abort (taskId : Nat) : TaskServerState :=
  match state.controllers.get? taskId with
  | some worker => { state with aborted := worker :: state.aborted }
  | none => state

/-- The effect of a call, when nothing fails. -/
@[grind =]
def execute (thread : Nat) (choice : ServerChoice) (state : TaskServerState) :
    (request : ServerCall) → Except ServerError request.Answer × TaskServerState
  | .findTaskByIdempotency idempotencyKey owner =>
    let sought := state.recordFact thread (.sought (TaskTables.ownerKey idempotencyKey owner))
    ((state.tables.findTaskByIdempotency idempotencyKey owner).mapError .ofStore, sought)
  | .createTask idempotencyKey kind input owner requestFingerprint =>
    match state.tables.createTask choice.now idempotencyKey kind input owner
        (some requestFingerprint) with
    | .error error => (.error (.ofStore error), state)
    | .ok ((task, existed), tables) =>
      let stored := { state with tables }
      (.ok (task, existed),
        if existed then stored else stored.recordFact thread (.created task.taskId))
  | .getTask taskId => (.ok (state.tables.getTask taskId), state)
  | .discardPendingTask taskId placeholder =>
    let discarded := state.tables.discardPendingTask taskId placeholder
    (.ok discarded.1, { state with tables := discarded.2 })
  | .admitPendingTaskInput taskId placeholder input =>
    let admitted := state.tables.admitPendingTaskInput choice.now taskId placeholder input
    let stored := { state with tables := admitted.2 }
    (.ok admitted.1, if admitted.1.isSome then
      stored.recordFact thread (.admitted taskId input) else stored)
  | .claimPendingTask taskId =>
    let claimed := state.tables.claimPendingTask choice.now taskId
    let stored := { state with tables := claimed.2 }
    (.ok claimed.1, if claimed.1.isSome then
      stored.recordFact thread (.claimed taskId) else stored)
  | .transitionIfStatus taskId expectedStatuses status patch =>
    let moved := state.tables.transitionIfStatus choice.now taskId expectedStatuses status patch
    (.ok moved.1, { state with tables := moved.2 })
  | .reserveCloudSkillExecution params =>
    let reserved := state.skills.reserveCloudSkillExecution choice.now params
    let stored := { state with skills := reserved.2 }
    (.ok reserved.1, if reserved.1.isOk then
      stored.recordFact thread (.reserved params.taskId) else stored)
  | .releaseCloudSkillExecution params =>
    let released := state.skills.releaseCloudSkillExecution choice.now params
    (.ok released.1, { state with skills := released.2 })
  | .listCloudSkillPlans => (.ok state.skills.plans.values, state)
  | .resolveCloudSkillAccess query =>
    (.ok (state.skills.resolveCloudSkillAccess choice.now query), state)
  | .isUserActive _ => (.ok choice.allowed, state)
  | .resolveCloudAgentSkillBinding _ _ => (.ok choice.allowed, state)
  | .checkExecutionRelease _ _ => (.ok choice.releaseCheck, state)
  | .enforceDeviceFeaturePolicy => (.ok choice.allowed, state)
  | .checkDeviceFeaturePolicy => (.ok choice.policyDenial, state)
  | .dateNow => (.ok choice.now, state)
  | .registerController taskId =>
    (.ok (), { state with controllers := state.controllers.set taskId thread })
  | .deleteController taskId =>
    (.ok (), { state with controllers := state.controllers.delete taskId })
  | .abortController taskId => (.ok (), state.abort taskId)
  | .isAborted => (.ok (decide (thread ∈ state.aborted)), state)
  | .setTimeout =>
    (.ok (), { state.recordFact thread .deadlineSet with armed := thread :: state.armed })
  | .clearTimeout => (.ok (), { state with armed := state.armed.filter (· ≠ thread) })
  | .fetchExecutor request =>
    let executed := state.recordFact thread (.executed request.taskId)
    match choice.fetchError with
    | some error => (.error error, executed)
    | none => (.ok choice.allowed, executed)
  | .readExecutorResponse =>
    match choice.fetchError with
    | some error => (.error error, state)
    | none => (.ok choice.executorBody, state)
  | .respond response =>
    (.ok (), match response with
      | .problem problem => state.recordFact thread (.refused problem.code)
      | .task _ _ => state)

/-- A call with the fault that the schedule puts on it. -/
def perform (thread : Nat) (request : ServerCall) (choice : ServerChoice)
    (state : TaskServerState) : Option (Except ServerError request.Answer × TaskServerState) :=
  match choice.fault with
  | none =>
    if choice.fetchError = some .abort ∧ thread ∉ state.aborted then none
    else some (execute thread choice state request)
  | some fault =>
    if state.faults = 0 || !request.isStoreCall then none
    else
      let spent := { state with faults := state.faults - 1 }
      match fault with
      | .beforeEffect => some (.error .storeUnavailable, spent)
      | .afterEffect => some (.error .storeUnavailable, (execute thread choice spent request).2)

theorem perform_cases {thread : Nat} {request : ServerCall} {choice : ServerChoice}
    {state after : TaskServerState} {answer : Except ServerError request.Answer}
    (ran : perform thread request choice state = some (answer, after)) :
    (0 < state.faults ∧ request.isStoreCall = true ∧ choice.fault = some .beforeEffect ∧
      answer = .error .storeUnavailable ∧
      after = { state with faults := state.faults - 1 }) ∨
    (0 < state.faults ∧ request.isStoreCall = true ∧ answer = .error .storeUnavailable ∧
      after = (execute thread choice { state with faults := state.faults - 1 } request).2) ∨
    (execute thread choice state request = (answer, after) ∧
      (choice.fetchError = some .abort → thread ∈ state.aborted)) := by
  unfold perform at ran
  split at ran
  · split at ran
    · cases ran
    · next allowed =>
      refine Or.inr (Or.inr ⟨Option.some.inj ran, fun error => ?_⟩)
      by_contra absent
      exact allowed ⟨error, absent⟩
  · split at ran
    · cases ran
    · next fault faulty possible =>
      simp only [Bool.or_eq_true, decide_eq_true_eq, Bool.not_eq_true', not_or,
        Bool.not_eq_false] at possible
      have positive : 0 < state.faults := by omega
      cases fault with
      | beforeEffect =>
        cases ran
        exact Or.inl ⟨positive, possible.2, faulty, rfl, rfl⟩
      | afterEffect =>
        cases ran
        exact Or.inr (Or.inl ⟨positive, possible.2, rfl, rfl⟩)

/-- A step that does not throw the error of the store does what the call does. -/
theorem executed_of_perform {thread : Nat} {request : ServerCall} {choice : ServerChoice}
    {state after : TaskServerState} {answer : Except ServerError request.Answer}
    (ran : perform thread request choice state = some (answer, after))
    (sure : request.isStoreCall = true → answer ≠ .error .storeUnavailable) :
    execute thread choice state request = (answer, after) ∧
      (choice.fetchError = some .abort → thread ∈ state.aborted) := by
  rcases perform_cases ran with
    ⟨-, store, -, failed, -⟩ | ⟨-, store, failed, -⟩ | executed
  · exact absurd failed (sure store)
  · exact absurd failed (sure store)
  · exact executed

end TaskServerState

/-- What happens beside the handlers: other routes change the commercial
tables, and the timer of a worker fires. -/
inductive ServerEnvironment where
  | commerce (plans : InsertionMap String CloudSkillPlanRecord)
      (subscriptions : InsertionMap String CloudSkillSubscriptionRecord)
      (subscriptionsByOrder : InsertionMap String String)
      (entitlements : InsertionMap String CloudSkillEntitlementRecord)
  | timer (thread : Nat)

namespace TaskServerState

def environment (state : TaskServerState) : ServerEnvironment → Option TaskServerState
  | .commerce plans subscriptions subscriptionsByOrder entitlements =>
    some { state with skills :=
      { state.skills with plans, subscriptions, subscriptionsByOrder, entitlements } }
  | .timer thread =>
    if thread ∈ state.armed then
      some { state.recordFact thread .timedOut with aborted := thread :: state.aborted }
    else none

end TaskServerState

abbrev TaskPool := Pool TaskServerState ServerCall ServerCall.Answer ServerError

def taskServer {Request : Type} (program : Request → ServerProgram Unit) :
    Machine TaskServerState ServerCall ServerCall.Answer ServerError ServerChoice Request
      ServerEnvironment where
  perform := TaskServerState.perform
  program
  environment := fun event state => state.environment event

end LongHub
