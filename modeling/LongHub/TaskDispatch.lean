import LongHub.ExecutorServer
import LongHub.TaskWorker

/-!
# Cloud dispatches tasks to the Executor

Cloud keeps a task under the idempotency key of its owner, which is a tenant, a device and an agent.

-/

namespace LongHub

def CloudTask.owner (task : CloudTask) : CloudTaskOwner :=
  ⟨task.tenantId, task.deviceId, task.agentId⟩

structure TaskDispatch where
  taskId : Nat
  owner : CloudTaskOwner
  idempotencyKey : String
  deliveredAt : Option Instant

/-- The tasks of the API, what was dispatched, and the executor. -/
structure TaskDispatcher where
  tables : TaskTables
  dispatches : List TaskDispatch
  executor : ExecutorServer

inductive DispatchAction where
  | create (now : Instant) (call : NormalizedCloudTaskCall) (input : JsonValue)
      (owner : CloudTaskOwner) (requestFingerprint : Option String)
  | discard (taskId : Nat) (placeholder : CloudTaskAdmissionPlaceholder)
  | admitInput (now : Instant) (taskId : Nat) (placeholder : CloudTaskAdmissionPlaceholder)
      (call : NormalizedCloudTaskCall)
  | transition (now : Instant) (taskId : Nat) (expectedStatuses : List CloudTaskStatus)
      (status : CloudTaskStatus) (patch : TaskPatch)
  /-- A task is claimed, and the head of its request arrives. -/
  | dispatch (taskId : Nat) (call : NormalizedCloudTaskCall) (head : ExecutorRequestHead)
      (now : Instant)
  /-- The body of a dispatched task arrives. -/
  | deliver (index : Nat) (body : String) (now : Instant)
  /-- The body does not arrive. -/
  | lose (index : Nat) (problem : HttpProblem) (now : Instant)

namespace TaskDispatcher

variable (options : ExecutorServerOptions)

def initial : TaskDispatcher := ⟨.empty, [], .initial⟩

/-- Whether a credential carries the key and the Skill of its task. -/
def issuesFor (task : CloudTask) (call : NormalizedCloudTaskCall) (tables : TaskTables)
    (claims : ExecutorCredentialClaims) : Bool :=
  tables.idempotency.get? (TaskTables.ownerKey call.idempotencyKey task.owner) = some task.taskId &&
    claims.taskId = generatedId "ct-" task.taskId && claims.tenantId = task.tenantId &&
    claims.skillId = call.skillId && claims.idempotencyKey = call.idempotencyKey

variable (state : TaskDispatcher)

@[grind =]
def step : DispatchAction → Option TaskDispatcher
  | .create now call input owner requestFingerprint =>
    match state.tables.createTask now call.idempotencyKey "skill.execute" input owner
        requestFingerprint with
    | .ok (_, tables) => some { state with tables }
    | .error _ => none
  | .discard taskId placeholder =>
    some { state with tables := (state.tables.discardPendingTask taskId placeholder).2 }
  | .admitInput now taskId placeholder call =>
    let (_, tables) :=
      state.tables.admitPendingTaskInput now taskId placeholder (.record call.input)
    some { state with tables }
  | .transition now taskId expectedStatuses status patch =>
    if status.isTerminal then
      let (_, tables) :=
        state.tables.transitionIfStatus now taskId expectedStatuses status patch
      some { state with tables }
    else none
  | .dispatch taskId call head now => do
    let (some task, tables) := state.tables.claimPendingTask now taskId | none
    let .ok (_, claims) := acceptHead options head now | none
    guard (issuesFor task call tables claims)
    let executor ← state.executor.step options (.head head now)
    some { tables, executor, dispatches := state.dispatches ++
      [⟨task.taskId, task.owner, call.idempotencyKey, none⟩] }
  | .deliver index body now => do
    let dispatch ← state.dispatches[index]?
    let some (.reading _ claims _) := state.executor.exchanges[index]? | none
    let .ok _ := acceptBody options claims body | none
    let executor ← state.executor.step options (.body index body now)
    some { state with
      executor
      dispatches := state.dispatches.set index { dispatch with deliveredAt := some now } }
  | .lose index problem now =>
    (state.executor.step options (.bodyFailed index problem now)).map fun executor =>
      { state with executor }

def Accommodated : DispatchAction → Prop
  | .dispatch _ _ _ now | .lose _ _ now => state.executor.clock ≤ now
  | .deliver index _ now => state.executor.clock ≤ now ∧
      (pruneIdempotency state.executor.idempotency now).entries.length <
        options.maxIdempotencyEntries ∧
      ∀ credential claims verifiedAt,
        state.executor.exchanges[index]? = some (.reading credential claims verifiedAt) →
          options.skills.contains claims.skillId = true
  | _ => True

/-- Within the lifetime of the key no other owner of the tenant has used it. -/
def Unshared : DispatchAction → Prop
  | .deliver index _ now => ∀ dispatch, state.dispatches[index]? = some dispatch →
      ∀ other ∈ state.dispatches, other.owner ≠ dispatch.owner →
        other.owner.tenantId = dispatch.owner.tenantId →
        other.idempotencyKey = dispatch.idempotencyKey →
        ∀ deliveredAt, other.deliveredAt = some deliveredAt →
          deliveredAt + options.idempotencyTtlMs ≤ now
  | _ => True

/-- The executor has run the Skill for this very task. -/
def Served (index : Nat) (dispatch : TaskDispatch) (deliveredAt : Instant) : Prop :=
  ∃ (number : Nat) (run : SkillRun),
    state.executor.exchanges[index]? = some (.awaiting (.run number)) ∧
    state.executor.runs[number]? = some run ∧
    run.context.taskId = generatedId "ct-" dispatch.taskId ∧
    run.context.tenantId = dispatch.owner.tenantId ∧
    run.context.idempotencyKey = dispatch.idempotencyKey ∧ run.startedAt = deliveredAt

def AllServed : Prop :=
  ∀ index dispatch deliveredAt, state.dispatches[index]? = some dispatch →
    dispatch.deliveredAt = some deliveredAt → state.Served index dispatch deliveredAt

end TaskDispatcher

end LongHub
