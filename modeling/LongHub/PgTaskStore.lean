import LongHub.AsyncProgram
import LongHub.CloudTaskStore

/-!
# Task operations of the PostgreSQL store

Each operation of `PgStore` on tasks is a program of SQL statements. A statement is atomic; between
two of them other operations run.
-/

namespace LongHub

structure PgTaskRow where
  task : CloudTask
  idempotencyKey : String
  requestFingerprint : String

/-- The rows of `cloud_task` and `cloud_task_event`, and the last event id. -/
structure PgTaskTables where
  rows : InsertionMap Nat PgTaskRow
  events : List CloudTaskEvent
  eventSeq : Nat

inductive PgTaskError where
  | cleanLaunchUnsupported (feature : String)
  | idempotencyConflict
  | ownerLookupFailed
  | checkViolation
  | foreignKeyViolation

/-- The SQL statements of the operations. -/
inductive PgTaskCall where
  | insertTask (idempotencyKey kind requestFingerprint : String) (input : JsonValue)
      (owner : CloudTaskOwner)
  | selectByOwner (idempotencyKey : String) (owner : CloudTaskOwner)
  | updateClaim (taskId : Nat)
  | updateIfStatus (taskId : Nat) (expectedStatuses : List CloudTaskStatus)
      (status : CloudTaskStatus) (patch : TaskPatch)
  | insertEvent (taskId : Nat) (type : String) (error : Option TaskError)

abbrev PgTaskCall.Answer : PgTaskCall → Type
  | .insertTask .. => Option CloudTask
  | .selectByOwner .. => Option CloudTaskIdempotencyBinding
  | .updateClaim .. => Option CloudTask
  | .updateIfStatus .. => Option CloudTask
  | .insertEvent .. => CloudTaskEvent

/-- What the database chooses for a statement: its time and a new task id. -/
structure PgStamp where
  now : Instant
  taskId : Nat

namespace PgTaskTables

def empty : PgTaskTables := ⟨.empty, [], 0⟩

def hasOwnerKey (idempotencyKey : String) (owner : CloudTaskOwner) (row : PgTaskRow) : Bool :=
  row.task.tenantId == owner.tenantId && row.task.deviceId == owner.deviceId &&
    row.task.agentId == owner.agentId && row.idempotencyKey == idempotencyKey

def newRow (stamp : PgStamp) (idempotencyKey kind requestFingerprint : String)
    (input : JsonValue) (owner : CloudTaskOwner) : PgTaskRow where
  task :=
    { taskId := stamp.taskId, tenantId := owner.tenantId, deviceId := owner.deviceId
      agentId := owner.agentId, kind, status := .pending, input
      output := none, error := none, createdAt := stamp.now, updatedAt := stamp.now }
  idempotencyKey
  requestFingerprint

/-- `UPDATE cloud_task` with the condition `status = ANY(expected)`. -/
def updateStatus (tables : PgTaskTables) (now : Instant) (taskId : Nat)
    (expectedStatuses : List CloudTaskStatus) (status : CloudTaskStatus)
    (patch : TaskPatch) : Option CloudTask × PgTaskTables :=
  match tables.rows.get? taskId with
  | none => (none, tables)
  | some row =>
    if expectedStatuses.contains row.task.status then
      let task := row.task.withStatus now status patch
      (some task, { tables with rows := tables.rows.set taskId { row with task } })
    else (none, tables)

/-- One statement; `none` where the id of a new task is taken. -/
@[grind =]
def execute (tables : PgTaskTables) (stamp : PgStamp) :
    (request : PgTaskCall) → Option (Except PgTaskError request.Answer × PgTaskTables)
  | .insertTask idempotencyKey kind requestFingerprint input owner =>
    if tables.rows.get? stamp.taskId ≠ none then none
    else if !isCloudTaskRequestFingerprint requestFingerprint then
      some (.error .checkViolation, tables)
    else if tables.rows.values.any (hasOwnerKey idempotencyKey owner) then
      some (.ok none, tables)
    else
      let row := newRow stamp idempotencyKey kind requestFingerprint input owner
      some (.ok (some row.task),
        { tables with rows := tables.rows.set stamp.taskId row })
  | .selectByOwner idempotencyKey owner =>
    some (.ok ((tables.rows.values.find? (hasOwnerKey idempotencyKey owner)).map
      fun row => ⟨row.task, row.requestFingerprint⟩), tables)
  | .updateClaim taskId =>
    let updated := tables.updateStatus stamp.now taskId [.pending] .running {}
    some (.ok updated.1, updated.2)
  | .updateIfStatus taskId expectedStatuses status patch =>
    let updated := tables.updateStatus stamp.now taskId expectedStatuses status patch
    some (.ok updated.1, updated.2)
  | .insertEvent taskId type error =>
    if tables.rows.get? taskId = none then
      some (.error .foreignKeyViolation, tables)
    else
      let event : CloudTaskEvent :=
        { eventId := tables.eventSeq + 1, taskId, type, ts := stamp.now, error }
      some (.ok event, { tables with
        events := tables.events ++ [event]
        eventSeq := tables.eventSeq + 1 })

theorem updateStatus_cases {tables after : PgTaskTables} {now : Instant}
    {taskId : Nat} {expectedStatuses : List CloudTaskStatus}
    {status : CloudTaskStatus} {patch : TaskPatch} {result : Option CloudTask}
    (updated : tables.updateStatus now taskId expectedStatuses status patch = (result, after)) :
    (result = none ∧ after = tables) ∨
    ∃ row, tables.rows.get? taskId = some row ∧ row.task.status ∈ expectedStatuses ∧
      result = some (row.task.withStatus now status patch) ∧
      after = { tables with
        rows := tables.rows.set taskId
          { row with task := row.task.withStatus now status patch } } := by
  unfold updateStatus at updated
  cases stored : tables.rows.get? taskId with
  | none => simp_all
  | some row =>
    by_cases expected : row.task.status ∈ expectedStatuses
    · right
      simp only [stored, List.contains_iff_mem, expected, ↓reduceIte, Prod.mk.injEq] at updated
      exact ⟨row, rfl, expected, updated.1.symm, updated.2.symm⟩
    · left
      simp_all

end PgTaskTables

namespace PgTaskStore

abbrev PgTaskProgram := Program PgTaskCall PgTaskCall.Answer PgTaskError

abbrev query (request : PgTaskCall) : PgTaskProgram request.Answer :=
  Program.perform request

/-- The insertion of an event, which is a statement of its own. -/
def appendEvent (taskId : Nat) (type : String) (error : Option TaskError) :
    PgTaskProgram Unit := do
  let _ ← query (.insertEvent taskId type error)
  return ()

def findTaskByIdempotency (idempotencyKey : String) (owner : CloudTaskOwner) :
    PgTaskProgram (Option CloudTaskIdempotencyBinding) :=
  query (.selectByOwner idempotencyKey owner)

def normalizeFingerprint (requestFingerprint : String) : PgTaskProgram String :=
  match normalizeCloudTaskRequestFingerprint (some requestFingerprint) with
  | .ok normalized => return normalized
  | .error _ => .throw .idempotencyConflict

def createTask (idempotencyKey kind : String) (input : JsonValue)
    (owner : Option CloudTaskOwner) (requestFingerprint : Option String) :
    PgTaskProgram (CloudTask × Bool) := do
  match owner, requestFingerprint with
  | none, _ => .throw (.cleanLaunchUnsupported "task.owner_required")
  | some _, none => .throw (.cleanLaunchUnsupported "task.request_fingerprint_required")
  | some _, some "" =>
    .throw (.cleanLaunchUnsupported "task.request_fingerprint_required")
  | some owner, some fingerprint =>
    let normalized ← normalizeFingerprint fingerprint
    let inserted : Option CloudTask ← query (.insertTask idempotencyKey kind normalized input owner)
    match inserted with
    | none =>
      match ← findTaskByIdempotency idempotencyKey owner with
      | none => .throw .ownerLookupFailed
      | some existing =>
        if existing.requestFingerprint == legacyUnboundTaskRequestFingerprint ||
            existing.requestFingerprint != normalized then
          .throw .idempotencyConflict
        else return (existing.task, true)
    | some task =>
      appendEvent task.taskId (taskEventType .pending) none
      return (task, false)

def claimPendingTask (taskId : Nat) : PgTaskProgram (Option CloudTask) := do
  let updated : Option CloudTask ← query (.updateClaim taskId)
  match updated with
  | none => return none
  | some task =>
    appendEvent taskId (taskEventType .running) none
    return some task

def transitionIfStatus (taskId : Nat) (expectedStatuses : List CloudTaskStatus)
    (status : CloudTaskStatus) (patch : TaskPatch) :
    PgTaskProgram (Option CloudTask) := do
  if expectedStatuses.length = 0 then return none
  let updated : Option CloudTask ← query (.updateIfStatus taskId expectedStatuses status patch)
  match updated with
  | none => return none
  | some task =>
    appendEvent taskId (taskEventType status) task.error
    return some task

end PgTaskStore

end LongHub
