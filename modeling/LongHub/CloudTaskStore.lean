import LongHub.InsertionMap

/-!
# Cloud tasks

The task tables and the numbers of the task events.
-/

namespace LongHub

/-! ## The task tables of the in-memory store -/

abbrev Instant := Int

inductive JsonValue where
  | null
  | bool (value : Bool)
  | number (literal : String)
  | text (value : String)
  | array (items : List JsonValue)
  | record (fields : List (String × JsonValue))

namespace JsonValue

def textField (fields : List (String × JsonValue)) (key : String) : Option String :=
  match fields.lookup key with
  | some (.text value) => some value
  | _ => none

end JsonValue

inductive CloudTaskStatus where
  | pending
  | running
  | succeeded
  | failed
  | cancelled
  | timedOut
  deriving DecidableEq

namespace CloudTaskStatus

@[grind =]
def isTerminal : CloudTaskStatus → Bool
  | .pending | .running => false
  | .succeeded | .failed | .cancelled | .timedOut => true

end CloudTaskStatus

def taskEventType : CloudTaskStatus → String
  | .pending => "task.accepted"
  | .running => "task.started"
  | .succeeded => "task.succeeded"
  | .failed => "task.failed"
  | .cancelled => "task.cancelled"
  | .timedOut => "task.timed_out"

theorem taskEventType_injective : Function.Injective taskEventType := by
  intro first second equal
  cases first <;> cases second <;> first | rfl | exact absurd equal (by decide)

structure TaskError where
  code : String
  message : String
  retryable : Bool
  deriving DecidableEq

/-- The owner of a task, for whom an idempotency key is unique. -/
structure CloudTaskOwner where
  tenantId : String
  deviceId : String
  agentId : String
  deriving DecidableEq

structure CloudTask where
  taskId : Nat
  tenantId : String
  deviceId : String
  agentId : String
  kind : String
  status : CloudTaskStatus
  input : JsonValue
  output : Option JsonValue
  error : Option TaskError
  createdAt : Instant
  updatedAt : Instant

/-- What a change of status may set. -/
structure TaskPatch where
  output : Option JsonValue := none
  error : Option TaskError := none

namespace CloudTask

def withInput (task : CloudTask) (now : Instant) (input : JsonValue) : CloudTask :=
  { task with input, updatedAt := now }

def withStatus (task : CloudTask) (now : Instant) (status : CloudTaskStatus)
    (patch : TaskPatch) : CloudTask :=
  { task with
    status, updatedAt := now
    output := patch.output <|> task.output
    error := patch.error <|> task.error }

@[simp]
theorem status_withStatus (task : CloudTask) (now : Instant) (status : CloudTaskStatus)
    (patch : TaskPatch) : (task.withStatus now status patch).status = status :=
  rfl

end CloudTask

structure CloudTaskEvent where
  eventId : Nat
  taskId : Nat
  type : String
  ts : Instant
  error : Option TaskError
  deriving DecidableEq

def isLowerHexDigit (digit : Char) : Bool :=
  ('0' ≤ digit && digit ≤ '9') || ('a' ≤ digit && digit ≤ 'f')

/-- The pattern `[a-f0-9]{64}`. -/
def isSha256Hex (text : List Char) : Bool :=
  text.length == 64 && text.all isLowerHexDigit

def legacyUnboundTaskRequestFingerprint : String := "legacy-unbound"

def isLegacyUnboundTaskRequestFingerprint (value : String) : Bool :=
  value == legacyUnboundTaskRequestFingerprint

def isCloudTaskRequestFingerprint (value : String) : Bool :=
  match value.toList with
  | 'v' :: '1' :: ':' :: digest => isSha256Hex digest
  | _ => false

inductive TaskStoreError where
  | idempotencyConflict
  | unknownTask (taskId : Nat)

def normalizeCloudTaskRequestFingerprint : Option String → Except TaskStoreError String
  | none => .ok legacyUnboundTaskRequestFingerprint
  | some value =>
    if isLegacyUnboundTaskRequestFingerprint value ||
        isCloudTaskRequestFingerprint value then .ok value
    else .error .idempotencyConflict

def cloudTaskAdmissionPlaceholderSchema : String :=
  "longhub/cloud-task-admission-placeholder/v1"

/-- The input of a task until its execution is paid for. -/
structure CloudTaskAdmissionPlaceholder where
  requestFingerprint : String
  inputDigest : String
  validFingerprint : isCloudTaskRequestFingerprint requestFingerprint = true
  validDigest : isSha256Hex inputDigest.toList = true

def createCloudTaskAdmissionPlaceholder (requestFingerprint inputDigest : String) :
    Except TaskStoreError CloudTaskAdmissionPlaceholder :=
  if valid : isCloudTaskRequestFingerprint requestFingerprint = true ∧
      isSha256Hex inputDigest.toList = true then
    .ok ⟨requestFingerprint, inputDigest, valid.1, valid.2⟩
  else .error .idempotencyConflict

namespace CloudTaskAdmissionPlaceholder

def toJson (placeholder : CloudTaskAdmissionPlaceholder) : JsonValue :=
  .record [("schema_version", .text cloudTaskAdmissionPlaceholderSchema),
    ("request_fingerprint", .text placeholder.requestFingerprint),
    ("input_digest", .text placeholder.inputDigest)]

end CloudTaskAdmissionPlaceholder

def isCloudTaskAdmissionPlaceholder (value : JsonValue)
    (expected : Option CloudTaskAdmissionPlaceholder) : Bool :=
  match value with
  | .record fields =>
    fields.length == 3 &&
    JsonValue.textField fields "schema_version" == some cloudTaskAdmissionPlaceholderSchema &&
    match JsonValue.textField fields "request_fingerprint",
        JsonValue.textField fields "input_digest" with
    | some fingerprint, some digest =>
      isCloudTaskRequestFingerprint fingerprint && isSha256Hex digest.toList &&
      match expected with
      | none => true
      | some placeholder =>
        fingerprint == placeholder.requestFingerprint && digest == placeholder.inputDigest
    | _, _ => false
  | _ => false

theorem isCloudTaskAdmissionPlaceholder_toJson (placeholder : CloudTaskAdmissionPlaceholder)
    {expected : Option CloudTaskAdmissionPlaceholder}
    (same : expected = none ∨ expected = some placeholder) :
    isCloudTaskAdmissionPlaceholder placeholder.toJson expected = true := by
  rcases same with rfl | rfl <;>
    simp [isCloudTaskAdmissionPlaceholder, CloudTaskAdmissionPlaceholder.toJson,
      JsonValue.textField, List.lookup_cons, placeholder.validFingerprint, placeholder.validDigest]

theorem isCloudTaskAdmissionPlaceholder_of_expected {value : JsonValue}
    {placeholder : CloudTaskAdmissionPlaceholder}
    (holds : isCloudTaskAdmissionPlaceholder value (some placeholder) = true) :
    isCloudTaskAdmissionPlaceholder value none = true := by
  cases value with
  | record fields =>
    simp only [isCloudTaskAdmissionPlaceholder, Bool.and_eq_true] at holds ⊢
    refine ⟨holds.1, ?_⟩
    split at holds
    · next fingerprint digest fingerprintEq digestEq =>
      simp only [Bool.and_eq_true] at holds ⊢
      exact ⟨holds.2.1, trivial⟩
    · exact absurd holds.2 (by simp)
  | _ => exact absurd holds (by simp [isCloudTaskAdmissionPlaceholder])

structure CloudTaskIdempotencyBinding where
  task : CloudTask
  requestFingerprint : String

/-- The maps and counters of `MemoryStore`. -/
structure TaskTables where
  tasks : InsertionMap Nat CloudTask
  eventsByTask : InsertionMap Nat (List CloudTaskEvent)
  idempotency : InsertionMap String Nat
  taskRequestFingerprints : InsertionMap Nat String
  taskSeq : Nat
  eventSeq : Nat

namespace TaskTables

def empty : TaskTables where
  tasks := .empty
  eventsByTask := .empty
  idempotency := .empty
  taskRequestFingerprints := .empty
  taskSeq := 0
  eventSeq := 0

/-- The key of the owner and the idempotency key together. -/
def ownerKey (idempotencyKey : String) (owner : CloudTaskOwner) : String :=
  "\x00".intercalate [owner.tenantId, owner.deviceId, owner.agentId, idempotencyKey]

def mustGet (tables : TaskTables) (taskId : Nat) : Except TaskStoreError CloudTask :=
  match tables.tasks.get? taskId with
  | some task => .ok task
  | none => .error (.unknownTask taskId)

def findTaskByIdempotency (tables : TaskTables) (idempotencyKey : String) (owner : CloudTaskOwner) :
    Except TaskStoreError (Option CloudTaskIdempotencyBinding) :=
  match tables.idempotency.get? (ownerKey idempotencyKey owner) with
  | none => .ok none
  | some taskId => do
    let task ← tables.mustGet taskId
    return some {
      task
      requestFingerprint := (tables.taskRequestFingerprints.get? taskId).getD
        legacyUnboundTaskRequestFingerprint }

def nextEvent (tables : TaskTables) (now : Instant) (taskId : Nat) (type : String)
    (error : Option TaskError) : CloudTaskEvent :=
  { eventId := tables.eventSeq + 1, taskId, type, ts := now, error }

/-- Number an event and append it to the list of its task, if it has one. -/
def emit (tables : TaskTables) (now : Instant) (taskId : Nat) (type : String)
    (error : Option TaskError) : TaskTables :=
  { tables with
    eventSeq := tables.eventSeq + 1
    eventsByTask := match tables.eventsByTask.get? taskId with
      | some events => tables.eventsByTask.set taskId
          (events ++ [tables.nextEvent now taskId type error])
      | none => tables.eventsByTask }

def newTask (tables : TaskTables) (now : Instant) (kind : String) (input : JsonValue)
    (owner : CloudTaskOwner) : CloudTask where
  taskId := tables.taskSeq + 1
  tenantId := owner.tenantId
  deviceId := owner.deviceId
  agentId := owner.agentId
  kind
  status := .pending
  input
  output := none
  error := none
  createdAt := now
  updatedAt := now

def insertTask (tables : TaskTables) (now : Instant) (ownerKey : String)
    (fingerprint : String) (task : CloudTask) : TaskTables :=
  let stored : TaskTables :=
    { tables with
      taskSeq := tables.taskSeq + 1
      tasks := tables.tasks.set task.taskId task
      eventsByTask := tables.eventsByTask.set task.taskId []
      idempotency := tables.idempotency.set ownerKey task.taskId
      taskRequestFingerprints := tables.taskRequestFingerprints.set task.taskId fingerprint }
  stored.emit now task.taskId (taskEventType .pending) none

def createTask (tables : TaskTables) (now : Instant) (idempotencyKey kind : String)
    (input : JsonValue) (owner : CloudTaskOwner) (requestFingerprint : Option String) :
    Except TaskStoreError ((CloudTask × Bool) × TaskTables) := do
  let normalized ← normalizeCloudTaskRequestFingerprint requestFingerprint
  match ← tables.findTaskByIdempotency idempotencyKey owner with
  | some existing =>
    if existing.requestFingerprint == legacyUnboundTaskRequestFingerprint ||
        existing.requestFingerprint != normalized then
      throw .idempotencyConflict
    return ((existing.task, true), tables)
  | none =>
    let task := tables.newTask now kind input owner
    return ((task, false), tables.insertTask now (ownerKey idempotencyKey owner) normalized task)

def getTask (tables : TaskTables) (taskId : Nat) : Option CloudTask :=
  tables.tasks.get? taskId

/-- The task waits for its input. -/
def isStaged (tables : TaskTables) (taskId : Nat)
    (placeholder : CloudTaskAdmissionPlaceholder) : Bool :=
  match tables.tasks.get? taskId with
  | some task =>
    task.status == .pending && isCloudTaskAdmissionPlaceholder task.input (some placeholder)
  | none => false

def discardPendingTask (tables : TaskTables) (taskId : Nat)
    (placeholder : CloudTaskAdmissionPlaceholder) : Bool × TaskTables :=
  if !isCloudTaskAdmissionPlaceholder placeholder.toJson none then (false, tables)
  else if !tables.isStaged taskId placeholder then (false, tables)
  else (true, { tables with
    tasks := tables.tasks.delete taskId
    eventsByTask := tables.eventsByTask.delete taskId
    taskRequestFingerprints := tables.taskRequestFingerprints.delete taskId
    idempotency := tables.idempotency.filter fun _ value => value ≠ taskId })

def admitPendingTaskInput (tables : TaskTables) (now : Instant) (taskId : Nat)
    (placeholder : CloudTaskAdmissionPlaceholder) (input : JsonValue) :
    Option CloudTask × TaskTables :=
  if !isCloudTaskAdmissionPlaceholder placeholder.toJson none then (none, tables)
  else
    match tables.tasks.get? taskId with
    | none => (none, tables)
    | some task =>
      if task.status != .pending ||
          !isCloudTaskAdmissionPlaceholder task.input (some placeholder) then
        (none, tables)
      else
        let admitted := task.withInput now input
        (some admitted, { tables with tasks := tables.tasks.set taskId admitted })

def claimPendingTask (tables : TaskTables) (now : Instant) (taskId : Nat) :
    Option CloudTask × TaskTables :=
  match tables.tasks.get? taskId with
  | none => (none, tables)
  | some task =>
    if task.status != .pending then (none, tables)
    else
      let claimed := task.withStatus now .running {}
      let stored := { tables with tasks := tables.tasks.set taskId claimed }
      (some claimed, stored.emit now taskId (taskEventType .running) none)

/-- A change of status with its event, if the status is an expected one. -/
def transitionIfStatus (tables : TaskTables) (now : Instant) (taskId : Nat)
    (expectedStatuses : List CloudTaskStatus) (status : CloudTaskStatus)
    (patch : TaskPatch) : Option CloudTask × TaskTables :=
  match tables.tasks.get? taskId with
  | none => (none, tables)
  | some task =>
    if !expectedStatuses.contains task.status then (none, tables)
    else
      let moved := task.withStatus now status patch
      let stored := { tables with tasks := tables.tasks.set taskId moved }
      (some moved, stored.emit now taskId (taskEventType status) moved.error)

/-- The events of a task after the last one that a client has seen. -/
def eventsAfter (tables : TaskTables) (taskId : Nat) (afterEventId : Option Nat) :
    List CloudTaskEvent :=
  let events := (tables.eventsByTask.get? taskId).getD []
  match afterEventId with
  | none => events
  | some after => events.filter fun event => after < event.eventId

variable {tables after : TaskTables} {now : Instant} {taskId : Nat}
  {placeholder : CloudTaskAdmissionPlaceholder}

theorem findTaskByIdempotency_eq_ok_iff {idempotencyKey : String} {owner : CloudTaskOwner}
    {found : Option CloudTaskIdempotencyBinding} :
    tables.findTaskByIdempotency idempotencyKey owner = .ok found ↔
      (tables.idempotency.get? (ownerKey idempotencyKey owner) = none ∧ found = none) ∨
      ∃ taskId task, tables.idempotency.get? (ownerKey idempotencyKey owner) = some taskId ∧
        tables.tasks.get? taskId = some task ∧
        found = some ⟨task, (tables.taskRequestFingerprints.get? taskId).getD
          legacyUnboundTaskRequestFingerprint⟩ := by
  unfold findTaskByIdempotency
  cases bound : tables.idempotency.get? (ownerKey idempotencyKey owner) with
  | none => simp [eq_comm]
  | some taskId =>
    cases stored : tables.tasks.get? taskId with
    | none => simp [mustGet, stored, bind, Except.bind]
    | some task => simp [mustGet, stored, bind, Except.bind, pure, Except.pure, eq_comm]

theorem createTask_cases {idempotencyKey kind : String} {input : JsonValue} {owner : CloudTaskOwner}
    {requestFingerprint : Option String} {task : CloudTask} {existed : Bool}
    (created : tables.createTask now idempotencyKey kind input owner requestFingerprint =
      .ok ((task, existed), after)) : (existed = true ∧ after = tables ∧ ∃ taskId,
      tables.idempotency.get? (ownerKey idempotencyKey owner) = some taskId ∧
      tables.tasks.get? taskId = some task) ∨ (existed = false ∧
      tables.idempotency.get? (ownerKey idempotencyKey owner) = none ∧
      task = tables.newTask now kind input owner ∧
      ∃ fingerprint, after = tables.insertTask now (ownerKey idempotencyKey owner)
        fingerprint task) := by
  unfold createTask at created
  cases normalized : normalizeCloudTaskRequestFingerprint requestFingerprint with
  | error error => simp [normalized, bind, Except.bind] at created
  | ok fingerprint =>
    cases found : tables.findTaskByIdempotency idempotencyKey owner with
    | error error => simp [normalized, found, bind, Except.bind] at created
    | ok binding =>
      simp only [normalized, found, bind, Except.bind] at created
      rcases findTaskByIdempotency_eq_ok_iff.mp found with
        ⟨free, rfl⟩ | ⟨taskId, stored, bound, present, rfl⟩
      · simp only [pure, Except.pure, Except.ok.injEq, Prod.mk.injEq] at created
        obtain ⟨⟨rfl, rfl⟩, rfl⟩ := created
        exact Or.inr ⟨rfl, free, rfl, fingerprint, rfl⟩
      · left
        simp only at created
        split at created
        · cases created
        · simp only [pure, Except.pure, Except.ok.injEq, Prod.mk.injEq] at created
          obtain ⟨⟨rfl, rfl⟩, rfl⟩ := created
          exact ⟨rfl, rfl, taskId, bound, present⟩

theorem isStaged_iff : tables.isStaged taskId placeholder = true ↔
      ∃ task, tables.tasks.get? taskId = some task ∧ task.status = .pending ∧
        isCloudTaskAdmissionPlaceholder task.input (some placeholder) = true := by
  unfold isStaged
  split <;> simp_all

theorem discardPendingTask_cases {discarded : Bool}
    (result : tables.discardPendingTask taskId placeholder = (discarded, after)) :
    (discarded = false ∧ after = tables ∧ tables.isStaged taskId placeholder = false) ∨
    (discarded = true ∧ tables.isStaged taskId placeholder = true ∧ after = { tables with
        tasks := tables.tasks.delete taskId
        eventsByTask := tables.eventsByTask.delete taskId
        taskRequestFingerprints := tables.taskRequestFingerprints.delete taskId
        idempotency := tables.idempotency.filter fun _ value => value ≠ taskId }) := by
  have valid := isCloudTaskAdmissionPlaceholder_toJson placeholder (Or.inl rfl)
  unfold discardPendingTask at result
  cases staged : tables.isStaged taskId placeholder <;> simp_all

theorem admitPendingTaskInput_cases {input : JsonValue} {admitted : Option CloudTask}
    (result : tables.admitPendingTaskInput now taskId placeholder input = (admitted, after)) :
    (admitted = none ∧ after = tables ∧ tables.isStaged taskId placeholder = false) ∨
    ∃ task, tables.tasks.get? taskId = some task ∧ task.status = .pending ∧
      isCloudTaskAdmissionPlaceholder task.input (some placeholder) = true ∧
      admitted = some (task.withInput now input) ∧
      after = { tables with
        tasks := tables.tasks.set taskId (task.withInput now input) } := by
  have valid := isCloudTaskAdmissionPlaceholder_toJson placeholder (Or.inl rfl)
  unfold admitPendingTaskInput at result
  unfold isStaged
  cases stored : tables.tasks.get? taskId with
  | none => simp_all
  | some task =>
    simp only [valid, stored] at result
    by_cases staged : task.status = .pending ∧
        isCloudTaskAdmissionPlaceholder task.input (some placeholder) = true
    · right
      simp only [staged.1, staged.2, Bool.not_true, bne_self_eq_false,
        Bool.or_false, Bool.false_eq_true, ↓reduceIte, Prod.mk.injEq] at result
      exact ⟨task, rfl, staged.1, staged.2, result.1.symm, result.2.symm⟩
    · left
      by_cases pending : task.status = .pending <;> simp_all

theorem claimPendingTask_cases {claimed : Option CloudTask}
    (result : tables.claimPendingTask now taskId = (claimed, after)) :
    (claimed = none ∧ after = tables) ∨
    ∃ task, tables.tasks.get? taskId = some task ∧ task.status = .pending ∧
      claimed = some (task.withStatus now .running {}) ∧
      after = { tables with
        tasks := tables.tasks.set taskId (task.withStatus now .running {}) }.emit now
          taskId (taskEventType .running) none := by
  unfold claimPendingTask at result
  cases stored : tables.tasks.get? taskId with
  | none => simp_all
  | some task =>
    by_cases pending : task.status = .pending
    · right
      simp [stored, pending] at result
      exact ⟨task, rfl, pending, result.1.symm, result.2.symm⟩
    · left
      simp_all

theorem transitionIfStatus_cases {expectedStatuses : List CloudTaskStatus}
    {status : CloudTaskStatus} {patch : TaskPatch} {result : Option CloudTask}
    (moved : tables.transitionIfStatus now taskId expectedStatuses status patch = (result, after)) :
    (result = none ∧ after = tables ∧ ∀ task, tables.tasks.get? taskId = some task →
      task.status ∉ expectedStatuses) ∨
    ∃ task, tables.tasks.get? taskId = some task ∧ task.status ∈ expectedStatuses ∧
      result = some (task.withStatus now status patch) ∧
      after = { tables with
        tasks := tables.tasks.set taskId (task.withStatus now status patch) }.emit now
          taskId (taskEventType status) (task.withStatus now status patch).error := by
  unfold transitionIfStatus at moved
  cases stored : tables.tasks.get? taskId with
  | none =>
    left
    simp only [stored, Prod.mk.injEq] at moved
    exact ⟨moved.1.symm, moved.2.symm, by simp⟩
  | some task =>
    by_cases expected : task.status ∈ expectedStatuses
    · right
      simp [stored, expected] at moved
      exact ⟨task, rfl, expected, moved.1.symm, moved.2.symm⟩
    · left
      simp_all

end TaskTables

def oneTaskTables : TaskTables :=
  TaskTables.empty.insertTask 0 "owner" "fingerprint"
    (TaskTables.empty.newTask 0 "skill.execute" .null ⟨"tenant", "device", "agent"⟩)

/-! ## The numbering of task events -/

namespace TaskTables

structure EventsNumbered (tables : TaskTables) : Prop where
  increasing : ∀ taskId events, tables.eventsByTask.get? taskId = some events →
    events.Pairwise fun first second => first.eventId < second.eventId
  given : ∀ taskId events, tables.eventsByTask.get? taskId = some events →
    ∀ event ∈ events, event.taskId = taskId ∧ 0 < event.eventId ∧ event.eventId ≤ tables.eventSeq
  listed : ∀ taskId, tables.tasks.get? taskId ≠ none → tables.eventsByTask.get? taskId ≠ none

theorem eventsNumbered_empty : empty.EventsNumbered := by
  constructor <;> simp [empty]

theorem get?_eventsByTask_emit (tables : TaskTables) (now : Instant) (taskId : Nat)
    (type : String) (error : Option TaskError) (other : Nat) :
    (tables.emit now taskId type error).eventsByTask.get? other =
      (tables.eventsByTask.get? other).map fun events =>
        if other = taskId then events ++ [tables.nextEvent now taskId type error] else events := by
  cases listed : tables.eventsByTask.get? taskId with
  | none =>
    by_cases same : other = taskId
    · simp [emit, same, listed]
    · simp [emit, listed, same]
  | some events =>
    by_cases same : other = taskId
    · simp [emit, same, listed]
    · simp [emit, listed, same]

@[simp]
theorem tasks_emit (tables : TaskTables) (now : Instant) (taskId : Nat) (type : String)
    (error : Option TaskError) : (tables.emit now taskId type error).tasks = tables.tasks :=
  rfl

variable {tables : TaskTables}

theorem EventsNumbered.emit (numbered : tables.EventsNumbered) (now : Instant) (taskId : Nat)
    (type : String) (error : Option TaskError) :
    (tables.emit now taskId type error).EventsNumbered := by
  refine ⟨fun other events listed => ?_, fun other events listed => ?_, fun other exists_ => ?_⟩
  · rw [get?_eventsByTask_emit, Option.map_eq_some_iff] at listed
    obtain ⟨before, listedBefore, rfl⟩ := listed
    have increasing := numbered.increasing other before listedBefore
    split
    · rw [List.pairwise_append]
      refine ⟨increasing, List.pairwise_singleton _ _, fun event mem => ?_⟩
      have given := numbered.given other before listedBefore event mem
      simp only [nextEvent, List.mem_singleton, forall_eq]
      omega
    · exact increasing
  · rw [get?_eventsByTask_emit, Option.map_eq_some_iff] at listed
    obtain ⟨before, listedBefore, rfl⟩ := listed
    have given := numbered.given other before listedBefore
    intro event mem
    have seqEq : (tables.emit now taskId type error).eventSeq = tables.eventSeq + 1 := rfl
    split at mem
    · next same =>
      rcases List.mem_append.mp mem with old | new
      · have := given event old
        omega
      · rw [List.mem_singleton.mp new, same]
        simp [nextEvent, seqEq]
    · have := given event mem
      omega
  · rw [get?_eventsByTask_emit]
    simpa using numbered.listed other exists_

theorem EventsNumbered.setTask (numbered : tables.EventsNumbered) {taskId : Nat} {task : CloudTask}
    (present : tables.tasks.get? taskId ≠ none) :
    { tables with tasks := tables.tasks.set taskId task }.EventsNumbered := by
  refine ⟨numbered.increasing, numbered.given, fun other exists_ => ?_⟩
  simp only [InsertionMap.get?_set] at exists_
  split at exists_
  · next same => exact same ▸ numbered.listed taskId present
  · exact numbered.listed other exists_

theorem EventsNumbered.insertTask (numbered : tables.EventsNumbered) (now : Instant)
    (ownerKey fingerprint : String) (task : CloudTask) :
    (tables.insertTask now ownerKey fingerprint task).EventsNumbered := by
  apply EventsNumbered.emit
  refine ⟨fun other events listed => ?_, fun other events listed => ?_, fun other exists_ => ?_⟩ <;>
    simp only [InsertionMap.get?_set] at *
  · split at listed
    · simp [← Option.some.inj listed]
    · exact numbered.increasing other events listed
  · split at listed
    · simp [← Option.some.inj listed]
    · exact numbered.given other events listed
  · split
    · simp
    · next differ =>
      rw [if_neg differ] at exists_
      exact numbered.listed other exists_

theorem EventsNumbered.discardPendingTask {after : TaskTables} (numbered : tables.EventsNumbered)
    {taskId : Nat} {placeholder : CloudTaskAdmissionPlaceholder} {discarded : Bool}
    (result : tables.discardPendingTask taskId placeholder = (discarded, after)) :
    after.EventsNumbered := by
  rcases discardPendingTask_cases result with ⟨-, rfl, -⟩ | ⟨-, -, rfl⟩
  · exact numbered
  · refine ⟨fun other events listed => ?_, fun other events listed => ?_,
      fun other exists_ => ?_⟩ <;>
      simp only [InsertionMap.get?_delete] at *
    · split at listed
      · cases listed
      · exact numbered.increasing other events listed
    · split at listed
      · cases listed
      · exact numbered.given other events listed
    · split
      · next same => simp [same] at exists_
      · next differ =>
        rw [if_neg differ] at exists_
        exact numbered.listed other exists_

end TaskTables

end LongHub
