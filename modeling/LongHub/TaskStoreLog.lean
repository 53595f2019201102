import LongHub.GuardedRun
import LongHub.TaskEventLog
import LongHub.TaskRowGrowth

/-!
# The event log of a task in memory

In memory an operation changes the row of a task and announces its new status in one step.
-/

namespace LongHub

open InsertionMap Option
inductive TaskStoreCall where
  | createTask (idempotencyKey kind : String) (input : JsonValue) (owner : CloudTaskOwner)
      (requestFingerprint : Option String)
  | admitPendingTaskInput (taskId : Nat) (placeholder : CloudTaskAdmissionPlaceholder)
      (input : JsonValue)
  | claimPendingTask (taskId : Nat)
  | transitionIfStatus (call : TransitionCall)
  | discardPendingTask (taskId : Nat) (placeholder : CloudTaskAdmissionPlaceholder)

namespace TaskTables

@[grind =]
def performCall (tables : TaskTables) (action : TaskStoreCall × Instant) : Option TaskTables :=
  match action with
  | (.createTask idempotencyKey kind input owner requestFingerprint, now) =>
    match tables.createTask now idempotencyKey kind input owner requestFingerprint with
    | .ok (_, after) => some after
    | .error _ => some tables
  | (.admitPendingTaskInput taskId placeholder input, now) =>
    some (tables.admitPendingTaskInput now taskId placeholder input).2
  | (.claimPendingTask taskId, now) => some (tables.claimPendingTask now taskId).2
  | (.transitionIfStatus call, now) =>
    some (tables.transitionIfStatus now call.taskId call.expectedStatuses call.status call.patch).2
  | (.discardPendingTask taskId placeholder, _) =>
    some (tables.discardPendingTask taskId placeholder).2

def RunsTo (before after : TaskTables) : Prop :=
  GuardedRun performCall (fun _ _ => True) before after

structure LogInv (tables : TaskTables) : Prop where
  rows : tables.RowsNumbered
  events : tables.EventsNumbered
  run : ∀ taskId task, tables.getTask taskId = some task →
    ∃ events statuses, tables.eventsByTask.get? taskId = some events ∧
      TaskRun statuses task.status ∧
      events.map (·.type) = statuses.map taskEventType

def Ended (tables : TaskTables) (taskId : Nat) (task : CloudTask)
    (events : List CloudTaskEvent) : Prop :=
  task.status.isTerminal = true ∧ tables.getTask taskId = some task ∧
    tables.eventsByTask.get? taskId = some events

variable {tables before after : TaskTables}

theorem logInv_empty : empty.LogInv where
  rows := rowsNumbered_empty
  events := eventsNumbered_empty
  run taskId task stored := by simp [getTask, empty] at stored

theorem LogInv.insertTask (inv : tables.LogInv) (now : Instant) (ownerKey fingerprint kind : String)
    (input : JsonValue) (owner : CloudTaskOwner) :
    (tables.insertTask now ownerKey fingerprint (tables.newTask now kind input owner)).LogInv where
  rows := inv.rows.insertTask
  events := inv.events.insertTask now ownerKey fingerprint _
  run taskId task stored := by
    simp only [getTask, TaskTables.insertTask, tasks_emit, get?_set] at stored
    simp only [TaskTables.insertTask, get?_eventsByTask_emit, get?_set]
    split at stored
    · next same =>
      obtain rfl := some.inj stored
      rw [if_pos same]
      exact ⟨_, [.pending], rfl, .created, by simp [same, nextEvent]⟩
    · next differ =>
      obtain ⟨events, statuses, listed, run, types⟩ := inv.run taskId task stored
      rw [if_neg differ, listed]
      exact ⟨_, statuses, rfl, run, by simp [differ, types]⟩

variable {taskId : Nat} {task : CloudTask} {events : List CloudTaskEvent}

theorem LogInv.setRow (inv : tables.LogInv) {old : CloudTask}
    (stored : tables.getTask taskId = some old) (sameId : task.taskId = old.taskId)
    (sameStatus : task.status = old.status) :
    LogInv { tables with tasks := tables.tasks.set taskId task } where
  rows := inv.rows.of_setRow stored rfl sameId rfl
  events := by
    apply inv.events.setTask
    rw [← getTask, stored]
    simp
  run other found storedAfter := by
    simp only [getTask, get?_set] at storedAfter
    split at storedAfter
    · next same =>
      obtain rfl := some.inj storedAfter
      rw [sameStatus, same]
      exact inv.run taskId old stored
    · exact inv.run other found storedAfter

/-- A row whose status changes along the state machine gets the event of its
new status. -/
theorem LogInv.move (inv : tables.LogInv) {old : CloudTask} (now : Instant)
    (error : Option TaskError) (stored : tables.getTask taskId = some old)
    (sameId : task.taskId = old.taskId) (follows : old.status.canFollow task.status = true) :
    LogInv ({ tables with tasks := tables.tasks.set taskId task }.emit now taskId
      (taskEventType task.status) error) where
  rows := inv.rows.of_setRow stored rfl sameId rfl
  events := by
    apply EventsNumbered.emit
    apply inv.events.setTask
    rw [← getTask, stored]
    simp
  run other found storedAfter := by
    simp only [getTask, tasks_emit, get?_set] at storedAfter
    rw [get?_eventsByTask_emit]
    split at storedAfter
    · next same =>
      obtain rfl := some.inj storedAfter
      obtain ⟨events, statuses, listed, run, types⟩ := inv.run taskId old stored
      rw [same, listed]
      exact ⟨_, statuses ++ [task.status], rfl, run.next follows, by simp [types, nextEvent]⟩
    · next differ =>
      obtain ⟨events, statuses, listed, run, types⟩ := inv.run other found storedAfter
      rw [listed]
      exact ⟨_, statuses, rfl, run, by simp [differ, types]⟩

theorem LogInv.discardPendingTask (inv : tables.LogInv)
    {placeholder : CloudTaskAdmissionPlaceholder} {discarded : Bool}
    (result : tables.discardPendingTask taskId placeholder = (discarded, after)) :
    after.LogInv where
  rows := inv.rows.discardPendingTask result
  events := inv.events.discardPendingTask result
  run other found stored := by
    rcases discardPendingTask_cases result with ⟨-, rfl, -⟩ | ⟨-, -, rfl⟩
    · exact inv.run other found stored
    · simp only [getTask, get?_delete] at stored
      split at stored
      · cases stored
      · next differ =>
        obtain ⟨events, statuses, listed, run, types⟩ := inv.run other found stored
        exact ⟨events, statuses, by simp [differ, listed], run, types⟩

theorem logInv_performCall {action : TaskStoreCall × Instant} (inv : before.LogInv)
    (stepTo : before.performCall action = some after) : after.LogInv := by
  obtain ⟨call, now⟩ := action
  cases call with
  | createTask idempotencyKey kind input owner requestFingerprint =>
    simp only [performCall] at stepTo
    split at stepTo
    · next answer tables created =>
      obtain rfl := some.inj stepTo
      obtain ⟨task, existed⟩ := answer
      rcases createTask_cases created with ⟨-, rfl, -⟩ | ⟨-, -, rfl, fingerprint, rfl⟩
      · exact inv
      · exact inv.insertTask now _ fingerprint kind input owner
    · obtain rfl := some.inj stepTo
      exact inv
  | admitPendingTaskInput taskId placeholder input =>
    obtain rfl := some.inj stepTo
    generalize result : before.admitPendingTaskInput now taskId placeholder input = outcome
    rcases admitPendingTaskInput_cases result with ⟨-, same, -⟩ | ⟨task, stored, -, -, -, same⟩
    · rw [same]
      exact inv
    · rw [same]
      exact inv.setRow stored rfl rfl
  | claimPendingTask taskId =>
    obtain rfl := some.inj stepTo
    generalize result : before.claimPendingTask now taskId = outcome
    rcases claimPendingTask_cases result with ⟨-, same⟩ | ⟨task, stored, pending, -, same⟩
    · rw [same]
      exact inv
    · rw [same]
      exact inv.move now none stored rfl (by simp [pending, CloudTaskStatus.canFollow])
  | transitionIfStatus call =>
    obtain rfl := some.inj stepTo
    generalize result : before.transitionIfStatus now call.taskId call.expectedStatuses
      call.status call.patch = outcome
    rcases transitionIfStatus_cases result with ⟨-, same, -⟩ | ⟨task, stored, expected, -, same⟩
    · rw [same]
      exact inv
    · rw [same]
      have follows := PgTaskLog.canFollow_of_open (call.fromOpen _ expected) call.toTerminal
      exact inv.move now _ stored rfl follows
  | discardPendingTask taskId placeholder =>
    obtain rfl := some.inj stepTo
    exact inv.discardPendingTask rfl

theorem Ended.frame (ended : before.Ended taskId task events)
    (row : after.getTask taskId = before.getTask taskId)
    (log : after.eventsByTask.get? taskId = before.eventsByTask.get? taskId) :
    after.Ended taskId task events := by
  obtain ⟨terminal, stored, listed⟩ := ended
  exact ⟨terminal, row.trans stored, log.trans listed⟩

/-- Another row may change and get an event. -/
theorem Ended.move {other : Nat} {moved : CloudTask} {now : Instant} {type : String}
    {error : Option TaskError} (ended : before.Ended taskId task events)
    (differ : taskId ≠ other) :
    Ended ({ before with tasks := before.tasks.set other moved }.emit now other type error)
      taskId task events := by
  apply ended.frame
  · simp [getTask, differ]
  · rw [get?_eventsByTask_emit]
    simp [differ]

theorem Ended.performCall {action : TaskStoreCall × Instant} (numbered : before.RowsNumbered)
    (ended : before.Ended taskId task events) (stepTo : before.performCall action = some after) :
    after.Ended taskId task events := by
  have terminal := ended.1
  have differ {other : Nat} {old : CloudTask} (stored : before.getTask other = some old)
      (isOpen : old.status.isTerminal = false) : taskId ≠ other := by
    rintro rfl
    obtain rfl := some.inj (ended.2.1.symm.trans stored)
    rw [terminal] at isOpen
    cases isOpen
  obtain ⟨call, now⟩ := action
  cases call with
  | createTask idempotencyKey kind input owner requestFingerprint =>
    simp only [TaskTables.performCall] at stepTo
    split at stepTo
    · next answer tables created =>
      obtain rfl := some.inj stepTo
      obtain ⟨created, existed⟩ := answer
      rcases createTask_cases created with ⟨-, rfl, -⟩ | ⟨-, -, rfl, fingerprint, rfl⟩
      · exact ended
      · have below := (numbered taskId task ended.2.1).1
        have isOld : taskId ≠ before.taskSeq + 1 := by omega
        apply ended.frame
        · simp [getTask, TaskTables.insertTask, newTask, isOld]
        · simp [TaskTables.insertTask, get?_eventsByTask_emit, newTask, isOld]
    · obtain rfl := some.inj stepTo
      exact ended
  | admitPendingTaskInput other placeholder input =>
    obtain rfl := some.inj stepTo
    generalize result : before.admitPendingTaskInput now other placeholder input = outcome
    rcases admitPendingTaskInput_cases result with
      ⟨-, same, -⟩ | ⟨old, stored, pending, -, -, same⟩
    · rw [same]
      exact ended
    · rw [same]
      have apart := differ stored (by rw [pending]; rfl)
      apply ended.frame
      · simp [getTask, apart]
      · rfl
  | claimPendingTask other =>
    obtain rfl := some.inj stepTo
    generalize result : before.claimPendingTask now other = outcome
    rcases claimPendingTask_cases result with ⟨-, same⟩ | ⟨old, stored, pending, -, same⟩
    · rw [same]
      exact ended
    · rw [same]
      exact ended.move (differ stored (by rw [pending]; rfl))
  | transitionIfStatus call =>
    obtain rfl := some.inj stepTo
    generalize result : before.transitionIfStatus now call.taskId call.expectedStatuses
      call.status call.patch = outcome
    rcases transitionIfStatus_cases result with ⟨-, same, -⟩ | ⟨old, stored, expected, -, same⟩
    · rw [same]
      exact ended
    · rw [same]
      exact ended.move (differ stored (call.fromOpen _ expected))
  | discardPendingTask other placeholder =>
    obtain rfl := some.inj stepTo
    generalize result : before.discardPendingTask other placeholder = outcome
    rcases discardPendingTask_cases result with ⟨-, same, -⟩ | ⟨-, staged, same⟩
    · rw [same]
      exact ended
    · rw [same]
      obtain ⟨old, stored, pending, -⟩ := isStaged_iff.mp staged
      have apart := differ stored (by rw [pending]; rfl)
      apply ended.frame
      · simp [getTask, apart]
      · simp [apart]

theorem RunsTo.logInv (run : RunsTo before after) (inv : before.LogInv) : after.LogInv :=
  run.invariant LogInv inv fun _ _ _ inv _ stepTo => logInv_performCall inv stepTo

theorem RunsTo.ended (run : RunsTo before after) (inv : before.LogInv)
    (ended : before.Ended taskId task events) : after.Ended taskId task events := by
  have both := run.invariant (fun tables => tables.LogInv ∧ tables.Ended taskId task events)
    ⟨inv, ended⟩ fun _ _ _ holds _ stepTo =>
      ⟨logInv_performCall holds.1 stepTo, holds.2.performCall holds.1.rows stepTo⟩
  exact both.2

structure LogGuaranteed (tables : TaskTables) : Prop where
  increasing : ∀ taskId events, tables.eventsByTask.get? taskId = some events →
    events.Pairwise fun first second => first.eventId < second.eventId
  /-- The events are a run of the state machine, and the last one is that of the
  stored status. -/
  agrees : ∀ taskId task, tables.getTask taskId = some task →
    ∃ events statuses, tables.eventsByTask.get? taskId = some events ∧
      TaskRun statuses task.status ∧ events.map (·.type) = statuses.map taskEventType ∧
      events.getLast?.map (·.type) = some (taskEventType task.status)
  /-- A task that has ended keeps its row and its events. -/
  settled : ∀ later, tables.RunsTo later → ∀ taskId task, tables.getTask taskId = some task →
    task.status.isTerminal = true → later.getTask taskId = some task ∧
        later.eventsByTask.get? taskId = tables.eventsByTask.get? taskId

/-- The event log of every task is sound in every state that is reached. -/
theorem logGuaranteed (run : empty.RunsTo tables) : tables.LogGuaranteed := by
  have inv := RunsTo.logInv run logInv_empty
  constructor
  · exact inv.events.increasing
  · intro taskId task stored
    obtain ⟨events, statuses, listed, path, types⟩ := inv.run taskId task stored
    have last : events.getLast?.map (·.type) = some (taskEventType task.status) := by
      rw [← List.getLast?_map, types, List.getLast?_map, path.getLast?, map_some]
    exact ⟨events, statuses, listed, path, types, last⟩
  · intro later onward taskId task stored terminal
    obtain ⟨events, statuses, listed, -, -⟩ := inv.run taskId task stored
    have ended : tables.Ended taskId task events := ⟨terminal, stored, listed⟩
    obtain ⟨-, storedLater, listedLater⟩ := RunsTo.ended onward inv ended
    exact ⟨storedLater, listedLater.trans listed.symm⟩

theorem cancelFirstTask_open :
    ∀ expected ∈ [CloudTaskStatus.pending, .running], expected.isTerminal = false := by
  decide

def cancelFirstTask : TransitionCall where
  taskId := 1
  expectedStatuses := [.pending, .running]
  status := .cancelled
  patch := {}
  fromOpen := cancelFirstTask_open
  toTerminal := rfl

theorem logGuaranteed_cancelled : ∃ tables : TaskTables, tables.LogGuaranteed ∧
      (tables.eventsAfter 1 none).map (·.type) =
        ["task.accepted", "task.started", "task.cancelled"] := by
  obtain ⟨tables, runs, types⟩ := map_eq_some_iff.mp (show (runActions performCall empty
        [(.createTask "key" "skill.execute" .null ⟨"tenant", "device", "agent"⟩ none, 1),
          (.claimPendingTask 1, 2), (.transitionIfStatus cancelFirstTask, 3),
          (.claimPendingTask 1, 4), (.transitionIfStatus cancelFirstTask, 5)]).map
        (fun tables => (tables.eventsAfter 1 none).map (·.type)) =
      some ["task.accepted", "task.started", "task.cancelled"] by decide)
  have run : empty.RunsTo tables := GuardedRun.of_runActions (fun _ _ => trivial) runs
  exact ⟨tables, logGuaranteed run, types⟩

end TaskTables

end LongHub
