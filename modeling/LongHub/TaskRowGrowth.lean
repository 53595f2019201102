import LongHub.CloudTaskStore

/-!
# How the rows of the task tables may change

A row is staged while it is pending with an admission placeholder. Only a staged row can be
discarded, and only a staged row can get another input.
-/

namespace LongHub

open InsertionMap
def CloudTask.isStaged (task : CloudTask) : Bool :=
  task.status == .pending && isCloudTaskAdmissionPlaceholder task.input none

variable {task : CloudTask}

theorem CloudTask.isStaged_of_status (status : task.status ≠ .pending) : task.isStaged = false := by
  simp [CloudTask.isStaged, status]

theorem CloudTask.isStaged_of_input
    (input : isCloudTaskAdmissionPlaceholder task.input none = false) : task.isStaged = false := by
  simp [CloudTask.isStaged, input]

namespace TaskTables

variable (tables : TaskTables)

def IsBoundTo (key : String) (taskId : Nat) : Prop :=
  ∀ task, tables.getTask taskId = some task → tables.idempotency.get? key = some taskId

/-- The task is not staged and never will be again. -/
def IsSettled (taskId : Nat) : Prop :=
  taskId ≤ tables.taskSeq ∧ ∀ task, tables.getTask taskId = some task → task.isStaged = false

/-- Every row is stored under its own id, which the counter has passed. -/
def RowsNumbered : Prop :=
  ∀ taskId task, tables.getTask taskId = some task → taskId ≤ tables.taskSeq ∧ task.taskId = taskId

theorem rowsNumbered_empty : empty.RowsNumbered := by
  intro taskId task stored
  simp [getTask, empty] at stored

structure Grows (before after : TaskTables) : Prop where
  seq : before.taskSeq ≤ after.taskSeq
  staged : ∀ {taskId task}, taskId ≤ before.taskSeq → after.getTask taskId = some task →
    task.isStaged = true →
      ∃ old, before.getTask taskId = some old ∧ old.isStaged = true ∧ old.input = task.input
  kept : ∀ {taskId old}, before.getTask taskId = some old → old.isStaged = false →
    ∃ task, after.getTask taskId = some task ∧ task.input = old.input ∧
      task.isStaged = false ∧ (old.status ≠ .pending → task.status ≠ .pending)
  bound : ∀ {key taskId}, taskId ≤ before.taskSeq → before.IsBoundTo key taskId →
    after.IsBoundTo key taskId

theorem Grows.refl : Grows tables tables where
  seq := Nat.le_refl _
  staged _ stored staged := ⟨_, stored, staged, rfl⟩
  kept stored notStaged := ⟨_, stored, rfl, notStaged, id⟩
  bound _ bound := bound

variable {taskId : Nat} {old : CloudTask} {now : Instant} {input : JsonValue}
  {placeholder : CloudTaskAdmissionPlaceholder} {discarded : Bool}

theorem Grows.isSettled {before after : TaskTables} (grows : Grows before after)
    (settled : before.IsSettled taskId) : after.IsSettled taskId := by
  refine ⟨Nat.le_trans settled.1 grows.seq, fun task stored => ?_⟩
  by_contra staged
  obtain ⟨old, oldStored, oldStaged, -⟩ :=
    grows.staged settled.1 stored (by simpa using staged)
  rw [settled.2 old oldStored] at oldStaged
  cases oldStaged

theorem Grows.keyKept {before after : TaskTables} (grows : Grows before after)
    (numbered : before.RowsNumbered) {key : String} (stored : before.getTask taskId = some old)
    (notStaged : old.isStaged = false) (keyEq : before.idempotency.get? key = some taskId) :
    after.idempotency.get? key = some taskId := by
  have bound : before.IsBoundTo key taskId := fun _ _ => keyEq
  obtain ⟨task, storedAfter, -⟩ := grows.kept stored notStaged
  exact grows.bound (numbered taskId old stored).1 bound task storedAfter

variable {before after : TaskTables}

variable {task : CloudTask} {ownerKey fingerprint kind : String} {owner : CloudTaskOwner}

theorem Grows.of_setRow (stored : before.getTask taskId = some old)
    (tasks : after.tasks = before.tasks.set taskId task)
    (idempotency : after.idempotency = before.idempotency)
    (taskSeq : after.taskSeq = before.taskSeq) (notStaged : task.isStaged = false)
    (kept : old.isStaged = false → task.input = old.input ∧
      (old.status ≠ .pending → task.status ≠ .pending)) : Grows before after := by
  have row (other : Nat) : after.getTask other =
      if other = taskId then some task else before.getTask other := by
    simp [getTask, tasks]
  refine ⟨Nat.le_of_eq taskSeq.symm, ?_, ?_, ?_⟩
  · intro other found _ storedAfter staged
    rw [row] at storedAfter
    split at storedAfter
    · cases storedAfter
      rw [notStaged] at staged
      cases staged
    · exact ⟨found, storedAfter, staged, rfl⟩
  · intro other found storedBefore foundNotStaged
    rw [row]
    split
    · next same =>
      subst same
      obtain rfl : old = found := Option.some.inj (stored.symm.trans storedBefore)
      obtain ⟨input, status⟩ := kept foundNotStaged
      exact ⟨task, rfl, input, notStaged, status⟩
    · exact ⟨found, storedBefore, rfl, foundNotStaged, id⟩
  · intro key other _ bound found storedAfter
    rw [idempotency]
    rw [row] at storedAfter
    split at storedAfter
    · next same =>
      subst same
      exact bound old stored
    · exact bound found storedAfter

theorem RowsNumbered.of_setRow (numbered : before.RowsNumbered)
    (stored : before.getTask taskId = some old) (tasks : after.tasks = before.tasks.set taskId task)
    (sameId : task.taskId = old.taskId) (taskSeq : after.taskSeq = before.taskSeq) :
    after.RowsNumbered := by
  intro other found storedAfter
  rw [taskSeq]
  simp only [getTask, tasks, get?_set] at storedAfter
  split at storedAfter
  · next same =>
    cases storedAfter
    rw [same, sameId]
    exact numbered taskId old stored
  · exact numbered other found storedAfter

theorem Grows.insertTask (numbered : before.RowsNumbered)
    (free : before.idempotency.get? ownerKey = none) :
    Grows before (before.insertTask now ownerKey fingerprint
      (before.newTask now kind input owner)) := by
  have row {other : Nat} (below : other ≤ before.taskSeq) :
      (before.insertTask now ownerKey fingerprint
        (before.newTask now kind input owner)).getTask other = before.getTask other := by
    have differ : other ≠ before.taskSeq + 1 := by omega
    simp [getTask, TaskTables.insertTask, emit, newTask, differ]
  refine ⟨Nat.le_succ _, ?_, ?_, ?_⟩
  · intro taskId task below stored staged
    rw [row below] at stored
    exact ⟨task, stored, staged, rfl⟩
  · intro taskId old stored notStaged
    exact ⟨old, (row (numbered taskId old stored).1).trans stored, rfl, notStaged, id⟩
  · intro key taskId below bound task stored
    rw [row below] at stored
    have keyEq := bound task stored
    have differ : key ≠ ownerKey := by
      rintro rfl
      rw [free] at keyEq
      cases keyEq
    simpa [TaskTables.insertTask, emit, differ] using keyEq

theorem RowsNumbered.insertTask (numbered : before.RowsNumbered) :
    (before.insertTask now ownerKey fingerprint
      (before.newTask now kind input owner)).RowsNumbered := by
  intro taskId task stored
  change taskId ≤ before.taskSeq + 1 ∧ _
  simp only [getTask, TaskTables.insertTask, emit, newTask, get?_set] at stored
  split at stored
  · next same =>
    cases stored
    exact ⟨Nat.le_of_eq same, same.symm⟩
  · obtain ⟨below, sameId⟩ := numbered taskId task stored
    exact ⟨Nat.le_trans below (Nat.le_succ _), sameId⟩

theorem Grows.discardPendingTask
    (result : before.discardPendingTask taskId placeholder = (discarded, after)) :
    Grows before after := by
  rcases discardPendingTask_cases result with ⟨-, rfl, -⟩ | ⟨-, staged, rfl⟩
  · exact .refl after
  · obtain ⟨removed, removedStored, pending, isPlaceholder⟩ := isStaged_iff.mp staged
    have removedStaged : removed.isStaged = true := by
      simp [CloudTask.isStaged, pending, isCloudTaskAdmissionPlaceholder_of_expected isPlaceholder]
    have other {old : CloudTask} {id : Nat} (stored : before.getTask id = some old)
        (notStaged : old.isStaged = false) : id ≠ taskId := by
      rintro rfl
      obtain rfl : removed = old := Option.some.inj (removedStored.symm.trans stored)
      rw [removedStaged] at notStaged
      cases notStaged
    refine ⟨Nat.le_refl _, ?_, ?_, ?_⟩
    · intro id task _ stored isStaged
      simp only [getTask, get?_delete] at stored
      split at stored
      · cases stored
      · exact ⟨task, stored, isStaged, rfl⟩
    · intro id old stored notStaged
      exact ⟨old, by simpa [getTask, other stored notStaged] using stored, rfl, notStaged,
        fun started => started⟩
    · intro key id _ bound task stored
      simp only [getTask, get?_delete] at stored
      split at stored
      · cases stored
      · next differ =>
        simp [bound task stored, differ]

theorem RowsNumbered.discardPendingTask (numbered : before.RowsNumbered)
    (result : before.discardPendingTask taskId placeholder = (discarded, after)) :
    after.RowsNumbered := by
  rcases discardPendingTask_cases result with ⟨-, rfl, -⟩ | ⟨-, -, rfl⟩
  · exact numbered
  · intro id task stored
    simp only [getTask, get?_delete] at stored
    split at stored
    · cases stored
    · exact numbered id task stored

theorem isStaged_discardPendingTask
    (result : before.discardPendingTask taskId placeholder = (discarded, after)) :
    after.isStaged taskId placeholder = false := by
  rcases discardPendingTask_cases result with ⟨-, rfl, notStaged⟩ | ⟨-, -, rfl⟩
  · exact notStaged
  · simp [isStaged]

theorem Grows.admitPendingTaskInput {admitted : Option CloudTask} (numbered : before.RowsNumbered)
    (isInput : isCloudTaskAdmissionPlaceholder input none = false)
    (result : before.admitPendingTaskInput now taskId placeholder input = (admitted, after)) :
    Grows before after ∧ after.RowsNumbered := by
  rcases admitPendingTaskInput_cases result with
    ⟨-, rfl, -⟩ | ⟨task, stored, pending, isPlaceholder, -, rfl⟩
  · exact ⟨.refl _, numbered⟩
  · have wasStaged : task.isStaged = true := by
      simp [CloudTask.isStaged, pending, isCloudTaskAdmissionPlaceholder_of_expected isPlaceholder]
    refine ⟨.of_setRow stored rfl rfl rfl (CloudTask.isStaged_of_input isInput) ?_,
      numbered.of_setRow stored rfl rfl rfl⟩
    intro notStaged
    rw [wasStaged] at notStaged
    cases notStaged

theorem Grows.claimPendingTask {claimed : Option CloudTask} (numbered : before.RowsNumbered)
    (result : before.claimPendingTask now taskId = (claimed, after)) :
    Grows before after ∧ after.RowsNumbered := by
  rcases claimPendingTask_cases result with ⟨-, rfl⟩ | ⟨task, stored, -, -, rfl⟩
  · exact ⟨.refl _, numbered⟩
  · exact ⟨.of_setRow stored rfl rfl rfl (CloudTask.isStaged_of_status (by simp))
      fun _ => ⟨rfl, fun _ => by simp⟩, numbered.of_setRow stored rfl rfl rfl⟩

theorem Grows.transitionIfStatus {expectedStatuses : List CloudTaskStatus}
    {status : CloudTaskStatus} {patch : TaskPatch} {moved : Option CloudTask}
    (numbered : before.RowsNumbered) (started : status ≠ .pending)
    (result : before.transitionIfStatus now taskId expectedStatuses status patch = (moved, after)) :
    Grows before after ∧ after.RowsNumbered := by
  rcases transitionIfStatus_cases result with ⟨-, rfl, -⟩ | ⟨task, stored, -, -, rfl⟩
  · exact ⟨.refl _, numbered⟩
  · exact ⟨.of_setRow stored rfl rfl rfl (CloudTask.isStaged_of_status started)
      fun _ => ⟨rfl, fun _ => started⟩, numbered.of_setRow stored rfl rfl rfl⟩

end TaskTables

end LongHub
