import LongHub.ListLemmas
import LongHub.PgTaskStore
import LongHub.RelyGuarantee

/-!
# The event log of a task in PostgreSQL

An operation first updates the row of the task and then inserts the event of the new status. Between
the two statements the operation owes an event.
-/

namespace LongHub

open List Machine Option Or

def CloudTaskStatus.canFollow : CloudTaskStatus → CloudTaskStatus → Bool
  | .pending, next => next != .pending
  | .running, next => next.isTerminal
  | _, _ => false

/-- The statuses of a task, one allowed step after the other. -/
inductive TaskRun : List CloudTaskStatus → CloudTaskStatus → Prop where
  | created : TaskRun [.pending] .pending
  | next {statuses : List CloudTaskStatus} {status following : CloudTaskStatus} :
      TaskRun statuses status → status.canFollow following = true →
      TaskRun (statuses ++ [following]) following

def IsEventRun (types : List String) : Prop :=
  types = [] ∨ ∃ statuses status, TaskRun statuses status ∧ types = statuses.map taskEventType

variable {statuses : List CloudTaskStatus} {status : CloudTaskStatus}

theorem TaskRun.getLast? (run : TaskRun statuses status) : statuses.getLast? = some status := by
  cases run <;> simp

theorem TaskRun.isEventRun_of_append (run : TaskRun statuses status) {logged owed : List String}
    (split : statuses.map taskEventType = logged ++ owed) : IsEventRun logged := by
  induction run generalizing owed with
  | created =>
    cases logged with
    | nil => exact inl rfl
    | cons type rest =>
      refine inr ⟨_, _, .created, ?_⟩
      simp only [map_cons, map_nil, cons_append, List.cons.injEq] at split
      have restNil : rest = [] := (append_eq_nil_iff.mp split.2.symm).1
      simp [split.1, restNil]
  | @next statuses status following run follows ih =>
    rcases eq_nil_or_concat owed with rfl | ⟨front, last, rfl⟩
    · exact inr ⟨_, _, run.next follows, by simpa using split.symm⟩
    · rw [map_append, concat_eq_append, ← append_assoc] at split
      exact ih (append_inj' split rfl).1

theorem CloudTaskStatus.not_canFollow_of_isTerminal (terminal : status.isTerminal = true)
    (following : CloudTaskStatus) : status.canFollow following = false := by
  cases status <;> first | rfl | exact absurd terminal (by decide)

variable {terminal : CloudTaskStatus} {before rest : List String}

theorem TaskRun.nothing_after_terminal (run : TaskRun statuses status)
    (isTerminal : terminal.isTerminal = true)
    (split : statuses.map taskEventType = before ++ taskEventType terminal :: rest) :
    rest = [] := by
  induction run generalizing rest with
  | created =>
    have lengthEq := congrArg List.length split
    simp only [map_cons, map_nil, length_cons, length_nil, length_append] at lengthEq
    exact length_eq_zero_iff.mp (by omega)
  | @next statuses status following run follows ih =>
    rcases eq_nil_or_concat rest with rfl | ⟨front, last, rfl⟩
    · rfl
    · rw [map_append, concat_eq_append, ← cons_append, ← append_assoc] at split
      have splitBefore := (append_inj' split rfl).1
      cases ih splitBefore
      have lastType := congrArg List.getLast? splitBefore
      simp only [getLast?_map, run.getLast?, map_some, getLast?_append, getLast?_singleton, some_or,
        Option.some.injEq] at lastType
      rw [taskEventType_injective lastType,
        CloudTaskStatus.not_canFollow_of_isTerminal isTerminal] at follows
      cases follows

theorem IsEventRun.nothing_after_terminal {types : List String} (run : IsEventRun types)
    (isTerminal : terminal.isTerminal = true)
    (split : types = before ++ taskEventType terminal :: rest) : rest = [] := by
  rcases run with rfl | ⟨statuses, status, run, rfl⟩
  · simp at split
  · exact run.nothing_after_terminal isTerminal split

/-- The event of a row that is written, before it is inserted. -/
structure OwedEvent where
  thread : Nat
  taskId : Nat
  type : String
  deriving DecidableEq

structure PgTaskLog where
  tables : PgTaskTables
  owed : List OwedEvent

namespace PgTaskLog

def empty : PgTaskLog := ⟨.empty, []⟩

def updatedTask : (request : PgTaskCall) → Except PgTaskError request.Answer → Option CloudTask
  | .insertTask .., .ok task => task
  | .updateClaim .., .ok task => task
  | .updateIfStatus .., .ok task => task
  | _, _ => none

def settle (thread : Nat) (request : PgTaskCall) (answer : Except PgTaskError request.Answer)
    (owed : List OwedEvent) : List OwedEvent :=
  match updatedTask request answer with
  | some task => owed ++ [⟨thread, task.taskId, taskEventType task.status⟩]
  | none =>
    match request, answer with
    | .insertEvent taskId type _, .ok _ => owed.erase ⟨thread, taskId, type⟩
    | _, _ => owed

def perform (thread : Nat) (request : PgTaskCall) (stamp : PgStamp) (log : PgTaskLog) :
    Option (Except PgTaskError request.Answer × PgTaskLog) :=
  (log.tables.execute stamp request).map fun outcome =>
    (outcome.1, ⟨outcome.2, settle thread request outcome.1 log.owed⟩)

def eventTypes (log : PgTaskLog) (taskId : Nat) : List String :=
  (log.tables.events.filter fun event => event.taskId == taskId).map CloudTaskEvent.type

def owedTypes (log : PgTaskLog) (taskId : Nat) : List String :=
  (log.owed.filter fun event => event.taskId == taskId).map OwedEvent.type

def insertsInOrder (thread : Nat) (request : PgTaskCall) (_ : PgStamp) (log : PgTaskLog) : Bool :=
  match request with
  | .insertEvent taskId type _ =>
    log.owed.find? (fun event => event.taskId == taskId) == some ⟨thread, taskId, type⟩
  | _ => true

end PgTaskLog

structure TransitionCall where
  taskId : Nat
  expectedStatuses : List CloudTaskStatus
  status : CloudTaskStatus
  patch : TaskPatch
  fromOpen : ∀ expected ∈ expectedStatuses, expected.isTerminal = false
  toTerminal : status.isTerminal = true

inductive PgTaskRequest where
  | createTask (idempotencyKey kind : String) (input : JsonValue)
      (owner : Option CloudTaskOwner) (requestFingerprint : Option String)
  | claimPendingTask (taskId : Nat)
  | transitionIfStatus (call : TransitionCall)

def PgTaskRequest.program : PgTaskRequest → PgTaskStore.PgTaskProgram Unit
  | .createTask idempotencyKey kind input owner requestFingerprint => do
    let _ ← PgTaskStore.createTask idempotencyKey kind input owner requestFingerprint
    return ()
  | .claimPendingTask taskId => do
    let _ ← PgTaskStore.claimPendingTask taskId
    return ()
  | .transitionIfStatus call => do
    let _ ← PgTaskStore.transitionIfStatus call.taskId call.expectedStatuses call.status call.patch
    return ()

def pgTaskMachine :
    Machine PgTaskLog PgTaskCall PgTaskCall.Answer PgTaskError PgStamp PgTaskRequest Empty where
  perform := PgTaskLog.perform
  program := PgTaskRequest.program
  environment := fun event => nomatch event

namespace PgTaskLog

structure RunInv (log : PgTaskLog) : Prop where
  keyed : ∀ taskId row, log.tables.rows.get? taskId = some row → row.task.taskId = taskId
  run : ∀ taskId row, log.tables.rows.get? taskId = some row →
    ∃ statuses, TaskRun statuses row.task.status ∧
      statuses.map taskEventType = log.eventTypes taskId ++ log.owedTypes taskId
  fresh : ∀ taskId, log.tables.rows.get? taskId = none →
    log.eventTypes taskId = [] ∧ log.owedTypes taskId = []

theorem runInv_empty : empty.RunInv := by
  constructor <;> simp [empty, PgTaskTables.empty, eventTypes, owedTypes]

/-- A row is written and its event is owed. -/
def owe (log : PgTaskLog) (thread taskId : Nat) (row : PgTaskRow) : PgTaskLog where
  tables := { log.tables with rows := log.tables.rows.set taskId row }
  owed := log.owed ++ [⟨thread, row.task.taskId, taskEventType row.task.status⟩]

def pay (log : PgTaskLog) (thread : Nat) (event : CloudTaskEvent) : PgTaskLog where
  tables := { log.tables with
    events := log.tables.events ++ [event]
    eventSeq := log.tables.eventSeq + 1 }
  owed := log.owed.erase ⟨thread, event.taskId, event.type⟩

@[simp]
theorem eventTypes_owe (log : PgTaskLog) (thread taskId : Nat) (row : PgTaskRow)
    (other : Nat) : (log.owe thread taskId row).eventTypes other = log.eventTypes other :=
  rfl

variable {thread taskId : Nat} {log : PgTaskLog}

variable {row : PgTaskRow} {event : CloudTaskEvent} {request : PgTaskCall} {stamp : PgStamp}
  {after : PgTaskLog}

theorem owedTypes_owe (log : PgTaskLog) (keyed : row.task.taskId = taskId) (other : Nat) :
    (log.owe thread taskId row).owedTypes other = log.owedTypes other ++
      if other = taskId then [taskEventType row.task.status] else [] := by
  by_cases same : other = taskId
  · simp [owe, owedTypes, filter_append, keyed, same]
  · simp [owe, owedTypes, filter_append, keyed, same, Ne.symm same]

theorem RunInv.owe (inv : log.RunInv) (keyed : row.task.taskId = taskId)
    (extended : ∃ statuses, TaskRun statuses row.task.status ∧
      statuses.map taskEventType = log.eventTypes taskId ++ log.owedTypes taskId ++
        [taskEventType row.task.status]) : (log.owe thread taskId row).RunInv := by
  constructor
  · intro other found stored
    simp only [PgTaskLog.owe, InsertionMap.get?_set] at stored
    split at stored
    · next same =>
      cases stored
      exact keyed.trans same.symm
    · exact inv.keyed other found stored
  · intro other found stored
    simp only [PgTaskLog.owe, InsertionMap.get?_set] at stored
    rw [eventTypes_owe, owedTypes_owe log keyed]
    split at stored
    · next same =>
      cases stored
      subst same
      obtain ⟨statuses, run, typesEq⟩ := extended
      exact ⟨statuses, run, by simpa [append_assoc] using typesEq⟩
    · next differ =>
      obtain ⟨statuses, run, typesEq⟩ := inv.run other found stored
      exact ⟨statuses, run, by simpa [differ] using typesEq⟩
  · intro other absent
    simp only [PgTaskLog.owe, InsertionMap.get?_set] at absent
    rw [eventTypes_owe, owedTypes_owe log keyed]
    split at absent
    · cases absent
    · next differ =>
      obtain ⟨noEvents, noOwed⟩ := inv.fresh other absent
      exact ⟨noEvents, by simp [noOwed, differ]⟩

theorem types_pay (oldest : log.owed.find? (fun owed => owed.taskId == event.taskId) =
      some ⟨thread, event.taskId, event.type⟩) (other : Nat) :
    (log.pay thread event).eventTypes other ++ (log.pay thread event).owedTypes other =
      log.eventTypes other ++ log.owedTypes other := by
  by_cases same : other = event.taskId
  · subst same
    simp [pay, eventTypes, owedTypes, List.filter_eq_cons_of_find? oldest, filter_append]
  · have erased : (log.owed.erase ⟨thread, event.taskId, event.type⟩).filter
        (fun owed => owed.taskId == other) =
        log.owed.filter fun owed => owed.taskId == other :=
      List.filter_erase_of_not (by simpa using Ne.symm same) log.owed
    simp [pay, eventTypes, owedTypes, erased, filter_append, Ne.symm same]

theorem RunInv.pay (inv : log.RunInv)
    (oldest : log.owed.find? (fun owed => owed.taskId == event.taskId) =
      some ⟨thread, event.taskId, event.type⟩) : (log.pay thread event).RunInv := by
  constructor
  · exact inv.keyed
  · intro taskId row stored
    obtain ⟨statuses, run, typesEq⟩ := inv.run taskId row stored
    exact ⟨statuses, run, typesEq.trans (types_pay oldest taskId).symm⟩
  · intro taskId absent
    obtain ⟨noEvents, noOwed⟩ := inv.fresh taskId absent
    have nothing := types_pay oldest taskId
    rw [noEvents, noOwed] at nothing
    exact append_eq_nil_iff.mp nothing

def FollowsStatus : PgTaskCall → Prop
  | .updateIfStatus _ expectedStatuses status _ =>
    (∀ expected ∈ expectedStatuses, expected.isTerminal = false) ∧ status.isTerminal = true
  | _ => True

theorem canFollow_of_open {status following : CloudTaskStatus} (isOpen : status.isTerminal = false)
    (terminal : following.isTerminal = true) : status.canFollow following = true := by
  cases status <;> cases following <;> first | rfl | (revert isOpen terminal; decide)

theorem RunInv.updateStatus (inv : log.RunInv) (thread : Nat) {now : Instant}
    {expectedStatuses : List CloudTaskStatus} {status : CloudTaskStatus} {patch : TaskPatch}
    {result : Option CloudTask} {tables : PgTaskTables}
    (follows : ∀ expected ∈ expectedStatuses, expected.canFollow status = true)
    (updated : log.tables.updateStatus now taskId expectedStatuses status patch =
      (result, tables)) : (result = none ∧ tables = log.tables) ∨
    ∃ row, result = some row.task ∧ row.task.taskId = taskId ∧
      row.task.status = status ∧ tables = (log.owe thread taskId row).tables ∧
      (log.owe thread taskId row).RunInv := by
  rcases PgTaskTables.updateStatus_cases updated with unmatched | matched
  · exact inl unmatched
  · obtain ⟨row, stored, expected, rfl, rfl⟩ := matched
    obtain ⟨statuses, run, typesEq⟩ := inv.run taskId row stored
    have keyed := inv.keyed taskId row stored
    refine inr ⟨{ row with task := row.task.withStatus now status patch },
      rfl, keyed, rfl, rfl, inv.owe keyed ⟨statuses ++ [status], run.next (follows _ expected), ?_⟩⟩
    simp [typesEq]

def Announces : PgTaskCall → CloudTask → Prop
  | .insertTask .., task => task.status = .pending
  | .updateClaim taskId, task => task.taskId = taskId ∧ task.status = .running
  | .updateIfStatus taskId _ status _, task =>
    task.taskId = taskId ∧ task.status = status
  | _, _ => False

/-- Everything that one statement can do to the log and the debts. -/
theorem perform_cases {answer : Except PgTaskError request.Answer} (inv : log.RunInv)
    (follows : FollowsStatus request)
    (ran : perform thread request stamp log = some (answer, after)) :
    (updatedTask request answer = none ∧ after = log) ∨
    (∃ taskId row, updatedTask request answer = some row.task ∧
      Announces request row.task ∧ row.task.taskId = taskId ∧
      after = log.owe thread taskId row ∧ after.RunInv) ∨
    (∃ taskId type error event, request = .insertEvent taskId type error ∧
      event.taskId = taskId ∧ event.type = type ∧ after = log.pay thread event) := by
  obtain ⟨⟨answer, tables⟩, executed, performedEq⟩ := map_eq_some_iff.mp ran
  cases performedEq
  cases request with
  | insertTask idempotencyKey kind fingerprint input owner =>
    simp only [PgTaskTables.execute] at executed
    split at executed
    · cases executed
    · next free =>
      split at executed
      · cases executed
        exact inl ⟨rfl, rfl⟩
      · split at executed
        · cases executed
          exact inl ⟨rfl, rfl⟩
        · cases executed
          have absent : log.tables.rows.get? stamp.taskId = none := by simpa using free
          obtain ⟨noEvents, noOwed⟩ := inv.fresh stamp.taskId absent
          refine inr (inl ⟨stamp.taskId, _, rfl, rfl, rfl, rfl, ?_⟩)
          refine inv.owe rfl ⟨[.pending], .created, ?_⟩
          simp [noEvents, noOwed, PgTaskTables.newRow]
  | selectByOwner idempotencyKey owner =>
    cases executed
    exact inl ⟨rfl, rfl⟩
  | updateClaim taskId =>
    simp only [PgTaskTables.execute] at executed
    generalize updatedEq : log.tables.updateStatus stamp.now taskId [.pending] .running
      {} = updated at executed
    obtain ⟨result, tables⟩ := updated
    cases executed
    rcases inv.updateStatus thread (by decide) updatedEq with
      ⟨rfl, rfl⟩ | ⟨row, rfl, keyed, status, rfl, kept⟩
    · exact inl ⟨rfl, rfl⟩
    · exact inr (inl ⟨taskId, row, rfl, ⟨keyed, status⟩, keyed, rfl, kept⟩)
  | updateIfStatus taskId expectedStatuses status patch =>
    simp only [PgTaskTables.execute] at executed
    generalize updatedEq : log.tables.updateStatus stamp.now taskId expectedStatuses
      status patch = updated at executed
    obtain ⟨result, tables⟩ := updated
    cases executed
    rcases inv.updateStatus thread
      (fun expected mem => canFollow_of_open (follows.1 expected mem) follows.2)
      updatedEq with ⟨rfl, rfl⟩ | ⟨row, rfl, keyed, statusEq, rfl, kept⟩
    · exact inl ⟨rfl, rfl⟩
    · exact inr (inl ⟨taskId, row, rfl, ⟨keyed, statusEq⟩, keyed, rfl, kept⟩)
  | insertEvent taskId type error =>
    simp only [PgTaskTables.execute] at executed
    split at executed
    · cases executed
      exact inl ⟨rfl, rfl⟩
    · cases executed
      exact inr (inr ⟨taskId, type, error, _, rfl, rfl, rfl, rfl⟩)

def owedBy (log : PgTaskLog) (thread : Nat) : List OwedEvent :=
  log.owed.filter fun event => event.thread == thread

/-- A thread changes only its own debts. -/
def OwesAlone (thread : Nat) (before after : PgTaskLog) : Prop :=
  ∀ other, other ≠ thread → after.owedBy other = before.owedBy other

theorem owedBy_owe (log : PgTaskLog) (thread taskId : Nat) (row : PgTaskRow)
    (other : Nat) : (log.owe thread taskId row).owedBy other = log.owedBy other ++
      if other = thread then [⟨thread, row.task.taskId, taskEventType row.task.status⟩]
      else [] := by
  by_cases same : other = thread
  · simp [owe, owedBy, filter_append, same]
  · simp [owe, owedBy, filter_append, same, Ne.symm same]

theorem owedBy_pay (log : PgTaskLog) (thread : Nat) (event : CloudTaskEvent)
    (other : Nat) : (log.pay thread event).owedBy other =
      if other = thread then (log.owedBy thread).erase ⟨thread, event.taskId, event.type⟩
      else log.owedBy other := by
  split
  · next same =>
    subst same
    exact List.filter_erase_comm _ _
  · next differ =>
    exact List.filter_erase_of_not (by simpa using Ne.symm differ) _

theorem perform_owesAlone {answer : Except PgTaskError request.Answer} (inv : log.RunInv)
    (follows : FollowsStatus request)
    (ran : perform thread request stamp log = some (answer, after)) :
    OwesAlone thread log after := by
  intro other differ
  rcases perform_cases inv follows ran with
    ⟨-, rfl⟩ | ⟨taskId, row, -, -, -, rfl, -⟩ | ⟨taskId, type, error, event, -, -, -, rfl⟩
  · rfl
  · simp [owedBy_owe, differ]
  · simp [owedBy_pay, differ]

end PgTaskLog

def orderedPgTaskMachine :
    Machine PgTaskLog PgTaskCall PgTaskCall.Answer PgTaskError PgStamp PgTaskRequest Empty :=
  pgTaskMachine.restrict PgTaskLog.insertsInOrder

namespace PgTaskLog

abbrev PaysOff {α : Type} (thread : Nat) (program : PgTaskStore.PgTaskProgram α)
    (log : PgTaskLog) : Prop :=
  orderedPgTaskMachine.Safe RunInv OwesAlone thread
    (fun _ last => last.owedBy thread = []) program log

theorem stable_owedBy (thread : Nat) (debts : List OwedEvent) :
    orderedPgTaskMachine.Stable RunInv OwesAlone thread fun log => log.owedBy thread = debts := by
  rintro before after - - (⟨other, differ, alone⟩ | ⟨event, -⟩) owed
  · exact (alone thread (Ne.symm differ)).trans owed
  · exact nomatch event

variable {thread : Nat} {log : PgTaskLog} {α : Type}

variable {stamp : PgStamp} {after : PgTaskLog} {taskId : Nat} {type : String}
  {error : Option TaskError}

theorem ordered_perform {request : PgTaskCall} {answer : Except PgTaskError request.Answer}
    (ran : orderedPgTaskMachine.perform thread request stamp log = some (answer, after)) :
    insertsInOrder thread request stamp log = true ∧
      perform thread request stamp log = some (answer, after) := by
  simp only [orderedPgTaskMachine, restrict, pgTaskMachine] at ran
  split at ran
  · next ordered => exact ⟨ordered, ran⟩
  · cases ran

theorem paysOff_done (nothing : log.owedBy thread = []) :
    (∀ value : α, PaysOff thread (pure value) log) ∧
      ∀ error, PaysOff (α := α) thread (.throw error) log :=
  ⟨fun _ => safe_pure (stable_owedBy thread []) nothing,
    fun _ => safe_throw (stable_owedBy thread []) nothing⟩

theorem paysOff_update (request : PgTaskCall) {next : request.Answer → PgTaskStore.PgTaskProgram α}
    (follows : FollowsStatus request)
    (isUpdate : ∀ taskId type error, request ≠ .insertEvent taskId type error)
    (nothing : log.owedBy thread = [])
    (unchanged : ∀ answer after, updatedTask request (.ok answer) = none →
      after.owedBy thread = [] → PaysOff thread (next answer) after)
    (changed : ∀ answer after task, updatedTask request (.ok answer) = some task →
      Announces request task →
      after.owedBy thread = [⟨thread, task.taskId, taskEventType task.status⟩] →
      PaysOff thread (next answer) after) :
    PaysOff thread (PgTaskStore.query request >>= next) log := by
  apply safe_call (stable_owedBy thread []) nothing
  intro before stamp answer after inv paid ran
  have executed := (ordered_perform ran).2
  have alone := perform_owesAlone inv follows executed
  rcases perform_cases inv follows executed with
    ⟨same, rfl⟩ | ⟨taskId, row, announced, announces, keyed, rfl, kept⟩ |
      ⟨taskId, type, error, event, isInsert, -⟩
  · refine ⟨alone, inv, ?_⟩
    cases answer with
    | ok answer => exact unchanged answer _ same paid
    | error error => exact (paysOff_done paid).2 error
  · refine ⟨alone, kept, ?_⟩
    have owed : (before.owe thread taskId row).owedBy thread =
        [⟨thread, row.task.taskId, taskEventType row.task.status⟩] := by
      simp [owedBy_owe, paid]
    cases answer with
    | ok answer => exact changed answer _ row.task announced announces owed
    | error error => cases request <;> cases announced
  · exact absurd isInsert (isUpdate taskId type error)

theorem perform_insertEvent {answer : Except PgTaskError CloudTaskEvent} (inv : log.RunInv)
    (oldest : log.owed.find? (fun event => event.taskId == taskId) = some ⟨thread, taskId, type⟩)
    (ran : perform thread (.insertEvent taskId type error) stamp log = some (answer, after)) :
    ∃ event : CloudTaskEvent, event.taskId = taskId ∧ event.type = type ∧
      answer = .ok event ∧ after = log.pay thread event := by
  obtain ⟨⟨_, tables⟩, executed, performedEq⟩ := map_eq_some_iff.mp ran
  cases performedEq
  simp only [PgTaskTables.execute] at executed
  split at executed
  · next absent =>
    have noOwed := (inv.fresh taskId absent).2
    rw [owedTypes, List.filter_eq_cons_of_find? oldest] at noOwed
    cases noOwed
  · cases executed
    exact ⟨_, rfl, rfl, rfl, rfl⟩

theorem paysOff_appendEvent {next : PgTaskStore.PgTaskProgram α}
    (owed : log.owedBy thread = [⟨thread, taskId, type⟩])
    (rest : ∀ after, after.owedBy thread = [] → PaysOff thread next after) :
    PaysOff thread (PgTaskStore.appendEvent taskId type error >>= fun _ => next) log := by
  apply safe_call (stable_owedBy thread _) owed
  intro before stamp answer after inv owes ran
  obtain ⟨ordered, executed⟩ := ordered_perform ran
  have follows : FollowsStatus (.insertEvent taskId type error) := trivial
  have oldest : before.owed.find? (fun event => event.taskId == taskId) =
      some ⟨thread, taskId, type⟩ := by simpa [insertsInOrder] using ordered
  have alone := perform_owesAlone inv follows executed
  obtain ⟨event, rfl, rfl, rfl, rfl⟩ := perform_insertEvent inv oldest executed
  refine ⟨alone, inv.pay oldest, rest _ ?_⟩
  simp [owedBy_pay, owes]

theorem paysOff_createTask (nothing : log.owedBy thread = []) (idempotencyKey kind : String)
    (input : JsonValue) (owner : Option CloudTaskOwner) (requestFingerprint : Option String) :
    PaysOff thread (PgTaskStore.createTask idempotencyKey kind input owner
      requestFingerprint) log := by
  unfold PgTaskStore.createTask
  split
  · exact (paysOff_done nothing).2 _
  · exact (paysOff_done nothing).2 _
  · exact (paysOff_done nothing).2 _
  · next owner fingerprint _ =>
    unfold PgTaskStore.normalizeFingerprint
    split
    · next normalized _ =>
      refine paysOff_update (.insertTask idempotencyKey kind normalized input owner)
        trivial (by simp) nothing ?_ ?_
      · intro answer after same paid
        cases answer with
        | none =>
          refine paysOff_update (.selectByOwner idempotencyKey owner) trivial (by simp) paid ?_ ?_
          · intro found after _ paid
            cases found with
            | none => exact (paysOff_done paid).2 _
            | some existing =>
              split
              · exact (paysOff_done paid).2 _
              · split
                · exact (paysOff_done paid).2 _
                · exact (paysOff_done paid).1 _
          · intro found after task announced
            cases announced
        | some task => cases same
      · intro answer after task announced announces owed
        cases answer with
        | none => cases announced
        | some found =>
          cases announced
          rw [show task.status = .pending from announces] at owed
          exact paysOff_appendEvent owed fun _ paid => (paysOff_done paid).1 _
    · exact (paysOff_done nothing).2 _

theorem paysOff_claimPendingTask (nothing : log.owedBy thread = []) (taskId : Nat) :
    PaysOff thread (PgTaskStore.claimPendingTask taskId) log := by
  refine paysOff_update (.updateClaim taskId) trivial (by simp) nothing ?_ ?_
  · intro answer after same paid
    cases answer with
    | none => exact (paysOff_done paid).1 _
    | some task => cases same
  · intro answer after task announced announces owed
    cases answer with
    | none => cases announced
    | some found =>
      cases announced
      rw [announces.1, announces.2] at owed
      exact paysOff_appendEvent owed fun _ paid => (paysOff_done paid).1 _

theorem paysOff_transitionIfStatus (nothing : log.owedBy thread = []) (call : TransitionCall) :
    PaysOff thread (PgTaskStore.transitionIfStatus call.taskId call.expectedStatuses
      call.status call.patch) log := by
  unfold PgTaskStore.transitionIfStatus
  split
  · exact (paysOff_done nothing).1 _
  · refine paysOff_update (.updateIfStatus call.taskId call.expectedStatuses call.status call.patch)
      ⟨call.fromOpen, call.toTerminal⟩ (by simp) nothing ?_ ?_
    · intro answer after same paid
      cases answer with
      | none => exact (paysOff_done paid).1 _
      | some task => cases same
    · intro answer after task announced announces owed
      cases answer with
      | none => cases announced
      | some found =>
        cases announced
        rw [announces.1, announces.2] at owed
        exact paysOff_appendEvent owed fun _ paid => (paysOff_done paid).1 _

theorem paysOff_discard (inv : log.RunInv) {program : PgTaskStore.PgTaskProgram α}
    (pays : PaysOff thread program log) : PaysOff thread (program >>= fun _ => pure ()) log :=
  safe_bind inv pays (fun _ _ _ paid => (paysOff_done paid).1 _) fun _ _ _ paid => paid

theorem paysOff_program (inv : log.RunInv) (nothing : log.owedBy thread = [])
    (request : PgTaskRequest) : PaysOff thread request.program log := by
  cases request with
  | createTask idempotencyKey kind input owner fingerprint =>
    exact paysOff_discard inv
      (paysOff_createTask nothing idempotencyKey kind input owner fingerprint)
  | claimPendingTask taskId =>
    exact paysOff_discard inv (paysOff_claimPendingTask nothing taskId)
  | transitionIfStatus call =>
    exact paysOff_discard inv (paysOff_transitionIfStatus nothing call)

theorem runInv_of_reachable {pool : Pool PgTaskLog PgTaskCall PgTaskCall.Answer PgTaskError}
    (reachable : orderedPgTaskMachine.Reachable (· = empty) pool) : pool.shared.RunInv ∧
      ((∀ thread program, pool.threads thread = some program → program.isDone = true) →
        pool.shared.owed = []) := by
  have safe := safe_of_reachable RunInv OwesAlone
    (fun thread log => log.owedBy thread = []) (fun thread _ log => log.owedBy thread = [])
    (fun log start => by
      subst start
      exact ⟨runInv_empty, fun _ => rfl⟩)
    (fun thread => stable_owedBy thread [])
    (fun event => nomatch event)
    (fun request thread log inv nothing => paysOff_program inv nothing request)
    reachable
  refine ⟨safe.1, fun allDone => eq_nil_iff_forall_not_mem.mpr fun event mem => ?_⟩
  have debts : event ∈ pool.shared.owedBy event.thread := by
    simpa [owedBy] using mem
  have nothing : pool.shared.owedBy event.thread = [] := by
    have ends := safe.2 event.thread
    split at ends
    · exact ends
    · next program running =>
      have done := allDone event.thread program running
      cases program with
      | pure value => exact ends _ .refl safe.1
      | throw error => exact ends _ .refl safe.1
      | call request next => cases done
  rw [nothing] at debts
  cases debts

end PgTaskLog

/-- When the statements of an operation are not overtaken, the log of every task is a run of its
states, in which nothing follows a terminal one. -/
theorem eventLog_agrees_of_ordered {pool : Pool PgTaskLog PgTaskCall PgTaskCall.Answer PgTaskError}
    (reachable : orderedPgTaskMachine.Reachable (· = .empty) pool) {taskId : Nat} {row : PgTaskRow}
    (stored : pool.shared.tables.rows.get? taskId = some row) :
    IsEventRun (pool.shared.eventTypes taskId) ∧
    (∀ before terminal rest, terminal.isTerminal = true →
      pool.shared.eventTypes taskId = before ++ taskEventType terminal :: rest → rest = []) ∧
    ((∀ thread program, pool.threads thread = some program → program.isDone = true) →
      (pool.shared.eventTypes taskId).getLast? = some (taskEventType row.task.status)) := by
  obtain ⟨inv, quiescent⟩ := PgTaskLog.runInv_of_reachable reachable
  obtain ⟨statuses, run, typesEq⟩ := inv.run taskId row stored
  have isRun := run.isEventRun_of_append typesEq
  refine ⟨isRun, fun before terminal rest isTerminal split =>
    isRun.nothing_after_terminal isTerminal split, fun allDone => ?_⟩
  have noOwed : pool.shared.owedTypes taskId = [] := by
    simp [PgTaskLog.owedTypes, quiescent allDone]
  rw [noOwed, append_nil] at typesEq
  rw [← typesEq, getLast?_map, run.getLast?, map_some]

def claimThenCancel : List (PoolAction PgStamp PgTaskRequest Empty) :=
  [.start 1 (.createTask "key" "skill.execute" .null (some ⟨"tenant", "device", "agent"⟩)
      (some "v1:0000000000000000000000000000000000000000000000000000000000000000")),
    .perform 1 ⟨0, 1⟩, .perform 1 ⟨0, 0⟩,
    .start 2 (.claimPendingTask 1), .perform 2 ⟨1, 0⟩,
    .start 3 (.transitionIfStatus
      ⟨1, [.pending, .running], .cancelled, {}, by decide, by decide⟩),
    .perform 3 ⟨2, 0⟩]

/-- The claim inserts its event first. -/
def startedBeforeCancelled : List (PoolAction PgStamp PgTaskRequest Empty) :=
  claimThenCancel ++ [.perform 2 ⟨3, 0⟩, .perform 3 ⟨4, 0⟩]

def startedAfterCancelled : List (PoolAction PgStamp PgTaskRequest Empty) :=
  claimThenCancel ++ [.perform 3 ⟨3, 0⟩, .perform 2 ⟨4, 0⟩]

theorem isSome_startedBeforeCancelled :
    (orderedPgTaskMachine.run (initial .empty) startedBeforeCancelled).isSome = true := by
  decide

theorem isSome_startedAfterCancelled :
    (pgTaskMachine.run (initial .empty) startedAfterCancelled).isSome = true := by
  decide

def poolBeforeCancelled : Pool PgTaskLog PgTaskCall PgTaskCall.Answer PgTaskError :=
  (orderedPgTaskMachine.run (initial .empty) startedBeforeCancelled).get
    isSome_startedBeforeCancelled

def poolAfterCancelled : Pool PgTaskLog PgTaskCall PgTaskCall.Answer PgTaskError :=
  (pgTaskMachine.run (initial .empty) startedAfterCancelled).get
    isSome_startedAfterCancelled

theorem reachable_poolBeforeCancelled :
    orderedPgTaskMachine.Reachable (· = .empty) poolBeforeCancelled := by
  have started : orderedPgTaskMachine.Reachable (· = .empty)
      (initial PgTaskLog.empty) := .initial rfl
  exact started.get_run startedBeforeCancelled isSome_startedBeforeCancelled

theorem reachable_poolAfterCancelled : pgTaskMachine.Reachable (· = .empty) poolAfterCancelled := by
  have started : pgTaskMachine.Reachable (· = .empty) (initial PgTaskLog.empty) := .initial rfl
  exact started.get_run startedAfterCancelled isSome_startedAfterCancelled

theorem eventLog_agrees_poolBeforeCancelled : poolBeforeCancelled.shared.eventTypes 1 =
        ["task.accepted", "task.started", "task.cancelled"] ∧
      IsEventRun (poolBeforeCancelled.shared.eventTypes 1) := by
  have present : (poolBeforeCancelled.shared.tables.rows.get? 1).isSome = true := by
    decide
  obtain ⟨row, stored⟩ := isSome_iff_exists.mp present
  exact ⟨by decide, (eventLog_agrees_of_ordered reachable_poolBeforeCancelled stored).1⟩

/-- A start can be logged after the cancellation of its task. -/
theorem not_eventLog_agrees : ¬ ∀ (pool : Pool PgTaskLog PgTaskCall PgTaskCall.Answer PgTaskError),
      pgTaskMachine.Reachable (· = .empty) pool → ∀ (taskId : Nat) (row : PgTaskRow),
      pool.shared.tables.rows.get? taskId = some row → IsEventRun (pool.shared.eventTypes taskId) ∧
      (∀ before terminal rest, terminal.isTerminal = true →
        pool.shared.eventTypes taskId = before ++ taskEventType terminal :: rest → rest = []) ∧
      ((∀ thread program, pool.threads thread = some program → program.isDone = true) →
        (pool.shared.eventTypes taskId).getLast? = some (taskEventType row.task.status)) := by
  intro agrees
  have present : (poolAfterCancelled.shared.tables.rows.get? 1).isSome = true := by
    decide
  obtain ⟨row, stored⟩ := isSome_iff_exists.mp present
  have typesEq : poolAfterCancelled.shared.eventTypes 1 =
      ["task.accepted", "task.cancelled", "task.started"] := by
    decide
  have nothingAfter := (agrees _ reachable_poolAfterCancelled 1 row stored).2.1
    ["task.accepted"] .cancelled ["task.started"] rfl typesEq
  cases nothingAfter

end LongHub
