import LongHub.TaskServer

/-!
# The work on claimed tasks

Workers and cancel requests share the rows of the tasks and the controllers of the workers.
-/

namespace LongHub

open Or TaskTables

namespace TaskServerState

/-- The row of a task is in a terminal status. -/
def HasEnded (state : TaskServerState) (taskId : Nat) : Prop :=
  ∃ task, state.tables.getTask taskId = some task ∧ task.status.isTerminal = true

def IsIdle (state : TaskServerState) (thread : Nat) : Prop :=
  ∀ fact, ¬ state.Did thread fact

/-- The Executor call of a worker is over, and so is its deadline. -/
def IsPastDeadline (state : TaskServerState) (thread : Nat) : Prop :=
  state.Did thread .deadlineSet ∧ thread ∉ state.armed

structure WorkInv (state : TaskServerState) : Prop where
  oneFault : state.faults ≤ 1
  oneTask : ∀ {thread taskId other}, state.Did thread (.claimed taskId) →
    state.Did thread (.claimed other) → taskId = other
  oneWorker : ∀ {thread other taskId}, state.Did thread (.claimed taskId) →
    state.Did other (.claimed taskId) → thread = other
  claimedRow : ∀ {thread taskId}, state.Did thread (.claimed taskId) →
    ∃ task, state.tables.getTask taskId = some task ∧ task.status ≠ .pending
  registered : ∀ {thread taskId}, state.controllers.get? taskId = some thread →
    state.Did thread (.claimed taskId)
  armedWorker : ∀ {thread}, thread ∈ state.armed → state.Did thread .deadlineSet
  firedWorker : ∀ {thread}, state.Did thread .timedOut → state.Did thread .deadlineSet
  abortedWorker : ∀ {thread}, thread ∈ state.aborted → ¬ state.IsIdle thread
  abortedCause : ∀ {thread taskId}, thread ∈ state.aborted →
    state.Did thread (.claimed taskId) →
      state.HasEnded taskId ∨ state.Did thread .timedOut ∨ state.IsPastDeadline thread
  timedOutCause : ∀ {thread taskId task}, state.Did thread (.claimed taskId) →
    state.tables.getTask taskId = some task → task.status = .timedOut → state.Did thread .timedOut

/-- What a step of a thread may change. -/
structure WorkGuarantee (thread : Nat) (before after : TaskServerState) : Prop where
  faults : after.faults ≤ before.faults
  remembers : ∀ {other fact}, before.Did other fact → after.Did other fact
  ownFacts : ∀ {other fact}, after.Did other fact → other ≠ thread → before.Did other fact
  ownTimer : ∀ {other}, other ≠ thread → (other ∈ after.armed ↔ other ∈ before.armed)
  ended : ∀ {taskId}, before.HasEnded taskId → after.HasEnded taskId

variable {before after state : TaskServerState} {taskId thread : Nat}

/-- Steps that change no row. -/
theorem hasEnded_congr (tables : after.tables = before.tables) :
    after.HasEnded taskId ↔ before.HasEnded taskId := by
  simp [HasEnded, tables]

theorem WorkInv.of_sameRows (inv : before.WorkInv) (tables : after.tables = before.tables)
    (faults : after.faults ≤ before.faults)
    (controllers : ∀ {taskId worker}, after.controllers.get? taskId = some worker →
      before.controllers.get? taskId = some worker)
    (remembers : ∀ {worker fact}, before.Did worker fact → after.Did worker fact)
    (claimed : ∀ {worker taskId}, after.Did worker (.claimed taskId) →
      before.Did worker (.claimed taskId))
    (armedWorker : ∀ {worker}, worker ∈ after.armed → after.Did worker .deadlineSet)
    (firedWorker : ∀ {worker}, after.Did worker .timedOut → after.Did worker .deadlineSet)
    (abortedWorker : ∀ {worker}, worker ∈ after.aborted → ¬ after.IsIdle worker)
    (abortedCause : ∀ {worker taskId}, worker ∈ after.aborted →
      before.Did worker (.claimed taskId) →
        before.HasEnded taskId ∨ after.Did worker .timedOut ∨ after.IsPastDeadline worker) :
    after.WorkInv where
  oneFault := faults.trans inv.oneFault
  oneTask first second := inv.oneTask (claimed first) (claimed second)
  oneWorker first second := inv.oneWorker (claimed first) (claimed second)
  claimedRow did := tables ▸ inv.claimedRow (claimed did)
  registered present := remembers (inv.registered (controllers present))
  armedWorker := armedWorker
  firedWorker := firedWorker
  abortedWorker := abortedWorker
  abortedCause aborted did := by
    rw [hasEnded_congr tables]
    exact abortedCause aborted (claimed did)
  timedOutCause did stored status :=
    remembers (inv.timedOutCause (claimed did) (tables ▸ stored) status)

/-- A fact that the invariant does not speak about. -/
def isMilestone : ServerFact → Bool
  | .claimed _ | .deadlineSet | .timedOut => true
  | _ => false

/-- A step that leaves rows, timers and signals as they are. -/
structure SameWork (thread : Nat) (before after : TaskServerState) : Prop where
  tables : after.tables = before.tables
  aborted : after.aborted = before.aborted
  armed : after.armed = before.armed
  controllers : ∀ {taskId worker}, after.controllers.get? taskId = some worker →
    before.controllers.get? taskId = some worker
  faults : after.faults ≤ before.faults
  remembers : ∀ {other fact}, before.Did other fact → after.Did other fact
  newFacts : ∀ {other fact}, after.Did other fact →
    before.Did other fact ∨ (other = thread ∧ isMilestone fact = false)

namespace SameWork

variable {thread : Nat} {before after : TaskServerState}

theorem did_iff (same : SameWork thread before after) {other : Nat} {fact : ServerFact}
    (milestone : isMilestone fact = true) : after.Did other fact ↔ before.Did other fact := by
  refine ⟨fun did => ?_, same.remembers⟩
  rcases same.newFacts did with old | ⟨-, plain⟩
  · exact old
  · rw [milestone] at plain
    cases plain

theorem hasEnded_iff (same : SameWork thread before after) {taskId : Nat} :
    after.HasEnded taskId ↔ before.HasEnded taskId :=
  hasEnded_congr same.tables

theorem isPastDeadline_iff (same : SameWork thread before after) {other : Nat} :
    after.IsPastDeadline other ↔ before.IsPastDeadline other := by
  have deadline : after.Did other .deadlineSet ↔ before.Did other .deadlineSet := same.did_iff rfl
  simp [IsPastDeadline, same.armed, deadline]

theorem workInv (same : SameWork thread before after) (inv : before.WorkInv) : after.WorkInv := by
  refine inv.of_sameRows same.tables same.faults same.controllers same.remembers
    (same.did_iff rfl).mp ?_ ?_ ?_ ?_
  · exact fun armed => same.remembers (inv.armedWorker (same.armed ▸ armed))
  · exact fun fired => same.remembers (inv.firedWorker ((same.did_iff rfl).mp fired))
  · intro worker aborted idle
    exact inv.abortedWorker (same.aborted ▸ aborted) fun fact did => idle fact (same.remembers did)
  · intro worker taskId aborted claimed
    rw [same.did_iff rfl, same.isPastDeadline_iff]
    exact inv.abortedCause (same.aborted ▸ aborted) claimed

theorem guarantee (same : SameWork thread before after) : WorkGuarantee thread before after where
  __ := same
  ownFacts did other := (same.newFacts did).resolve_right fun own => other own.1
  ownTimer _ := by rw [same.armed]
  ended := same.hasEnded_iff.mpr

theorem of_spent (thread : Nat) (state : TaskServerState) (skills : CloudSkillTables) (faults : Nat)
    (fewer : faults ≤ state.faults) : SameWork thread state { state with skills, faults } :=
  ⟨rfl, rfl, rfl, id, fewer, id, inl⟩

theorem trans {middle : TaskServerState} (first : SameWork thread before middle)
    (second : SameWork thread middle after) : SameWork thread before after where
  tables := second.tables.trans first.tables
  aborted := second.aborted.trans first.aborted
  armed := second.armed.trans first.armed
  controllers present := first.controllers (second.controllers present)
  faults := second.faults.trans first.faults
  remembers did := second.remembers (first.remembers did)
  newFacts did := by
    rcases second.newFacts did with old | own
    · exact first.newFacts old
    · exact inr own

end SameWork

theorem SameWork.recordFact {fact : ServerFact} (same : SameWork thread before after)
    (plain : isMilestone fact = false) : SameWork thread before (after.recordFact thread fact) := by
  refine ⟨same.tables, same.aborted, same.armed, same.controllers, same.faults,
    fun did => did_recordFact.mpr (inl (same.remembers did)), ?_⟩
  intro other recorded did
  rcases did_recordFact.mp did with old | ⟨rfl, rfl⟩
  · exact same.newFacts old
  · exact inr ⟨rfl, plain⟩

/-- The calls that leave the work alone. -/
def isQuiet : ServerCall → Bool
  | .createTask .. | .discardPendingTask .. | .admitPendingTaskInput ..
  | .claimPendingTask _ | .transitionIfStatus .. | .registerController _
  | .abortController _ | .setTimeout | .clearTimeout => false
  | _ => true

theorem execute_sameWork {choice : ServerChoice} {request : ServerCall}
    (quiet : isQuiet request = true) :
    SameWork thread state (execute thread choice state request).2 := by
  have unchanged (skills : CloudSkillTables) :
      SameWork thread state { state with skills } :=
    .of_spent thread state skills state.faults le_rfl
  cases request with
  | findTaskByIdempotency => exact (unchanged state.skills).recordFact rfl
  | reserveCloudSkillExecution params =>
    simp only [execute]
    split
    · exact (unchanged _).recordFact rfl
    · exact unchanged _
  | deleteController taskId =>
    refine ⟨rfl, rfl, rfl, fun present => ?_, le_rfl, id, inl⟩
    simp only [execute, InsertionMap.get?_delete] at present
    split at present
    · cases present
    · exact present
  | fetchExecutor request =>
    have executed : SameWork thread state (state.recordFact thread (.executed request.taskId)) :=
      (unchanged state.skills).recordFact rfl
    simp only [execute]
    split <;> exact executed
  | readExecutorResponse =>
    simp only [execute]
    split <;> exact unchanged state.skills
  | respond response =>
    cases response with
    | problem problem => exact (unchanged state.skills).recordFact rfl
    | task => exact unchanged state.skills
  | createTask => cases quiet
  | discardPendingTask => cases quiet
  | admitPendingTaskInput => cases quiet
  | claimPendingTask => cases quiet
  | transitionIfStatus => cases quiet
  | registerController => cases quiet
  | abortController => cases quiet
  | setTimeout => cases quiet
  | clearTimeout => cases quiet
  | _ => exact unchanged _

theorem HasEnded.of_row {tables : TaskTables} {faults : Nat} (ended : state.HasEnded taskId)
    (kept : ∀ task, state.tables.getTask taskId = some task →
      task.status.isTerminal = true → tables.getTask taskId = some task) :
    ({ state with tables, faults } : TaskServerState).HasEnded taskId := by
  obtain ⟨task, stored, terminal⟩ := ended
  exact ⟨task, kept task stored terminal, terminal⟩

section Transition

variable {state : TaskServerState} {thread taskId faults : Nat} {now : Instant}
variable {expectedStatuses : List CloudTaskStatus} {status : CloudTaskStatus}
variable {patch : TaskPatch} {result : Option CloudTask} {tables : TaskTables}

variable (moved : state.tables.transitionIfStatus now taskId expectedStatuses status patch =
  (result, tables))
include moved

theorem getTask_transitionIfStatus
    (other : Nat) : tables.getTask other = state.tables.getTask other ∨
      (other = taskId ∧ ∃ task, state.tables.getTask taskId = some task ∧
        task.status ∈ expectedStatuses ∧
        tables.getTask taskId = some (task.withStatus now status patch)) := by
  rcases transitionIfStatus_cases moved with
    ⟨-, rfl, -⟩ | ⟨task, stored, expected, -, rfl⟩
  · exact inl rfl
  · by_cases same : other = taskId
    · subst same
      refine inr ⟨rfl, task, stored, expected, ?_⟩
      simp [getTask, emit]
    · left
      simp [getTask, emit, same]

theorem getTask_transitionIfStatus_of_isTerminal
    (open_ : ∀ expected ∈ expectedStatuses, expected.isTerminal = false)
    {other : Nat} {task : CloudTask} (stored : state.tables.getTask other = some task)
    (terminal : task.status.isTerminal = true) : tables.getTask other = some task := by
  rcases getTask_transitionIfStatus moved other with same | ⟨rfl, found, row, expected, -⟩
  · rw [same, stored]
  · have equal : found = task := Option.some.inj (row.symm.trans stored)
    rw [equal] at expected
    rw [open_ _ expected] at terminal
    cases terminal

theorem WorkInv.transition (inv : state.WorkInv)
    (open_ : ∀ expected ∈ expectedStatuses, expected.isTerminal = false)
    (terminal : status.isTerminal = true)
    (cause : status = .timedOut → ∀ {worker}, state.Did worker (.claimed taskId) →
      state.Did worker .timedOut ∨ state.HasEnded taskId) (fewer : faults ≤ state.faults) :
    ({ state with tables, faults } : TaskServerState).WorkInv := by
  have ended {other : Nat} (before : state.HasEnded other) :
      ({ state with tables, faults } : TaskServerState).HasEnded other :=
    before.of_row fun _ => getTask_transitionIfStatus_of_isTerminal moved open_
  refine ⟨fewer.trans inv.oneFault, inv.oneTask, inv.oneWorker, ?_, inv.registered,
    inv.armedWorker, inv.firedWorker, inv.abortedWorker, ?_, ?_⟩
  · intro worker other claimed
    obtain ⟨task, stored, started⟩ := inv.claimedRow claimed
    rcases getTask_transitionIfStatus moved other with same | ⟨rfl, found, -, -, row⟩
    · exact ⟨task, same.trans stored, started⟩
    · refine ⟨_, row, fun pending => ?_⟩
      rw [CloudTask.status_withStatus] at pending
      rw [pending] at terminal
      cases terminal
  · intro worker other aborted claimed
    exact (inv.abortedCause aborted claimed).imp_left ended
  · intro worker other task claimed stored timedOut
    rcases getTask_transitionIfStatus moved other with
      same | ⟨rfl, found, row, expected, after⟩
    · exact inv.timedOutCause claimed (same ▸ stored) timedOut
    · have equal : found.withStatus now status patch = task :=
        Option.some.inj (after.symm.trans stored)
      rw [← equal, CloudTask.status_withStatus] at timedOut
      refine (cause timedOut claimed).resolve_right fun before => ?_
      obtain ⟨old, oldRow, oldTerminal⟩ := before
      have sameRow : found = old := Option.some.inj (row.symm.trans oldRow)
      rw [← sameRow, open_ _ expected] at oldTerminal
      cases oldTerminal

theorem WorkGuarantee.transition
    (open_ : ∀ expected ∈ expectedStatuses, expected.isTerminal = false)
    (fewer : faults ≤ state.faults) : WorkGuarantee thread state { state with tables, faults } where
  faults := fewer
  remembers := id
  ownFacts did _ := did
  ownTimer _ := Iff.rfl
  ended before :=
    before.of_row fun _ => getTask_transitionIfStatus_of_isTerminal moved open_

theorem hasEnded_transition (terminal : status.isTerminal = true)
    (running : .running ∈ expectedStatuses) {task : CloudTask}
    (stored : state.tables.getTask taskId = some task) (started : task.status ≠ .pending) :
    ({ state with tables, faults } : TaskServerState).HasEnded taskId := by
  rcases transitionIfStatus_cases moved with
    ⟨-, rfl, unexpected⟩ | ⟨found, row, expected, -, rfl⟩
  · refine ⟨task, stored, ?_⟩
    have other := unexpected task stored
    cases status : task.status <;> simp_all [CloudTaskStatus.isTerminal]
  · exact ⟨found.withStatus now status patch, by simp [getTask, emit], terminal⟩

end Transition

theorem WorkInv.claim {faults : Nat} {now : Instant} {task : CloudTask} {tables : TaskTables}
    (inv : state.WorkInv) (idle : state.IsIdle thread) (fewer : faults ≤ state.faults)
    (claimed : state.tables.claimPendingTask now taskId = (some task, tables)) :
    (({ state with tables, faults } : TaskServerState).recordFact thread
      (.claimed taskId)).WorkInv ∧
    WorkGuarantee thread state (({ state with tables, faults } : TaskServerState).recordFact
      thread (.claimed taskId)) := by
  rcases claimPendingTask_cases claimed with
    ⟨bad, -⟩ | ⟨found, stored, pending, -, rfl⟩
  · cases bad
  generalize afterEq : (({ state with
    tables := _, faults } : TaskServerState).recordFact thread (.claimed taskId)) = after
  have did {worker : Nat} {fact : ServerFact} : after.Did worker fact ↔
      state.Did worker fact ∨ (worker = thread ∧ fact = .claimed taskId) := by
    rw [← afterEq, did_recordFact]
    rfl
  have otherFact {worker : Nat} {fact : ServerFact} (differ : fact ≠ .claimed taskId) :
      after.Did worker fact ↔ state.Did worker fact := by
    simp [did, differ]
  have ownRow : after.tables.getTask taskId = some (found.withStatus now .running {}) := by
    simp [← afterEq, recordFact, getTask, emit]
  have otherRow {other : Nat} (differ : other ≠ taskId) :
      after.tables.getTask other = state.tables.getTask other := by
    simp [← afterEq, recordFact, getTask, emit, differ]
  -- nobody has claimed a task that is still pending
  have unclaimed {worker other : Nat} (before : state.Did worker (.claimed other)) :
      other ≠ taskId := by
    rintro rfl
    obtain ⟨old, oldRow, started⟩ := inv.claimedRow before
    have equal : found = old := Option.some.inj (stored.symm.trans oldRow)
    exact started (equal ▸ pending)
  have ended {other : Nat} (before : state.HasEnded other) : after.HasEnded other := by
    obtain ⟨old, oldRow, terminal⟩ := before
    have differ : other ≠ taskId := by
      rintro rfl
      have equal : found = old := Option.some.inj (stored.symm.trans oldRow)
      rw [← equal, pending] at terminal
      cases terminal
    exact ⟨old, (otherRow differ).trans oldRow, terminal⟩
  have armed : after.armed = state.armed := by rw [← afterEq]; rfl
  have aborted : after.aborted = state.aborted := by rw [← afterEq]; rfl
  have controllers : after.controllers = state.controllers := by rw [← afterEq]; rfl
  have fewerFaults : after.faults ≤ state.faults := by rw [← afterEq]; exact fewer
  constructor
  · constructor
    case oneFault => exact fewerFaults.trans inv.oneFault
    case oneTask =>
      intro worker first second firstDid secondDid
      rcases did.mp firstDid with old | ⟨rfl, new⟩ <;>
        rcases did.mp secondDid with old' | ⟨same, new'⟩
      · exact inv.oneTask old old'
      · exact absurd old (same ▸ idle _)
      · exact absurd old' (idle _)
      · rw [ServerFact.claimed.inj new, ServerFact.claimed.inj new']
    case oneWorker =>
      intro worker other claimedId workerDid otherDid
      rcases did.mp workerDid with old | ⟨same, new⟩ <;>
        rcases did.mp otherDid with old' | ⟨same', new'⟩
      · exact inv.oneWorker old old'
      · exact absurd (ServerFact.claimed.inj new') (unclaimed old)
      · exact absurd (ServerFact.claimed.inj new) (unclaimed old')
      · rw [same, same']
    case claimedRow =>
      intro worker other workerDid
      rcases did.mp workerDid with old | ⟨-, new⟩
      · obtain ⟨row, rowEq, started⟩ := inv.claimedRow old
        exact ⟨row, (otherRow (unclaimed old)).trans rowEq, started⟩
      · rw [ServerFact.claimed.inj new]
        exact ⟨_, ownRow, by simp⟩
    case registered =>
      intro worker other present
      exact did.mpr (inl (inv.registered (controllers ▸ present)))
    case armedWorker =>
      intro worker isArmed
      exact did.mpr (inl (inv.armedWorker (armed ▸ isArmed)))
    case firedWorker =>
      intro worker fired
      exact did.mpr (inl (inv.firedWorker ((otherFact (by simp)).mp fired)))
    case abortedWorker =>
      intro worker isAborted idleAfter
      exact inv.abortedWorker (aborted ▸ isAborted)
        fun fact before => idleAfter fact (did.mpr (inl before))
    case abortedCause =>
      intro worker other isAborted workerDid
      rw [aborted] at isAborted
      rcases did.mp workerDid with old | ⟨rfl, -⟩
      · rcases inv.abortedCause isAborted old with before | fired | ⟨deadline, elapsed⟩
        · exact inl (ended before)
        · exact inr (inl (did.mpr (inl fired)))
        · exact inr (inr ⟨did.mpr (inl deadline), armed ▸ elapsed⟩)
      · exact absurd idle (inv.abortedWorker isAborted)
    case timedOutCause =>
      intro worker other row workerDid rowEq status
      rcases did.mp workerDid with old | ⟨-, new⟩
      · rw [otherRow (unclaimed old)] at rowEq
        exact did.mpr (inl (inv.timedOutCause old rowEq status))
      · rw [ServerFact.claimed.inj new, ownRow] at rowEq
        rw [← Option.some.inj rowEq] at status
        cases status
  · constructor
    case faults => exact fewerFaults
    case remembers => exact fun before => did.mpr (inl before)
    case ownFacts =>
      exact fun afterDid differ => (did.mp afterDid).resolve_right fun own =>
        differ own.1
    case ownTimer => exact fun _ => by rw [armed]
    case ended => exact ended

theorem WorkInv.registerController (inv : state.WorkInv)
    (claimed : state.Did thread (.claimed taskId)) :
    ({ state with controllers := state.controllers.set taskId thread } :
      TaskServerState).WorkInv := by
  refine ⟨inv.oneFault, inv.oneTask, inv.oneWorker, inv.claimedRow, ?_, inv.armedWorker,
    inv.firedWorker, inv.abortedWorker, inv.abortedCause, inv.timedOutCause⟩
  intro worker other present
  rw [InsertionMap.get?_set] at present
  split at present
  · next same =>
    cases present
    exact same ▸ claimed
  · exact inv.registered present

def MayAbort (state : TaskServerState) (taskId : Nat) : Prop :=
  ∀ worker, state.controllers.get? taskId = some worker →
    state.HasEnded taskId ∨ state.IsPastDeadline worker

theorem WorkInv.abort (inv : state.WorkInv) (harmless : state.MayAbort taskId) :
    (state.abort taskId).WorkInv := by
  unfold TaskServerState.abort
  split
  · next worker present =>
    have claimed := inv.registered present
    refine ⟨inv.oneFault, inv.oneTask, inv.oneWorker, inv.claimedRow, inv.registered,
      inv.armedWorker, inv.firedWorker, ?_, ?_, inv.timedOutCause⟩
    · intro other aborted idle
      rcases List.mem_cons.mp aborted with rfl | old
      · exact idle _ claimed
      · exact inv.abortedWorker old idle
    · intro other task aborted otherClaimed
      rcases List.mem_cons.mp aborted with rfl | old
      · rcases harmless _ present with ended | past
        · exact inl (inv.oneTask claimed otherClaimed ▸ ended)
        · exact inr (inr past)
      · exact inv.abortedCause old otherClaimed
  · exact inv

theorem WorkGuarantee.abort (thread taskId : Nat) :
    WorkGuarantee thread state (state.abort taskId) := by
  unfold TaskServerState.abort
  split <;> exact ⟨le_rfl, id, fun did _ => did, fun _ => Iff.rfl, id⟩

theorem WorkInv.setTimeout (inv : state.WorkInv) (unset : ¬ state.Did thread .deadlineSet) :
    ({ state.recordFact thread .deadlineSet with armed := thread :: state.armed } :
      TaskServerState).WorkInv := by
  have remembers {worker : Nat} {fact : ServerFact} (before : state.Did worker fact) :
      (state.recordFact thread .deadlineSet).Did worker fact :=
    did_recordFact.mpr (inl before)
  refine inv.of_sameRows rfl le_rfl id remembers ?_ ?_ ?_ ?_ ?_
  · exact fun did => (did_recordFact.mp did).resolve_right (by simp)
  · intro worker armed
    rcases List.mem_cons.mp armed with rfl | old
    · exact did_recordFact.mpr (inr ⟨rfl, rfl⟩)
    · exact remembers (inv.armedWorker old)
  · intro worker fired
    exact remembers (inv.firedWorker ((did_recordFact.mp fired).resolve_right (by simp)))
  · exact fun aborted idle =>
      inv.abortedWorker aborted fun fact before => idle fact (remembers before)
  · intro worker taskId aborted claimed
    rcases inv.abortedCause aborted claimed with ended | fired | ⟨deadline, elapsed⟩
    · exact inl ended
    · exact inr (inl (remembers fired))
    · have other : worker ≠ thread := fun same => unset (same ▸ deadline)
      exact inr (inr ⟨remembers deadline,
        fun armed => elapsed ((List.mem_cons.mp armed).resolve_left other)⟩)

theorem WorkGuarantee.setTimeout (state : TaskServerState) (thread : Nat) :
    WorkGuarantee thread state
      { state.recordFact thread .deadlineSet with armed := thread :: state.armed } where
  faults := le_rfl
  remembers before := did_recordFact.mpr (inl before)
  ownFacts did other := (did_recordFact.mp did).resolve_right fun own => other own.1
  ownTimer other := by simp [other]
  ended := id

theorem WorkInv.clearTimeout (inv : state.WorkInv) :
    ({ state with armed := state.armed.filter (· ≠ thread) } : TaskServerState).WorkInv := by
  refine inv.of_sameRows rfl le_rfl id id id ?_ inv.firedWorker inv.abortedWorker ?_
  · exact fun armed => inv.armedWorker (List.mem_of_mem_filter armed)
  · intro worker taskId aborted claimed
    refine (inv.abortedCause aborted claimed).imp_right fun cause => ?_
    exact cause.imp_right fun past =>
      ⟨past.1, fun armed => past.2 (List.mem_of_mem_filter armed)⟩

theorem WorkGuarantee.clearTimeout (state : TaskServerState) (thread : Nat) :
    WorkGuarantee thread state { state with armed := state.armed.filter (· ≠ thread) } where
  faults := le_rfl
  remembers := id
  ownFacts did _ := did
  ownTimer other := by simp [other]
  ended := id

theorem WorkInv.timer (inv : state.WorkInv) (armed : thread ∈ state.armed) :
    ({ state.recordFact thread .timedOut with aborted := thread :: state.aborted } :
      TaskServerState).WorkInv := by
  have deadline := inv.armedWorker armed
  have remembers {worker : Nat} {fact : ServerFact} (before : state.Did worker fact) :
      (state.recordFact thread .timedOut).Did worker fact :=
    did_recordFact.mpr (inl before)
  refine inv.of_sameRows rfl le_rfl id remembers ?_ ?_ ?_ ?_ ?_
  · exact fun did => (did_recordFact.mp did).resolve_right (by simp)
  · exact fun isArmed => remembers (inv.armedWorker isArmed)
  · intro worker fired
    rcases did_recordFact.mp fired with old | ⟨rfl, -⟩
    · exact remembers (inv.firedWorker old)
    · exact remembers deadline
  · intro worker aborted idle
    rcases List.mem_cons.mp aborted with rfl | old
    · exact idle _ (remembers deadline)
    · exact inv.abortedWorker old fun fact before => idle fact (remembers before)
  · intro worker taskId aborted claimed
    rcases List.mem_cons.mp aborted with rfl | old
    · exact inr (inl (did_recordFact.mpr (inr ⟨rfl, rfl⟩)))
    · refine (inv.abortedCause old claimed).imp_right fun cause => ?_
      exact cause.imp remembers fun past => ⟨remembers past.1, past.2⟩

end TaskServerState

end LongHub
