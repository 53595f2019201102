import LongHub.ReservationEffects
import LongHub.TaskRowGrowth
import LongHub.TaskHandlers

/-!
# The invariant of task admission and the calls of a worker

What every call of a worker keeps.
-/

namespace LongHub

open List Program.CallsOnce

/-! ## The invariant of task admission -/

abbrev ServerHistory := List (Nat × ServerFact)

def ServerFact.isExecuted : ServerFact → Bool
  | .executed _ => true
  | _ => false

/-- The codes of the answers that refuse a request for quota, rate or
concurrency. -/
def limitCodes : List String :=
  ["CLOUD_SKILL_QUOTA_EXCEEDED", "CLOUD_SKILL_RATE_LIMITED", "CLOUD_SKILL_CONCURRENCY_LIMIT"]

def IsReserved (history : ServerHistory) (taskId : Nat) : Prop :=
  ∃ thread, (thread, .reserved (generatedId "ct-" taskId)) ∈ history

def ReservedFirst (history : ServerHistory) : Prop :=
  ∀ earlier thread taskId later, history = earlier ++ (thread, .claimed taskId) :: later →
    IsReserved earlier taskId

theorem ReservedFirst.concat {history : ServerHistory} (first : ReservedFirst history)
    {thread : Nat} {fact : ServerFact}
    (reserved : ∀ taskId, fact = .claimed taskId → IsReserved history taskId) :
    ReservedFirst (history ++ [(thread, fact)]) := by
  intro earlier worker taskId later equal
  rcases eq_nil_or_concat later with rfl | ⟨middle, last, rfl⟩
  · obtain ⟨rfl, same⟩ := append_inj' equal rfl
    exact reserved taskId (Prod.mk.inj (singleton_inj.mp same)).2
  · have split : earlier ++ (worker, ServerFact.claimed taskId) :: (middle ++ [last]) =
        (earlier ++ (worker, .claimed taskId) :: middle) ++ [last] := by simp
    rw [concat_eq_append, split] at equal
    exact first earlier worker taskId middle (append_inj' equal rfl).1

structure AdmissionInv (production : Prop) (tables : TaskTables) (skills : CloudSkillTables)
    (history : ServerHistory) : Prop where
  numbered : tables.RowsNumbered
  indexed : skills.ReservationsIndexed
  claimedRow : ∀ {thread taskId}, (thread, .claimed taskId) ∈ history →
    ∃ task, tables.getTask taskId = some task ∧ task.status ≠ .pending
  oneWorker : ∀ {thread other taskId}, (thread, .claimed taskId) ∈ history →
    (other, .claimed taskId) ∈ history → thread = other
  soughtKey : ∀ {thread taskId key}, (thread, .claimed taskId) ∈ history →
    (thread, .sought key) ∈ history → tables.idempotency.get? key = some taskId
  executedClaimed : ∀ {thread taskId}, (thread, .executed taskId) ∈ history →
    (thread, .claimed taskId) ∈ history
  executedOnce : ∀ thread, history.countP (fun entry => entry.1 == thread && entry.2.isExecuted) ≤ 1
  admittedInput : ∀ {thread taskId input}, (thread, .admitted taskId input) ∈ history →
    ∃ task, tables.getTask taskId = some task ∧ task.input = input ∧ task.isStaged = false
  refusedSettled : ∀ {thread code taskId}, (thread, .refused code) ∈ history →
    code ∈ limitCodes → (thread, .created taskId) ∈ history → tables.IsSettled taskId
  reservedFirst : production → ReservedFirst history

namespace AdmissionInv

variable {production : Prop} {tables after : TaskTables} {skills : CloudSkillTables}
variable {history : ServerHistory} {thread : Nat}

theorem empty {skills : CloudSkillTables} (indexed : skills.ReservationsIndexed) :
    AdmissionInv production .empty skills [] := by
  constructor
  case numbered => exact TaskTables.rowsNumbered_empty
  case indexed => exact indexed
  case executedOnce => simp
  case reservedFirst =>
    intro _ earlier worker taskId later equal
    simp at equal
  all_goals exact fun did => absurd did not_mem_nil

theorem setTables (inv : AdmissionInv production tables skills history)
    (grows : TaskTables.Grows tables after) (numbered : after.RowsNumbered) :
    AdmissionInv production after skills history where
  numbered := numbered
  __ := inv
  claimedRow claimed := by
    obtain ⟨old, stored, started⟩ := inv.claimedRow claimed
    obtain ⟨task, storedAfter, -, -, status⟩ :=
      grows.kept stored (CloudTask.isStaged_of_status started)
    exact ⟨task, storedAfter, status started⟩
  soughtKey claimed sought := by
    obtain ⟨old, stored, started⟩ := inv.claimedRow claimed
    exact grows.keyKept inv.numbered stored (CloudTask.isStaged_of_status started)
      (inv.soughtKey claimed sought)
  admittedInput admitted := by
    obtain ⟨old, stored, rfl, notStaged⟩ := inv.admittedInput admitted
    obtain ⟨task, storedAfter, input, stays, -⟩ := grows.kept stored notStaged
    exact ⟨task, storedAfter, input, stays⟩
  refusedSettled refused limit created :=
    grows.isSettled (inv.refusedSettled refused limit created)

theorem setSkills {skills' : CloudSkillTables} (inv : AdmissionInv production tables skills history)
    (indexed : skills'.ReservationsIndexed) : AdmissionInv production tables skills' history :=
  { inv with indexed }

def MayRecord (production : Prop) (tables : TaskTables) (history : ServerHistory)
    (thread : Nat) : ServerFact → Prop
  | .sought key => ∀ taskId, (thread, .claimed taskId) ∈ history →
      tables.idempotency.get? key = some taskId
  | .created taskId => ∀ code, (thread, .refused code) ∈ history → code ∈ limitCodes →
      tables.IsSettled taskId
  | .admitted taskId input => ∃ task, tables.getTask taskId = some task ∧
      task.input = input ∧ task.isStaged = false
  | .claimed taskId =>
    (∃ task, tables.getTask taskId = some task ∧ task.status ≠ .pending) ∧
    (∀ other, (other, .claimed taskId) ∉ history) ∧
    (∀ key, (thread, .sought key) ∈ history → tables.idempotency.get? key = some taskId) ∧
    (production → IsReserved history taskId)
  | .executed taskId => (thread, .claimed taskId) ∈ history ∧
      ∀ other, (thread, .executed other) ∉ history
  | .refused code => code ∈ limitCodes → ∀ taskId, (thread, .created taskId) ∈ history →
      tables.IsSettled taskId
  | .reserved _ | .deadlineSet | .timedOut => True

theorem recordFact {fact : ServerFact} (inv : AdmissionInv production tables skills history)
    (may : MayRecord production tables history thread fact) :
    AdmissionInv production tables skills (history ++ [(thread, fact)]) := by
  have mem {other : Nat} {known : ServerFact}
      (member : (other, known) ∈ history ++ [(thread, fact)]) :
      (other, known) ∈ history ∨ (other = thread ∧ known = fact) := by
    simpa using member
  have old {entry : Nat × ServerFact} (member : entry ∈ history) :
      entry ∈ history ++ [(thread, fact)] :=
    mem_append_left _ member
  constructor
  case numbered => exact inv.numbered
  case indexed => exact inv.indexed
  case claimedRow =>
    intro worker taskId claimed
    rcases mem claimed with before | ⟨rfl, rfl⟩
    · exact inv.claimedRow before
    · exact may.1
  case oneWorker =>
    intro first second taskId claimed alsoClaimed
    rcases mem claimed with before | ⟨rfl, rfl⟩ <;>
      rcases mem alsoClaimed with alsoBefore | ⟨rfl, same⟩
    · exact inv.oneWorker before alsoBefore
    · subst same
      exact absurd before (may.2.1 _)
    · exact absurd alsoBefore (may.2.1 _)
    · rfl
  case soughtKey =>
    intro worker taskId key claimed sought
    rcases mem claimed with before | ⟨rfl, rfl⟩ <;>
      rcases mem sought with alsoBefore | ⟨isThread, same⟩
    · exact inv.soughtKey before alsoBefore
    · subst isThread same
      exact may taskId before
    · exact may.2.2.1 key alsoBefore
    · cases same
  case executedClaimed =>
    intro worker taskId executed
    rcases mem executed with before | ⟨rfl, rfl⟩
    · exact old (inv.executedClaimed before)
    · exact old may.1
  case executedOnce =>
    intro worker
    have once := inv.executedOnce worker
    rw [countP_append]
    by_cases isNew : worker = thread ∧ fact.isExecuted = true
    · obtain ⟨rfl, executed⟩ := isNew
      cases fact with
      | executed taskId =>
        have none : history.countP (fun entry => entry.1 == worker && entry.2.isExecuted) = 0 := by
          rw [countP_eq_zero]
          rintro ⟨other, known⟩ member isExecution
          simp only [Bool.and_eq_true, beq_iff_eq] at isExecution
          obtain ⟨rfl, isExecuted⟩ := isExecution
          cases known <;> first | exact may.2 _ member | cases isExecuted
        rw [none, Nat.zero_add]
        exact countP_le_length
      | _ => cases executed
    · have none : [(thread, fact)].countP
          (fun entry => entry.1 == worker && entry.2.isExecuted) = 0 := by
        rw [countP_eq_zero]
        intro entry member isExecution
        rw [mem_singleton.mp member] at isExecution
        simp only [Bool.and_eq_true, beq_iff_eq] at isExecution
        exact isNew ⟨isExecution.1.symm, isExecution.2⟩
      omega
  case admittedInput =>
    intro worker taskId input admitted
    rcases mem admitted with before | ⟨rfl, rfl⟩
    · exact inv.admittedInput before
    · exact may
  case refusedSettled =>
    intro worker code taskId refused limit created
    rcases mem refused with before | ⟨rfl, rfl⟩ <;>
      rcases mem created with alsoBefore | ⟨isThread, same⟩
    · exact inv.refusedSettled before limit alsoBefore
    · subst isThread same
      exact may code before limit
    · exact may limit taskId alsoBefore
    · cases same
  case reservedFirst =>
    intro isProduction
    refine (inv.reservedFirst isProduction).concat ?_
    rintro taskId rfl
    exact may.2.2.2 isProduction

end AdmissionInv

/-! ## The calls of a worker -/

open TaskServer

@[grind =]
def isOrdinary : ServerCall → Bool
  | .findTaskByIdempotency .. | .createTask .. | .admitPendingTaskInput ..
  | .claimPendingTask _ | .fetchExecutor _ => false
  | .transitionIfStatus _ _ status _ => status != .pending
  | .respond (.problem problem) => !limitCodes.contains problem.code
  | _ => true

def isFetch (taskId : Nat) : ServerCall → Bool
  | .fetchExecutor request => request.taskId == taskId
  | _ => false

abbrev OrdinaryCalls {α : Type} (program : ServerProgram α) : Prop :=
  program.Calls fun request => isOrdinary request = true

abbrev OneFetch {α : Type} (taskId : Nat) (program : ServerProgram α) : Prop :=
  program.CallsOnce (fun request => isOrdinary request = true)
    fun request => isFetch taskId request = true

variable {request : ServerCall}

theorem ordinaryCalls_query (ordinary : isOrdinary request = true) :
    OrdinaryCalls (query request) :=
  Program.calls_perform ordinary

theorem oneFetch_query {taskId : Nat} (fetch : isFetch taskId request = true) :
    OneFetch taskId (query request) :=
  Program.callsOnce_perform fetch

theorem ordinaryCalls_attempt (ordinary : isOrdinary request = true) :
    OrdinaryCalls (attempt request) :=
  ⟨ordinary, fun _ => trivial⟩

theorem ordinaryCalls_tolerate (ordinary : isOrdinary request = true) :
    OrdinaryCalls (tolerate request) :=
  ⟨ordinary, fun _ => trivial⟩

theorem ordinaryCalls_getTaskOrNone (taskId : Nat) : OrdinaryCalls (getTaskOrNone taskId) :=
  (ordinaryCalls_attempt rfl).bind fun answer => by cases answer <;> trivial

theorem ordinaryCalls_sendTask (status : Nat) (task : Option CloudTask) :
    OrdinaryCalls (sendTask status task) :=
  ordinaryCalls_query rfl

theorem ordinaryCalls_sendError {status : Nat} {code message : String} {retryable : Bool}
    (noLimit : limitCodes.contains code = false) :
    OrdinaryCalls (sendError status code message retryable) :=
  ordinaryCalls_query (by simp only [isOrdinary, noLimit, Bool.not_false])

section Worker

variable {options : TaskServerOptions} {params : RunTaskParams} {rest : ServerProgram Unit}

theorem ordinaryCalls_releaseReservation : OrdinaryCalls (releaseReservation params) := by
  unfold releaseReservation
  split
  · trivial
  · exact ordinaryCalls_tolerate rfl

theorem ordinaryCalls_failAndRelease (patch : TaskPatch) :
    OrdinaryCalls (failAndRelease params patch) :=
  (ordinaryCalls_query rfl).bind fun _ => ordinaryCalls_releaseReservation

theorem ordinaryCalls_tryFailAndRelease {status : CloudTaskStatus} (patch : TaskPatch)
    (started : status ≠ .pending) : OrdinaryCalls (tryFailAndRelease params status patch) :=
  (ordinaryCalls_tolerate (by simpa [isOrdinary, completeRunningTask] using started)).bind
    fun _ => ordinaryCalls_releaseReservation

section

variable (continues : OneFetch params.taskId rest)
include continues

theorem oneFetch_unlessStopped : OneFetch params.taskId (unlessStopped params rest) := by
  refine (ordinaryCalls_query rfl).bind_callsOnce fun aborted => ?_
  split
  · exact ordinaryCalls_releaseReservation.callsOnce
  · refine (ordinaryCalls_attempt rfl).bind_callsOnce fun answer => ?_
    cases answer with
    | error error => exact (ordinaryCalls_tryFailAndRelease _ (by decide)).callsOnce
    | ok current =>
      refine (ordinaryCalls_query rfl).bind_callsOnce fun abortedNow => ?_
      split
      · exact ordinaryCalls_releaseReservation.callsOnce
      · exact continues

theorem oneFetch_recheckGrant : OneFetch params.taskId (recheckGrant params rest) := by
  unfold recheckGrant
  split
  · refine (ordinaryCalls_query rfl).bind_callsOnce fun active => ?_
    refine oneFetch_unlessStopped ?_
    refine Program.Calls.bind_callsOnce ?_ fun currentGrant => ?_
    · split
      · exact ordinaryCalls_query rfl
      · trivial
    · refine oneFetch_unlessStopped ?_
      split
      · exact continues
      · exact (ordinaryCalls_failAndRelease _).callsOnce
  · exact continues

theorem oneFetch_recheckPolicy : OneFetch params.taskId (recheckPolicy params rest) := by
  refine (ordinaryCalls_query rfl).bind_callsOnce fun denial => oneFetch_unlessStopped ?_
  cases denial with
  | some denial => exact (ordinaryCalls_failAndRelease _).callsOnce
  | none => exact continues

theorem oneFetch_recheckRelease : OneFetch params.taskId (recheckRelease options params rest) := by
  unfold recheckRelease
  split
  · refine (ordinaryCalls_query rfl).bind_callsOnce fun check => oneFetch_unlessStopped ?_
    cases check with
    | refused problem => exact (ordinaryCalls_failAndRelease _).callsOnce
    | ok => exact continues
  · exact continues

theorem oneFetch_recheckBinding : OneFetch params.taskId (recheckBinding options params rest) := by
  unfold recheckBinding
  split
  · refine (ordinaryCalls_attempt rfl).bind_callsOnce fun answer => ?_
    cases answer with
    | error error =>
      exact oneFetch_unlessStopped (ordinaryCalls_tryFailAndRelease _ (by decide)).callsOnce
    | ok binding =>
      refine oneFetch_unlessStopped ?_
      split
      · exact continues
      · exact (ordinaryCalls_tryFailAndRelease _ (by decide)).callsOnce
  · exact continues

end

theorem ordinaryCalls_readResponse : OrdinaryCalls (readResponse params) := by
  refine (ordinaryCalls_attempt rfl).bind fun answer => ?_
  cases answer with
  | ok body => trivial
  | error error =>
    refine (ordinaryCalls_query rfl).bind fun aborted => ?_
    split
    · trivial
    · exact (ordinaryCalls_failAndRelease _).bind fun _ => trivial

theorem ordinaryCalls_completeExecution (ok : Bool) (body : Option ExecutorBody) :
    OrdinaryCalls (completeExecution params ok body) := by
  cases body with
  | none => exact ordinaryCalls_failAndRelease _
  | some body =>
    refine (ordinaryCalls_query rfl).bind fun current => ?_
    split
    · exact ordinaryCalls_releaseReservation
    · split
      · exact ordinaryCalls_failAndRelease _
      · split
        · trivial
        · exact (ordinaryCalls_query rfl).bind fun _ => ordinaryCalls_releaseReservation

theorem oneFetch_callExecutor : OneFetch params.taskId (callExecutor options params) := by
  refine (ordinaryCalls_query rfl).bind_callsOnce fun aborted => ?_
  split
  · exact ordinaryCalls_releaseReservation.callsOnce
  · refine (ordinaryCalls_query rfl).bind_callsOnce fun _ => ?_
    refine bind ?_ fun fetched => ?_
    · refine tryFinally ?_ (ordinaryCalls_query rfl)
      refine bind (oneFetch_query ?_) fun ok => ?_
      · exact beq_self_eq_true params.taskId
      exact ordinaryCalls_readResponse.bind fun body => trivial
    · split
      · trivial
      · exact ordinaryCalls_completeExecution _ _

theorem oneFetch_runClaimedTask : OneFetch params.taskId (runClaimedTask options params) :=
  (ordinaryCalls_query rfl).bind_callsOnce fun _ =>
    oneFetch_unlessStopped <| oneFetch_recheckGrant <| oneFetch_recheckPolicy <|
    oneFetch_recheckRelease <| oneFetch_recheckBinding <|
    oneFetch_unlessStopped oneFetch_callExecutor

theorem ordinaryCalls_recoverTask (error : ServerError) :
    OrdinaryCalls (recoverTask params error) := by
  unfold recoverTask
  split <;> exact ordinaryCalls_tryFailAndRelease _ (by decide)

def afterClaim (options : TaskServerOptions) (params : RunTaskParams)
    (answer : Except ServerError (Option CloudTask)) : ServerProgram Unit :=
  ((Program.ofExcept answer >>= fun claimed => match claimed with
    | none => releaseReservation params
    | some _ => runClaimedTask options params).tryCatch (recoverTask params)).tryFinally
      (query (.deleteController params.taskId))

theorem runTask_eq (options : TaskServerOptions) (params : RunTaskParams) :
    runTask options params = .call (.claimPendingTask params.taskId) (afterClaim options params) :=
  rfl

theorem ordinaryCalls_afterClaim {answer : Except ServerError (Option CloudTask)}
    (notClaimed : ∀ task, answer ≠ .ok (some task)) :
    OrdinaryCalls (afterClaim options params answer) := by
  refine Program.Calls.tryFinally (Program.Calls.tryCatch ?_ ordinaryCalls_recoverTask)
    (ordinaryCalls_query rfl)
  match answer with
  | .error error => trivial
  | .ok none => exact ordinaryCalls_releaseReservation
  | .ok (some task) => exact absurd rfl (notClaimed task)

theorem oneFetch_afterClaim (answer : Except ServerError (Option CloudTask)) :
    OneFetch params.taskId (afterClaim options params answer) := by
  refine tryFinally (tryCatch ?_ ordinaryCalls_recoverTask) (ordinaryCalls_query rfl)
  refine (Program.calls_ofExcept answer).bind_callsOnce fun claimed => ?_
  cases claimed with
  | none => exact ordinaryCalls_releaseReservation.callsOnce
  | some task => exact oneFetch_runClaimedTask

end Worker

theorem ordinaryCalls_cancelTask (request : CancelTaskRequest) :
    OrdinaryCalls (cancelTask request) := by
  have aborts : OrdinaryCalls (abortAndRelease request) :=
    (ordinaryCalls_query rfl).bind fun _ => ordinaryCalls_tolerate rfl
  have cancels : OrdinaryCalls (cancelOpenTask request) := by
    refine (ordinaryCalls_attempt rfl).bind fun answer => ?_
    split
    · refine aborts.bind fun _ => (ordinaryCalls_getTaskOrNone _).bind fun current => ?_
      split
      · exact aborts
      · trivial
    · exact aborts
    · trivial
  have reads : OrdinaryCalls (do
      let current : Option CloudTask ← query (.getTask request.taskId)
      sendTask 202 current) :=
    (ordinaryCalls_query rfl).bind fun _ => ordinaryCalls_sendTask _ _
  refine (ordinaryCalls_query rfl).bind fun task => ?_
  cases task with
  | none => exact ordinaryCalls_sendError rfl
  | some task =>
    dsimp only
    split
    · exact ordinaryCalls_sendError rfl
    · split
      · exact cancels.bind fun _ => reads
      · exact reads

end LongHub
