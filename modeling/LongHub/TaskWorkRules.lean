import LongHub.RelyGuarantee
import LongHub.TaskHandlers
import LongHub.TaskWorkInvariant

/-!
# Rules for the work on claimed tasks

Any number of workers and cancel requests run over the in-memory store, and one store call may
throw.
-/

namespace LongHub

open TaskServerState TaskServer

inductive CancellationRequest where
  | run (params : RunTaskParams)
  | cancel (request : CancelTaskRequest)

def cancellationServer (options : TaskServerOptions) :
    Machine TaskServerState ServerCall ServerCall.Answer ServerError ServerChoice
      CancellationRequest ServerEnvironment :=
  taskServer fun
    | .run params => runTask options params
    | .cancel request => cancelTask request

def droppedWrites : List (Option TaskError) :=
  [(taskError "AGENT_SKILL_BINDING_REQUIRED" "当前 Agent 未绑定该云端 Skill" false).error,
    (taskError "EXECUTION_TIMEOUT" "云端 Skill 执行超时" true).error,
    (taskError "EXECUTOR_UNREACHABLE" "执行器请求失败" true).error]

def isRunning (state : TaskServerState) (taskId : Nat) : Bool :=
  (state.tables.getTask taskId).any fun task => task.status == .running

def hasSetDeadline (state : TaskServerState) (thread : Nat) : Bool :=
  state.history.any fun entry => entry.1 == thread && entry.2 matches .deadlineSet

/-- A controller is aborted only when its worker no longer decides how the
task ends, and no dropped write of a running task fails. -/
def isHarmless (_thread : Nat) (request : ServerCall) (choice : ServerChoice)
    (state : TaskServerState) : Bool :=
  match request with
  | .abortController taskId =>
    match state.controllers.get? taskId with
    | none => true
    | some worker =>
      !isRunning state taskId || (hasSetDeadline state worker && !state.armed.contains worker)
  | .transitionIfStatus taskId _ _ patch =>
    !(choice.fault == some .beforeEffect && droppedWrites.contains patch.error &&
      isRunning state taskId)
  | _ => true

variable {state before after : TaskServerState} {taskId : Nat} {choice : ServerChoice}
  {assertion : TaskServerState → Prop} {request : ServerCall}

theorem hasSetDeadline_iff {thread : Nat} :
    hasSetDeadline state thread = true ↔ state.Did thread .deadlineSet := by
  simp only [hasSetDeadline, Did, List.any_eq_true, Bool.and_eq_true, beq_iff_eq, Prod.exists]
  constructor
  · rintro ⟨worker, fact, mem, rfl, isDeadline⟩
    cases fact <;> first | exact mem | cases isDeadline
  · exact fun mem => ⟨thread, .deadlineSet, mem, rfl, rfl⟩

theorem hasEnded_of_not_isRunning (inv : state.WorkInv) {thread : Nat}
    (claimed : state.Did thread (.claimed taskId)) (stopped : isRunning state taskId = false) :
    state.HasEnded taskId := by
  obtain ⟨task, stored, started⟩ := inv.claimedRow claimed
  refine ⟨task, stored, ?_⟩
  have notRunning : task.status ≠ .running := by simpa [isRunning, stored] using stopped
  cases status : task.status <;> simp_all [CloudTaskStatus.isTerminal]

theorem mayAbort_of_isHarmless (inv : state.WorkInv) {thread : Nat}
    (harmless : isHarmless thread (.abortController taskId) choice state = true) :
    state.MayAbort taskId := by
  intro worker present
  simp only [isHarmless, present, Bool.or_eq_true, Bool.and_eq_true, Bool.not_eq_true',
    hasSetDeadline_iff] at harmless
  rcases harmless with stopped | ⟨deadline, elapsed⟩
  · exact Or.inl (hasEnded_of_not_isRunning inv (inv.registered present) stopped)
  · exact Or.inr ⟨deadline, by simpa using elapsed⟩

/-- The machine whose steps all meet the condition. -/
abbrev harmlessServer (options : TaskServerOptions) :=
  (cancellationServer options).restrict isHarmless

structure Undisturbed (thread : Nat) (before after : TaskServerState) : Prop where
  faults : after.faults ≤ before.faults
  remembers : ∀ {fact}, before.Did thread fact → after.Did thread fact
  noClaim : ∀ {taskId}, after.Did thread (.claimed taskId) → before.Did thread (.claimed taskId)
  noDeadline : after.Did thread .deadlineSet → before.Did thread .deadlineSet
  timer : thread ∈ after.armed ↔ thread ∈ before.armed
  ended : ∀ {taskId}, before.HasEnded taskId → after.HasEnded taskId

variable {options : TaskServerOptions} {thread : Nat}

theorem Undisturbed.of_timer (worker : Nat) :
    Undisturbed thread state
      { state.recordFact worker .timedOut with aborted := worker :: state.aborted } where
  faults := le_rfl
  remembers before := did_recordFact.mpr (Or.inl before)
  noClaim did := (did_recordFact.mp did).resolve_right (by simp)
  noDeadline did := (did_recordFact.mp did).resolve_right (by simp)
  timer := Iff.rfl
  ended := id

theorem Undisturbed.of_rely
    (rely : (harmlessServer options).Rely WorkGuarantee thread before after) :
    Undisturbed thread before after := by
  rcases rely with ⟨other, differ, guarantee⟩ | ⟨event, changed⟩
  · exact ⟨guarantee.faults, guarantee.remembers,
      fun did => guarantee.ownFacts did (Ne.symm differ),
      fun did => guarantee.ownFacts did (Ne.symm differ),
      guarantee.ownTimer (Ne.symm differ), guarantee.ended⟩
  · cases event with
    | commerce plans subscriptions subscriptionsByOrder entitlements =>
      cases changed
      exact ⟨le_rfl, id, id, id, Iff.rfl, id⟩
    | timer worker =>
      change (if worker ∈ before.armed then some _ else none) = some after at changed
      split at changed
      · cases changed
        exact .of_timer worker
      · cases changed

theorem Undisturbed.of_sameWork (same : SameWork thread before after) :
    Undisturbed thread before after where
  faults := same.faults
  remembers := same.remembers
  noClaim := (same.did_iff rfl).mp
  noDeadline := (same.did_iff rfl).mp
  timer := by rw [same.armed]
  ended := same.hasEnded_iff.mpr

/-- An assertion that undisturbing steps keep. -/
def Steady (thread : Nat) (assertion : TaskServerState → Prop) : Prop :=
  ∀ before after, Undisturbed thread before after → assertion before → assertion after

theorem Steady.stable (steady : Steady thread assertion) :
    (harmlessServer options).Stable WorkInv WorkGuarantee thread assertion :=
  fun before after _ _ rely holds => steady before after (.of_rely rely) holds

variable {first second : TaskServerState → Prop} {error : ServerError}

theorem Steady.and (firstSteady : Steady thread first) (secondSteady : Steady thread second) :
    Steady thread fun state => first state ∧ second state :=
  fun before after undisturbed holds =>
    ⟨firstSteady before after undisturbed holds.1, secondSteady before after undisturbed holds.2⟩

theorem Steady.or (firstSteady : Steady thread first) (secondSteady : Steady thread second) :
    Steady thread fun state => first state ∨ second state :=
  fun before after undisturbed holds =>
    holds.imp (firstSteady before after undisturbed) (secondSteady before after undisturbed)

theorem Steady.imp {claim : Prop} (steady : Steady thread assertion) :
    Steady thread fun state => claim → assertion state :=
  fun before after undisturbed holds given =>
    steady before after undisturbed (holds given)

theorem steady_did (fact : ServerFact) : Steady thread fun state => state.Did thread fact :=
  fun _ _ undisturbed did => undisturbed.remembers did

theorem steady_hasEnded (taskId : Nat) : Steady thread fun state => state.HasEnded taskId :=
  fun _ _ undisturbed ended => undisturbed.ended ended

theorem steady_noFaults : Steady thread fun state => state.faults = 0 :=
  fun _ _ undisturbed noFaults => by have := undisturbed.faults; omega

def OnlyClaims (thread taskId : Nat) (state : TaskServerState) : Prop :=
  ∀ other, state.Did thread (.claimed other) → other = taskId

theorem steady_onlyClaims (taskId : Nat) : Steady thread (OnlyClaims thread taskId) :=
  fun _ _ undisturbed only other did => only other (undisturbed.noClaim did)

def Finished (thread : Nat) (state : TaskServerState) : Prop :=
  ∀ taskId, state.Did thread (.claimed taskId) → state.HasEnded taskId

theorem steady_finished : Steady thread (Finished thread) :=
  fun _ _ undisturbed finished taskId did =>
    undisturbed.ended (finished taskId (undisturbed.noClaim did))

/-- The worker has claimed its task and not yet set its deadline. -/
def Preparing (thread taskId : Nat) (state : TaskServerState) : Prop :=
  state.Did thread (.claimed taskId) ∧ ¬ state.Did thread .deadlineSet

theorem steady_preparing (taskId : Nat) : Steady thread (Preparing thread taskId) :=
  fun _ _ undisturbed preparing =>
    ⟨undisturbed.remembers preparing.1, fun did => preparing.2 (undisturbed.noDeadline did)⟩

def Executing (thread taskId : Nat) (state : TaskServerState) : Prop :=
  state.Did thread (.claimed taskId) ∧ thread ∈ state.armed

theorem steady_executing (taskId : Nat) : Steady thread (Executing thread taskId) :=
  fun _ _ undisturbed executing =>
    ⟨undisturbed.remembers executing.1, undisturbed.timer.mpr executing.2⟩

theorem stable_isIdle : (harmlessServer options).Stable WorkInv WorkGuarantee thread
    fun state => state.IsIdle thread := by
  intro before after inv _ rely idle fact did
  rcases rely with ⟨other, differ, guarantee⟩ | ⟨event, changed⟩
  · exact idle fact (guarantee.ownFacts did (Ne.symm differ))
  · cases event with
    | commerce plans subscriptions subscriptionsByOrder entitlements =>
      cases changed
      exact idle fact did
    | timer worker =>
      change (if worker ∈ before.armed then some _ else none) = some after at changed
      split at changed
      · next armed =>
        cases changed
        rcases did_recordFact.mp did with old | ⟨rfl, -⟩
        · exact idle fact old
        · exact idle _ (inv.armedWorker armed)
      · cases changed

theorem OnlyClaims.of_did (inv : state.WorkInv) (claimed : state.Did thread (.claimed taskId)) :
    OnlyClaims thread taskId state :=
  fun _ did => inv.oneTask did claimed

theorem Finished.of_hasEnded (only : OnlyClaims thread taskId state)
    (ended : state.HasEnded taskId) : Finished thread state :=
  fun other did => only other did ▸ ended

theorem Preparing.hasEnded (inv : state.WorkInv) (preparing : Preparing thread taskId state)
    (aborted : thread ∈ state.aborted) : state.HasEnded taskId := by
  rcases inv.abortedCause aborted preparing.1 with ended | fired | past
  · exact ended
  · exact absurd (inv.firedWorker fired) preparing.2
  · exact absurd past.1 preparing.2

theorem Executing.cause (inv : state.WorkInv) (executing : Executing thread taskId state)
    (aborted : thread ∈ state.aborted) : state.Did thread .timedOut ∨ state.HasEnded taskId := by
  rcases inv.abortedCause aborted executing.1 with ended | fired | past
  · exact Or.inr ended
  · exact Or.inl fired
  · exact absurd executing.2 past.2

section Calls

variable {request : ServerCall} {choice : ServerChoice} {before after : TaskServerState}
variable {answer : Except ServerError request.Answer}

theorem perform_harmlessServer
    (ran : (harmlessServer options).perform thread request choice before =
      some (answer, after)) : isHarmless thread request choice before = true ∧
      perform thread request choice before = some (answer, after) := by
  change (if isHarmless thread request choice before = true then _ else none) = _ at ran
  split at ran
  · next harmless => exact ⟨harmless, ran⟩
  · cases ran

theorem perform_sameWork (quiet : isQuiet request = true)
    (ran : perform thread request choice before = some (answer, after)) :
    SameWork thread before after := by
  have spent : SameWork thread before { before with faults := before.faults - 1 } :=
    .of_spent thread before before.skills _ (Nat.sub_le _ _)
  rcases perform_cases ran with
    ⟨-, -, -, -, rfl⟩ | ⟨-, -, -, rfl⟩ | ⟨executed, -⟩
  · exact spent
  · exact spent.trans (execute_sameWork quiet)
  · have same : SameWork thread before (execute thread choice before request).2 :=
      execute_sameWork quiet
    rwa [executed] at same

def isLocal : ServerCall → Bool
  | .fetchExecutor _ | .readExecutorResponse => false
  | _ => true

theorem perform_error_ne_abort (isLocalCall : isLocal request = true) {error : ServerError}
    (ran : perform thread request choice before = some (.error error, after)) :
    error ≠ .abort := by
  rintro rfl
  have failed := congrArg Prod.fst (executed_of_perform ran nofun).1
  cases request with
  | findTaskByIdempotency idempotencyKey owner =>
    simp only [execute] at failed
    cases found : before.tables.findTaskByIdempotency idempotencyKey owner with
    | ok binding => simp [found, Except.mapError] at failed
    | error error => cases error <;> simp [found, Except.mapError, ServerError.ofStore] at failed
  | createTask idempotencyKey kind input owner requestFingerprint =>
    simp only [execute] at failed
    split at failed
    · next error _ => cases error <;> simp [ServerError.ofStore] at failed
    · cases failed
  | fetchExecutor => cases isLocalCall
  | readExecutorResponse => cases isLocalCall
  | _ => cases failed

theorem perform_abort (ran : perform thread request choice before =
      some (.error .abort, after)) : thread ∈ before.aborted := by
  by_cases isLocalCall : isLocal request = true
  · exact absurd rfl (perform_error_ne_abort isLocalCall ran)
  obtain ⟨executed, signalled⟩ := executed_of_perform ran nofun
  have failed := congrArg Prod.fst executed
  apply signalled
  cases request with
  | fetchExecutor =>
    simp only [execute] at failed
    split at failed
    · next error fetchError =>
      rw [fetchError, Except.error.inj failed]
    · cases failed
  | readExecutorResponse =>
    simp only [execute] at failed
    split at failed
    · next error fetchError =>
      rw [fetchError, Except.error.inj failed]
    · cases failed
  | _ => exact absurd rfl isLocalCall

end Calls

abbrev SafeWork (options : TaskServerOptions) (thread : Nat) {α : Type}
    (Post : Except ServerError α → TaskServerState → Prop) (program : ServerProgram α) :
    TaskServerState → Prop :=
  (harmlessServer options).Safe WorkInv WorkGuarantee thread Post program

variable {α : Type} {Post : Except ServerError α → TaskServerState → Prop}
variable {returned : α → TaskServerState → Prop}

theorem safe_quiet {next : Except ServerError request.Answer → ServerProgram α}
    (quiet : isQuiet request = true) (steady : Steady thread assertion) (holds : assertion state)
    (continues : ∀ before choice answer after, before.WorkInv → assertion before →
      perform thread request choice before = some (answer, after) →
        after.WorkInv → assertion after → SafeWork options thread Post (next answer) after) :
    SafeWork options thread Post (.call request next) state := by
  refine Machine.safe_call steady.stable holds ?_
  intro before choice answer after inv holdsBefore ran
  obtain ⟨-, plain⟩ := perform_harmlessServer ran
  have same := perform_sameWork quiet plain
  have invAfter := same.workInv inv
  exact ⟨same.guarantee, invAfter, continues before choice answer after inv holdsBefore plain
    invAfter (steady before after (.of_sameWork same) holdsBefore)⟩

def Thrown (thread taskId : Nat) (error : ServerError) (state : TaskServerState) : Prop :=
  OnlyClaims thread taskId state ∧ (error = .abort → state.Did thread (.claimed taskId) ∧
      (state.Did thread .timedOut ∨ state.HasEnded taskId))

theorem steady_thrown (taskId : Nat) (error : ServerError) :
    Steady thread (Thrown thread taskId error) :=
  (steady_onlyClaims taskId).and
    (((steady_did _).and ((steady_did _).or (steady_hasEnded taskId))).imp)

/-- The postcondition of a part of a worker. -/
def Ends (thread taskId : Nat) (returned : α → TaskServerState → Prop) :
    Except ServerError α → TaskServerState → Prop
  | .ok value => returned value
  | .error error => Thrown thread taskId error

theorem steady_ends (steady : ∀ value, Steady thread (returned value))
    (outcome : Except ServerError α) : Steady thread (Ends thread taskId returned outcome) := by
  cases outcome with
  | ok value => exact steady value
  | error error => exact steady_thrown taskId error

theorem Thrown.of_local (inv : state.WorkInv) (claimed : state.Did thread (.claimed taskId))
    (notAbort : error ≠ .abort) : Thrown thread taskId error state :=
  ⟨.of_did inv claimed, fun abort => absurd abort notAbort⟩

theorem safe_query {next : request.Answer → ServerProgram α} (quiet : isQuiet request = true)
    (isLocalCall : isLocal request = true) (steady : Steady thread assertion)
    (claimed : ∀ {state}, assertion state → state.Did thread (.claimed taskId))
    (holds : assertion state) (continues : ∀ value after, after.WorkInv → assertion after →
      SafeWork options thread (Ends thread taskId returned) (next value) after) :
    SafeWork options thread (Ends thread taskId returned) (query request >>= next) state := by
  refine safe_quiet quiet steady holds ?_
  intro before choice answer after _ _ ran inv holdsAfter
  cases answer with
  | ok value => exact continues value after inv holdsAfter
  | error error =>
    exact Machine.safe_throw (steady_thrown taskId error).stable
      (.of_local inv (claimed holdsAfter) (perform_error_ne_abort isLocalCall ran))

theorem safe_releaseReservation {Post : Except ServerError Unit → TaskServerState → Prop}
    (params : RunTaskParams) (steady : Steady thread (Post (.ok ())))
    (holds : Post (.ok ()) state) :
    SafeWork options thread Post (releaseReservation params) state := by
  unfold releaseReservation
  cases params.reservationId with
  | none => exact Machine.safe_pure steady.stable holds
  | some reservationId =>
    refine safe_quiet rfl steady holds ?_
    intro before choice answer after _ _ _ _ holdsAfter
    exact Machine.safe_pure steady.stable holdsAfter

theorem perform_isAborted {answer : Except ServerError Bool}
    (ran : perform thread .isAborted choice before = some (answer, after)) :
    answer = .ok (decide (thread ∈ after.aborted)) := by
  cases (executed_of_perform ran nofun).1
  rfl

theorem noFaults_of_error (inv : before.WorkInv) (quiet : isQuiet request = true)
    (returns : ∀ state, ∃ value, (execute thread choice state request).1 = .ok value)
    (ran : perform thread request choice before = some (.error error, after)) :
    after.faults = 0 := by
  have atMostOne := inv.oneFault
  rcases perform_cases ran with
    ⟨-, -, -, -, rfl⟩ | ⟨-, -, -, rfl⟩ | ⟨executed, -⟩
  · simp only
    omega
  · have same : SameWork thread { before with faults := before.faults - 1 }
        (execute thread choice { before with faults := before.faults - 1 } request).2 :=
      execute_sameWork quiet
    have fewer := same.faults
    simp only at fewer
    omega
  · obtain ⟨value, returned⟩ := returns before
    rw [executed] at returned
    cases returned

/-- A read that does not throw answers with the row. -/
theorem perform_getTask {current : Option CloudTask}
    (ran : perform thread (.getTask taskId) choice before = some (.ok current, after)) :
    current = after.tables.getTask taskId := by
  cases (executed_of_perform ran nofun).1
  rfl

section Writes

variable {taskId faults : Nat} {status : CloudTaskStatus} {patch : TaskPatch}
variable {before : TaskServerState} {now : Instant} {result : Option CloudTask}
variable {tables : TaskTables}

theorem keeps_completeRunningTask (inv : before.WorkInv)
    (moved : before.tables.transitionIfStatus now taskId [.running] status patch = (result, tables))
    (terminal : status.isTerminal = true) (only : OnlyClaims thread taskId before)
    (cause : status = .timedOut → before.Did thread (.claimed taskId) ∧
      (before.Did thread .timedOut ∨ before.HasEnded taskId)) (fewer : faults ≤ before.faults) :
    WorkGuarantee thread before { before with tables, faults } ∧
      ({ before with tables, faults } : TaskServerState).WorkInv ∧
      Finished thread { before with tables, faults } := by
  have fromRunning : ∀ expected ∈ [CloudTaskStatus.running], expected.isTerminal = false := by
    simp [CloudTaskStatus.isTerminal]
  refine ⟨.transition moved fromRunning fewer, ?_, ?_⟩
  · refine inv.transition moved fromRunning terminal ?_ fewer
    intro timedOut worker did
    obtain ⟨claimed, ended⟩ := cause timedOut
    exact inv.oneWorker claimed did ▸ ended
  · intro other did
    obtain rfl := only other did
    obtain ⟨task, stored, started⟩ := inv.claimedRow did
    exact hasEnded_transition moved terminal (by simp) stored started

end Writes

theorem safe_completeRunningTask {status : CloudTaskStatus} {patch : TaskPatch}
    {next : Except ServerError (Option CloudTask) → ServerProgram α}
    (terminal : status.isTerminal = true) (noFaultsLeft : Prop)
    (only : OnlyClaims thread taskId state)
    (cause : status = .timedOut → state.Did thread (.claimed taskId) ∧
      (state.Did thread .timedOut ∨ state.HasEnded taskId))
    (noFaults : noFaultsLeft → state.faults = 0)
    (continues : ∀ answer after, after.WorkInv → OnlyClaims thread taskId after →
      (∀ error, answer = .error error → error ≠ .abort) →
      ((∃ moved, answer = .ok moved) ∨ noFaultsLeft ∨
        droppedWrites.contains patch.error = true → Finished thread after) →
      SafeWork options thread Post (next answer) after) :
    SafeWork options thread Post (.call (completeRunningTask taskId status patch) next) state := by
  have steady : Steady thread fun state => OnlyClaims thread taskId state ∧
      (status = .timedOut → state.Did thread (.claimed taskId) ∧
        (state.Did thread .timedOut ∨ state.HasEnded taskId)) ∧
      (noFaultsLeft → state.faults = 0) :=
    (steady_onlyClaims taskId).and
      ((((steady_did _).and ((steady_did _).or (steady_hasEnded taskId))).imp).and
        steady_noFaults.imp)
  refine Machine.safe_call steady.stable ⟨only, cause, noFaults⟩ ?_
  rintro before choice answer after inv ⟨only, cause, noFaults⟩ ran
  obtain ⟨harmless, plain⟩ := perform_harmlessServer ran
  have notAbort (error : ServerError) (failed : answer = .error error) : error ≠ .abort := by
    rw [failed] at plain
    exact perform_error_ne_abort rfl plain
  rcases perform_cases plain with
    ⟨positive, -, faulty, failed, rfl⟩ | ⟨-, -, -, rfl⟩ | ⟨executed, -⟩
  · have same : SameWork thread before { before with faults := before.faults - 1 } :=
      .of_spent thread before before.skills _ (Nat.sub_le _ _)
    refine ⟨same.guarantee, same.workInv inv, continues answer _ (same.workInv inv) only
      notAbort ?_⟩
    rintro (⟨moved, returned⟩ | spent | dropped)
    · rw [returned] at failed
      cases failed
    · have := noFaults spent
      omega
    · have mem := List.contains_iff_mem.mp dropped
      have stopped : isRunning before taskId = false := by
        simpa [isHarmless, completeRunningTask, faulty, mem] using harmless
      intro other did
      obtain rfl := only other did
      have ended := hasEnded_of_not_isRunning inv did stopped
      exact ended
  · obtain ⟨guarantee, invAfter, finished⟩ := keeps_completeRunningTask inv rfl terminal only
      cause (Nat.sub_le before.faults 1)
    exact ⟨guarantee, invAfter, continues answer _ invAfter only notAbort fun _ => finished⟩
  · obtain ⟨guarantee, invAfter, finished⟩ := keeps_completeRunningTask inv rfl terminal only
      cause le_rfl
    cases executed
    exact ⟨guarantee, invAfter, continues _ _ invAfter only notAbort fun _ => finished⟩

end LongHub
