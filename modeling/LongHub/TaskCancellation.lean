import LongHub.TaskWorkSafety

/-!
# A cancelled task is not stranded

A worker that has claimed its task leaves it in a terminal status, in every run of harmless steps.
-/

namespace LongHub

open Machine TaskServer TaskServerState

/-- Any tables, and at most one store call will throw. -/
structure CancellationStart (state : TaskServerState) : Prop where
  faults : state.faults ≤ 1
  controllers : ∀ taskId, state.controllers.get? taskId = none
  aborted : state.aborted = []
  armed : state.armed = []
  history : state.history = []

/-- A worker that returned has left its task in a terminal status; `timedOut`
is the status of a worker whose own deadline passed. -/
def NeverStranded (pool : TaskPool) : Prop :=
  ∀ thread program taskId, pool.threads thread = some program → program.isDone = true →
    pool.shared.Did thread (.claimed taskId) →
      ∃ task, pool.shared.tables.getTask taskId = some task ∧
        (task.status ∈ [.succeeded, .failed, .cancelled] ∨
          (task.status = .timedOut ∧ pool.shared.Did thread .timedOut))

variable {options : TaskServerOptions} {thread : Nat}

theorem safe_program (request : CancellationRequest) {state : TaskServerState}
    (inv : state.WorkInv) (idle : state.IsIdle thread) :
    SafeWork options thread (fun _ => Finished thread)
      ((cancellationServer options).program request) state := by
  cases request with
  | run params => exact safe_runTask inv idle
  | cancel request =>
    refine Machine.Safe.mono ?_ (claimless_cancelTask fun _ => idle _)
    exact fun _ _ _ holds taskId did => absurd did (holds taskId)

theorem CancellationStart.workInv {state : TaskServerState} (start : CancellationStart state) :
    state.WorkInv ∧ ∀ thread, state.IsIdle thread := by
  have idle (thread : Nat) : state.IsIdle thread := by
    intro fact did
    simp [Did, start.history] at did
  refine ⟨?_, idle⟩
  constructor
  case oneFault => exact start.faults
  case registered =>
    intro worker taskId present
    rw [start.controllers] at present
    cases present
  case armedWorker => exact fun armed => by simp [start.armed] at armed
  case abortedWorker => exact fun aborted => by simp [start.aborted] at aborted
  case abortedCause => exact fun _ did => absurd did (idle _ _)
  all_goals exact fun did => absurd did (idle _ _)

theorem workInv_environment {event : ServerEnvironment} {before after : TaskServerState}
    (inv : before.WorkInv) (changed : before.environment event = some after) : after.WorkInv := by
  cases event with
  | commerce plans subscriptions subscriptionsByOrder entitlements =>
    cases changed
    exact (SameWork.of_spent 0 before _ before.faults le_rfl).workInv inv
  | timer worker =>
    simp only [TaskServerState.environment] at changed
    split at changed
    · next armed =>
      cases changed
      exact inv.timer armed
    · cases changed

/-- In every run whose steps meet the condition, no task is stranded. -/
theorem neverStranded_of_isHarmless (options : TaskServerOptions) {pool : TaskPool}
    (reachable : ((cancellationServer options).restrict isHarmless).Reachable
      CancellationStart pool) : NeverStranded pool := by
  obtain ⟨inv, threads⟩ := safe_of_reachable WorkInv WorkGuarantee
    (fun thread state => state.IsIdle thread) (fun thread _ => Finished thread)
    (fun _ start => start.workInv) (fun _ => stable_isIdle)
    (fun _ _ _ inv changed => workInv_environment inv changed)
    (fun request thread state inv idle => safe_program request inv idle) reachable
  intro thread program taskId running done claimed
  have safe := threads thread
  rw [running] at safe
  have finished : Finished thread pool.shared := by
    cases program with
    | pure value => exact safe pool.shared .refl inv
    | throw error => exact safe pool.shared .refl inv
    | call request next => cases done
  obtain ⟨task, stored, terminal⟩ := finished taskId claimed
  refine ⟨task, stored, ?_⟩
  cases status : task.status with
  | timedOut => exact Or.inr ⟨rfl, inv.timedOutCause claimed stored status⟩
  | succeeded => simp
  | failed => simp
  | cancelled => simp
  | pending => simp [status, CloudTaskStatus.isTerminal] at terminal
  | running => simp [status, CloudTaskStatus.isTerminal] at terminal

def oneTaskServer : TaskServerState where
  tables := oneTaskTables
  skills := .empty
  controllers := .empty
  aborted := []
  armed := []
  faults := 1
  history := []

theorem cancellationStart_oneTaskServer : CancellationStart oneTaskServer :=
  ⟨le_rfl, fun _ => rfl, rfl, rfl, rfl⟩

def plainOptions : TaskServerOptions := ⟨false, fun _ => "", fun _ => ""⟩

def oneTaskParams : RunTaskParams where
  taskId := 1
  device := ⟨"device", "tenant", none⟩
  call :=
    { strict := false, requestId := "", skillId := "skill", skillVersion := "1"
      agentId := "agent", toolCallId := "", sessionKeyHash := "", idempotencyKey := "key"
      requestedPlanId := none, input := [("skill_id", .text "skill")]
      checkedInput := by decide }
  grant := none
  reservationId := none

/-- The write of a cancel request throws, and the worker stops at the signal that the request sends
nevertheless. -/
def cancelRun (fault : Fault) :
    List (PoolAction ServerChoice CancellationRequest ServerEnvironment) :=
  let worker : PoolAction ServerChoice CancellationRequest ServerEnvironment :=
    .perform 0 { now := 1 }
  let cancel : PoolAction ServerChoice CancellationRequest ServerEnvironment :=
    .perform 1 { now := 1 }
  [.start 0 (.run oneTaskParams), .start 1 (.cancel ⟨⟨"device", "tenant", none⟩, "agent", 1⟩),
    worker, worker, cancel, .perform 1 { now := 1, fault := some fault },
    cancel, cancel, cancel, worker, worker]

theorem isSome_cancelledRun : (((cancellationServer plainOptions).restrict isHarmless).run
      (initial oneTaskServer) (cancelRun .afterEffect)).isSome = true := by
  decide

theorem isSome_strandedRun : ((cancellationServer plainOptions).run
      (initial oneTaskServer) (cancelRun .beforeEffect)).isSome = true := by
  decide

def cancelledPool : TaskPool :=
  (((cancellationServer plainOptions).restrict isHarmless).run
    (initial oneTaskServer) (cancelRun .afterEffect)).get isSome_cancelledRun

def strandedPool : TaskPool :=
  ((cancellationServer plainOptions).run
    (initial oneTaskServer) (cancelRun .beforeEffect)).get isSome_strandedRun

theorem neverStranded_cancelledPool : ((cancelledPool.threads 0).map Program.isDone = some true ∧
      (cancelledPool.shared.tables.getTask 1).map CloudTask.status = some .cancelled) ∧
    NeverStranded cancelledPool := by
  have started : ((cancellationServer plainOptions).restrict isHarmless).Reachable
      CancellationStart (initial oneTaskServer) :=
    .initial cancellationStart_oneTaskServer
  exact ⟨by decide,
    neverStranded_of_isHarmless plainOptions (started.get_run _ isSome_cancelledRun)⟩

/-- A worker can return from a claimed task and leave it running. -/
theorem not_neverStranded : ¬ ∀ (options : TaskServerOptions) (pool : TaskPool),
      (cancellationServer options).Reachable CancellationStart pool → NeverStranded pool := by
  intro claim
  have started : (cancellationServer plainOptions).Reachable CancellationStart
      (initial oneTaskServer) := .initial cancellationStart_oneTaskServer
  have never := claim plainOptions strandedPool (started.get_run _ isSome_strandedRun)
  have running : (strandedPool.shared.tables.getTask 1).map CloudTask.status =
      some .running := by decide
  have history : strandedPool.shared.history = [(0, .claimed 1)] := rfl
  have claimed : strandedPool.shared.Did 0 (.claimed 1) := by simp [Did, history]
  have returned : (strandedPool.threads 0).map Program.isDone = some true := by decide
  obtain ⟨program, isThread, done⟩ := Option.map_eq_some_iff.mp returned
  obtain ⟨task, stored, ended⟩ := never 0 program 1 isThread done claimed
  rw [stored, Option.map_some, Option.some.injEq] at running
  simp [running] at ended

end LongHub
