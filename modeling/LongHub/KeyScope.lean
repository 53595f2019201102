import LongHub.ExecutorScope

/-!
# Tasks with one idempotency key

As long as no two owners of a tenant use the same key within the time to live of a cache entry,
every delivered task is answered by a run of its own.
-/

namespace LongHub

open TaskDispatcher TaskTables
namespace TaskDispatcher

variable {options : ExecutorServerOptions} {state next : TaskDispatcher}

structure ScopeGuaranteed (options : ExecutorServerOptions) (state : TaskDispatcher) : Prop where
  served : state.AllServed
  /-- The next delivery is served as long as it does not share its key, and no
  longer. -/
  exactly : ∀ index body now next, state.Accommodated options (.deliver index body now) →
    state.step options (.deliver index body now) = some next →
    (next.AllServed ↔ state.Unshared options (.deliver index body now))

/-- As long as no two owners of a tenant share a key, every delivered task is
answered by a run of its own. -/
theorem scopeGuaranteed (run : Run options state) : state.ScopeGuaranteed options where
  served := run.consistent.served
  exactly _ _ _ _ accommodated stepTo := run.consistent.allServed_iff accommodated stepTo

/-- The property that the tasks of different owners are served although they
have the same key. -/
def KeyScopeLaw : Prop :=
  ∀ (options : ExecutorServerOptions) (state : TaskDispatcher),
    GuardedRun (step options) (fun state => state.Accommodated options) initial
      state →
    ∀ (first second : Nat) (one other : TaskDispatch) (oneAt otherAt : Instant),
      state.dispatches[first]? = some one → state.dispatches[second]? = some other →
      one.taskId ≠ other.taskId → one.owner ≠ other.owner →
      one.idempotencyKey = other.idempotencyKey →
      one.deliveredAt = some oneAt → other.deliveredAt = some otherAt →
      oneAt ≤ otherAt → otherAt < oneAt + options.idempotencyTtlMs →
      state.Served first one oneAt ∧ state.Served second other otherAt

variable {now : Instant} {call : NormalizedCloudTaskCall} {credential : String}
  {claims : ExecutorCredentialClaims}

theorem step_create {input : JsonValue} {owner : CloudTaskOwner}
    {requestFingerprint : Option String} {fingerprint : String}
    (normalized : normalizeCloudTaskRequestFingerprint requestFingerprint = .ok fingerprint)
    (free : state.tables.idempotency.get? (ownerKey call.idempotencyKey owner) = none) :
    state.step options (.create now call input owner requestFingerprint) = some { state with
        tables := state.tables.insertTask now (ownerKey call.idempotencyKey owner)
          fingerprint (state.tables.newTask now "skill.execute" input owner) } := by
  have created : state.tables.createTask now call.idempotencyKey "skill.execute" input owner
      requestFingerprint = .ok ((state.tables.newTask now "skill.execute" input owner, false),
        state.tables.insertTask now (ownerKey call.idempotencyKey owner) fingerprint
          (state.tables.newTask now "skill.execute" input owner)) := by
    simp [createTask, normalized, findTaskByIdempotency, free, bind, Except.bind, pure, Except.pure]
  simp only [step, created]

theorem step_dispatch {taskId : Nat} {head : ExecutorRequestHead} {task : CloudTask}
    {tables : TaskTables} (claimed : state.tables.claimPendingTask now taskId = (some task, tables))
    (accepted : acceptHead options head now = .ok (credential, claims))
    (issued : issuesFor task call tables claims = true) :
    state.step options (.dispatch taskId call head now) =
      some ⟨tables, state.dispatches ++ [⟨task.taskId, task.owner, call.idempotencyKey, none⟩],
        { state.executor with
          exchanges := state.executor.exchanges ++ [.reading credential claims now]
          clock := now }⟩ := by
  simp [step, claimed, accepted, ExecutorServer.step_head accepted, issued, guard, bind, pure]

theorem step_deliver {index : Nat} {body : String} {verifiedAt : Instant} {dispatch : TaskDispatch}
    {request : ExecutorRequestBody} {executor : ExecutorServer}
    (dispatched : state.dispatches[index]? = some dispatch)
    (found : state.executor.exchanges[index]? = some (.reading credential claims verifiedAt))
    (accepted : acceptBody options claims body = .ok request)
    (handled : state.executor.step options (.body index body now) = some executor) :
    state.step options (.deliver index body now) = some { state with
      executor
      dispatches := state.dispatches.set index { dispatch with deliveredAt := some now } } := by
  simp [step, dispatched, found, accepted, handled, bind]

def exampleOwner (deviceId : String) : CloudTaskOwner := ⟨"tenant-a", deviceId, "agent-a"⟩

def exampleCall : NormalizedCloudTaskCall where
  strict := true
  requestId := "request-1"
  skillId := exampleSkill
  skillVersion := "1.0.0"
  agentId := "agent-a"
  toolCallId := "call-1"
  sessionKeyHash := exampleDigest
  idempotencyKey := "idem-1"
  requestedPlanId := none
  input := [("level", .number "3")]
  checkedInput := by decide

def exampleFingerprint : String := "v1:" ++ exampleDigest

def withTask (state : TaskDispatcher) (deviceId : String) : TaskDispatcher :=
  { state with
    tables := state.tables.insertTask 0 (ownerKey "idem-1" (exampleOwner deviceId))
      exampleFingerprint
      (state.tables.newTask 0 "skill.execute" exampleInput (exampleOwner deviceId)) }

/-- The tasks of two devices, both with the key `idem-1`. -/
def exampleCreated : TaskDispatcher := (initial.withTask "device-a").withTask "device-b"

/-- Both tasks are claimed, and the Executor has accepted both heads. -/
def exampleDispatched : TaskDispatcher where
  tables := ((exampleCreated.tables.claimPendingTask 0 1).2.claimPendingTask 0 2).2
  dispatches := [⟨1, exampleOwner "device-a", "idem-1", none⟩,
    ⟨2, exampleOwner "device-b", "idem-1", none⟩]
  executor := { ExecutorServer.initial with
    exchanges := [.reading (exampleToken "1") (exampleClaims "1") 0,
      .reading (exampleToken "2") (exampleClaims "2") 0] }

def exampleDelivered : TaskDispatcher where
  tables := exampleDispatched.tables
  dispatches := [⟨1, exampleOwner "device-a", "idem-1", some 1⟩,
    ⟨2, exampleOwner "device-b", "idem-1", none⟩]
  executor := { (ExecutorServer.execute exampleOptions exampleDispatched.executor
      (exampleToken "1") (exampleClaims "1") (exampleRequest "1") 1).2 with
    exchanges := [.awaiting (.run 0), .reading (exampleToken "2") (exampleClaims "2") 0]
    clock := 1 }

def exampleCreate (deviceId : String) : DispatchAction :=
  .create 0 exampleCall exampleInput (exampleOwner deviceId) (some exampleFingerprint)

def exampleDispatch (taskId : Nat) (digit : String) : DispatchAction :=
  .dispatch taskId exampleCall (executeHead "idem-1" (exampleToken digit)) 0

theorem exampleRun_created : Run exampleOptions exampleCreated := by
  have normalized : normalizeCloudTaskRequestFingerprint (some exampleFingerprint) =
      .ok exampleFingerprint := by
    have valid : isCloudTaskRequestFingerprint exampleFingerprint = true := by decide
    simp [normalizeCloudTaskRequestFingerprint, valid]
  have first : initial.step exampleOptions (exampleCreate "device-a") =
      some (initial.withTask "device-a") := step_create normalized rfl
  have second : (initial.withTask "device-a").step exampleOptions (exampleCreate "device-b") =
      some exampleCreated := step_create normalized (by decide)
  have one : Run exampleOptions (initial.withTask "device-a") :=
    GuardedRun.refl.tail (exampleCreate "device-a") ⟨trivial, trivial⟩ first
  exact one.tail (exampleCreate "device-b") ⟨trivial, trivial⟩ second

def exampleTask (state : TaskDispatcher) (deviceId : String) : CloudTask :=
  (state.tables.newTask 0 "skill.execute" exampleInput (exampleOwner deviceId)).withStatus 0
    .running {}

theorem exampleRun_dispatched : Run exampleOptions exampleDispatched := by
  have firstIssued : issuesFor (exampleTask initial "device-a") exampleCall
      (exampleCreated.tables.claimPendingTask 0 1).2 (exampleClaims "1") = true := by
    decide
  have secondIssued : issuesFor (exampleTask (initial.withTask "device-a") "device-b") exampleCall
      exampleDispatched.tables (exampleClaims "2") = true := by
    decide
  have first : exampleCreated.step exampleOptions (exampleDispatch 1 "1") = some
      { tables := (exampleCreated.tables.claimPendingTask 0 1).2
        dispatches := [⟨1, exampleOwner "device-a", "idem-1", none⟩]
        executor := { ExecutorServer.initial with
          exchanges := [.reading (exampleToken "1") (exampleClaims "1") 0] } } :=
    step_dispatch rfl (acceptHead_example (.inl rfl) le_rfl (by decide)) firstIssued
  have one := exampleRun_created.tail (exampleDispatch 1 "1") ⟨le_rfl, trivial⟩ first
  exact one.tail (exampleDispatch 2 "2") ⟨le_rfl, trivial⟩
    (step_dispatch rfl (acceptHead_example (.inr rfl) le_rfl (by decide)) secondIssued)

theorem exampleRun_delivered : Run exampleOptions exampleDelivered := by
  have executorStep : exampleDispatched.executor.step exampleOptions (.body 0 (exampleBody "1") 1) =
      some exampleDelivered.executor := by
    have small : (exampleBody "1").utf8ByteSize ≤ 1048576 := by decide +kernel
    rw [ExecutorServer.step_body (by rfl : exampleDispatched.executor.exchanges[0]? =
      some (.reading (exampleToken "1") (exampleClaims "1") 0)) (by decide) small,
      ExecutorServer.handleBody_eq_execute (acceptBody_example (.inl rfl)) (by rfl)]
    rfl
  have dispatched : exampleDispatched.dispatches[0]? =
      some ⟨1, exampleOwner "device-a", "idem-1", none⟩ := rfl
  have stepTo : exampleDispatched.step exampleOptions (.deliver 0 (exampleBody "1") 1) =
      some exampleDelivered :=
    step_deliver dispatched rfl (acceptBody_example (.inl rfl)) executorStep
  have accommodated : exampleDispatched.Accommodated exampleOptions
      (.deliver 0 (exampleBody "1") 1) := by
    refine ⟨by decide, by decide, fun credential claims verifiedAt found => ?_⟩
    cases found
    decide
  have unshared : exampleDispatched.Unshared exampleOptions (.deliver 0 (exampleBody "1") 1) := by
    intro dispatch _ other mem _ _ _ deliveredAt delivered
    simp only [exampleDispatched, List.mem_cons, List.not_mem_nil, or_false] at mem
    rcases mem with rfl | rfl
    · cases delivered
    · cases delivered
  exact exampleRun_dispatched.tail (.deliver 0 (exampleBody "1") 1) ⟨accommodated, unshared⟩ stepTo

theorem scopeGuaranteed_example : exampleDelivered.ScopeGuaranteed exampleOptions :=
  scopeGuaranteed exampleRun_delivered

/-- Two devices of a tenant use one key, and the second task is refused. -/
theorem not_keyScopeLaw : ¬ KeyScopeLaw := by
  intro law
  have dispatched : exampleDelivered.dispatches[1]? =
      some ⟨2, exampleOwner "device-b", "idem-1", none⟩ := rfl
  have found : exampleDelivered.executor.exchanges[1]? =
      some (.reading (exampleToken "2") (exampleClaims "2") 0) := rfl
  have small : (exampleBody "2").utf8ByteSize ≤ 1048576 := by decide +kernel
  have accepted := acceptBody_example (.inr rfl : "2" = "1" ∨ "2" = "2")
  have stepTo := step_deliver dispatched found accepted
    (ExecutorServer.step_body found (by decide : (2 : Instant) ≤ 0 + 10000) small)
  have accommodated : exampleDelivered.Accommodated exampleOptions
      (.deliver 1 (exampleBody "2") 2) := by
    refine ⟨by decide, by decide, fun credential claims verifiedAt reading => ?_⟩
    cases reading
    decide
  have shares : Shares exampleOptions ⟨2, exampleOwner "device-b", "idem-1", none⟩
      ⟨1, exampleOwner "device-a", "idem-1", some 1⟩ 2 :=
    ⟨by decide, rfl, rfl, 1, rfl, by decide⟩
  have refused := exampleRun_delivered.consistent.refused_of_shares accommodated.1 dispatched
    List.mem_cons_self shares stepTo
  have run := (exampleRun_delivered.mono fun _ _ allowed => allowed.1).tail
    (.deliver 1 (exampleBody "2") 2) accommodated stepTo
  obtain ⟨-, number, ran, awaiting, -⟩ := law exampleOptions _ run 0 1 _ _ 1 2 rfl rfl (by decide)
    (by decide) rfl rfl rfl (by decide) (by decide)
  rw [refused] at awaiting
  cases awaiting

end TaskDispatcher

end LongHub
