import LongHub.TaskAdmissionSafety

/-!
# What task admission guarantees

For any number of requests to start and to cancel tasks, in every interleaving of their store calls:
an owner key reaches the Executor at most once, a task has at most one reservation, a refused
request leaves no staged task behind, and an admitted input stays.
-/

namespace LongHub

open TaskTables

open TaskServerState TaskServer

section Handler

variable {options : TaskServerOptions} {thread : Nat} {request : PostTaskRequest}
variable {placeholder : CloudTaskAdmissionPlaceholder} {key : String}
variable {state : TaskServerState}

/-- The request has looked its key up and done nothing else. -/
abbrev Searching (thread : Nat) (key : String) : TaskServerState → Prop :=
  Story thread (· = .sought key)

theorem Searching.refusable (searching : Searching thread key state) : Refusable thread state := by
  intro taskId did
  rcases searching _ did with same | plain
  · cases same
  · cases plain

theorem Searching.admitting (searching : Searching thread key state)
    (inv : AdmissionState options state) {taskId : Nat} {task : CloudTask}
    (bound : state.tables.idempotency.get? key = some taskId)
    (stored : state.tables.getTask taskId = some task) :
    Admitting thread key task.taskId placeholder state := by
  obtain ⟨below, sameId⟩ := inv.2.numbered taskId task stored
  rw [sameId]
  refine ⟨searching.mono fun fact same => Or.inl same, below, fun _ _ => bound, ?_⟩
  intro did
  rcases searching _ did with same | plain
  · cases same
  · cases plain

def stagedInput (request : PostTaskRequest) (placeholder : CloudTaskAdmissionPlaceholder)
    (grant : Option CloudSkillAccessGrant) : JsonValue :=
  if grant.isSome && request.device.account.isSome then placeholder.toJson
  else .record request.call.input

theorem isPlaceholder_stagedInput (grant : Option CloudSkillAccessGrant)
    (staged : isCloudTaskAdmissionPlaceholder (stagedInput request placeholder grant) none = true) :
    isCloudTaskAdmissionPlaceholder (stagedInput request placeholder grant)
      (some placeholder) = true := by
  unfold stagedInput at staged ⊢
  split
  · exact isCloudTaskAdmissionPlaceholder_toJson placeholder (Or.inr rfl)
  · next unpaid =>
    rw [if_neg unpaid, request.call.not_isPlaceholder] at staged
    cases staged

theorem keeps_createTask {choice : ServerChoice} {before after : TaskServerState}
    {grant : Option CloudSkillAccessGrant} {answer : Except ServerError (CloudTask × Bool)}
    (inv : AdmissionState options before) (searching : Searching thread
      (ownerKey request.call.idempotencyKey request.owner) before)
    (executed : execute thread choice before (.createTask request.call.idempotencyKey
      "skill.execute" (stagedInput request placeholder grant) request.owner
      (request.requestFingerprint options)) = (answer, after)) :
    AdmissionGuarantee thread before after ∧ AdmissionState options after ∧
      ∀ task existed, answer = .ok (task, existed) →
        Admitting thread (ownerKey request.call.idempotencyKey request.owner)
          task.taskId placeholder after := by
  simp only [execute] at executed
  split at executed
  · cases executed
    obtain ⟨guarantee, -, invAfter⟩ : AdmissionGuarantee thread before _ ∧ _ ∧ _ :=
      keeps_of_plain before inv rfl (.refl _) inv.2.numbered inv.2.indexed (Or.inl rfl)
    exact ⟨guarantee, invAfter, fun _ _ bad => by cases bad⟩
  · next task existed tables created =>
    rcases createTask_cases created with
      ⟨rfl, rfl, taskId, bound, stored⟩ | ⟨rfl, free, rfl, fingerprint, rfl⟩
    · cases executed
      obtain ⟨guarantee, -, invAfter⟩ : AdmissionGuarantee thread before _ ∧ _ ∧ _ :=
        keeps_of_plain before inv rfl (.refl _) inv.2.numbered inv.2.indexed (Or.inl rfl)
      refine ⟨guarantee, invAfter, ?_⟩
      rintro _ _ ⟨⟩
      exact searching.admitting inv bound stored
    · cases executed
      set row := before.tables.newTask choice.now "skill.execute"
        (stagedInput request placeholder grant) request.owner with rowEq
      set tables := before.tables.insertTask choice.now
        (ownerKey request.call.idempotencyKey request.owner) fingerprint row
        with tablesEq
      have stored : tables.getTask row.taskId = some row := by
        simp [tablesEq, getTask, insertTask, emit]
      have bound : tables.idempotency.get? (ownerKey request.call.idempotencyKey request.owner) =
            some row.taskId := by
        simp [tablesEq, insertTask, emit]
      have may : AdmissionInv.MayRecord (IsProduction options) tables before.history thread
          (.created row.taskId) := by
        intro code did limit
        rcases searching _ did with same | plain
        · cases same
        · exact absurd limit (by simpa [isPlainFact] using plain)
      obtain ⟨guarantee, invAfter⟩ := keeps_of_mayRecord
        (({ before with tables } : TaskServerState).recordFact thread (.created row.taskId))
        (.created row.taskId) inv rfl rfl (.insertTask inv.2.numbered free)
        inv.2.numbered.insertTask rfl may
      refine ⟨guarantee, invAfter, ?_⟩
      rintro _ _ ⟨⟩
      refine ⟨?_, le_rfl, fun _ _ => bound, ?_⟩
      · intro fact did
        rcases did_recordFact.mp did with old | ⟨-, rfl⟩
        · exact (searching _ old).imp_left Or.inl
        · exact Or.inl (Or.inr (Or.inl rfl))
      · intro _ found foundStored staged
        obtain rfl := Option.some.inj (stored.symm.trans foundStored)
        simp only [CloudTask.isStaged, Bool.and_eq_true] at staged
        exact isPlaceholder_stagedInput grant staged.2

theorem lasting_searching : Lasting thread (Searching thread key) :=
  lasting_story _

def IsPaid (options : TaskServerOptions) (request : PostTaskRequest)
    (grant : Option CloudSkillAccessGrant) : Prop :=
  IsProduction options → grant.isSome ∧ request.device.account.isSome

theorem safe_stageTask_none {grant : Option CloudSkillAccessGrant}
    (paid : IsPaid options request grant)
    (searching : Searching thread (ownerKey request.call.idempotencyKey request.owner) state) :
    SafeAdmission options thread (stageTask options request placeholder none grant) state := by
  refine Machine.safe_call lasting_searching.stable searching ?_
  intro before choice answer after inv searching ran
  obtain ⟨guarantee, invAfter, admitting⟩ :=
    keeps_createTask inv searching (perform_admission inv ran)
  refine ⟨guarantee, invAfter, ?_⟩
  match answer with
  | .error error => exact safe_ordinaryCalls trivial
  | .ok (task, existed) =>
    change SafeAdmission options thread (if (existed && !isStagedFor placeholder task) = true
      then _ else _) after
    split
    · exact safe_ordinaryCalls (ordinaryCalls_sendTask _ _)
    · exact safe_admitTask (admitting task existed rfl) paid

theorem safe_gate {gate : ServerCall} {next : gate.Answer → ServerProgram Unit}
    {extra : TaskServerState → Prop} (ordinary : isOrdinary gate = true)
    (lasting : Lasting thread extra) (holds : Searching thread key state ∧ extra state)
    (continues : ∀ value after, Searching thread key after ∧ extra after →
      SafeAdmission options thread (next value) after) :
    SafeAdmission options thread (query gate >>= next) state := by
  refine safe_ordinary ordinary (lasting_searching.and lasting) holds ?_
  intro _ _ answer after _ _ _ _ holds
  cases answer with
  | error error => exact safe_ordinaryCalls trivial
  | ok value => exact continues value after holds

section Gates

variable {extra : TaskServerState → Prop} {cloudPlanIds : List String}

variable {rest : Option CloudSkillAccessGrant → ServerProgram Unit}

theorem safe_requireGrant {found : Option CloudSkillAccessGrant} (lasting : Lasting thread extra)
    (holds : Searching thread key state ∧ extra state)
    (continues : ∀ grant after, Searching thread key after ∧ extra after →
      SafeAdmission options thread (rest (some grant)) after) :
    SafeAdmission options thread (requireGrant request found rest) state := by
  cases found with
  | none => exact safe_sendError holds.1.refusable
  | some grant =>
    unfold requireGrant
    dsimp only
    split
    · exact safe_sendError holds.1.refusable
    split
    · exact safe_sendError holds.1.refusable
    refine safe_gate rfl lasting holds fun check last holds => ?_
    cases check with
    | refused problem => exact safe_sendError holds.1.refusable
    | ok => exact continues grant last holds

theorem safe_requireAccess (lasting : Lasting thread extra)
    (holds : Searching thread key state ∧ extra state)
    (planned : IsProduction options → cloudPlanIds.isEmpty = false)
    (continues : ∀ grant after, IsPaid options request grant →
      Searching thread key after ∧ extra after → SafeAdmission options thread (rest grant) after) :
    SafeAdmission options thread (requireAccess options request cloudPlanIds rest) state := by
  unfold requireAccess
  split
  · next free =>
    split
    · exact safe_sendError holds.1.refusable
    · refine continues none state (fun production => ?_) holds
      have hasPlans := planned production
      rw [IsProduction] at production
      simp [hasPlans, production] at free
  · cases account : request.device.account with
    | none => exact safe_sendError holds.1.refusable
    | some userId =>
      have paid (grant : CloudSkillAccessGrant) : IsPaid options request (some grant) :=
        fun _ => ⟨rfl, by simp [account]⟩
      refine safe_gate rfl lasting holds fun active after holds => ?_
      split
      · exact safe_sendError holds.1.refusable
      · dsimp only
        split
        · exact safe_requireGrant lasting holds fun grant last =>
            continues (some grant) last (paid grant)
        · refine safe_gate rfl lasting holds fun found last holds => ?_
          exact safe_requireGrant lasting holds fun grant final =>
            continues (some grant) final (paid grant)

theorem safe_requireBinding {rest : ServerProgram Unit} (lasting : Lasting thread extra)
    (holds : Searching thread key state ∧ extra state)
    (continues : ∀ after, Searching thread key after ∧ extra after →
      SafeAdmission options thread rest after) :
    SafeAdmission options thread (requireBinding options request cloudPlanIds rest) state := by
  unfold requireBinding
  split
  · refine safe_ordinary rfl (lasting_searching.and lasting) holds ?_
    intro _ _ answer after _ _ _ _ holds
    cases answer with
    | error error => exact safe_sendError holds.1.refusable
    | ok binding =>
      cases binding with
      | true => exact continues after holds
      | false => exact safe_sendError holds.1.refusable
  · exact continues state holds

theorem safe_passGates (lasting : Lasting thread extra)
    (holds : Searching thread key state ∧ extra state)
    (continues : ∀ grant after, IsPaid options request grant →
      Searching thread key after ∧ extra after → SafeAdmission options thread (rest grant) after) :
    SafeAdmission options thread (passGates options request rest) state := by
  refine safe_gate rfl lasting holds fun plans after holds => ?_
  refine safe_gate rfl lasting holds fun allowed after holds => ?_
  split
  · exact safe_ordinaryCalls trivial
  split
  · split
    · exact safe_sendError holds.1.refusable
    · exact safe_sendError holds.1.refusable
  · next planned =>
    refine safe_requireBinding lasting holds fun last holds => ?_
    refine safe_requireAccess lasting holds (fun production => ?_) continues
    rw [IsProduction] at production
    simpa [production] using planned

end Gates

abbrev Unstarted (thread : Nat) : TaskServerState → Prop := Story thread fun _ => False

theorem safe_postTaskBody (unstarted : Unstarted thread state) :
    SafeAdmission options thread (postTaskBody options request) state := by
  unfold postTaskBody
  split
  · exact safe_ordinaryCalls trivial
  · next placeholder _ =>
    refine Machine.safe_call (lasting_story _).stable unstarted ?_
    intro before choice answer after inv unstarted ran
    have executed := perform_admission inv ran
    set key := ownerKey request.call.idempotencyKey request.owner with keyEq
    obtain ⟨answered, rfl⟩ := Prod.mk.inj executed
    obtain ⟨guarantee, invAfter⟩ := keeps_of_mayRecord (before.recordFact thread (.sought key))
      (.sought key) inv rfl rfl (.refl _) inv.2.numbered rfl fun taskId did => by
        rcases unstarted _ did with bad | plain
        · exact bad.elim
        · cases plain
    refine ⟨guarantee, invAfter, ?_⟩
    have searching : Searching thread key (before.recordFact thread (.sought key)) := by
      intro fact did
      rcases did_recordFact.mp did with old | ⟨-, same⟩
      · exact (unstarted fact old).imp_left False.elim
      · exact Or.inl same
    cases found : before.tables.findTaskByIdempotency request.call.idempotencyKey request.owner with
    | error error =>
      rw [found] at answered
      subst answered
      exact safe_ordinaryCalls trivial
    | ok binding =>
      rw [found] at answered
      subst answered
      rcases findTaskByIdempotency_eq_ok_iff.mp found with
        ⟨-, rfl⟩ | ⟨taskId, task, bound, stored, rfl⟩
      · refine safe_passGates (lasting_const True) ⟨searching, trivial⟩
          fun grant last paid holds => ?_
        exact safe_stageTask_none paid holds.1
      · have admitting : Admitting thread key task.taskId placeholder
            (before.recordFact thread (.sought key)) :=
          searching.admitting invAfter bound stored
        change SafeAdmission options thread (if _ then _ else if _ then _ else _) _
        split
        · exact safe_sendError searching.refusable
        split
        · exact safe_ordinaryCalls (ordinaryCalls_sendTask _ _)
        · refine safe_passGates (lasting_admitting key task.taskId placeholder)
            ⟨searching, admitting⟩ fun grant last paid holds => ?_
          exact safe_admitTask holds.2 paid

theorem safe_postTask (inv : AdmissionState options state) (unstarted : Unstarted thread state) :
    SafeAdmission options thread (postTask options request) state := by
  refine Machine.safe_tryCatch inv (safe_postTaskBody unstarted) ?_ fun _ _ _ _ => trivial
  intro error last _ _
  split <;> exact safe_ordinaryCalls (ordinaryCalls_sendError rfl)

end Handler

structure AdmissionStart (state : TaskServerState) : Prop where
  tables : state.tables = .empty
  reservations : state.skills.reservations = .empty
  faults : state.faults = 0
  history : state.history = []

variable {options : TaskServerOptions}

theorem AdmissionStart.admissionState {state : TaskServerState} (start : AdmissionStart state) :
    AdmissionState options state ∧ ∀ thread, Unstarted thread state := by
  refine ⟨⟨start.faults, ?_⟩, fun thread fact did => ?_⟩
  · rw [start.tables, start.history]
    apply AdmissionInv.empty
    constructor <;> exact fun found => by simp [start.reservations] at found
  · simp [Did, start.history] at did

theorem admissionState_environment {event : ServerEnvironment} {before after : TaskServerState}
    (inv : AdmissionState options before) (changed : before.environment event = some after) :
    AdmissionState options after := by
  cases event with
  | commerce plans subscriptions subscriptionsByOrder entitlements =>
    cases changed
    exact ⟨inv.1, inv.2.setSkills ⟨inv.2.indexed.rowKey, inv.2.indexed.taskKey,
      inv.2.indexed.fresh⟩⟩
  | timer worker =>
    simp only [TaskServerState.environment] at changed
    split at changed
    · cases changed
      exact ⟨inv.1, inv.2.recordFact trivial⟩
    · cases changed

theorem admissionState_of_reachable {pool : TaskPool}
    (reachable : (admissionServer options).Reachable AdmissionStart pool) :
    AdmissionState options pool.shared := by
  refine (Machine.safe_of_reachable (AdmissionState options) AdmissionGuarantee Unstarted
    (fun _ _ _ => True) (fun _ start => start.admissionState)
    (fun _ => (lasting_story _).stable)
    (fun _ _ _ inv changed => admissionState_environment inv changed) ?_ reachable).1
  intro request thread state inv unstarted
  cases request with
  | post request => exact safe_postTask inv unstarted
  | cancel request => exact safe_ordinaryCalls (ordinaryCalls_cancelTask request)

def ServerFact.isSought (key : String) : ServerFact → Bool
  | .sought other => other == key
  | _ => false

def executionsFor (history : ServerHistory) (key : String) : ServerHistory :=
  history.filter fun entry => entry.2.isExecuted &&
    history.any fun other => other.1 == entry.1 && other.2.isSought key

structure AdmissionGuarantees (production : Prop) (state : TaskServerState) : Prop where
  /-- The Executor is called at most once for an owner key. -/
  executedOnce : ∀ key, (executionsFor state.history key).length ≤ 1
  /-- A task body runs after a reservation for its task. -/
  reservedFirst : production → ReservedFirst state.history
  /-- A task has at most one reservation. -/
  chargedOnce : ∀ taskId : Nat, state.skills.reservations.values.countP
    (·.taskId = generatedId "ct-" taskId) ≤ 1
  /-- A request that was refused for a limit left no staged task of its own. -/
  nothingStaged : ∀ thread code taskId, state.Did thread (.refused code) →
    code ∈ limitCodes → state.Did thread (.created taskId) →
      ∀ task, state.tables.getTask taskId = some task → task.isStaged = false
  /-- An admitted input stays. -/
  inputKept : ∀ thread taskId input, state.Did thread (.admitted taskId input) →
    ∃ task, state.tables.getTask taskId = some task ∧ task.input = input

theorem AdmissionInv.length_executionsFor_le_one {production : Prop} {tables : TaskTables}
    {skills : CloudSkillTables} {history : ServerHistory}
    (inv : AdmissionInv production tables skills history) (key : String) :
    (executionsFor history key).length ≤ 1 := by
  have known {worker : Nat} {fact : ServerFact}
      (mem : (worker, fact) ∈ executionsFor history key) :
      ∃ taskId, (worker, .claimed taskId) ∈ history ∧ fact.isExecuted = true ∧
        tables.idempotency.get? key = some taskId := by
    obtain ⟨stored, test⟩ := List.mem_filter.mp mem
    simp only [Bool.and_eq_true, List.any_eq_true, beq_iff_eq, Prod.exists] at test
    obtain ⟨executed, other, sought, soughtStored, rfl, isSought⟩ := test
    cases fact with
    | executed taskId =>
      have claimed := inv.executedClaimed stored
      refine ⟨taskId, claimed, rfl, ?_⟩
      cases sought with
      | sought found =>
        obtain rfl : found = key := by simpa [ServerFact.isSought] using isSought
        exact inv.soughtKey claimed soughtStored
      | _ => cases isSought
    | _ => cases executed
  rcases empty : executionsFor history key with _ | ⟨⟨worker, fact⟩, rest⟩
  · exact Nat.zero_le 1
  · -- all of them are by the one worker of the task that the key leads to
    have first : (worker, fact) ∈ executionsFor history key := by simp [empty]
    obtain ⟨taskId, claimed, -, bound⟩ := known first
    have sameWorker : ∀ entry ∈ executionsFor history key,
        (entry.1 == worker && entry.2.isExecuted) = true := by
      rintro ⟨other, execution⟩ mem
      obtain ⟨otherTask, otherClaimed, executed, otherBound⟩ := known mem
      obtain rfl : taskId = otherTask := Option.some.inj (bound.symm.trans otherBound)
      simp [inv.oneWorker otherClaimed claimed, executed]
    rw [← empty, ← List.countP_eq_length.mpr sameWorker]
    exact (List.filter_sublist.countP_le).trans (inv.executedOnce worker)

/-- In every interleaving of the requests and the workers the admission keeps its guarantees. -/
theorem admissionGuarantees_of_reachable (options : TaskServerOptions) {pool : TaskPool}
    (reachable : (admissionServer options).Reachable AdmissionStart pool) :
    AdmissionGuarantees (options.allowDevelopmentTasks = false) pool.shared := by
  obtain ⟨-, inv⟩ := admissionState_of_reachable reachable
  constructor
  case executedOnce => exact inv.length_executionsFor_le_one
  case reservedFirst => exact inv.reservedFirst
  case chargedOnce => exact fun taskId => inv.indexed.countP_le_one _
  case nothingStaged =>
    intro thread code taskId refused limit created
    exact (inv.refusedSettled refused limit created).2
  case inputKept =>
    intro thread taskId input admitted
    obtain ⟨task, stored, same, -⟩ := inv.admittedInput admitted
    exact ⟨task, stored, same⟩

def emptyTaskServer : TaskServerState where
  tables := .empty
  skills := .empty
  controllers := .empty
  aborted := []
  armed := []
  faults := 0
  history := []

theorem admissionStart_emptyTaskServer : AdmissionStart emptyTaskServer :=
  ⟨rfl, rfl, rfl, rfl⟩

def fixedDigest : String := "0000000000000000000000000000000000000000000000000000000000000000"

def fixedOptions (allowDevelopmentTasks : Bool) : TaskServerOptions :=
  ⟨allowDevelopmentTasks, fun _ => fixedDigest, fun _ => "v1:" ++ fixedDigest⟩

def strictRequest : PostTaskRequest where
  device := ⟨"device", "tenant", some "user"⟩
  call :=
    { strict := true, requestId := "request", skillId := "a.skill.b", skillVersion := "1"
      agentId := "agent", toolCallId := "call", sessionKeyHash := "", idempotencyKey := "key"
      requestedPlanId := none, input := [], checkedInput := rfl }

def developmentRun : List (PoolAction ServerChoice AdmissionRequest ServerEnvironment) :=
  .start 0 (.post strictRequest) :: List.replicate 6 (.perform 0 { now := 1 })

/-- One plan, and a user who may use its Skill for a while. -/
def subscribe : ServerEnvironment :=
  .commerce (.set .empty "plan" ⟨"plan", "plan", "", ["a.skill.b"], 0, 0, 1, 1, 1, .listed, 0⟩)
    (.set .empty "subscription" ⟨"subscription", "user", "tenant", "plan", .active, .monthly,
      0, 1000, none, none, "order", 0⟩)
    .empty
    (.set .empty "entitlement" ⟨"entitlement", "subscription", "tenant", "user", "a.skill.b",
      "plan", .active, 1000, 0⟩)

def productionRun : List (PoolAction ServerChoice AdmissionRequest ServerEnvironment) :=
  .environment subscribe :: .start 0 (.post strictRequest) ::
    List.replicate 13 (.perform 0 { now := 1 })

theorem isSome_developmentRun :
    ((admissionServer (fixedOptions true)).run (Machine.initial emptyTaskServer)
      developmentRun).isSome = true := by
  decide

theorem isSome_productionRun :
    ((admissionServer (fixedOptions false)).run (Machine.initial emptyTaskServer)
      productionRun).isSome = true := by
  decide

def developmentPool : TaskPool :=
  ((admissionServer (fixedOptions true)).run (Machine.initial emptyTaskServer)
    developmentRun).get isSome_developmentRun

def productionPool : TaskPool :=
  ((admissionServer (fixedOptions false)).run (Machine.initial emptyTaskServer)
    productionRun).get isSome_productionRun

theorem admissionGuarantees_productionPool :
    productionPool.shared.history = [(0, .sought "tenant\x00device\x00agent\x00key"),
      (0, .created 1), (0, .reserved "ct-1"), (0, .admitted 1 (.record [])), (0, .claimed 1)] ∧
    AdmissionGuarantees ((fixedOptions false).allowDevelopmentTasks = false)
      productionPool.shared := by
  have started : (admissionServer (fixedOptions false)).Reachable AdmissionStart
      (Machine.initial emptyTaskServer) := .initial admissionStart_emptyTaskServer
  exact ⟨rfl, admissionGuarantees_of_reachable (fixedOptions false)
    (started.get_run productionRun isSome_productionRun)⟩

/-- A development server runs a task body without a reservation. -/
theorem not_admissionGuarantees : ¬ ∀ (options : TaskServerOptions) (pool : TaskPool),
      (admissionServer options).Reachable AdmissionStart pool →
        AdmissionGuarantees True pool.shared := by
  intro claim
  have started : (admissionServer (fixedOptions true)).Reachable AdmissionStart
      (Machine.initial emptyTaskServer) := .initial admissionStart_emptyTaskServer
  have guarantees := claim (fixedOptions true) developmentPool
    (started.get_run developmentRun isSome_developmentRun)
  have history : developmentPool.shared.history =
      [(0, .sought "tenant\x00device\x00agent\x00key"), (0, .created 1)] ++
        (0, .claimed 1) :: [] := rfl
  obtain ⟨thread, reserved⟩ := guarantees.reservedFirst trivial _ _ _ _ history
  simp at reserved

end LongHub
