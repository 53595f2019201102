import LongHub.ExecutorRuns
import LongHub.TaskDispatch
import LongHub.TaskRowGrowth

/-!
# The scope of an idempotency key

Cloud scopes a key by tenant, device and agent, and the Executor by tenant.
-/

namespace LongHub

open List Option TaskTables

/-- Texts that are joined with NUL are told apart when the first has none. -/
theorem append_separator_inj {first second firstRest secondRest : String}
    (firstPlain : '\x00' ∉ first.toList) (secondPlain : '\x00' ∉ second.toList)
    (same : first ++ "\x00" ++ firstRest = second ++ "\x00" ++ secondRest) :
    first = second ∧ firstRest = secondRest := by
  have lists := congrArg String.toList same
  have separator : "\x00".toList = ['\x00'] := by decide
  simp only [String.toList_append, separator, append_assoc, singleton_append] at lists
  have parts := congrArg (splitOn '\x00') lists
  rw [splitOn_append_cons_self_of_not_mem firstPlain,
    splitOn_append_cons_self_of_not_mem secondPlain] at parts
  have sameFirst : first = second := String.toList_injective (List.cons.inj parts).1
  subst sameFirst
  have rest := append_cancel_left lists
  exact ⟨rfl, String.toList_injective (List.cons.inj rest).2⟩

theorem plain_of_validText {text : String} {pattern : String → Bool}
    (valid : validText text pattern = true) : '\x00' ∉ text.toList := by
  intro mem
  have control : hasControl text = true := List.any_eq_true.mpr ⟨'\x00', mem, by decide⟩
  simp [validText, control] at valid

variable {claims : ExecutorCredentialClaims}

theorem parseClaims_plain {node : NodePlatform} {value : JsonValue}
    (parsed : parseClaims node value = some claims) :
    '\x00' ∉ claims.taskId.toList ∧ '\x00' ∉ claims.tenantId.toList := by
  cases value with
  | record fields =>
    iterate 12 obtain ⟨_, -, parsed⟩ := bind_eq_some_iff.mp parsed
    obtain ⟨_, valid, parsed⟩ := bind_eq_some_iff.mp parsed
    obtain ⟨_, -, same⟩ := bind_eq_some_iff.mp parsed
    simp only [guard_eq_some', Bool.and_eq_true] at valid
    obtain ⟨⟨⟨⟨⟨-, task⟩, tenant⟩, -⟩, -⟩, -⟩ := valid
    cases same
    exact ⟨plain_of_validText task, plain_of_validText tenant⟩
  | _ => cases parsed

theorem verifyCredential_plain {options : ExecutorServerOptions} {token : String} {now : Instant}
    (verified : verifyCredential options token now = .ok claims) :
    '\x00' ∉ claims.taskId.toList ∧ '\x00' ∉ claims.tenantId.toList := by
  have authentic := (ExecutorServer.verifyCredential_eq_ok verified).1
  simp only [authenticClaims, Except.bind_eq_ok, Except.ensure_eq_ok,
    Except.require_eq_ok, Except.pure_eq_ok] at authentic
  obtain ⟨-, -, -, -, -, -, value, -, found, claimed, -, -, -, -, -, -, rfl⟩ := authentic
  exact parseClaims_plain claimed

def TaskDispatch.cacheKey (dispatch : TaskDispatch) : String :=
  dispatch.owner.tenantId ++ "\x00" ++ dispatch.idempotencyKey

structure TaskDispatch.Left (options : ExecutorServerOptions) (dispatch : TaskDispatch)
    (key : String) (entry : CachedResponse) : Prop where
  sameKey : key = dispatch.cacheKey
  expires : ∃ deliveredAt, dispatch.deliveredAt = some deliveredAt ∧
    entry.expiresAt = deliveredAt + options.idempotencyTtlMs
  fingerprint : ∃ rest, entry.fingerprint = generatedId "ct-" dispatch.taskId ++ "\x00" ++ rest

namespace TaskDispatcher

variable {options : ExecutorServerOptions} {state next : TaskDispatcher}

structure Awaits (dispatch : TaskDispatch) (claims : ExecutorCredentialClaims) : Prop where
  undelivered : dispatch.deliveredAt = none
  task : claims.taskId = generatedId "ct-" dispatch.taskId
  tenant : claims.tenantId = dispatch.owner.tenantId
  key : claims.idempotencyKey = dispatch.idempotencyKey

structure Consistent (options : ExecutorServerOptions) (state : TaskDispatcher) : Prop where
  numbered : state.tables.RowsNumbered
  executor : state.executor.Consistent options
  aligned : state.dispatches.length = state.executor.exchanges.length
  /-- A dispatched task is no longer pending, and its key leads to it. -/
  claimed : ∀ dispatch ∈ state.dispatches,
    (∃ task, state.tables.getTask dispatch.taskId = some task ∧ task.status ≠ .pending) ∧
    state.tables.idempotency.get?
      (ownerKey dispatch.idempotencyKey dispatch.owner) = some dispatch.taskId
  distinct : state.dispatches.Pairwise fun first second => first.taskId ≠ second.taskId
  plain : ∀ dispatch ∈ state.dispatches, '\x00' ∉ (generatedId "ct-" dispatch.taskId).toList ∧
      '\x00' ∉ dispatch.owner.tenantId.toList
  reading : ∀ (index : Nat) (credential : String) (claims : ExecutorCredentialClaims)
    (verifiedAt : Instant),
    state.executor.exchanges[index]? = some (.reading credential claims verifiedAt) →
      ∃ dispatch, state.dispatches[index]? = some dispatch ∧ Awaits dispatch claims
  cached : ∀ key entry, state.executor.idempotency.get? key = some entry →
    ∃ (index : Nat) (dispatch : TaskDispatch), state.dispatches[index]? = some dispatch ∧
      dispatch.Left options key entry
  served : state.AllServed

theorem consistent_initial : initial.Consistent options where
  numbered := rowsNumbered_empty
  executor := ExecutorServer.consistent_initial
  aligned := rfl
  claimed := by simp [initial]
  distinct := .nil
  plain := by simp [initial]
  reading := by simp [initial, ExecutorServer.initial]
  cached := by simp [initial, ExecutorServer.initial]
  served := by simp [initial, AllServed]

variable {tables : TaskTables} {taskId : Nat} {call : NormalizedCloudTaskCall}
  {head : ExecutorRequestHead}

theorem claimed_of_grows {dispatches : List TaskDispatch} {after : TaskTables}
    (numbered : tables.RowsNumbered) (grows : tables.Grows after)
    (claimed : ∀ dispatch ∈ dispatches,
      (∃ task, tables.getTask dispatch.taskId = some task ∧ task.status ≠ .pending) ∧
      tables.idempotency.get?
        (ownerKey dispatch.idempotencyKey dispatch.owner) = some dispatch.taskId) :
    ∀ dispatch ∈ dispatches,
      (∃ task, after.getTask dispatch.taskId = some task ∧ task.status ≠ .pending) ∧
      after.idempotency.get?
        (ownerKey dispatch.idempotencyKey dispatch.owner) = some dispatch.taskId := by
  intro dispatch mem
  obtain ⟨⟨task, stored, started⟩, keyEq⟩ := claimed dispatch mem
  have notStaged := CloudTask.isStaged_of_status started
  obtain ⟨later, storedLater, -, -, status⟩ := grows.kept stored notStaged
  exact ⟨⟨later, storedLater, status started⟩, grows.keyKept numbered stored notStaged keyEq⟩

theorem Consistent.withTables (consistent : state.Consistent options)
    (grows : state.tables.Grows tables) (numbered : tables.RowsNumbered) :
    Consistent options { state with tables } :=
  { consistent with
    numbered
    claimed := claimed_of_grows consistent.numbered grows consistent.claimed }

variable {now : Instant} {index : Nat} {body : String} {other : TaskDispatch}

theorem dispatch_eq_some
    (stepTo : state.step options (.dispatch taskId call head now) = some next) :
    ∃ (task : CloudTask) (tables : TaskTables) (credential : String)
      (claims : ExecutorCredentialClaims),
      state.tables.claimPendingTask now taskId = (some task, tables) ∧
      acceptHead options head now = .ok (credential, claims) ∧
      issuesFor task call tables claims = true ∧
      next = ⟨tables, state.dispatches ++ [⟨task.taskId, task.owner, call.idempotencyKey, none⟩],
        { state.executor with
          exchanges := state.executor.exchanges ++ [.reading credential claims now]
          clock := now }⟩ := by
  simp only [step] at stepTo
  cases claimed : state.tables.claimPendingTask now taskId with
  | mk found tables =>
    rw [claimed] at stepTo
    cases found with
    | none => cases stepTo
    | some task =>
      cases accepted : acceptHead options head now with
      | error problem =>
        rw [accepted] at stepTo
        cases stepTo
      | ok both =>
        obtain ⟨credential, claims⟩ := both
        simp only [accepted, ExecutorServer.step_head accepted, bind,
          bind_eq_some_iff, guard_eq_some', Option.some.injEq] at stepTo
        obtain ⟨-, issued, _, rfl, rfl⟩ := stepTo
        exact ⟨task, tables, credential, claims, rfl, rfl, issued, rfl⟩

theorem Consistent.dispatch (consistent : state.Consistent options)
    (later : state.executor.clock ≤ now)
    (stepTo : state.step options (.dispatch taskId call head now) = some next) :
    next.Consistent options := by
  obtain ⟨task, tables, credential, claims, claiming, accepted, issued, rfl⟩ :=
    dispatch_eq_some stepTo
  obtain ⟨grows, numbered⟩ := TaskTables.Grows.claimPendingTask consistent.numbered claiming
  rcases claimPendingTask_cases claiming with ⟨none, -⟩ | ⟨pendingTask, stored, pending, some, rfl⟩
  · cases none
  cases some
  obtain ⟨-, sameId⟩ := consistent.numbered taskId pendingTask stored
  have monotone : state.executor.ClockMonotone (.head head now) := later
  have verified := acceptHead_eq_ok accepted
  obtain ⟨taskPlain, tenantPlain⟩ := verifyCredential_plain verified
  simp only [issuesFor, Bool.and_eq_true, decide_eq_true_eq] at issued
  obtain ⟨⟨⟨⟨keyEq, claimsTask⟩, claimsTenant⟩, -⟩, claimsKey⟩ := issued
  exact
    { numbered
      executor := consistent.executor.step monotone (ExecutorServer.step_head accepted)
      aligned := by
        simp only [length_append, length_singleton, consistent.aligned]
      claimed := by
        intro dispatch mem
        rcases mem_append.mp mem with earlier | new
        · exact claimed_of_grows consistent.numbered grows consistent.claimed dispatch earlier
        · rw [mem_singleton.mp new]
          refine ⟨⟨pendingTask.withStatus now .running {}, ?_, by simp⟩, keyEq⟩
          simp [getTask, emit, CloudTask.withStatus, sameId]
      distinct := by
        apply pairwise_append.mpr
        refine ⟨consistent.distinct, pairwise_singleton _ _, ?_⟩
        intro dispatch earlier new newMember same
        rw [mem_singleton.mp newMember] at same
        obtain ⟨⟨other, otherStored, started⟩, -⟩ := consistent.claimed dispatch earlier
        have sameTask : dispatch.taskId = taskId := same.trans sameId
        rw [sameTask, getTask, stored] at otherStored
        cases otherStored
        exact started pending
      plain := by
        intro dispatch mem
        rcases mem_append.mp mem with earlier | new
        · exact consistent.plain dispatch earlier
        · rw [mem_singleton.mp new]
          rw [claimsTask] at taskPlain
          rw [claimsTenant] at tenantPlain
          exact ⟨taskPlain, tenantPlain⟩
      reading := by
        intro index other otherClaims verifiedAt found
        rcases List.getElem?_append_singleton_eq_some found with known | ⟨last, new⟩
        · obtain ⟨dispatch, dispatched, awaits⟩ := consistent.reading index _ _ _ known
          have bound := (List.getElem?_eq_some_iff.mp dispatched).1
          exact ⟨dispatch, by rw [getElem?_append_left bound, dispatched], awaits⟩
        · cases new
          rw [last, ← consistent.aligned]
          exact ⟨_, getElem?_concat_length, rfl, claimsTask, claimsTenant, claimsKey⟩
      cached := by
        intro key entry found
        obtain ⟨index, dispatch, dispatched, left⟩ := consistent.cached key entry found
        have bound := (List.getElem?_eq_some_iff.mp dispatched).1
        exact ⟨index, dispatch, by rw [getElem?_append_left bound, dispatched], left⟩
      served := by
        intro index dispatch deliveredAt dispatched delivered
        rcases List.getElem?_append_singleton_eq_some dispatched with known | ⟨-, new⟩
        · obtain ⟨number, run, awaiting, started⟩ :=
            consistent.served index dispatch deliveredAt known delivered
          have bound := (List.getElem?_eq_some_iff.mp awaiting).1
          exact ⟨number, run, by rw [getElem?_append_left bound, awaiting], started⟩
        · rw [new] at delivered
          cases delivered }

theorem Consistent.lose (consistent : state.Consistent options) {problem : HttpProblem}
    (later : state.executor.clock ≤ now)
    (stepTo : state.step options (.lose index problem now) = some next) :
    next.Consistent options := by
  obtain ⟨executor, failed, rfl⟩ := map_eq_some_iff.mp stepTo
  have monotone : state.executor.ClockMonotone (.bodyFailed index problem now) := later
  have executorConsistent := consistent.executor.step monotone failed
  simp only [ExecutorServer.step] at failed
  split at failed
  case h_2 => cases failed
  next credential claims verifiedAt found =>
  cases failed
  exact
    { consistent with
      executor := executorConsistent
      aligned := by rw [length_set, consistent.aligned]
      reading := by
        intro other otherCredential otherClaims otherAt lookup
        rcases List.getElem?_set_eq_some found lookup with ⟨-, new⟩ | ⟨-, known⟩
        · cases new
        · exact consistent.reading other _ _ _ known
      served := by
        intro other dispatch deliveredAt dispatched delivered
        obtain ⟨number, run, awaiting, started⟩ :=
          consistent.served other dispatch deliveredAt dispatched delivered
        have differ : index ≠ other := by
          rintro rfl
          rw [found] at awaiting
          cases awaiting
        exact ⟨number, run, by rw [getElem?_set_ne differ, awaiting], started⟩ }

theorem requestFingerprint_eq (request : ExecutorRequestBody) :
    ∃ rest, requestFingerprint request = request.taskId ++ "\x00" ++ rest := by
  refine ⟨request.tenantId ++ "\x00" ++ request.skillId ++ "\x00" ++ request.inputDigest, ?_⟩
  simp only [requestFingerprint, String.intercalate_cons_cons, String.intercalate_singleton,
    String.append_assoc]

theorem deliver_eq_some (consistent : state.Consistent options)
    (stepTo : state.step options (.deliver index body now) = some next) :
    ∃ (dispatch : TaskDispatch) (credential : String) (claims : ExecutorCredentialClaims)
      (verifiedAt : Instant) (request : ExecutorRequestBody) (executor : ExecutorServer),
      state.dispatches[index]? = some dispatch ∧
      state.executor.exchanges[index]? = some (.reading credential claims verifiedAt) ∧
      Awaits dispatch claims ∧
      acceptBody options claims body = .ok request ∧
      cacheKey request = dispatch.cacheKey ∧
      request.taskId = generatedId "ct-" dispatch.taskId ∧
      state.executor.step options (.body index body now) = some executor ∧
      executor = { (state.executor.handleBody options credential claims body now).2 with
        exchanges := state.executor.exchanges.set index
          (state.executor.handleBody options credential claims body now).1
        clock := now } ∧
      next = { state with
        executor
        dispatches := state.dispatches.set index { dispatch with deliveredAt := some now } } := by
  simp only [step, bind, bind_eq_some_iff] at stepTo
  obtain ⟨dispatch, dispatched, stepTo⟩ := stepTo
  split at stepTo
  case h_2 => cases stepTo
  next credential claims verifiedAt found =>
  split at stepTo
  case h_2 => cases stepTo
  next request accepted =>
  obtain ⟨executor, handled, same⟩ := bind_eq_some_iff.mp stepTo
  obtain ⟨other, otherDispatched, awaits⟩ := consistent.reading index _ _ _ found
  rw [dispatched] at otherDispatched
  cases otherDispatched
  obtain ⟨task, tenant, -, key, -⟩ := acceptBody_eq_ok accepted
  have sameKey : cacheKey request = dispatch.cacheKey := by
    rw [cacheKey, TaskDispatch.cacheKey, tenant, key, awaits.tenant, awaits.key]
  have sameTask := task.trans awaits.task
  refine ⟨dispatch, credential, claims, verifiedAt, request, executor, dispatched, found, awaits,
    accepted, sameKey, sameTask, handled, ?_, (Option.some.inj same).symm⟩
  simp only [ExecutorServer.step, found] at handled
  split at handled
  · cases handled
  · exact (Option.some.inj handled).symm

/-- The dispatches that a delivery conflicts with: those of another owner of the
tenant, with the same key, whose cache entry is alive. -/
structure Shares (options : ExecutorServerOptions) (dispatch other : TaskDispatch)
    (now : Instant) : Prop where
  owner : other.owner ≠ dispatch.owner
  tenant : other.owner.tenantId = dispatch.owner.tenantId
  key : other.idempotencyKey = dispatch.idempotencyKey
  alive : ∃ deliveredAt, other.deliveredAt = some deliveredAt ∧
    now < deliveredAt + options.idempotencyTtlMs

theorem unshared_iff {dispatch : TaskDispatch}
    (dispatched : state.dispatches[index]? = some dispatch) :
    state.Unshared options (.deliver index body now) ↔
      ∀ other ∈ state.dispatches, ¬ Shares options dispatch other now := by
  constructor
  · intro unshared other mem shares
    obtain ⟨deliveredAt, delivered, alive⟩ := shares.alive
    have elapsed := unshared dispatch dispatched other mem shares.owner shares.tenant shares.key
      deliveredAt delivered
    exact absurd elapsed (not_le.mpr alive)
  · intro alone found foundDispatched other mem owner tenant key deliveredAt delivered
    rw [dispatched] at foundDispatched
    cases foundDispatched
    by_contra alive
    exact alone other mem ⟨owner, tenant, key, deliveredAt, delivered, not_le.mp alive⟩

abbrev Run (options : ExecutorServerOptions) : TaskDispatcher → Prop :=
  GuardedRun (step options)
    (fun state action => state.Accommodated options action ∧ state.Unshared options action) initial

section Consistency

variable (consistent : state.Consistent options)
include consistent

theorem Consistent.eq_of_sameOwner {first second : Nat}
    {one : TaskDispatch} (firstAt : state.dispatches[first]? = some one)
    (secondAt : state.dispatches[second]? = some other) (owner : other.owner = one.owner)
    (key : other.idempotencyKey = one.idempotencyKey) : first = second := by
  have firstKey := (consistent.claimed one (mem_of_getElem? firstAt)).2
  have secondKey := (consistent.claimed other (mem_of_getElem? secondAt)).2
  rw [owner, key, firstKey] at secondKey
  have sameTask : one.taskId = other.taskId := Option.some.inj secondKey
  obtain ⟨firstBound, rfl⟩ := List.getElem?_eq_some_iff.mp firstAt
  obtain ⟨secondBound, rfl⟩ := List.getElem?_eq_some_iff.mp secondAt
  have apart := pairwise_iff_getElem.mp consistent.distinct
  rcases Nat.lt_trichotomy first second with before | same | after
  · exact absurd sameTask (apart first second firstBound secondBound before)
  · exact same
  · exact absurd sameTask.symm (apart second first secondBound firstBound after)

theorem Consistent.shares_of_cached {dispatch : TaskDispatch} {entry : CachedResponse}
    (dispatched : state.dispatches[index]? = some dispatch)
    (undelivered : dispatch.deliveredAt = none)
    (found : (pruneIdempotency state.executor.idempotency now).get? dispatch.cacheKey =
      some entry) : ∃ other ∈ state.dispatches, Shares options dispatch other now ∧
      other.taskId ≠ dispatch.taskId ∧
      ∃ rest, entry.fingerprint = generatedId "ct-" other.taskId ++ "\x00" ++ rest := by
  obtain ⟨stored, alive⟩ := InsertionMap.get?_filter_eq_some_iff.mp found
  obtain ⟨otherIndex, other, otherAt, left⟩ := consistent.cached _ _ stored
  obtain ⟨deliveredAt, delivered, expires⟩ := left.expires
  have mem := mem_of_getElem? otherAt
  have memberHere := mem_of_getElem? dispatched
  obtain ⟨tenant, key⟩ := append_separator_inj (consistent.plain dispatch memberHere).2
    (consistent.plain other mem).2 left.sameKey
  have differentIndex : index ≠ otherIndex := by
    rintro rfl
    rw [dispatched] at otherAt
    cases otherAt
    rw [undelivered] at delivered
    cases delivered
  have owner : other.owner ≠ dispatch.owner := fun same =>
    differentIndex (consistent.eq_of_sameOwner dispatched otherAt same key.symm)
  have apart : other.taskId ≠ dispatch.taskId := by
    intro same
    obtain ⟨firstBound, rfl⟩ := List.getElem?_eq_some_iff.mp dispatched
    obtain ⟨secondBound, rfl⟩ := List.getElem?_eq_some_iff.mp otherAt
    have distinct := pairwise_iff_getElem.mp consistent.distinct
    rcases Nat.lt_or_gt_of_ne differentIndex with before | after
    · exact distinct _ _ firstBound secondBound before same.symm
    · exact distinct _ _ secondBound firstBound after same
  rw [expires, decide_eq_true_eq] at alive
  exact ⟨other, mem, ⟨owner, tenant.symm, key.symm, deliveredAt, delivered, alive⟩, apart,
    left.fingerprint⟩

theorem Consistent.cached_of_shares {dispatch : TaskDispatch} (later : state.executor.clock ≤ now)
    (mem : other ∈ state.dispatches) (shares : Shares options dispatch other now) :
    ∃ entry, (pruneIdempotency state.executor.idempotency now).get? dispatch.cacheKey =
      some entry := by
  obtain ⟨index, otherAt⟩ := getElem?_of_mem mem
  obtain ⟨deliveredAt, delivered, alive⟩ := shares.alive
  obtain ⟨number, run, -, found, -, tenant, key, started⟩ :=
    consistent.served index other deliveredAt otherAt delivered
  have runKey : run.key = dispatch.cacheKey := by
    rw [SkillRun.key, TaskDispatch.cacheKey, tenant, key, shares.tenant, shares.key]
  rcases consistent.executor.cached_prune later run (mem_of_getElem? found) with
    ⟨entry, cached, -⟩ | elapsed
  · rw [runKey] at cached
    exact ⟨entry, cached⟩
  · rw [started] at elapsed
    exact absurd elapsed (not_le.mpr alive)

theorem Consistent.deliver {index : Nat} {body : String}
    {now : Instant} (accommodated : state.Accommodated options (.deliver index body now))
    (unshared : state.Unshared options (.deliver index body now))
    (stepTo : state.step options (.deliver index body now) = some next) :
    next.Consistent options := by
  obtain ⟨dispatch, credential, claims, verifiedAt, request, executor, dispatched, found, awaits,
    accepted, sameKey, sameTask, handled, executorEq, rfl⟩ := deliver_eq_some consistent stepTo
  obtain ⟨later, room, hasSkill⟩ := accommodated
  have monotone : state.executor.ClockMonotone (.body index body now) := later
  have executorConsistent := consistent.executor.step monotone handled
  have absent :
      (pruneIdempotency state.executor.idempotency now).get? (cacheKey request) = none := by
    cases cached : (pruneIdempotency state.executor.idempotency now).get? (cacheKey request) with
    | none => rfl
    | some entry =>
      rw [sameKey] at cached
      obtain ⟨other, mem, shares, -⟩ :=
        consistent.shares_of_cached dispatched awaits.undelivered cached
      exact absurd shares ((unshared_iff dispatched).mp unshared other mem)
  have decision : decideIdempotency options (pruneIdempotency state.executor.idempotency now)
      request = .execute := by
    simp only [decideIdempotency, absent, if_neg (not_le.mpr room)]
  have skill : options.skills.contains request.skillId = true := by
    rw [(acceptBody_eq_ok accepted).2.2.1]
    exact hasSkill credential claims verifiedAt found
  rw [ExecutorServer.handleBody_eq_execute accepted decision] at executorEq
  simp only [ExecutorServer.execute, skill, if_true] at executorEq
  have bound := (List.getElem?_eq_some_iff.mp dispatched).1
  -- the dispatches that were delivered before are untouched
  have kept {other : Nat} {earlier : TaskDispatch} {deliveredAt : Instant}
      (earlierAt : state.dispatches[other]? = some earlier)
      (delivered : earlier.deliveredAt = some deliveredAt) : index ≠ other := by
    rintro rfl
    rw [dispatched] at earlierAt
    cases earlierAt
    rw [awaits.undelivered] at delivered
    cases delivered
  exact
    { consistent with
      executor := executorConsistent
      aligned := by
        rw [executorEq, length_set, length_set, consistent.aligned]
      claimed := by
        intro other mem
        rcases mem_or_eq_of_mem_set mem with earlier | rfl
        · exact consistent.claimed other earlier
        · exact consistent.claimed dispatch (mem_of_getElem? dispatched)
      distinct := by
        have images : (state.dispatches.set index { dispatch with deliveredAt := some now }).map
            TaskDispatch.taskId = state.dispatches.map TaskDispatch.taskId :=
          List.map_set_of_eq TaskDispatch.taskId dispatched rfl
        have apart := pairwise_map.mpr consistent.distinct
        rw [← images] at apart
        exact pairwise_map.mp apart
      plain := by
        intro other mem
        rcases mem_or_eq_of_mem_set mem with earlier | rfl
        · exact consistent.plain other earlier
        · exact consistent.plain dispatch (mem_of_getElem? dispatched)
      reading := by
        intro other otherCredential otherClaims otherAt lookup
        rw [executorEq] at lookup
        rcases List.getElem?_set_eq_some found lookup with ⟨-, new⟩ | ⟨differ, known⟩
        · cases new
        · obtain ⟨waiting, waitingAt, waitingAwaits⟩ := consistent.reading other _ _ _ known
          exact ⟨waiting, by rw [getElem?_set_ne (Ne.symm differ), waitingAt], waitingAwaits⟩
      cached := by
        intro key entry lookup
        rw [executorEq] at lookup
        simp only [InsertionMap.get?_set] at lookup
        split at lookup
        · next same =>
          cases lookup
          obtain ⟨rest, fingerprint⟩ := requestFingerprint_eq request
          rw [sameTask] at fingerprint
          exact ⟨index, _, getElem?_set_self bound,
            ⟨same.trans sameKey, ⟨now, rfl, rfl⟩, ⟨rest, fingerprint⟩⟩⟩
        · obtain ⟨stored, -⟩ := InsertionMap.get?_filter_eq_some_iff.mp lookup
          obtain ⟨other, earlier, earlierAt, left⟩ := consistent.cached key entry stored
          obtain ⟨deliveredAt, delivered, -⟩ := left.expires
          exact ⟨other, earlier, by
            rw [getElem?_set_ne (kept earlierAt delivered), earlierAt], left⟩
      served := by
        intro other earlier deliveredAt earlierAt delivered
        rcases List.getElem?_set_eq_some dispatched earlierAt with ⟨rfl, rfl⟩ | ⟨differ, known⟩
        · cases delivered
          have exchangeBound := (List.getElem?_eq_some_iff.mp found).1
          refine ⟨state.executor.runs.length,
            ⟨request.skillId, request.input, ⟨claims.taskId, claims.tenantId, claims.skillId,
              claims.idempotencyKey⟩, now, credential, claims⟩, ?_, ?_, awaits.task,
            awaits.tenant, awaits.key, rfl⟩
          · rw [executorEq, getElem?_set_self exchangeBound]
          · rw [executorEq]
            exact getElem?_concat_length
        · obtain ⟨number, run, awaiting, ran, started⟩ :=
            consistent.served other earlier deliveredAt known delivered
          have runBound := (List.getElem?_eq_some_iff.mp ran).1
          refine ⟨number, run, ?_, ?_, started⟩
          · rw [executorEq, getElem?_set_ne (Ne.symm differ), awaiting]
          · rw [executorEq, getElem?_append_left runBound, ran] }

theorem Consistent.refused_of_shares {dispatch : TaskDispatch} (later : state.executor.clock ≤ now)
    (dispatched : state.dispatches[index]? = some dispatch) (mem : other ∈ state.dispatches)
    (shares : Shares options dispatch other now)
    (stepTo : state.step options (.deliver index body now) = some next) :
    next.executor.exchanges[index]? = some (.rejected ⟨409, "IDEMPOTENCY_CONFLICT", false⟩) := by
  obtain ⟨found, credential, claims, verifiedAt, request, executor, foundAt, reading, awaits,
    accepted, sameKey, sameTask, -, executorEq, rfl⟩ := deliver_eq_some consistent stepTo
  rw [dispatched] at foundAt
  cases foundAt
  obtain ⟨entry, cached⟩ := consistent.cached_of_shares later mem shares
  obtain ⟨owner, ownerIn, -, apart, rest, fingerprint⟩ :=
    consistent.shares_of_cached dispatched awaits.undelivered cached
  have differ : entry.fingerprint ≠ requestFingerprint request := by
    intro same
    obtain ⟨requestRest, requestEq⟩ := requestFingerprint_eq request
    rw [fingerprint, requestEq, sameTask] at same
    obtain ⟨sameId, -⟩ := append_separator_inj (consistent.plain owner ownerIn).1
      (consistent.plain dispatch (mem_of_getElem? dispatched)).1 same
    exact apart (generatedId_injective "ct-" sameId)
  have decision : decideIdempotency options (pruneIdempotency state.executor.idempotency now)
      request = .refuse ⟨409, "IDEMPOTENCY_CONFLICT", false⟩ := by
    simp only [decideIdempotency, sameKey, cached, if_pos differ]
  have bound := (List.getElem?_eq_some_iff.mp reading).1
  simp only [ExecutorServer.handleBody, accepted, decision] at executorEq
  simp only [executorEq, getElem?_set_self bound]

theorem Consistent.allServed_iff
    (accommodated : state.Accommodated options (.deliver index body now))
    (stepTo : state.step options (.deliver index body now) = some next) :
    next.AllServed ↔ state.Unshared options (.deliver index body now) := by
  constructor
  · intro served
    obtain ⟨dispatch, _, _, _, _, _, dispatched, -, -, -, -, -, -, -, nextEq⟩ :=
      deliver_eq_some consistent stepTo
    apply (unshared_iff dispatched).mpr
    intro other mem shares
    have refused := consistent.refused_of_shares accommodated.1 dispatched mem shares stepTo
    have bound := (List.getElem?_eq_some_iff.mp dispatched).1
    have delivered : next.dispatches[index]? =
        some { dispatch with deliveredAt := some now } := by
      rw [nextEq]
      exact getElem?_set_self bound
    obtain ⟨number, run, awaiting, -⟩ := served index _ now delivered rfl
    rw [refused] at awaiting
    cases awaiting
  · intro unshared
    exact (consistent.deliver accommodated unshared stepTo).served

theorem Consistent.step {action : DispatchAction}
    (accommodated : state.Accommodated options action) (unshared : state.Unshared options action)
    (stepTo : state.step options action = some next) : next.Consistent options := by
  cases action with
  | create now call input owner requestFingerprint =>
    simp only [TaskDispatcher.step] at stepTo
    split at stepTo
    case h_2 => cases stepTo
    next both tables created =>
    cases stepTo
    obtain ⟨task, existed⟩ := both
    rcases createTask_cases created with ⟨-, rfl, -⟩ | ⟨-, free, rfl, _, rfl⟩
    · exact consistent
    · exact consistent.withTables (.insertTask consistent.numbered free)
        consistent.numbered.insertTask
  | discard taskId placeholder =>
    cases stepTo
    exact consistent.withTables (.discardPendingTask rfl)
      (consistent.numbered.discardPendingTask rfl)
  | admitInput now taskId placeholder call =>
    cases stepTo
    obtain ⟨grows, numbered⟩ := TaskTables.Grows.admitPendingTaskInput consistent.numbered
      (call.not_isPlaceholder none)
      (rfl : state.tables.admitPendingTaskInput now taskId placeholder _ = _)
    exact consistent.withTables grows numbered
  | transition now taskId expectedStatuses status patch =>
    simp only [TaskDispatcher.step] at stepTo
    split at stepTo
    case isFalse => cases stepTo
    next terminal =>
    cases stepTo
    have started : status ≠ .pending := by
      rintro rfl
      cases terminal
    obtain ⟨grows, numbered⟩ := TaskTables.Grows.transitionIfStatus consistent.numbered started
      (rfl : state.tables.transitionIfStatus now taskId expectedStatuses status patch = _)
    exact consistent.withTables grows numbered
  | dispatch taskId call head now => exact consistent.dispatch accommodated stepTo
  | deliver index body now => exact consistent.deliver accommodated unshared stepTo
  | lose index problem now => exact consistent.lose accommodated stepTo

end Consistency

theorem Run.consistent (run : Run options state) : state.Consistent options :=
  GuardedRun.invariant (Consistent options) consistent_initial
    (fun _ _ _ consistent allowed stepTo => consistent.step allowed.1 allowed.2 stepTo) run

end TaskDispatcher

end LongHub
