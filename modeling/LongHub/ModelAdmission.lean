import LongHub.PromiseChainLock
import LongHub.ModelUsageTotals

/-!
# Model requests

The admission of model requests and what one step of it does.
-/

namespace LongHub

/-! ## Admission of model requests -/

inductive ModelQuotaError where
  | modelRateLimited
  | modelDailyQuotaExceeded
  | tenantMonthlyQuotaExceeded
  | modelConcurrencyLimited

/-- What `beginModelUsage` is called with. -/
structure ModelUsageRequest where
  deviceId : String
  tenantId : String
  config : ModelGatewayConfigRecord
  now : Instant
  date : CalendarDate

structure ModelUsageCounters where
  minuteRequests : InsertionMap String (List Instant)
  concurrency : InsertionMap String Int

def usedTokens (usage : List ModelUsageAggregateRecord)
    (selected : ModelUsageAggregateRecord → Bool) : Nat :=
  ((usage.filter selected).map fun row =>
    row.counts .inputTokens + row.counts .outputTokens).sum

namespace ModelUsageCounters

variable (counters : ModelUsageCounters)

def active (deviceId : String) : Int :=
  (counters.concurrency.get? deviceId).getD 0

def recent (deviceId : String) (now : Instant) : List Instant :=
  ((counters.minuteRequests.get? deviceId).getD []).filter (now - 60000 < ·)

/-- The critical section, after the store has answered. -/
def take (request : ModelUsageRequest)
    (usage : List ModelUsageAggregateRecord) : Except ModelQuotaError ModelUsageCounters :=
  let recent := counters.recent request.deviceId request.now
  let active := counters.active request.deviceId
  if request.config.deviceRequestsPerMinute ≤ recent.length then .error .modelRateLimited
  else if request.config.maxDeviceConcurrency ≤ active then .error .modelConcurrencyLimited
  else if request.config.deviceDailyTokens ≤ usedTokens usage (fun row =>
      row.key.period = .day && row.key.periodStart = periodStart request.date .day &&
        row.key.scope.deviceId = request.deviceId) then
    .error .modelDailyQuotaExceeded
  else if request.config.tenantMonthlyTokens ≤ usedTokens usage (fun row =>
      row.key.period = .month && row.key.periodStart = periodStart request.date .month &&
        row.key.scope.tenantId = request.tenantId) then
    .error .tenantMonthlyQuotaExceeded
  else .ok
    { minuteRequests := counters.minuteRequests.set request.deviceId (recent ++ [request.now])
      concurrency := counters.concurrency.set request.deviceId (active + 1) }

def release (deviceId : String) : ModelUsageCounters :=
  let current := (counters.concurrency.get? deviceId).getD 1
  if current ≤ 1 then { counters with concurrency := counters.concurrency.delete deviceId }
  else { counters with concurrency := counters.concurrency.set deviceId (current - 1) }

end ModelUsageCounters

inductive UsageLease where
  | pending
  | refused
  | granted
  | held
  | released
  deriving DecidableEq

namespace UsageLease

@[grind =]
def isAdmitted : UsageLease → Bool
  | .granted | .held | .released => true
  | .pending | .refused => false

@[grind =]
def isOutstanding : UsageLease → Bool
  | .granted | .held => true
  | .pending | .refused | .released => false

end UsageLease

structure ModelCaller where
  request : ModelUsageRequest
  aborted : Bool
  lease : UsageLease

structure ModelAdmission where
  locks : ChainLock String
  callers : List ModelCaller
  counters : ModelUsageCounters
  decremented : List Nat

inductive ModelAdmissionAction where
  /-- A call of `beginModelUsage`. -/
  | arrive (request : ModelUsageRequest)
  /-- The signal of a request is aborted. -/
  | abort (index : Nat)
  /-- An aborted request stops waiting for the lock. -/
  | leave (index : Nat)
  /-- A request enters the critical section and asks the store. -/
  | acquire (index : Nat)
  /-- The store answers or fails. -/
  | answer (index : Nat) (usage : Option (List ModelUsageAggregateRecord))
  /-- A request resolves its promise. -/
  | finish (index : Nat)
  /-- The call returns its lease. -/
  | handOut (index : Nat)
  /-- A lease is released, by `release` or at the end of `complete`. -/
  | release (index : Nat)

namespace ModelAdmission

def initial : ModelAdmission := ⟨.empty, [], ⟨.empty, .empty⟩, []⟩

def setCaller (state : ModelAdmission) (index : Nat) (caller : ModelCaller) : ModelAdmission :=
  { state with callers := state.callers.set index caller }

def releaseLease (state : ModelAdmission) (index : Nat) (caller : ModelCaller) :
    ModelAdmission where
  locks := state.locks
  callers := state.callers.set index { caller with lease := .released }
  counters := state.counters.release caller.request.deviceId
  decremented := state.decremented ++ [index]

/-- The rest of the critical section of a request. -/
def settleUsage (state : ModelAdmission) (index : Nat) (caller : ModelCaller)
    (usage : Option (List ModelUsageAggregateRecord)) : ModelAdmission :=
  let refused := state.setCaller index { caller with lease := .refused }
  if caller.aborted then refused
  else
    match usage with
    | none => refused
    | some usage =>
      match state.counters.take caller.request usage with
      | .ok counters => { state.setCaller index { caller with lease := .granted } with counters }
      | .error _ => refused

@[grind =]
def step (state : ModelAdmission) : ModelAdmissionAction → Option ModelAdmission
  | .arrive request => some { state with
      locks := state.locks.enqueue request.deviceId
      callers := state.callers ++ [⟨request, false, .pending⟩] }
  | .abort index =>
    state.callers[index]?.map fun caller =>
      if caller.lease = .held then state.releaseLease index { caller with aborted := true }
      else state.setCaller index { caller with aborted := true }
  | .leave index =>
    state.callers[index]?.bind fun caller =>
      if !caller.aborted then none
      else (state.locks.leave index).map fun locks =>
        { state.setCaller index { caller with lease := .refused } with locks }
  | .acquire index =>
    state.callers[index]?.bind fun caller =>
      if caller.aborted then none
      else (state.locks.acquire index).map fun locks => { state with locks }
  | .answer index usage =>
    state.callers[index]?.bind fun caller =>
      if state.locks.phaseOf index = some .holding ∧ caller.lease = .pending then
        some (state.settleUsage index caller usage)
      else none
  | .finish index =>
    state.callers[index]?.bind fun caller =>
      if state.locks.phaseOf index = some .holding ∧ caller.lease = .pending then none
      else (state.locks.finish index).map fun locks => { state with locks }
  | .handOut index =>
    state.callers[index]?.bind fun caller =>
      if state.locks.phaseOf index = some .finished ∧ caller.lease = .granted then
        if caller.aborted then some (state.releaseLease index caller)
        else some (state.setCaller index { caller with lease := .held })
      else none
  | .release index =>
    state.callers[index]?.bind fun caller =>
      match caller.lease with
      | .held => some (state.releaseLease index caller)
      | .released => some state
      | _ => none

abbrev Run : ModelAdmission → Prop :=
  GuardedRun step (fun _ _ => True) initial

def counterOf (state : ModelAdmission) (deviceId : String) : Int :=
  state.counters.active deviceId

/-- The leases of a device that have been taken and not released. -/
def outstanding (state : ModelAdmission) (deviceId : String) : Nat :=
  state.callers.countP fun caller =>
    caller.request.deviceId = deviceId && caller.lease.isOutstanding

def InSection (state : ModelAdmission) (deviceId : String) (index : Nat) : Prop :=
  state.locks.phaseOf index = some .holding ∧
    ∃ caller, state.callers[index]? = some caller ∧ caller.request.deviceId = deviceId

def isLocked (state : ModelAdmission) (deviceId : String) : Bool :=
  (state.locks.tails.get? deviceId).isSome

/-- Requests have arrived in the order of their time. -/
def ClockNondecreasing (state : ModelAdmission) : Prop :=
  (state.callers.map fun caller => caller.request.now).Pairwise (· ≤ ·)

def admittedWithin (state : ModelAdmission) (deviceId : String) (start : Instant) : Nat :=
  state.callers.countP fun caller =>
    caller.request.deviceId = deviceId && caller.lease.isAdmitted &&
      (start ≤ caller.request.now && caller.request.now < start + 60000)

def LimitsUpTo (state : ModelAdmission) (deviceId : String)
    (limitOf : ModelGatewayConfigRecord → Nat) (limit : Nat) : Prop :=
  ∀ caller ∈ state.callers, caller.request.deviceId = deviceId →
    caller.lease.isAdmitted = true → limitOf caller.request.config ≤ limit

structure Guarantees (state : ModelAdmission) : Prop where
  /-- At most one critical section of a device runs at a time. -/
  exclusive : ∀ deviceId first second, state.InSection deviceId first →
    state.InSection deviceId second → first = second
  /-- The lock of a device has an entry as long as a request has not finished. -/
  locked : ∀ deviceId, state.isLocked deviceId ↔
    ∃ index caller, state.callers[index]? = some caller ∧
      caller.request.deviceId = deviceId ∧ state.locks.phaseOf index ≠ some .finished
  /-- The counter is the number of leases. -/
  counted : ∀ deviceId, state.counterOf deviceId = state.outstanding deviceId
  /-- An entry of the counter is positive. -/
  positive : ∀ deviceId count, state.counters.concurrency.get? deviceId = some count → 1 ≤ count
  /-- An admission takes the counter up to the limit of its own configuration. -/
  admission : ∀ action next, state.step action = some next → ∀ deviceId,
    state.counterOf deviceId < next.counterOf deviceId →
      ∃ (index : Nat) (caller : ModelCaller), next.callers[index]? = some caller ∧
        caller.request.deviceId = deviceId ∧ caller.lease = .granted ∧
        next.counterOf deviceId ≤ caller.request.config.maxDeviceConcurrency
  /-- The counter stays within the limit of the configurations. -/
  withinLimit : ∀ deviceId limit,
    state.LimitsUpTo deviceId ModelGatewayConfigRecord.maxDeviceConcurrency limit →
      state.counterOf deviceId ≤ limit
  /-- A lease decrements the counter at most once. -/
  decrementedOnce : ∀ index, state.decremented.count index ≤ 1
  /-- No 60 seconds contain more admitted requests than allowed. -/
  rate : state.ClockNondecreasing → ∀ deviceId limit,
    state.LimitsUpTo deviceId ModelGatewayConfigRecord.deviceRequestsPerMinute limit →
      ∀ start, state.admittedWithin deviceId start ≤ limit

/-- Along an endless run, a device's lock entry is eventually removed once
nobody waits for the lock, if the store answers every call and resolved
promises are followed by their continuations. -/
def EventuallyUnlocked : Prop :=
  ∀ run : EndlessRun step, run.states 0 = initial → (∀ index, run.FairTo (.finish index)) →
    (∀ time index caller, (run.states time).callers[index]? = some caller →
      (run.states time).locks.phaseOf index = some .holding →
      ∃ later ≥ time, ∃ settled, (run.states later).callers[index]? = some settled ∧
        settled.lease ≠ .pending) →
    ∀ deviceId start, (∀ time ≥ start, ∀ waiter ∈ (run.states time).locks.waiters,
        waiter.key = deviceId → waiter.phase ≠ .waiting) →
      ∃ time ≥ start, (run.states time).isLocked deviceId = false

end ModelAdmission

end LongHub

/-! ## What one step of the admission does -/

namespace ChainLock

variable {κ : Type*} {lock after : ChainLock κ} {index other : Nat}

theorem keys_leave (left : lock.leave index = some after) :
    after.waiters.map ChainWaiter.key = lock.waiters.map ChainWaiter.key := by
  obtain ⟨waiter, stored, -, rfl⟩ := leave_eq_some left
  exact List.map_set_of_eq _ stored rfl

theorem keys_acquire (acquired : lock.acquire index = some after) :
    after.waiters.map ChainWaiter.key = lock.waiters.map ChainWaiter.key := by
  obtain ⟨waiter, stored, -, -, rfl⟩ := acquire_eq_some acquired
  exact List.map_set_of_eq _ stored rfl

theorem keys_finish [DecidableEq κ] (finished : lock.finish index = some after) :
    after.waiters.map ChainWaiter.key = lock.waiters.map ChainWaiter.key := by
  obtain ⟨waiter, stored, -, waiters, -⟩ := finish_eq_some finished
  rw [waiters]
  exact List.map_set_of_eq _ stored rfl

/-- Whether a caller has been given its key. -/
def hasHeld (lock : ChainLock κ) (index : Nat) : Prop :=
  lock.phaseOf index = some .holding ∨ lock.phaseOf index = some .finished

theorem hasHeld_iff : lock.hasHeld index ↔ ∃ waiter, lock.waiters[index]? = some waiter ∧
    (waiter.phase = .holding ∨ waiter.phase = .finished) := by
  simp only [hasHeld, phaseOf, Option.map_eq_some_iff]
  constructor
  · rintro (⟨waiter, found, phase⟩ | ⟨waiter, found, phase⟩)
    · exact ⟨waiter, found, .inl phase⟩
    · exact ⟨waiter, found, .inr phase⟩
  · rintro ⟨waiter, found, phase | phase⟩
    · exact .inl ⟨waiter, found, phase⟩
    · exact .inr ⟨waiter, found, phase⟩

theorem phaseOf_set {other : Nat} {waiter : ChainWaiter κ} {phase : WaitPhase}
    (found : lock.waiters[other]? = some waiter)
    (waiters : after.waiters = lock.waiters.set other { waiter with phase }) :
    after.phaseOf index = if index = other then some phase else lock.phaseOf index := by
  simp only [phaseOf, waiters, List.getElem?_set]
  grind

/-- A key that was given stays given. -/
theorem Moves.hasHeld [DecidableEq κ] (moves : lock.Moves after) (held : lock.hasHeld index) :
    after.hasHeld index := by
  cases moves with
  | stay => exact held
  | enqueue key =>
    obtain ⟨waiter, found, phase⟩ := hasHeld_iff.mp held
    have inRange := (List.getElem?_eq_some_iff.mp found).1
    exact hasHeld_iff.mpr ⟨waiter, (List.getElem?_append_left inRange).trans found, phase⟩
  | leave target left =>
    obtain ⟨mover, stored, waiting, rfl⟩ := leave_eq_some left
    have later : (lock.move target mover .leaving).phaseOf index = _ := phaseOf_set stored rfl
    grind [hasHeld, phaseOf]
  | acquire target acquired =>
    obtain ⟨mover, stored, waiting, -, rfl⟩ := acquire_eq_some acquired
    have later : (lock.move target mover .holding).phaseOf index = _ := phaseOf_set stored rfl
    grind [hasHeld]
  | finish target finished =>
    obtain ⟨mover, stored, ready, waiters, -⟩ := finish_eq_some finished
    have later : after.phaseOf index = _ := phaseOf_set stored waiters
    grind [hasHeld]

end ChainLock

namespace LongHub

namespace ModelAdmission

variable {state next : ModelAdmission}

/-- The kinds of steps. -/
inductive Effect (state next : ModelAdmission) : Prop where
  | arrive (request : ModelUsageRequest) (result : next = { state with
      locks := state.locks.enqueue request.deviceId
      callers := state.callers ++ [⟨request, false, .pending⟩] })
  | quiet (index : Nat) (before after : ModelCaller) (found : state.callers[index]? = some before)
      (callers : next.callers = state.callers.set index after)
      (request : after.request = before.request)
      (admitted : after.lease.isAdmitted = before.lease.isAdmitted)
      (outstanding : after.lease.isOutstanding = before.lease.isOutstanding)
      (settled : before.lease ≠ .pending → after.lease ≠ .pending)
      (counters : next.counters = state.counters)
      (decremented : next.decremented = state.decremented)
      (moves : state.locks.Moves next.locks)
      (keys : next.locks.waiters.map ChainWaiter.key = state.locks.waiters.map ChainWaiter.key)
  | take (index : Nat) (caller : ModelCaller) (usage : List ModelUsageAggregateRecord)
      (counters : ModelUsageCounters)
      (found : state.callers[index]? = some caller)
      (holding : state.locks.phaseOf index = some .holding)
      (pending : caller.lease = .pending)
      (taken : state.counters.take caller.request usage = .ok counters)
      (result : next =
        { state.setCaller index { caller with lease := .granted } with counters })
  | release (index : Nat) (before after : ModelCaller) (found : state.callers[index]? = some before)
      (request : after.request = before.request)
      (outstanding : before.lease.isOutstanding = true)
      (result : next = state.releaseLease index after)

theorem Effect.of_lock {index : Nat} {caller : ModelCaller} {locks : ChainLock String}
    (found : state.callers[index]? = some caller) (moves : state.locks.Moves locks)
    (keys : locks.waiters.map ChainWaiter.key = state.locks.waiters.map ChainWaiter.key) :
    state.Effect { state with locks } :=
  .quiet index caller caller found (List.set_of_getElem? found).symm rfl rfl rfl id rfl
    rfl moves keys

/-- A step that only writes what counts for no lease. -/
theorem Effect.of_caller {index : Nat} {before after : ModelCaller}
    (found : state.callers[index]? = some before) (request : after.request = before.request)
    (admitted : after.lease.isAdmitted = before.lease.isAdmitted)
    (outstanding : after.lease.isOutstanding = before.lease.isOutstanding)
    (settled : before.lease ≠ .pending → after.lease ≠ .pending) :
    state.Effect (state.setCaller index after) :=
  .quiet index before after found rfl request admitted outstanding settled rfl rfl .stay rfl

/-- Who has been admitted has been given the lock. -/
def AdmittedInOrder (state : ModelAdmission) : Prop :=
  ∀ index caller, state.callers[index]? = some caller → caller.lease.isAdmitted = true →
    state.locks.hasHeld index

theorem effect_of_step (inOrder : state.AdmittedInOrder) {action : ModelAdmissionAction}
    (stepTo : state.step action = some next) : state.Effect next := by
  cases action with
  | arrive request => exact .arrive request (Option.some.inj stepTo).symm
  | abort index =>
    simp only [step, Option.map_eq_some_iff] at stepTo
    obtain ⟨caller, found, rfl⟩ := stepTo
    split
    · next held =>
      exact .release index caller { caller with aborted := true } found rfl
        (by simp [held, UsageLease.isOutstanding]) rfl
    · exact .of_caller found rfl rfl rfl id
  | leave index =>
    simp only [step, Option.bind_eq_some_iff] at stepTo
    obtain ⟨caller, found, stepTo⟩ := stepTo
    split at stepTo
    · cases stepTo
    · obtain ⟨locks, left, rfl⟩ := Option.map_eq_some_iff.mp stepTo
      have notAdmitted : caller.lease.isAdmitted = false := by
        by_contra admitted
        obtain ⟨waiter, stored, waiting, -⟩ := ChainLock.leave_eq_some left
        obtain ⟨other, otherStored, held⟩ := ChainLock.hasHeld_iff.mp
          (inOrder index caller found (by simpa using admitted))
        rw [stored] at otherStored
        cases otherStored
        simp [waiting] at held
      have notOutstanding : caller.lease.isOutstanding = false := by
        cases lease : caller.lease <;> simp_all [UsageLease.isAdmitted, UsageLease.isOutstanding]
      exact .quiet index caller { caller with lease := .refused } found rfl rfl
        notAdmitted.symm notOutstanding.symm (by simp) rfl rfl (.leave index left)
        (ChainLock.keys_leave left)
  | acquire index =>
    simp only [step, Option.bind_eq_some_iff] at stepTo
    obtain ⟨caller, found, stepTo⟩ := stepTo
    split at stepTo
    · cases stepTo
    · obtain ⟨locks, acquired, rfl⟩ := Option.map_eq_some_iff.mp stepTo
      exact .of_lock found (.acquire index acquired) (ChainLock.keys_acquire acquired)
  | answer index usage =>
    simp only [step, Option.bind_eq_some_iff] at stepTo
    obtain ⟨caller, found, stepTo⟩ := stepTo
    split at stepTo
    case isFalse => cases stepTo
    next ready =>
    obtain ⟨holding, pending⟩ := ready
    cases stepTo
    have refused : state.Effect (state.setCaller index { caller with lease := .refused }) :=
      .of_caller found rfl (by simp [pending, UsageLease.isAdmitted])
        (by simp [pending, UsageLease.isOutstanding]) (by simp)
    simp only [settleUsage]
    split
    · exact refused
    split
    · exact refused
    split
    · next counters taken => exact .take index caller _ counters found holding pending taken rfl
    · exact refused
  | finish index =>
    simp only [step, Option.bind_eq_some_iff] at stepTo
    obtain ⟨caller, found, stepTo⟩ := stepTo
    split at stepTo
    · cases stepTo
    · obtain ⟨locks, finished, rfl⟩ := Option.map_eq_some_iff.mp stepTo
      exact .of_lock found (.finish index finished) (ChainLock.keys_finish finished)
  | handOut index =>
    simp only [step, Option.bind_eq_some_iff] at stepTo
    obtain ⟨caller, found, stepTo⟩ := stepTo
    split at stepTo
    case isFalse => cases stepTo
    next ready =>
    split at stepTo
    · cases stepTo
      exact .release index caller caller found rfl (by simp [ready.2, UsageLease.isOutstanding]) rfl
    · cases stepTo
      exact .of_caller found rfl (by simp [ready.2, UsageLease.isAdmitted])
        (by simp [ready.2, UsageLease.isOutstanding]) (by simp)
  | release index =>
    simp only [step, Option.bind_eq_some_iff] at stepTo
    obtain ⟨caller, found, stepTo⟩ := stepTo
    split at stepTo
    · next held =>
      cases stepTo
      exact .release index caller caller found rfl (by simp [held, UsageLease.isOutstanding]) rfl
    · cases stepTo
      exact .of_lock found .stay rfl
    · cases stepTo

theorem Effect.moves (effect : state.Effect next) : state.locks.Moves next.locks := by
  cases effect with
  | arrive request result =>
    subst result
    exact .enqueue _
  | quiet index before after found callers request admitted outstanding settled counters
      decremented moves keys => exact moves
  | take index caller usage counters found holding pending taken result =>
    subst result
    exact .stay
  | release index before after found request outstanding result =>
    subst result
    exact .stay

theorem Effect.settled (effect : state.Effect next) {index : Nat} {caller : ModelCaller}
    (found : state.callers[index]? = some caller) (decided : caller.lease ≠ .pending) :
    ∃ later, next.callers[index]? = some later ∧ later.lease ≠ .pending := by
  have replaced : ∀ {target : Nat} {before after : ModelCaller},
      state.callers[target]? = some before →
      (before.lease ≠ .pending → after.lease ≠ .pending) →
      ∃ later, (state.callers.set target after)[index]? = some later ∧ later.lease ≠ .pending := by
    intro target before after stored kept
    by_cases own : target = index
    · subst own
      rw [found] at stored
      cases stored
      exact ⟨after, List.getElem?_set_self (List.getElem?_eq_some_iff.mp found).1, kept decided⟩
    · exact ⟨caller, (List.getElem?_set_ne own).trans found, decided⟩
  cases effect with
  | arrive request result =>
    subst result
    have inRange := (List.getElem?_eq_some_iff.mp found).1
    exact ⟨caller, (List.getElem?_append_left inRange).trans found, decided⟩
  | quiet target before after stored callers request admitted outstanding settled =>
    rw [callers]
    exact replaced stored settled
  | take target before usage counters stored holding pending taken result =>
    subst result
    exact replaced stored (by simp)
  | release target before after stored request outstanding result =>
    subst result
    exact replaced stored (by simp)

end ModelAdmission

end LongHub
