import LongHub.AsyncProgram
import LongHub.CloudSkillExecution
import LongHub.LockTable

/-!
# Execution reservations of the PostgreSQL store

`reserveCloudSkillExecution` of `PgStore` is one transaction of SQL statements.
-/

namespace LongHub

inductive PgLockKey where
  | subscription (subscriptionId : String)
  | entitlement (entitlementId : String)
  | reservation (reservationId : String)
  | taskIndex (taskId : String)
  deriving DecidableEq

/-- The writes of an open transaction, which only its own statements see. -/
structure PgReservationSession where
  released : List (String × Instant)
  inserted : Option CloudSkillExecutionReservation

/-- What a call did, for statements about runs. -/
inductive PgReservationFact where
  | called (params : CloudSkillExecutionReservationRequest) (now : Instant)
  | answered (params : CloudSkillExecutionReservationRequest)
      (result : CloudSkillExecutionReservationResult)

structure PgReservationState where
  clock : Instant
  plans : InsertionMap String CloudSkillPlanRecord
  subscriptions : InsertionMap String CloudSkillSubscriptionRecord
  entitlements : InsertionMap String CloudSkillEntitlementRecord
  rows : List CloudSkillExecutionReservation
  locks : LockTable PgLockKey
  sessions : Nat → PgReservationSession
  history : List (Nat × PgReservationFact)

inductive PgReservationError where
  | uniqueViolation
  | foreignKeyViolation
  deriving DecidableEq

inductive PgReservationCall where
  | call (params : CloudSkillExecutionReservationRequest)
  | begin
  | selectExisting (taskId : String)
  | selectExistingForUpdate (taskId : String)
  | updateReleased (reservationId : String) (now : Instant)
  | selectPlan (planId : String)
  | lockSubscription (planId userId tenantId : String) (subscriptionId : Option String)
  | lockEntitlement (subscriptionId tenantId userId skillId planId : String) (now : Instant)
  | expireLeases (subscriptionId : String) (now : Instant)
  | countCycle (subscription : CloudSkillSubscriptionRecord) (skillId : String) (now : Instant)
  | countMinute (subscriptionId tenantId userId deviceId : String) (now : Instant)
  | countActive (subscriptionId tenantId userId deviceId : String) (now : Instant)
  | insert (params : CloudSkillExecutionReservationRequest) (now leaseTtlMs : Int)
      (subscription : CloudSkillSubscriptionRecord)
  | commit
  | rollback
  | answer (params : CloudSkillExecutionReservationRequest)
      (result : CloudSkillExecutionReservationResult)

abbrev PgReservationCall.Answer : PgReservationCall → Type
  | .call .. => Instant
  | .begin | .expireLeases .. | .commit | .rollback | .answer .. => Unit
  | .selectExisting .. | .selectExistingForUpdate .. | .updateReleased .. =>
    Option CloudSkillExecutionReservation
  | .selectPlan .. => Option CloudSkillPlanRecord
  | .lockSubscription .. => Option CloudSkillSubscriptionRecord
  | .lockEntitlement .. => Option CloudSkillEntitlementRecord
  | .countCycle .. | .countMinute .. => Nat
  | .countActive .. => Nat × Option Instant
  | .insert .. => CloudSkillExecutionReservation

namespace PgReservationSession

def empty : PgReservationSession := ⟨[], none⟩

def applyTo (session : PgReservationSession) (row : CloudSkillExecutionReservation) :
    CloudSkillExecutionReservation :=
  match session.released.find? fun entry => entry.1 = row.reservationId with
  | none => row
  | some (_, releasedAt) => { row with releasedAt := row.releasedAt <|> some releasedAt }

def write (session : PgReservationSession) (rows : List CloudSkillExecutionReservation) :
    List CloudSkillExecutionReservation :=
  rows.map session.applyTo ++ session.inserted.toList

end PgReservationSession

namespace PgReservationState

open CloudSkillExecutionReservation

variable (state : PgReservationState)

variable (thread : Nat)

def visible : List CloudSkillExecutionReservation :=
  (state.sessions thread).write state.rows

/-- Record a fact, without any effect on the data. -/
def note (fact : PgReservationFact) : PgReservationState :=
  { state with history := state.history ++ [(thread, fact)] }

def lock (keys : List PgLockKey) : Option PgReservationState :=
  (state.locks.acquireAll thread keys).map fun locks => { state with locks }

def setSession (session : PgReservationSession) : PgReservationState :=
  { state with sessions := Function.update state.sessions thread session }

def endTransaction : PgReservationState :=
  { state.setSession thread .empty with locks := state.locks.releaseAll thread }

def selectSubscription (planId userId tenantId : String)
    (subscriptionId : Option String) : Option CloudSkillSubscriptionRecord :=
  (CloudSkillTables.newestFirst CloudSkillSubscriptionRecord.createdAt
    (state.subscriptions.values.filter fun subscription =>
      subscription.planId = planId && subscription.userId = userId &&
        subscription.tenantId = tenantId &&
        subscriptionId.all fun wanted => subscription.subscriptionId = wanted)).head?

def selectEntitlement (subscriptionId tenantId userId skillId planId : String) (now : Instant) :
    Option CloudSkillEntitlementRecord :=
  (CloudSkillTables.newestFirst CloudSkillEntitlementRecord.createdAt
    (state.entitlements.values.filter fun entitlement =>
      ((state.plans.get? entitlement.planId).any fun plan =>
        plan.skillIds.contains entitlement.skillId) &&
      entitlement.subscriptionId = subscriptionId && entitlement.tenantId = tenantId &&
        entitlement.userId = userId && entitlement.skillId = skillId &&
        entitlement.planId = planId && entitlement.status = .active &&
        now < entitlement.expiresAt)).head?

/-- The leases of a subscription that have run out. -/
def expiredIds (subscriptionId : String) (now : Instant) : List String :=
  ((state.visible thread).filter fun row =>
    row.subscriptionId = subscriptionId && row.releasedAt.isNone &&
      row.leaseExpiresAt ≤ now).map (·.reservationId)

/-- The leases of a calling device that are in force. -/
def activeRows (subscriptionId tenantId userId deviceId : String) (now : Instant) :
    List CloudSkillExecutionReservation :=
  (state.visible thread).filter fun row =>
    row.isOwnedBy subscriptionId tenantId userId deviceId && row.isLeased now

def newRow (reservationId : String) (params : CloudSkillExecutionReservationRequest)
    (now leaseTtlMs : Int) (subscription : CloudSkillSubscriptionRecord) :
    CloudSkillExecutionReservation where
  reservationId
  taskId := params.taskId
  userId := params.userId
  tenantId := params.tenantId
  deviceId := params.deviceId
  agentId := params.agentId
  skillId := params.skillId
  planId := params.planId
  subscriptionId := subscription.subscriptionId
  inputDigest := params.inputDigest
  periodStart := subscription.startsAt
  reservedAt := now
  leaseExpiresAt := now + leaseTtlMs
  releasedAt := none

def hasReferences (row : CloudSkillExecutionReservation) : Bool :=
  (state.subscriptions.get? row.subscriptionId).any (fun subscription =>
    subscription.planId = row.planId && subscription.tenantId = row.tenantId &&
      subscription.userId = row.userId) &&
  (state.plans.get? row.planId).any fun plan => plan.skillIds.contains row.skillId

@[grind =]
def execute (generated : String) :
    (request : PgReservationCall) →
      Option (Except PgReservationError request.Answer × PgReservationState)
  | .call params =>
    some (.ok state.clock, state.note thread (.called params state.clock))
  | .begin => some (.ok (), state.setSession thread .empty)
  | .selectExisting taskId =>
    some (.ok ((state.visible thread).find? (·.taskId = taskId)), state)
  | .selectExistingForUpdate taskId =>
    match (state.visible thread).find? (·.taskId = taskId) with
    | none => some (.ok none, state)
    | some row =>
      (state.lock thread [.reservation row.reservationId]).map fun locked =>
        (.ok (some row), locked)
  | .updateReleased reservationId now =>
    (state.lock thread [.reservation reservationId]).map fun locked =>
      let session := state.sessions thread
      let updated := locked.setSession thread
        { session with released := session.released ++ [(reservationId, now)] }
      (.ok ((updated.visible thread).find? (·.reservationId = reservationId)), updated)
  | .selectPlan planId => some (.ok (state.plans.get? planId), state)
  | .lockSubscription planId userId tenantId subscriptionId =>
    match state.selectSubscription planId userId tenantId subscriptionId with
    | none => some (.ok none, state)
    | some subscription =>
      (state.lock thread [.subscription subscription.subscriptionId]).map fun locked =>
        (.ok (some subscription), locked)
  | .lockEntitlement subscriptionId tenantId userId skillId planId now =>
    match state.selectEntitlement subscriptionId tenantId userId skillId planId now with
    | none => some (.ok none, state)
    | some entitlement =>
      (state.lock thread [.entitlement entitlement.entitlementId]).map fun locked =>
        (.ok (some entitlement), locked)
  | .expireLeases subscriptionId now =>
    let ids := state.expiredIds thread subscriptionId now
    (state.lock thread (ids.map .reservation)).map fun locked =>
      let session := state.sessions thread
      (.ok (), locked.setSession thread
        { session with released := session.released ++ ids.map fun id => (id, now) })
  | .countCycle subscription skillId now =>
    some (.ok ((state.visible thread).countP (countsInCycle subscription skillId now)), state)
  | .countMinute subscriptionId tenantId userId deviceId now =>
    some (.ok ((state.visible thread).countP fun row =>
      row.isOwnedBy subscriptionId tenantId userId deviceId && row.countsInMinute now),
      state)
  | .countActive subscriptionId tenantId userId deviceId now =>
    let active := state.activeRows thread subscriptionId tenantId userId deviceId now
    some (.ok (active.length, (active.map (·.leaseExpiresAt)).min?), state)
  | .insert params now leaseTtlMs subscription =>
    let row := newRow ("csres-" ++ generated) params now leaseTtlMs subscription
    if state.rows.any (·.reservationId = row.reservationId) ||
        state.locks.isHeld (.reservation row.reservationId) then none
    else
      (state.lock thread [.taskIndex row.taskId, .reservation row.reservationId]).map fun locked =>
          if (state.visible thread).any (·.taskId = row.taskId) then
            (.error .uniqueViolation, state)
          else if !state.hasReferences row then (.error .foreignKeyViolation, state)
          else
            (.ok row, locked.setSession thread
              { state.sessions thread with inserted := some row })
  | .commit =>
    some (.ok (), { state.endTransaction thread with rows := state.visible thread })
  | .rollback => some (.ok (), state.endTransaction thread)
  | .answer params result => some (.ok (), state.note thread (.answered params result))

/-- What happens beside the reservations; a locked row is not changed. -/
inductive Event where
  | tick (now : Instant)
  | setSubscriptionStatus (subscriptionId : String) (status : CloudSkillSubscriptionStatus)
      (changedAt : Instant)
  | setEntitlement (entitlement : CloudSkillEntitlementRecord)
  | release (reservationId : String) (now : Instant)

def occur : Event → Option PgReservationState
  | .tick now => if state.clock ≤ now then some { state with clock := now } else none
  | .setSubscriptionStatus subscriptionId status changedAt =>
    if state.locks.isHeld (.subscription subscriptionId) then none
    else (state.subscriptions.get? subscriptionId).map fun subscription =>
      { state with
        subscriptions := state.subscriptions.set subscriptionId
          (subscription.withStatus status changedAt) }
  | .setEntitlement entitlement =>
    if state.locks.isHeld (.entitlement entitlement.entitlementId) then none
    else some { state with
      entitlements := state.entitlements.set entitlement.entitlementId entitlement }
  | .release reservationId now =>
    if state.locks.isHeld (.reservation reservationId) then none
    else some { state with
      rows := state.rows.map (PgReservationSession.mk [(reservationId, now)] none).applyTo }

end PgReservationState

namespace PgReservationStore

abbrev PgReservationProgram :=
  Program PgReservationCall PgReservationCall.Answer PgReservationError

abbrev query (request : PgReservationCall) : PgReservationProgram request.Answer :=
  Program.perform request

def rejection (reason : CloudSkillExecutionRejectionReason)
    (retryAfterSeconds : Option Int) : CloudSkillExecutionReservationResult :=
  .error ⟨reason, retryAfterSeconds⟩

def refuse (reason : CloudSkillExecutionRejectionReason) (retryAfterSeconds : Option Int) :
    PgReservationProgram CloudSkillExecutionReservationResult := do
  query .rollback
  return rejection reason retryAfterSeconds

variable (params : CloudSkillExecutionReservationRequest)

def replayOf (existing : CloudSkillExecutionReservation) : CloudSkillExecutionReservationResult :=
  if params.sameBinding existing then .ok existing
  else rejection .idempotencyConflict none

def replay (now : Instant)
    (existing : CloudSkillExecutionReservation) :
    PgReservationProgram CloudSkillExecutionReservationResult := do
  if existing.releasedAt.isNone && existing.leaseExpiresAt ≤ now then (do
    let expired : Option CloudSkillExecutionReservation ←
      query (.updateReleased existing.reservationId now)
    query .commit
    return replayOf params (expired.getD existing))
  else (do
    query .commit
    return replayOf params existing)

variable (now leaseTtlMs : Int)

def reserveWithinLimits (plan : CloudSkillPlanRecord)
    (subscription : CloudSkillSubscriptionRecord) :
    PgReservationProgram CloudSkillExecutionReservationResult := do
  let cycleUsage : Nat ← query (.countCycle subscription params.skillId now)
  if plan.includedCalls ≤ (cycleUsage : Int) then refuse .quotaExceeded none
  else (do
    let minuteUsage : Nat ← query (.countMinute subscription.subscriptionId params.tenantId
      params.userId params.deviceId now)
    if plan.requestsPerMinute ≤ (minuteUsage : Int) then
      refuse .rateLimited (some (max 1 ((minuteStart now + 60000 - now + 999) / 1000)))
    else (do
      let active : Nat × Option Instant ← query (.countActive subscription.subscriptionId
        params.tenantId params.userId params.deviceId now)
      if plan.maxConcurrency ≤ (active.1 : Int) then
        refuse .concurrencyLimit (active.2.bind fun next => retryAfterSeconds next now)
      else (do
        let inserted : CloudSkillExecutionReservation ←
          query (.insert params now leaseTtlMs subscription)
        query .commit
        return .ok inserted)))

def reserveThrough
    (plan : CloudSkillPlanRecord) (subscription : CloudSkillSubscriptionRecord) :
    PgReservationProgram CloudSkillExecutionReservationResult := do
  if subscription.status ≠ .active || now < subscription.startsAt ||
      subscription.expiresAt ≤ now then refuse .subscriptionInactive none
  else if plan.planId ≠ subscription.planId then refuse .planMismatch none
  else (do
    let entitlement : Option CloudSkillEntitlementRecord ←
      query (.lockEntitlement subscription.subscriptionId params.tenantId params.userId
        params.skillId params.planId now)
    match entitlement with
    | none => refuse .skillNotEntitled none
    | some _ => do
      query (.expireLeases subscription.subscriptionId now)
      reserveWithinLimits params now leaseTtlMs plan subscription)

def admitExecution :
    PgReservationProgram CloudSkillExecutionReservationResult := do
  let planRow : Option CloudSkillPlanRecord ← query (.selectPlan params.planId)
  match planRow with
  | none => refuse .planMismatch none
  | some plan => do
    let subscriptionRow : Option CloudSkillSubscriptionRecord ←
      query (.lockSubscription params.planId params.userId params.tenantId params.subscriptionId)
    match subscriptionRow with
    | none => refuse .planMismatch none
    | some subscription => reserveThrough params now leaseTtlMs plan subscription

def transaction :
    PgReservationProgram CloudSkillExecutionReservationResult := do
  query .begin
  let existing : Option CloudSkillExecutionReservation ←
    query (.selectExistingForUpdate params.taskId)
  match existing with
  | some existing => replay params now existing
  | none => admitExecution params now leaseTtlMs

/-- The `catch` block: another transaction may have reserved the task. -/
def recover (error : PgReservationError) :
    PgReservationProgram CloudSkillExecutionReservationResult := do
  query .rollback
  if error = .uniqueViolation then (do
    let existing : Option CloudSkillExecutionReservation ← query (.selectExisting params.taskId)
    match existing with
    | some row => return replayOf params row
    | none => return rejection .storageUnavailable none)
  else return rejection .storageUnavailable none

def reserveCloudSkillExecution (clock : Instant) (params : CloudSkillExecutionReservationRequest) :
    PgReservationProgram CloudSkillExecutionReservationResult :=
  if !params.isWellFormed then return rejection .invalidRequest none
  else
    match parseExecutionNow clock params.now, normalizeLeaseTtl params.leaseTtlMs with
    | some now, some leaseTtlMs =>
      (transaction params now leaseTtlMs).tryCatch (recover params)
    | _, _ => return rejection .invalidRequest none

/-- One call as the server makes it: without a date, so that its time is the
clock when it starts. -/
def serveReservation :
    PgReservationProgram Unit := do
  let undated := { params with now := none }
  let clock : Instant ← query (.call undated)
  let result ← reserveCloudSkillExecution clock undated
  query (.answer undated result)

end PgReservationStore

def reservationServer : Machine PgReservationState PgReservationCall
    PgReservationCall.Answer PgReservationError String
    CloudSkillExecutionReservationRequest PgReservationState.Event where
  perform thread request generated state := state.execute thread generated request
  program := PgReservationStore.serveReservation
  environment event state := state.occur event

abbrev ReservationPool :=
  Pool PgReservationState PgReservationCall PgReservationCall.Answer PgReservationError

def onePlan : CloudSkillPlanRecord where
  planId := "plan"
  name := "plan"
  description := ""
  skillIds := ["a.skill.b"]
  priceMonthlyFen := 0
  priceYearlyFen := 0
  includedCalls := 1
  requestsPerMinute := 1
  maxConcurrency := 2
  status := .listed
  createdAt := 0

def oneSubscription : CloudSkillSubscriptionRecord where
  subscriptionId := "subscription"
  userId := "user"
  tenantId := "tenant"
  planId := "plan"
  status := .active
  period := .monthly
  startsAt := 0
  expiresAt := 1000
  cancelledAt := none
  refundedAt := none
  sourceOrderId := "order"
  createdAt := 0

def oneCallLeft : PgReservationState where
  clock := 1
  plans := .set .empty "plan" onePlan
  subscriptions := .set .empty "subscription" oneSubscription
  entitlements := .set .empty "entitlement"
    ⟨"entitlement", "subscription", "tenant", "user", "a.skill.b", "plan", .active, 1000, 0⟩
  rows := []
  locks := .empty
  sessions := fun _ => .empty
  history := []

def reservationOf (taskId : String) : CloudSkillExecutionReservationRequest where
  taskId
  userId := "user"
  tenantId := "tenant"
  deviceId := "device"
  agentId := "agent"
  skillId := "a.skill.b"
  planId := "plan"
  subscriptionId := none
  inputDigest := none
  now := none
  leaseTtlMs := none

end LongHub
