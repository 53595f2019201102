import LongHub.CloudSkillStore

/-!
# Execution reservations of the in-memory store

`reserveCloudSkillExecution` admits one execution of a Cloud Skill and takes a concurrency lease;
`releaseCloudSkillExecution` gives the lease back.
-/

namespace LongHub

inductive DateInput where
  | instant (value : Instant)
  | invalid

def parseExecutionNow (clock : Instant) : Option DateInput → Option Instant
  | none => some clock
  | some (.instant value) => some value
  | some .invalid => none

inductive CloudSkillExecutionRejectionReason where
  | quotaExceeded
  | rateLimited
  | concurrencyLimit
  | subscriptionInactive
  | skillNotEntitled
  | planMismatch
  | idempotencyConflict
  | invalidRequest
  | storageUnavailable

structure CloudSkillExecutionReservationRequest where
  taskId : String
  userId : String
  tenantId : String
  deviceId : String
  agentId : String
  skillId : String
  planId : String
  subscriptionId : Option String
  inputDigest : Option String
  now : Option DateInput
  leaseTtlMs : Option Int

structure ReservationRejection where
  reason : CloudSkillExecutionRejectionReason
  retryAfterSeconds : Option Int

abbrev CloudSkillExecutionReservationResult :=
  Except ReservationRejection CloudSkillExecutionReservation

structure CloudSkillExecutionReleaseRequest where
  reservationId : Option String
  taskId : Option String
  userId : Option String
  tenantId : Option String
  now : Option DateInput

structure CloudSkillExecutionReleaseResult where
  released : Bool
  reservation : Option CloudSkillExecutionReservation

namespace CloudSkillExecutionReservationRequest

def isWellFormed (params : CloudSkillExecutionReservationRequest) : Bool :=
  [params.taskId, params.userId, params.tenantId, params.deviceId, params.agentId,
      params.skillId, params.planId].all (isBoundedText 256) &&
    params.subscriptionId.all (isBoundedText 256) &&
    params.inputDigest.all (isBoundedText 512)

/-- The row was made for the same user, device, agent, Skill and input. -/
def sameBinding (params : CloudSkillExecutionReservationRequest)
    (existing : CloudSkillExecutionReservation) : Bool :=
  existing.userId = params.userId && existing.tenantId = params.tenantId &&
    existing.deviceId = params.deviceId && existing.agentId = params.agentId &&
    existing.skillId = params.skillId && existing.planId = params.planId &&
    params.subscriptionId.all (fun subscriptionId =>
      existing.subscriptionId = subscriptionId) &&
    existing.inputDigest = params.inputDigest

end CloudSkillExecutionReservationRequest

/-- A lease between one second and fifteen minutes, five minutes by default. -/
def normalizeLeaseTtl : Option Int → Option Int
  | none => some 300000
  | some value => if 1000 ≤ value && value ≤ 900000 then some value else none

def retryAfterSeconds (until_ now : Instant) : Option Int :=
  if until_ ≤ now then none else some (max 1 ((until_ - now + 999) / 1000))

/-- Minutes of the clock, not of the call. -/
def minuteStart (now : Instant) : Instant := now / 60000 * 60000

namespace CloudSkillExecutionReservation

def expireAt (now : Instant) (reservation : CloudSkillExecutionReservation) :
    CloudSkillExecutionReservation :=
  if reservation.releasedAt.isNone && reservation.leaseExpiresAt ≤ now then
    { reservation with releasedAt := some now }
  else reservation

/-- Counted against the included calls of the cycle. -/
def countsInCycle (subscription : CloudSkillSubscriptionRecord) (skillId : String)
    (now : Instant) (reservation : CloudSkillExecutionReservation) : Bool :=
  reservation.subscriptionId = subscription.subscriptionId &&
    reservation.skillId = skillId && subscription.startsAt ≤ reservation.reservedAt &&
    reservation.reservedAt ≤ now

def isOwnedBy (subscriptionId tenantId userId deviceId : String)
    (reservation : CloudSkillExecutionReservation) : Bool :=
  reservation.subscriptionId = subscriptionId && reservation.tenantId = tenantId &&
    reservation.userId = userId && reservation.deviceId = deviceId

def countsInMinute (now : Instant) (reservation : CloudSkillExecutionReservation) : Bool :=
  minuteStart now ≤ reservation.reservedAt && reservation.reservedAt ≤ now

def isLeased (now : Instant) (reservation : CloudSkillExecutionReservation) : Bool :=
  reservation.releasedAt.isNone && now < reservation.leaseExpiresAt

end CloudSkillExecutionReservation

namespace CloudSkillTables

open CloudSkillExecutionReservation

variable (tables : CloudSkillTables)

def expireCloudSkillExecutionLeases (now : Instant) : CloudSkillTables :=
  { tables with reservations := tables.reservations.mapValues fun _ => expireAt now }

def reservationOfTask (taskId : String) : Option CloudSkillExecutionReservation :=
  (tables.reservationsByTask.get? taskId).bind tables.reservations.get?

private def reject {α : Type} (reason : CloudSkillExecutionRejectionReason)
    (retryAfterSeconds : Option Int) : Except ReservationRejection α :=
  .error ⟨reason, retryAfterSeconds⟩

def checkSubscription (now : Instant) (params : CloudSkillExecutionReservationRequest) :
    Except ReservationRejection (CloudSkillPlanRecord × CloudSkillSubscriptionRecord) :=
  match tables.plans.get? params.planId with
  | none => reject .planMismatch none
  | some plan =>
    match newestFirst CloudSkillSubscriptionRecord.createdAt
        (tables.subscriptions.values.filter fun subscription =>
          subscription.planId = params.planId && subscription.userId = params.userId &&
            subscription.tenantId = params.tenantId &&
            params.subscriptionId.all fun subscriptionId =>
              subscription.subscriptionId = subscriptionId) with
    | [] => reject .planMismatch none
    | subscription :: _ =>
      if subscription.status ≠ .active || now < subscription.startsAt ||
          subscription.expiresAt ≤ now then reject .subscriptionInactive none
      else if !plan.skillIds.contains params.skillId then reject .skillNotEntitled none
      else if !tables.entitlements.values.any fun candidate =>
          candidate.subscriptionId = subscription.subscriptionId &&
            candidate.tenantId = params.tenantId && candidate.userId = params.userId &&
            candidate.skillId = params.skillId && candidate.planId = params.planId &&
            candidate.status = .active && now < candidate.expiresAt then
        reject .skillNotEntitled none
      else .ok (plan, subscription)

/-- Quota, rate and concurrency, in this order. -/
def checkLimits (now : Instant)
    (params : CloudSkillExecutionReservationRequest) (plan : CloudSkillPlanRecord)
    (subscription : CloudSkillSubscriptionRecord) : Except ReservationRejection Unit :=
  let rows := tables.reservations.values
  let ownerRows := rows.filter
    (isOwnedBy subscription.subscriptionId params.tenantId params.userId params.deviceId)
  let active := ownerRows.filter (isLeased now)
  if plan.includedCalls ≤ (rows.countP (countsInCycle subscription params.skillId now) : Int)
  then reject .quotaExceeded none
  else if plan.requestsPerMinute ≤ (ownerRows.countP (countsInMinute now) : Int) then
    reject .rateLimited (some (max 1 ((minuteStart now + 60000 - now + 999) / 1000)))
  else if plan.maxConcurrency ≤ (active.length : Int) then
    reject .concurrencyLimit
      ((active.map (·.leaseExpiresAt)).min?.bind fun next => retryAfterSeconds next now)
  else .ok ()

def newReservation (now leaseTtlMs : Int) (params : CloudSkillExecutionReservationRequest)
    (subscription : CloudSkillSubscriptionRecord) : CloudSkillExecutionReservation where
  reservationId := generatedId "csres-" tables.nextId
  taskId := params.taskId
  userId := params.userId
  tenantId := params.tenantId
  deviceId := params.deviceId
  agentId := params.agentId
  skillId := params.skillId
  planId := params.planId
  subscriptionId := subscription.subscriptionId
  inputDigest := params.inputDigest
  periodStart := subscription.startsAt
  reservedAt := now
  leaseExpiresAt := now + leaseTtlMs
  releasedAt := none

def insertReservation (reservation : CloudSkillExecutionReservation) : CloudSkillTables :=
  { tables with
    nextId := tables.nextId + 1
    reservations := tables.reservations.set reservation.reservationId reservation
    reservationsByTask := tables.reservationsByTask.set reservation.taskId
      reservation.reservationId }

def admitExecution (now leaseTtlMs : Int) (params : CloudSkillExecutionReservationRequest) :
    CloudSkillExecutionReservationResult × CloudSkillTables :=
  match tables.checkSubscription now params with
  | .error rejection => (.error rejection, tables)
  | .ok (plan, subscription) =>
    match tables.checkLimits now params plan subscription with
    | .error rejection => (.error rejection, tables)
    | .ok () =>
      let reservation := tables.newReservation now leaseTtlMs params subscription
      (.ok reservation, tables.insertReservation reservation)

/-- A task that has a reservation gets it again. -/
def reserveCloudSkillExecution (clock : Instant) (params : CloudSkillExecutionReservationRequest) :
    CloudSkillExecutionReservationResult × CloudSkillTables :=
  if !params.isWellFormed then (reject .invalidRequest none, tables)
  else
    match parseExecutionNow clock params.now, normalizeLeaseTtl params.leaseTtlMs with
    | some now, some leaseTtlMs =>
      let expired := tables.expireCloudSkillExecutionLeases now
      match expired.reservationOfTask params.taskId with
      | some existing =>
        if params.sameBinding existing then (.ok existing, expired)
        else (reject .idempotencyConflict none, expired)
      | none =>
        -- an index entry without its reservation is dropped
        { expired with
          reservationsByTask := expired.reservationsByTask.delete params.taskId
        }.admitExecution now leaseTtlMs params
    | _, _ => (reject .invalidRequest none, tables)

def releaseCloudSkillExecution (clock : Instant) (params : CloudSkillExecutionReleaseRequest) :
    CloudSkillExecutionReleaseResult × CloudSkillTables :=
  match parseExecutionNow clock params.now with
  | none => (⟨false, none⟩, tables)
  | some now =>
    if params.reservationId.getD "" = "" && params.taskId.getD "" = "" then
      (⟨false, none⟩, tables)
    else
      let expired := tables.expireCloudSkillExecutionLeases now
      let reservationId := params.reservationId <|>
        expired.reservationsByTask.get? (params.taskId.getD "")
      match reservationId.bind expired.reservations.get? with
      | none => (⟨false, none⟩, expired)
      | some reservation =>
        if params.taskId.any (reservation.taskId ≠ ·) ||
            params.userId.any (reservation.userId ≠ ·) ||
            params.tenantId.any (reservation.tenantId ≠ ·) then
          (⟨false, none⟩, expired)
        else if reservation.releasedAt.isSome then
          (⟨false, some reservation⟩, expired)
        else
          let released := { reservation with releasedAt := some now }
          (⟨true, some released⟩, { expired with
            reservations := expired.reservations.set reservation.reservationId released })

end CloudSkillTables

end LongHub
