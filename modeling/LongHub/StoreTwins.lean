import LongHub.ReservationEffects
import LongHub.ListLemmas

/-!
# Reservations in two stores

The PostgreSQL store one call at a time, and what its rows share with those of the other store.
-/

namespace LongHub

/-! ## Reservations of the PostgreSQL store, one call at a time -/

structure NewestChoice where
  choose : List CloudSkillSubscriptionRecord → Option CloudSkillSubscriptionRecord
  isSome : ∀ rows, choose rows = none → rows = []
  mem : ∀ rows subscription, choose rows = some subscription → subscription ∈ rows
  newest : ∀ rows subscription, choose rows = some subscription →
    ∀ other ∈ rows, other.createdAt ≤ subscription.createdAt

structure PgReservationTables where
  plans : InsertionMap String CloudSkillPlanRecord
  subscriptions : InsertionMap String CloudSkillSubscriptionRecord
  entitlements : InsertionMap String CloudSkillEntitlementRecord
  rows : List CloudSkillExecutionReservation

def CloudSkillExecutionReservationRequest.matchesSubscription
    (params : CloudSkillExecutionReservationRequest)
    (subscription : CloudSkillSubscriptionRecord) : Bool :=
  subscription.planId = params.planId && subscription.userId = params.userId &&
    subscription.tenantId = params.tenantId &&
    params.subscriptionId.all fun subscriptionId => subscription.subscriptionId = subscriptionId

def CloudSkillExecutionReleaseRequest.matchesRow (params : CloudSkillExecutionReleaseRequest)
    (row : CloudSkillExecutionReservation) : Bool :=
  params.taskId.all (row.taskId = ·) && params.userId.all (row.userId = ·) &&
    params.tenantId.all (row.tenantId = ·)

namespace PgReservationTables

open CloudSkillExecutionReservation

variable (tables : PgReservationTables)

def reject {α : Type} (reason : CloudSkillExecutionRejectionReason)
    (retryAfterSeconds : Option Int) : Except ReservationRejection α :=
  .error ⟨reason, retryAfterSeconds⟩

def checkSubscription (choice : NewestChoice) (now : Instant)
    (params : CloudSkillExecutionReservationRequest) :
    Except ReservationRejection (CloudSkillPlanRecord × CloudSkillSubscriptionRecord) :=
  match tables.plans.get? params.planId with
  | none => reject .planMismatch none
  | some plan =>
    match choice.choose (tables.subscriptions.values.filter params.matchesSubscription) with
    | none => reject .planMismatch none
    | some subscription =>
      if subscription.status ≠ .active || now < subscription.startsAt ||
          subscription.expiresAt ≤ now then reject .subscriptionInactive none
      else if plan.planId ≠ subscription.planId then reject .planMismatch none
      else if !tables.entitlements.values.any fun entitlement =>
          ((tables.plans.get? entitlement.planId).any fun plan =>
            plan.skillIds.contains entitlement.skillId) &&
          entitlement.subscriptionId = subscription.subscriptionId &&
            entitlement.tenantId = params.tenantId && entitlement.userId = params.userId &&
            entitlement.skillId = params.skillId && entitlement.planId = params.planId &&
            entitlement.status = .active && now < entitlement.expiresAt then
        reject .skillNotEntitled none
      else .ok (plan, subscription)

def expireLeases (subscriptionId : String) (now : Instant) : List CloudSkillExecutionReservation :=
  tables.rows.map fun row => if row.subscriptionId = subscriptionId then row.expireAt now else row

/-- Count the quota, the rate and the concurrency. -/
def checkLimits (rows : List CloudSkillExecutionReservation) (now : Instant)
    (params : CloudSkillExecutionReservationRequest) (plan : CloudSkillPlanRecord)
    (subscription : CloudSkillSubscriptionRecord) : Except ReservationRejection Unit :=
  let isOwned := isOwnedBy subscription.subscriptionId params.tenantId params.userId params.deviceId
  let active := rows.filter fun row => isOwned row && row.isLeased now
  if plan.includedCalls ≤ (rows.countP (countsInCycle subscription params.skillId now) : Int)
  then reject .quotaExceeded none
  else if plan.requestsPerMinute ≤
      (rows.countP fun row => isOwned row && row.countsInMinute now : Nat) then
    reject .rateLimited (some (max 1 ((minuteStart now + 60000 - now + 999) / 1000)))
  else if plan.maxConcurrency ≤ (active.length : Int) then
    reject .concurrencyLimit
      ((active.map (·.leaseExpiresAt)).min?.bind fun next => retryAfterSeconds next now)
  else .ok ()

def newRow (reservationId : String) (now leaseTtlMs : Int)
    (params : CloudSkillExecutionReservationRequest)
    (subscription : CloudSkillSubscriptionRecord) : CloudSkillExecutionReservation where
  reservationId
  taskId := params.taskId
  userId := params.userId
  tenantId := params.tenantId
  deviceId := params.deviceId
  agentId := params.agentId
  skillId := params.skillId
  planId := params.planId
  subscriptionId := subscription.subscriptionId
  inputDigest := params.inputDigest
  periodStart := subscription.startsAt
  reservedAt := now
  leaseExpiresAt := now + leaseTtlMs
  releasedAt := none

def hasReferences (row : CloudSkillExecutionReservation) : Bool :=
  (tables.subscriptions.get? row.subscriptionId).any (fun subscription =>
    subscription.planId = row.planId && subscription.tenantId = row.tenantId &&
      subscription.userId = row.userId) &&
  (tables.plans.get? row.planId).any fun plan => plan.skillIds.contains row.skillId

def admitExecution (choice : NewestChoice) (generated : String) (now leaseTtlMs : Int)
    (params : CloudSkillExecutionReservationRequest) :
    CloudSkillExecutionReservationResult × PgReservationTables :=
  match tables.checkSubscription choice now params with
  | .error rejection => (.error rejection, tables)
  | .ok (plan, subscription) =>
    let rows := tables.expireLeases subscription.subscriptionId now
    match checkLimits rows now params plan subscription with
    | .error rejection => (.error rejection, tables)
    | .ok () =>
      let row := newRow ("csres-" ++ generated) now leaseTtlMs params subscription
      if tables.hasReferences row then (.ok row, { tables with rows := rows ++ [row] })
      else (reject .storageUnavailable none, tables)

/-- The reservation of a task is marked if its lease has run out. -/
def reserveCloudSkillExecution (choice : NewestChoice) (generated : String) (clock : Instant)
    (params : CloudSkillExecutionReservationRequest) :
    CloudSkillExecutionReservationResult × PgReservationTables :=
  if !params.isWellFormed then (reject .invalidRequest none, tables)
  else
    match parseExecutionNow clock params.now, normalizeLeaseTtl params.leaseTtlMs with
    | some now, some leaseTtlMs =>
      match tables.rows.find? (·.taskId = params.taskId) with
      | some existing =>
        let expired := { tables with
          rows := tables.rows.map fun row =>
            if row.reservationId = existing.reservationId then row.expireAt now else row }
        if params.sameBinding (existing.expireAt now) then (.ok (existing.expireAt now), expired)
        else (reject .idempotencyConflict none, expired)
      | none => tables.admitExecution choice generated now leaseTtlMs params
    | _, _ => (reject .invalidRequest none, tables)

def findRow (params : CloudSkillExecutionReleaseRequest) : Option CloudSkillExecutionReservation :=
  if params.reservationId.getD "" ≠ "" then
    tables.rows.find? fun row => some row.reservationId = params.reservationId
  else tables.rows.find? fun row => some row.taskId = params.taskId

def releaseCloudSkillExecution (clock : Instant) (params : CloudSkillExecutionReleaseRequest) :
    CloudSkillExecutionReleaseResult × PgReservationTables :=
  match parseExecutionNow clock params.now with
  | none => (⟨false, none⟩, tables)
  | some now =>
    if params.reservationId.getD "" = "" && params.taskId.getD "" = "" then
      (⟨false, none⟩, tables)
    else
      match tables.findRow params with
      | none => (⟨false, none⟩, tables)
      | some row =>
        if !params.matchesRow row then (⟨false, none⟩, tables)
        else if row.releasedAt.isSome then (⟨false, some row⟩, tables)
        else
          let released := { row with releasedAt := some now }
          (⟨now < row.leaseExpiresAt, some released⟩, { tables with
            rows := tables.rows.map fun other =>
              if other.reservationId = row.reservationId then released else other })

end PgReservationTables

/-! ## Reservations of two stores -/

open CloudSkillExecutionReservation

/-- What the two stores record of one reservation by a time. -/
structure Twin (now : Instant) (memory pg : CloudSkillExecutionReservation) : Prop where
  same : pg = { memory with reservationId := pg.reservationId, releasedAt := pg.releasedAt }
  released : memory.releasedAt = pg.releasedAt ∨
    (∃ marked, memory.releasedAt = some marked ∧ memory.leaseExpiresAt ≤ marked ∧ marked ≤ now) ∧
    ∀ marked, pg.releasedAt = some marked → memory.leaseExpiresAt ≤ marked

namespace Twin

variable {now later : Instant} {memory pg : CloudSkillExecutionReservation}

variable (twin : Twin now memory pg)
include twin

theorem leaseExpiresAt : pg.leaseExpiresAt = memory.leaseExpiresAt := by
  rw [twin.same]

theorem taskId : pg.taskId = memory.taskId := by
  rw [twin.same]

theorem mono (after_ : now ≤ later) : Twin later memory pg where
  __ := twin
  released := by
    rcases twin.released with equal | ⟨⟨marked, markedAt, elapsed, before⟩, pgOver⟩
    · exact .inl equal
    · exact .inr ⟨⟨marked, markedAt, elapsed, le_trans before after_⟩, pgOver⟩

theorem test_eq {test : CloudSkillExecutionReservation → Bool}
    (unread : ∀ row reservationId releasedAt,
      test { row with reservationId, releasedAt } = test row) : test memory = test pg :=
  ((congrArg test twin.same).trans (unread memory _ _)).symm

theorem isLeased_eq (after_ : now ≤ later) : memory.isLeased later = pg.isLeased later := by
  rcases twin.released with equal | ⟨⟨marked, -, elapsed, before⟩, -⟩
  · simp only [isLeased, equal, twin.leaseExpiresAt]
  · have memoryOver : ¬ later < memory.leaseExpiresAt :=
      not_lt.mpr (le_trans elapsed (le_trans before after_))
    simp [isLeased, memoryOver, twin.leaseExpiresAt]

theorem expire_memory (after_ : now ≤ later) : Twin later (memory.expireAt later) pg := by
  rcases memory.expireAt_cases later with unchanged | ⟨held, elapsed, marked⟩
  · rw [unchanged]
    exact twin.mono after_
  · rw [marked]
    refine ⟨twin.same, .inr ⟨⟨later, rfl, elapsed, le_rfl⟩, ?_⟩⟩
    rcases twin.released with equal | ⟨-, pgOver⟩
    · rw [← equal, held]
      intro released absurd_
      cases absurd_
    · exact pgOver

theorem expire_both (after_ : now ≤ later) :
    Twin later (memory.expireAt later) (pg.expireAt later) := by
  have expired := twin.expire_memory after_
  rcases pg.expireAt_cases later with unchanged | ⟨held, elapsed, marked⟩
  · rw [unchanged]
    exact expired
  · rw [marked]
    rw [twin.leaseExpiresAt] at elapsed
    have same : { pg with releasedAt := some later } =
        { memory.expireAt later with
          reservationId := pg.reservationId, releasedAt := some later } := by
      have contents := expired.same
      conv_lhs => rw [contents]
    refine ⟨same, .inr ⟨?_, ?_⟩⟩
    · rcases memory.expireAt_cases later with kept | ⟨-, -, markedHere⟩
      · rw [kept]
        rcases twin.released with equal | ⟨⟨time, markedAt, timeOver, before⟩, -⟩
        · -- a held lease that has run out would have been marked
          exfalso
          rw [held] at equal
          have marks : memory.expireAt later = { memory with releasedAt := some later } := by
            simp [expireAt, equal, elapsed]
          rw [marks] at kept
          have released := congrArg CloudSkillExecutionReservation.releasedAt kept
          rw [equal] at released
          cases released
        · exact ⟨time, markedAt, timeOver, le_trans before after_⟩
      · rw [markedHere]
        exact ⟨later, rfl, elapsed, le_rfl⟩
    · intro time released
      cases released
      rcases memory.expireAt_cases later with kept | ⟨-, -, markedHere⟩
      · rw [kept]
        exact elapsed
      · rw [markedHere]
        exact elapsed

end Twin

/-- The rows of the two stores, in the order in which they were added. -/
abbrev Twins (now : Instant) : List CloudSkillExecutionReservation →
    List CloudSkillExecutionReservation → Prop :=
  List.Forall₂ (Twin now)

namespace Twins

variable {now later : Instant} {memory pg : List CloudSkillExecutionReservation}

theorem mono (twins : Twins now memory pg) (after_ : now ≤ later) : Twins later memory pg :=
  twins.imp fun _ _ twin => twin.mono after_

/-- The in-memory store marks every lease that has run out, and the other any
of them. -/
theorem expire (twins : Twins now memory pg) (after_ : now ≤ later)
    {mark : CloudSkillExecutionReservation → CloudSkillExecutionReservation}
    (marks : ∀ row, mark row = row ∨ mark row = row.expireAt later) :
    Twins later (memory.map (expireAt later)) (pg.map mark) := by
  induction twins with
  | nil => exact .nil
  | @cons one other _ _ twin rest ih =>
    refine .cons ?_ ih
    rcases marks other with kept | marked
    · rw [kept]
      exact twin.expire_memory after_
    · rw [marked]
      exact twin.expire_both after_

theorem checkLimits_eq (twins : Twins now memory pg)
    (params : CloudSkillExecutionReservationRequest) (plan : CloudSkillPlanRecord)
    (subscription : CloudSkillSubscriptionRecord) :
    PgReservationTables.checkLimits memory now params plan subscription =
      PgReservationTables.checkLimits pg now params plan subscription := by
  have owned (one other : CloudSkillExecutionReservation) (twin : Twin now one other) :
      one.isOwnedBy subscription.subscriptionId params.tenantId params.userId params.deviceId =
        other.isOwnedBy subscription.subscriptionId params.tenantId params.userId params.deviceId :=
    @Twin.test_eq _ _ _ twin (isOwnedBy _ _ _ _) fun _ _ _ => rfl
  have cycle : memory.countP (countsInCycle subscription params.skillId now) =
      pg.countP (countsInCycle subscription params.skillId now) :=
    twins.countP_eq fun _ _ twin => twin.test_eq fun _ _ _ => rfl
  have minute : memory.countP (fun row => row.isOwnedBy subscription.subscriptionId
        params.tenantId params.userId params.deviceId && row.countsInMinute now) =
      pg.countP (fun row => row.isOwnedBy subscription.subscriptionId params.tenantId params.userId
        params.deviceId && row.countsInMinute now) := by
    apply twins.countP_eq
    intro one other twin
    rw [owned one other twin]
    exact congrArg _ (twin.test_eq fun _ _ _ => rfl)
  have leased (one other : CloudSkillExecutionReservation) (twin : Twin now one other) :
      (one.isOwnedBy subscription.subscriptionId params.tenantId params.userId params.deviceId &&
          one.isLeased now) =
        (other.isOwnedBy subscription.subscriptionId params.tenantId params.userId
            params.deviceId && other.isLeased now) := by
    rw [owned one other twin, twin.isLeased_eq le_rfl]
  have ends := twins.map_filter_eq leased fun _ _ twin => twin.leaseExpiresAt.symm
  have count := congrArg List.length ends
  rw [List.length_map, List.length_map] at count
  simp only [PgReservationTables.checkLimits, cycle, minute, ends, count]

end Twins

namespace CloudSkillTables

/-- The limits of the in-memory store, as the other store counts them. -/
theorem checkLimits_eq_rows (tables : CloudSkillTables) (now : Instant)
    (params : CloudSkillExecutionReservationRequest) (plan : CloudSkillPlanRecord)
    (subscription : CloudSkillSubscriptionRecord) :
    tables.checkLimits now params plan subscription =
      PgReservationTables.checkLimits tables.reservations.values now params plan subscription := by
  simp only [checkLimits, PgReservationTables.checkLimits, List.countP_filter,
    List.filter_filter, Bool.and_comm]
  rfl

end CloudSkillTables

end LongHub
