import LongHub.StoreAgreement

/-!
# Runs of the two stores

A call goes to both stores.  Between calls their reservations are twins, which
every call keeps, and on twins a call takes the same decision.
-/

namespace LongHub

open Bool CloudSkillExecutionReservation List Option

namespace Twin

variable {now later : Instant} {memory pg : CloudSkillExecutionReservation}

theorem sameReservation_of_released (twin : Twin now memory pg) {marked : Instant}
    (pgReleased : pg.releasedAt = some marked) : SameReservation memory pg where
  __ := twin
  released := by
    rcases twin.released with equal | ⟨⟨time, memoryReleased, elapsed, -⟩, pgOver⟩
    · exact .inl equal
    · exact .inr ⟨time, marked, memoryReleased, pgReleased, elapsed, pgOver marked pgReleased⟩

/-- Leases that have run out are marked in both stores. -/
theorem sameReservation_expire (twin : Twin now memory pg) (after_ : now ≤ later) :
    SameReservation (memory.expireAt later) (pg.expireAt later) := by
  have expired := twin.expire_both after_
  cases released : (pg.expireAt later).releasedAt with
  | some marked => exact expired.sameReservation_of_released released
  | none =>
    refine ⟨expired.same, ?_⟩
    rcases expired.released with equal | ⟨⟨marked, -, elapsed, before⟩, -⟩
    · exact .inl equal
    · -- the lease of the other store would have been marked as well
      have sameEnd := twin.leaseExpiresAt
      have memoryEnd : (memory.expireAt later).leaseExpiresAt = memory.leaseExpiresAt := by
        rcases memory.expireAt_cases later with kept | ⟨-, -, marks⟩
        · rw [kept]
        · rw [marks]
      have ranOut : pg.leaseExpiresAt ≤ later := by
        rw [sameEnd, ← memoryEnd]
        exact le_trans elapsed before
      rcases pg.expireAt_cases later with kept | ⟨-, -, marks⟩
      · rw [kept] at released
        have marks : pg.expireAt later = { pg with releasedAt := some later } := by
          simp [expireAt, released, ranOut]
        rw [kept] at marks
        rw [marks] at released
        cases released
      · rw [marks] at released
        cases released

theorem ranOut (twin : Twin now memory pg) (after_ : now ≤ later) {marked : Instant}
    (released : (memory.expireAt later).releasedAt = some marked) (held : pg.releasedAt = none) :
    pg.leaseExpiresAt ≤ later := by
  rw [twin.leaseExpiresAt]
  rcases twin.released with equal | ⟨⟨time, -, elapsed, before⟩, -⟩
  · rcases memory.expireAt_cases later with kept | ⟨-, elapsed, -⟩
    · rw [kept, equal, held] at released
      cases released
    · exact elapsed
  · exact le_trans elapsed (le_trans before after_)

theorem held (twin : Twin now memory pg) (unmarked : (memory.expireAt later).releasedAt = none) :
    memory.expireAt later = memory ∧ pg.releasedAt = none ∧ later < pg.leaseExpiresAt := by
  rcases memory.expireAt_cases later with kept | ⟨-, -, marks⟩
  · rw [kept] at unmarked
    have lasts : later < memory.leaseExpiresAt := by
      by_contra elapsed
      have marks : memory.expireAt later = { memory with releasedAt := some later } := by
        simp [expireAt, unmarked, not_lt.mp elapsed]
      rw [kept] at marks
      rw [marks] at unmarked
      cases unmarked
    refine ⟨kept, ?_, twin.leaseExpiresAt ▸ lasts⟩
    rcases twin.released with equal | ⟨⟨time, memoryReleased, -, -⟩, -⟩
    · rw [← equal, unmarked]
    · rw [unmarked] at memoryReleased
      cases memoryReleased
  · rw [marks] at unmarked
    cases unmarked

theorem release (twin : Twin now memory pg) (time : Instant) :
    Twin later { memory with releasedAt := some time } { pg with releasedAt := some time } where
  same := by
    conv_lhs => rw [twin.same]
  released := .inl rfl

end Twin

namespace PgReservationTables

variable {pg : PgReservationTables} {choice : NewestChoice} {generated : String}
variable {params : CloudSkillExecutionReservationRequest} {clock now leaseTtlMs : Instant}

theorem reserve_of_valid (valid : CloudSkillTables.Valid clock params now leaseTtlMs) :
    pg.reserveCloudSkillExecution choice generated clock params =
      match pg.rows.find? (·.taskId = params.taskId) with
      | some existing =>
        (if params.sameBinding existing then .ok (existing.expireAt now)
          else .error ⟨.idempotencyConflict, none⟩,
          { pg with rows := pg.rows.map fun row =>
              if row.reservationId = existing.reservationId then row.expireAt now else row })
      | none => pg.admitExecution choice generated now leaseTtlMs params := by
  simp only [reserveCloudSkillExecution, valid.wellFormed, valid.now, valid.lease, Bool.not_true,
    false_eq_true, if_false]
  cases found : pg.rows.find? (·.taskId = params.taskId) with
  | none => rfl
  | some existing =>
    simp only [CloudSkillTables.sameBinding_expireAt]
    split <;> rfl

theorem reserve_of_invalid
    (invalid : ∀ now leaseTtlMs, ¬ CloudSkillTables.Valid clock params now leaseTtlMs) :
    pg.reserveCloudSkillExecution choice generated clock params =
      (.error ⟨.invalidRequest, none⟩, pg) := by
  simp only [reserveCloudSkillExecution]
  split
  · rfl
  next wellFormed =>
  split
  · next now leaseTtlMs parsed normalized =>
    exact absurd ⟨by simpa using wellFormed, parsed, normalized⟩ (invalid now leaseTtlMs)
  · rfl

end PgReservationTables

namespace ReservationStores

def targetIds (stores : ReservationStores) : ReleaseTarget → Option String × Option String
  | .unnamed => (none, none)
  | .returned position =>
    (stores.memory.reservations.values[position]?.map (·.reservationId),
      stores.pg.rows[position]?.map (·.reservationId))
  | .unknown text => (some text, some text)

def reserve (choice : NewestChoice) (stores : ReservationStores) (clock : Instant)
    (generated : String) (params : CloudSkillExecutionReservationRequest) :
    (CloudSkillExecutionReservationResult × CloudSkillTables) ×
      CloudSkillExecutionReservationResult × PgReservationTables :=
  (stores.memory.reserveCloudSkillExecution clock params,
    stores.pg.reserveCloudSkillExecution choice generated clock params)

def release (stores : ReservationStores) (clock : Instant) (target : ReleaseTarget)
    (params : CloudSkillExecutionReleaseRequest) :
    (CloudSkillExecutionReleaseResult × CloudSkillTables) ×
      CloudSkillExecutionReleaseResult × PgReservationTables :=
  (stores.memory.releaseCloudSkillExecution clock
      { params with reservationId := (stores.targetIds target).1 },
    stores.pg.releaseCloudSkillExecution clock
      { params with reservationId := (stores.targetIds target).2 })

def step (choice : NewestChoice) (stores : ReservationStores) : StoreCall → Option ReservationStores
  | .reserve clock generated params =>
    let results := stores.reserve choice clock generated params
    some ⟨results.1.2, results.2.2, (parseExecutionNow clock params.now).getD stores.now⟩
  | .release clock target params =>
    let results := stores.release clock target params
    some ⟨results.1.2, results.2.2, (parseExecutionNow clock params.now).getD stores.now⟩

def Agrees (choice : NewestChoice) (stores : ReservationStores) : StoreCall → Prop
  | .reserve clock generated params =>
    SameAnswer (stores.reserve choice clock generated params).1.1
      (stores.reserve choice clock generated params).2.1
  | .release clock target params =>
    SameRelease (stores.release clock target params).1.1 (stores.release clock target params).2.1

/-- Time does not go back, and the ids that are generated or unknown are new. -/
def Serial (stores : ReservationStores) : StoreCall → Prop
  | .reserve clock generated params =>
    (∀ now, parseExecutionNow clock params.now = some now → stores.now ≤ now) ∧
      ∀ row ∈ stores.pg.rows, row.reservationId ≠ "csres-" ++ generated
  | .release clock target params =>
    (∀ now, parseExecutionNow clock params.now = some now → stores.now ≤ now) ∧
      ∀ text, target = .unknown text → stores.memory.reservations.get? text = none ∧
          ∀ row ∈ stores.pg.rows, row.reservationId ≠ text

def Clear (stores : ReservationStores) : StoreCall → Prop
  | .reserve _ _ params => stores.memory.UniqueNewest params
  | .release _ target params =>
    target = .unknown "" → ∀ row ∈ stores.pg.rows,
      params.taskId = some row.taskId → params.matchesRow row = false

/-- What the stores have in common between calls. -/
structure Linked (stores : ReservationStores) : Prop where
  shares : stores.pg.SharesWith stores.memory
  plansKeyed : stores.memory.PlansKeyed
  subscriptionsKeyed : stores.memory.SubscriptionsKeyed
  indexed : stores.memory.ReservationsIndexed
  tasks : stores.memory.TasksIndexed
  twins : Twins stores.now stores.memory.reservations.values stores.pg.rows
  distinct : (stores.pg.rows.map (·.reservationId)).Nodup
  named : ∀ row ∈ stores.pg.rows, row.reservationId ≠ ""

namespace Linked

open CloudSkillTables

variable {stores : ReservationStores} {choice : NewestChoice}

variable {now : Instant}

theorem sameIds_expire (rows : List CloudSkillExecutionReservation)
    {mark : CloudSkillExecutionReservation → CloudSkillExecutionReservation}
    (marks : ∀ row, mark row = row ∨ mark row = row.expireAt now) :
    (rows.map mark).map (·.reservationId) = rows.map (·.reservationId) := by
  rw [List.map_map]
  apply map_congr_left
  intro row _
  simp only [Function.comp_apply]
  rcases marks row with kept | marked
  · rw [kept]
  · rw [marked]
    rcases row.expireAt_cases now with kept | ⟨-, -, marked⟩
    · rw [kept]
    · rw [marked]

variable (linked : stores.Linked)
include linked

theorem wait (later : stores.now ≤ now) : Linked ⟨stores.memory, stores.pg, now⟩ :=
  { linked with twins := linked.twins.mono later }

theorem marks (memory : CloudSkillTables)
    {rows : List CloudSkillExecutionReservation} (samePlans : memory.plans = stores.memory.plans)
    (sameSubscriptions : memory.subscriptions = stores.memory.subscriptions)
    (sameEntitlements : memory.entitlements = stores.memory.entitlements)
    (indexed : memory.ReservationsIndexed) (tasks : memory.TasksIndexed)
    (twins : Twins now memory.reservations.values rows)
    (sameIds : rows.map (·.reservationId) = stores.pg.rows.map (·.reservationId)) :
    Linked ⟨memory, { stores.pg with rows }, now⟩ where
  shares :=
    { plans := by rw [samePlans]; exact linked.shares.plans
      subscriptions := by rw [sameSubscriptions]; exact linked.shares.subscriptions
      entitlements := by rw [sameEntitlements]; exact linked.shares.entitlements }
  plansKeyed := by
    intro key plan found
    rw [samePlans] at found
    exact linked.plansKeyed key plan found
  subscriptionsKeyed := by
    intro key subscription found
    rw [sameSubscriptions] at found
    exact linked.subscriptionsKeyed key subscription found
  indexed
  tasks
  twins
  distinct := by rw [sameIds]; exact linked.distinct
  named := by
    intro row mem empty
    have idIn := List.mem_map_of_mem (f := fun row => row.reservationId) mem
    rw [sameIds] at idIn
    obtain ⟨old, oldIn, sameId⟩ := List.mem_map.mp idIn
    exact linked.named old oldIn (sameId.trans empty)

theorem find_cases (taskId : String) :
    (stores.memory.reservationOfTask taskId = none ∧
        stores.pg.rows.find? (·.taskId = taskId) = none) ∨
      ∃ (index : Nat) (one other : CloudSkillExecutionReservation),
        stores.memory.reservationOfTask taskId = some one ∧
        stores.pg.rows.find? (·.taskId = taskId) = some other ∧
        stores.memory.reservations.values[index]? = some one ∧
        stores.pg.rows[index]? = some other := by
  rw [reservationOfTask_eq_find? linked.indexed linked.tasks]
  apply linked.twins.find?_cases
  intro one other twin
  rw [twin.taskId]

theorem expire {now : Instant} (later : stores.now ≤ now)
    {mark : CloudSkillExecutionReservation → CloudSkillExecutionReservation}
    (marks : ∀ row, mark row = row ∨ mark row = row.expireAt now) :
    Linked ⟨stores.memory.expireCloudSkillExecutionLeases now,
      { stores.pg with rows := stores.pg.rows.map mark }, now⟩ := by
  apply linked.marks (stores.memory.expireCloudSkillExecutionLeases now) rfl rfl rfl
    (linked.indexed.expire now) (linked.tasks.expire now)
  · rw [values_expire]
    exact linked.twins.expire later marks
  · exact sameIds_expire stores.pg.rows marks

theorem expireLeases (later : stores.now ≤ now) (subscriptionId : String) :
    Linked ⟨stores.memory.expireCloudSkillExecutionLeases now,
      { stores.pg with rows := stores.pg.expireLeases subscriptionId now }, now⟩ := by
  apply linked.expire later
  intro row
  split
  · exact .inr rfl
  · exact .inl rfl

theorem expire_memory (later : stores.now ≤ now) :
    Linked ⟨stores.memory.expireCloudSkillExecutionLeases now, stores.pg, now⟩ := by
  have expired := @expire _ linked _ later id fun row => .inl rfl
  rwa [List.map_id] at expired

theorem withoutTask {taskId : String} (absent : stores.memory.reservationOfTask taskId = none) :
    Linked ⟨stores.memory.withoutTask taskId, stores.pg, stores.now⟩ := by
  apply linked.marks (stores.memory.withoutTask taskId) rfl rfl rfl _
    (linked.tasks.withoutTask taskId) linked.twins rfl
  refine ⟨linked.indexed.rowKey, ?_, linked.indexed.fresh⟩
  intro key row stored
  have taskKey := linked.indexed.taskKey stored
  have other : row.taskId ≠ taskId := by
    intro same
    rw [same] at taskKey
    simp only [CloudSkillTables.withoutTask] at stored
    simp [reservationOfTask, taskKey, stored] at absent
  simpa [CloudSkillTables.withoutTask, other] using taskKey

theorem insert {leaseTtlMs : Int} {generated : String}
    {params : CloudSkillExecutionReservationRequest}
    {subscription : CloudSkillSubscriptionRecord}
    (unreserved : stores.memory.reservationOfTask params.taskId = none)
    (fresh : ∀ row ∈ stores.pg.rows, row.reservationId ≠ "csres-" ++ generated) :
    let one := stores.memory.newReservation stores.now leaseTtlMs params subscription
    let other := PgReservationTables.newRow ("csres-" ++ generated) stores.now leaseTtlMs params
      subscription
    Linked ⟨stores.memory.insertReservation one,
      { stores.pg with rows := stores.pg.rows ++ [other] }, stores.now⟩ := by
  intro one other
  have absent : stores.memory.reservations.get? one.reservationId = none := linked.indexed.absent
  refine ⟨⟨linked.shares.plans, linked.shares.subscriptions, linked.shares.entitlements⟩,
    linked.plansKeyed, linked.subscriptionsKeyed, ?_,
    linked.tasks.insertReservation absent, ?_, ?_, ?_⟩
  · apply linked.indexed.insertReservation rfl
    intro key row stored sameTask
    have taskKey := linked.indexed.taskKey stored
    rw [show row.taskId = params.taskId from sameTask] at taskKey
    simp [reservationOfTask, taskKey, stored] at unreserved
  · simp only [CloudSkillTables.insertReservation, InsertionMap.values_set_of_absent _ absent]
    exact rel_append linked.twins (.cons ⟨rfl, .inl rfl⟩ .nil)
  · rw [map_append, nodup_append]
    refine ⟨linked.distinct, nodup_singleton _, ?_⟩
    intro text textIn another isNew same
    obtain ⟨row, rowIn, rfl⟩ := List.mem_map.mp textIn
    rw [map_singleton, mem_singleton] at isNew
    exact fresh row rowIn (same.trans isNew)
  · intro row mem
    rcases mem_append.mp mem with old | new
    · exact linked.named row old
    · rw [mem_singleton.mp new]
      intro empty
      have prefixed := congrArg String.toList empty
      simp [other, PgReservationTables.newRow] at prefixed

theorem hasReferences {now leaseTtlMs : Int} {reservationId : String}
    {params : CloudSkillExecutionReservationRequest} {plan : CloudSkillPlanRecord}
    {subscription : CloudSkillSubscriptionRecord}
    (checked : stores.memory.checkSubscription now params = .ok (plan, subscription)) :
    stores.pg.hasReferences (PgReservationTables.newRow reservationId now leaseTtlMs params
      subscription) = true := by
  obtain ⟨planStored, mem, -⟩ := checkSubscription_eq_ok checked
  obtain ⟨key, stored⟩ := InsertionMap.mem_values_iff.mp mem
  have keyed := linked.subscriptionsKeyed key subscription stored
  subst keyed
  simp only [checkSubscription, planStored] at checked
  split at checked
  · cases checked
  next newest older ordered =>
  have matching := (mem_filter.mp (newestFirst_head ordered).1).2
  simp only [and_eq_true, decide_eq_true_eq] at matching
  split at checked
  · cases checked
  split at checked
  · cases checked
  next hasSkill =>
  split at checked
  · cases checked
  cases checked
  simp only [not_eq_true', not_eq_false] at hasSkill
  obtain ⟨⟨⟨ofPlan, ofUser⟩, ofTenant⟩, -⟩ := matching
  simp only [PgReservationTables.hasReferences, PgReservationTables.newRow, linked.shares.plans,
    linked.shares.subscriptions, stored, planStored, any_some, ofPlan, ofUser, ofTenant,
    hasSkill, decide_true, Bool.and_self]

theorem admitExecution {now leaseTtlMs : Int} {generated : String}
    {params : CloudSkillExecutionReservationRequest} (later : stores.now ≤ now)
    (absent : stores.memory.reservationOfTask params.taskId = none)
    (fresh : ∀ row ∈ stores.pg.rows, row.reservationId ≠ "csres-" ++ generated)
    (unique : stores.memory.UniqueNewest params) :
    let memory := ((stores.memory.expireCloudSkillExecutionLeases now).withoutTask
      params.taskId).admitExecution now leaseTtlMs params
    let pg := stores.pg.admitExecution choice generated now leaseTtlMs params
    SameAnswer memory.1 pg.1 ∧ Linked ⟨memory.2, pg.2, now⟩ := by
  intro memory pg
  have stillAbsent : (stores.memory.expireCloudSkillExecutionLeases now).reservationOfTask
      params.taskId = none := by
    rw [reservationOfTask_expire, absent, map_none]
  have quiet := (linked.expire_memory later).withoutTask stillAbsent
  have sameCheck := @PgReservationTables.checkSubscription_eq _ _ choice params quiet.shares
    quiet.plansKeyed unique now
  cases checked : ((stores.memory.expireCloudSkillExecutionLeases now).withoutTask
      params.taskId).checkSubscription now params with
  | error rejection =>
    dsimp only at sameCheck
    rw [checked] at sameCheck
    simp only [memory, pg, CloudSkillTables.admitExecution,
      PgReservationTables.admitExecution, checked, sameCheck]
    exact ⟨rfl, quiet⟩
  | ok both =>
    obtain ⟨plan, subscription⟩ := both
    dsimp only at sameCheck
    rw [checked] at sameCheck
    have marked := (linked.expireLeases later subscription.subscriptionId).withoutTask stillAbsent
    have sameLimits := (checkLimits_eq_rows ((stores.memory.expireCloudSkillExecutionLeases
      now).withoutTask params.taskId) now params plan subscription).trans
      (marked.twins.checkLimits_eq params plan subscription)
    cases within : ((stores.memory.expireCloudSkillExecutionLeases now).withoutTask
        params.taskId).checkLimits now params plan subscription with
    | error rejection =>
      dsimp only at sameLimits
      rw [within] at sameLimits
      simp only [memory, pg, CloudSkillTables.admitExecution,
        PgReservationTables.admitExecution, checked, sameCheck, within, ← sameLimits]
      exact ⟨rfl, quiet⟩
    | ok done =>
      dsimp only at sameLimits
      rw [within] at sameLimits
      have referenced := @hasReferences _ linked now leaseTtlMs ("csres-" ++ generated) params
        plan subscription checked
      have freshMarked : ∀ row ∈ stores.pg.expireLeases subscription.subscriptionId now,
          row.reservationId ≠ "csres-" ++ generated := by
        intro row mem same
        obtain ⟨old, oldIn, rfl⟩ := List.mem_map.mp mem
        apply fresh old oldIn
        rw [← same]
        split
        · rcases old.expireAt_cases now with kept | ⟨-, -, marks⟩
          · rw [kept]
          · rw [marks]
        · rfl
      have unreserved : ((stores.memory.expireCloudSkillExecutionLeases now).withoutTask
          params.taskId).reservationOfTask params.taskId = none := by
        simp [reservationOfTask, CloudSkillTables.withoutTask]
      have inserted := @insert _ marked leaseTtlMs generated params subscription unreserved
        freshMarked
      simp only [memory, pg, CloudSkillTables.admitExecution, PgReservationTables.admitExecution,
        checked, sameCheck, within, ← sameLimits, referenced, if_true]
      exact ⟨⟨rfl, .inl rfl⟩, inserted⟩

theorem reserve {clock : Instant} {generated : String}
    {params : CloudSkillExecutionReservationRequest}
    (serial : stores.Serial (.reserve clock generated params))
    (unique : stores.memory.UniqueNewest params) :
    let results := stores.reserve choice clock generated params
    SameAnswer results.1.1 results.2.1 ∧
      Linked ⟨results.1.2, results.2.2, (parseExecutionNow clock params.now).getD stores.now⟩ := by
  dsimp only [ReservationStores.reserve]
  by_cases invalid : ∀ now leaseTtlMs, ¬ Valid clock params now leaseTtlMs
  · rw [CloudSkillTables.reserve_of_invalid invalid, PgReservationTables.reserve_of_invalid invalid]
    refine ⟨rfl, linked.wait ?_⟩
    cases parsed : parseExecutionNow clock params.now with
    | none => exact le_rfl
    | some now => exact serial.1 now parsed
  push Not at invalid
  obtain ⟨now, leaseTtlMs, valid⟩ := invalid
  have later := serial.1 now valid.now
  rw [CloudSkillTables.reserve_of_valid valid, PgReservationTables.reserve_of_valid valid,
    valid.now, getD_some]
  rcases linked.find_cases params.taskId with
    ⟨absent, absentRow⟩ | ⟨index, one, other, found, foundRow, oneAt, otherAt⟩
  · rw [absent, absentRow]
    exact linked.admitExecution later absent serial.2 unique
  · rw [found, foundRow]
    have twin := linked.twins.getElem? oneAt otherAt
    have sameBinding : params.sameBinding one = params.sameBinding other :=
      twin.test_eq fun _ _ _ => rfl
    have marked := linked.expire later fun row => by
      show (if row.reservationId = other.reservationId then row.expireAt now else row) = row ∨ _
      split
      · exact .inr rfl
      · exact .inl rfl
    refine ⟨?_, marked⟩
    dsimp only
    rw [sameBinding]
    split
    · exact twin.sameReservation_expire later
    · rfl

end Linked

def memoryTarget (memory : CloudSkillTables) (params : CloudSkillExecutionReleaseRequest) :
    Option CloudSkillExecutionReservation :=
  (params.reservationId <|> memory.reservationsByTask.get? (params.taskId.getD "")).bind
    memory.reservations.get?

inductive SameTarget (stores : ReservationStores)
    (one other : CloudSkillExecutionReleaseRequest) : Prop where
  | found (index : Nat) (row twin : CloudSkillExecutionReservation)
      (rowAt : stores.memory.reservations.values[index]? = some row)
      (twinAt : stores.pg.rows[index]? = some twin)
      (memoryFound : memoryTarget stores.memory one = some row)
      (pgFound : stores.pg.findRow other = some twin)
  | missed (memoryMissed : memoryTarget stores.memory one = none)
      (pgMissed : ∀ row, stores.pg.findRow other = some row → other.matchesRow row = false)

theorem release_of_target {memory : CloudSkillTables} {clock now : Instant}
    {params : CloudSkillExecutionReleaseRequest}
    (parsed : parseExecutionNow clock params.now = some now)
    (named : ¬ (params.reservationId.getD "" = "" && params.taskId.getD "" = "")) :
    memory.releaseCloudSkillExecution clock params = match memoryTarget memory params with
      | none => (⟨false, none⟩, memory.expireCloudSkillExecutionLeases now)
      | some row =>
        if !params.matchesRow row then
          (⟨false, none⟩, memory.expireCloudSkillExecutionLeases now)
        else if (row.expireAt now).releasedAt.isSome then
          (⟨false, some (row.expireAt now)⟩, memory.expireCloudSkillExecutionLeases now)
        else
          (⟨true, some { row.expireAt now with releasedAt := some now }⟩,
            { memory.expireCloudSkillExecutionLeases now with
              reservations := (memory.expireCloudSkillExecutionLeases now).reservations.set
                row.reservationId { row.expireAt now with releasedAt := some now } }) := by
  have target : (params.reservationId <|>
      (memory.expireCloudSkillExecutionLeases now).reservationsByTask.get?
        (params.taskId.getD "")).bind
      (memory.expireCloudSkillExecutionLeases now).reservations.get? =
        (memoryTarget memory params).map (expireAt now) := by
    rw [memoryTarget, Option.map_bind]
    congr 1
    funext key
    simp [CloudSkillTables.expireCloudSkillExecutionLeases]
  simp only [CloudSkillTables.releaseCloudSkillExecution, parsed, named, false_eq_true,
    if_false, target]
  cases memoryTarget memory params with
  | none => rfl
  | some row =>
    have unread : (row.expireAt now).taskId = row.taskId ∧ (row.expireAt now).userId = row.userId ∧
        (row.expireAt now).tenantId = row.tenantId ∧
        (row.expireAt now).reservationId = row.reservationId := by
      rcases row.expireAt_cases now with kept | ⟨-, -, marked⟩
      · simp [kept]
      · simp [marked]
    obtain ⟨sameTask, sameUser, sameTenant, sameId⟩ := unread
    have mismatch (wanted : Option String) (text : String) :
        wanted.any (text ≠ ·) = !wanted.all (text = ·) := by
      cases wanted <;> simp
    have matching : (params.taskId.any ((row.expireAt now).taskId ≠ ·) ||
        params.userId.any ((row.expireAt now).userId ≠ ·) ||
        params.tenantId.any ((row.expireAt now).tenantId ≠ ·)) = !params.matchesRow row := by
      rw [mismatch, mismatch, mismatch, sameTask, sameUser, sameTenant,
        CloudSkillExecutionReleaseRequest.matchesRow, Bool.not_and, Bool.not_and]
    simp only [map_some, matching, sameId]

namespace Linked

open CloudSkillTables

variable {stores : ReservationStores}

variable (linked : stores.Linked)
include linked

theorem sameTarget_task {params : CloudSkillExecutionReleaseRequest}
    (unnamed : params.reservationId = none) (hasTask : params.taskId.getD "" ≠ "") :
    stores.SameTarget params params := by
  cases task : params.taskId with
  | none => simp [task] at hasTask
  | some taskId =>
    have memoryTask : memoryTarget stores.memory params =
        stores.memory.reservationOfTask taskId := by
      simp only [memoryTarget, unnamed, task, getD_some, reservationOfTask]
      rfl
    have pgTask : stores.pg.findRow params =
        stores.pg.rows.find? fun row => row.taskId = taskId := by
      simp [PgReservationTables.findRow, unnamed, task]
    rcases linked.find_cases taskId with
      ⟨absent, absentRow⟩ | ⟨index, one, other, found, foundRow, oneAt, otherAt⟩
    · refine .missed (memoryTask.trans absent) ?_
      intro row found
      rw [pgTask, absentRow] at found
      cases found
    · exact .found index one other oneAt otherAt (memoryTask.trans found) (pgTask.trans foundRow)

theorem sameTarget {clock : Instant} {target : ReleaseTarget}
    {params : CloudSkillExecutionReleaseRequest}
    (serial : stores.Serial (.release clock target params))
    (clear : stores.Clear (.release clock target params))
    (named : (stores.targetIds target).1.getD "" ≠ "" ∨ params.taskId.getD "" ≠ "") :
    stores.SameTarget { params with reservationId := (stores.targetIds target).1 }
      { params with reservationId := (stores.targetIds target).2 } := by
  have byTask : params.taskId.getD "" ≠ "" → stores.SameTarget
      { params with reservationId := none } { params with reservationId := none } :=
    fun hasTask => linked.sameTarget_task rfl hasTask
  cases target with
  | unnamed =>
    have hasTask : params.taskId.getD "" ≠ "" := by simpa [targetIds] using named
    exact byTask hasTask
  | returned position =>
    have sameLength := linked.twins.length_eq
    by_cases inside : position < stores.memory.reservations.values.length
    · have rowAt := getElem?_eq_getElem inside
      have twinAt := getElem?_eq_getElem (sameLength ▸ inside)
      generalize stores.memory.reservations.values[position] = row at rowAt
      generalize stores.pg.rows[position] = twin at twinAt
      have twinIn := mem_of_getElem? twinAt
      refine .found position row twin rowAt twinAt ?_ ?_
      · simp only [memoryTarget, targetIds, rowAt, map_some]
        exact linked.indexed.get?_of_mem (mem_of_getElem? rowAt)
      · have search := List.find?_key_eq linked.distinct twinIn
        simp [PgReservationTables.findRow, targetIds, twinAt, linked.named twin twinIn, search]
    · have outside := getElem?_eq_none (not_lt.mp inside)
      have outsidePg : stores.pg.rows[position]? = none :=
        getElem?_eq_none (by omega)
      simp only [targetIds, outside, outsidePg, map_none] at named ⊢
      exact byTask (by simpa using named)
  | unknown text =>
    obtain ⟨unknownHere, unknownThere⟩ := serial.2 text rfl
    refine .missed (by simp [memoryTarget, targetIds, unknownHere]) ?_
    intro row found
    by_cases empty : text = ""
    · subst empty
      have search : stores.pg.rows.find? (fun row => some row.taskId = params.taskId) =
          some row := by simpa [PgReservationTables.findRow, targetIds] using found
      have ofTask : some row.taskId = params.taskId := by simpa using find?_some search
      exact clear rfl row (mem_of_find?_eq_some search) ofTask.symm
    · have search : stores.pg.rows.find? (fun row => row.reservationId = text) = some row := by
        simpa [PgReservationTables.findRow, targetIds, empty] using found
      have ofText : row.reservationId = text := by simpa using find?_some search
      exact absurd ofText (unknownThere row (mem_of_find?_eq_some search))

theorem mark (memory : CloudSkillTables) {index : Nat}
    {twin new other : CloudSkillExecutionReservation}
    (samePlans : memory.plans = stores.memory.plans)
    (sameSubscriptions : memory.subscriptions = stores.memory.subscriptions)
    (sameEntitlements : memory.entitlements = stores.memory.entitlements)
    (indexed : memory.ReservationsIndexed) (tasks : memory.TasksIndexed)
    (values : memory.reservations.values = stores.memory.reservations.values.set index new)
    (twinAt : stores.pg.rows[index]? = some twin) (pair : Twin stores.now new other)
    (sameId : other.reservationId = twin.reservationId) :
    Linked ⟨memory, { stores.pg with
      rows := stores.pg.rows.map fun row =>
        if row.reservationId = twin.reservationId then other else row }, stores.now⟩ := by
  apply linked.marks memory samePlans sameSubscriptions sameEntitlements indexed tasks
  · rw [values, List.map_ite_eq_set linked.distinct twinAt]
    exact linked.twins.set pair index
  · rw [List.map_ite_eq_set linked.distinct twinAt]
    exact List.map_set_of_eq _ twinAt sameId

theorem release_found {clock now : Instant}
    {one other : CloudSkillExecutionReleaseRequest} (later : stores.now ≤ now)
    (parsed : parseExecutionNow clock one.now = some now)
    (sameRequest : other = { one with reservationId := other.reservationId })
    (named : ¬ (one.reservationId.getD "" = "" && one.taskId.getD "" = ""))
    (alsoNamed : ¬ (other.reservationId.getD "" = "" && other.taskId.getD "" = ""))
    (target : stores.SameTarget one other) :
    let memory := stores.memory.releaseCloudSkillExecution clock one
    let pg := stores.pg.releaseCloudSkillExecution clock other
    SameRelease memory.1 pg.1 ∧ Linked ⟨memory.2, pg.2, now⟩ := by
  intro memory pg
  have indexed : memory.2.ReservationsIndexed := linked.indexed.releaseCloudSkillExecution clock one
  have expired := linked.expire_memory later
  have pgParsed : parseExecutionNow clock other.now = some now := by
    rw [sameRequest]
    exact parsed
  have sameMatch (row : CloudSkillExecutionReservation) :
      other.matchesRow row = one.matchesRow row := by
    rw [sameRequest]
    rfl
  have memoryEq : memory = _ := release_of_target parsed named
  have pgEq : pg = stores.pg.releaseCloudSkillExecution clock other := rfl
  simp only [PgReservationTables.releaseCloudSkillExecution, pgParsed, alsoNamed,
    false_eq_true, if_false] at pgEq
  cases target with
  | missed memoryMissed pgMissed =>
    rw [memoryMissed] at memoryEq
    have pgMissed : pg = (⟨false, none⟩, stores.pg) := by
      rw [pgEq]
      cases found : stores.pg.findRow other with
      | none => rfl
      | some row => simp [pgMissed row found]
    rw [memoryEq, pgMissed]
    exact ⟨⟨rfl, trivial⟩, expired⟩
  | found index row twin rowAt twinAt memoryFound pgFound =>
    have pair := linked.twins.getElem? rowAt twinAt
    have sameRow : one.matchesRow twin = one.matchesRow row :=
      (pair.test_eq fun _ _ _ => rfl).symm
    rw [memoryFound] at memoryEq
    rw [pgFound] at pgEq
    simp only [sameMatch, sameRow] at memoryEq pgEq
    by_cases matching : one.matchesRow row = true
    case neg =>
      simp only [matching, Bool.not_false, if_true] at memoryEq pgEq
      rw [memoryEq, pgEq]
      exact ⟨⟨rfl, trivial⟩, expired⟩
    simp only [matching, Bool.not_true, false_eq_true, if_false] at memoryEq pgEq
    have rowExpiredAt : (stores.memory.expireCloudSkillExecutionLeases
        now).reservations.values[index]? = some (row.expireAt now) := by
      rw [values_expire, getElem?_map, rowAt, map_some]
    have pairExpired := pair.expire_memory later
    cases released : (row.expireAt now).releasedAt with
    | some marked =>
      simp only [released, isSome_some, if_true] at memoryEq
      rw [memoryEq]
      cases twinReleased : twin.releasedAt with
      | some time =>
        simp only [twinReleased, isSome_some, if_true] at pgEq
        rw [pgEq]
        exact ⟨⟨rfl, pairExpired.sameReservation_of_released twinReleased⟩, expired⟩
      | none =>
        -- the lease has run out, which only the in-memory store has marked before
        have ranOut := pair.ranOut later released twinReleased
        have late : ¬ now < twin.leaseExpiresAt := not_lt.mpr ranOut
        simp only [twinReleased, isSome_none, false_eq_true, if_false, late, decide_false] at pgEq
        rw [pgEq]
        have marks : twin.expireAt now = { twin with releasedAt := some now } := by
          simp [expireAt, twinReleased, ranOut]
        have both := pair.expire_both later
        rw [marks] at both
        refine ⟨⟨rfl, both.sameReservation_of_released rfl⟩, ?_⟩
        exact expired.mark _ rfl rfl rfl expired.indexed expired.tasks
          (List.set_of_getElem? rowExpiredAt).symm twinAt both rfl
    | none =>
      obtain ⟨kept, twinHeld, lasts⟩ := pair.held released
      have rowHeld : row.releasedAt = none := kept ▸ released
      simp only [kept, rowHeld, twinHeld, lasts, isSome_none, false_eq_true,
        if_false, decide_true] at memoryEq pgEq
      rw [kept] at rowExpiredAt
      have both := @Twin.release _ now _ _ pair now
      rw [memoryEq] at indexed
      rw [memoryEq, pgEq]
      refine ⟨⟨rfl, both.sameReservation_of_released rfl⟩, ?_⟩
      exact expired.mark _ rfl rfl rfl indexed (expired.tasks.setReservation expired.indexed
        rowExpiredAt rfl) (expired.indexed.values_set_of_row rowExpiredAt) twinAt both rfl

end Linked

end ReservationStores

end LongHub
