import LongHub.CloudSkillExecution
import LongHub.GuardedRun

/-!
# Reservations in memory

Their index by task and what the operations on them do.
-/

namespace LongHub

/-! ## The index of reservations by task -/

namespace CloudSkillTables

structure ReservationsIndexed (tables : CloudSkillTables) : Prop where
  rowKey : ∀ {key row}, tables.reservations.get? key = some row → row.reservationId = key
  taskKey : ∀ {key row}, tables.reservations.get? key = some row →
    tables.reservationsByTask.get? row.taskId = some key
  fresh : ∀ {key row}, tables.reservations.get? key = some row →
    ∃ number, number < tables.nextId ∧ key = generatedId "csres-" number

variable {tables : CloudSkillTables}

namespace ReservationsIndexed

theorem countP_le_one (indexed : tables.ReservationsIndexed) (taskId : String) :
    tables.reservations.values.countP (·.taskId = taskId) ≤ 1 := by
  apply InsertionMap.countP_values_le_one
  intro key other row another stored isTask alsoStored alsoIsTask
  have first := indexed.taskKey stored
  have second := indexed.taskKey alsoStored
  rw [of_decide_eq_true isTask] at first
  rw [of_decide_eq_true alsoIsTask] at second
  exact Option.some.inj (first.symm.trans second)

theorem expire (indexed : tables.ReservationsIndexed) (now : Instant) :
    (tables.expireCloudSkillExecutionLeases now).ReservationsIndexed := by
  have unchanged (row : CloudSkillExecutionReservation) :
      (row.expireAt now).reservationId = row.reservationId ∧
        (row.expireAt now).taskId = row.taskId := by
    unfold CloudSkillExecutionReservation.expireAt
    split <;> exact ⟨rfl, rfl⟩
  have found {key : String} {row : CloudSkillExecutionReservation}
      (stored : (tables.expireCloudSkillExecutionLeases now).reservations.get? key = some row) :
      ∃ old, tables.reservations.get? key = some old ∧ old.expireAt now = row := by
    simpa [expireCloudSkillExecutionLeases, Option.map_eq_some_iff] using stored
  refine ⟨fun stored => ?_, fun stored => ?_, fun stored => ?_⟩
  · obtain ⟨old, oldStored, rfl⟩ := found stored
    exact (unchanged old).1.trans (indexed.rowKey oldStored)
  · obtain ⟨old, oldStored, rfl⟩ := found stored
    rw [(unchanged old).2]
    exact indexed.taskKey oldStored
  · obtain ⟨old, oldStored, -⟩ := found stored
    exact indexed.fresh oldStored

theorem insertReservation {reservation : CloudSkillExecutionReservation}
    (indexed : tables.ReservationsIndexed)
    (newId : reservation.reservationId = generatedId "csres-" tables.nextId)
    (unreserved : ∀ {key row}, tables.reservations.get? key = some row →
      row.taskId ≠ reservation.taskId) :
    (tables.insertReservation reservation).ReservationsIndexed := by
  have found {key : String} {row : CloudSkillExecutionReservation}
      (stored : (tables.insertReservation reservation).reservations.get? key = some row) :
      (key = reservation.reservationId ∧ row = reservation) ∨
        tables.reservations.get? key = some row := by
    simp only [CloudSkillTables.insertReservation, InsertionMap.get?_set] at stored
    split at stored
    · next same => exact Or.inl ⟨same, (Option.some.inj stored).symm⟩
    · exact Or.inr stored
  refine ⟨fun stored => ?_, fun stored => ?_, fun stored => ?_⟩
  · rcases found stored with ⟨rfl, rfl⟩ | old
    · rfl
    · exact indexed.rowKey old
  · rcases found stored with ⟨rfl, rfl⟩ | old
    · simp [CloudSkillTables.insertReservation]
    · simpa [CloudSkillTables.insertReservation, unreserved old] using indexed.taskKey old
  · rcases found stored with ⟨rfl, rfl⟩ | old
    · exact ⟨tables.nextId, Nat.lt_succ_self _, newId⟩
    · obtain ⟨number, below, equal⟩ := indexed.fresh old
      exact ⟨number, Nat.lt_succ_of_lt below, equal⟩

theorem admitExecution {now leaseTtlMs : Int} {params : CloudSkillExecutionReservationRequest}
    (indexed : tables.ReservationsIndexed)
    (unreserved : ∀ {key row}, tables.reservations.get? key = some row →
      row.taskId ≠ params.taskId) :
    (tables.admitExecution now leaseTtlMs params).2.ReservationsIndexed := by
  unfold CloudSkillTables.admitExecution
  split
  · exact indexed
  · split
    · exact indexed
    · exact indexed.insertReservation rfl unreserved

theorem reserveCloudSkillExecution (indexed : tables.ReservationsIndexed) (clock : Instant)
    (params : CloudSkillExecutionReservationRequest) :
    (tables.reserveCloudSkillExecution clock params).2.ReservationsIndexed := by
  unfold CloudSkillTables.reserveCloudSkillExecution
  split
  · exact indexed
  · split
    · next now leaseTtlMs _ _ =>
      have expired := indexed.expire now
      dsimp only
      split
      · split <;> exact expired
      · next unindexed =>
        have unreserved {key : String} {row : CloudSkillExecutionReservation}
            (stored : (tables.expireCloudSkillExecutionLeases now).reservations.get? key =
              some row) : row.taskId ≠ params.taskId := by
          intro same
          have found := expired.taskKey stored
          rw [same] at found
          simp [reservationOfTask, found, stored] at unindexed
        refine admitExecution ⟨expired.rowKey, fun stored => ?_, expired.fresh⟩ unreserved
        simpa [unreserved stored] using expired.taskKey stored
    · exact indexed

theorem releaseCloudSkillExecution (indexed : tables.ReservationsIndexed) (clock : Instant)
    (params : CloudSkillExecutionReleaseRequest) :
    (tables.releaseCloudSkillExecution clock params).2.ReservationsIndexed := by
  unfold CloudSkillTables.releaseCloudSkillExecution
  split
  · exact indexed
  · next now _ =>
    have expired := indexed.expire now
    split
    · exact indexed
    · dsimp only
      split
      · exact expired
      · next row found =>
        split
        · exact expired
        · split
          · exact expired
          · obtain ⟨reservationId, _, stored⟩ := Option.bind_eq_some_iff.mp found
            have rowKey := expired.rowKey stored
            subst rowKey
            refine ⟨fun present => ?_, fun present => ?_, fun present => ?_⟩
            · simp only [InsertionMap.get?_set] at present
              split at present
              · next same =>
                cases present
                exact same.symm
              · exact expired.rowKey present
            · simp only [InsertionMap.get?_set] at present
              split at present
              · next same =>
                cases present
                rw [same]
                have indexedRow := expired.taskKey stored
                exact indexedRow
              · exact expired.taskKey present
            · simp only [InsertionMap.get?_set] at present
              split at present
              · next same =>
                subst same
                exact expired.fresh stored
              · exact expired.fresh present

end ReservationsIndexed

end CloudSkillTables

end LongHub

/-! ## What the operations on reservations do -/

namespace InsertionMap

variable {κ ν : Type*}

theorem values_mapValues (update : ν → ν) (map : InsertionMap κ ν) :
    (map.mapValues fun _ => update).values = map.values.map update := by
  simp [values, mapValues, Function.comp_def]

variable [DecidableEq κ] {map : InsertionMap κ ν} {key : κ} {old value : ν}

theorem countP_values_set_le {test : ν → Bool} (stored : map.get? key = some old)
    (fewer : test value = true → test old = true) :
    (map.set key value).values.countP test ≤ map.values.countP test := by
  have present : key ∈ map.keys := mem_keys_of_get? stored
  rw [values, entries_set_of_present value present, List.map_map, values, List.countP_map,
    List.countP_map]
  apply List.countP_mono_left
  intro entry mem passes
  simp only [Function.comp_apply] at passes ⊢
  by_cases atKey : entry.1 = key
  · rw [if_pos atKey] at passes
    have found : map.get? key = some entry.2 := get?_eq_some_iff.mpr (by rw [← atKey]; exact mem)
    rw [stored] at found
    rw [← Option.some.inj found]
    exact fewer passes
  · rwa [if_neg atKey] at passes

end InsertionMap

namespace LongHub

namespace CloudSkillExecutionReservation

variable {row : CloudSkillExecutionReservation} {now moment : Instant}

/-- Marking a lease that has run out changes nothing else, and only once. -/
theorem expireAt_cases (now : Instant) (row : CloudSkillExecutionReservation) :
    row.expireAt now = row ∨ row.releasedAt = none ∧ row.leaseExpiresAt ≤ now ∧
        row.expireAt now = { row with releasedAt := some now } := by
  simp only [expireAt, Bool.and_eq_true, Option.isNone_iff_eq_none, decide_eq_true_eq]
  split
  · next expired => exact .inr ⟨expired.1, expired.2, rfl⟩
  · exact .inl rfl

theorem isLeased_expireAt (later : now ≤ moment) (row : CloudSkillExecutionReservation) :
    (row.expireAt now).isLeased moment = row.isLeased moment := by
  rcases row.expireAt_cases now with same | ⟨-, expired, marked⟩
  · rw [same]
  · have elapsed : ¬ moment < row.leaseExpiresAt := not_lt.mpr (le_trans expired later)
    rw [marked]
    simp [isLeased, elapsed]

theorem isOwnedBy_expireAt (now : Instant) (subscriptionId tenantId userId deviceId : String)
    (row : CloudSkillExecutionReservation) :
    (row.expireAt now).isOwnedBy subscriptionId tenantId userId deviceId =
      row.isOwnedBy subscriptionId tenantId userId deviceId := by
  rcases row.expireAt_cases now with same | ⟨-, -, marked⟩
  · rw [same]
  · rw [marked]
    rfl

theorem isLeased_of_later (later : now ≤ moment) (leased : row.isLeased moment = true) :
    row.isLeased now = true := by
  simp only [isLeased, Bool.and_eq_true, decide_eq_true_eq] at leased ⊢
  exact ⟨leased.1, lt_of_le_of_lt later leased.2⟩

end CloudSkillExecutionReservation

namespace CloudSkillTables

open CloudSkillExecutionReservation

variable {tables : CloudSkillTables}

theorem values_expire (tables : CloudSkillTables) (now : Instant) :
    (tables.expireCloudSkillExecutionLeases now).reservations.values =
      tables.reservations.values.map (expireAt now) :=
  InsertionMap.values_mapValues _ _

theorem reservationOfTask_expire (tables : CloudSkillTables) (now : Instant) (taskId : String) :
    (tables.expireCloudSkillExecutionLeases now).reservationOfTask taskId =
      (tables.reservationOfTask taskId).map (expireAt now) := by
  cases indexed : tables.reservationsByTask.get? taskId with
  | none => simp [reservationOfTask, expireCloudSkillExecutionLeases, indexed]
  | some key => simp [reservationOfTask, expireCloudSkillExecutionLeases, indexed]

def withoutTask (tables : CloudSkillTables) (taskId : String) : CloudSkillTables :=
  { tables with reservationsByTask := tables.reservationsByTask.delete taskId }

structure Valid (clock : Instant) (params : CloudSkillExecutionReservationRequest)
    (now leaseTtlMs : Int) : Prop where
  wellFormed : params.isWellFormed = true
  now : parseExecutionNow clock params.now = some now
  lease : normalizeLeaseTtl params.leaseTtlMs = some leaseTtlMs

variable {params : CloudSkillExecutionReservationRequest}

variable {clock now : Instant} {plan : CloudSkillPlanRecord}
  {subscription : CloudSkillSubscriptionRecord}

theorem sameBinding_expireAt (existing : CloudSkillExecutionReservation) :
    params.sameBinding (existing.expireAt now) = params.sameBinding existing := by
  rcases existing.expireAt_cases now with same | ⟨-, -, marked⟩
  · rw [same]
  · rw [marked]
    rfl

theorem reserve_of_valid {now leaseTtlMs : Int} (valid : Valid clock params now leaseTtlMs) :
    tables.reserveCloudSkillExecution clock params =
      match tables.reservationOfTask params.taskId with
      | some existing =>
        (if params.sameBinding existing then .ok (existing.expireAt now)
          else .error ⟨.idempotencyConflict, none⟩,
          tables.expireCloudSkillExecutionLeases now)
      | none =>
        ((tables.expireCloudSkillExecutionLeases now).withoutTask params.taskId).admitExecution
          now leaseTtlMs params := by
  simp only [reserveCloudSkillExecution, valid.wellFormed, valid.now, valid.lease,
    reservationOfTask_expire, Bool.not_true, Bool.false_eq_true, if_false]
  cases found : tables.reservationOfTask params.taskId with
  | none => rfl
  | some existing =>
    simp only [Option.map_some, sameBinding_expireAt]
    split <;> rfl

theorem reserve_of_invalid (invalid : ∀ now leaseTtlMs, ¬ Valid clock params now leaseTtlMs) :
    tables.reserveCloudSkillExecution clock params = (.error ⟨.invalidRequest, none⟩, tables) := by
  simp only [reserveCloudSkillExecution]
  split
  · rfl
  next wellFormed =>
  split
  · next now leaseTtlMs parsed normalized =>
    exact absurd ⟨by simpa using wellFormed, parsed, normalized⟩ (invalid now leaseTtlMs)
  · rfl

theorem checkSubscription_eq_ok
    (admitted : tables.checkSubscription now params = .ok (plan, subscription)) :
    tables.plans.get? params.planId = some plan ∧
      subscription ∈ tables.subscriptions.values ∧ subscription.planId = params.planId := by
  simp only [checkSubscription] at admitted
  split at admitted
  · cases admitted
  next found planned =>
  split at admitted
  · cases admitted
  next newest older ordered =>
  have mem : newest ∈ newestFirst CloudSkillSubscriptionRecord.createdAt
      (tables.subscriptions.values.filter fun subscription =>
        subscription.planId = params.planId && subscription.userId = params.userId &&
          subscription.tenantId = params.tenantId &&
          params.subscriptionId.all fun subscriptionId =>
            subscription.subscriptionId = subscriptionId) := by
    rw [ordered]
    exact List.mem_cons_self
  rw [newestFirst, List.mem_insertionSort, List.mem_filter] at mem
  obtain ⟨stored, matching⟩ := mem
  simp only [Bool.and_eq_true, decide_eq_true_eq] at matching
  split at admitted
  · cases admitted
  split at admitted
  · cases admitted
  split at admitted
  · cases admitted
  cases admitted
  exact ⟨planned, stored, matching.1.1.1⟩

theorem checkLimits_eq_ok {done : Unit}
    (within : tables.checkLimits now params plan subscription = .ok done) :
    ((tables.reservations.values.countP fun row =>
      row.isOwnedBy subscription.subscriptionId params.tenantId params.userId params.deviceId &&
        row.isLeased now : Nat) : Int) < plan.maxConcurrency := by
  simp only [checkLimits] at within
  split at within
  · cases within
  split at within
  · cases within
  split at within
  · cases within
  next fewer =>
  rw [not_le, List.filter_filter, ← List.countP_eq_length_filter] at fewer
  simpa only [Bool.and_comm] using fewer

theorem admitExecution_cases (tables : CloudSkillTables) (now leaseTtlMs : Int)
    (params : CloudSkillExecutionReservationRequest) :
    (∃ rejection, tables.admitExecution now leaseTtlMs params = (.error rejection, tables)) ∨
      ∃ plan subscription, tables.checkSubscription now params = .ok (plan, subscription) ∧
        tables.checkLimits now params plan subscription = .ok () ∧
        tables.admitExecution now leaseTtlMs params =
          (.ok (tables.newReservation now leaseTtlMs params subscription), tables.insertReservation
              (tables.newReservation now leaseTtlMs params subscription)) := by
  cases checked : tables.checkSubscription now params with
  | error rejection => exact .inl ⟨rejection, by simp only [admitExecution, checked]⟩
  | ok both =>
    obtain ⟨plan, subscription⟩ := both
    cases within : tables.checkLimits now params plan subscription with
    | error rejection => exact .inl ⟨rejection, by simp only [admitExecution, checked, within]⟩
    | ok done =>
      exact .inr ⟨plan, subscription, rfl, within, by simp only [admitExecution, checked, within]⟩

theorem release_cases (tables : CloudSkillTables) (clock : Instant)
    (params : CloudSkillExecutionReleaseRequest) :
    (tables.releaseCloudSkillExecution clock params).2 = tables ∨
      ∃ now, parseExecutionNow clock params.now = some now ∧
        ((tables.releaseCloudSkillExecution clock params).2 =
            tables.expireCloudSkillExecutionLeases now ∨
          ∃ key row, (tables.expireCloudSkillExecutionLeases now).reservations.get? key =
              some row ∧ row.releasedAt = none ∧
            (tables.releaseCloudSkillExecution clock params).2 =
              { tables.expireCloudSkillExecutionLeases now with
                reservations :=
                  (tables.expireCloudSkillExecutionLeases now).reservations.set row.reservationId
                    { row with releasedAt := some now } }) := by
  simp only [releaseCloudSkillExecution]
  split
  · exact .inl rfl
  next now parsed =>
  split
  · exact .inl rfl
  right
  refine ⟨now, parsed, ?_⟩
  split
  · exact .inl rfl
  next row found =>
  split
  · exact .inl rfl
  split
  · exact .inl rfl
  next held =>
  obtain ⟨key, -, stored⟩ := Option.bind_eq_some_iff.mp found
  exact .inr ⟨key, row, stored, by simpa using held, rfl⟩

end CloudSkillTables

end LongHub
