import LongHub.PgReservation
import LongHub.ReservationEffects

/-!
# Leases of the in-memory store over time

Any sequence of reservations and releases whose times do not go back keeps the number of leases of a
calling device within the limit of its plan, at every moment until the next call.
-/

namespace LongHub

structure LeaseStore where
  tables : CloudSkillTables
  now : Instant

inductive LeaseAction where
  | reserve (clock : Instant) (params : CloudSkillExecutionReservationRequest)
  | release (clock : Instant) (params : CloudSkillExecutionReleaseRequest)

namespace LeaseAction

def time : LeaseAction → Option Instant
  | reserve clock params => parseExecutionNow clock params.now
  | release clock params => parseExecutionNow clock params.now

end LeaseAction

namespace CloudSkillTables

def SubscriptionsKeyed (tables : CloudSkillTables) : Prop :=
  ∀ key subscription, tables.subscriptions.get? key = some subscription →
    subscription.subscriptionId = key

def Unreserved (tables : CloudSkillTables) : Prop :=
  tables.reservations = .empty ∧ tables.reservationsByTask = .empty

/-- Every row is there later with the same contents; only the time of its
release may have been set, once. -/
def RowsKept (before after : CloudSkillTables) : Prop :=
  ∀ key row, before.reservations.get? key = some row →
    ∃ later, after.reservations.get? key = some later ∧
      (later = row ∨ row.releasedAt = none ∧ ∃ releasedAt,
        later = { row with releasedAt := some releasedAt })

def LeasesLimited (tables : CloudSkillTables) (now : Instant) : Prop :=
  ∀ moment ≥ now, ∀ subscriptionId subscription plan tenantId userId deviceId,
    tables.subscriptions.get? subscriptionId = some subscription →
    tables.plans.get? subscription.planId = some plan →
    (tables.reservations.values.countP fun row =>
      row.isOwnedBy subscriptionId tenantId userId deviceId && row.isLeased moment) ≤
        plan.maxConcurrency.toNat

theorem subscriptionsKeyed_empty : empty.SubscriptionsKeyed := by
  intro key subscription found
  simp [empty] at found

theorem SubscriptionsKeyed.set {tables after : CloudSkillTables}
    (keyed : tables.SubscriptionsKeyed) {key : String} {subscription : CloudSkillSubscriptionRecord}
    (stored : after.subscriptions = tables.subscriptions.set key subscription)
    (sameId : subscription.subscriptionId = key) : after.SubscriptionsKeyed := by
  intro other found lookup
  rw [stored, InsertionMap.get?_set] at lookup
  split at lookup
  · next same =>
    rw [← Option.some.inj lookup, same, sameId]
  · exact keyed other found lookup

open CloudSkillExecutionReservation

variable {tables before middle after : CloudSkillTables}

theorem RowsKept.refl (tables : CloudSkillTables) : tables.RowsKept tables :=
  fun _ row stored => ⟨row, stored, .inl rfl⟩

theorem RowsKept.trans (first : before.RowsKept middle) (second : middle.RowsKept after) :
    before.RowsKept after := by
  intro key row stored
  obtain ⟨between, betweenStored, change⟩ := first key row stored
  obtain ⟨later, laterStored, laterChange⟩ := second key between betweenStored
  refine ⟨later, laterStored, ?_⟩
  rcases change with rfl | ⟨held, releasedAt, rfl⟩
  · exact laterChange
  · rcases laterChange with rfl | ⟨released, -⟩
    · exact .inr ⟨held, releasedAt, rfl⟩
    · cases released

theorem RowsKept.expire (tables : CloudSkillTables) (now : Instant) :
    tables.RowsKept (tables.expireCloudSkillExecutionLeases now) := by
  intro key row stored
  refine ⟨row.expireAt now, by simp [expireCloudSkillExecutionLeases, stored], ?_⟩
  rcases row.expireAt_cases now with same | ⟨held, -, marked⟩
  · exact .inl same
  · exact .inr ⟨held, now, marked⟩

theorem RowsKept.insertReservation (indexed : tables.ReservationsIndexed)
    (taskId : String) {reservation : CloudSkillExecutionReservation}
    (newId : reservation.reservationId = generatedId "csres-" tables.nextId) :
    tables.RowsKept ((tables.withoutTask taskId).insertReservation reservation) := by
  intro key row stored
  obtain ⟨number, below, rfl⟩ := indexed.fresh stored
  have differ : generatedId "csres-" number ≠ reservation.reservationId := by
    rw [newId]
    intro same
    have sameNumber := generatedId_injective "csres-" same
    omega
  exact ⟨row, by simp [CloudSkillTables.insertReservation, withoutTask, differ, stored],
    .inl rfl⟩

theorem LeasesLimited.expire {start now : Instant} (limited : tables.LeasesLimited start)
    (later : start ≤ now) : (tables.expireCloudSkillExecutionLeases now).LeasesLimited now := by
  intro moment after_ subscriptionId subscription plan tenantId userId deviceId found planned
  have bound := limited moment (le_trans later after_) subscriptionId subscription plan tenantId
    userId deviceId found planned
  rw [values_expire, List.countP_map]
  refine le_trans (le_of_eq ?_) bound
  apply List.countP_congr
  intro row _
  simp only [Function.comp_apply]
  rw [CloudSkillExecutionReservation.isOwnedBy_expireAt,
    CloudSkillExecutionReservation.isLeased_expireAt after_]

theorem LeasesLimited.insertReservation {now leaseTtlMs : Int} {taskId : String}
    {params : CloudSkillExecutionReservationRequest} {plan : CloudSkillPlanRecord}
    {subscription : CloudSkillSubscriptionRecord} (limited : tables.LeasesLimited now)
    (keyed : tables.SubscriptionsKeyed) (indexed : tables.ReservationsIndexed)
    (checked : (tables.withoutTask taskId).checkSubscription now params = .ok (plan, subscription))
    (within : (tables.withoutTask taskId).checkLimits now params plan subscription = .ok ()) :
    ((tables.withoutTask taskId).insertReservation
      ((tables.withoutTask taskId).newReservation now leaseTtlMs params
        subscription)).LeasesLimited now := by
  have absent : tables.reservations.get? (generatedId "csres-" tables.nextId) = none := by
    cases found : tables.reservations.get? (generatedId "csres-" tables.nextId) with
    | none => rfl
    | some row =>
      obtain ⟨number, below, same⟩ := indexed.fresh found
      have sameNumber := generatedId_injective "csres-" same
      omega
  intro moment later subscriptionId other otherPlan tenantId userId deviceId found planned
  replace found : tables.subscriptions.get? subscriptionId = some other := found
  replace planned : tables.plans.get? other.planId = some otherPlan := planned
  have bound := limited moment later subscriptionId other otherPlan tenantId userId deviceId found
    planned
  simp only [CloudSkillTables.insertReservation, newReservation, withoutTask]
  rw [InsertionMap.values_set_of_absent _ absent, List.countP_append, List.countP_singleton]
  split
  · next counted =>
    -- the new lease is of the device that was checked
    simp only [isOwnedBy, Bool.and_eq_true, decide_eq_true_eq] at counted
    obtain ⟨⟨⟨⟨sameSubscription, rfl⟩, rfl⟩, rfl⟩, -⟩ := counted
    obtain ⟨planStored, mem, samePlan⟩ := checkSubscription_eq_ok checked
    obtain ⟨key, keyed_⟩ := InsertionMap.mem_values_iff.mp mem
    have stored : tables.subscriptions.get? subscriptionId = some subscription := by
      rw [← sameSubscription, keyed key subscription keyed_]
      exact keyed_
    rw [found] at stored
    cases stored
    have stored : tables.plans.get? params.planId = some plan := planStored
    rw [samePlan, stored] at planned
    cases planned
    have fewer := checkLimits_eq_ok within
    have atMoment : (tables.reservations.values.countP fun row =>
        row.isOwnedBy subscriptionId params.tenantId params.userId params.deviceId &&
          row.isLeased moment) ≤
        (tables.reservations.values.countP fun row =>
          row.isOwnedBy subscription.subscriptionId params.tenantId params.userId params.deviceId &&
            row.isLeased now) := by
      apply List.countP_mono_left
      intro row _ leased
      rw [Bool.and_eq_true] at leased ⊢
      exact ⟨by rw [sameSubscription]; exact leased.1, isLeased_of_later later leased.2⟩
    have fewerHere : ((tables.reservations.values.countP fun row =>
        row.isOwnedBy subscription.subscriptionId params.tenantId params.userId params.deviceId &&
          row.isLeased now : Nat) : Int) < plan.maxConcurrency := fewer
    omega
  · exact bound

theorem LeasesLimited.release {now : Instant} {key : String} {row : CloudSkillExecutionReservation}
    (limited : tables.LeasesLimited now) (stored : tables.reservations.get? key = some row) :
    LeasesLimited { tables with
      reservations := tables.reservations.set key { row with releasedAt := some now } } now := by
  intro moment later subscriptionId subscription plan tenantId userId deviceId found planned
  refine le_trans (InsertionMap.countP_values_set_le stored ?_)
    (limited moment later subscriptionId subscription plan tenantId userId deviceId found planned)
  intro leased
  simp [isLeased] at leased

end CloudSkillTables

namespace LeaseStore

open CloudSkillTables

def step (store : LeaseStore) : LeaseAction → Option LeaseStore
  | .reserve clock params =>
    some ⟨(store.tables.reserveCloudSkillExecution clock params).2,
      (parseExecutionNow clock params.now).getD store.now⟩
  | .release clock params =>
    some ⟨(store.tables.releaseCloudSkillExecution clock params).2,
      (parseExecutionNow clock params.now).getD store.now⟩

/-- The time of a call is not before that of an earlier one. -/
def NowMonotone (store : LeaseStore) (action : LeaseAction) : Prop :=
  ∀ now, action.time = some now → store.now ≤ now

abbrev Run (tables : CloudSkillTables) (start : Instant) : LeaseStore → Prop :=
  GuardedRun step NowMonotone ⟨tables, start⟩

variable {store next : LeaseStore}

structure Consistent (store : LeaseStore) : Prop where
  indexed : store.tables.ReservationsIndexed
  keyed : store.tables.SubscriptionsKeyed
  limited : store.tables.LeasesLimited store.now

theorem consistent_unreserved {tables : CloudSkillTables} (keyed : tables.SubscriptionsKeyed)
    (unreserved : tables.Unreserved) (start : Instant) : Consistent ⟨tables, start⟩ where
  indexed := by
    constructor <;> exact fun found => by simp [unreserved.1] at found
  keyed
  limited := by
    intro moment _ subscriptionId subscription plan tenantId userId deviceId _ _
    simp [unreserved.1]

structure Keeps (before after : LeaseStore) : Prop where
  consistent : after.Consistent
  rows : before.tables.RowsKept after.tables

theorem Consistent.wait (consistent : store.Consistent) {now : Instant}
    (later : store.now ≤ now) : Keeps store ⟨store.tables, now⟩ where
  consistent :=
    { consistent with
      limited := fun moment after_ => consistent.limited moment (le_trans later after_) }
  rows := .refl store.tables

theorem Consistent.expire (consistent : store.Consistent) {now : Instant}
    (later : store.now ≤ now) :
    Keeps store ⟨store.tables.expireCloudSkillExecutionLeases now, now⟩ where
  consistent :=
    { indexed := consistent.indexed.expire now
      __ := consistent
      limited := consistent.limited.expire later }
  rows := .expire store.tables now

theorem Consistent.reserve (consistent : store.Consistent) {clock now leaseTtlMs : Instant}
    {params : CloudSkillExecutionReservationRequest} (later : store.now ≤ now)
    (valid : Valid clock params now leaseTtlMs) :
    Keeps store ⟨(store.tables.reserveCloudSkillExecution clock params).2, now⟩ := by
  have indexed := consistent.indexed.reserveCloudSkillExecution clock params
  have expired := consistent.expire later
  rw [reserve_of_valid valid] at indexed ⊢
  split
  · exact expired
  next absent =>
  simp only [absent] at indexed
  rcases admitExecution_cases
      ((store.tables.expireCloudSkillExecutionLeases now).withoutTask params.taskId) now leaseTtlMs
      params with ⟨rejection, refused⟩ | ⟨plan, subscription, checked, within, admitted⟩
  · rw [refused] at indexed ⊢
    exact
      { consistent :=
          { indexed
            keyed := expired.consistent.keyed
            limited := expired.consistent.limited }
        rows := expired.rows }
  · rw [admitted] at indexed ⊢
    exact
      { consistent :=
          { indexed
            keyed := expired.consistent.keyed
            limited := expired.consistent.limited.insertReservation expired.consistent.keyed
              expired.consistent.indexed checked within }
        rows := expired.rows.trans
          (.insertReservation expired.consistent.indexed params.taskId rfl) }

theorem Consistent.release (consistent : store.Consistent) {clock now : Instant}
    {params : CloudSkillExecutionReleaseRequest} (later : store.now ≤ now)
    (parsed : parseExecutionNow clock params.now = some now) :
    Keeps store ⟨(store.tables.releaseCloudSkillExecution clock params).2, now⟩ := by
  have indexed := consistent.indexed.releaseCloudSkillExecution clock params
  have expired := consistent.expire later
  rcases release_cases store.tables clock params with same | ⟨time, parsedTime, change⟩
  · rw [same]
    exact consistent.wait later
  rw [parsed] at parsedTime
  cases parsedTime
  rcases change with same | ⟨key, row, stored, held, marked⟩
  · rw [same]
    exact expired
  have rowKey := expired.consistent.indexed.rowKey stored
  subst rowKey
  rw [marked] at indexed ⊢
  refine ⟨⟨indexed, expired.consistent.keyed, ?_⟩, expired.rows.trans ?_⟩
  · exact expired.consistent.limited.release stored
  · intro other earlier found
    simp only [InsertionMap.get?_set]
    split
    · next same =>
      rw [same, stored] at found
      cases found
      exact ⟨_, rfl, .inr ⟨held, now, rfl⟩⟩
    · exact ⟨earlier, found, .inl rfl⟩

theorem Consistent.keeps (consistent : store.Consistent) {action : LeaseAction}
    (monotone : store.NowMonotone action) (stepTo : store.step action = some next) :
    Keeps store next := by
  cases action with
  | reserve clock params =>
    cases stepTo
    cases parsed : parseExecutionNow clock params.now with
    | none =>
      rw [reserve_of_invalid fun now _ valid => by
        have some := valid.now
        rw [parsed] at some
        cases some]
      exact consistent.wait le_rfl
    | some now =>
      have later := monotone now parsed
      by_cases invalid : ∀ time leaseTtlMs, ¬ Valid clock params time leaseTtlMs
      · rw [reserve_of_invalid invalid]
        exact consistent.wait later
      · push Not at invalid
        obtain ⟨time, leaseTtlMs, valid⟩ := invalid
        have same := valid.now
        rw [parsed] at same
        cases same
        exact consistent.reserve later valid
  | release clock params =>
    cases stepTo
    cases parsed : parseExecutionNow clock params.now with
    | none =>
      rcases release_cases store.tables clock params with same | ⟨now, some, -⟩
      · rw [same]
        exact consistent.wait le_rfl
      · rw [parsed] at some
        cases some
    | some now => exact consistent.release (monotone now parsed) parsed

theorem Consistent.of_run (consistent : store.Consistent) {later : LeaseStore}
    (run : GuardedRun step NowMonotone store later) :
    later.Consistent ∧ store.tables.RowsKept later.tables := by
  induction run with
  | refl => exact ⟨consistent, .refl _⟩
  | tail run action monotone stepTo ih =>
    have keeps := ih.1.keeps monotone stepTo
    exact ⟨keeps.consistent, ih.2.trans keeps.rows⟩

structure LeasesGuaranteed (store : LeaseStore) : Prop where
  /-- At every moment until the next call, the leases are within the limits. -/
  limited : store.tables.LeasesLimited store.now
  /-- A task has at most one reservation. -/
  single : ∀ taskId, store.tables.reservations.values.countP (·.taskId = taskId) ≤ 1
  /-- No row is removed, and a release is recorded at most once. -/
  kept : ∀ later, GuardedRun step NowMonotone store later → store.tables.RowsKept later.tables
  /-- A repeat returns the reservation that is there. -/
  repeated : ∀ clock params now leaseTtlMs existing, Valid clock params now leaseTtlMs →
    store.tables.reservationOfTask params.taskId = some existing →
    params.sameBinding existing = true →
    store.tables.reserveCloudSkillExecution clock params =
      (.ok (existing.expireAt now), store.tables.expireCloudSkillExecutionLeases now)
  /-- A repeat with another binding only marks the leases that have run out. -/
  conflicting : ∀ clock params now leaseTtlMs existing, Valid clock params now leaseTtlMs →
    store.tables.reservationOfTask params.taskId = some existing →
    params.sameBinding existing = false →
    store.tables.reserveCloudSkillExecution clock params =
      (.error ⟨.idempotencyConflict, none⟩, store.tables.expireCloudSkillExecutionLeases now)
  /-- Marking leases that have run out adds no charge. -/
  uncharged : ∀ now (charged : CloudSkillExecutionReservation → Bool),
    (∀ row releasedAt, charged { row with releasedAt } = charged row) →
    (store.tables.expireCloudSkillExecutionLeases now).reservations.values.countP charged =
      store.tables.reservations.values.countP charged

/-- In every run of the calls of the memory store its leases keep their guarantees. -/
theorem leasesGuaranteed {tables : CloudSkillTables} {start : Instant}
    (keyed : tables.SubscriptionsKeyed) (unreserved : tables.Unreserved)
    (run : Run tables start store) : store.LeasesGuaranteed := by
  have consistent := ((consistent_unreserved keyed unreserved start).of_run run).1
  exact
    { consistent with
      single := consistent.indexed.countP_le_one
      kept := fun later further => (consistent.of_run further).2
      repeated := by
        intro clock params now leaseTtlMs existing valid found same
        rw [reserve_of_valid valid]
        simp only [found, same, if_true]
      conflicting := by
        intro clock params now leaseTtlMs existing valid found differ
        rw [reserve_of_valid valid]
        simp only [found, differ, Bool.false_eq_true, if_false]
      uncharged := by
        intro now charged unread
        rw [values_expire, List.countP_map]
        apply List.countP_congr
        intro row _
        simp only [Function.comp_apply]
        rcases row.expireAt_cases now with same | ⟨-, -, marked⟩
        · rw [same]
        · rw [marked, unread] }

/-- The property that a conflicting repeat changes nothing at all. -/
def LeaseLaw : Prop :=
  ∀ (tables : CloudSkillTables) (start : Instant) (store : LeaseStore),
    tables.SubscriptionsKeyed → tables.Unreserved → Run tables start store →
    store.LeasesGuaranteed ∧ ∀ clock params now leaseTtlMs existing, store.now ≤ now →
        Valid clock params now leaseTtlMs →
        store.tables.reservationOfTask params.taskId = some existing →
        params.sameBinding existing = false →
        (store.tables.reserveCloudSkillExecution clock params).2 = store.tables

def oneUser : CloudSkillTables where
  plans := .set .empty "plan" onePlan
  subscriptions := .set .empty "subscription" oneSubscription
  subscriptionsByOrder := .set .empty "order" "subscription"
  entitlements := .set .empty "entitlement"
    ⟨"entitlement", "subscription", "tenant", "user", "a.skill.b", "plan", .active, 1000, 0⟩
  reservations := .empty
  reservationsByTask := .empty
  nextId := 0

def shortLease : CloudSkillExecutionReservationRequest :=
  { reservationOf "task" with now := some (.instant 1), leaseTtlMs := some 1000 }

/-- The same task for another device, when the lease has run out. -/
def conflictingRepeat : CloudSkillExecutionReservationRequest :=
  { shortLease with deviceId := "other", now := some (.instant 1001) }

def oneLease : LeaseStore := ⟨(oneUser.reserveCloudSkillExecution 0 shortLease).2, 1⟩

theorem subscriptionsKeyed_oneUser : oneUser.SubscriptionsKeyed := by
  have stored : oneUser.subscriptions =
      empty.subscriptions.set "subscription" oneSubscription := rfl
  exact subscriptionsKeyed_empty.set stored rfl

theorem run_oneLease : Run oneUser 0 oneLease := by
  have stepTo : LeaseStore.step ⟨oneUser, 0⟩ (.reserve 0 shortLease) = some oneLease := rfl
  refine GuardedRun.refl.tail (.reserve 0 shortLease) ?_ stepTo
  intro now parsed
  cases parsed
  decide

/-- After the conflicting repeat. -/
def lapsedLease : LeaseStore :=
  ⟨(oneLease.tables.reserveCloudSkillExecution 0 conflictingRepeat).2, 1001⟩

theorem run_lapsedLease : Run oneUser 0 lapsedLease := by
  have stepTo : oneLease.step (.reserve 0 conflictingRepeat) = some lapsedLease := rfl
  refine run_oneLease.tail (.reserve 0 conflictingRepeat) ?_ stepTo
  intro now parsed
  cases parsed
  decide

theorem leasesGuaranteed_lapsedLease :
    lapsedLease.tables.reservations.values.map (·.releasedAt) = [some 1001] ∧
      lapsedLease.LeasesGuaranteed :=
  ⟨rfl, leasesGuaranteed subscriptionsKeyed_oneUser ⟨rfl, rfl⟩ run_lapsedLease⟩

/-- The conflicting repeat is refused, and marks the lease that has run out. -/
theorem not_leaseLaw : ¬ LeaseLaw := by
  intro law
  have valid : Valid 0 conflictingRepeat 1001 1000 := ⟨by decide, rfl, rfl⟩
  have unchanged := (law oneUser 0 oneLease subscriptionsKeyed_oneUser ⟨rfl, rfl⟩ run_oneLease).2
    0 conflictingRepeat 1001 1000 (oneUser.newReservation 1 1000 shortLease oneSubscription)
    (by decide) valid (by decide) (by decide)
  revert unchanged
  decide

end LeaseStore

end LongHub
