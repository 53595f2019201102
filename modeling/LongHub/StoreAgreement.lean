import LongHub.ReservationLeases
import LongHub.StoreTwins

/-!
# The two stores of reservations agree

Both stores receive the same calls one after another, with times that do not go back, over the same
plans, subscriptions and entitlements.
-/

namespace LongHub

open CloudSkillSubscriptionRecord InsertionMap List

structure ReservationStores where
  memory : CloudSkillTables
  pg : PgReservationTables
  now : Instant

/-- Which reservation a release names: the ids differ between the stores. -/
inductive ReleaseTarget where
  | unnamed
  | returned (position : Nat)
  | unknown (text : String)

inductive StoreCall where
  | reserve (clock : Instant) (generated : String) (params : CloudSkillExecutionReservationRequest)
  | release (clock : Instant) (target : ReleaseTarget) (params : CloudSkillExecutionReleaseRequest)

/-- Equal up to the id, and up to release marks that are set after the lease. -/
structure SameReservation (memory pg : CloudSkillExecutionReservation) : Prop where
  same : pg = { memory with reservationId := pg.reservationId, releasedAt := pg.releasedAt }
  released : memory.releasedAt = pg.releasedAt ∨ ∃ marked other,
    memory.releasedAt = some marked ∧ pg.releasedAt = some other ∧
      memory.leaseExpiresAt ≤ marked ∧ memory.leaseExpiresAt ≤ other

def SameAnswer : CloudSkillExecutionReservationResult → CloudSkillExecutionReservationResult → Prop
  | .ok memory, .ok pg => SameReservation memory pg
  | .error rejection, .error other => rejection = other
  | _, _ => False

def SameRelease (memory pg : CloudSkillExecutionReleaseResult) : Prop :=
  memory.released = pg.released ∧ match memory.reservation, pg.reservation with
    | some one, some other => SameReservation one other
    | none, none => True
    | _, _ => False

namespace CloudSkillTables

def PlansKeyed (tables : CloudSkillTables) : Prop :=
  ∀ key plan, tables.plans.get? key = some plan → plan.planId = key

def TasksIndexed (tables : CloudSkillTables) : Prop :=
  ∀ taskId key, tables.reservationsByTask.get? taskId = some key →
    ∃ row, tables.reservations.get? key = some row ∧ row.taskId = taskId

variable {tables : CloudSkillTables}

variable {row new : CloudSkillExecutionReservation} {index : Nat}

theorem ReservationsIndexed.get?_of_mem (indexed : tables.ReservationsIndexed)
    (mem : row ∈ tables.reservations.values) :
    tables.reservations.get? row.reservationId = some row := by
  obtain ⟨key, stored⟩ := mem_values_iff.mp mem
  rw [indexed.rowKey stored]
  exact stored

theorem ReservationsIndexed.nodup_ids (indexed : tables.ReservationsIndexed) :
    (tables.reservations.values.map (·.reservationId)).Nodup := by
  have keys : tables.reservations.values.map (·.reservationId) = tables.reservations.keys := by
    rw [values, InsertionMap.keys, map_map]
    apply map_congr_left
    intro entry mem
    exact indexed.rowKey (get?_eq_some_iff.mpr mem)
  rw [keys]
  exact tables.reservations.nodupKeys

theorem reservationOfTask_eq_find? (indexed : tables.ReservationsIndexed)
    (tasks : tables.TasksIndexed) (taskId : String) : tables.reservationOfTask taskId =
      tables.reservations.values.find? fun row => row.taskId = taskId := by
  cases found : tables.reservations.values.find? fun row => row.taskId = taskId with
  | none =>
    cases indexedAt : tables.reservationsByTask.get? taskId with
    | none => simp [reservationOfTask, indexedAt]
    | some key =>
      obtain ⟨row, stored, same⟩ := tasks taskId key indexedAt
      have absent := find?_eq_none.mp found row (mem_values_of_get? stored)
      exact absurd (decide_eq_true same) absent
  | some row =>
    have same : row.taskId = taskId := by simpa using find?_some found
    obtain ⟨key, stored⟩ := mem_values_iff.mp (mem_of_find?_eq_some found)
    have taskKey := indexed.taskKey stored
    rw [same] at taskKey
    simp [reservationOfTask, taskKey, stored]

theorem ReservationsIndexed.values_set_of_row (indexed : tables.ReservationsIndexed)
    (found : tables.reservations.values[index]? = some row) :
    (tables.reservations.set row.reservationId new).values =
      tables.reservations.values.set index new := by
  have stored := indexed.get?_of_mem (mem_of_getElem? found)
  have present := mem_keys_of_get? stored
  have byKey : (tables.reservations.set row.reservationId new).values =
      tables.reservations.values.map fun other =>
        if other.reservationId = row.reservationId then new else other := by
    rw [values, entries_set_of_present new present, map_map, values, map_map]
    apply map_congr_left
    intro entry mem
    have rowKey := indexed.rowKey (get?_eq_some_iff.mpr mem)
    simp only [Function.comp_apply, rowKey]
    split <;> rfl
  rw [byKey, map_ite_eq_set indexed.nodup_ids found]

theorem TasksIndexed.expire (tasks : tables.TasksIndexed) (now : Instant) :
    (tables.expireCloudSkillExecutionLeases now).TasksIndexed := by
  intro taskId key found
  obtain ⟨row, stored, same⟩ := tasks taskId key found
  refine ⟨row.expireAt now, by simp [expireCloudSkillExecutionLeases, stored], ?_⟩
  rcases row.expireAt_cases now with unchanged | ⟨-, -, marked⟩
  · rw [unchanged, same]
  · rw [marked, same]

theorem TasksIndexed.withoutTask (tasks : tables.TasksIndexed) (taskId : String) :
    (tables.withoutTask taskId).TasksIndexed := by
  intro other key found
  simp only [CloudSkillTables.withoutTask, get?_delete] at found
  split at found
  · cases found
  · exact tasks other key found

theorem TasksIndexed.insertReservation (tasks : tables.TasksIndexed)
    {reservation : CloudSkillExecutionReservation}
    (absent : tables.reservations.get? reservation.reservationId = none) :
    (tables.insertReservation reservation).TasksIndexed := by
  intro taskId key found
  simp only [CloudSkillTables.insertReservation, get?_set] at found ⊢
  split at found
  · next same =>
    cases found
    exact ⟨reservation, if_pos rfl, same.symm⟩
  · obtain ⟨row, stored, same⟩ := tasks taskId key found
    refine ⟨row, ?_, same⟩
    rw [if_neg]
    · exact stored
    · intro atNew
      rw [atNew, absent] at stored
      cases stored

theorem TasksIndexed.setReservation (tasks : tables.TasksIndexed)
    (indexed : tables.ReservationsIndexed) (found : tables.reservations.values[index]? = some row)
    (sameTask : new.taskId = row.taskId) :
    TasksIndexed { tables with reservations := tables.reservations.set row.reservationId new } := by
  intro taskId key ofTask
  obtain ⟨old, stored, same⟩ := tasks taskId key ofTask
  simp only [get?_set]
  split
  · next atKey =>
    rw [atKey, indexed.get?_of_mem (mem_of_getElem? found)] at stored
    cases stored
    exact ⟨new, rfl, sameTask.trans same⟩
  · exact ⟨old, stored, same⟩

theorem ReservationsIndexed.absent (indexed : tables.ReservationsIndexed) :
    tables.reservations.get? (generatedId "csres-" tables.nextId) = none := by
  cases found : tables.reservations.get? (generatedId "csres-" tables.nextId) with
  | none => rfl
  | some row =>
    obtain ⟨number, below, same⟩ := indexed.fresh found
    have sameNumber := generatedId_injective "csres-" same
    omega

theorem newestFirst_head {α : Type} {createdAt : α → Instant} {rows older : List α} {newest : α}
    (ordered : newestFirst createdAt rows = newest :: older) :
    newest ∈ rows ∧ ∀ other ∈ rows, createdAt other ≤ createdAt newest := by
  have sorted := pairwise_insertionSort
    (fun left right : α => createdAt right ≤ createdAt left) rows
  have sameRows (other : α) : other ∈ newestFirst createdAt rows ↔ other ∈ rows :=
    mem_insertionSort _
  rw [newestFirst] at ordered
  rw [ordered, pairwise_cons] at sorted
  simp only [newestFirst, ordered, mem_cons] at sameRows
  refine ⟨(sameRows newest).mp (.inl rfl), ?_⟩
  intro other mem
  rcases (sameRows other).mpr mem with rfl | isOlder
  · exact le_rfl
  · exact sorted.1 other isOlder

/-- Only one matching subscription is the newest. -/
def UniqueNewest (tables : CloudSkillTables)
    (params : CloudSkillExecutionReservationRequest) : Prop :=
  ∀ one ∈ tables.subscriptions.values.filter params.matchesSubscription,
    ∀ other ∈ tables.subscriptions.values.filter params.matchesSubscription,
      (∀ row ∈ tables.subscriptions.values.filter params.matchesSubscription,
        row.createdAt ≤ one.createdAt ∧ row.createdAt ≤ other.createdAt) → one = other

end CloudSkillTables

namespace PgReservationTables

open CloudSkillTables (newestFirst newestFirst_head)

variable {memory : CloudSkillTables} {pg : PgReservationTables} {choice : NewestChoice}
variable {params : CloudSkillExecutionReservationRequest}

structure SharesWith (pg : PgReservationTables) (memory : CloudSkillTables) : Prop where
  plans : pg.plans = memory.plans
  subscriptions : pg.subscriptions = memory.subscriptions
  entitlements : pg.entitlements = memory.entitlements

theorem choose_eq_head (unique : memory.UniqueNewest params) :
    choice.choose (memory.subscriptions.values.filter params.matchesSubscription) =
      (newestFirst createdAt
        (memory.subscriptions.values.filter params.matchesSubscription)).head? := by
  cases ordered : newestFirst createdAt
      (memory.subscriptions.values.filter params.matchesSubscription) with
  | nil =>
    have empty := perm_insertionSort
      (fun left right : CloudSkillSubscriptionRecord => right.createdAt ≤ left.createdAt)
      (memory.subscriptions.values.filter params.matchesSubscription)
    rw [newestFirst] at ordered
    rw [ordered, nil_perm] at empty
    cases chosen : choice.choose
        (memory.subscriptions.values.filter params.matchesSubscription) with
    | none => rfl
    | some subscription =>
      have mem := choice.mem _ _ chosen
      rw [empty] at mem
      cases mem
  | cons newest older =>
    obtain ⟨mem, isNewest⟩ := newestFirst_head ordered
    cases chosen : choice.choose
        (memory.subscriptions.values.filter params.matchesSubscription) with
    | none =>
      rw [choice.isSome _ chosen] at mem
      cases mem
    | some subscription =>
      have same := unique subscription (choice.mem _ _ chosen) newest mem
        fun row rowIn => ⟨choice.newest _ _ chosen row rowIn, isNewest row rowIn⟩
      rw [same, head?_cons]

theorem checkSubscription_eq (shares : pg.SharesWith memory) (plansKeyed : memory.PlansKeyed)
    (unique : memory.UniqueNewest params) (now : Instant) :
    pg.checkSubscription choice now params = memory.checkSubscription now params := by
  simp only [checkSubscription, CloudSkillTables.checkSubscription, shares.plans,
    shares.subscriptions, shares.entitlements, choose_eq_head unique]
  cases planned : memory.plans.get? params.planId with
  | none => rfl
  | some plan =>
    have orderedEq : (newestFirst createdAt
        (memory.subscriptions.values.filter fun subscription =>
          subscription.planId = params.planId && subscription.userId = params.userId &&
            subscription.tenantId = params.tenantId &&
            params.subscriptionId.all fun subscriptionId =>
              subscription.subscriptionId = subscriptionId)) =
      newestFirst createdAt
        (memory.subscriptions.values.filter params.matchesSubscription) := rfl
    rw [orderedEq]
    cases ordered : newestFirst createdAt
        (memory.subscriptions.values.filter params.matchesSubscription) with
    | nil => rfl
    | cons subscription older =>
      have matching := (mem_filter.mp (newestFirst_head ordered).1).2
      simp only [CloudSkillExecutionReservationRequest.matchesSubscription, Bool.and_eq_true,
        decide_eq_true_eq] at matching
      have samePlan : plan.planId = subscription.planId := by
        rw [plansKeyed _ _ planned, matching.1.1.1]
      have entitled (entitlement : CloudSkillEntitlementRecord) :
          (((memory.plans.get? entitlement.planId).any fun plan =>
              plan.skillIds.contains entitlement.skillId) &&
            entitlement.subscriptionId = subscription.subscriptionId &&
            entitlement.tenantId = params.tenantId && entitlement.userId = params.userId &&
            entitlement.skillId = params.skillId && entitlement.planId = params.planId &&
            entitlement.status = .active && decide (now < entitlement.expiresAt)) =
          (plan.skillIds.contains params.skillId &&
            (entitlement.subscriptionId = subscription.subscriptionId &&
            entitlement.tenantId = params.tenantId && entitlement.userId = params.userId &&
            entitlement.skillId = params.skillId && entitlement.planId = params.planId &&
            entitlement.status = .active && decide (now < entitlement.expiresAt))) := by
        by_cases sameSkill : entitlement.skillId = params.skillId
        · by_cases ofPlan : entitlement.planId = params.planId
          · simp [sameSkill, ofPlan, planned, Bool.and_assoc]
          · simp [ofPlan]
        · simp [sameSkill]
      simp only [head?_cons, samePlan, ne_eq, not_true_eq_false, if_false, entitled]
      by_cases hasSkill : plan.skillIds.contains params.skillId = true
      · simp only [hasSkill, Bool.true_and, Bool.not_true, Bool.false_eq_true, if_false]
        rfl
      · have noneEntitled : (memory.entitlements.values.any fun _ => false) = false := by simp
        simp only [hasSkill, Bool.false_and, noneEntitled, Bool.not_false, if_true]
        rfl

end PgReservationTables

end LongHub
