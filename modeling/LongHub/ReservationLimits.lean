import LongHub.ReservationRules

/-!
# The limits of a plan under concurrent reservations

A transaction counts the rows up to the time of its call, and that time was fixed before it got the
lock.
-/

namespace LongHub

open CloudSkillExecutionReservation PgReservationSession PgReservationState PgReservationStore

def isInCycle (terms : SubscriptionTerms) (subscriptionId skillId : String)
    (row : CloudSkillExecutionReservation) : Bool :=
  row.subscriptionId = subscriptionId && row.skillId = skillId &&
    terms.startsAt ≤ row.reservedAt && row.reservedAt < terms.expiresAt

def isInMinute (subscriptionId tenantId userId deviceId : String) (instant : Instant)
    (row : CloudSkillExecutionReservation) : Bool :=
  row.isOwnedBy subscriptionId tenantId userId deviceId &&
    minuteStart row.reservedAt = minuteStart instant

def PgReservationState.limitsOf (state : PgReservationState) (subscriptionId : String) :
    Option (SubscriptionTerms × CloudSkillPlanRecord) :=
  (state.termsOf subscriptionId).bind fun terms =>
    (state.plans.get? terms.planId).map fun plan => (terms, plan)

structure WithinLimits (terms : SubscriptionTerms) (plan : CloudSkillPlanRecord)
    (subscriptionId : String) (rows : List CloudSkillExecutionReservation) : Prop where
  cycle : ∀ skillId,
    (rows.countP (isInCycle terms subscriptionId skillId) : Int) ≤ plan.includedCalls
  minute : ∀ tenantId userId deviceId instant,
    (rows.countP (isInMinute subscriptionId tenantId userId deviceId instant) : Int) ≤
      plan.requestsPerMinute

/-- The committed reservations of every subscription keep to its limits. -/
def QuotaKept (state : PgReservationState) : Prop :=
  ∀ subscriptionId terms plan, state.limitsOf subscriptionId = some (terms, plan) →
    WithinLimits terms plan subscriptionId state.rows

def ignoresLaterRows (state : PgReservationState) : PgReservationCall → Bool
  | .countCycle subscription skillId now =>
    (state.limitsOf subscription.subscriptionId).all fun limits =>
      limits.2.includedCalls ≤ (state.rows.countP (countsInCycle subscription skillId now) : Int) ||
        (state.rows.countP (isInCycle limits.1 subscription.subscriptionId skillId) : Int) <
          limits.2.includedCalls
  | .countMinute subscriptionId tenantId userId deviceId now =>
    (state.limitsOf subscriptionId).all fun limits =>
      limits.2.requestsPerMinute ≤ (state.rows.countP (fun row =>
            row.isOwnedBy subscriptionId tenantId userId deviceId &&
              row.countsInMinute now) : Int) ||
        (state.rows.countP (isInMinute subscriptionId tenantId userId deviceId now) : Int) <
          limits.2.requestsPerMinute
  | _ => true

/-- Reservations whose counts do not depend on the rows that they leave out. -/
def orderedServer := reservationServer.restrict fun _ request _ state =>
  ignoresLaterRows state request

theorem ignoresRelease_isInCycle (terms : SubscriptionTerms)
    (subscriptionId skillId : String) :
    IgnoresRelease (isInCycle terms subscriptionId skillId) := fun _ => rfl

theorem ignoresRelease_isInMinute (subscriptionId tenantId userId deviceId : String)
    (instant : Instant) :
    IgnoresRelease (isInMinute subscriptionId tenantId userId deviceId instant) :=
  fun _ => rfl

variable {terms : SubscriptionTerms} {subscriptionId : String}
  {row : CloudSkillExecutionReservation} {plan : CloudSkillPlanRecord}

theorem subscriptionId_of_isInCycle {skillId : String}
    (counted : isInCycle terms subscriptionId skillId row = true) :
    row.subscriptionId = subscriptionId := by
  simp only [isInCycle, Bool.and_eq_true, decide_eq_true_eq] at counted
  exact counted.1.1.1

theorem subscriptionId_of_isInMinute {tenantId userId deviceId : String} {instant : Instant}
    (counted : isInMinute subscriptionId tenantId userId deviceId instant row = true) :
    row.subscriptionId = subscriptionId := by
  simp only [isInMinute, isOwnedBy, Bool.and_eq_true, decide_eq_true_eq] at counted
  exact counted.1.1.1.1

/-- The rows of a subscription are the same up to releases. -/
def UsageKept (subscriptionId : String) (before after : PgReservationState) : Prop :=
  ∀ property, IgnoresRelease property →
    (∀ row, property row = true → row.subscriptionId = subscriptionId) →
      after.rows.countP property = before.rows.countP property

theorem UsageKept.of_rows {before after : PgReservationState} (same : after.rows = before.rows) :
    UsageKept subscriptionId before after := by
  intro property _ _
  rw [same]

theorem UsageKept.withinLimits {before after : PgReservationState}
    (usage : UsageKept subscriptionId before after)
    (within : WithinLimits terms plan subscriptionId before.rows) :
    WithinLimits terms plan subscriptionId after.rows := by
  constructor
  · intro skillId
    rw [usage _ (ignoresRelease_isInCycle _ _ _) fun _ => subscriptionId_of_isInCycle]
    exact within.cycle skillId
  · intro tenantId userId deviceId instant
    rw [usage _ (ignoresRelease_isInMinute _ _ _ _ _) fun _ => subscriptionId_of_isInMinute]
    exact within.minute tenantId userId deviceId instant

/-- The same with one more row in front. -/
theorem UsageKept.withinLimits_cons {before after : PgReservationState}
    (usage : UsageKept subscriptionId before after)
    (within : WithinLimits terms plan subscriptionId (row :: before.rows)) :
    WithinLimits terms plan subscriptionId (row :: after.rows) := by
  constructor
  · intro skillId
    have bound := within.cycle skillId
    rw [List.countP_cons] at bound ⊢
    rw [usage _ (ignoresRelease_isInCycle _ _ _) fun _ => subscriptionId_of_isInCycle]
    exact bound
  · intro tenantId userId deviceId instant
    have bound := within.minute tenantId userId deviceId instant
    rw [List.countP_cons] at bound ⊢
    rw [usage _ (ignoresRelease_isInMinute _ _ _ _ _) fun _ => subscriptionId_of_isInMinute]
    exact bound

theorem countP_visible {state : PgReservationState} {thread : Nat}
    {property : CloudSkillExecutionReservation → Bool} (ignores : IgnoresRelease property)
    (idle : (state.sessions thread).inserted = none) :
    (state.visible thread).countP property = state.rows.countP property := by
  rw [visible, countP_write ignores, idle]
  rfl

structure QuotaInv (state : PgReservationState) : Prop where
  exclusive : state.locks.Exclusive
  keyed : state.SubscriptionsKeyed
  kept : QuotaKept state
  pending : ∀ {thread row}, (state.sessions thread).inserted = some row →
    state.locks.Holds thread (.subscription row.subscriptionId) ∧
      ∀ terms plan, state.limitsOf row.subscriptionId = some (terms, plan) →
        WithinLimits terms plan row.subscriptionId (row :: state.rows)

structure QuotaRely (thread : Nat) (before after : PgReservationState) : Prop where
  apart : Apart thread before after
  usage : ∀ {subscriptionId}, before.locks.Holds thread (.subscription subscriptionId) →
    UsageKept subscriptionId before after

def QuotaGuarantee (thread : Nat) (before after : PgReservationState) : Prop :=
  ∀ other, other ≠ thread → QuotaRely other before after

variable {before after state : PgReservationState} {thread : Nat} {generated : String}

theorem PgReservationState.Apart.limitsOf (apart : Apart thread before after) :
    after.limitsOf = before.limitsOf := by
  funext subscriptionId
  rw [PgReservationState.limitsOf, apart.terms, apart.plans, PgReservationState.limitsOf]

theorem PgReservationState.Reads.limitsOf (reads : Reads thread before after) :
    after.limitsOf = before.limitsOf := by
  funext subscriptionId
  rw [PgReservationState.limitsOf, termsOf_congr reads.subscriptions, reads.plans,
    PgReservationState.limitsOf]

theorem QuotaInv.reads (inv : QuotaInv before) (reads : Reads thread before after) :
    QuotaInv after := by
  constructor
  case exclusive => exact reads.exclusive inv.exclusive
  case keyed => exact inv.keyed.congr reads.subscriptions
  case kept =>
    intro subscriptionId terms plan limits
    rw [reads.limitsOf] at limits
    exact (UsageKept.of_rows reads.rows).withinLimits (inv.kept _ _ _ limits)
  case pending =>
    intro other row inserted
    rw [reads.inserted] at inserted
    obtain ⟨held, within⟩ := inv.pending inserted
    rw [reads.limitsOf, reads.rows]
    exact ⟨reads.holds held, within⟩

theorem quotaGuarantee_of_rows (executed : ∀ other, other ≠ thread → Apart other before after)
    (same : after.rows = before.rows) : QuotaGuarantee thread before after :=
  fun other differ => ⟨executed other differ, fun _ => .of_rows same⟩

theorem QuotaInv.forget (inv : QuotaInv before)
    (apart : ∀ other, other ≠ thread → Apart other before after)
    (exclusive : after.locks.Exclusive) (keyed : after.SubscriptionsKeyed)
    (limits : after.limitsOf = before.limitsOf) (rows : after.rows = before.rows)
    (idle : (after.sessions thread).inserted = none) : QuotaInv after := by
  refine ⟨exclusive, keyed, ?_, ?_⟩
  · intro subscriptionId terms plan found
    rw [limits] at found
    exact (UsageKept.of_rows rows).withinLimits (inv.kept _ _ _ found)
  · intro other row inserted
    by_cases same : other = thread
    · rw [same, idle] at inserted
      cases inserted
    · rw [(apart other same).session] at inserted
      obtain ⟨held, within⟩ := inv.pending inserted
      rw [limits, rows]
      exact ⟨(apart other same).holds held, within⟩

theorem QuotaInv.commit (inv : QuotaInv before)
    (executed : before.execute thread generated .commit = some (.ok (), after)) :
    QuotaGuarantee thread before after ∧ QuotaInv after := by
  have apart : ∀ other, other ≠ thread → Apart other before after :=
    fun other differ => execute_apart differ executed
  cases executed
  have counted {property : CloudSkillExecutionReservation → Bool}
      (ignores : IgnoresRelease property) :
      (before.visible thread).countP property = before.rows.countP property +
        (before.sessions thread).inserted.toList.countP property :=
    countP_write ignores _ _
  cases inserted : (before.sessions thread).inserted with
  | none =>
    have usage (subscriptionId : String) : UsageKept subscriptionId before
        { before.endTransaction thread with rows := before.visible thread } := by
      intro property ignores _
      exact countP_visible ignores inserted
    refine ⟨fun other differ => ⟨apart other differ, fun _ => usage _⟩, ?_⟩
    refine ⟨inv.exclusive.releaseAll thread, inv.keyed, ?_, ?_⟩
    · intro subscriptionId terms plan found
      exact (usage subscriptionId).withinLimits (inv.kept _ _ _ found)
    · intro other row pending
      by_cases same : other = thread
      · subst same
        simp [endTransaction, setSession, empty] at pending
      · rw [(apart other same).session] at pending
        obtain ⟨held, within⟩ := inv.pending pending
        exact ⟨(apart other same).holds held,
          fun terms plan found => (usage _).withinLimits_cons (within terms plan found)⟩
  | some row =>
    obtain ⟨held, within⟩ := inv.pending inserted
    -- the rows of every other subscription are as before
    have usage {subscriptionId : String} (differ : row.subscriptionId ≠ subscriptionId) :
        UsageKept subscriptionId before
          { before.endTransaction thread with rows := before.visible thread } := by
      intro property ignores only
      have notCounted : property row = false := by
        by_contra counted
        exact differ (only row (by simpa using counted))
      simpa [inserted, notCounted] using counted ignores
    have own {property : CloudSkillExecutionReservation → Bool}
        (ignores : IgnoresRelease property) :
        (before.visible thread).countP property = (row :: before.rows).countP property := by
      rw [counted ignores, inserted, List.countP_cons]
      simp
    refine ⟨fun other differ => ⟨apart other differ, fun {subscriptionId} holds => ?_⟩,
      inv.exclusive.releaseAll thread, inv.keyed, ?_, ?_⟩
    · apply usage
      rintro rfl
      exact differ (inv.exclusive holds held)
    · intro subscriptionId terms plan found
      by_cases same : row.subscriptionId = subscriptionId
      · subst same
        constructor
        · intro skillId
          rw [own (ignoresRelease_isInCycle _ _ _)]
          exact (within terms plan found).cycle skillId
        · intro tenantId userId deviceId instant
          rw [own (ignoresRelease_isInMinute _ _ _ _ _)]
          exact (within terms plan found).minute tenantId userId deviceId instant
      · exact (usage same).withinLimits (inv.kept _ _ _ found)
    · intro other pendingRow pending
      by_cases same : other = thread
      · subst same
        simp [endTransaction, setSession, empty] at pending
      · rw [(apart other same).session] at pending
        obtain ⟨otherHeld, otherWithin⟩ := inv.pending pending
        have differ : row.subscriptionId ≠ pendingRow.subscriptionId := by
          intro equal
          rw [← equal] at otherHeld
          exact same (inv.exclusive otherHeld held)
        exact ⟨(apart other same).holds otherHeld, fun terms plan found =>
          (usage differ).withinLimits_cons (otherWithin terms plan found)⟩

structure HasSubscription (thread : Nat) (plan : CloudSkillPlanRecord)
    (subscription : CloudSkillSubscriptionRecord) (state : PgReservationState) : Prop where
  idle : (state.sessions thread).inserted = none
  holds : state.locks.Holds thread (.subscription subscription.subscriptionId)
  limits : state.limitsOf subscription.subscriptionId = some (subscription.terms, plan)

def HasCycleRoom (skillId : String) (plan : CloudSkillPlanRecord)
    (subscription : CloudSkillSubscriptionRecord) (state : PgReservationState) : Prop :=
  (state.rows.countP (isInCycle subscription.terms subscription.subscriptionId skillId) : Int) <
      plan.includedCalls

def HasMinuteRoom (params : CloudSkillExecutionReservationRequest) (now : Instant)
    (plan : CloudSkillPlanRecord) (subscription : CloudSkillSubscriptionRecord)
    (state : PgReservationState) : Prop :=
  (state.rows.countP (isInMinute subscription.subscriptionId params.tenantId
    params.userId params.deviceId now) : Int) < plan.requestsPerMinute

theorem withinLimits_newRow {params : CloudSkillExecutionReservationRequest} {now leaseTtlMs : Int}
    {reservationId : String} {subscription : CloudSkillSubscriptionRecord}
    (within : WithinLimits subscription.terms plan subscription.subscriptionId state.rows)
    (cycleRoom : HasCycleRoom params.skillId plan subscription state)
    (minuteRoom : HasMinuteRoom params now plan subscription state) :
    WithinLimits subscription.terms plan subscription.subscriptionId
      (newRow reservationId params now leaseTtlMs subscription :: state.rows) := by
  constructor
  · intro skillId
    have bound := within.cycle skillId
    rw [List.countP_cons]
    split
    · next counted =>
      simp only [isInCycle, newRow, Bool.and_eq_true] at counted
      have same : params.skillId = skillId := of_decide_eq_true counted.1.1.2
      subst same
      have room := cycleRoom
      unfold HasCycleRoom at room
      omega
    · omega
  · intro tenantId userId deviceId instant
    have bound := within.minute tenantId userId deviceId instant
    rw [List.countP_cons]
    split
    · next counted =>
      simp only [isInMinute, isOwnedBy, newRow, Bool.and_eq_true] at counted
      have sameTenant : params.tenantId = tenantId := of_decide_eq_true counted.1.1.1.2
      have sameUser : params.userId = userId := of_decide_eq_true counted.1.1.2
      have sameDevice : params.deviceId = deviceId := of_decide_eq_true counted.1.2
      have sameMinute : minuteStart now = minuteStart instant := of_decide_eq_true counted.2
      subst sameTenant sameUser sameDevice
      have room := minuteRoom
      unfold HasMinuteRoom isInMinute at room
      rw [sameMinute] at room
      unfold isInMinute
      omega
    · omega

theorem QuotaInv.insert {params : CloudSkillExecutionReservationRequest} {now leaseTtlMs : Int}
    {plan : CloudSkillPlanRecord} {subscription : CloudSkillSubscriptionRecord}
    {answer : Except PgReservationError CloudSkillExecutionReservation} (inv : QuotaInv before)
    (subscribed : HasSubscription thread plan subscription before)
    (cycleRoom : HasCycleRoom params.skillId plan subscription before)
    (minuteRoom : HasMinuteRoom params now plan subscription before)
    (executed : before.execute thread generated (.insert params now leaseTtlMs subscription) =
      some (answer, after)) : QuotaGuarantee thread before after ∧ QuotaInv after := by
  have apart : ∀ other, other ≠ thread → Apart other before after :=
    fun other differ => execute_apart differ executed
  have unchanged : QuotaGuarantee thread before before ∧ QuotaInv before :=
    ⟨quotaGuarantee_of_rows (fun other differ => (Reads.refl thread before).apart differ)
      rfl, inv⟩
  simp only [execute] at executed
  split at executed
  · cases executed
  · obtain ⟨locked, acquired, equal⟩ := Option.map_eq_some_iff.mp executed
    split at equal
    · cases equal
      exact unchanged
    · split at equal
      · cases equal
        exact unchanged
      · cases equal
        have reads := reads_lock acquired
        refine ⟨quotaGuarantee_of_rows apart reads.rows, ?_⟩
        have lockedInv := inv.reads reads
        refine ⟨lockedInv.exclusive, lockedInv.keyed, lockedInv.kept, ?_⟩
        intro other row inserted
        by_cases same : other = thread
        · subst same
          simp only [setSession, Function.update_self, Option.some.injEq] at inserted
          subst inserted
          refine ⟨reads.holds subscribed.holds, fun terms plan' found => ?_⟩
          have limits : locked.limitsOf subscription.subscriptionId =
              some (subscription.terms, plan) := by
            rw [reads.limitsOf]
            exact subscribed.limits
          obtain ⟨rfl, rfl⟩ : terms = subscription.terms ∧ plan' = plan := by
            have equal := limits.symm.trans found
            simpa [eq_comm] using equal
          have within := inv.kept _ _ _ subscribed.limits
          change WithinLimits _ _ _ (_ :: locked.rows)
          rw [reads.rows]
          exact withinLimits_newRow within cycleRoom minuteRoom
        · simp only [setSession, Function.update_of_ne same] at inserted
          exact lockedInv.pending inserted

end LongHub
