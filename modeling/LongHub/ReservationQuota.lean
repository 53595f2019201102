import LongHub.ReservationLimits

/-!
# Concurrent reservations keep to the quota and to the rate

Every transaction is followed from its begin to its insert.
-/

namespace LongHub

open CloudSkillExecutionReservation List Machine.Stable Option PgReservationState PgReservationStore
  ReservationRules

variable {before after state : PgReservationState} {thread : Nat} {generated : String}
variable {α : Type}

theorem PgReservationState.Occurs.usageKept (occurs : Occurs before after)
    (subscriptionId : String) : UsageKept subscriptionId before after := by
  intro property ignores _
  obtain ⟨released, rows⟩ := occurs.rows
  rw [rows, PgReservationSession.countP_write ignores]
  rfl

def quotaRules : ReservationRules where
  condition _ request state := ignoresLaterRows state request
  Inv := QuotaInv
  Rely := QuotaRely
  apart rely := rely.apart
  occurs occurs := ⟨occurs.apart _, fun _ => occurs.usageKept _⟩
  reads inv reads :=
    ⟨quotaGuarantee_of_rows (fun _ differ => reads.apart differ) reads.rows, inv.reads reads⟩

/-- A program keeps the limits in every interleaving. -/
abbrev SafeQuota (thread : Nat) {α : Type} (program : PgReservationProgram α) :
    PgReservationState → Prop :=
  quotaRules.server.Safe QuotaInv quotaRules.Guarantee thread (fun _ _ => True) program

theorem lasts_hasSubscription (plan : CloudSkillPlanRecord)
    (subscription : CloudSkillSubscriptionRecord) :
    quotaRules.LastsUntilWrite thread (HasSubscription thread plan subscription) := by
  have idle : quotaRules.LastsUntilWrite thread fun state =>
      (state.sessions thread).inserted = none := lasts_isIdle
  constructor
  · intro before after (rely : QuotaRely thread before after) has
    refine ⟨idle.1 before after rely has.idle, rely.apart.holds has.holds, ?_⟩
    rw [rely.apart.limitsOf]
    exact has.limits
  · intro before after reads has
    refine ⟨idle.2 before after reads has.idle, reads.holds has.holds, ?_⟩
    rw [reads.limitsOf]
    exact has.limits

theorem lasts_cycleRoom (skillId : String) (plan : CloudSkillPlanRecord)
    (subscription : CloudSkillSubscriptionRecord) :
    quotaRules.LastsUntilWrite thread fun state => HasSubscription thread plan subscription state ∧
      HasCycleRoom skillId plan subscription state := by
  have subscribed : quotaRules.LastsUntilWrite thread (HasSubscription thread plan subscription) :=
    lasts_hasSubscription plan subscription
  constructor
  · rintro before after (rely : QuotaRely thread before after) ⟨has, room⟩
    refine ⟨subscribed.1 before after rely has, ?_⟩
    unfold HasCycleRoom
    rw [rely.usage has.holds _ (ignoresRelease_isInCycle _ _ _)
      fun _ => subscriptionId_of_isInCycle]
    exact room
  · rintro before after reads ⟨has, room⟩
    refine ⟨subscribed.2 before after reads has, ?_⟩
    unfold HasCycleRoom
    rw [reads.rows]
    exact room

theorem lasts_minuteRoom (params : CloudSkillExecutionReservationRequest) (now : Instant)
    (plan : CloudSkillPlanRecord) (subscription : CloudSkillSubscriptionRecord) :
    quotaRules.LastsUntilWrite thread fun state => HasSubscription thread plan subscription state ∧
      HasMinuteRoom params now plan subscription state := by
  have subscribed : quotaRules.LastsUntilWrite thread (HasSubscription thread plan subscription) :=
    lasts_hasSubscription plan subscription
  constructor
  · rintro before after (rely : QuotaRely thread before after) ⟨has, room⟩
    refine ⟨subscribed.1 before after rely has, ?_⟩
    unfold HasMinuteRoom
    rw [rely.usage has.holds _ (ignoresRelease_isInMinute _ _ _ _ _)
      fun _ => subscriptionId_of_isInMinute]
    exact room
  · rintro before after reads ⟨has, room⟩
    refine ⟨subscribed.2 before after reads has, ?_⟩
    unfold HasMinuteRoom
    rw [reads.rows]
    exact room

/-- Every statement but the insert keeps the invariant by itself. -/
def isPlain : PgReservationCall → Bool
  | .insert .. => false
  | _ => true

theorem keeps_isPlain {request : PgReservationCall}
    {answer : Except PgReservationError request.Answer} (plain : isPlain request = true)
    (inv : QuotaInv before)
    (executed : before.execute thread generated request = some (answer, after)) :
    QuotaGuarantee thread before after ∧ QuotaInv after := by
  have apart : ∀ other, other ≠ thread → Apart other before after :=
    fun other differ => execute_apart differ executed
  by_cases reading : request.isReading = true
  · have reads := (execute_reading reading executed).2
    exact ⟨quotaGuarantee_of_rows apart reads.rows, inv.reads reads⟩
  · cases request with
    | insert _ _ _ _ => cases plain
    | commit =>
      obtain rfl : answer = .ok () := by
        cases executed
        rfl
      exact inv.commit executed
    | call params =>
      cases executed
      exact ⟨quotaGuarantee_of_rows apart rfl, inv.exclusive, inv.keyed, inv.kept, inv.pending⟩
    | answer params result =>
      cases executed
      exact ⟨quotaGuarantee_of_rows apart rfl, inv.exclusive, inv.keyed, inv.kept, inv.pending⟩
    | begin =>
      cases executed
      refine ⟨quotaGuarantee_of_rows apart rfl, ?_⟩
      exact inv.forget apart inv.exclusive inv.keyed rfl rfl
        (by simp [setSession, PgReservationSession.empty])
    | rollback =>
      cases executed
      refine ⟨quotaGuarantee_of_rows apart rfl, ?_⟩
      exact inv.forget apart (inv.exclusive.releaseAll thread) inv.keyed rfl rfl
        (by simp [endTransaction, setSession, PgReservationSession.empty])
    | _ => exact absurd rfl reading

theorem safe_plainCalls {program : PgReservationProgram α}
    (calls : program.Calls fun request => isPlain request = true) :
    SafeQuota thread program state := by
  refine Machine.safe_of_calls (const True) ?_ calls trivial
  intro request plain before choice answer after inv _ ran
  obtain ⟨guarantee, invAfter⟩ := keeps_isPlain plain inv (perform_server ran).2
  exact ⟨guarantee, invAfter, trivial⟩

theorem plainCalls_query {request : PgReservationCall} (plain : isPlain request = true) :
    (query request).Calls fun request => isPlain request = true :=
  Program.calls_perform plain

theorem plainCalls_refuse (reason : CloudSkillExecutionRejectionReason)
    (retryAfterSeconds : Option Int) :
    (refuse reason retryAfterSeconds).Calls fun request => isPlain request = true :=
  (plainCalls_query rfl).bind fun _ => trivial

theorem plainCalls_replay (params : CloudSkillExecutionReservationRequest) (now : Instant)
    (existing : CloudSkillExecutionReservation) :
    (replay params now existing).Calls fun request => isPlain request = true := by
  unfold replay
  split
  · exact (plainCalls_query rfl).bind fun _ => (plainCalls_query rfl).bind fun _ => trivial
  · exact (plainCalls_query rfl).bind fun _ => trivial

theorem plainCalls_recover (params : CloudSkillExecutionReservationRequest)
    (error : PgReservationError) :
    (recover params error).Calls fun request => isPlain request = true := by
  refine (plainCalls_query rfl).bind fun _ => ?_
  split
  · refine (plainCalls_query rfl).bind fun existing => ?_
    cases existing <;> trivial
  · trivial

variable {plan : CloudSkillPlanRecord} {subscription : CloudSkillSubscriptionRecord}
  {params : CloudSkillExecutionReservationRequest} {now leaseTtlMs : Int}

theorem cycleRoom_of_count {skillId : String} {now : Instant} {counted : Nat}
    (has : HasSubscription thread plan subscription before)
    (ignores : ignoresLaterRows before (.countCycle subscription skillId now) = true)
    (executed : before.execute thread generated (.countCycle subscription skillId now) =
      some (.ok counted, after)) (below : ¬ plan.includedCalls ≤ (counted : Int)) :
    HasCycleRoom skillId plan subscription after := by
  have visible : (before.visible thread).countP (countsInCycle subscription skillId now) =
      before.rows.countP (countsInCycle subscription skillId now) :=
    countP_visible (fun _ => rfl) has.idle
  cases executed
  simp only [ignoresLaterRows, has.limits, all_some, Bool.or_eq_true, decide_eq_true_eq] at ignores
  rw [visible] at below
  exact ignores.resolve_left below

theorem minuteRoom_of_count {now : Instant} {counted : Nat}
    (has : HasSubscription thread plan subscription before)
    (ignores : ignoresLaterRows before (.countMinute subscription.subscriptionId
      params.tenantId params.userId params.deviceId now) = true)
    (executed : before.execute thread generated (.countMinute subscription.subscriptionId
      params.tenantId params.userId params.deviceId now) = some (.ok counted, after))
    (below : ¬ plan.requestsPerMinute ≤ (counted : Int)) :
    HasMinuteRoom params now plan subscription after := by
  have visible : (before.visible thread).countP (fun row =>
      row.isOwnedBy subscription.subscriptionId params.tenantId params.userId
        params.deviceId && row.countsInMinute now) =
      before.rows.countP fun row =>
        row.isOwnedBy subscription.subscriptionId params.tenantId params.userId
          params.deviceId && row.countsInMinute now :=
    countP_visible (fun _ => rfl) has.idle
  cases executed
  simp only [ignoresLaterRows, has.limits, all_some, Bool.or_eq_true, decide_eq_true_eq] at ignores
  rw [visible] at below
  exact ignores.resolve_left below

theorem safe_reserveWithinLimits (has : HasSubscription thread plan subscription state) :
    SafeQuota thread (reserveWithinLimits params now leaseTtlMs plan subscription) state := by
  apply safe_reading rfl (lasts_hasSubscription plan subscription) has
  intro before _ cycleUsage afterCycle _ hasBefore ignores executed _ hasCycle _
  split
  · exact safe_plainCalls (plainCalls_refuse _ _)
  · next cycleBelow =>
    have cycleRoom := cycleRoom_of_count hasBefore ignores executed cycleBelow
    apply safe_reading rfl (lasts_cycleRoom params.skillId plan subscription) ⟨hasCycle, cycleRoom⟩
    intro before _ minuteUsage afterMinute _ roomBefore ignores executed _ roomMinute _
    split
    · exact safe_plainCalls (plainCalls_refuse _ _)
    · next minuteBelow =>
      have minuteRoom := minuteRoom_of_count roomBefore.1 ignores executed minuteBelow
      have lasts : quotaRules.LastsUntilWrite thread _ :=
        (lasts_cycleRoom params.skillId plan subscription).and
          (lasts_minuteRoom params now plan subscription)
      apply safe_reading rfl lasts ⟨roomMinute, roomMinute.1, minuteRoom⟩
      intro before _ active afterActive _ _ _ _ _ room _
      split
      · exact safe_plainCalls (plainCalls_refuse _ _)
      · -- both places are still there when the row is inserted
        apply Machine.safe_call lasts.stable room
        rintro before generated answer after inv ⟨⟨has, cycleRoom⟩, -, minuteRoom⟩ ran
        obtain ⟨guarantee, invAfter⟩ :=
          inv.insert has cycleRoom minuteRoom (perform_server ran).2
        refine ⟨guarantee, invAfter, safe_plainCalls ?_⟩
        cases answer with
        | ok row => exact (plainCalls_query rfl).bind fun _ => trivial
        | error error => trivial

theorem limitsOf_of_stored {planId : String} (keyed : state.SubscriptionsKeyed)
    (mem : subscription ∈ state.subscriptions.values) (ofPlan : subscription.planId = planId)
    (stored : state.plans.get? planId = some plan) :
    state.limitsOf subscription.subscriptionId = some (subscription.terms, plan) := by
  have planOfTerms : subscription.terms.planId = planId := ofPlan
  rw [limitsOf, termsOf_selected keyed mem, bind_some, planOfTerms, stored, map_some]

theorem safe_reserveThrough (has : HasSubscription thread plan subscription state) :
    SafeQuota thread (reserveThrough params now leaseTtlMs plan subscription) state := by
  have lasts : quotaRules.LastsUntilWrite thread (HasSubscription thread plan subscription) :=
    lasts_hasSubscription plan subscription
  unfold reserveThrough
  split
  · exact safe_plainCalls (plainCalls_refuse _ _)
  · split
    · exact safe_plainCalls (plainCalls_refuse _ _)
    · apply safe_reading rfl lasts has
      intro before _ entitlement after _ _ _ _ _ hasAfter _
      cases entitlement with
      | none => exact safe_plainCalls (plainCalls_refuse _ _)
      | some entitlement =>
        apply safe_reading rfl lasts hasAfter
        intro before _ _ after _ _ _ _ _ hasAfter _
        exact safe_reserveWithinLimits hasAfter

theorem safe_admitExecution (idle : (state.sessions thread).inserted = none) :
    SafeQuota thread (admitExecution params now leaseTtlMs) state := by
  apply safe_reading rfl lasts_isIdle idle
  intro before _ planRow after _ _ _ executed _ idleAfter _
  cases planRow with
  | none => exact safe_plainCalls (plainCalls_refuse _ _)
  | some plan =>
    have stored : after.plans.get? params.planId = some plan := by
      simp only [execute, Option.some.injEq, Prod.mk.injEq, Except.ok.injEq] at executed
      rw [← executed.2]
      exact executed.1
    apply safe_reading rfl (lasts_isIdle.and (lasts_plan params.planId plan)) ⟨idleAfter, stored⟩
    intro before _ subscriptionRow after _ _ _ executed inv known reads
    cases subscriptionRow with
    | none => exact safe_plainCalls (plainCalls_refuse _ _)
    | some subscription =>
      simp only [execute] at executed
      split at executed
      · cases executed
      · next selected found =>
        obtain ⟨locked, acquired, equal⟩ := map_eq_some_iff.mp executed
        cases equal
        obtain ⟨mem, ofPlan, -, -⟩ := of_selectSubscription found
        have holds : after.locks.Holds thread (.subscription subscription.subscriptionId) := by
          obtain ⟨locks, taken, rfl⟩ := map_eq_some_iff.mp acquired
          exact (LockTable.holds_of_acquireAll taken).mpr (Or.inl ⟨rfl, mem_singleton_self _⟩)
        rw [← reads.subscriptions] at mem
        have limits := limitsOf_of_stored inv.keyed mem ofPlan known.2
        exact safe_reserveThrough ⟨known.1, holds, limits⟩

theorem safe_transaction : SafeQuota thread (transaction params now leaseTtlMs) state := by
  apply Machine.safe_perform_bind (const True) trivial
  · intro before generated answer after inv _ ran
    have executed := (perform_server ran).2
    obtain ⟨guarantee, invAfter⟩ := keeps_isPlain rfl inv executed
    refine ⟨guarantee, invAfter, ?_⟩
    have idle : (after.sessions thread).inserted = none := by
      cases executed
      simp [setSession, PgReservationSession.empty]
    apply safe_reading rfl lasts_isIdle idle
    intro before _ existing after _ _ _ _ _ idleAfter _
    cases existing with
    | none => exact safe_admitExecution idleAfter
    | some existing => exact safe_plainCalls (plainCalls_replay params now existing)
  · intro before generated error after inv _ ran
    cases (perform_server ran).2

theorem safe_reserveCloudSkillExecution {clock : Instant} (inv : QuotaInv state) :
    SafeQuota thread (reserveCloudSkillExecution clock params) state := by
  unfold reserveCloudSkillExecution
  split
  · exact safe_plainCalls trivial
  · split
    · apply Machine.safe_tryCatch inv safe_transaction
      · intro error state _ _
        exact safe_plainCalls (plainCalls_recover params error)
      · exact fun _ _ _ _ => trivial
    · exact safe_plainCalls trivial

theorem safe_serveReservation : SafeQuota thread (serveReservation params) state := by
  apply Machine.safe_perform_bind (const True) trivial
  · intro before generated clock after inv _ ran
    obtain ⟨guarantee, invAfter⟩ := keeps_isPlain rfl inv (perform_server ran).2
    refine ⟨guarantee, invAfter, ?_⟩
    apply Machine.safe_bind invAfter (safe_reserveCloudSkillExecution invAfter)
    · intro result state _ _
      exact safe_plainCalls (plainCalls_query rfl)
    · exact fun _ _ _ _ => trivial
  · intro before generated error after inv _ ran
    cases (perform_server ran).2

/-- No transaction is open, and the rows that are there keep to the limits. -/
structure QuotaStart (state : PgReservationState) : Prop where
  unlocked : state.locks = .empty
  idle : ∀ thread, state.sessions thread = .empty
  keyed : state.SubscriptionsKeyed
  kept : QuotaKept state

theorem QuotaStart.quotaInv (start : QuotaStart state) : QuotaInv state := by
  constructor
  case exclusive =>
    rw [start.unlocked]
    exact LockTable.exclusive_empty
  case keyed => exact start.keyed
  case kept => exact start.kept
  case pending =>
    intro thread row inserted
    rw [start.idle] at inserted
    cases inserted

theorem quotaInv_occur {event : PgReservationState.Event} (inv : QuotaInv before)
    (occurred : before.occur event = some after) : QuotaInv after := by
  have occurs := occurs_of_occur occurred
  have limits : after.limitsOf = before.limitsOf := (occurs.apart 0).limitsOf
  constructor
  case exclusive =>
    rw [occurs.locks]
    exact inv.exclusive
  case keyed => exact occurs.keyed inv.keyed
  case kept =>
    intro subscriptionId terms plan found
    rw [limits] at found
    exact (occurs.usageKept subscriptionId).withinLimits (inv.kept _ _ _ found)
  case pending =>
    intro thread row inserted
    rw [occurs.sessions] at inserted
    obtain ⟨held, within⟩ := inv.pending inserted
    rw [limits, occurs.locks]
    exact ⟨held, fun terms plan found =>
      (occurs.usageKept _).withinLimits_cons (within terms plan found)⟩

/-- In every run whose counts do not depend on the rows after the time of the
call, the committed reservations keep to the quota and to the rate. -/
theorem quotaKept_of_ordered {pool : ReservationPool}
    (reachable : orderedServer.Reachable QuotaStart pool) : QuotaKept pool.shared := by
  have safe := Machine.safe_of_reachable QuotaInv quotaRules.Guarantee (fun _ _ => True)
    (fun _ _ _ => True)
    (fun state started => ⟨QuotaStart.quotaInv started, fun _ => trivial⟩)
    (fun thread => const True)
    (fun event before after inv occurred => quotaInv_occur inv occurred)
    (fun params thread state _ _ => safe_serveReservation) reachable
  exact safe.1.kept

theorem limitsOf_oneCallLeft {subscriptionId : String} {terms : SubscriptionTerms}
    (found : oneCallLeft.limitsOf subscriptionId = some (terms, plan)) : plan = onePlan := by
  obtain ⟨_, _, mapped⟩ := bind_eq_some_iff.mp found
  obtain ⟨stored, isPlan, equal⟩ := map_eq_some_iff.mp mapped
  obtain rfl : stored = plan := (Prod.mk.inj equal).2
  simp only [oneCallLeft, InsertionMap.get?_set, InsertionMap.get?_empty] at isPlan
  split at isPlan
  · exact (Option.some.inj isPlan).symm
  · cases isPlan

theorem quotaStart_oneCallLeft : QuotaStart oneCallLeft := by
  refine ⟨rfl, fun _ => rfl, subscriptionsKeyed_oneCallLeft, ?_⟩
  intro subscriptionId terms plan found
  obtain rfl := limitsOf_oneCallLeft found
  constructor <;> simp [oneCallLeft, onePlan]

/-- The second call waits for the first and is refused. -/
def oneCallRun : List (PoolAction String CloudSkillExecutionReservationRequest
    PgReservationState.Event) :=
  [.start 0 (reservationOf "first"), .start 1 (reservationOf "second")] ++
    replicate 4 (.perform 1 "1") ++ replicate 13 (.perform 0 "0") ++ replicate 6 (.perform 1 "1")

/-- The second call is later and gets the lock first; the first does not count
it. -/
def overtakenRun : List (PoolAction String CloudSkillExecutionReservationRequest
    PgReservationState.Event) :=
  [.start 0 (reservationOf "first"), .perform 0 "", .environment (.tick 2),
    .start 1 (reservationOf "second")] ++
  replicate 13 (.perform 1 "1") ++ replicate 12 (.perform 0 "0")

theorem isSome_oneCallRun :
    (orderedServer.run (Machine.initial oneCallLeft) oneCallRun).isSome = true := by
  decide

theorem isSome_overtakenRun :
    (reservationServer.run (Machine.initial oneCallLeft) overtakenRun).isSome = true := by
  decide

def oneCallPool : ReservationPool :=
  (orderedServer.run (Machine.initial oneCallLeft) oneCallRun).get isSome_oneCallRun

def overtakenPool : ReservationPool :=
  (reservationServer.run (Machine.initial oneCallLeft) overtakenRun).get isSome_overtakenRun

theorem quotaKept_oneCallPool : oneCallPool.shared.history.map Prod.fst = [1, 0, 0, 1] ∧
    oneCallPool.shared.rows.map (·.taskId) = ["first"] ∧ QuotaKept oneCallPool.shared := by
  have started : orderedServer.Reachable QuotaStart (Machine.initial oneCallLeft) :=
    .initial quotaStart_oneCallLeft
  exact ⟨rfl, rfl, quotaKept_of_ordered (started.get_run oneCallRun isSome_oneCallRun)⟩

/-- Two calls take the one included call, and the one request of the minute. -/
theorem not_quotaKept : ¬ ∀ pool : ReservationPool, reservationServer.Reachable QuotaStart pool →
      QuotaKept pool.shared := by
  intro claim
  have started : reservationServer.Reachable QuotaStart (Machine.initial oneCallLeft) :=
    .initial quotaStart_oneCallLeft
  have kept := claim overtakenPool (started.get_run overtakenRun isSome_overtakenRun)
  have limits : overtakenPool.shared.limitsOf "subscription" =
      some (oneSubscription.terms, onePlan) := rfl
  have within := kept "subscription" oneSubscription.terms onePlan limits
  have quota := within.cycle "a.skill.b"
  exact absurd quota (by decide)

end LongHub
