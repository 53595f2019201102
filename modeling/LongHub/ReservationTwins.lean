import LongHub.ReservationAnswers

/-!
# Calls that find room answer with the reservation of their twin

Every transaction for the task is followed through its checks.
-/

namespace LongHub

open CloudSkillExecutionReservation PgReservationState PgReservationStore ReservationRules

variable {before after state : PgReservationState} {thread : Nat} {generated taskId : String}
variable {params : CloudSkillExecutionReservationRequest} {now leaseTtlMs : Int}
variable {α : Type}

def twinRules (taskId : String) : ReservationRules where
  condition := findsRoom taskId
  Inv := TwinInv taskId
  Rely := Apart
  apart := id
  occurs occurs := occurs.apart _
  reads inv reads := ⟨fun _ differ => reads.apart differ, inv.reads reads⟩

abbrev SafeTwin (taskId : String) (thread : Nat) {α : Type}
    (Post : Except PgReservationError α → PgReservationState → Prop)
    (program : PgReservationProgram α) : PgReservationState → Prop :=
  (twinRules taskId).server.Safe (TwinInv taskId) (twinRules taskId).Guarantee thread Post program

def TwinPost (taskId : String) (params : CloudSkillExecutionReservationRequest) :
    Except PgReservationError CloudSkillExecutionReservationResult → PgReservationState → Prop
  | .ok result, state => IsExplained taskId params state.rows result
  | .error error, state => error = .uniqueViolation ∧ ∃ row ∈ state.rows, row.taskId = params.taskId

/-- An assertion about the rows that only grows true. -/
def Persists (assertion : PgReservationState → Prop) : Prop :=
  ∀ before after, RowsKept before.rows after.rows → assertion before → assertion after

variable {request : PgReservationCall} {plan : CloudSkillPlanRecord}
  {subscription : CloudSkillSubscriptionRecord}

theorem rowsKept_execute {answer : Except PgReservationError request.Answer}
    (executed : before.execute thread generated request = some (answer, after)) :
    RowsKept before.rows after.rows :=
  (execute_apart (Nat.succ_ne_self thread) executed).rowsKept

variable {assertion : PgReservationState → Prop} {existing : CloudSkillExecutionReservation}
  {result : CloudSkillExecutionReservationResult}

theorem Persists.lasts (persists : Persists assertion) :
    (twinRules taskId).LastsUntilWrite thread assertion := by
  constructor
  · intro before after (rely : Apart thread before after) holds
    exact persists before after rely.rowsKept holds
  · intro before after reads holds
    exact persists before after (reads.apart (Nat.succ_ne_self thread)).rowsKept holds

theorem persists_hasRow (params : CloudSkillExecutionReservationRequest) :
    Persists fun state => ∃ row ∈ state.rows, row.taskId = params.taskId := by
  rintro before after kept ⟨row, mem, ofTask⟩
  obtain ⟨later, laterMember, same⟩ := kept row mem
  exact ⟨later, laterMember, (taskId_eq same).trans ofTask⟩

def IsStored (row : CloudSkillExecutionReservation) (state : PgReservationState) : Prop :=
  ∃ stored ∈ state.rows, stored.withoutRelease = row.withoutRelease

theorem persists_isStored (row : CloudSkillExecutionReservation) : Persists (IsStored row) := by
  rintro before after kept ⟨stored, mem, same⟩
  obtain ⟨later, laterMember, sameLater⟩ := kept stored mem
  exact ⟨later, laterMember, sameLater.trans same⟩

variable (outcome : Except PgReservationError CloudSkillExecutionReservationResult)

theorem persists_twinPost : Persists (TwinPost taskId params outcome) := by
  intro before after kept post
  cases outcome with
  | ok result => exact IsExplained.mono kept post
  | error error => exact ⟨post.1, persists_hasRow params before after kept post.2⟩

structure InTransaction (thread : Nat) (params : CloudSkillExecutionReservationRequest)
    (now : Instant) (state : PgReservationState) : Prop where
  idle : (state.sessions thread).inserted = none
  called : (thread, .called params now) ∈ state.history

theorem lasts_inTransaction :
    (twinRules taskId).LastsUntilWrite thread (InTransaction thread params now) := by
  have idle : (twinRules taskId).LastsUntilWrite thread fun state =>
      (state.sessions thread).inserted = none := lasts_isIdle
  constructor
  · intro before after (rely : Apart thread before after) working
    exact ⟨idle.1 before after rely working.idle, rely.facts.mpr working.called⟩
  · intro before after reads working
    refine ⟨idle.2 before after reads working.idle, ?_⟩
    rw [reads.history]
    exact working.called

structure Reserving (thread : Nat) (params : CloudSkillExecutionReservationRequest)
    (now : Instant) (plan : CloudSkillPlanRecord)
    (subscription : CloudSkillSubscriptionRecord) (state : PgReservationState) : Prop where
  working : InTransaction thread params now state
  plan : state.plans.get? params.planId = some plan
  terms : state.termsOf subscription.subscriptionId = some subscription.terms

theorem lasts_reserving (plan : CloudSkillPlanRecord)
    (subscription : CloudSkillSubscriptionRecord) :
    (twinRules taskId).LastsUntilWrite thread (Reserving thread params now plan subscription) := by
  have inTransaction : (twinRules taskId).LastsUntilWrite thread
      (InTransaction thread params now) := lasts_inTransaction
  have planned : (twinRules taskId).LastsUntilWrite thread fun state =>
      state.plans.get? params.planId = some plan := lasts_plan params.planId plan
  constructor
  · intro before after (rely : Apart thread before after) reserving
    refine ⟨inTransaction.1 before after rely reserving.working,
      planned.1 before after rely reserving.plan, ?_⟩
    rw [rely.terms]
    exact reserving.terms
  · intro before after reads reserving
    refine ⟨inTransaction.2 before after reads reserving.working,
      planned.2 before after reads reserving.plan, ?_⟩
    rw [termsOf_congr reads.subscriptions]
    exact reserving.terms

theorem meets_of_findsRoom (called : (thread, .called params now) ∈ state.history)
    (reading : request.isReading = true)
    (finds : (twinRules taskId).condition thread request state = true) :
    params.taskId ≠ taskId ∨ meetsTerms state now request = true := by
  cases request with
  | call params => cases reading
  | _ =>
    change state.history.all _ = true at finds
    simpa using List.all_eq_true.mp finds _ called

theorem isStored_of_visible {row : CloudSkillExecutionReservation}
    (idle : (state.sessions thread).inserted = none) (mem : row ∈ state.visible thread) :
    IsStored row state := by
  rcases PgReservationSession.of_mem_write mem with ⟨old, oldMember, rfl⟩ | inserted
  · exact ⟨old, oldMember, (PgReservationSession.withoutRelease_applyTo _ _).symm⟩
  · rw [idle] at inserted
    cases inserted

/-- The begin and the two ends of a transaction. -/
def isBoundary : PgReservationCall → Bool
  | .begin | .commit | .rollback => true
  | _ => false

theorem execute_boundary {answer : Except PgReservationError request.Answer}
    (boundary : isBoundary request = true) (inv : TwinInv taskId before)
    (executed : before.execute thread generated request = some (answer, after)) :
    (∃ value, answer = .ok value) ∧ TwinInv taskId after ∧
      (after.sessions thread).inserted = none ∧ after.history = before.history := by
  have apart : ∀ other, other ≠ thread → Apart other before after :=
    fun other differ => execute_apart differ executed
  have idle {after : PgReservationState}
      (session : after.sessions = Function.update before.sessions thread .empty) :
      (after.sessions thread).inserted = none := by
    rw [session, Function.update_self]
    rfl
  have pending (apart : ∀ other, other ≠ thread → Apart other before after)
      (idle : (after.sessions thread).inserted = none) {other : Nat}
      {row : CloudSkillExecutionReservation}
      (inserted : (after.sessions other).inserted = some row) :
      (before.sessions other).inserted = some row ∧
        ∀ {key}, before.locks.Holds other key → after.locks.Holds other key := by
    by_cases same : other = thread
    · rw [same, idle] at inserted
      cases inserted
    · rw [(apart other same).session] at inserted
      exact ⟨inserted, (apart other same).holds⟩
  cases request with
  | begin =>
    cases executed
    exact ⟨⟨_, rfl⟩, inv.of_rows inv.exclusive rfl rfl rfl rfl (pending apart (idle rfl)),
      idle rfl, rfl⟩
  | rollback =>
    cases executed
    exact ⟨⟨_, rfl⟩, inv.of_rows (inv.exclusive.releaseAll thread) rfl rfl rfl rfl
      (pending apart (idle rfl)), idle rfl, rfl⟩
  | commit =>
    obtain rfl : answer = .ok () := by
      cases executed
      rfl
    refine ⟨⟨_, rfl⟩, inv.commit executed, ?_⟩
    cases executed
    exact ⟨idle rfl, rfl⟩
  | _ => cases boundary

theorem safe_boundary {next : request.Answer → PgReservationProgram α}
    {Post : Except PgReservationError α → PgReservationState → Prop}
    (boundary : isBoundary request = true)
    (lasts : (twinRules taskId).LastsUntilWrite thread assertion) (holds : assertion state)
    (continues : ∀ before answer after, assertion before → TwinInv taskId after →
      RowsKept before.rows after.rows → after.history = before.history →
      (after.sessions thread).inserted = none → SafeTwin taskId thread Post (next answer) after) :
    SafeTwin taskId thread Post (query request >>= next) state := by
  apply Machine.safe_perform_bind lasts.stable holds
  · intro before generated answer after inv holdsBefore ran
    have executed := (perform_server ran).2
    obtain ⟨-, invAfter, idle, history⟩ := execute_boundary boundary inv executed
    exact ⟨fun other differ => execute_apart differ executed, invAfter,
      continues before answer after holdsBefore invAfter (rowsKept_execute executed) history idle⟩
  · intro before generated error after inv holdsBefore ran
    obtain ⟨⟨value, bad⟩, -⟩ := execute_boundary boundary inv (perform_server ran).2
    cases bad

theorem hasReferences_newRow {reservationId : String}
    (reserving : Reserving thread params now plan subscription state)
    (ofPlan : subscription.planId = params.planId) (ofUser : subscription.userId = params.userId)
    (ofTenant : subscription.tenantId = params.tenantId)
    (inPlan : plan.skillIds.contains params.skillId = true) :
    state.hasReferences (newRow reservationId params now leaseTtlMs subscription) = true := by
  obtain ⟨stored, found, same⟩ := Option.map_eq_some_iff.mp reserving.terms
  have samePlan : stored.planId = subscription.planId := congrArg (·.planId) same
  have sameUser : stored.userId = subscription.userId := congrArg (·.userId) same
  have sameTenant : stored.tenantId = subscription.tenantId := congrArg (·.tenantId) same
  simp only [hasReferences, newRow, found, reserving.plan, Option.any_some, samePlan, sameUser,
    sameTenant, ofPlan, ofUser, ofTenant, inPlan, decide_true, Bool.and_self]

theorem insert_outcome {answer : Except PgReservationError CloudSkillExecutionReservation}
    (idle : (before.sessions thread).inserted = none)
    (references : ∀ reservationId, before.hasReferences
      (newRow reservationId params now leaseTtlMs subscription) = true)
    (executed : before.execute thread generated (.insert params now leaseTtlMs subscription) =
      some (answer, after)) :
    (∃ row, answer = .ok row ∧ (after.sessions thread).inserted = some row ∧
      row.taskId = params.taskId) ∨
    (answer = .error .uniqueViolation ∧ ∃ row ∈ after.rows, row.taskId = params.taskId) := by
  simp only [execute] at executed
  split at executed
  · cases executed
  · obtain ⟨locked, acquired, equal⟩ := Option.map_eq_some_iff.mp executed
    split at equal
    · next reserved =>
      cases equal
      obtain ⟨row, mem, ofTask⟩ := List.any_eq_true.mp reserved
      obtain ⟨stored, storedMember, same⟩ := isStored_of_visible idle mem
      exact Or.inr ⟨rfl, stored, storedMember, (taskId_eq same).trans (of_decide_eq_true ofTask)⟩
    · split at equal
      · next dangling =>
        rw [references] at dangling
        cases dangling
      · cases equal
        exact Or.inl ⟨_, rfl, by simp [setSession], rfl⟩

theorem isExplained_replayOf (stored : IsStored existing state)
    (ofTask : existing.taskId = params.taskId) :
    IsExplained taskId params state.rows (replayOf params existing) := by
  obtain ⟨row, mem, same⟩ := stored
  have rowOfTask : row.taskId = params.taskId := (taskId_eq same).trans ofTask
  unfold replayOf
  split
  · exact ⟨row, mem, rowOfTask, same⟩
  · next differ =>
    intro _ _
    refine ⟨row, mem, rowOfTask, ?_⟩
    rw [(ignoresRelease_sameBinding params).congr same]
    simpa using differ

theorem stable_twinPost :
    (twinRules taskId).server.Stable (TwinInv taskId) (twinRules taskId).Guarantee thread
      (TwinPost taskId params outcome) :=
  (persists_twinPost outcome).lasts.stable

theorem safe_refuse {reason : CloudSkillExecutionRejectionReason}
    {retryAfterSeconds : Option Int} (other : params.taskId ≠ taskId) :
    SafeTwin taskId thread (TwinPost taskId params) (refuse reason retryAfterSeconds) state := by
  have always : Persists fun _ => True := fun _ _ _ _ => trivial
  apply safe_boundary rfl always.lasts trivial
  intro before answer after _ _ _ _ _
  exact Machine.safe_pure (stable_twinPost _) fun isTask => absurd isTask other

theorem safe_commit (explained : IsExplained taskId params state.rows result) :
    SafeTwin taskId thread (TwinPost taskId params)
      (query .commit >>= fun _ => pure result) state := by
  have persists : Persists (TwinPost taskId params (.ok result)) := persists_twinPost _
  apply safe_boundary rfl persists.lasts explained
  intro before answer after explained _ kept _ _
  exact Machine.safe_pure (stable_twinPost _) (persists before after kept explained)

theorem safe_replay (working : InTransaction thread params now state)
    (stored : IsStored existing state) (ofTask : existing.taskId = params.taskId) :
    SafeTwin taskId thread (TwinPost taskId params) (replay params now existing) state := by
  unfold replay
  split
  · have lasts : (twinRules taskId).LastsUntilWrite thread fun state =>
        InTransaction thread params now state ∧ IsStored existing state :=
      lasts_inTransaction.and (persists_isStored existing).lasts
    apply safe_reading rfl lasts ⟨working, stored⟩
    intro before generated expired after _ _ _ executed inv known _
    obtain ⟨working, stored⟩ := known
    cases expired with
    | none => exact safe_commit (isExplained_replayOf stored ofTask)
    | some updated =>
      -- the row with the id of the existing one is the existing one
      obtain ⟨locked, -, equal⟩ := Option.map_eq_some_iff.mp executed
      simp only [Prod.mk.injEq, Except.ok.injEq] at equal
      obtain ⟨found, rfl⟩ := equal
      have sameId : updated.reservationId = existing.reservationId := by
        simpa using List.find?_some found
      have updatedStored := isStored_of_visible working.idle (List.mem_of_find?_eq_some found)
      obtain ⟨row, mem, same⟩ := stored
      obtain ⟨updatedRow, updatedMember, sameUpdated⟩ := updatedStored
      have equal : updatedRow = row := by
        apply inv.unique updatedMember mem
        right
        rw [reservationId_eq sameUpdated, reservationId_eq same, sameId]
      subst equal
      have updatedOfTask : updated.taskId = params.taskId := by
        rw [← taskId_eq sameUpdated, taskId_eq same, ofTask]
      exact safe_commit
        (isExplained_replayOf ⟨updatedRow, updatedMember, sameUpdated⟩ updatedOfTask)
  · exact safe_commit (isExplained_replayOf stored ofTask)

theorem safe_insert {plan : CloudSkillPlanRecord} {subscription : CloudSkillSubscriptionRecord}
    (reserving : Reserving thread params now plan subscription state)
    (ofPlan : subscription.planId = params.planId) (ofUser : subscription.userId = params.userId)
    (ofTenant : subscription.tenantId = params.tenantId)
    (inPlan : plan.skillIds.contains params.skillId = true) :
    SafeTwin taskId thread (TwinPost taskId params) (do
      let inserted : CloudSkillExecutionReservation ←
        query (.insert params now leaseTtlMs subscription)
      query .commit
      return .ok inserted) state := by
  apply Machine.safe_call (lasts_reserving plan subscription).stable reserving
  intro before generated answer after inv reserving ran
  have executed := (perform_server ran).2
  have called : WasCalled params.taskId before :=
    ⟨thread, params, now, reserving.working.called, rfl⟩
  refine ⟨fun other differ => execute_apart differ executed, inv.insert called executed, ?_⟩
  rcases insert_outcome reserving.working.idle
    (fun _ => hasReferences_newRow reserving ofPlan ofUser ofTenant inPlan) executed with
    ⟨row, rfl, inserted, ofTask⟩ | ⟨rfl, row, mem, ofTask⟩
  · -- the commit adds the inserted row
    have stable : (twinRules taskId).server.Stable (TwinInv taskId)
        (twinRules taskId).Guarantee thread fun state =>
          (state.sessions thread).inserted = some row := by
      intro before after _ _ rely inserted
      have apart : Apart thread before after := rely_of_server rely
      rw [apart.session]
      exact inserted
    apply Machine.safe_perform_bind stable inserted
    · intro before generated answer after inv inserted ran
      have executed := (perform_server ran).2
      have invAfter := (execute_boundary rfl inv executed).2.1
      refine ⟨fun other differ => execute_apart differ executed, invAfter, ?_⟩
      apply Machine.safe_pure (stable_twinPost _)
      cases executed
      refine ⟨row, ?_, ofTask, rfl⟩
      change row ∈ (before.sessions thread).write before.rows
      simp [PgReservationSession.write, inserted]
    · intro before generated error after inv _ ran
      obtain ⟨⟨value, bad⟩, -⟩ := execute_boundary rfl inv (perform_server ran).2
      cases bad
  · exact Machine.safe_throw (stable_twinPost _) ⟨rfl, row, mem, ofTask⟩

/-- A count that reaches its limit is not a count of the task. -/
theorem safe_refuse_reached {counts : CloudSkillExecutionReservation → Bool} {limit : Int}
    {before after : PgReservationState} {reason : CloudSkillExecutionRejectionReason}
    {retryAfterSeconds : Option Int} (inv : TwinInv taskId before)
    (reserving : Reserving thread params now plan subscription before)
    (matches_ : isFor params subscription = true) (falls : FallsAtRelease counts)
    (room : hasRoom taskId before params now plan subscription = true →
      ((rivals taskId counts before).card : Int) + 1 < limit)
    (reached : limit ≤ ((before.visible thread).countP counts : Int)) :
    SafeTwin taskId thread (TwinPost taskId params) (refuse reason retryAfterSeconds) after := by
  apply safe_refuse
  intro isTask
  have free := room
    (inv.room reserving.working.called isTask reserving.plan reserving.terms matches_)
  have counted : (before.visible thread).countP counts ≤ (rivals taskId counts before).card + 1 :=
    countP_visible_le falls inv.tasks reserving.working.idle
  omega

theorem safe_reserveWithinLimits_twin
    (reserving : Reserving thread params now plan subscription state)
    (ofPlan : subscription.planId = params.planId) (ofUser : subscription.userId = params.userId)
    (ofTenant : subscription.tenantId = params.tenantId)
    (inPlan : plan.skillIds.contains params.skillId = true) :
    SafeTwin taskId thread (TwinPost taskId params)
      (reserveWithinLimits params now leaseTtlMs plan subscription) state := by
  have matches_ : isFor params subscription = true := by
    simp [isFor, ofPlan, ofUser, ofTenant]
  apply safe_reading rfl (lasts_reserving plan subscription) reserving
  intro before _ cycleUsage after inv atCycle _ executed _ reserving _
  cases executed
  split
  · next reached =>
    exact safe_refuse_reached inv atCycle matches_ (falls_countsInCycle _ _ _)
      (by simp +contextual [hasRoom]) reached
  · apply safe_reading rfl (lasts_reserving plan subscription) reserving
    intro before _ minuteUsage after inv atMinute _ executed _ reserving _
    cases executed
    split
    · next reached =>
      exact safe_refuse_reached inv atMinute matches_ (falls_inMinute _ _ _)
        (by simp +contextual [hasRoom]) reached
    · apply safe_reading rfl (lasts_reserving plan subscription) reserving
      intro before _ active after inv atActive _ executed _ reserving _
      cases executed
      split
      · next reached =>
        rw [activeRows, ← List.countP_eq_length_filter] at reached
        exact safe_refuse_reached inv atActive matches_ (falls_inForce _ _ _)
          (by simp +contextual [hasRoom]) reached
      · exact safe_insert reserving ofPlan ofUser ofTenant inPlan

theorem inPlan_of_selectEntitlement {subscriptionId tenantId userId skillId planId : String}
    {entitlement : CloudSkillEntitlementRecord} (stored : state.plans.get? planId = some plan)
    (selected : state.selectEntitlement subscriptionId tenantId userId skillId planId now =
      some entitlement) : plan.skillIds.contains skillId = true := by
  have mem := List.mem_of_head? selected
  rw [CloudSkillTables.newestFirst, List.mem_insertionSort, List.mem_filter] at mem
  have matches_ := mem.2
  simp only [Bool.and_eq_true, decide_eq_true_eq] at matches_
  obtain ⟨⟨⟨⟨⟨⟨⟨joined, -⟩, -⟩, -⟩, ofSkill⟩, ofPlan⟩, -⟩, -⟩ := matches_
  simpa [ofPlan, ofSkill, stored] using joined

structure IsSelected (params : CloudSkillExecutionReservationRequest) (now : Instant)
    (taskId : String) (subscription : CloudSkillSubscriptionRecord) : Prop where
  ofPlan : subscription.planId = params.planId
  ofUser : subscription.userId = params.userId
  ofTenant : subscription.tenantId = params.tenantId
  usable : params.taskId ≠ taskId ∨ (subscription.status = .active ∧
    subscription.startsAt ≤ now ∧ now < subscription.expiresAt)

theorem safe_reserveThrough_twin (reserving : Reserving thread params now plan subscription state)
    (planKey : plan.planId = params.planId) (selected : IsSelected params now taskId subscription) :
    SafeTwin taskId thread (TwinPost taskId params)
      (reserveThrough params now leaseTtlMs plan subscription) state := by
  unfold reserveThrough
  split
  · next unusable =>
    apply safe_refuse
    rcases selected.usable with other | ⟨active, started, unexpired⟩
    · exact other
    · simp [active, not_lt.mpr started, not_le.mpr unexpired] at unusable
  · split
    · next differ => exact absurd (planKey.trans selected.ofPlan.symm) differ
    · apply safe_reading rfl (lasts_reserving plan subscription) reserving
      intro before generated entitlement after _ atEntitlement meets executed _ reserving _
      have meets := meets_of_findsRoom atEntitlement.working.called rfl meets
      simp only [execute] at executed
      split at executed
      · next missing =>
        cases executed
        apply safe_refuse
        simpa [meetsTerms, missing] using meets
      · next found =>
        obtain ⟨locked, -, equal⟩ := Option.map_eq_some_iff.mp executed
        cases equal
        have inPlan := inPlan_of_selectEntitlement atEntitlement.plan found
        apply safe_reading rfl (lasts_reserving plan subscription) reserving
        intro before generated _ after _ _ _ _ _ reserving _
        exact safe_reserveWithinLimits_twin reserving selected.ofPlan selected.ofUser
          selected.ofTenant inPlan

theorem safe_admitExecution_twin (working : InTransaction thread params now state) :
    SafeTwin taskId thread (TwinPost taskId params) (admitExecution params now leaseTtlMs)
      state := by
  apply safe_reading rfl lasts_inTransaction working
  intro before generated planRow after inv atPlan meets executed _ working _
  have meets := meets_of_findsRoom atPlan.called rfl meets
  simp only [execute, Option.some.injEq, Prod.mk.injEq, Except.ok.injEq] at executed
  obtain ⟨planEq, rfl⟩ := executed
  cases planRow with
  | none =>
    apply safe_refuse
    simpa [meetsTerms, planEq] using meets
  | some plan =>
    have planKey : plan.planId = params.planId := inv.plansKeyed planEq
    have lasts : (twinRules taskId).LastsUntilWrite thread fun state =>
        InTransaction thread params now state ∧ state.plans.get? params.planId = some plan :=
      lasts_inTransaction.and (lasts_plan params.planId plan)
    apply safe_reading rfl lasts ⟨working, planEq⟩
    intro before generated subscriptionRow after _ atSubscription meets executed inv known reads
    have meets := meets_of_findsRoom atSubscription.1.called rfl meets
    simp only [execute] at executed
    split at executed
    · next missing =>
      cases executed
      apply safe_refuse
      simpa [meetsTerms, missing] using meets
    · next found =>
      obtain ⟨locked, -, equal⟩ := Option.map_eq_some_iff.mp executed
      cases equal
      obtain ⟨mem, ofPlan, ofUser, ofTenant⟩ := of_selectSubscription found
      rw [← reads.subscriptions] at mem
      have terms := termsOf_selected inv.keyed mem
      refine safe_reserveThrough_twin ⟨known.1, known.2, terms⟩ planKey
        ⟨ofPlan, ofUser, ofTenant, ?_⟩
      simpa [meetsTerms, found, and_assoc] using meets

theorem safe_transaction_twin (called : (thread, .called params now) ∈ state.history) :
    SafeTwin taskId thread (TwinPost taskId params) (transaction params now leaseTtlMs) state := by
  have lasts : (twinRules taskId).LastsUntilWrite thread fun state =>
      (thread, .called params now) ∈ state.history := by
    constructor
    · intro before after (rely : Apart thread before after) called
      exact rely.facts.mpr called
    · intro before after reads called
      rw [reads.history]
      exact called
  apply safe_boundary rfl lasts called
  intro before answer after called _ _ history idle
  have working : InTransaction thread params now after := by
    refine ⟨idle, ?_⟩
    rw [history]
    exact called
  apply safe_reading rfl lasts_inTransaction working
  intro before generated existing after _ working _ executed _ workingAfter reads
  simp only [execute] at executed
  split at executed
  · cases executed
    exact safe_admitExecution_twin workingAfter
  · next found =>
    next existing =>
    obtain ⟨locked, -, equal⟩ := Option.map_eq_some_iff.mp executed
    cases equal
    obtain ⟨row, mem, same⟩ := isStored_of_visible working.idle (List.mem_of_find?_eq_some found)
    rw [← reads.rows] at mem
    have ofTask : existing.taskId = params.taskId := by simpa using List.find?_some found
    exact safe_replay workingAfter ⟨row, mem, same⟩ ofTask

def Answers (taskId : String) (params : CloudSkillExecutionReservationRequest)
    (outcome : Except PgReservationError CloudSkillExecutionReservationResult)
    (state : PgReservationState) : Prop :=
  ∃ result, outcome = .ok result ∧ IsExplained taskId params state.rows result

theorem stable_answers :
    (twinRules taskId).server.Stable (TwinInv taskId) (twinRules taskId).Guarantee thread
      (Answers taskId params outcome) := by
  have persists : Persists (Answers taskId params outcome) := by
    rintro before after kept ⟨result, rfl, explained⟩
    exact ⟨result, rfl, explained.mono kept⟩
  exact persists.lasts.stable

/-- The `catch` block finds the row that the insert has met. -/
theorem safe_recover {error : PgReservationError}
    (met : TwinPost taskId params (.error error) state) :
    SafeTwin taskId thread (Answers taskId params) (recover params error) state := by
  obtain ⟨rfl, hasRow⟩ := met
  apply safe_boundary rfl (persists_hasRow params).lasts hasRow
  intro before answer after hasRow _ kept _ idle
  have rowAfter := persists_hasRow params before after kept hasRow
  have lasts : (twinRules taskId).LastsUntilWrite thread fun state =>
      (state.sessions thread).inserted = none ∧ ∃ row ∈ state.rows, row.taskId = params.taskId :=
    lasts_isIdle.and (persists_hasRow params).lasts
  apply safe_reading rfl lasts ⟨idle, rowAfter⟩
  intro before generated existing after _ atSelect _ executed _ _ _
  obtain ⟨idle, row, mem, ofTask⟩ := atSelect
  simp only [execute, Option.some.injEq, Prod.mk.injEq, Except.ok.injEq] at executed
  obtain ⟨found, rfl⟩ := executed
  cases existing with
  | none =>
    obtain ⟨seen, seenMember, same⟩ : ∃ seen ∈ before.visible thread,
        seen.withoutRelease = row.withoutRelease :=
      PgReservationSession.exists_mem_write mem
    have absent := List.find?_eq_none.mp found seen seenMember
    exact absurd (decide_eq_true ((taskId_eq same).trans ofTask)) absent
  | some existing =>
    have existingOfTask : existing.taskId = params.taskId := by
      simpa using List.find?_some found
    have stored := isStored_of_visible idle (List.mem_of_find?_eq_some found)
    exact Machine.safe_pure (stable_answers _) ⟨_, rfl, isExplained_replayOf stored existingOfTask⟩

theorem safe_reserveCloudSkillExecution_twin (inv : TwinInv taskId state)
    (undated : params.now = none) (called : (thread, .called params now) ∈ state.history) :
    SafeTwin taskId thread (Answers taskId params) (reserveCloudSkillExecution now params)
      state := by
  have refused {reason : CloudSkillExecutionRejectionReason}
      (invalid : params.isTransaction = false) :
      SafeTwin taskId thread (Answers taskId params) (.pure (rejection reason none)) state := by
    apply Machine.safe_pure (stable_answers _)
    refine ⟨_, rfl, fun _ transaction => ?_⟩
    rw [invalid] at transaction
    cases transaction
  unfold reserveCloudSkillExecution
  rw [undated]
  split
  · next malformed =>
    apply refused
    rw [Bool.not_eq_true'] at malformed
    rw [CloudSkillExecutionReservationRequest.isTransaction, malformed, Bool.false_and]
  · cases lease : normalizeLeaseTtl params.leaseTtlMs with
    | none =>
      apply refused
      rw [CloudSkillExecutionReservationRequest.isTransaction, lease, Option.isSome_none,
        Bool.and_false]
    | some leaseTtlMs =>
      apply Machine.safe_tryCatch inv (safe_transaction_twin called)
      · intro error state _ met
        exact safe_recover met
      · exact fun result state _ explained => ⟨result, rfl, explained⟩

theorem safe_serveReservation_twin :
    SafeTwin taskId thread (fun _ _ => True) (serveReservation params) state := by
  apply Machine.safe_perform_bind (Machine.Stable.const True) trivial
  · intro before generated clock after inv _ ran
    obtain ⟨leaves, executed⟩ := perform_server ran
    refine ⟨fun other differ => execute_apart differ executed, ?_⟩
    cases executed
    have invAfter : TwinInv taskId
        (before.note thread (.called { params with now := none } before.clock)) :=
      inv.call leaves
    refine ⟨invAfter, ?_⟩
    have called : (thread, .called { params with now := none } before.clock) ∈
        (before.note thread (.called { params with now := none } before.clock)).history :=
      List.mem_append_right _ (List.mem_singleton_self _)
    apply Machine.safe_bind invAfter (safe_reserveCloudSkillExecution_twin invAfter rfl called)
    · rintro result state _ ⟨_, equal, explained⟩
      cases equal
      have persists : Persists fun state =>
          IsExplained taskId { params with now := none } state.rows result :=
        fun before after kept explained => explained.mono kept
      apply Machine.safe_call persists.lasts.stable explained
      intro before generated answer after inv explained ran
      have executed := (perform_server ran).2
      refine ⟨fun other differ => execute_apart differ executed, ?_⟩
      cases executed
      exact ⟨inv.answer explained, Machine.safe_pure (Machine.Stable.const True) trivial⟩
    · exact fun _ _ _ _ => trivial
  · intro before generated error after inv _ ran
    cases (perform_server ran).2

/-- No transaction is open, nothing has been recorded, and no task and no id
has two rows. -/
structure TwinStart (state : PgReservationState) : Prop where
  unlocked : state.locks = .empty
  idle : ∀ thread, state.sessions thread = .empty
  keyed : state.SubscriptionsKeyed
  plansKeyed : ∀ {key plan}, state.plans.get? key = some plan → plan.planId = key
  tasks : (state.rows.map (·.taskId)).Nodup
  ids : (state.rows.map (·.reservationId)).Nodup
  silent : state.history = []

theorem TwinStart.twinInv (start : TwinStart state) : TwinInv taskId state := by
  refine { start with exclusive := ?exclusive, pending := ?pending, explained := ?explained, room :=
    ?room }
  case exclusive =>
    rw [start.unlocked]
    exact LockTable.exclusive_empty
  case pending =>
    intro thread row inserted
    rw [start.idle] at inserted
    cases inserted
  case explained =>
    intro thread params result answered
    rw [start.silent] at answered
    cases answered
  case room =>
    intro thread params now plan subscription called
    rw [start.silent] at called
    cases called

/-- In every run in which a call begins only while there is room for two, an answered call of the
task with the binding of its committed reservation has that reservation. -/
theorem twinsAgree_of_findsRoom (taskId : String) {pool : ReservationPool}
    (reachable : (roomyServer taskId).Reachable TwinStart pool) :
    TwinsAgree taskId pool.shared := by
  have safe := Machine.safe_of_reachable (TwinInv taskId) (twinRules taskId).Guarantee
    (fun _ _ => True) (fun _ _ _ => True)
    (fun state started => ⟨TwinStart.twinInv started, fun _ => trivial⟩)
    (fun thread => Machine.Stable.const True)
    (fun event before after inv occurred => inv.occurs (occurs_of_occur occurred))
    (fun params thread state _ _ => safe_serveReservation_twin) reachable
  exact safe.1.twinsAgree

def callsLeft (calls : Int) : PgReservationState where
  __ := oneCallLeft
  plans := .set .empty "plan" { onePlan with includedCalls := calls, requestsPerMinute := calls }

theorem twinStart_callsLeft (calls : Int) : TwinStart (callsLeft calls) := by
  refine ⟨rfl, fun _ => rfl, subscriptionsKeyed_oneCallLeft, ?_, List.nodup_nil, List.nodup_nil,
    rfl⟩
  intro key plan found
  simp only [callsLeft, InsertionMap.get?_set, InsertionMap.get?_empty] at found
  split at found
  · next same =>
    cases found
    exact same.symm
  · cases found

/-- The second call looks the task up before the first inserts it. -/
def racedRun (later : Nat) : List (PoolAction String CloudSkillExecutionReservationRequest
    PgReservationState.Event) :=
  .start 0 (reservationOf "task") :: .start 1 (reservationOf "task") ::
    List.replicate 3 (.perform 1 "1") ++ List.replicate 13 (.perform 0 "0") ++
    List.replicate later (.perform 1 "1")

theorem isSome_roomyRun :
    ((roomyServer "task").run (Machine.initial (callsLeft 2)) (racedRun 11)).isSome = true := by
  decide

theorem isSome_racedRun :
    (reservationServer.run (Machine.initial (callsLeft 1)) (racedRun 7)).isSome = true := by
  decide

def roomyPool : ReservationPool :=
  ((roomyServer "task").run (Machine.initial (callsLeft 2)) (racedRun 11)).get isSome_roomyRun

def racedPool : ReservationPool :=
  (reservationServer.run (Machine.initial (callsLeft 1)) (racedRun 7)).get isSome_racedRun

/-- With room for both, the loser of the race gets the reservation of its twin. -/
theorem twinsAgree_roomyPool : roomyPool.shared.history.map Prod.fst = [1, 0, 0, 1] ∧
      roomyPool.shared.rows.map (·.taskId) = ["task"] ∧ TwinsAgree "task" roomyPool.shared := by
  have started : (roomyServer "task").Reachable TwinStart (Machine.initial (callsLeft 2)) :=
    .initial (twinStart_callsLeft 2)
  exact ⟨rfl, rfl, twinsAgree_of_findsRoom "task" (started.get_run (racedRun 11) isSome_roomyRun)⟩

/-- The loser of the race is refused for the quota that its twin has used. -/
theorem not_twinsAgree : ¬ ∀ (taskId : String) (pool : ReservationPool),
      reservationServer.Reachable TwinStart pool → TwinsAgree taskId pool.shared := by
  intro claim
  have started : reservationServer.Reachable TwinStart (Machine.initial (callsLeft 1)) :=
    .initial (twinStart_callsLeft 1)
  have agree := claim "task" racedPool (started.get_run (racedRun 7) isSome_racedRun)
  have rows : racedPool.shared.rows =
      [newRow "csres-0" (reservationOf "task") 1 300000 oneSubscription] := rfl
  have answered : (1, .answered (reservationOf "task") (.error ⟨.quotaExceeded, none⟩)) ∈
      racedPool.shared.history := List.mem_of_getElem? (i := 3) rfl
  obtain ⟨reservation, bad, -⟩ := agree _ (rows ▸ List.mem_singleton_self _) rfl 1 _ _
    answered rfl (by decide) (by decide)
  cases bad

end LongHub
