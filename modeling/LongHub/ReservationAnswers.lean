import LongHub.ReservationRules
import Mathlib.Data.Finset.Card

/-!
# Reserving one task twice

Two calls for one task with one binding should get one reservation.
-/

namespace LongHub

open CloudSkillExecutionReservation PgReservationState PgReservationStore

def CloudSkillExecutionReservationRequest.isTransaction
    (params : CloudSkillExecutionReservationRequest) : Bool :=
  params.isWellFormed && (normalizeLeaseTtl params.leaseTtlMs).isSome

def TwinsAgree (taskId : String) (state : PgReservationState) : Prop :=
  ∀ row ∈ state.rows, row.taskId = taskId →
    ∀ thread params result, (thread, .answered params result) ∈ state.history →
      params.taskId = taskId → params.isTransaction = true →
      params.sameBinding row = true → ∃ reservation, result = .ok reservation ∧
          reservation.withoutRelease = row.withoutRelease

def PgReservationFact.calledTask? : PgReservationFact → Option String
  | .called params _ => some params.taskId
  | .answered .. => none

/-- The tasks that were called and have no reservation. -/
def unreserved (state : PgReservationState) : List String :=
  (state.history.filterMap fun entry => entry.2.calledTask?).filter fun taskId =>
    state.rows.all fun row => row.taskId ≠ taskId

/-- The other tasks that a count may meet: those with a row that counts, and those that may still
get one. -/
def rivals (taskId : String) (counts : CloudSkillExecutionReservation → Bool)
    (state : PgReservationState) : Finset String :=
  ((state.rows.filter counts).map (·.taskId) ++ unreserved state).toFinset.erase taskId

def inMinute (params : CloudSkillExecutionReservationRequest) (now : Instant)
    (subscriptionId : String) (row : CloudSkillExecutionReservation) : Bool :=
  row.isOwnedBy subscriptionId params.tenantId params.userId params.deviceId &&
    row.countsInMinute now

def inForce (params : CloudSkillExecutionReservationRequest) (now : Instant)
    (subscriptionId : String) (row : CloudSkillExecutionReservation) : Bool :=
  row.isOwnedBy subscriptionId params.tenantId params.userId params.deviceId && row.isLeased now

/-- Beside the other tasks there is room for two: a call and its twin. -/
def hasRoom (taskId : String) (state : PgReservationState)
    (params : CloudSkillExecutionReservationRequest) (now : Instant) (plan : CloudSkillPlanRecord)
    (subscription : CloudSkillSubscriptionRecord) : Bool :=
  (rivals taskId (countsInCycle subscription params.skillId now) state).card + 1 <
      plan.includedCalls &&
    (rivals taskId (inMinute params now subscription.subscriptionId) state).card + 1 <
      plan.requestsPerMinute &&
    (rivals taskId (inForce params now subscription.subscriptionId) state).card + 1 <
      plan.maxConcurrency

def isFor (params : CloudSkillExecutionReservationRequest)
    (subscription : CloudSkillSubscriptionRecord) : Bool :=
  subscription.planId = params.planId && subscription.userId = params.userId &&
    subscription.tenantId = params.tenantId

/-- Every call of the task so far has room. -/
def leavesRoom (taskId : String) (state : PgReservationState) : Bool :=
  state.history.all fun entry =>
    match entry.2 with
    | .called params now => params.taskId ≠ taskId ||
      (state.plans.get? params.planId).all fun plan =>
        state.subscriptions.values.all fun subscription =>
          !isFor params subscription || hasRoom taskId state params now plan subscription
    | .answered .. => true

/-- The plan, the subscription and the entitlement are there and in force. -/
@[grind =]
def meetsTerms (state : PgReservationState) (now : Instant) : PgReservationCall → Bool
  | .selectPlan planId => (state.plans.get? planId).isSome
  | .lockSubscription planId userId tenantId subscriptionId =>
    (state.selectSubscription planId userId tenantId subscriptionId).any
      fun subscription => subscription.status = .active &&
        subscription.startsAt ≤ now && now < subscription.expiresAt
  | .lockEntitlement subscriptionId tenantId userId skillId planId now =>
    (state.selectEntitlement subscriptionId tenantId userId skillId planId now).isSome
  | _ => true

/-- A call begins only where room is left, and looks its terms up only where they hold. -/
def findsRoom (taskId : String) (thread : Nat) (request : PgReservationCall)
    (state : PgReservationState) : Bool :=
  match request with
  | .call params => leavesRoom taskId (state.note thread (.called params state.clock))
  | _ => state.history.all fun entry =>
    match entry.2 with
    | .called params now =>
      entry.1 ≠ thread || params.taskId ≠ taskId || meetsTerms state now request
    | .answered .. => true

def roomyServer (taskId : String) := reservationServer.restrict fun thread request _ state =>
  findsRoom taskId thread request state

/-- What the committed rows say about an answer. -/
def IsExplained (taskId : String) (params : CloudSkillExecutionReservationRequest)
    (rows : List CloudSkillExecutionReservation) : CloudSkillExecutionReservationResult → Prop
  | .ok reservation => ∃ row ∈ rows, row.taskId = params.taskId ∧
      row.withoutRelease = reservation.withoutRelease
  | .error _ => params.taskId = taskId → params.isTransaction = true →
      ∃ row ∈ rows, row.taskId = params.taskId ∧ params.sameBinding row = false

/-- Whatever a call of the task counts, it finds room. -/
def HasRoom (taskId : String) (state : PgReservationState) : Prop :=
  ∀ ⦃thread params now plan subscription⦄, (thread, .called params now) ∈ state.history →
    params.taskId = taskId → state.plans.get? params.planId = some plan →
      state.termsOf subscription.subscriptionId = some subscription.terms →
        isFor params subscription = true →
          hasRoom taskId state params now plan subscription = true

def WasCalled (taskId : String) (state : PgReservationState) : Prop :=
  ∃ thread params now, (thread, .called params now) ∈ state.history ∧ params.taskId = taskId

/-- A task and an id have at most one row, an inserted row holds both, every
answer is explained, and there is room for the calls of the task. -/
structure TwinInv (taskId : String) (state : PgReservationState) : Prop where
  exclusive : state.locks.Exclusive
  keyed : state.SubscriptionsKeyed
  plansKeyed : ∀ {key plan}, state.plans.get? key = some plan → plan.planId = key
  tasks : (state.rows.map (·.taskId)).Nodup
  ids : (state.rows.map (·.reservationId)).Nodup
  pending : ∀ {thread row}, (state.sessions thread).inserted = some row →
    state.locks.Holds thread (.taskIndex row.taskId) ∧
      state.locks.Holds thread (.reservation row.reservationId) ∧
        (∀ other ∈ state.rows, other.taskId ≠ row.taskId ∧
          other.reservationId ≠ row.reservationId) ∧ WasCalled row.taskId state
  explained : ∀ {thread params result}, (thread, .answered params result) ∈ state.history →
    IsExplained taskId params state.rows result
  room : HasRoom taskId state

def RowsKept (before after : List CloudSkillExecutionReservation) : Prop :=
  ∀ row ∈ before, ∃ kept ∈ after, kept.withoutRelease = row.withoutRelease

variable {before after state : PgReservationState} {thread : Nat} {generated taskId : String}
variable {params : CloudSkillExecutionReservationRequest}

variable {row other : CloudSkillExecutionReservation}

theorem CloudSkillExecutionReservation.taskId_eq
    (same : row.withoutRelease = other.withoutRelease) : row.taskId = other.taskId := by
  change row.withoutRelease.taskId = other.withoutRelease.taskId
  rw [same]

theorem CloudSkillExecutionReservation.reservationId_eq
    (same : row.withoutRelease = other.withoutRelease) :
    row.reservationId = other.reservationId := by
  change row.withoutRelease.reservationId = other.withoutRelease.reservationId
  rw [same]

theorem ignoresRelease_sameBinding (params : CloudSkillExecutionReservationRequest) :
    IgnoresRelease params.sameBinding := fun _ => rfl

theorem IsExplained.mono {result : CloudSkillExecutionReservationResult}
    {rows later : List CloudSkillExecutionReservation} (kept : RowsKept rows later)
    (explained : IsExplained taskId params rows result) :
    IsExplained taskId params later result := by
  cases result with
  | ok reservation =>
    obtain ⟨row, mem, ofTask, same⟩ := explained
    obtain ⟨laterRow, laterMember, sameRow⟩ := kept row mem
    exact ⟨laterRow, laterMember, (taskId_eq sameRow).trans ofTask, sameRow.trans same⟩
  | error rejection =>
    intro isTask transaction
    obtain ⟨row, mem, ofTask, differ⟩ := explained isTask transaction
    obtain ⟨laterRow, laterMember, sameRow⟩ := kept row mem
    refine ⟨laterRow, laterMember, (taskId_eq sameRow).trans ofTask, ?_⟩
    rw [(ignoresRelease_sameBinding params).congr sameRow]
    exact differ

theorem WasCalled.mono (called : WasCalled taskId before)
    (history : ∀ entry ∈ before.history, entry ∈ after.history) : WasCalled taskId after := by
  obtain ⟨thread, params, now, mem, same⟩ := called
  exact ⟨thread, params, now, history _ mem, same⟩

theorem mem_unreserved {task : String} : task ∈ unreserved state ↔
    WasCalled task state ∧ ∀ row ∈ state.rows, row.taskId ≠ task := by
  have called : (task ∈ state.history.filterMap fun entry => entry.2.calledTask?) ↔
      WasCalled task state := by
    rw [List.mem_filterMap]
    constructor
    · rintro ⟨⟨thread, fact⟩, mem, same⟩
      cases fact with
      | called params now => exact ⟨thread, params, now, mem, Option.some.inj same⟩
      | answered params result => cases same
    · rintro ⟨thread, params, now, mem, rfl⟩
      exact ⟨_, mem, rfl⟩
  rw [unreserved, List.mem_filter, called]
  simp

/-! ## What a step does to the rivals -/

/-- A release ends what is counted and never adds to it. -/
def FallsAtRelease (counts : CloudSkillExecutionReservation → Bool) : Prop :=
  ∀ (session : PgReservationSession) row, counts (session.applyTo row) = true → counts row = true

variable {counts : CloudSkillExecutionReservation → Bool}

theorem IgnoresRelease.falls (ignores : IgnoresRelease counts) : FallsAtRelease counts := by
  intro session row counted
  rw [← ignores.congr (PgReservationSession.withoutRelease_applyTo session row)]
  exact counted

theorem falls_countsInCycle (subscription : CloudSkillSubscriptionRecord) (skillId : String)
    (now : Instant) : FallsAtRelease (countsInCycle subscription skillId now) := by
  have ignores : IgnoresRelease (countsInCycle subscription skillId now) := fun _ => rfl
  exact ignores.falls

theorem falls_inMinute (params : CloudSkillExecutionReservationRequest) (now : Instant)
    (subscriptionId : String) : FallsAtRelease (inMinute params now subscriptionId) := by
  have ignores : IgnoresRelease (inMinute params now subscriptionId) := fun _ => rfl
  exact ignores.falls

theorem falls_inForce (params : CloudSkillExecutionReservationRequest) (now : Instant)
    (subscriptionId : String) : FallsAtRelease (inForce params now subscriptionId) := by
  intro session row counted
  unfold PgReservationSession.applyTo at counted
  split at counted
  · exact counted
  · -- a released row is not in force
    cases released : row.releasedAt <;>
      simp [inForce, isLeased, released] at counted

theorem mem_rivals {task : String} : task ∈ rivals taskId counts state ↔ task ≠ taskId ∧
    ((∃ row ∈ state.rows, counts row = true ∧ row.taskId = task) ∨ task ∈ unreserved state) := by
  rw [rivals, Finset.mem_erase, List.mem_toFinset, List.mem_append, List.mem_map]
  simp only [List.mem_filter, and_assoc]

theorem rivals_write {session : PgReservationSession} (falls : FallsAtRelease counts)
    (rows : after.rows = session.write before.rows)
    (fresh : ∀ row, session.inserted = some row → row.taskId ∈ unreserved before)
    (called : ∀ task, WasCalled task after → WasCalled task before) :
    rivals taskId counts after ⊆ rivals taskId counts before := by
  intro task mem
  rw [mem_rivals] at mem ⊢
  obtain ⟨other, counted | left⟩ := mem
  · obtain ⟨row, mem, isCounted, rfl⟩ := counted
    rw [rows] at mem
    rcases PgReservationSession.of_mem_write mem with ⟨old, oldMember, rfl⟩ | inserted
    · have same : (session.applyTo old).taskId = old.taskId :=
        taskId_eq (PgReservationSession.withoutRelease_applyTo session old)
      exact ⟨other, Or.inl ⟨old, oldMember, falls session old isCounted, same.symm⟩⟩
    · exact ⟨other, Or.inr (fresh row inserted)⟩
  · rw [mem_unreserved] at left
    refine ⟨other, Or.inr (mem_unreserved.mpr ⟨called task left.1, ?_⟩)⟩
    intro row mem
    obtain ⟨kept, keptMember, same⟩ : ∃ kept ∈ session.write before.rows,
        kept.withoutRelease = row.withoutRelease := PgReservationSession.exists_mem_write mem
    rw [← taskId_eq same]
    exact left.2 kept (rows ▸ keptMember)

theorem HasRoom.write {session : PgReservationSession} (room : HasRoom taskId before)
    (plans : after.plans = before.plans) (terms : after.termsOf = before.termsOf)
    (rows : after.rows = session.write before.rows)
    (fresh : ∀ row, session.inserted = some row → row.taskId ∈ unreserved before)
    (called : ∀ {thread params now}, (thread, .called params now) ∈ after.history →
      (thread, .called params now) ∈ before.history) : HasRoom taskId after := by
  intro thread params now plan subscription isCalled isTask stored isTerms matches_
  rw [plans] at stored
  rw [terms] at isTerms
  have roomBefore := room (called isCalled) isTask stored isTerms matches_
  have wasCalled (task : String) (left : WasCalled task after) : WasCalled task before := by
    obtain ⟨other, asked, time, mem, same⟩ := left
    exact ⟨other, asked, time, called mem, same⟩
  have fewer {counts : CloudSkillExecutionReservation → Bool} (falls : FallsAtRelease counts) :
      (rivals taskId counts after).card ≤ (rivals taskId counts before).card :=
    Finset.card_le_card (rivals_write falls rows fresh wasCalled)
  have cycle := fewer (falls_countsInCycle subscription params.skillId now)
  have minute := fewer (falls_inMinute params now subscription.subscriptionId)
  have force := fewer (falls_inForce params now subscription.subscriptionId)
  simp only [hasRoom, Bool.and_eq_true, decide_eq_true_eq] at roomBefore ⊢
  omega

theorem HasRoom.of_leavesRoom (keyed : state.SubscriptionsKeyed)
    (leaves : leavesRoom taskId state = true) : HasRoom taskId state := by
  intro thread params now plan subscription called isTask planned terms matches_
  obtain ⟨stored, found, same⟩ := Option.map_eq_some_iff.mp terms
  have mem : stored ∈ state.subscriptions.values := InsertionMap.mem_values_iff.mpr ⟨_, found⟩
  have id : stored.subscriptionId = subscription.subscriptionId := keyed found
  have startsAt : stored.startsAt = subscription.startsAt := congrArg (·.startsAt) same
  -- the conditions read nothing of a subscription that a change of its status changes
  have sameFor : isFor params stored = isFor params subscription := by
    have planId : stored.planId = subscription.planId := congrArg (·.planId) same
    have userId : stored.userId = subscription.userId := congrArg (·.userId) same
    have tenantId : stored.tenantId = subscription.tenantId := congrArg (·.tenantId) same
    simp only [isFor, planId, userId, tenantId]
  have sameRoom : hasRoom taskId state params now plan stored =
      hasRoom taskId state params now plan subscription := by
    have sameCycle : countsInCycle stored params.skillId now =
        countsInCycle subscription params.skillId now := by
      funext row
      simp only [countsInCycle, id, startsAt]
    simp only [hasRoom, sameCycle, id]
  have room := List.all_eq_true.mp leaves _ called
  simp only [isTask, planned, ne_eq, not_true_eq_false, decide_false, Bool.false_or,
    Option.all_some, List.all_eq_true] at room
  simpa [sameFor, sameRoom, matches_] using room stored mem

/-- One task has at most one of the rows that count. -/
theorem countP_le_rivals (tasks : (state.rows.map (·.taskId)).Nodup) :
    state.rows.countP counts ≤ (rivals taskId counts state).card + 1 := by
  have nodup : ((state.rows.filter counts).map (·.taskId)).Nodup :=
    tasks.sublist (List.filter_sublist.map _)
  have among : ((state.rows.filter counts).map (·.taskId)).toFinset ⊆
      insert taskId (rivals taskId counts state) := by
    intro task mem
    rw [List.mem_toFinset, List.mem_map] at mem
    obtain ⟨row, mem, rfl⟩ := mem
    rw [List.mem_filter] at mem
    rw [Finset.mem_insert, mem_rivals]
    by_cases same : row.taskId = taskId
    · exact Or.inl same
    · exact Or.inr ⟨same, Or.inl ⟨row, mem.1, mem.2, rfl⟩⟩
  calc state.rows.countP counts
      = ((state.rows.filter counts).map (·.taskId)).length := by
        rw [List.length_map, List.countP_eq_length_filter]
    _ = ((state.rows.filter counts).map (·.taskId)).toFinset.card :=
        (List.toFinset_card_of_nodup nodup).symm
    _ ≤ (insert taskId (rivals taskId counts state)).card := Finset.card_le_card among
    _ ≤ (rivals taskId counts state).card + 1 := Finset.card_insert_le _ _

/-- What an idle transaction counts. -/
theorem countP_visible_le (falls : FallsAtRelease counts)
    (tasks : (state.rows.map (·.taskId)).Nodup) (idle : (state.sessions thread).inserted = none) :
    (state.visible thread).countP counts ≤ (rivals taskId counts state).card + 1 := by
  have fewer : (state.visible thread).countP counts ≤ state.rows.countP counts := by
    rw [visible, PgReservationSession.write, idle, Option.toList_none, List.append_nil,
      List.countP_map]
    exact List.countP_mono_left fun row _ => falls _ row
  exact fewer.trans (countP_le_rivals tasks)

/-! ## The invariant step by step -/

theorem TwinInv.unique (inv : TwinInv taskId state) (mem : row ∈ state.rows)
    (otherMember : other ∈ state.rows)
    (same : row.taskId = other.taskId ∨ row.reservationId = other.reservationId) : row = other := by
  rcases same with task | id
  · exact List.inj_on_of_nodup_map inv.tasks mem otherMember task
  · exact List.inj_on_of_nodup_map inv.ids mem otherMember id

theorem TwinInv.twinsAgree (inv : TwinInv taskId state) : TwinsAgree taskId state := by
  intro row mem isTask thread params result answered sameTask transaction sameBinding
  have explained := inv.explained answered
  cases result with
  | ok reservation =>
    obtain ⟨found, foundMember, ofTask, same⟩ := explained
    have equal : found = row := by
      apply inv.unique foundMember mem
      left
      rw [ofTask, sameTask, isTask]
    subst equal
    exact ⟨reservation, rfl, same.symm⟩
  | error rejection =>
    obtain ⟨found, foundMember, ofTask, differ⟩ := explained sameTask transaction
    have equal : found = row := by
      apply inv.unique foundMember mem
      left
      rw [ofTask, sameTask, isTask]
    subst equal
    rw [differ] at sameBinding
    cases sameBinding

theorem PgReservationSession.applyTo_ids (session : PgReservationSession)
    (row : CloudSkillExecutionReservation) :
    (session.applyTo row).taskId = row.taskId ∧
      (session.applyTo row).reservationId = row.reservationId :=
  ⟨taskId_eq (withoutRelease_applyTo session row),
    reservationId_eq (withoutRelease_applyTo session row)⟩

theorem nodup_write {session : PgReservationSession} {key : CloudSkillExecutionReservation → String}
    {rows : List CloudSkillExecutionReservation}
    (same : ∀ row, key (session.applyTo row) = key row) (nodup : (rows.map key).Nodup)
    (fresh : ∀ row, session.inserted = some row → ∀ other ∈ rows, key other ≠ key row) :
    ((session.write rows).map key).Nodup := by
  have unchanged : (rows.map session.applyTo).map key = rows.map key := by
    rw [List.map_map]
    exact List.map_congr_left fun row _ => same row
  rw [PgReservationSession.write, List.map_append, unchanged]
  cases inserted : session.inserted with
  | none =>
    rw [Option.toList_none, List.map_nil, List.append_nil]
    exact nodup
  | some row =>
    rw [Option.toList_some, List.map_singleton, List.nodup_append']
    refine ⟨nodup, List.nodup_singleton _, ?_⟩
    rw [List.disjoint_singleton]
    intro mem
    obtain ⟨other, otherMember, equal⟩ := List.mem_map.mp mem
    exact fresh row inserted other otherMember equal

variable (inv : TwinInv taskId before)
include inv

/-- A step that writes the rows of a session, and answers nothing. -/
theorem TwinInv.write {session : PgReservationSession}
    (exclusive : after.locks.Exclusive) (keyed : after.SubscriptionsKeyed)
    (plans : after.plans = before.plans) (terms : after.termsOf = before.termsOf)
    (history : after.history = before.history) (rows : after.rows = session.write before.rows)
    (fresh : ∀ row, session.inserted = some row → WasCalled row.taskId before ∧
      ∀ other ∈ before.rows, other.taskId ≠ row.taskId ∧ other.reservationId ≠ row.reservationId)
    (pending : ∀ {other row}, (after.sessions other).inserted = some row →
      (before.sessions other).inserted = some row ∧
        after.locks.Holds other (.taskIndex row.taskId) ∧
          after.locks.Holds other (.reservation row.reservationId) ∧
            ∀ written, session.inserted = some written →
              written.taskId ≠ row.taskId ∧ written.reservationId ≠ row.reservationId) :
    TwinInv taskId after := by
  constructor
  case exclusive => exact exclusive
  case keyed => exact keyed
  case plansKeyed =>
    rw [plans]
    exact inv.plansKeyed
  case tasks =>
    rw [rows]
    exact nodup_write (fun row => (session.applyTo_ids row).1) inv.tasks
      fun row inserted other mem => ((fresh row inserted).2 other mem).1
  case ids =>
    rw [rows]
    exact nodup_write (fun row => (session.applyTo_ids row).2) inv.ids
      fun row inserted other mem => ((fresh row inserted).2 other mem).2
  case pending =>
    intro other row inserted
    obtain ⟨was, task, reservation, apart⟩ := pending inserted
    obtain ⟨-, -, fresh, called⟩ := inv.pending was
    refine ⟨task, reservation, ?_, called.mono fun entry mem => history ▸ mem⟩
    intro found mem
    rw [rows] at mem
    rcases PgReservationSession.of_mem_write mem with ⟨old, oldMember, rfl⟩ | written
    · rw [(session.applyTo_ids old).1, (session.applyTo_ids old).2]
      exact fresh old oldMember
    · exact apart found written
  case explained =>
    intro thread params result answered
    rw [history] at answered
    have kept : RowsKept before.rows after.rows := by
      rw [rows]
      exact fun row mem => PgReservationSession.exists_mem_write mem
    exact (inv.explained answered).mono kept
  case room =>
    apply inv.room.write plans terms rows
    · intro row inserted
      obtain ⟨called, apart⟩ := fresh row inserted
      exact mem_unreserved.mpr ⟨called, fun other mem => (apart other mem).1⟩
    · rw [history]
      exact id

theorem TwinInv.of_rows (exclusive : after.locks.Exclusive)
    (subscriptions : after.subscriptions = before.subscriptions)
    (plans : after.plans = before.plans) (rows : after.rows = before.rows)
    (history : after.history = before.history)
    (pending : ∀ {other row}, (after.sessions other).inserted = some row →
      (before.sessions other).inserted = some row ∧
        ∀ {key}, before.locks.Holds other key → after.locks.Holds other key) :
    TwinInv taskId after := by
  have unwritten : after.rows = PgReservationSession.empty.write before.rows := by
    rw [PgReservationSession.write_empty]
    exact rows
  apply inv.write exclusive (inv.keyed.congr subscriptions) plans (termsOf_congr subscriptions)
    history unwritten
  · intro row inserted
    cases inserted
  · intro other row inserted
    obtain ⟨was, holds⟩ := pending inserted
    obtain ⟨task, reservation, -⟩ := inv.pending was
    exact ⟨was, holds task, holds reservation, fun _ written => by cases written⟩

theorem TwinInv.reads (reads : Reads thread before after) : TwinInv taskId after := by
  apply inv.of_rows (reads.exclusive inv.exclusive) reads.subscriptions reads.plans reads.rows
    reads.history
  intro other row inserted
  rw [reads.inserted] at inserted
  exact ⟨inserted, reads.holds⟩

theorem TwinInv.occurs (occurs : Occurs before after) : TwinInv taskId after := by
  obtain ⟨released, rows⟩ := occurs.rows
  apply inv.write (occurs.locks ▸ inv.exclusive) (occurs.keyed inv.keyed) occurs.plans occurs.terms
    occurs.history rows
  · intro row inserted
    cases inserted
  · intro other row inserted
    rw [occurs.sessions] at inserted
    obtain ⟨task, reservation, -⟩ := inv.pending inserted
    rw [occurs.locks]
    exact ⟨inserted, task, reservation, fun _ written => by cases written⟩

theorem TwinInv.commit (executed : before.execute thread generated .commit = some (.ok (), after)) :
    TwinInv taskId after := by
  have apart : ∀ other, other ≠ thread → Apart other before after :=
    fun other differ => execute_apart differ executed
  have unchanged := apart (thread + 1) (Nat.succ_ne_self thread)
  obtain ⟨exclusive, history, rows, ended⟩ : after.locks.Exclusive ∧
      after.history = before.history ∧ after.rows = (before.sessions thread).write before.rows ∧
        (after.sessions thread).inserted = none := by
    cases executed
    refine ⟨inv.exclusive.releaseAll thread, rfl, rfl, ?_⟩
    simp [endTransaction, setSession, PgReservationSession.empty]
  apply inv.write exclusive (unchanged.keyed inv.keyed) unchanged.plans unchanged.terms history rows
  · intro row inserted
    obtain ⟨-, -, fresh, called⟩ := inv.pending inserted
    exact ⟨called, fresh⟩
  · intro other row pending
    by_cases same : other = thread
    · rw [same, ended] at pending
      cases pending
    · rw [(apart other same).session] at pending
      obtain ⟨holdsTask, holdsReservation, -⟩ := inv.pending pending
      refine ⟨pending, (apart other same).holds holdsTask, (apart other same).holds
        holdsReservation, fun written inserted => ?_⟩
      -- two holders of one entry of the index
      obtain ⟨ownTask, ownReservation, -⟩ := inv.pending inserted
      constructor
      · intro equal
        rw [equal] at ownTask
        exact same (inv.exclusive holdsTask ownTask)
      · intro equal
        rw [equal] at ownReservation
        exact same (inv.exclusive holdsReservation ownReservation)

theorem TwinInv.insert {now leaseTtlMs : Int} {subscription : CloudSkillSubscriptionRecord}
    {answer : Except PgReservationError CloudSkillExecutionReservation}
    (called : WasCalled params.taskId before)
    (executed : before.execute thread generated (.insert params now leaseTtlMs subscription) =
      some (answer, after)) : TwinInv taskId after := by
  simp only [execute] at executed
  split at executed
  · cases executed
  · next free =>
    obtain ⟨locked, acquired, equal⟩ := Option.map_eq_some_iff.mp executed
    split at equal
    · cases equal
      exact inv
    · next absent =>
      split at equal
      · cases equal
        exact inv
      · cases equal
        have reads := reads_lock acquired
        have lockedInv := inv.reads reads
        refine ⟨lockedInv.exclusive, lockedInv.keyed, lockedInv.plansKeyed, lockedInv.tasks,
          lockedInv.ids, ?_, lockedInv.explained, lockedInv.room⟩
        intro other row inserted
        by_cases same : other = thread
        · subst same
          simp only [setSession, Function.update_self, Option.some.injEq] at inserted
          subst inserted
          obtain ⟨locks, taken, rfl⟩ := Option.map_eq_some_iff.mp acquired
          refine ⟨(LockTable.holds_of_acquireAll taken).mpr (Or.inl ⟨rfl, by simp⟩),
            (LockTable.holds_of_acquireAll taken).mpr (Or.inl ⟨rfl, by simp⟩), ?_, called⟩
          intro found mem
          constructor
          · -- the statement reads every committed row
            intro sameTask
            apply absent
            obtain ⟨kept, keptMember, sameRow⟩ : ∃ kept ∈ before.visible other,
                kept.withoutRelease = found.withoutRelease :=
              PgReservationSession.exists_mem_write mem
            rw [List.any_eq_true]
            exact ⟨kept, keptMember, decide_eq_true ((taskId_eq sameRow).trans sameTask)⟩
          · intro sameReservation
            apply free
            rw [Bool.or_eq_true, List.any_eq_true]
            exact Or.inl ⟨found, mem, decide_eq_true sameReservation⟩
        · simp only [setSession, Function.update_of_ne same] at inserted
          exact lockedInv.pending inserted

theorem TwinInv.call {now : Instant}
    (leaves : leavesRoom taskId (before.note thread (.called params now)) = true) :
    TwinInv taskId (before.note thread (.called params now)) := by
  refine ⟨inv.exclusive, inv.keyed, inv.plansKeyed, inv.tasks, inv.ids, ?_, ?_,
    .of_leavesRoom inv.keyed leaves⟩
  · intro other row inserted
    obtain ⟨task, reservation, fresh, called⟩ := inv.pending inserted
    exact ⟨task, reservation, fresh, called.mono fun entry => List.mem_append_left _⟩
  · intro other asked result answered
    have old : (other, .answered asked result) ∈ before.history := by
      simpa [note] using answered
    exact inv.explained old

theorem TwinInv.answer {result : CloudSkillExecutionReservationResult}
    (explained : IsExplained taskId params before.rows result) :
    TwinInv taskId (before.note thread (.answered params result)) := by
  have unwritten : before.rows = PgReservationSession.empty.write before.rows :=
    (PgReservationSession.write_empty _).symm
  refine ⟨inv.exclusive, inv.keyed, inv.plansKeyed, inv.tasks, inv.ids, ?_, ?_,
    inv.room.write rfl rfl unwritten ?_ ?_⟩
  · intro other row inserted
    obtain ⟨task, reservation, fresh, called⟩ := inv.pending inserted
    exact ⟨task, reservation, fresh, called.mono fun entry => List.mem_append_left _⟩
  · intro other asked given answered
    rw [note, List.mem_append, List.mem_singleton] at answered
    rcases answered with old | new
    · exact inv.explained old
    · cases new
      exact explained
  · intro row inserted
    cases inserted
  · intro other asked time called
    simpa [note] using called

end LongHub
