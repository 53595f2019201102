import LongHub.PgReservation
import LongHub.RelyGuarantee

/-!
# Reservations in transactions

What a statement leaves alone, and rules for whole transactions.
-/

namespace LongHub

open CloudSkillSubscriptionRecord Function InsertionMap List Option

/-! ## What a reservation statement leaves alone -/

structure SubscriptionTerms where
  planId : String
  tenantId : String
  userId : String
  startsAt : Instant
  expiresAt : Instant

def CloudSkillSubscriptionRecord.terms (subscription : CloudSkillSubscriptionRecord) :
    SubscriptionTerms where
  planId := subscription.planId
  tenantId := subscription.tenantId
  userId := subscription.userId
  startsAt := subscription.startsAt
  expiresAt := subscription.expiresAt

def CloudSkillExecutionReservation.withoutRelease (row : CloudSkillExecutionReservation) :
    CloudSkillExecutionReservation :=
  { row with releasedAt := none }

def IgnoresRelease (property : CloudSkillExecutionReservation → Bool) : Prop :=
  ∀ row, property row.withoutRelease = property row

theorem IgnoresRelease.congr {property : CloudSkillExecutionReservation → Bool}
    {row other : CloudSkillExecutionReservation} (ignores : IgnoresRelease property)
    (same : row.withoutRelease = other.withoutRelease) : property row = property other := by
  rw [← ignores row, ← ignores other, same]

namespace PgReservationSession

@[simp] theorem withoutRelease_applyTo (session : PgReservationSession)
    (row : CloudSkillExecutionReservation) :
    (session.applyTo row).withoutRelease = row.withoutRelease := by
  unfold applyTo
  split <;> rfl

@[simp] theorem write_empty (rows : List CloudSkillExecutionReservation) :
    empty.write rows = rows := by
  have same : empty.applyTo = id := by
    funext row
    rfl
  rw [write, same, List.map_id]
  exact append_nil rows

theorem countP_write {property : CloudSkillExecutionReservation → Bool}
    (ignores : IgnoresRelease property) (session : PgReservationSession)
    (rows : List CloudSkillExecutionReservation) : (session.write rows).countP property =
      rows.countP property + session.inserted.toList.countP property := by
  have same : property ∘ session.applyTo = property := by
    funext row
    exact ignores.congr (withoutRelease_applyTo session row)
  rw [write, countP_append, countP_map, same]

variable {session : PgReservationSession} {rows : List CloudSkillExecutionReservation}
  {row : CloudSkillExecutionReservation}

theorem exists_mem_write (mem : row ∈ rows) :
    ∃ kept ∈ session.write rows, kept.withoutRelease = row.withoutRelease := by
  have kept : session.applyTo row ∈ session.write rows := by
    exact mem_append_left _ (List.mem_map_of_mem mem)
  exact ⟨_, kept, withoutRelease_applyTo session row⟩

theorem of_mem_write (mem : row ∈ session.write rows) :
    (∃ old ∈ rows, session.applyTo old = row) ∨ session.inserted = some row := by
  rw [write, mem_append, List.mem_map] at mem
  rcases mem with old | new
  · exact Or.inl old
  · exact Or.inr (by simpa using new)

end PgReservationSession

namespace PgReservationState

variable {before after : PgReservationState} {thread other : Nat} {generated : String}

def termsOf (state : PgReservationState) (subscriptionId : String) : Option SubscriptionTerms :=
  (state.subscriptions.get? subscriptionId).map terms

def SubscriptionsKeyed (state : PgReservationState) : Prop :=
  ∀ ⦃key subscription⦄, state.subscriptions.get? key = some subscription →
    subscription.subscriptionId = key

/-- What a thread can rely on while others take a step. -/
structure Apart (thread : Nat) (before after : PgReservationState) : Prop where
  plans : after.plans = before.plans
  terms : after.termsOf = before.termsOf
  keyed : before.SubscriptionsKeyed → after.SubscriptionsKeyed
  session : after.sessions thread = before.sessions thread
  holds : ∀ {key}, before.locks.Holds thread key → after.locks.Holds thread key
  facts : ∀ {fact}, (thread, fact) ∈ after.history ↔ (thread, fact) ∈ before.history
  rowsKept : ∀ row ∈ before.rows, ∃ kept ∈ after.rows, kept.withoutRelease = row.withoutRelease

structure Reads (thread : Nat) (before after : PgReservationState) : Prop where
  plans : after.plans = before.plans
  subscriptions : after.subscriptions = before.subscriptions
  rows : after.rows = before.rows
  history : after.history = before.history
  inserted : ∀ other, (after.sessions other).inserted = (before.sessions other).inserted
  session : ∀ {other}, other ≠ thread → after.sessions other = before.sessions other
  holds : ∀ {other key}, before.locks.Holds other key → after.locks.Holds other key
  exclusive : before.locks.Exclusive → after.locks.Exclusive

theorem termsOf_congr (same : after.subscriptions = before.subscriptions) :
    after.termsOf = before.termsOf := by
  funext subscriptionId
  rw [termsOf, same, termsOf]

theorem SubscriptionsKeyed.congr (keyed : before.SubscriptionsKeyed)
    (same : after.subscriptions = before.subscriptions) : after.SubscriptionsKeyed := by
  intro key subscription stored
  rw [same] at stored
  exact keyed stored

theorem Reads.refl (thread : Nat) (state : PgReservationState) : Reads thread state state where
  plans := rfl
  subscriptions := rfl
  rows := rfl
  history := rfl
  inserted _ := rfl
  session _ := rfl
  holds held := held
  exclusive := id

theorem Reads.apart (reads : Reads thread before after) (differ : other ≠ thread) :
    Apart other before after where
  plans := reads.plans
  terms := termsOf_congr reads.subscriptions
  keyed keyed := keyed.congr reads.subscriptions
  session := reads.session differ
  holds := reads.holds
  facts := by rw [reads.history]
  rowsKept row mem := by
    rw [reads.rows]
    exact ⟨row, mem, rfl⟩

theorem reads_lock {keys : List PgLockKey} (locked : before.lock thread keys = some after) :
    Reads thread before after := by
  obtain ⟨locks, acquired, rfl⟩ := map_eq_some_iff.mp locked
  have holds {other : Nat} {key : PgLockKey} (held : before.locks.Holds other key) :
      locks.Holds other key := (LockTable.holds_of_acquireAll acquired).mpr (Or.inr held)
  exact ⟨rfl, rfl, rfl, rfl, fun _ => rfl, fun _ => rfl, holds,
    fun exclusive => exclusive.acquireAll acquired⟩

theorem Reads.setReleased (reads : Reads thread before after) (released : List (String × Instant)) :
    Reads thread before (after.setSession thread { before.sessions thread with released }) := by
  have inserted (other : Nat) :
      ((after.setSession thread { before.sessions thread with released }).sessions
        other).inserted = (before.sessions other).inserted := by
    by_cases same : other = thread
    · subst same
      simp [setSession]
    · simpa [setSession, update_of_ne same] using reads.inserted other
  have session {other : Nat} (differ : other ≠ thread) :
      (after.setSession thread { before.sessions thread with released }).sessions other =
        before.sessions other := by
    simpa [setSession, update_of_ne differ] using reads.session differ
  exact ⟨reads.plans, reads.subscriptions, reads.rows, reads.history, inserted, session,
    reads.holds, reads.exclusive⟩

end PgReservationState

def PgReservationCall.isReading : PgReservationCall → Bool
  | .call _ | .begin | .insert .. | .commit | .rollback | .answer .. => false
  | _ => true

namespace PgReservationState

variable {before after : PgReservationState} {thread other : Nat} {generated : String}

variable {request : PgReservationCall}

theorem execute_reading {answer : Except PgReservationError request.Answer}
    (reading : request.isReading = true)
    (executed : before.execute thread generated request = some (answer, after)) :
    (∃ value, answer = .ok value) ∧ Reads thread before after := by
  cases request with
  | call _ | begin | insert _ _ _ _ | commit | rollback | answer _ _ => cases reading
  | selectExisting _ | selectPlan _ | countCycle _ _ _ | countMinute _ _ _ _ _
  | countActive _ _ _ _ _ =>
    cases executed
    exact ⟨⟨_, rfl⟩, .refl thread before⟩
  | selectExistingForUpdate taskId =>
    simp only [execute] at executed
    split at executed
    · cases executed
      exact ⟨⟨_, rfl⟩, .refl thread before⟩
    · obtain ⟨locked, acquired, equal⟩ := map_eq_some_iff.mp executed
      cases equal
      exact ⟨⟨_, rfl⟩, reads_lock acquired⟩
  | lockSubscription planId userId tenantId subscriptionId =>
    simp only [execute] at executed
    split at executed
    · cases executed
      exact ⟨⟨_, rfl⟩, .refl thread before⟩
    · obtain ⟨locked, acquired, equal⟩ := map_eq_some_iff.mp executed
      cases equal
      exact ⟨⟨_, rfl⟩, reads_lock acquired⟩
  | lockEntitlement subscriptionId tenantId userId skillId planId now =>
    simp only [execute] at executed
    split at executed
    · cases executed
      exact ⟨⟨_, rfl⟩, .refl thread before⟩
    · obtain ⟨locked, acquired, equal⟩ := map_eq_some_iff.mp executed
      cases equal
      exact ⟨⟨_, rfl⟩, reads_lock acquired⟩
  | updateReleased reservationId now =>
    obtain ⟨locked, acquired, equal⟩ := map_eq_some_iff.mp executed
    cases equal
    exact ⟨⟨_, rfl⟩, (reads_lock acquired).setReleased _⟩
  | expireLeases subscriptionId now =>
    obtain ⟨locked, acquired, equal⟩ := map_eq_some_iff.mp executed
    cases equal
    exact ⟨⟨_, rfl⟩, (reads_lock acquired).setReleased _⟩

theorem execute_apart {answer : Except PgReservationError request.Answer}
    (differ : other ≠ thread)
    (executed : before.execute thread generated request = some (answer, after)) :
    Apart other before after := by
  have session (session : PgReservationSession) :
      Function.update before.sessions thread session other = before.sessions other :=
    update_of_ne differ _ _
  have facts (recorded : PgReservationFact) {fact : PgReservationFact} :
      (other, fact) ∈ before.history ++ [(thread, recorded)] ↔
        (other, fact) ∈ before.history := by simp [differ]
  have ended {key : PgLockKey} (held : before.locks.Holds other key) :
      (before.locks.releaseAll thread).Holds other key :=
    LockTable.holds_releaseAll.mpr ⟨held, differ⟩
  have unchanged : ∀ row ∈ before.rows, ∃ kept ∈ before.rows,
      kept.withoutRelease = row.withoutRelease := fun row mem => ⟨row, mem, rfl⟩
  by_cases reading : request.isReading = true
  · exact (execute_reading reading executed).2.apart differ
  · cases request with
    | call params =>
      cases executed
      exact ⟨rfl, rfl, id, rfl, id, facts _, unchanged⟩
    | answer params result =>
      cases executed
      exact ⟨rfl, rfl, id, rfl, id, facts _, unchanged⟩
    | begin =>
      cases executed
      exact ⟨rfl, rfl, id, session _, id, Iff.rfl, unchanged⟩
    | rollback =>
      cases executed
      exact ⟨rfl, rfl, id, session _, ended, Iff.rfl, unchanged⟩
    | commit =>
      cases executed
      exact ⟨rfl, rfl, id, session _, ended, Iff.rfl,
        fun row mem => PgReservationSession.exists_mem_write mem⟩
    | insert params now leaseTtlMs subscription =>
      simp only [execute] at executed
      split at executed
      · cases executed
      · obtain ⟨locked, acquired, equal⟩ := map_eq_some_iff.mp executed
        have reads := reads_lock acquired
        split at equal
        · cases equal
          exact (Reads.refl thread before).apart differ
        · split at equal
          · cases equal
            exact (Reads.refl thread before).apart differ
          · cases equal
            have apart := reads.apart differ
            have sameSession : (locked.setSession thread
                { before.sessions thread with
                  inserted := some (newRow ("csres-" ++ generated) params now leaseTtlMs
                    subscription) }).sessions other = before.sessions other := by
              simpa [setSession, update_of_ne differ] using apart.session
            exact ⟨apart.plans, apart.terms, apart.keyed, sameSession, apart.holds,
              apart.facts, apart.rowsKept⟩
    | _ => exact absurd rfl reading

/-- What happens beside the reservations; at most it releases a row. -/
structure Occurs (before after : PgReservationState) : Prop where
  plans : after.plans = before.plans
  terms : after.termsOf = before.termsOf
  keyed : before.SubscriptionsKeyed → after.SubscriptionsKeyed
  sessions : after.sessions = before.sessions
  locks : after.locks = before.locks
  history : after.history = before.history
  rows : ∃ released, after.rows = (PgReservationSession.mk released none).write before.rows

theorem occurs_of_occur {event : Event} (occurred : before.occur event = some after) :
    Occurs before after := by
  have unchanged : ∃ released, before.rows =
      (PgReservationSession.mk released none).write before.rows :=
    ⟨[], (PgReservationSession.write_empty _).symm⟩
  cases event with
  | tick now =>
    simp only [occur] at occurred
    split at occurred
    · cases occurred
      exact ⟨rfl, rfl, id, rfl, rfl, rfl, unchanged⟩
    · cases occurred
  | setEntitlement entitlement =>
    simp only [occur] at occurred
    split at occurred
    · cases occurred
    · cases occurred
      exact ⟨rfl, rfl, id, rfl, rfl, rfl, unchanged⟩
  | release reservationId now =>
    simp only [occur] at occurred
    split at occurred
    · cases occurred
    · cases occurred
      refine ⟨rfl, rfl, id, rfl, rfl, rfl, [(reservationId, now)], ?_⟩
      simp [PgReservationSession.write]
  | setSubscriptionStatus subscriptionId status changedAt =>
    simp only [occur] at occurred
    split at occurred
    · cases occurred
    · obtain ⟨subscription, stored, rfl⟩ := map_eq_some_iff.mp occurred
      have terms : PgReservationState.termsOf { before with
          subscriptions := before.subscriptions.set subscriptionId
            (subscription.withStatus status changedAt) } = before.termsOf := by
        funext key
        by_cases same : key = subscriptionId
        · subst same
          simp [termsOf, stored, terms, withStatus]
        · simp [termsOf, get?_set, same]
      refine ⟨rfl, terms, fun keyed key found isFound => ?_, rfl, rfl, rfl, unchanged⟩
      rw [get?_set] at isFound
      split at isFound
      · next same =>
        cases isFound
        have own : subscription.subscriptionId = subscriptionId := keyed stored
        rw [same]
        exact own
      · exact keyed isFound

/-- Every thread can rely on its own while the environment takes a step. -/
theorem Occurs.apart (occurs : Occurs before after) (thread : Nat) : Apart thread before after where
  __ := occurs
  session := congrFun occurs.sessions thread
  holds held := by
    rw [occurs.locks]
    exact held
  facts := by rw [occurs.history]
  rowsKept row mem := by
    obtain ⟨released, rows⟩ := occurs.rows
    rw [rows]
    exact PgReservationSession.exists_mem_write mem

theorem subscriptionsKeyed_oneCallLeft : oneCallLeft.SubscriptionsKeyed := by
  intro key subscription found
  simp only [oneCallLeft, get?_set, get?_empty] at found
  split at found
  · next same =>
    cases found
    exact same.symm
  · cases found

end PgReservationState

/-! ## Rules for reservation transactions -/

open PgReservationState PgReservationStore

/-- An invariant of the runs whose steps meet a condition, with what a thread
can rely on. -/
structure ReservationRules where
  condition : Nat → PgReservationCall → PgReservationState → Bool
  Inv : PgReservationState → Prop
  Rely : Nat → PgReservationState → PgReservationState → Prop
  apart : ∀ {thread before after}, Rely thread before after → Apart thread before after
  occurs : ∀ {thread before after}, Occurs before after → Rely thread before after
  reads : ∀ {thread before after}, Inv before → Reads thread before after →
    (∀ other, other ≠ thread → Rely other before after) ∧ Inv after

namespace ReservationRules

variable (rules : ReservationRules)

/-- Reservations whose steps meet the condition. -/
def server := reservationServer.restrict fun thread request _ state =>
  rules.condition thread request state

def Guarantee (thread : Nat) (before after : PgReservationState) : Prop :=
  ∀ other, other ≠ thread → rules.Rely other before after

/-- An assertion that neither the others nor own reading statements end. -/
def LastsUntilWrite (thread : Nat) (assertion : PgReservationState → Prop) : Prop :=
  (∀ before after, rules.Rely thread before after → assertion before → assertion after) ∧
    ∀ before after, Reads thread before after → assertion before → assertion after

variable {rules}
variable {before after state : PgReservationState} {thread : Nat} {generated : String}
variable {α : Type}

variable {request : PgReservationCall}

theorem perform_server {outcome : Except PgReservationError request.Answer × PgReservationState}
    (ran : rules.server.perform thread request generated before = some outcome) :
    rules.condition thread request before = true ∧
      before.execute thread generated request = some outcome := by
  simp only [server, Machine.restrict] at ran
  split at ran
  · next meets => exact ⟨meets, ran⟩
  · cases ran

theorem rely_of_server (rely : rules.server.Rely rules.Guarantee thread before after) :
    rules.Rely thread before after := by
  rcases rely with ⟨other, differ, guarantee⟩ | ⟨event, occurred⟩
  · exact guarantee thread differ.symm
  · exact rules.occurs (occurs_of_occur occurred)

namespace LastsUntilWrite

theorem stable {assertion : PgReservationState → Prop}
    (lasts : rules.LastsUntilWrite thread assertion) :
    rules.server.Stable rules.Inv rules.Guarantee thread assertion :=
  fun before after _ _ rely => lasts.1 before after (rely_of_server rely)

theorem and {first second : PgReservationState → Prop}
    (firstLasts : rules.LastsUntilWrite thread first)
    (secondLasts : rules.LastsUntilWrite thread second) :
    rules.LastsUntilWrite thread fun state => first state ∧ second state :=
  ⟨fun before after rely holds =>
      ⟨firstLasts.1 before after rely holds.1, secondLasts.1 before after rely holds.2⟩,
    fun before after reads holds =>
      ⟨firstLasts.2 before after reads holds.1, secondLasts.2 before after reads holds.2⟩⟩

end LastsUntilWrite

theorem lasts_isIdle :
    rules.LastsUntilWrite thread fun state => (state.sessions thread).inserted = none := by
  constructor
  · intro before after rely idle
    rw [(rules.apart rely).session]
    exact idle
  · intro before after reads idle
    rw [reads.inserted]
    exact idle

theorem lasts_plan (planId : String) (plan : CloudSkillPlanRecord) :
    rules.LastsUntilWrite thread fun state => state.plans.get? planId = some plan := by
  constructor
  · intro before after rely stored
    rw [(rules.apart rely).plans]
    exact stored
  · intro before after reads stored
    rw [reads.plans]
    exact stored

theorem safe_reading {next : request.Answer → PgReservationProgram α}
    {assertion : PgReservationState → Prop}
    {Post : Except PgReservationError α → PgReservationState → Prop}
    (reading : request.isReading = true) (lasts : rules.LastsUntilWrite thread assertion)
    (holds : assertion state)
    (continues : ∀ before generated answer after, rules.Inv before → assertion before →
      rules.condition thread request before = true →
      before.execute thread generated request = some (.ok answer, after) →
      rules.Inv after → assertion after → Reads thread before after →
        rules.server.Safe rules.Inv rules.Guarantee thread Post (next answer) after) :
    rules.server.Safe rules.Inv rules.Guarantee thread Post (query request >>= next) state := by
  apply Machine.safe_perform_bind lasts.stable holds
  · intro before generated answer after inv holdsBefore ran
    obtain ⟨meets, executed⟩ := perform_server ran
    have reads := (execute_reading reading executed).2
    obtain ⟨guarantee, invAfter⟩ := rules.reads inv reads
    exact ⟨guarantee, invAfter, continues before generated answer after inv holdsBefore meets
      executed invAfter (lasts.2 before after reads holdsBefore) reads⟩
  · intro before generated error after inv holdsBefore ran
    obtain ⟨⟨value, bad⟩, -⟩ := execute_reading reading (perform_server ran).2
    cases bad

end ReservationRules

variable {state : PgReservationState} {subscription : CloudSkillSubscriptionRecord}

theorem of_selectSubscription {planId userId tenantId : String} {subscriptionId : Option String}
    (selected : state.selectSubscription planId userId tenantId subscriptionId =
      some subscription) :
    subscription ∈ state.subscriptions.values ∧ subscription.planId = planId ∧
      subscription.userId = userId ∧ subscription.tenantId = tenantId := by
  have mem := mem_of_head? selected
  rw [CloudSkillTables.newestFirst, mem_insertionSort, mem_filter] at mem
  obtain ⟨stored, matches_⟩ := mem
  simp only [Bool.and_eq_true, decide_eq_true_eq] at matches_
  exact ⟨stored, matches_.1.1.1, matches_.1.1.2, matches_.1.2⟩

theorem termsOf_selected (keyed : state.SubscriptionsKeyed)
    (mem : subscription ∈ state.subscriptions.values) :
    state.termsOf subscription.subscriptionId = some subscription.terms := by
  obtain ⟨key, found⟩ := mem_values_iff.mp mem
  obtain rfl := keyed found
  rw [termsOf, found]
  rfl

end LongHub
