import LongHub.OutboxGuarantees
import Mathlib.Algebra.Order.Group.Nat

/-!
# How often an event is published

A claim counts an attempt, and a `runOnce` call hands each event it has claimed to the publisher
once.
-/

namespace LongHub

open BillingOutbox BillingOutboxRecord InsertionMap List OutboxWorkers

namespace OutboxSystem

variable {system next : OutboxSystem}

theorem Fenced.nodup_claimed (fenced : system.Fenced) (lockToken : String)
    (params : BillingOutboxClaimParams) (now : Instant) :
    ((system.outbox.claimBillingOutbox now lockToken params).1.map
      BillingOutboxRecord.outboxId).Nodup := by
  have values : (system.outbox.values.map BillingOutboxRecord.outboxId).Nodup := by
    have keys : system.outbox.values.map BillingOutboxRecord.outboxId = system.outbox.keys := by
      rw [values, InsertionMap.keys, map_map]
      apply map_congr_left
      intro entry mem
      exact (fenced.rows entry.1 entry.2 (get?_eq_some_iff.mpr mem)).keyed
    rw [keys]
    exact system.outbox.nodupKeys
  simp only [claimBillingOutbox]
  split
  · next limit leaseMs at_ _ _ _ =>
    rw [map_map]
    apply List.Nodup.sublist ((take_sublist _ _).map _)
    rw [((perm_insertionSort _ _).map _).nodup_iff]
    exact values.sublist (filter_sublist.map _)
  · exact nodup_nil

theorem Fenced.length_claimHistory (fenced : system.Fenced) (worker : Nat)
    (lockToken : String) (params : BillingOutboxClaimParams) (now : Instant)
    (outboxId : String) :
    let taken := (system.outbox.claimBillingOutbox now lockToken params).1
    (system.history outboxId).length + taken.countP (fun record => record.outboxId = outboxId) =
      (claimHistory system.history worker taken outboxId).length := by
  intro taken
  have nodup : (taken.map BillingOutboxRecord.outboxId).Nodup :=
    fenced.nodup_claimed lockToken params now
  have count : taken.countP (fun record => record.outboxId = outboxId) =
      (taken.map BillingOutboxRecord.outboxId).count outboxId := by
    rw [count, countP_map]
    apply countP_congr
    simp
  rw [count, claimHistory]
  cases search : taken.find? fun record => record.outboxId = outboxId with
  | none =>
    rw [find?_eq_none] at search
    have absent : outboxId ∉ taken.map BillingOutboxRecord.outboxId := by
      intro mem
      obtain ⟨record, recordMember, named⟩ := mem_map.mp mem
      exact search record recordMember (decide_eq_true named)
    simp [count_eq_zero_of_not_mem absent]
  | some record =>
    have named : record.outboxId = outboxId := by simpa using find?_some search
    have mem : outboxId ∈ taken.map BillingOutboxRecord.outboxId :=
      mem_map.mpr ⟨record, mem_of_find?_eq_some search, named⟩
    simp [count_eq_one_of_mem nodup mem]

theorem length_settleHistory (history : String → List OutboxClaim)
    (outboxId lockToken : String) (took : Bool) (other : String) :
    (settleHistory history outboxId lockToken took other).length = (history other).length := by
  rw [settleHistory]
  split <;> simp

/-- A claimed event as a call remembers it: while the row has the token of the
claim, it has the attempts of the claim. -/
def Remembers (system : OutboxSystem) (record : BillingOutboxRecord) : Prop :=
  ∃ token, record.lockToken = some token ∧ token ∈ system.tokens.map Prod.fst ∧
    ∀ row, system.outbox.get? record.outboxId = some row → row.lockToken = some token →
      row.attempts = record.attempts

theorem Remembers.of_rows {record : BillingOutboxRecord} (remembers : system.Remembers record)
    (tokens : ∀ token ∈ system.tokens.map Prod.fst, token ∈ next.tokens.map Prod.fst)
    (rows : ∀ token ∈ system.tokens.map Prod.fst, ∀ row,
      next.outbox.get? record.outboxId = some row → row.lockToken = some token →
        system.outbox.get? record.outboxId = some row) : next.Remembers record := by
  obtain ⟨token, held, given, same⟩ := remembers
  exact ⟨token, held, tokens token given,
    fun row found locked => same row (rows token given row found locked) locked⟩

theorem Remembers.step (fenced : system.Fenced) {action : OutboxAction}
    (stepTo : system.step action = some next) {record : BillingOutboxRecord}
    (remembers : system.Remembers record) : next.Remembers record := by
  cases action with
  | settle new =>
    obtain ⟨guard, same⟩ := Option.ite_none_right_eq_some.mp stepTo
    simp only [isNew, Bool.and_eq_true, Option.isNone_iff_eq_none] at guard
    cases same
    apply remembers.of_rows
    · exact fun _ given => given
    intro token _ row found locked
    rw [get?_set] at found
    split at found
    · cases found
      rw [guard.1.1.1.2] at locked
      cases locked
    · exact found
  | claim worker lockToken limit leaseMs now =>
    simp only [OutboxSystem.step] at stepTo
    split at stepTo
    · cases stepTo
    next guard =>
    simp only [Bool.or_eq_true, any_eq_true, not_or, not_exists, not_and] at guard
    cases stepTo
    apply remembers.of_rows
    · exact fun _ given => mem_cons_of_mem _ given
    intro token given row found locked
    rcases fenced.claim_row worker lockToken limit leaseMs now record.outboxId with
      ⟨same, -⟩ | ⟨original, until_, -, -, claimedRow, -⟩
    · exact same.symm.trans found
    · rw [claimedRow] at found
      cases found
      cases locked
      obtain ⟨entry, mem, rfl⟩ := mem_map.mp given
      exact absurd (decide_eq_true rfl) (guard.2 entry mem)
  | complete worker leasedId lockToken now =>
    simp only [OutboxSystem.step] at stepTo
    split at stepTo
    · cases stepTo
    cases stepTo
    apply remembers.of_rows
    · exact fun _ given => given
    intro token _ row found locked
    rcases get?_complete system.outbox with same | ⟨-, _, settledRow, -, -, changed, open_⟩
    · exact same.symm.trans found
    · rw [changed] at found
      cases found
      rw [open_] at locked
      cases locked
  | fail worker leasedId lockToken retryAt errorCode deadLetteredAt now =>
    simp only [OutboxSystem.step] at stepTo
    split at stepTo
    · cases stepTo
    cases stepTo
    apply remembers.of_rows
    · exact fun _ given => given
    intro token _ row found locked
    rcases get?_fail system.outbox with same | ⟨-, _, settledRow, -, -, changed, open_⟩
    · exact same.symm.trans found
    · rw [changed] at found
      cases found
      rw [open_] at locked
      cases locked

theorem Fenced.remembers_claimed (fenced : system.Fenced) {worker : Nat}
    {lockToken : String} {limit leaseMs : Option Int} {now : Instant}
    (stepTo : system.step (.claim worker lockToken limit leaseMs now) = some next)
    {record : BillingOutboxRecord} (taken : record ∈ (system.outbox.claimBillingOutbox now lockToken
      (claimParams limit leaseMs now)).1) : next.Remembers record := by
  simp only [OutboxSystem.step] at stepTo
  split at stepTo
  · cases stepTo
  cases stepTo
  have claimedAs := taken
  simp only [claimBillingOutbox] at claimedAs
  split at claimedAs
  case h_2 => simp at claimedAs
  obtain ⟨original, mem, rfl⟩ := mem_map.mp claimedAs
  refine ⟨lockToken, rfl, mem_cons_self, ?_⟩
  intro row found locked
  have stored := fenced.keyed (mem_claimedRows mem).1
  rcases fenced.claim_row worker lockToken limit leaseMs now original.outboxId with
    ⟨-, sameHistory⟩ | ⟨other, until_, otherStored, -, claimedRow, -⟩
  · have longer := fenced.length_claimHistory worker lockToken
      (claimParams limit leaseMs now) now original.outboxId
    dsimp only at longer
    rw [sameHistory] at longer
    have none_ : ((system.outbox.claimBillingOutbox now lockToken
        (claimParams limit leaseMs now)).1.countP
          fun record => record.outboxId = original.outboxId) = 0 := by omega
    rw [countP_eq_zero] at none_
    have nameless := none_ _ taken
    exact absurd (decide_eq_true rfl) nameless
  · have sameRow : other = original := Option.some.inj (otherStored.symm.trans stored)
    subst sameRow
    have foundRow : row = other.claimed lockToken until_ :=
      Option.some.inj (found.symm.trans claimedRow)
    rw [foundRow]
    rfl

/-- No row has more attempts than allowed, and a row that waits for a retry has
one left. -/
def AttemptsWithin (maxAttempts : Nat) (system : OutboxSystem) : Prop :=
  ∀ outboxId row, system.outbox.get? outboxId = some row → row.attempts ≤ maxAttempts ∧
      (row.isFinal = false → row.lockedUntil = none → row.attempts < maxAttempts)

section Attempts

variable {maxAttempts : Nat}

theorem AttemptsWithin.append (within : system.AttemptsWithin maxAttempts)
    (positive : 1 ≤ maxAttempts) {record : BillingOutboxRecord}
    (stepTo : system.step (.settle record) = some next) : next.AttemptsWithin maxAttempts := by
  obtain ⟨guard, same⟩ := Option.ite_none_right_eq_some.mp stepTo
  simp only [isNew, Bool.and_eq_true, decide_eq_true_eq] at guard
  cases same
  intro outboxId row found
  rw [get?_set] at found
  split at found
  · cases found
    exact ⟨by omega, fun _ _ => by omega⟩
  · exact within outboxId row found

variable {worker : Nat} {lockToken : String} {now : Instant}

theorem AttemptsWithin.claim (within : system.AttemptsWithin maxAttempts) (fenced : system.Fenced)
    {limit leaseMs : Option Int} (kept : ∀ taken, normalizeBillingOutboxLimit limit = some taken →
      ∀ record ∈ system.outbox.claimedRows taken now,
        maxAttempts ≤ record.attempts → record.lockedUntil = none)
    (stepTo : system.step (.claim worker lockToken limit leaseMs now) = some next) :
    next.AttemptsWithin maxAttempts := by
  cases (Option.ite_none_left_eq_some.mp stepTo).2
  intro outboxId row found
  rcases fenced.claim_row worker lockToken limit leaseMs now outboxId with
    ⟨same, -⟩ | ⟨original, until_, stored, ⟨taken, limitEq, mem⟩, claimedRow, -⟩
  · exact within outboxId row (same.symm.trans found)
  · have foundRow : row = original.claimed lockToken until_ :=
      Option.some.inj (found.symm.trans claimedRow)
    have left : original.attempts < maxAttempts := by
      by_contra used
      have unlocked := kept taken limitEq original mem (not_lt.mp used)
      have claimable := (mem_claimedRows mem).2
      simp only [isClaimable, Bool.and_eq_true, Option.isNone_iff_eq_none] at claimable
      have notFinal : original.isFinal = false := by
        simp [isFinal, claimable.1.1.1, claimable.1.1.2]
      exact used ((within outboxId original stored).2 notFinal unlocked)
    subst foundRow
    refine ⟨left, ?_⟩
    intro _ unlocked
    simp [BillingOutboxRecord.claimed] at unlocked

theorem AttemptsWithin.complete (within : system.AttemptsWithin maxAttempts) {leasedId : String}
    (stepTo : system.step (.complete worker leasedId lockToken now) = some next) :
    next.AttemptsWithin maxAttempts := by
  simp only [OutboxSystem.step] at stepTo
  split at stepTo
  · cases stepTo
  cases stepTo
  intro outboxId row found
  cases took : (system.outbox.completeBillingOutbox now leasedId lockToken
      (some (.instant now))).1 with
  | false =>
    rw [completeBillingOutbox_false took] at found
    exact within outboxId row found
  | true =>
    obtain ⟨record, completedAt, stored, -, -, result⟩ := completeBillingOutbox_true took
    rw [result, get?_set] at found
    split at found
    · cases found
      refine ⟨(within leasedId record stored).1, fun notFinal => ?_⟩
      simp [isFinal, completed] at notFinal
    · exact within outboxId row found

theorem AttemptsWithin.fail (within : system.AttemptsWithin maxAttempts) {leasedId : String}
    {retryAt : Option DateInput} {errorCode : String} {deadLetteredAt : Option DateInput}
    (lastIsDead : ∀ row, system.outbox.get? leasedId = some row →
      row.lockToken = some lockToken → maxAttempts ≤ row.attempts →
        ∃ at_, deadLetteredAt = some (.instant at_)) (stepTo : system.step
      (.fail worker leasedId lockToken retryAt errorCode deadLetteredAt now) = some next) :
    next.AttemptsWithin maxAttempts := by
  simp only [OutboxSystem.step] at stepTo
  split at stepTo
  · cases stepTo
  cases stepTo
  intro outboxId row found
  cases took : (system.outbox.failBillingOutbox now
      (failureParams leasedId lockToken retryAt errorCode deadLetteredAt now)).1 with
  | false =>
    rw [failBillingOutbox_false took] at found
    exact within outboxId row found
  | true =>
    obtain ⟨record, failedAt, retry, dead, stored, -, deadEq, leased, result⟩ :=
      failBillingOutbox_true took
    rw [result, get?_set] at found
    split at found
    · cases found
      refine ⟨(within leasedId record stored).1, fun notFinal _ => ?_⟩
      by_contra used
      simp only [isLeasedBy, Bool.and_eq_true, decide_eq_true_eq] at leased
      obtain ⟨at_, rfl⟩ := lastIsDead record stored leased.1.1.1 (not_lt.mp used)
      cases deadEq
      simp [isFinal, failed] at notFinal
    · exact within outboxId row found

end Attempts

end OutboxSystem

namespace OutboxWorkers

variable {options : BillingOutboxWorkerOptions} {workers next : OutboxWorkers}

/-- The claimed events of an id that were not yet handed to the publisher. -/
def waiting (outboxId : String) (run : OutboxRun) : Nat :=
  run.remaining.countP fun record => record.outboxId = outboxId

structure Bounded (options : BillingOutboxWorkerOptions) (workers : OutboxWorkers) :
    Prop where
  base : workers.base.Fenced
  published : ∀ outboxId,
    workers.publishCount outboxId + (workers.runs.map (waiting outboxId)).sum ≤
      (workers.base.history outboxId).length
  remembered : ∀ run ∈ workers.runs,
    ∀ record ∈ run.publishing.toList ++ run.remaining, workers.base.Remembers record
  attempts : workers.base.AttemptsWithin options.maxAttempts

theorem bounded_initial : initial.Bounded options where
  base := OutboxSystem.fenced_initial
  published := fun _ => Nat.le_refl 0
  remembered := by simp [initial]
  attempts := by
    intro outboxId row found
    simp [initial, OutboxSystem.initial] at found

variable {index : Nat} {now : Instant}

section Bounds

variable (bounded : workers.Bounded options)
include bounded

theorem Bounded.answer {base : OutboxSystem}
    {action : OutboxAction} (stepTo : workers.base.step action = some base)
    (sameLength : ∀ outboxId,
      (workers.base.history outboxId).length = (base.history outboxId).length)
    (attempts : base.AttemptsWithin options.maxAttempts) {remaining : List BillingOutboxRecord}
    {publishing : Option BillingOutboxRecord} {result result' : BillingOutboxRunResult}
    (found : workers.runs[index]? = some ⟨remaining, publishing, result⟩) :
    Bounded options { workers with
      base, runs := workers.runs.set index ⟨remaining, none, result'⟩ } where
  base := bounded.base.step stepTo
  published := by
    intro outboxId
    have replaced : ((workers.runs.set index ⟨remaining, none, result'⟩).map
        (waiting outboxId)).sum + waiting outboxId ⟨remaining, publishing, result⟩ =
        (workers.runs.map (waiting outboxId)).sum +
          waiting outboxId ⟨remaining, none, result'⟩ := sum_map_set found _
    have before := bounded.published outboxId
    rw [sameLength] at before
    simp only [waiting] at replaced before ⊢
    simp only [publishCount] at before ⊢
    omega
  remembered := by
    intro run mem record kept
    rcases mem_or_eq_of_mem_set mem with earlier | rfl
    · exact (bounded.remembered run earlier record kept).step bounded.base stepTo
    · apply OutboxSystem.Remembers.step bounded.base stepTo
      apply bounded.remembered _ (mem_of_getElem? found) record
      simp only [Option.toList_none, nil_append] at kept
      exact mem_append_right _ kept
  attempts := attempts

theorem Bounded.settle {record : BillingOutboxRecord}
    (stepTo : workers.step options (.settle record) = some next) : next.Bounded options := by
  simp only [step, Option.map_eq_some_iff] at stepTo
  obtain ⟨base, baseStep, rfl⟩ := stepTo
  have sameHistory : base.history = workers.base.history := by
    simp only [OutboxSystem.step] at baseStep
    split at baseStep
    · cases baseStep
      rfl
    · cases baseStep
  exact
    { base := bounded.base.step baseStep
      published := by
        intro outboxId
        rw [sameHistory]
        exact bounded.published outboxId
      remembered := fun run mem record kept =>
        (bounded.remembered run mem record kept).step bounded.base baseStep
      attempts := bounded.attempts.append options.maxAttempts_range.1 baseStep }

theorem Bounded.runOnce {lockToken : String}
    (kept : workers.LastAttemptKept options (.runOnce lockToken now))
    (stepTo : workers.step options (.runOnce lockToken now) = some next) :
    next.Bounded options := by
  simp only [step, Option.map_eq_some_iff] at stepTo
  obtain ⟨base, baseStep, rfl⟩ := stepTo
  have limitEq : normalizeBillingOutboxLimit (some (options.batchSize : Int)) =
      some options.batchSize := by
    have range := options.batchSize_range
    have inRange : (1 : Int) ≤ options.batchSize ∧ (options.batchSize : Int) ≤ 100 := by omega
    simp [normalizeBillingOutboxLimit, inRange]
  have history : base.history = OutboxSystem.claimHistory workers.base.history
      workers.runs.length (workers.base.outbox.claimBillingOutbox now lockToken
        (OutboxSystem.claimParams (some options.batchSize) (some options.leaseMs) now)).1 := by
    cases (Option.ite_none_left_eq_some.mp baseStep).2
    rfl
  exact
    { base := bounded.base.step baseStep
      published := by
        intro outboxId
        have longer := bounded.base.length_claimHistory workers.runs.length lockToken
          (OutboxSystem.claimParams (some options.batchSize) (some options.leaseMs) now)
          now outboxId
        have before := bounded.published outboxId
        rw [history, ← longer, map_append, sum_append]
        simp only [publishCount, waiting, map_cons, map_nil, sum_cons, sum_nil] at before ⊢
        omega
      remembered := by
        intro run mem record recordMember
        rcases mem_append.mp mem with earlier | new
        · exact (bounded.remembered run earlier record recordMember).step bounded.base baseStep
        · rw [mem_singleton.mp new] at recordMember
          exact bounded.base.remembers_claimed baseStep (by simpa using recordMember)
      attempts := by
        apply bounded.attempts.claim bounded.base _ baseStep
        intro taken takenEq record mem used
        rw [limitEq, Option.some.injEq] at takenEq
        subst takenEq
        exact kept record mem used }

theorem Bounded.publish
    (stepTo : workers.step options (.publish index) = some next) : next.Bounded options := by
  simp only [step] at stepTo
  split at stepTo
  case h_2 => cases stepTo
  next record remaining result found =>
  cases stepTo
  exact
    { bounded with
      published := by
        intro outboxId
        have replaced : ((workers.runs.set index ⟨remaining, some record, result⟩).map
            (waiting outboxId)).sum + waiting outboxId ⟨record :: remaining, none, result⟩ =
            (workers.runs.map (waiting outboxId)).sum +
              waiting outboxId ⟨remaining, some record, result⟩ := sum_map_set found _
        have before := bounded.published outboxId
        simp only [waiting, publishCount, countP_cons, count_append,
          count_singleton, beq_iff_eq, decide_eq_true_eq] at replaced before ⊢
        omega
      remembered := by
        intro run mem other kept
        rcases mem_or_eq_of_mem_set mem with earlier | rfl
        · exact bounded.remembered run earlier other kept
        · apply bounded.remembered _ (mem_of_getElem? found) other
          simpa using kept }

theorem Bounded.published_
    (stepTo : workers.step options (.published index now) = some next) : next.Bounded options := by
  simp only [step] at stepTo
  split at stepTo
  case h_2 => cases stepTo
  next remaining record result found =>
  simp only [Option.map_eq_some_iff] at stepTo
  obtain ⟨base, baseStep, rfl⟩ := stepTo
  apply bounded.answer baseStep _ (bounded.attempts.complete baseStep) found
  intro outboxId
  cases (Option.ite_none_left_eq_some.mp baseStep).2
  exact (OutboxSystem.length_settleHistory _ _ _ _ _).symm

theorem Bounded.threw
    (stepTo : workers.step options (.threw index now) = some next) : next.Bounded options := by
  simp only [step] at stepTo
  split at stepTo
  case h_2 => cases stepTo
  next remaining record result found =>
  simp only [Option.map_eq_some_iff] at stepTo
  obtain ⟨base, baseStep, rfl⟩ := stepTo
  have remembers := bounded.remembered _ (mem_of_getElem? found) record (by simp)
  obtain ⟨token, held, -, same⟩ := remembers
  have attempts : base.AttemptsWithin options.maxAttempts := by
    apply bounded.attempts.fail _ baseStep
    intro row stored locked used
    rw [held, Option.getD_some] at locked
    rw [same row stored locked] at used
    exact ⟨now, if_pos used⟩
  apply bounded.answer baseStep _ attempts found
  intro outboxId
  cases (Option.ite_none_left_eq_some.mp baseStep).2
  exact (OutboxSystem.length_settleHistory _ _ _ _ _).symm

theorem Bounded.stop
    (stepTo : workers.step options (.stop index) = some next) : next.Bounded options := by
  cases stepTo
  exact
    { bounded with
      published := by
        intro outboxId
        have before := bounded.published outboxId
        cases found : workers.runs[index]? with
        | none =>
          have beyond := getElem?_eq_none_iff.mp found
          rw [set_eq_of_length_le beyond]
          exact before
        | some run =>
          have replaced : ((workers.runs.set index ⟨[], none, ⟨0, 0, 0, 0, 0⟩⟩).map
              (waiting outboxId)).sum + waiting outboxId run =
              (workers.runs.map (waiting outboxId)).sum +
                waiting outboxId ⟨[], none, ⟨0, 0, 0, 0, 0⟩⟩ := sum_map_set found _
          simp only [waiting, publishCount, countP_nil] at replaced before ⊢
          omega
      remembered := by
        intro run mem record kept
        rcases mem_or_eq_of_mem_set mem with earlier | rfl
        · exact bounded.remembered run earlier record kept
        · simp at kept }

theorem Bounded.step {action : OutboxWorkerAction} (kept : workers.LastAttemptKept options action)
    (stepTo : workers.step options action = some next) : next.Bounded options := by
  cases action with
  | settle record => exact bounded.settle stepTo
  | runOnce lockToken now => exact bounded.runOnce kept stepTo
  | publish index => exact bounded.publish stepTo
  | published index now => exact bounded.published_ stepTo
  | threw index now => exact bounded.threw stepTo
  | stop index => exact bounded.stop stepTo

end Bounds

/-- In every run in which no `runOnce` claims an event over the lease of its
last attempt, no event is handed to the publisher more often than allowed. -/
theorem publishCount_le (run : GuardedRun (step options) (LastAttemptKept options) initial workers)
    (outboxId : String) : workers.publishCount outboxId ≤ options.maxAttempts := by
  have bounded : workers.Bounded options :=
    run.invariant (Bounded options) bounded_initial
      fun _ _ _ bounded kept stepTo => bounded.step kept stepTo
  have published := bounded.published outboxId
  cases found : workers.base.outbox.get? outboxId with
  | none =>
    rw [bounded.base.absent outboxId found, length_nil] at published
    omega
  | some row =>
    have within := (bounded.attempts outboxId row found).1
    rw [(bounded.base.rows outboxId row found).counted] at within
    omega

def oneAttempt : BillingOutboxWorkerOptions where
  batchSize := 1
  leaseMs := 1000
  maxAttempts := 1
  retryBaseMs := 100
  retryMaxMs := 100
  batchSize_range := by omega
  leaseMs_range := by omega
  maxAttempts_range := by omega
  retry_range := by omega

theorem publishCount_le_inTime : ∃ workers : OutboxWorkers, workers.publishCount "bout-0" ≤ 1 ∧
      workers.publishes = ["bout-0"] ∧
      (workers.base.outbox.get? "bout-0").bind publishedAt = some 500 := by
  obtain ⟨workers, run, publishes, published⟩ : ∃ workers,
      GuardedRun (step oneAttempt) (LastAttemptKept oneAttempt) initial workers ∧
      workers.publishes = ["bout-0"] ∧
      (workers.base.outbox.get? "bout-0").bind publishedAt = some 500 := by
    have start : GuardedRun (step oneAttempt) (LastAttemptKept oneAttempt) initial initial := .refl
    have settled := start.tail (.settle OutboxSystem.settledEvent) trivial rfl
    have claimed := settled.tail (.runOnce OutboxSystem.firstToken 0) (by
        intro record mem used
        have stored : record ∈ [OutboxSystem.settledEvent] := (mem_claimedRows mem).1
        rw [mem_singleton.mp stored]
        rfl)
      rfl
    have handed := claimed.tail (.publish 0) trivial rfl
    exact ⟨_, handed.tail (.published 0 500) trivial rfl, rfl, rfl⟩
  exact ⟨workers, publishCount_le run "bout-0", publishes, published⟩

/-- An event is published at most as often as the worker allows before it is
published or a dead letter, whatever the runs do. -/
def AttemptsBounded : Prop :=
  ∀ (options : BillingOutboxWorkerOptions) (workers : OutboxWorkers),
    GuardedRun (step options) (fun _ _ => True) initial workers →
      ∀ outboxId row, workers.base.outbox.get? outboxId = some row → row.isFinal = false →
        workers.publishCount outboxId ≤ options.maxAttempts

def publishedTwice : List OutboxWorkerAction :=
  [.settle OutboxSystem.settledEvent, .runOnce OutboxSystem.firstToken 0, .publish 0,
    .published 0 1500, .runOnce OutboxSystem.secondToken 1500, .publish 1]

theorem not_attemptsBounded : ¬ AttemptsBounded := by
  intro law
  obtain ⟨workers, run, row, found, notFinal, twice⟩ : ∃ workers,
      GuardedRun (step oneAttempt) (fun _ _ => True) initial workers ∧
      ∃ row, workers.base.outbox.get? "bout-0" = some row ∧ row.isFinal = false ∧
        workers.publishCount "bout-0" = 2 :=
    ⟨_, GuardedRun.of_runActions (fun _ _ => trivial)
      (rfl : runActions (step oneAttempt) initial publishedTwice = some _),
      _, rfl, rfl, rfl⟩
  have bound : workers.publishCount "bout-0" ≤ 1 :=
    law oneAttempt workers run "bout-0" row found notFinal
  omega

end OutboxWorkers

end LongHub
