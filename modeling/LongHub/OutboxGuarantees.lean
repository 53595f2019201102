import LongHub.OutboxFencing

/-!
# The outbox and its workers

What the workers rely on, and how a worker publishes what it has claimed.
-/

namespace LongHub

open BillingOutbox BillingOutboxRecord Option

/-! ## What the workers of the outbox can rely on -/

namespace OutboxSystem

variable {system next later : OutboxSystem}

variable {outboxId lockToken : String} {now : Instant} {record : BillingOutboxRecord}

theorem get?_complete (outbox : BillingOutbox) {other : String} :
    (outbox.completeBillingOutbox now outboxId lockToken (some (.instant now))).2.get? other =
        outbox.get? other ∨
      other = outboxId ∧ ∃ record settledRow, outbox.get? other = some record ∧
        record.isLeasedBy lockToken now = true ∧
        (outbox.completeBillingOutbox now outboxId lockToken (some (.instant now))).2.get?
          other = some settledRow ∧ settledRow.lockToken = none := by
  cases took : (outbox.completeBillingOutbox now outboxId lockToken (some (.instant now))).1 with
  | false => rw [completeBillingOutbox_false took]; exact Or.inl rfl
  | true =>
    obtain ⟨record, completedAt, found, parsed, leased, result⟩ := completeBillingOutbox_true took
    cases parsed
    rw [result, InsertionMap.get?_set]
    by_cases same : other = outboxId
    · subst same
      exact Or.inr ⟨rfl, record, _, found, leased, if_pos rfl, rfl⟩
    · exact Or.inl (if_neg same)

theorem get?_fail (outbox : BillingOutbox) {outboxId other lockToken : String}
    {retryAt : Option DateInput} {errorCode : String} {deadLetteredAt : Option DateInput}
    {now : Instant} :
    let params := failureParams outboxId lockToken retryAt errorCode deadLetteredAt now
    (outbox.failBillingOutbox now params).2.get? other = outbox.get? other ∨
      other = outboxId ∧ ∃ record settledRow, outbox.get? other = some record ∧
        record.isLeasedBy lockToken now = true ∧
        (outbox.failBillingOutbox now params).2.get? other = some settledRow ∧
        settledRow.lockToken = none := by
  intro params
  cases took : (outbox.failBillingOutbox now params).1 with
  | false => rw [failBillingOutbox_false took]; exact Or.inl rfl
  | true =>
    obtain ⟨record, failedAt, retry, dead, found, parsed, -, leased, result⟩ :=
      failBillingOutbox_true took
    cases parsed
    rw [result, InsertionMap.get?_set]
    by_cases same : other = outboxId
    · subst same
      exact Or.inr ⟨rfl, record, _, found, leased, if_pos rfl, rfl⟩
    · exact Or.inl (if_neg same)

theorem not_final_of_leasedBy (leased : record.isLeasedBy lockToken now = true) :
    record.isFinal = false := by
  simp only [isLeasedBy, Bool.and_eq_true, isNone_iff_eq_none] at leased
  simp [isFinal, leased.1.1.2, leased.1.2]

theorem Fenced.row_step (fenced : system.Fenced) {action : OutboxAction}
    (stepTo : system.step action = some next) (found : system.outbox.get? outboxId = some record) :
    ∃ after, next.outbox.get? outboxId = some after ∧ (record.isFinal = true → after = record) := by
  cases action with
  | settle new =>
    obtain ⟨guard, same⟩ := Option.ite_none_right_eq_some.mp stepTo
    simp only [Bool.and_eq_true, isNone_iff_eq_none] at guard
    cases same
    refine ⟨record, ?_, fun _ => rfl⟩
    rw [InsertionMap.get?_set, if_neg]
    · exact found
    · rintro rfl
      rw [guard.2] at found
      cases found
  | claim worker lockToken limit leaseMs now =>
    cases (Option.ite_none_left_eq_some.mp stepTo).2
    rcases fenced.claim_row worker lockToken limit leaseMs now outboxId with
      ⟨same, -⟩ | ⟨original, until_, stored, ⟨_, -, taken⟩, claimedRow, -⟩
    · exact ⟨record, same.trans found, fun _ => rfl⟩
    · rw [found, some.injEq] at stored
      subst stored
      refine ⟨_, claimedRow, ?_⟩
      intro final
      have claimable := (mem_claimedRows taken).2
      simp only [isClaimable, Bool.and_eq_true, isNone_iff_eq_none] at claimable
      simp [isFinal, claimable.1.1.1, claimable.1.1.2] at final
  | complete worker leasedId lockToken now =>
    cases (Option.ite_none_left_eq_some.mp stepTo).2
    rcases get?_complete system.outbox with
      same | ⟨-, original, settledRow, stored, leased, changed, -⟩
    · exact ⟨record, same.trans found, fun _ => rfl⟩
    · rw [found, some.injEq] at stored
      subst stored
      exact ⟨settledRow, changed, fun final => by
        simp [not_final_of_leasedBy leased] at final⟩
  | fail worker leasedId lockToken retryAt errorCode deadLetteredAt now =>
    cases (Option.ite_none_left_eq_some.mp stepTo).2
    rcases get?_fail system.outbox with
      same | ⟨-, original, settledRow, stored, leased, changed, -⟩
    · exact ⟨record, same.trans found, fun _ => rfl⟩
    · rw [found, some.injEq] at stored
      subst stored
      exact ⟨settledRow, changed, fun final => by
        simp [not_final_of_leasedBy leased] at final⟩

theorem Run.row_later (run : Run system) (onward : RunFrom system later)
    (found : system.outbox.get? outboxId = some record) :
    ∃ after, later.outbox.get? outboxId = some after ∧
      (record.isFinal = true → after = record) := by
  induction onward with
  | refl => exact ⟨record, found, fun _ => rfl⟩
  | tail before action _ stepTo ih =>
    obtain ⟨middle, middleFound, kept⟩ := ih
    obtain ⟨after, afterFound, keptAfter⟩ :=
      (Run.fenced (run.trans before)).row_step stepTo middleFound
    refine ⟨after, afterFound, fun final => ?_⟩
    have same := kept final
    rw [same] at keptAfter
    exact keptAfter final

theorem Fenced.holder (fenced : system.Fenced) {worker : Nat}
    (presents : system.presents worker lockToken = true)
    (found : system.outbox.get? outboxId = some record)
    (leased : record.isLeasedBy lockToken now = true) :
    ∃ claim ∈ system.history outboxId, claim.token = lockToken ∧ claim.holder = worker ∧
      claim.isLive now = true := by
  have row := fenced.rows outboxId record found
  obtain ⟨until_, held, running⟩ := OutboxRowFenced.lease_of_leasedBy leased
  obtain ⟨claim, mem, sameToken, sameEnd, open_⟩ := row.fenced.current _ _ held
  refine ⟨claim, mem, sameToken, ?_, ?_⟩
  · have given := List.all_eq_true.mp presents _ (fenced.given outboxId claim mem)
    simpa [sameToken] using given
  · simp [LeaseClaim.isLive, open_, sameEnd, running]

structure Guarantees (system : OutboxSystem) : Prop where
  /-- At most one claim of a row is unexpired and not settled. -/
  oneLease : ∀ outboxId,
    ((system.history outboxId).filter (LeaseClaim.isLive system.clock)).length ≤ 1
  /-- Only the worker with the current, unexpired token completes a row. -/
  completedByHolder : ∀ worker outboxId lockToken now, system.clock ≤ now →
    system.presents worker lockToken = true →
    (system.outbox.completeBillingOutbox now outboxId lockToken (some (.instant now))).1 = true →
    ∃ claim ∈ system.history outboxId, claim.token = lockToken ∧ claim.holder = worker ∧
      claim.isLive now = true
  /-- Only the worker with the current, unexpired token fails a row. -/
  failedByHolder : ∀ worker outboxId lockToken retryAt errorCode deadLetteredAt now,
    system.clock ≤ now → system.presents worker lockToken = true →
    (system.outbox.failBillingOutbox now
      (failureParams outboxId lockToken retryAt errorCode deadLetteredAt now)).1 = true →
    ∃ claim ∈ system.history outboxId, claim.token = lockToken ∧ claim.holder = worker ∧
      claim.isLive now = true
  /-- A call without effect changes nothing. -/
  refused : ∀ outboxId lockToken now publishedAt params,
    ((system.outbox.completeBillingOutbox now outboxId lockToken publishedAt).1 = false →
      (system.outbox.completeBillingOutbox now outboxId lockToken publishedAt).2 = system.outbox) ∧
    ((system.outbox.failBillingOutbox now params).1 = false →
      (system.outbox.failBillingOutbox now params).2 = system.outbox)
  /-- No row is both published and dead-lettered. -/
  exclusive : ∀ outboxId record, system.outbox.get? outboxId = some record →
    record.publishedAt = none ∨ record.deadLetteredAt = none
  /-- No row is lost, and a published or dead-lettered row stays as it is. -/
  final : ∀ later, RunFrom system later → ∀ outboxId record,
    system.outbox.get? outboxId = some record →
    ∃ after, later.outbox.get? outboxId = some after ∧ (record.isFinal = true → after = record)
  /-- A row counts its claims. -/
  attempts : ∀ outboxId record, system.outbox.get? outboxId = some record →
    record.attempts = (system.history outboxId).length
  /-- A row that is not final can be claimed when its retry time has come and
  its lease has run out: a claim then takes it, or as many rows before it as
  the claim may take. -/
  claimable : ∀ outboxId record now, system.outbox.get? outboxId = some record →
    record.isFinal = false → record.availableAt ≤ now →
    (∀ lockedUntil, record.lockedUntil = some lockedUntil → lockedUntil ≤ now) →
    record.isClaimable now = true ∧ ∀ limit, record ∈ system.outbox.claimedRows limit now ∨
      (system.outbox.claimedRows limit now).length = limit ∧
        ∀ earlier ∈ system.outbox.claimedRows limit now, earlier.claimOrder ≤ record.claimOrder

theorem isClaimable_of_due (notFinal : record.isFinal = false)
    (available : record.availableAt ≤ now)
    (elapsed : ∀ lockedUntil, record.lockedUntil = some lockedUntil → lockedUntil ≤ now) :
    record.isClaimable now = true := by
  simp only [isFinal, Bool.or_eq_false_iff, isSome_eq_false_iff] at notFinal
  have unlocked : (record.lockedUntil.all fun lockedUntil => lockedUntil ≤ now) = true := by
    cases locked : record.lockedUntil with
    | none => rfl
    | some lockedUntil => simpa using elapsed lockedUntil locked
  simp [isClaimable, notFinal, available, unlocked]

/-- In every interleaving of the workers' calls the outbox keeps its guarantees. -/
theorem outboxGuarantees (run : Run system) : system.Guarantees := by
  have fenced := run.fenced
  exact
    { oneLease := by
        intro outboxId
        cases found : system.outbox.get? outboxId with
        | none => simp [fenced.absent outboxId found]
        | some record => exact (fenced.rows outboxId record found).fenced.live_le_one
      completedByHolder := by
        intro worker outboxId lockToken now _ presents took
        obtain ⟨record, completedAt, found, parsed, leased, -⟩ := completeBillingOutbox_true took
        cases parsed
        exact fenced.holder presents found leased
      failedByHolder := by
        intro worker outboxId lockToken retryAt errorCode deadLetteredAt now _ presents took
        obtain ⟨record, failedAt, retry, dead, found, parsed, -, leased, -⟩ :=
          failBillingOutbox_true took
        cases parsed
        exact fenced.holder presents found leased
      refused := fun _ _ _ _ _ => ⟨completeBillingOutbox_false, failBillingOutbox_false⟩
      exclusive := fun outboxId record found =>
        (fenced.rows outboxId record found).exclusive
      final := fun later onward outboxId record found => run.row_later onward found
      attempts := fun outboxId record found => (fenced.rows outboxId record found).counted
      claimable := by
        intro outboxId record now found notFinal available elapsed
        have due := isClaimable_of_due notFinal available elapsed
        exact ⟨due, claimedRows_of_claimable (InsertionMap.mem_values_of_get? found) due⟩ }

def settledEvent : BillingOutboxRecord where
  outboxId := "bout-0"
  eventType := .paymentSettled
  aggregateId := "ord-0"
  settlementId := "bst-0"
  payload := ⟨"ord-0", "usr-0", none, .recharge, some .mock, 100, none, none, none⟩
  attempts := 0
  availableAt := 0
  lockedUntil := none
  lockToken := none
  publishedAt := none
  deadLetteredAt := none
  lastError := none
  createdAt := 0

def firstToken : String := "bol-00000000-0000-0000-0000-00000000000a"

def secondToken : String := "bol-00000000-0000-0000-0000-00000000000b"

def overrunThenPublished : List OutboxAction :=
  [.settle settledEvent, .claim 1 firstToken none (some 1000) 0,
    .claim 2 secondToken none (some 1000) 1000, .complete 1 "bout-0" firstToken 1500,
    .complete 2 "bout-0" secondToken 1500]

theorem outboxGuarantees_overrunThenPublished : ∃ system : OutboxSystem, system.Guarantees ∧
      (system.outbox.get? "bout-0").map attempts = some 2 ∧
      (system.outbox.get? "bout-0").bind publishedAt = some 1500 := by
  obtain ⟨system, run, attempts, published⟩ : ∃ system, Run system ∧
      (system.outbox.get? "bout-0").map attempts = some 2 ∧
      (system.outbox.get? "bout-0").bind publishedAt = some 1500 :=
    ⟨_, GuardedRun.of_runActions (fun _ _ => trivial)
      (rfl : runActions OutboxSystem.step initial overrunThenPublished = some _), rfl, rfl⟩
  exact ⟨system, outboxGuarantees run, attempts, published⟩

end OutboxSystem

/-! ## The worker that publishes billing events -/

structure BillingOutboxWorkerOptions where
  batchSize : Nat
  leaseMs : Nat
  maxAttempts : Nat
  retryBaseMs : Nat
  retryMaxMs : Nat
  batchSize_range : 1 ≤ batchSize ∧ batchSize ≤ 100
  leaseMs_range : 1000 ≤ leaseMs ∧ leaseMs ≤ 300000
  maxAttempts_range : 1 ≤ maxAttempts ∧ maxAttempts ≤ 100
  retry_range : 100 ≤ retryBaseMs ∧ retryBaseMs ≤ retryMaxMs ∧ retryMaxMs ≤ 86400000

def retryDelay (attempts baseMs maximumMs : Nat) : Nat :=
  min maximumMs (baseMs * 2 ^ min 30 (attempts - 1))

structure BillingOutboxRunResult where
  claimed : Nat
  published : Nat
  retried : Nat
  deadLettered : Nat
  leaseLost : Nat

/-- A `runOnce` call: the claimed events it has not handed to the publisher,
and the one that is being published. -/
structure OutboxRun where
  remaining : List BillingOutboxRecord
  publishing : Option BillingOutboxRecord
  result : BillingOutboxRunResult

/-- The outbox, the batches of its workers and what they published. -/
structure OutboxWorkers where
  base : OutboxSystem
  runs : List OutboxRun
  publishes : List String

inductive OutboxWorkerAction where
  | settle (record : BillingOutboxRecord)
  | runOnce (lockToken : String) (now : Instant)
  | publish (index : Nat)
  | published (index : Nat) (now : Instant)
  | threw (index : Nat) (now : Instant)
  | stop (index : Nat)

namespace OutboxWorkers

def initial : OutboxWorkers := ⟨.initial, [], []⟩

variable (options : BillingOutboxWorkerOptions)

def failureOf (index : Nat) (record : BillingOutboxRecord) (failedAt : Instant) : OutboxAction :=
  .fail index record.outboxId (record.lockToken.getD "") (some (.instant
      (failedAt + retryDelay record.attempts options.retryBaseMs options.retryMaxMs)))
    "PUBLISH_FAILED"
    (if options.maxAttempts ≤ record.attempts then some (.instant failedAt) else none)
    failedAt

/-- Whether the lease of a row is still that of a call, so that its answer
takes effect. -/
def holdsLease (outbox : BillingOutbox) (record : BillingOutboxRecord) (now : Instant) : Bool :=
  (outbox.get? record.outboxId).any fun row =>
    row.isLeasedBy (record.lockToken.getD "") now

def countPublished (took : Bool) (result : BillingOutboxRunResult) : BillingOutboxRunResult :=
  if took then { result with published := result.published + 1 }
  else { result with leaseLost := result.leaseLost + 1 }

def countFailed (took deadLettered : Bool) (result : BillingOutboxRunResult) :
    BillingOutboxRunResult :=
  if !took then { result with leaseLost := result.leaseLost + 1 }
  else if deadLettered then { result with deadLettered := result.deadLettered + 1 }
  else { result with retried := result.retried + 1 }

variable (workers : OutboxWorkers)

@[grind =]
def step : OutboxWorkerAction → Option OutboxWorkers
  | .settle record =>
    (workers.base.step (.settle record)).map fun base => { workers with base }
  | .runOnce lockToken now =>
    (workers.base.step (.claim workers.runs.length lockToken (some options.batchSize)
      (some options.leaseMs) now)).map fun base =>
        let records := (workers.base.outbox.claimBillingOutbox now lockToken
          (OutboxSystem.claimParams (some options.batchSize) (some options.leaseMs) now)).1
        { workers with
          base, runs := workers.runs ++ [⟨records, none, ⟨records.length, 0, 0, 0, 0⟩⟩] }
  | .publish index =>
    match workers.runs[index]? with
    | some ⟨record :: remaining, none, result⟩ => some { workers with
        runs := workers.runs.set index ⟨remaining, some record, result⟩
        publishes := workers.publishes ++ [record.outboxId] }
    | _ => none
  | .published index now =>
    match workers.runs[index]? with
    | some ⟨remaining, some record, result⟩ =>
      (workers.base.step (.complete index record.outboxId (record.lockToken.getD "")
        now)).map fun base =>
          let took := holdsLease workers.base.outbox record now
          { workers with
            base
            runs := workers.runs.set index
              ⟨remaining, none, countPublished took result⟩ }
    | _ => none
  | .threw index now =>
    match workers.runs[index]? with
    | some ⟨remaining, some record, result⟩ =>
      (workers.base.step (failureOf options index record now)).map fun base =>
        let took := holdsLease workers.base.outbox record now
        let deadLettered := decide (options.maxAttempts ≤ record.attempts)
        { workers with
          base
          runs := workers.runs.set index
            ⟨remaining, none, countFailed took deadLettered result⟩ }
    | _ => none
  | .stop index => some { workers with
      runs := workers.runs.set index ⟨[], none, ⟨0, 0, 0, 0, 0⟩⟩ }

def publishCount (outboxId : String) : Nat :=
  workers.publishes.count outboxId

def LastAttemptKept : OutboxWorkerAction → Prop
  | .runOnce _ now =>
    ∀ record ∈ workers.base.outbox.claimedRows options.batchSize now,
      options.maxAttempts ≤ record.attempts → record.lockedUntil = none
  | _ => True

end OutboxWorkers

end LongHub
