import LongHub.CloudSkillExecution
import Mathlib.Data.Prod.Lex
import Mathlib.Data.String.Basic

/-!
# Billing events

The records of billing events and the outbox of the in-memory store.
-/

namespace LongHub

open List

/-! ## The records of the outbox -/

inductive OrderType where
  | plan
  | cloudSkillPlan
  | recharge
  deriving DecidableEq

inductive PayMethod where
  | balance
  | mock
  | provider
  | other (name : String)
  deriving DecidableEq

inductive BillingEventType where
  | paymentSettled
  | refundSettled
  deriving DecidableEq

/-- What an event tells about its order; the stores fill different parts. -/
structure BillingOutboxPayload where
  orderId : String
  userId : String
  tenantId : Option String := none
  orderType : OrderType
  method : Option PayMethod := none
  amountFen : Int
  actor : Option String := none
  providerReference : Option String := none
  paymentReference : Option String := none
  deriving DecidableEq

structure BillingOutboxRecord where
  outboxId : String
  eventType : BillingEventType
  aggregateId : String
  settlementId : String
  payload : BillingOutboxPayload
  attempts : Nat
  availableAt : Instant
  lockedUntil : Option Instant
  lockToken : Option String
  publishedAt : Option Instant
  deadLetteredAt : Option Instant
  lastError : Option String
  createdAt : Instant
  deriving DecidableEq

/-! ## The billing outbox of the in-memory store -/

abbrev BillingOutbox := InsertionMap String BillingOutboxRecord

structure BillingOutboxClaimParams where
  limit : Option Int
  leaseMs : Option Int
  now : Option DateInput

structure BillingOutboxFailureParams where
  outboxId : String
  lockToken : String
  failedAt : Option DateInput
  retryAt : Option DateInput
  errorCode : String
  deadLetteredAt : Option DateInput

/-- A limit between one and a hundred, twenty-five by default. -/
def normalizeBillingOutboxLimit : Option Int → Option Nat
  | none => some 25
  | some value => if 1 ≤ value && value ≤ 100 then some value.toNat else none

/-- A lease between one second and five minutes, thirty seconds by default. -/
def normalizeBillingOutboxLease : Option Int → Option Int
  | none => some 30000
  | some value => if 1000 ≤ value && value ≤ 300000 then some value else none

def parseBillingOutboxTime (clock : Instant) : Option DateInput → Option Instant
  | none => some clock
  | some (.instant value) => some value
  | some .invalid => none

/-- The pattern `bol-[0-9a-f-]{36}`. -/
def validBillingOutboxLockToken (value : String) : Bool :=
  let text := value.toList
  text.take 4 = "bol-".toList && text.length = 40 && (text.drop 4).all fun char =>
      char.isDigit || ('a' ≤ char && char ≤ 'f') || char = '-'

/-- The pattern `[A-Z][A-Z0-9_]{0,63}`. -/
def validBillingOutboxErrorCode (value : String) : Bool :=
  match value.toList with
  | [] => false
  | first :: rest =>
    first.isUpper && rest.all (fun char => char.isUpper || char.isDigit || char = '_') &&
      rest.length ≤ 63

namespace BillingOutboxRecord

/-- Whether an event has come to its end. -/
def isFinal (record : BillingOutboxRecord) : Bool :=
  record.publishedAt.isSome || record.deadLetteredAt.isSome

def isClaimable (now : Instant) (record : BillingOutboxRecord) : Bool :=
  record.publishedAt.isNone && record.deadLetteredAt.isNone && record.availableAt ≤ now &&
    record.lockedUntil.all fun lockedUntil => lockedUntil ≤ now

def claimOrder (record : BillingOutboxRecord) : Instant ×ₗ Instant ×ₗ String :=
  toLex (record.availableAt, toLex (record.createdAt, record.outboxId))

def claimed (lockToken : String) (lockedUntil : Instant) (record : BillingOutboxRecord) :
    BillingOutboxRecord :=
  { record with
    attempts := record.attempts + 1
    lockToken := some lockToken
    lockedUntil := some lockedUntil
    lastError := none }

def isLeasedBy (lockToken : String) (now : Instant) (record : BillingOutboxRecord) : Bool :=
  record.lockToken = some lockToken && record.publishedAt.isNone &&
    record.deadLetteredAt.isNone && record.lockedUntil.any fun lockedUntil => now < lockedUntil

def completed (completedAt : Instant) (record : BillingOutboxRecord) : BillingOutboxRecord :=
  { record with
    publishedAt := some completedAt, lockToken := none, lockedUntil := none
    lastError := none }

def failed (retryAt : Instant) (errorCode : String) (deadLetteredAt : Option Instant)
    (record : BillingOutboxRecord) : BillingOutboxRecord :=
  { record with
    availableAt := retryAt, lockToken := none, lockedUntil := none
    lastError := some errorCode
    deadLetteredAt := deadLetteredAt <|> record.deadLetteredAt }

end BillingOutboxRecord

namespace BillingOutbox

def claimedRows (outbox : BillingOutbox) (limit : Nat) (now : Instant) : List BillingOutboxRecord :=
  ((outbox.values.filter (BillingOutboxRecord.isClaimable now)).insertionSort
    fun left right => left.claimOrder ≤ right.claimOrder).take limit

def claimBillingOutbox (outbox : BillingOutbox) (clock : Instant) (lockToken : String)
    (params : BillingOutboxClaimParams) : List BillingOutboxRecord × BillingOutbox :=
  match normalizeBillingOutboxLimit params.limit, normalizeBillingOutboxLease params.leaseMs,
      parseBillingOutboxTime clock params.now with
  | some limit, some leaseMs, some now =>
    let rows := outbox.claimedRows limit now
    let lease := BillingOutboxRecord.claimed lockToken (now + leaseMs)
    (rows.map lease, outbox.mapValues fun _ record =>
      if record ∈ rows then lease record else record)
  | _, _, _ => ([], outbox)

def completeBillingOutbox (outbox : BillingOutbox) (clock : Instant) (outboxId : String)
    (lockToken : String) (publishedAt : Option DateInput) : Bool × BillingOutbox :=
  match outbox.get? outboxId, parseBillingOutboxTime clock publishedAt with
  | some record, some completedAt =>
    if validBillingOutboxLockToken lockToken && record.isLeasedBy lockToken completedAt then
      (true, outbox.set outboxId (record.completed completedAt))
    else (false, outbox)
  | _, _ => (false, outbox)

def parseDeadLetteredAt (clock : Instant) : Option DateInput → Option (Option Instant)
  | none => some none
  | some date => (parseBillingOutboxTime clock (some date)).map some

def failBillingOutbox (outbox : BillingOutbox) (clock : Instant)
    (params : BillingOutboxFailureParams) : Bool × BillingOutbox :=
  match outbox.get? params.outboxId, parseBillingOutboxTime clock params.failedAt,
      parseBillingOutboxTime clock params.retryAt,
      parseDeadLetteredAt clock params.deadLetteredAt with
  | some record, some failedAt, some retryAt, some deadLetteredAt =>
    if validBillingOutboxLockToken params.lockToken &&
        validBillingOutboxErrorCode params.errorCode &&
        record.isLeasedBy params.lockToken failedAt then
      (true, outbox.set params.outboxId (record.failed retryAt params.errorCode deadLetteredAt))
    else (false, outbox)
  | _, _, _, _ => (false, outbox)

variable {outbox : BillingOutbox}

variable {now clock : Instant} {record : BillingOutboxRecord} {outboxId lockToken : String}
  {publishedAt : Option DateInput} {params : BillingOutboxFailureParams}

theorem mem_claimedRows {limit : Nat} (mem : record ∈ outbox.claimedRows limit now) :
    record ∈ outbox.values ∧ record.isClaimable now = true := by
  have sorted := mem_of_mem_take mem
  rw [mem_insertionSort, mem_filter] at sorted
  exact sorted

theorem claimedRows_of_claimable (stored : record ∈ outbox.values)
    (claimable : record.isClaimable now = true) (limit : Nat) :
    record ∈ outbox.claimedRows limit now ∨ (outbox.claimedRows limit now).length = limit ∧
        ∀ earlier ∈ outbox.claimedRows limit now, earlier.claimOrder ≤ record.claimOrder := by
  have due : record ∈ (outbox.values.filter (BillingOutboxRecord.isClaimable now)).insertionSort
      fun left right => left.claimOrder ≤ right.claimOrder := by
    rw [mem_insertionSort, mem_filter]
    exact ⟨stored, claimable⟩
  have sorted := pairwise_insertionSort
    (fun left right : BillingOutboxRecord => left.claimOrder ≤ right.claimOrder)
    (outbox.values.filter (BillingOutboxRecord.isClaimable now))
  rw [claimedRows]
  generalize (outbox.values.filter (BillingOutboxRecord.isClaimable now)).insertionSort
    (fun left right => left.claimOrder ≤ right.claimOrder) = rows at due sorted ⊢
  rw [← take_append_drop limit rows] at due sorted
  rcases mem_append.mp due with taken | left
  · exact Or.inl taken
  · right
    have remaining : 0 < (rows.drop limit).length := length_pos_of_mem left
    rw [length_drop] at remaining
    constructor
    · rw [length_take]
      omega
    · intro earlier taken
      exact (pairwise_append.mp sorted).2.2 earlier taken record left

theorem completeBillingOutbox_true
    (completed : (outbox.completeBillingOutbox clock outboxId lockToken publishedAt).1 = true) :
    ∃ record completedAt, outbox.get? outboxId = some record ∧
      parseBillingOutboxTime clock publishedAt = some completedAt ∧
      record.isLeasedBy lockToken completedAt = true ∧
      (outbox.completeBillingOutbox clock outboxId lockToken publishedAt).2 =
        outbox.set outboxId (record.completed completedAt) := by
  simp only [completeBillingOutbox] at completed ⊢
  split
  · next record completedAt found parsed =>
    rw [found, parsed] at completed
    split
    · next leased =>
      rw [Bool.and_eq_true] at leased
      exact ⟨record, completedAt, found, parsed, leased.2, rfl⟩
    · next refused => simp [refused] at completed
  · next neither =>
    split at completed
    · next record completedAt found parsed => exact absurd parsed (neither _ _ found)
    · cases completed

theorem completeBillingOutbox_false
    (refused : (outbox.completeBillingOutbox clock outboxId lockToken publishedAt).1 = false) :
    (outbox.completeBillingOutbox clock outboxId lockToken publishedAt).2 = outbox := by
  simp only [completeBillingOutbox] at refused ⊢
  split
  · next found parsed =>
    rw [found, parsed] at refused
    split
    · next leased => simp [leased] at refused
    · rfl
  · rfl

/-- What a failure that takes effect has found. -/
theorem failBillingOutbox_true (failed : (outbox.failBillingOutbox clock params).1 = true) :
    ∃ record failedAt retryAt deadLetteredAt, outbox.get? params.outboxId = some record ∧
      parseBillingOutboxTime clock params.failedAt = some failedAt ∧
      parseDeadLetteredAt clock params.deadLetteredAt = some deadLetteredAt ∧
      record.isLeasedBy params.lockToken failedAt = true ∧
      (outbox.failBillingOutbox clock params).2 = outbox.set params.outboxId
          (record.failed retryAt params.errorCode deadLetteredAt) := by
  simp only [failBillingOutbox] at failed ⊢
  split
  · next record failedAt retryAt deadLetteredAt found failedEq retryEq deadEq =>
    rw [found, failedEq, retryEq, deadEq] at failed
    split
    · next leased =>
      rw [Bool.and_eq_true] at leased
      exact ⟨record, failedAt, retryAt, deadLetteredAt, found, failedEq, deadEq, leased.2, rfl⟩
    · next refused => simp [refused] at failed
  · next neither =>
    split at failed
    · next record failedAt retryAt deadLetteredAt found failedEq retryEq deadEq =>
      exact absurd deadEq (neither _ _ _ _ found failedEq retryEq)
    · cases failed

theorem failBillingOutbox_false (refused : (outbox.failBillingOutbox clock params).1 = false) :
    (outbox.failBillingOutbox clock params).2 = outbox := by
  simp only [failBillingOutbox] at refused ⊢
  split
  · next found failedEq retryEq deadEq =>
    rw [found, failedEq, retryEq, deadEq] at refused
    split
    · next leased => simp [leased] at refused
    · rfl
  · rfl

end BillingOutbox

end LongHub
