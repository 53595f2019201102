import LongHub.CloudTaskStore
import Mathlib.Algebra.GroupWithZero.Nat
import Mathlib.Data.List.Sort

/-!
# Cloud Skill plans, subscriptions and entitlements

The tables of the in-memory store that decide who may use a Cloud Skill.
-/

namespace LongHub

def generatedId (kind : String) (number : Nat) : String := kind ++ number.repr

theorem generatedId_injective (kind : String) : Function.Injective (generatedId kind) := by
  intro first second equal
  have listEq := congrArg String.toList equal
  simp only [generatedId, String.toList_append, List.append_cancel_left_eq,
    Nat.toList_repr] at listEq
  have digits := congrArg (fun digits => Nat.ofDigitChars 10 digits 0) listEq
  simpa only [Nat.ofDigitChars_ten_toDigits] using digits

def utf16Length (text : String) : Nat :=
  (text.toList.map fun char => if char.val < 0x10000 then 1 else 2).sum

def isBoundedText (limit : Nat) (text : String) : Bool :=
  text ≠ "" && utf16Length text ≤ limit

inductive CloudSkillPlanStatus where
  | listed
  | unlisted
  deriving DecidableEq

inductive CloudSkillSubscriptionStatus where
  | active
  | cancelled
  | expired
  | refunded
  | suspended
  deriving DecidableEq

inductive CloudSkillEntitlementStatus where
  | active
  | suspended
  | revoked
  deriving DecidableEq

inductive SubscriptionPeriod where
  | monthly
  | yearly
  deriving DecidableEq

structure CloudSkillPlanRecord where
  planId : String
  name : String
  description : String
  skillIds : List String
  priceMonthlyFen : Int
  priceYearlyFen : Int
  includedCalls : Int
  requestsPerMinute : Int
  maxConcurrency : Int
  status : CloudSkillPlanStatus
  createdAt : Instant
  deriving DecidableEq

structure CloudSkillSubscriptionRecord where
  subscriptionId : String
  userId : String
  tenantId : String
  planId : String
  status : CloudSkillSubscriptionStatus
  period : SubscriptionPeriod
  startsAt : Instant
  expiresAt : Instant
  cancelledAt : Option Instant
  refundedAt : Option Instant
  sourceOrderId : String
  createdAt : Instant
  deriving DecidableEq

def CloudSkillSubscriptionRecord.withStatus (subscription : CloudSkillSubscriptionRecord)
    (status : CloudSkillSubscriptionStatus) (changedAt : Instant) : CloudSkillSubscriptionRecord :=
  { subscription with
    status
    cancelledAt := if status = .cancelled then some changedAt else subscription.cancelledAt
    refundedAt := if status = .refunded then some changedAt else subscription.refundedAt }

structure CloudSkillEntitlementRecord where
  entitlementId : String
  subscriptionId : String
  tenantId : String
  userId : String
  skillId : String
  planId : String
  status : CloudSkillEntitlementStatus
  expiresAt : Instant
  createdAt : Instant
  deriving DecidableEq

/-- An admission lease; the row stays after its release. -/
structure CloudSkillExecutionReservation where
  reservationId : String
  taskId : String
  userId : String
  tenantId : String
  deviceId : String
  agentId : String
  skillId : String
  planId : String
  subscriptionId : String
  inputDigest : Option String
  periodStart : Instant
  reservedAt : Instant
  leaseExpiresAt : Instant
  releasedAt : Option Instant
  deriving DecidableEq

structure CloudSkillAccessQuery where
  userId : String
  tenantId : String
  skillId : String
  allowedPlanIds : Option (List String)
  now : Option Instant

structure CloudSkillAccessGrant where
  entitlement : CloudSkillEntitlementRecord
  subscription : CloudSkillSubscriptionRecord
  plan : CloudSkillPlanRecord

structure CloudSkillTables where
  plans : InsertionMap String CloudSkillPlanRecord
  subscriptions : InsertionMap String CloudSkillSubscriptionRecord
  subscriptionsByOrder : InsertionMap String String
  entitlements : InsertionMap String CloudSkillEntitlementRecord
  reservations : InsertionMap String CloudSkillExecutionReservation
  reservationsByTask : InsertionMap String String
  nextId : Nat
  deriving DecidableEq

namespace CloudSkillTables

def empty : CloudSkillTables where
  plans := .empty
  subscriptions := .empty
  subscriptionsByOrder := .empty
  entitlements := .empty
  reservations := .empty
  reservationsByTask := .empty
  nextId := 0

def isLowerLetter (char : Char) : Bool := 'a' ≤ char && char ≤ 'z'

def isDecimalDigit (char : Char) : Bool := '0' ≤ char && char ≤ '9'

def isIdentifier (extra : List Char) : List Char → Bool
  | [] => false
  | first :: rest =>
    isLowerLetter first &&
      rest.all fun char => isLowerLetter char || isDecimalDigit char || extra.contains char

/-- The pattern `[a-z][a-z0-9-]*(?:\.[a-z][a-z0-9-]*)*`. -/
def isPlanId (planId : String) : Bool :=
  (planId.toList.splitOn '.').all (isIdentifier ['-'])

def isSkillId (skillId : String) : Bool :=
  let infix_ := ".skill.".toList
  let text := skillId.toList
  (List.range text.length).any fun index =>
    isIdentifier ['.', '-'] (text.take index) && infix_.isPrefixOf (text.drop index) &&
      isIdentifier ['.', '-'] (text.drop (index + infix_.length))

/-- White space and line ends as `trim` removes them. -/
def isTrimmed (char : Char) : Bool :=
  [0x09, 0x0A, 0x0B, 0x0C, 0x0D, 0x20, 0xA0, 0x1680, 0x2028, 0x2029, 0x202F, 0x205F,
    0x3000, 0xFEFF].contains char.val || (0x2000 ≤ char.val && char.val ≤ 0x200A)

def isPlanName (name : String) : Bool :=
  !name.toList.all isTrimmed && utf16Length name ≤ 120

def isCandidate (query : CloudSkillAccessQuery) (now : Instant)
    (entitlement : CloudSkillEntitlementRecord) : Bool :=
  entitlement.userId = query.userId && entitlement.tenantId = query.tenantId &&
    entitlement.skillId = query.skillId && entitlement.status = .active &&
    now < entitlement.expiresAt &&
    query.allowedPlanIds.all fun allowed => allowed.contains entitlement.planId

def grantThrough (tables : CloudSkillTables) (query : CloudSkillAccessQuery)
    (now : Instant) (entitlement : CloudSkillEntitlementRecord) :
    Option CloudSkillAccessGrant := do
  let subscription ← tables.subscriptions.get? entitlement.subscriptionId
  let plan ← tables.plans.get? entitlement.planId
  if subscription.planId ≠ entitlement.planId || subscription.userId ≠ query.userId ||
      subscription.tenantId ≠ query.tenantId || subscription.status ≠ .active ||
      now < subscription.startsAt || subscription.expiresAt ≤ now ||
      !plan.skillIds.contains query.skillId then none
  else some ⟨entitlement, subscription, plan⟩

def newestFirst {α : Type} (createdAt : α → Instant) (rows : List α) : List α :=
  rows.insertionSort fun left right => createdAt right ≤ createdAt left

def resolveCloudSkillAccess (tables : CloudSkillTables) (clock : Instant)
    (query : CloudSkillAccessQuery) : Option CloudSkillAccessGrant :=
  let now := query.now.getD clock
  if query.userId = "" || query.tenantId = "" || query.skillId = "" then none
  else
    (newestFirst CloudSkillEntitlementRecord.createdAt
      (tables.entitlements.values.filter (isCandidate query now))).findSome?
        (grantThrough tables query now)

end CloudSkillTables

end LongHub
