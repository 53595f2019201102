import LongHub.BillingOutbox
import LongHub.FencedLease
import LongHub.GuardedRun

/-!
# Workers on the billing outbox

Any number of workers claim, complete and fail events, in any order and with any tokens they have
been given, while settlements add new events.
-/

namespace LongHub

open BillingOutbox BillingOutboxRecord InsertionMap List

/-- An event as a settlement writes it. -/
def BillingOutboxRecord.isNew (record : BillingOutboxRecord) : Bool :=
  record.attempts = 0 && record.lockedUntil.isNone && record.lockToken.isNone &&
    record.publishedAt.isNone && record.deadLetteredAt.isNone

def BillingOutboxRecord.lease (record : BillingOutboxRecord) : Option (String × Int) :=
  record.lockToken.bind fun token => record.lockedUntil.map fun until_ => (token, until_)

abbrev OutboxClaim := LeaseClaim String Nat

structure OutboxSystem where
  outbox : BillingOutbox
  clock : Instant
  tokens : List (String × Nat)
  history : String → List OutboxClaim

inductive OutboxAction where
  | settle (record : BillingOutboxRecord)
  | claim (worker : Nat) (lockToken : String) (limit leaseMs : Option Int) (now : Instant)
  | complete (worker : Nat) (outboxId lockToken : String) (now : Instant)
  | fail (worker : Nat) (outboxId lockToken : String) (retryAt : Option DateInput)
      (errorCode : String) (deadLetteredAt : Option DateInput) (now : Instant)

namespace OutboxSystem

def initial : OutboxSystem := ⟨.empty, 0, [], fun _ => []⟩

def presents (system : OutboxSystem) (worker : Nat) (lockToken : String) : Bool :=
  system.tokens.all fun given => given.1 ≠ lockToken || given.2 = worker

def claimParams (limit leaseMs : Option Int) (now : Instant) : BillingOutboxClaimParams :=
  ⟨limit, leaseMs, some (.instant now)⟩

def failureParams (outboxId lockToken : String) (retryAt : Option DateInput) (errorCode : String)
    (deadLetteredAt : Option DateInput) (now : Instant) : BillingOutboxFailureParams :=
  ⟨outboxId, lockToken, some (.instant now), retryAt, errorCode, deadLetteredAt⟩

def claimHistory (history : String → List OutboxClaim) (worker : Nat)
    (taken : List BillingOutboxRecord) (outboxId : String) : List OutboxClaim :=
  match taken.find? fun record => record.outboxId = outboxId with
  | some record =>
    history outboxId ++ [⟨record.lockToken.getD "", worker, record.lockedUntil.getD 0, false⟩]
  | none => history outboxId

def settleHistory (history : String → List OutboxClaim) (outboxId lockToken : String)
    (took : Bool) (other : String) : List OutboxClaim :=
  if took ∧ other = outboxId then (history other).map (LeaseClaim.settle lockToken)
  else history other

def step (system : OutboxSystem) : OutboxAction → Option OutboxSystem
  | .settle record =>
    if record.isNew && (system.outbox.get? record.outboxId).isNone then
      some { system with outbox := system.outbox.set record.outboxId record }
    else none
  | .claim worker lockToken limit leaseMs now =>
    if now < system.clock || !validBillingOutboxLockToken lockToken ||
        system.tokens.any (fun given => given.1 = lockToken) then none
    else
      let (taken, outbox) := system.outbox.claimBillingOutbox now lockToken
        (claimParams limit leaseMs now)
      some
        { outbox, clock := now, tokens := (lockToken, worker) :: system.tokens
          history := claimHistory system.history worker taken }
  | .complete worker outboxId lockToken now =>
    if now < system.clock || !system.presents worker lockToken then none
    else
      let (took, outbox) := system.outbox.completeBillingOutbox now outboxId lockToken
        (some (.instant now))
      some { system with
        outbox, clock := now
        history := settleHistory system.history outboxId lockToken took }
  | .fail worker outboxId lockToken retryAt errorCode deadLetteredAt now =>
    if now < system.clock || !system.presents worker lockToken then none
    else
      let (took, outbox) := system.outbox.failBillingOutbox now
        (failureParams outboxId lockToken retryAt errorCode deadLetteredAt now)
      some { system with
        outbox, clock := now
        history := settleHistory system.history outboxId lockToken took }

abbrev RunFrom (start : OutboxSystem) : OutboxSystem → Prop :=
  GuardedRun step (fun _ _ => True) start

abbrev Run : OutboxSystem → Prop := RunFrom initial

end OutboxSystem

structure OutboxRowFenced (outboxId : String) (claims : List OutboxClaim) (clock : Instant)
    (record : BillingOutboxRecord) : Prop where
  keyed : record.outboxId = outboxId
  fenced : FencedLease claims record.lease clock
  paired : record.lockToken.isSome = record.lockedUntil.isSome
  counted : record.attempts = claims.length
  exclusive : record.publishedAt = none ∨ record.deadLetteredAt = none
  ended : record.isFinal = true → record.lockToken = none

namespace OutboxRowFenced

variable {outboxId : String} {claims : List OutboxClaim} {clock now : Instant}
variable {record : BillingOutboxRecord}

theorem wait (row : OutboxRowFenced outboxId claims clock record) (later : clock ≤ now) :
    OutboxRowFenced outboxId claims now record :=
  { row with fenced := row.fenced.wait later }

theorem of_new (isNew : record.isNew = true) : OutboxRowFenced record.outboxId [] clock record := by
  simp only [BillingOutboxRecord.isNew, Bool.and_eq_true, decide_eq_true_eq,
    Option.isNone_iff_eq_none] at isNew
  obtain ⟨⟨⟨⟨none_, unlocked⟩, noToken⟩, unpublished⟩, undead⟩ := isNew
  exact
    { keyed := rfl
      fenced := by
        simp only [lease, noToken]
        exact .unclaimed
      paired := by simp [noToken, unlocked]
      counted := by simpa using none_
      exclusive := Or.inl unpublished
      ended := fun _ => noToken }

variable {token : String}

theorem claimed (row : OutboxRowFenced outboxId claims clock record) {worker : Nat}
    {until_ : Instant} (fresh : ∀ earlier ∈ claims, earlier.token ≠ token)
    (claimable : record.isClaimable clock = true) :
    OutboxRowFenced outboxId (claims ++ [⟨token, worker, until_, false⟩]) clock
      (record.claimed token until_) where
  __ := row
  fenced := by
    have elapsed : ∀ token' until', record.lease = some (token', until') → until' ≤ clock := by
      intro token' until' leased
      simp only [lease, Option.bind_eq_some_iff, Option.map_eq_some_iff, Prod.mk.injEq] at leased
      obtain ⟨_, -, ended, lockedUntil, -, rfl⟩ := leased
      simp only [isClaimable, lockedUntil, Bool.and_eq_true,
        Option.all_some, decide_eq_true_eq] at claimable
      exact claimable.2
    exact row.fenced.claim fresh elapsed
  paired := rfl
  counted := by
    rw [length_append, ← row.counted]
    rfl
  ended := by
    intro final
    simp only [isClaimable, Bool.and_eq_true, Option.isNone_iff_eq_none] at claimable
    simp [isFinal, BillingOutboxRecord.claimed, claimable.1.1.1, claimable.1.1.2] at final

theorem lease_of_leasedBy (leased : record.isLeasedBy token now = true) :
    ∃ until_, record.lease = some (token, until_) ∧ now < until_ := by
  simp only [isLeasedBy, Bool.and_eq_true, decide_eq_true_eq, Option.any_eq_true] at leased
  obtain ⟨⟨⟨held, -⟩, -⟩, until_, locked, running⟩ := leased
  exact ⟨until_, by simp [lease, held, locked], running⟩

theorem settled (row : OutboxRowFenced outboxId claims clock record)
    {settledRow : BillingOutboxRecord} (leased : record.isLeasedBy token now = true)
    (sameKey : settledRow.outboxId = record.outboxId)
    (sameAttempts : settledRow.attempts = record.attempts)
    (unlocked : settledRow.lockToken = none ∧ settledRow.lockedUntil = none)
    (one : settledRow.publishedAt = none ∨ settledRow.deadLetteredAt = none) :
    OutboxRowFenced outboxId (claims.map (LeaseClaim.settle token)) clock settledRow where
  keyed := sameKey.trans row.keyed
  fenced := by
    obtain ⟨until_, held, -⟩ := lease_of_leasedBy leased
    have noLease : settledRow.lease = none := by
      simp [lease, unlocked.1]
    rw [noLease]
    exact row.fenced.settle held
  paired := by simp [unlocked]
  counted := by rw [sameAttempts, row.counted, length_map]
  exclusive := one
  ended := fun _ => unlocked.1

end OutboxRowFenced

namespace OutboxSystem

structure Fenced (system : OutboxSystem) : Prop where
  rows : ∀ outboxId record, system.outbox.get? outboxId = some record →
    OutboxRowFenced outboxId (system.history outboxId) system.clock record
  absent : ∀ outboxId, system.outbox.get? outboxId = none → system.history outboxId = []
  given : ∀ outboxId, ∀ claim ∈ system.history outboxId, (claim.token, claim.holder) ∈ system.tokens
  distinct : (system.tokens.map Prod.fst).Nodup

variable {system next : OutboxSystem}

theorem fenced_initial : initial.Fenced where
  rows := by simp [initial]
  absent := fun _ _ => rfl
  given := by simp [initial]
  distinct := nodup_nil

theorem Fenced.keyed (fenced : system.Fenced) {record : BillingOutboxRecord}
    (stored : record ∈ system.outbox.values) :
    system.outbox.get? record.outboxId = some record := by
  obtain ⟨outboxId, found⟩ := mem_values_iff.mp stored
  rwa [(fenced.rows outboxId record found).keyed]

theorem Fenced.claim_row (fenced : system.Fenced) (worker : Nat) (lockToken : String)
    (limit leaseMs : Option Int) (now : Instant) (outboxId : String) :
    let result := system.outbox.claimBillingOutbox now lockToken (claimParams limit leaseMs now)
    (result.2.get? outboxId = system.outbox.get? outboxId ∧
      claimHistory system.history worker result.1 outboxId = system.history outboxId) ∨
    ∃ record until_, system.outbox.get? outboxId = some record ∧
      (∃ taken, normalizeBillingOutboxLimit limit = some taken ∧
        record ∈ system.outbox.claimedRows taken now) ∧
      result.2.get? outboxId = some (record.claimed lockToken until_) ∧
      claimHistory system.history worker result.1 outboxId =
        system.history outboxId ++ [⟨lockToken, worker, until_, false⟩] := by
  simp only [claimBillingOutbox, claimParams, parseBillingOutboxTime]
  split
  case h_2 => exact Or.inl ⟨rfl, rfl⟩
  next limit' leaseMs' now' limitEq leaseEq nowEq =>
  cases nowEq
  simp only [get?_mapValues]
  -- the rows that are taken are those of their own keys
  have ofKey : ∀ row ∈ system.outbox.claimedRows limit' now, row.outboxId = outboxId →
      system.outbox.get? outboxId = some row := by
    intro row mem named
    rw [← named]
    exact fenced.keyed (mem_claimedRows mem).1
  by_cases taken : ∃ row ∈ system.outbox.claimedRows limit' now, row.outboxId = outboxId
  · right
    obtain ⟨record, mem, named⟩ := taken
    have found := ofKey record mem named
    refine ⟨record, now + leaseMs', found, ⟨limit', limitEq, mem⟩, ?_, ?_⟩
    · simp [found, mem]
    · have first : ((system.outbox.claimedRows limit' now).map
          (BillingOutboxRecord.claimed lockToken (now + leaseMs'))).find?
            (fun row => row.outboxId = outboxId) =
          some (record.claimed lockToken (now + leaseMs')) := by
        cases search : ((system.outbox.claimedRows limit' now).map
            (BillingOutboxRecord.claimed lockToken (now + leaseMs'))).find?
              (fun row => row.outboxId = outboxId) with
        | none =>
          rw [find?_eq_none] at search
          have leased : record.claimed lockToken (now + leaseMs') ∈
              (system.outbox.claimedRows limit' now).map
                (BillingOutboxRecord.claimed lockToken (now + leaseMs')) :=
            mem_map_of_mem mem
          have nameless := search _ leased
          exact absurd (decide_eq_true named) nameless
        | some row =>
          have rowNamed : row.outboxId = outboxId := by simpa using find?_some search
          obtain ⟨original, originalMember, rfl⟩ := mem_map.mp (mem_of_find?_eq_some search)
          have same := ofKey original originalMember rowNamed
          rw [found] at same
          rw [Option.some.inj same]
      simp only [claimHistory, first]
      rfl
  · left
    push Not at taken
    constructor
    · cases found : system.outbox.get? outboxId with
      | none => rfl
      | some record =>
        have notTaken : record ∉ system.outbox.claimedRows limit' now := by
          intro mem
          exact taken record mem (fenced.rows outboxId record found).keyed
        simp [notTaken]
    · have none_ : ((system.outbox.claimedRows limit' now).map
          (BillingOutboxRecord.claimed lockToken (now + leaseMs'))).find?
            (fun row => row.outboxId = outboxId) = none := by
        rw [find?_eq_none]
        intro row mem
        obtain ⟨original, originalMember, rfl⟩ := mem_map.mp mem
        intro named
        exact taken original originalMember (of_decide_eq_true named)
      simp only [claimHistory, none_]

variable {worker : Nat} {lockToken outboxId : String} {now : Instant}

theorem Fenced.claim (fenced : system.Fenced) {limit leaseMs : Option Int}
    (stepTo : system.step (.claim worker lockToken limit leaseMs now) = some next) :
    next.Fenced := by
  simp only [OutboxSystem.step] at stepTo
  split at stepTo
  · cases stepTo
  next guard =>
  simp only [Bool.or_eq_true, decide_eq_true_eq, Bool.not_eq_true', any_eq_true,
    not_or, not_lt, not_exists, not_and] at guard
  obtain ⟨⟨later, -⟩, unused⟩ := guard
  cases stepTo
  have row := fenced.claim_row worker lockToken limit leaseMs now
  exact
    { rows := by
        intro outboxId record found
        dsimp only at found ⊢
        rcases row outboxId with ⟨same, sameHistory⟩ |
            ⟨original, until_, stored, ⟨_, -, taken⟩, claimedRow, moreHistory⟩
        · rw [same] at found
          rw [sameHistory]
          exact (fenced.rows outboxId record found).wait later
        · rw [claimedRow, Option.some.injEq] at found
          subst found
          rw [moreHistory]
          apply ((fenced.rows outboxId original stored).wait later).claimed _
            (mem_claimedRows taken).2
          rintro earlier mem rfl
          exact unused _ (fenced.given outboxId earlier mem) rfl
      absent := by
        intro outboxId missing
        dsimp only at missing ⊢
        rcases row outboxId with ⟨same, sameHistory⟩ | ⟨_, _, _, _, claimedRow, _⟩
        · rw [same] at missing
          rw [sameHistory]
          exact fenced.absent outboxId missing
        · rw [claimedRow] at missing
          cases missing
      given := by
        intro outboxId claim mem
        dsimp only at mem ⊢
        rcases row outboxId with ⟨-, sameHistory⟩ | ⟨_, _, _, _, _, moreHistory⟩
        · rw [sameHistory] at mem
          exact mem_cons_of_mem _ (fenced.given outboxId claim mem)
        · rw [moreHistory] at mem
          rcases mem_append.mp mem with earlier | new
          · exact mem_cons_of_mem _ (fenced.given outboxId claim earlier)
          · rw [mem_singleton.mp new]
            exact mem_cons_self
      distinct := by
        rw [map_cons, nodup_cons]
        refine ⟨?_, fenced.distinct⟩
        intro used
        obtain ⟨given, mem, same⟩ := mem_map.mp used
        exact unused given mem same }

theorem Fenced.settle (fenced : system.Fenced) {took : Bool} {outbox : BillingOutbox}
    (later : system.clock ≤ now) (refused : took = false → outbox = system.outbox)
    (taken : took = true → ∃ record settledRow,
      system.outbox.get? outboxId = some record ∧ record.isLeasedBy lockToken now = true ∧
      outbox = system.outbox.set outboxId settledRow ∧
      settledRow.outboxId = record.outboxId ∧ settledRow.attempts = record.attempts ∧
      (settledRow.lockToken = none ∧ settledRow.lockedUntil = none) ∧
      (settledRow.publishedAt = none ∨ settledRow.deadLetteredAt = none)) :
    ({ system with
        outbox, clock := now
        history := settleHistory system.history outboxId lockToken took }).Fenced := by
  have sameTokens : ∀ other, ∀ claim ∈ settleHistory system.history outboxId lockToken
      took other, (claim.token, claim.holder) ∈ system.tokens := by
    intro other claim mem
    rw [settleHistory] at mem
    split at mem
    · obtain ⟨original, originalMember, rfl⟩ := mem_map.mp mem
      have given := fenced.given other original originalMember
      rw [LeaseClaim.settle]
      split <;> exact given
    · exact fenced.given other claim mem
  cases took with
  | false =>
    cases refused rfl
    exact
      { rows := fun other record found => by
          simpa [settleHistory] using (fenced.rows other record found).wait later
        absent := fun other missing => by
          simpa [settleHistory] using fenced.absent other missing
        given := sameTokens
        distinct := fenced.distinct }
  | true =>
    obtain ⟨record, settledRow, found, leased, rfl, sameKey, sameAttempts, unlocked, one⟩ :=
      taken rfl
    exact
      { rows := by
          intro other row otherFound
          rw [get?_set] at otherFound
          split at otherFound
          · next same =>
            cases otherFound
            simp only [settleHistory, same, and_self, if_true]
            exact ((fenced.rows outboxId record found).wait later).settled leased
              sameKey sameAttempts unlocked one
          · next differ =>
            simp only [settleHistory, differ, and_false, if_false]
            exact (fenced.rows other row otherFound).wait later
        absent := by
          intro other missing
          rw [get?_set] at missing
          split at missing
          · cases missing
          · next differ =>
            simp only [settleHistory, differ, and_false, if_false]
            exact fenced.absent other missing
        given := sameTokens
        distinct := fenced.distinct }

theorem Fenced.complete (fenced : system.Fenced)
    (stepTo : system.step (.complete worker outboxId lockToken now) = some next) : next.Fenced := by
  obtain ⟨guard, same⟩ := Option.ite_none_left_eq_some.mp stepTo
  simp only [Bool.or_eq_true, decide_eq_true_eq, not_or, not_lt] at guard
  cases same
  apply fenced.settle guard.1
  · exact completeBillingOutbox_false
  · intro completed
    obtain ⟨record, completedAt, found, parsed, leased, result⟩ :=
      completeBillingOutbox_true completed
    cases parsed
    have row := leased
    simp only [isLeasedBy, Bool.and_eq_true, Option.isNone_iff_eq_none] at row
    exact ⟨record, record.completed now, found, leased, result, rfl, rfl, ⟨rfl, rfl⟩,
      Or.inr row.1.2⟩

theorem Fenced.fail (fenced : system.Fenced) {retryAt : Option DateInput} {errorCode : String}
    {deadLetteredAt : Option DateInput} (stepTo : system.step
      (.fail worker outboxId lockToken retryAt errorCode deadLetteredAt now) = some next) :
    next.Fenced := by
  obtain ⟨guard, same⟩ := Option.ite_none_left_eq_some.mp stepTo
  simp only [Bool.or_eq_true, decide_eq_true_eq, not_or, not_lt] at guard
  cases same
  apply fenced.settle guard.1
  · exact failBillingOutbox_false
  · intro failed
    obtain ⟨record, failedAt, retry, dead, found, parsed, -, leased, result⟩ :=
      failBillingOutbox_true failed
    cases parsed
    have row := leased
    simp only [failureParams, isLeasedBy, Bool.and_eq_true, Option.isNone_iff_eq_none] at row
    exact ⟨record, record.failed retry errorCode dead, found, leased, result, rfl, rfl,
      ⟨rfl, rfl⟩, Or.inl row.1.1.2⟩

theorem Fenced.append (fenced : system.Fenced) {record : BillingOutboxRecord}
    (stepTo : system.step (.settle record) = some next) : next.Fenced := by
  obtain ⟨guard, same⟩ := Option.ite_none_right_eq_some.mp stepTo
  simp only [Bool.and_eq_true, Option.isNone_iff_eq_none] at guard
  obtain ⟨isNew, unused⟩ := guard
  cases same
  exact
    { rows := by
        intro outboxId row found
        rw [get?_set] at found
        split at found
        · next same =>
          cases found
          rw [same, fenced.absent record.outboxId unused]
          exact .of_new isNew
        · exact fenced.rows outboxId row found
      absent := by
        intro outboxId missing
        rw [get?_set] at missing
        split at missing
        · cases missing
        · exact fenced.absent outboxId missing
      __ := fenced }

theorem Fenced.step (fenced : system.Fenced) {action : OutboxAction}
    (stepTo : system.step action = some next) : next.Fenced := by
  cases action with
  | settle record => exact fenced.append stepTo
  | claim worker lockToken limit leaseMs now => exact fenced.claim stepTo
  | complete worker outboxId lockToken now => exact fenced.complete stepTo
  | fail worker outboxId lockToken retryAt errorCode deadLetteredAt now =>
    exact fenced.fail stepTo

theorem Run.fenced (run : Run system) : system.Fenced :=
  run.invariant Fenced fenced_initial fun _ _ _ fenced _ stepTo => fenced.step stepTo

end OutboxSystem

end LongHub
