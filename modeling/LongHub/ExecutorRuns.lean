import LongHub.ListLemmas
import Mathlib.Data.Int.Order.Basic
import LongHub.SignedRequest

/-!
# Runs and credentials of the Executor

What its runs use, and that no credential is used twice.
-/

namespace LongHub

/-! ## The runs of the Executor -/

section Verification

variable {node : NodePlatform} {key : ExecutorCredentialKey}
  {trustedKeys : InsertionMap String ExecutorCredentialKey} {token : String} {nowMs : Instant}
  {claims : ExecutorCredentialClaims}

theorem verifyExecutorCredential_eq_ok
    (verified : verifyExecutorCredential node key trustedKeys token nowMs = .ok claims) :
    authenticClaims node key trustedKeys token = .ok claims ∧
      claims.issuedAt ≤ nowMs + executorClockSkewMs ∧ nowMs < claims.expiresAt := by
  simp only [verifyExecutorCredential, Except.bind_eq_ok, Except.ensure_eq_ok,
    decide_eq_true_eq, Except.pure_eq_ok] at verified
  obtain ⟨found, authentic, -, -, -, issued, -, unexpired, rfl⟩ := verified
  exact ⟨authentic, issued, unexpired⟩

end Verification

variable {options : ExecutorServerOptions}

variable {claims : ExecutorCredentialClaims}

theorem acceptHead_eq_ok {head : ExecutorRequestHead} {now : Instant} {credential : String}
    (accepted : acceptHead options head now = .ok (credential, claims)) :
    verifyCredential options credential now = .ok claims := by
  simp only [acceptHead, Except.bind_eq_ok, Except.ensure_eq_ok,
    Except.require_eq_ok, Except.pure_eq_ok, Prod.mk.injEq] at accepted
  obtain ⟨-, -, -, -, key, -, presented, -, found, mapped, -, -, rfl, rfl⟩ := accepted
  cases verified : verifyCredential options presented now with
  | error problem =>
    rw [verified] at mapped
    cases mapped
  | ok value =>
    rw [verified] at mapped
    cases mapped
    rfl

theorem acceptBody_eq_ok {body : String} {request : ExecutorRequestBody}
    (accepted : acceptBody options claims body = .ok request) :
    request.taskId = claims.taskId ∧ request.tenantId = claims.tenantId ∧
      request.skillId = claims.skillId ∧ request.idempotencyKey = claims.idempotencyKey ∧
      request.inputDigest = claims.inputDigest ∧
      computeExecutorInputDigest options.node request.input = some claims.inputDigest := by
  simp only [acceptBody, Except.bind_eq_ok, Except.ensure_eq_ok, Except.require_eq_ok,
    Except.pure_eq_ok, Bool.and_eq_true, decide_eq_true_eq] at accepted
  obtain ⟨-, -, parsed, -, digest, computed, -, ⟨⟨⟨⟨⟨task, tenant⟩, skill⟩, key⟩, input⟩, same⟩,
    rfl⟩ := accepted
  exact ⟨task, tenant, skill, key, input, by rw [computed, same, input]⟩

namespace SkillRun

def key (run : SkillRun) : String :=
  run.context.tenantId ++ "\x00" ++ run.context.idempotencyKey

/-- A run uses what the claims of its credential say, and the credential was
verified at most the time of a body read before. -/
structure Bound (options : ExecutorServerOptions) (run : SkillRun) : Prop where
  skill : run.skillId = run.claims.skillId
  context : run.context = ⟨run.claims.taskId, run.claims.tenantId, run.claims.skillId,
    run.claims.idempotencyKey⟩
  input : computeExecutorInputDigest options.node run.input = some run.claims.inputDigest
  verified : ∃ verifiedAt, verifyCredential options run.credential verifiedAt = .ok run.claims ∧
    verifiedAt ≤ run.startedAt ∧ run.startedAt ≤ verifiedAt + options.bodyTimeoutMs

end SkillRun

namespace ExecutorServer

variable {server next : ExecutorServer}

/-- The credential of every request whose body is being read was verified. -/
def AllVerified (options : ExecutorServerOptions) (exchanges : List ExchangePhase)
    (clock : Instant) : Prop :=
  ∀ (index : Nat) (credential : String) (claims : ExecutorCredentialClaims) (verifiedAt : Instant),
    exchanges[index]? = some (.reading credential claims verifiedAt) →
      verifyCredential options credential verifiedAt = .ok claims ∧ verifiedAt ≤ clock

structure Consistent (options : ExecutorServerOptions) (server : ExecutorServer) : Prop where
  reading : AllVerified options server.exchanges server.clock
  bound : ∀ run ∈ server.runs, run.Bound options
  /-- The entry of a run is there until its time has run out. -/
  cached : ∀ run ∈ server.runs, (∃ entry, server.idempotency.get? run.key = some entry ∧
      entry.expiresAt = run.startedAt + options.idempotencyTtlMs) ∨
    run.startedAt + options.idempotencyTtlMs ≤ server.clock
  spaced : server.runs.Pairwise fun first second : SkillRun => first.key = second.key →
    first.startedAt + options.idempotencyTtlMs ≤ second.startedAt

theorem consistent_initial : initial.Consistent options where
  reading := by simp [initial, AllVerified]
  bound := by simp [initial]
  cached := by simp [initial]
  spaced := .nil

variable {request : ExecutorRequestBody}

theorem decideIdempotency_eq_execute {cache : InsertionMap String CachedResponse}
    (decision : decideIdempotency options cache request = .execute) :
    cache.get? (cacheKey request) = none := by
  simp only [decideIdempotency] at decision
  split at decision
  · split at decision <;> cases decision
  · next absent => exact absent

theorem handleBody_cases (server : ExecutorServer) (credential : String)
    (claims : ExecutorCredentialClaims) (body : String) (now : Instant) :
    (∃ problem, server.handleBody options credential claims body now =
        (.rejected problem, server)) ∨
      ∃ request, acceptBody options claims body = .ok request ∧
        ((∃ problem, server.handleBody options credential claims body now = (.rejected problem,
              { server with idempotency := pruneIdempotency server.idempotency now })) ∨
          (∃ promise, server.handleBody options credential claims body now = (.awaiting promise,
              { server with idempotency := pruneIdempotency server.idempotency now })) ∨
          ((pruneIdempotency server.idempotency now).get? (cacheKey request) = none ∧
            ∃ promise, server.handleBody options credential claims body now =
              (.awaiting promise, (execute options
                { server with idempotency := pruneIdempotency server.idempotency now }
                credential claims request now).2))) := by
  simp only [handleBody]
  cases accepted : acceptBody options claims body with
  | error problem => exact .inl ⟨problem, rfl⟩
  | ok request =>
    right
    refine ⟨request, rfl, ?_⟩
    cases decision : decideIdempotency options (pruneIdempotency server.idempotency now)
        request with
    | refuse problem => exact .inl ⟨problem, by simp only [decision]⟩
    | await promise => exact .inr (.inl ⟨promise, by simp only [decision]⟩)
    | execute =>
      refine .inr (.inr ⟨decideIdempotency_eq_execute decision, (execute options
        { server with idempotency := pruneIdempotency server.idempotency now }
        credential claims request now).1, ?_⟩)
      simp only [decision]

variable {now : Instant}

theorem Consistent.reading_set (consistent : server.Consistent options) {index : Nat}
    {phase : ExchangePhase} (later : server.clock ≤ now)
    (decided : ∀ credential claims verifiedAt, phase ≠ .reading credential claims verifiedAt) :
    AllVerified options (server.exchanges.set index phase) now := by
  intro other credential claims verifiedAt found
  rw [List.getElem?_set] at found
  split at found
  · split at found
    · exact absurd (Option.some.inj found) (decided credential claims verifiedAt)
    · cases found
  · obtain ⟨verified, before⟩ := consistent.reading other credential claims verifiedAt found
    exact ⟨verified, le_trans before later⟩

theorem Consistent.cached_prune (consistent : server.Consistent options)
    (later : server.clock ≤ now) : ∀ run ∈ server.runs,
      (∃ entry, (pruneIdempotency server.idempotency now).get? run.key = some entry ∧
        entry.expiresAt = run.startedAt + options.idempotencyTtlMs) ∨
      run.startedAt + options.idempotencyTtlMs ≤ now := by
  intro run mem
  rcases consistent.cached run mem with ⟨entry, found, expires⟩ | elapsed
  · by_cases alive : now < entry.expiresAt
    · left
      exact ⟨entry, InsertionMap.get?_filter_eq_some_iff.mpr ⟨found, by simpa using alive⟩, expires⟩
    · right
      rw [← expires]
      exact not_lt.mp alive
  · exact .inr (le_trans elapsed later)

theorem Consistent.execute (consistent : server.Consistent options) {credential : String}
    {claims : ExecutorCredentialClaims} {body : String} {verifiedAt : Instant}
    (later : server.clock ≤ now)
    (verified : verifyCredential options credential verifiedAt = .ok claims)
    (before : verifiedAt ≤ now) (inTime : now ≤ verifiedAt + options.bodyTimeoutMs)
    (accepted : acceptBody options claims body = .ok request)
    (absent : (pruneIdempotency server.idempotency now).get? (cacheKey request) = none)
    (exchanges : List ExchangePhase) (reading : AllVerified options exchanges now) :
    Consistent options
      { (ExecutorServer.execute options
          { server with idempotency := pruneIdempotency server.idempotency now }
          credential claims request now).2 with exchanges, clock := now } := by
  obtain ⟨task, tenant, skill, key, -, digest⟩ := acceptBody_eq_ok accepted
  have runKey : cacheKey request = claims.tenantId ++ "\x00" ++ claims.idempotencyKey := by
    rw [cacheKey, tenant, key]
  have cached := consistent.cached_prune later
  have old : ∀ promise, ∀ run ∈ server.runs,
      (∃ entry, ((pruneIdempotency server.idempotency now).set (cacheKey request)
          ⟨requestFingerprint request, now + options.idempotencyTtlMs, promise⟩).get? run.key =
            some entry ∧
        entry.expiresAt = run.startedAt + options.idempotencyTtlMs) ∨
      run.startedAt + options.idempotencyTtlMs ≤ now := by
    intro promise run mem
    rcases cached run mem with ⟨entry, found, expires⟩ | elapsed
    · left
      refine ⟨entry, ?_, expires⟩
      rw [InsertionMap.get?_set]
      split
      · next same =>
        rw [same, absent] at found
        cases found
      · exact found
    · exact .inr elapsed
  simp only [ExecutorServer.execute]
  split
  case isFalse =>
    exact
      { reading := reading
        __ := consistent
        cached := old .skillNotFound }
  case isTrue =>
    exact
      { reading := reading
        bound := by
          intro run mem
          rcases List.mem_append.mp mem with earlier | new
          · exact consistent.bound run earlier
          · rw [List.mem_singleton.mp new]
            exact ⟨skill, rfl, digest, verifiedAt, verified, before, inTime⟩
        cached := by
          intro run mem
          rcases List.mem_append.mp mem with earlier | new
          · exact old _ run earlier
          · left
            rw [List.mem_singleton.mp new]
            refine ⟨⟨requestFingerprint request, now + options.idempotencyTtlMs,
              .run server.runs.length⟩, ?_, rfl⟩
            rw [InsertionMap.get?_set]
            exact if_pos runKey.symm
        spaced := by
          apply List.pairwise_append.mpr
          refine ⟨consistent.spaced, List.pairwise_singleton _ _, ?_⟩
          intro run mem new newMember sameKey
          rw [List.mem_singleton.mp newMember] at sameKey ⊢
          rcases cached run mem with ⟨entry, found, -⟩ | elapsed
          · rw [sameKey] at found
            have presentKey : some entry = none := found.symm.trans (by
              rw [← absent, runKey]
              rfl)
            cases presentKey
          · exact elapsed }

theorem Consistent.step (consistent : server.Consistent options) {action : ExecutorAction}
    (monotone : server.ClockMonotone action)
    (stepTo : server.step options action = some next) : next.Consistent options := by
  cases action with
  | head head now =>
    cases stepTo
    exact
      { reading := by
          intro index credential claims verifiedAt found
          rcases List.getElem?_append_singleton_eq_some found with known | ⟨-, new⟩
          · obtain ⟨verified, before⟩ := consistent.reading index _ _ _ known
            exact ⟨verified, le_trans before monotone⟩
          · cases accepted : acceptHead options head now with
            | error problem =>
              rw [accepted] at new
              cases new
            | ok both =>
              rw [accepted] at new
              cases new
              exact ⟨acceptHead_eq_ok accepted, le_rfl⟩
        __ := consistent
        cached := fun run mem =>
          (consistent.cached run mem).imp_right fun elapsed => le_trans elapsed monotone }
  | body index body now =>
    simp only [ExecutorServer.step] at stepTo
    split at stepTo
    case h_2 => cases stepTo
    next credential claims verifiedAt found =>
    split at stepTo
    · cases stepTo
    next inTime =>
    cases stepTo
    obtain ⟨verified, before⟩ := consistent.reading index _ _ _ found
    have notLate : now ≤ verifiedAt + options.bodyTimeoutMs := by
      by_contra late
      exact inTime (.inl (not_le.mp late))
    rcases handleBody_cases server credential claims body now with
      ⟨problem, handled⟩ | ⟨request, accepted, ⟨problem, handled⟩ | ⟨promise, handled⟩ |
        ⟨absent, promise, handled⟩⟩
    · rw [handled]
      exact
        { reading := consistent.reading_set monotone (by simp)
          __ := consistent
          cached := fun run mem =>
            (consistent.cached run mem).imp_right fun elapsed => le_trans elapsed monotone }
    · rw [handled]
      exact
        { reading := consistent.reading_set monotone (by simp)
          __ := consistent
          cached := consistent.cached_prune monotone }
    · rw [handled]
      exact
        { reading := consistent.reading_set monotone (by simp)
          __ := consistent
          cached := consistent.cached_prune monotone }
    · rw [handled]
      exact consistent.execute monotone verified (le_trans before monotone) notLate accepted absent
        _ (consistent.reading_set monotone (by simp))
  | bodyFailed index problem now =>
    simp only [ExecutorServer.step] at stepTo
    split at stepTo
    case h_2 => cases stepTo
    cases stepTo
    exact
      { reading := consistent.reading_set monotone (by simp)
        __ := consistent
        cached := fun run mem =>
          (consistent.cached run mem).imp_right fun elapsed => le_trans elapsed monotone }

theorem Run.consistent (run : Run options server) : server.Consistent options :=
  GuardedRun.invariant (Consistent options) consistent_initial
    (fun _ _ _ consistent monotone stepTo => consistent.step monotone stepTo) run

end ExecutorServer

end LongHub

namespace LongHub

/-! ## A credential is run at most once -/

namespace ExecutorServer

variable {options : ExecutorServerOptions} {server : ExecutorServer}

structure RunsGuaranteed (options : ExecutorServerOptions) (server : ExecutorServer) : Prop where
  /-- No credential is run twice when the cache outlives it. -/
  once : ∀ claims : ExecutorCredentialClaims,
    claims.expiresAt - claims.issuedAt + executorClockSkewMs + options.bodyTimeoutMs ≤
        options.idempotencyTtlMs →
      server.runs.countP (fun run => run.claims = claims) ≤ 1
  /-- A credential has the same claims whenever it is run. -/
  sameClaims : ∀ first ∈ server.runs, ∀ second ∈ server.runs,
    first.credential = second.credential → first.claims = second.claims
  /-- A run uses what the claims say. -/
  bound : ∀ run ∈ server.runs, run.Bound options

variable {now : Instant} {claims : ExecutorCredentialClaims}

variable {token credential : String}

theorem verifyCredential_eq_ok (verified : verifyCredential options token now = .ok claims) :
    authenticClaims options.node options.credentialKey (verificationKeys options) token =
        .ok claims ∧
      claims.issuedAt ≤ now + executorClockSkewMs ∧ now < claims.expiresAt :=
  verifyExecutorCredential_eq_ok verified

theorem Consistent.not_twice (consistent : server.Consistent options) {first second : SkillRun}
    (firstIn : first ∈ server.runs) (secondIn : second ∈ server.runs)
    (apart : first.key = second.key → first.startedAt + options.idempotencyTtlMs ≤ second.startedAt)
    (lasting : claims.expiresAt - claims.issuedAt + executorClockSkewMs + options.bodyTimeoutMs ≤
      options.idempotencyTtlMs) (firstClaims : first.claims = claims)
    (secondClaims : second.claims = claims) : False := by
  have firstBound := consistent.bound first firstIn
  have secondBound := consistent.bound second secondIn
  have sameKey : first.key = second.key := by
    rw [SkillRun.key, SkillRun.key, firstBound.context, secondBound.context, firstClaims,
      secondClaims]
  have waited := apart sameKey
  obtain ⟨firstAt, firstVerified, firstBefore, -⟩ := firstBound.verified
  obtain ⟨secondAt, secondVerified, -, secondInTime⟩ := secondBound.verified
  obtain ⟨-, issued, -⟩ := verifyCredential_eq_ok firstVerified
  obtain ⟨-, -, unexpired⟩ := verifyCredential_eq_ok secondVerified
  rw [firstClaims] at issued
  rw [secondClaims] at unexpired
  unfold Instant at *
  omega

/-- In every interleaving of requests, a credential is run at most once, and
each run uses the claims of a credential that was verified when the head of its
request arrived, at most a body timeout before. -/
theorem runsGuaranteed (run : Run options server) : server.RunsGuaranteed options := by
  have consistent := run.consistent
  exact
    { once := by
        intro claims lasting
        apply List.countP_le_one_of_pairwise
        apply consistent.spaced.imp_of_mem
        intro first second firstIn secondIn apart firstClaims
        apply decide_eq_false
        intro secondClaims
        exact consistent.not_twice firstIn secondIn apart lasting
          (of_decide_eq_true firstClaims) secondClaims
      sameClaims := by
        intro first firstIn second secondIn sameCredential
        obtain ⟨_, firstVerified, -⟩ := (consistent.bound first firstIn).verified
        obtain ⟨_, secondVerified, -⟩ := (consistent.bound second secondIn).verified
        have firstAuthentic := (verifyCredential_eq_ok firstVerified).1
        have secondAuthentic := (verifyCredential_eq_ok secondVerified).1
        rw [sameCredential, secondAuthentic] at firstAuthentic
        exact (Except.ok.inj firstAuthentic).symm
      bound := consistent.bound }

theorem step_head {head : ExecutorRequestHead}
    (accepted : acceptHead options head now = .ok (credential, claims)) :
    server.step options (.head head now) = some { server with
      exchanges := server.exchanges ++ [.reading credential claims now], clock := now } := by
  simp only [ExecutorServer.step, accepted]

theorem step_body {index : Nat} {body : String} {verifiedAt : Instant}
    (found : server.exchanges[index]? = some (.reading credential claims verifiedAt))
    (inTime : now ≤ verifiedAt + options.bodyTimeoutMs)
    (small : body.utf8ByteSize ≤ options.maxBodyBytes) :
    server.step options (.body index body now) =
      some { (server.handleBody options credential claims body now).2 with
        exchanges := server.exchanges.set index
          (server.handleBody options credential claims body now).1
        clock := now } := by
  have handled : ¬ (verifiedAt + options.bodyTimeoutMs < now ∨
      options.maxBodyBytes < body.utf8ByteSize) := by
    rintro (late | large)
    · exact absurd inTime (not_le.mpr late)
    · exact absurd small (not_le.mpr large)
  simp only [ExecutorServer.step, found, if_neg handled]

theorem handleBody_eq_execute {credential body : String} {claims : ExecutorCredentialClaims}
    {request : ExecutorRequestBody} {now : Instant}
    (accepted : acceptBody options claims body = .ok request)
    (decision : decideIdempotency options (pruneIdempotency server.idempotency now) request =
      .execute) :
    server.handleBody options credential claims body now =
      let executed := ExecutorServer.execute options
        { server with idempotency := pruneIdempotency server.idempotency now } credential claims
        request now
      (.awaiting executed.1, executed.2) := by
  simp only [handleBody, accepted, decision]

def VerifiedThen (options : ExecutorServerOptions) (issued : ExecutorCredentialClaims → Prop)
    (run : SkillRun) : Prop :=
  ∃ (credential : String) (claims : ExecutorCredentialClaims), issued claims ∧
    verifyCredential options credential run.startedAt = .ok claims ∧
    run.context = ⟨claims.taskId, claims.tenantId, claims.skillId, claims.idempotencyKey⟩ ∧
    run.skillId = claims.skillId ∧
    computeExecutorInputDigest options.node run.input = some claims.inputDigest

def CredentialOnceLaw : Prop :=
  ∀ (options : ExecutorServerOptions) (issued : ExecutorCredentialClaims → Prop)
    (server : ExecutorServer),
    (∀ token claims, authenticClaims options.node options.credentialKey
      (verificationKeys options) token = .ok claims → issued claims) →
    executorCredentialMaxTtlMs + executorClockSkewMs + options.bodyTimeoutMs ≤
      options.idempotencyTtlMs →
    Run options server → (∀ claims, issued claims →
        server.runs.countP (fun run => run.claims = claims) ≤ 1) ∧
      ∀ run ∈ server.runs, VerifiedThen options issued run

theorem authenticClaims_example
    (authentic : authenticClaims exampleNode exampleKey (verificationKeys exampleOptions) token =
      .ok claims) : claims = exampleClaims "1" ∨ claims = exampleClaims "2" := by
  simp only [authenticClaims, Except.bind_eq_ok, Except.ensure_eq_ok,
    Except.require_eq_ok, Except.pure_eq_ok] at authentic
  obtain ⟨-, -, -, -, bytes, -, value, parsed, found, claimed, -, -, -, -, -, -, rfl⟩ := authentic
  simp only [exampleNode, List.lookup_cons] at parsed
  split at parsed
  · cases parsed
    exact .inl (Option.some.inj claimed).symm
  split at parsed
  · cases parsed
    exact .inr (Option.some.inj claimed).symm
  split at parsed
  · cases parsed
    cases claimed
  split at parsed
  · cases parsed
    cases claimed
  · cases parsed

def exampleReading : ExecutorServer :=
  { initial with
    exchanges := [.reading (exampleToken "1") (exampleClaims "1") 59999], clock := 59999 }

/-- The Executor after its body, which is complete when the credential has
expired. -/
def exampleExecuted : ExecutorServer :=
  { (ExecutorServer.execute exampleOptions exampleReading (exampleToken "1") (exampleClaims "1")
      (exampleRequest "1") 60001).2 with
    exchanges := [.awaiting (.run 0)], clock := 60001 }

theorem exampleRun : Run exampleOptions exampleExecuted := by
  have head : initial.step exampleOptions (.head (executeHead "idem-1" (exampleToken "1")) 59999) =
      some exampleReading :=
    step_head (acceptHead_example (.inl rfl) (by decide) (by decide))
  have small : (exampleBody "1").utf8ByteSize ≤ 1048576 := by decide +kernel
  have body : exampleReading.step exampleOptions (.body 0 (exampleBody "1") 60001) =
      some exampleExecuted := by
    rw [step_body (by rfl : exampleReading.exchanges[0]? = some (.reading (exampleToken "1")
      (exampleClaims "1") 59999)) (by decide) small,
      handleBody_eq_execute (acceptBody_example (.inl rfl)) (by rfl)]
    rfl
  have start : initial.clock ≤ 59999 := by decide
  have later : exampleReading.clock ≤ 60001 := by decide
  have read : Run exampleOptions exampleReading :=
    GuardedRun.refl.tail (.head (executeHead "idem-1" (exampleToken "1")) 59999) start head
  exact read.tail (.body 0 (exampleBody "1") 60001) later body

/-- The head of a request may arrive just before its credential expires, and
its body just after. -/
theorem not_credentialOnceLaw : ¬ CredentialOnceLaw := by
  intro law
  obtain ⟨-, verified⟩ := law exampleOptions (fun claims => claims = exampleClaims "1" ∨
    claims = exampleClaims "2") exampleExecuted (fun token claims => authenticClaims_example)
    (by decide) exampleRun
  obtain ⟨credential, claims, issued, valid, -⟩ := verified _ List.mem_cons_self
  have unexpired := (verifyCredential_eq_ok valid).2.2
  rcases issued with rfl | rfl
  · revert unexpired
    decide
  · revert unexpired
    decide

theorem runsGuaranteed_example : exampleExecuted.RunsGuaranteed exampleOptions :=
  runsGuaranteed exampleRun

end ExecutorServer

end LongHub
