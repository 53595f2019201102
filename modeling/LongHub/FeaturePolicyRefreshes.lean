import LongHub.FeaturePolicyCoordinator

/-!
# What a refresh does to the policy in force

A part of a refresh that settles it publishes a document, rejects the answer or keeps what is in
force; which of these it does depends on the answer alone.
-/

namespace LongHub

namespace FeaturePolicyCoordinator

open FeaturePolicyCache Or

section Running

variable {ε σ α β : Type} {program : EStateM ε σ α} {state after : σ} {value : α} {error : ε}

variable {next : α → EStateM ε σ β} {handler : ε → EStateM ε σ α}

theorem run_bind_ok (runs : program.run state = .ok value after) :
    (program >>= next).run state = (next value).run after := by
  simp only [EStateM.run, bind, EStateM.bind] at runs ⊢
  rw [runs]

theorem run_bind_error (runs : program.run state = .error error after) :
    (program >>= next).run state = .error error after := by
  simp only [EStateM.run, bind, EStateM.bind] at runs ⊢
  rw [runs]

theorem run_tryCatch_ok (runs : program.run state = .ok value after) :
    (tryCatch program handler).run state = .ok value after := by
  simp only [EStateM.run, tryCatch, tryCatchThe, MonadExceptOf.tryCatch, EStateM.tryCatch] at runs ⊢
  rw [runs]

theorem run_tryCatch_error (runs : program.run state = .error error after) :
    (tryCatch program handler).run state = (handler error).run after := by
  simp only [EStateM.run, tryCatch, tryCatchThe, MonadExceptOf.tryCatch, EStateM.tryCatch] at runs ⊢
  rw [runs]
  rfl

end Running

/-- What is done with an answer of Cloud. -/
inductive Verdict where
  | publishes (document : FeaturePolicyDocument) (source : PolicySource)
  | rejects
  | keeps
  /-- The body is read first. -/
  | continues

def isCurrentAt (document : FeaturePolicyDocument) (now : Int) : Bool :=
  parsedInstant document.issuedAt ≤ now && now < parsedInstant document.expiresAt

def offlineVerdict (cached : Option FeaturePolicyCacheRecord) : Verdict :=
  match cached with
  | none => .keeps
  | some record => .publishes record.document .cache

def confirmVerdict (document : FeaturePolicyDocument) (now : Int) (cacheWritten : Bool) : Verdict :=
  if isCurrentAt document now then
    if cacheWritten then .publishes document .network else .keeps
  else .rejects

def responseVerdict (cached : Option FeaturePolicyCacheRecord) (outcome : FetchOutcome)
    (answers : RefreshAnswers) : Verdict :=
  match outcome with
  | .failed => offlineVerdict cached
  | .response status contentType contentLength _ =>
    if status = 401 ∨ status = 403 then .rejects
    else if status = 304 then
      match cached with
      | none => .rejects
      | some record => confirmVerdict record.document answers.now answers.cacheWritten
    else if status = 429 ∨ 500 ≤ status then offlineVerdict cached
    else if status ≠ 200 ∨ mediaType contentType ≠ some "application/json" ∨
        (contentLength.any fun length => (featurePolicyMaxBytes : Rat) < length) then .rejects
    else .continues

def bodyVerdict (etag : String) (refreshedAt : Int) (outcome : BodyOutcome)
    (answers : RefreshAnswers) : Verdict :=
  match outcome with
  | .failed => .keeps
  | .oversized => .rejects
  | .text content =>
    match parseFeaturePolicyJson content with
    | .error _ => .rejects
    | .ok document =>
      if validEtag etag then confirmVerdict document refreshedAt answers.cacheWritten
      else .rejects

/-- The effect tells the owner of the coordinator about the policy in force. -/
def isAnnouncement : RefreshEffect → Bool
  | .emergencyDisabled _ | .refreshed _ => true
  | .wroteCache _ | .removedCache => false

structure Published (document : FeaturePolicyDocument) (source : PolicySource)
    (before after : Coordinator) : Prop where
  snapshot : ∃ refreshedAt, after.snapshotValue = some ⟨document, source, refreshedAt⟩
  phase : after.phase = before.phase
  effects : ∃ more, after.effects = before.effects ++ more ∧ more.any isAnnouncement

structure Rejected (before after : Coordinator) : Prop where
  snapshot : after.snapshotValue = none
  phase : after.phase = before.phase
  effects : ∃ more, after.effects = before.effects ++ more ∧ ¬ more.any isAnnouncement

def Follows {α : Type} (verdict : Verdict) (before : Coordinator)
    (result : EStateM.Result RefreshError Coordinator (Option α)) : Prop :=
  match verdict, result with
  | .publishes document source, .ok (some _) after => Published document source before after
  | .publishes document source, .error _ after => Published document source before after
  | .rejects, .error _ after => Rejected before after
  | .keeps, .error _ after => after = before
  | .continues, .ok none after => after = before
  | _, _ => False

section Parts

variable {answers : RefreshAnswers} {coordinator : Coordinator}

variable {α : Type} {raised : RefreshError} {program : RefreshM (Option FeaturePolicySnapshot)}

theorem onError_rejects (rejects : (asCoordinatorError raised).reason = .protocol ∨
      (asCoordinatorError raised).reason = .auth) (coordinator : Coordinator) :
    (onError raised : RefreshM α).run coordinator =
      .error (.coordinator (asCoordinatorError raised)) { coordinator with
        snapshotValue := none
        effects := coordinator.effects ++ [.removedCache] } := by
  unfold onError
  simp only [if_pos rejects]
  rfl

theorem onError_keeps (keeps : (asCoordinatorError raised).reason = .network)
    (coordinator : Coordinator) : (onError raised : RefreshM α).run coordinator =
      .error (.coordinator (asCoordinatorError raised)) coordinator := by
  unfold onError
  have neither : ¬ ((asCoordinatorError raised).reason = .protocol ∨
      (asCoordinatorError raised).reason = .auth) := by
    rw [keeps]
    decide
  simp only [if_neg neither]
  rfl

@[simp]
theorem run_setSnapshot (snapshot : Option FeaturePolicySnapshot) (coordinator : Coordinator) :
    (setSnapshot snapshot).run coordinator =
      .ok () { coordinator with snapshotValue := snapshot } :=
  rfl

/-- A callback that is called has been told, even if it throws. -/
@[simp]
theorem run_announce (effect : RefreshEffect) (throws : Bool) (coordinator : Coordinator) :
    (announce effect throws).run coordinator =
      if throws then .error .other { coordinator with effects := coordinator.effects ++ [effect] }
      else .ok () { coordinator with effects := coordinator.effects ++ [effect] } := by
  cases throws <;> rfl

theorem run_publish (document : FeaturePolicyDocument) (source : PolicySource)
    (refreshedAt : Int) (answers : RefreshAnswers) (coordinator : Coordinator) :
    ∃ after, Published document source coordinator after ∧
      ((publish document source refreshedAt answers).run coordinator =
          .ok ⟨document, source, refreshedAt⟩ after ∨
        (publish document source refreshedAt answers).run coordinator = .error .other after) := by
  let snapshot : FeaturePolicySnapshot := ⟨document, source, refreshedAt⟩
  let newlyDisabled := (emergencyFeatures document).filter fun featureId =>
    featureId ∉ coordinator.emergencyIds
  let published (more : List RefreshEffect) : Coordinator := { coordinator with
    snapshotValue := some snapshot
    emergencyIds := emergencyFeatures document
    effects := coordinator.effects ++ more }
  have announced (more : List RefreshEffect) (told : more.any isAnnouncement) :
      Published document source coordinator (published more) :=
    ⟨⟨refreshedAt, rfl⟩, rfl, more, rfl, told⟩
  unfold publish
  simp only [EStateM.run_bind, run_setSnapshot, EStateM.run_get, EStateM.run_modify]
  by_cases newly : newlyDisabled = []
  · refine ⟨published [.refreshed snapshot], announced _ rfl, ?_⟩
    rw [if_neg (not_not_intro newly), EStateM.run_bind, run_announce]
    cases throws : answers.refreshThrows with
    | true => exact inr rfl
    | false => exact inl rfl
  · rw [if_pos newly, EStateM.run_bind, run_announce]
    cases emergencyThrows : answers.emergencyThrows with
    | true =>
      exact ⟨published [.emergencyDisabled newlyDisabled], announced _ rfl, inr rfl⟩
    | false =>
      refine ⟨published ([.emergencyDisabled newlyDisabled] ++ [.refreshed snapshot]),
        announced _ rfl, ?_⟩
      simp only [Bool.false_eq_true, if_false, EStateM.run_bind, run_announce,
        List.append_assoc, published]
      cases throws : answers.refreshThrows with
      | true => exact inr rfl
      | false => exact inl rfl

theorem follows_rejected {program : RefreshM (Option α)} {after : Coordinator}
    (rejects : (asCoordinatorError raised).reason = .protocol ∨
      (asCoordinatorError raised).reason = .auth) (snapshot : after.phase = coordinator.phase)
    (effects : ∃ more, after.effects = coordinator.effects ++ more ∧ ¬ more.any isAnnouncement)
    (runs : program.run coordinator = .error raised after) :
    Follows .rejects coordinator ((tryCatch program onError).run coordinator) := by
  rw [run_tryCatch_error runs, onError_rejects rejects]
  obtain ⟨more, appended, quiet⟩ := effects
  refine ⟨rfl, snapshot, more ++ [.removedCache], ?_, ?_⟩
  · rw [appended, List.append_assoc]
  · simpa [isAnnouncement] using quiet

theorem follows_throw {program : RefreshM (Option α)}
    (rejects : (asCoordinatorError raised).reason = .protocol ∨
      (asCoordinatorError raised).reason = .auth)
    (runs : program.run coordinator = .error raised coordinator) :
    Follows .rejects coordinator ((tryCatch program onError).run coordinator) :=
  follows_rejected rejects rfl ⟨[], by simp, by simp⟩ runs

variable {message : String} {document : FeaturePolicyDocument}

theorem follows_protocol {program : RefreshM (Option α)}
    (runs : program.run coordinator = .error (.coordinator ⟨.protocol, message⟩) coordinator) :
    Follows .rejects coordinator ((tryCatch program onError).run coordinator) :=
  follows_throw (inl rfl) runs

theorem follows_kept {program : RefreshM (Option α)}
    (keeps : (asCoordinatorError raised).reason = .network)
    (runs : program.run coordinator = .error raised coordinator) :
    Follows .keeps coordinator ((tryCatch program onError).run coordinator) := by
  rw [run_tryCatch_error runs, onError_keeps keeps]
  rfl

theorem follows_publish {source : PolicySource} {refreshedAt : Int} {middle : Coordinator}
    (sameSnapshot : middle.phase = coordinator.phase) {effects : List RefreshEffect}
    (sameEffects : middle.effects = coordinator.effects ++ effects)
    (runs : program.run coordinator =
      (do return some (← publish document source refreshedAt answers)).run middle) :
    Follows (.publishes document source) coordinator
      ((tryCatch program onError).run coordinator) := by
  obtain ⟨after, published, outcome⟩ := run_publish document source refreshedAt answers middle
  have complete : Published document source coordinator after := by
    obtain ⟨more, appended, told⟩ := published.effects
    refine ⟨published.snapshot, published.phase.trans sameSnapshot, effects ++ more, ?_, ?_⟩
    · rw [appended, sameEffects, List.append_assoc]
    · rw [List.any_append, told, Bool.or_true]
  rcases outcome with returns | throws
  · have ran := runs.trans (run_bind_ok returns)
    rw [run_tryCatch_ok ran]
    exact complete
  · have ran := runs.trans (run_bind_error throws)
    rw [run_tryCatch_error ran, onError_keeps rfl]
    exact complete

theorem follows_offline (cached : Option FeaturePolicyCacheRecord)
    (runs : program.run coordinator = (match cached with
      | none => throwReason .network message
      | some record => do
        return some (← publish record.document .cache answers.now answers)).run coordinator) :
    Follows (offlineVerdict cached) coordinator ((tryCatch program onError).run coordinator) := by
  cases cached with
  | none => exact follows_kept rfl runs
  | some record => exact follows_publish rfl (List.append_nil _).symm runs

theorem run_assertCurrent (document : FeaturePolicyDocument) (now : Int)
    (coordinator : Coordinator) : (assertCurrent document now).run coordinator =
      if isCurrentAt document now then .ok () coordinator
      else .error (.coordinator ⟨.protocol, "云端返回的功能策略尚未生效或已经过期"⟩) coordinator := by
  have asserted : assertCurrentDocument document now = if isCurrentAt document now then .ok ()
      else .error ⟨.protocol, "云端返回的功能策略尚未生效或已经过期"⟩ := rfl
  unfold assertCurrent
  rw [asserted]
  cases isCurrentAt document now <;> rfl

theorem follows_confirm {now : Int} {record : FeaturePolicyCacheRecord}
    (runs : program.run coordinator = (do
      assertCurrent document now
      writeCache record answers
      return some (← publish document .network now answers)).run coordinator) :
    Follows (confirmVerdict document now answers.cacheWritten) coordinator
      ((tryCatch program onError).run coordinator) := by
  unfold confirmVerdict
  by_cases isCurrent : isCurrentAt document now = true
  · have asserted := run_assertCurrent document now coordinator
    rw [if_pos isCurrent] at asserted
    rw [run_bind_ok asserted] at runs
    rw [if_pos isCurrent]
    cases written : answers.cacheWritten with
    | false =>
      have fails : (writeCache record answers).run coordinator = .error .other coordinator := by
        unfold writeCache
        rw [written]
        rfl
      rw [run_bind_error fails] at runs
      exact follows_kept rfl runs
    | true =>
      have writes : (writeCache record answers).run coordinator = .ok () { coordinator with
          effects := coordinator.effects ++ [.wroteCache record] } := by
        unfold writeCache
        rw [written]
        rfl
      rw [run_bind_ok writes] at runs
      exact follows_publish (by rfl) (by rfl) runs
  · have refuses := run_assertCurrent document now coordinator
    rw [if_neg isCurrent] at refuses
    rw [run_bind_error refuses] at runs
    rw [if_neg isCurrent]
    exact follows_protocol runs

theorem follows_receiveResponse (cached : Option FeaturePolicyCacheRecord)
    (outcome : FetchOutcome) (answers : RefreshAnswers) (coordinator : Coordinator) :
    Follows (responseVerdict cached outcome answers) coordinator
      ((afterResponse cached outcome answers).run coordinator) := by
  unfold afterResponse
  cases outcome with
  | failed => exact follows_offline cached rfl
  | response status contentType contentLength etag =>
    simp only [responseVerdict]
    by_cases denied : status = 401 ∨ status = 403
    · rw [if_pos denied]
      have runs : (receiveResponse cached (.response status contentType contentLength etag)
          answers).run coordinator =
          .error (.coordinator ⟨.auth, "功能策略凭据无效"⟩) { coordinator with
            snapshotValue := none
            effects := coordinator.effects ++ [.removedCache] } := by
        simp only [receiveResponse, if_pos denied]
        rfl
      exact follows_rejected (by exact inr rfl) (by rfl)
        ⟨[.removedCache], by rfl, by decide⟩ runs
    rw [if_neg denied]
    by_cases notModified : status = 304
    · rw [if_pos notModified]
      cases cached with
      | none =>
        apply follows_protocol
        · simp only [receiveResponse, if_neg denied, if_pos notModified]
          rfl
      | some record =>
        apply follows_confirm
        simp only [receiveResponse, if_neg denied, if_pos notModified]
        rfl
    rw [if_neg notModified]
    by_cases unavailable : status = 429 ∨ 500 ≤ status
    · rw [if_pos unavailable]
      apply follows_offline
      simp only [receiveResponse, if_neg denied, if_neg notModified, if_pos unavailable]
      rfl
    rw [if_neg unavailable]
    by_cases unexpected : status ≠ 200
    · rw [if_pos (inl unexpected)]
      apply follows_protocol
      · simp only [receiveResponse, if_neg denied, if_neg notModified, if_neg unavailable,
          if_pos unexpected]
        rfl
    by_cases otherType : mediaType contentType ≠ some "application/json"
    · rw [if_pos (inr (inl otherType))]
      apply follows_protocol
      · simp only [receiveResponse, if_neg denied, if_neg notModified, if_neg unavailable,
          if_neg unexpected, if_pos otherType]
        rfl
    by_cases tooLong : contentLength.any fun length => (featurePolicyMaxBytes : Rat) < length
    · rw [if_pos (inr (inr tooLong))]
      apply follows_protocol
      · simp only [receiveResponse, if_neg denied, if_neg notModified, if_neg unavailable,
          if_neg unexpected, if_neg otherType, if_pos tooLong]
        rfl
    · have goesOn : ¬ (status ≠ 200 ∨ mediaType contentType ≠ some "application/json" ∨
          (contentLength.any fun length => (featurePolicyMaxBytes : Rat) < length)) :=
        not_or.mpr ⟨unexpected, not_or.mpr ⟨otherType, tooLong⟩⟩
      have runs : (receiveResponse cached (.response status contentType contentLength etag)
          answers).run coordinator = .ok none coordinator := by
        simp only [receiveResponse, if_neg denied, if_neg notModified, if_neg unavailable,
          if_neg unexpected, if_neg otherType, if_neg tooLong]
        rfl
      rw [if_neg goesOn, run_tryCatch_ok runs]
      rfl

theorem follows_receiveBody (options : CoordinatorOptions) (etag : String) (refreshedAt : Int)
    (outcome : BodyOutcome) (answers : RefreshAnswers) (coordinator : Coordinator) :
    Follows (bodyVerdict etag refreshedAt outcome answers) coordinator
      ((afterBody options etag refreshedAt outcome answers).run coordinator) := by
  cases outcome with
  | failed => exact follows_kept rfl rfl
  | oversized =>
    apply follows_protocol
    rfl
  | text content =>
    simp only [bodyVerdict]
    cases parsed : parseFeaturePolicyJson content with
    | error message =>
      have runs : (receiveBody options etag refreshedAt (.text content) answers).run
          coordinator = .error (.validation message) coordinator := by
        simp only [receiveBody, parsed]
        rfl
      exact follows_throw (by exact inl rfl) (run_bind_error runs)
    | ok document =>
      cases tagged : validEtag etag with
      | true =>
        apply follows_confirm
        simp only [receiveBody, parsed, tagged, bind_assoc, Bool.not_true,
          Bool.false_eq_true, if_false]
        rfl
      | false =>
        have runs : ∃ message, (receiveBody options etag refreshedAt (.text content)
            answers).run coordinator = .error (.coordinator ⟨.protocol, message⟩) coordinator := by
          have asserted := run_assertCurrent document refreshedAt coordinator
          simp only [receiveBody, parsed, tagged]
          by_cases isCurrent : isCurrentAt document refreshedAt = true
          · rw [if_pos isCurrent] at asserted
            rw [run_bind_ok asserted]
            exact ⟨_, rfl⟩
          · rw [if_neg isCurrent] at asserted
            exact ⟨_, run_bind_error asserted⟩
        obtain ⟨message, refuses⟩ := runs
        exact follows_protocol (run_bind_error refuses)

end Parts

@[grind =]
def verdictOf (coordinator : Coordinator) : CoordinatorAction → Option Verdict
  | .response outcome answers =>
    match coordinator.phase with
    | .fetching cached => some (responseVerdict cached outcome answers)
    | _ => none
  | .body outcome answers =>
    match coordinator.phase with
    | .reading etag refreshedAt => some (bodyVerdict etag refreshedAt outcome answers)
    | _ => none
  | .refresh _ _ | .decide _ | .stop => none

/-- The state after an answer of Cloud. -/
structure Decided (verdict : Verdict) (before after : Coordinator) : Prop where
  snapshot : match verdict with
    | .publishes document source => ∃ refreshedAt,
        after.snapshotValue = some ⟨document, source, refreshedAt⟩
    | .rejects => after.snapshotValue = none
    | .keeps | .continues => after.snapshotValue = before.snapshotValue
  effects : ∃ more, after.effects = before.effects ++ more ∧
    (more.any isAnnouncement ↔ ∃ document source, verdict = .publishes document source)
  phase : after.phase = .idle ↔ verdict ≠ .continues

variable {before : Coordinator}

variable {verdict : Verdict} {answers : RefreshAnswers} {options : CoordinatorOptions}
  {after : Coordinator} {action : CoordinatorAction}

theorem decided_settled {α : Type} {result : EStateM.Result RefreshError Coordinator (Option α)}
    (follows : Follows verdict before result) (settles : verdict ≠ .continues) :
    Decided verdict before (settled result) := by
  cases verdict with
  | publishes document source =>
    have published : ∃ after, settled result = { after with phase := .idle } ∧
        Published document source before after := by
      rcases result with ⟨_ | value, after⟩ | ⟨error, after⟩
      · exact follows.elim
      · exact ⟨after, rfl, follows⟩
      · exact ⟨after, rfl, follows⟩
    obtain ⟨after, same, published⟩ := published
    obtain ⟨more, appended, told⟩ := published.effects
    rw [same]
    exact ⟨published.snapshot, ⟨more, appended, by simp [told]⟩, by simp⟩
  | rejects =>
    rcases result with ⟨value, after⟩ | ⟨error, after⟩
    · cases value <;> exact follows.elim
    · obtain ⟨more, appended, quiet⟩ := follows.effects
      exact ⟨follows.snapshot, ⟨more, appended, by simp [quiet]⟩, by simp [settled]⟩
  | keeps =>
    rcases result with ⟨value, after⟩ | ⟨error, after⟩
    · cases value <;> exact follows.elim
    · cases follows
      exact ⟨rfl, ⟨[], by simp [settled], by simp⟩, by simp [settled]⟩
  | continues => exact absurd rfl settles

theorem responseVerdict_failed_ne {cached : Option FeaturePolicyCacheRecord} :
    responseVerdict cached .failed answers ≠ .continues := by
  cases cached <;> simp [responseVerdict, offlineVerdict]

theorem bodyVerdict_ne {etag : String} {refreshedAt : Int} {outcome : BodyOutcome} :
    bodyVerdict etag refreshedAt outcome answers ≠ .continues := by
  cases outcome with
  | failed => simp [bodyVerdict]
  | oversized => simp [bodyVerdict]
  | text content =>
    simp only [bodyVerdict]
    split
    · simp
    · unfold confirmVerdict
      split_ifs <;> simp

theorem decided_step (asked : verdictOf before action = some verdict)
    (steps : step options before action = some after) : Decided verdict before after := by
  cases action with
  | response outcome answers =>
    cases phase : before.phase with
    | fetching cached =>
      simp only [verdictOf, phase, Option.some.injEq] at asked
      have follows := follows_receiveResponse cached outcome answers before
      rw [asked] at follows
      simp only [step, phase] at steps
      rcases result : (afterResponse cached outcome answers).run before with
        ⟨_ | value, middle⟩ | ⟨error, middle⟩
      · rw [result] at follows steps
        cases verdict with
        | continues =>
          cases follows
          cases outcome with
          | failed => exact absurd asked responseVerdict_failed_ne
          | response status contentType contentLength etag =>
            cases steps
            exact ⟨rfl, ⟨[], by simp, by simp⟩, by simp⟩
        | _ => exact follows.elim
      · have settles : verdict ≠ .continues := by
          rintro rfl
          rw [result] at follows
          exact follows
        have decided := decided_settled follows settles
        rw [result] at decided steps
        cases steps
        exact decided
      · have settles : verdict ≠ .continues := by
          rintro rfl
          rw [result] at follows
          exact follows
        have decided := decided_settled follows settles
        rw [result] at decided steps
        cases steps
        exact decided
    | _ => simp [verdictOf, phase] at asked
  | body outcome answers =>
    cases phase : before.phase with
    | reading etag refreshedAt =>
      simp only [verdictOf, phase, Option.some.injEq] at asked
      have follows := follows_receiveBody options etag refreshedAt outcome answers before
      rw [asked] at follows
      simp only [step, phase, Option.some.injEq] at steps
      rw [← steps]
      exact decided_settled follows (asked ▸ bodyVerdict_ne)
    | _ => simp [verdictOf, phase] at asked
  | _ => cases asked

/-- Other actions leave the policy in force, or none, and tell nothing. -/
theorem quiet_step (unasked : verdictOf before action = none)
    (steps : step options before action = some after) : after.effects = before.effects ∧
      (after.snapshotValue = before.snapshotValue ∨ after.snapshotValue = none) := by
  cases action with
  | refresh startedAt file =>
    simp only [step] at steps
    split at steps
    · cases steps
      exact ⟨rfl, inl rfl⟩
    · cases steps
      exact ⟨rfl, inl rfl⟩
  | response outcome answers =>
    cases phase : before.phase with
    | fetching cached => simp [verdictOf, phase] at unasked
    | _ => simp [step, phase] at steps
  | body outcome answers =>
    cases phase : before.phase with
    | reading etag refreshedAt => simp [verdictOf, phase] at unasked
    | _ => simp [step, phase] at steps
  | decide request =>
    cases steps
    unfold decide
    split
    · exact ⟨rfl, inl rfl⟩
    · split
      · exact ⟨rfl, inr rfl⟩
      · exact ⟨rfl, inl rfl⟩
  | stop =>
    cases steps
    exact ⟨rfl, inr rfl⟩

end FeaturePolicyCoordinator

end LongHub
