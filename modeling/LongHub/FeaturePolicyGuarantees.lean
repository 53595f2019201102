import LongHub.FeaturePolicyRefreshes

/-!
# Guarantees of the feature policy

A document that Cloud sends is in force after the refresh if the cache could be written.
-/

namespace LongHub

open JsonValue

namespace FeaturePolicyCoordinator

open FeaturePolicyCache

def allowedPolicy : LocalFeaturePolicyDecision → Option ResolvedFeaturePolicy
  | .allowed _ policy => some policy
  | .denied _ _ _ _ => none

def Allows (options : CoordinatorOptions) (coordinator : Coordinator)
    (request : DecisionRequest) : Prop :=
  (allowedPolicy (decide options request coordinator).1).isSome

def AllowsHighRisk (options : CoordinatorOptions) (coordinator : Coordinator)
    (request : DecisionRequest) : Prop :=
  ∃ policy, allowedPolicy (decide options request coordinator).1 = some policy ∧
    policy.riskLevel = .high

def decisionBy (options : CoordinatorOptions) (request : DecisionRequest)
    (document : FeaturePolicyDocument) (source : PolicySource) : LocalFeaturePolicyDecision :=
  if parsedInstant document.expiresAt ≤ request.currentAt then
    .denied .policyUnavailable none none []
  else
    match resolveFeaturePolicy document request.featureId (policyContext options request) with
    | .error _ => .denied .policyUnavailable none none []
    | .ok policy => decideResolved options request source policy

def DocumentAllows (options : CoordinatorOptions) (document : FeaturePolicyDocument)
    (request : DecisionRequest) : Prop :=
  (allowedPolicy (decisionBy options request document .network)).isSome

section Decisions

variable {options : CoordinatorOptions} {coordinator other : Coordinator}
variable {request : DecisionRequest}

theorem decide_of_none (none : coordinator.snapshotValue = none) :
    (decide options request coordinator).1 = .denied .policyUnavailable .none .none [] := by
  unfold decide current
  rw [none]

theorem decide_of_some {snapshot : FeaturePolicySnapshot}
    (inForce : coordinator.snapshotValue = some snapshot) : (decide options request coordinator).1 =
      decisionBy options request snapshot.document snapshot.source := by
  unfold decide current decisionBy
  rw [inForce]
  by_cases expired : parsedInstant snapshot.document.expiresAt ≤ request.currentAt
  · simp only [if_pos expired]
  · simp only [if_neg expired]
    cases resolveFeaturePolicy snapshot.document request.featureId
        (policyContext options request) with
    | error error => rfl
    | ok policy => rfl

theorem not_allows_of_none (none : coordinator.snapshotValue = none) :
    ¬ Allows options coordinator request := by
  rw [Allows, decide_of_none none]
  simp [allowedPolicy]

theorem AllowsHighRisk.allows (allows : AllowsHighRisk options coordinator request) :
    Allows options coordinator request := by
  obtain ⟨policy, isAllowed, _⟩ := allows
  exact Option.isSome_of_eq_some isAllowed

/-- What is allowed depends on the policy in force alone. -/
theorem decide_congr (same : coordinator.snapshotValue = other.snapshotValue) :
    (decide options request coordinator).1 = (decide options request other).1 := by
  cases inForce : other.snapshotValue with
  | none => rw [decide_of_none (same.trans inForce), decide_of_none inForce]
  | some snapshot => rw [decide_of_some (same.trans inForce), decide_of_some inForce]

theorem allows_congr (same : coordinator.snapshotValue = other.snapshotValue) :
    Allows options coordinator request ↔ Allows options other request := by
  rw [Allows, Allows, decide_congr same]

theorem allowsHighRisk_congr (same : coordinator.snapshotValue = other.snapshotValue) :
    AllowsHighRisk options coordinator request ↔ AllowsHighRisk options other request := by
  rw [AllowsHighRisk, AllowsHighRisk, decide_congr same]

theorem not_allowsHighRisk_of_cache {snapshot : FeaturePolicySnapshot}
    (inForce : coordinator.snapshotValue = some snapshot) (cached : snapshot.source = .cache) :
    ¬ AllowsHighRisk options coordinator request := by
  rintro ⟨policy, isAllowed, high⟩
  rw [decide_of_some inForce, cached, decisionBy] at isAllowed
  split_ifs at isAllowed
  · cases isAllowed
  · split at isAllowed
    · cases isAllowed
    · next resolved _ =>
      unfold decideResolved at isAllowed
      split_ifs at isAllowed with offline
      · cases isAllowed
      · cases resolved with
        | none =>
          cases isAllowed
        | some found =>
          split at isAllowed
          · next same =>
            cases same
            cases isAllowed
            exact offline ⟨rfl, by simp [high]⟩
          · next absent => cases absent
          · cases isAllowed

end Decisions

def IsLocal (_ : Coordinator) : CoordinatorAction → Prop
  | .refresh _ _ | .decide _ | .stop => True
  | .response _ _ | .body _ _ => False

def Brings (document : FeaturePolicyDocument) (coordinator : Coordinator) : CoordinatorAction → Prop
  | .response (.response status _ _ _) _ => status = 200
  | .body (.text content) _ => ∃ etag refreshedAt, coordinator.phase = .reading etag refreshedAt ∧
      parseFeaturePolicyJson content = .ok document ∧ isCurrentAt document refreshedAt = true
  | _ => False

def CacheFails (coordinator : Coordinator) : CoordinatorAction → Prop
  | .body _ answers => ∃ etag refreshedAt, coordinator.phase = .reading etag refreshedAt ∧
      validEtag etag = true ∧ answers.cacheWritten = false
  | _ => False

section Received

variable {options : CoordinatorOptions} {before after : Coordinator}

/-- Until a further refresh settles the policy in force stays, or is taken away. -/
theorem snapshotValue_local (run : GuardedRun (step options) IsLocal before after) :
    after.snapshotValue = before.snapshotValue ∨ after.snapshotValue = none := by
  apply run.invariant (fun state => state.snapshotValue = before.snapshotValue ∨
    state.snapshotValue = none) (Or.inl rfl)
  intro middle next action kept isLocal steps
  have unasked : verdictOf middle action = none := by
    cases action with
    | response outcome answers => exact isLocal.elim
    | body outcome answers => exact isLocal.elim
    | _ => rfl
  rcases (quiet_step unasked steps).2 with same | none
  · rw [same]
    exact kept
  · exact Or.inr none

theorem idle_of_body {outcome : BodyOutcome} {answers : RefreshAnswers}
    (steps : step options before (.body outcome answers) = some after) : after.phase = .idle := by
  cases phase : before.phase with
  | reading etag refreshedAt =>
    have asked : verdictOf before (.body outcome answers) =
        some (bodyVerdict etag refreshedAt outcome answers) := by
      simp only [verdictOf, phase]
    exact (decided_step asked steps).phase.mpr bodyVerdict_ne
  | _ => simp [step, phase] at steps

/-- What is done with a 200 answer that is read to its end. -/
theorem verdict_of_brings {document : FeaturePolicyDocument} {action : CoordinatorAction}
    (brings : Brings document before action) (steps : step options before action = some after)
    (idle : after.phase = .idle) :
    (CacheFails before action ∧ verdictOf before action = some .keeps) ∨
    (¬ CacheFails before action ∧ (verdictOf before action = some .rejects ∨
      verdictOf before action = some (.publishes document .network))) := by
  cases action with
  | response outcome answers =>
    right
    refine ⟨id, Or.inl ?_⟩
    cases outcome with
    | failed => exact brings.elim
    | response status contentType contentLength etag =>
      cases phase : before.phase with
      | fetching cached =>
        have asked : verdictOf before (.response (.response status contentType contentLength
            etag) answers) = some (responseVerdict cached (.response status contentType
              contentLength etag) answers) := by
          simp only [verdictOf, phase]
        have decided := decided_step asked steps
        have settles := decided.phase.mp idle
        rw [asked]
        have isOk : status = 200 := brings
        simp only [responseVerdict] at settles ⊢
        split_ifs at settles ⊢ <;> simp_all
      | _ => simp [step, phase] at steps
  | body outcome answers =>
    cases outcome with
    | text content =>
      obtain ⟨etag, refreshedAt, phase, parsed, isCurrent⟩ := brings
      have fails_iff : CacheFails before (.body (.text content) answers) ↔
          validEtag etag = true ∧ answers.cacheWritten = false := by
        constructor
        · rintro ⟨other, otherAt, otherPhase, facts⟩
          rw [phase] at otherPhase
          cases otherPhase
          exact facts
        · intro facts
          exact ⟨etag, refreshedAt, phase, facts⟩
      rw [fails_iff]
      simp only [verdictOf, phase, bodyVerdict, parsed, confirmVerdict, isCurrent, if_true]
      cases validEtag etag <;> cases answers.cacheWritten <;> simp
    | _ => exact brings.elim
  | _ => exact brings.elim

/-- What a received document denies is denied after the refresh if and only if the
cache could be written, or the policy in force denies it already. -/
theorem receivedPolicy_takesEffect_iff (options : CoordinatorOptions)
    (document : FeaturePolicyDocument) (before after : Coordinator) (action : CoordinatorAction)
    (brings : Brings document before action) (steps : step options before action = some after)
    (idle : after.phase = .idle) : (∀ last, GuardedRun (step options) IsLocal after last →
      ∀ request, Allows options last request → DocumentAllows options document request) ↔
    (CacheFails before action →
      ∀ request, Allows options before request → DocumentAllows options document request) := by
  rcases verdict_of_brings brings steps idle with ⟨fails, asked⟩ | ⟨works, asked⟩
  · have kept : after.snapshotValue = before.snapshotValue := (decided_step asked steps).snapshot
    constructor
    · intro takesEffect _ request allows
      exact takesEffect after .refl request ((allows_congr kept).mpr allows)
    · intro bounded last run request allows
      rcases snapshotValue_local run with same | none
      · exact bounded fails request ((allows_congr (same.trans kept)).mp allows)
      · exact absurd allows (not_allows_of_none none)
  · refine ⟨fun _ fails => absurd fails works, ?_⟩
    intro _ last run request allows
    rcases snapshotValue_local run with same | none
    · rcases asked with rejects | publishes
      · have cleared : after.snapshotValue = none := (decided_step rejects steps).snapshot
        exact absurd allows (not_allows_of_none (same.trans cleared))
      · obtain ⟨refreshedAt, inForce⟩ := (decided_step publishes steps).snapshot
        rw [Allows, decide_of_some (same.trans inForce)] at allows
        exact allows
    · exact absurd allows (not_allows_of_none none)

end Received

def catalogPolicy (risk : String) (emergency : Bool) : JsonValue :=
  .record [("schema_version", .text featurePolicySchema), ("policy_version", .text "fp-1"),
    ("issued_at", .text "2026-07-30T12:00:00.000Z"),
    ("expires_at", .text "2026-07-30T12:05:00.000Z"),
    ("features", .array [.record [("feature_id", .text "skill.catalog"), ("enabled", .bool true),
      ("scope", .text "global"), ("audience", .text "user"), ("mode", .text "default"),
      ("risk_level", .text risk), ("limits", .record []),
      ("data_policy", .record [("processing_location", .text "platform_region"),
        ("retention_days", .number "0"), ("export_allowed", .bool false),
        ("deletion_allowed", .bool true)]),
      ("required_entitlements", .array []), ("required_permissions", .array []),
      ("min_manager_version", .text "0.0.0"), ("emergency_disabled", .bool emergency)]])]

def exampleOptions : CoordinatorOptions where
  origin := "https://cloud.example"
  deviceId := "device-a"
  desktopVersion := "0.5.0"
  audience := .user
  scopeIds := fun _ => none
  entitlements := []
  permissions := []

/-- Two minutes after the policy has been issued. -/
def exampleNow : Int := 1785412920000

def catalogRequest : DecisionRequest :=
  ⟨.skillCatalog, ⟨none, none, none⟩, exampleNow, exampleNow⟩

def exampleAnswers (cacheWritten : Bool) : RefreshAnswers :=
  ⟨exampleNow, cacheWritten, false, false⟩

def receiving (policy : JsonValue) (cacheWritten : Bool) : List CoordinatorAction :=
  [.refresh exampleNow .absent,
    .response (.response 200 (some "application/json") none "") (exampleAnswers true),
    .body (.text (print policy)) (exampleAnswers cacheWritten)]

def readingOf : RefreshPhase → Option (String × Int)
  | .reading etag refreshedAt => some (etag, refreshedAt)
  | .idle | .fetching _ => none

theorem phase_of_readingOf {phase : RefreshPhase} {etag : String} {refreshedAt : Int}
    (reads : readingOf phase = some (etag, refreshedAt)) : phase = .reading etag refreshedAt := by
  cases phase with
  | reading otherEtag otherAt =>
    cases reads
    rfl
  | _ => cases reads

theorem emergencyPolicy_parsed : ∃ document,
    parseFeaturePolicyJson (print (catalogPolicy "low" true)) = .ok document ∧
      isCurrentAt document exampleNow = true ∧
      ¬ DocumentAllows exampleOptions document catalogRequest := by
  have evaluates : (parseFeaturePolicyJson (print (catalogPolicy "low" true))).toOption.map
      (fun document => (isCurrentAt document exampleNow,
        (allowedPolicy (decisionBy exampleOptions catalogRequest document .network)).isSome)) =
      some (true, false) := by
    simp only [catalogPolicy, featurePolicySchema, print, printFields, printItems, JsonText.field,
      JsonText.toList_quote, String.reduceToList]
    decide +kernel
  cases parsed : parseFeaturePolicyJson (print (catalogPolicy "low" true)) with
  | error message =>
    rw [parsed] at evaluates
    cases evaluates
  | ok document =>
    rw [parsed] at evaluates
    obtain ⟨isCurrent, denied⟩ := Prod.mk.inj (Option.some.inj evaluates)
    refine ⟨document, rfl, isCurrent, ?_⟩
    rw [DocumentAllows, denied]
    decide

theorem exists_reading (cacheWritten : Bool) : ∃ before after,
    before.phase = .reading "" exampleNow ∧
    step exampleOptions before (.body (.text (print (catalogPolicy "low" true)))
      (exampleAnswers cacheWritten)) = some after ∧ Allows exampleOptions before catalogRequest ∧
    (Allows exampleOptions after catalogRequest ↔ cacheWritten = false) := by
  have evaluates : ∀ written : Bool, ((runActions (step exampleOptions) initial
      (receiving (catalogPolicy "low" false) true ++ [.refresh exampleNow .absent,
        .response (.response 200 (some "application/json") none "") (exampleAnswers true)])).bind
      fun before => (step exampleOptions before (.body (.text (print
        (catalogPolicy "low" true))) (exampleAnswers written))).map fun after =>
          (readingOf before.phase,
            (allowedPolicy (decide exampleOptions catalogRequest before).1).isSome,
            (allowedPolicy (decide exampleOptions catalogRequest after).1).isSome)) =
      some (some ("", exampleNow), true, !written) := by
    simp only [receiving, catalogPolicy, featurePolicySchema, print, printFields, printItems,
      JsonText.field, JsonText.toList_quote, String.reduceToList]
    decide +kernel
  obtain ⟨before, _, rest⟩ := Option.bind_eq_some_iff.mp (evaluates cacheWritten)
  obtain ⟨after, steps, facts⟩ := Option.map_eq_some_iff.mp rest
  obtain ⟨reads, decisions⟩ := Prod.mk.inj facts
  obtain ⟨allowsBefore, allowsAfter⟩ := Prod.mk.inj decisions
  refine ⟨before, after, phase_of_readingOf reads, steps, allowsBefore, ?_⟩
  rw [Allows, allowsAfter]
  cases cacheWritten <;> decide

theorem receivedPolicy_takesEffect_cached : ∃ before after,
    step exampleOptions before (.body (.text (print (catalogPolicy "low" true)))
      (exampleAnswers true)) = some after ∧ Allows exampleOptions before catalogRequest ∧
    ∀ last, GuardedRun (step exampleOptions) IsLocal after last →
      ¬ Allows exampleOptions last catalogRequest := by
  obtain ⟨before, after, phase, steps, allows, _⟩ := exists_reading true
  obtain ⟨document, parsed, isCurrent, denied⟩ := emergencyPolicy_parsed
  refine ⟨before, after, steps, allows, ?_⟩
  intro last run allowsLast
  have takesEffect := (receivedPolicy_takesEffect_iff exampleOptions document before after _
    (by exact ⟨"", exampleNow, phase, parsed, isCurrent⟩) steps (idle_of_body steps)).mpr
  apply denied
  apply takesEffect _ last run catalogRequest allowsLast
  rintro ⟨_, _, _, _, notWritten⟩
  cases notWritten

/-- The catalog stays allowed when the policy that disables it cannot be cached. -/
theorem not_receivedPolicy_takesEffect : ¬ ∀ (options : CoordinatorOptions)
    (document : FeaturePolicyDocument) (before after : Coordinator) (action : CoordinatorAction),
    Brings document before action → step options before action = some after →
    after.phase = .idle → ∀ request, Allows options after request →
      DocumentAllows options document request := by
  intro claim
  obtain ⟨before, after, phase, steps, _, allows⟩ := exists_reading false
  obtain ⟨document, parsed, isCurrent, denied⟩ := emergencyPolicy_parsed
  exact denied (claim exampleOptions document before after _
    (by exact ⟨"", exampleNow, phase, parsed, isCurrent⟩) steps (idle_of_body steps)
    catalogRequest (allows.mpr rfl))

end FeaturePolicyCoordinator

end LongHub
