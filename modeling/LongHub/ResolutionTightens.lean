import LongHub.ApplicablePolicies
import LongHub.FeatureRestriction

/-!
# Resolution only tightens

One more applicable entry makes the policy of a feature stricter, and the order of the entries shows
only in the list of the scopes.
-/

namespace LongHub

open List ResolvedFeaturePolicy

/-- The second policy allows nothing that the first does not, and keeps all of
its requirements and restrictions. -/
structure Tightens (before after : ResolvedFeaturePolicy) : Prop where
  enabled : after.enabled = true → before.enabled = true
  emergency : before.emergencyDisabled = true → after.emergencyDisabled = true
  mode : (featurePolicyModes.map Prod.fst).idxOf before.mode ≤
    (featurePolicyModes.map Prod.fst).idxOf after.mode
  risk : before.riskLevel = .high → after.riskLevel = .high
  limits : ∀ key limit, before.limits key = some limit →
    ∃ lower, after.limits key = some lower ∧ lower ≤ limit
  location : (featureProcessingLocations.map Prod.fst).idxOf before.dataPolicy.processingLocation ≤
    (featureProcessingLocations.map Prod.fst).idxOf after.dataPolicy.processingLocation
  retention : after.dataPolicy.retentionDays ≤ before.dataPolicy.retentionDays
  exports : after.dataPolicy.exportAllowed = true → before.dataPolicy.exportAllowed = true
  deletions : after.dataPolicy.deletionAllowed = true → before.dataPolicy.deletionAllowed = true
  entitlements : before.requiredEntitlements ⊆ after.requiredEntitlements
  permissions : before.requiredPermissions ⊆ after.requiredPermissions

structure SameButScopes (one other : ResolvedFeaturePolicy) : Prop where
  fields : { one with appliedScopes := [] } = { other with appliedScopes := [] }
  scopes : one.appliedScopes.Perm other.appliedScopes

section Compared

variable {one other before after : ResolvedFeaturePolicy}

theorem tightens_of_restriction_le (stricter : before.restriction ≤ after.restriction) :
    Tightens before after := by
  have strict := FeatureRestriction.stricter_of_le stricter
  constructor
  · simpa [restriction] using mt strict.disabled
  · exact strict.emergency
  · exact strict.mode
  · simpa [restriction] using strict.highRisk
  · intro key limit limitEq
    have lower := strict.limits key
    simp only [restriction, limitEq, Option.elim_some] at lower
    cases afterEq : after.limits key with
    | none => simp [afterEq] at lower
    | some other => exact ⟨other, rfl, by simpa [afterEq] using lower⟩
  · exact strict.location
  · simpa [restriction] using strict.retention
  · simpa [restriction] using mt strict.exportForbidden
  · simpa [restriction] using mt strict.deletionForbidden
  · intro text required
    have stricter := strict.entitlements (mem_toFinset.mpr required)
    exact mem_toFinset.mp stricter
  · intro text required
    have stricter := strict.permissions (mem_toFinset.mpr required)
    exact mem_toFinset.mp stricter

theorem decideFeatureAccess_eq_allowed_iff {policy : ResolvedFeaturePolicy}
    {grants : FeatureGrants} : decideFeatureAccess (some policy) grants = .allowed ↔
      policy.emergencyDisabled = false ∧ policy.enabled = true ∧
        policy.requiredEntitlements ⊆ grants.entitlements ∧
        policy.requiredPermissions ⊆ grants.permissions := by
  have nothingMissing (required granted : List String) :
      required.filter (fun text => !granted.contains text) = [] ↔ required ⊆ granted := by
    simp [filter_eq_nil_iff, subset_def]
  simp only [← nothingMissing]
  simp only [decideFeatureAccess]
  split
  · next emergency => simp [emergency]
  · next running =>
    split
    · next disabled => exact iff_of_false (by simp) fun all => by simp [all.2.1] at disabled
    · next enabled =>
      split
      · next missing => exact iff_of_false (by simp) fun all => missing all.2.2.1
      · next entitled =>
        split
        · next missing => exact iff_of_false (by simp) fun all => missing all.2.2.2
        · next permitted =>
          apply iff_of_true rfl
          exact ⟨by simpa using running, by simpa using enabled, not_not.mp entitled,
            not_not.mp permitted⟩

theorem Tightens.allowed (tightens : Tightens before after) {grants : FeatureGrants}
    (allowed : decideFeatureAccess (some after) grants = .allowed) :
    decideFeatureAccess (some before) grants = .allowed := by
  obtain ⟨running, enabled, entitled, permitted⟩ := decideFeatureAccess_eq_allowed_iff.mp allowed
  apply decideFeatureAccess_eq_allowed_iff.mpr
  refine ⟨?_, tightens.enabled enabled, List.Subset.trans tightens.entitlements entitled,
    List.Subset.trans tightens.permissions permitted⟩
  cases disabled : before.emergencyDisabled with
  | false => rfl
  | true =>
    rw [tightens.emergency disabled] at running
    cases running

/-- The values of an enumeration have different places. -/
theorem mode_injective {one other : FeaturePolicyMode}
    (same : (featurePolicyModes.map Prod.fst).idxOf one =
      (featurePolicyModes.map Prod.fst).idxOf other) : one = other := by
  cases one <;> cases other <;> first | rfl | cases same

theorem location_injective {one other : FeatureProcessingLocation}
    (same : (featureProcessingLocations.map Prod.fst).idxOf one =
      (featureProcessingLocations.map Prod.fst).idxOf other) : one = other := by
  cases one <;> cases other <;> first | rfl | cases same

theorem nodup_eraseDups {α : Type} [BEq α] [LawfulBEq α] :
    ∀ elements : List α, elements.eraseDups.Nodup
  | [] => by simp
  | head :: tail => by
    rw [eraseDups_cons, nodup_cons]
    constructor
    · simp [mem_eraseDups]
    · exact nodup_eraseDups _
termination_by elements => elements.length
decreasing_by
  have shorter := length_filter_le (fun element => !(element == head)) tail
  simp only [length_cons]
  omega

theorem unionSorted_eq {lists others : List (List String)}
    (same : (unionSorted lists).toFinset = (unionSorted others).toFinset)
    (identifiers : ∀ list ∈ lists, ∀ text ∈ list, Collation.IsIdentifier text) :
    unionSorted lists = unionSorted others := by
  apply Collation.sorted_eq_of_perm
  · apply (perm_ext_iff_of_nodup (nodup_eraseDups _) (nodup_eraseDups _)).mpr
    intro text
    have mem := Finset.ext_iff.mp same text
    simpa [unionSorted] using mem
  · intro text mem
    obtain ⟨list, listIn, inList⟩ := mem_flatten.mp (mem_eraseDups.mp mem)
    exact identifiers list listIn text inList

theorem fields_of_restriction (same : one.restriction = other.restriction)
    (feature : one.featureId = other.featureId) (version : one.policyVersion = other.policyVersion)
    (entitlements : one.requiredEntitlements = other.requiredEntitlements)
    (permissions : one.requiredPermissions = other.requiredPermissions) :
    { one with appliedScopes := [] } = { other with appliedScopes := [] } := by
  have disabled := congrArg FeatureRestriction.disabled same
  have emergency := congrArg FeatureRestriction.emergency same
  have mode := mode_injective (congrArg FeatureRestriction.mode same)
  have risk := congrArg FeatureRestriction.highRisk same
  have limits := congrArg FeatureRestriction.limits same
  have location := location_injective (congrArg FeatureRestriction.location same)
  have retention := congrArg FeatureRestriction.retention same
  have exports := congrArg FeatureRestriction.exportForbidden same
  have deletions := congrArg FeatureRestriction.deletionForbidden same
  simp only [restriction, Bool.not_inj_iff, decide_eq_decide,
    WithTop.coe_inj] at disabled emergency risk limits retention exports deletions
  rw [mk.injEq]
  refine ⟨feature, version, disabled, emergency, mode, ?_, ?_, ?_, entitlements, permissions, rfl⟩
  · cases oneRisk : one.riskLevel <;> cases otherRisk : other.riskLevel <;> simp_all
  · funext key
    have limit := congrFun limits key
    cases oneLimit : one.limits key <;> cases otherLimit : other.limits key <;> simp_all
  · cases oneData : one.dataPolicy
    cases otherData : other.dataPolicy
    simp_all

theorem sameButScopes_of_perm {policyVersion : String} {featureId : FeatureId}
    {first otherFirst : FeaturePolicyEntry} {rest otherRest : List FeaturePolicyEntry}
    (permuted : (first :: rest).Perm (otherFirst :: otherRest))
    (identified : ∀ entry ∈ first :: rest, entry.Identified) :
    SameButScopes (mergeEntries policyVersion featureId first rest)
      (mergeEntries policyVersion featureId otherFirst otherRest) := by
  have same : (mergeEntries policyVersion featureId first rest).restriction =
      (mergeEntries policyVersion featureId otherFirst otherRest).restriction := by
    rw [restriction_mergeEntries, restriction_mergeEntries, commonRestriction_perm permuted]
  constructor
  · apply fields_of_restriction same rfl rfl
    · apply unionSorted_eq (congrArg FeatureRestriction.entitlements same)
      intro list listIn text inList
      obtain ⟨entry, mem, rfl⟩ := mem_map.mp listIn
      exact isIdentifier_of_segmentsPattern ((identified entry mem).entitlements text inList)
    · apply unionSorted_eq (congrArg FeatureRestriction.permissions same)
      intro list listIn text inList
      obtain ⟨entry, mem, rfl⟩ := mem_map.mp listIn
      exact isIdentifier_of_segmentsPattern ((identified entry mem).permissions text inList)
  · exact permuted.map appliedScope

theorem SameButScopes.decision (same : SameButScopes one other) (grants : FeatureGrants) :
    decideFeatureAccess (some one) grants = decideFeatureAccess (some other) grants := by
  have decisions := congrArg (fun policy => decideFeatureAccess (some policy) grants) same.fields
  exact decisions

end Compared

def OutcomeTightens :
    Except String (Option ResolvedFeaturePolicy) →
      Except String (Option ResolvedFeaturePolicy) → Prop
  | .error problem, .error otherProblem => problem = otherProblem
  | .ok none, .ok (some _) => True
  | .ok (some before), .ok (some after) =>
    Tightens before after ∧ ∀ grants, decideFeatureAccess (some before) grants ≠ .allowed →
        decideFeatureAccess (some after) grants ≠ .allowed
  | _, _ => False

def SameOutcome :
    Except String (Option ResolvedFeaturePolicy) →
      Except String (Option ResolvedFeaturePolicy) → Prop
  | .error problem, .error otherProblem => problem = otherProblem
  | .ok none, .ok none => True
  | .ok (some one), .ok (some other) =>
    SameButScopes one other ∧ ∀ grants,
      decideFeatureAccess (some one) grants = decideFeatureAccess (some other) grants
  | _, _ => False

section Resolution

variable (document : FeaturePolicyDocument) (featureId : FeatureId)
variable (context : FeaturePolicyContext)

theorem resolveFeaturePolicy_eq (features : List FeaturePolicyEntry) :
    resolveFeaturePolicy { document with features } featureId context =
      (assertDocumentFresh document context.now).bind fun _ =>
        (applicableEntries featureId context features).bind fun entries =>
          match entries with
          | [] => .ok none
          | first :: rest =>
            .ok (some (mergeEntries document.policyVersion featureId first rest)) :=
  rfl

variable {document featureId context}

theorem resolution_add {before after : List FeaturePolicyEntry} {entry : FeaturePolicyEntry}
    (about : entry.featureId = featureId)
    (isApplicable : isEntryApplicable entry context = .ok true) :
    OutcomeTightens
      (resolveFeaturePolicy { document with features := before ++ after } featureId context)
      (resolveFeaturePolicy { document with features := before ++ entry :: after } featureId
        context) := by
  rw [resolveFeaturePolicy_eq, resolveFeaturePolicy_eq]
  cases assertDocumentFresh document context.now with
  | error problem => exact rfl
  | ok fresh =>
    rcases applicableEntries_add about isApplicable with
      ⟨failed, moreFailed⟩ | ⟨entries, more, found, moreFound, permuted⟩
    · rw [failed, moreFailed]
      exact rfl
    · rw [found, moreFound]
      cases more with
      | nil => cases permuted.nil_eq
      | cons moreFirst moreRest =>
        cases entries with
        | nil => trivial
        | cons first rest =>
          have tightens : Tightens (mergeEntries document.policyVersion featureId first rest)
              (mergeEntries document.policyVersion featureId moreFirst moreRest) := by
            apply tightens_of_restriction_le
            rw [restriction_mergeEntries, restriction_mergeEntries, commonRestriction_perm permuted]
            exact commonRestriction_mono (subset_cons_self _ _)
          exact ⟨tightens, fun grants denied allowed => denied (tightens.allowed allowed)⟩

theorem resolution_perm {features others : List FeaturePolicyEntry}
    (permuted : features.Perm others) (identified : ∀ entry ∈ features, entry.Identified) :
    SameOutcome (resolveFeaturePolicy { document with features } featureId context)
      (resolveFeaturePolicy { document with features := others } featureId context) := by
  rw [resolveFeaturePolicy_eq, resolveFeaturePolicy_eq]
  cases assertDocumentFresh document context.now with
  | error problem => exact rfl
  | ok fresh =>
    rcases @applicableEntries_perm featureId context _ _ permuted with
      ⟨failed, otherFailed⟩ | ⟨entries, otherEntries, found, otherFound, same⟩
    · rw [failed, otherFailed]
      exact rfl
    · have applied : ∀ entry ∈ entries, entry.Identified := by
        intro entry mem
        rw [(applicableEntries_eq_ok_iff.mp found).2] at mem
        exact identified entry (mem_of_mem_filter mem)
      rw [found, otherFound]
      cases entries with
      | nil =>
        obtain rfl := same.nil_eq
        trivial
      | cons first rest =>
        cases otherEntries with
        | nil => cases same.symm.nil_eq
        | cons otherFirst otherRest =>
          have scopes : SameButScopes (mergeEntries document.policyVersion featureId first rest)
              (mergeEntries document.policyVersion featureId otherFirst otherRest) :=
            sameButScopes_of_perm same applied
          exact ⟨scopes, scopes.decision⟩

end Resolution

/-- One more applicable entry makes an existing policy stricter, and the order
of the entries does not matter. -/
theorem resolutionTightens (document : FeaturePolicyDocument)
    (identified : ∀ entry ∈ document.features, entry.Identified) (featureId : FeatureId)
    (context : FeaturePolicyContext) :
    (∀ before after entry, document.features = before ++ after →
      entry.featureId = featureId → isEntryApplicable entry context = .ok true →
        OutcomeTightens (resolveFeaturePolicy document featureId context)
          (resolveFeaturePolicy { document with features := before ++ entry :: after }
            featureId context)) ∧
    ∀ features, document.features.Perm features →
      SameOutcome (resolveFeaturePolicy document featureId context)
        (resolveFeaturePolicy { document with features } featureId context) := by
  constructor
  · intro before after entry split about isApplicable
    have added := @resolution_add document _ _ before after _ about isApplicable
    rwa [← split] at added
  · intro features permuted
    exact resolution_perm permuted identified

def chatEntry (scope : FeaturePolicyScope) (scopeId : Option String) (count : Option Nat) :
    FeaturePolicyEntry where
  featureId := .chatCore
  enabled := true
  scope := scope
  scopeId := scopeId
  audience := .user
  mode := .default
  riskLevel := .low
  limits key := if key = .count then count else none
  dataPolicy := ⟨.platformRegion, 30, true, true⟩
  requiredEntitlements := []
  requiredPermissions := ["chat:send"]
  minManagerVersion := "1.0.0"
  maxManagerVersion := none
  emergencyDisabled := false

def chatDocument (features : List FeaturePolicyEntry) : FeaturePolicyDocument where
  policyVersion := "fp-1"
  issuedAt := "2026-01-01T00:00:00.000Z"
  expiresAt := "2026-01-01T00:05:00.000Z"
  features := features

def chatContext : FeaturePolicyContext where
  managerVersion := "1.2.0-beta.1"
  audience := .user
  scopeIds scope := if scope = .tenant then some (.one "acme") else none
  now := some 1767225660000

theorem resolutionTightens_chat : OutcomeTightens
        (resolveFeaturePolicy (chatDocument [chatEntry .global none none]) .chatCore chatContext)
        (resolveFeaturePolicy
          (chatDocument [chatEntry .global none none, chatEntry .tenant (some "acme") (some 5)])
          .chatCore chatContext) ∧ SameOutcome (resolveFeaturePolicy
          (chatDocument [chatEntry .global none none, chatEntry .tenant (some "acme") (some 5)])
          .chatCore chatContext) (resolveFeaturePolicy
          (chatDocument [chatEntry .tenant (some "acme") (some 5), chatEntry .global none none])
          .chatCore chatContext) := by
  have identified (scope : FeaturePolicyScope) (scopeId : Option String) (count : Option Nat) :
      (chatEntry scope scopeId count).Identified := by
    constructor
    · intro text required
      cases required
    · intro text required
      rw [mem_singleton.mp required]
      decide
  constructor
  · have one := resolutionTightens (chatDocument [chatEntry .global none none])
      (by simpa [chatDocument] using identified .global none none) .chatCore chatContext
    have applicable :
        isEntryApplicable (chatEntry .tenant (some "acme") (some 5)) chatContext = .ok true := by
      decide
    have added := one.1 [chatEntry .global none none] []
      (chatEntry .tenant (some "acme") (some 5)) rfl rfl applicable
    exact added
  · have both := resolutionTightens
      (chatDocument [chatEntry .global none none, chatEntry .tenant (some "acme") (some 5)])
      (by simp [chatDocument, identified]) .chatCore chatContext
    have swapped := both.2 [chatEntry .tenant (some "acme") (some 5), chatEntry .global none none]
      (List.Perm.swap _ _ _)
    exact swapped

/-- The first entry about a feature may allow what was denied before. -/
theorem not_tighteningLaw :
    ¬ ∀ (document : FeaturePolicyDocument) (featureId : FeatureId)
      (context : FeaturePolicyContext) (entry : FeaturePolicyEntry) (grants : FeatureGrants),
      entry.Identified → entry.featureId = featureId →
      isEntryApplicable entry context = .ok true →
      (resolveFeaturePolicy document featureId context).map
          (decideFeatureAccess · grants) ≠ .ok .allowed →
        (resolveFeaturePolicy { document with features := entry :: document.features } featureId
          context).map (decideFeatureAccess · grants) ≠ .ok .allowed := by
  intro law
  apply law (chatDocument []) .chatCore chatContext (chatEntry .global none none)
    ⟨[], ["chat:send"]⟩
  · constructor
    · intro text required
      cases required
    · intro text required
      rw [mem_singleton.mp required]
      decide
  · rfl
  · decide
  · decide
  · decide

end LongHub
