import LongHub.FeaturePolicySchema

/-!
# The policy in force for a feature

`resolveFeaturePolicy` merges the entries of a document that apply to a feature in a context into
one policy, and `decideFeatureAccess` says whether that policy lets the feature be used.
-/

namespace LongHub

inductive ScopeIds where
  | one (id : String)
  | list (ids : List String)

structure FeaturePolicyContext where
  managerVersion : String
  audience : FeaturePolicyAudience
  scopeIds : FeaturePolicyScope → Option ScopeIds
  /-- The time of the decision; none for an invalid date. -/
  now : Option Int

structure ResolvedFeaturePolicy where
  featureId : FeatureId
  policyVersion : String
  enabled : Bool
  emergencyDisabled : Bool
  mode : FeaturePolicyMode
  riskLevel : FeatureRiskLevel
  limits : FeatureLimits
  dataPolicy : FeatureDataPolicy
  requiredEntitlements : List String
  requiredPermissions : List String
  appliedScopes : List String

inductive FeatureAccessDenialReason where
  | policyNotFound
  | featureDisabled
  | emergencyDisabled
  | missingEntitlement
  | missingPermission
  deriving DecidableEq

inductive FeatureAccessDecision where
  | allowed
  | denied (reason : FeatureAccessDenialReason) (missing : List String)
  deriving DecidableEq

/-- The numbers of a version, as floating-point numbers, and the parts of its
pre-release. -/
structure ParsedSemver where
  core : List (Option Nat)
  prerelease : List String

def numberOf (digits : List Char) : Option Nat :=
  DoubleNumber.ofNat (Nat.ofDigitChars 10 digits 0)

def parseSemver (version : String) : Except String ParsedSemver :=
  let core := version.toList.takeWhile (· ≠ '-')
  let prerelease := version.toList.dropWhile (· ≠ '-')
  match core.splitOn '.' with
  | [major, minor, patch] =>
    if isVersionNumber major ∧ isVersionNumber minor ∧ isVersionNumber patch ∧
        (prerelease = [] ∨ (prerelease.tail ≠ [] ∧ prerelease.tail.all fun char =>
          char.isAlphanum || char ∈ ['.', '-'])) then
      .ok { core := [numberOf major, numberOf minor, numberOf patch]
            prerelease := if prerelease = [] then []
              else (prerelease.tail.splitOn '.').map String.ofList }
    else .error "Manager 版本不是受支持的语义版本"
  | _ => .error "Manager 版本不是受支持的语义版本"

def compareNumbers : Option Nat → Option Nat → Ordering
  | some left, some right => compare left right
  | some _, none => .lt
  | none, _ => .gt

def lessNumber : Option Nat → Option Nat → Bool
  | some left, some right => left < right
  | some _, none => true
  | none, _ => false

def isNumeric (part : String) : Bool := part ≠ "" && part.toList.all Char.isDigit

def compareParts : List String → List String → Ordering
  | [], [] => .eq
  | [], _ :: _ => .lt
  | _ :: _, [] => .gt
  | left :: lefts, right :: rights =>
    if left = right then compareParts lefts rights
    else if isNumeric left && isNumeric right then
      if lessNumber (numberOf left.toList) (numberOf right.toList) then .lt else .gt
    else if isNumeric left ≠ isNumeric right then
      if isNumeric left then .lt else .gt
    else if left < right then .lt else .gt

def comparePrerelease (left right : List String) : Ordering :=
  if left = [] ∨ right = [] then
    if left.length = right.length then .eq else if left = [] then .gt else .lt
  else compareParts left right

def compareCores : List (Option Nat) → List (Option Nat) → Ordering
  | left :: lefts, right :: rights =>
    if compareNumbers left right = .eq then compareCores lefts rights
    else compareNumbers left right
  | _, _ => .eq

def compareSemver (left right : String) : Except String Ordering := do
  let leftVersion ← parseSemver left
  let rightVersion ← parseSemver right
  if compareCores leftVersion.core rightVersion.core ≠ .eq then
    .ok (compareCores leftVersion.core rightVersion.core)
  else .ok (comparePrerelease leftVersion.prerelease rightVersion.prerelease)

variable (entry : FeaturePolicyEntry)

def inVersionRange (version : String) : Except String Bool := do
  if (← compareSemver version entry.minManagerVersion) = .lt then .ok false
  else
    match entry.maxManagerVersion with
    | none => .ok true
    | some maxManagerVersion =>
      .ok (decide ((← compareSemver version maxManagerVersion) ≠ .gt))

def matchesScope (context : FeaturePolicyContext) : Bool :=
  if entry.scope = .global then true
  else
    match context.scopeIds entry.scope with
    | some (.one id) => some id = entry.scopeId
    | some (.list ids) => ids.contains (entry.scopeId.getD "")
    | none => false

def isEntryApplicable (context : FeaturePolicyContext) :
    Except String Bool := do
  if entry.audience ≠ context.audience then .ok false
  else if ← inVersionRange entry context.managerVersion then .ok (matchesScope entry context)
  else .ok false

/-- The entries of a feature that apply in a context. -/
def applicableEntries (featureId : FeatureId) (context : FeaturePolicyContext) :
    List FeaturePolicyEntry → Except String (List FeaturePolicyEntry)
  | [] => .ok []
  | entry :: rest =>
    if entry.featureId ≠ featureId then applicableEntries featureId context rest
    else do
      let applies ← isEntryApplicable entry context
      let others ← applicableEntries featureId context rest
      .ok (if applies then entry :: others else others)

def mergeLimits (entries : List FeaturePolicyEntry) : FeatureLimits := fun key =>
  (entries.filterMap fun entry => entry.limits key).min?

def maxByOrder {α : Type} [DecidableEq α] (first : α) (rest : List α) (order : TextTable α) : α :=
  rest.foldl (fun highest value =>
    if (order.map Prod.fst).idxOf highest < (order.map Prod.fst).idxOf value then value
    else highest) first

def mergeDataPolicy (first : FeaturePolicyEntry) (rest : List FeaturePolicyEntry) :
    FeatureDataPolicy where
  processingLocation := maxByOrder first.dataPolicy.processingLocation
    (rest.map (·.dataPolicy.processingLocation)) featureProcessingLocations
  retentionDays := rest.foldl (fun least entry => min least entry.dataPolicy.retentionDays)
    first.dataPolicy.retentionDays
  exportAllowed := (first :: rest).all (·.dataPolicy.exportAllowed)
  deletionAllowed := (first :: rest).all (·.dataPolicy.deletionAllowed)

def unionSorted (values : List (List String)) : List String :=
  Collation.sorted values.flatten.eraseDups

def appliedScope : String :=
  if entry.scope = .global then "global"
  else featurePolicyScopes.text entry.scope ++ ":" ++ entry.scopeId.getD "undefined"

/-- Every applicable entry must allow; the strictest mode and limits win. -/
def mergeEntries (policyVersion : String) (featureId : FeatureId) (first : FeaturePolicyEntry)
    (rest : List FeaturePolicyEntry) : ResolvedFeaturePolicy :=
  let entries := first :: rest
  let emergencyDisabled := entries.any (·.emergencyDisabled)
  { featureId
    policyVersion
    enabled := !emergencyDisabled && entries.all (·.enabled)
    emergencyDisabled
    mode := maxByOrder first.mode (rest.map (·.mode)) featurePolicyModes
    riskLevel := if entries.any (·.riskLevel = .high) then .high else .low
    limits := mergeLimits entries
    dataPolicy := mergeDataPolicy first rest
    requiredEntitlements := unionSorted (entries.map (·.requiredEntitlements))
    requiredPermissions := unionSorted (entries.map (·.requiredPermissions))
    appliedScopes := entries.map appliedScope }

def assertDocumentFresh (document : FeaturePolicyDocument) (now : Option Int) :
    Except String Unit :=
  match now with
  | none => .error "策略校验时间无效"
  | some timestamp =>
    if timestamp < parsedInstant document.issuedAt then .error "策略尚未生效"
    else if parsedInstant document.expiresAt ≤ timestamp then .error "策略已过期"
    else .ok ()

def resolveFeaturePolicy (document : FeaturePolicyDocument) (featureId : FeatureId)
    (context : FeaturePolicyContext) : Except String (Option ResolvedFeaturePolicy) := do
  assertDocumentFresh document context.now
  match ← applicableEntries featureId context document.features with
  | [] => .ok none
  | first :: rest => .ok (some (mergeEntries document.policyVersion featureId first rest))

structure FeatureGrants where
  entitlements : List String
  permissions : List String

/-- The first reason to deny, in this order. -/
def decideFeatureAccess (policy : Option ResolvedFeaturePolicy) (grants : FeatureGrants) :
    FeatureAccessDecision :=
  match policy with
  | none => .denied .policyNotFound []
  | some policy =>
    if policy.emergencyDisabled then .denied .emergencyDisabled []
    else if !policy.enabled then .denied .featureDisabled []
    else
      let missingEntitlements := policy.requiredEntitlements.filter fun entitlement =>
        !grants.entitlements.contains entitlement
      let missingPermissions := policy.requiredPermissions.filter fun permission =>
        !grants.permissions.contains permission
      if missingEntitlements ≠ [] then .denied .missingEntitlement missingEntitlements
      else if missingPermissions ≠ [] then .denied .missingPermission missingPermissions
      else .allowed

end LongHub
