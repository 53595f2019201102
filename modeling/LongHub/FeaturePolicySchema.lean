import LongHub.Collation
import LongHub.DoubleNumber
import LongHub.ExecutorCredential
import LongHub.IsoInstant

/-!
# Feature policies

An entry of a feature policy says, for one feature and one scope, whether the feature is enabled,
with which limits, for which data and for whom.
-/

namespace LongHub

def featurePolicySchema : String := "longhub/feature-policy/v2"
def featurePolicyMaxValidityMs : Int := 5 * 60000
def featurePolicyMaxFeatures : Nat := 64
def featurePolicyMaxBytes : Nat := 64 * 1024

inductive FeatureId where
  | chatCore | sessionManage | sessionLocalSearch | sessionExport | fileInput | imageInput
  | voiceInput | voiceOutput | knowledgeTenant | knowledgePersonal | memoryUserControls
  | webSearchReadonly | urlFetchReadonly | imageGenerate | agentCatalog | agentCustomNocode
  | agentHandoffSummary | skillCatalog | skillExecute | skillUserContent | workflowUserBounded
  | automationReminder | automationScheduledRead | channelEnterprise | dataExportDelete
  deriving DecidableEq

inductive FeaturePolicyScope where
  | global | tenant | plan | device | agent
  deriving DecidableEq

inductive FeaturePolicyAudience where
  | user | tenantAdmin | platformAdmin
  deriving DecidableEq

inductive FeaturePolicyMode where
  | default | tenantControlled | adminApproved
  deriving DecidableEq

inductive FeatureRiskLevel where
  | low | high
  deriving DecidableEq

inductive FeatureProcessingLocation where
  | platformRegion | tenantRegion | deviceLocal
  deriving DecidableEq

inductive FeatureLimitKey where
  | count | bytes | durationMs | concurrency | costCents
  deriving DecidableEq

/-- The values of an enumeration in their order, with their texts. -/
abbrev TextTable (α : Type) := List (α × String)

def featureIds : TextTable FeatureId :=
  [(.chatCore, "chat.core"), (.sessionManage, "session.manage"),
    (.sessionLocalSearch, "session.local_search"), (.sessionExport, "session.export"),
    (.fileInput, "file.input"), (.imageInput, "image.input"), (.voiceInput, "voice.input"),
    (.voiceOutput, "voice.output"), (.knowledgeTenant, "knowledge.tenant"),
    (.knowledgePersonal, "knowledge.personal"), (.memoryUserControls, "memory.user_controls"),
    (.webSearchReadonly, "web.search_readonly"), (.urlFetchReadonly, "url.fetch_readonly"),
    (.imageGenerate, "image.generate"), (.agentCatalog, "agent.catalog"),
    (.agentCustomNocode, "agent.custom_nocode"), (.agentHandoffSummary, "agent.handoff_summary"),
    (.skillCatalog, "skill.catalog"), (.skillExecute, "skill.execute"),
    (.skillUserContent, "skill.user_content"), (.workflowUserBounded, "workflow.user_bounded"),
    (.automationReminder, "automation.reminder"),
    (.automationScheduledRead, "automation.scheduled_read"),
    (.channelEnterprise, "channel.enterprise"), (.dataExportDelete, "data.export_delete")]

def featurePolicyScopes : TextTable FeaturePolicyScope :=
  [(.global, "global"), (.tenant, "tenant"), (.plan, "plan"), (.device, "device"),
    (.agent, "agent")]

def featurePolicyAudiences : TextTable FeaturePolicyAudience :=
  [(.user, "user"), (.tenantAdmin, "tenant_admin"), (.platformAdmin, "platform_admin")]

def featurePolicyModes : TextTable FeaturePolicyMode :=
  [(.default, "default"), (.tenantControlled, "tenant_controlled"),
    (.adminApproved, "admin_approved")]

def featureRiskLevels : TextTable FeatureRiskLevel := [(.low, "low"), (.high, "high")]

def featureProcessingLocations : TextTable FeatureProcessingLocation :=
  [(.platformRegion, "platform_region"), (.tenantRegion, "tenant_region"),
    (.deviceLocal, "device_local")]

def featureLimitKeys : TextTable FeatureLimitKey :=
  [(.count, "count"), (.bytes, "bytes"), (.durationMs, "duration_ms"),
    (.concurrency, "concurrency"), (.costCents, "cost_cents")]

abbrev FeatureLimits := FeatureLimitKey → Option Nat

structure FeatureDataPolicy where
  processingLocation : FeatureProcessingLocation
  retentionDays : Nat
  exportAllowed : Bool
  deletionAllowed : Bool

structure FeaturePolicyEntry where
  featureId : FeatureId
  enabled : Bool
  scope : FeaturePolicyScope
  scopeId : Option String
  audience : FeaturePolicyAudience
  mode : FeaturePolicyMode
  riskLevel : FeatureRiskLevel
  limits : FeatureLimits
  dataPolicy : FeatureDataPolicy
  requiredEntitlements : List String
  requiredPermissions : List String
  minManagerVersion : String
  maxManagerVersion : Option String
  emergencyDisabled : Bool

structure FeaturePolicyDocument where
  policyVersion : String
  issuedAt : String
  expiresAt : String
  features : List FeaturePolicyEntry

def TextTable.text {α : Type} [DecidableEq α] (table : TextTable α) (value : α) : String :=
  ((table.find? fun entry => entry.1 = value).map Prod.snd).getD ""

def entryKey (entry : FeaturePolicyEntry) : String :=
  "\x00".intercalate [featureIds.text entry.featureId,
    featurePolicyAudiences.text entry.audience, featurePolicyScopes.text entry.scope,
    entry.scopeId.getD ""]

def isVersionNumber (digits : List Char) : Bool :=
  digits ≠ [] && digits.all Char.isDigit && (digits.head? ≠ some '0' || digits.length = 1)

def semverPattern (text : String) : Bool :=
  let core := text.toList.takeWhile (· ≠ '-')
  let prerelease := text.toList.dropWhile (· ≠ '-')
  (match core.splitOn '.' with
    | [major, minor, patch] =>
      isVersionNumber major && isVersionNumber minor && isVersionNumber patch
    | _ => false) &&
  (prerelease = [] || (prerelease.tail.splitOn '.').all fun part =>
    part ≠ [] && part.all fun char => char.isAlphanum || char = '-')

def policyVersionPattern : String → Bool :=
  matchesClasses Char.isAlphanum (fun char => char.isAlphanum || char ∈ ['.', '_', ':', '-']) 0 127

def scopeIdPattern : String → Bool :=
  matchesClasses Char.isAlphanum (fun char => char.isAlphanum || char ∈ ['.', '_', ':', '-']) 0 127

/-- A lower-case name and then so many segments, each after a colon. -/
def segmentsPattern (least : Nat) (text : String) : Bool :=
  match text.toList.splitOn ':' with
  | (head :: tail) :: segments =>
    head.isLower && (tail.all fun char => char.isLower || char.isDigit || char = '-') &&
      (segments.all fun segment => segment ≠ [] && segment.all fun char =>
        char.isLower || char.isDigit || char ∈ ['_', '.', '-']) &&
      least ≤ segments.length
  | _ => false

def entitlementPattern : String → Bool := segmentsPattern 0

def permissionPattern : String → Bool := segmentsPattern 1

def enumValue {α : Type} (value : Option JsonValue) (values : TextTable α) (label : String) :
    Except String α :=
  match value with
  | some (.text text) =>
    match values.find? fun entry => entry.2 = text with
    | some entry => .ok entry.1
    | none => .error (label ++ " 不在允许枚举中")
  | _ => .error (label ++ " 不在允许枚举中")

def booleanValue (value : Option JsonValue) (label : String) : Except String Bool :=
  match value with
  | some (.bool content) => .ok content
  | _ => .error (label ++ " 必须是布尔值")

def nonNegativeInteger (value : Option JsonValue) (label : String) (max : Nat) :
    Except String Nat :=
  match value.bind fun
      | .number literal => DoubleNumber.safeInteger literal
      | _ => none with
  | some number =>
    if 0 ≤ number ∧ number ≤ max then .ok number.toNat
    else .error (label ++ " 必须是 0-" ++ toString max ++ " 的整数")
  | none => .error (label ++ " 必须是 0-" ++ toString max ++ " 的整数")

/-- `semver`.  A text that the pattern accepts is of ASCII characters, so its
characters are counted as JavaScript counts them. -/
def semver (value : Option JsonValue) (label : String) : Except String String :=
  match value with
  | some (.text text) =>
    if text.length ≤ 64 ∧ semverPattern text then .ok text
    else .error (label ++ " 必须是受限语义版本")
  | _ => .error (label ++ " 必须是受限语义版本")

def identifier (value : Option JsonValue) (pattern : String → Bool) (label : String) :
    Except String String :=
  match value with
  | some (.text text) => if pattern text then .ok text else .error (label ++ " 含非法标识符")
  | _ => .error (label ++ " 含非法标识符")

/-- The loop of `sortedUniqueStrings`. -/
def uniqueStrings (label : String) (pattern : String → Bool) (seen : List String) :
    List JsonValue → Except String (List String)
  | [] => .ok seen
  | item :: rest =>
    match item with
    | .text text =>
      if text.length ≤ 128 ∧ pattern text then
        if text ∈ seen then .error (label ++ " 含重复项")
        else uniqueStrings label pattern (seen ++ [text]) rest
      else .error (label ++ " 含非法标识符")
    | _ => .error (label ++ " 含非法标识符")

def sortedUniqueStrings (value : Option JsonValue) (label : String) (pattern : String → Bool)
    (maxItems : Nat) : Except String (List String) :=
  match value with
  | some (.array items) =>
    if items.length ≤ maxItems then
      (uniqueStrings label pattern [] items).map Collation.sorted
    else .error (label ++ " 最多 " ++ toString maxItems ++ " 项")
  | _ => .error (label ++ " 必须是数组")

def assertExactKeys (fields : List (String × JsonValue)) (expected : List String)
    (label : String) : Except String Unit :=
  if fields.length = expected.length ∧ ∀ field ∈ fields, field.1 ∈ expected then .ok ()
  else .error (label ++ " 包含未知或缺失字段")

def maxSafeInteger : Nat := 9007199254740991

def readLimits (fields : List (String × JsonValue)) (label : String) :
    TextTable FeatureLimitKey → Except String FeatureLimits
  | [] => .ok fun _ => none
  | (key, name) :: rest =>
    match fields.lookup name with
    | none => readLimits fields label rest
    | some value => do
      let limit ← nonNegativeInteger (some value) (label ++ "." ++ name) maxSafeInteger
      let limits ← readLimits fields label rest
      .ok fun other => if other = key then some limit else limits other

def parseLimits (value : Option JsonValue) (label : String) : Except String FeatureLimits :=
  match value with
  | some (.record fields) =>
    match fields.find? fun field => field.1 ∉ featureLimitKeys.map Prod.snd with
    | some field => .error (label ++ " 含未知上限字段 " ++ field.1)
    | none => readLimits fields label featureLimitKeys
  | _ => .error (label ++ " 必须是对象")

def parseDataPolicy (value : Option JsonValue) (label : String) : Except String FeatureDataPolicy :=
  match value with
  | some (.record fields) => do
    assertExactKeys fields
      ["processing_location", "retention_days", "export_allowed", "deletion_allowed"] label
    let processingLocation ← enumValue (fields.lookup "processing_location")
      featureProcessingLocations (label ++ ".processing_location")
    let retentionDays ← nonNegativeInteger (fields.lookup "retention_days")
      (label ++ ".retention_days") 3650
    let exportAllowed ← booleanValue (fields.lookup "export_allowed") (label ++ ".export_allowed")
    let deletionAllowed ← booleanValue (fields.lookup "deletion_allowed")
      (label ++ ".deletion_allowed")
    .ok { processingLocation, retentionDays, exportAllowed, deletionAllowed }
  | _ => .error (label ++ " 必须是对象")

def entryRequiredKeys : List String :=
  ["feature_id", "enabled", "scope", "audience", "mode", "risk_level", "limits", "data_policy",
    "required_entitlements", "required_permissions", "min_manager_version",
    "emergency_disabled"]

def readPresent {α : Type} (value : Option JsonValue)
    (read : Option JsonValue → Except String α) : Except String (Option α) :=
  match value with
  | none => .ok none
  | some value => (read (some value)).map some

def parseFeaturePolicyEntry (input : JsonValue) (label : String) :
    Except String FeaturePolicyEntry :=
  match input with
  | .record fields => do
    let scope ← enumValue (fields.lookup "scope") featurePolicyScopes (label ++ ".scope")
    let scopeIdField := fields.lookup "scope_id"
    let maxField := fields.lookup "max_manager_version"
    assertExactKeys fields
      (entryRequiredKeys ++ (if scopeIdField.isSome then ["scope_id"] else []) ++
        (if maxField.isSome then ["max_manager_version"] else [])) label
    Except.ensure (¬(scope = .global ∧ scopeIdField.isSome)) (label ++ ".scope_id 全局策略不得设置")
    Except.ensure (¬(scope ≠ .global ∧ scopeIdField.isNone)) (label ++ ".scope_id 非全局策略必须设置")
    let minManagerVersion ← semver (fields.lookup "min_manager_version")
      (label ++ ".min_manager_version")
    let maxManagerVersion ← readPresent maxField fun value =>
      semver value (label ++ ".max_manager_version")
    let featureId ← enumValue (fields.lookup "feature_id") featureIds (label ++ ".feature_id")
    let enabled ← booleanValue (fields.lookup "enabled") (label ++ ".enabled")
    let scopeId ← readPresent scopeIdField fun value =>
      identifier value scopeIdPattern (label ++ ".scope_id")
    let audience ← enumValue (fields.lookup "audience") featurePolicyAudiences
      (label ++ ".audience")
    let mode ← enumValue (fields.lookup "mode") featurePolicyModes (label ++ ".mode")
    let riskLevel ← enumValue (fields.lookup "risk_level") featureRiskLevels
      (label ++ ".risk_level")
    let limits ← parseLimits (fields.lookup "limits") (label ++ ".limits")
    let dataPolicy ← parseDataPolicy (fields.lookup "data_policy") (label ++ ".data_policy")
    let requiredEntitlements ← sortedUniqueStrings (fields.lookup "required_entitlements")
      (label ++ ".required_entitlements") entitlementPattern 32
    let requiredPermissions ← sortedUniqueStrings (fields.lookup "required_permissions")
      (label ++ ".required_permissions") permissionPattern 32
    let emergencyDisabled ← booleanValue (fields.lookup "emergency_disabled")
      (label ++ ".emergency_disabled")
    .ok { featureId, enabled, scope, scopeId, audience, mode, riskLevel, limits, dataPolicy,
          requiredEntitlements, requiredPermissions, minManagerVersion, maxManagerVersion,
          emergencyDisabled }
  | _ => .error (label ++ " 必须是对象")

def canonicalIsoInstant (value : Option JsonValue) (label : String) : Except String String :=
  match value with
  | some (.text text) =>
    if text.length ≤ 32 then
      match IsoInstant.parse text with
      | some parsed =>
        if IsoInstant.toISOString parsed = some text then .ok text
        else .error (label ++ " 必须是规范化 ISO 瞬时值")
      | none => .error (label ++ " 必须是规范化 ISO 瞬时值")
    else .error (label ++ " 必须是 ISO 时间字符串")
  | _ => .error (label ++ " 必须是 ISO 时间字符串")

def parsedInstant (text : String) : Int := (IsoInstant.parse text).getD 0

def parseEntries (index : Nat) : List JsonValue → Except String (List FeaturePolicyEntry)
  | [] => .ok []
  | raw :: rest => do
    let entry ← parseFeaturePolicyEntry raw ("features[" ++ toString index ++ "]")
    let entries ← parseEntries (index + 1) rest
    .ok (entry :: entries)

/-- The loop that refuses a second entry about the same. -/
def checkDistinct (seen : List String) : List FeaturePolicyEntry → Except String Unit
  | [] => .ok ()
  | entry :: rest =>
    if entryKey entry ∈ seen then
      .error ("features 含重复的 " ++ featureIds.text entry.featureId ++ "@" ++
        featurePolicyScopes.text entry.scope)
    else checkDistinct (seen ++ [entryKey entry]) rest

def tooManyFeatures : String := "features 最多 " ++ toString featurePolicyMaxFeatures ++ " 项"

def parseFeaturePolicyDocument (input : JsonValue) : Except String FeaturePolicyDocument :=
  match input with
  | .record fields => do
    assertExactKeys fields
      ["schema_version", "policy_version", "issued_at", "expires_at", "features"] "策略文档"
    Except.ensure (JsonValue.textField fields "schema_version" = some featurePolicySchema)
      "策略契约版本不受支持"
    let policyVersion ← identifier (fields.lookup "policy_version") policyVersionPattern
      "policy_version"
    let issuedAt ← canonicalIsoInstant (fields.lookup "issued_at") "issued_at"
    let expiresAt ← canonicalIsoInstant (fields.lookup "expires_at") "expires_at"
    let validityMs := parsedInstant expiresAt - parsedInstant issuedAt
    Except.ensure (0 < validityMs) "expires_at 必须晚于 issued_at"
    Except.ensure (validityMs ≤ featurePolicyMaxValidityMs)
      ("策略有效期不得超过 " ++ toString featurePolicyMaxValidityMs ++ " 毫秒")
    let raws ← match fields.lookup "features" with
      | some (.array items) =>
        if items.length ≤ featurePolicyMaxFeatures then .ok items else .error tooManyFeatures
      | _ => .error tooManyFeatures
    let features ← parseEntries 0 raws
    checkDistinct [] features
    .ok { policyVersion, issuedAt, expiresAt, features }
  | _ => .error "策略文档必须是对象"

end LongHub
