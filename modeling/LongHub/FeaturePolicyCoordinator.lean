import LongHub.FeaturePolicyResolution
import LongHub.JsonReader
import LongHub.Utf8Decoder
import LongHub.BridgeAuthorization
import LongHub.GuardedRun

/-!
# The feature policy of the Manager

Its cache and its coordinator.
-/

namespace LongHub

/-! ## The cache of the feature policy -/

inductive CoordinatorReason where
  | auth | protocol | network | cache
  deriving DecidableEq

structure FeaturePolicyCoordinatorError where
  reason : CoordinatorReason
  message : String

namespace FeaturePolicyCache

def cacheSchema : String := "longhub/feature-policy-cache/v1"
def cacheMaxBytes : Nat := featurePolicyMaxBytes + 8 * 1024

structure FeaturePolicyCacheRecord where
  cloudOrigin : String
  deviceId : String
  etag : String
  cachedAt : String
  document : FeaturePolicyDocument

def etagPattern (text : String) : Bool :=
  let chars := text.toList
  let quoted := if "W/".toList.isPrefixOf chars then chars.drop 2 else chars
  match quoted with
  | '"' :: rest =>
    rest.getLast? = some '"' && 1 ≤ rest.dropLast.length && rest.dropLast.length ≤ 256 &&
      rest.dropLast.all fun char =>
        char.toNat = 0x21 || (0x23 ≤ char.toNat && char.toNat ≤ 0x7e)
  | _ => false

def validEtag (value : String) : Bool := value = "" || etagPattern value

def parseFeaturePolicyJson (input : List Char) : Except String FeaturePolicyDocument := do
  Except.ensure ((Utf8Decoder.encode input).length ≤ featurePolicyMaxBytes)
    ("策略响应不得超过 " ++ toString featurePolicyMaxBytes ++ " 字节")
  let parsed ← Except.require (JsonValue.parse input) "策略响应不是有效 JSON"
  parseFeaturePolicyDocument parsed

def assertCurrentDocument (document : FeaturePolicyDocument) (now : Int) :
    Except FeaturePolicyCoordinatorError Unit :=
  Except.ensure (parsedInstant document.issuedAt ≤ now && now < parsedInstant document.expiresAt)
    ⟨.protocol, "云端返回的功能策略尚未生效或已经过期"⟩

def exactKeys (fields : List (String × JsonValue)) (expected : List String) : Bool :=
  (fields.map Prod.fst).insertionSort (fun first second => first ≤ second) =
    expected.insertionSort fun first second => first ≤ second

def boundRecord (fields : List (String × JsonValue)) (expectedOrigin expectedDeviceId : String) :
    Option (String × String) := do
  let etag ← JsonValue.textField fields "etag"
  let cachedAt ← JsonValue.textField fields "cached_at"
  if JsonValue.textField fields "schema_version" = some cacheSchema ∧
      JsonValue.textField fields "cloud_origin" = some expectedOrigin ∧
      JsonValue.textField fields "device_id" = some expectedDeviceId ∧ validEtag etag then
    some (etag, cachedAt)
  else none

def canonicalTime (text : String) : Option Int := do
  let time ← IsoInstant.parse text
  if IsoInstant.toISOString time = some text then some time else none

def parseCache (input : JsonValue) (expectedOrigin expectedDeviceId : String) (now : Int) :
    Except FeaturePolicyCoordinatorError FeaturePolicyCacheRecord :=
  match input with
  | .record fields => do
    Except.ensure (exactKeys fields ["schema_version", "cloud_origin", "device_id", "etag",
      "cached_at", "document"]) ⟨.cache, "功能策略缓存字段无效"⟩
    let (etag, cachedAt) ← Except.require
      (boundRecord fields expectedOrigin expectedDeviceId) ⟨.cache, "功能策略缓存绑定无效"⟩
    let time ← Except.require (canonicalTime cachedAt) ⟨.cache, "功能策略缓存时间无效"⟩
    Except.ensure (time ≤ now) ⟨.cache, "功能策略缓存时间无效"⟩
    let document ← Except.require
      (parseFeaturePolicyJson (((fields.lookup "document").map JsonValue.print).getD [])).toOption
      ⟨.cache, "功能策略缓存内容无效"⟩
    Except.ensure (parsedInstant document.issuedAt ≤ time &&
      now < parsedInstant document.expiresAt && now - time < featurePolicyMaxValidityMs)
      ⟨.cache, "功能策略缓存已过期"⟩
    return ⟨expectedOrigin, expectedDeviceId, etag, cachedAt, document⟩
  | _ => .error ⟨.cache, "功能策略缓存格式无效"⟩

inductive CacheFile where
  | absent
  /-- A link, a directory or another file that is not regular. -/
  | irregular
  /-- Its state or its content cannot be read. -/
  | unreadable
  | file (size : Nat) (content : List Char)

def readCache (file : CacheFile) (origin deviceId : String) (now : Int) :
    Except FeaturePolicyCoordinatorError FeaturePolicyCacheRecord :=
  match file with
  | .absent => .error ⟨.cache, "功能策略缓存不存在"⟩
  | .irregular => .error ⟨.cache, "功能策略缓存不是受信普通文件"⟩
  | .unreadable => .error ⟨.cache, "功能策略缓存无法读取"⟩
  | .file size content => do
    Except.ensure (size ≤ cacheMaxBytes) ⟨.cache, "功能策略缓存不是受信普通文件"⟩
    let parsed ← Except.require (JsonValue.parse content) ⟨.cache, "功能策略缓存无法读取"⟩
    parseCache parsed origin deviceId now

end FeaturePolicyCache

/-! ## The coordinator of the feature policy -/

namespace FeaturePolicyCoordinator

open FeaturePolicyCache

inductive PolicySource where
  | network | cache
  deriving DecidableEq

structure FeaturePolicySnapshot where
  document : FeaturePolicyDocument
  source : PolicySource
  refreshedAt : Int

structure CoordinatorOptions where
  origin : String
  deviceId : String
  desktopVersion : String
  audience : FeaturePolicyAudience
  scopeIds : FeaturePolicyScope → Option ScopeIds
  entitlements : List String
  permissions : List String

inductive RefreshEffect where
  | wroteCache (record : FeaturePolicyCacheRecord)
  | removedCache
  | emergencyDisabled (featureIds : List FeatureId)
  | refreshed (snapshot : FeaturePolicySnapshot)

inductive RefreshPhase where
  | idle
  | fetching (cached : Option FeaturePolicyCacheRecord)
  | reading (etag : String) (refreshedAt : Int)

structure Coordinator where
  snapshotValue : Option FeaturePolicySnapshot
  emergencyIds : List FeatureId
  phase : RefreshPhase
  effects : List RefreshEffect

inductive LocalFeaturePolicyDenialReason where
  | access (reason : FeatureAccessDenialReason)
  | policyUnavailable
  | policyOffline

inductive LocalFeaturePolicyDecision where
  | allowed (source : PolicySource) (policy : ResolvedFeaturePolicy)
  | denied (reason : LocalFeaturePolicyDenialReason) (source : Option PolicySource)
      (policy : Option ResolvedFeaturePolicy) (missing : List String)

structure FeaturePolicyDecisionContext where
  agentId : Option String
  entitlements : Option (List String)
  permissions : Option (List String)

/-- A call of `decide`, with the two times that it reads. -/
structure DecisionRequest where
  featureId : FeatureId
  context : FeaturePolicyDecisionContext
  currentAt : Int
  decidedAt : Int

def current (snapshot : Option FeaturePolicySnapshot) (now : Int) : Option FeaturePolicySnapshot :=
  match snapshot with
  | none => none
  | some snapshot =>
    if parsedInstant snapshot.document.expiresAt ≤ now then none else some snapshot

variable (options : CoordinatorOptions)

variable (request : DecisionRequest)

def policyContext : FeaturePolicyContext where
  managerVersion := options.desktopVersion
  audience := options.audience
  scopeIds scope :=
    match scope, request.context.agentId with
    | .device, _ => some (.one options.deviceId)
    | .agent, some agentId =>
      if agentId = "" then options.scopeIds .agent else some (.one agentId)
    | scope, _ => options.scopeIds scope
  now := some request.decidedAt

def decideResolved (source : PolicySource) (policy : Option ResolvedFeaturePolicy) :
    LocalFeaturePolicyDecision :=
  if source = .cache ∧ policy.map (·.riskLevel) = some .high then
    .denied .policyOffline (some .cache) policy []
  else
    match decideFeatureAccess policy ⟨request.context.entitlements.getD options.entitlements,
        request.context.permissions.getD options.permissions⟩, policy with
    | .allowed, some policy => .allowed source policy
    | .allowed, none => .denied .policyUnavailable (some source) none []
    | .denied reason missing, policy => .denied (.access reason) (some source) policy missing

def decide (coordinator : Coordinator) : LocalFeaturePolicyDecision × Coordinator :=
  match current coordinator.snapshotValue request.currentAt with
  | none => (.denied .policyUnavailable none none [], coordinator)
  | some snapshot =>
    match resolveFeaturePolicy snapshot.document request.featureId
        (policyContext options request) with
    | .error _ =>
      (.denied .policyUnavailable none none [], { coordinator with snapshotValue := none })
    | .ok policy => (decideResolved options request snapshot.source policy, coordinator)

def stop (coordinator : Coordinator) : Coordinator := { coordinator with snapshotValue := none }

inductive RefreshError where
  | coordinator (error : FeaturePolicyCoordinatorError)
  | validation (message : String)
  | other

def asCoordinatorError : RefreshError → FeaturePolicyCoordinatorError
  | .coordinator error => error
  | .validation _ => ⟨.protocol, "功能策略响应协议无效"⟩
  | .other => ⟨.network, "功能策略网络请求失败"⟩

structure RefreshAnswers where
  now : Int
  cacheWritten : Bool
  emergencyThrows : Bool
  refreshThrows : Bool

abbrev RefreshM (α : Type) := EStateM RefreshError Coordinator α

def perform (effect : RefreshEffect) : RefreshM Unit :=
  modify fun coordinator => { coordinator with effects := coordinator.effects ++ [effect] }

def setSnapshot (snapshot : Option FeaturePolicySnapshot) : RefreshM Unit :=
  modify fun coordinator => { coordinator with snapshotValue := snapshot }

def throwReason {α : Type} (reason : CoordinatorReason) (message : String) : RefreshM α :=
  throw (.coordinator ⟨reason, message⟩)

variable (document : FeaturePolicyDocument)

def assertCurrent (now : Int) : RefreshM Unit :=
  match assertCurrentDocument document now with
  | .ok _ => pure ()
  | .error error => throw (.coordinator error)

def writeCache (record : FeaturePolicyCacheRecord) (answers : RefreshAnswers) : RefreshM Unit :=
  if answers.cacheWritten then perform (.wroteCache record) else throw .other

def removeCache : RefreshM Unit := perform .removedCache

/-- Call a callback, which may throw. -/
def announce (effect : RefreshEffect) (throws : Bool) : RefreshM Unit := do
  perform effect
  if throws then throw .other

def emergencyFeatures : List FeatureId :=
  ((document.features.filter (·.emergencyDisabled)).map (·.featureId)).eraseDups

def publish (source : PolicySource) (refreshedAt : Int)
    (answers : RefreshAnswers) : RefreshM FeaturePolicySnapshot := do
  let snapshot : FeaturePolicySnapshot := ⟨document, source, refreshedAt⟩
  setSnapshot (some snapshot)
  let known := (← get).emergencyIds
  let nextEmergency := emergencyFeatures document
  let newlyDisabled := nextEmergency.filter fun featureId => featureId ∉ known
  modify fun coordinator => { coordinator with emergencyIds := nextEmergency }
  if newlyDisabled ≠ [] then announce (.emergencyDisabled newlyDisabled) answers.emergencyThrows
  announce (.refreshed snapshot) answers.refreshThrows
  return snapshot

inductive FetchOutcome where
  | failed
  /-- The number of `content-length` is none where it is not a finite number. -/
  | response (status : Nat) (contentType : Option String) (contentLength : Option Rat)
      (etag : String)

inductive BodyOutcome where
  | failed
  | oversized
  | text (content : List Char)

def mediaType (contentType : Option String) : Option String :=
  contentType.map fun header =>
    String.ofList ((trimText (String.ofList (header.toList.takeWhile (· ≠ ';')))).toList.map
      Char.toLower)

/-- The part of a refresh after the request; none when the body is to be read. -/
def receiveResponse (cached : Option FeaturePolicyCacheRecord) (outcome : FetchOutcome)
    (answers : RefreshAnswers) : RefreshM (Option FeaturePolicySnapshot) := do
  match outcome with
  | .failed =>
    match cached with
    | none => throwReason .network "功能策略网络请求失败且无可用缓存"
    | some record => return some (← publish record.document .cache answers.now answers)
  | .response status contentType contentLength _ =>
    if status = 401 ∨ status = 403 then
      setSnapshot none
      removeCache
      throwReason .auth "功能策略凭据无效"
    else if status = 304 then
      match cached with
      | none => throwReason .protocol "功能策略 304 缺少绑定缓存"
      | some record =>
        assertCurrent record.document answers.now
        writeCache { record with
          cachedAt := (IsoInstant.toISOString answers.now).getD "" } answers
        return some (← publish record.document .network answers.now answers)
    else if status = 429 ∨ 500 ≤ status then
      match cached with
      | none => throwReason .network "功能策略服务暂时不可用且无可用缓存"
      | some record => return some (← publish record.document .cache answers.now answers)
    else if status ≠ 200 then
      throwReason .protocol ("功能策略服务返回不可接受状态 " ++ toString status)
    else if mediaType contentType ≠ some "application/json" then
      throwReason .protocol "功能策略响应类型无效"
    else if contentLength.any fun length => (featurePolicyMaxBytes : Rat) < length then
      throwReason .protocol "功能策略响应过大"
    else return none

def receiveBody (etag : String) (refreshedAt : Int)
    (outcome : BodyOutcome) (answers : RefreshAnswers) : RefreshM FeaturePolicySnapshot := do
  match outcome with
  | .failed => throw .other
  | .oversized => throwReason .protocol "功能策略响应过大"
  | .text content =>
    match parseFeaturePolicyJson content with
    | .error message => throw (.validation message)
    | .ok document =>
      assertCurrent document refreshedAt
      if !validEtag etag then throwReason .protocol "功能策略 ETag 无效"
      writeCache ⟨options.origin, options.deviceId, etag,
        (IsoInstant.toISOString refreshedAt).getD "", document⟩ answers
      publish document .network refreshedAt answers

def onError {α : Type} (raised : RefreshError) : RefreshM α := do
  let normalized := asCoordinatorError raised
  if normalized.reason = .protocol ∨ normalized.reason = .auth then
    setSnapshot none
    removeCache
  throw (.coordinator normalized)

def afterResponse (cached : Option FeaturePolicyCacheRecord) (outcome : FetchOutcome)
    (answers : RefreshAnswers) : RefreshM (Option FeaturePolicySnapshot) :=
  tryCatch (receiveResponse cached outcome answers) onError

def afterBody (etag : String) (refreshedAt : Int) (outcome : BodyOutcome)
    (answers : RefreshAnswers) : RefreshM (Option FeaturePolicySnapshot) :=
  tryCatch (do return some (← receiveBody options etag refreshedAt outcome answers)) onError

inductive CoordinatorAction where
  /-- `refresh`, with the time at which it starts and the file it finds. -/
  | refresh (startedAt : Int) (file : CacheFile)
  | response (outcome : FetchOutcome) (answers : RefreshAnswers)
  | body (outcome : BodyOutcome) (answers : RefreshAnswers)
  | decide (request : DecisionRequest)
  | stop

def settled {α : Type} (result : EStateM.Result RefreshError Coordinator α) : Coordinator :=
  match result with
  | .ok _ coordinator | .error _ coordinator => { coordinator with phase := .idle }

@[grind =]
def step (coordinator : Coordinator) : CoordinatorAction → Option Coordinator
  | .refresh startedAt file =>
    match coordinator.phase with
    | .idle => some { coordinator with
        phase := .fetching
          (readCache file options.origin options.deviceId startedAt).toOption }
    -- the refresh in flight is returned
    | _ => some coordinator
  | .response outcome answers =>
    match coordinator.phase with
    | .fetching cached =>
      match (afterResponse cached outcome answers).run coordinator with
      | .ok none after =>
        match outcome with
        | .response _ _ _ etag => some { after with phase := .reading etag answers.now }
        | .failed => none
      | result => some (settled result)
    | _ => none
  | .body outcome answers =>
    match coordinator.phase with
    | .reading etag refreshedAt =>
      some (settled ((afterBody options etag refreshedAt outcome answers).run coordinator))
    | _ => none
  | .decide request => some (FeaturePolicyCoordinator.decide options request coordinator).2
  | .stop => some (FeaturePolicyCoordinator.stop coordinator)

def initial : Coordinator := ⟨none, [], .idle, []⟩

end FeaturePolicyCoordinator

end LongHub
