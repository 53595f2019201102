import LongHub.ExecutorCredential
import LongHub.GuardedRun

/-!
# The Executor

A request to the Executor is checked twice: its head with the credential when it arrives, and its
body against the claims when it has been read.
-/

namespace LongHub

open JsonValue
structure ExecutorServerOptions where
  node : NodePlatform
  credentialKey : ExecutorCredentialKey
  credentialVerificationKeys : InsertionMap String ExecutorCredentialKey
  skills : List String
  maxBodyBytes : Nat
  bodyTimeoutMs : Nat
  idempotencyTtlMs : Nat
  maxIdempotencyEntries : Nat

structure HttpProblem where
  status : Nat
  code : String
  retryable : Bool

structure ExecutorRequestHead where
  method : String
  url : String
  contentType : Option String
  idempotencyKey : Option String
  credential : Option String

structure ExecutorRequestBody where
  taskId : String
  tenantId : String
  skillId : String
  idempotencyKey : String
  inputDigest : String
  input : JsonValue

def isWhiteSpace (char : Char) : Bool :=
  char ∈ [' ', '\t', '\n', '\x0b', '\x0c', '\r', '\u00a0', '\ufeff']

def isJsonContentType (contentType : String) : Bool :=
  let text := contentType.toList.map Char.toLower
  let media := "application/json".toList
  media.isPrefixOf text && match text.drop media.length with
    | [] => true
    | rest =>
      match rest.dropWhile isWhiteSpace with
      | ';' :: charset => charset.dropWhile isWhiteSpace = "charset=utf-8".toList
      | _ => false

def trim (text : String) : String :=
  String.ofList ((text.toList.dropWhile isWhiteSpace).reverse.dropWhile isWhiteSpace).reverse

/-- The custom header, and no bearer token. -/
def internalCredential (head : ExecutorRequestHead) : Option String :=
  match head.credential.map trim with
  | some "" => none
  | credential => credential

section Handler

variable (options : ExecutorServerOptions)

def verificationKeys : InsertionMap String ExecutorCredentialKey :=
  options.credentialVerificationKeys.set options.credentialKey.keyId options.credentialKey

def verifyCredential (token : String) (now : Instant) :
    Except ExecutorCredentialError ExecutorCredentialClaims :=
  verifyExecutorCredential options.node options.credentialKey (verificationKeys options) token now

/-- The checks before the body is read. -/
def acceptHead (head : ExecutorRequestHead) (now : Instant) :
    Except HttpProblem (String × ExecutorCredentialClaims) := do
  .ensure (head.method = "POST" && head.url = "/execute") ⟨404, "NOT_FOUND", false⟩
  .ensure (head.contentType.any isJsonContentType) ⟨415, "UNSUPPORTED_MEDIA_TYPE", false⟩
  let key ← .require (head.idempotencyKey.filter idempotencyPattern)
    ⟨400, "IDEMPOTENCY_KEY_REQUIRED", false⟩
  let credential ← .require (internalCredential head) ⟨401, "CREDENTIAL_REQUIRED", false⟩
  let claims ← (verifyCredential options credential now).mapError fun
    | .credentialExpired => ⟨401, "CREDENTIAL_EXPIRED", false⟩
    | _ => ⟨401, "CREDENTIAL_INVALID", false⟩
  .ensure (claims.idempotencyKey = key) ⟨403, "CREDENTIAL_BINDING_MISMATCH", false⟩
  return (credential, claims)

def parseRequest (value : JsonValue) : Option ExecutorRequestBody := do
  let .record fields := value | none
  guard (hasExactKeys fields ["schema_version", "task_id", "tenant_id", "skill_id",
    "idempotency_key", "input_digest", "input"])
  let schema ← textField fields "schema_version"
  let taskId ← textField fields "task_id"
  let tenantId ← textField fields "tenant_id"
  let skillId ← textField fields "skill_id"
  let idempotencyKey ← textField fields "idempotency_key"
  let inputDigest ← textField fields "input_digest"
  let input ← fields.lookup "input"
  guard (schema = executorRequestSchema)
  guard (validText taskId idPattern && validText tenantId idPattern &&
    validText skillId skillIdPattern && validText idempotencyKey idempotencyPattern &&
    digestPattern inputDigest)
  some ⟨taskId, tenantId, skillId, idempotencyKey, inputDigest, input⟩

def acceptBody (claims : ExecutorCredentialClaims) (body : String) :
    Except HttpProblem ExecutorRequestBody := do
  let value ← .require (options.node.parseJson body) ⟨400, "INVALID_JSON", false⟩
  let request ← .require (parseRequest value) ⟨422, "INVALID_REQUEST", false⟩
  let digest ← .require (computeExecutorInputDigest options.node request.input)
    ⟨422, "INVALID_REQUEST", false⟩
  .ensure (request.taskId = claims.taskId && request.tenantId = claims.tenantId &&
      request.skillId = claims.skillId && request.idempotencyKey = claims.idempotencyKey &&
      request.inputDigest = claims.inputDigest && digest = request.inputDigest)
    ⟨403, "CREDENTIAL_BINDING_MISMATCH", false⟩
  return request

end Handler

inductive ExecutionPromise where
  | skillNotFound
  | run (index : Nat)

structure CachedResponse where
  fingerprint : String
  expiresAt : Instant
  promise : ExecutionPromise

/-- The tenant and the key; the device and the agent are left out. -/
def cacheKey (request : ExecutorRequestBody) : String :=
  request.tenantId ++ "\x00" ++ request.idempotencyKey

def requestFingerprint (request : ExecutorRequestBody) : String :=
  "\x00".intercalate [request.taskId, request.tenantId, request.skillId, request.inputDigest]

def pruneIdempotency (cache : InsertionMap String CachedResponse) (now : Instant) :
    InsertionMap String CachedResponse :=
  cache.filter fun _ entry => now < entry.expiresAt

inductive IdempotencyDecision where
  | refuse (problem : HttpProblem)
  | await (promise : ExecutionPromise)
  | execute

/-- What the cache says about a request. -/
def decideIdempotency (options : ExecutorServerOptions) (cache : InsertionMap String CachedResponse)
    (request : ExecutorRequestBody) : IdempotencyDecision :=
  match cache.get? (cacheKey request) with
  | some existing =>
    if existing.fingerprint ≠ requestFingerprint request then
      .refuse ⟨409, "IDEMPOTENCY_CONFLICT", false⟩
    else .await existing.promise
  | none =>
    if options.maxIdempotencyEntries ≤ cache.entries.length then
      .refuse ⟨503, "EXECUTOR_BUSY", true⟩
    else .execute

structure CloudSkillContext where
  taskId : String
  tenantId : String
  skillId : String
  idempotencyKey : String

structure SkillRun where
  skillId : String
  input : JsonValue
  context : CloudSkillContext
  startedAt : Instant
  credential : String
  claims : ExecutorCredentialClaims

inductive ExchangePhase where
  | reading (credential : String) (claims : ExecutorCredentialClaims) (verifiedAt : Instant)
  | rejected (problem : HttpProblem)
  | awaiting (promise : ExecutionPromise)

structure ExecutorServer where
  idempotency : InsertionMap String CachedResponse
  exchanges : List ExchangePhase
  runs : List SkillRun
  clock : Instant

inductive ExecutorAction where
  /-- The head of a new request. -/
  | head (head : ExecutorRequestHead) (now : Instant)
  /-- The whole body of a request. -/
  | body (index : Nat) (body : String) (now : Instant)
  /-- The body of a request is too large, too late, or broken off. -/
  | bodyFailed (index : Nat) (problem : HttpProblem) (now : Instant)

namespace ExecutorServer

variable (options : ExecutorServerOptions)

def initial : ExecutorServer := ⟨.empty, [], [], 0⟩

variable (server : ExecutorServer)

def execute (credential : String) (claims : ExecutorCredentialClaims)
    (request : ExecutorRequestBody) (now : Instant) : ExecutionPromise × ExecutorServer :=
  let found := options.skills.contains request.skillId
  let promise := if found then ExecutionPromise.run server.runs.length else .skillNotFound
  let context : CloudSkillContext :=
    ⟨claims.taskId, claims.tenantId, claims.skillId, claims.idempotencyKey⟩
  (promise, { server with
    idempotency := server.idempotency.set (cacheKey request)
      ⟨requestFingerprint request, now + options.idempotencyTtlMs, promise⟩
    runs :=
      if found then
        server.runs ++ [⟨request.skillId, request.input, context, now, credential, claims⟩]
      else server.runs })

def handleBody (credential : String) (claims : ExecutorCredentialClaims) (body : String)
    (now : Instant) : ExchangePhase × ExecutorServer :=
  match acceptBody options claims body with
  | .error problem => (.rejected problem, server)
  | .ok request =>
    let pruned := { server with idempotency := pruneIdempotency server.idempotency now }
    match decideIdempotency options pruned.idempotency request with
    | .refuse problem => (.rejected problem, pruned)
    | .await promise => (.awaiting promise, pruned)
    | .execute =>
      let (promise, executed) := pruned.execute options credential claims request now
      (.awaiting promise, executed)

/-- A body is read within its timeout, and within its size limit. -/
def step : ExecutorAction → Option ExecutorServer
  | .head head now =>
    let phase := match acceptHead options head now with
      | .error problem => .rejected problem
      | .ok (credential, claims) => .reading credential claims now
    some { server with exchanges := server.exchanges ++ [phase], clock := now }
  | .body index body now =>
    match server.exchanges[index]? with
    | some (.reading credential claims verifiedAt) =>
      if verifiedAt + options.bodyTimeoutMs < now ∨ options.maxBodyBytes < body.utf8ByteSize
      then none
      else
        let (phase, handled) := server.handleBody options credential claims body now
        some { handled with
          exchanges := server.exchanges.set index phase
          clock := now }
    | _ => none
  | .bodyFailed index problem now =>
    match server.exchanges[index]? with
    | some (.reading _ _ _) => some { server with
        exchanges := server.exchanges.set index (.rejected problem), clock := now }
    | _ => none

def ClockMonotone : ExecutorAction → Prop
  | .head _ now | .body _ _ now | .bodyFailed _ _ now => server.clock ≤ now

abbrev Run : ExecutorServer → Prop :=
  GuardedRun (step options) ClockMonotone initial

end ExecutorServer

end LongHub
