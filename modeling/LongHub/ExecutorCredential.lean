import LongHub.Base64Url
import LongHub.ExceptChecks
import LongHub.CloudTaskStore
import Mathlib.Data.List.Sort

/-!
# Executor credentials

Cloud gives the Executor a short-lived credential for one task.
-/

namespace LongHub

open Base64Url JsonValue List

/-- The library functions that the Executor calls. -/
structure NodePlatform where
  parseJson : String → Option JsonValue
  utf8Text : List UInt8 → String
  hmacSha256 : List UInt8 → String → List UInt8
  sha256Hex : String → String
  /-- The integer that a number literal stands for. -/
  integerOf : String → Option Int
  /-- How a finite number is printed; none for an infinite one. -/
  printNumber : String → Option String
  quote : String → String
  localeCompare : String → String → Bool

section CanonicalJson

variable (node : NodePlatform)

mutual

@[grind =]
def canonicalJson (depth : Nat) : JsonValue → Option String
  | .null => if 100 < depth then none else some "null"
  | .bool value => if 100 < depth then none else some (if value then "true" else "false")
  | .number literal => if 100 < depth then none else node.printNumber literal
  | .text value => if 100 < depth then none else some (node.quote value)
  | .array items =>
    if 100 < depth then none
    else (canonicalItems (depth + 1) items).map fun texts =>
      "[" ++ ",".intercalate texts ++ "]"
  | .record fields =>
    if 100 < depth then none
    else (canonicalFields (depth + 1) fields).map fun texts =>
      let sorted := texts.insertionSort fun first second => node.localeCompare first.1 second.1
      "\x7b" ++ ",".intercalate
        (sorted.map fun field => node.quote field.1 ++ ":" ++ field.2) ++ "\x7d"

def canonicalItems (depth : Nat) : List JsonValue → Option (List String)
  | [] => some []
  | item :: rest => do
    let text ← canonicalJson depth item
    let texts ← canonicalItems depth rest
    some (text :: texts)

def canonicalFields (depth : Nat) : List (String × JsonValue) → Option (List (String × String))
  | [] => some []
  | (key, value) :: rest => do
    let text ← canonicalJson depth value
    let texts ← canonicalFields depth rest
    some ((key, text) :: texts)

end

def computeExecutorInputDigest (input : JsonValue) : Option String :=
  (canonicalJson node 0 input).map node.sha256Hex

end CanonicalJson

def hasExactKeys (fields : List (String × JsonValue)) (expected : List String) : Bool :=
  "|".intercalate ((fields.map Prod.fst).insertionSort fun first second => first ≤ second) =
    "|".intercalate (expected.insertionSort fun first second => first ≤ second)

theorem hasExactKeys_of_names {fields : List (String × JsonValue)} {names : List String}
    (named : fields.map Prod.fst = names) : hasExactKeys fields names = true := by
  subst named
  exact decide_eq_true rfl

def matchesClasses (first rest : Char → Bool) (least most : Nat) (text : String) : Bool :=
  match text.toList with
  | [] => false
  | head :: tail => first head && tail.all rest && least ≤ tail.length && tail.length ≤ most

def hasControl (text : String) : Bool :=
  text.toList.any fun char => char.toNat ≤ 0x1f || char.toNat = 0x7f

def idPattern : String → Bool :=
  matchesClasses Char.isAlphanum (fun char => char.isAlphanum || char ∈ ['.', '_', ':', '-']) 0 127

def skillIdPattern : String → Bool :=
  matchesClasses (fun char => char.isLower || char.isDigit)
    (fun char => char.isLower || char.isDigit || char ∈ ['.', '_', '-']) 2 127

def idempotencyPattern : String → Bool :=
  matchesClasses Char.isAlphanum
    (fun char => char.isAlphanum || char ∈ ['.', '_', '~', ':', '-']) 0 127

def keyIdPattern : String → Bool :=
  let allowed := fun char => char.isAlphanum || char ∈ ['.', '_', '-']
  matchesClasses allowed allowed 0 127

def digestPattern (text : String) : Bool := isSha256Hex text.toList

def validText (text : String) (pattern : String → Bool) : Bool :=
  pattern text && !hasControl text

def uuidPattern (text : String) : Bool :=
  match (text.toList.map Char.toLower).splitOn '-' with
  | [time, middle, version :: high, variant :: sequence, node] =>
    [time.length, middle.length, high.length, sequence.length, node.length] = [8, 4, 3, 3, 12] &&
      (time ++ middle ++ high ++ sequence ++ node).all isLowerHexDigit &&
      ('1' ≤ version && version ≤ '8') && variant ∈ ['8', '9', 'a', 'b']
  | _ => false

def executorCredentialSchema : String := "longhub/executor-credential/v1"
def executorRequestSchema : String := "longhub/executor-request/v1"
def executorCredentialMaxTtlMs : Int := 300000
def executorClockSkewMs : Int := 10000
def credentialPrefix : String := "lhx1"

def isSafeInteger (value : Int) : Bool := value.natAbs ≤ 9007199254740991

structure ExecutorCredentialKey where
  keyId : String
  secret : List UInt8

structure ExecutorCredentialClaims where
  credentialId : String
  keyId : String
  taskId : String
  tenantId : String
  skillId : String
  idempotencyKey : String
  inputDigest : String
  issuedAt : Int
  expiresAt : Int
  deriving DecidableEq

inductive ExecutorCredentialError where
  | credentialInvalid
  | credentialExpired
  | keyInvalid

def assertKey (key : ExecutorCredentialKey) : Bool :=
  keyIdPattern key.keyId && 32 ≤ key.secret.length && key.secret.length ≤ 64

structure ExecutorEnvelope where
  payload : String
  signature : String

/-- The bytes of a text, if it is what their encoding gives. -/
def base64urlDecode (value : String) : Option (List UInt8) :=
  let allowed := isAlphabet
  let decoded := decode value.toList
  if matchesClasses allowed allowed 0 4095 value && !decoded.isEmpty &&
      encode decoded = value.toList then some decoded
  else none

def parseEnvelope (token : String) : Option ExecutorEnvelope :=
  if token.length < 16 || 8192 < token.length then none
  else
    match (token.toList.splitOn '.').map String.ofList with
    | [lead, payload, signature] =>
      if lead ≠ credentialPrefix || payload = "" || signature = "" then none
      else
        match base64urlDecode payload, base64urlDecode signature with
        | some _, some bytes => if bytes.length = 32 then some ⟨payload, signature⟩ else none
        | _, _ => none
    | _ => none

def envelopeText (payload signature : List UInt8) : String :=
  credentialPrefix ++ "." ++ String.ofList (encode payload) ++ "." ++
    String.ofList (encode signature)

section EnvelopeText

theorem matchesClasses_encode {bytes : List UInt8} (present : bytes ≠ [])
    (short : bytes.length ≤ 3072) :
    matchesClasses isAlphabet isAlphabet 0 4095 (String.ofList (encode bytes)) = true := by
  have length := length_encode bytes
  have positive := length_pos_iff.mpr present
  have allowed := fun char => @Base64Url.isAlphabet_of_mem_encode bytes char
  rw [matchesClasses, String.toList_ofList]
  cases encoded : encode bytes with
  | nil =>
    rw [encoded, length_nil] at length
    omega
  | cons head tail =>
    rw [encoded, length_cons] at length
    rw [encoded] at allowed
    have headAllowed := allowed head mem_cons_self
    have tailAllowed : tail.all isAlphabet = true :=
      all_eq_true.mpr fun char mem => allowed char (mem_cons_of_mem _ mem)
    have within : tail.length ≤ 4095 := by omega
    simp [headAllowed, tailAllowed, within]

theorem base64urlDecode_encode {bytes : List UInt8} (present : bytes ≠ [])
    (short : bytes.length ≤ 3072) :
    base64urlDecode (String.ofList (encode bytes)) = some bytes := by
  have allowed := matchesClasses_encode present short
  simp [base64urlDecode, allowed, decode_encode, present]

theorem dot_notMem_encode (bytes : List UInt8) : '.' ∉ encode bytes := by
  intro mem
  have allowed := isAlphabet_of_mem_encode mem
  revert allowed
  decide

theorem toList_envelopeText (payload signature : List UInt8) :
    (envelopeText payload signature).toList = ['l', 'h', 'x', '1'] ++ '.' :: (encode payload ++
        '.' :: encode signature) := by
  simp [envelopeText, credentialPrefix]

theorem splitOn_envelopeText (payload signature : List UInt8) :
    (envelopeText payload signature).toList.splitOn '.' =
      [['l', 'h', 'x', '1'], encode payload, encode signature] := by
  rw [toList_envelopeText, splitOn_append_cons_self_of_not_mem (by decide),
    splitOn_append_cons_self_of_not_mem (dot_notMem_encode payload),
    splitOn_eq_singleton (dot_notMem_encode signature)]

theorem parseEnvelope_envelopeText {payload signature : List UInt8} (present : payload ≠ [])
    (short : payload.length ≤ 3072) (whole : signature.length = 32) :
    parseEnvelope (envelopeText payload signature) = some ⟨String.ofList (encode payload),
        String.ofList (encode signature)⟩ := by
  have payloadLength := length_encode payload
  have signatureLength := length_encode signature
  have positive := length_pos_iff.mpr present
  have signed : signature ≠ [] := by
    rintro rfl
    cases whole
  have length : (envelopeText payload signature).length =
      6 + (encode payload).length + (encode signature).length := by
    rw [← String.length_toList, toList_envelopeText]
    simp only [length_append, length_cons, length_nil]
    omega
  have payloadPresent : encode payload ≠ [] := by
    intro absent
    rw [absent, length_nil] at payloadLength
    omega
  have signaturePresent : encode signature ≠ [] := by
    intro absent
    rw [absent, length_nil] at signatureLength
    omega
  have long : ¬ (envelopeText payload signature).length < 16 := by omega
  have within : ¬ 8192 < (envelopeText payload signature).length := by omega
  have lead : String.ofList ['l', 'h', 'x', '1'] = credentialPrefix := by rfl
  simp [parseEnvelope, long, within, splitOn_envelopeText, lead, payloadPresent,
    signaturePresent, base64urlDecode_encode present short,
    base64urlDecode_encode signed (by omega), whole]

end EnvelopeText

section Verify

variable (node : NodePlatform)

def signEnvelope (payload : String) (key : ExecutorCredentialKey) : List UInt8 :=
  node.hmacSha256 key.secret (credentialPrefix ++ "." ++ payload)

def integerField (fields : List (String × JsonValue)) (key : String) : Option Int :=
  match fields.lookup key with
  | some (.number literal) =>
    (node.integerOf literal).bind fun value =>
      if isSafeInteger value then some value else none
  | _ => none

def parseClaims (value : JsonValue) : Option ExecutorCredentialClaims := do
  let .record fields := value | none
  guard (hasExactKeys fields ["schema_version", "credential_id", "key_id", "task_id",
    "tenant_id", "skill_id", "idempotency_key", "input_digest", "issued_at", "expires_at"])
  let schema ← textField fields "schema_version"
  let credentialId ← textField fields "credential_id"
  let keyId ← textField fields "key_id"
  let taskId ← textField fields "task_id"
  let tenantId ← textField fields "tenant_id"
  let skillId ← textField fields "skill_id"
  let idempotencyKey ← textField fields "idempotency_key"
  let inputDigest ← textField fields "input_digest"
  let issuedAt ← integerField node fields "issued_at"
  let expiresAt ← integerField node fields "expires_at"
  guard (schema = executorCredentialSchema && uuidPattern credentialId)
  guard (validText keyId keyIdPattern && validText taskId idPattern &&
    validText tenantId idPattern && validText skillId skillIdPattern &&
    validText idempotencyKey idempotencyPattern && digestPattern inputDigest)
  guard (issuedAt < expiresAt && expiresAt - issuedAt ≤ executorCredentialMaxTtlMs)
  some ⟨credentialId, keyId, taskId, tenantId, skillId, idempotencyKey, inputDigest, issuedAt,
    expiresAt⟩

variable (key : ExecutorCredentialKey)

variable (trustedKeys : InsertionMap String ExecutorCredentialKey)

def verificationKey (keyId : String) : Option ExecutorCredentialKey :=
  (trustedKeys.get? keyId).or (if keyId = key.keyId then some key else none)

def authenticClaims (token : String) :
    Except ExecutorCredentialError ExecutorCredentialClaims := do
  .ensure (assertKey key) .keyInvalid
  let envelope ← .require (parseEnvelope token) .credentialInvalid
  let bytes ← .require (base64urlDecode envelope.payload) .credentialInvalid
  let value ← .require (node.parseJson (node.utf8Text bytes)) .credentialInvalid
  let claims ← .require (parseClaims node value) .credentialInvalid
  let known ← .require (verificationKey key trustedKeys claims.keyId) .credentialInvalid
  .ensure (assertKey known) .keyInvalid
  .ensure (signEnvelope node envelope.payload known = decode envelope.signature.toList)
    .credentialInvalid
  return claims

def verifyExecutorCredential (token : String)
    (nowMs : Instant) : Except ExecutorCredentialError ExecutorCredentialClaims := do
  let claims ← authenticClaims node key trustedKeys token
  .ensure (isSafeInteger nowMs) .credentialInvalid
  .ensure (claims.issuedAt ≤ nowMs + executorClockSkewMs) .credentialInvalid
  .ensure (nowMs < claims.expiresAt) .credentialExpired
  return claims

end Verify

end LongHub
