import LongHub.ExecutorServer

/-!
# Signed requests are accepted

An envelope whose signature is that of a known key verifies between its times, and the head of a
request that carries it is accepted.
-/

namespace LongHub

open Base64Url List String

section Envelope

variable {node : NodePlatform} {key known : ExecutorCredentialKey}
  {trustedKeys : InsertionMap String ExecutorCredentialKey} {payload signature : List UInt8}
  {value : JsonValue} {claims : ExecutorCredentialClaims}

theorem authenticClaims_envelopeText (keyValid : assertKey key = true) (present : payload ≠ [])
    (short : payload.length ≤ 3072) (whole : signature.length = 32)
    (parsed : node.parseJson (node.utf8Text payload) = some value)
    (claimed : parseClaims node value = some claims)
    (trusted : verificationKey key trustedKeys claims.keyId = some known)
    (knownValid : assertKey known = true)
    (signed : signEnvelope node (ofList (encode payload)) known = signature) :
    authenticClaims node key trustedKeys (envelopeText payload signature) = .ok claims := by
  simp [authenticClaims, bind, Except.bind, Except.ensure, Except.require, pure, Except.pure,
    keyValid, parseEnvelope_envelopeText present short whole, base64urlDecode_encode present short,
    parsed, claimed, trusted, knownValid, signed, decode_encode]

theorem verifyExecutorCredential_of_authentic {token : String} {nowMs : Instant}
    (authentic : authenticClaims node key trustedKeys token = .ok claims)
    (safe : isSafeInteger nowMs = true) (issued : claims.issuedAt ≤ nowMs + executorClockSkewMs)
    (unexpired : nowMs < claims.expiresAt) :
    verifyExecutorCredential node key trustedKeys token nowMs = .ok claims := by
  simp [verifyExecutorCredential, bind, Except.bind, Except.ensure, pure, Except.pure, authentic,
    safe, issued, unexpired]

end Envelope

theorem isWhiteSpace_of_isAlphabet {char : Char} (allowed : isAlphabet char = true) :
    isWhiteSpace char = false := by
  by_contra white
  rw [Bool.not_eq_false, isWhiteSpace, decide_eq_true_eq] at white
  have apart : [' ', '\t', '\n', '\x0b', '\x0c', '\r', '\u00a0', '\ufeff'].all
      (fun char => !isAlphabet char) = true := by decide
  have other := all_eq_true.mp apart char white
  rw [allowed] at other
  cases other

theorem trim_of_dense {text : String}
    (dense : ∀ char ∈ text.toList, isWhiteSpace char = false) : trim text = text := by
  have kept {chars : List Char} (dense : ∀ char ∈ chars, isWhiteSpace char = false) :
      chars.dropWhile isWhiteSpace = chars := by
    cases chars with
    | nil => rfl
    | cons head tail => simp [dense head mem_cons_self]
  rw [trim, kept dense, kept fun char mem => dense char (mem_reverse.mp mem),
    reverse_reverse, ofList_toList]

theorem trim_envelopeText (payload signature : List UInt8) :
    trim (envelopeText payload signature) = envelopeText payload signature := by
  apply trim_of_dense
  intro char mem
  rw [toList_envelopeText] at mem
  rcases mem_append.mp mem with lead | rest
  · have dense : ['l', 'h', 'x', '1'].all (fun char => !isWhiteSpace char) = true := by decide
    simpa using all_eq_true.mp dense char lead
  rcases mem_cons.mp rest with rfl | rest
  · decide
  rcases mem_append.mp rest with inPayload | rest
  · exact isWhiteSpace_of_isAlphabet (isAlphabet_of_mem_encode inPayload)
  rcases mem_cons.mp rest with rfl | inSignature
  · decide
  · exact isWhiteSpace_of_isAlphabet (isAlphabet_of_mem_encode inSignature)

theorem envelopeText_ne_empty (payload signature : List UInt8) :
    envelopeText payload signature ≠ "" := by
  intro empty
  have none := congrArg toList empty
  simp [toList_envelopeText] at none

def executeHead (idempotencyKey credential : String) : ExecutorRequestHead :=
  ⟨"POST", "/execute", some "application/json", some idempotencyKey, some credential⟩

theorem acceptHead_executeHead {options : ExecutorServerOptions} {payload signature : List UInt8}
    {now : Instant} {claims : ExecutorCredentialClaims}
    (verified : verifyCredential options (envelopeText payload signature) now = .ok claims)
    (valid : idempotencyPattern claims.idempotencyKey = true) :
    acceptHead options (executeHead claims.idempotencyKey (envelopeText payload signature)) now =
      .ok (envelopeText payload signature, claims) := by
  have json : isJsonContentType "application/json" = true := by decide
  have credential : internalCredential
      (executeHead claims.idempotencyKey (envelopeText payload signature)) =
        some (envelopeText payload signature) := by
    simp only [internalCredential, executeHead, Option.map_some, trim_envelopeText]
    split
    next empty => exact absurd (Option.some.inj empty) (envelopeText_ne_empty payload signature)
    next => rfl
  rw [acceptHead, credential, Except.require]
  simp [executeHead, bind, Except.bind, Except.ensure, Except.require, pure, Except.pure, json,
    valid, verified, Except.mapError, Option.filter]

def exampleDigest : String := "c8d699b727ef627e5a749364246158a85fca1de82b2a7ce89bb177d2528b632a"

def exampleSkill : String := "longhub.skill.salary-band"

def exampleClaims (digit : String) : ExecutorCredentialClaims :=
  ⟨"00000000-0000-4000-8000-00000000000" ++ digit, "executor-v1", "ct-" ++ digit, "tenant-a",
    exampleSkill, "idem-1", exampleDigest, 0, 60000⟩

/-- What the claims and the body of a request begin with. -/
def exampleOpening : String := "\x7b\"schema_version\":\"longhub/executor-"

def exampleClaimsText (digit : String) : String :=
  exampleOpening ++ ("credential/v1" ++
  ("\",\"credential_id\":\"00000000-0000-4000-8000-00000000000" ++ (digit ++
  ("\",\"key_id\":\"executor-v1\",\"task_id\":\"ct-" ++ (digit ++
  ("\",\"tenant_id\":\"tenant-a\",\"skill_id\":\"" ++ (exampleSkill ++
  ("\",\"idempotency_key\":\"idem-1\",\"input_digest\":\"" ++ (exampleDigest ++
  "\",\"issued_at\":0,\"expires_at\":60000\x7d")))))))))

def exampleClaimsJson (digit : String) : JsonValue := .record
  [("schema_version", .text executorCredentialSchema),
    ("credential_id", .text ("00000000-0000-4000-8000-00000000000" ++ digit)),
    ("key_id", .text "executor-v1"), ("task_id", .text ("ct-" ++ digit)),
    ("tenant_id", .text "tenant-a"), ("skill_id", .text exampleSkill),
    ("idempotency_key", .text "idem-1"), ("input_digest", .text exampleDigest),
    ("issued_at", .number "0"), ("expires_at", .number "60000")]

def exampleBody (digit : String) : String :=
  exampleOpening ++ ("request/v1" ++ ("\",\"task_id\":\"ct-" ++ (digit ++
  ("\",\"tenant_id\":\"tenant-a\",\"skill_id\":\"" ++ (exampleSkill ++
  ("\",\"idempotency_key\":\"idem-1\",\"input_digest\":\"" ++ (exampleDigest ++
  "\",\"input\":\x7b\"level\":3\x7d\x7d")))))))

def exampleInput : JsonValue := .record [("level", .number "3")]

def exampleBodyJson (digit : String) : JsonValue := .record
  [("schema_version", .text executorRequestSchema), ("task_id", .text ("ct-" ++ digit)),
    ("tenant_id", .text "tenant-a"), ("skill_id", .text exampleSkill),
    ("idempotency_key", .text "idem-1"), ("input_digest", .text exampleDigest),
    ("input", exampleInput)]

def examplePayload (digit : String) : List UInt8 :=
  (exampleClaimsText digit).toByteArray.data.toList

def exampleSignature (digit : String) : List UInt8 :=
  if digit = "1" then
    [75, 220, 146, 3, 84, 81, 3, 175, 21, 191, 228, 63, 43, 33, 128, 38, 146, 240, 241,
      3, 85, 98, 118, 203, 84, 248, 48, 209, 63, 25, 70, 134]
  else
    [45, 175, 37, 253, 19, 237, 123, 99, 190, 97, 180, 159, 213, 195, 145, 186, 113, 169,
      200, 184, 84, 143, 135, 32, 183, 98, 126, 240, 181, 193, 189, 147]

def exampleToken (digit : String) : String :=
  envelopeText (examplePayload digit) (exampleSignature digit)

/-- The library functions on what the two tasks need. -/
def exampleNode : NodePlatform where
  parseJson text :=
    [(exampleClaimsText "1", exampleClaimsJson "1"), (exampleClaimsText "2", exampleClaimsJson "2"),
      (exampleBody "1", exampleBodyJson "1"), (exampleBody "2", exampleBodyJson "2")].lookup text
  utf8Text bytes := (fromUTF8? ⟨bytes.toArray⟩).getD ""
  hmacSha256 _ text :=
    exampleSignature (if text = "lhx1" ++ "." ++ ofList (encode (examplePayload "1")) then "1"
      else "2")
  sha256Hex _ := exampleDigest
  integerOf literal :=
    some (literal.toList.foldl (fun value digit => 10 * value + (digit.toNat - '0'.toNat)) 0 : Nat)
  printNumber literal := some literal
  quote text := "\"" ++ text ++ "\""
  localeCompare first second := first ≤ second

def exampleKey : ExecutorCredentialKey :=
  ⟨"executor-v1", (range 32).map fun byte => byte.toUInt8⟩

/-- The default limits. -/
def exampleOptions : ExecutorServerOptions where
  node := exampleNode
  credentialKey := exampleKey
  credentialVerificationKeys := .empty
  skills := [exampleSkill]
  maxBodyBytes := 1048576
  bodyTimeoutMs := 10000
  idempotencyTtlMs := 600000
  maxIdempotencyEntries := 10000

theorem exampleClaimsText_ne : exampleClaimsText "2" ≠ exampleClaimsText "1" := by
  intro same
  simp only [exampleClaimsText, String.append_right_inj] at same
  have sameHead := congrArg (fun text : String => text.toList.head?) same
  simp at sameHead

theorem exampleBody_ne : exampleBody "2" ≠ exampleBody "1" := by
  intro same
  simp only [exampleBody, String.append_right_inj] at same
  have sameHead := congrArg (fun text : String => text.toList.head?) same
  simp at sameHead

theorem exampleBody_ne_exampleClaimsText (first second : String) :
    exampleBody first ≠ exampleClaimsText second := by
  intro same
  simp only [exampleBody, exampleClaimsText, String.append_right_inj] at same
  have sameHead := congrArg (fun text : String => text.toList.head?) same
  simp at sameHead

theorem utf8Text_examplePayload (digit : String) :
    exampleNode.utf8Text (examplePayload digit) = exampleClaimsText digit := by
  have valid : fromUTF8? (exampleClaimsText digit).toByteArray =
      some (exampleClaimsText digit) := dif_pos (exampleClaimsText digit).isValidUTF8
  simp [exampleNode, examplePayload, valid]

theorem examplePayload_ne : examplePayload "2" ≠ examplePayload "1" := by
  intro same
  have sameText := congrArg exampleNode.utf8Text same
  rw [utf8Text_examplePayload, utf8Text_examplePayload] at sameText
  exact exampleClaimsText_ne sameText

def exampleRequest (digit : String) : ExecutorRequestBody :=
  ⟨"ct-" ++ digit, "tenant-a", exampleSkill, "idem-1", exampleDigest, exampleInput⟩

variable {digit : String}

variable (known : digit = "1" ∨ digit = "2")
include known

theorem signEnvelope_example :
    signEnvelope exampleNode (ofList (encode (examplePayload digit))) exampleKey =
      exampleSignature digit := by
  rcases known with rfl | rfl
  · simp [signEnvelope, exampleNode, credentialPrefix]
  · have other : ofList (encode (examplePayload "2")) ≠ ofList (encode (examplePayload "1")) := by
      intro same
      have sameBytes := congrArg (fun text : String => decode text.toList) same
      simp only [toList_ofList, decode_encode] at sameBytes
      exact examplePayload_ne sameBytes
    simp [signEnvelope, exampleNode, credentialPrefix, other]

theorem parseJson_exampleClaimsText :
    exampleNode.parseJson (exampleClaimsText digit) = some (exampleClaimsJson digit) := by
  rcases known with rfl | rfl
  · simp [exampleNode, lookup_cons]
  · simp [exampleNode, lookup_cons, beq_false_of_ne exampleClaimsText_ne]

theorem parseJson_exampleBody :
    exampleNode.parseJson (exampleBody digit) = some (exampleBodyJson digit) := by
  rcases known with rfl | rfl
  · simp [exampleNode, lookup_cons, beq_false_of_ne (exampleBody_ne_exampleClaimsText _ _)]
  · simp [exampleNode, lookup_cons, beq_false_of_ne (exampleBody_ne_exampleClaimsText _ _),
      beq_false_of_ne exampleBody_ne]

theorem parseClaims_example :
    parseClaims exampleNode (exampleClaimsJson digit) = some (exampleClaims digit) := by
  rcases known with rfl | rfl <;> decide

theorem verifyCredential_example {now : Instant}
    (notBefore : 0 ≤ now) (unexpired : now < 60000) :
    verifyCredential exampleOptions (exampleToken digit) now = .ok (exampleClaims digit) := by
  have size : 0 < (exampleClaimsText digit).utf8ByteSize ∧
      (exampleClaimsText digit).utf8ByteSize ≤ 3072 := by
    rcases known with rfl | rfl <;> decide +kernel
  have length : (examplePayload digit).length = (exampleClaimsText digit).utf8ByteSize := by
    simp [examplePayload]
  have parsed := parseJson_exampleClaimsText known
  rw [← utf8Text_examplePayload] at parsed
  have safe : isSafeInteger now = true := by
    apply decide_eq_true
    unfold Instant at *
    omega
  have issued : (0 : Int) ≤ now + 10000 := by
    unfold Instant at *
    omega
  have trusted : verificationKey exampleKey (verificationKeys exampleOptions) "executor-v1" =
      some exampleKey := rfl
  have whole : (exampleSignature digit).length = 32 := by
    rcases known with rfl | rfl <;> decide
  apply verifyExecutorCredential_of_authentic _ safe issued unexpired
  exact authenticClaims_envelopeText (by decide) (length_pos_iff.mp (by omega))
    (by omega) whole parsed (parseClaims_example known) trusted (by decide)
    (signEnvelope_example known)

theorem acceptHead_example {now : Instant} (notBefore : 0 ≤ now)
    (unexpired : now < 60000) :
    acceptHead exampleOptions (executeHead "idem-1" (exampleToken digit)) now =
      .ok (exampleToken digit, exampleClaims digit) := by
  have valid : idempotencyPattern "idem-1" = true := by decide
  exact @acceptHead_executeHead _ _ _ _ (exampleClaims digit)
    (verifyCredential_example known notBefore unexpired) valid

theorem acceptBody_example :
    acceptBody exampleOptions (exampleClaims digit) (exampleBody digit) =
      .ok (exampleRequest digit) := by
  rw [acceptBody, show exampleOptions.node = exampleNode from rfl, parseJson_exampleBody known]
  rcases known with rfl | rfl
  · rfl
  · rfl

end LongHub
