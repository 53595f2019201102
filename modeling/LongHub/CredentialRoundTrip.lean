import LongHub.CredentialIssue

/-!
# Issued credentials are verified

An issued credential verifies from the clock skew before its issue until its end, as long as all of
these times are safe integers, which the issuer does not check of the end.
-/

namespace LongHub

open Base64Url List String

section RoundTrip

variable {node : NodePlatform} {clock : Instant} {credentialId : String}
  {input : IssueExecutorCredentialInput} {options : IssueExecutorCredentialOptions}
  {claims : ExecutorCredentialClaims} {trustedKeys : InsertionMap String ExecutorCredentialKey}

def SameKey (options : IssueExecutorCredentialOptions)
    (trustedKeys : InsertionMap String ExecutorCredentialKey) : Prop :=
  verificationKey options.key trustedKeys options.key.keyId = some options.key

def RoundTrip (node : NodePlatform) (key : ExecutorCredentialKey)
    (trustedKeys : InsertionMap String ExecutorCredentialKey) (token : String)
    (claims : ExecutorCredentialClaims) : Prop :=
  ∀ now : Instant, (claims.issuedAt - executorClockSkewMs ≤ now ∧ now < claims.expiresAt →
      verifyExecutorCredential node key trustedKeys token now = .ok claims) ∧
    (¬ (claims.issuedAt - executorClockSkewMs ≤ now ∧ now < claims.expiresAt) →
      ∃ problem, verifyExecutorCredential node key trustedKeys token now = .error problem)

theorem length_signEnvelope (reads : node.ReadsBack claims) (payload : String)
    (key : ExecutorCredentialKey) : (signEnvelope node payload key).length = 32 :=
  reads.mac _ _

theorem authenticClaims_claimsToken (reads : node.ReadsBack claims)
    (uuid : IsRandomUuid credentialId)
    (issued : Issued node clock credentialId input options claims)
    (sameKey : SameKey options trustedKeys) :
    authenticClaims node options.key trustedKeys (claimsToken node options.key claims) =
      if isSafeInteger claims.expiresAt then .ok claims else .error .credentialInvalid := by
  obtain ⟨present, short⟩ := length_claimsPayload reads uuid issued
  have parsed := reads.parse
  rw [← reads.utf8] at parsed
  have claimed := parseClaims_claimsJson reads uuid issued
  have whole := length_signEnvelope reads (ofList (encode (claimsPayload node claims))) options.key
  have keyId : claims.keyId = options.key.keyId :=
    congrArg ExecutorCredentialClaims.keyId issued.fields
  have known : verificationKey options.key trustedKeys claims.keyId = some options.key := by
    rw [keyId]
    exact sameKey
  cases safe : isSafeInteger claims.expiresAt with
  | true =>
    rw [safe, if_pos rfl] at claimed
    exact authenticClaims_envelopeText issued.key present short whole parsed claimed known
      issued.key rfl
  | false =>
    rw [safe, if_neg (by decide)] at claimed
    simp [authenticClaims, bind, Except.bind, Except.ensure, Except.require, issued.key,
      claimsToken, parseEnvelope_envelopeText present short whole,
      base64urlDecode_encode present short, parsed, claimed]

theorem verify_claimsToken (reads : node.ReadsBack claims) (uuid : IsRandomUuid credentialId)
    (issued : Issued node clock credentialId input options claims)
    (sameKey : SameKey options trustedKeys) (now : Instant) :
    verifyExecutorCredential node options.key trustedKeys (claimsToken node options.key claims)
        now = if !isSafeInteger claims.expiresAt then .error .credentialInvalid
      else if !isSafeInteger now then .error .credentialInvalid
      else if now + executorClockSkewMs < claims.issuedAt then .error .credentialInvalid
      else if claims.expiresAt ≤ now then .error .credentialExpired else .ok claims := by
  have authentic := authenticClaims_claimsToken reads uuid issued sameKey
  unfold verifyExecutorCredential
  rw [authentic]
  cases safe : isSafeInteger claims.expiresAt with
  | false => rfl
  | true =>
    cases safeNow : isSafeInteger now with
    | false => simp [bind, Except.bind, Except.ensure]
    | true =>
      by_cases early : now + executorClockSkewMs < claims.issuedAt
      · simp [bind, Except.bind, Except.ensure, early, not_le.mpr early]
      · by_cases late : claims.expiresAt ≤ now
        · simp [bind, Except.bind, Except.ensure, early, not_lt.mp early, late, not_lt.mpr late]
        · simp [bind, Except.bind, Except.ensure, pure, Except.pure, early,
            not_lt.mp early, late, not_le.mp late]

theorem roundTrip_claimsToken (reads : node.ReadsBack claims) (uuid : IsRandomUuid credentialId)
    (issued : Issued node clock credentialId input options claims)
    (sameKey : SameKey options trustedKeys) :
    RoundTrip node options.key trustedKeys (claimsToken node options.key claims) claims ↔
      -9007199254740991 ≤ options.nowMs.getD clock - executorClockSkewMs ∧
        options.nowMs.getD clock + options.ttlMs.getD executorCredentialTtlMs ≤
          9007199254740991 := by
  have verified := verify_claimsToken reads uuid issued sameKey
  have least := issued.least
  have most := issued.most
  have safeIssue := issued.safe
  have safeEnd := isSafeInteger_addMilliseconds least most safeIssue
  rw [← issued.expiresAt] at safeEnd
  rw [← issued.issuedAt]
  simp only [isSafeInteger, decide_eq_true_eq] at safeIssue
  simp only [executorClockSkewMs] at verified ⊢
  have starts : claims.issuedAt < claims.expiresAt := by
    rw [issued.expiresAt]
    simp only [addMilliseconds]
    split
    · omega
    split <;> omega
  constructor
  · intro roundTrip
    constructor
    · by_contra early
      have inside := (roundTrip (claims.issuedAt - 10000)).1 ⟨le_rfl, by unfold Instant at *; omega⟩
      have unsafeTime : isSafeInteger (claims.issuedAt - 10000) = false := by
        apply decide_eq_false
        omega
      rw [verified] at inside
      simp only [unsafeTime, Bool.not_false, if_true] at inside
      split at inside <;> cases inside
    · by_contra late
      have inside := (roundTrip claims.issuedAt).1
        ⟨by simp only [executorClockSkewMs]; unfold Instant at *; omega, starts⟩
      have unsafeEnd : isSafeInteger claims.expiresAt = false := by
        rw [Bool.eq_false_iff]
        exact fun safe => late (safeEnd.mp safe)
      rw [verified] at inside
      simp [unsafeEnd] at inside
  · rintro ⟨early, late⟩ now
    have safe := safeEnd.mpr late
    have bounded := of_decide_eq_true safe
    rw [verified]
    simp only [executorClockSkewMs, safe, Bool.not_true, Bool.false_eq_true, if_false]
    constructor
    · rintro ⟨after_, before⟩
      have safeNow : isSafeInteger now = true := by
        apply decide_eq_true
        unfold Instant at *
        omega
      have started : ¬ now + 10000 < claims.issuedAt := by
        unfold Instant at *
        omega
      simp [safeNow, started, not_le.mpr before]
    · intro outside
      by_cases safeNow : isSafeInteger now = true
      · by_cases started : now + 10000 < claims.issuedAt
        · exact ⟨.credentialInvalid, by simp [safeNow, started]⟩
        · have ended : claims.expiresAt ≤ now := by
            by_contra running
            apply outside
            unfold Instant at *
            omega
          exact ⟨.credentialExpired, by simp [safeNow, started, ended]⟩
      · exact ⟨.credentialInvalid, by simp [safeNow]⟩

end RoundTrip

/-- A token that `issueExecutorCredential` has returned. -/
structure IssuedCredential (node : NodePlatform) where
  clock : Instant
  credentialId : String
  input : IssueExecutorCredentialInput
  options : IssueExecutorCredentialOptions
  claims : ExecutorCredentialClaims
  issued : issuedClaims node clock credentialId input options = .ok claims
  uuid : IsRandomUuid credentialId
  reads : node.ReadsBack claims

namespace IssuedCredential

variable {node : NodePlatform} (credential : IssuedCredential node)

def token : String := claimsToken node credential.options.key credential.claims

/-- The text that was signed. -/
def message : String :=
  credentialPrefix ++ "." ++ ofList (encode (claimsPayload node credential.claims))

theorem issueExecutorCredential_eq_ok : issueExecutorCredential node credential.clock
    credential.credentialId credential.input credential.options = .ok credential.token := by
  unfold issueExecutorCredential
  rw [credential.issued]
  rfl

end IssuedCredential

def tokenParts (token : String) : Option (String × List UInt8) :=
  match token.toList.splitOn '.' with
  | [lead, payload, _] => some (ofList lead, decode payload)
  | _ => none

def Unforgeable {node : NodePlatform} (issued : List (IssuedCredential node))
    (signature : List UInt8) (known : ExecutorCredentialKey) : Prop :=
  ∀ text, node.hmacSha256 known.secret text = signature →
    ∃ credential ∈ issued, text = credential.message

section Accepted

variable {node : NodePlatform}

theorem tokenParts_envelopeText (payload signature : List UInt8) :
    tokenParts (envelopeText payload signature) = some (credentialPrefix, payload) := by
  have lead : ofList ['l', 'h', 'x', '1'] = credentialPrefix := by rfl
  simp only [tokenParts, splitOn_envelopeText, lead, decode_encode]

theorem tokenParts_of_parseEnvelope {token : String} {envelope : ExecutorEnvelope}
    (parsed : parseEnvelope token = some envelope) :
    tokenParts token = some (credentialPrefix, decode envelope.payload.toList) := by
  simp only [parseEnvelope] at parsed
  split at parsed
  · cases parsed
  split at parsed
  case h_2 => cases parsed
  next lead payload signature parts =>
  split at parsed
  · cases parsed
  next present =>
  split at parsed
  case h_2 => cases parsed
  split at parsed
  case isFalse => cases parsed
  cases parsed
  simp only [Bool.or_eq_true, decide_eq_true_eq, not_or, not_not] at present
  obtain ⟨⟨sameLead, -⟩, -⟩ := present
  rw [map_eq_cons_iff] at parts
  obtain ⟨leadChars, others, split, leadText, parts⟩ := parts
  rw [map_eq_cons_iff] at parts
  obtain ⟨payloadChars, others, rfl, payloadText, parts⟩ := parts
  rw [map_eq_singleton_iff] at parts
  obtain ⟨signatureChars, rfl, -⟩ := parts
  rw [tokenParts, split]
  simp [leadText, sameLead, ← payloadText]

theorem parts_of_verified {issued : List (IssuedCredential node)} {key : ExecutorCredentialKey}
    {trustedKeys : InsertionMap String ExecutorCredentialKey} {token : String} {now : Instant}
    {claims : ExecutorCredentialClaims}
    (unforgeable : ∀ envelope keyId known, parseEnvelope token = some envelope →
      verificationKey key trustedKeys keyId = some known →
      Unforgeable issued (decode envelope.signature.toList) known)
    (verified : verifyExecutorCredential node key trustedKeys token now = .ok claims) :
    ∃ credential ∈ issued, tokenParts token = tokenParts credential.token := by
  simp only [verifyExecutorCredential, authenticClaims, Except.bind_eq_ok, Except.ensure_eq_ok,
    Except.require_eq_ok, Except.pure_eq_ok, decide_eq_true_eq] at verified
  obtain ⟨-, ⟨-, -, envelope, parsed, -, -, -, -, verifiedClaims, -, known, knownKey, -, -, -,
    signed, -⟩, -⟩ := verified
  obtain ⟨credential, mem, sameText⟩ :=
    unforgeable envelope verifiedClaims.keyId known parsed knownKey _ signed
  refine ⟨credential, mem, ?_⟩
  have samePayload : envelope.payload = ofList (encode (claimsPayload node credential.claims)) :=
    String.append_right_inj _ |>.mp sameText
  rw [tokenParts_of_parseEnvelope parsed, IssuedCredential.token, claimsToken,
    tokenParts_envelopeText, samePayload, toList_ofList,
    decode_encode]

end Accepted

/-- Every issued token makes the round trip exactly when the interval of its
times has safe integers only, and a token that verifies is an issued one in
header and payload, if signatures cannot be forged. -/
theorem credentialsVerified (node : NodePlatform) :
    (∀ (credential : IssuedCredential node) (trustedKeys : InsertionMap String
        ExecutorCredentialKey), SameKey credential.options trustedKeys →
      (RoundTrip node credential.options.key trustedKeys credential.token credential.claims ↔
        -9007199254740991 ≤ credential.options.nowMs.getD credential.clock - executorClockSkewMs ∧
          credential.options.nowMs.getD credential.clock +
            credential.options.ttlMs.getD executorCredentialTtlMs ≤ 9007199254740991)) ∧
    ∀ (issued : List (IssuedCredential node)) (key : ExecutorCredentialKey)
      (trustedKeys : InsertionMap String ExecutorCredentialKey) (token : String) (now : Instant)
      (claims : ExecutorCredentialClaims),
      (∀ envelope keyId known, parseEnvelope token = some envelope →
        verificationKey key trustedKeys keyId = some known →
        Unforgeable issued (decode envelope.signature.toList) known) →
      verifyExecutorCredential node key trustedKeys token now = .ok claims →
      ∃ credential ∈ issued, tokenParts token = tokenParts credential.token := by
  constructor
  · intro credential trustedKeys sameKey
    exact roundTrip_claimsToken credential.reads credential.uuid
      (issued_of_issuedClaims credential.issued) sameKey
  · intro issued key trustedKeys token now claims unforgeable verified
    exact parts_of_verified unforgeable verified

def RoundTripLaw : Prop :=
  ∀ (node : NodePlatform) (credential : IssuedCredential node)
    (trustedKeys : InsertionMap String ExecutorCredentialKey),
    SameKey credential.options trustedKeys →
    RoundTrip node credential.options.key trustedKeys credential.token credential.claims

/-- The library functions on what one credential needs. -/
def issuingNode (claims : ExecutorCredentialClaims) (signature : List UInt8) : NodePlatform where
  parseJson text :=
    if text = claimsText JsonText.quote claims then some (claimsJson claims) else none
  utf8Text := exampleNode.utf8Text
  hmacSha256 _ _ := signature
  sha256Hex _ := exampleDigest
  integerOf := exampleNode.integerOf
  printNumber literal := some literal
  quote := JsonText.quote
  localeCompare first second := first ≤ second

theorem readsBack_issuingNode {claims : ExecutorCredentialClaims} {signature : List UInt8}
    (whole : signature.length = 32)
    (issuedAt : exampleNode.integerOf (toString claims.issuedAt) = some claims.issuedAt)
    (expiresAt : exampleNode.integerOf (toString claims.expiresAt) = some claims.expiresAt) :
    (issuingNode claims signature).ReadsBack claims where
  quote _ := rfl
  utf8 := by
    have valid : fromUTF8? (claimsText JsonText.quote claims).toByteArray =
        some (claimsText JsonText.quote claims) :=
      dif_pos (claimsText JsonText.quote claims).isValidUTF8
    simp [issuingNode, exampleNode, claimsPayload, valid]
  parse := by simp only [issuingNode, if_true]
  issuedAt := issuedAt
  expiresAt := expiresAt
  mac _ _ := whole
  digest _ := by
    have digest : digestPattern exampleDigest = true := by decide
    exact digest

def exampleIssue : IssueExecutorCredentialInput :=
  ⟨"ct-1", "tenant-a", exampleSkill, "idem-1", exampleInput⟩

theorem isRandomUuid_example : IsRandomUuid "00000000-0000-4000-8000-000000000001" where
  pattern := by decide
  length := by decide
  digits := by
    have each : ("00000000-0000-4000-8000-000000000001".toList.all fun char =>
        isLowerHexDigit char || char = '-') = true := by decide
    simpa using all_eq_true.mp each

def exampleCredential :
    IssuedCredential (issuingNode (exampleClaims "1") (exampleSignature "1")) where
  clock := 0
  credentialId := "00000000-0000-4000-8000-000000000001"
  input := exampleIssue
  options := ⟨exampleKey, some 0, none⟩
  claims := exampleClaims "1"
  issued := by rfl
  uuid := isRandomUuid_example
  reads := readsBack_issuingNode (by decide) (by decide) (by decide)

/-- The same credential, issued at the last safe integer for one millisecond. -/
def lateClaims : ExecutorCredentialClaims :=
  { exampleClaims "1" with issuedAt := 9007199254740991, expiresAt := 9007199254740992 }

def lateSignature : List UInt8 :=
  [25, 151, 144, 95, 250, 89, 117, 4, 77, 140, 161, 90, 184, 252, 126, 161, 196, 55, 23, 156, 68, 6,
    33, 193, 12, 123, 45, 24, 131, 81, 9, 7]

def lateCredential : IssuedCredential (issuingNode lateClaims lateSignature) where
  clock := 0
  credentialId := "00000000-0000-4000-8000-000000000001"
  input := exampleIssue
  options := ⟨exampleKey, some 9007199254740991, some 1⟩
  claims := lateClaims
  issued := by rfl
  uuid := isRandomUuid_example
  reads := readsBack_issuingNode (by decide) (by decide) (by decide)

/-- Other claims with another signature are refused. -/
theorem credentialsVerified_example :
    RoundTrip (issuingNode (exampleClaims "1") (exampleSignature "1")) exampleKey .empty
        exampleCredential.token (exampleClaims "1") ∧
      ∀ claims, verifyExecutorCredential (issuingNode (exampleClaims "1") (exampleSignature "1"))
        exampleKey .empty (envelopeText [0] (exampleSignature "2")) 0 ≠ .ok claims := by
  obtain ⟨verifies, issuedOnly⟩ :=
    credentialsVerified (issuingNode (exampleClaims "1") (exampleSignature "1"))
  refine ⟨(verifies exampleCredential .empty rfl).mpr ⟨by decide, by decide⟩, ?_⟩
  intro claims accepted
  obtain ⟨credential, mem, same⟩ := issuedOnly [exampleCredential] _ _ _ _ _
    (fun envelope keyId known parsed _ text signed => by
      rw [parseEnvelope_envelopeText (by decide) (by decide) rfl] at parsed
      cases parsed
      rw [toList_ofList, decode_encode] at signed
      exact absurd (show exampleSignature "1" = exampleSignature "2" from signed) (by decide))
    accepted
  rw [IssuedCredential.token, claimsToken, tokenParts_envelopeText, tokenParts_envelopeText] at same
  cases mem_singleton.mp mem
  revert same
  decide

/-- The second credential is never verified. -/
theorem not_roundTripLaw : ¬ RoundTripLaw := by
  intro law
  have sameKey : SameKey lateCredential.options .empty := rfl
  have roundTrip := law _ lateCredential .empty sameKey
  have times := (roundTrip_claimsToken lateCredential.reads lateCredential.uuid
    (issued_of_issuedClaims lateCredential.issued) sameKey).mp roundTrip
  exact absurd times.2 (by decide)

end LongHub
