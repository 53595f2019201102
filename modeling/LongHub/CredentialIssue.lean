import LongHub.JsonText
import LongHub.SignedRequest
import Mathlib

/-!
# Issuing executor credentials

`issueExecutorCredential` checks the key, the four texts and the two times, and signs the JSON of
the claims.
-/

namespace LongHub

inductive IssueCredentialError where
  | keyInvalid
  | textInvalid (label : String)
  | timeInvalid
  | inputInvalid

structure IssueExecutorCredentialInput where
  taskId : String
  tenantId : String
  skillId : String
  idempotencyKey : String
  input : JsonValue

structure IssueExecutorCredentialOptions where
  key : ExecutorCredentialKey
  nowMs : Option Int
  ttlMs : Option Int

def executorCredentialTtlMs : Int := 60000

/-- The sum of two whole numbers as JavaScript adds them, up to `2 ^ 54`: from
`2 ^ 53` on only even numbers are there, and a tie goes to a multiple of four. -/
def addMilliseconds (one other : Int) : Int :=
  let sum := one + other
  if sum ≤ 9007199254740992 ∨ sum % 2 = 0 then sum
  else if sum % 4 = 1 then sum - 1
  else sum + 1

def jsonField (quote : String → String) (name text : String) : String :=
  quote name ++ ":" ++ text

def claimsText (quote : String → String) (claims : ExecutorCredentialClaims) : String :=
  "\x7b" ++ ",".intercalate [jsonField quote "schema_version" (quote executorCredentialSchema),
      jsonField quote "credential_id" (quote claims.credentialId),
      jsonField quote "key_id" (quote claims.keyId),
      jsonField quote "task_id" (quote claims.taskId),
      jsonField quote "tenant_id" (quote claims.tenantId),
      jsonField quote "skill_id" (quote claims.skillId),
      jsonField quote "idempotency_key" (quote claims.idempotencyKey),
      jsonField quote "input_digest" (quote claims.inputDigest),
      jsonField quote "issued_at" (toString claims.issuedAt),
      jsonField quote "expires_at" (toString claims.expiresAt)] ++ "\x7d"

def claimsJson (claims : ExecutorCredentialClaims) : JsonValue := .record
  [("schema_version", .text executorCredentialSchema),
    ("credential_id", .text claims.credentialId), ("key_id", .text claims.keyId),
    ("task_id", .text claims.taskId), ("tenant_id", .text claims.tenantId),
    ("skill_id", .text claims.skillId), ("idempotency_key", .text claims.idempotencyKey),
    ("input_digest", .text claims.inputDigest),
    ("issued_at", .number (toString claims.issuedAt)),
    ("expires_at", .number (toString claims.expiresAt))]

section Issue

variable (node : NodePlatform)

def issuedClaims (clock : Instant) (credentialId : String)
    (input : IssueExecutorCredentialInput) (options : IssueExecutorCredentialOptions) :
    Except IssueCredentialError ExecutorCredentialClaims := do
  .ensure (assertKey options.key) .keyInvalid
  .ensure (validText input.taskId idPattern) (.textInvalid "taskId")
  .ensure (validText input.tenantId idPattern) (.textInvalid "tenantId")
  .ensure (validText input.skillId skillIdPattern) (.textInvalid "skillId")
  .ensure (validText input.idempotencyKey idempotencyPattern) (.textInvalid "idempotencyKey")
  let nowMs := options.nowMs.getD clock
  let ttlMs := options.ttlMs.getD executorCredentialTtlMs
  .ensure (isSafeInteger nowMs && isSafeInteger ttlMs && 1 ≤ ttlMs &&
    ttlMs ≤ executorCredentialMaxTtlMs) .timeInvalid
  let inputDigest ← .require (computeExecutorInputDigest node input.input) .inputInvalid
  return ⟨credentialId, options.key.keyId, input.taskId, input.tenantId, input.skillId,
    input.idempotencyKey, inputDigest, nowMs, addMilliseconds nowMs ttlMs⟩

def claimsPayload (claims : ExecutorCredentialClaims) : List UInt8 :=
  (claimsText node.quote claims).toByteArray.data.toList

def claimsToken (key : ExecutorCredentialKey) (claims : ExecutorCredentialClaims) : String :=
  let payload := claimsPayload node claims
  envelopeText payload (signEnvelope node (String.ofList (Base64Url.encode payload)) key)

def issueExecutorCredential (clock : Instant) (credentialId : String)
    (input : IssueExecutorCredentialInput) (options : IssueExecutorCredentialOptions) :
    Except IssueCredentialError String := do
  let claims ← issuedClaims node clock credentialId input options
  return claimsToken node options.key claims

end Issue

structure IsRandomUuid (text : String) : Prop where
  pattern : uuidPattern text = true
  length : text.length = 36
  digits : ∀ char ∈ text.toList, isLowerHexDigit char = true ∨ char = '-'

structure NodePlatform.ReadsBack (node : NodePlatform) (claims : ExecutorCredentialClaims) :
    Prop where
  quote : ∀ text, node.quote text = JsonText.quote text
  utf8 : node.utf8Text (claimsPayload node claims) = claimsText node.quote claims
  parse : node.parseJson (claimsText node.quote claims) = some (claimsJson claims)
  issuedAt : node.integerOf (toString claims.issuedAt) = some claims.issuedAt
  expiresAt : node.integerOf (toString claims.expiresAt) = some claims.expiresAt
  mac : ∀ secret text, (node.hmacSha256 secret text).length = 32
  digest : ∀ text, digestPattern (node.sha256Hex text) = true

structure Issued (node : NodePlatform) (clock : Instant) (credentialId : String)
    (input : IssueExecutorCredentialInput) (options : IssueExecutorCredentialOptions)
    (claims : ExecutorCredentialClaims) : Prop where
  key : assertKey options.key = true
  taskId : validText input.taskId idPattern = true
  tenantId : validText input.tenantId idPattern = true
  skillId : validText input.skillId skillIdPattern = true
  idempotencyKey : validText input.idempotencyKey idempotencyPattern = true
  safe : isSafeInteger claims.issuedAt = true
  least : 1 ≤ options.ttlMs.getD executorCredentialTtlMs
  most : options.ttlMs.getD executorCredentialTtlMs ≤ executorCredentialMaxTtlMs
  issuedAt : claims.issuedAt = options.nowMs.getD clock
  expiresAt : claims.expiresAt =
    addMilliseconds claims.issuedAt (options.ttlMs.getD executorCredentialTtlMs)
  digest : ∃ text, claims.inputDigest = node.sha256Hex text
  fields : claims = ⟨credentialId, options.key.keyId, input.taskId, input.tenantId,
    input.skillId, input.idempotencyKey, claims.inputDigest, claims.issuedAt, claims.expiresAt⟩

section Issued

variable {node : NodePlatform} {clock : Instant} {credentialId : String}
  {input : IssueExecutorCredentialInput} {options : IssueExecutorCredentialOptions}
  {claims : ExecutorCredentialClaims}

theorem issued_of_issuedClaims
    (issued : issuedClaims node clock credentialId input options = .ok claims) :
    Issued node clock credentialId input options claims := by
  simp only [issuedClaims, Except.bind_eq_ok, Except.ensure_eq_ok, Except.require_eq_ok,
    Except.pure_eq_ok, Bool.and_eq_true, decide_eq_true_eq] at issued
  obtain ⟨-, key, -, taskId, -, tenantId, -, skillId, -, idempotencyKey, -,
    ⟨⟨⟨now, -⟩, least⟩, most⟩, inputDigest, digested, rfl⟩ := issued
  obtain ⟨text, -, rfl⟩ := Option.map_eq_some_iff.mp digested
  exact
    { key, taskId, tenantId, skillId, idempotencyKey, least, most
      safe := now
      issuedAt := rfl
      expiresAt := rfl
      digest := ⟨text, rfl⟩
      fields := rfl }

theorem utf8ByteSize_ofList {chars : List Char} (ascii : ∀ char ∈ chars, char.utf8Size = 1) :
    (String.ofList chars).utf8ByteSize = chars.length := by
  induction chars with
  | nil => rfl
  | cons char rest ih =>
    have inRest := ih fun other mem => ascii other (List.mem_cons_of_mem _ mem)
    have split : String.ofList (char :: rest) = String.singleton char ++ String.ofList rest := by
      simp
    have here : (String.singleton char).utf8ByteSize = 1 := by
      simpa using ascii char List.mem_cons_self
    rw [split, String.utf8ByteSize_append, inRest, here, List.length_cons]
    omega

/-- The characters that the patterns of the texts allow. -/
def isIdChar (char : Char) : Bool :=
  char.isAlphanum || char ∈ ['.', '_', ':', '-', '~']

variable {char : Char} {text : String} {now ttl : Int}

theorem isIdChar_code (allowed : isIdChar char = true) :
    45 ≤ char.toNat ∧ char.toNat ≤ 126 ∧ char.toNat ≠ 92 := by
  simp only [isIdChar, Char.isAlphanum, Char.isAlpha, Char.isUpper, Char.isLower, Char.isDigit,
    Bool.or_eq_true, Bool.and_eq_true, decide_eq_true_eq, List.mem_cons, List.not_mem_nil,
    or_false, UInt32.le_iff_toNat_le, ge_iff_le] at allowed
  rcases allowed with (letter | digit) | other
  · simp at letter
    omega
  · simp at digit
    omega
  · rcases other with rfl | rfl | rfl | rfl | rfl <;> decide

theorem escape_of_isIdChar (allowed : isIdChar char = true) : JsonText.escape char = [char] := by
  have code := isIdChar_code allowed
  have notQuote : char ≠ '"' := by
    rintro rfl
    exact absurd code.1 (by decide)
  have notSlash : char ≠ '\\' := by
    rintro rfl
    exact code.2.2 rfl
  have visible : ¬ char.toNat < 32 := by omega
  unfold JsonText.escape
  rw [if_neg notQuote, if_neg notSlash, if_neg (by omega), if_neg (by omega), if_neg (by omega),
    if_neg (by omega), if_neg (by omega), if_neg visible]

theorem utf8Size_of_isIdChar (allowed : isIdChar char = true) : char.utf8Size = 1 := by
  have code := isIdChar_code allowed
  have small : char.val ≤ 127 := by
    rw [UInt32.le_iff_toNat_le]
    simp
    omega
  simp [Char.utf8Size, small]

theorem utf8ByteSize_quote (allowed : ∀ char ∈ text.toList, isIdChar char = true) :
    (JsonText.quote text).utf8ByteSize = text.length + 2 := by
  have chars : text.toList.flatMap JsonText.escape = text.toList := by
    have each : text.toList.flatMap JsonText.escape = text.toList.flatMap fun char => [char] :=
      List.flatMap_congr fun char mem => escape_of_isIdChar (allowed char mem)
    rw [each, List.flatMap_singleton']
  rw [JsonText.quote, chars, utf8ByteSize_ofList]
  · simp [String.length_toList]
  · intro char mem
    rcases List.mem_append.mp mem with inside | last
    · rcases List.mem_cons.mp inside with rfl | inText
      · rfl
      · exact utf8Size_of_isIdChar (allowed char inText)
    · rw [List.mem_singleton.mp last]
      rfl

theorem idText_of_matchesClasses {first rest : Char → Bool} {least most : Nat}
    (firstAllowed : ∀ char, first char = true → isIdChar char = true)
    (restAllowed : ∀ char, rest char = true → isIdChar char = true)
    (classes : matchesClasses first rest least most text = true) :
    text.length ≤ most + 1 ∧ ∀ char ∈ text.toList, isIdChar char = true := by
  rw [← String.length_toList]
  unfold matchesClasses at classes
  cases chars : text.toList with
  | nil => simp
  | cons head tail =>
    rw [chars] at classes
    simp only [Bool.and_eq_true, decide_eq_true_eq, List.all_eq_true] at classes
    obtain ⟨⟨⟨isFirst, areRest⟩, -⟩, short⟩ := classes
    refine ⟨Nat.succ_le_succ short, ?_⟩
    intro char mem
    rcases List.mem_cons.mp mem with rfl | inTail
    · exact firstAllowed _ isFirst
    · exact restAllowed char (areRest char inTail)

theorem isIdChar_of_isLowerHexDigit (digit : isLowerHexDigit char = true) :
    isIdChar char = true := by
  simp only [isLowerHexDigit, Bool.or_eq_true, Bool.and_eq_true, decide_eq_true_eq,
    Char.le_def, UInt32.le_iff_toNat_le] at digit
  simp only [isIdChar, Char.isAlphanum, Char.isAlpha, Char.isUpper, Char.isLower, Char.isDigit,
    Bool.or_eq_true, Bool.and_eq_true, decide_eq_true_eq, ge_iff_le, UInt32.le_iff_toNat_le]
  rcases digit with number | letter
  · exact .inl (.inr (by simpa using number))
  · left
    left
    right
    simp at letter ⊢
    omega

/-- Numbers of milliseconds have few digits. -/
theorem utf8ByteSize_toString {value : Int} (small : value.natAbs < 10 ^ 16) :
    (toString value).utf8ByteSize ≤ 17 := by
  have digits (number : Nat) (few : number < 10 ^ 16) : number.repr.utf8ByteSize ≤ 16 := by
    have length := (Nat.length_repr_le_iff (by decide : 0 < 16)).mpr few
    rw [Nat.repr_eq_ofList_toDigits] at length ⊢
    rw [utf8ByteSize_ofList]
    · simpa using length
    · intro char mem
      apply utf8Size_of_isIdChar
      have digit := Nat.isDigit_of_mem_toDigits (by decide) le_rfl mem
      simp [isIdChar, Char.isAlphanum, digit]
  cases value with
  | ofNat number =>
    have few := digits number small
    exact le_trans few (by decide)
  | negSucc number =>
    have few := digits (number + 1) small
    have split : toString (Int.negSucc number) = "-" ++ (number + 1).repr := rfl
    have sign : ("-" : String).utf8ByteSize = 1 := rfl
    rw [split, String.utf8ByteSize_append, sign]
    omega

theorem addMilliseconds_bounds (least : 1 ≤ ttl) (most : ttl ≤ executorCredentialMaxTtlMs)
    (safe : isSafeInteger now = true) : (addMilliseconds now ttl).natAbs < 10 ^ 16 := by
  simp only [isSafeInteger, decide_eq_true_eq] at safe
  simp only [addMilliseconds, executorCredentialMaxTtlMs] at most ⊢
  split
  · omega
  split <;> omega

/-- The texts of a credential are short, and of few characters. -/
theorem utf8ByteSize_quote_le {first rest : Char → Bool} {least most : Nat}
    (firstAllowed : ∀ char, first char = true → isIdChar char = true)
    (restAllowed : ∀ char, rest char = true → isIdChar char = true)
    (classes : matchesClasses first rest least most text = true) :
    (JsonText.quote text).utf8ByteSize ≤ most + 3 := by
  obtain ⟨short, allowed⟩ := idText_of_matchesClasses firstAllowed restAllowed classes
  rw [utf8ByteSize_quote allowed]
  omega

theorem isIdChar_of_or {others : List Char} (subset : others.all isIdChar = true)
    (allowed : (char.isAlphanum || decide (char ∈ others)) = true) : isIdChar char = true := by
  rcases Bool.or_eq_true_iff.mp allowed with alphanumeric | other
  · simp [isIdChar, alphanumeric]
  · exact List.all_eq_true.mp subset char (of_decide_eq_true other)

theorem utf8ByteSize_quote_id (valid : validText text idPattern = true) :
    (JsonText.quote text).utf8ByteSize ≤ 130 :=
  utf8ByteSize_quote_le (fun char allowed => by simp [isIdChar, allowed])
    (fun _ => isIdChar_of_or (by decide)) (Bool.and_eq_true_iff.mp valid).1

theorem utf8ByteSize_quote_idempotency (valid : validText text idempotencyPattern = true) :
    (JsonText.quote text).utf8ByteSize ≤ 130 :=
  utf8ByteSize_quote_le (fun char allowed => by simp [isIdChar, allowed])
    (fun _ => isIdChar_of_or (by decide)) (Bool.and_eq_true_iff.mp valid).1

theorem utf8ByteSize_quote_keyId (valid : keyIdPattern text = true) :
    (JsonText.quote text).utf8ByteSize ≤ 130 :=
  utf8ByteSize_quote_le (fun _ => isIdChar_of_or (by decide))
    (fun _ => isIdChar_of_or (by decide)) valid

theorem utf8ByteSize_quote_skillId (valid : validText text skillIdPattern = true) :
    (JsonText.quote text).utf8ByteSize ≤ 130 := by
  have alphanumeric (char : Char) (allowed : (char.isLower || char.isDigit) = true) :
      char.isAlphanum = true := by
    rcases Bool.or_eq_true_iff.mp allowed with lower | digit
    · simp [Char.isAlphanum, Char.isAlpha, lower]
    · simp [Char.isAlphanum, digit]
  apply utf8ByteSize_quote_le _ _ (Bool.and_eq_true_iff.mp valid).1
  · intro char allowed
    simp [isIdChar, alphanumeric char allowed]
  · intro char allowed
    rcases Bool.or_eq_true_iff.mp allowed with letter | other
    · simp [isIdChar, alphanumeric char letter]
    · have each : ['.', '_', '-'].all isIdChar = true := by decide
      exact List.all_eq_true.mp each char (of_decide_eq_true other)

/-- The texts of the claims are those that have been checked. -/
theorem Issued.texts (issued : Issued node clock credentialId input options claims) :
    keyIdPattern claims.keyId = true ∧ validText claims.taskId idPattern = true ∧
      validText claims.tenantId idPattern = true ∧
      validText claims.skillId skillIdPattern = true ∧
      validText claims.idempotencyKey idempotencyPattern = true := by
  have key := issued.key
  simp only [assertKey, Bool.and_eq_true] at key
  rw [issued.fields]
  exact ⟨key.1.1, issued.taskId, issued.tenantId, issued.skillId, issued.idempotencyKey⟩

theorem length_claimsPayload (reads : node.ReadsBack claims) (uuid : IsRandomUuid credentialId)
    (issued : Issued node clock credentialId input options claims) :
    claimsPayload node claims ≠ [] ∧ (claimsPayload node claims).length ≤ 3072 := by
  have size : (claimsPayload node claims).length =
      (claimsText JsonText.quote claims).utf8ByteSize := by
    have quote : node.quote = JsonText.quote := funext reads.quote
    simp [claimsPayload, quote]
  have names : ∀ name ∈ ["schema_version", "credential_id", "key_id", "task_id", "tenant_id",
      "skill_id", "idempotency_key", "input_digest", "issued_at", "expires_at"],
      (JsonText.quote name).utf8ByteSize ≤ 17 := by decide
  simp only [List.forall_mem_cons, List.not_mem_nil, false_imp_iff, implies_true, and_true] at names
  have schema : (JsonText.quote executorCredentialSchema).utf8ByteSize = 32 := by decide
  have credentialIdSize : (JsonText.quote claims.credentialId).utf8ByteSize = 38 := by
    rw [congrArg ExecutorCredentialClaims.credentialId issued.fields, utf8ByteSize_quote,
      uuid.length]
    intro char mem
    rcases uuid.digits char mem with digit | dash
    · exact isIdChar_of_isLowerHexDigit digit
    · rw [dash]
      rfl
  obtain ⟨keyId, taskId, tenantId, skillId, idempotencyKey⟩ := issued.texts
  have keyIdSize := utf8ByteSize_quote_keyId keyId
  have taskIdSize := utf8ByteSize_quote_id taskId
  have tenantIdSize := utf8ByteSize_quote_id tenantId
  have skillIdSize := utf8ByteSize_quote_skillId skillId
  have idempotencyKeySize := utf8ByteSize_quote_idempotency idempotencyKey
  have inputDigestSize : (JsonText.quote claims.inputDigest).utf8ByteSize = 66 := by
    obtain ⟨text, digested⟩ := issued.digest
    have digest := reads.digest text
    rw [← digested] at digest
    simp only [digestPattern, isSha256Hex, Bool.and_eq_true, beq_iff_eq, List.all_eq_true] at digest
    rw [utf8ByteSize_quote fun char mem => isIdChar_of_isLowerHexDigit (digest.2 char mem),
      ← String.length_toList, digest.1]
  have issuedAtSize : (toString claims.issuedAt).utf8ByteSize ≤ 17 := by
    have safe := issued.safe
    simp only [isSafeInteger, decide_eq_true_eq] at safe
    exact utf8ByteSize_toString (by omega)
  have expiresAtSize : (toString claims.expiresAt).utf8ByteSize ≤ 17 := by
    rw [issued.expiresAt]
    exact utf8ByteSize_toString (addMilliseconds_bounds issued.least issued.most issued.safe)
  have marks : ("\x7b" : String).utf8ByteSize = 1 ∧ ("\x7d" : String).utf8ByteSize = 1 ∧
      ("," : String).utf8ByteSize = 1 ∧ (":" : String).utf8ByteSize = 1 := by decide
  obtain ⟨opening, closing, comma, colon⟩ := marks
  have total : 0 < (claimsText JsonText.quote claims).utf8ByteSize ∧
      (claimsText JsonText.quote claims).utf8ByteSize ≤ 3072 := by
    simp only [claimsText, String.intercalate_cons_cons, String.intercalate_singleton, jsonField,
      String.utf8ByteSize_append, opening, closing, comma, colon]
    omega
  rw [← size] at total
  exact ⟨List.length_pos_iff.mp total.1, total.2⟩

theorem isSafeInteger_addMilliseconds (least : 1 ≤ ttl) (most : ttl ≤ executorCredentialMaxTtlMs)
    (safe : isSafeInteger now = true) :
    isSafeInteger (addMilliseconds now ttl) = true ↔ now + ttl ≤ 9007199254740991 := by
  simp only [isSafeInteger, decide_eq_true_eq] at safe ⊢
  simp only [addMilliseconds, executorCredentialMaxTtlMs] at most ⊢
  split
  · omega
  split <;> omega

theorem addMilliseconds_of_le (within : now + ttl ≤ 9007199254740991) :
    addMilliseconds now ttl = now + ttl := by
  have small : now + ttl ≤ 9007199254740992 := by omega
  simp [addMilliseconds, small]

theorem hasControl_of_isIdChar (allowed : ∀ char ∈ text.toList, isIdChar char = true) :
    hasControl text = false := by
  rw [hasControl, List.any_eq_false]
  intro char mem control
  have code := isIdChar_code (allowed char mem)
  simp only [Bool.or_eq_true, decide_eq_true_eq] at control
  omega

theorem parseClaims_claimsJson (reads : node.ReadsBack claims) (uuid : IsRandomUuid credentialId)
    (issued : Issued node clock credentialId input options claims) :
    parseClaims node (claimsJson claims) =
      if isSafeInteger claims.expiresAt then some claims else none := by
  have credentialId_ : uuidPattern claims.credentialId = true := by
    rw [congrArg ExecutorCredentialClaims.credentialId issued.fields]
    exact uuid.pattern
  obtain ⟨keyIdText, taskId, tenantId, skillId, idempotencyKey⟩ := issued.texts
  have keyId : validText claims.keyId keyIdPattern = true := by
    have allowed := (idText_of_matchesClasses (fun _ => isIdChar_of_or (by decide))
      (fun _ => isIdChar_of_or (by decide)) keyIdText).2
    rw [validText, keyIdText, hasControl_of_isIdChar allowed]
    rfl
  have inputDigest : digestPattern claims.inputDigest = true := by
    obtain ⟨text, digested⟩ := issued.digest
    rw [digested]
    exact reads.digest text
  simp (disch := simp) only [claimsJson, parseClaims, hasExactKeys_of_names, JsonValue.textField,
    integerField, List.lookup, String.reduceBEq, reads.issuedAt, reads.expiresAt, issued.safe,
    Option.bind_some, if_true]
  cases safe : isSafeInteger claims.expiresAt with
  | false => simp
  | true =>
    have least := issued.least
    have most := issued.most
    have sum := issued.expiresAt
    rw [sum] at safe
    have within := (isSafeInteger_addMilliseconds least most issued.safe).mp safe
    rw [addMilliseconds_of_le within] at sum
    have later : claims.issuedAt < claims.expiresAt := by omega
    have short : claims.expiresAt ≤ executorCredentialMaxTtlMs + claims.issuedAt := by omega
    simp [credentialId_, keyId, taskId, tenantId, skillId, idempotencyKey, inputDigest, later,
      short]

end Issued

end LongHub
