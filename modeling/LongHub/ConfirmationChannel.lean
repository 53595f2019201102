import Mathlib.Data.List.DropRight
import LongHub.BridgePolicyAgreement

/-!
# Confirmation requests

Texts without surrounding space, and the requests that Core sends to the desktop process.
-/

namespace LongHub

open CloudSkillTables CoreProcess List

/-! ## Texts without surrounding space -/

/-- A text without surrounding space and without control characters. -/
def IsPlainText (text : String) : Prop := trimText text = text ∧ hasControl text = false

instance : DecidablePred IsPlainText := fun text =>
  inferInstanceAs (Decidable (trimText text = text ∧ hasControl text = false))

/-- The characters of ASCII that are neither space nor control characters. -/
def isVisible (char : Char) : Bool := 0x21 ≤ char.toNat && char.toNat ≤ 0x7e

section Texts

variable {text : String} {chars : List Char}

theorem utf16Length_append (one other : String) :
    utf16Length (one ++ other) = utf16Length one + utf16Length other := by
  simp [utf16Length]

theorem hasControl_append (one other : String) :
    hasControl (one ++ other) = (hasControl one || hasControl other) := by
  simp [hasControl]

theorem dropWhile_rdropWhile {α : Type*} (drops : α → Bool) (items : List α)
    (starts : items.dropWhile drops = items) :
    (items.rdropWhile drops).dropWhile drops = items.rdropWhile drops := by
  cases kept : items.rdropWhile drops with
  | nil => rfl
  | cons first rest =>
    obtain ⟨after, same⟩ : ∃ after, (first :: rest) ++ after = items := by
      rw [← kept]
      exact rdropWhile_prefix drops items
    rw [← same, cons_append] at starts
    have stays : drops first = false := by
      by_contra dropped
      rw [Bool.not_eq_false] at dropped
      rw [dropWhile_cons_of_pos dropped] at starts
      have longer := congrArg length starts
      have shorter : ((rest ++ after).dropWhile drops).length ≤ (rest ++ after).length :=
        (dropWhile_sublist drops).length_le
      rw [length_cons] at longer
      omega
    rw [dropWhile_cons_of_neg (by simp [stays])]

@[simp]
theorem trimText_trimText (text : String) : trimText (trimText text) = trimText text := by
  let started := text.toList.dropWhile isTrimmed
  have starts : started.dropWhile isTrimmed = started := dropWhile_idempotent _ _
  have trimmed (chars : List Char) : trimText (String.ofList chars) =
      String.ofList ((chars.dropWhile isTrimmed).rdropWhile isTrimmed) := by
    rw [trimText, String.toList_ofList]
    rfl
  have once : trimText text = String.ofList (started.rdropWhile isTrimmed) := rfl
  rw [once, trimmed, dropWhile_rdropWhile _ _ starts, rdropWhile_idempotent]

theorem not_isTrimmed_of_isVisible {char : Char} (visible : isVisible char = true) :
    isTrimmed char = false := by
  have bounds : 0x21 ≤ char.toNat ∧ char.toNat ≤ 0x7e := by simpa [isVisible] using visible
  have sameNat : char.toNat = char.val.toNat := rfl
  simp only [isTrimmed, contains_eq_mem, mem_cons, not_mem_nil,
    or_false, Bool.or_eq_false_iff, decide_eq_false_iff_not, Bool.and_eq_false_iff,
    ← UInt32.toNat_inj, UInt32.le_iff_toNat_le, UInt32.reduceToNat]
  omega

theorem isPlainText_of_visible (visible : text.toList.all isVisible = true) : IsPlainText text := by
  have each : ∀ char ∈ text.toList, isVisible char = true := all_eq_true.mp visible
  have keeps (chars : List Char) (within : ∀ char ∈ chars, isVisible char = true) :
      chars.dropWhile isTrimmed = chars := by
    cases chars with
    | nil => rfl
    | cons first rest =>
      have stays := not_isTrimmed_of_isVisible (within first mem_cons_self)
      rw [dropWhile_cons_of_neg (by simp [stays])]
  constructor
  · have reversed := keeps text.toList.reverse fun char mem =>
      each char (mem_reverse.mp mem)
    rw [trimText, keeps text.toList each, reversed, reverse_reverse, String.ofList_toList]
  · rw [hasControl, any_eq_false]
    intro char mem
    have bounds : 0x21 ≤ char.toNat ∧ char.toNat ≤ 0x7e := by
      simpa [isVisible] using each char mem
    simp only [Bool.or_eq_true, decide_eq_true_eq]
    omega

theorem utf16Length_of_visible (visible : text.toList.all isVisible = true) :
    utf16Length text = text.toList.length := by
  have each : ∀ char ∈ text.toList, (if char.val < 0x10000 then 1 else 2) = 1 := by
    intro char mem
    have bounds : 0x21 ≤ char.toNat ∧ char.toNat ≤ 0x7e := by
      simpa [isVisible] using all_eq_true.mp visible char mem
    have sameNat : char.toNat = char.val.toNat := rfl
    have small : char.val < 0x10000 := by
      rw [UInt32.lt_iff_toNat_lt]
      simp only [UInt32.reduceToNat]
      omega
    exact if_pos small
  rw [utf16Length, map_congr_left each, map_const', sum_replicate_nat, Nat.mul_one]

end Texts

/-! ## Confirmation requests on their way to the desktop process -/

structure BridgeConfirmationRequest extends BridgeConfirmationSubject where
  confirmationId : String
  expiresAt : String

def BridgeConfirmationRecord.request (record : BridgeConfirmationRecord) :
    BridgeConfirmationRequest :=
  { record.toBridgeConfirmationSubject with
    confirmationId := record.confirmationId
    expiresAt := record.expiresAt }

def requestFields (request : BridgeConfirmationRequest) : List (String × JsonValue) :=
  [("agentId", .text request.agentId), ("skillId", .text request.skillId),
    ("profileVersion", .text request.profileVersion), ("sessionId", .text request.sessionId),
    ("toolCallId", .text request.toolCallId), ("permissions", textsJson request.permissions),
    ("payloadDigest", .text request.payloadDigest), ("display", displayJson request.display),
    ("confirmationId", .text request.confirmationId), ("expiresAt", .text request.expiresAt)]

def requestJson (request : BridgeConfirmationRequest) : JsonValue :=
  .record (requestFields request)

namespace DesktopProcess

variable (value : Option JsonValue)

def exactObject (keys : List String) (label : String) : Except String (List (String × JsonValue)) :=
  match value with
  | some (.record fields) =>
    if keyText fields = "|".intercalate (sortedByCodeUnits keys) then .ok fields
    else .error (label ++ " 字段无效")
  | _ => .error (label ++ " 必须是对象")

/-- A text that is not empty nor too long, without surrounding space and control characters. -/
def IsBoundedText (max : Nat) (text : String) : Prop :=
  text ≠ "" ∧ utf16Length text ≤ max ∧ IsPlainText text

instance (max : Nat) : DecidablePred (IsBoundedText max) := fun text =>
  inferInstanceAs (Decidable (text ≠ "" ∧ utf16Length text ≤ max ∧ IsPlainText text))

def boundedText (label : String) (max : Nat) : Except String String :=
  match value with
  | some (.text text) =>
    if IsBoundedText max text then .ok text else .error (label ++ " 文本无效")
  | _ => .error (label ++ " 文本无效")

def textWith (pattern : String → Bool) (value : Option JsonValue) : Option String :=
  match value with
  | some (.text text) => if pattern text then some text else none
  | _ => none

def confirmationIdPattern (text : String) : Bool :=
  String.ofList ((text.toList.take 8).map Char.toLower) = "confirm-" &&
    uuidPattern (String.ofList (text.toList.drop 8))

def permissionsPattern (permissions : List String) : Bool :=
  1 ≤ permissions.length && permissions.length ≤ 32 && permissions.all permissionPattern &&
    permissions.Nodup

def dataScopePattern (items : List String) : Bool :=
  1 ≤ items.length && items.length ≤ 16 &&
    items.all fun item => utf16Length item ≤ 512 && !hasControl item

def costCents : Option Int :=
  match value with
  | some (.number literal) =>
    (DoubleNumber.safeInteger literal).filter fun cost => 0 ≤ cost ∧ cost ≤ 100000000
  | _ => none

def isIsoTime (text : String) : Bool :=
  (IsoInstant.parse text).bind IsoInstant.toISOString = some text

def requestKeys : List String :=
  ["confirmationId", "skillId", "agentId", "profileVersion", "sessionId", "toolCallId",
    "permissions", "payloadDigest", "display", "expiresAt"]

def displayKeys : List String :=
  ["action", "object", "recipient", "dataScope", "estimatedCostCents"]

structure CheckedValues where
  confirmationId : String
  payloadDigest : String
  permissions : List String
  dataScope : List String
  estimatedCostCents : Int
  expiresAt : String

def checkedValues (record display : List (String × JsonValue)) : Option CheckedValues := do
  let confirmationId ← textWith confirmationIdPattern (record.lookup "confirmationId")
  let payloadDigest ← textWith digestPattern (record.lookup "payloadDigest")
  let permissions ← (isStringArray (record.lookup "permissions")).filter permissionsPattern
  let dataScope ← (isStringArray (display.lookup "dataScope")).filter dataScopePattern
  let estimatedCostCents ← costCents (display.lookup "estimatedCostCents")
  let expiresAt ← textWith isIsoTime (record.lookup "expiresAt")
  some { confirmationId, payloadDigest, permissions, dataScope, estimatedCostCents, expiresAt }

def parseBridgeConfirmationRequest (input : JsonValue) :
    Except String BridgeConfirmationRequest := do
  let record ← exactObject (some input) requestKeys "确认请求"
  let display ← exactObject (record.lookup "display") displayKeys "确认展示"
  let checked ← .require (checkedValues record display) "确认请求值无效"
  let skillId ← boundedText (record.lookup "skillId") "skillId" 128
  let agentId ← boundedText (record.lookup "agentId") "agentId" 128
  let profileVersion ← boundedText (record.lookup "profileVersion") "profileVersion" 64
  let sessionId ← boundedText (record.lookup "sessionId") "sessionId" 128
  let toolCallId ← boundedText (record.lookup "toolCallId") "toolCallId" 128
  let action ← boundedText (display.lookup "action") "display.action" 256
  let object ← boundedText (display.lookup "object") "display.object" 256
  let recipient ← boundedText (display.lookup "recipient") "display.recipient" 256
  return {
    confirmationId := checked.confirmationId
    skillId, agentId, profileVersion, sessionId, toolCallId
    permissions := checked.permissions
    payloadDigest := checked.payloadDigest
    display := ⟨action, object, recipient, checked.dataScope, checked.estimatedCostCents⟩
    expiresAt := checked.expiresAt }

def receiveRequest (text : List Char) : Except String BridgeConfirmationRequest :=
  match JsonValue.parse text with
  | some parsed => parseBridgeConfirmationRequest parsed
  | none => .error "SyntaxError"

/-- The desktop process accepts the request and reads it as it is. -/
def Shows (request : BridgeConfirmationRequest) : Prop :=
  receiveRequest (requestJson request).print = .ok request

/-- What the desktop process asks of a request. -/
structure Showable (request : BridgeConfirmationRequest) : Prop where
  confirmationId : confirmationIdPattern request.confirmationId = true
  payloadDigest : digestPattern request.payloadDigest = true
  permissions : permissionsPattern request.permissions = true
  dataScope : dataScopePattern request.display.dataScope = true
  cost : 0 ≤ request.display.estimatedCostCents ∧ request.display.estimatedCostCents ≤ 100000000
  expiresAt : isIsoTime request.expiresAt = true
  skillId : IsBoundedText 128 request.skillId
  agentId : IsBoundedText 128 request.agentId
  profileVersion : IsBoundedText 64 request.profileVersion
  sessionId : IsBoundedText 128 request.sessionId
  toolCallId : IsBoundedText 128 request.toolCallId
  action : IsBoundedText 256 request.display.action
  object : IsBoundedText 256 request.display.object
  recipient : IsBoundedText 256 request.display.recipient

section Requests

variable {request other : BridgeConfirmationRequest}

theorem boundedText_eq_ok_iff {text found label : String} {max : Nat} :
    boundedText (some (.text text)) label max = .ok found ↔
      IsBoundedText max text ∧ found = text := by
  simp only [boundedText]
  split
  · next bounded => simp [bounded, eq_comm]
  · next unbounded => simp [unbounded]

theorem textWith_eq_some_iff {pattern : String → Bool} {text found : String} :
    textWith pattern (some (.text text)) = some found ↔ pattern text = true ∧ found = text := by
  simp only [textWith, Option.ite_none_right_eq_some, Option.some.injEq]
  exact and_congr_right fun _ => eq_comm

theorem filter_texts_eq_some_iff {pattern : List String → Bool} {texts found : List String} :
    (isStringArray (some (textsJson texts))).filter pattern = some found ↔
      pattern texts = true ∧ found = texts := by
  rw [isStringArray_textsJson, Option.filter_eq_some_iff, Option.some.injEq]
  constructor
  · rintro ⟨rfl, meets⟩
    exact ⟨meets, rfl⟩
  · rintro ⟨meets, rfl⟩
    exact ⟨rfl, meets⟩

theorem costCents_eq_some_iff {cost found : Int} :
    costCents (some (integerJson cost)) = some found ↔
      (0 ≤ cost ∧ cost ≤ 100000000) ∧ found = cost := by
  change (DoubleNumber.safeInteger (toString cost)).filter _ = some found ↔ _
  rw [DoubleNumber.safeInteger_toString, Option.filter_eq_some_iff,
    Option.ite_none_right_eq_some, Option.some.injEq, decide_eq_true_eq]
  constructor
  · rintro ⟨⟨safe, rfl⟩, bounds⟩
    exact ⟨bounds, rfl⟩
  · rintro ⟨bounds, rfl⟩
    exact ⟨⟨by omega, rfl⟩, bounds⟩

def displayFields (display : BridgeConfirmationDisplay) : List (String × JsonValue) :=
  [("action", .text display.action), ("object", .text display.object),
    ("recipient", .text display.recipient), ("dataScope", textsJson display.dataScope),
    ("estimatedCostCents", integerJson display.estimatedCostCents)]

theorem exactObject_requestFields : exactObject (some (requestJson request)) requestKeys "确认请求" =
      .ok (requestFields request) := by
  have sorted : sortedByCodeUnits ["agentId", "skillId", "profileVersion", "sessionId",
      "toolCallId", "permissions", "payloadDigest", "display", "confirmationId", "expiresAt"] =
        sortedByCodeUnits requestKeys := by decide
  have keys : keyText (requestFields request) =
      "|".intercalate (sortedByCodeUnits requestKeys) := by
    simp only [keyText, requestFields, map_cons, map_nil, sorted]
  rw [requestJson, exactObject, if_pos keys]

theorem exactObject_displayFields {display : BridgeConfirmationDisplay} :
    exactObject (some (displayJson display)) displayKeys "确认展示" = .ok (displayFields display) := by
  have fields : displayJson display = .record (displayFields display) := rfl
  have keys : keyText (displayFields display) =
      "|".intercalate (sortedByCodeUnits displayKeys) := by
    simp only [keyText, displayFields, displayKeys, map_cons, map_nil]
  rw [fields, exactObject, if_pos keys]

theorem checkedValues_eq_some_iff {checked : CheckedValues} :
    checkedValues (requestFields request) (displayFields request.display) = some checked ↔
      (confirmationIdPattern request.confirmationId = true ∧
        digestPattern request.payloadDigest = true ∧ permissionsPattern request.permissions = true ∧
        dataScopePattern request.display.dataScope = true ∧
        (0 ≤ request.display.estimatedCostCents ∧ request.display.estimatedCostCents ≤ 100000000) ∧
        isIsoTime request.expiresAt = true) ∧
      checked = ⟨request.confirmationId, request.payloadDigest, request.permissions,
        request.display.dataScope, request.display.estimatedCostCents, request.expiresAt⟩ := by
  simp only [checkedValues, requestFields, displayFields, bind, Option.bind_eq_some_iff,
    lookup_cons, beq_self_eq_true, String.reduceBEq, textWith_eq_some_iff,
    filter_texts_eq_some_iff, costCents_eq_some_iff, Option.some.injEq]
  constructor
  · rintro ⟨_, ⟨id, rfl⟩, _, ⟨digest, rfl⟩, _, ⟨permissions, rfl⟩, _, ⟨scope, rfl⟩, _,
      ⟨cost, rfl⟩, _, ⟨time, rfl⟩, rfl⟩
    exact ⟨⟨id, digest, permissions, scope, cost, time⟩, rfl⟩
  · rintro ⟨⟨id, digest, permissions, scope, cost, time⟩, rfl⟩
    exact ⟨_, ⟨id, rfl⟩, _, ⟨digest, rfl⟩, _, ⟨permissions, rfl⟩, _, ⟨scope, rfl⟩, _,
      ⟨cost, rfl⟩, _, ⟨time, rfl⟩, rfl⟩

theorem parseRequest_eq_ok_iff : parseBridgeConfirmationRequest (requestJson request) = .ok other ↔
      Showable request ∧ other = request := by
  have lookups : (requestFields request).lookup "display" = some (displayJson request.display) :=
    rfl
  rw [parseBridgeConfirmationRequest]
  simp only [exactObject_requestFields, Except.bind_eq_ok, Except.require_eq_ok,
    Except.ok.injEq, exists_eq_left', lookups, exactObject_displayFields,
    checkedValues_eq_some_iff, pure, Except.pure]
  simp only [requestFields, displayFields, lookup_cons, beq_self_eq_true, String.reduceBEq,
    boundedText_eq_ok_iff]
  constructor
  · rintro ⟨_, ⟨⟨id, digest, permissions, scope, cost, time⟩, rfl⟩, _, ⟨skillId, rfl⟩, _,
      ⟨agentId, rfl⟩, _, ⟨version, rfl⟩, _, ⟨sessionId, rfl⟩, _, ⟨toolCallId, rfl⟩, _,
      ⟨action, rfl⟩, _, ⟨object, rfl⟩, _, ⟨recipient, rfl⟩, rfl⟩
    exact ⟨⟨id, digest, permissions, scope, cost, time, skillId, agentId, version, sessionId,
      toolCallId, action, object, recipient⟩, rfl⟩
  · rintro ⟨showable, rfl⟩
    exact ⟨_, ⟨⟨showable.confirmationId, showable.payloadDigest, showable.permissions,
      showable.dataScope, showable.cost, showable.expiresAt⟩, rfl⟩, _, ⟨showable.skillId, rfl⟩, _,
      ⟨showable.agentId, rfl⟩, _, ⟨showable.profileVersion, rfl⟩, _, ⟨showable.sessionId, rfl⟩, _,
      ⟨showable.toolCallId, rfl⟩, _, ⟨showable.action, rfl⟩, _, ⟨showable.object, rfl⟩, _,
      ⟨showable.recipient, rfl⟩, rfl⟩

/-- What Core prints is read back. -/
theorem parse_requestJson (request : BridgeConfirmationRequest) :
    JsonValue.parse (requestJson request).print = some (requestJson request) := by
  have wellFormed : (requestJson request).WellFormed := by
    refine JsonValue.wellFormed_of_names ["agentId", "skillId", "profileVersion", "sessionId",
      "toolCallId", "permissions", "payloadDigest", "display", "confirmationId", "expiresAt"] rfl
        (by decide) (by decide) ?_
    simp [requestFields, JsonValue.WellFormed.text, wellFormed_textsJson, wellFormed_displayJson]
  have display : (displayJson request.display).Numerals := by
    refine .record ?_
    simp only [forall_mem_cons, not_mem_nil, false_implies, implies_true, and_true]
    exact ⟨.text _, .text _, .text _, numerals_textsJson _, numerals_integerJson _⟩
  have numerals : (requestJson request).Numerals := by
    refine .record ?_
    simp [requestFields, JsonValue.Numerals.text, numerals_textsJson, display]
  exact JsonValue.parse_print numerals wellFormed

theorem shows_iff (request : BridgeConfirmationRequest) : Shows request ↔ Showable request := by
  rw [Shows, receiveRequest, parse_requestJson]
  rw [parseRequest_eq_ok_iff]
  exact and_iff_left rfl

end Requests

end DesktopProcess

end LongHub
