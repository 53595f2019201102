import LongHub.CanonicalKeys
import LongHub.CloudSkillStore
import LongHub.IsoInstant
import Mathlib.Data.List.Lex

/-!
# Authorization of bridge Skills

Core runs a local Skill for an agent only under a grant of the installed policy, and a Skill with a
permission that is not read-only only after the user has confirmed this very call.
-/

namespace LongHub

open List Option

abbrev JsonInput := { value : JsonValue // value.WellFormed }

structure CoreBudget where
  maxTokens : Int
  maxCostCents : Int
  maxDurationMs : Int
  deriving DecidableEq

structure BridgeConfirmationDescriptor where
  action : String
  object : String
  recipientField : Option String
  /-- Labels and the fields they name. -/
  dataFields : List (String × String)
  estimatedCostCents : Int
  deriving DecidableEq

structure BridgeSkillGrant where
  skillId : String
  packId : String
  packVersion : String
  profileVersion : String
  requiredPermissions : List String
  profilePermissions : List String
  packPermissions : List String
  tenantPermissions : List String
  devicePermissions : List String
  budget : CoreBudget
  confirmation : Option BridgeConfirmationDescriptor
  deriving DecidableEq

abbrev BridgeExecutionPolicy := InsertionMap String (List BridgeSkillGrant)

structure BridgeEntitlementStatus where
  active : Bool
  expiresAt : Option String
  reason : Option String

structure BridgeConfirmationDisplay where
  action : String
  object : String
  recipient : String
  dataScope : List String
  estimatedCostCents : Int
  deriving DecidableEq

structure BridgeConfirmationSubject where
  agentId : String
  skillId : String
  profileVersion : String
  sessionId : String
  toolCallId : String
  permissions : List String
  payloadDigest : String
  display : BridgeConfirmationDisplay
  deriving DecidableEq

inductive BridgeConfirmationStatus where
  | pending
  | approved
  | denied
  | consumed
  deriving DecidableEq

structure BridgeConfirmationRecord extends BridgeConfirmationSubject where
  confirmationId : String
  expiresAt : String
  status : BridgeConfirmationStatus
  deriving DecidableEq

structure BridgeConfirmationResponse where
  confirmationId : String
  approved : Bool

def readOnlyActions : List String := ["read", "list", "get", "query", "search"]

def permissionRequiresConfirmation (permission : String) : Bool :=
  String.ofList ((permission.toList.splitOn ':').getLast?.getD []) ∉ readOnlyActions

section Platform

variable (node : NodePlatform)

def intersectBridgePermissions (grant : BridgeSkillGrant) : List String :=
  let sources := [grant.profilePermissions, grant.packPermissions, grant.tenantPermissions,
    grant.devicePermissions]
  (grant.requiredPermissions.eraseDups.filter fun permission =>
    sources.all fun source => permission ∈ source).insertionSort
    fun left right => node.localeCompare left right

def trimText (text : String) : String :=
  let started := text.toList.dropWhile CloudSkillTables.isTrimmed
  String.ofList (started.reverse.dropWhile CloudSkillTables.isTrimmed).reverse

def primitiveText : Option JsonValue → Option String
  | some (.text value) => some value
  | some (.number literal) => node.printNumber literal
  | some (.bool value) => some (if value then "true" else "false")
  | _ => none

def displayText (value : Option JsonValue) (label : String) : Except String String := do
  let content ← .require (primitiveText node value) ("确认展示字段 " ++ label ++ " 类型无效")
  let text := trimText content
  .ensure (text ≠ "" && utf16Length text ≤ 256 && !hasControl text) ("确认展示字段 " ++ label ++ " 内容无效")
  return text

def buildBridgeConfirmationDisplay (descriptor : BridgeConfirmationDescriptor)
    (input : JsonValue) : Except String BridgeConfirmationDisplay :=
  match input with
  | .record fields => do
    let action ← displayText node (some (.text descriptor.action)) "action"
    let object ← displayText node (some (.text descriptor.object)) "object"
    .ensure (isSafeInteger descriptor.estimatedCostCents && 0 ≤ descriptor.estimatedCostCents &&
      descriptor.estimatedCostCents ≤ 100000000 && 1 ≤ descriptor.dataFields.length &&
      descriptor.dataFields.length ≤ 16) "确认展示声明无效"
    let recipient ← match descriptor.recipientField with
      | none | some "" => pure "当前设备"
      | some field => displayText node (fields.lookup field) "recipient"
    let dataScope ← descriptor.dataFields.mapM fun (label, field) => do
      let name ← displayText node (some (.text label)) "data label"
      let content ← displayText node (fields.lookup field) field
      pure (name ++ "：" ++ content)
    return ⟨action, object, recipient, dataScope, descriptor.estimatedCostCents⟩
  | _ => .error "确认展示要求结构化输入"

def codeUnits (text : String) : List Nat :=
  text.toList.flatMap fun char =>
    if char.toNat < 0x10000 then [char.toNat]
    else [0xD800 + (char.toNat - 0x10000) / 0x400, 0xDC00 + (char.toNat - 0x10000) % 0x400]

def displayJson (display : BridgeConfirmationDisplay) : JsonValue :=
  .record [("action", .text display.action), ("object", .text display.object),
    ("recipient", .text display.recipient),
    ("dataScope", .array (display.dataScope.map .text)),
    ("estimatedCostCents", .number (toString display.estimatedCostCents))]

/-- The permissions are put in the order of their code units. -/
def subjectJson (subject : BridgeConfirmationSubject) : JsonValue :=
  .record [("agentId", .text subject.agentId), ("skillId", .text subject.skillId),
    ("profileVersion", .text subject.profileVersion), ("sessionId", .text subject.sessionId),
    ("toolCallId", .text subject.toolCallId),
    ("permissions", .array ((subject.permissions.insertionSort
      fun one other => codeUnits one ≤ codeUnits other).map .text)),
    ("payloadDigest", .text subject.payloadDigest), ("display", displayJson subject.display)]

/-- The digest of a subject, none when it has no canonical JSON. -/
def bridgeConfirmationBinding (subject : BridgeConfirmationSubject) : Option String :=
  (CoreAuthorization.canonicalJson node (subjectJson subject)).map node.sha256Hex

/-- A new record; none when its end lies outside the time range. -/
def createBridgeConfirmationRequest (binding : BridgeConfirmationSubject) (randomUUID : String)
    (nowMs ttlMs : Instant) : Option BridgeConfirmationRecord :=
  (IsoInstant.toISOString (nowMs + ttlMs)).map fun expiresAt =>
    { binding with
      confirmationId := "confirm-" ++ randomUUID
      expiresAt
      status := .pending }

def clampBudget (requested : Option CoreBudget) (ceiling : CoreBudget) :
    Except String CoreBudget := do
  let source := requested.getD ceiling
  for (name, value) in [("maxTokens", source.maxTokens), ("maxCostCents", source.maxCostCents),
      ("maxDurationMs", source.maxDurationMs)] do
    .ensure (isSafeInteger value && 0 < value) ("预算 " ++ name ++ " 必须是正整数")
  return ⟨min source.maxTokens ceiling.maxTokens, min source.maxCostCents ceiling.maxCostCents,
    min source.maxDurationMs ceiling.maxDurationMs⟩

end Platform

section Bindings

open JsonValue

variable {node : NodePlatform} {ν : Type} {value : String → ν}

theorem sameJson_text {one other : String} (same : SameJson value (.text one) (.text other)) :
    one = other := by
  cases same
  rfl

theorem sameJson_texts {texts others : List String}
    (same : SameJson value (.array (texts.map .text)) (.array (others.map .text))) :
    texts = others := by
  cases same with
  | array length each =>
    have sameLength : texts.length = others.length := by simpa using length
    apply ext_getElem sameLength
    intro index inTexts inOthers
    have element := each index (.text texts[index]) (.text others[index])
      (by simp [inTexts]) (by simp [inOthers])
    exact sameJson_text element

theorem wellFormed_displayJson (display : BridgeConfirmationDisplay) :
    (displayJson display).WellFormed := by
  refine .record (by simp) (by simp [MayPrecede, arrayIndex]) ?_
  simp only [forall_mem_cons, not_mem_nil, false_implies, implies_true, and_true]
  exact ⟨.text _, .text _, .text _, wellFormed_texts _, .number _⟩

theorem wellFormed_subjectJson (subject : BridgeConfirmationSubject) :
    (subjectJson subject).WellFormed := by
  refine .record (by simp) (by simp [MayPrecede, arrayIndex]) ?_
  simp only [forall_mem_cons, not_mem_nil, false_implies, implies_true, and_true]
  exact ⟨.text _, .text _, .text _, .text _, .text _, wellFormed_texts _, .text _,
    wellFormed_displayJson _⟩

structure SameSubject (one other : BridgeConfirmationSubject) : Prop where
  agentId : one.agentId = other.agentId
  skillId : one.skillId = other.skillId
  profileVersion : one.profileVersion = other.profileVersion
  sessionId : one.sessionId = other.sessionId
  toolCallId : one.toolCallId = other.toolCallId
  permissions : one.permissions.Perm other.permissions
  payloadDigest : one.payloadDigest = other.payloadDigest

def CollisionFree (node : NodePlatform) (texts : List String) : Prop :=
  ∀ one ∈ texts, ∀ other ∈ texts, node.sha256Hex one = node.sha256Hex other → one = other

def bindingText (node : NodePlatform) (subject : BridgeConfirmationSubject) : Option String :=
  CoreAuthorization.canonicalJson node (subjectJson subject)

def payloadText (node : NodePlatform) (skillId : String) (input : JsonInput) : Option String :=
  CoreAuthorization.canonicalJson node (.record [("skillId", .text skillId), ("input", input.val)])

theorem sameSubject_of_binding_eq (documented : node.Documented value)
    {one other : BridgeConfirmationSubject} {texts : List String}
    (noCollision : CollisionFree node texts)
    (hashed : ∀ text, bindingText node one = some text → text ∈ texts)
    (otherHashed : ∀ text, bindingText node other = some text → text ∈ texts)
    {binding : String} (bound : bridgeConfirmationBinding node one = some binding)
    (otherBound : bridgeConfirmationBinding node other = some binding) : SameSubject one other := by
  obtain ⟨text, printed, digest⟩ := map_eq_some_iff.mp bound
  obtain ⟨otherText, otherPrinted, otherDigest⟩ := map_eq_some_iff.mp otherBound
  have sameText : otherText = text :=
    noCollision _ (otherHashed _ otherPrinted) _ (hashed _ printed) (otherDigest.trans digest.symm)
  subst sameText
  have same := CoreAuthorization.sameJson_of_text_eq documented (wellFormed_subjectJson one)
    (wellFormed_subjectJson other) printed otherPrinted
  cases same with
  | record keys each =>
    let sort := insertionSort fun one other : String => codeUnits one ≤ codeUnits other
    have sorted : sort one.permissions = sort other.permissions :=
      sameJson_texts (each "permissions" _ _ (by simp [sort]) (by simp [sort]))
    exact
      { agentId := sameJson_text (each "agentId" _ _ (by simp) (by simp))
        skillId := sameJson_text (each "skillId" _ _ (by simp) (by simp))
        profileVersion := sameJson_text (each "profileVersion" _ _ (by simp) (by simp))
        sessionId := sameJson_text (each "sessionId" _ _ (by simp) (by simp))
        toolCallId := sameJson_text (each "toolCallId" _ _ (by simp) (by simp))
        permissions := by
          have first : (sort one.permissions).Perm one.permissions := perm_insertionSort _ _
          rw [sorted] at first
          exact first.symm.trans (perm_insertionSort _ _)
        payloadDigest := sameJson_text (each "payloadDigest" _ _ (by simp) (by simp)) }

theorem sameInput_of_digest_eq (documented : node.Documented value)
    {skillId otherSkillId digest : String} {input other : JsonInput} {texts : List String}
    (noCollision : CollisionFree node texts)
    (hashed : ∀ text, payloadText node skillId input = some text → text ∈ texts)
    (otherHashed : ∀ text, payloadText node otherSkillId other = some text → text ∈ texts)
    (digested : CoreAuthorization.bridgePayloadDigest node skillId input = some digest)
    (otherDigested : CoreAuthorization.bridgePayloadDigest node otherSkillId other = some digest) :
    SameJson value input.val other.val := by
  obtain ⟨text, printed, digest⟩ := map_eq_some_iff.mp digested
  obtain ⟨otherText, otherPrinted, otherDigest⟩ := map_eq_some_iff.mp otherDigested
  have sameText : otherText = text :=
    noCollision _ (otherHashed _ otherPrinted) _ (hashed _ printed) (otherDigest.trans digest.symm)
  subst sameText
  have wellFormed (skillId : String) (input : JsonInput) :
      WellFormed (.record [("skillId", .text skillId), ("input", input.val)]) := by
    refine .record (by simp) (by simp [MayPrecede, arrayIndex]) ?_
    exact forall_mem_cons.mpr ⟨.text _, forall_mem_singleton.mpr input.property⟩
  have same := CoreAuthorization.sameJson_of_text_eq documented (wellFormed skillId input)
    (wellFormed otherSkillId other) printed otherPrinted
  cases same with
  | record keys each => exact each "input" _ _ (by simp) (by simp)

end Bindings

end LongHub
