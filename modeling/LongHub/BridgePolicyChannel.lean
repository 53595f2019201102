import LongHub.AgentComposition
import LongHub.JsonRoundTrip

/-!
# The policy on its way to Core

The desktop process compiles the policy of the enabled profiles and sends it to Core as JSON. Core
checks the keys of every grant against a list.
-/

namespace LongHub

structure ToolBridgePolicyLimits where
  tenantPermissions : Option (List String)
  devicePermissions : Option (List String)
  budget : Option CoreBudget

def ToolBridgePolicyLimits.none : ToolBridgePolicyLimits := ⟨.none, .none, .none⟩

def bridgeGrantsWithin (limits : ToolBridgePolicyLimits) (source : EnabledAgentProfile) :
    List BridgeSkillGrant :=
  let skills := bridgeSkillPermissions.insertionSort fun left right =>
    Collation.localeLe left.1 right.1
  skills.filterMap fun (skillId, required) =>
    (profilePermissionsFor source.profile skillId).map fun profilePermissions =>
      { skillId
        packId := source.manifest.packId
        packVersion := source.manifest.packVersion
        profileVersion := source.profile.version
        requiredPermissions := sortedByCodeUnits required
        profilePermissions := sortedByCodeUnits profilePermissions
        packPermissions := sortedByCodeUnits (packPermissionsFor source skillId)
        tenantPermissions :=
          sortedByCodeUnits (limits.tenantPermissions.getD productPermissionCeiling)
        devicePermissions :=
          sortedByCodeUnits (limits.devicePermissions.getD productPermissionCeiling)
        budget := limits.budget.getD defaultBridgeBudget
        confirmation := bridgeConfirmationDescriptors.lookup skillId }

def buildToolBridgePolicyWithin (profiles : List EnabledAgentProfile)
    (limits : ToolBridgePolicyLimits) : BridgeExecutionPolicy :=
  InsertionMap.empty.setAll (profiles.map fun source =>
    (source.registry.agentId, bridgeGrantsWithin limits source))

def constrainAll (constraints : List BridgeConstraint) (policy : BridgeExecutionPolicy) :
    BridgeExecutionPolicy :=
  constraints.foldl (fun constrained constraint =>
    constraint.constrainBridgePolicy constrained) policy

def textsJson (texts : List String) : JsonValue := .array (texts.map JsonValue.text)

def integerJson (value : Int) : JsonValue := .number (toString value)

def budgetJson (budget : CoreBudget) : JsonValue :=
  .record [("maxTokens", integerJson budget.maxTokens),
    ("maxCostCents", integerJson budget.maxCostCents),
    ("maxDurationMs", integerJson budget.maxDurationMs)]

def descriptorJson (descriptor : BridgeConfirmationDescriptor) : JsonValue :=
  .record ([("action", .text descriptor.action), ("object", .text descriptor.object)] ++
    (descriptor.recipientField.map fun field => ("recipientField", JsonValue.text field)).toList ++
    [("dataFields", .array (descriptor.dataFields.map fun item =>
        .record [("label", .text item.1), ("field", .text item.2)])),
      ("estimatedCostCents", integerJson descriptor.estimatedCostCents)])

def grantFields (grant : BridgeSkillGrant) : List (String × JsonValue) :=
  [("skillId", .text grant.skillId), ("packId", .text grant.packId),
    ("packVersion", .text grant.packVersion),
    ("profileVersion", .text grant.profileVersion),
    ("requiredPermissions", textsJson grant.requiredPermissions),
    ("profilePermissions", textsJson grant.profilePermissions),
    ("packPermissions", textsJson grant.packPermissions),
    ("tenantPermissions", textsJson grant.tenantPermissions),
    ("devicePermissions", textsJson grant.devicePermissions),
    ("budget", budgetJson grant.budget)]

def grantJson (grant : BridgeSkillGrant) : JsonValue :=
  .record (grantFields grant ++
    (grant.confirmation.map fun descriptor => ("confirmation", descriptorJson descriptor)).toList)

def entryJson (entry : String × List BridgeSkillGrant) : String × JsonValue :=
  (entry.1, .array (entry.2.map grantJson))

/-- The object that maps every agent to its grants. -/
def policyJson (policy : BridgeExecutionPolicy) : JsonValue :=
  .record (JsonValue.objectOf (policy.entries.map entryJson))

namespace CoreProcess

variable (value : Option JsonValue)

def isStringArray : Option (List String) :=
  match value with
  | some (.array items) => items.mapM fun item =>
    match item with
    | .text content => some content
    | _ => none
  | _ => none

def nonemptyText : Option String :=
  match value with
  | some (.text content) => if content = "" then none else some content
  | _ => none

def positiveSafeInteger : Option Int :=
  match value with
  | some (.number literal) => (DoubleNumber.safeInteger literal).filter fun number => 0 < number
  | _ => none

def keyText (fields : List (String × JsonValue)) : String :=
  "|".intercalate (sortedByCodeUnits (fields.map Prod.fst))

def isBudget : Option CoreBudget :=
  match value with
  | some (.record fields) =>
    if keyText fields = "maxCostCents|maxDurationMs|maxTokens" then do
      let maxTokens ← positiveSafeInteger (fields.lookup "maxTokens")
      let maxCostCents ← positiveSafeInteger (fields.lookup "maxCostCents")
      let maxDurationMs ← positiveSafeInteger (fields.lookup "maxDurationMs")
      some ⟨maxTokens, maxCostCents, maxDurationMs⟩
    else none
  | _ => none

def expectedKeys : List String :=
  ["budget", "devicePermissions", "packId", "packPermissions", "packVersion",
    "profilePermissions", "profileVersion", "requiredPermissions", "skillId",
    "tenantPermissions"]

def grantOf (fields : List (String × JsonValue)) : Option BridgeSkillGrant :=
  if keyText fields = "|".intercalate (sortedByCodeUnits expectedKeys) then do
    let skillId ← nonemptyText (fields.lookup "skillId")
    let packId ← nonemptyText (fields.lookup "packId")
    let packVersion ← nonemptyText (fields.lookup "packVersion")
    let profileVersion ← nonemptyText (fields.lookup "profileVersion")
    let requiredPermissions ← isStringArray (fields.lookup "requiredPermissions")
    let profilePermissions ← isStringArray (fields.lookup "profilePermissions")
    let packPermissions ← isStringArray (fields.lookup "packPermissions")
    let tenantPermissions ← isStringArray (fields.lookup "tenantPermissions")
    let devicePermissions ← isStringArray (fields.lookup "devicePermissions")
    let budget ← isBudget (fields.lookup "budget")
    some { skillId, packId, packVersion, profileVersion, requiredPermissions, profilePermissions,
           packPermissions, tenantPermissions, devicePermissions, budget, confirmation := none }
  else none

def parseGrant (agentId : String) (value : JsonValue) : Except String BridgeSkillGrant :=
  match value with
  | .record fields => .require (grantOf fields) ("Bridge policy grant 无效: " ++ agentId)
  | _ => .error ("Bridge policy grant 无效: " ++ agentId)

def parseEntry (entry : String × JsonValue) : Except String (String × List BridgeSkillGrant) :=
  match entry.2 with
  | .array grants =>
    if entry.1 = "" then .error "Bridge policy agent 条目无效"
    else (grants.mapM (parseGrant entry.1)).map fun parsed => (entry.1, parsed)
  | _ => .error "Bridge policy agent 条目无效"

def parseBridgePolicy (parsed : JsonValue) : Except String BridgeExecutionPolicy :=
  match parsed with
  | .record entries => (entries.mapM parseEntry).map InsertionMap.empty.setAll
  | _ => .error "LONGHUB_BRIDGE_POLICY 必须是对象"

def receivePolicy (text : List Char) : Except String BridgeExecutionPolicy :=
  match JsonValue.parse text with
  | some parsed => parseBridgePolicy parsed
  | none => .error "SyntaxError"

def Agrees (policy : BridgeExecutionPolicy) : Prop :=
  ∃ accepted, receivePolicy (policyJson policy).print = .ok accepted ∧ SamePolicy accepted policy

end CoreProcess

end LongHub
