import LongHub.AgentProfiles
import LongHub.FeaturePolicyResolution

/-!
# The agents and the bridge policy of enabled profiles

Enabled profiles are compiled twice: into the list of agents that OpenClaw shows, with `main` in
front, and into the grants that Core enforces.
-/

namespace LongHub

/-- An agent as it is composed; settings that are the same for all are left out. -/
structure OpenClawAgentEntry where
  id : String
  isDefault : Bool
  name : String
  description : Option String
  workspace : String
  agentDir : String
  model : String
  skills : Option (List String)
  identityName : String
  identityEmoji : Option String
  identityAvatar : Option String
  sandbox : Option AgentSandbox
  toolsAllow : Option (List String)
  toolsDeny : List String
  deriving DecidableEq

structure PathPlatform where
  isAbsolute : String → Bool
  resolve : String → String
  relative : String → String → String
  join : List String → String

structure AgentConfigComposerOptions where
  stateDir : String
  mainWorkspaceDir : String
  mainAvatarDataUrl : Option String
  desktopVersion : String
  openclawVersion : String
  modelPolicies : List (String × String)
  toolBridgePluginPath : Option String

def isolationDenyTools : List String :=
  ["agents_list", "sessions_history", "sessions_list", "sessions_send", "sessions_spawn"]

def sortedByCodeUnits (texts : List String) : List String :=
  texts.insertionSort fun one other => codeUnits one ≤ codeUnits other

def toolsAllowOf (profile : AgentProfile) : Option (List String) :=
  let allow := sortedByCodeUnits (profile.toolsAllow.filter fun tool => tool ∉ isolationDenyTools)
  if allow = [] then none else some allow

def toolsDenyOf (profileDeny : List String) : List String :=
  sortedByCodeUnits (profileDeny ++ isolationDenyTools).eraseDups

def nonempty (text : Option String) : Option String :=
  text.filter fun content => content ≠ ""

def isBase64Char (char : Char) : Bool := char.isAlphanum || char ∈ ['+', '/']

def isPngDataUrl (text : String) : Bool :=
  let header := "data:image/png;base64,".toList
  let reversed := (text.toList.drop header.length).reverse
  let body := reversed.dropWhile (· = '=')
  text.toList.take header.length = header && body ≠ [] && body.all isBase64Char &&
    reversed.length - body.length ≤ 2

section Composer

variable (paths : PathPlatform) (options : AgentConfigComposerOptions)

def isPathInside (base candidate : String) : Bool :=
  let pathFromRoot := paths.relative (paths.resolve base) (paths.resolve candidate)
  pathFromRoot = "" || (pathFromRoot.toList.take 2 ≠ ['.', '.'] && !paths.isAbsolute pathFromRoot)

def assertComposerOptions : Except String Unit := do
  .ensure (paths.isAbsolute options.stateDir && paths.isAbsolute options.mainWorkspaceDir)
    "OpenClaw stateDir 和 main workspace 必须是绝对路径"
  .ensure (isPathInside paths options.stateDir options.mainWorkspaceDir)
    "main workspace 必须位于龙枢 OpenClaw stateDir 内"
  .ensure ((nonempty options.toolBridgePluginPath).all paths.isAbsolute)
    "LongHub Tool Bridge 插件路径必须是绝对路径"
  .ensure ((nonempty options.mainAvatarDataUrl).all fun avatar =>
    isPngDataUrl avatar && utf16Length avatar ≤ 3 * 1024 * 1024) "龙枢主头像必须是有界 PNG data URI"

def versionNumbers (version : String) : List (Option Nat) :=
  ((version.toList.takeWhile (· ≠ '-')).splitOn '.').map numberOf

/-- The loop of `semverGte` over the first numbers of two versions. -/
def semverGteFrom (one other : List (Option Nat)) : List Nat → Bool
  | [] => true
  | index :: rest =>
    let left := one[index]?.getD (some 0)
    let right := other[index]?.getD (some 0)
    if left ≠ right then lessNumber right left else semverGteFrom one other rest

def semverGte (one other : String) : Bool :=
  semverGteFrom (versionNumbers one) (versionNumbers other) [0, 1, 2]

def modelOf (modelPolicyId : String) : Except String String :=
  .require (nonempty (options.modelPolicies.lookup modelPolicyId)) ("后台未配置模型策略 " ++ modelPolicyId)

def composeProfileAgent (source : EnabledAgentProfile) : Except String OpenClawAgentEntry := do
  let profile := source.profile
  let registry := source.registry
  let manifest := source.manifest
  .ensure registry.enabled ("Profile " ++ profile.id ++ " 尚未启用")
  .ensure (registry.profileId = profile.id && registry.profileVersion = profile.version)
    ("Registry 与 Profile 版本不一致: " ++ profile.id)
  .ensure (registry.packId = manifest.packId && registry.packVersion = manifest.packVersion &&
    manifest.templateId = profile.id && manifest.templateVersion = profile.version)
    ("Registry、Manifest 与 Profile 不一致: " ++ profile.id)
  .ensure (openclawAgentIdPattern registry.agentId && registry.agentId ≠ "main")
    ("Registry agentId 无效: " ++ registry.agentId)
  .ensure (semverGte options.desktopVersion profile.minManagerVersion)
    ("Profile " ++ profile.id ++ " 与当前 Desktop 不兼容")
  .ensure (profile.openclawVersion = options.openclawVersion)
    ("Profile " ++ profile.id ++ " 与当前 OpenClaw 版本不兼容")
  let model ← modelOf options profile.modelPolicyId
  return {
    id := registry.agentId
    isDefault := false
    name := profile.displayName
    description := nonempty profile.displayDescription
    workspace := paths.join [options.stateDir, "workspaces", registry.agentId]
    agentDir := paths.join [options.stateDir, "agents", registry.agentId, "agent"]
    model
    skills := some (sortedByCodeUnits profile.openclawSkills)
    identityName := profile.displayName
    identityEmoji := nonempty profile.displayEmoji
    identityAvatar := none
    sandbox := some profile.sandbox
    toolsAllow := toolsAllowOf profile
    toolsDeny := toolsDenyOf profile.toolsDeny }

def mainAgent (defaultModel : String) : OpenClawAgentEntry where
  id := "main"
  isDefault := true
  name := "龙枢助手"
  description := none
  workspace := options.mainWorkspaceDir
  agentDir := paths.join [options.stateDir, "agents", "main", "agent"]
  model := defaultModel
  skills := none
  identityName := "龙枢助手"
  identityEmoji := some "🐉"
  identityAvatar := some (options.mainAvatarDataUrl.getD "avatars/longhub.png")
  sandbox := none
  toolsAllow := none
  toolsDeny := toolsDenyOf []

def composeOpenClawAgents (profiles : List EnabledAgentProfile) :
    Except String (List OpenClawAgentEntry) := do
  assertComposerOptions paths options
  let defaultModel ← .require (nonempty (options.modelPolicies.lookup "longhub.model.default"))
    "后台未配置 longhub.model.default"
  let profileIds : List String := profiles.map fun source => source.profile.id
  let agentIds : List String := profiles.map fun source => source.registry.agentId
  .ensure (decide profileIds.Nodup && decide agentIds.Nodup) "启用 Profile 存在重复 ID 或 agentId"
  let sorted := profiles.insertionSort fun left right =>
    Collation.localeLe left.registry.agentId right.registry.agentId
  let profileAgents ← sorted.mapM (composeProfileAgent paths options)
  return mainAgent paths options defaultModel :: profileAgents

end Composer

def bridgeSkillPermissions : List (String × List String) :=
  [("longhub.skill.resume-screen", ["connector:hr-api:read"]),
    ("longhub.skill.offer-letter", ["connector:hr-api:write"])]

def bridgeConfirmationDescriptors : List (String × BridgeConfirmationDescriptor) :=
  [("longhub.skill.offer-letter",
    { action := "生成录用通知书"
      object := "候选人录用通知"
      recipientField := some "candidateName"
      dataFields := [("岗位", "position"), ("月薪（人民币元）", "monthlySalaryCny"), ("入职日期", "startDate")]
      estimatedCostCents := 0 })]

def defaultBridgeBudget : CoreBudget := ⟨100000, 100, 60000⟩

def productPermissionCeiling : List String :=
  Collation.sorted (bridgeSkillPermissions.flatMap Prod.snd).eraseDups

def profilePermissionsFor (profile : AgentProfile) (skillId : String) : Option (List String) :=
  let declaring := profile.capabilities.filter fun capability => skillId ∈ capability.skillIds
  if declaring = [] then none
  else some (declaring.flatMap ProfileCapability.permissions).eraseDups

def packPermissionsFor (source : EnabledAgentProfile) (skillId : String) : List String :=
  let declaring := source.profile.capabilities.filter fun capability =>
    skillId ∈ capability.skillIds
  (declaring.flatMap fun capability =>
    ((source.manifest.capabilities.find? fun item => item.id = capability.id).map
      PackCapability.permissions).getD []).eraseDups

def bridgeGrants (source : EnabledAgentProfile) : List BridgeSkillGrant :=
  let skills := bridgeSkillPermissions.insertionSort fun left right =>
    Collation.localeLe left.1 right.1
  skills.filterMap fun (skillId, required) =>
    (profilePermissionsFor source.profile skillId).map fun profilePermissions =>
      { skillId
        packId := source.manifest.packId
        packVersion := source.manifest.packVersion
        profileVersion := source.profile.version
        requiredPermissions := sortedByCodeUnits required
        profilePermissions := sortedByCodeUnits profilePermissions
        packPermissions := sortedByCodeUnits (packPermissionsFor source skillId)
        tenantPermissions := sortedByCodeUnits productPermissionCeiling
        devicePermissions := sortedByCodeUnits productPermissionCeiling
        budget := defaultBridgeBudget
        confirmation := bridgeConfirmationDescriptors.lookup skillId }

/-- The grants that the declarations of the profiles ask for. -/
def buildToolBridgePolicy (profiles : List EnabledAgentProfile) : BridgeExecutionPolicy :=
  InsertionMap.empty.setAll (profiles.map fun source =>
    (source.registry.agentId, bridgeGrants source))

structure BridgeConstraint where
  writeAllowed : Bool
  installedSkills : List (String × String)
  deriving DecidableEq

def builtinWorkerSkills : List String :=
  ["longhub.skill.echo-upper", "longhub.skill.jd-draft", "longhub.skill.chat",
    "longhub.skill.resume-screen", "longhub.skill.offer-letter"]

namespace BridgeConstraint

variable (constraint : BridgeConstraint)

def managed (skillId : String) : Bool :=
  skillId ∈ builtinWorkerSkills || skillId ∈ constraint.installedSkills.map Prod.snd

def keeps (agentId : String) (grant : BridgeSkillGrant) : Bool :=
  (grant.confirmation.isNone || constraint.writeAllowed) &&
    (!constraint.managed grant.skillId || (agentId, grant.skillId) ∈ constraint.installedSkills)

/-- The grants of every agent that are not closed at the moment. -/
def constrainBridgePolicy (policy : BridgeExecutionPolicy) : BridgeExecutionPolicy :=
  policy.mapValues fun agentId grants => grants.filter (constraint.keeps agentId)

end BridgeConstraint

def SamePolicy (one other : BridgeExecutionPolicy) : Prop :=
  one.entries.Perm other.entries

instance : DecidableRel SamePolicy := fun one other =>
  inferInstanceAs (Decidable (one.entries.Perm other.entries))

namespace SamePolicy

variable {one other third : BridgeExecutionPolicy}

@[refl]
theorem refl (policy : BridgeExecutionPolicy) : SamePolicy policy policy := List.Perm.refl _

@[symm]
theorem symm (same : SamePolicy one other) : SamePolicy other one := List.Perm.symm same

theorem get?_eq (same : SamePolicy one other) (agentId : String) :
    one.get? agentId = other.get? agentId := by
  apply Option.ext
  intro grants
  rw [InsertionMap.get?_eq_some_iff, InsertionMap.get?_eq_some_iff]
  exact same.mem_iff

end SamePolicy

end LongHub
