import LongHub.AgentRegistry

/-!
# The registry of Skills

The registry holds the installed versions of every Skill and the Agents to which a Skill is bound.
-/

namespace LongHub

open Collation
inductive SkillRuntime where
  | builtin (implementationId : String)
  | declarative (format entrypoint : String)
  | cloudRef (serviceId apiVersion : String)
  deriving DecidableEq

structure SkillPackage where
  id : String
  version : String
  publisherNamespace : String
  displayName : String
  allowedAgentProfileIds : List String
  defaultEnabled : Bool
  requestedPermissions : List String
  runtime : SkillRuntime
  maxCostMicros : Nat
  digest : String
  deriving DecidableEq

inductive SkillError where
  | plain (message : String)
  | registry (code message : String)
  | runtimePolicy (code message : String)
  | notEntitled
  | transactionFailed (cause : SkillError)
  | rollbackFailed (operationError rollbackError : SkillError)
  deriving DecidableEq

inductive SkillRuntimePlan where
  | builtin (skillId implementationId : String)
  | declarative (format entrypoint : String)
  | cloudRef (serviceId apiVersion : String)
  deriving DecidableEq

def SkillRuntimePlan.kind : SkillRuntimePlan → String
  | builtin _ _ => "builtin"
  | declarative _ _ => "declarative"
  | cloudRef _ _ => "cloudRef"

def builtinWorkerImplementations : List (String × String) :=
  [("longhub.worker.echo-upper", "longhub.skill.echo-upper"),
    ("longhub.worker.jd-draft", "longhub.skill.jd-draft"),
    ("longhub.worker.chat", "longhub.skill.chat"),
    ("longhub.worker.resume-screen", "longhub.skill.resume-screen"),
    ("longhub.worker.offer-letter", "longhub.skill.offer-letter")]

def runtimePlan (cloudServiceIds : List String) (manifest : SkillPackage) :
    Except SkillError SkillRuntimePlan :=
  match manifest.runtime with
  | .builtin implementationId =>
    match builtinWorkerImplementations.lookup implementationId with
    | some skillId =>
      if skillId = manifest.id then .ok (.builtin skillId implementationId)
      else .error (.runtimePolicy "BUILTIN_IMPLEMENTATION_NOT_ALLOWED"
        "builtin 实现不在当前 Desktop Worker allowlist，或与 Skill ID 不匹配")
    | none => .error (.runtimePolicy "BUILTIN_IMPLEMENTATION_NOT_ALLOWED"
        "builtin 实现不在当前 Desktop Worker allowlist，或与 Skill ID 不匹配")
  | .declarative format entrypoint => .ok (.declarative format entrypoint)
  | .cloudRef serviceId apiVersion =>
    if serviceId ∈ cloudServiceIds then .ok (.cloudRef serviceId apiVersion)
    else .error (.runtimePolicy "CLOUD_SERVICE_NOT_ALLOWED"
      "CloudRef serviceId 不在当前 Cloud Executor allowlist")

def resolveSkillRuntimePlan (cloudServiceIds : List String) (input : Option SkillPackage) :
    Except SkillError (SkillPackage × SkillRuntimePlan) :=
  match input with
  | none => .error (.runtimePolicy "SKILL_PACKAGE_INVALID" "Skill Package 严格校验失败")
  | some manifest => (runtimePlan cloudServiceIds manifest).map fun plan => (manifest, plan)

structure InstalledSkillVersion where
  manifest : SkillPackage
  installedAt : String
  deriving DecidableEq

structure SkillRegistryEntry where
  skillId : String
  publisherNamespace : String
  activeVersion : String
  previousVersion : Option String
  revoked : Bool
  versions : List InstalledSkillVersion
  updatedAt : String
  deriving DecidableEq

structure AgentSkillBinding where
  skillId : String
  profileId : String
  agentId : String
  enabled : Bool
  createdAt : String
  updatedAt : String
  deriving DecidableEq

namespace SkillRegistryEntry

def manifestOf (entry : SkillRegistryEntry) (version : String) : Option SkillPackage :=
  (entry.versions.find? fun installed => installed.manifest.version = version).map
    InstalledSkillVersion.manifest

def activeManifest (entry : SkillRegistryEntry) : Option SkillPackage :=
  entry.manifestOf entry.activeVersion

end SkillRegistryEntry

def skillKey (agentId skillId : String) : String := agentId ++ "\x00" ++ skillId

def AgentSkillBinding.key (binding : AgentSkillBinding) : String :=
  skillKey binding.agentId binding.skillId

def skillCorrupt (message : String) : SkillError := .registry "SKILL_REGISTRY_CORRUPT" message

variable (skills : List SkillRegistryEntry)

def checkBinding (binding : AgentSkillBinding) : Except SkillError Unit :=
  let entry := skills.find? fun candidate => candidate.skillId = binding.skillId
  match entry, entry.bind SkillRegistryEntry.activeManifest with
  | some entry, some manifest =>
    if binding.profileId ∉ manifest.allowedAgentProfileIds then
      .error (skillCorrupt "Agent-Skill Binding 引用不存在或不允许的 Skill")
    else if entry.revoked && binding.enabled then
      .error (skillCorrupt "已撤销 Skill 不能保留启用 Binding")
    else .ok ()
  | _, _ => .error (skillCorrupt "Agent-Skill Binding 引用不存在或不允许的 Skill")

def validateRelationships (bindings : List AgentSkillBinding) :
    Except SkillError Unit := do
  if ¬ (skills.map SkillRegistryEntry.skillId).Nodup then
    .error (skillCorrupt "Skill Registry 存在重复 Skill ID")
  if ¬ (bindings.map AgentSkillBinding.key).Nodup then
    .error (skillCorrupt "Skill Registry 存在重复 Agent-Skill Binding")
  bindings.forM (checkBinding skills)

/-- Whether an entry does not come after another one. -/
def skillLe (left right : SkillRegistryEntry) : Prop :=
  localeLe left.skillId right.skillId

instance : DecidableRel skillLe := fun left right =>
  inferInstanceAs (Decidable (localeLe left.skillId right.skillId))

def bindingLe (left right : AgentSkillBinding) : Prop :=
  localeLe left.key right.key

instance : DecidableRel bindingLe := fun left right =>
  inferInstanceAs (Decidable (localeLe left.key right.key))

instance : Std.Total skillLe :=
  ⟨fun left right => Std.Total.total (r := localeLe) left.skillId right.skillId⟩

instance : IsTrans SkillRegistryEntry skillLe := ⟨fun _ _ _ => le_trans⟩

instance : Std.Total bindingLe :=
  ⟨fun left right => Std.Total.total (r := localeLe) left.key right.key⟩

instance : IsTrans AgentSkillBinding bindingLe := ⟨fun _ _ _ => le_trans⟩

def sortSkills : List SkillRegistryEntry :=
  skills.insertionSort skillLe

def sortBindings (bindings : List AgentSkillBinding) : List AgentSkillBinding :=
  bindings.insertionSort bindingLe

structure SkillRegistry where
  revision : Nat
  skills : List SkillRegistryEntry
  bindings : List AgentSkillBinding
  valid : validateRelationships skills bindings = .ok ()

abbrev SkillRegistrySnapshot := SkillRegistry

/-- The revisions are numbers of JavaScript: one more than 2^53 is 2^53 again. -/
def nextRevision (revision : Nat) : Nat := if revision < 2 ^ 53 then revision + 1 else revision

def isSafeRevision (revision : Nat) : Bool := revision < 2 ^ 53

namespace SkillRegistry

def empty : SkillRegistry := ⟨0, [], [], rfl⟩

/-- Both lists are in the order in which a commit leaves them. -/
def InOrder (registry : SkillRegistry) : Prop :=
  registry.skills.Pairwise skillLe ∧ registry.bindings.Pairwise bindingLe

instance (registry : SkillRegistry) : Decidable registry.InOrder :=
  inferInstanceAs (Decidable (_ ∧ _))

/-- What an operation returns or throws, with the registry that it leaves. -/
abbrev Outcome := Except SkillError Unit × SkillRegistry

def findSkill (registry : SkillRegistry) (skillId : String) : Option SkillRegistryEntry :=
  registry.skills.find? fun entry => entry.skillId = skillId

def activeManifest (registry : SkillRegistry) (skillId : String) : Option SkillPackage :=
  (registry.findSkill skillId).bind SkillRegistryEntry.activeManifest

/-- Write the lists and make them the state; `disk` is the error of the file operations,
if one of them fails. -/
def commit (disk : Option SkillError) (registry : SkillRegistry)
    (skills : List SkillRegistryEntry) (bindings : List AgentSkillBinding) : Outcome :=
  match valid : validateRelationships (sortSkills skills) (sortBindings bindings), disk with
  | .error error, _ => (.error error, registry)
  | .ok (), some error => (.error error, registry)
  | .ok (), none =>
    (.ok (), ⟨nextRevision registry.revision, sortSkills skills, sortBindings bindings, valid⟩)

def replaceSkill (next : SkillRegistryEntry) (skills : List SkillRegistryEntry) :
    List SkillRegistryEntry :=
  skills.map fun entry => if entry.skillId = next.skillId then next else entry

def replaceBinding (next : AgentSkillBinding) (bindings : List AgentSkillBinding) :
    List AgentSkillBinding :=
  bindings.map fun binding =>
    if binding.agentId = next.agentId ∧ binding.skillId = next.skillId then next else binding

def publisherOwnsSkillId (publisherNamespace skillId : String) : Bool :=
  let marked := (publisherNamespace ++ ".skill.").toList
  marked.isPrefixOf skillId.toList && marked.length < skillId.toList.length

def install (disk : Option SkillError) (now : String) (manifest : SkillPackage)
    (registry : SkillRegistry) : Outcome :=
  let existing := registry.findSkill manifest.id
  let ownershipError (code : String) : Outcome :=
    (.error (.registry code "Skill ID 发布方所有权冲突"), registry)
  if ¬ publisherOwnsSkillId manifest.publisherNamespace manifest.id then
    ownershipError "SKILL_ID_NAMESPACE_MISMATCH"
  else
    match existing with
    | none =>
      registry.commit disk
        (registry.skills ++ [⟨manifest.id, manifest.publisherNamespace, manifest.version, none,
          false, [⟨manifest, now⟩], now⟩]) registry.bindings
    | some existing =>
      if existing.publisherNamespace ≠ manifest.publisherNamespace then
        ownershipError "SKILL_ID_OWNERSHIP_CONFLICT"
      else
        match existing.manifestOf manifest.version with
        | some sameVersion =>
          if sameVersion.digest ≠ manifest.digest then
            (.error (.registry "SKILL_VERSION_IMMUTABLE" "同一 Skill 版本的摘要不可变化"), registry)
          else (.ok (), registry)
        | none =>
          let next := { existing with
            previousVersion := some existing.activeVersion
            activeVersion := manifest.version
            revoked := false
            versions := existing.versions ++ [⟨manifest, now⟩]
            updatedAt := now }
          registry.commit disk (replaceSkill next registry.skills) registry.bindings

def bind (node : NodePlatform) (disk : Option SkillError) (now skillId profileId agentId : String)
    (enabled : Bool) (registry : SkillRegistry) : Outcome :=
  match agentIdForProfile node profileId with
  | .error message => (.error (.plain message), registry)
  | .ok expected =>
    if agentId ≠ expected then
      (.error (.registry "SKILL_BINDING_AGENT_MISMATCH" "Agent ID 与 Profile 不匹配"), registry)
    else
      match registry.findSkill skillId, registry.activeManifest skillId with
      | some skill, some manifest =>
        if skill.revoked then
          (.error (.registry "SKILL_NOT_INSTALLED" "Skill 未安装或已撤销"), registry)
        else if profileId ∉ manifest.allowedAgentProfileIds then
          (.error (.registry "SKILL_BINDING_NOT_ALLOWED" "Skill 不允许绑定此 Agent Profile"), registry)
        else
          match registry.bindings.find? fun binding =>
              binding.agentId = agentId ∧ binding.skillId = skillId with
          | none =>
            registry.commit disk registry.skills
              (registry.bindings ++ [⟨skillId, profileId, agentId, enabled, now, now⟩])
          | some existing =>
            if existing.enabled = enabled ∧ existing.profileId = profileId then
              (.ok (), registry)
            else
              registry.commit disk registry.skills
                (replaceBinding ⟨skillId, profileId, agentId, enabled, existing.createdAt, now⟩
                  registry.bindings)
      | _, _ => (.error (.registry "SKILL_NOT_INSTALLED" "Skill 未安装或已撤销"), registry)

def setBindingEnabled (disk : Option SkillError) (now skillId agentId : String) (enabled : Bool)
    (registry : SkillRegistry) : Outcome :=
  let binding := registry.bindings.find? fun candidate =>
    candidate.skillId = skillId ∧ candidate.agentId = agentId
  match registry.findSkill skillId, binding with
  | some entry, some binding =>
    if enabled && entry.revoked then
      (.error (.registry "SKILL_REVOKED" "已撤销 Skill 不能启用"), registry)
    else if binding.enabled = enabled then (.ok (), registry)
    else
      registry.commit disk registry.skills
        (replaceBinding { binding with enabled, updatedAt := now } registry.bindings)
  | _, _ =>
    (.error (.registry "SKILL_BINDING_NOT_FOUND" "Agent-Skill Binding 不存在"), registry)

def activateVersion (disk : Option SkillError) (now skillId version : String)
    (registry : SkillRegistry) : Outcome :=
  match registry.findSkill skillId with
  | none => (.error (.registry "SKILL_NOT_INSTALLED" "Skill 未安装"), registry)
  | some entry =>
    if entry.revoked then
      (.error (.registry "SKILL_REVOKED" "已撤销 Skill 不能切换版本"), registry)
    else if (entry.manifestOf version).isNone then
      (.error (.registry "SKILL_VERSION_NOT_INSTALLED" "目标 Skill 版本未安装"), registry)
    else if entry.activeVersion = version then (.ok (), registry)
    else
      let next := { entry with
        activeVersion := version
        previousVersion := some entry.activeVersion
        updatedAt := now }
      registry.commit disk (replaceSkill next registry.skills) registry.bindings

/-- An empty previous version counts as none. -/
def rollback (disk : Option SkillError) (now skillId : String) (registry : SkillRegistry) :
    Outcome :=
  match ((registry.findSkill skillId).bind SkillRegistryEntry.previousVersion).filter (· ≠ "") with
  | none => (.error (.registry "SKILL_ROLLBACK_UNAVAILABLE" "Skill 没有可回滚版本"), registry)
  | some version => registry.activateVersion disk now skillId version

def markRevoked (disk : Option SkillError) (now skillId : String) (registry : SkillRegistry) :
    Outcome :=
  match registry.findSkill skillId with
  | none => (.error (.registry "SKILL_NOT_INSTALLED" "Skill 未安装"), registry)
  | some entry =>
    if entry.revoked then (.ok (), registry)
    else
      registry.commit disk
        (replaceSkill { entry with revoked := true, updatedAt := now } registry.skills)
        (registry.bindings.map fun binding =>
          if binding.skillId = skillId then { binding with enabled := false, updatedAt := now }
          else binding)

def remove (disk : Option SkillError) (skillId : String) (registry : SkillRegistry) : Outcome :=
  match registry.findSkill skillId with
  | none => (.error (.registry "SKILL_NOT_INSTALLED" "Skill 未安装"), registry)
  | some _ =>
    registry.commit disk (registry.skills.filter fun entry => entry.skillId ≠ skillId)
      (registry.bindings.filter fun binding => binding.skillId ≠ skillId)

/-- Put back the lists of a snapshot; those of a registry always fit together. -/
def restore (disk : Option SkillError) (registry : SkillRegistry)
    (snapshot : SkillRegistrySnapshot) : Outcome :=
  if ¬ isSafeRevision snapshot.revision then
    (.error (.registry "SKILL_REGISTRY_SNAPSHOT_INVALID" "Skill Registry 快照 revision 无效"), registry)
  else
    match validateRelationships snapshot.skills snapshot.bindings with
    | .error error => (.error error, registry)
    | .ok () => registry.commit disk snapshot.skills snapshot.bindings

section Lemmas

variable {registry snapshot : SkillRegistry} {disk : Option SkillError}

def Leaves (registry : SkillRegistry) (outcome : Outcome) : Prop :=
  outcome.2 = registry ∨ outcome.2.InOrder

theorem Leaves.inOrder {outcome : Outcome} (leaves : registry.Leaves outcome)
    (inOrder : registry.InOrder) : outcome.2.InOrder := by
  rcases leaves with same | sorted
  · rw [same]
    exact inOrder
  · exact sorted

theorem leaves_refl (result : Except SkillError Unit) : registry.Leaves (result, registry) :=
  .inl rfl

theorem leaves_commit (skills : List SkillRegistryEntry) (bindings : List AgentSkillBinding) :
    registry.Leaves (registry.commit disk skills bindings) := by
  unfold commit
  split
  · exact leaves_refl _
  · exact leaves_refl _
  · exact .inr ⟨List.pairwise_insertionSort _ _, List.pairwise_insertionSort _ _⟩

theorem leaves_install (now : String) (manifest : SkillPackage) :
    registry.Leaves (registry.install disk now manifest) := by
  simp only [install]
  split_ifs
  · split
    · exact leaves_commit _ _
    · split_ifs
      · exact leaves_refl _
      · split
        · split_ifs <;> exact leaves_refl _
        · exact leaves_commit _ _
  · exact leaves_refl _

theorem leaves_bind (node : NodePlatform) (now skillId profileId agentId : String)
    (enabled : Bool) :
    registry.Leaves (registry.bind node disk now skillId profileId agentId enabled) := by
  unfold SkillRegistry.bind
  split
  · exact leaves_refl _
  · split_ifs
    · exact leaves_refl _
    · split
      · split_ifs
        · exact leaves_refl _
        · split
          · exact leaves_commit _ _
          · split_ifs
            · exact leaves_refl _
            · exact leaves_commit _ _
        · exact leaves_refl _
      · exact leaves_refl _

theorem leaves_setBindingEnabled (now skillId agentId : String) (enabled : Bool) :
    registry.Leaves (registry.setBindingEnabled disk now skillId agentId enabled) := by
  simp only [setBindingEnabled]
  split
  · split_ifs
    · exact leaves_refl _
    · exact leaves_refl _
    · exact leaves_commit _ _
  · exact leaves_refl _

theorem leaves_rollback (now skillId : String) :
    registry.Leaves (registry.rollback disk now skillId) := by
  unfold rollback activateVersion
  split
  · exact leaves_refl _
  · split
    · exact leaves_refl _
    · split_ifs
      · exact leaves_refl _
      · exact leaves_refl _
      · exact leaves_refl _
      · exact leaves_commit _ _

theorem leaves_markRevoked (now skillId : String) :
    registry.Leaves (registry.markRevoked disk now skillId) := by
  unfold markRevoked
  split
  · exact leaves_refl _
  · split_ifs
    · exact leaves_refl _
    · exact leaves_commit _ _

theorem leaves_remove (skillId : String) : registry.Leaves (registry.remove disk skillId) := by
  unfold remove
  split
  · exact leaves_refl _
  · exact leaves_commit _ _

theorem leaves_restore : registry.Leaves (registry.restore disk snapshot) := by
  unfold restore
  split
  · exact leaves_refl _
  · split
    · exact leaves_refl _
    · exact leaves_commit _ _

theorem commit_of_inOrder (inOrder : snapshot.InOrder) :
    (registry.commit none snapshot.skills snapshot.bindings).1 = .ok () ∧
      (registry.commit none snapshot.skills snapshot.bindings).2.skills = snapshot.skills ∧
      (registry.commit none snapshot.skills snapshot.bindings).2.bindings = snapshot.bindings := by
  have sameSkills : sortSkills snapshot.skills = snapshot.skills := inOrder.1.insertionSort_eq
  have sameBindings : sortBindings snapshot.bindings = snapshot.bindings :=
    inOrder.2.insertionSort_eq
  unfold commit
  split
  · rename_i invalid
    rw [sameSkills, sameBindings, valid] at invalid
    cases invalid
  · rename_i bad
    cases bad
  · exact ⟨rfl, sameSkills, sameBindings⟩

theorem restore_of_inOrder (inOrder : snapshot.InOrder)
    (safe : isSafeRevision snapshot.revision = true) : (registry.restore none snapshot).1 = .ok () ∧
      (registry.restore none snapshot).2.skills = snapshot.skills ∧
      (registry.restore none snapshot).2.bindings = snapshot.bindings := by
  unfold restore
  rw [if_neg (not_not.mpr safe), snapshot.valid]
  exact commit_of_inOrder inOrder

end Lemmas

end SkillRegistry

end LongHub
