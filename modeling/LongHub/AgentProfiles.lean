import LongHub.AgentRegistry

/-!
# Agents of installed packs

The active packs are activated one after another: every profile is entered in the registry, and the
enabled ones give the agents of OpenClaw and the policy of Core.
-/

namespace LongHub

open AgentRegistry
structure PackCapability where
  id : String
  permissions : List String

structure PackManifest where
  packId : String
  packVersion : String
  templateId : String
  templateVersion : String
  capabilities : List PackCapability

structure ProfileCapability where
  id : String
  skillIds : List String
  permissions : List String

inductive AgentSandbox where
  | strict
  | workspaceRead
  | workspaceWrite
  deriving DecidableEq

structure AgentProfile where
  id : String
  version : String
  displayName : String
  displayDescription : Option String
  displayEmoji : Option String
  capabilities : List ProfileCapability
  openclawSkills : List String
  toolsAllow : List String
  toolsDeny : List String
  sandbox : AgentSandbox
  minManagerVersion : String
  openclawVersion : String
  modelPolicyId : String

structure ActivePack where
  manifest : PackManifest
  profile : AgentProfile

/-- A pack of the store with its active version, if one is active. -/
structure InstalledPack where
  packId : String
  active : Option ActivePack
  owns : ∀ pack ∈ active, pack.manifest.packId = packId

structure PackStore where
  packs : List InstalledPack
  distinct : (packs.map InstalledPack.packId).Nodup

/-- A profile that is on, with its entry in the registry and its pack. -/
structure EnabledAgentProfile where
  registry : AgentRegistryEntry
  manifest : PackManifest
  profile : AgentProfile

namespace PackStore

def activePack (store : PackStore) (packId : String) : Option ActivePack :=
  (store.packs.find? fun pack => pack.packId = packId).bind InstalledPack.active

/-- The packs with an active version in the order of `localeCompare`. -/
def activated (store : PackStore) : List InstalledPack :=
  (store.packs.filter fun pack => pack.active.isSome).insertionSort
    fun left right => Collation.localeLe left.packId right.packId

theorem distinct_activated (store : PackStore) :
    (store.activated.map InstalledPack.packId).Nodup := by
  have sorted := (List.perm_insertionSort
    (fun left right : InstalledPack => Collation.localeLe left.packId right.packId)
    (store.packs.filter fun pack => pack.active.isSome)).map InstalledPack.packId
  exact sorted.nodup_iff.mpr (store.distinct.sublist (List.filter_sublist.map _))

end PackStore

section Activation

variable (node : NodePlatform) (disk : Disk)

namespace AgentRegistry

/-- The entry of a profile keeps its agent id and, unless told otherwise, its switch. -/
def register (registry : AgentRegistry) (pack : ActivePack) (enabled : Option Bool) :
    Outcome AgentRegistryEntry :=
  let profile := pack.profile
  let manifest := pack.manifest
  if profile.id = "main" ∨ manifest.templateId = "main" then
    (.error (.plain "main 是龙枢保留智能体，Pack 不得覆盖"), registry)
  else if profile.id ≠ manifest.templateId ∨ profile.version ≠ manifest.templateVersion then
    (.error (.plain "Profile 与 Manifest 身份不一致"), registry)
  else
    match registry.findByProfile profile.id with
    | some existing =>
      if existing.packId ≠ manifest.packId then
        (.error (.plain ("Profile " ++ profile.id ++ " 已归属于 Pack " ++ existing.packId)), registry)
      else registry.enter disk ⟨profile.id, existing.agentId, manifest.packId, profile.version,
        manifest.packVersion, enabled.getD existing.enabled⟩
    | none =>
      match agentIdForProfile node profile.id with
      | .error message => (.error (.plain message), registry)
      | .ok agentId => registry.enter disk ⟨profile.id, agentId, manifest.packId,
          profile.version, manifest.packVersion, enabled.getD true⟩

end AgentRegistry

/-- Profiles are registered in turn until one fails. -/
def activateAll : List InstalledPack → AgentRegistry →
    AgentRegistry.Outcome (List EnabledAgentProfile)
  | [], registry => (.ok [], registry)
  | installed :: rest, registry =>
    match disk (.readPack installed.packId), installed.active with
    | some message, _ => (.error (.plain message), registry)
    | none, none => activateAll rest registry
    | none, some pack =>
      match registry.register node disk pack none with
      | (.error problem, after) => (.error problem, after)
      | (.ok entry, after) =>
        if !entry.enabled then activateAll rest after
        else
          match disk (.materialize entry.agentId) with
          | some message => (.error (.plain message), after)
          | none =>
            let (outcome, last) := activateAll rest after
            (outcome.map fun others => ⟨entry, pack.manifest, pack.profile⟩ :: others, last)

def activateInstalledAgentProfiles (store : PackStore) (registry : AgentRegistry) :
    AgentRegistry.Outcome (List EnabledAgentProfile) :=
  match disk .listInstalled with
  | some message => (.error (.plain message), registry)
  | none => activateAll node disk store.activated registry

end Activation

/-- The enabled profiles as the registry has them. -/
def enabledOf (registry : AgentRegistry) (packs : List InstalledPack) : List EnabledAgentProfile :=
  packs.filterMap fun installed => installed.active.bind fun pack =>
    (registry.findByProfile pack.profile.id).bind fun entry =>
      if entry.enabled then some ⟨entry, pack.manifest, pack.profile⟩ else none

def enabledProfiles (store : PackStore) (registry : AgentRegistry) : List EnabledAgentProfile :=
  enabledOf registry store.activated

theorem enabledProfiles_congr {store : PackStore} {registry other : AgentRegistry}
    (same : registry.entries = other.entries) :
    enabledProfiles store registry = enabledProfiles store other := by
  unfold enabledProfiles enabledOf findByProfile
  rw [same]

section ActivationLemmas

variable {node : NodePlatform} {disk : Disk} {registry after : AgentRegistry}

theorem inOrder_register (inOrder : registry.InOrder) (pack : ActivePack)
    (enabled : Option Bool) : (registry.register node disk pack enabled).2.InOrder := by
  simp only [register]
  repeat' split
  all_goals first
    | exact inOrder
    | exact inOrder_enter inOrder _

theorem inOrder_activateAll (packs : List InstalledPack) (inOrder : registry.InOrder) :
    (activateAll node disk packs registry).2.InOrder := by
  induction packs generalizing registry with
  | nil => exact inOrder
  | cons installed rest ih =>
    simp only [activateAll]
    split
    · exact inOrder
    · exact ih inOrder
    · next pack _ _ =>
      have registered : (registry.register node disk pack none).2.InOrder :=
        inOrder_register inOrder pack none
      split
      · next after equal =>
        rw [equal] at registered
        exact registered
      · next entry after equal =>
        rw [equal] at registered
        split
        · exact ih registered
        · split
          · exact registered
          · exact ih registered

structure Registered (registry after : AgentRegistry) (pack : ActivePack)
    (entry : AgentRegistryEntry) : Prop where
  owner : entry.packId = pack.manifest.packId
  lookups : ∀ profileId, after.findByProfile profileId =
    if profileId = pack.profile.id then some entry else registry.findByProfile profileId
  sameOwner : ∀ existing, registry.findByProfile pack.profile.id = some existing →
    existing.packId = pack.manifest.packId

theorem registered_of_register {pack : ActivePack} {enabled : Option Bool}
    {entry : AgentRegistryEntry}
    (registers : registry.register node disk pack enabled = (.ok entry, after)) :
    Registered registry after pack entry := by
  simp only [register] at registers
  split at registers
  · cases registers
  · split at registers
    · cases registers
    · split at registers
      · next existing found =>
        split at registers
        · cases registers
        · next same =>
          obtain ⟨rfl, lookups⟩ := findByProfile_enter registers
          refine ⟨rfl, lookups, fun other isOther => ?_⟩
          rw [found] at isOther
          cases isOther
          exact of_not_not same
      · next absent =>
        split at registers
        · cases registers
        · obtain ⟨rfl, lookups⟩ := findByProfile_enter registers
          refine ⟨rfl, lookups, fun other isOther => ?_⟩
          rw [absent] at isOther
          cases isOther

variable {profiles : List EnabledAgentProfile}

theorem findByProfile_activateAll {packs : List InstalledPack} {profileId : String}
    {entry : AgentRegistryEntry} (found : registry.findByProfile profileId = some entry)
    (others : entry.packId ∉ packs.map InstalledPack.packId)
    (activates : activateAll node disk packs registry = (.ok profiles, after)) :
    after.findByProfile profileId = some entry := by
  induction packs generalizing registry profiles with
  | nil =>
    cases activates
    exact found
  | cons installed rest ih =>
    simp only [List.map_cons, List.mem_cons, not_or] at others
    simp only [activateAll] at activates
    split at activates
    · cases activates
    · exact ih found others.2 activates
    · next pack _ isActive =>
      split at activates
      · cases activates
      · next registered middle registers =>
        have facts := registered_of_register registers
        have isOther : profileId ≠ pack.profile.id := by
          rintro rfl
          have owner := facts.sameOwner entry found
          rw [installed.owns pack isActive] at owner
          exact others.1 owner
        have kept : middle.findByProfile profileId = some entry := by
          rw [facts.lookups, if_neg isOther]
          exact found
        split at activates
        · exact ih kept others.2 activates
        · split at activates
          · cases activates
          · generalize inner : activateAll node disk rest middle = result at activates
            obtain ⟨outcome, last⟩ := result
            cases outcome with
            | error problem => cases activates
            | ok inside =>
              cases activates
              exact ih kept others.2 inner

theorem profiles_activateAll {packs : List InstalledPack}
    (distinct : (packs.map InstalledPack.packId).Nodup)
    (activates : activateAll node disk packs registry = (.ok profiles, after)) :
    profiles = enabledOf after packs := by
  induction packs generalizing registry profiles with
  | nil =>
    cases activates
    rfl
  | cons installed rest ih =>
    obtain ⟨notLater, restDistinct⟩ := List.nodup_cons.mp distinct
    simp only [activateAll] at activates
    split at activates
    · cases activates
    · next isActive =>
      rw [ih restDistinct activates]
      simp [enabledOf, isActive]
    · next pack _ isActive =>
      split at activates
      · cases activates
      · next entry middle registers =>
        have facts := registered_of_register registers
        have owner : entry.packId = installed.packId :=
          facts.owner.trans (installed.owns pack isActive)
        have here : middle.findByProfile pack.profile.id = some entry := by
          rw [facts.lookups, if_pos rfl]
        have notRest : entry.packId ∉ rest.map InstalledPack.packId := by
          rw [owner]
          exact notLater
        split at activates
        · next disabled =>
          have kept := findByProfile_activateAll here notRest activates
          rw [ih restDistinct activates]
          have isDisabled : entry.enabled = false := by simpa using disabled
          simp [enabledOf, isActive, kept, isDisabled]
        · next enabled =>
          have isEnabled : entry.enabled = true := by simpa using enabled
          split at activates
          · cases activates
          · generalize inner : activateAll node disk rest middle = result at activates
            obtain ⟨outcome, last⟩ := result
            cases outcome with
            | error problem => cases activates
            | ok inside =>
              cases activates
              have kept := findByProfile_activateAll here notRest inner
              rw [ih restDistinct inner]
              simp [enabledOf, isActive, kept, isEnabled]

theorem profiles_activate {store : PackStore}
    (activates : activateInstalledAgentProfiles node disk store registry = (.ok profiles, after)) :
    profiles = enabledProfiles store after := by
  unfold activateInstalledAgentProfiles at activates
  split at activates
  · cases activates
  · exact profiles_activateAll store.distinct_activated activates

end ActivationLemmas

end LongHub
