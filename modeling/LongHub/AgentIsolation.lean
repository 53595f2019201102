import LongHub.AgentComposition

/-!
# Composed agents are isolated

An agent is confined to its own directories and denied the tools that reach other agents.  An
allow list that consists of such tools alone is left out, and an agent without an allow list may
use every tool.
-/

namespace LongHub

open Except List

/-- A platform on which ids of agents are plain names: a directory that they are joined to
contains the joined path. -/
structure DirectoryPaths extends PathPlatform where
  separator : String
  relative_join : ∀ (directory : String) (names : List String), isAbsolute directory = true →
    names ≠ [] → (∀ name ∈ names, openclawAgentIdPattern name = true) →
    relative (resolve directory) (resolve (join (directory :: names))) = separator.intercalate names
  not_absolute : ∀ names : List String, (∀ name ∈ names, openclawAgentIdPattern name = true) →
    isAbsolute (separator.intercalate names) = false

section Isolation

variable (paths : DirectoryPaths) (options : AgentConfigComposerOptions)

def workspaceOf (agentId : String) : String :=
  paths.join [options.stateDir, "workspaces", agentId]

def agentDirOf (agentId : String) : String :=
  paths.join [options.stateDir, "agents", agentId, "agent"]

/-- The agents that are composed from options and profiles. -/
structure ComposedAgents (profiles : List EnabledAgentProfile) where
  agents : List OpenClawAgentEntry
  composed : composeOpenClawAgents paths.toPathPlatform options profiles = .ok agents

/-- Agents of profiles do not reach each other, and their allow lists are kept. -/
structure Isolated (profiles : List EnabledAgentProfile) (agents : List OpenClawAgentEntry) :
    Prop where
  oneDefault : (agents.filter OpenClawAgentEntry.isDefault).map OpenClawAgentEntry.id = ["main"]
  ids : (agents.map OpenClawAgentEntry.id).Nodup
  workspaces : (agents.map fun agent => paths.resolve agent.workspace).Nodup
  agentDirs : (agents.map fun agent => paths.resolve agent.agentDir).Nodup
  inside : ∀ agent ∈ agents, isPathInside paths.toPathPlatform options.stateDir agent.workspace ∧
    isPathInside paths.toPathPlatform options.stateDir agent.agentDir
  denied : ∀ agent ∈ agents, ∀ tool ∈ isolationDenyTools, tool ∈ agent.toolsDeny
  allowed : ∀ agent ∈ agents, ∀ tool ∈ agent.toolsAllow.getD [], tool ∉ agent.toolsDeny
  restricted : ∀ source ∈ profiles, source.profile.toolsAllow ≠ [] →
    ∃ agent ∈ agents, agent.id = source.registry.agentId ∧
      ∃ allow, agent.toolsAllow = some allow ∧ allow ⊆ source.profile.toolsAllow

/-- The profile leaves `main` its workspace, gives no tool a rule of each kind, and allows more
than tools that are denied to all. -/
structure Separable (source : EnabledAgentProfile) : Prop where
  ownWorkspace : paths.resolve options.mainWorkspaceDir ≠
    paths.resolve (workspaceOf paths options source.registry.agentId)
  oneRule : ∀ tool ∈ source.profile.toolsAllow, tool ∈ source.profile.toolsDeny →
    tool ∈ isolationDenyTools
  someTool : source.profile.toolsAllow ≠ [] →
    ∃ tool ∈ source.profile.toolsAllow, tool ∉ isolationDenyTools

/-! ## Tools -/

theorem mem_sortedByCodeUnits {texts : List String} {text : String} :
    text ∈ sortedByCodeUnits texts ↔ text ∈ texts :=
  (perm_insertionSort _ _).mem_iff

theorem mem_toolsDenyOf {profileDeny : List String} {tool : String} :
    tool ∈ toolsDenyOf profileDeny ↔ tool ∈ profileDeny ∨ tool ∈ isolationDenyTools := by
  rw [toolsDenyOf, mem_sortedByCodeUnits, mem_eraseDups, mem_append]

theorem toolsAllowOf_ne_nil (profile : AgentProfile) : toolsAllowOf profile ≠ some [] := by
  unfold toolsAllowOf
  simp only
  split_ifs with empty
  · simp
  · simpa using empty

theorem mem_toolsAllowOf {profile : AgentProfile} {tool : String} :
    tool ∈ (toolsAllowOf profile).getD [] ↔
      tool ∈ profile.toolsAllow ∧ tool ∉ isolationDenyTools := by
  unfold toolsAllowOf
  simp only
  split_ifs with empty
  · rw [Option.getD_none, ← empty, mem_sortedByCodeUnits]
    simp
  · rw [Option.getD_some, mem_sortedByCodeUnits]
    simp

/-- The rules of an agent exclude each other exactly if those of its profile do. -/
theorem exclusive_iff {profile : AgentProfile} :
    (∀ tool ∈ (toolsAllowOf profile).getD [], tool ∉ toolsDenyOf profile.toolsDeny) ↔
      ∀ tool ∈ profile.toolsAllow, tool ∈ profile.toolsDeny → tool ∈ isolationDenyTools := by
  simp only [mem_toolsAllowOf, mem_toolsDenyOf]
  constructor
  · intro exclusive tool allowed denied
    by_contra free
    exact exclusive tool ⟨allowed, free⟩ (.inl denied)
  · rintro oneRule tool ⟨allowed, free⟩ (denied | isolating)
    · exact free (oneRule tool allowed denied)
    · exact free isolating

theorem restricted_iff {profile : AgentProfile} :
    (∃ allow, toolsAllowOf profile = some allow ∧ allow ⊆ profile.toolsAllow) ↔
      ∃ tool ∈ profile.toolsAllow, tool ∉ isolationDenyTools := by
  constructor
  · rintro ⟨allow, given, -⟩
    have present : allow ≠ [] := fun empty => toolsAllowOf_ne_nil profile (empty ▸ given)
    obtain ⟨tool, mem⟩ := exists_mem_of_ne_nil allow present
    have kept : tool ∈ (toolsAllowOf profile).getD [] := by rwa [given]
    exact ⟨tool, mem_toolsAllowOf.mp kept⟩
  · rintro ⟨tool, allowed, free⟩
    have kept := mem_toolsAllowOf.mpr ⟨allowed, free⟩
    rcases given : toolsAllowOf profile with _ | allow
    · simp [given] at kept
    · refine ⟨allow, rfl, fun other mem => ?_⟩
      have kept : other ∈ (toolsAllowOf profile).getD [] := by rwa [given]
      exact (mem_toolsAllowOf.mp kept).1

/-! ## Directories -/

variable {paths options} {one other : String}

theorem valid_workspaceNames (valid : openclawAgentIdPattern one = true) :
    ∀ name ∈ ["workspaces", one], openclawAgentIdPattern name = true := by
  simp [valid]
  decide

theorem valid_agentNames (valid : openclawAgentIdPattern one = true) :
    ∀ name ∈ ["agents", one, "agent"], openclawAgentIdPattern name = true := by
  simp [valid]
  decide

section

variable (absolute : paths.isAbsolute options.stateDir = true)
include absolute

theorem resolve_workspaceOf_inj
    (valid : openclawAgentIdPattern one = true) (otherValid : openclawAgentIdPattern other = true)
    (same : paths.resolve (workspaceOf paths options one) =
      paths.resolve (workspaceOf paths options other)) : one = other := by
  have relatives := paths.relative_join _ _ absolute (by simp) (valid_workspaceNames valid)
  have otherRelatives := paths.relative_join _ _ absolute (by simp)
    (valid_workspaceNames otherValid)
  unfold workspaceOf at same
  rw [same, otherRelatives] at relatives
  simpa [String.intercalate_cons_cons, eq_comm] using relatives

theorem resolve_agentDirOf_inj
    (valid : openclawAgentIdPattern one = true) (otherValid : openclawAgentIdPattern other = true)
    (same : paths.resolve (agentDirOf paths options one) =
      paths.resolve (agentDirOf paths options other)) : one = other := by
  have relatives := paths.relative_join _ _ absolute (by simp) (valid_agentNames valid)
  have otherRelatives := paths.relative_join _ _ absolute (by simp) (valid_agentNames otherValid)
  unfold agentDirOf at same
  rw [same, otherRelatives] at relatives
  simpa [String.intercalate_cons_cons, String.append_assoc, eq_comm] using relatives

theorem inside_join {names : List String}
    (present : names ≠ []) (valid : ∀ name ∈ names, openclawAgentIdPattern name = true)
    (within : (paths.separator.intercalate names).toList.take 2 ≠ ['.', '.']) :
    isPathInside paths.toPathPlatform options.stateDir (paths.join (options.stateDir :: names)) =
      true := by
  rw [isPathInside, paths.relative_join _ _ absolute present valid, paths.not_absolute _ valid,
    decide_eq_true within]
  simp

theorem inside_workspaceOf (valid : openclawAgentIdPattern one = true) :
    isPathInside paths.toPathPlatform options.stateDir (workspaceOf paths options one) = true := by
  apply inside_join absolute (by simp) (valid_workspaceNames valid)
  simp [String.intercalate_cons_cons]

theorem inside_agentDirOf (valid : openclawAgentIdPattern one = true) :
    isPathInside paths.toPathPlatform options.stateDir (agentDirOf paths options one) = true := by
  apply inside_join absolute (by simp) (valid_agentNames valid)
  simp [String.intercalate_cons_cons]

end

/-! ## The agents of a composition -/

variable {profiles : List EnabledAgentProfile} {source : EnabledAgentProfile}
  {agent : OpenClawAgentEntry}

/-- What is composed of a profile. -/
structure ComposedOf (paths : DirectoryPaths) (options : AgentConfigComposerOptions)
    (source : EnabledAgentProfile) (agent : OpenClawAgentEntry) : Prop where
  valid : openclawAgentIdPattern agent.id = true
  notMain : agent.id ≠ "main"
  id : agent.id = source.registry.agentId
  isDefault : agent.isDefault = false
  workspace : agent.workspace = workspaceOf paths options agent.id
  agentDir : agent.agentDir = agentDirOf paths options agent.id
  toolsAllow : agent.toolsAllow = toolsAllowOf source.profile
  toolsDeny : agent.toolsDeny = toolsDenyOf source.profile.toolsDeny

theorem composedOf_of_ok
    (composed : composeProfileAgent paths.toPathPlatform options source = .ok agent) :
    ComposedOf paths options source agent := by
  simp only [composeProfileAgent, bind_eq_ok, ensure_eq_ok,
    Bool.and_eq_true, decide_eq_true_eq, pure_eq_ok] at composed
  obtain ⟨-, -, -, -, -, -, -, ⟨valid, notMain⟩, -, -, -, -, model, -, rfl⟩ := composed
  exact ⟨valid, notMain, rfl, rfl, rfl, rfl, rfl, rfl⟩

/-- The agent `main` and those of the profiles. -/
theorem ComposedAgents.shape (composition : ComposedAgents paths options profiles) :
    ∃ model rest, paths.isAbsolute options.stateDir = true ∧
      isPathInside paths.toPathPlatform options.stateDir options.mainWorkspaceDir = true ∧
      composition.agents = mainAgent paths.toPathPlatform options model :: rest ∧
      (rest.map OpenClawAgentEntry.id).Nodup ∧
      (∀ agent ∈ rest, ∃ source ∈ profiles, ComposedOf paths options source agent) ∧
      ∀ source ∈ profiles, ∃ agent ∈ rest, ComposedOf paths options source agent := by
  have composed := composition.composed
  simp only [composeOpenClawAgents, assertComposerOptions, bind_eq_ok,
    ensure_eq_ok, Bool.and_eq_true, decide_eq_true_eq, pure_eq_ok,
    mapM_eq_ok_iff] at composed
  obtain ⟨-, ⟨-, ⟨absolute, -⟩, -, inside, -⟩, model, -, -, ⟨-, distinct⟩, rest, paired, same⟩ :=
    composed
  have sorted := perm_insertionSort (fun left right : EnabledAgentProfile =>
    Collation.localeLe left.registry.agentId right.registry.agentId) profiles
  have pairs := paired.imp fun _ _ => composedOf_of_ok
  have ids : Forall₂ Eq _ _ := forall₂_map_left_iff.mpr (forall₂_map_right_iff.mpr
    (pairs.imp fun _ _ composedOf => composedOf.id.symm))
  rw [forall₂_eq_eq_eq] at ids
  refine ⟨model, rest, absolute, inside, same.symm, ?_, ?_, ?_⟩
  · rw [← ids]
    exact (sorted.map _).nodup_iff.mpr distinct
  · intro agent mem
    obtain ⟨source, sourceIn, composedOf⟩ := pairs.exists_of_mem_right mem
    exact ⟨source, sorted.mem_iff.mp sourceIn, composedOf⟩
  · intro source mem
    exact pairs.exists_of_mem_left (sorted.mem_iff.mpr mem)

theorem Isolated.separable (composition : ComposedAgents paths options profiles)
    (isolated : Isolated paths options profiles composition.agents) (mem : source ∈ profiles) :
    Separable paths options source := by
  obtain ⟨model, rest, -, -, same, -, -, toAgent⟩ := composition.shape
  rw [same] at isolated
  obtain ⟨agent, agentIn, composedOf⟩ := toAgent source mem
  have inAll : agent ∈ mainAgent paths.toPathPlatform options model :: rest :=
    mem_cons_of_mem _ agentIn
  constructor
  · intro equal
    apply (nodup_cons.mp isolated.workspaces).1
    refine mem_map.mpr ⟨agent, agentIn, ?_⟩
    rw [composedOf.workspace, composedOf.id]
    exact equal.symm
  · have exclusive := isolated.allowed agent inAll
    rw [composedOf.toolsAllow, composedOf.toolsDeny] at exclusive
    exact exclusive_iff.mp exclusive
  · intro declared
    obtain ⟨other, otherIn, id, allow, given, kept⟩ := isolated.restricted source mem declared
    have : other = agent :=
      inj_on_of_nodup_map isolated.ids otherIn inAll (id.trans composedOf.id.symm)
    subst this
    exact restricted_iff.mp ⟨allow, composedOf.toolsAllow ▸ given, kept⟩

/-- Composed agents are isolated exactly if no profile has the workspace of `main`, rules that
exclude each other, or an allow list of nothing but the tools that are denied to all. -/
theorem isolated_iff (composition : ComposedAgents paths options profiles) :
    Isolated paths options profiles composition.agents ↔
      ∀ source ∈ profiles, Separable paths options source := by
  refine ⟨fun isolated source => isolated.separable composition, fun separable => ?_⟩
  obtain ⟨model, rest, absolute, inside, same, distinct, fromProfile, toAgent⟩ := composition.shape
  have mainValid : openclawAgentIdPattern "main" = true := by decide
  rw [same]
  constructor
  · have others : rest.filter OpenClawAgentEntry.isDefault = [] := by
      apply filter_eq_nil_iff.mpr
      intro agent mem
      obtain ⟨source, -, composedOf⟩ := fromProfile agent mem
      simp [composedOf.isDefault]
    rw [filter_cons_of_pos rfl, others]
    rfl
  · refine nodup_cons.mpr ⟨fun mem => ?_, distinct⟩
    obtain ⟨agent, agentIn, id⟩ := mem_map.mp mem
    obtain ⟨source, -, composedOf⟩ := fromProfile agent agentIn
    exact composedOf.notMain id
  · refine nodup_cons.mpr ⟨fun mem => ?_, ?_⟩
    · obtain ⟨agent, agentIn, equal⟩ := mem_map.mp mem
      obtain ⟨source, sourceIn, composedOf⟩ := fromProfile agent agentIn
      apply (separable source sourceIn).ownWorkspace
      rw [← composedOf.id, ← composedOf.workspace]
      exact equal.symm
    · refine (Nodup.of_map _ distinct).map_on fun one oneIn other otherIn equal => ?_
      obtain ⟨source, -, composedOf⟩ := fromProfile one oneIn
      obtain ⟨otherSource, -, otherComposed⟩ := fromProfile other otherIn
      rw [composedOf.workspace, otherComposed.workspace] at equal
      exact inj_on_of_nodup_map distinct oneIn otherIn
        (resolve_workspaceOf_inj absolute composedOf.valid otherComposed.valid equal)
  · refine nodup_cons.mpr ⟨fun mem => ?_, ?_⟩
    · obtain ⟨agent, agentIn, equal⟩ := mem_map.mp mem
      obtain ⟨source, -, composedOf⟩ := fromProfile agent agentIn
      rw [composedOf.agentDir] at equal
      exact composedOf.notMain (resolve_agentDirOf_inj absolute composedOf.valid mainValid equal)
    · refine (Nodup.of_map _ distinct).map_on fun one oneIn other otherIn equal => ?_
      obtain ⟨source, -, composedOf⟩ := fromProfile one oneIn
      obtain ⟨otherSource, -, otherComposed⟩ := fromProfile other otherIn
      rw [composedOf.agentDir, otherComposed.agentDir] at equal
      exact inj_on_of_nodup_map distinct oneIn otherIn
        (resolve_agentDirOf_inj absolute composedOf.valid otherComposed.valid equal)
  · refine forall_mem_cons.mpr ⟨⟨inside, inside_agentDirOf absolute mainValid⟩, ?_⟩
    intro agent mem
    obtain ⟨source, -, composedOf⟩ := fromProfile agent mem
    rw [composedOf.workspace, composedOf.agentDir]
    exact ⟨inside_workspaceOf absolute composedOf.valid,
      inside_agentDirOf absolute composedOf.valid⟩
  · refine forall_mem_cons.mpr ⟨fun tool isolating => mem_toolsDenyOf.mpr (.inr isolating), ?_⟩
    intro agent mem tool isolating
    obtain ⟨source, -, composedOf⟩ := fromProfile agent mem
    rw [composedOf.toolsDeny]
    exact mem_toolsDenyOf.mpr (.inr isolating)
  · refine forall_mem_cons.mpr ⟨by simp [mainAgent], fun agent mem => ?_⟩
    obtain ⟨source, sourceIn, composedOf⟩ := fromProfile agent mem
    rw [composedOf.toolsAllow, composedOf.toolsDeny]
    exact exclusive_iff.mpr (separable source sourceIn).oneRule
  · intro source mem declared
    obtain ⟨agent, agentIn, composedOf⟩ := toAgent source mem
    obtain ⟨allow, given, kept⟩ := restricted_iff.mpr ((separable source mem).someTool declared)
    exact ⟨agent, mem_cons_of_mem _ agentIn, composedOf.id, allow,
      composedOf.toolsAllow.trans given, kept⟩

/-! ## An agent without restrictions -/

/-- Absolute paths without `.` and `..`, with `/` between their names. -/
def slashPaths : DirectoryPaths where
  isAbsolute path := path.toList.head? = some '/'
  resolve path := path
  relative base path :=
    if (base ++ "/").toList <+: path.toList then
      String.ofList (path.toList.drop (base ++ "/").toList.length) else ".."
  join names := "/".intercalate names
  separator := "/"
  relative_join directory names _ present _ := by
    obtain ⟨name, rest, rfl⟩ := exists_cons_of_ne_nil present
    simp only [String.intercalate_cons_cons, String.toList_append]
    rw [if_pos (prefix_append _ _), drop_left, String.ofList_toList]
  not_absolute names valid := by
    rcases names with _ | ⟨name, rest⟩
    · rfl
    · have first := valid name mem_cons_self
      have start : ∀ char, (char.isLower || char.isDigit) = true → char ≠ '/' := by
        rintro char isFirst rfl
        exact absurd isFirst (by decide)
      unfold openclawAgentIdPattern matchesClasses at first
      split at first
      · cases first
      · next head tail split =>
        simp only [Bool.and_eq_true] at first
        rw [decide_eq_false_iff_not]
        rcases rest with _ | ⟨other, rest⟩
        · simp [split, start head first.1.1.1]
        · simp [String.intercalate_cons_cons, split, start head first.1.1.1]

def sendingOptions : AgentConfigComposerOptions where
  stateDir := "/state"
  mainWorkspaceDir := "/state/workspace"
  mainAvatarDataUrl := none
  desktopVersion := "1.0.0"
  openclawVersion := "2026.7.1-2"
  modelPolicies := [("longhub.model.default", "model")]
  toolBridgePluginPath := none

/-- A profile that allows one tool, which is denied to all. -/
def sendingProfile : EnabledAgentProfile where
  registry := ⟨"sender", "sender", "pack", "1.0.0", "1.0.0", true⟩
  manifest := ⟨"pack", "1.0.0", "sender", "1.0.0", []⟩
  profile := {
    id := "sender", version := "1.0.0", displayName := "Sender", displayDescription := none
    displayEmoji := none, capabilities := [], openclawSkills := []
    toolsAllow := ["sessions_send"], toolsDeny := [], sandbox := .strict
    minManagerVersion := "1.0.0", openclawVersion := "2026.7.1-2"
    modelPolicyId := "longhub.model.default" }

theorem accepts_sendingProfile :
    (composeOpenClawAgents slashPaths.toPathPlatform sendingOptions [sendingProfile]).isOk =
      true := by
  decide

/-- The agent of this profile has no allow list. -/
theorem not_isolated_sendingProfile :
    ∃ composition : ComposedAgents slashPaths sendingOptions [sendingProfile],
      ¬ Isolated slashPaths sendingOptions [sendingProfile] composition.agents := by
  have accepts := accepts_sendingProfile
  rcases composed : composeOpenClawAgents slashPaths.toPathPlatform sendingOptions [sendingProfile]
    with message | agents
  · rw [composed] at accepts
    cases accepts
  · refine ⟨⟨agents, composed⟩, fun isolated => ?_⟩
    have separable := isolated.separable ⟨agents, composed⟩ mem_cons_self
    obtain ⟨tool, allowed, free⟩ := separable.someTool (by decide)
    rw [mem_singleton.mp allowed] at free
    exact free (by decide)

end Isolation

end LongHub
