import LongHub.WorkflowReadBack

/-!
# The no-code workspace

`NoCodeWorkspaceService` holds the Content Skills, the workflows and the overlays that a user has
made, and hands a summary from one Agent to another.
-/

namespace LongHub

open Except Stored
open BoundedWorkflow (parseBoundedWorkflow workflowSkillIds countSteps WorkflowExecutionResult)

namespace NoCode

structure AgentHandoffPreview where
  handoffId : String
  sourceAgentId : String
  targetAgentId : String
  summary : String
  digest : String
  expiresAt : Int
  confirmationToken : String

structure CompletedHandoff where
  targetAgentId : String
  message : String

abbrev Handoffs := InsertionMap String AgentHandoffPreview

def previewHandoff (node : NodePlatform) (uuid token : String) (now : Int)
    (sourceAgentId targetAgentId summary : String) (pending : Handoffs) :
    Except String (AgentHandoffPreview × Handoffs) :=
  let normalized := trimText summary
  if ¬ (idPattern sourceAgentId ∧ idPattern targetAgentId ∧ sourceAgentId ≠ targetAgentId) then
    .error "转交 Agent 无效"
  else if normalized = "" ∨ 4000 < utf16Length normalized then .error "转交摘要无效"
  else if IsoInstant.maxTime < now + 5 * 60000 then .error "Invalid time value"
  else
    let preview := ⟨uuid, sourceAgentId, targetAgentId, normalized,
      node.sha256Hex (sourceAgentId ++ "\x00" ++ targetAgentId ++ "\x00" ++ normalized),
      now + 5 * 60000, token⟩
    .ok (preview, pending.set uuid preview)

/-- A confirmation uses up its preview, also when it is refused. -/
def confirmHandoff (now : Int) (handoffId targetAgentId token : String) (pending : Handoffs) :
    Except String CompletedHandoff × Handoffs :=
  let refused : Except String CompletedHandoff := .error "转交确认无效、过期或已使用"
  (match pending.get? handoffId with
    | none => refused
    | some preview =>
      if preview.targetAgentId ≠ targetAgentId ∨ preview.confirmationToken ≠ token ∨
          preview.expiresAt < now then refused
      else .ok ⟨targetAgentId, "用户确认从智能体 " ++ preview.sourceAgentId ++
        " 转交以下摘要：\n\n" ++ preview.summary⟩,
    pending.delete handoffId)

structure NoCodeWorkspaceAgent where
  agentId : String
  profileId : String
  name : String

abbrev StoredWorkflow := Stored parseBoundedWorkflow

structure Collections where
  contentSkills : List StoredSkill
  workflows : List StoredWorkflow
  overlays : List StoredOverlay

/-- What is not written. -/
structure Transient where
  handoffs : Handoffs
  pendingHandoff : Option AgentHandoffPreview
  completedHandoff : Option CompletedHandoff
  exportedContent : Option (String × List Char)
  lastWorkflowRun : Option WorkflowExecutionResult

structure Workspace where
  collections : Collections
  transient : Transient
  file : Option (List Char)

structure WorkspaceSetup where
  node : NodePlatform
  owner : String
  ownerLong : 8 ≤ utf16Length owner

def WorkspaceSetup.ownerHash (setup : WorkspaceSetup) : String := setup.node.sha256Hex setup.owner

def Collections.empty : Collections := ⟨[], [], []⟩

def Transient.empty : Transient := ⟨.empty, none, none, none, none⟩

variable (ownerHash : String)

def stateJson (collections : Collections) : JsonValue :=
  .record [("schemaVersion", .text "longhub/nocode-workspace/v1"), ("ownerHash", .text ownerHash),
    ("contentSkills", .array (collections.contentSkills.map value)),
    ("workflows", .array (collections.workflows.map value)),
    ("overlays", .array (collections.overlays.map value))]

def persisted (collections : Collections) : List Char :=
  serialize (stateJson ownerHash collections)

def fileSize (text : List Char) : Nat := (String.ofList text).utf8ByteSize

/-- The loader takes no more items of a collection, and no larger file. -/
def maxItems : Nat := 256
def maxFileSize : Nat := 16 * 1024 * 1024

def collectionsOf (fields : List (String × JsonValue)) :
    Option (List JsonValue × List JsonValue × List JsonValue) :=
  match fields.lookup "schemaVersion", fields.lookup "ownerHash",
    fields.lookup "contentSkills", fields.lookup "workflows", fields.lookup "overlays" with
  | some (.text schema), some (.text owner), some (.array contentSkills), some (.array workflows),
      some (.array overlays) =>
      if hasExactKeys fields
          ["schemaVersion", "ownerHash", "contentSkills", "workflows", "overlays"] ∧
          schema = "longhub/nocode-workspace/v1" ∧ owner = ownerHash ∧
          contentSkills.length ≤ maxItems ∧ workflows.length ≤ maxItems ∧
          overlays.length ≤ maxItems then
        some (contentSkills, workflows, overlays)
      else none
  | _, _, _, _, _ => none

def loadState (state : JsonValue) : Except String Collections :=
  match state with
  | .record fields => do
    let (contentSkills, workflows, overlays) ←
      require (collectionsOf ownerHash fields) "无代码工作台 owner 或格式无效"
    let contentSkills ← contentSkills.mapM (of parseUserContentSkill)
    let workflows ← workflows.mapM (of parseBoundedWorkflow)
    let overlays ← overlays.mapM (of parseNoCodeAgentOverlay)
    return ⟨contentSkills, workflows, overlays⟩
  | _ => .error "无代码工作台 owner 或格式无效"

def load (file : Option (List Char)) : Except String Collections :=
  match file with
  | none => .ok .empty
  | some text => do
    if maxFileSize < fileSize text then .error "无代码工作台状态无效"
    else
      let state ← require (JsonValue.parse text) "JSON 无效"
      loadState ownerHash state

/-- The constructor. -/
def openWorkspace (setup : WorkspaceSetup) (file : Option (List Char)) : Except String Workspace :=
  (load setup.ownerHash file).map fun collections => ⟨collections, .empty, file⟩

structure JsValue where
  value : JsonValue
  wellFormed : value.WellFormed

structure JsList where
  items : List JsonValue
  wellFormed : ∀ item ∈ items, item.WellFormed

inductive NoCodeWorkspaceAction where
  | contentCreate (name description instructions : String)
  | contentImport (serialized : String)
  | contentExport (skillId : String)
  | openclawImport
  | workflowCreate (name : String) (steps : JsList)
  | workflowRun (workflowId agentId : String)
  | agentCreate (overlay : NoCodeAgentOverlay)
  | handoffPreview (sourceAgentId targetAgentId summary : String)
  | handoffConfirm (handoffId targetAgentId confirmationToken : String)
  | handoffCancel (handoffId : String)

/-- What an action does not determine: what the options answer, the random values and the
time, and the error of `persist`, if it throws. -/
structure WorkspaceChoice where
  agents : List NoCodeWorkspaceAgent
  personalEntryIds : String → List String
  authorizedSkillIds : String → List String
  selectOpenClawContent : Option (Except String (Option JsValue))
  runWorkflow : Except String WorkflowExecutionResult
  uuid : String
  token : String
  now : Int
  disk : Option String

section Actions

variable (setup : WorkspaceSetup) (choice : WorkspaceChoice)

def assertAgent (agentId : String) : Except String Unit :=
  ensure (idPattern agentId && choice.agents.any fun agent => agent.agentId = agentId)
    "无代码工作台目标 Agent 无效"

variable (collections : Collections)

def skillIds : List String :=
  collections.contentSkills.map fun skill => skill.content.id

def workflowJson (uuid name : String) (steps : List JsonValue) : JsonValue :=
  .record [("schemaVersion", .text "longhub/workflow/v1"),
    ("workflowId", .text ("user.workflow." ++ uuid)), ("name", .text name),
    ("steps", .array steps)]

@[grind =]
def pushed : NoCodeWorkspaceAction → Except String (Option Collections)
  | .contentCreate name description instructions => do
    let skill ← createUserContentSkill choice.uuid "user_local" name description instructions []
    return some { collections with contentSkills := collections.contentSkills ++ [skill] }
  | .contentImport serialized => do
    let skill ← importUserContentSkill choice.uuid serialized
    return some { collections with contentSkills := collections.contentSkills ++ [skill] }
  | .openclawImport => do
    let selection ← require choice.selectOpenClawContent "OpenClaw 内容导入当前不可用"
    match ← selection with
    | none => return none
    | some imported =>
      let skill ← of parseUserContentSkill imported.value
      return some { collections with contentSkills := collections.contentSkills ++ [skill] }
  | .workflowCreate name steps => do
    let workflow ← of parseBoundedWorkflow (workflowJson choice.uuid name steps.items)
    let known := choice.agents.flatMap (fun agent => choice.authorizedSkillIds agent.agentId) ++
      skillIds collections
    ensure ((workflowSkillIds workflow.content.steps).all (· ∈ known))
      "Workflow 引用了未知或未安装 Skill"
    return some { collections with workflows := collections.workflows ++ [workflow] }
  | .agentCreate overlay => do
    ensure (choice.agents.any fun agent => agent.agentId = overlay.targetAgentId ∧
      agent.profileId = overlay.baseProfileId) "无代码 Agent 基础签名 Profile 无效"
    ensure (overlay.personalEntryIds.all
      (· ∈ choice.personalEntryIds overlay.targetAgentId)) "无代码 Agent 引用了跨 Agent 个人资料"
    ensure (overlay.skillIds.all
      (· ∈ choice.authorizedSkillIds overlay.targetAgentId ++ skillIds collections))
      "无代码 Agent 引用了未授权 Skill"
    let created ← createNoCodeAgentOverlay
      { overlay with overlayId := "user.agent." ++ choice.uuid }
    return some { collections with overlays := collections.overlays ++ [created] }
  | _ => return none

/-- What an action that pushes nothing does to the rest of the state. -/
def performTransient (transient : Transient) :
    NoCodeWorkspaceAction → Except String Unit × Transient
  | .contentExport skillId =>
    match collections.contentSkills.find? fun skill => skill.content.id = skillId with
    | none => (.error "用户 Content Skill 不存在", transient)
    | some skill => (.ok (), { transient with
        exportedContent := some (skill.content.id, exportUserContentSkill skill) })
  | .workflowRun workflowId agentId =>
    match assertAgent choice agentId, collections.workflows.find? fun workflow =>
        workflow.content.workflowId = workflowId with
    | .error message, _ => (.error message, transient)
    | .ok (), none => (.error "Workflow 不存在", transient)
    | .ok (), some workflow =>
      if ¬ (workflowSkillIds workflow.content.steps).all
          (· ∈ choice.authorizedSkillIds agentId ++ skillIds collections) then
        (.error "Workflow Skill 未授权给目标 Agent", transient)
      else
        match choice.runWorkflow with
        | .error message => (.error message, transient)
        | .ok result => (.ok (), { transient with lastWorkflowRun := some result })
  | .handoffPreview sourceAgentId targetAgentId summary =>
    match (do
      assertAgent choice sourceAgentId
      assertAgent choice targetAgentId
      previewHandoff setup.node choice.uuid choice.token choice.now sourceAgentId targetAgentId
        summary transient.handoffs) with
    | .error message => (.error message, transient)
    | .ok (preview, handoffs) =>
      (.ok (), { transient with handoffs, pendingHandoff := some preview })
  | .handoffConfirm handoffId targetAgentId token =>
    match assertAgent choice targetAgentId with
    | .error message => (.error message, transient)
    | .ok () =>
      let (outcome, handoffs) :=
        confirmHandoff choice.now handoffId targetAgentId token transient.handoffs
      match outcome with
      | .error message => (.error message, { transient with handoffs })
      | .ok completed => (.ok (), { transient with
          handoffs, completedHandoff := some completed, pendingHandoff := none })
  | .handoffCancel handoffId =>
    (.ok (), { transient with
      handoffs := transient.handoffs.delete handoffId
      pendingHandoff := transient.pendingHandoff.filter (·.handoffId ≠ handoffId) })
  | _ => (.ok (), transient)

/-- Results of earlier actions are shown no longer. -/
def clearTransient (transient : Transient) : NoCodeWorkspaceAction → Transient
  | .contentExport _ => { transient with lastWorkflowRun := none, completedHandoff := none }
  | .workflowRun _ _ => { transient with exportedContent := none, completedHandoff := none }
  | .handoffConfirm _ _ _ => { transient with exportedContent := none, lastWorkflowRun := none }
  | _ => { transient with
      exportedContent := none, lastWorkflowRun := none, completedHandoff := none }

/-- Make the collections the state, then write them. -/
def save (workspace : Workspace) : Except String Unit × Workspace :=
  match choice.disk with
  | some message => (.error message, { workspace with collections })
  | none => (.ok (), { workspace with
      collections, file := some (persisted setup.ownerHash collections) })

def perform (action : NoCodeWorkspaceAction) (workspace : Workspace) :
    Except String Unit × Workspace :=
  let cleared := { workspace with transient := clearTransient workspace.transient action }
  match pushed choice workspace.collections action with
  | .error message => (.error message, cleared)
  | .ok (some collections) => save setup choice collections cleared
  | .ok none =>
    let (outcome, transient) :=
      performTransient setup choice workspace.collections cleared.transient action
    (outcome, { cleared with transient })

end Actions

structure ShownSkill where
  skillId : String
  name : String
  description : String
  source : String

structure ShownWorkflow where
  workflowId : String
  name : String
  stepCount : Nat

structure ShownCollections where
  contentSkills : List ShownSkill
  workflows : List ShownWorkflow
  overlays : List NoCodeAgentOverlay

def shownSkill (skill : UserContentSkill) : ShownSkill :=
  ⟨skill.id, skill.name, skill.description, skill.source⟩

def shownWorkflow (workflow : BoundedWorkflow) : ShownWorkflow :=
  ⟨workflow.workflowId, workflow.name, countSteps workflow.steps⟩

def Collections.shown (collections : Collections) : ShownCollections where
  contentSkills := collections.contentSkills.map fun skill => shownSkill skill.content
  workflows := collections.workflows.map fun workflow => shownWorkflow workflow.content
  overlays := collections.overlays.map fun overlay => overlay.content

inductive WorkspaceEvent where
  | perform (action : NoCodeWorkspaceAction) (choice : WorkspaceChoice)
  | reopen

def workspaceStep (setup : WorkspaceSetup) (workspace : Workspace) :
    WorkspaceEvent → Option Workspace
  | .perform action choice =>
    match perform setup choice action workspace with
    | (.ok (), after) => some after
    | (.error _, _) => none
  | .reopen => (openWorkspace setup workspace.file).toOption

def newWorkspace : Workspace := ⟨.empty, .empty, none⟩

end NoCode

end LongHub
