import LongHub.AgentComposition
import LongHub.AsyncProgram

/-!
# The lifecycle of packs

`AgentLifecycleCoordinator` enables and disables packs and takes away those that are no longer paid
for.
-/

namespace LongHub

open Program

inductive GatewayAgent where
  | entry (agent : OpenClawAgentEntry)
  | other (id : Option String) (json : String)
  deriving DecidableEq

def GatewayAgent.id : GatewayAgent → Option String
  | .entry agent => some agent.id
  | .other id _ => id

abbrev ConfiguredAgents := Option (Option (List GatewayAgent))

structure GatewayConfig where
  agents : ConfiguredAgents
  hash : String

def agentsFromConfig (config : GatewayConfig) : Except LifecycleError (List GatewayAgent) :=
  match config.agents with
  | none => .error (.plain "Gateway 配置缺少 agents")
  | some none => .error (.plain "Gateway 配置缺少 agents.list")
  | some (some agents) => .ok agents

def agentIds (agents : List GatewayAgent) : Except LifecycleError (List String) :=
  agents.mapM fun agent => .require agent.id (.plain "agents.list 包含无效智能体")

structure GatewayAgentsResult where
  defaultId : String
  agentIds : List String

structure LifecyclePieces where
  registry : AgentRegistry
  gatewayAgents : ConfiguredAgents
  corePolicy : BridgeExecutionPolicy
  bridgePolicy : BridgeExecutionPolicy
  sourceBridgePolicy : BridgeExecutionPolicy

structure LifecycleState extends LifecyclePieces where
  constraint : BridgeConstraint
  packs : PackStore
  queue : List Nat
  window : Option Nat
  refreshing : List Nat

/-- What does not change while the app runs. -/
structure LifecycleSetup where
  node : NodePlatform
  paths : PathPlatform
  composer : AgentConfigComposerOptions

inductive PackMutation where
  | enable (packId : String) (pack : ActivePack)
  | disable (packId : String)
  | revoke (packIds : List String)

structure StagedChange where
  agents : List OpenClawAgentEntry
  sourceBridgePolicy : BridgeExecutionPolicy
  bridgePolicy : BridgeExecutionPolicy

section Staging

variable (setup : LifecycleSetup) (disk : Disk) (packs : PackStore)

def revokePacks : List String → AgentRegistry → AgentRegistry.Outcome Unit
  | [], registry => (.ok (), registry)
  | packId :: rest, registry =>
    match registry.setPackEnabled disk packId false with
    | (.error problem, after) => (.error problem, after)
    | (.ok (), after) => revokePacks rest after

def mutate (registry : AgentRegistry) : PackMutation → AgentRegistry.Outcome Unit
  | .enable _ pack =>
    match registry.register setup.node disk pack (some true) with
    | (.error problem, after) => (.error problem, after)
    | (.ok entry, after) =>
      match disk (.materialize entry.agentId) with
      | some message => (.error (.plain message), after)
      | none => (.ok (), after)
  | .disable packId =>
    match disk (.readPack packId), packs.activePack packId with
    | some message, _ => (.error (.plain message), registry)
    | none, none =>
      (.error (.ofCode .packNotInstalled ("Pack " ++ packId ++ " 尚未安装")), registry)
    | none, some pack =>
      if registry.entries.any fun entry => entry.packId = packId then
        registry.setPackEnabled disk packId false
      else
        let (outcome, after) := registry.register setup.node disk pack (some false)
        (outcome.map fun _ => (), after)
  | .revoke packIds => revokePacks disk packIds registry

def stageMutation (constraint : BridgeConstraint) (registry : AgentRegistry)
    (mutation : PackMutation) : AgentRegistry.Outcome StagedChange :=
  match mutate setup disk packs registry mutation with
  | (.error problem, after) => (.error problem, after)
  | (.ok (), after) =>
    match activateInstalledAgentProfiles setup.node disk packs after with
    | (.error problem, last) => (.error problem, last)
    | (.ok profiles, last) =>
      match composeOpenClawAgents setup.paths setup.composer profiles with
      | .error message => (.error (.plain message), last)
      | .ok agents =>
        let sourceBridgePolicy := buildToolBridgePolicy profiles
        let bridgePolicy := constraint.constrainBridgePolicy sourceBridgePolicy
        (.ok { agents, sourceBridgePolicy, bridgePolicy }, last)

end Staging

inductive LifecycleCall where
  | enqueue
  | acquire
  | leave (failure : Option PackLifecycleCode)
  | activeVersion (packId : String)
  | verifyActivePack (packId : String)
  | eligiblePackIds (packs : List (String × String))
  | installedVersions
  | onSyncError (message : String)
  | enabledEntries
  | snapshotRegistry
  | getConfig
  | stage (mutation : PackMutation)
  | replaceBridgePolicy (ofRefresh : Bool) (policy : BridgeExecutionPolicy)
  | replaceAgents (agents : List GatewayAgent) (baseHash : String)
  | listAgents
  | publish (change : StagedChange) (removed : List String)
  | restore (source : BridgeExecutionPolicy) (snapshot : List AgentRegistryEntry)
  | startRefresh (constraint : Option BridgeConstraint)
  | assignPolicy (policy : BridgeExecutionPolicy)
  | changeConstraint (constraint : BridgeConstraint)

namespace LifecycleCall

def Answer : LifecycleCall → Type
  | activeVersion _ => Option String
  | verifyActivePack _ => ActivePack
  | eligiblePackIds _ => List String
  | installedVersions => List (String × String)
  | enabledEntries => List AgentRegistryEntry
  | snapshotRegistry => List AgentRegistryEntry
  | getConfig => GatewayConfig
  | stage _ =>
    (BridgeExecutionPolicy × BridgeExecutionPolicy) × Except LifecycleError StagedChange
  | listAgents => GatewayAgentsResult
  | startRefresh _ => Option BridgeExecutionPolicy
  | _ => Unit

end LifecycleCall

/-- What the code does not determine: which operation on files fails, whether a
request or a callback fails and whether it took effect nevertheless, and what
the Gateway and the cloud answer. -/
structure LifecycleChoice where
  disk : Disk
  failure : Option String
  applied : Bool
  hash : String
  listed : GatewayAgentsResult
  eligible : List String

namespace LifecycleState

variable (setup : LifecycleSetup) (thread : Nat) (choice : LifecycleChoice)

def answered {α : Type} (answer : α) (state : LifecycleState) :
    Option (Except LifecycleError α × LifecycleState) :=
  some (match choice.failure with
    | none => .ok answer
    | some message => .error (.plain message), state)

def requested (before after : LifecycleState) :
    Option (Except LifecycleError Unit × LifecycleState) :=
  answered choice () (if choice.failure.isNone || choice.applied then after else before)

/-- What the code does without waiting. -/
def completed {α : Type} (answer : α) (state : LifecycleState) :
    Option (Except LifecycleError α × LifecycleState) :=
  some (.ok answer, state)

def restoreRegistry (registry : AgentRegistry) (snapshot : List AgentRegistryEntry) :
    AgentRegistry.Outcome Unit :=
  if registry.entries = snapshot then (.ok (), registry)
  else registry.restore setup.node choice.disk snapshot

@[grind =]
def perform : (call : LifecycleCall) → LifecycleState →
    Option (Except LifecycleError call.Answer × LifecycleState)
  | .enqueue, state => completed () { state with queue := state.queue ++ [thread] }
  | .acquire, state => if state.queue.head? = some thread then completed () state else none
  | .leave _, state => completed () { state with queue := state.queue.tail, window := none }
  | .activeVersion packId, state =>
    match choice.disk (.readPack packId) with
    | some message => some (.error (.plain message), state)
    | none =>
      completed ((state.packs.activePack packId).map fun pack => pack.manifest.packVersion) state
  | .verifyActivePack packId, state =>
    match choice.disk (.verifyPack packId), state.packs.activePack packId with
    | some message, _ => some (.error (.plain message), state)
    | none, none => some (.error (.plain ("Pack " ++ packId ++ " 未激活")), state)
    | none, some pack => completed pack state
  | .eligiblePackIds _, state => answered choice choice.eligible state
  | .installedVersions, state =>
    match choice.disk .listInstalled with
    | some message => some (.error (.plain message), state)
    | none =>
      completed (state.packs.packs.filterMap fun installed => installed.active.map fun pack =>
        (installed.packId, pack.manifest.packVersion)) state
  | .onSyncError _, state => answered choice () state
  | .enabledEntries, state => completed state.registry.enabledEntries state
  | .snapshotRegistry, state => completed state.registry.entries state
  | .getConfig, state =>
    if choice.hash = "" then some (.error (.plain "config.get 响应缺少 baseHash"), state)
    else answered choice ⟨state.gatewayAgents, choice.hash⟩ state
  | .stage mutation, state =>
    let (outcome, registry) :=
      stageMutation setup choice.disk state.packs state.constraint state.registry mutation
    completed ((state.bridgePolicy, state.sourceBridgePolicy), outcome)
      { state with registry, window := some thread }
  | .replaceBridgePolicy _ policy, state =>
    requested choice state { state with corePolicy := policy }
  | .replaceAgents agents baseHash, state =>
    if baseHash = "" then some (.error (.plain "替换 agents.list 必须提供 baseHash"), state)
    else requested choice state { state with gatewayAgents := some (some agents) }
  | .listAgents, state => answered choice choice.listed state
  | .publish change _, state =>
    answered choice () { state with
      bridgePolicy := change.bridgePolicy
      sourceBridgePolicy := change.sourceBridgePolicy }
  | .restore source snapshot, state =>
    let (outcome, registry) := restoreRegistry setup choice state.registry snapshot
    some (outcome, { state with sourceBridgePolicy := source, registry })
  | .startRefresh constraint, state =>
    let constraint := constraint.getD state.constraint
    let next := constraint.constrainBridgePolicy state.sourceBridgePolicy
    if SamePolicy next state.bridgePolicy then completed none { state with constraint }
    else
      completed (some next)
        { state with constraint, refreshing := thread :: state.refreshing }
  | .assignPolicy policy, state =>
    completed () { state with
      bridgePolicy := policy
      refreshing := state.refreshing.erase thread }
  | .changeConstraint constraint, state => completed () { state with constraint }

end LifecycleState

abbrev LifecycleProgram (α : Type) :=
  Program LifecycleCall LifecycleCall.Answer LifecycleError α

structure PackLifecycleResult where
  packId : String
  enabled : Bool
  agentIds : List String

inductive EntitlementSyncResult where
  | fresh (revokedPackIds : List String)
  | stale (error : String)

structure LifecycleUndo where
  agents : List GatewayAgent
  bridgePolicy : BridgeExecutionPolicy
  sourceBridgePolicy : BridgeExecutionPolicy
  entries : List AgentRegistryEntry

namespace AgentLifecycleCoordinator

abbrev ask (call : LifecycleCall) : LifecycleProgram call.Answer := Program.perform call

def failureOf {α : Type} : Except LifecycleError α → Option PackLifecycleCode
  | .ok _ => none
  | .error problem => problem.code

/-- Wait for the operations before, and let the next one go on at the end. -/
def exclusive {α : Type} (operation : LifecycleProgram α) : LifecycleProgram α := do
  ask .enqueue
  ask .acquire
  let outcome ← operation.attempt
  ask (.leave (failureOf outcome))
  ofExcept outcome

def rollbackGatewayAgents (previousAgents : List GatewayAgent) : LifecycleProgram Unit := do
  let current ← ask .getConfig
  let currentAgents ← ofExcept (agentsFromConfig current)
  if currentAgents = previousAgents then return ()
  ask (.replaceAgents previousAgents current.hash)
  let confirmed ← ask .listAgents
  let previousIds ← ofExcept (agentIds previousAgents)
  if confirmed.defaultId ≠ "main" ∨ confirmed.agentIds ≠ previousIds then
    throw (.plain "回滚后的 agents.list 回读不一致")

def undoChange (undo : LifecycleUndo) (gatewayAttempted bridgeAttempted : Bool) :
    LifecycleProgram Unit := do
  if gatewayAttempted then rollbackGatewayAgents undo.agents
  if bridgeAttempted then ask (.replaceBridgePolicy false undo.bridgePolicy)
  ask (.restore undo.sourceBridgePolicy undo.entries)

/-- The handler of a change that threw; it throws on. -/
def rollback (undo : LifecycleUndo) (gatewayAttempted bridgeAttempted : Bool)
    (error : LifecycleError) : LifecycleProgram (List String) := do
  (undoChange undo gatewayAttempted bridgeAttempted).tryCatch fun problem =>
    throw (.ofCode .configRollbackFailed ("OpenClaw 配置回滚失败: " ++ problem.message))
  throw error

def writeGateway (change : StagedChange) (baseHash : String) (previousAgentIds : List String) :
    LifecycleProgram (List String) := do
  let expectedIds := change.agents.map OpenClawAgentEntry.id
  ask (.replaceAgents (change.agents.map .entry) baseHash)
  let confirmed ← ask .listAgents
  if confirmed.defaultId ≠ "main" ∨ confirmed.agentIds ≠ expectedIds then
    throw (.plain ("agents.list 回读不一致: expected=" ++ String.intercalate "," expectedIds ++
      " actual=" ++ String.intercalate "," confirmed.agentIds))
  ask (.publish change (previousAgentIds.filter fun id => id ≠ "main" ∧ id ∉ expectedIds))
  return expectedIds

def installChange (undo : LifecycleUndo) (baseHash : String) (previousAgentIds : List String) :
    Except LifecycleError StagedChange → LifecycleProgram (List String)
  | .error error => rollback undo false false error
  | .ok change => do
    match ← (ask (.replaceBridgePolicy false change.bridgePolicy)).attempt with
    | .error error => rollback undo false true error
    | .ok () =>
      match ← (writeGateway change baseHash previousAgentIds).attempt with
      | .error error => rollback undo true true error
      | .ok expectedIds => return expectedIds

def applyMutation (mutation : PackMutation) : LifecycleProgram (List String) := do
  let entries ← ask .snapshotRegistry
  let config ← ask .getConfig
  let agents ← ofExcept (agentsFromConfig config)
  let previousAgentIds ← ofExcept (agentIds agents)
  let ((bridgePolicy, sourceBridgePolicy), staged) ← ask (.stage mutation)
  installChange { agents, bridgePolicy, sourceBridgePolicy, entries } config.hash
    previousAgentIds staged

def wrapError (code : PackLifecycleCode) (message : String) (error : LifecycleError) :
    LifecycleError :=
  if error.code.isSome then error else .ofCode code message

variable (packId : String)

def enablePackBody : LifecycleProgram PackLifecycleResult := do
  match ← ask (.activeVersion packId) with
  | none => throw (.ofCode .packNotInstalled ("Pack " ++ packId ++ " 尚未安装"))
  | some _ =>
    let active ← (ask (.verifyActivePack packId)).tryCatch fun _ =>
      throw (.ofCode .packVerificationFailed ("Pack " ++ packId ++ " 无法安全启用"))
    let eligible : List String ← ask (.eligiblePackIds [(packId, active.manifest.packVersion)])
    if packId ∉ eligible then
      throw (.ofCode .packNotEntitled ("Pack " ++ packId ++ " 没有有效授权或版本已停用"))
    let agentIds ← (applyMutation (.enable packId active)).tryCatch fun error =>
      throw (wrapError .packEnableFailed ("Pack " ++ packId ++ " 启用失败") error)
    return { packId, enabled := true, agentIds }

def enablePack : LifecycleProgram PackLifecycleResult :=
  exclusive (enablePackBody packId)

def disablePackBody : LifecycleProgram PackLifecycleResult := do
  let agentIds ← (applyMutation (.disable packId)).tryCatch fun error =>
    throw (wrapError .packDisableFailed ("Pack " ++ packId ++ " 停用失败") error)
  return { packId, enabled := false, agentIds }

def disablePack : LifecycleProgram PackLifecycleResult :=
  exclusive (disablePackBody packId)

def syncEntitlementsBody : LifecycleProgram EntitlementSyncResult := do
  let installed ← ask .installedVersions
  let answer : Except LifecycleError (List String) ← (ask (.eligiblePackIds installed)).attempt
  match answer with
  | .error error =>
    ask (.onSyncError error.message)
    return .stale error.message
  | .ok eligible =>
    let enabled ← ask .enabledEntries
    let revokedPackIds := sortedByCodeUnits
      ((enabled.map AgentRegistryEntry.packId).filter fun packId => packId ∉ eligible).eraseDups
    if revokedPackIds = [] then return .fresh revokedPackIds
    let _ ← applyMutation (.revoke revokedPackIds)
    return .fresh revokedPackIds

def syncEntitlements : LifecycleProgram EntitlementSyncResult := exclusive syncEntitlementsBody

def refreshBridgePolicyConstraint (constraint : Option BridgeConstraint) :
    LifecycleProgram Unit := do
  match ← ask (.startRefresh constraint) with
  | none => return ()
  | some next =>
    ask (.replaceBridgePolicy true next)
    ask (.assignPolicy next)

end AgentLifecycleCoordinator

inductive PackOperation where
  | enablePack (packId : String)
  | disablePack (packId : String)
  | syncEntitlements

inductive LifecycleRequest where
  | operation (operation : PackOperation)
  | refresh (constraint : Option BridgeConstraint)
  | changeConstraint (constraint : BridgeConstraint)

def PackOperation.program : PackOperation → LifecycleProgram Unit
  | enablePack packId => (AgentLifecycleCoordinator.enablePack packId).bind fun _ => .pure ()
  | disablePack packId => (AgentLifecycleCoordinator.disablePack packId).bind fun _ => .pure ()
  | syncEntitlements => AgentLifecycleCoordinator.syncEntitlements.bind fun _ => .pure ()

def LifecycleRequest.program : LifecycleRequest → LifecycleProgram Unit
  | .operation requested => requested.program
  | .refresh constraint => AgentLifecycleCoordinator.refreshBridgePolicyConstraint constraint
  | .changeConstraint constraint => AgentLifecycleCoordinator.ask (.changeConstraint constraint)

/-- The coordinator, with any number of operations in progress. -/
def lifecycleMachine (setup : LifecycleSetup) :
    Machine LifecycleState LifecycleCall LifecycleCall.Answer LifecycleError LifecycleChoice
      LifecycleRequest Empty where
  perform thread call choice state := state.perform setup thread choice call
  program := LifecycleRequest.program
  environment event _ := event.elim

end LongHub
