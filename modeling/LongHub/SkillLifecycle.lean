import LongHub.AsyncProgram
import LongHub.SkillRegistry

/-!
# The lifecycle of Skills

`SkillLifecycleCoordinator` changes the registry of Skills, the policy of Core and the view of the
Gateway in one transaction, and undoes the changes in the opposite order when a step throws.
-/

namespace LongHub

structure CoreSkillGrant where
  agentId : String
  profileId : String
  skillId : String
  version : String
  digest : String
  runtime : SkillRuntimePlan
  permissions : List String
  maxCostMicros : Nat
  deriving DecidableEq

structure GatewaySkillView where
  agentId : String
  skillId : String
  name : String
  version : String
  runtimeKind : String
  deriving DecidableEq

/-- What does not change while the app runs. -/
structure SkillSetup where
  node : NodePlatform
  cloudServiceIds : List String

structure DesiredSkills where
  core : List CoreSkillGrant
  gateway : List GatewaySkillView

namespace SkillLifecycleCoordinator

def desiredOf (setup : SkillSetup) (registry : SkillRegistry) (binding : AgentSkillBinding) :
    Except SkillError (Option (CoreSkillGrant × GatewaySkillView)) :=
  match registry.findSkill binding.skillId, registry.activeManifest binding.skillId with
  | some entry, some manifest =>
    if entry.revoked || !binding.enabled then .ok none
    else
      (runtimePlan setup.cloudServiceIds manifest).map fun runtime => some
        ({ agentId := binding.agentId
           profileId := binding.profileId
           skillId := binding.skillId
           version := manifest.version
           digest := manifest.digest
           runtime
           permissions := manifest.requestedPermissions
           maxCostMicros := manifest.maxCostMicros },
          { agentId := binding.agentId
            skillId := binding.skillId
            name := manifest.displayName
            version := manifest.version
            runtimeKind := runtime.kind })
  | _, _ => .ok none

def desiredState (setup : SkillSetup) (registry : SkillRegistry) :
    Except SkillError DesiredSkills := do
  let contributions ← registry.bindings.mapM (desiredOf setup registry)
  let present := contributions.filterMap id
  return {
    core := (present.map Prod.fst).insertionSort fun left right =>
      Collation.localeLe (skillKey left.agentId left.skillId) (skillKey right.agentId right.skillId)
    gateway := (present.map Prod.snd).insertionSort fun left right =>
      Collation.localeLe (skillKey left.agentId left.skillId)
        (skillKey right.agentId right.skillId) }

end SkillLifecycleCoordinator

/-- The changes of the registry that a transaction may make. -/
inductive SkillMutation where
  | install (manifest : SkillPackage) (profileId agentId : String) (enabled : Bool)
  | upgrade (manifest : SkillPackage)
  | setBindingEnabled (skillId agentId : String) (enabled : Bool)
  | rollback (skillId : String)
  | remove (skillId : String)
  | markRevoked (skillId : String)

/-- What the code does not determine: what a function of the options throws, and whether
a replacement took effect nevertheless; whether an entitlement is valid; and for each of
the two commits of a mutation its time and the error of its file operations. -/
structure SkillChoice where
  failure : Option SkillError
  applied : Bool
  entitled : Bool
  now : String
  disk : Option SkillError
  laterNow : String
  laterDisk : Option SkillError

@[grind =]
def mutateSkills (node : NodePlatform) (choice : SkillChoice) (registry : SkillRegistry) :
    SkillMutation → SkillRegistry.Outcome
  | .install manifest profileId agentId enabled =>
    match registry.install choice.disk choice.now manifest with
    | (.error error, after) => (.error error, after)
    | (.ok (), after) =>
      after.bind node choice.laterDisk choice.laterNow manifest.id profileId agentId enabled
  | .upgrade manifest => registry.install choice.disk choice.now manifest
  | .setBindingEnabled skillId agentId enabled =>
    registry.setBindingEnabled choice.disk choice.now skillId agentId enabled
  | .rollback skillId => registry.rollback choice.disk choice.now skillId
  | .remove skillId => registry.remove choice.disk skillId
  | .markRevoked skillId => registry.markRevoked choice.disk choice.now skillId

theorem leaves_mutateSkills {node : NodePlatform} {choice : SkillChoice} {registry : SkillRegistry}
    (mutation : SkillMutation) : registry.Leaves (mutateSkills node choice registry mutation) := by
  cases mutation with
  | install manifest profileId agentId enabled =>
    have installed := @registry.leaves_install choice.disk choice.now manifest
    simp only [mutateSkills]
    split
    · rename_i failed
      rw [failed] at installed
      exact installed
    · rename_i done
      rw [done] at installed
      rcases SkillRegistry.leaves_bind node choice.laterNow manifest.id profileId agentId enabled
        with same | sorted
      · rcases installed with unchanged | inOrder
        · exact .inl (same.trans unchanged)
        · refine .inr ?_
          rw [same]
          exact inOrder
      · exact .inr sorted
  | upgrade manifest => exact registry.leaves_install _ manifest
  | setBindingEnabled skillId agentId enabled =>
    exact registry.leaves_setBindingEnabled _ skillId agentId enabled
  | rollback skillId => exact registry.leaves_rollback _ skillId
  | remove skillId => exact registry.leaves_remove skillId
  | markRevoked skillId => exact registry.leaves_markRevoked _ skillId

inductive SkillStep where
  | verifyPackage (manifest : SkillPackage)
  | verifyEntitlement (skillId version : String)
  | activeManifest (skillId : String)
  | findSkill (skillId : String)
  | snapshot
  | readCorePolicy
  | readGatewaySkills
  /-- The mutation and the state that it desires. -/
  | mutate (mutation : SkillMutation)
  | replaceCorePolicy (compensating : Bool) (policy : List CoreSkillGrant)
  | replaceGatewaySkills (compensating : Bool) (skills : List GatewaySkillView)
  | restoreRegistry (snapshot : SkillRegistrySnapshot)

@[reducible]
def SkillStep.Answer : SkillStep → Type
  | verifyEntitlement _ _ => Bool
  | activeManifest _ => Option SkillPackage
  | findSkill _ => Option SkillRegistryEntry
  | snapshot => SkillRegistrySnapshot
  | readCorePolicy => List CoreSkillGrant
  | readGatewaySkills => List GatewaySkillView
  | mutate _ => DesiredSkills
  | _ => Unit

structure SkillStores where
  registry : SkillRegistry
  core : List CoreSkillGrant
  gateway : List GatewaySkillView

namespace SkillStores

variable (choice : SkillChoice) (stores : SkillStores)

def answered {α : Type} (answer : α) : Except SkillError α × SkillStores :=
  (match choice.failure with
    | none => .ok answer
    | some error => .error error, stores)

/-- A replacement, which may have taken effect also when it throws. -/
def replaced (after : SkillStores) : Except SkillError Unit × SkillStores :=
  answered choice (if choice.failure.isNone || choice.applied then after else stores) ()

def restoreRegistry (snapshot : SkillRegistrySnapshot) : Except SkillError Unit × SkillStores :=
  if stores.registry.skills = snapshot.skills ∧ stores.registry.bindings = snapshot.bindings then
    (.ok (), stores)
  else
    let (outcome, registry) := stores.registry.restore choice.disk snapshot
    (outcome, { stores with registry })

def perform (setup : SkillSetup) : (step : SkillStep) → Except SkillError step.Answer × SkillStores
  | .verifyPackage _ => answered choice stores ()
  | .verifyEntitlement _ _ => answered choice stores choice.entitled
  | .activeManifest skillId => (.ok (stores.registry.activeManifest skillId), stores)
  | .findSkill skillId => (.ok (stores.registry.findSkill skillId), stores)
  | .snapshot => (.ok stores.registry, stores)
  | .readCorePolicy => answered choice stores stores.core
  | .readGatewaySkills => answered choice stores stores.gateway
  | .mutate mutation =>
    let (outcome, registry) := mutateSkills setup.node choice stores.registry mutation
    (outcome.bind fun _ => SkillLifecycleCoordinator.desiredState setup registry,
      { stores with registry })
  | .replaceCorePolicy _ core => replaced choice stores { stores with core }
  | .replaceGatewaySkills _ gateway => replaced choice stores { stores with gateway }
  | .restoreRegistry snapshot => restoreRegistry choice stores snapshot

end SkillStores

inductive SkillCall where
  | enqueue
  | acquire
  | leave (outcome : Except SkillError Unit)
  | inside (step : SkillStep)

@[reducible]
def SkillCall.Answer : SkillCall → Type
  | inside step => step.Answer
  | _ => Unit

abbrev SkillProgram (α : Type) := Program SkillCall SkillCall.Answer SkillError α

namespace SkillLifecycleCoordinator

def call (request : SkillCall) : SkillProgram request.Answer := .perform request

def ask (step : SkillStep) : SkillProgram step.Answer := call (.inside step)

def verifyInstallInput (manifest : SkillPackage) : SkillProgram Unit := do
  ask (.verifyPackage manifest)
  let entitled ← ask (.verifyEntitlement manifest.id manifest.version)
  if !entitled then .throw .notEntitled

def isLifecycleError : SkillError → Bool
  | .notEntitled | .transactionFailed _ | .rollbackFailed _ _ => true
  | _ => false

def undo (snapshot : SkillRegistrySnapshot) (previousCore : List CoreSkillGrant)
    (previousGateway : List GatewaySkillView) (coreAttempted gatewayAttempted : Bool) :
    SkillProgram Unit := do
  if gatewayAttempted then ask (.replaceGatewaySkills true previousGateway)
  if coreAttempted then ask (.replaceCorePolicy true previousCore)
  ask (.restoreRegistry snapshot)

/-- The catch branch of a transaction. -/
def compensate (snapshot : SkillRegistrySnapshot) (previousCore : List CoreSkillGrant)
    (previousGateway : List GatewaySkillView) (coreAttempted gatewayAttempted : Bool)
    (error : SkillError) : SkillProgram Unit := do
  (undo snapshot previousCore previousGateway coreAttempted gatewayAttempted).tryCatch
    fun rollbackError => .throw (.rollbackFailed error rollbackError)
  .throw (if isLifecycleError error then error else .transactionFailed error)

def transact (mutation : SkillMutation) : SkillProgram Unit := do
  let snapshot ← ask .snapshot
  let previousCore ← ask .readCorePolicy
  let previousGateway ← ask .readGatewaySkills
  match ← (ask (.mutate mutation)).attempt with
  | .error error => compensate snapshot previousCore previousGateway false false error
  | .ok desired =>
    let coreAttempted : Bool := previousCore ≠ desired.core
    let replaceCore : SkillProgram Unit :=
      if coreAttempted then ask (.replaceCorePolicy false desired.core) else pure ()
    match ← replaceCore.attempt with
    | .error error => compensate snapshot previousCore previousGateway coreAttempted false error
    | .ok () =>
      let gatewayAttempted : Bool := previousGateway ≠ desired.gateway
      let replaceGateway : SkillProgram Unit :=
        if gatewayAttempted then ask (.replaceGatewaySkills false desired.gateway) else pure ()
      match ← replaceGateway.attempt with
      | .error error =>
        compensate snapshot previousCore previousGateway coreAttempted gatewayAttempted error
      | .ok () => pure ()

/-- An operation that waits for those before it and lets the next one begin. -/
def exclusive (operation : SkillProgram Unit) : SkillProgram Unit := do
  call .enqueue
  call .acquire
  let outcome ← operation.attempt
  call (.leave outcome)
  .ofExcept outcome

end SkillLifecycleCoordinator

/-- A request to the coordinator; an input that the strict validation refuses is `none`. -/
inductive SkillRequest where
  | install (package : Option SkillPackage) (profileId agentId : String) (enabled : Option Bool)
  | setEnabled (skillId agentId : String) (enabled : Bool)
  | upgrade (package : Option SkillPackage)
  | rollback (skillId : String)
  | uninstall (skillId : String)
  | revoke (skillId : String)

namespace SkillLifecycleCoordinator

@[grind =]
def operation (setup : SkillSetup) : SkillRequest → SkillProgram Unit
  | .install package profileId agentId enabled => do
    let (manifest, _) ← .ofExcept (resolveSkillRuntimePlan setup.cloudServiceIds package)
    verifyInstallInput manifest
    transact (.install manifest profileId agentId (enabled.getD manifest.defaultEnabled))
  | .setEnabled skillId agentId enabled => do
    if enabled then
      match ← ask (.activeManifest skillId) with
      | none => .throw (.plain "Skill 未安装")
      | some manifest => verifyInstallInput manifest
    transact (.setBindingEnabled skillId agentId enabled)
  | .upgrade package => do
    let (manifest, _) ← .ofExcept (resolveSkillRuntimePlan setup.cloudServiceIds package)
    verifyInstallInput manifest
    transact (.upgrade manifest)
  | .rollback skillId => do
    let entry ← ask (.findSkill skillId)
    match entry.bind fun entry => entry.previousVersion.bind entry.manifestOf with
    | none => .throw (.plain "Skill 没有可回滚版本")
    | some target =>
      verifyInstallInput target
      transact (.rollback skillId)
  | .uninstall skillId => transact (.remove skillId)
  | .revoke skillId => transact (.markRevoked skillId)

end SkillLifecycleCoordinator

structure FinishedRequest where
  before : SkillStores
  outcome : Except SkillError Unit
  after : SkillStores

structure SkillSystem extends SkillStores where
  queue : List Nat
  began : Option SkillStores
  finished : List FinishedRequest

namespace SkillSystem

/-- The system before any request. -/
def ofStores (stores : SkillStores) : SkillSystem := { stores with
  queue := []
  began := none
  finished := [] }

def perform (setup : SkillSetup) (thread : Nat) (choice : SkillChoice) (system : SkillSystem) :
    (call : SkillCall) → Option (Except SkillError call.Answer × SkillSystem)
  | .enqueue => some (.ok (), { system with queue := system.queue ++ [thread] })
  | .acquire =>
    if system.queue.head? = some thread then
      some (.ok (), { system with began := some system.toSkillStores })
    else none
  | .leave outcome =>
    some (.ok (), { system with
      queue := system.queue.tail
      began := none
      finished := system.finished ++
        (system.began.map fun before => ⟨before, outcome, system.toSkillStores⟩).toList })
  | .inside step =>
    let (answer, stores) := system.toSkillStores.perform choice setup step
    some (answer, { system with toSkillStores := stores })

end SkillSystem

def skillMachine (setup : SkillSetup) :
    Machine SkillSystem SkillCall SkillCall.Answer SkillError SkillChoice SkillRequest Empty where
  perform thread call choice system := system.perform setup thread choice call
  program request := SkillLifecycleCoordinator.exclusive
    (SkillLifecycleCoordinator.operation setup request)
  environment event := nomatch event

end LongHub
