import Mathlib.Data.List.Basic
import LongHub.CloudTaskStore
import LongHub.CrashSafety

/-!
# The disk of a client update

The files that it finds and the user data that it works on.
-/

namespace LongHub

/-! ## Files of the client update -/

namespace ClientUpdate

/-- The entries of user data that the client update or its storage maintenance
knows. -/
inductive StateEntry where
  | openclaw
  | packs
  | agentRegistry
  | skillRegistry
  | skillRegistryBackup
  | trustedKeys
  | device
  | clientUpdateState
  deriving DecidableEq

namespace StateEntry

def name : StateEntry → String
  | openclaw => "openclaw"
  | packs => "packs"
  | agentRegistry => "agent-registry.json"
  | skillRegistry => "skill-registry.json"
  | skillRegistryBackup => "skill-registry.json.bak"
  | trustedKeys => "trusted-keys.json"
  | device => "device.json"
  | clientUpdateState => "client-update-state.json"

end StateEntry

def snapshotEntries : List StateEntry :=
  [.openclaw, .packs, .agentRegistry, .trustedKeys, .device, .clientUpdateState]

/-- The entries that storage maintenance treats as parts of a rollback. -/
def rollbackEntry : List StateEntry :=
  [.openclaw, .packs, .agentRegistry, .skillRegistry, .skillRegistryBackup, .trustedKeys,
    .device, .clientUpdateState]

inductive FileNode where
  | file (content : List UInt8)
  | directory (entries : List (String × FileNode))
  | link (target : FileNode)
  | danglingLink
  | special

namespace FileNode

def isSymbolicLink : FileNode → Bool
  | link _ | danglingLink => true
  | file _ | directory _ | special => false

def resolves : FileNode → Bool
  | link target => target.resolves
  | danglingLink => false
  | file _ | directory _ | special => true

def readFileSync : FileNode → Except String (List UInt8)
  | file content => .ok content
  | link target => target.readFileSync
  | directory _ => .error "EISDIR"
  | danglingLink => .error "ENOENT"
  | special => .error "EINVAL"

end FileNode

def existsSync (node : Option FileNode) : Bool := node.any FileNode.resolves

/-- What has been copied so far. -/
structure CopyBudget where
  bytes : Nat
  files : Nat

def maxSnapshotBytes : Nat := 4 * 1024 * 1024 * 1024

def maxSnapshotFiles : Nat := 200000

mutual

def copySnapshotEntry (name : String) :
    FileNode → CopyBudget → Except String (FileNode × CopyBudget)
  | .link _, _ | .danglingLink, _ =>
    .error ("客户端状态快照拒绝符号链接: " ++ name)
  | .directory entries, budget =>
    match copyEntries entries budget with
    | .error error => .error error
    | .ok (copied, budget) => .ok (.directory copied, budget)
  | .special, _ => .error ("客户端状态快照遇到不支持的文件类型: " ++ name)
  | .file content, budget =>
    if budget.bytes + content.length > maxSnapshotBytes then
      .error "客户端状态快照超过 4 GiB 安全上限"
    else if budget.files + 1 > maxSnapshotFiles then
      .error "客户端状态快照文件数量超过安全上限"
    else .ok (.file content, ⟨budget.bytes + content.length, budget.files + 1⟩)

def copyEntries : List (String × FileNode) → CopyBudget →
    Except String (List (String × FileNode) × CopyBudget)
  | [], budget => .ok ([], budget)
  | (name, node) :: rest, budget =>
    match copySnapshotEntry name node budget with
    | .error error => .error error
    | .ok (copied, budget) =>
      match copyEntries rest budget with
      | .error error => .error error
      | .ok (others, budget) => .ok ((name, copied) :: others, budget)

end

end ClientUpdate

/-! ## The user data that a client update works on -/

namespace ClientUpdate

inductive UpdateChannel where
  | stable
  | beta
  deriving DecidableEq

inductive RolloutStatus where
  | active
  | paused
  deriving DecidableEq

structure ClientUpdateRollout where
  status : RolloutStatus
  basisPoints : Nat
  seed : String
  updatedAt : String
  deriving DecidableEq

inductive RollbackDataStrategy where
  | snapshotRequired
  | backwardCompatible
  deriving DecidableEq

/-- A signed release; product surface, platform and architecture are fixed by
its schema. -/
structure ClientUpdateManifest where
  sequence : Nat
  version : String
  channel : UpdateChannel
  filename : String
  size : Nat
  sha256 : String
  urlPath : String
  publishedAt : String
  rollbackDataStrategy : RollbackDataStrategy
  rollout : ClientUpdateRollout
  deriving DecidableEq

structure SignedClientUpdateMetadata where
  manifest : ClientUpdateManifest
  signatureKeyId : String
  signature : String
  deriving DecidableEq

/-- A directory under `snapshots`; it is built under the same name with `.tmp`. -/
structure SnapshotPath where
  sequence : Nat
  version : String
  id : String
  deriving DecidableEq

structure FailedStatePath where
  version : String
  sequence : Nat
  id : String
  deriving DecidableEq

inductive PendingPhase where
  | installingUpdate
  | rollbackLaunched
  deriving DecidableEq

structure PendingClientUpdate where
  previousVersion : String
  targetVersion : String
  targetMetadata : SignedClientUpdateMetadata
  targetInstallerPath : String
  rollbackMetadata : SignedClientUpdateMetadata
  rollbackInstallerPath : String
  snapshotPath : SnapshotPath
  attempts : Nat
  phase : PendingPhase
  reason : Option String
  failedStatePath : Option FailedStatePath
  createdAt : Instant
  rollbackLaunchedAt : Option Instant

structure SnapshotManifest where
  previousVersion : String
  targetVersion : String
  sequence : Nat
  createdAt : Instant
  entries : List StateEntry
  files : Nat
  bytes : Nat

structure LastRollback where
  previousVersion : String
  targetVersion : String
  sequence : Nat
  attempts : Nat
  reason : String
  rolledBackAt : Instant
  failedStatePath : Option FailedStatePath
  snapshotPath : SnapshotPath

inductive Place where
  | active (entry : StateEntry)
  | temporary (entry : StateEntry) (id : String)
  | failed (path : FailedStatePath) (entry : StateEntry)
  | saved (path : SnapshotPath) (entry : StateEntry)
  | draft (path : SnapshotPath) (entry : StateEntry)
  deriving DecidableEq

structure UserData where
  node : Place → Option FileNode
  pending : Option PendingClientUpdate
  manifest : SnapshotPath → Option SnapshotManifest
  draftManifest : SnapshotPath → Option SnapshotManifest
  lastRollback : Option LastRollback

namespace UserData

variable (data : UserData)

def put (place : Place) (node : Option FileNode) : UserData :=
  { data with node := Function.update data.node place node }

def putSnapshot (path : SnapshotPath) (content : StateEntry → Option FileNode)
    (manifest : Option SnapshotManifest) : UserData :=
  { data with
    node := fun place => match place with
      | .saved other entry => if other = path then content entry else data.node place
      | _ => data.node place
    manifest := Function.update data.manifest path manifest }

def putDraft (path : SnapshotPath) (content : StateEntry → Option FileNode)
    (manifest : Option SnapshotManifest) : UserData :=
  { data with
    node := fun place => match place with
      | .draft other entry => if other = path then content entry else data.node place
      | _ => data.node place
    draftManifest := Function.update data.draftManifest path manifest }

def freeSnapshot (path : SnapshotPath) : Bool :=
  (data.manifest path).isNone && (data.draftManifest path).isNone && rollbackEntry.all fun entry =>
      (data.node (.saved path entry)).isNone && (data.node (.draft path entry)).isNone

def freeFailedState (path : FailedStatePath) : Bool :=
  rollbackEntry.all fun entry => (data.node (.failed path entry)).isNone

end UserData

inductive UpdateCall where
  | now
  | newSnapshotPath (sequence : Nat) (version : String)
  | newFailedStatePath (version : String) (sequence : Nat)
  | newTemporary (entry : StateEntry)
  | pendingExists
  | readPending
  | writePending (pending : PendingClientUpdate)
  | removePending
  | validInstallerPath (path version : String)
  | retainInstaller (path version : String)
  | pruneInstallers (keepVersions : List String)
  | makeDraft (path : SnapshotPath)
  | writeManifest (path : SnapshotPath) (manifest : SnapshotManifest)
  | publishSnapshot (path : SnapshotPath)
  | removeDraft (path : SnapshotPath)
  | removeSnapshot (path : SnapshotPath)
  | pruneSnapshots (keep : Nat)
  | readManifest (path : SnapshotPath)
  | ensureFailedStateDirectory (path : FailedStatePath)
  | writeLastRollback (record : LastRollback)
  | writeLastSuccessfulUpdate
  | readLastRollback
  | existsSync (place : Place)
  | isSymbolicLink (place : Place)
  | rename (source target : Place)
  | remove (place : Place)
  | copy (name : String) (source target : Place) (budget : CopyBudget)
  | readFile (place : Place)
  | write (entry : StateEntry) (node : Option FileNode)
  | fetchLatest (channel : UpdateChannel)

def UpdateCall.Answer : UpdateCall → Type
  | now => Instant
  | newSnapshotPath _ _ => SnapshotPath
  | newFailedStatePath _ _ => FailedStatePath
  | newTemporary _ => String
  | readPending => Option PendingClientUpdate
  | pendingExists | validInstallerPath _ _ | existsSync _ | isSymbolicLink _ => Bool
  | readManifest _ => SnapshotManifest
  | readLastRollback => Option LastRollback
  | copy _ _ _ _ => CopyBudget
  | readFile _ => List UInt8
  | fetchLatest _ => Option SignedClientUpdateMetadata
  | _ => Unit

/-- What programs do not determine. -/
structure DiskChoice where
  error : Option String := none
  left : Place → Option FileNode := fun _ => none
  keptManifest : Bool := false
  id : String := ""
  time : Instant := 0
  verdict : Bool := true
  kept : SnapshotPath → Bool := fun _ => true
  release : Option SignedClientUpdateMetadata := none

namespace UserData

def failed (data : UserData) (choice : DiskChoice) : UpdateCall → UserData
  | .remove place => data.put place (choice.left place)
  | .copy _ _ target _ => data.put target (choice.left target)
  | .removeDraft path =>
    data.putDraft path (fun entry => choice.left (.draft path entry))
      (if choice.keptManifest then data.draftManifest path else none)
  | .removeSnapshot path =>
    data.putSnapshot path (fun entry => choice.left (.saved path entry))
      (if choice.keptManifest then data.manifest path else none)
  | .pruneSnapshots _ =>
    { data with
      node := fun place => match place with
        | .saved path _ => if choice.kept path then data.node place else choice.left place
        | _ => data.node place
      manifest := fun path => if choice.kept path then data.manifest path else none }
  | _ => data

@[grind =]
def performed (data : UserData) (choice : DiskChoice) :
    (request : UpdateCall) → Option (Except String request.Answer × UserData)
  | .now => some (.ok choice.time, data)
  | .newSnapshotPath sequence version =>
    let path : SnapshotPath := ⟨sequence, version, choice.id⟩
    if data.freeSnapshot path then some (.ok path, data) else none
  | .newFailedStatePath version sequence =>
    let path : FailedStatePath := ⟨version, sequence, choice.id⟩
    if data.freeFailedState path then some (.ok path, data) else none
  | .newTemporary entry =>
    if (data.node (.temporary entry choice.id)).isNone then some (.ok choice.id, data) else none
  | .pendingExists => some (.ok data.pending.isSome, data)
  | .readPending => some (.ok data.pending, data)
  | .writePending pending => some (.ok (), { data with pending := some pending })
  | .removePending => some (.ok (), { data with pending := none })
  | .validInstallerPath _ _ => some (.ok choice.verdict, data)
  | .retainInstaller _ _ | .pruneInstallers _ | .makeDraft _ | .ensureFailedStateDirectory _
  | .writeLastSuccessfulUpdate => some (.ok (), data)
  | .writeManifest path manifest =>
    some (.ok (), { data with
      draftManifest := Function.update data.draftManifest path (some manifest) })
  | .publishSnapshot path =>
    some (.ok (), (data.putSnapshot path (fun entry => data.node (.draft path entry))
      (data.draftManifest path)).putDraft path (fun _ => none) none)
  | .removeDraft path => some (.ok (), data.putDraft path (fun _ => none) none)
  | .removeSnapshot path => some (.ok (), data.putSnapshot path (fun _ => none) none)
  | .pruneSnapshots _ =>
    some (.ok (), { data with
      node := fun place => match place with
        | .saved path _ => if choice.kept path then data.node place else none
        | _ => data.node place
      manifest := fun path => if choice.kept path then data.manifest path else none })
  | .readManifest path =>
    match data.manifest path with
    | none => some (.error "ENOENT", data)
    | some manifest => some (.ok manifest, data)
  | .writeLastRollback record => some (.ok (), { data with lastRollback := some record })
  | .readLastRollback => some (.ok data.lastRollback, data)
  | .existsSync place => some (.ok (ClientUpdate.existsSync (data.node place)), data)
  | .isSymbolicLink place =>
    match data.node place with
    | none => some (.error "ENOENT", data)
    | some node => some (.ok node.isSymbolicLink, data)
  | .rename source target =>
    match data.node source with
    | none => some (.error "ENOENT", data)
    | some node => some (.ok (), (data.put source none).put target (some node))
  | .remove place => some (.ok (), data.put place none)
  | .copy name source target budget =>
    match data.node source with
    | none => some (.error "ENOENT", data)
    | some node =>
      match copySnapshotEntry name node budget with
      | .error error => some (.error error, data.put target (choice.left target))
      | .ok (copied, budget) => some (.ok budget, data.put target (some copied))
  | .readFile place =>
    match data.node place with
    | none => some (.error "ENOENT", data)
    | some node => some (node.readFileSync, data)
  | .write entry node => some (.ok (), data.put (.active entry) node)
  | .fetchLatest _ => some (.ok choice.release, data)

end UserData

/-- The file system and what is around it. -/
def disk : Device UserData UpdateCall UpdateCall.Answer String DiskChoice where
  perform request choice data :=
    match choice.error with
    | some error =>
      -- `existsSync` reports no errors
      match request with
      | .existsSync _ | .pendingExists => none
      | request => some (.error error, data.failed choice request)
    | none => data.performed choice request

abbrev UpdateProgram (α : Type) := Program UpdateCall UpdateCall.Answer String α

namespace Disk

def ask (request : UpdateCall) : UpdateProgram request.Answer := .perform request

def now : UpdateProgram Instant := ask .now

def newSnapshotPath (sequence : Nat) (version : String) : UpdateProgram SnapshotPath :=
  ask (.newSnapshotPath sequence version)

def newFailedStatePath (version : String) (sequence : Nat) : UpdateProgram FailedStatePath :=
  ask (.newFailedStatePath version sequence)

def newTemporary (entry : StateEntry) : UpdateProgram String := ask (.newTemporary entry)

def pendingExists : UpdateProgram Bool := ask .pendingExists

def readPending : UpdateProgram (Option PendingClientUpdate) := ask .readPending

def writePending (pending : PendingClientUpdate) : UpdateProgram Unit :=
  ask (.writePending pending)

def removePending : UpdateProgram Unit := ask .removePending

def validInstallerPath (path version : String) : UpdateProgram Bool :=
  ask (.validInstallerPath path version)

def retainInstaller (path version : String) : UpdateProgram Unit :=
  ask (.retainInstaller path version)

def pruneInstallers (keepVersions : List String) : UpdateProgram Unit :=
  ask (.pruneInstallers keepVersions)

variable (path : SnapshotPath)

def makeDraft : UpdateProgram Unit := ask (.makeDraft path)

def writeManifest (manifest : SnapshotManifest) : UpdateProgram Unit :=
  ask (.writeManifest path manifest)

def publishSnapshot : UpdateProgram Unit :=
  ask (.publishSnapshot path)

def removeDraft : UpdateProgram Unit := ask (.removeDraft path)

def removeSnapshot : UpdateProgram Unit :=
  ask (.removeSnapshot path)

def pruneSnapshots (keep : Nat) : UpdateProgram Unit := ask (.pruneSnapshots keep)

def readManifest : UpdateProgram SnapshotManifest :=
  ask (.readManifest path)

def ensureFailedStateDirectory (path : FailedStatePath) : UpdateProgram Unit :=
  ask (.ensureFailedStateDirectory path)

def writeLastRollback (record : LastRollback) : UpdateProgram Unit :=
  ask (.writeLastRollback record)

def writeLastSuccessfulUpdate : UpdateProgram Unit := ask .writeLastSuccessfulUpdate

def existsSync (place : Place) : UpdateProgram Bool := ask (.existsSync place)

def isSymbolicLink (place : Place) : UpdateProgram Bool := ask (.isSymbolicLink place)

def rename (source target : Place) : UpdateProgram Unit := ask (.rename source target)

def remove (place : Place) : UpdateProgram Unit := ask (.remove place)

def copy (name : String) (source target : Place) (budget : CopyBudget) :
    UpdateProgram CopyBudget := ask (.copy name source target budget)

end Disk

end ClientUpdate

end LongHub
