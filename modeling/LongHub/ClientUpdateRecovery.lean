import LongHub.ClientUpdateDisk
import LongHub.CanonicalStringify
import LongHub.Utf8Decoder

/-!
# Client updates

The recovery of a failed update, and the versions and rollouts of releases.
-/

namespace LongHub

/-! ## Recovery of a failed client update -/

namespace ClientUpdate

def copyActiveEntries (path : SnapshotPath) :
    List StateEntry → List StateEntry → CopyBudget → UpdateProgram (List StateEntry × CopyBudget)
  | [], entries, budget => pure (entries, budget)
  | entry :: rest, entries, budget => do
    let found ← Disk.existsSync (.active entry)
    if found then
      let budget ← Disk.copy entry.name (.active entry) (.draft path entry) budget
      copyActiveEntries path rest (entries ++ [entry]) budget
    else copyActiveEntries path rest entries budget

variable (currentVersion : String)

def fillSnapshot (target : ClientUpdateManifest)
    (path : SnapshotPath) : UpdateProgram Unit := do
  let (entries, budget) ← copyActiveEntries path snapshotEntries [] ⟨0, 0⟩
  let createdAt ← Disk.now
  Disk.writeManifest path
    { previousVersion := currentVersion
      targetVersion := target.version
      sequence := target.sequence
      createdAt, entries
      files := budget.files
      bytes := budget.bytes }
  Disk.publishSnapshot path

def createPending (target : SignedClientUpdateMetadata)
    (targetInstallerPath : String) (rollback : SignedClientUpdateMetadata)
    (rollbackInstallerPath : String) : UpdateProgram PendingClientUpdate := do
  let found ← Disk.pendingExists
  if found then .throw "已有客户端更新等待健康确认"
  else if target.manifest.version = currentVersion ∨ rollback.manifest.version ≠ currentVersion ∨
      target.manifest.channel ≠ rollback.manifest.channel then
    .throw "客户端更新新旧版本元数据不匹配"
  else
    let validTarget ← Disk.validInstallerPath targetInstallerPath target.manifest.version
    if !validTarget then .throw "客户端更新目标安装器路径无效"
    else
      let validRollback ← Disk.validInstallerPath rollbackInstallerPath currentVersion
      if !validRollback then .throw "客户端更新回滚安装器不在可信库存"
      else
        let path ← Disk.newSnapshotPath target.manifest.sequence target.manifest.version
        Disk.makeDraft path
        (fillSnapshot currentVersion target.manifest path).tryCatch fun error => do
          Disk.removeDraft path
          .throw error
        let createdAt ← Disk.now
        let pending : PendingClientUpdate :=
          { previousVersion := currentVersion
            targetVersion := target.manifest.version
            targetMetadata := target
            targetInstallerPath
            rollbackMetadata := rollback
            rollbackInstallerPath
            snapshotPath := path
            attempts := 0
            phase := .installingUpdate
            reason := none
            failedStatePath := none
            createdAt
            rollbackLaunchedAt := none }
        (Disk.writePending pending).tryCatch fun error => do
          Disk.removeSnapshot path
          .throw error
        pure pending

structure ClientUpdateStartupState where
  pending : Bool
  attempts : Nat
  targetVersion : Option String := none
  phase : Option PendingPhase := none
  shouldRollback : Bool := false
  rollbackCompleted : Bool := false

def startupState (maxAttempts : Nat)
    (pending : PendingClientUpdate) : ClientUpdateStartupState where
  pending := true
  attempts := pending.attempts
  targetVersion := some pending.targetVersion
  phase := some pending.phase
  shouldRollback := pending.targetVersion = currentVersion ∧
    (pending.phase = .rollbackLaunched ∨ maxAttempts ≤ pending.attempts)

def beginStartup (maxAttempts : Nat) :
    UpdateProgram ClientUpdateStartupState := do
  match ← Disk.readPending with
  | none => pure { pending := false, attempts := 0 }
  | some pending =>
    if pending.phase = .rollbackLaunched ∧ pending.previousVersion = currentVersion then
      let rolledBackAt ← Disk.now
      Disk.writeLastRollback
        { previousVersion := pending.previousVersion
          targetVersion := pending.targetVersion
          sequence := pending.targetMetadata.manifest.sequence
          attempts := pending.attempts
          reason := pending.reason.getD "startup_failure"
          rolledBackAt
          failedStatePath := pending.failedStatePath
          snapshotPath := pending.snapshotPath }
      Disk.removePending
      Disk.pruneSnapshots 2
      Disk.pruneInstallers [pending.previousVersion]
      pure { pending := false, attempts := pending.attempts, rollbackCompleted := true }
    else if pending.targetVersion = currentVersion then
      let counted := { pending with attempts := pending.attempts + 1 }
      Disk.writePending counted
      pure (startupState currentVersion maxAttempts counted)
    else pure (startupState currentVersion maxAttempts pending)

def removeStateEntry (place : Place) (basename : String) : UpdateProgram Unit := do
  let found ← Disk.existsSync place
  if found then
    let isLink ← Disk.isSymbolicLink place
    if isLink then .throw ("客户端状态恢复拒绝符号链接: " ++ basename)
    else Disk.remove place
  else pure ()

def setAside (failedStatePath : FailedStatePath) (entry : StateEntry) : UpdateProgram Unit := do
  let found ← Disk.existsSync (.active entry)
  if found then
    let kept ← Disk.existsSync (.failed failedStatePath entry)
    if kept then removeStateEntry (.active entry) entry.name
    else
      let isLink ← Disk.isSymbolicLink (.active entry)
      if isLink then .throw ("客户端状态恢复拒绝符号链接: " ++ entry.name)
      else Disk.rename (.active entry) (.failed failedStatePath entry)
  else pure ()

def temporaryName (entry : StateEntry) (id : String) : String :=
  "." ++ entry.name ++ ".rollback-" ++ id ++ ".tmp"

def putBack (snapshotPath : SnapshotPath) (entry : StateEntry) : UpdateProgram Unit := do
  let found ← Disk.existsSync (.saved snapshotPath entry)
  if !found then .throw ("客户端更新快照缺少声明项: " ++ entry.name)
  else
    let id ← Disk.newTemporary entry
    let replace : UpdateProgram Unit := do
      let _ ← Disk.copy entry.name (.saved snapshotPath entry) (.temporary entry id) ⟨0, 0⟩
      Disk.rename (.temporary entry id) (.active entry)
    replace.tryCatch fun error => do
      let left ← Disk.existsSync (.temporary entry id)
      if left then
        removeStateEntry (.temporary entry id) (temporaryName entry id)
        .throw error
      else .throw error

def restoreEntry (failedStatePath : FailedStatePath) (snapshotPath : SnapshotPath)
    (entries : List StateEntry) (entry : StateEntry) : UpdateProgram Unit := do
  setAside failedStatePath entry
  if entry ∈ entries then putBack snapshotPath entry else pure ()

def readSnapshot (pending : PendingClientUpdate) : UpdateProgram (List StateEntry) := do
  let manifest ← Disk.readManifest pending.snapshotPath
  if manifest.previousVersion ≠ pending.previousVersion ∨
      manifest.targetVersion ≠ pending.targetVersion ∨
      manifest.sequence ≠ pending.targetMetadata.manifest.sequence ∨
      ¬ manifest.entries.Nodup ∨ ¬ ∀ entry ∈ manifest.entries, entry ∈ snapshotEntries then
    .throw "客户端更新快照清单无效"
  else pure manifest.entries

def chooseFailedState (reason : String) (pending : PendingClientUpdate) :
    UpdateProgram (PendingClientUpdate × FailedStatePath) := do
  match pending.failedStatePath with
  | some path => pure (pending, path)
  | none =>
    let path ← Disk.newFailedStatePath pending.targetVersion
      pending.targetMetadata.manifest.sequence
    let chosen := { pending with failedStatePath := some path, reason := some reason }
    Disk.writePending chosen
    pure (chosen, path)

def prepareRollback (reason : String) : UpdateProgram PendingClientUpdate := do
  match ← Disk.readPending with
  | none => .throw "没有等待回滚的客户端更新"
  | some pending =>
    let (pending, failedStatePath) ← chooseFailedState reason pending
    Disk.ensureFailedStateDirectory failedStatePath
    let entries ← readSnapshot pending
    snapshotEntries.forM (restoreEntry failedStatePath pending.snapshotPath entries)
    let rollbackLaunchedAt ← Disk.now
    let launched := { pending with
      phase := .rollbackLaunched
      reason := some reason
      rollbackLaunchedAt := some rollbackLaunchedAt }
    Disk.writePending launched
    pure launched

def markHealthy : UpdateProgram Unit := do
  match ← Disk.readPending with
  | none => pure ()
  | some pending =>
    if pending.phase ≠ .installingUpdate ∨ pending.targetVersion ≠ currentVersion then pure ()
    else
      Disk.retainInstaller pending.targetInstallerPath pending.targetMetadata.manifest.version
      Disk.writeLastSuccessfulUpdate
      Disk.removePending
      Disk.pruneSnapshots 2
      Disk.pruneInstallers [pending.previousVersion, pending.targetVersion]

def cancelPending : UpdateProgram Unit := do
  let found ← Disk.readPending
  Disk.removePending
  match found with
  | none => pure ()
  | some pending => Disk.removeSnapshot pending.snapshotPath

end ClientUpdate

/-! ## Versions, rollouts and the text of a manifest -/

namespace ClientUpdate

def UpdateChannel.text : UpdateChannel → String
  | .stable => "stable"
  | .beta => "beta"

def channelOf (text : String) : Option UpdateChannel :=
  if text = "stable" then some .stable
  else if text = "beta" then some .beta
  else none

def rolloutJson (rollout : ClientUpdateRollout) : JsonValue :=
  .record [("status", .text (match rollout.status with
      | .active => "active"
      | .paused => "paused")),
    ("basis_points", .number (toString (rollout.basisPoints : Int))),
    ("seed", .text rollout.seed),
    ("updated_at", .text rollout.updatedAt)]

def manifestJson (manifest : ClientUpdateManifest) : JsonValue :=
  .record [("schema_version", .text "longhub/client-update/v2"),
    ("product_surface", .text "longhub-manager"),
    ("sequence", .number (toString (manifest.sequence : Int))),
    ("version", .text manifest.version),
    ("channel", .text manifest.channel.text),
    ("platform", .text "win32"),
    ("arch", .text "x64"),
    ("filename", .text manifest.filename),
    ("size", .number (toString (manifest.size : Int))),
    ("sha256", .text manifest.sha256),
    ("url_path", .text manifest.urlPath),
    ("published_at", .text manifest.publishedAt),
    ("rollback_data_strategy", .text (match manifest.rollbackDataStrategy with
      | .snapshotRequired => "snapshot_required"
      | .backwardCompatible => "backward_compatible")),
    ("rollout", rolloutJson manifest.rollout)]

/-- Three numbers of at most nine digits without leading zeros. -/
def versionPart (text : List Char) : Option Nat :=
  if text.all Char.isDigit ∧ text ≠ [] ∧ text.length ≤ 9 ∧
      (text.head? = some '0' → text = ['0']) then
    some (Nat.ofDigitChars 10 text 0)
  else none

def clientVersion (version : String) : Option (List Nat) :=
  match version.toList.splitOn '.' with
  | [major, minor, patch] => [major, minor, patch].mapM versionPart
  | _ => none

/-- Three groups of digits. -/
def isVersionText (version : String) : Bool :=
  match version.toList.splitOn '.' with
  | [major, minor, patch] =>
    [major, minor, patch].all fun part => part.all Char.isDigit && part ≠ []
  | _ => false

def rolloutIdentityPattern : String → Bool :=
  let allowed := fun char : Char => char.isAlphanum || char ∈ ['.', '_', ':', '-']
  matchesClasses allowed allowed 0 255

/-- The first four bytes of a hash, as a cohort. -/
def clientUpdateRolloutBucket (platform : NodePlatform) (seed identity : String) : Nat :=
  let digest := platform.sha256Hex ("longhub-client-rollout-v1\n" ++ seed ++ "\n" ++ identity)
  (digest.toList.take 8).foldl
    (fun number digit => 16 * number + (JsonValue.hexDigitValue digit).getD 0) 0 % 10000

def isClientUpdateRolloutEligible (platform : NodePlatform) (rollout : ClientUpdateRollout)
    (identity : String) : Except String Bool :=
  if rollout.status = .paused then .ok false
  else if !rolloutIdentityPattern identity then .error "客户端更新灰度身份无效"
  else if rollout.basisPoints = 10000 then .ok true
  else .ok (clientUpdateRolloutBucket platform rollout.seed identity < rollout.basisPoints)

end ClientUpdate

end LongHub
