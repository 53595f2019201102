import LongHub.ManagerManifest

/-!
# The recovery store of the Manager

Before the installer of an update is launched, `RecoveryStore` writes a record of it.
-/

namespace LongHub

open Except
namespace ManagerUpdate

inductive Phase where
  | installing
  | rollback
  deriving DecidableEq

def Phase.text : Phase → String
  | .installing => "installing"
  | .rollback => "rollback"

structure PendingUpdate where
  previousVersion : String
  targetVersion : String
  targetSequence : Int
  targetInstaller : String
  rollbackInstaller : String
  targetMetadata : Envelope
  rollbackMetadata : Envelope
  attempts : Nat
  phase : Phase
  reason : String
  createdAt : String

def pendingSchema : String := "longhub/manager-update-pending/v1"

/-- `json.Marshal` escapes these characters in texts; elsewhere they do not occur. -/
def escapeHtml (char : Char) : List Char :=
  if char = '<' then ['\\', 'u', '0', '0', '3', 'c']
  else if char = '>' then ['\\', 'u', '0', '0', '3', 'e']
  else if char = '&' then ['\\', 'u', '0', '0', '2', '6']
  else if char.toNat = 0x2028 then ['\\', 'u', '2', '0', '2', '8']
  else if char.toNat = 0x2029 then ['\\', 'u', '2', '0', '2', '9']
  else [char]

def byteCount (text : List Char) : Nat := (String.ofList text).utf8ByteSize

def rolloutJson (rollout : Rollout) : JsonValue :=
  .record [("status", .text rollout.status),
    ("basis_points", .number (toString rollout.basisPoints)), ("seed", .text rollout.seed),
    ("updated_at", .text rollout.updatedAt)]

def manifestJson (manifest : Manifest) : JsonValue :=
  .record [("schema_version", .text manifest.schemaVersion),
    ("product_surface", .text manifest.productSurface),
    ("sequence", .number (toString manifest.sequence)), ("version", .text manifest.version),
    ("channel", .text manifest.channel), ("platform", .text manifest.platform),
    ("arch", .text manifest.arch), ("filename", .text manifest.filename),
    ("size", .number (toString manifest.size)), ("sha256", .text manifest.sha256),
    ("url_path", .text manifest.urlPath), ("published_at", .text manifest.publishedAt),
    ("rollback_data_strategy", .text manifest.rollbackDataStrategy),
    ("rollout", rolloutJson manifest.rollout)]

def envelopeJson (envelope : Envelope) : JsonValue :=
  .record [("manifest", manifestJson envelope.manifest),
    ("signature_key_id", .text envelope.signatureKeyId),
    ("signature", .text envelope.signature)]

/-- An empty reason is left out. -/
def pendingJson (pending : PendingUpdate) : JsonValue :=
  .record ([("schema_version", .text pendingSchema),
    ("previous_version", .text pending.previousVersion),
    ("target_version", .text pending.targetVersion),
    ("target_sequence", .number (toString pending.targetSequence)),
    ("target_installer", .text pending.targetInstaller),
    ("rollback_installer", .text pending.rollbackInstaller),
    ("target_metadata", envelopeJson pending.targetMetadata),
    ("rollback_metadata", envelopeJson pending.rollbackMetadata),
    ("attempts", .number (toString pending.attempts)), ("phase", .text pending.phase.text)] ++
      (if pending.reason = "" then [] else [("reason", .text pending.reason)]) ++
      [("created_at", .text pending.createdAt)])

/-- The number of bytes of `json.Marshal`. -/
def envelopeSize (envelope : Envelope) : Nat :=
  byteCount ((JsonValue.print (envelopeJson envelope)).flatMap escapeHtml)

/-- The number of bytes that `write` writes. -/
def pendingSize (pending : PendingUpdate) : Nat :=
  byteCount ((JsonValue.indented 0 (pendingJson pending)).flatMap escapeHtml ++ ['\n'])

def maxEnvelopeSize : Nat := 256 * 1024
def maxPendingSize : Nat := 512 * 1024

/-- The trusted keys, the directory of updates and what the platform says about paths. -/
structure RecoveryStore where
  /-- Whether there is a trusted key with the id. -/
  isTrusted : String → Bool
  /-- Whether the signature, a text in base64, is one of the key for the text. -/
  verifies : String → List Char → String → Bool
  root : String
  clean : String → String
  clean_clean : ∀ path, clean (clean path) = clean path
  /-- `filepath.Rel` -/
  rel : String → String → Option String
  isAbs : String → Bool
  isPathSeparator : Char → Bool

namespace RecoveryStore

variable (store : RecoveryStore)

def checkEnvelope (envelope : Envelope) : Except UpdateError Unit := do
  validateManifest envelope.manifest
  ensure (signatureKeyIdPattern envelope.signatureKeyId) .metadataInvalid
  ensure (store.isTrusted envelope.signatureKeyId) .unknownSigningKey
  let payload ← signaturePayload envelope.manifest
  ensure (store.verifies envelope.signatureKeyId payload envelope.signature)
    .signatureInvalid

def verifyEnvelope (envelope : Envelope) : Except UpdateError Unit := do
  ensure (envelopeSize envelope ≤ maxEnvelopeSize) .metadataInvalid
  store.checkEnvelope envelope

def hasDotDotPrefix (path : String) : Bool :=
  match path.toList with
  | first :: second :: third :: _ =>
    first = '.' && second = '.' && store.isPathSeparator third
  | _ => false

def pathWithin (path : String) : Bool :=
  match store.rel (store.clean store.root) (store.clean path) with
  | none => false
  | some relative =>
    relative ≠ "." && relative ≠ "" && !store.isAbs relative && relative ≠ ".." &&
      !store.hasDotDotPrefix relative

def checkPending (pending : PendingUpdate) : Except UpdateError Unit := do
  ensure (pendingSize pending ≤ maxPendingSize) .metadataInvalid
  ensure (versionPattern pending.previousVersion && versionPattern pending.targetVersion &&
    0 < pending.targetSequence && pending.attempts ≤ 3) .metadataInvalid
  validateManifest pending.targetMetadata.manifest
  validateManifest pending.rollbackMetadata.manifest
  store.verifyEnvelope pending.targetMetadata
  store.verifyEnvelope pending.rollbackMetadata
  ensure (pending.targetMetadata.manifest.version = pending.targetVersion &&
    pending.rollbackMetadata.manifest.version = pending.previousVersion &&
    pending.targetMetadata.manifest.sequence = pending.targetSequence &&
    store.pathWithin pending.targetInstaller) .metadataInvalid

def accept (file : Option PendingUpdate) : Except UpdateError PendingUpdate := do
  let pending ← require file .notExist
  store.checkPending pending
  return pending

end RecoveryStore

inductive LaunchMode where
  | update
  | rollback

/-- The release that `Check` has found. -/
structure Candidate where
  envelope : Envelope
  available : Bool
  eligible : Bool

structure CoordinatorFields where
  candidate : Option Candidate
  downloadedPath : String
  state : String
  errorCode : String

/-- The steps of the programs: each access to a file, to the network and to the locked fields. -/
inductive UpdateCall where
  | readPending
  | writePending (pending : PendingUpdate)
  | removePending
  | verifyInstaller (path : String) (manifest : Manifest)
  | launch (path : String) (mode : LaunchMode)
  | stop
  | now
  | fetchLatest (channel : String)
  | fetchVersion (version channel : String)
  | download (manifest : Manifest)
  | readFields
  | setCandidate (candidate : Option Candidate)
  | setDownloaded (path : String)
  | fail (code : String)
  | applying

@[reducible]
def UpdateCall.Answer : UpdateCall → Type
  | readPending => Option PendingUpdate
  | now | download _ => String
  | fetchLatest _ | fetchVersion _ _ => Option Envelope
  | readFields | setCandidate _ | setDownloaded _ | fail _ | applying => CoordinatorFields
  | writePending _ | removePending | verifyInstaller _ _ | launch _ _ | stop => Unit

abbrev UpdateProgram := Program UpdateCall UpdateCall.Answer UpdateError

def ask (request : UpdateCall) : UpdateProgram request.Answer := Program.perform request

namespace RecoveryStore

variable (store : RecoveryStore)

def read : UpdateProgram PendingUpdate := do
  let file ← ask .readPending
  .ofExcept (store.accept file)

variable (previousVersion : String)

def checkPrepare (target rollback : Envelope) :
    Except UpdateError Unit := do
  ensure (target.manifest.version ≠ previousVersion &&
    rollback.manifest.version = previousVersion &&
    target.manifest.channel = rollback.manifest.channel) .metadataInvalid
  store.verifyEnvelope target
  store.verifyEnvelope rollback
  let comparison ← compareVersions target.manifest.version previousVersion
  ensure (0 < comparison) .metadataInvalid

def newPending (target : Envelope) (targetInstaller : String)
    (rollback : Envelope) (rollbackInstaller createdAt : String) : PendingUpdate where
  previousVersion := previousVersion
  targetVersion := target.manifest.version
  targetSequence := target.manifest.sequence
  targetInstaller := store.clean targetInstaller
  rollbackInstaller := store.clean rollbackInstaller
  targetMetadata := target
  rollbackMetadata := rollback
  attempts := 0
  phase := .installing
  reason := ""
  createdAt := createdAt

def ensureNotPending (outcome : Except UpdateError PendingUpdate) : Except UpdateError Unit :=
  match outcome with
  | .ok _ => .error .alreadyPending
  | .error .notExist => .ok ()
  | .error problem => .error problem

def prepare (target : Envelope) (targetInstaller : String)
    (rollback : Envelope) (rollbackInstaller : String) : UpdateProgram PendingUpdate := do
  .ofExcept (store.checkPrepare previousVersion target rollback)
  ask (.verifyInstaller targetInstaller target.manifest)
  ask (.verifyInstaller rollbackInstaller rollback.manifest)
  .ofExcept (ensure (store.pathWithin targetInstaller) .unsafeUpdatePath)
  let outcome ← Program.attempt store.read
  .ofExcept (ensureNotPending outcome)
  let createdAt ← ask .now
  let pending :=
    store.newPending previousVersion target targetInstaller rollback rollbackInstaller createdAt
  ask (.writePending pending)
  return pending

def recordTargetStartup (currentVersion : String) :
    UpdateProgram (Option PendingUpdate × Bool) := do
  match ← Program.attempt store.read with
  | .error .notExist => return (none, false)
  | .error problem => .throw problem
  | .ok pending =>
    if pending.phase = .rollback ∧ currentVersion = pending.previousVersion then
      ask .removePending
      return (some pending, false)
    else if pending.phase ≠ .installing ∨ currentVersion ≠ pending.targetVersion then
      .throw .metadataInvalid
    else
      let counted := { pending with attempts := pending.attempts + 1 }
      ask (.writePending counted)
      return (some counted, 3 ≤ counted.attempts)

def beginRollback (reason : String) : UpdateProgram PendingUpdate := do
  let pending ← store.read
  let changed := { pending with phase := .rollback, reason := reason }
  ask (.writePending changed)
  return changed

def markHealthy (currentVersion : String) : UpdateProgram Unit := do
  match ← Program.attempt store.read with
  | .error .notExist => return ()
  | .error problem => .throw problem
  | .ok pending =>
    if pending.phase ≠ .installing ∨ pending.targetVersion ≠ currentVersion then
      .throw .metadataInvalid
    else ask .removePending

end RecoveryStore

end ManagerUpdate

end LongHub
