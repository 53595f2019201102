import LongHub.ManifestSchema
import LongHub.ReleaseIndex

/-!
# Client releases of the cloud

One server process keeps the index of the client releases in a file and the installers beside it.
-/

namespace LongHub

open Except (ensure require)

namespace ClientRelease

open ClientUpdate (ClientUpdateManifest ClientUpdateRollout SignedClientUpdateMetadata
  UpdateChannel RolloutStatus channelOf)
open ManagerUpdate (compareClientVersions clientUpdateManifestSchema clientUpdateSignaturePayload
  maxInstallerBytes signatureKeyIdPattern statusOf statusText strategyText
  versionPattern)

structure ClientReleaseRecord extends SignedClientUpdateMetadata where
  uploadedBy : String
  uploadedAt : String
  rolloutUpdatedBy : String
  rolloutUpdatedAt : String
  deriving DecidableEq

namespace ClientReleaseRecord

variable (record : ClientReleaseRecord)

def sequence : Nat := record.manifest.sequence
def version : String := record.manifest.version
def channel : UpdateChannel := record.manifest.channel

end ClientReleaseRecord

inductive ReleaseItem where
  | legacy
  | release (record : ClientReleaseRecord)

def ReleaseItem.record? : ReleaseItem → Option ClientReleaseRecord
  | legacy => none
  | release record => some record

/-- The release key, SHA-256 and the parser of dates. -/
structure ReleaseSigner where
  keyId : String
  sign : List Char → String
  /-- Whether the trusted key of a name verifies the signature of a text. -/
  verify : String → List Char → String → Bool
  sha256 : List UInt8 → String
  parsesDate : String → Bool
  secondsOptional : Bool

inductive ReleaseError where
  | validationFailed
  | invalidChannel
  | invalidContentLength
  | payloadTooLarge
  | versionExists
  | versionRollback
  | artifactExists
  | uploadFailed
  | uploadSizeMismatch
  | publishFailed
  | clientReleaseNotFound
  | rolloutNotLatest
  | rolloutUnchanged
  /-- The index holds a record that no trusted key has signed. -/
  | indexUntrusted
  /-- A schema refuses a manifest or a version. -/
  | zodError
  | fileFailed

def manifestFields (manifest : ClientUpdateManifest) : ManagerUpdate.Manifest where
  schemaVersion := ManagerUpdate.schemaVersion
  productSurface := ManagerUpdate.productSurface
  sequence := manifest.sequence
  version := manifest.version
  channel := manifest.channel.text
  platform := "win32"
  arch := "x64"
  filename := manifest.filename
  size := manifest.size
  sha256 := manifest.sha256
  urlPath := manifest.urlPath
  publishedAt := manifest.publishedAt
  rollbackDataStrategy := strategyText manifest.rollbackDataStrategy
  rollout :=
    { status := statusText manifest.rollout.status
      basisPoints := manifest.rollout.basisPoints
      seed := manifest.rollout.seed
      updatedAt := manifest.rollout.updatedAt }

section Signatures

variable (signer : ReleaseSigner)

def isManifest (manifest : ClientUpdateManifest) : Bool :=
  (clientUpdateManifestSchema signer.secondsOptional (manifestFields manifest)).isSome

def signClientUpdateManifest (manifest : ClientUpdateManifest) : Except ReleaseError String :=
  if isManifest signer manifest then .ok (signer.sign (clientUpdateSignaturePayload manifest))
  else .error .zodError

def verifyClientUpdateMetadata (metadata : SignedClientUpdateMetadata) : Bool :=
  isManifest signer metadata.manifest && signatureKeyIdPattern metadata.signatureKeyId &&
    40 ≤ utf16Length metadata.signature && utf16Length metadata.signature ≤ 512 &&
    signer.verify metadata.signatureKeyId (clientUpdateSignaturePayload metadata.manifest)
      metadata.signature

def isTrusted (record : ClientReleaseRecord) : Bool :=
  signer.parsesDate record.uploadedAt && signer.parsesDate record.rolloutUpdatedAt &&
    verifyClientUpdateMetadata signer record.toSignedClientUpdateMetadata

/-- Entries of an older form are left out; one untrusted release is an error. -/
def trustedReleases (items : List ReleaseItem) : Except ReleaseError (List ClientReleaseRecord) :=
  let releases := items.filterMap ReleaseItem.record?
  if releases.all (isTrusted signer) then
    .ok (releases.insertionSort fun left right => right.sequence ≤ left.sequence)
  else .error .indexUntrusted

end Signatures

/-- The files of the release directory. -/
structure ReleaseDirectory where
  index : Option (List ReleaseItem)
  /-- The draft of the index that was written last. -/
  draft : Option (List ReleaseItem)
  /-- The bytes of the uploads, by the random part of their names. -/
  temporaries : Nat → Option (List UInt8)
  targets : String → Option (List UInt8)

def ReleaseDirectory.empty : ReleaseDirectory := ⟨none, none, fun _ => none, fun _ => none⟩

inductive ReleaseCall where
  | indexExists
  | readIndex
  | makeDirectory
  | writeDraft (items : List ReleaseItem)
  | renameDraft
  | writeTemporary (id : Nat) (content : List UInt8)
  | temporaryExists (id : Nat)
  | unlinkTemporary (id : Nat)
  | chmodTemporary (id : Nat)
  | linkTarget (id : Nat) (filename : String)
  | targetExists (filename : String)
  | unlinkTarget (filename : String)

def ReleaseCall.Answer : ReleaseCall → Type
  | indexExists | temporaryExists _ | targetExists _ => Bool
  | readIndex => List ReleaseItem
  | _ => Unit

namespace ReleaseDirectory

@[grind =]
def performed (directory : ReleaseDirectory) : (request : ReleaseCall) →
    Except ReleaseError request.Answer × ReleaseDirectory
  | .indexExists => (.ok directory.index.isSome, directory)
  | .readIndex =>
    match directory.index with
    | none => (.error .fileFailed, directory)
    | some items => (.ok items, directory)
  | .makeDirectory => (.ok (), directory)
  | .writeDraft items => (.ok (), { directory with draft := some items })
  | .renameDraft =>
    match directory.draft with
    | none => (.error .fileFailed, directory)
    | some items => (.ok (), { directory with index := some items, draft := none })
  | .writeTemporary id content =>
    (.ok (), { directory with
      temporaries := Function.update directory.temporaries id (some content) })
  | .temporaryExists id => (.ok (directory.temporaries id).isSome, directory)
  | .unlinkTemporary id =>
    if (directory.temporaries id).isSome then
      (.ok (), { directory with temporaries := Function.update directory.temporaries id none })
    else (.error .fileFailed, directory)
  | .chmodTemporary id =>
    if (directory.temporaries id).isSome then (.ok (), directory)
    else (.error .fileFailed, directory)
  | .linkTarget id filename =>
    match directory.temporaries id, directory.targets filename with
    | some content, none =>
      (.ok (), { directory with
        targets := Function.update directory.targets filename (some content) })
    | _, _ => (.error .fileFailed, directory)
  | .targetExists filename => (.ok (directory.targets filename).isSome, directory)
  | .unlinkTarget filename =>
    if (directory.targets filename).isSome then
      (.ok (), { directory with targets := Function.update directory.targets filename none })
    else (.error .fileFailed, directory)

def neverFails : ReleaseCall → Bool
  | .indexExists | .temporaryExists _ | .targetExists _ => true
  | _ => false

end ReleaseDirectory

def releaseDisk : Device ReleaseDirectory ReleaseCall ReleaseCall.Answer ReleaseError Bool where
  perform request fails directory :=
    if fails then
      if ReleaseDirectory.neverFails request then none
      else some (.error .fileFailed, directory)
    else some (directory.performed request)

abbrev ReleaseProgram (α : Type) := Program ReleaseCall ReleaseCall.Answer ReleaseError α

def ask (request : ReleaseCall) : ReleaseProgram request.Answer := .perform request

section Routes

variable (signer : ReleaseSigner)

def loadReleases : ReleaseProgram (List ClientReleaseRecord) := do
  let found : Bool ← ask .indexExists
  if found then
    let items : List ReleaseItem ← ask .readIndex
    .ofExcept (trustedReleases signer items)
  else pure []

variable (releases : List ClientReleaseRecord)

def saveReleases : ReleaseProgram Unit := do
  let _ : Unit ← ask .makeDirectory
  let _ : Unit ← ask (.writeDraft (releases.map .release))
  ask .renameDraft

def nextSequence : Nat :=
  (releases.head?.map ClientReleaseRecord.sequence).getD 0 + 1

/-- The first of its channel; the list is newest first. -/
def latestInChannel (channel : UpdateChannel) : Option ClientReleaseRecord :=
  releases.find? fun release => release.channel = channel

def checkVersion (version : String) (channel : UpdateChannel) : Except ReleaseError Unit :=
  if releases.any fun release => release.version = version then .error .versionExists
  else
    match latestInChannel releases channel with
    | none => .ok ()
    | some latest =>
      match compareClientVersions version latest.version with
      | none => .error .zodError
      | some order => if order ≤ 0 then .error .versionRollback else .ok ()

structure UploadForm where
  actor : String
  version : String
  rawName : String
  channel : String
  declared : Option Int

structure ReleaseUpload where
  id : Nat
  actor : String
  version : String
  channel : UpdateChannel
  declared : Option Int
  received : List UInt8
  tooLarge : Bool

def installerName (version : String) : String := "LongHub-Manager-Setup-" ++ version ++ ".exe"

def checkForm (form : UploadForm) : Except ReleaseError UpdateChannel := do
  ensure (versionPattern form.version) .validationFailed
  ensure (CloudCli.basename form.rawName = form.rawName &&
    CloudCli.basename form.rawName = installerName form.version) .validationFailed
  let channel ← require (channelOf form.channel) .invalidChannel
  ensure (form.declared.all fun size => 0 < size && size ≤ ManagerUpdate.maxSafeInteger)
    .invalidContentLength
  ensure (form.declared.all fun size => size ≤ maxInstallerBytes) .payloadTooLarge
  return channel

def beginUpload (form : UploadForm) (id : Nat) : ReleaseProgram ReleaseUpload := do
  let channel ← .ofExcept (checkForm form)
  let releases ← loadReleases signer
  .ofExcept (checkVersion releases form.version channel)
  let _ : Unit ← ask .makeDirectory
  let occupied : Bool ← ask (.targetExists (installerName form.version))
  .ofExcept (ensure (!occupied) .artifactExists)
  return ⟨id, form.actor, form.version, channel, form.declared, [], false⟩

def unlinkExistingTemporary (id : Nat) : ReleaseProgram Unit := do
  let found : Bool ← ask (.temporaryExists id)
  if found then ask (.unlinkTemporary id) else pure ()

def unlinkExistingTarget (filename : String) : ReleaseProgram Unit := do
  let found : Bool ← ask (.targetExists filename)
  if found then ask (.unlinkTarget filename) else pure ()

variable (upload : ReleaseUpload)

/-- What is left of an upload that fails is removed. -/
def breakOffUpload : ReleaseProgram ClientReleaseRecord := do
  unlinkExistingTemporary upload.id
  .throw (if upload.tooLarge then .payloadTooLarge else .uploadFailed)

def refuseUpload (error : ReleaseError) :
    ReleaseProgram ClientReleaseRecord := do
  let _ : Unit ← ask (.unlinkTemporary upload.id)
  .throw error

def uploadManifest (releases : List ClientReleaseRecord)
    (now seed : String) : ClientUpdateManifest where
  sequence := nextSequence releases
  version := upload.version
  channel := upload.channel
  filename := installerName upload.version
  size := upload.received.length
  sha256 := signer.sha256 upload.received
  urlPath := "/downloads/" ++ installerName upload.version
  publishedAt := now
  rollbackDataStrategy := .snapshotRequired
  rollout := ⟨.paused, 0, seed, now⟩

def publish (record : ClientReleaseRecord)
    (releases : List ClientReleaseRecord) : ReleaseProgram ClientReleaseRecord := do
  let filename := installerName upload.version
  let linked ← Program.attempt do
    let _ : Unit ← ask (.chmodTemporary upload.id)
    ask (.linkTarget upload.id filename)
  match linked with
  | .error _ => do
    unlinkExistingTemporary upload.id
    .throw .publishFailed
  | .ok _ => do
    let saved ← Program.attempt do
      let _ : Unit ← ask (.unlinkTemporary upload.id)
      saveReleases (record :: releases)
    match saved with
    | .error _ => do
      unlinkExistingTemporary upload.id
      unlinkExistingTarget filename
      .throw .publishFailed
    | .ok _ => pure record

def completeUpload (now seed : String) :
    ReleaseProgram ClientReleaseRecord := do
  let piped ← Program.attempt (ask (.writeTemporary upload.id upload.received))
  match piped with
  | .error _ => breakOffUpload upload
  | .ok _ =>
    if upload.received.length = 0 ∨
        upload.declared.any fun size => size ≠ (upload.received.length : Int) then
      refuseUpload upload .uploadSizeMismatch
    else
      let releases ← loadReleases signer
      match checkVersion releases upload.version upload.channel with
      | .error .zodError => .throw .zodError
      | .error error => refuseUpload upload error
      | .ok _ =>
        let manifest := uploadManifest signer upload releases now seed
        let signature ← .ofExcept (signClientUpdateManifest signer manifest)
        publish upload ⟨⟨manifest, signer.keyId, signature⟩, upload.actor, now,
          upload.actor, now⟩ releases

def rolloutPolicy (status : String) (basisPoints : Int) :
    Except ReleaseError (RolloutStatus × Nat) :=
  match statusOf status with
  | none => .error .validationFailed
  | some status =>
    if 0 ≤ basisPoints ∧ basisPoints ≤ 10000 ∧ ¬ (status = .active ∧ basisPoints = 0) then
      .ok (status, basisPoints.toNat)
    else .error .validationFailed

def rolloutManifest (existing : ClientReleaseRecord) (releases : List ClientReleaseRecord)
    (policy : RolloutStatus × Nat) (now : String) : ClientUpdateManifest :=
  { existing.manifest with
    sequence := nextSequence releases
    rollout := { existing.manifest.rollout with
      status := policy.1
      basisPoints := policy.2
      updatedAt := now } }

def setRollout (actor version status : String) (basisPoints : Int) (now : String) :
    ReleaseProgram ClientReleaseRecord := do
  .ofExcept (ensure (versionPattern version) .validationFailed)
  let policy ← .ofExcept (rolloutPolicy status basisPoints)
  let releases ← loadReleases signer
  let existing ← .ofExcept (require (releases.find? fun release =>
    release.version = version) .clientReleaseNotFound)
  .ofExcept (ensure ((latestInChannel releases existing.channel).any fun latest =>
    latest.version = version) .rolloutNotLatest)
  .ofExcept (ensure (!(existing.manifest.rollout.status = policy.1 &&
    existing.manifest.rollout.basisPoints = policy.2)) .rolloutUnchanged)
  let manifest := rolloutManifest existing releases policy now
  let signature ← .ofExcept (signClientUpdateManifest signer manifest)
  let updated : ClientReleaseRecord :=
    { existing with
      manifest := manifest
      signatureKeyId := signer.keyId
      signature := signature
      rolloutUpdatedBy := actor
      rolloutUpdatedAt := now }
  saveReleases (updated :: releases.erase existing)
  return updated

def latest (channel : Option String) :
    ReleaseProgram (UpdateChannel × Option SignedClientUpdateMetadata) := do
  let channel ← .ofExcept (require (channelOf (channel.getD "stable")) .invalidChannel)
  let releases ← loadReleases signer
  return (channel, (latestInChannel releases channel).map (·.toSignedClientUpdateMetadata))

end Routes

end ClientRelease

end LongHub
