import LongHub.GuardedRun
import LongHub.PluginVersions

/-!
# The release index of the Cloud Plugin

The server keeps one list of releases with their signed manifests.
-/

namespace LongHub

open ClientUpdate List Option

namespace CloudCli

structure SigningKey (keys : TrustedKeys) where
  keyId : String
  sign : List Char → String
  isTrusted : keys.isTrusted keyId = true
  isSignature : ∀ payload, signaturePattern (sign payload) = true
  verifies : ∀ manifest : ReleaseManifest,
    (clientVersion manifest.version).isSome = true →
      keys.verifies keyId (signedPayload manifest) (sign (signedPayload manifest)) = true

structure UploadedFile where
  artifact : Artifact
  isHash : isSha256Hex artifact.sha256.toList = true

structure ReleaseRecord where
  manifest : ReleaseManifest
  withdrawn : Bool
  deriving DecidableEq

def ReleaseRecord.version (record : ReleaseRecord) : String := record.manifest.version

structure PendingUpload where
  version : String
  channel : String
  records : List ReleaseRecord

structure ReleaseState where
  index : List ReleaseRecord
  files : List (String × Artifact)
  uploads : List PendingUpload

def downloadPrefix : String := "/downloads/cloud-plugin/"
def maxUploadBytes : Nat := 128 * 1024 * 1024

def basename (path : String) : String :=
  String.ofList ((path.toList.reverse.dropWhile (· = '/')).takeWhile (· ≠ '/')).reverse

def isChannel (channel : String) : Bool := channel = "stable" || channel = "beta"

section Server

variable {keys : TrustedKeys} (key : SigningKey keys)

def signManifest (manifest : ReleaseManifest) : ReleaseManifest :=
  { manifest with signature := key.sign (signedPayload manifest) }

def isListed (record : ReleaseRecord) : Bool :=
  record.manifest.schemaVersion = pluginReleaseSchema &&
    record.manifest.productSurface = "longhub-cloud-plugin" &&
    signaturePattern record.manifest.signature &&
    keys.verifies key.keyId (signedPayload record.manifest) record.manifest.signature

/-- The releases with a valid signature, the highest sequence number first. -/
def load (index : List ReleaseRecord) : List ReleaseRecord :=
  (index.filter (isListed key)).insertionSort fun left right =>
    right.manifest.sequence ≤ left.manifest.sequence

/-- One more than the highest sequence number; 2^53 + 1 is read as 2^53. -/
def nextSequence (records : List ReleaseRecord) : Int :=
  match records.head? with
  | none => 1
  | some record =>
    if record.manifest.sequence < 2 ^ 53 then record.manifest.sequence + 1
    else record.manifest.sequence

def ReleaseState.latest (state : ReleaseState) (channel : String) : Option ReleaseManifest :=
  ((load key state.index).find? fun record => !record.withdrawn &&
    record.manifest.channel = channel && record.manifest.rollout.status = "active" &&
    0 < record.manifest.rollout.basisPoints).map ReleaseRecord.manifest

def ReleaseState.versionRelease (state : ReleaseState) (version : String) :
    Except Nat ReleaseManifest :=
  match (load key state.index).find? fun record => record.version = version with
  | none => .error 404
  | some record => if record.withdrawn then .error 410 else .ok record.manifest

def ReleaseState.download (state : ReleaseState) (path : String) : Except Nat Artifact :=
  if downloadPrefix.toList.isPrefixOf path.toList then
    match (load key state.index).find? (fun record => record.manifest.filename = basename path),
        state.files.lookup (basename path) with
    | some record, some artifact => if record.withdrawn then .error 410 else .ok artifact
    | _, _ => .error 404
  else .error 404

inductive ReleaseAction where
  | beginUpload (version filename channel : String)
  | finishUpload (which : Nat) (file : UploadedFile) (now seed : String)
  | failUpload (which : Nat)
  | setRollout (version status : String) (basisPoints : Int) (now : String)
  | withdraw (version : String)

def uploadManifest (upload : PendingUpload) (artifact : Artifact) (now seed : String) :
    ReleaseManifest :=
  signManifest key {
    schemaVersion := pluginReleaseSchema
    productSurface := "longhub-cloud-plugin"
    sequence := nextSequence upload.records
    version := upload.version
    channel := upload.channel
    platform := "win32"
    arch := "x64"
    filename := pluginFilename upload.version
    size := artifact.size
    sha256 := artifact.sha256
    urlPath := downloadPrefix ++ pluginFilename upload.version
    publishedAt := now
    openclawVersion := "2026.7.1-2"
    node := ">=20"
    rollout := ⟨"paused", 0, seed, now⟩
    signatureKeyId := key.keyId
    signature := "" }

def rolloutManifest (records : List ReleaseRecord) (manifest : ReleaseManifest) (status : String)
    (basisPoints : Int) (now : String) : ReleaseManifest :=
  signManifest key { manifest with
    sequence := nextSequence records
    rollout := ⟨status, basisPoints, manifest.rollout.seed, now⟩ }

def beginUpload (state : ReleaseState) (version filename channel : String) : Option ReleaseState :=
  let records := load key state.index
  if (clientVersion version).isSome && basename filename = filename &&
      filename = pluginFilename version && isChannel channel &&
      !records.any fun record => record.version = version then
    some { state with uploads := ⟨version, channel, records⟩ :: state.uploads }
  else none

def finishUpload (state : ReleaseState) (which : Nat) (file : UploadedFile) (now seed : String) :
    Option ReleaseState :=
  state.uploads[which]?.bind fun upload =>
    if 0 < file.artifact.size && file.artifact.size ≤ maxUploadBytes &&
        (state.files.lookup (pluginFilename upload.version)).isNone then
      some {
        index := ⟨uploadManifest key upload file.artifact now seed, false⟩ :: upload.records
        files := (pluginFilename upload.version, file.artifact) :: state.files
        uploads := state.uploads.eraseIdx which }
    else none

def setRollout (state : ReleaseState) (version status : String) (basisPoints : Int)
    (now : String) : Option ReleaseState :=
  let records := load key state.index
  (records.find? fun record => record.version = version).bind fun existing =>
    if (status = "active" || status = "paused") && 0 ≤ basisPoints && basisPoints ≤ 10000 &&
        !(status = "active" && basisPoints = 0) && !existing.withdrawn &&
        (records.find? fun record =>
          record.manifest.channel = existing.manifest.channel).any (·.version = version) then
      let manifest := rolloutManifest key records existing.manifest status basisPoints now
      some { state with index := ⟨manifest, existing.withdrawn⟩ :: records.erase existing }
    else none

def withdraw (state : ReleaseState) (version : String) : Option ReleaseState :=
  let records := load key state.index
  (records.find? fun record => record.version = version).bind fun existing =>
    if existing.withdrawn then none
    else some { state with index := ⟨existing.manifest, true⟩ :: records.erase existing }

/-- One request, or one part of an upload; a request that is refused changes nothing. -/
@[grind =]
def ReleaseState.step (state : ReleaseState) : ReleaseAction → Option ReleaseState
  | .beginUpload version filename channel => beginUpload key state version filename channel
  | .finishUpload which file now seed => finishUpload key state which file now seed
  | .failUpload which => some { state with uploads := state.uploads.eraseIdx which }
  | .setRollout version status basisPoints now =>
    setRollout key state version status basisPoints now
  | .withdraw version => withdraw key state version

/-- The requests lead from one state to another. -/
abbrev ReleaseRun : ReleaseState → ReleaseState → Prop :=
  GuardedRun (ReleaseState.step key) fun _ _ => True

def ReleaseState.empty : ReleaseState := ⟨[], [], []⟩

structure Published (files : List (String × Artifact)) (record : ReleaseRecord) : Prop where
  schemaVersion : record.manifest.schemaVersion = pluginReleaseSchema
  productSurface : record.manifest.productSurface = "longhub-cloud-plugin"
  platform : record.manifest.platform = "win32"
  arch : record.manifest.arch = "x64"
  version : (clientVersion record.version).isSome = true
  filename : record.manifest.filename = pluginFilename record.version
  urlPath : record.manifest.urlPath = downloadPrefix ++ pluginFilename record.version
  sequence : 1 ≤ record.manifest.sequence
  signatureKeyId : record.manifest.signatureKeyId = key.keyId
  signature : record.manifest.signature = key.sign (signedPayload record.manifest)
  file : ∃ artifact, files.lookup (pluginFilename record.version) = some artifact ∧
    record.manifest.size = artifact.size ∧ record.manifest.sha256 = artifact.sha256 ∧
    isSha256Hex artifact.sha256.toList = true ∧ 0 < artifact.size ∧
    artifact.size ≤ maxUploadBytes

structure IsIndex (files : List (String × Artifact)) (records : List ReleaseRecord) : Prop where
  published : ∀ record ∈ records, Published key files record
  distinct : (records.map ReleaseRecord.version).Nodup

structure ReleaseState.WellFormed (state : ReleaseState) : Prop where
  index : IsIndex key state.files state.index
  uploads : ∀ upload ∈ state.uploads, IsIndex key state.files upload.records ∧
    upload.version ∉ upload.records.map ReleaseRecord.version ∧
    (clientVersion upload.version).isSome = true

variable {key} {files : List (String × Artifact)} {records : List ReleaseRecord}
variable {state after : ReleaseState}

variable {record : ReleaseRecord} {now version : String}

theorem wellFormed_empty : ReleaseState.WellFormed key .empty :=
  ⟨⟨by simp [ReleaseState.empty], by simp [ReleaseState.empty]⟩, by simp [ReleaseState.empty]⟩

theorem Published.isListed (published : Published key files record) :
    isListed key record = true := by
  have signed := key.verifies record.manifest published.version
  have pattern := key.isSignature (signedPayload record.manifest)
  simp [CloudCli.isListed, published.schemaVersion, published.productSurface,
    published.signature, signed, pattern]

variable {name seed status : String} {artifact : Artifact} {file : UploadedFile} {basisPoints : Int}

theorem Published.addFile (published : Published key files record)
    (isNew : files.lookup name = none) : Published key ((name, artifact) :: files) record := by
  obtain ⟨file, found, rest⟩ := published.file
  have differ : pluginFilename record.version ≠ name := by
    intro same
    rw [same, isNew] at found
    cases found
  refine { published with file := ⟨file, ?_, rest⟩ }
  have notSame : (pluginFilename record.version == name) = false := by simpa using differ
  rw [lookup_cons, notSame]
  exact found

section Index

variable (isIndex : IsIndex key files records)
include isIndex

/-- Loading only sorts the list. -/
theorem IsIndex.load_perm : (load key records).Perm records := by
  have all : records.filter (isListed key) = records :=
    filter_eq_self.mpr fun record mem => (isIndex.published record mem).isListed
  unfold load
  rw [all]
  exact perm_insertionSort _ records

theorem IsIndex.perm {others : List ReleaseRecord} (same : others.Perm records) :
    IsIndex key files others where
  published record mem := isIndex.published record (same.subset mem)
  distinct := (same.map _).nodup_iff.mpr isIndex.distinct

theorem IsIndex.load : IsIndex key files (load key records) := isIndex.perm isIndex.load_perm

theorem IsIndex.cons {record : ReleaseRecord} (published : Published key files record)
    (isNew : record.version ∉ records.map ReleaseRecord.version) :
    IsIndex key files (record :: records) where
  published other mem := by
    rcases mem_cons.mp mem with rfl | earlier
    · exact published
    · exact isIndex.published other earlier
  distinct := by
    rw [map_cons, nodup_cons]
    exact ⟨isNew, isIndex.distinct⟩

theorem IsIndex.replace {existing : ReleaseRecord} (mem : existing ∈ records)
    (published : Published key files record)
    (sameVersion : record.version = existing.version) :
    IsIndex key files (record :: records.erase existing) := by
  have same := perm_cons_erase mem
  have split := isIndex.perm same.symm
  have distinct := split.distinct
  rw [map_cons, nodup_cons] at distinct
  have rest : IsIndex key files (records.erase existing) :=
    ⟨fun other inside => split.published other (by simp [inside]), distinct.2⟩
  apply rest.cons published
  rw [sameVersion]
  exact distinct.1

theorem IsIndex.addFile (isNew : files.lookup name = none) :
    IsIndex key ((name, artifact) :: files) records where
  published record mem := (isIndex.published record mem).addFile isNew
  __ := isIndex

theorem one_le_nextSequence : 1 ≤ nextSequence records := by
  cases records with
  | nil => exact le_refl _
  | cons record rest =>
    have positive := (isIndex.published record (by simp)).sequence
    simp only [nextSequence, head?_cons]
    split_ifs <;> omega

end Index

theorem published_uploadManifest {upload : PendingUpload}
    (isIndex : IsIndex key files upload.records)
    (version : (clientVersion upload.version).isSome = true)
    (notEmpty : 0 < file.artifact.size) (small : file.artifact.size ≤ maxUploadBytes) :
    Published key ((pluginFilename upload.version, file.artifact) :: files)
      ⟨uploadManifest key upload file.artifact now seed, false⟩ where
  schemaVersion := rfl
  productSurface := rfl
  platform := rfl
  arch := rfl
  version := version
  filename := rfl
  urlPath := rfl
  sequence := one_le_nextSequence isIndex
  signatureKeyId := rfl
  signature := rfl
  file := ⟨file.artifact, by simp [ReleaseRecord.version, uploadManifest, signManifest],
    rfl, rfl, file.isHash, notEmpty, small⟩

theorem Published.setRollout (published : Published key files record)
    (isIndex : IsIndex key files records) :
    Published key files
      ⟨rolloutManifest key records record.manifest status basisPoints now, record.withdrawn⟩ where
  __ := published
  sequence := one_le_nextSequence isIndex
  signature := rfl

theorem wellFormed_beginUpload {filename channel : String} (wellFormed : state.WellFormed key)
    (begins : beginUpload key state version filename channel = some after) :
    after.WellFormed key := by
  simp only [beginUpload, ite_none_right_eq_some, Option.some.injEq] at begins
  obtain ⟨accepted, rfl⟩ := begins
  simp only [Bool.and_eq_true, Bool.not_eq_true', List.any_eq_false, decide_eq_true_eq] at accepted
  obtain ⟨⟨⟨⟨isVersion, -⟩, -⟩, -⟩, isNew⟩ := accepted
  refine ⟨wellFormed.index, fun upload mem => ?_⟩
  rcases mem_cons.mp mem with rfl | earlier
  · refine ⟨wellFormed.index.load, ?_, isVersion⟩
    rintro inside
    obtain ⟨record, isRecord, same⟩ := List.mem_map.mp inside
    exact isNew record isRecord same
  · exact wellFormed.uploads upload earlier

theorem wellFormed_finishUpload {which : Nat} (wellFormed : state.WellFormed key)
    (finishes : finishUpload key state which file now seed = some after) :
    after.WellFormed key := by
  obtain ⟨upload, found, rest⟩ := bind_eq_some_iff.mp finishes
  simp only [ite_none_right_eq_some, Option.some.injEq] at rest
  obtain ⟨accepted, rfl⟩ := rest
  simp only [Bool.and_eq_true, decide_eq_true_eq, isNone_iff_eq_none] at accepted
  obtain ⟨⟨notEmpty, small⟩, isNew⟩ := accepted
  obtain ⟨isIndex, newVersion, isVersion⟩ := wellFormed.uploads upload (mem_of_getElem? found)
  constructor
  · apply (isIndex.addFile isNew).cons
    · exact published_uploadManifest isIndex isVersion notEmpty small
    · exact newVersion
  · intro other mem
    obtain ⟨otherIndex, otherNew⟩ := wellFormed.uploads other (mem_of_mem_eraseIdx mem)
    exact ⟨otherIndex.addFile isNew, otherNew⟩

theorem wellFormed_setRollout (wellFormed : state.WellFormed key)
    (changes : setRollout key state version status basisPoints now = some after) :
    after.WellFormed key := by
  obtain ⟨existing, found, rest⟩ := bind_eq_some_iff.mp changes
  simp only [ite_none_right_eq_some, Option.some.injEq] at rest
  obtain ⟨-, rfl⟩ := rest
  have isIndex := wellFormed.index.load
  have mem := mem_of_find?_eq_some found
  refine ⟨isIndex.replace mem ?_ rfl, wellFormed.uploads⟩
  exact (isIndex.published existing mem).setRollout isIndex

theorem wellFormed_withdraw (wellFormed : state.WellFormed key)
    (withdraws : withdraw key state version = some after) : after.WellFormed key := by
  obtain ⟨existing, found, rest⟩ := bind_eq_some_iff.mp withdraws
  simp only [ite_none_left_eq_some, Option.some.injEq] at rest
  obtain ⟨-, rfl⟩ := rest
  have isIndex := wellFormed.index.load
  have mem := mem_of_find?_eq_some found
  have published := isIndex.published existing mem
  exact ⟨isIndex.replace mem { published with } rfl, wellFormed.uploads⟩

theorem wellFormed_step (action : ReleaseAction) (wellFormed : state.WellFormed key)
    (steps : state.step key action = some after) : after.WellFormed key := by
  cases action with
  | beginUpload version filename channel => exact wellFormed_beginUpload wellFormed steps
  | finishUpload which file now seed => exact wellFormed_finishUpload wellFormed steps
  | failUpload which =>
    cases steps
    exact ⟨wellFormed.index, fun upload mem =>
      wellFormed.uploads upload (mem_of_mem_eraseIdx mem)⟩
  | setRollout version status basisPoints now => exact wellFormed_setRollout wellFormed steps
  | withdraw version => exact wellFormed_withdraw wellFormed steps

/-- Every index that is reached holds published releases, each version once. -/
theorem ReleaseState.WellFormed.run (wellFormed : state.WellFormed key)
    (run : ReleaseRun key state after) : after.WellFormed key :=
  run.invariant _ wellFormed fun _ _ action wellFormed _ steps =>
    wellFormed_step action wellFormed steps

end Server

end CloudCli

end LongHub
