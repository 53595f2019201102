import LongHub.ReleaseIndex

/-!
# Artifact releases

The server of artifact releases and what its index keeps.
-/

namespace LongHub

open List
/-! ## Artifact releases of the cloud, request by request -/

namespace CloudApi

open CloudCli (ReleaseManifest PluginRollout signedPayload signaturePattern basename)

inductive ArtifactSurface where
  | cloudPlugin
  | cloudCli

namespace ArtifactSurface

def schema : ArtifactSurface → String
  | .cloudPlugin => "longhub/cloud-plugin-release/v1"
  | .cloudCli => "longhub/cloud-cli-release/v1"

def product : ArtifactSurface → String
  | .cloudPlugin => "longhub-cloud-plugin"
  | .cloudCli => "longhub-cloud-cli"

def downloadPrefix : ArtifactSurface → String
  | .cloudPlugin => "/downloads/cloud-plugin/"
  | .cloudCli => "/downloads/cloud-cli/"

def filenameFor (surface : ArtifactSurface) (version : String) : String :=
  match surface with
  | .cloudPlugin => "longhub-openclaw-cloud-plugin-" ++ version ++ ".tgz"
  | .cloudCli => "longhub-cloud-cli-" ++ version ++ ".tgz"

end ArtifactSurface

structure ArtifactRecord where
  manifest : ReleaseManifest
  uploadedBy : String
  uploadedAt : String
  rolloutUpdatedBy : String
  rolloutUpdatedAt : String
  withdrawnBy : Option String := none
  withdrawnAt : Option String := none
  deriving DecidableEq

namespace ArtifactRecord

def version (record : ArtifactRecord) : String := record.manifest.version
def channel (record : ArtifactRecord) : String := record.manifest.channel
def sequence (record : ArtifactRecord) : Int := record.manifest.sequence

end ArtifactRecord

structure ArtifactSigner where
  keyId : String
  sign : List Char → String
  verify : List Char → String → Bool
  isSignature : ∀ payload, signaturePattern (sign payload) = true
  verifies : ∀ payload, verify payload (sign payload) = true

/-- A save of the index. -/
inductive ArtifactChange where
  | upload (version : String)
  | rollout (version status : String) (basisPoints : Int)
  | withdraw (version : String)
  deriving DecidableEq

structure ArtifactUpload where
  actor : String
  version : String
  channel : String
  declared : Option Nat
  records : List ArtifactRecord

structure ArtifactServer where
  index : List ArtifactRecord
  files : List (String × Nat)
  uploads : List ArtifactUpload
  audits : List ArtifactChange
  changes : List ArtifactChange
  acknowledged : List ArtifactChange

inductive ArtifactAction where
  | beginUpload (actor version rawFilename channel : String) (declared : Option Nat)
  /-- The bytes of an upload have arrived. -/
  | finishUpload (which size : Nat) (sha256 now seed : String)
  /-- The connection or a write fails. -/
  | failUpload (which : Nat)
  | setRollout (actor version status : String) (basisPoints : Int) (now : String)
  | withdraw (actor version now : String)
  /-- The audit log has taken the entry, and the request is answered. -/
  | acknowledge (which : Nat)
  | failAudit (which : Nat)

namespace ArtifactServer

section Server

variable (surface : ArtifactSurface) (signer : ArtifactSigner)

def signManifest (manifest : ReleaseManifest) : ReleaseManifest :=
  { manifest with signature := signer.sign (signedPayload manifest) }

def isListed (record : ArtifactRecord) : Bool :=
  record.manifest.schemaVersion = surface.schema &&
    record.manifest.productSurface = surface.product &&
    signaturePattern record.manifest.signature &&
    signer.verify (signedPayload record.manifest) record.manifest.signature

/-- The signed records, the highest sequence number first. -/
def load (index : List ArtifactRecord) : List ArtifactRecord :=
  (index.filter (isListed surface signer)).insertionSort fun left right =>
    right.sequence ≤ left.sequence

/-- One more than the first sequence number; 2^53 + 1 is read as 2^53. -/
def nextSequence (records : List ArtifactRecord) : Int :=
  match records.head? with
  | none => 1
  | some record => if record.sequence < 2 ^ 53 then record.sequence + 1 else record.sequence

variable (server : ArtifactServer)

/-- The file, and what the request still has to write to the audit log. -/
def save (records : List ArtifactRecord) (change : ArtifactChange) : ArtifactServer :=
  { server with
    index := records
    audits := server.audits ++ [change]
    changes := server.changes ++ [change] }

def latest (channel : String) : Option ReleaseManifest :=
  ((load surface signer server.index).find? fun record => record.withdrawnAt.isNone &&
    record.channel = channel && record.manifest.rollout.status = "active" &&
    0 < record.manifest.rollout.basisPoints).map ArtifactRecord.manifest

def versionRelease (version : String) : Except Nat ReleaseManifest :=
  match (load surface signer server.index).find? fun record => record.version = version with
  | none => .error 404
  | some record => if record.withdrawnAt.isSome then .error 410 else .ok record.manifest

def download (path : String) : Except Nat Nat :=
  if surface.downloadPrefix.toList.isPrefixOf path.toList then
    match (load surface signer server.index).find? (fun record =>
        record.manifest.filename = basename path), server.files.lookup (basename path) with
    | some record, some size => if record.withdrawnAt.isSome then .error 410 else .ok size
    | _, _ => .error 404
  else .error 404

def newest (channel : String) : Option Int :=
  ((load surface signer server.index).find? fun record => record.channel = channel).map
    ArtifactRecord.sequence

def maxUploadBytes : Nat := 128 * 1024 * 1024

def beginUpload (actor version rawFilename channel : String)
    (declared : Option Nat) : Option ArtifactServer :=
  let records := load surface signer server.index
  if (ClientUpdate.clientVersion version).isSome && basename rawFilename = rawFilename &&
      rawFilename = surface.filenameFor version && (channel = "stable" || channel = "beta") &&
      !(records.any fun record => record.version = version) &&
      declared.all fun size => 0 < size && size ≤ maxUploadBytes then
    some { server with
      uploads := server.uploads ++ [⟨actor, version, channel, declared, records⟩] }
  else none

def uploadManifest (upload : ArtifactUpload) (size : Nat) (sha256 now seed : String) :
    ReleaseManifest :=
  signManifest signer {
    schemaVersion := surface.schema
    productSurface := surface.product
    sequence := nextSequence upload.records
    version := upload.version
    channel := upload.channel
    platform := "win32"
    arch := "x64"
    filename := surface.filenameFor upload.version
    size := size
    sha256 := sha256
    urlPath := surface.downloadPrefix ++ surface.filenameFor upload.version
    publishedAt := now
    openclawVersion := "2026.7.1-2"
    node := ">=20"
    rollout := ⟨"paused", 0, seed, now⟩
    signatureKeyId := signer.keyId
    signature := "" }

def uploadRecord (upload : ArtifactUpload) (size : Nat) (sha256 now seed : String) :
    ArtifactRecord where
  manifest := uploadManifest surface signer upload size sha256 now seed
  uploadedBy := upload.actor
  uploadedAt := now
  rolloutUpdatedBy := upload.actor
  rolloutUpdatedAt := now

def finishUpload (which size : Nat) (sha256 now seed : String) : Option ArtifactServer :=
  server.uploads[which]?.bind fun upload =>
    let filename := surface.filenameFor upload.version
    if 0 < size && size ≤ maxUploadBytes && upload.declared.all (· = size) &&
        (server.files.lookup filename).isNone then
      some (save { server with
          files := (filename, size) :: server.files
          uploads := server.uploads.eraseIdx which }
        (uploadRecord surface signer upload size sha256 now seed :: upload.records)
        (.upload upload.version))
    else none

def rolloutRecord (records : List ArtifactRecord) (existing : ArtifactRecord)
    (actor status : String) (basisPoints : Int) (now : String) : ArtifactRecord :=
  { existing with
    manifest := signManifest signer { existing.manifest with
      sequence := nextSequence records
      rollout := ⟨status, basisPoints, existing.manifest.rollout.seed, now⟩ }
    rolloutUpdatedBy := actor
    rolloutUpdatedAt := now }

def isRolloutPolicy (status : String) (basisPoints : Int) : Bool :=
  (status = "active" || status = "paused") && 0 ≤ basisPoints && basisPoints ≤ 10000 &&
    !(status = "active" && basisPoints = 0)

def setRollout (actor version status : String) (basisPoints : Int)
    (now : String) : Option ArtifactServer :=
  let records := load surface signer server.index
  (records.find? fun record => record.version = version).bind fun existing =>
    if isRolloutPolicy status basisPoints && existing.withdrawnAt.isNone &&
        (records.find? fun record => record.channel = existing.channel).any
          (·.version = version) then
      some (server.save (rolloutRecord signer records existing actor status basisPoints now ::
          records.erase existing)
        (.rollout version status basisPoints))
    else none

def withdraw (actor version now : String) : Option ArtifactServer :=
  let records := load surface signer server.index
  (records.find? fun record => record.version = version).bind fun existing =>
    if existing.withdrawnAt.isSome then none
    else some (server.save
      ({ existing with withdrawnBy := some actor, withdrawnAt := some now } ::
        records.erase existing)
      (.withdraw version))

/-- What a request does between two awaits; a part that is refused changes nothing. -/
@[grind =]
def step : ArtifactAction → Option ArtifactServer
  | .beginUpload actor version rawFilename channel declared =>
    server.beginUpload surface signer actor version rawFilename channel declared
  | .finishUpload which size sha256 now seed =>
    server.finishUpload surface signer which size sha256 now seed
  | .failUpload which => some { server with uploads := server.uploads.eraseIdx which }
  | .setRollout actor version status basisPoints now =>
    server.setRollout surface signer actor version status basisPoints now
  | .withdraw actor version now => server.withdraw surface signer actor version now
  | .acknowledge which =>
    server.audits[which]?.map fun change => { server with
      audits := server.audits.eraseIdx which
      acknowledged := server.acknowledged ++ [change] }
  | .failAudit which => some { server with audits := server.audits.eraseIdx which }

def IsCurrent : ArtifactAction → Prop
  | .finishUpload which _ _ _ _ => ∀ upload, server.uploads[which]? = some upload →
      upload.records = load surface signer server.index ∧
        ∀ record ∈ server.index, record.sequence < 2 ^ 53
  | .setRollout _ _ _ _ _ => ∀ record ∈ server.index, record.sequence < 2 ^ 53
  | _ => True

end Server

def empty : ArtifactServer := ⟨[], [], [], [], [], []⟩

end ArtifactServer

end CloudApi

/-! ## What the index of artifact releases keeps -/

namespace CloudApi

namespace ArtifactServer

section Index

variable {surface : ArtifactSurface} {signer : ArtifactSigner}
variable {index records saved : List ArtifactRecord} {existing record : ArtifactRecord}

instance : Std.Total fun left right : ArtifactRecord => right.sequence ≤ left.sequence :=
  ⟨fun left right => le_total right.sequence left.sequence⟩

instance : IsTrans ArtifactRecord fun left right => right.sequence ≤ left.sequence :=
  ⟨fun _ _ _ first second => le_trans second first⟩

structure IsIndex (surface : ArtifactSurface) (signer : ArtifactSigner)
    (index : List ArtifactRecord) : Prop where
  listed : ∀ record ∈ index, isListed surface signer record = true
  versions : (index.map ArtifactRecord.version).Nodup
  sequences : (index.map ArtifactRecord.sequence).Nodup

theorem IsIndex.load_perm (isIndex : IsIndex surface signer index) :
    (load surface signer index).Perm index := by
  have all : index.filter (isListed surface signer) = index := filter_eq_self.mpr isIndex.listed
  unfold load
  rw [all]
  exact perm_insertionSort _ index

theorem pairwise_load : (load surface signer index).Pairwise fun left right =>
    right.sequence ≤ left.sequence :=
  pairwise_insertionSort _ _

theorem IsIndex.perm {others : List ArtifactRecord} (isIndex : IsIndex surface signer index)
    (same : others.Perm index) : IsIndex surface signer others where
  listed record mem := isIndex.listed record (same.subset mem)
  versions := (same.map _).nodup_iff.mpr isIndex.versions
  sequences := (same.map _).nodup_iff.mpr isIndex.sequences

theorem lt_nextSequence
    (descending : records.Pairwise fun left right => right.sequence ≤ left.sequence)
    (exactNumbers : ∀ record ∈ records, record.sequence < 2 ^ 53) (mem : record ∈ records) :
    record.sequence < nextSequence records := by
  cases records with
  | nil => cases mem
  | cons first rest =>
    have most : record.sequence ≤ first.sequence := by
      rcases mem_cons.mp mem with rfl | later
      · exact le_refl _
      · exact rel_of_pairwise_cons descending later
    have isExact := exactNumbers first mem_cons_self
    simp only [nextSequence, head?_cons, if_pos isExact]
    omega

structure Keeps (index saved : List ArtifactRecord) (sets : String → Prop) : Prop where
  kept : ∀ record ∈ index, ∃ kept ∈ saved, kept.version = record.version ∧
    kept.channel = record.channel ∧ record.sequence ≤ kept.sequence ∧
    (record.withdrawnAt.isSome = true → kept.withdrawnAt.isSome = true) ∧
    (sets record.version ∨ kept.manifest.rollout = record.manifest.rollout)

theorem IsIndex.cons (isIndex : IsIndex surface signer index)
    (listed : isListed surface signer record = true)
    (newVersion : record.version ∉ index.map ArtifactRecord.version)
    (newSequence : record.sequence ∉ index.map ArtifactRecord.sequence) :
    IsIndex surface signer (record :: index) where
  listed other mem := by
    rcases mem_cons.mp mem with rfl | earlier
    · exact listed
    · exact isIndex.listed other earlier
  versions := nodup_cons.mpr ⟨newVersion, isIndex.versions⟩
  sequences := nodup_cons.mpr ⟨newSequence, isIndex.sequences⟩

theorem IsIndex.replace (isIndex : IsIndex surface signer index) (mem : existing ∈ index)
    (listed : isListed surface signer record = true) (version : record.version = existing.version)
    (sequence : record.sequence ∉ (index.erase existing).map ArtifactRecord.sequence) :
    IsIndex surface signer (record :: index.erase existing) := by
  have split := isIndex.perm (perm_cons_erase mem).symm
  have versions := split.versions
  rw [map_cons, nodup_cons] at versions
  have rest : IsIndex surface signer (index.erase existing) := by
    refine ⟨fun other inside => split.listed other (mem_cons_of_mem _ inside), versions.2, ?_⟩
    have sequences := split.sequences
    rw [map_cons, nodup_cons] at sequences
    exact sequences.2
  exact rest.cons listed (version ▸ versions.1) sequence

theorem keeps_replace {sets : String → Prop} (mem : existing ∈ index)
    (version : record.version = existing.version) (channel : record.channel = existing.channel)
    (sequence : existing.sequence ≤ record.sequence)
    (withdrawn : existing.withdrawnAt.isSome = true → record.withdrawnAt.isSome = true)
    (rollout : sets existing.version ∨ record.manifest.rollout = existing.manifest.rollout) :
    Keeps index (record :: index.erase existing) sets := by
  refine ⟨fun other inside => ?_⟩
  rcases mem_cons.mp ((perm_cons_erase mem).subset inside) with rfl | rest
  · exact ⟨record, mem_cons_self, version, channel, sequence, withdrawn, rollout⟩
  · exact ⟨other, mem_cons_of_mem _ rest, rfl, rfl, le_refl _, id, .inr rfl⟩

theorem Keeps.perm {others : List ArtifactRecord} {sets : String → Prop}
    (keeps : Keeps index saved sets) (same : others.Perm index) : Keeps others saved sets :=
  ⟨fun record mem => keeps.kept record (same.subset mem)⟩

theorem newest_eq_some_iff (isIndex : IsIndex surface signer index) {server : ArtifactServer}
    (isServer : server.index = index) {channel : String} {sequence : Int} :
    server.newest surface signer channel = some sequence ↔
      ∃ record ∈ index, record.channel = channel ∧ record.sequence = sequence ∧
        ∀ other ∈ index, other.channel = channel → other.sequence ≤ sequence := by
  have perm := isIndex.load_perm
  unfold newest
  rw [isServer, Option.map_eq_some_iff]
  constructor
  · rintro ⟨record, found, rfl⟩
    obtain ⟨isChannel, front, back, split, earlier⟩ := find?_eq_some_iff_append.mp found
    have descending := @pairwise_load surface signer index
    rw [split, pairwise_append] at descending
    refine ⟨record, perm.subset (mem_of_find?_eq_some found), by simpa using isChannel, rfl,
      fun other mem otherChannel => ?_⟩
    have inside := perm.symm.subset mem
    rw [split] at inside
    rcases mem_append.mp inside with before | here
    · have notChannel := earlier other before
      simp [otherChannel] at notChannel
    · rcases mem_cons.mp here with rfl | after
      · exact le_refl _
      · exact rel_of_pairwise_cons descending.2.1 after
  · rintro ⟨record, mem, isChannel, rfl, most⟩
    cases found : (load surface signer index).find? fun record => record.channel = channel with
    | none =>
      have noOther := find?_eq_none.mp found record (perm.symm.subset mem)
      simp [isChannel] at noOther
    | some first =>
      refine ⟨first, rfl, ?_⟩
      obtain ⟨firstChannel, front, back, split, earlier⟩ := find?_eq_some_iff_append.mp found
      have descending := @pairwise_load surface signer index
      rw [split, pairwise_append] at descending
      have inside := perm.symm.subset mem
      have atMost := most first (perm.subset (mem_of_find?_eq_some found))
        (by simpa using firstChannel)
      have atLeast : record.sequence ≤ first.sequence := by
        rw [split] at inside
        rcases mem_append.mp inside with before | here
        · have notChannel := earlier record before
          simp [isChannel] at notChannel
        · rcases mem_cons.mp here with rfl | after
          · exact le_refl _
          · exact rel_of_pairwise_cons descending.2.1 after
      omega

end Index

end ArtifactServer

end CloudApi

end LongHub
