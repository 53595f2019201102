import LongHub.ClientReleaseRoutes

/-!
# Client releases

The server of the client releases and what its index keeps.
-/

namespace LongHub

open List
/-! ## The server of the client releases -/

namespace ClientRelease

open ClientUpdate (SignedClientUpdateMetadata UpdateChannel)
open ManagerUpdate (compareClientVersions maxInstallerBytes)

/-- The meter counts a chunk and passes it on to the file, or refuses it. -/
def ReleaseUpload.take (upload : ReleaseUpload) (chunk : List UInt8) : ReleaseUpload :=
  if maxInstallerBytes < upload.received.length + chunk.length then
    { upload with tooLarge := true }
  else { upload with received := upload.received ++ chunk }

structure ReleaseServer where
  directory : ReleaseDirectory
  uploads : List ReleaseUpload
  /-- The oldest first. -/
  answers : List (UpdateChannel × Option SignedClientUpdateMetadata)

def ReleaseServer.empty : ReleaseServer := ⟨.empty, [], []⟩

/-- What a server runs without interruption. -/
inductive ReleaseRequest where
  /-- The id is the random part of the name of the temporary file. -/
  | beginUpload (form : UploadForm) (id : Nat)
  | completeUpload (which : Nat) (now seed : String)
  | breakOffUpload (which : Nat)
  | setRollout (actor version status : String) (basisPoints : Int) (now : String)
  | latest (channel : Option String)

/-- What the server remembers of a request that has come to its end. -/
inductive ReleaseResponse where
  | uploading (upload : ReleaseUpload)
  | changed (record : ClientReleaseRecord)
  | latest (channel : UpdateChannel) (metadata : Option SignedClientUpdateMetadata)

inductive ReleaseAction where
  | handle (request : ReleaseRequest) (choices : List Bool)
  | arrive (which : Nat) (chunk : List UInt8)
  /-- The process ends while it handles the request, and starts again. -/
  | crash (request : ReleaseRequest) (choices : List Bool)

namespace ReleaseServer

section Server

variable (signer : ReleaseSigner)

variable (server : ReleaseServer)

/-- Random names are new. -/
def isFresh (id : Nat) : Bool :=
  (server.directory.temporaries id).isNone && server.uploads.all fun upload => upload.id ≠ id

@[grind =]
def program : ReleaseRequest → Option (ReleaseProgram ReleaseResponse)
  | .beginUpload form id =>
    if server.isFresh id then some do return .uploading (← beginUpload signer form id) else none
  | .completeUpload which now seed =>
    (server.uploads[which]?.filter fun upload => !upload.tooLarge).map fun upload => do
      return .changed (← completeUpload signer upload now seed)
  | .breakOffUpload which =>
    server.uploads[which]?.map fun upload => do
      return .changed (← ClientRelease.breakOffUpload upload)
  | .setRollout actor version status basisPoints now =>
    some do return .changed (← setRollout signer actor version status basisPoints now)
  | .latest channel => some do
      let answer ← latest signer channel
      return .latest answer.1 answer.2

def remaining : ReleaseRequest → List ReleaseUpload
  | .completeUpload which _ _ | .breakOffUpload which => server.uploads.eraseIdx which
  | _ => server.uploads

def answered (request : ReleaseRequest) (outcome : Except ReleaseError ReleaseResponse)
    (directory : ReleaseDirectory) : ReleaseServer :=
  let after := { server with directory := directory, uploads := server.remaining request }
  match outcome with
  | .ok (.uploading upload) => { after with uploads := after.uploads ++ [upload] }
  | .ok (.latest channel metadata) =>
    { after with answers := after.answers ++ [(channel, metadata)] }
  | .ok (.changed _) | .error _ => after

def arrive (which : Nat) (chunk : List UInt8) : Option ReleaseServer :=
  server.uploads[which]?.map fun upload =>
    let taken := upload.take chunk
    { server with
      directory := { server.directory with
        temporaries :=
          Function.update server.directory.temporaries upload.id (some taken.received) }
      uploads := server.uploads.set which taken }

def step : ReleaseAction → Option ReleaseServer
  | .handle request choices => do
    let program ← server.program signer request
    let (outcome, directory) ← releaseDisk.finish program server.directory choices
    return server.answered request outcome directory
  | .arrive which chunk => server.arrive which chunk
  | .crash request choices => do
    let program ← server.program signer request
    let (_, directory) ← releaseDisk.advance program server.directory choices
    return { server with directory := directory, uploads := [] }

/-- The states that an empty directory leads to. -/
def Reached : ReleaseServer → Prop :=
  GuardedRun (step signer) (fun _ _ => True) empty

end Server

end ReleaseServer

def ReleaseDirectory.releases (directory : ReleaseDirectory) : List ClientReleaseRecord :=
  (directory.index.getD []).filterMap ReleaseItem.record?

def VersionAtMost (first second : String) : Prop :=
  ∃ order, compareClientVersions first second = some order ∧ order ≤ 0

def Stored (signer : ReleaseSigner) (directory : ReleaseDirectory)
    (record : ClientReleaseRecord) : Prop :=
  record.manifest.filename = installerName record.version ∧
    ∃ content, directory.targets record.manifest.filename = some content ∧
      content.length = record.manifest.size ∧ signer.sha256 content = record.manifest.sha256

structure WellIndexed (signer : ReleaseSigner) (directory : ReleaseDirectory) : Prop where
  sequences : (directory.releases.map ClientReleaseRecord.sequence).Nodup
  versions : (directory.releases.map ClientReleaseRecord.version).Nodup
  ordered : ∀ first ∈ directory.releases, ∀ second ∈ directory.releases,
    first.channel = second.channel → first.sequence < second.sequence →
      VersionAtMost first.version second.version
  stored : ∀ record ∈ directory.releases, Stored signer directory record

def Follows (earlier later : UpdateChannel × Option SignedClientUpdateMetadata) : Prop :=
  earlier.1 = later.1 → ∀ shown, earlier.2 = some shown →
    ∃ next, later.2 = some next ∧ shown.manifest.sequence ≤ next.manifest.sequence ∧
      (shown.manifest.sequence = next.manifest.sequence → next = shown)

end ClientRelease

/-! ## What the index of client releases keeps -/

namespace ManagerUpdate

theorem compareDifferences_trans {lefts middles rights : List Nat}
    (sameLength : lefts.length = middles.length) (sameRest : middles.length = rights.length)
    (first : compareDifferences lefts middles ≤ 0)
    (second : compareDifferences middles rights ≤ 0) : compareDifferences lefts rights ≤ 0 := by
  induction lefts generalizing middles rights with
  | nil => simp [compareDifferences]
  | cons left lefts ih =>
    cases middles with
    | nil => simp at sameLength
    | cons middle middles =>
      cases rights with
      | nil => simp at sameRest
      | cons right rights =>
        have tails := @ih middles rights (by simpa using sameLength) (by simpa using sameRest)
        simp only [compareDifferences] at first second ⊢
        split_ifs at first second ⊢ <;> omega

theorem compareDifferences_swap (lefts rights : List Nat) :
    compareDifferences rights lefts = -compareDifferences lefts rights := by
  induction lefts generalizing rights with
  | nil => cases rights <;> simp [compareDifferences]
  | cons left lefts ih =>
    cases rights with
    | nil => simp [compareDifferences]
    | cons right rights =>
      rw [compareDifferences, compareDifferences, ih]
      split_ifs <;> omega

theorem length_clientVersion {version : String} {numbers : List Nat}
    (isVersion : ClientUpdate.clientVersion version = some numbers) : numbers.length = 3 :=
  CloudCli.length_versionNumbers (CloudCli.versionNumbers_of_clientVersion isVersion).1

end ManagerUpdate

namespace ClientRelease

open ClientUpdate (ClientUpdateManifest SignedClientUpdateMetadata UpdateChannel clientVersion)
open ManagerUpdate (compareClientVersions compareDifferences_trans compareDifferences_swap
  length_clientVersion)

section Versions

variable {first second third : String}

theorem compareClientVersions_eq_some_iff {order : Int} :
    compareClientVersions first second = some order ↔
      ∃ lefts rights, clientVersion first = some lefts ∧ clientVersion second = some rights ∧
        ManagerUpdate.compareDifferences lefts rights = order := by
  simp only [compareClientVersions, bind, Option.bind_eq_some_iff, pure, Option.some.injEq]
  tauto

theorem VersionAtMost.trans (one : VersionAtMost first second)
    (other : VersionAtMost second third) : VersionAtMost first third := by
  obtain ⟨order, compares, atMost⟩ := one
  obtain ⟨nextOrder, comparesNext, atMostNext⟩ := other
  obtain ⟨lefts, middles, areLefts, areMiddles, rfl⟩ :=
    compareClientVersions_eq_some_iff.mp compares
  obtain ⟨middles', rights, areMiddles', areRights, rfl⟩ :=
    compareClientVersions_eq_some_iff.mp comparesNext
  have same : middles = middles' := Option.some.inj (areMiddles.symm.trans areMiddles')
  subst same
  have leftLength := length_clientVersion areLefts
  have middleLength := length_clientVersion areMiddles
  have rightLength := length_clientVersion areRights
  exact ⟨_, compareClientVersions_eq_some_iff.mpr ⟨lefts, rights, areLefts, areRights, rfl⟩,
    compareDifferences_trans (by omega) (by omega) atMost atMostNext⟩

theorem versionAtMost_of_pos {order : Int}
    (compares : compareClientVersions second first = some order) (higher : ¬ order ≤ 0) :
    VersionAtMost first second := by
  obtain ⟨lefts, rights, areLefts, areRights, rfl⟩ := compareClientVersions_eq_some_iff.mp compares
  refine ⟨_, compareClientVersions_eq_some_iff.mpr ⟨rights, lefts, areRights, areLefts, rfl⟩, ?_⟩
  rw [compareDifferences_swap]
  omega

end Versions

structure Numbered (records : List ClientReleaseRecord) : Prop where
  sequences : (records.map ClientReleaseRecord.sequence).Nodup
  versions : (records.map ClientReleaseRecord.version).Nodup
  ordered : ∀ first ∈ records, ∀ second ∈ records, first.channel = second.channel →
    first.sequence < second.sequence → VersionAtMost first.version second.version

/-- Every record is still there, or one of its channel with a higher sequence. -/
def Continues (records saved : List ClientReleaseRecord) : Prop :=
  ∀ record ∈ records, ∃ kept ∈ saved, kept.channel = record.channel ∧
    (record.sequence < kept.sequence ∨ kept = record)

section Numbered

variable {records others releases : List ClientReleaseRecord}
variable {record existing newest : ClientReleaseRecord} {channel : UpdateChannel}

theorem Numbered.perm (numbered : Numbered records) (same : others.Perm records) :
    Numbered others where
  sequences := (same.map _).nodup_iff.mpr numbered.sequences
  versions := (same.map _).nodup_iff.mpr numbered.versions
  ordered first isFirst second isSecond :=
    numbered.ordered first (same.subset isFirst) second (same.subset isSecond)

theorem Numbered.sublist (numbered : Numbered records) (part : others.Sublist records) :
    Numbered others where
  sequences := numbered.sequences.sublist (part.map _)
  versions := numbered.versions.sublist (part.map _)
  ordered first isFirst second isSecond :=
    numbered.ordered first (part.subset isFirst) second (part.subset isSecond)

theorem numbered_nil : Numbered [] :=
  ⟨nodup_nil, nodup_nil, fun _ mem => absurd mem not_mem_nil⟩

theorem Numbered.cons (numbered : Numbered records)
    (highest : ∀ other ∈ records, other.sequence < record.sequence)
    (newVersion : record.version ∉ records.map ClientReleaseRecord.version)
    (above : ∀ other ∈ records, other.channel = record.channel →
      VersionAtMost other.version record.version) : Numbered (record :: records) where
  sequences := by
    refine nodup_cons.mpr ⟨fun listed => ?_, numbered.sequences⟩
    obtain ⟨other, mem, same⟩ := mem_map.mp listed
    have lower := highest other mem
    omega
  versions := nodup_cons.mpr ⟨newVersion, numbered.versions⟩
  ordered first isFirst second isSecond sameChannel lower := by
    rcases mem_cons.mp isSecond with rfl | later
    · rcases mem_cons.mp isFirst with rfl | earlier
      · exact absurd lower (lt_irrefl _)
      · exact above first earlier sameChannel
    · rcases mem_cons.mp isFirst with rfl | earlier
      · have := highest second later
        omega
      · exact numbered.ordered first earlier second later sameChannel lower

theorem continues_cons : Continues records (record :: records) :=
  fun other mem => ⟨other, mem_cons_of_mem _ mem, rfl, .inr rfl⟩

theorem Continues.perm (continues : Continues records releases) (same : others.Perm records) :
    Continues others releases :=
  fun record mem => continues record (same.subset mem)

theorem continues_replace (channel : record.channel = existing.channel)
    (higher : existing.sequence < record.sequence) :
    Continues records (record :: records.erase existing) := by
  intro other mem
  by_cases same : other = existing
  · subst same
    exact ⟨record, mem_cons_self, channel, .inl higher⟩
  · exact ⟨other, mem_cons_of_mem _ ((mem_erase_of_ne same).mpr mem), rfl, .inr rfl⟩

/-- The records in the order in which they are looked through. -/
structure Loaded (records releases : List ClientReleaseRecord) : Prop where
  perm : releases.Perm records
  descending : releases.Pairwise fun left right => right.sequence ≤ left.sequence

instance : Std.Total fun left right : ClientReleaseRecord => right.sequence ≤ left.sequence :=
  ⟨fun left right => le_total right.sequence left.sequence⟩

instance : IsTrans ClientReleaseRecord fun left right => right.sequence ≤ left.sequence :=
  ⟨fun _ _ _ first second => le_trans second first⟩

theorem loaded_of_trustedReleases {signer : ReleaseSigner} {items : List ReleaseItem}
    (trusted : trustedReleases signer items = .ok releases) :
    Loaded (items.filterMap ReleaseItem.record?) releases := by
  simp only [trustedReleases] at trusted
  split_ifs at trusted
  cases trusted
  exact ⟨perm_insertionSort _ _, pairwise_insertionSort _ _⟩

theorem Loaded.latest (loaded : Loaded records releases)
    (found : latestInChannel releases channel = some newest) :
    newest ∈ records ∧ newest.channel = channel ∧
      ∀ other ∈ records, other.channel = channel → other.sequence ≤ newest.sequence := by
  obtain ⟨isChannel, front, back, rfl, notFront⟩ := find?_eq_some_iff_append.mp found
  refine ⟨loaded.perm.subset (by simp), by simpa using isChannel, fun other mem same => ?_⟩
  have listed := loaded.perm.mem_iff.mpr mem
  rcases mem_append.mp listed with early | late
  · exact absurd same (by simpa using notFront other early)
  · rcases mem_cons.mp late with rfl | later
    · exact le_refl _
    · have ordered := (pairwise_append.mp loaded.descending).2.1
      exact rel_of_pairwise_cons ordered later

theorem Loaded.latest_none (loaded : Loaded records releases)
    (none : latestInChannel releases channel = none) (mem : record ∈ records) :
    record.channel ≠ channel := by
  have missing := find?_eq_none.mp none record (loaded.perm.mem_iff.mpr mem)
  simpa using missing

theorem Loaded.lt_nextSequence (loaded : Loaded records releases) (mem : record ∈ records) :
    record.sequence < nextSequence releases := by
  have listed := loaded.perm.mem_iff.mpr mem
  have descending := loaded.descending
  cases releases with
  | nil => cases listed
  | cons first rest =>
    have most : record.sequence ≤ first.sequence := by
      rcases mem_cons.mp listed with rfl | later
      · exact le_refl _
      · exact rel_of_pairwise_cons descending later
    simp only [nextSequence, head?_cons, Option.map_some, Option.getD_some]
    omega

theorem Loaded.numbered_upload (loaded : Loaded records releases) (numbered : Numbered records)
    (passes : checkVersion releases record.version record.channel = .ok ())
    (isNext : record.sequence = nextSequence releases) : Numbered (record :: releases) := by
  have numbered' := numbered.perm loaded.perm
  unfold checkVersion at passes
  split_ifs at passes with listed
  refine numbered'.cons (fun other mem => ?_) (fun mem => listed ?_)
    fun other mem sameChannel => ?_
  · rw [isNext]
    exact loaded.lt_nextSequence (loaded.perm.subset mem)
  · obtain ⟨other, inside, same⟩ := mem_map.mp mem
    exact any_eq_true.mpr ⟨other, inside, by simpa using same⟩
  · have inside := loaded.perm.subset mem
    cases found : latestInChannel releases record.channel with
    | none => exact absurd sameChannel (loaded.latest_none found inside)
    | some latest =>
      obtain ⟨isListed, isChannel, most⟩ := loaded.latest found
      rw [found] at passes
      cases compares : compareClientVersions record.version latest.version with
      | none => simp [compares] at passes
      | some order =>
        simp only [compares] at passes
        split_ifs at passes with notHigher
        have above := versionAtMost_of_pos compares notHigher
        have atMost := most other inside sameChannel
        rcases Nat.lt_or_eq_of_le atMost with lower | same
        · have older := numbered.ordered other inside latest isListed
            (sameChannel.trans isChannel.symm) lower
          exact older.trans above
        · have equal : other = latest := inj_on_of_nodup_map numbered.sequences inside isListed same
          exact equal ▸ above

theorem Loaded.numbered_rollout (loaded : Loaded records releases) (numbered : Numbered records)
    (found : releases.find? (fun release => release.version = existing.version) = some existing)
    (isLatest : (latestInChannel releases existing.channel).any
      (fun latest => latest.version = existing.version) = true)
    (version : record.version = existing.version) (channel : record.channel = existing.channel)
    (isNext : record.sequence = nextSequence releases) :
    Numbered (record :: releases.erase existing) := by
  have numbered' := numbered.perm loaded.perm
  have listed := mem_of_find?_eq_some found
  have split := numbered'.perm (perm_cons_erase listed).symm
  have versions := split.versions
  rw [map_cons, nodup_cons] at versions
  refine (numbered'.sublist erase_sublist).cons (fun other mem => ?_)
    (version ▸ versions.1) fun other mem sameChannel => ?_
  · rw [isNext]
    exact loaded.lt_nextSequence (loaded.perm.subset (mem_of_mem_erase mem))
  · obtain ⟨latest, foundLatest, sameVersion⟩ := (Option.any_eq_true _ _).mp isLatest
    obtain ⟨isListed, isChannel, most⟩ := loaded.latest foundLatest
    have equal : latest = existing := inj_on_of_nodup_map numbered.versions isListed
      (loaded.perm.subset listed) (by simpa using sameVersion)
    subst equal
    have inside := loaded.perm.subset (mem_of_mem_erase mem)
    have inChannel := sameChannel.trans channel
    have atMost := most other inside inChannel
    have differ : other.sequence ≠ latest.sequence := by
      intro same
      have equal : other = latest := inj_on_of_nodup_map numbered.sequences inside isListed same
      exact versions.1 (mem_map.mpr ⟨other, mem, equal ▸ rfl⟩)
    rw [version]
    exact numbered.ordered other inside latest isListed inChannel (by omega)

end Numbered

end ClientRelease

end LongHub
