import LongHub.RecordSize
import LongHub.PublishedRelease

/-!
# Published versions

What is told of a plugin that has come up, and how its version is published.
-/

namespace LongHub

open ClientUpdate JsonValue List ManagerUpdate Option String

/-! ## What is told of a plugin that has come up -/

namespace CloudCli

/-- The document of a plugin that was installed from its package. -/
def inspectFields (version : String) : List (String × JsonValue) := [
  ("plugin", .record [("id", .text pluginId), ("version", .text version),
    ("status", .text "loaded"), ("origin", .text "global"),
    ("packageName", .text pluginPackageName)]),
  ("install", .record [("source", .text "npm"), ("version", .text version),
    ("resolvedName", .text pluginPackageName), ("resolvedVersion", .text version),
    ("artifactKind", .text "npm-pack"), ("artifactFormat", .text "tgz"),
    ("npmTarballName", .text (pluginFilename version))]),
  ("tools", .array [.record [("names", .array [.text pluginToolName])]]),
  ("diagnostics", .array [])]

def inspectJson (version : String) : JsonValue := .record (inspectFields version)

def inspectText (version : String) : List Char := indented 0 (inspectJson version)

section Inspection

variable {version : String}

theorem wellFormed_texts {fields : List (String × String)} (names : List String)
    (keys : fields.map Prod.fst = names) (distinct : names.Nodup)
    (noIndex : ∀ name ∈ names, arrayIndex name = none) :
    JsonValue.WellFormed (.record (fields.map fun field => (field.1, .text field.2))) := by
  apply wellFormed_of_names names _ distinct noIndex
  · intro field mem
    obtain ⟨source, _, rfl⟩ := List.mem_map.mp mem
    exact .text _
  · rw [List.map_map]
    exact keys

theorem wellFormed_inspectJson (version : String) : (inspectJson version).WellFormed := by
  have plugin := @wellFormed_texts [("id", pluginId), ("version", version), ("status", "loaded"),
    ("origin", "global"), ("packageName", pluginPackageName)]
    ["id", "version", "status", "origin", "packageName"] rfl (by decide) (by decide)
  have install := @wellFormed_texts [("source", "npm"), ("version", version),
    ("resolvedName", pluginPackageName), ("resolvedVersion", version),
    ("artifactKind", "npm-pack"), ("artifactFormat", "tgz"),
    ("npmTarballName", pluginFilename version)]
    ["source", "version", "resolvedName", "resolvedVersion", "artifactKind", "artifactFormat",
      "npmTarballName"] rfl (by decide) (by decide)
  have tool : JsonValue.WellFormed (.record [("names", .array [.text pluginToolName])]) := by
    apply wellFormed_of_names ["names"] rfl (by decide) (by decide)
    simpa using JsonValue.WellFormed.array (by simpa using .text _)
  apply wellFormed_of_names ["plugin", "install", "tools", "diagnostics"] rfl (by decide)
    (by decide)
  simp only [inspectFields, forall_mem_cons, not_mem_nil, false_implies, implies_true, and_true]
  exact ⟨plugin, install, .array (by simpa using tool), .array (by simp)⟩

theorem numerals_inspectJson (version : String) : JsonValue.Numerals (inspectJson version) := by
  have record {fields : List (String × JsonValue)}
      (each : ∀ field ∈ fields, JsonValue.Numerals field.2) := JsonValue.Numerals.record each
  have texts (content : String) := JsonValue.Numerals.text content
  apply record
  simp only [inspectFields, forall_mem_cons, not_mem_nil, false_implies, implies_true, and_true]
  refine ⟨record ?_, record ?_, .array ?_, .array ?_⟩
  · simp [texts]
  · simp [texts]
  · exact forall_mem_singleton.mpr (record (by simpa using .array (by simp [texts])))
  · simp

/-- The document is read as it was printed. -/
theorem parse_inspectText (version : String) :
    parse (inspectText version) = some (inspectJson version) := by
  have read := parse_indented (numerals_inspectJson version)
    (wellFormed_inspectJson version) 0 isSpace_nil
  rwa [append_nil] at read

theorem byteCount_of_plain {text : List Char} (plain : ManagerUpdate.Plain text) :
    byteCount text = text.length := by
  induction text with
  | nil => rfl
  | cons char rest ih =>
    have small := plain char (by simp)
    have one : char.utf8Size = 1 := by
      apply Char.utf8Size_eq_one_iff.mpr
      rw [UInt32.le_iff_toNat_le]
      simp
      omega
    have inRest : ManagerUpdate.Plain rest := fun other mem => plain other (by simp [mem])
    rw [byteCount_cons, one, ih inRest, length_cons, Nat.add_comm]

theorem length_version_le (uploaded : (clientVersion version).isSome = true) :
    version.toList.length ≤ 29 := by
  obtain ⟨numbers, isVersion⟩ := isSome_iff_exists.mp uploaded
  have shortPart {part : List Char} {value : Nat}
      (isPart : versionPart part = some value) : part.length ≤ 9 := by
    unfold versionPart at isPart
    split_ifs at isPart with valid
    exact valid.2.2.1
  unfold clientVersion at isVersion
  split at isVersion
  · next major minor patch split =>
    have whole : ['.'].intercalate (version.toList.splitOn '.') = version.toList :=
      intercalate_splitOn '.'
    simp only [mapM_cons, mapM_nil, bind, bind_eq_some_iff, pure, Option.some.injEq] at isVersion
    obtain ⟨first, isFirst, rest, ⟨second, isSecond, others, ⟨third, isThird, none, -, -⟩, -⟩,
      -⟩ := isVersion
    have majorShort := shortPart isFirst
    have minorShort := shortPart isSecond
    have patchShort := shortPart isThird
    rw [← whole, split]
    simp [List.intercalate]
    omega
  · cases isVersion

theorem size_pluginFilename_le (small : version.utf8ByteSize ≤ 29) :
    (pluginFilename version).utf8ByteSize ≤ 64 := by
  have front : "longhub-openclaw-cloud-plugin-".utf8ByteSize = 30 := by decide
  have last : ".tgz".utf8ByteSize = 4 := by decide
  have total {first middle rest : Nat} (firstIs : first = 30) (restIs : rest = 4)
      (middleSmall : middle ≤ 29) : first + middle + rest ≤ 64 := by omega
  unfold pluginFilename
  rw [utf8ByteSize_append, utf8ByteSize_append]
  exact total front last small

/-- The texts of the document are short. -/
theorem bound_inspectJson_le (small : version.utf8ByteSize ≤ 29) :
    bound 0 (inspectJson version) ≤ 1024 * 1024 := by
  have filename := size_pluginFilename_le small
  have names : ∀ name ∈ [pluginId, pluginPackageName, pluginToolName, "loaded", "global", "npm",
      "npm-pack", "tgz", "id", "version", "status", "origin", "packageName", "source",
      "resolvedName", "resolvedVersion", "artifactKind", "artifactFormat", "npmTarballName",
      "names", "plugin", "install", "tools", "diagnostics"], name.utf8ByteSize ≤ 64 := by
    decide
  simp only [forall_mem_cons] at names
  simp only [inspectJson, inspectFields, bound, boundItems, boundFields]
  omega

theorem size_inspectText_le (uploaded : (clientVersion version).isSome = true) :
    (ofList (inspectText version)).utf8ByteSize ≤ 1024 * 1024 := by
  have small : version.utf8ByteSize ≤ 29 := by
    rw [← byteCount_toList, byteCount_of_plain (plain_of_versionPattern uploaded)]
    exact length_version_le uploaded
  have within := (byteCount_indented_le 0 (inspectJson version)).1
  exact within.trans (bound_inspectJson_le small)

theorem inspectRoot_inspectText (version : String) :
    inspectRoot (inspectText version) = some (inspectFields version) := by
  rw [inspectRoot, parse_inspectText, inspectJson]

theorem verifyRuntimeInspect_inspectText (uploaded : (clientVersion version).isSome = true) :
    verifyRuntimeInspect (inspectText version) version = .ok () := by
  simp only [verifyRuntimeInspect, Except.bind_eq_ok, Except.ensure_eq_ok,
    Except.require_eq_ok, decide_eq_true_eq]
  refine ⟨(), size_inspectText_le uploaded, _, inspectRoot_inspectText version, _, rfl, (), ?_,
    _, rfl, (), ?_, (), rfl, rfl⟩
  · simp [hasText, textField, lookup_cons]
  · simp [hasText, textField, lookup_cons]

theorem runtimeVersion_inspectText (uploaded : (clientVersion version).isSome = true) :
    runtimeVersion (inspectText version) = .ok version := by
  obtain ⟨numbers, areNumbers⟩ := isSome_iff_exists.mp (isSome_versionNumbers uploaded)
  have parts : semverParts version = .ok (numbers.map DoubleNumber.ofNat) := by
    simp [semverParts, areNumbers, Except.require, bind, Except.bind, pure, Except.pure]
  simp only [runtimeVersion, Except.bind_eq_ok, Except.require_eq_ok]
  exact ⟨_, inspectRoot_inspectText version, _, rfl, version, rfl, _, parts, (),
    verifyRuntimeInspect_inspectText uploaded, rfl⟩

end Inspection

end CloudCli

/-! ## Publishing a version -/

namespace CloudCli

/-- The highest sequence number comes first. -/
def Descending (records : List ReleaseRecord) : Prop :=
  records.Pairwise fun left right => right.manifest.sequence ≤ left.manifest.sequence

section Publishing

variable {keys : TrustedKeys} {key : SigningKey keys} {state : ReleaseState}
variable {files : List (String × Artifact)} {records : List ReleaseRecord}

theorem load_of_descending (isIndex : IsIndex key files records)
    (descending : Descending records) : load key records = records := by
  have all : records.filter (isListed key) = records :=
    filter_eq_self.mpr fun record mem => (isIndex.published record mem).isListed
  unfold load
  rw [all]
  exact descending.insertionSort_eq

theorem le_nextSequence (descending : Descending records) {record : ReleaseRecord}
    (mem : record ∈ records) : record.manifest.sequence ≤ nextSequence records := by
  cases records with
  | nil => cases mem
  | cons first rest =>
    have most : record.manifest.sequence ≤ first.manifest.sequence := by
      rcases mem_cons.mp mem with rfl | later
      · exact le_refl _
      · exact rel_of_pairwise_cons descending later
    simp only [nextSequence, head?_cons]
    split_ifs <;> omega

variable (key) (file : UploadedFile) (version now seed : String)

def uploadedRecord (records : List ReleaseRecord) : ReleaseRecord :=
  ⟨uploadManifest key ⟨version, "stable", records⟩ file.artifact now seed, false⟩

/-- The version when it is rolled out to everyone. -/
def releasedRecord (records : List ReleaseRecord) : ReleaseRecord :=
  let record := uploadedRecord key file version now seed records
  ⟨rolloutManifest key (record :: records) record.manifest "active" 10000 now, false⟩

def ReleaseState.publish (state : ReleaseState) : ReleaseState where
  index := releasedRecord key file version now seed state.index :: state.index
  files := (pluginFilename version, file.artifact) :: state.files
  uploads := []

theorem descending_uploadedRecord (descending : Descending records) :
    Descending (uploadedRecord key file version now seed records :: records) :=
  pairwise_cons.mpr ⟨fun _ mem => le_nextSequence descending mem, descending⟩

theorem descending_publish (descending : Descending state.index) :
    Descending (state.publish key file version now seed).index := by
  refine pairwise_cons.mpr ⟨fun record mem => ?_, descending⟩
  apply le_nextSequence (descending_uploadedRecord key file version now seed descending)
  exact mem_cons_of_mem _ mem

theorem run_publish (wellFormed : state.WellFormed key) (descending : Descending state.index)
    (uploadable : (clientVersion version).isSome = true) (noUploads : state.uploads = [])
    (isNew : ∀ record ∈ state.index, record.version ≠ version)
    (noFile : state.files.lookup (pluginFilename version) = none)
    (notEmpty : 0 < file.artifact.size) (small : file.artifact.size ≤ maxUploadBytes) :
    ReleaseRun key state (state.publish key file version now seed) := by
  let begun : ReleaseState := { state with uploads := [⟨version, "stable", state.index⟩] }
  have begins : state.step key (.beginUpload version (pluginFilename version) "stable") =
      some begun := by
    have loaded := load_of_descending wellFormed.index descending
    have notListed : (state.index.any fun record => record.version = version) = false := by
      simpa using isNew
    simp [ReleaseState.step, beginUpload, loaded, uploadable, notListed, isChannel, noUploads,
      basename_pluginFilename uploadable, begun]
  let record := uploadedRecord key file version now seed state.index
  let uploaded : ReleaseState := {
    index := record :: state.index
    files := (pluginFilename version, file.artifact) :: state.files
    uploads := [] }
  have finishes : begun.step key (.finishUpload 0 file now seed) = some uploaded := by
    simp [ReleaseState.step, finishUpload, begun, notEmpty, small, noFile, uploaded, record,
      uploadedRecord]
  have releases : uploaded.step key (.setRollout version "active" 10000 now) =
      some (state.publish key file version now seed) := by
    have uploadedWellFormed : uploaded.WellFormed key :=
      wellFormed_step _ (wellFormed_step _ wellFormed begins) finishes
    have loaded : load key uploaded.index = record :: state.index :=
      load_of_descending uploadedWellFormed.index
        (descending_uploadedRecord key file version now seed descending)
    have found : (record :: state.index).find? (fun other => other.version = version) =
        some record := find?_cons_of_pos (by simp [record, uploadedRecord,
          ReleaseRecord.version, uploadManifest, signManifest])
    have latest : (record :: state.index).find?
        (fun other => other.manifest.channel = record.manifest.channel) = some record :=
      find?_cons_of_pos (by simp)
    simp only [ReleaseState.step, setRollout, loaded, found, bind_some, latest]
    rw [if_pos (by simp [record, uploadedRecord, ReleaseRecord.version, uploadManifest,
      signManifest]), erase_cons_head]
    rfl
  exact ((GuardedRun.refl.tail _ trivial begins).tail _ trivial finishes).tail _ trivial releases

theorem latest_publish (wellFormed : (state.publish key file version now seed).WellFormed key)
    (descending : Descending state.index) :
    (state.publish key file version now seed).latest key "stable" =
      some (releasedRecord key file version now seed state.index).manifest := by
  unfold ReleaseState.latest
  rw [load_of_descending wellFormed.index (descending_publish key file version now seed descending)]
  have isFirst : ∀ records : List ReleaseRecord,
      (releasedRecord key file version now seed state.index :: records).find? (fun record =>
        !record.withdrawn && record.manifest.channel = "stable" &&
          record.manifest.rollout.status = "active" && 0 < record.manifest.rollout.basisPoints) =
        some (releasedRecord key file version now seed state.index) := fun _ =>
    find?_cons_of_pos (by simp [releasedRecord, uploadedRecord, rolloutManifest,
      uploadManifest, signManifest])
  exact congrArg (Option.map ReleaseRecord.manifest) (isFirst state.index)

variable {key version}

theorem run_withdraw (wellFormed : state.WellFormed key) {record : ReleaseRecord}
    (mem : record ∈ state.index) (listed : record.withdrawn = false) :
    ReleaseRun key state { state with
      index := ⟨record.manifest, true⟩ :: (load key state.index).erase record } := by
  have found : (load key state.index).find? (fun other => other.version = record.version) =
      some record :=
    (List.find?_eq_some_iff_of_nodup wellFormed.index.load.distinct).mpr
      ⟨(mem_load wellFormed).mpr mem, rfl⟩
  have withdraws : state.step key (.withdraw record.version) = some { state with
      index := ⟨record.manifest, true⟩ :: (load key state.index).erase record } := by
    simp [ReleaseState.step, withdraw, found, listed]
  exact GuardedRun.refl.tail _ trivial withdraws

theorem latest_of_only (wellFormed : state.WellFormed key) {record : ReleaseRecord}
    (mem : record ∈ state.index) (listed : record.withdrawn = false)
    (channel : record.manifest.channel = "stable")
    (active : record.manifest.rollout.status = "active")
    (positive : 0 < record.manifest.rollout.basisPoints)
    (only : ∀ other ∈ state.index, other.withdrawn = false → other = record) :
    state.latest key "stable" = some record.manifest := by
  have inside := (mem_load wellFormed).mpr mem
  cases latest : state.latest key "stable" with
  | some manifest =>
    obtain ⟨other, otherMember, rfl, otherListed⟩ := exists_of_latest wellFormed latest
    rw [only other otherMember otherListed]
  | none =>
    have nothing := map_eq_none_iff.mp latest
    have refused := find?_eq_none.mp nothing record inside
    simp [listed, channel, active, positive] at refused

end Publishing

theorem wellFormed_unsignedJson (manifest : ReleaseManifest) :
    (unsignedJson manifest).WellFormed := by
  have compatibility := @wellFormed_texts [("openclaw_version", manifest.openclawVersion),
    ("node", manifest.node)] ["openclaw_version", "node"] rfl (by decide) (by decide)
  have rollout : JsonValue.WellFormed (.record [("status", .text manifest.rollout.status),
      ("basis_points", .number (toString manifest.rollout.basisPoints)),
      ("seed", .text manifest.rollout.seed),
        ("updated_at", .text manifest.rollout.updatedAt)]) := by
    apply wellFormed_of_names ["status", "basis_points", "seed", "updated_at"] rfl
      (by decide) (by decide)
    simp only [forall_mem_cons, not_mem_nil, false_implies, implies_true, and_true]
    exact ⟨.text _, .number _, .text _, .text _⟩
  apply wellFormed_of_names ["schema_version", "product_surface", "sequence", "version",
    "channel", "platform", "arch", "filename", "size", "sha256", "url_path", "published_at",
    "compatibility", "rollout", "signature_key_id"] rfl (by decide) (by decide)
  simp only [unsignedFields, forall_mem_cons, not_mem_nil, false_implies, implies_true, and_true]
  exact ⟨.text _, .text _, .number _, .text _, .text _, .text _, .text _, .text _, .number _,
    .text _, .text _, .text _, compatibility, rollout, .text _⟩

theorem numerals_unsignedJson (manifest : ReleaseManifest) :
    JsonValue.Numerals (unsignedJson manifest) := by
  have record {fields : List (String × JsonValue)}
      (each : ∀ field ∈ fields, JsonValue.Numerals field.2) := JsonValue.Numerals.record each
  have text (content : String) := JsonValue.Numerals.text content
  have number (value : Int) : JsonValue.Numerals (.number (toString value)) :=
    .number (DoubleNumber.isSome_readNumeral_toString value)
  have compatibility := @record [("openclaw_version", .text manifest.openclawVersion),
    ("node", .text manifest.node)] (by simp [text])
  have rollout := @record [("status", .text manifest.rollout.status),
      ("basis_points", .number (toString manifest.rollout.basisPoints)),
      ("seed", .text manifest.rollout.seed), ("updated_at", .text manifest.rollout.updatedAt)]
      (by
        simp only [forall_mem_cons, not_mem_nil, false_implies, implies_true, and_true]
        exact ⟨text _, number _, text _, text _⟩)
  apply record
  simp only [unsignedFields, forall_mem_cons, not_mem_nil, false_implies, implies_true, and_true]
  exact ⟨text _, text _, number _, text _, text _, text _, text _, text _, number _, text _,
    text _, text _, compatibility, rollout, text _⟩

theorem version_eq_of_signedPayload_eq {one other : ReleaseManifest}
    (same : signedPayload one = signedPayload other) : one.version = other.version := by
  have sorted := sortKeys_eq_of_canonicalStringify_eq (numerals_unsignedJson one)
    (numerals_unsignedJson other) (wellFormed_unsignedJson one) (wellFormed_unsignedJson other) same
  have oneField : ("version", JsonValue.text one.version) ∈ unsignedFields one := by
    simp [unsignedFields]
  have otherField : ("version", JsonValue.text other.version) ∈ unsignedFields other := by
    simp [unsignedFields]
  have distinct (manifest : ReleaseManifest) :
      ((unsignedFields manifest).map Prod.fst).Nodup := by simp [unsignedFields]
  have texts := sortKeys_field_eq (distinct one) (distinct other) sorted oneField otherField
  simpa [sortKeys] using texts

open Classical in
noncomputable def uploadKeys : TrustedKeys where
  isTrusted keyId := keyId = "cloud-plugin-2026-08"
  verifies _ payload _ := decide (∃ manifest : ReleaseManifest,
    (clientVersion manifest.version).isSome = true ∧ signedPayload manifest = payload)
  uploaded manifest _ accepted := by
    obtain ⟨other, uploaded, same⟩ := of_decide_eq_true accepted
    rwa [version_eq_of_signedPayload_eq same] at uploaded

theorem uploadKey_isSignature : ∀ _ : List Char,
    signaturePattern (ofList (List.replicate 86 'A' ++ ['=', '='])) = true := by
  intro _
  decide

noncomputable def uploadKey : SigningKey uploadKeys where
  keyId := "cloud-plugin-2026-08"
  sign _ := ofList (List.replicate 86 'A' ++ ['=', '='])
  isTrusted := by simp [uploadKeys]
  isSignature := uploadKey_isSignature
  verifies manifest uploaded := by
    simp only [uploadKeys, decide_eq_true_eq]
    exact ⟨manifest, uploaded, rfl⟩

def packageFile (version : String) : UploadedFile where
  artifact := ⟨1, ofList (List.replicate 64 '0'), some (pluginPackageName, version)⟩
  isHash := by
    rw [toList_ofList]
    decide

section TwoReleases

variable (first second : String)

noncomputable def firstRelease : ReleaseRecord :=
  releasedRecord uploadKey (packageFile first) first "" "" []

noncomputable def secondRelease : ReleaseRecord :=
  releasedRecord uploadKey (packageFile second) second "" "" [firstRelease first]

noncomputable def twoReleases : ReleaseState :=
  (ReleaseState.empty.publish uploadKey (packageFile first) first "" "").publish uploadKey
    (packageFile second) second "" ""

theorem index_twoReleases :
    (twoReleases first second).index = [secondRelease first second, firstRelease first] := rfl

theorem sequence_firstRelease : (firstRelease first).manifest.sequence = 2 := by
  simp [firstRelease, releasedRecord, uploadedRecord, rolloutManifest, uploadManifest,
    signManifest, nextSequence]

theorem sequence_secondRelease : (secondRelease first second).manifest.sequence = 4 := by
  simp [secondRelease, releasedRecord, uploadedRecord, rolloutManifest, uploadManifest,
    signManifest, nextSequence, sequence_firstRelease]

variable {first second}

theorem lookup_twoReleases (differ : first ≠ second) :
    (twoReleases first second).files.lookup (pluginFilename first) =
        some (packageFile first).artifact ∧
      (twoReleases first second).files.lookup (pluginFilename second) =
        some (packageFile second).artifact := by
  have notSame : (pluginFilename first == pluginFilename second) = false := by
    simpa using fun same => differ (pluginFilename_injective same)
  constructor
  · change lookup _ ((pluginFilename second, _) :: (pluginFilename first, _) :: []) = _
    rw [lookup_cons, notSame]
    simp
  · change lookup _ ((pluginFilename second, _) :: (pluginFilename first, _) :: []) = _
    simp

theorem descending_twoReleases (first second : String) :
    Descending (twoReleases first second).index := by
  have noRecords : Descending ReleaseState.empty.index := .nil
  exact descending_publish uploadKey _ _ _ _ (descending_publish uploadKey _ _ _ _ noRecords)

theorem run_twoReleases (differ : first ≠ second)
    (firstUploadable : (clientVersion first).isSome = true)
    (secondUploadable : (clientVersion second).isSome = true) :
    ReleaseRun uploadKey .empty (twoReleases first second) := by
  have noRecords : Descending ReleaseState.empty.index := .nil
  have one : (0 : Nat) < 1 ∧ 1 ≤ maxUploadBytes := by decide
  have firstRun := run_publish uploadKey (packageFile first) first "" "" wellFormed_empty noRecords
    firstUploadable rfl (by simp [ReleaseState.empty]) rfl one.1 one.2
  have notSame : (pluginFilename second == pluginFilename first) = false := by
    simpa using fun same => differ (pluginFilename_injective same).symm
  have secondRun := run_publish uploadKey (packageFile second) second "" ""
    (wellFormed_empty.run firstRun) (descending_publish uploadKey _ _ _ _ noRecords)
    secondUploadable rfl (by
      intro record mem
      rw [mem_singleton.mp mem]
      exact differ) (by
      change lookup _ ((pluginFilename first, _) :: []) = _
      rw [lookup_cons, notSame]
      rfl) one.1 one.2
  exact firstRun.trans secondRun

end TwoReleases

end CloudCli

end LongHub
