import LongHub.ManifestText
import LongHub.ReleaseIndex

/-!
# What the client reads of a release index

A version that is listed and not withdrawn is answered with its manifest, and its download with its
artifact; any other version is not answered.
-/

namespace LongHub

open ClientUpdate List

namespace CloudCli

section Names

variable {version : String}

theorem tgz_toList : ".tgz".toList = ['.', 't', 'g', 'z'] := by decide

theorem pluginFilename_toList (version : String) : (pluginFilename version).toList =
      "longhub-openclaw-cloud-plugin-".toList ++ (version.toList ++ ['.', 't', 'g', 'z']) := by
  unfold pluginFilename
  rw [String.toList_append, String.toList_append, tgz_toList]
  exact append_assoc _ _ _

theorem pluginFilename_injective : Function.Injective pluginFilename := by
  intro left right same
  have texts := congrArg String.toList same
  simp only [pluginFilename_toList] at texts
  have versions := append_cancel_right (append_cancel_left texts)
  exact String.toList_inj.mp versions

theorem basename_eq {path name : String} {folder : List Char} {last : Char} {front : List Char}
    (isPath : path.toList = folder ++ name.toList)
    (folderEnds : ∀ char, folder.getLast? = some char → char = '/')
    (nameEnds : name.toList = front ++ [last]) (noSlash : '/' ∉ name.toList) :
    basename path = name := by
  have notSlash : last ≠ '/' := by
    rintro rfl
    exact noSlash (by simp [nameEnds])
  have each : ∀ char ∈ name.toList.reverse, decide (char ≠ '/') = true := by
    intro char mem
    have inside := mem_reverse.mp mem
    simp only [decide_eq_true_eq]
    rintro rfl
    exact noSlash inside
  have kept : path.toList.reverse.dropWhile (· = '/') = name.toList.reverse ++ folder.reverse := by
    rw [isPath, reverse_append, nameEnds, reverse_append, reverse_singleton,
      singleton_append, cons_append, dropWhile_cons_of_neg (by simpa using notSlash)]
  have nothing : folder.reverse.takeWhile (fun char => decide (char ≠ '/')) = [] := by
    cases reversed : folder.reverse with
    | nil => rfl
    | cons char rest =>
      have isLast : folder.getLast? = some char := by
        rw [getLast?_eq_head?_reverse, reversed]
        rfl
      simp [folderEnds char isLast]
  unfold basename
  rw [kept, takeWhile_append_of_pos each, nothing]
  simp [String.ofList_toList]

theorem pluginFilename_ends (version : String) : (pluginFilename version).toList =
    "longhub-openclaw-cloud-plugin-".toList ++ (version.toList ++ ['.', 't', 'g']) ++ ['z'] := by
  simp [pluginFilename_toList]

variable (uploaded : (clientVersion version).isSome = true)
include uploaded

theorem char_of_clientVersion
    {char : Char} (mem : char ∈ version.toList) : char.isDigit = true ∨ char = '.' := by
  obtain ⟨numbers, isVersion⟩ := Option.isSome_iff_exists.mp uploaded
  obtain ⟨major, minor, patch, split, digits, -⟩ := ManagerUpdate.clientVersion_cases isVersion
  have isDigit : ∀ part ∈ [major, minor, patch], char ∈ part → char.isDigit = true :=
    fun part isPart inside => all_eq_true.mp (digits part isPart).1 char inside
  rw [split] at mem
  simp only [mem_append, mem_cons] at mem
  rcases mem with inside | rfl | inside | rfl | inside
  · exact .inl (isDigit major (by simp) inside)
  · exact .inr rfl
  · exact .inl (isDigit minor (by simp) inside)
  · exact .inr rfl
  · exact .inl (isDigit patch (by simp) inside)

theorem slash_not_mem_version : '/' ∉ version.toList := by
  intro mem
  rcases char_of_clientVersion uploaded mem with isDigit | isPoint
  · cases isDigit
  · exact absurd isPoint (by decide)

theorem version_ne_nil : version.toList ≠ [] := by
  intro empty
  have isEmpty : version = "" := String.toList_inj.mp empty
  rw [isEmpty] at uploaded
  cases uploaded

theorem slash_not_mem_pluginFilename : '/' ∉ (pluginFilename version).toList := by
  rw [pluginFilename_toList]
  simp only [mem_append, not_or]
  exact ⟨by decide, slash_not_mem_version uploaded, by decide⟩

theorem basename_downloadPrefix :
    basename (downloadPrefix ++ pluginFilename version) = pluginFilename version := by
  apply basename_eq (String.toList_append) _ (pluginFilename_ends version)
    (slash_not_mem_pluginFilename uploaded)
  have folder : downloadPrefix.toList = "/downloads/cloud-plugin".toList ++ ['/'] := by
    decide
  rw [folder]
  simp

theorem basename_pluginFilename : basename (pluginFilename version) = pluginFilename version :=
  basename_eq (nil_append _).symm (by simp) (pluginFilename_ends version)
    (slash_not_mem_pluginFilename uploaded)

theorem urlPathPattern_of_version :
    urlPathPattern (downloadPrefix ++ pluginFilename version) = true := by
  have front : (downloadPrefix ++ pluginFilename version).toList =
      "/downloads/cloud-plugin/longhub-openclaw-cloud-plugin-".toList ++
        (version.toList ++ ['.', 't', 'g', 'z']) := by
    have whole : downloadPrefix.toList ++ "longhub-openclaw-cloud-plugin-".toList =
        "/downloads/cloud-plugin/longhub-openclaw-cloud-plugin-".toList := by decide
    rw [String.toList_append, pluginFilename_toList, ← append_assoc, whole]
  have middle : (version.toList ++ ['.', 't', 'g', 'z']).dropLast.dropLast.dropLast.dropLast =
      version.toList := by
    have split : version.toList ++ ['.', 't', 'g', 'z'] =
        version.toList ++ ['.'] ++ ['t'] ++ ['g'] ++ ['z'] := by simp
    simp only [split, dropLast_concat]
  unfold urlPathPattern
  simp only [front, drop_left, middle, tgz_toList]
  simp [version_ne_nil uploaded, slash_not_mem_version uploaded]

end Names

section Answers

variable {keys : TrustedKeys} {key : SigningKey keys} {state : ReleaseState}
variable {version : String} {record : ReleaseRecord}

theorem mem_load (wellFormed : state.WellFormed key) :
    record ∈ load key state.index ↔ record ∈ state.index :=
  wellFormed.index.load_perm.mem_iff

theorem versionRelease_eq_ok_iff (wellFormed : state.WellFormed key) {manifest : ReleaseManifest} :
    state.versionRelease key version = .ok manifest ↔
      ∃ record ∈ state.index, record.version = version ∧ record.withdrawn = false ∧
        record.manifest = manifest := by
  have unique (found : ReleaseRecord) :
      (load key state.index).find? (fun record => record.version = version) = some found ↔
        found ∈ load key state.index ∧ found.version = version :=
    find?_eq_some_iff_of_nodup wellFormed.index.load.distinct
  unfold ReleaseState.versionRelease
  constructor
  · intro answers
    split at answers
    · cases answers
    · next record found =>
      split_ifs at answers with withdrawn
      obtain ⟨mem, same⟩ := (unique record).mp found
      exact ⟨record, (mem_load wellFormed).mp mem, same, by simpa using withdrawn,
        Except.ok.inj answers⟩
  · rintro ⟨record, mem, same, listed, rfl⟩
    rw [(unique record).mpr ⟨(mem_load wellFormed).mpr mem, same⟩]
    simp [listed]

theorem filenames_nodup (wellFormed : state.WellFormed key) :
    ((load key state.index).map fun record => record.manifest.filename).Nodup := by
  have isIndex := wellFormed.index.load
  have names : (load key state.index).map (fun record => record.manifest.filename) =
      ((load key state.index).map ReleaseRecord.version).map pluginFilename := by
    rw [map_map]
    exact map_congr_left fun record mem => (isIndex.published record mem).filename
  rw [names]
  exact isIndex.distinct.map pluginFilename_injective

theorem download_eq_ok_iff (wellFormed : state.WellFormed key)
    (uploaded : (clientVersion version).isSome = true) {artifact : Artifact} :
    state.download key (downloadPrefix ++ pluginFilename version) = .ok artifact ↔
      (∃ record ∈ state.index, record.version = version ∧ record.withdrawn = false) ∧
        state.files.lookup (pluginFilename version) = some artifact := by
  have isIndex := wellFormed.index.load
  have unique (found : ReleaseRecord) : (load key state.index).find?
          (fun record => record.manifest.filename = pluginFilename version) = some found ↔
        found ∈ load key state.index ∧ found.version = version := by
    rw [find?_eq_some_iff_of_nodup (filenames_nodup wellFormed)]
    apply and_congr_right
    intro mem
    rw [(isIndex.published found mem).filename]
    exact pluginFilename_injective.eq_iff
  have starts : downloadPrefix.toList.isPrefixOf
      (downloadPrefix ++ pluginFilename version).toList = true := by
    simp [String.toList_append]
  unfold ReleaseState.download
  rw [if_pos starts, basename_downloadPrefix uploaded]
  constructor
  · intro answers
    split at answers
    · next record artifact found isFile =>
      split_ifs at answers with withdrawn
      obtain ⟨mem, same⟩ := (unique record).mp found
      cases answers
      exact ⟨⟨record, (mem_load wellFormed).mp mem, same, by simpa using withdrawn⟩, isFile⟩
    · cases answers
  · rintro ⟨⟨record, mem, same, listed⟩, isFile⟩
    rw [(unique record).mpr ⟨(mem_load wellFormed).mpr mem, same⟩, isFile]
    simp [listed]

theorem exists_of_latest (wellFormed : state.WellFormed key) {channel : String}
    {manifest : ReleaseManifest} (latest : state.latest key channel = some manifest) :
    ∃ record ∈ state.index, record.manifest = manifest ∧ record.withdrawn = false := by
  obtain ⟨record, found, same⟩ := Option.map_eq_some_iff.mp latest
  have accepted := find?_some found
  simp only [Bool.and_eq_true, Bool.not_eq_true'] at accepted
  exact ⟨record, (mem_load wellFormed).mp (mem_of_find?_eq_some found), same, accepted.1.1.1⟩

theorem verifyPluginRelease_eq_ok_iff {files : List (String × Artifact)} {artifact : Artifact}
    (published : Published key files record)
    (isFile : files.lookup (pluginFilename record.version) = some artifact) :
    verifyPluginRelease keys record.manifest artifact = .ok () ↔
      record.manifest.sequence < 2 ^ 53 := by
  obtain ⟨file, found, size, hash, isHash, notEmpty, small⟩ := published.file
  rw [isFile] at found
  cases found
  have uploaded := published.version
  have sizeSafe : isSafeInteger (artifact.size : Int) = true := by
    have limit : maxUploadBytes = 134217728 := rfl
    simp only [isSafeInteger, Bool.and_eq_true, decide_eq_true_eq]
    omega
  have sizePositive : (1 : Int) ≤ artifact.size := by omega
  constructor
  · intro verified
    simp only [verifyPluginRelease, Except.bind_eq_ok, Except.ensure_eq_ok,
      Bool.and_eq_true, isSafeInteger, decide_eq_true_eq] at verified
    obtain ⟨_, _, _, _, _, ⟨⟨⟨⟨⟨_, safe⟩, _⟩, _⟩, _⟩, _⟩, _⟩ := verified
    exact safe
  · intro safe
    have sequencePositive := published.sequence
    have sequenceSafe : isSafeInteger record.manifest.sequence = true := by
      simp only [isSafeInteger, Bool.and_eq_true, decide_eq_true_eq]
      omega
    simp only [verifyPluginRelease, Except.bind_eq_ok, Except.ensure_eq_ok]
    refine ⟨(), ?_, (), ?_, (), ?_, (), ?_, (), ?_, (), ?_, ?_⟩
    · simp [published.schemaVersion, published.productSurface, published.platform, published.arch]
    · have readable := isSome_versionNumbers uploaded
      simpa [published.filename, ReleaseRecord.version] using readable
    · simp [size, sizeSafe, sequenceSafe, sequencePositive, sizePositive]
    · rw [published.urlPath]
      exact urlPathPattern_of_version uploaded
    · simp [hash, isHash]
    · have pattern := key.isSignature (signedPayload record.manifest)
      simp [published.signatureKeyId, key.isTrusted, published.signature, pattern]
    · have signed := key.verifies record.manifest uploaded
      rw [published.signatureKeyId, published.signature]
      exact signed

end Answers

end CloudCli

end LongHub
