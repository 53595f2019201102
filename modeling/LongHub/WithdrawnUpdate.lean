import LongHub.ReleasePublishing

/-!
# Updates from a version that has been withdrawn

Before it installs the target, an update stages the release of the installed version.
-/

namespace LongHub

open ClientUpdate
namespace CloudCli

structure WorkingOpenClaw where
  inspectOutput : String → List Char
  tells : ∀ version, (clientVersion version).isSome = true →
    runtimeVersion (inspectOutput version) = .ok version

def maxHttpBytes : Nat := 128 * 1024 * 1024

section Update

variable {keys : TrustedKeys} (key : SigningKey keys) (openclaw : WorkingOpenClaw)
variable (state : ReleaseState)

/-- Any status but that of success is an error. -/
def apiAnswer {α : Type} : Except Nat α → Except CliError α
  | .ok value => .ok value
  | .error _ => .error .apiFailed

def downloadAnswer (path : String) : Except CliError Artifact := do
  let artifact ← apiAnswer (state.download key path)
  Except.ensure (artifact.size ≤ maxHttpBytes) .apiFailed
  return artifact

@[grind =]
def workingAnswer : (request : CliCall) → CliWorld → Except CliError request.Answer × CliWorld
  | .inspectPlugin, world =>
    match world.installed with
    | some version => (.ok (openclaw.inspectOutput version), world)
    | none => (.error .commandFailed, world)
  | .installPlugin staged _, world =>
    match staged.artifact.package with
    | some (_, version) => (.ok (), ⟨some version, world.installs ++ [version]⟩)
    | none => (.error .commandFailed, world)
  | .fetchManifest none, world =>
    (Except.require (state.latest key "stable") .apiFailed, world)
  | .fetchManifest (some version), world =>
    (apiAnswer (state.versionRelease key version), world)
  | .download path, world => (downloadAnswer key state path, world)
  | .writeStaged _, world => (.ok (), world)

def workingUpdate (world : CliWorld) : Except CliError UpdateReport × CliWorld :=
  (update keys).evaluate (workingAnswer key openclaw state) world

def Stageable (version : String) : Prop :=
  (∃ record ∈ state.index, record.version = version ∧ record.withdrawn = false ∧
    record.manifest.sequence < 2 ^ 53) ∧
  ∃ artifact, state.files.lookup (pluginFilename version) = some artifact ∧
    artifact.package = some (pluginPackageName, version)

def stageAnswer (manifest : ReleaseManifest) : Except CliError StagedArtifact := do
  let artifact ← downloadAnswer key state manifest.urlPath
  verifyPluginRelease keys manifest artifact
  verifyPackedPlugin artifact manifest.version
  return ⟨manifest, artifact⟩

variable {key openclaw state} {world : CliWorld}

theorem evaluate_stageRelease (manifest : ReleaseManifest) :
    (stageRelease keys manifest).evaluate (workingAnswer key openclaw state) world =
      (stageAnswer key state manifest, world) := by
  unfold stageRelease callCli
  rw [Program.evaluate_perform_bind]
  simp only [workingAnswer, stageAnswer, bind, Except.bind]
  cases downloadAnswer key state manifest.urlPath with
  | error problem => rfl
  | ok artifact =>
    dsimp only
    cases verified : verifyPluginRelease keys manifest artifact with
    | error problem => rfl
    | ok done =>
      cases packed : verifyPackedPlugin artifact manifest.version with
      | error problem =>
        rfl
      | ok done =>
        rfl

variable {α : Type} {version : String} {target : ReleaseManifest}

theorem evaluate_stageRelease_bind (manifest : ReleaseManifest)
    (next : StagedArtifact → CliProgram α) :
    ((stageRelease keys manifest).bind next).evaluate (workingAnswer key openclaw state) world =
      match stageAnswer key state manifest with
      | .ok staged => (next staged).evaluate (workingAnswer key openclaw state) world
      | .error problem => (.error problem, world) := by
  have first : (stageRelease keys manifest).evaluate (workingAnswer key openclaw state) world =
      (stageAnswer key state manifest, world) := evaluate_stageRelease manifest
  cases staged : stageAnswer key state manifest with
  | ok value => exact Program.evaluate_bind_ok (first.trans (by rw [staged]))
  | error problem => exact Program.evaluate_bind_error (first.trans (by rw [staged]))

theorem apiAnswer_eq_ok_iff {answer : Except Nat α} {value : α} :
    apiAnswer answer = .ok value ↔ answer = .ok value := by
  cases answer <;> simp [apiAnswer]

theorem downloadAnswer_eq_ok_iff (wellFormed : state.WellFormed key)
    (uploaded : (clientVersion version).isSome = true) {artifact : Artifact} :
    downloadAnswer key state (downloadPrefix ++ pluginFilename version) = .ok artifact ↔
      (∃ record ∈ state.index, record.version = version ∧ record.withdrawn = false) ∧
        state.files.lookup (pluginFilename version) = some artifact := by
  have answers : downloadAnswer key state (downloadPrefix ++ pluginFilename version) =
        .ok artifact ↔
      state.download key (downloadPrefix ++ pluginFilename version) = .ok artifact ∧
        artifact.size ≤ maxHttpBytes := by
    simp only [downloadAnswer, Except.bind_eq_ok, apiAnswer_eq_ok_iff,
      Except.ensure_eq_ok, decide_eq_true_eq, Except.pure_eq_ok]
    constructor
    · rintro ⟨_, found, _, small, rfl⟩
      exact ⟨found, small⟩
    · rintro ⟨found, small⟩
      exact ⟨_, found, (), small, rfl⟩
  rw [answers, download_eq_ok_iff wellFormed uploaded]
  constructor
  · exact And.left
  · rintro ⟨⟨record, mem, same, listed⟩, isFile⟩
    refine ⟨⟨⟨record, mem, same, listed⟩, isFile⟩, ?_⟩
    obtain ⟨file, found, -, -, -, -, small⟩ := (wellFormed.index.published record mem).file
    rw [same, isFile] at found
    cases found
    exact small

theorem stageAnswer_eq_ok_iff (wellFormed : state.WellFormed key) {record : ReleaseRecord}
    (mem : record ∈ state.index) {staged : StagedArtifact} :
    stageAnswer key state record.manifest = .ok staged ↔
      Stageable state record.version ∧ staged.manifest = record.manifest ∧
        state.files.lookup (pluginFilename record.version) = some staged.artifact := by
  have published := wellFormed.index.published record mem
  have only : ∀ other ∈ state.index, other.version = record.version → other = record :=
    fun other inside same =>
      List.inj_on_of_nodup_map wellFormed.index.distinct inside mem same
  simp only [stageAnswer, Except.bind_eq_ok, published.urlPath, pure, Except.pure,
    downloadAnswer_eq_ok_iff wellFormed published.version, verifyPackedPlugin,
    Except.ensure_eq_ok, decide_eq_true_eq, Except.ok.injEq]
  constructor
  · rintro ⟨artifact, ⟨⟨other, inside, same, listed⟩, isFile⟩, done, verified, _, packed, rfl⟩
    have safe := (verifyPluginRelease_eq_ok_iff published isFile).mp verified
    cases only other inside same
    exact ⟨⟨⟨record, inside, rfl, listed, safe⟩, artifact, isFile, packed⟩, rfl, isFile⟩
  · rintro ⟨⟨⟨other, inside, same, listed, safe⟩, artifact, isFile, packed⟩, isManifest, isArtifact⟩
    cases only other inside same
    rw [isFile] at isArtifact
    cases isArtifact
    refine ⟨_, ⟨⟨record, inside, rfl, listed⟩, isFile⟩, (),
      (verifyPluginRelease_eq_ok_iff published isFile).mpr safe, (), packed, ?_⟩
    rw [← isManifest]

theorem verifyRuntimeInspect_of_runtimeVersion {output : List Char}
    (told : runtimeVersion output = .ok version) :
    verifyRuntimeInspect output version = .ok () := by
  simp only [runtimeVersion, Except.bind_eq_ok, Except.pure_eq_ok] at told
  obtain ⟨_, -, _, -, _, -, _, -, _, verified, rfl⟩ := told
  exact verified

theorem evaluate_replacePlugin (target : StagedArtifact) (rollback : Option StagedArtifact)
    (force : Bool) (uploaded : (clientVersion target.manifest.version).isSome = true)
    (packed : target.artifact.package = some (pluginPackageName, target.manifest.version)) :
    (replacePlugin target rollback force).evaluate (workingAnswer key openclaw state) world =
      (.ok ⟨force, target.manifest.version, some target.manifest.sha256⟩,
        ⟨some target.manifest.version, world.installs ++ [target.manifest.version]⟩) := by
  have comesUp : (installStaged target force).evaluate (workingAnswer key openclaw state) world =
      (.ok (), ⟨some target.manifest.version, world.installs ++ [target.manifest.version]⟩) := by
    have verified := verifyRuntimeInspect_of_runtimeVersion
      (openclaw.tells target.manifest.version uploaded)
    unfold installStaged callCli
    rw [Program.evaluate_perform_bind]
    simp only [workingAnswer, packed]
    rw [Program.evaluate_perform_bind]
    simp only [workingAnswer, verified, Program.evaluate_ofExcept]
  unfold replacePlugin
  rw [Program.evaluate_bind_ok (Program.evaluate_attempt), comesUp]
  rfl

def preparedAnswer (key : SigningKey keys) (state : ReleaseState) (version : String)
    (target : ReleaseManifest) : Except CliError (StagedArtifact × StagedArtifact) := do
  let rollbackManifest ← apiAnswer (state.versionRelease key version)
  let rollback ← stageAnswer key state rollbackManifest
  let staged ← stageAnswer key state target
  return (rollback, staged)

theorem workingUpdate_eq (installed : world.installed = some version)
    (versionUploaded : (clientVersion version).isSome = true)
    (latest : state.latest key "stable" = some target) (released : isReleased target = true)
    (greater : compareVersions target.version version = .ok .gt) :
    workingUpdate key openclaw state world = match preparedAnswer key state version target with
      | .error problem => (.error problem, world)
      | .ok prepared =>
        (replacePlugin prepared.2 (some prepared.1) true).evaluate
          (workingAnswer key openclaw state) world := by
  unfold workingUpdate update callCli
  rw [Program.evaluate_perform_bind]
  simp only [workingAnswer, installed, openclaw.tells version versionUploaded,
    Program.evaluate_ofExcept_bind]
  rw [Program.evaluate_perform_bind]
  simp only [workingAnswer, latest, Except.require, Program.evaluate_ofExcept_bind, Except.ensure,
    released, if_true, greater]
  rw [Program.evaluate_perform_bind]
  simp only [workingAnswer, preparedAnswer, bind, Except.bind]
  cases apiAnswer (state.versionRelease key version) with
  | error problem => rfl
  | ok rollbackManifest =>
    dsimp only
    rw [evaluate_stageRelease_bind]
    cases stageAnswer key state rollbackManifest with
    | error problem => rfl
    | ok rollback =>
      dsimp only
      rw [evaluate_stageRelease_bind]
      cases stageAnswer key state target with
      | error problem => rfl
      | ok staged => rfl

theorem installs_iff_stageable (wellFormed : state.WellFormed key)
    (installed : world.installed = some version)
    (uploaded : (clientVersion version).isSome = true)
    (latest : state.latest key "stable" = some target) (released : isReleased target = true)
    (higher : IsLower version target.version) :
    (∃ report, (workingUpdate key openclaw state world).1 = .ok report ∧
        (workingUpdate key openclaw state world).2.installed = some target.version) ↔
      Stageable state version ∧ Stageable state target.version := by
  obtain ⟨targetRecord, targetMember, rfl, -⟩ := exists_of_latest wellFormed latest
  have targetUploaded := (wellFormed.index.published targetRecord targetMember).version
  have greater := (compareVersions_eq_gt_iff targetUploaded).mpr higher
  rw [workingUpdate_eq installed uploaded latest released greater]
  constructor
  · intro installs
    cases prepared : preparedAnswer key state version targetRecord.manifest with
    | error problem => simp [prepared] at installs
    | ok stagedReleases =>
      simp only [preparedAnswer, Except.bind_eq_ok, apiAnswer_eq_ok_iff] at prepared
      obtain ⟨manifest, answers, rollback, isRollback, staged, isStaged, -⟩ := prepared
      obtain ⟨current, mem, rfl, listed, rfl⟩ := (versionRelease_eq_ok_iff wellFormed).mp answers
      exact ⟨((stageAnswer_eq_ok_iff wellFormed mem).mp isRollback).1,
        ((stageAnswer_eq_ok_iff wellFormed targetMember).mp isStaged).1⟩
  · rintro ⟨rollbackStageable, targetStageable⟩
    obtain ⟨current, mem, rfl, listed, -⟩ := rollbackStageable.1
    obtain ⟨rollbackFile, isRollbackFile, -⟩ := rollbackStageable.2
    obtain ⟨targetFile, isTargetFile, packed⟩ := targetStageable.2
    have answers := (versionRelease_eq_ok_iff wellFormed).mpr ⟨current, mem, rfl, listed, rfl⟩
    have rollbackStaged : stageAnswer key state current.manifest =
        .ok ⟨current.manifest, rollbackFile⟩ :=
      (stageAnswer_eq_ok_iff wellFormed mem).mpr ⟨rollbackStageable, rfl, isRollbackFile⟩
    have targetStaged : stageAnswer key state targetRecord.manifest =
        .ok ⟨targetRecord.manifest, targetFile⟩ :=
      (stageAnswer_eq_ok_iff wellFormed targetMember).mpr ⟨targetStageable, rfl, isTargetFile⟩
    have prepared : preparedAnswer key state current.version targetRecord.manifest =
        .ok (⟨current.manifest, rollbackFile⟩, ⟨targetRecord.manifest, targetFile⟩) := by
      simp only [preparedAnswer, answers, apiAnswer, rollbackStaged, targetStaged, bind,
        Except.bind, pure, Except.pure]
    rw [prepared]
    dsimp only
    rw [evaluate_replacePlugin ⟨targetRecord.manifest, targetFile⟩ _ true targetUploaded packed]
    exact ⟨_, rfl, rfl⟩

end Update

/-- With working network and commands, and whatever the administrators have done: a client on a
version that was once published is brought to the latest release, if that is a higher version,
exactly if the index still lists its version without a withdrawal, both sequence numbers are
safe, and both artifacts are packages of their versions. -/
theorem update_installs_iff (keys : TrustedKeys) (key : SigningKey keys)
    (openclaw : WorkingOpenClaw) (earlier state : ReleaseState) (record : ReleaseRecord)
    (target : ReleaseManifest) (world : CliWorld) (before : ReleaseRun key .empty earlier)
    (wasPublished : record ∈ earlier.index) (later : ReleaseRun key earlier state)
    (installed : world.installed = some record.version)
    (latest : state.latest key "stable" = some target) (released : isReleased target = true)
    (higher : IsLower record.version target.version) :
    (∃ report, (workingUpdate key openclaw state world).1 = .ok report ∧
        (workingUpdate key openclaw state world).2.installed = some target.version) ↔
      Stageable state record.version ∧ Stageable state target.version := by
  have earlierWellFormed := wellFormed_empty.run before
  have uploaded := (earlierWellFormed.index.published record wasPublished).version
  exact installs_iff_stageable (earlierWellFormed.run later) installed uploaded latest released
    higher

def inspectingOpenClaw : WorkingOpenClaw := ⟨inspectText, fun _ => runtimeVersion_inspectText⟩

noncomputable def publishedState : ReleaseState := twoReleases "0.1.0" "0.2.0"

noncomputable def withdrawnState : ReleaseState :=
  { publishedState with index := ⟨(firstRelease "0.1.0").manifest, true⟩ ::
      (load uploadKey publishedState.index).erase (firstRelease "0.1.0") }

theorem run_publishedState : ReleaseRun uploadKey .empty publishedState :=
  run_twoReleases (by decide) (by decide) (by decide)

theorem isLower_published : IsLower "0.1.0" "0.2.0" :=
  ⟨[0, 1, 0], [0, 2, 0], by decide, by decide, by decide⟩

theorem firstRelease_mem : firstRelease "0.1.0" ∈ publishedState.index := by
  simp [publishedState, index_twoReleases]

theorem isReleased_secondRelease : isReleased (secondRelease "0.1.0" "0.2.0").manifest = true := by
  simp [secondRelease, releasedRecord, rolloutManifest, signManifest, isReleased]

theorem latest_publishedState :
    publishedState.latest uploadKey "stable" = some (secondRelease "0.1.0" "0.2.0").manifest := by
  have noRecords : Descending ReleaseState.empty.index := .nil
  exact latest_publish uploadKey _ _ _ _ (wellFormed_empty.run run_publishedState)
    (descending_publish uploadKey _ _ _ _ noRecords)

theorem stageable_publishedState :
    Stageable publishedState "0.1.0" ∧ Stageable publishedState "0.2.0" := by
  obtain ⟨firstFile, secondFile⟩ := @lookup_twoReleases "0.1.0" "0.2.0" (by decide)
  constructor
  · refine ⟨⟨firstRelease "0.1.0", firstRelease_mem, rfl, rfl, ?_⟩, _, firstFile, rfl⟩
    rw [sequence_firstRelease]
    decide
  · refine ⟨⟨secondRelease "0.1.0" "0.2.0", by simp [publishedState, index_twoReleases], rfl, rfl,
      ?_⟩, _, secondFile, rfl⟩
    rw [sequence_secondRelease]
    decide

/-- While both are listed, a client is brought from the first to the second. -/
theorem published_version_updates :
    ∃ report, (workingUpdate uploadKey inspectingOpenClaw publishedState ⟨some "0.1.0", []⟩).1 =
        .ok report ∧
      (workingUpdate uploadKey inspectingOpenClaw publishedState ⟨some "0.1.0", []⟩).2.installed =
        some "0.2.0" :=
  (update_installs_iff uploadKeys uploadKey inspectingOpenClaw publishedState publishedState
    (firstRelease "0.1.0") (secondRelease "0.1.0" "0.2.0").manifest ⟨some "0.1.0", []⟩
    run_publishedState firstRelease_mem .refl rfl latest_publishedState isReleased_secondRelease
    isLower_published).mpr stageable_publishedState

theorem index_withdrawnState : withdrawnState.index =
    [⟨(firstRelease "0.1.0").manifest, true⟩, secondRelease "0.1.0" "0.2.0"] := by
  have differ : secondRelease "0.1.0" "0.2.0" ≠ firstRelease "0.1.0" := by
    intro same
    have versions : "0.2.0" = "0.1.0" := congrArg ReleaseRecord.version same
    exact absurd versions (by decide)
  have loaded : load uploadKey publishedState.index =
      [secondRelease "0.1.0" "0.2.0", firstRelease "0.1.0"] :=
    load_of_descending (wellFormed_empty.run run_publishedState).index
      (descending_twoReleases "0.1.0" "0.2.0")
  rw [withdrawnState, loaded, List.erase_cons_tail (by simpa using differ), List.erase_cons_head]

theorem run_withdrawnState : ReleaseRun uploadKey publishedState withdrawnState :=
  run_withdraw (wellFormed_empty.run run_publishedState) firstRelease_mem rfl

theorem latest_withdrawnState :
    withdrawnState.latest uploadKey "stable" = some (secondRelease "0.1.0" "0.2.0").manifest := by
  have wellFormed := wellFormed_empty.run (run_publishedState.trans run_withdrawnState)
  apply latest_of_only wellFormed
  · simp [index_withdrawnState]
  · rfl
  · rfl
  · rfl
  · simp [secondRelease, releasedRecord, rolloutManifest, signManifest]
  · rw [index_withdrawnState]
    simp

theorem not_stageable_withdrawnState : ¬ Stageable withdrawnState "0.1.0" := by
  rintro ⟨⟨record, mem, same, listed, -⟩, -⟩
  rw [index_withdrawnState] at mem
  simp only [List.mem_cons, List.not_mem_nil, or_false] at mem
  rcases mem with rfl | rfl
  · cases listed
  · exact absurd same (by decide)

/-- After the withdrawal of its version the same client is not, although the latest release is a
higher version that is rolled out to everyone. -/
theorem withdrawn_version_cannot_update :
    ReleaseRun uploadKey .empty publishedState ∧ firstRelease "0.1.0" ∈ publishedState.index ∧
    ReleaseRun uploadKey publishedState withdrawnState ∧
    withdrawnState.latest uploadKey "stable" = some (secondRelease "0.1.0" "0.2.0").manifest ∧
    isReleased (secondRelease "0.1.0" "0.2.0").manifest = true ∧ IsLower "0.1.0" "0.2.0" ∧
    ¬ ∃ report, (workingUpdate uploadKey inspectingOpenClaw withdrawnState ⟨some "0.1.0", []⟩).1 =
        .ok report ∧
      (workingUpdate uploadKey inspectingOpenClaw withdrawnState ⟨some "0.1.0", []⟩).2.installed =
        some "0.2.0" := by
  refine ⟨run_publishedState, firstRelease_mem, run_withdrawnState, latest_withdrawnState,
    isReleased_secondRelease, isLower_published, ?_⟩
  have wellFormed := wellFormed_empty.run (run_publishedState.trans run_withdrawnState)
  intro installs
  have stageable := (installs_iff_stageable wellFormed rfl (by decide)
    latest_withdrawnState isReleased_secondRelease isLower_published).mp installs
  exact not_stageable_withdrawnState stageable.1

end CloudCli

end LongHub
