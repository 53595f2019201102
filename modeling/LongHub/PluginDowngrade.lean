import LongHub.ReleasePublishing

/-!
# Whether an update goes back to a lower version

The target of an update is newer than the installed version.
-/

namespace LongHub

open ClientUpdate Device List

namespace CloudCli

section Calls

variable {mayAnswer : Option String → ReleaseManifest → Bool} {choice : CliChoice}
variable {world after : CliWorld}

theorem cli_same (request : CliCall) {answer : Except CliError request.Answer}
    (notInstall : ∀ staged force, request ≠ .installPlugin staged force)
    (acts : (cli mayAnswer).perform request choice world = some (answer, after)) :
    after = world := by
  cases request with
  | inspectPlugin =>
    simp only [cli, performCli] at acts
    split_ifs at acts <;> cases acts <;> rfl
  | installPlugin staged force => exact absurd rfl (notInstall staged force)
  | fetchManifest version =>
    simp only [cli, performCli] at acts
    split_ifs at acts <;> cases acts <;> rfl
  | download urlPath =>
    cases acts
    rfl
  | writeStaged staged =>
    cases acts
    rfl

theorem cli_inspects {output : List Char}
    (acts : (cli mayAnswer).perform .inspectPlugin choice world = some (.ok output, after)) :
    IsTrue output world.installed := by
  simp only [cli, performCli] at acts
  split_ifs at acts with fails tells
  · cases acts
  · cases acts
    exact tells

theorem cli_fetches {version : Option String} {manifest : ReleaseManifest}
    (acts : (cli mayAnswer).perform (.fetchManifest version) choice world =
      some (.ok manifest, after)) : mayAnswer version manifest = true := by
  simp only [cli, performCli] at acts
  split_ifs at acts with fails answers
  · cases acts
  · cases acts
    exact answers

theorem cli_installs {staged : StagedArtifact} {force : Bool} {answer : Except CliError Unit}
    (acts : (cli mayAnswer).perform (.installPlugin staged force) choice world =
      some (answer, after)) : after.installs = world.installs ++ [staged.manifest.version] := by
  cases acts
  rfl

end Calls

theorem uploaded_of_verifyPluginRelease {keys : TrustedKeys} {manifest : ReleaseManifest}
    {artifact : Artifact} {done : Unit}
    (verified : verifyPluginRelease keys manifest artifact = .ok done) :
    (clientVersion manifest.version).isSome = true := by
  simp only [verifyPluginRelease, Except.bind_eq_ok, Except.ensure_eq_ok,
    Bool.and_eq_true] at verified
  obtain ⟨_, _, _, _, _, _, _, _, _, _, _, ⟨trusted, _⟩, signed⟩ := verified
  exact keys.uploaded manifest trusted signed

/-- What has come up is what is installed. -/
theorem runtimeVersion_of_verifyRuntimeInspect {output : List Char} {version : String}
    {done : Unit} (readable : (versionNumbers version).isSome = true)
    (verified : verifyRuntimeInspect output version = .ok done) :
    runtimeVersion output = .ok version := by
  have passed := verified
  simp only [verifyRuntimeInspect, Except.bind_eq_ok, Except.ensure_eq_ok,
    Except.require_eq_ok, all_cons, Bool.and_eq_true] at passed
  obtain ⟨_, _, root, isRoot, plugin, isPlugin, _, ⟨_, isVersion, _⟩, _⟩ := passed
  obtain ⟨numbers, areNumbers⟩ := Option.isSome_iff_exists.mp readable
  have told : JsonValue.textField plugin "version" = some version := by
    simpa [hasText] using isVersion
  simp only [runtimeVersion, Except.bind_eq_ok, Except.require_eq_ok]
  refine ⟨root, isRoot, plugin, isPlugin, version, told, numbers.map DoubleNumber.ofNat, ?_, (),
    verified, rfl⟩
  simp [semverParts, areNumbers, Except.require, bind, Except.bind, pure, Except.pure]

section Programs

variable (keys : TrustedKeys) (mayAnswer : Option String → ReleaseManifest → Bool)
variable {Keep : CliWorld → Prop} {world : CliWorld}

theorem sound_call_bind {α : Type} {Final : Except CliError α → CliWorld → Prop}
    (request : CliCall) {next : request.Answer → CliProgram α}
    (notInstall : ∀ staged force, request ≠ .installPlugin staged force) (keep : Keep world)
    (fails : ∀ error, Final (.error error) world) (continues : ∀ choice value,
      (cli mayAnswer).perform request choice world = some (.ok value, world) →
        (cli mayAnswer).Sound Keep Final (next value) world) :
    (cli mayAnswer).Sound Keep Final (callCli request >>= next) world := by
  apply sound_perform_bind keep
  · intro choice value after acts
    cases cli_same request notInstall acts
    exact continues choice value acts
  · intro choice error after acts
    cases cli_same request notInstall acts
    exact ⟨keep, fails error⟩

theorem sound_stageRelease {manifest : ReleaseManifest} (keep : Keep world) :
    (cli mayAnswer).Sound Keep
      (fun outcome after => after = world ∧ ∀ staged, outcome = .ok staged →
        staged.manifest = manifest ∧ (clientVersion manifest.version).isSome = true)
      (stageRelease keys manifest) world := by
  apply sound_call_bind mayAnswer (.download manifest.urlPath) (by simp) keep (by simp)
  intro choice artifact _
  apply sound_ofExcept_bind keep
  · intro done verified
    apply sound_call_bind mayAnswer (.writeStaged ⟨manifest, artifact⟩) (by simp) keep (by simp)
    intro choice written _
    apply sound_ofExcept_bind keep
    · intro packed _
      apply sound_pure keep
      refine ⟨rfl, fun staged same => ?_⟩
      cases same
      exact ⟨rfl, uploaded_of_verifyPluginRelease verified⟩
    · simp
  · simp

theorem sound_installStaged {staged : StagedArtifact} (force : Bool) (keep : Keep world)
    (installs : ∀ before after, Keep before →
      after.installs = before.installs ++ [staged.manifest.version] → Keep after)
    (readable : (versionNumbers staged.manifest.version).isSome = true) : (cli mayAnswer).Sound Keep
      (fun outcome after => outcome = .ok () → after.installed = some staged.manifest.version)
      (installStaged staged force) world := by
  apply sound_perform_bind keep
  · intro choice done middle acts
    have keepMiddle := installs _ _ keep (cli_installs acts)
    apply sound_call_bind mayAnswer .inspectPlugin (by simp) keepMiddle (by simp)
    intro choice output inspects
    cases verified : verifyRuntimeInspect output staged.manifest.version with
    | error error => exact ⟨keepMiddle, by simp⟩
    | ok done =>
      refine ⟨keepMiddle, fun _ => ?_⟩
      exact cli_inspects inspects _ (runtimeVersion_of_verifyRuntimeInspect readable verified)
  · intro choice error after fails
    exact ⟨installs _ _ keep (cli_installs fails), by simp⟩

theorem sound_replacePlugin {target rollback : StagedArtifact} {force : Bool} (keep : Keep world)
    (installs : ∀ staged ∈ [target, rollback], ∀ before after, Keep before →
      after.installs = before.installs ++ [staged.manifest.version] → Keep after)
    (readable : ∀ staged ∈ [target, rollback],
      (versionNumbers staged.manifest.version).isSome = true) : (cli mayAnswer).Sound Keep
      (fun outcome after => outcome = .error .failedRolledBack →
        after.installed = some rollback.manifest.version)
      (replacePlugin target (some rollback) force) world := by
  have first := sound_installStaged mayAnswer force keep (installs target (by simp))
    (readable target (by simp))
  apply sound_bind first.attempt
  · rintro attempted middle keepMiddle ⟨outcome, same, -⟩
    cases same
    cases attempted with
    | ok done => exact ⟨keepMiddle, by simp⟩
    | error problem =>
      have second := sound_installStaged mayAnswer true keepMiddle (installs rollback (by simp))
        (readable rollback (by simp))
      apply sound_bind second.attempt
      · rintro attempted after keepAfter ⟨outcome, same, came⟩
        cases same
        cases attempted with
        | error problem => exact ⟨keepAfter, by simp⟩
        | ok done => exact ⟨keepAfter, fun _ => came rfl⟩
      · rintro error after - ⟨outcome, same, -⟩
        cases same
  · rintro error after - ⟨outcome, same, -⟩
    cases same

end Programs

def NeverLower (version : String) (start world : CliWorld) : Prop :=
  ∃ added, world.installs = start.installs ++ added ∧ ∀ other ∈ added, ¬ IsLower other version

section Updates

variable {version : String} {start : CliWorld}

theorem neverLower_self : NeverLower version start start := ⟨[], by simp⟩

theorem NeverLower.install {other : String} {before after : CliWorld}
    (keep : NeverLower version start before) (notLower : ¬ IsLower other version)
    (installs : after.installs = before.installs ++ [other]) : NeverLower version start after := by
  obtain ⟨added, sameInstalls, each⟩ := keep
  refine ⟨added ++ [other], ?_, ?_⟩
  · rw [installs, sameInstalls, append_assoc]
  · intro one mem
    rcases mem_append.mp mem with earlier | last
    · exact each one earlier
    · rwa [mem_singleton.mp last]

theorem sound_update_newer (keys : TrustedKeys) {targetManifest rollbackManifest : ReleaseManifest}
    (installed : start.installed = some version)
    (greater : compareVersions targetManifest.version version = .ok .gt)
    (sameVersion : rollbackManifest.version = version) :
    exactServer.Sound (NeverLower version start)
      (fun outcome after => outcome = .error .failedRolledBack → after.installed = some version)
      (do
        let rollback ← stageRelease keys rollbackManifest
        let target ← stageRelease keys targetManifest
        replacePlugin target (some rollback) true) start := by
  have keep : NeverLower version start start := neverLower_self
  apply sound_bind (sound_stageRelease keys _ keep)
  · rintro rollback after - ⟨rfl, isStaged⟩
    obtain ⟨isRollback, rollbackUploaded⟩ := isStaged rollback rfl
    apply sound_bind (sound_stageRelease keys _ keep)
    · rintro target after - ⟨rfl, isStaged⟩
      obtain ⟨isTarget, targetUploaded⟩ := isStaged target rfl
      rw [← isTarget] at greater targetUploaded
      rw [← isRollback] at sameVersion rollbackUploaded
      have notLower : ∀ staged ∈ [target, rollback], ¬ IsLower staged.manifest.version version := by
        refine forall_mem_cons.mpr ⟨?_, forall_mem_singleton.mpr ?_⟩
        · exact ((compareVersions_eq_gt_iff targetUploaded).mp greater).not_isLower
        · rw [sameVersion]
          exact not_isLower_self version
      have readable : ∀ staged ∈ [target, rollback],
          (versionNumbers staged.manifest.version).isSome = true :=
        forall_mem_cons.mpr ⟨isSome_versionNumbers targetUploaded,
          forall_mem_singleton.mpr (isSome_versionNumbers rollbackUploaded)⟩
      apply Device.Sound.mono _ (sound_replacePlugin _ keep _ readable)
      · intro outcome after _ goesBack failed
        rw [goesBack failed, sameVersion]
      · intro staged mem before after keepBefore installs
        exact keepBefore.install (notLower staged mem) installs
    · rintro error after - ⟨rfl, -⟩ -
      exact installed
  · rintro error after - ⟨rfl, -⟩ -
    exact installed

theorem sound_update (keys : TrustedKeys) (installed : start.installed = some version) :
    exactServer.Sound (NeverLower version start)
      (fun outcome after => outcome = .error .failedRolledBack → after.installed = some version)
      (update keys) start := by
  have keep : NeverLower version start start := neverLower_self
  apply sound_call_bind _ .inspectPlugin (by simp) keep fun _ _ => installed
  intro choice output inspects
  apply sound_ofExcept_bind keep _ fun _ _ _ => installed
  intro currentVersion isCurrent
  have same : version = currentVersion :=
    Option.some.inj (installed.symm.trans (cli_inspects inspects currentVersion isCurrent))
  subst same
  apply sound_call_bind _ (.fetchManifest none) (by simp) keep fun _ _ => installed
  intro choice targetManifest _
  apply sound_ofExcept_bind keep _ fun _ _ _ => installed
  intro released _
  apply sound_ofExcept_bind keep _ fun _ _ _ => installed
  intro comparison compares
  cases comparison with
  | lt => exact sound_throw keep (by simp)
  | eq => exact sound_pure keep (by simp)
  | gt =>
    apply sound_call_bind _ (.fetchManifest (some version)) (by simp) keep fun _ _ => installed
    intro choice rollbackManifest answers
    have sameVersion : rollbackManifest.version = version := by
      simpa using cli_fetches answers
    exact sound_update_newer keys installed compares sameVersion

end Updates

section GoingBack

variable {mayAnswer : Option String → ReleaseManifest → Bool} {keys : TrustedKeys}
variable {world : CliWorld} {staged : StagedArtifact} {force : Bool}

def succeeds (output : List Char) (staged : StagedArtifact) : CliChoice :=
  ⟨false, .replaces, output, staged.manifest, staged.artifact⟩

def failing (staged : StagedArtifact) : CliChoice :=
  ⟨true, .keeps, [], staged.manifest, staged.artifact⟩

theorem ends_stageRelease
    (verified : verifyPluginRelease keys staged.manifest staged.artifact = .ok ())
    (packed : staged.artifact.package = some (pluginPackageName, staged.manifest.version)) :
    (cli mayAnswer).Ends (stageRelease keys staged.manifest) world (.ok staged) world := by
  have downloads : (cli mayAnswer).perform (.download staged.manifest.urlPath)
      (succeeds [] staged) world = some (.ok staged.artifact, world) := rfl
  have writes : (cli mayAnswer).perform (.writeStaged staged) (succeeds [] staged) world =
      some (.ok (), world) := rfl
  have done : (cli mayAnswer).Ends (.ofExcept (.ok staged)) world (.ok staged) world :=
    ends_ofExcept
  have isPacked : verifyPackedPlugin staged.artifact staged.manifest.version = .ok () :=
    Except.ensure_eq_ok.mpr (by simpa using packed)
  apply ends_bind (ends_perform downloads)
  rw [verified]
  apply ends_bind ends_ofExcept
  apply ends_bind (ends_perform writes)
  rw [isPacked]
  exact ends_bind ends_ofExcept done

theorem ends_inspectPlugin (staged : StagedArtifact) {version : String}
    (installed : world.installed = some version)
    (uploaded : (clientVersion version).isSome = true) :
    (cli mayAnswer).Ends (callCli .inspectPlugin) world (.ok (inspectText version)) world := by
  have tells : IsTrue (inspectText version) world.installed := by
    intro other told
    rw [runtimeVersion_inspectText uploaded] at told
    cases told
    exact installed
  have acts : (cli mayAnswer).perform .inspectPlugin
      (succeeds (inspectText version) staged) world = some (.ok (inspectText version), world) := by
    simp [cli, performCli, succeeds, tells]
  exact ends_perform acts

theorem ends_fetchManifest {version : Option String}
    (answers : mayAnswer version staged.manifest = true) :
    (cli mayAnswer).Ends (callCli (.fetchManifest version)) world (.ok staged.manifest) world := by
  have acts : (cli mayAnswer).perform (.fetchManifest version) (succeeds [] staged) world =
      some (.ok staged.manifest, world) := by
    simp [cli, performCli, succeeds, answers]
  exact ends_perform acts

theorem ends_installStaged_failing (staged : StagedArtifact) :
    (cli mayAnswer).Ends (installStaged staged force) world (.error .commandFailed)
      ⟨world.installed, world.installs ++ [staged.manifest.version]⟩ := by
  have acts : (cli mayAnswer).perform (.installPlugin staged force) (failing staged) world =
      some (.error .commandFailed,
        ⟨world.installed, world.installs ++ [staged.manifest.version]⟩) := rfl
  exact ends_bind_error (ends_perform acts)

theorem ends_installStaged (uploaded : (clientVersion staged.manifest.version).isSome = true)
    (packed : staged.artifact.package = some (pluginPackageName, staged.manifest.version)) :
    (cli mayAnswer).Ends (installStaged staged force) world (.ok ())
      ⟨some staged.manifest.version, world.installs ++ [staged.manifest.version]⟩ := by
  have acts : (cli mayAnswer).perform (.installPlugin staged force) (succeeds [] staged)
      world = some (.ok (),
        ⟨some staged.manifest.version, world.installs ++ [staged.manifest.version]⟩) := by
    simp [cli, performCli, succeeds, installedAfter, packed]
  apply ends_bind (ends_perform acts)
  apply ends_bind (ends_inspectPlugin staged rfl uploaded)
  rw [verifyRuntimeInspect_inspectText uploaded]
  exact ends_ofExcept

theorem ends_update_failedRolledBack {version : String} {target rollback : StagedArtifact}
    (installed : world.installed = some version) (uploaded : (clientVersion version).isSome = true)
    (released : isReleased target.manifest = true)
    (higher : IsLower version target.manifest.version)
    (answersTarget : mayAnswer none target.manifest = true)
    (answersRollback : mayAnswer (some version) rollback.manifest = true)
    (verified : ∀ staged ∈ [target, rollback],
      verifyPluginRelease keys staged.manifest staged.artifact = .ok ())
    (packed : ∀ staged ∈ [target, rollback],
      staged.artifact.package = some (pluginPackageName, staged.manifest.version)) :
    (cli mayAnswer).Ends (update keys) world (.error .failedRolledBack)
      ⟨some rollback.manifest.version, world.installs ++ [target.manifest.version] ++
        [rollback.manifest.version]⟩ := by
  have targetUploaded := uploaded_of_verifyPluginRelease (verified target (by simp))
  have rollbackUploaded := uploaded_of_verifyPluginRelease (verified rollback (by simp))
  have greater := (compareVersions_eq_gt_iff targetUploaded).mpr higher
  apply ends_bind (ends_inspectPlugin target installed uploaded)
  rw [runtimeVersion_inspectText uploaded]
  apply ends_bind ends_ofExcept
  apply ends_bind (ends_fetchManifest answersTarget)
  rw [released]
  apply ends_bind ends_ofExcept
  rw [greater]
  apply ends_bind ends_ofExcept
  apply ends_bind (ends_fetchManifest answersRollback)
  apply ends_bind (ends_stageRelease (verified rollback (by simp)) (packed rollback (by simp)))
  apply ends_bind (ends_stageRelease (verified target (by simp)) (packed target (by simp)))
  apply ends_bind (ends_installStaged_failing target).attempt
  apply ends_bind (ends_installStaged rollbackUploaded (packed rollback (by simp))).attempt
  exact ⟨[], rfl⟩

end GoingBack

noncomputable def publishedRelease (version : String) : StagedArtifact :=
  ⟨(firstRelease version).manifest, (packageFile version).artifact⟩

theorem verified_publishedRelease {version : String}
    (uploadable : (clientVersion version).isSome = true) :
    verifyPluginRelease uploadKeys (publishedRelease version).manifest
      (publishedRelease version).artifact = .ok () := by
  have one : (0 : Nat) < 1 ∧ 1 ≤ maxUploadBytes := by decide
  have run := run_publish uploadKey (packageFile version) version "" "" wellFormed_empty .nil
    uploadable rfl (by simp [ReleaseState.empty]) rfl one.1 one.2
  have published := (wellFormed_empty.run run).index.published (firstRelease version) mem_cons_self
  apply (verifyPluginRelease_eq_ok_iff published lookup_cons_self).mpr
  rw [sequence_firstRelease]
  decide

theorem ends_update_example {mayAnswer : Option String → ReleaseManifest → Bool} (older : String)
    (uploadable : (clientVersion older).isSome = true)
    (answersTarget : mayAnswer none (publishedRelease "0.3.0").manifest = true)
    (answersRollback : mayAnswer (some "0.2.0") (publishedRelease older).manifest = true) :
    (cli mayAnswer).Ends (update uploadKeys) ⟨some "0.2.0", []⟩ (.error .failedRolledBack)
      ⟨some older, ["0.3.0", older]⟩ := by
  have verified : ∀ staged ∈ [publishedRelease "0.3.0", publishedRelease older],
      verifyPluginRelease uploadKeys staged.manifest staged.artifact = .ok () :=
    forall_mem_cons.mpr ⟨verified_publishedRelease (by decide),
      forall_mem_singleton.mpr (verified_publishedRelease uploadable)⟩
  have packed : ∀ staged ∈ [publishedRelease "0.3.0", publishedRelease older],
      staged.artifact.package = some (pluginPackageName, staged.manifest.version) :=
    forall_mem_cons.mpr ⟨rfl, forall_mem_singleton.mpr rfl⟩
  have higher : IsLower "0.2.0" "0.3.0" :=
    ⟨[0, 2, 0], [0, 3, 0], by decide, by decide, by decide⟩
  have released : isReleased (publishedRelease "0.3.0").manifest = true := by
    simp [publishedRelease, firstRelease, releasedRecord, rolloutManifest, signManifest, isReleased]
  exact ends_update_failedRolledBack rfl (by decide) released higher answersTarget
    answersRollback verified packed

/-- Whatever else the server answers, and whatever the commands do: if a request for a version
is answered with a manifest of that version, then no lower version is installed, and an update
that has gone back has left the version from before. -/
theorem update_never_downgrades (keys : TrustedKeys) (version : String) (start after : CliWorld)
    (installed : start.installed = some version) :
    (exactServer.Stops (update keys) start after → NeverLower version start after) ∧
    (exactServer.Ends (update keys) start (.error .failedRolledBack) after →
      after.installed = some version) := by
  have sound := sound_update keys installed
  exact ⟨fun stops => sound.stops stops, fun ends => sound.ends ends rfl⟩

/-- A server that answers as asked: going back to 0.2.0 leaves 0.2.0. -/
theorem update_goes_back_to_installed :
    NeverLower "0.2.0" ⟨some "0.2.0", []⟩ ⟨some "0.2.0", ["0.3.0", "0.2.0"]⟩ := by
  have ends : exactServer.Ends (update uploadKeys) ⟨some "0.2.0", []⟩ (.error .failedRolledBack)
      ⟨some "0.2.0", ["0.3.0", "0.2.0"]⟩ :=
    ends_update_example "0.2.0" (by decide) rfl (by decide)
  exact (update_never_downgrades uploadKeys "0.2.0" ⟨some "0.2.0", []⟩
    ⟨some "0.2.0", ["0.3.0", "0.2.0"]⟩ rfl).1 ends.stops

/-- A server that answers the request for 0.2.0 with the signed release 0.1.0: after a failed
update 0.1.0 is installed, and the client reports that it has gone back. -/
theorem update_downgrades :
    anyServer.Ends (update uploadKeys) ⟨some "0.2.0", []⟩ (.error .failedRolledBack)
        ⟨some "0.1.0", ["0.3.0", "0.1.0"]⟩ ∧
      ¬ NeverLower "0.2.0" ⟨some "0.2.0", []⟩ ⟨some "0.1.0", ["0.3.0", "0.1.0"]⟩ := by
  refine ⟨ends_update_example "0.1.0" (by decide) rfl rfl, ?_⟩
  rintro ⟨added, same, each⟩
  have lower : IsLower "0.1.0" "0.2.0" :=
    ⟨[0, 1, 0], [0, 2, 0], by decide, by decide, by decide⟩
  have isAdded : added = ["0.3.0", "0.1.0"] := same.symm
  exact each "0.1.0" (by simp [isAdded]) lower

end CloudCli

end LongHub
