import LongHub.RecoveryStore

/-!
# Updates of the Manager

The coordinator of updates, and the records that it reads again.
-/

namespace LongHub

/-! ## The coordinator of Manager updates -/

namespace ManagerUpdate

structure CoordinatorOptions where
  node : NodePlatform
  store : RecoveryStore
  currentVersion : String
  channel : String
  identity : String
  recoveryInstaller : String
  /-- `filepath.Join` of the directory of updates and a filename. -/
  targetPath : String → String
  hasStop : Bool

/-- A regular file. -/
structure Installer where
  size : Int
  sha256 : String

structure Launch where
  path : String
  mode : LaunchMode
  pending : Option PendingUpdate
  verified : List (String × Manifest)

structure UpdateWorld where
  pending : Option PendingUpdate
  installers : String → Option Installer
  fields : CoordinatorFields
  verified : List (String × Manifest)
  launched : List Launch

structure UpdateChoice where
  fails : Bool
  time : String
  answer : Option Envelope

def isInstallerOf (manifest : Manifest) (file : Option Installer) : Bool :=
  file.any fun installer => installer.size = manifest.size && installer.sha256 = manifest.sha256

def stateOf : Option Candidate → String
  | none => "current"
  | some candidate =>
    if !candidate.available then "current"
    else if !candidate.eligible then "rollout_pending"
    else "available"

/-- `client.Download` after its checks: a file that is there is taken if it is the right one. -/
def downloadTo (store : RecoveryStore) (path : String) (manifest : Manifest) (fails : Bool)
    (world : UpdateWorld) : Except UpdateError String × UpdateWorld :=
  let file := store.clean path
  if isInstallerOf manifest (world.installers file) then (.ok path, world)
  else if (world.installers file).isSome then (.error .unsafeUpdatePath, world)
  else if fails then (.error .downloadInvalid, world)
  else (.ok path, { world with
    installers := Function.update world.installers file (some ⟨manifest.size, manifest.sha256⟩) })

@[grind =]
def performCall (options : CoordinatorOptions) (choice : UpdateChoice) (world : UpdateWorld) :
    (request : UpdateCall) → Except UpdateError request.Answer × UpdateWorld
  | .readPending => (if choice.fails then .error .ioFailed else .ok world.pending, world)
  | .writePending pending =>
    if choice.fails then (.error .unsafeUpdatePath, world)
    else (.ok (), { world with pending := some pending })
  | .removePending =>
    if choice.fails then (.error .unsafeUpdatePath, world)
    else (.ok (), { world with pending := none })
  | .verifyInstaller path manifest =>
    if choice.fails || !isInstallerOf manifest (world.installers (options.store.clean path)) then
      (.error .downloadInvalid, world)
    else (.ok (), { world with verified := (path, manifest) :: world.verified })
  | .launch path mode =>
    if choice.fails then (.error .updateUnavailable, world)
    else (.ok (), { world with
      launched := world.launched ++ [⟨path, mode, world.pending, world.verified⟩] })
  | .stop => (.ok (), world)
  | .now => (.ok choice.time, world)
  | .fetchLatest _ | .fetchVersion _ _ =>
    (if choice.fails then .error .updateUnavailable else .ok choice.answer, world)
  | .download manifest =>
    downloadTo options.store (options.targetPath manifest.filename) manifest choice.fails world
  | .readFields => (.ok world.fields, world)
  | .setCandidate candidate =>
    let fields := ⟨candidate, "", stateOf candidate, ""⟩
    (.ok fields, { world with fields })
  | .setDownloaded path =>
    let fields := { world.fields with downloadedPath := path, state := "ready", errorCode := "" }
    (.ok fields, { world with fields })
  | .fail code =>
    let fields := { world.fields with state := "unavailable", errorCode := code }
    (.ok fields, { world with fields })
  | .applying =>
    let fields := { world.fields with state := "applying", errorCode := "" }
    (.ok fields, { world with fields })

namespace CoordinatorOptions

variable (options : CoordinatorOptions)

/-- The metadata of the installed version. -/
def exact : UpdateProgram Envelope := do
  .ofExcept (Except.ensure (versionPattern options.currentVersion &&
    (options.channel = "stable" || options.channel = "beta")) .updateUnavailable)
  match ← ask (.fetchVersion options.currentVersion options.channel) with
  | none => .throw .updateUnavailable
  | some envelope =>
    .ofExcept (options.store.checkEnvelope envelope)
    .ofExcept (Except.ensure (envelope.manifest.version = options.currentVersion &&
      envelope.manifest.channel = options.channel) .updateUnavailable)
    return envelope

structure PublicStatus where
  state : String
  currentVersion : String
  targetVersion : String
  available : Bool
  eligible : Bool
  downloaded : Bool
  errorCode : String

def statusLocked (fields : CoordinatorFields) : PublicStatus where
  state := fields.state
  currentVersion := options.currentVersion
  targetVersion := (fields.candidate.map fun found => found.envelope.manifest.version).getD ""
  available := fields.candidate.any Candidate.available
  eligible := fields.candidate.any Candidate.eligible
  downloaded := fields.downloadedPath ≠ ""
  errorCode := fields.errorCode

/-- Note the code of an error in the fields, and return the error. -/
def orFail {α : Type} (code : String) (program : UpdateProgram α) : UpdateProgram α := do
  match ← Program.attempt program with
  | .ok value => return value
  | .error problem =>
    let _ ← ask (.fail code)
    .throw problem

def usable (fields : CoordinatorFields) : Option Candidate :=
  fields.candidate.filter fun candidate => candidate.available && candidate.eligible

def apply (confirm : Bool) : UpdateProgram PublicStatus := do
  .ofExcept (Except.ensure confirm .updateUnavailable)
  let fields ← ask .readFields
  .ofExcept (Except.ensure (fields.downloadedPath ≠ "") .updateUnavailable)
  let candidate ← .ofExcept (Except.require (usable fields) .updateUnavailable)
  let rollback ← orFail "MANAGER_UPDATE_ROLLBACK_UNAVAILABLE" options.exact
  orFail "MANAGER_UPDATE_ROLLBACK_UNAVAILABLE"
    (ask (.verifyInstaller options.recoveryInstaller rollback.manifest))
  let _ ← orFail "MANAGER_UPDATE_PREPARE_FAILED"
    (options.store.prepare options.currentVersion candidate.envelope fields.downloadedPath rollback
      options.recoveryInstaller)
  orFail "MANAGER_UPDATE_LAUNCH_FAILED" (ask (.launch fields.downloadedPath .update))
  let fields ← ask .applying
  if options.hasStop then ask .stop
  return options.statusLocked fields

/-- A start.  When it returns for the target version, a timer calls `markHealthy` later. -/
def recoverOnStartup : UpdateProgram Unit := do
  match ← options.store.recordTargetStartup options.currentVersion with
  | (none, _) => return ()
  | (some pending, rollbackRequired) =>
    if rollbackRequired then
      ask (.verifyInstaller pending.rollbackInstaller pending.rollbackMetadata.manifest)
      let _ ← options.store.beginRollback "startup_health_timeout"
      ask (.launch pending.rollbackInstaller .rollback)
      if options.hasStop then ask .stop

/-- The steps of one process alone, for some of the choices. -/
def deviceFor (allowed : UpdateChoice → Bool) :
    Device UpdateWorld UpdateCall UpdateCall.Answer UpdateError UpdateChoice where
  perform request choice world :=
    if allowed choice then some (performCall options choice world request) else none

/-- Any step may fail. -/
abbrev device := options.deviceFor fun _ => true

abbrev unfailing := options.deviceFor fun choice => !choice.fails

end CoordinatorOptions

end ManagerUpdate

/-! ## Records of an update that are read again -/

namespace ManagerUpdate

namespace RecoveryStore

variable {store : RecoveryStore} {pending : PendingUpdate}

/-- What `Read` checks of the parts of a record that never change. -/
structure Genuine (store : RecoveryStore) (pending : PendingUpdate) : Prop where
  versions : versionPattern pending.previousVersion = true ∧
    versionPattern pending.targetVersion = true
  sequence : 0 < pending.targetSequence
  target : store.verifyEnvelope pending.targetMetadata = .ok ()
  rollback : store.verifyEnvelope pending.rollbackMetadata = .ok ()
  manifests : validateManifest pending.targetMetadata.manifest = .ok () ∧
    validateManifest pending.rollbackMetadata.manifest = .ok ()
  matching : pending.targetMetadata.manifest.version = pending.targetVersion ∧
    pending.rollbackMetadata.manifest.version = pending.previousVersion ∧
    pending.targetMetadata.manifest.sequence = pending.targetSequence
  path : store.pathWithin pending.targetInstaller = true

theorem checkPending_iff : store.checkPending pending = .ok () ↔
    pendingSize pending ≤ maxPendingSize ∧ pending.attempts ≤ 3 ∧ store.Genuine pending := by
  simp only [checkPending, Except.bind_eq_ok, Except.ensure_eq_ok,
    Bool.and_eq_true, decide_eq_true_eq]
  constructor
  · rintro ⟨-, size, -, ⟨⟨⟨previous, target⟩, sequence⟩, attempts⟩, _, targetManifest, _,
      rollbackManifest, _, targetEnvelope, _, rollbackEnvelope, ⟨⟨one, two⟩, three⟩, path⟩
    exact ⟨size, attempts, ⟨previous, target⟩, sequence, targetEnvelope, rollbackEnvelope,
      ⟨targetManifest, rollbackManifest⟩, ⟨one, two, three⟩, path⟩
  · rintro ⟨size, attempts, genuine⟩
    exact ⟨(), size, (), ⟨⟨⟨genuine.versions.1, genuine.versions.2⟩, genuine.sequence⟩, attempts⟩,
      (), genuine.manifests.1, (), genuine.manifests.2, (), genuine.target, (), genuine.rollback,
      ⟨⟨genuine.matching.1, genuine.matching.2.1⟩, genuine.matching.2.2⟩, genuine.path⟩

theorem accept_eq_ok_iff {file : Option PendingUpdate} : store.accept file = .ok pending ↔
    file = some pending ∧ store.checkPending pending = .ok () := by
  simp only [accept, Except.bind_eq_ok, Except.require_eq_ok, Except.pure_eq_ok]
  constructor
  · rintro ⟨found, isFile, _, checked, rfl⟩
    exact ⟨isFile, checked⟩
  · rintro ⟨isFile, checked⟩
    exact ⟨pending, isFile, (), checked, rfl⟩

def Readable (store : RecoveryStore) (file : Option PendingUpdate) : Prop :=
  ∃ pending, store.accept file = .ok pending

theorem readable_some_iff : store.Readable (some pending) ↔
    pendingSize pending ≤ maxPendingSize ∧ pending.attempts ≤ 3 ∧ store.Genuine pending := by
  rw [← checkPending_iff]
  constructor
  · rintro ⟨found, accepted⟩
    obtain ⟨same, checked⟩ := accept_eq_ok_iff.mp accepted
    rwa [Option.some.inj same]
  · intro checked
    exact ⟨pending, accept_eq_ok_iff.mpr ⟨rfl, checked⟩⟩

end RecoveryStore

section Rules

variable {options : CoordinatorOptions} {allowed : UpdateChoice → Bool}
variable {Keep : UpdateWorld → Prop} {β : Type} {Final : Except UpdateError β → UpdateWorld → Prop}
variable {world after : UpdateWorld} {pending : PendingUpdate}

def MayFail (allowed : UpdateChoice → Bool) : Prop :=
  ∃ choice, allowed choice = true ∧ choice.fails = true

variable {request : UpdateCall} {next : UpdateProgram β} {path : String}

theorem perform_deviceFor {choice : UpdateChoice} {answer : Except UpdateError request.Answer} :
    (options.deviceFor allowed).perform request choice world = some (answer, after) ↔
      allowed choice = true ∧ performCall options choice world request = (answer, after) := by
  unfold CoordinatorOptions.deviceFor
  by_cases isAllowed : allowed choice = true
  · simp [isAllowed]
  · simp [isAllowed]

theorem sound_check {α : Type} {outcome : Except UpdateError α} {next : α → UpdateProgram β}
    (keep : Keep world)
    (passes : ∀ value, outcome = .ok value →
      (options.deviceFor allowed).Sound Keep Final (next value) world)
    (fails : ∀ problem, outcome = .error problem → Final (.error problem) world) :
    (options.deviceFor allowed).Sound Keep Final (.ofExcept outcome >>= next) world :=
  Device.sound_ofExcept_bind keep passes fails

theorem sound_ask {next : request.Answer → UpdateProgram β} (keep : Keep world)
    (succeeds : ∀ choice value after, allowed choice = true →
      performCall options choice world request = (.ok value, after) →
      (options.deviceFor allowed).Sound Keep Final (next value) after)
    (fails : ∀ choice problem after, allowed choice = true →
      performCall options choice world request = (.error problem, after) →
      Keep after ∧ Final (.error problem) after) :
    (options.deviceFor allowed).Sound Keep Final (ask request >>= next) world := by
  apply Device.sound_perform_bind keep
  · intro choice value after acts
    obtain ⟨isAllowed, ran⟩ := perform_deviceFor.mp acts
    exact succeeds choice value after isAllowed ran
  · intro choice problem after acts
    obtain ⟨isAllowed, ran⟩ := perform_deviceFor.mp acts
    exact fails choice problem after isAllowed ran

theorem sound_attempt_read {next : Except UpdateError PendingUpdate → UpdateProgram β}
    (keep : Keep world) (reads : (options.deviceFor allowed).Sound Keep Final
      (next (options.store.accept world.pending)) world) (fails : MayFail allowed →
      (options.deviceFor allowed).Sound Keep Final (next (.error .ioFailed)) world) :
    (options.deviceFor allowed).Sound Keep Final
      (Program.attempt options.store.read >>= next) world := by
  refine ⟨keep, fun choice answer after acts => ?_⟩
  obtain ⟨isAllowed, ran⟩ := perform_deviceFor.mp acts
  simp only [performCall] at ran
  split_ifs at ran with failing
  · cases ran
    exact fails ⟨choice, isAllowed, failing⟩
  · cases ran
    cases accepted : options.store.accept world.pending with
    | error problem =>
      simpa [accepted, Program.ofExcept, Program.bind, Program.tryCatch, Program.attempt, bind]
        using reads
    | ok pending =>
      simpa [accepted, Program.ofExcept, Program.bind, Program.tryCatch, Program.attempt, bind]
        using reads

theorem sound_read {next : PendingUpdate → UpdateProgram β} (keep : Keep world)
    (accepted : options.store.accept world.pending = .ok pending)
    (reads : (options.deviceFor allowed).Sound Keep Final (next pending) world)
    (fails : MayFail allowed → Final (.error .ioFailed) world) :
    (options.deviceFor allowed).Sound Keep Final (options.store.read >>= next) world := by
  refine ⟨keep, fun choice answer after acts => ?_⟩
  obtain ⟨isAllowed, ran⟩ := perform_deviceFor.mp acts
  simp only [performCall] at ran
  split_ifs at ran with failing
  · cases ran
    exact ⟨keep, fails ⟨choice, isAllowed, failing⟩⟩
  · cases ran
    simpa [accepted, Program.ofExcept, Program.bind, bind] using reads

theorem sound_write (keep : Keep world)
    (writes : (options.deviceFor allowed).Sound Keep Final next
      { world with pending := some pending })
    (fails : MayFail allowed → Final (.error .unsafeUpdatePath) world) :
    (options.deviceFor allowed).Sound Keep Final
      (ask (.writePending pending) >>= fun _ => next) world := by
  apply sound_ask keep
  · intro choice value after isAllowed ran
    simp only [performCall] at ran
    split_ifs at ran
    · cases ran
    · cases ran
      exact writes
  · intro choice problem after isAllowed ran
    simp only [performCall] at ran
    split_ifs at ran with failing
    · cases ran
      exact ⟨keep, fails ⟨choice, isAllowed, failing⟩⟩
    · cases ran

theorem sound_verify {manifest : Manifest} (keep : Keep world)
    (verifies : isInstallerOf manifest (world.installers (options.store.clean path)) = true →
      (options.deviceFor allowed).Sound Keep Final next
        { world with verified := (path, manifest) :: world.verified }) (fails : (MayFail allowed ∨
        isInstallerOf manifest (world.installers (options.store.clean path)) = false) →
      Final (.error .downloadInvalid) world) :
    (options.deviceFor allowed).Sound Keep Final
      (ask (.verifyInstaller path manifest) >>= fun _ => next) world := by
  apply sound_ask keep
  · intro choice value after isAllowed ran
    simp only [performCall] at ran
    split_ifs at ran with failing
    · cases ran
    · cases ran
      simp only [Bool.or_eq_true, Bool.not_eq_true', not_or, Bool.not_eq_false] at failing
      exact verifies failing.2
  · intro choice problem after isAllowed ran
    simp only [performCall] at ran
    split_ifs at ran with failing
    · cases ran
      refine ⟨keep, fails ?_⟩
      simp only [Bool.or_eq_true, Bool.not_eq_true'] at failing
      exact failing.imp_left fun flag => ⟨choice, isAllowed, flag⟩
    · cases ran

theorem sound_launch {mode : LaunchMode} (keep : Keep world)
    (launches : (options.deviceFor allowed).Sound Keep Final next { world with
      launched := world.launched ++ [⟨path, mode, world.pending, world.verified⟩] })
    (fails : MayFail allowed → Final (.error .updateUnavailable) world) :
    (options.deviceFor allowed).Sound Keep Final
      (ask (.launch path mode) >>= fun _ => next) world := by
  apply sound_ask keep
  · intro choice value after isAllowed ran
    simp only [performCall] at ran
    split_ifs at ran
    · cases ran
    · cases ran
      exact launches
  · intro choice problem after isAllowed ran
    simp only [performCall] at ran
    split_ifs at ran with failing
    · cases ran
      exact ⟨keep, fails ⟨choice, isAllowed, failing⟩⟩
    · cases ran

theorem sound_stop {Ended : Except UpdateError Unit → UpdateWorld → Prop} {isAsked : Bool}
    (keep : Keep world) (ended : Ended (.ok ()) world) :
    (options.deviceFor allowed).Sound Keep Ended
      (if isAsked = true then ask .stop else pure ()) world := by
  cases isAsked with
  | false => exact Device.sound_pure keep ended
  | true =>
    apply Device.sound_perform keep
    intro choice answer after acts
    obtain ⟨-, ran⟩ := perform_deviceFor.mp acts
    cases ran
    exact ⟨keep, ended⟩

end Rules

inductive Form where
  | counted (starts : Nat)
  | rolledBack

def PendingUpdate.inForm (pending : PendingUpdate) : Form → PendingUpdate
  | .counted starts => { pending with attempts := starts }
  | .rolledBack =>
    { pending with attempts := 3, phase := .rollback, reason := "startup_health_timeout" }

def Form.few : Form → Prop
  | .counted starts => starts ≤ 3
  | .rolledBack => True

/-- The text of the record is not too long, also with the reason of a rollback. -/
def PendingUpdate.Fits (pending : PendingUpdate) : Prop :=
  ∀ form : Form, form.few → pendingSize (pending.inForm form) ≤ maxPendingSize

structure PendingUpdate.Prepared (store : RecoveryStore) (pending : PendingUpdate) : Prop where
  genuine : store.Genuine pending
  attempts : pending.attempts = 0
  phase : pending.phase = .installing
  reason : pending.reason = ""
  differs : pending.targetVersion ≠ pending.previousVersion

theorem genuine_inForm {store : RecoveryStore} {pending : PendingUpdate}
    (genuine : store.Genuine pending) (form : Form) : store.Genuine (pending.inForm form) := by
  cases form with
  | counted starts => exact { genuine with }
  | rolledBack => exact { genuine with }

theorem accept_inForm {store : RecoveryStore} {pending : PendingUpdate} {form : Form}
    (prepared : pending.Prepared store) (fits : pending.Fits) (few : form.few) :
    store.accept (some (pending.inForm form)) = .ok (pending.inForm form) := by
  rw [RecoveryStore.accept_eq_ok_iff, RecoveryStore.checkPending_iff]
  refine ⟨rfl, fits form few, ?_, genuine_inForm prepared.genuine form⟩
  cases form with
  | counted starts => exact few
  | rolledBack => exact le_refl 3

/-- The installer of the previous version is there. -/
def Intact (options : CoordinatorOptions) (pending : PendingUpdate) (world : UpdateWorld) : Prop :=
  isInstallerOf pending.rollbackMetadata.manifest
    (world.installers (options.store.clean pending.rollbackInstaller)) = true

def recorded (file : Option PendingUpdate) : Nat :=
  (file.map PendingUpdate.attempts).getD 0

/-- The installer of the previous version has been launched once more. -/
def RollbackLaunched (pending : PendingUpdate) (before after : UpdateWorld) : Prop :=
  ∃ file verified, after.launched =
    before.launched ++ [⟨pending.rollbackInstaller, .rollback, file, verified⟩]

end ManagerUpdate

end LongHub
