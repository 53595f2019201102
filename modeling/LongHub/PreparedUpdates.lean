import LongHub.ManifestAgreement
import LongHub.RecordSize
import LongHub.UpdateRecovery

/-!
# What `Prepare` leaves

A `Prepare` that returns has found no record, has verified both installers, and has written a record
of which everything but its length is accepted by `Read`.
-/

namespace LongHub

open Device
namespace ManagerUpdate

section Checks

variable {store : RecoveryStore} {previousVersion : String} {target rollback : Envelope}

theorem validateManifest_facts {manifest : Manifest} (valid : validateManifest manifest = .ok ()) :
    versionPattern manifest.version = true ∧ 0 < manifest.sequence := by
  simp only [validateManifest, Except.bind_eq_ok, Except.ensure_eq_ok,
    Bool.and_eq_true, decide_eq_true_eq] at valid
  obtain ⟨_, _, _, ⟨⟨sequence, _⟩, version⟩, _⟩ := valid
  exact ⟨version, sequence⟩

theorem validateManifest_of_verifyEnvelope {envelope : Envelope}
    (verified : store.verifyEnvelope envelope = .ok ()) :
    validateManifest envelope.manifest = .ok () := by
  simp only [RecoveryStore.verifyEnvelope, RecoveryStore.checkEnvelope, Except.bind_eq_ok]
    at verified
  obtain ⟨_, _, _, valid, _⟩ := verified
  exact valid

structure Checked (store : RecoveryStore) (previousVersion : String)
    (target rollback : Envelope) : Prop where
  differs : target.manifest.version ≠ previousVersion
  previous : rollback.manifest.version = previousVersion
  target : store.verifyEnvelope target = .ok ()
  rollback : store.verifyEnvelope rollback = .ok ()

theorem checked_of_checkPrepare
    (checks : store.checkPrepare previousVersion target rollback = .ok ()) :
    Checked store previousVersion target rollback := by
  simp only [RecoveryStore.checkPrepare, Except.bind_eq_ok, Except.ensure_eq_ok,
    Bool.and_eq_true, decide_eq_true_eq, ne_eq, decide_not, Bool.not_eq_true',
    decide_eq_false_iff_not] at checks
  obtain ⟨_, ⟨⟨differs, previous⟩, -⟩, _, targetVerified, _, rollbackVerified, -⟩ := checks
  exact ⟨differs, previous, targetVerified, rollbackVerified⟩

theorem pathWithin_clean (path : String) : store.pathWithin (store.clean path) =
    store.pathWithin path := by
  simp only [RecoveryStore.pathWithin, store.clean_clean]

theorem prepared_newPending {targetInstaller rollbackInstaller createdAt : String}
    (checked : Checked store previousVersion target rollback)
    (within : store.pathWithin targetInstaller = true) :
    (store.newPending previousVersion target targetInstaller rollback rollbackInstaller
      createdAt).Prepared store := by
  have targetValid := validateManifest_of_verifyEnvelope checked.target
  have rollbackValid := validateManifest_of_verifyEnvelope checked.rollback
  have rollbackVersion := (validateManifest_facts rollbackValid).1
  rw [checked.previous] at rollbackVersion
  have genuine : store.Genuine (store.newPending previousVersion target targetInstaller rollback
      rollbackInstaller createdAt) :=
    { versions := ⟨rollbackVersion, (validateManifest_facts targetValid).1⟩
      sequence := (validateManifest_facts targetValid).2
      __ := checked
      manifests := ⟨targetValid, rollbackValid⟩
      matching := ⟨rfl, checked.previous, rfl⟩
      path := (pathWithin_clean targetInstaller).trans within }
  exact ⟨genuine, rfl, rfl, rfl, checked.differs⟩

end Checks

section Prepare

variable {options : CoordinatorOptions} {allowed : UpdateChoice → Bool}
variable {world : UpdateWorld}

def PrepareDone (options : CoordinatorOptions) (previousVersion : String) (before : UpdateWorld) :
    Except UpdateError PendingUpdate → UpdateWorld → Prop
  | .ok pending, after => before.pending = none ∧ after.pending = some pending ∧
      pending.Prepared options.store ∧ pending.previousVersion = previousVersion ∧
      Intact options pending before
  | .error _, after => after.pending = before.pending

def SameInstallers (before after : UpdateWorld) : Prop :=
  after.installers = before.installers ∧ after.launched = before.launched

theorem checkPending_ne_notExist {store : RecoveryStore} (pending : PendingUpdate) :
    store.checkPending pending ≠ .error .notExist := by
  simp [RecoveryStore.checkPending, RecoveryStore.verifyEnvelope, RecoveryStore.checkEnvelope,
    signaturePayload, validateManifest, bind, pure, Except.pure, Except.bind_eq_error_iff,
    Except.ensure_eq_error_iff]

theorem accept_some_ne_notExist {store : RecoveryStore} (pending : PendingUpdate) :
    store.accept (some pending) ≠ .error .notExist := by
  intro refused
  have checked : store.checkPending pending = .error .notExist := by
    simpa [RecoveryStore.accept, bind, pure, Except.pure, Except.bind_eq_error_iff,
      Except.require_eq_error_iff] using refused
  exact checkPending_ne_notExist pending checked

/-- `Prepare` goes on only if there is no file. -/
theorem ensureNotPending_iff : RecoveryStore.ensureNotPending
      (options.store.accept world.pending) = .ok () ↔ world.pending = none := by
  constructor
  · intro passes
    cases file : world.pending with
    | none => rfl
    | some pending =>
      rw [file] at passes
      cases accepted : options.store.accept (some pending) with
      | error problem =>
        rw [accepted] at passes
        cases problem with
        | notExist => exact absurd accepted (accept_some_ne_notExist pending)
        | _ => cases passes
      | ok found =>
        rw [accepted] at passes
        cases passes
  · intro isNone
    rw [isNone]
    rfl

theorem sound_prepare (previousVersion targetInstaller rollbackInstaller : String)
    (target rollback : Envelope) : (options.deviceFor allowed).Sound (SameInstallers world)
      (PrepareDone options previousVersion world)
      (options.store.prepare previousVersion target targetInstaller rollback rollbackInstaller)
      world := by
  have same (verified : List (String × Manifest)) :
      SameInstallers world { world with verified := verified } := ⟨rfl, rfl⟩
  apply sound_check (same _)
  · intro _ checks
    have checked := checked_of_checkPrepare checks
    apply sound_verify (same _)
    · intro _
      apply sound_verify (same _)
      · intro intact
        apply sound_check (same _)
        · intro _ within
          rw [Except.ensure_eq_ok] at within
          apply sound_attempt_read (same _)
          · apply sound_check (same _)
            · intro _ passes
              have isNone : world.pending = none := ensureNotPending_iff.mp passes
              apply sound_ask (same _)
              · intro choice createdAt after _ ran
                cases ran
                apply sound_write (same _)
                · apply sound_pure ⟨rfl, rfl⟩
                  refine ⟨isNone, rfl, prepared_newPending checked within, rfl, ?_⟩
                  change isInstallerOf rollback.manifest (world.installers
                    (options.store.clean (options.store.clean rollbackInstaller))) = true
                  rw [options.store.clean_clean]
                  exact intact
                · exact fun _ => rfl
              · intro choice problem after _ ran
                cases ran
            · exact fun _ _ => rfl
          · intro _
            apply sound_check (same _)
            · intro _ passes
              cases passes
            · exact fun _ _ => rfl
        · exact fun _ _ => rfl
      · exact fun _ => rfl
    · exact fun _ => rfl
  · exact fun _ _ => rfl

end Prepare

section Runs

variable {options : CoordinatorOptions} {allowed : UpdateChoice → Bool} {β : Type}
variable {outcome : Except UpdateError β} {world middle after : UpdateWorld}

def success : UpdateChoice := ⟨false, "", none⟩

theorem ends_check {α : Type} {checked : Except UpdateError α} {value : α}
    {next : α → UpdateProgram β} (passes : checked = .ok value)
    (ends : (options.deviceFor allowed).Ends (next value) world outcome after) :
    (options.deviceFor allowed).Ends (.ofExcept checked >>= next) world outcome after := by
  rw [passes]
  exact ends

theorem ends_ask {request : UpdateCall} {answer : request.Answer} {choice : UpdateChoice}
    {next : request.Answer → UpdateProgram β} (isAllowed : allowed choice = true)
    (acts : performCall options choice world request = (.ok answer, middle))
    (ends : (options.deviceFor allowed).Ends (next answer) middle outcome after) :
    (options.deviceFor allowed).Ends (ask request >>= next) world outcome after :=
  ends_bind (ends_perform (perform_deviceFor.mpr ⟨isAllowed, acts⟩)) ends

variable (isAllowed : allowed success = true)
include isAllowed

theorem ends_verify {path : String} {manifest : Manifest} {next : UpdateProgram β}
    (isInstaller : isInstallerOf manifest (world.installers (options.store.clean path)) = true)
    (ends : (options.deviceFor allowed).Ends next
      { world with verified := (path, manifest) :: world.verified } outcome after) :
    (options.deviceFor allowed).Ends (ask (.verifyInstaller path manifest) >>= fun _ => next)
      world outcome after := by
  have acts : performCall options success world (.verifyInstaller path manifest) =
      (.ok (), { world with verified := (path, manifest) :: world.verified }) := by
    simp [performCall, isInstaller, success]
  exact ends_ask isAllowed acts ends

theorem ends_read :
    (options.deviceFor allowed).Ends options.store.read world
      (options.store.accept world.pending) world := by
  have acts : (options.deviceFor allowed).perform .readPending success world =
      some (.ok world.pending, world) := perform_deviceFor.mpr ⟨isAllowed, rfl⟩
  exact ends_bind (ends_perform acts) ends_ofExcept

theorem ends_attempt_read {next : Except UpdateError PendingUpdate → UpdateProgram β}
    (ends : (options.deviceFor allowed).Ends (next (options.store.accept world.pending)) world
      outcome after) :
    (options.deviceFor allowed).Ends (Program.attempt options.store.read >>= next) world
      outcome after :=
  ends_bind (ends_read isAllowed).attempt ends

theorem ends_recordTargetStartup {pending : PendingUpdate}
    (accepted : options.store.accept world.pending = .ok pending)
    (installing : pending.phase = .installing)
    (current : options.currentVersion = pending.targetVersion) :
    (options.deviceFor allowed).Ends (options.store.recordTargetStartup options.currentVersion)
      world
      (.ok (some { pending with attempts := pending.attempts + 1 }, 3 ≤ pending.attempts + 1))
      { world with pending := some { pending with attempts := pending.attempts + 1 } } := by
  have notRollback : ¬ (pending.phase = .rollback ∧
      options.currentVersion = pending.previousVersion) := by
    rw [installing]
    rintro ⟨isRollback, -⟩
    cases isRollback
  have isTarget : ¬ (pending.phase ≠ .installing ∨
      options.currentVersion ≠ pending.targetVersion) := by
    rintro (other | other)
    · exact other installing
    · exact other current
  apply ends_attempt_read isAllowed
  rw [accepted]
  dsimp only
  rw [if_neg notRollback, if_neg isTarget]
  apply ends_ask isAllowed rfl
  exact ⟨[], rfl⟩

theorem ends_recoverOnStartup_refused {pending : PendingUpdate}
    (accepted : options.store.accept world.pending = .ok pending)
    (notPrevious : ¬ (pending.phase = .rollback ∧ options.currentVersion = pending.previousVersion))
    (refused : pending.phase ≠ .installing ∨ options.currentVersion ≠ pending.targetVersion) :
    (options.deviceFor allowed).Ends options.recoverOnStartup world (.error .metadataInvalid)
      world := by
  apply ends_bind_error
  apply ends_attempt_read isAllowed
  rw [accepted]
  dsimp only
  rw [if_neg notPrevious, if_pos refused]
  exact ⟨[], rfl⟩

theorem ends_prepare {previousVersion targetInstaller rollbackInstaller : String}
    {target rollback : Envelope}
    (checks : options.store.checkPrepare previousVersion target rollback = .ok ())
    (targetFile : isInstallerOf target.manifest
      (world.installers (options.store.clean targetInstaller)) = true)
    (rollbackFile : isInstallerOf rollback.manifest
      (world.installers (options.store.clean rollbackInstaller)) = true)
    (within : options.store.pathWithin targetInstaller = true) (isNone : world.pending = none) :
    (options.deviceFor allowed).Ends
      (options.store.prepare previousVersion target targetInstaller rollback rollbackInstaller)
      world
      (.ok (options.store.newPending previousVersion target targetInstaller rollback
        rollbackInstaller ""))
      { world with
        pending := some (options.store.newPending previousVersion target targetInstaller rollback
          rollbackInstaller "")
        verified := (rollbackInstaller, rollback.manifest) ::
          (targetInstaller, target.manifest) :: world.verified } := by
  unfold RecoveryStore.prepare
  apply ends_check checks
  apply ends_verify isAllowed targetFile
  refine ends_verify isAllowed ?_ ?_
  · exact rollbackFile
  · have isWithin : Except.ensure (options.store.pathWithin targetInstaller)
        UpdateError.unsafeUpdatePath = .ok () := Except.ensure_eq_ok.mpr within
    apply ends_check isWithin
    apply ends_attempt_read isAllowed
    apply ends_check (ensureNotPending_iff.mpr isNone)
    apply ends_ask isAllowed rfl
    apply ends_ask isAllowed rfl
    exact ⟨[], rfl⟩

end Runs

/-- Paths without links and dots, and one key. -/
def exampleStore : RecoveryStore where
  isTrusted keyId := keyId = "release"
  verifies _ _ signature := signature = "signed"
  root := "updates"
  clean := id
  clean_clean _ := rfl
  rel root path :=
    if (root ++ "/").toList.isPrefixOf path.toList then
      some (String.ofList (path.toList.drop (root.length + 1)))
    else none
  isAbs _ := false
  isPathSeparator char := char = '/'

def exampleTarget : Envelope := ⟨exampleManifest "2026-08-16T00:00:00Z", "release", "signed"⟩

def exampleRollback : Envelope where
  manifest := { exampleManifest "2026-08-16T00:00:00Z" with
    sequence := 1
    version := "0.1.0"
    filename := "LongHub-Manager-Setup-0.1.0.exe"
    urlPath := "/downloads/LongHub-Manager-Setup-0.1.0.exe" }
  signatureKeyId := "release"
  signature := "signed"

theorem verifyEnvelope_example {envelope : Envelope}
    (small : bound 0 (envelopeJson envelope) ≤ 40000)
    (valid : validateManifest envelope.manifest = .ok ())
    (key : envelope.signatureKeyId = "release") (signature : envelope.signature = "signed") :
    exampleStore.verifyEnvelope envelope = .ok () := by
  have size : envelopeSize envelope ≤ maxEnvelopeSize := by
    have bounded := envelopeSize_le envelope
    have limit : maxEnvelopeSize = 262144 := rfl
    omega
  have isKey : signatureKeyIdPattern "release" = true := by decide
  simp [RecoveryStore.verifyEnvelope, RecoveryStore.checkEnvelope, signaturePayload, exampleStore,
    bind, Except.bind, Except.ensure, pure, Except.pure, size, valid, key, signature, isKey]

theorem checkPrepare_example :
    exampleStore.checkPrepare "0.1.0" exampleTarget exampleRollback = .ok () := by
  have targetSize : bound 0 (envelopeJson exampleTarget) ≤ 40000 := by decide
  have rollbackSize : bound 0 (envelopeJson exampleRollback) ≤ 40000 := by decide
  have targetValid : validateManifest exampleTarget.manifest = .ok () := by decide
  have rollbackValid : validateManifest exampleRollback.manifest = .ok () := by decide
  have target := verifyEnvelope_example targetSize targetValid rfl rfl
  have rollback := verifyEnvelope_example rollbackSize rollbackValid rfl rfl
  have newer : compareVersions exampleTarget.manifest.version "0.1.0" = .ok 1 := by decide
  have versions : (exampleTarget.manifest.version ≠ "0.1.0" &&
      exampleRollback.manifest.version = "0.1.0" &&
      exampleTarget.manifest.channel = exampleRollback.manifest.channel) = true := by
    decide
  simp only [RecoveryStore.checkPrepare, Except.bind_eq_ok, Except.ensure_eq_ok]
  exact ⟨(), versions, (), target, (), rollback, 1, newer, rfl⟩

end ManagerUpdate

end LongHub
