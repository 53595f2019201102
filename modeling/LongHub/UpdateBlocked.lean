import LongHub.RollbackStarts

/-!
# An update that is never installed

`Apply` writes the record before it launches the installer, and only a healthy start of the target
or a rollback removes it.
-/

namespace LongHub

open Device
namespace ManagerUpdate

section Apply

variable {options : CoordinatorOptions} {allowed : UpdateChoice → Bool}
variable {world after : UpdateWorld} {pending : PendingUpdate}

def Untouched (before after : UpdateWorld) : Prop :=
  after.pending = before.pending ∧ after.launched = before.launched

/-- The record of an update from the running version has been written where there was none. -/
def Wrote (options : CoordinatorOptions) (before after : UpdateWorld) : Prop :=
  before.pending = none ∧ ∃ pending, after.pending = some pending ∧
    pending.Prepared options.store ∧ pending.previousVersion = options.currentVersion

def ApplyDone {α : Type} (options : CoordinatorOptions) (before : UpdateWorld)
    (outcome : Except UpdateError α) (after : UpdateWorld) : Prop :=
  (∃ problem, outcome = .error problem) ∧ Untouched before after ∨ Wrote options before after

def Recorded {α : Type} (Post : Except UpdateError α → UpdateWorld → Prop) :
    Except UpdateError α → UpdateWorld → Prop
  | .ok value, after => Post (.ok value) after
  | .error problem, after => ∃ earlier fields, Post (.error problem) earlier ∧
      after = { earlier with fields := fields }

theorem sound_orFail {α β : Type} {code : String} {program : UpdateProgram α}
    {next : α → UpdateProgram β} {Post : Except UpdateError α → UpdateWorld → Prop}
    {Final : Except UpdateError β → UpdateWorld → Prop}
    (sound : (options.deviceFor allowed).Ensures Post program world)
    (returns : ∀ value after, Post (.ok value) after →
      (options.deviceFor allowed).Ensures Final (next value) after)
    (fails : ∀ problem after fields, Post (.error problem) after →
      Final (.error problem) { after with fields := fields }) :
    (options.deviceFor allowed).Ensures Final
      (CoordinatorOptions.orFail code program >>= next) world := by
  have noted : (options.deviceFor allowed).Ensures (Recorded Post)
      (CoordinatorOptions.orFail code program) world := by
    refine sound_bind sound.attempt ?_ ?_
    · rintro outcome after - ⟨inner, same, post⟩
      cases same
      cases outcome with
      | ok value => exact sound_pure trivial post
      | error problem =>
        apply sound_ask trivial
        · intro choice fields later _ ran
          cases ran
          exact sound_throw trivial ⟨after, _, post, rfl⟩
        · intro choice failure later _ ran
          cases ran
    · rintro problem after - ⟨inner, same, -⟩
      cases same
  refine sound_bind noted ?_ ?_
  · intro value after _ post
    exact returns value after post
  · rintro problem after - ⟨earlier, fields, post, rfl⟩
    exact fails problem earlier fields post

/-- The metadata of the installed version is fetched without a change. -/
theorem sound_exact : (options.deviceFor allowed).Ensures
    (fun _ after => after = world) options.exact world := by
  apply sound_check trivial
  · intro _ _
    apply sound_ask trivial
    · intro choice answer after _ ran
      simp only [performCall] at ran
      split_ifs at ran
      · cases ran
      · cases ran
        cases choice.answer with
        | none => exact sound_throw trivial rfl
        | some envelope =>
          apply sound_check trivial
          · intro _ _
            apply sound_check trivial
            · exact fun _ _ => sound_pure trivial rfl
            · exact fun _ _ => rfl
          · exact fun _ _ => rfl
    · intro choice problem after _ ran
      simp only [performCall] at ran
      split_ifs at ran
      · cases ran
        exact ⟨trivial, rfl⟩
      · cases ran
  · exact fun _ _ => rfl

variable {path : String} {middle : UpdateWorld}

theorem sound_verify_alone {manifest : Manifest} :
    (options.deviceFor allowed).Ensures (fun _ after => Untouched world after)
      (ask (.verifyInstaller path manifest)) world := by
  apply sound_perform trivial
  intro choice answer after acts
  obtain ⟨-, ran⟩ := perform_deviceFor.mp acts
  simp only [performCall] at ran
  split_ifs at ran
  · cases ran
    exact ⟨trivial, rfl, rfl⟩
  · cases ran
    exact ⟨trivial, rfl, rfl⟩

theorem sound_prepare_touching {target rollback : Envelope}
    {targetInstaller rollbackInstaller : String} (untouched : Untouched world middle) :
    (options.deviceFor allowed).Ensures (fun outcome after => match outcome with
        | .ok _ => Wrote options world after
        | .error _ => Untouched world after)
      (options.store.prepare options.currentVersion target targetInstaller rollback
        rollbackInstaller) middle := by
  have sound := @sound_prepare options allowed middle options.currentVersion targetInstaller
    rollbackInstaller target rollback
  refine Device.Sound.mono_keep (fun _ _ => trivial) (Device.Sound.mono ?_ sound)
  intro outcome after same done
  cases outcome with
  | ok pending =>
    obtain ⟨isNone, file, prepared, previous, -⟩ := done
    exact ⟨untouched.1.symm.trans isNone, pending, file, prepared, previous⟩
  | error problem =>
    exact ⟨Eq.trans done untouched.1, same.2.trans untouched.2⟩

theorem sound_launch_alone {mode : LaunchMode} (wrote : Wrote options world middle) :
    (options.deviceFor allowed).Ensures (fun _ after => Wrote options world after)
      (ask (.launch path mode)) middle := by
  apply sound_perform trivial
  intro choice answer after acts
  obtain ⟨-, ran⟩ := perform_deviceFor.mp acts
  simp only [performCall] at ran
  split_ifs at ran
  · cases ran
    exact ⟨trivial, wrote⟩
  · cases ran
    exact ⟨trivial, wrote⟩

theorem sound_apply (confirm : Bool) : (options.deviceFor allowed).Ensures
    (ApplyDone options world) (options.apply confirm) world := by
  have refused {problem : UpdateError} {after : UpdateWorld} (untouched : Untouched world after) :
      ApplyDone options world (.error problem : Except UpdateError CoordinatorOptions.PublicStatus)
        after := .inl ⟨⟨problem, rfl⟩, untouched⟩
  apply sound_check trivial
  · intro _ _
    apply sound_ask trivial
    · intro choice fields same _ ran
      cases ran
      apply sound_check trivial
      · intro _ _
        apply sound_check trivial
        · intro candidate _
          apply sound_orFail sound_exact
          · rintro rollback _ rfl
            apply sound_orFail sound_verify_alone
            · intro _ _ untouched
              apply sound_orFail (sound_prepare_touching untouched)
              · intro _ _ wrote
                apply sound_orFail (sound_launch_alone wrote)
                · intro _ _ wroteStill
                  apply sound_ask trivial
                  · intro choice shown same _ ran
                    cases ran
                    cases options.hasStop with
                    | false => exact sound_pure trivial (.inr wroteStill)
                    | true =>
                      apply sound_ask trivial
                      · intro choice _ same _ ran
                        cases ran
                        exact sound_pure trivial (.inr wroteStill)
                      · intro choice problem after _ ran
                        cases ran
                  · intro choice problem after _ ran
                    cases ran
                · intro problem after fields wroteStill
                  exact .inr wroteStill
              · rintro problem after fields untouched
                exact refused untouched
            · rintro problem after fields ⟨samePending, sameLaunched⟩
              exact refused ⟨samePending, sameLaunched⟩
          · rintro problem after fields rfl
            exact refused ⟨rfl, rfl⟩
        · exact fun _ _ => refused ⟨rfl, rfl⟩
      · exact fun _ _ => refused ⟨rfl, rfl⟩
    · intro choice problem after _ ran
      cases ran
  · exact fun _ _ => refused ⟨rfl, rfl⟩

theorem sound_recoverOnStartup_refused (file : world.pending = some pending)
    (installing : pending.phase = .installing)
    (other : options.currentVersion ≠ pending.targetVersion) :
    (options.deviceFor allowed).Sound (fun after => after.pending = world.pending)
      (fun outcome _ => ∃ problem, outcome = .error problem) options.recoverOnStartup world := by
  have refused : (options.deviceFor allowed).Sound (fun after => after.pending = world.pending)
      (fun outcome _ => ∃ problem, outcome = .error problem)
      (options.store.recordTargetStartup options.currentVersion) world := by
    have keep : (fun after : UpdateWorld => after.pending = world.pending) world := rfl
    apply sound_attempt_read keep
    · cases accepted : options.store.accept world.pending with
      | error problem =>
        cases problem with
        | notExist =>
          rw [file] at accepted
          exact absurd accepted (accept_some_ne_notExist pending)
        | _ => exact sound_throw rfl ⟨_, rfl⟩
      | ok found =>
        have same : some found = some pending :=
          (RecoveryStore.accept_eq_ok_iff.mp accepted).1.symm.trans file
        cases same
        have notRollback : ¬ (pending.phase = .rollback ∧
            options.currentVersion = pending.previousVersion) := by
          rw [installing]
          rintro ⟨isRollback, -⟩
          cases isRollback
        dsimp only
        rw [if_neg notRollback, if_pos (.inr other)]
        exact sound_throw rfl ⟨_, rfl⟩
    · exact fun _ => sound_throw rfl ⟨_, rfl⟩
  refine sound_bind refused ?_ ?_
  · rintro _ _ _ ⟨_, same⟩
    cases same
  · intro problem _ _ _
    exact ⟨problem, rfl⟩

end Apply

/-- After an `Apply` that has come as far as its launch, a start of the version that is still
installed fails and keeps the record, and a later `Apply` fails, launches nothing and keeps it. -/
theorem apply_blocks_updates (options restarted : CoordinatorOptions)
    (sameVersion : restarted.currentVersion = options.currentVersion)
    (before after later : UpdateWorld)
    (outcome : Except UpdateError CoordinatorOptions.PublicStatus)
    (applies : options.device.Ends (options.apply true) before outcome after)
    (wrote : after.pending ≠ before.pending) (kept : later.pending = after.pending) :
    (∀ started last, restarted.device.Ends restarted.recoverOnStartup later started last →
        (∃ problem, started = .error problem) ∧ last.pending = later.pending) ∧
      ∀ repeated last, restarted.device.Ends (restarted.apply true) later repeated last →
        (∃ problem, repeated = .error problem) ∧ last.launched = later.launched ∧
          last.pending = later.pending := by
  have done := (@sound_apply options (fun _ => true) before true).ends applies
  obtain ⟨-, pending, file, prepared, previous⟩ : Wrote options before after := by
    rcases done with ⟨-, untouched, -⟩ | wrote
    · exact absurd untouched wrote
    · exact wrote
  have isFile : later.pending = some pending := kept.trans file
  have other : restarted.currentVersion ≠ pending.targetVersion := by
    rw [sameVersion, ← previous]
    exact prepared.differs.symm
  constructor
  · intro started last ends
    have sound := @sound_recoverOnStartup_refused restarted (fun _ => true) later pending isFile
      prepared.phase other
    exact ⟨sound.ends ends, sound.stops ends.stops⟩
  · intro repeated last ends
    have again := (@sound_apply restarted (fun _ => true) later true).ends ends
    rcases again with ⟨fails, samePending, sameLaunched⟩ | ⟨isNone, -⟩
    · exact ⟨fails, sameLaunched, samePending⟩
    · rw [isFile] at isNone
      cases isNone

section Example

theorem checkEnvelope_of_verifyEnvelope {store : RecoveryStore} {envelope : Envelope}
    (verified : store.verifyEnvelope envelope = .ok ()) :
    store.checkEnvelope envelope = .ok () := by
  simp only [RecoveryStore.verifyEnvelope, Except.bind_eq_ok] at verified
  obtain ⟨_, _, checked⟩ := verified
  exact checked

variable {options : CoordinatorOptions} {world after : UpdateWorld}

theorem ends_ask_alone {request : UpdateCall} {answer : request.Answer}
    (acts : performCall options success world request = (.ok answer, after)) :
    options.device.Ends (ask request) world (.ok answer) after :=
  ends_perform (perform_deviceFor.mpr ⟨rfl, acts⟩)

theorem ends_verify_alone {options : CoordinatorOptions} {world : UpdateWorld} {path : String}
    {manifest : Manifest}
    (isInstaller : isInstallerOf manifest (world.installers (options.store.clean path)) = true) :
    options.device.Ends (ask (.verifyInstaller path manifest)) world (.ok ())
      { world with verified := (path, manifest) :: world.verified } := by
  apply ends_ask_alone
  simp [performCall, isInstaller, success]

theorem ends_orFail {α β : Type} {code : String} {program : UpdateProgram α}
    {next : α → UpdateProgram β} {value : α} {middle : UpdateWorld} {outcome : Except UpdateError β}
    (first : options.device.Ends program world (.ok value) middle)
    (second : options.device.Ends (next value) middle outcome after) :
    options.device.Ends (CoordinatorOptions.orFail code program >>= next) world outcome after := by
  have returns : options.device.Ends (CoordinatorOptions.orFail code program) world (.ok value)
      middle := ends_bind first.attempt ⟨[], rfl⟩
  exact ends_bind returns second

def readyWorld : UpdateWorld :=
  { exampleWorld with fields := ⟨some ⟨exampleTarget, true, true⟩, "updates/target.exe", "ready",
    ""⟩ }

theorem ends_exact_example (world : UpdateWorld) :
    (exampleOptions "0.1.0").device.Ends (exampleOptions "0.1.0").exact world
      (.ok exampleRollback) world := by
  have checked : exampleStore.checkEnvelope exampleRollback = .ok () :=
    checkEnvelope_of_verifyEnvelope (checked_of_checkPrepare checkPrepare_example).rollback
  have isAsked : Except.ensure (versionPattern "0.1.0" &&
      ("stable" = "stable" || "stable" = "beta")) UpdateError.updateUnavailable = .ok () := by
    decide
  have isAnswer : Except.ensure (exampleRollback.manifest.version = "0.1.0" &&
      exampleRollback.manifest.channel = "stable") UpdateError.updateUnavailable = .ok () := by
    decide
  have answers : performCall (exampleOptions "0.1.0") ⟨false, "", some exampleRollback⟩ world
      (.fetchVersion "0.1.0" "stable") = (.ok (some exampleRollback), world) := rfl
  apply ends_check isAsked
  apply ends_ask rfl answers
  apply ends_check checked
  apply ends_check isAnswer
  exact ⟨[], rfl⟩

theorem ends_apply_example :
    ∃ status after, (exampleOptions "0.1.0").device.Ends ((exampleOptions "0.1.0").apply true)
        readyWorld (.ok status) after ∧
      after.pending = some examplePending ∧ after.launched.length = 1 := by
  have targetFile : isInstallerOf exampleTarget.manifest
      (exampleInstallers (exampleStore.clean "updates/target.exe")) = true := by
    decide
  have rollbackFile : isInstallerOf exampleRollback.manifest
      (exampleInstallers (exampleStore.clean "recovery.exe")) = true := by
    decide
  have within : exampleStore.pathWithin "updates/target.exe" = true := by decide
  have isDownloaded : Except.ensure (readyWorld.fields.downloadedPath ≠ "")
      UpdateError.updateUnavailable = .ok () := by decide
  have isUsable : Except.require (CoordinatorOptions.usable readyWorld.fields)
      UpdateError.updateUnavailable = .ok ⟨exampleTarget, true, true⟩ := rfl
  have verified := @ends_verify_alone (exampleOptions "0.1.0") readyWorld "recovery.exe"
    exampleRollback.manifest rollbackFile
  have prepared := @ends_prepare (exampleOptions "0.1.0") (fun _ => true)
    { readyWorld with verified := [("recovery.exe", exampleRollback.manifest)] } rfl
    "0.1.0" "updates/target.exe" "recovery.exe" exampleTarget exampleRollback checkPrepare_example
    targetFile rollbackFile within rfl
  have isConfirmed : Except.ensure true UpdateError.updateUnavailable = .ok () := rfl
  apply Exists.intro
  apply Exists.intro
  apply And.intro
  · apply ends_check isConfirmed
    apply ends_bind (ends_ask_alone rfl)
    apply ends_check isDownloaded
    apply ends_check isUsable
    apply ends_orFail (ends_exact_example _)
    apply ends_orFail verified
    apply ends_orFail prepared
    apply ends_orFail (ends_ask_alone rfl)
    apply ends_bind (ends_ask_alone rfl)
    apply ends_bind (ends_ask_alone rfl)
    exact ⟨[], rfl⟩
  · exact ⟨rfl, rfl⟩

theorem start_refused_after_cancelled_installer :
    ∃ status after, (exampleOptions "0.1.0").device.Ends ((exampleOptions "0.1.0").apply true)
        readyWorld (.ok status) after ∧ after.launched.length = 1 ∧
      (exampleOptions "0.1.0").unfailing.Ends (exampleOptions "0.1.0").recoverOnStartup after
        (.error .metadataInvalid) after := by
  obtain ⟨status, after, ends, file, launched⟩ := ends_apply_example
  obtain ⟨start, prepares, -⟩ := ends_prepare_example "0.1.0"
  have prepared : examplePending.Prepared exampleStore :=
    (sound_prepare _ _ _ _ _).ends prepares |>.2.2.1
  have accepted : exampleStore.accept after.pending = .ok examplePending := by
    rw [file]
    exact @accept_inForm exampleStore examplePending (.counted 0) prepared fits_examplePending
      (Nat.zero_le 3)
  refine ⟨status, after, ends, launched, ends_recoverOnStartup_refused rfl accepted ?_ ?_⟩
  · rintro ⟨isRollback, -⟩
    cases isRollback
  · right
    decide

theorem apply_blocks_updates_example : ∃ after : UpdateWorld, after.pending = some examplePending ∧
      ∀ repeated last, (exampleOptions "0.1.0").device.Ends ((exampleOptions "0.1.0").apply true)
        after repeated last → ∃ problem, repeated = .error problem := by
  obtain ⟨status, after, ends, file, -⟩ := ends_apply_example
  have wrote : after.pending ≠ readyWorld.pending := by
    rw [file]
    exact nofun
  have blocks := apply_blocks_updates (exampleOptions "0.1.0") (exampleOptions "0.1.0") rfl
    readyWorld after after (.ok status) ends wrote rfl
  exact ⟨after, file, fun repeated last again => (blocks.2 repeated last again).1⟩

end Example

end ManagerUpdate

end LongHub
