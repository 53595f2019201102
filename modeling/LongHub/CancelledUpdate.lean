import LongHub.UpdateRecords

/-!
# A client update whose installer is cancelled

`createPending` leaves a record in the phase of the installation.
-/

namespace LongHub

open Device
namespace ClientUpdate

section Blocked

variable {α : Type} {desktopVersion : String} {data : UserData} {pending : PendingClientUpdate}

/-- A process of the previous version that leaves the record alone. -/
structure Disabled (process : MainProcess) : Prop where
  unresolved : process.unresolvedUpdateAtStartup = true
  timer : process.updateHealthTimer = false
  checks : process.updateChecksStarted = false
  rollback : process.rollbackInFlight = .none

structure Blocked (pending : PendingClientUpdate) (installation : Installation) : Prop where
  record : installation.data.pending = some pending
  process : ∀ process, installation.process = some process → Disabled process

structure Installing (desktopVersion : String) (pending : PendingClientUpdate) : Prop where
  phase : pending.phase = .installingUpdate
  target : pending.targetVersion ≠ desktopVersion

abbrev KeepsPending (pending : PendingClientUpdate) (data : UserData) : Prop :=
  data.pending = some pending

def LeavesDisabled (outcome : Except String (Option MainProcess)) (_ : UserData) : Prop :=
  ∀ process, outcome = .ok (some process) → Disabled process

theorem keeps_beginStartup (installing : Installing desktopVersion pending)
    (record : KeepsPending pending data) :
    Keeps (KeepsPending pending) (fun startup _ => startup = startupState desktopVersion 3 pending)
      (beginStartup desktopVersion 3) data := by
  have notMarked : ¬ (pending.phase = .rollbackLaunched ∧
      pending.previousVersion = desktopVersion) := by
    rw [installing.phase]
    exact nofun
  apply sound_readPending record
  rw [record]
  dsimp only
  rw [if_neg notMarked, if_neg installing.target]
  exact sound_return record rfl

theorem sound_whenReady_blocked (installing : Installing desktopVersion pending)
    (record : KeepsPending pending data) (coordinator mainWindow : Bool) :
    disk.Sound (KeepsPending pending) LeavesDisabled
      (whenReady desktopVersion coordinator mainWindow) data := by
  refine sound_bind (keeps_attempt (keeps_beginStartup installing record)) ?_ ?_
  · intro outcome after kept begun
    cases outcome with
    | error problem => exact ⟨kept, fun process same => by cases same⟩
    | ok startup =>
      obtain rfl := begun _ rfl startup rfl
      have goesOn : (startupState desktopVersion 3 pending).shouldRollback = false := by
        simp [startupState, installing.target]
      dsimp only
      rw [goesOn]
      refine ⟨kept, fun process same => ?_⟩
      cases same
      constructor
      · simp [startupState, installing.target]
      · simp [startupState, installing.target]
      · rfl
      · rfl
  · intro problem after _ _ process same
    cases same

theorem sound_readableDisk {Keep : UserData → Prop} {Post : Except String α → UserData → Prop}
    {next : Option PendingClientUpdate → UpdateProgram α} (keep : Keep data)
    (continues : readableDisk.Sound Keep Post (next data.pending) data) :
    readableDisk.Sound Keep Post (Disk.readPending >>= next) data := by
  apply sound_perform_bind keep
  · intro choice value after acts
    cases failure : choice.error with
    | none =>
      simp only [readableDisk, disk, failure, UserData.performed] at acts
      cases acts
      exact continues
    | some problem =>
      simp only [readableDisk, failure] at acts
      cases acts
  · intro choice problem after acts
    cases failure : choice.error with
    | none =>
      simp only [readableDisk, disk, failure, UserData.performed] at acts
      cases acts
    | some problem =>
      simp only [readableDisk, failure] at acts
      cases acts

section

variable (installing : Installing desktopVersion pending)
include installing

theorem sound_confirmHealth
    (record : KeepsPending pending data) (targetVerified : Except String Unit) :
    readableDisk.Sound (KeepsPending pending) (fun outcome _ => outcome = .ok ())
      (confirmHealth desktopVersion targetVerified) data := by
  apply sound_readableDisk record
  have notTarget : ¬ (data.pending.map PendingClientUpdate.targetVersion =
      some desktopVersion) := by
    rw [record]
    exact fun same => installing.target (Option.some.inj same)
  rw [if_neg notTarget]
  apply sound_readableDisk record
  rw [record]
  dsimp only
  rw [if_pos (.inr installing.target)]
  exact ⟨record, rfl⟩

theorem sound_markMainWindowHealthy_blocked
    (record : KeepsPending pending data) (targetVerified : Except String Unit)
    {process : MainProcess} (disabled : Disabled process) :
    readableDisk.Sound (KeepsPending pending) LeavesDisabled
      (markMainWindowHealthy desktopVersion targetVerified process) data := by
  refine sound_bind (sound_confirmHealth installing record targetVerified).attempt ?_ ?_
  · rintro outcome after kept ⟨inner, same, rfl⟩
    cases same
    rw [if_pos disabled.unresolved]
    refine ⟨kept, fun next same => ?_⟩
    cases same
    exact ⟨disabled.unresolved, rfl, disabled.checks, disabled.rollback⟩
  · rintro problem after _ ⟨inner, same, _⟩
    cases same

theorem sound_mainProgram_blocked {process : Option MainProcess} {event : MainEvent}
    {program : UpdateProgram (Option MainProcess)}
    (runs : mainProgram desktopVersion process event = some program)
    (blocked : Blocked pending ⟨data, process⟩) :
    (readsWhenHealthy event).Sound (KeepsPending pending) LeavesDisabled program data := by
  have record : KeepsPending pending data := blocked.record
  cases process with
  | none =>
    cases event with
    | whenReady coordinator mainWindow =>
      cases runs
      exact sound_whenReady_blocked installing record coordinator mainWindow
    | _ => cases runs
  | some process =>
    have disabled := blocked.process process rfl
    cases event with
    | whenReady coordinator mainWindow => cases runs
    | markMainWindowHealthy targetVerified =>
      simp only [mainProgram, Option.ite_none_right_eq_some, Option.some.injEq] at runs
      obtain ⟨-, rfl⟩ := runs
      exact sound_markMainWindowHealthy_blocked installing record targetVerified disabled
    | healthTimeout => simp [mainProgram, disabled.timer] at runs
    | verifyRollback policyApproved rollbackVerified =>
      simp [mainProgram, disabled.rollback] at runs
    | prepareRollback => simp [mainProgram, disabled.rollback] at runs
    | installUpdate confirmed launchInstaller => simp [mainProgram, disabled.checks] at runs
    | quit =>
      cases runs
      exact ⟨record, fun process same => by cases same⟩

theorem blocked_step {before after : Installation} (blocked : Blocked pending before)
    (step : LifeStep desktopVersion readsWhenHealthy before after) : Blocked pending after := by
  cases step with
  | event runs ends =>
    have sound := sound_mainProgram_blocked installing runs blocked
    refine ⟨sound.stops ends.stops, fun process same => ?_⟩
    exact sound.ends ends process (congrArg Except.ok same)
  | crash runs stops =>
    have sound := sound_mainProgram_blocked installing runs blocked
    exact ⟨sound.stops stops, fun process same => by cases same⟩

/-- The record stays in every run in which the record can be read while the health is
confirmed. -/
theorem blocked_lifetimes {start last : Installation} (blocked : Blocked pending start)
    (lives : Lifetimes desktopVersion readsWhenHealthy start last) : Blocked pending last := by
  induction lives with
  | refl => exact blocked
  | tail _ step ih => exact blocked_step installing ih step

end

theorem not_unblocked_of_blocked {installation : Installation}
    (blocked : Blocked pending installation) : ¬ installation.Unblocked := by
  rintro ⟨isNone, -⟩
  rw [blocked.record] at isNone
  cases isNone

end Blocked

section Created

variable {α : Type} {desktopVersion targetInstallerPath rollbackInstallerPath : String}
variable {data before after : UserData} {pending : PendingClientUpdate}
variable {target rollback : SignedClientUpdateMetadata}

theorem keeps_anything (program : UpdateProgram α) :
    Keeps (fun _ => True) (fun _ _ => True) program data := by
  induction program generalizing data with
  | pure value => exact sound_return trivial trivial
  | throw error => exact sound_fail trivial
  | call request next ih => exact ⟨trivial, fun choice answer after _ => ih answer⟩

theorem keeps_writeRecord (record : PendingClientUpdate) (path : SnapshotPath) :
    Keeps (fun _ => True) (fun _ after => after.pending = some record)
      ((Disk.writePending record).tryCatch fun error => do
        Disk.removeSnapshot path
        .throw error) data := by
  apply sound_cleanup
  · apply sound_last
    apply sound_writePending trivial
    exact sound_return trivial rfl
  · intro problem after _
    exact sound_then (keeps_anything _) fun _ _ _ _ => sound_fail trivial

structure Created (desktopVersion : String) (pending : PendingClientUpdate) (after : UserData) :
    Prop where
  record : after.pending = some pending
  installing : Installing desktopVersion pending
  isOurs : UpdatesFrom desktopVersion pending

theorem keeps_createPending : Keeps (fun _ => True) (Created desktopVersion)
      (createPending desktopVersion target targetInstallerPath rollback rollbackInstallerPath)
      data := by
  apply sound_pendingExists trivial
  split
  · exact sound_fail trivial
  · split
    · exact sound_fail trivial
    · next matching =>
      have differs : target.manifest.version ≠ desktopVersion := fun same => matching (.inl same)
      apply sound_validInstallerPath trivial
      intro validTarget
      split
      · exact sound_fail trivial
      · apply sound_validInstallerPath trivial
        intro validRollback
        split
        · exact sound_fail trivial
        · apply sound_newSnapshotPath trivial
          intro path _
          refine sound_then (keeps_anything _) fun _ _ _ _ => ?_
          refine sound_then (keeps_anything _) fun _ _ _ _ => ?_
          apply sound_now trivial
          intro createdAt
          refine sound_then (keeps_writeRecord _ _) fun _ after _ written => ?_
          exact sound_return trivial ⟨written, ⟨rfl, differs⟩, rfl, differs⟩

theorem ends_createPending_blocked {outcome : Except String PendingClientUpdate}
    (record : data.pending = some pending)
    (ends : disk.Ends (createPending desktopVersion target targetInstallerPath rollback
      rollbackInstallerPath) data outcome after) : outcome = .error "已有客户端更新等待健康确认" := by
  have refused : disk.Ensures (fun outcome _ => outcome = .error "已有客户端更新等待健康确认")
      (createPending desktopVersion target targetInstallerPath rollback rollbackInstallerPath)
      data := by
    apply sound_perform_bind trivial
    · intro choice value after acts
      cases failure : choice.error with
      | some problem =>
        simp only [disk, failure] at acts
        cases acts
      | none =>
        simp only [disk, failure, UserData.performed, record] at acts
        cases acts
        exact ⟨trivial, rfl⟩
    · intro choice problem after acts
      cases failure : choice.error with
      | some problem =>
        simp only [disk, failure] at acts
        cases acts
      | none =>
        simp only [disk, failure, UserData.performed] at acts
        cases acts
  exact refused.ends ends

end Created

section Cleared

variable {desktopVersion : String} {data cleared : UserData} {record : PendingClientUpdate}

theorem ends_readPending {found : Option PendingClientUpdate} (isFound : data.pending = found) :
    disk.Ends Disk.readPending data (.ok found) data := by
  have acts : disk.perform .readPending {} data = some (.ok found, data) := by
    simp only [disk, UserData.performed, isFound]
  exact ends_perform acts

/-- A startup that leaves no record, and the health that is confirmed after it. -/
theorem unblocked_of_startup {attempts : Nat} {completed : Bool}
    (begins : disk.Ends (beginStartup desktopVersion 3) data
      (.ok { pending := false, attempts, rollbackCompleted := completed }) cleared)
    (isNone : cleared.pending = none) :
    ∃ unblocked, Lifetimes desktopVersion readsWhenHealthy ⟨data, none⟩ unblocked ∧
      unblocked.Unblocked := by
  let process : MainProcess :=
    { updateCoordinator := true
      unresolvedUpdateAtStartup := false
      updateHealthTimer := false
      mainWindow := true }
  have ready : disk.Ends (whenReady desktopVersion true true) data (.ok (some process))
      cleared := by
    exact ends_bind begins.attempt ⟨[], rfl⟩
  have confirmed : readableDisk.Ends (confirmHealth desktopVersion (.ok ())) cleared (.ok ())
      cleared := by
    obtain ⟨node, pending, manifest, draftManifest, lastRollback⟩ := cleared
    cases isNone
    exact ⟨[{}, {}], rfl⟩
  have healthy : readableDisk.Ends (markMainWindowHealthy desktopVersion (.ok ()) process) cleared
      (.ok (some { process with updateChecksStarted := true })) cleared := by
    exact ends_bind confirmed.attempt ⟨[], rfl⟩
  have starts : LifeStep desktopVersion readsWhenHealthy ⟨data, none⟩ ⟨cleared, some process⟩ :=
    @LifeStep.event _ _ _ _ _ _ (.whenReady true true) _ rfl ready
  have confirms : LifeStep desktopVersion readsWhenHealthy ⟨cleared, some process⟩
      ⟨cleared, some { process with updateChecksStarted := true }⟩ :=
    @LifeStep.event _ _ _ _ _ _ (.markMainWindowHealthy (.ok ())) _ rfl healthy
  exact ⟨_, .tail (.single starts) confirms, isNone, _, rfl, rfl, rfl⟩

theorem unblocked_of_none (isNone : data.pending = none) :
    ∃ unblocked, Lifetimes desktopVersion readsWhenHealthy ⟨data, none⟩ unblocked ∧
      unblocked.Unblocked := by
  have begins : disk.Ends (beginStartup desktopVersion 3) data
      (.ok { pending := false, attempts := 0 }) data := by
    exact ends_bind (ends_readPending isNone) ⟨[], rfl⟩
  exact unblocked_of_startup begins isNone

theorem unblocked_of_marked (isRecord : data.pending = some record)
    (marked : record.phase = .rollbackLaunched) (isOurs : UpdatesFrom desktopVersion record) :
    ∃ unblocked, Lifetimes desktopVersion readsWhenHealthy ⟨data, none⟩ unblocked ∧
      unblocked.Unblocked := by
  have begins : ∃ cleared, disk.Ends (beginStartup desktopVersion 3) data
      (.ok { pending := false, attempts := record.attempts, rollbackCompleted := true }) cleared ∧
      cleared.pending = none := by
    apply Exists.intro
    apply And.intro
    · apply ends_bind (ends_readPending isRecord)
      dsimp only
      rw [if_pos ⟨marked, isOurs.1⟩]
      exact ⟨[{}, {}, {}, {}, {}], rfl⟩
    · rfl
  obtain ⟨cleared, begins, isNone⟩ := begins
  exact unblocked_of_startup begins isNone

end Cleared

/-- After a `createPending` and any lifetimes of the version that called it, some later startup of
this version leads to a state with no record and with scheduled checks exactly when the record is
gone or marks a launched rollback. -/
theorem cancelled_update_unblocked_iff (desktopVersion targetInstallerPath rollbackInstallerPath :
      String) (target rollback : SignedClientUpdateMetadata) (before after last : UserData)
    (pending : PendingClientUpdate)
    (created : disk.Ends (createPending desktopVersion target targetInstallerPath rollback
      rollbackInstallerPath) before (.ok pending) after)
    (lives : Lifetimes desktopVersion anyFailure ⟨after, none⟩ ⟨last, none⟩) :
    ((∃ unblocked, Lifetimes desktopVersion readsWhenHealthy ⟨last, none⟩ unblocked ∧
        unblocked.Unblocked) ↔
      ∀ record, last.pending = some record → record.phase = .rollbackLaunched) ∧
    ∀ reached, Lifetimes desktopVersion readsWhenHealthy ⟨after, none⟩ reached →
      reached.data.pending = some pending ∧ pending.phase = .installingUpdate ∧
      ¬ reached.Unblocked ∧
      ∀ target targetInstallerPath rollback rollbackInstallerPath outcome later,
        disk.Ends (createPending desktopVersion target targetInstallerPath rollback
            rollbackInstallerPath) reached.data outcome later →
          outcome = .error "已有客户端更新等待健康确认" := by
  have done : Created desktopVersion pending after :=
    Device.Sound.ends keeps_createPending created pending rfl
  have records : RecordsOf desktopVersion last := by
    apply recordsOf_lifetimes lives
    intro record found
    rw [done.record] at found
    cases found
    exact done.isOurs
  constructor
  · constructor
    · rintro ⟨unblocked, more, isUnblocked⟩ record isRecord
      by_contra notMarked
      have installing : Installing desktopVersion record := by
        refine ⟨?_, (records record isRecord).2⟩
        cases phase : record.phase with
        | installingUpdate => rfl
        | rollbackLaunched => exact absurd phase notMarked
      have blocked : Blocked record ⟨last, none⟩ := ⟨isRecord, fun process same => by cases same⟩
      exact not_unblocked_of_blocked (blocked_lifetimes installing blocked more) isUnblocked
    · intro marked
      cases found : last.pending with
      | none => exact unblocked_of_none found
      | some record => exact unblocked_of_marked found (marked record found) (records record found)
  · intro reached more
    have start : Blocked pending ⟨after, none⟩ := ⟨done.record, fun process same => by cases same⟩
    have blocked := blocked_lifetimes done.installing start more
    refine ⟨blocked.record, done.installing.phase, not_unblocked_of_blocked blocked, ?_⟩
    intro _ _ _ _ outcome later ends
    exact ends_createPending_blocked blocked.record ends

section Example

def exampleInstaller (version : String) : String := "LongHub-Manager-Setup-" ++ version ++ ".exe"

def exampleHex : String := String.ofList (List.replicate 64 'a')

def exampleManifest (version : String) : ClientUpdateManifest where
  sequence := 2
  version
  channel := .stable
  filename := exampleInstaller version
  size := 1
  sha256 := exampleHex
  urlPath := "/downloads/" ++ exampleInstaller version
  publishedAt := "2026-01-01T00:00:00Z"
  rollbackDataStrategy := .snapshotRequired
  rollout := ⟨.active, 10000, exampleHex, "2026-01-01T00:00:00Z"⟩

def exampleMetadata (version : String) : SignedClientUpdateMetadata :=
  ⟨exampleManifest version, "key-1", exampleHex⟩

def examplePath (version : String) : String := "/installers/" ++ exampleInstaller version

def exampleCreates : UpdateProgram PendingClientUpdate :=
  createPending "1.0.0" (exampleMetadata "1.1.0") (examplePath "1.1.0") (exampleMetadata "1.0.0")
    (examplePath "1.0.0")

def exampleData : UserData :=
  ⟨fun _ => none, none, fun _ => none, fun _ => none, none⟩

theorem created_example : ∃ pending after,
    disk.Ends exampleCreates exampleData (.ok pending) after :=
  ⟨_, _, List.replicate 16 {}, rfl⟩

theorem cancelled_installer_blocks_updates : ∃ pending after,
      disk.Ends exampleCreates exampleData (.ok pending) after ∧
      ¬ ∃ unblocked, Lifetimes "1.0.0" readsWhenHealthy ⟨after, none⟩ unblocked ∧
        unblocked.Unblocked := by
  obtain ⟨pending, after, created⟩ := created_example
  have done : Created "1.0.0" pending after :=
    Device.Sound.ends keeps_createPending created pending rfl
  refine ⟨pending, after, created, ?_⟩
  rintro ⟨unblocked, lives, isUnblocked⟩
  have start : Blocked pending ⟨after, none⟩ := ⟨done.record, fun process same => by cases same⟩
  exact not_unblocked_of_blocked (blocked_lifetimes done.installing start lives) isUnblocked

theorem cancelled_update_unblocked_iff_example : ∃ after : UserData, ¬ ((∃ unblocked,
        Lifetimes "1.0.0" readsWhenHealthy ⟨after, none⟩ unblocked ∧ unblocked.Unblocked)) := by
  obtain ⟨pending, after, created⟩ := created_example
  have both := cancelled_update_unblocked_iff "1.0.0" (examplePath "1.1.0") (examplePath "1.0.0")
    (exampleMetadata "1.1.0") (exampleMetadata "1.0.0") exampleData after after pending created
      .refl
  refine ⟨after, fun resolved => ?_⟩
  have stays := both.2 ⟨after, none⟩ .refl
  have marked := both.1.mp resolved pending stays.1
  rw [stays.2.1] at marked
  cases marked

end Example

end ClientUpdate

end LongHub
