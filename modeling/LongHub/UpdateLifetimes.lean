import LongHub.ClientUpdateRecovery
import Mathlib.Logic.Relation

/-!
# Client updates across restarts

Rules for the calls of the client update, and the lifetimes of the desktop around one.
-/

namespace LongHub

/-! ## Rules for the calls of the client update -/

namespace ClientUpdate

/-- A postcondition for programs that return. -/
def OnOk {α : Type} (Done : α → UserData → Prop) (outcome : Except String α)
    (data : UserData) : Prop :=
  ∀ value, outcome = .ok value → Done value data

abbrev Keeps {α : Type} (Keep : UserData → Prop) (Done : α → UserData → Prop)
    (program : UpdateProgram α) (data : UserData) : Prop :=
  disk.Sound Keep (OnOk Done) program data

section Rules

variable {α β : Type} {Keep : UserData → Prop} {Done : α → UserData → Prop} {data : UserData}

theorem sound_return {value : α} (keep : Keep data) (done : Done value data) :
    Keeps Keep Done (pure value) data :=
  ⟨keep, fun _ same => Except.ok.inj same ▸ done⟩

theorem sound_fail {error : String} (keep : Keep data) : Keeps Keep Done (.throw error) data :=
  ⟨keep, fun _ differ => by cases differ⟩

theorem sound_then {Middle : β → UserData → Prop} {program : UpdateProgram β}
    {next : β → UpdateProgram α} (first : Keeps Keep Middle program data)
    (continues : ∀ value after, Keep after → Middle value after →
      Keeps Keep Done (next value) after) : Keeps Keep Done (program >>= next) data :=
  Device.sound_bind first
    (fun value after keep middle => continues value after keep (middle value rfl))
    (fun _ _ _ _ _ differ => by cases differ)

variable {program : UpdateProgram α} {request : UpdateCall} {version : String} {sequence : Nat}

theorem sound_cleanup {handler : String → UpdateProgram α} (sound : Keeps Keep Done program data)
    (handles : ∀ error after, Keep after → Keeps Keep Done (handler error) after) :
    Keeps Keep Done (program.tryCatch handler) data :=
  Device.sound_tryCatch sound (fun _ _ _ done => done)
    (fun error after keep _ => handles error after keep)

theorem sound_ask {next : request.Answer → UpdateProgram α} (keep : Keep data)
    (fails : ∀ choice, Keep (data.failed choice request))
    (acts : ∀ choice answer after, data.performed choice request = some (answer, after) →
      Keep after ∧ ∀ value, answer = .ok value →
        Keeps Keep Done (next value) after) : Keeps Keep Done (Disk.ask request >>= next) data := by
  have perform_cases (choice : DiskChoice) (answer : Except String request.Answer)
      (after : UserData) (performed : disk.perform request choice data = some (answer, after)) :
      Keep after ∧ ∀ value, answer = .ok value → Keeps Keep Done (next value) after := by
    cases failure : choice.error with
    | none =>
      simp only [disk, failure] at performed
      exact acts choice answer after performed
    | some error =>
      simp only [disk, failure] at performed
      split at performed
      · cases performed
      · cases performed
      · cases performed
        exact ⟨fails choice, fun _ differ => by cases differ⟩
  apply Device.sound_perform_bind keep
  · intro choice value after performed
    exact (perform_cases choice _ after performed).2 value rfl
  · intro choice error after performed
    exact ⟨(perform_cases choice _ after performed).1, fun _ differ => by cases differ⟩

/-- A call that fails without effect. -/
theorem sound_atomic {next : request.Answer → UpdateProgram α}
    (unchanged : ∀ choice, data.failed choice request = data) (keep : Keep data)
    (acts : ∀ choice answer after, data.performed choice request = some (answer, after) →
      Keep after ∧ ∀ value, answer = .ok value →
        Keeps Keep Done (next value) after) : Keeps Keep Done (Disk.ask request >>= next) data :=
  sound_ask keep (fun choice => (unchanged choice).symm ▸ keep) acts

theorem sound_last (sound : Keeps Keep Done (program >>= pure) data) :
    Keeps Keep Done program data := by
  have same : program >>= pure = program := by
    change program.bind pure = program
    clear sound
    induction program with
    | pure value => rfl
    | throw error => rfl
    | call request next ih => exact congrArg (Program.call request) (funext ih)
  rwa [same] at sound

theorem sound_now {next : Instant → UpdateProgram α} (keep : Keep data)
    (done : ∀ instant, Keeps Keep Done (next instant) data) :
    Keeps Keep Done (Disk.now >>= next) data := by
  apply sound_atomic (fun _ => rfl) keep
  intro choice answer after performed
  cases performed
  exact ⟨keep, fun value _ => done value⟩

theorem sound_validInstallerPath {next : Bool → UpdateProgram α} {path : String} (keep : Keep data)
    (done : ∀ valid, Keeps Keep Done (next valid) data) :
    Keeps Keep Done (Disk.validInstallerPath path version >>= next) data := by
  apply sound_atomic (fun _ => rfl) keep
  intro choice answer after performed
  cases performed
  exact ⟨keep, fun value _ => done value⟩

theorem sound_pendingExists {next : Bool → UpdateProgram α} (keep : Keep data)
    (done : Keeps Keep Done (next data.pending.isSome) data) :
    Keeps Keep Done (Disk.pendingExists >>= next) data := by
  apply sound_atomic (fun _ => rfl) keep
  intro choice answer after performed
  cases performed
  exact ⟨keep, fun value same => Except.ok.inj same ▸ done⟩

theorem sound_readPending {next : Option PendingClientUpdate → UpdateProgram α}
    (keep : Keep data) (done : Keeps Keep Done (next data.pending) data) :
    Keeps Keep Done (Disk.readPending >>= next) data := by
  apply sound_atomic (fun _ => rfl) keep
  intro choice answer after performed
  cases performed
  exact ⟨keep, fun value same => Except.ok.inj same ▸ done⟩

theorem sound_newFailedStatePath {next : FailedStatePath → UpdateProgram α} (keep : Keep data)
    (done : ∀ path, data.freeFailedState path = true → Keeps Keep Done (next path) data) :
    Keeps Keep Done (Disk.newFailedStatePath version sequence >>= next) data := by
  apply sound_atomic (fun _ => rfl) keep
  intro choice answer after performed
  simp only [UserData.performed, Option.ite_none_right_eq_some] at performed
  obtain ⟨free, performed⟩ := performed
  cases performed
  exact ⟨keep, fun value same => Except.ok.inj same ▸ done _ free⟩

theorem sound_newSnapshotPath {next : SnapshotPath → UpdateProgram α} (keep : Keep data)
    (done : ∀ path, data.freeSnapshot path = true → Keeps Keep Done (next path) data) :
    Keeps Keep Done (Disk.newSnapshotPath sequence version >>= next) data := by
  apply sound_atomic (fun _ => rfl) keep
  intro choice answer after performed
  simp only [UserData.performed, Option.ite_none_right_eq_some] at performed
  obtain ⟨free, performed⟩ := performed
  cases performed
  exact ⟨keep, fun value same => Except.ok.inj same ▸ done _ free⟩

variable {next : Unit → UpdateProgram α}

theorem sound_writePending {pending : PendingClientUpdate} (keep : Keep data)
    (done : Keeps Keep Done (next ()) { data with pending := some pending }) :
    Keeps Keep Done (Disk.writePending pending >>= next) data := by
  apply sound_atomic (fun _ => rfl) keep
  intro choice answer after performed
  cases performed
  exact ⟨Device.Sound.keep done, fun _ _ => done⟩

end Rules

end ClientUpdate

/-! ## The lifetimes of the desktop around a client update -/

namespace ClientUpdate

inductive RollbackStage where
  | none
  | launched (reason : String)
  | runtimeStopped (reason : String)

structure MainProcess where
  updateCoordinator : Bool
  unresolvedUpdateAtStartup : Bool
  updateHealthTimer : Bool
  updateChecksStarted : Bool := false
  mainWindow : Bool
  rollbackInFlight : RollbackStage := .none

def MainProcess.executeAutomaticClientRollback (process : MainProcess) (reason : String) :
    MainProcess :=
  match process.rollbackInFlight with
  | .none => { process with rollbackInFlight := .launched reason }
  | .launched _ | .runtimeStopped _ => process

/-- What `checkOnce` has found, downloaded and confirmed when it stops the runtime. -/
structure ConfirmedInstall where
  target : SignedClientUpdateMetadata
  targetInstallerPath : String
  rollback : SignedClientUpdateMetadata
  rollbackInstallerPath : String

inductive MainEvent where
  /-- The application is ready. -/
  | whenReady (coordinator mainWindow : Bool)
  /-- The chat page has loaded. -/
  | markMainWindowHealthy (targetVerified : Except String Unit)
  | healthTimeout
  /-- The rollback in flight reads the record and verifies the old installer. -/
  | verifyRollback (policyApproved : Bool) (rollbackVerified : Except String Unit)
  /-- The runtime has been stopped. -/
  | prepareRollback
  /-- The timer of a check has run out, and the check has come to an installation. -/
  | installUpdate (confirmed : ConfirmedInstall) (launchInstaller : Except String Unit)
  | quit

variable (desktopVersion : String)

/-- Startup, as far as the record of a pending update is concerned. -/
def whenReady (coordinator mainWindow : Bool) :
    UpdateProgram (Option MainProcess) := do
  match ← (beginStartup desktopVersion 3).attempt with
  | .error _ => pure none
  | .ok startup =>
    let process : MainProcess :=
      { updateCoordinator := coordinator
        unresolvedUpdateAtStartup :=
          startup.pending && startup.targetVersion ≠ some desktopVersion
        updateHealthTimer := startup.pending && startup.targetVersion = some desktopVersion
        mainWindow }
    if startup.shouldRollback then
      -- startup returns here, with neither a window nor a timer
      pure (some ({ process with
          updateCoordinator := false
          updateHealthTimer := false
          mainWindow := false }.executeAutomaticClientRollback "startup_failure_threshold"))
    else pure (some process)

def confirmHealth (targetVerified : Except String Unit) :
    UpdateProgram Unit := do
  let pending ← Disk.readPending
  if (pending.map PendingClientUpdate.targetVersion) = some desktopVersion then
    .ofExcept targetVerified
    markHealthy desktopVersion
  else markHealthy desktopVersion

def markMainWindowHealthy (targetVerified : Except String Unit)
    (process : MainProcess) : UpdateProgram (Option MainProcess) := do
  let confirmed := { process with updateHealthTimer := false }
  match ← (confirmHealth desktopVersion targetVerified).attempt with
  | .error _ =>
    pure (some ({ confirmed with updateCoordinator := false }.executeAutomaticClientRollback
      "health_marker_failed"))
  | .ok () =>
    if confirmed.unresolvedUpdateAtStartup then pure (some confirmed)
    else if !confirmed.updateChecksStarted && confirmed.updateCoordinator then
      pure (some { confirmed with updateChecksStarted := true })
    else pure (some confirmed)

def verifyRollback (policyApproved : Bool) (rollbackVerified : Except String Unit)
    (reason : String) (process : MainProcess) : UpdateProgram (Option MainProcess) :=
  if !policyApproved then pure none
  else do
    match ← Disk.readPending.attempt, rollbackVerified with
    | .ok (some _), .ok () =>
      pure (some { process with rollbackInFlight := .runtimeStopped reason })
    | .ok none, _ => pure (some { process with rollbackInFlight := .none })
    | .ok (some _), .error _ | .error _, _ => pure none

def installUpdate (confirmed : ConfirmedInstall)
    (launchInstaller : Except String Unit) : UpdateProgram Unit := do
  let _ ← createPending desktopVersion confirmed.target confirmed.targetInstallerPath
    confirmed.rollback confirmed.rollbackInstallerPath
  (Program.ofExcept launchInstaller).tryCatch fun error => do
    cancelPending
    .throw error

def thenQuit {α : Type} (program : UpdateProgram α) : UpdateProgram (Option MainProcess) := do
  let _ ← program.attempt
  pure none

@[grind =]
def mainProgram : Option MainProcess → MainEvent → Option (UpdateProgram (Option MainProcess))
  | none, .whenReady coordinator mainWindow =>
    some (whenReady desktopVersion coordinator mainWindow)
  | some process, .markMainWindowHealthy targetVerified =>
    if process.mainWindow then
      some (markMainWindowHealthy desktopVersion targetVerified process)
    else none
  | some process, .healthTimeout =>
    if process.updateHealthTimer then
      some (pure (some ({ process with updateHealthTimer := false }.executeAutomaticClientRollback
        "webui_health_timeout")))
    else none
  | some process, .verifyRollback policyApproved rollbackVerified =>
    match process.rollbackInFlight with
    | .launched reason => some (verifyRollback policyApproved rollbackVerified reason process)
    | .none | .runtimeStopped _ => none
  | some process, .prepareRollback =>
    match process.rollbackInFlight with
    | .runtimeStopped reason => some (thenQuit (prepareRollback reason))
    | .none | .launched _ => none
  | some process, .installUpdate confirmed launchInstaller =>
    if process.updateChecksStarted && process.updateCoordinator then
      some (thenQuit (installUpdate desktopVersion confirmed launchInstaller))
    else none
  | some _, .quit => some (pure none)
  | none, _ | some _, .whenReady _ _ => none

structure Installation where
  data : UserData
  process : Option MainProcess

inductive LifeStep (desktopVersion : String)
    (device : MainEvent → Device UserData UpdateCall UpdateCall.Answer String DiskChoice) :
    Installation → Installation → Prop where
  | event {data after : UserData} {process next : Option MainProcess} {event : MainEvent}
      {program : UpdateProgram (Option MainProcess)}
      (runs : mainProgram desktopVersion process event = some program)
      (ends : (device event).Ends program data (.ok next) after) :
      LifeStep desktopVersion device ⟨data, process⟩ ⟨after, next⟩
  | crash {data after : UserData} {process : Option MainProcess} {event : MainEvent}
      {program : UpdateProgram (Option MainProcess)}
      (runs : mainProgram desktopVersion process event = some program)
      (stops : (device event).Stops program data after) :
      LifeStep desktopVersion device ⟨data, process⟩ ⟨after, none⟩

abbrev Lifetimes (desktopVersion : String)
    (device : MainEvent → Device UserData UpdateCall UpdateCall.Answer String DiskChoice) :
    Installation → Installation → Prop :=
  Relation.ReflTransGen (LifeStep desktopVersion device)

def readableDisk : Device UserData UpdateCall UpdateCall.Answer String DiskChoice where
  perform request choice data :=
    match request, choice.error with
    | .readPending, some _ => none
    | request, _ => disk.perform request choice data

def anyFailure (_ : MainEvent) :
    Device UserData UpdateCall UpdateCall.Answer String DiskChoice := disk

def readsWhenHealthy : MainEvent → Device UserData UpdateCall UpdateCall.Answer String DiskChoice
  | .markMainWindowHealthy _ => readableDisk
  | _ => disk

/-- No record blocks a new update, and checks for updates are scheduled. -/
def Installation.Unblocked (installation : Installation) : Prop :=
  installation.data.pending = none ∧
    ∃ process, installation.process = some process ∧ process.updateChecksStarted = true ∧
      process.updateCoordinator = true

end ClientUpdate

end LongHub
