import LongHub.UpdateLifetimes

/-!
# The records of the running version

In the lifetimes of one version every record of a pending update is of an update from that
version: `createPending` writes only such records, and a rollback or a startup changes neither
the previous version nor the target of the record that it reads.
-/

namespace LongHub

namespace ClientUpdate

section Records

variable {α : Type} {desktopVersion : String} {data after : UserData}

def UpdatesFrom (desktopVersion : String) (record : PendingClientUpdate) : Prop :=
  record.previousVersion = desktopVersion ∧ record.targetVersion ≠ desktopVersion

def RecordsOf (desktopVersion : String) (data : UserData) : Prop :=
  ∀ record, data.pending = some record → UpdatesFrom desktopVersion record

def WritesOf (desktopVersion : String) : UpdateCall → Prop
  | .writePending record => UpdatesFrom desktopVersion record
  | _ => True

theorem pending_failed (choice : DiskChoice) (request : UpdateCall) :
    (data.failed choice request).pending = data.pending := by
  cases request <;> rfl

variable {request : UpdateCall}

variable {choice : DiskChoice} {answer : Except String request.Answer}

/-- What a call can make of the record. -/
theorem pending_performed (performed : data.performed choice request = some (answer, after)) :
    after.pending = data.pending ∨ after.pending = none ∨
      ∃ record, request = .writePending record ∧ after.pending = some record := by
  cases request with
  | writePending record =>
    cases performed
    exact .inr (.inr ⟨record, rfl, rfl⟩)
  | removePending =>
    cases performed
    exact .inr (.inl rfl)
  | _ =>
    left
    simp only [UserData.performed] at performed
    first
    | cases performed rfl
    | (repeat' split at performed) <;> cases performed <;> rfl

theorem recordsOf_perform (writes : WritesOf desktopVersion request)
    (records : RecordsOf desktopVersion data)
    (acts : disk.perform request choice data = some (answer, after)) :
    RecordsOf desktopVersion after := by
  have cases_ : after.pending = data.pending ∨ after.pending = none ∨
      ∃ record, request = .writePending record ∧ after.pending = some record := by
    cases failure : choice.error with
    | none =>
      simp only [disk, failure] at acts
      exact pending_performed acts
    | some error =>
      left
      simp only [disk, failure] at acts
      split at acts
      · cases acts
      · cases acts
      · cases acts
        exact pending_failed choice _
  rcases cases_ with same | gone | ⟨record, rfl, written⟩
  · intro record found
    exact records record (same.symm.trans found)
  · intro record found
    rw [gone] at found
    cases found
  · intro other found
    rw [written] at found
    cases found
    exact writes

abbrev KeepsRecords {α : Type} (desktopVersion : String) (program : UpdateProgram α)
    (data : UserData) : Prop :=
  Keeps (RecordsOf desktopVersion) (fun _ _ => True) program data

theorem keepsRecords_of_calls {program : UpdateProgram α}
    (writes : program.Calls (WritesOf desktopVersion)) (records : RecordsOf desktopVersion data) :
    KeepsRecords desktopVersion program data := by
  induction program generalizing data with
  | pure value => exact sound_return records trivial
  | throw error => exact sound_fail records
  | call request next ih =>
    refine ⟨records, fun choice answer after acts => ?_⟩
    exact ih answer (writes.2 answer) (recordsOf_perform writes.1 records acts)

theorem keepsRecords_readPending {next : Option PendingClientUpdate → UpdateProgram α}
    (records : RecordsOf desktopVersion data)
    (continues : ∀ found, (∀ record, found = some record → UpdatesFrom desktopVersion record) →
      KeepsRecords desktopVersion (next found) data) :
    KeepsRecords desktopVersion (Disk.readPending >>= next) data :=
  sound_readPending records (continues data.pending records)

theorem calls_ask (writes : WritesOf desktopVersion request) :
    (Disk.ask request).Calls (WritesOf desktopVersion) :=
  Program.calls_perform writes

theorem calls_then {next : request.Answer → UpdateProgram α}
    (writes : WritesOf desktopVersion request)
    (rest : ∀ answer, (next answer).Calls (WritesOf desktopVersion)) :
    (Disk.ask request >>= next).Calls (WritesOf desktopVersion) :=
  (calls_ask writes).bind rest

theorem calls_forM {element : Type} {body : element → UpdateProgram Unit}
    (each : ∀ one, (body one).Calls (WritesOf desktopVersion)) (elements : List element) :
    (elements.forM body).Calls (WritesOf desktopVersion) := by
  induction elements with
  | nil => trivial
  | cons first rest ih => exact (each first).bind fun _ => ih

theorem keepsRecords_beginStartup (records : RecordsOf desktopVersion data) (maxAttempts : Nat) :
    KeepsRecords desktopVersion (beginStartup desktopVersion maxAttempts) data := by
  apply keepsRecords_readPending records
  intro found ours
  apply keepsRecords_of_calls _ records
  cases found with
  | none => trivial
  | some pending =>
    have counted : WritesOf desktopVersion
        (.writePending { pending with attempts := pending.attempts + 1 }) := ours pending rfl
    dsimp only
    split
    · refine calls_then trivial fun _ => calls_then trivial fun _ => ?_
      refine calls_then trivial fun _ => calls_then trivial fun _ => ?_
      exact calls_then trivial fun _ => trivial
    · split
      · exact calls_then counted fun _ => trivial
      · trivial

theorem calls_markHealthy : (markHealthy desktopVersion).Calls (WritesOf desktopVersion) := by
  refine calls_then trivial fun found => ?_
  cases found with
  | none => trivial
  | some pending =>
    dsimp only
    split
    · trivial
    · refine calls_then trivial fun _ => calls_then trivial fun _ => ?_
      refine calls_then trivial fun _ => calls_then trivial fun _ => ?_
      exact calls_ask trivial

theorem calls_cancelPending : cancelPending.Calls (WritesOf desktopVersion) := by
  refine calls_then trivial fun found => calls_then trivial fun _ => ?_
  cases found with
  | none => trivial
  | some pending => exact calls_ask trivial

theorem calls_removeStateEntry (place : Place) (basename : String) :
    (removeStateEntry place basename).Calls (WritesOf desktopVersion) := by
  refine calls_then trivial fun found => ?_
  split
  · refine calls_then trivial fun isLink => ?_
    split
    · trivial
    · exact calls_ask trivial
  · trivial

theorem calls_setAside (failedStatePath : FailedStatePath) (entry : StateEntry) :
    (setAside failedStatePath entry).Calls (WritesOf desktopVersion) := by
  refine calls_then trivial fun found => ?_
  split
  · refine calls_then trivial fun kept => ?_
    split
    · exact calls_removeStateEntry _ _
    · refine calls_then trivial fun isLink => ?_
      split
      · trivial
      · exact calls_ask trivial
  · trivial

theorem calls_putBack (snapshotPath : SnapshotPath) (entry : StateEntry) :
    (putBack snapshotPath entry).Calls (WritesOf desktopVersion) := by
  refine calls_then trivial fun found => ?_
  split
  · trivial
  · refine calls_then trivial fun id => ?_
    apply Program.Calls.tryCatch
    · exact calls_then trivial fun _ => calls_ask trivial
    · intro error
      refine calls_then trivial fun left => ?_
      split
      · exact (calls_removeStateEntry _ _).bind fun _ => trivial
      · trivial

theorem calls_restoreEntry (failedStatePath : FailedStatePath) (snapshotPath : SnapshotPath)
    (entries : List StateEntry) (entry : StateEntry) :
    (restoreEntry failedStatePath snapshotPath entries entry).Calls (WritesOf desktopVersion) := by
  refine (calls_setAside _ _).bind fun _ => ?_
  split
  · exact calls_putBack _ _
  · trivial

theorem calls_readSnapshot (pending : PendingClientUpdate) :
    (readSnapshot pending).Calls (WritesOf desktopVersion) := by
  refine calls_then trivial fun manifest => ?_
  split
  · trivial
  · trivial

theorem keeps_chooseFailedState {pending : PendingClientUpdate} (reason : String)
    (records : RecordsOf desktopVersion data) (isOurs : UpdatesFrom desktopVersion pending) :
    Keeps (RecordsOf desktopVersion) (fun chosen _ => UpdatesFrom desktopVersion chosen.1)
      (chooseFailedState reason pending) data := by
  unfold chooseFailedState
  cases pending.failedStatePath with
  | some path => exact sound_return records isOurs
  | none =>
    apply sound_newFailedStatePath records
    intro path _
    apply sound_writePending records
    refine sound_return ?_ isOurs
    intro record found
    cases found
    exact isOurs

theorem keepsRecords_prepareRollback (records : RecordsOf desktopVersion data)
    (reason : String) : KeepsRecords desktopVersion (prepareRollback reason) data := by
  apply keepsRecords_readPending records
  intro found ours
  cases found with
  | none => exact sound_fail records
  | some pending =>
    apply sound_then (keeps_chooseFailedState reason records (ours pending rfl))
    intro chosen after kept isOurs
    apply keepsRecords_of_calls _ kept
    refine calls_then trivial fun _ => (calls_readSnapshot _).bind fun entries => ?_
    refine (calls_forM (fun entry => calls_restoreEntry _ _ _ entry) _).bind fun _ => ?_
    refine calls_then trivial fun rollbackLaunchedAt => ?_
    have writes : WritesOf desktopVersion (.writePending { chosen.1 with
        phase := .rollbackLaunched
        reason := some reason
        rollbackLaunchedAt := some rollbackLaunchedAt }) := isOurs
    exact calls_then writes fun _ => trivial

theorem calls_copyActiveEntries (path : SnapshotPath) (left entries : List StateEntry)
    (budget : CopyBudget) :
    (copyActiveEntries path left entries budget).Calls (WritesOf desktopVersion) := by
  induction left generalizing entries budget with
  | nil => trivial
  | cons entry rest ih =>
    refine calls_then trivial fun found => ?_
    split
    · exact calls_then trivial fun budget => ih _ _
    · exact ih _ _

theorem calls_createPending (target rollback : SignedClientUpdateMetadata)
    (targetInstallerPath rollbackInstallerPath : String) :
    (createPending desktopVersion target targetInstallerPath rollback
      rollbackInstallerPath).Calls (WritesOf desktopVersion) := by
  refine calls_then trivial fun found => ?_
  split
  · trivial
  · split
    · trivial
    · next matching =>
      refine calls_then trivial fun validTarget => ?_
      split
      · trivial
      · refine calls_then trivial fun validRollback => ?_
        split
        · trivial
        · refine calls_then trivial fun path => calls_then trivial fun _ => ?_
          refine Program.Calls.bind ?_ fun _ => calls_then trivial fun createdAt => ?_
          · apply Program.Calls.tryCatch
            · refine (calls_copyActiveEntries _ _ _ _).bind fun copied => ?_
              refine calls_then trivial fun createdAt => calls_then trivial fun _ => ?_
              exact calls_ask trivial
            · exact fun error => calls_then trivial fun _ => trivial
          · refine Program.Calls.bind ?_ fun _ => trivial
            apply Program.Calls.tryCatch
            · exact calls_ask ⟨rfl, fun same => matching (.inl same)⟩
            · exact fun error => calls_then trivial fun _ => trivial

end Records

section Keeping

variable {α : Type} {desktopVersion : String} {data : UserData}

variable {program : UpdateProgram α}

theorem keeps_attempt {Keep : UserData → Prop} {Done : α → UserData → Prop}
    (keeps : Keeps Keep Done program data) :
    Keeps Keep (fun outcome after => ∀ value, outcome = .ok value → Done value after)
      program.attempt data := by
  apply Device.Sound.mono _ (Device.Sound.attempt keeps)
  rintro outcome after _ ⟨inner, rfl, done⟩ _ same
  cases same
  exact done

theorem keepsRecords_thenQuit (keeps : KeepsRecords desktopVersion program data) :
    KeepsRecords desktopVersion (thenQuit program) data :=
  sound_then (keeps_attempt keeps) fun _ _ records _ => sound_return records trivial

theorem keepsRecords_whenReady (records : RecordsOf desktopVersion data)
    (coordinator mainWindow : Bool) :
    KeepsRecords desktopVersion (whenReady desktopVersion coordinator mainWindow) data := by
  apply sound_then (keeps_attempt (keepsRecords_beginStartup records 3))
  intro outcome after kept _
  cases outcome with
  | error problem => exact sound_return kept trivial
  | ok startup =>
    dsimp only
    split
    · exact sound_return kept trivial
    · exact sound_return kept trivial

theorem calls_confirmHealth (targetVerified : Except String Unit) :
    (confirmHealth desktopVersion targetVerified).Calls (WritesOf desktopVersion) := by
  refine calls_then trivial fun pending => ?_
  split
  · exact (Program.calls_ofExcept _).bind fun _ => calls_markHealthy
  · exact calls_markHealthy

theorem keepsRecords_markMainWindowHealthy (records : RecordsOf desktopVersion data)
    (targetVerified : Except String Unit) (process : MainProcess) : KeepsRecords desktopVersion
      (markMainWindowHealthy desktopVersion targetVerified process) data := by
  have confirms :=
    keepsRecords_of_calls (@calls_confirmHealth desktopVersion targetVerified) records
  apply sound_then (keeps_attempt confirms)
  intro outcome after kept _
  cases outcome with
  | error problem => exact sound_return kept trivial
  | ok _ =>
    dsimp only
    split
    · exact sound_return kept trivial
    · split
      · exact sound_return kept trivial
      · exact sound_return kept trivial

theorem calls_verifyRollback (policyApproved : Bool) (rollbackVerified : Except String Unit)
    (reason : String) (process : MainProcess) :
    (verifyRollback policyApproved rollbackVerified reason process).Calls
      (WritesOf desktopVersion) := by
  have mayRead : WritesOf desktopVersion .readPending := trivial
  have reads : Disk.readPending.attempt.Calls (WritesOf desktopVersion) :=
    (calls_ask mayRead).attempt
  unfold verifyRollback
  split
  · trivial
  · refine reads.bind fun outcome => ?_
    split
    · trivial
    · trivial
    · trivial
    · trivial

theorem calls_installUpdate (confirmed : ConfirmedInstall) (launchInstaller : Except String Unit) :
    (installUpdate desktopVersion confirmed launchInstaller).Calls (WritesOf desktopVersion) := by
  refine (calls_createPending _ _ _ _).bind fun _ => ?_
  apply Program.Calls.tryCatch (Program.calls_ofExcept _)
  exact fun error => calls_cancelPending.bind fun _ => trivial

theorem keepsRecords_mainProgram {process : Option MainProcess} {event : MainEvent}
    {program : UpdateProgram (Option MainProcess)}
    (runs : mainProgram desktopVersion process event = some program)
    (records : RecordsOf desktopVersion data) : KeepsRecords desktopVersion program data := by
  cases process with
  | none =>
    cases event with
    | whenReady coordinator mainWindow =>
      cases runs
      exact keepsRecords_whenReady records coordinator mainWindow
    | _ => cases runs
  | some process =>
    cases event with
    | whenReady coordinator mainWindow => cases runs
    | markMainWindowHealthy targetVerified =>
      simp only [mainProgram, Option.ite_none_right_eq_some, Option.some.injEq] at runs
      obtain ⟨-, rfl⟩ := runs
      exact keepsRecords_markMainWindowHealthy records targetVerified process
    | healthTimeout =>
      simp only [mainProgram, Option.ite_none_right_eq_some, Option.some.injEq] at runs
      obtain ⟨-, rfl⟩ := runs
      exact sound_return records trivial
    | verifyRollback policyApproved rollbackVerified =>
      simp only [mainProgram] at runs
      split at runs
      · cases runs
        exact keepsRecords_of_calls (calls_verifyRollback _ _ _ _) records
      · cases runs
      · cases runs
    | prepareRollback =>
      simp only [mainProgram] at runs
      split at runs
      · cases runs
        exact keepsRecords_thenQuit (keepsRecords_prepareRollback records _)
      · cases runs
      · cases runs
    | installUpdate confirmed launchInstaller =>
      simp only [mainProgram, Option.ite_none_right_eq_some, Option.some.injEq] at runs
      obtain ⟨-, rfl⟩ := runs
      exact keepsRecords_thenQuit (keepsRecords_of_calls (calls_installUpdate _ _) records)
    | quit =>
      cases runs
      exact sound_return records trivial

theorem recordsOf_lifetimes {start last : Installation}
    (lives : Lifetimes desktopVersion anyFailure start last)
    (records : RecordsOf desktopVersion start.data) : RecordsOf desktopVersion last.data := by
  induction lives with
  | refl => exact records
  | tail _ step ih =>
    cases step with
    | event runs ends => exact Device.Sound.stops (keepsRecords_mainProgram runs ih) ends.stops
    | crash runs stops => exact Device.Sound.stops (keepsRecords_mainProgram runs ih) stops

end Keeping

end ClientUpdate

end LongHub
