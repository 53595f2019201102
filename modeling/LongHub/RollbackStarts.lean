import LongHub.PreparedUpdates

/-!
# Starts and rollbacks of a Manager update

What the starts of an unhealthy update do, and when they reach the rollback.
-/

namespace LongHub

/-! ## Starts of an update that is never healthy -/

namespace ManagerUpdate

section Starts

variable {options : CoordinatorOptions} {allowed : UpdateChoice → Bool}
variable {pending : PendingUpdate} {world after : UpdateWorld} {starts : Nat}

/-- The record is in some form that is read, and no installer has changed. -/
def KeepsRecord (pending : PendingUpdate) (before after : UpdateWorld) : Prop :=
  after.installers = before.installers ∧
    ∃ form : Form, form.few ∧ after.pending = some (pending.inForm form)

/-- What holds where a start ends: without failures a third start has launched the installer
of the previous version. -/
def Launches (options : CoordinatorOptions) (allowed : UpdateChoice → Bool)
    (pending : PendingUpdate) (before after : UpdateWorld) : Prop :=
  ¬ MayFail allowed → Intact options pending before → 3 ≤ recorded after.pending →
    RollbackLaunched pending before after

theorem keepsRecord_of_pending {form : Form} (few : form.few)
    (file : after.pending = some (pending.inForm form))
    (same : after.installers = world.installers) : KeepsRecord pending world after :=
  ⟨same, form, few, file⟩

theorem sound_recordTargetStartup (prepared : pending.Prepared options.store) (fits : pending.Fits)
    (few : starts < 3) (current : options.currentVersion = pending.targetVersion)
    (file : world.pending = some (pending.inForm (.counted starts))) :
    (options.deviceFor allowed).Sound (KeepsRecord pending world)
      (fun outcome after => match outcome with
        | .ok (found, required) => found = some (pending.inForm (.counted (starts + 1))) ∧
            required = decide (3 ≤ starts + 1) ∧
            after = { world with pending := some (pending.inForm (.counted (starts + 1))) }
        | .error _ => MayFail allowed)
      (options.store.recordTargetStartup options.currentVersion) world := by
  have fewForm : (Form.counted starts).few := by
    change starts ≤ 3
    omega
  have keep : KeepsRecord pending world world := keepsRecord_of_pending fewForm file rfl
  have accepted := @accept_inForm options.store _ _ prepared fits fewForm
  unfold RecoveryStore.recordTargetStartup
  apply sound_attempt_read keep
  · rw [file, accepted]
    have installing : (pending.inForm (.counted starts)).phase = .installing := prepared.phase
    have notRollback : ¬ ((pending.inForm (.counted starts)).phase = .rollback ∧
        options.currentVersion = (pending.inForm (.counted starts)).previousVersion) := by
      rw [installing]
      rintro ⟨isRollback, -⟩
      cases isRollback
    have isTarget : ¬ ((pending.inForm (.counted starts)).phase ≠ .installing ∨
        options.currentVersion ≠ (pending.inForm (.counted starts)).targetVersion) := by
      rintro (other | other)
      · exact other installing
      · exact other current
    dsimp only
    rw [if_neg notRollback, if_neg isTarget]
    apply sound_write keep
    · have fewNext : (Form.counted (starts + 1)).few := by
        change starts + 1 ≤ 3
        omega
      exact Device.sound_pure (keepsRecord_of_pending fewNext rfl rfl) ⟨rfl, rfl, rfl⟩
    · intro mayFail
      exact mayFail
  · intro mayFail
    exact Device.sound_throw keep mayFail

theorem sound_beginRollback {before : UpdateWorld} (prepared : pending.Prepared options.store)
    (fits : pending.Fits) (keep : KeepsRecord pending before world)
    (file : world.pending = some (pending.inForm (.counted 3))) :
    (options.deviceFor allowed).Sound (KeepsRecord pending before)
      (fun outcome after => match outcome with
        | .ok _ => after = { world with pending := some (pending.inForm .rolledBack) }
        | .error _ => MayFail allowed)
      (options.store.beginRollback "startup_health_timeout") world := by
  have accepted : options.store.accept world.pending = .ok (pending.inForm (.counted 3)) := by
    rw [file]
    exact accept_inForm prepared fits (le_refl 3)
  unfold RecoveryStore.beginRollback
  apply sound_read keep accepted
  · apply sound_write keep
    · exact Device.sound_pure ⟨keep.1, .rolledBack, trivial, rfl⟩ rfl
    · exact fun mayFail => mayFail
  · exact fun mayFail => mayFail

theorem sound_recoverOnStartup (prepared : pending.Prepared options.store) (fits : pending.Fits)
    (few : starts < 3) (current : options.currentVersion = pending.targetVersion)
    (file : world.pending = some (pending.inForm (.counted starts))) :
    (options.deviceFor allowed).Sound (KeepsRecord pending world)
      (fun _ after => Launches options allowed pending world after)
      options.recoverOnStartup world := by
  apply Device.sound_bind (sound_recordTargetStartup prepared fits few current file)
  · rintro ⟨found, required⟩ after keep ⟨isFound, isRequired, rfl⟩
    subst isFound isRequired
    by_cases third : 3 ≤ starts + 1
    · simp only [third, decide_true, if_true]
      have three : starts + 1 = 3 := by omega
      have fewNow : (Form.counted (starts + 1)).few := three.le
      apply sound_verify keep
      · intro _
        refine Device.sound_bind (@sound_beginRollback options allowed pending _ world prepared fits
          ⟨rfl, _, fewNow, rfl⟩ (by rw [← three])) ?_ ?_
        · rintro changed after keepAfter rfl
          apply sound_launch keepAfter
          · exact sound_stop ⟨rfl, .rolledBack, trivial, rfl⟩ fun _ _ _ => ⟨_, _, rfl⟩
          · intro mayFail noFailure
            exact absurd mayFail noFailure
        · intro problem after keepAfter mayFail noFailure
          exact absurd mayFail noFailure
      · rintro (mayFail | broken) noFailure intact -
        · exact absurd mayFail noFailure
        · exact absurd (intact.symm.trans broken) (by decide)
    · simp only [third, decide_false]
      refine Device.sound_pure keep ?_
      intro _ _ enough
      exact absurd enough third
  · intro problem after keep mayFail noFailure
    exact absurd mayFail noFailure

/-- Wherever the start stops, the record can be read; and if no step fails and three starts
are recorded, it has launched the installer of the previous version. -/
def StartGood (options : CoordinatorOptions) (pending : PendingUpdate) (world : UpdateWorld) :
    Prop :=
  (∀ after, options.device.Stops options.recoverOnStartup world after →
    options.store.Readable after.pending) ∧
  ∀ outcome after, options.unfailing.Ends options.recoverOnStartup world outcome after →
    3 ≤ recorded after.pending → RollbackLaunched pending world after

theorem stops_of_counted (prepared : pending.Prepared options.store) (fits : pending.Fits)
    (few : starts ≤ 3) (current : options.currentVersion = pending.targetVersion)
    (file : world.pending = some (pending.inForm (.counted starts))) :
    ∃ after, options.device.Stops options.recoverOnStartup world after ∧
      after.pending = some (pending.inForm (.counted (starts + 1))) := by
  have accepted : options.store.accept world.pending = .ok (pending.inForm (.counted starts)) := by
    rw [file]
    exact accept_inForm prepared fits few
  have counts := @ends_recordTargetStartup options (fun _ => true) _ rfl _ accepted
    prepared.phase current
  exact ⟨_, counts.stops_bind _, rfl⟩

theorem ends_of_rolledBack (prepared : pending.Prepared options.store) (fits : pending.Fits)
    (current : options.currentVersion = pending.targetVersion)
    (file : world.pending = some (pending.inForm .rolledBack)) :
    options.unfailing.Ends options.recoverOnStartup world (.error .metadataInvalid) world := by
  have accepted : options.store.accept world.pending = .ok (pending.inForm .rolledBack) := by
    rw [file]
    exact accept_inForm prepared fits trivial
  apply ends_recoverOnStartup_refused rfl accepted
  · rintro ⟨-, isPrevious⟩
    exact prepared.differs (current.symm.trans isPrevious)
  · exact .inl nofun

theorem startGood_iff (prepared : pending.Prepared options.store) (fits : pending.Fits)
    (current : options.currentVersion = pending.targetVersion) {form : Form} (few : form.few)
    (file : world.pending = some (pending.inForm form)) (intact : Intact options pending world) :
    StartGood options pending world ↔ recorded world.pending < 3 := by
  constructor
  · rintro ⟨readable, launches⟩
    by_contra many
    rw [file] at many
    cases form with
    | counted starts =>
      have three : starts = 3 := by
        change ¬ starts < 3 at many
        change starts ≤ 3 at few
        omega
      subst three
      obtain ⟨after, stops, isFile⟩ := stops_of_counted prepared fits (le_refl 3) current file
      have found := readable after stops
      rw [isFile] at found
      have four : 4 ≤ 3 := (RecoveryStore.readable_some_iff.mp found).2.1
      omega
    | rolledBack =>
      have ends := ends_of_rolledBack prepared fits current file
      obtain ⟨found, verified, launched⟩ := launches _ _ ends (by rw [file]; exact le_refl 3)
      have length := congrArg List.length launched
      rw [List.length_append, List.length_singleton] at length
      omega
  · intro fewStarts
    rw [file] at fewStarts
    cases form with
    | rolledBack => exact absurd fewStarts (lt_irrefl 3)
    | counted starts =>
      constructor
      · intro after stops
        obtain ⟨-, form, fewForm, found⟩ :=
          (sound_recoverOnStartup prepared fits fewStarts current file).stops stops
        rw [found]
        exact ⟨_, accept_inForm prepared fits fewForm⟩
      · intro outcome after ends three
        refine (sound_recoverOnStartup prepared fits fewStarts current file).ends ends ?_ intact
          three
        rintro ⟨choice, isAllowed, failing⟩
        simp [failing] at isAllowed

end Starts

/-- A start of the target, in a state with fewer than three recorded starts, that stops
anywhere or comes to its end. -/
def FewStart (options : CoordinatorOptions) (before after : UpdateWorld) : Prop :=
  recorded before.pending < 3 ∧ options.device.Stops options.recoverOnStartup before after

abbrev StartRun (options : CoordinatorOptions) : UpdateWorld → UpdateWorld → Prop :=
  Relation.ReflTransGen (FewStart options)

theorem keepsRecord_of_run {options : CoordinatorOptions} {pending : PendingUpdate}
    {start world : UpdateWorld} (prepared : pending.Prepared options.store) (fits : pending.Fits)
    (current : options.currentVersion = pending.targetVersion) (file : start.pending = some pending)
    (run : StartRun options start world) : KeepsRecord pending start world := by
  induction run with
  | refl =>
    have zero : pending.inForm (.counted 0) = pending := by
      unfold PendingUpdate.inForm
      rw [← prepared.attempts]
    exact ⟨rfl, .counted 0, Nat.zero_le 3, by rw [file, zero]⟩
  | @tail before after _ step ih =>
    obtain ⟨fewStarts, stops⟩ := step
    obtain ⟨sameInstallers, form, few, found⟩ := ih
    rw [found] at fewStarts
    cases form with
    | rolledBack => exact absurd fewStarts (lt_irrefl 3)
    | counted starts =>
      obtain ⟨same, next⟩ :=
        (sound_recoverOnStartup prepared fits fewStarts current found).stops stops
      exact ⟨same.trans sameInstallers, next⟩

end ManagerUpdate

/-! ## Whether a rollback is reached -/

namespace ManagerUpdate

/-- A short record is not too long in any form. -/
theorem fits_of_bound {pending : PendingUpdate} (attempts : pending.attempts = 0)
    (phase : pending.phase = .installing) (reason : pending.reason = "")
    (small : bound 0 (pendingJson pending) ≤ 80000) : pending.Fits := by
  have limit : maxPendingSize = 524288 := rfl
  have digits : ∀ count : Fin 4, (toString count.val).utf8ByteSize = 1 := by decide
  have zero : (toString 0).utf8ByteSize = 1 := digits 0
  have three : (toString 3).utf8ByteSize = 1 := digits 3
  have phases : "installing".utf8ByteSize = 10 ∧ "rollback".utf8ByteSize = 8 := by decide
  have texts : "reason".utf8ByteSize = 6 ∧ "startup_health_timeout".utf8ByteSize = 22 := by decide
  rintro (starts | _) few
  · have digit : (toString starts).utf8ByteSize = 1 := digits ⟨starts, Nat.lt_succ_of_le few⟩
    have size := pendingSize_le (pending.inForm (.counted starts))
    have same : bound 0 (pendingJson (pending.inForm (.counted starts))) =
        bound 0 (pendingJson pending) := by
      simp only [pendingJson, PendingUpdate.inForm, bound, boundFields, attempts, digit, zero,
        reason, List.cons_append, List.nil_append, if_true]
    omega
  · have present : (pending.inForm .rolledBack).reason ≠ "" := by
      change "startup_health_timeout" ≠ ""
      decide
    have size := pendingSize_le (pending.inForm .rolledBack)
    have longer : bound 0 (pendingJson (pending.inForm .rolledBack)) ≤
        bound 0 (pendingJson pending) + 200 := by
      simp only [pendingJson, if_neg present, if_pos reason]
      simp only [PendingUpdate.inForm, bound, boundFields, attempts, phase, Phase.text, three, zero,
        List.cons_append, List.nil_append]
      omega
    omega

theorem rollback_reached_of_few_starts (previous options : CoordinatorOptions)
    (sameStore : previous.store = options.store)
    (previousVersion targetInstaller rollbackInstaller : String) (target rollback : Envelope)
    (before start world : UpdateWorld) (pending : PendingUpdate)
    (prepares : previous.device.Ends (previous.store.prepare previousVersion target
      targetInstaller rollback rollbackInstaller) before (.ok pending) start)
    (current : options.currentVersion = pending.targetVersion) (fits : pending.Fits)
    (run : StartRun options start world) : options.store.Readable world.pending ∧
      (StartGood options pending world ↔ recorded world.pending < 3) := by
  have sound := @sound_prepare previous (fun _ => true) before previousVersion targetInstaller
    rollbackInstaller target rollback
  obtain ⟨-, file, prepared, -, intact⟩ := sound.ends prepares
  have sameBefore := sound.stops prepares.stops
  rw [sameStore] at prepared
  obtain ⟨sameInstallers, form, few, found⟩ := keepsRecord_of_run prepared fits current file run
  have intactNow : Intact options pending world := by
    unfold Intact at intact ⊢
    rw [sameInstallers, sameBefore.1, ← sameStore]
    exact intact
  constructor
  · rw [found]
    exact ⟨_, accept_inForm prepared fits few⟩
  · exact startGood_iff prepared fits current few found intactNow

section Example

def exampleInstallers (path : String) : Option Installer :=
  if path = "updates/target.exe" ∨ path = "recovery.exe" then
    some ⟨6, String.ofList (List.replicate 64 'a')⟩
  else none

def exampleOptions (currentVersion : String) : CoordinatorOptions where
  node := composingNode
  store := exampleStore
  currentVersion := currentVersion
  channel := "stable"
  identity := "device-1"
  recoveryInstaller := "recovery.exe"
  targetPath filename := "updates/" ++ filename
  hasStop := true

def exampleWorld : UpdateWorld where
  pending := none
  installers := exampleInstallers
  fields := ⟨none, "", "idle", ""⟩
  verified := []
  launched := []

def examplePending : PendingUpdate :=
  exampleStore.newPending "0.1.0" exampleTarget "updates/target.exe" exampleRollback
    "recovery.exe" ""

theorem fits_examplePending : examplePending.Fits :=
  fits_of_bound rfl rfl rfl (by decide)

theorem ends_prepare_example (currentVersion : String) :
    ∃ start, (exampleOptions currentVersion).device.Ends
        (exampleStore.prepare "0.1.0" exampleTarget "updates/target.exe" exampleRollback
          "recovery.exe") exampleWorld (.ok examplePending) start ∧
      start.pending = some examplePending := by
  have targetFile : isInstallerOf exampleTarget.manifest
      (exampleWorld.installers (exampleStore.clean "updates/target.exe")) = true := by
    decide
  have rollbackFile : isInstallerOf exampleRollback.manifest
      (exampleWorld.installers (exampleStore.clean "recovery.exe")) = true := by
    decide
  have within : exampleStore.pathWithin "updates/target.exe" = true := by decide
  have ends := @ends_prepare (exampleOptions currentVersion) (fun _ => true) exampleWorld rfl
    "0.1.0" "updates/target.exe" "recovery.exe" exampleTarget exampleRollback checkPrepare_example
    targetFile rollbackFile within rfl
  exact ⟨_, ends, rfl⟩

theorem next_start_example {count : Nat} {world : UpdateWorld} (few : count ≤ 3)
    (found : world.pending = some (examplePending.inForm (.counted count))) :
    ∃ after, (exampleOptions "0.2.0").device.Stops (exampleOptions "0.2.0").recoverOnStartup world
        after ∧ after.pending = some (examplePending.inForm (.counted (count + 1))) := by
  obtain ⟨start, ends, -⟩ := ends_prepare_example "0.1.0"
  have prepared : examplePending.Prepared exampleStore :=
    (sound_prepare _ _ _ _ _).ends ends |>.2.2.1
  exact @stops_of_counted (exampleOptions "0.2.0") _ world count prepared fits_examplePending few
    rfl found

/-- Four starts that stop when they have counted themselves leave a record that `Read` refuses. -/
theorem not_readable_after_four_starts : ∃ start world, (exampleOptions "0.1.0").device.Ends
        (exampleStore.prepare "0.1.0" exampleTarget "updates/target.exe" exampleRollback
          "recovery.exe") exampleWorld (.ok examplePending) start ∧
      Relation.ReflTransGen (fun before after => (exampleOptions "0.2.0").device.Stops
        (exampleOptions "0.2.0").recoverOnStartup before after) start world ∧
      ¬ exampleStore.Readable world.pending := by
  obtain ⟨start, ends, file⟩ := ends_prepare_example "0.1.0"
  obtain ⟨first, stopsFirst, one⟩ := @next_start_example 0 start (by decide) file
  obtain ⟨second, stopsSecond, two⟩ := next_start_example (by decide) one
  obtain ⟨third, stopsThird, three⟩ := next_start_example (by decide) two
  obtain ⟨fourth, stopsFourth, four⟩ := next_start_example (by decide) three
  refine ⟨start, fourth, ends, ?_, ?_⟩
  · exact (((Relation.ReflTransGen.single stopsFirst).tail stopsSecond).tail stopsThird).tail
      stopsFourth
  · rw [four]
    intro readable
    have atMost : 4 ≤ 3 := (RecoveryStore.readable_some_iff.mp readable).2.1
    omega

/-- After two starts that stopped the third is good; after the third the record is still read, but
the next start is not good. -/
theorem rollback_reached_of_few_starts_example : ∃ start second third,
    StartRun (exampleOptions "0.2.0") start second ∧ recorded second.pending = 2 ∧
      StartGood (exampleOptions "0.2.0") examplePending second ∧
    StartRun (exampleOptions "0.2.0") start third ∧ recorded third.pending = 3 ∧
      exampleStore.Readable third.pending ∧
      ¬ StartGood (exampleOptions "0.2.0") examplePending third := by
  obtain ⟨start, ends, file⟩ := ends_prepare_example "0.1.0"
  obtain ⟨first, stopsFirst, one⟩ := @next_start_example 0 start (by decide) file
  obtain ⟨second, stopsSecond, two⟩ := next_start_example (by decide) one
  obtain ⟨third, stopsThird, three⟩ := next_start_example (by decide) two
  have toSecond : StartRun (exampleOptions "0.2.0") start second :=
    (Relation.ReflTransGen.single ⟨by rw [file]; decide, stopsFirst⟩).tail
      ⟨by rw [one]; decide, stopsSecond⟩
  have toThird := toSecond.tail ⟨by rw [two]; decide, stopsThird⟩
  have reached {world : UpdateWorld} (run : StartRun (exampleOptions "0.2.0") start world) :=
    rollback_reached_of_few_starts (exampleOptions "0.1.0") (exampleOptions "0.2.0") rfl "0.1.0"
      "updates/target.exe" "recovery.exe" exampleTarget exampleRollback exampleWorld start world
      examplePending ends rfl fits_examplePending run
  have two : recorded second.pending = 2 := by
    rw [two]
    rfl
  have three : recorded third.pending = 3 := by
    rw [three]
    rfl
  refine ⟨start, second, third, toSecond, two, (reached toSecond).2.mpr (by omega), toThird, three,
    (reached toThird).1, fun good => ?_⟩
  have few := (reached toThird).2.mp good
  omega

end Example

end ManagerUpdate

end LongHub
