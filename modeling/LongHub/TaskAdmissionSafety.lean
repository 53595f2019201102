import LongHub.TaskAdmissionRules

/-!
# Task admission is safe

One lemma for each part of `POST /v1/tasks`, from the claim of the worker back to the first lookup.
-/

namespace LongHub

open TaskTables

open TaskServerState TaskServer

variable {options : TaskServerOptions} {thread : Nat} {α : Type}

abbrev SafeAdmission (options : TaskServerOptions) (thread : Nat) {α : Type}
    (program : ServerProgram α) : TaskServerState → Prop :=
  (admissionServer options).Safe (AdmissionState options) AdmissionGuarantee thread
    (fun _ _ => True) program

variable {state : TaskServerState}

variable {program : ServerProgram α}

theorem safe_ordinaryCalls (calls : OrdinaryCalls program) :
    SafeAdmission options thread program state := by
  refine Machine.safe_of_calls (lasting_const True).stable ?_ calls trivial
  intro request ordinary before choice answer after inv _ ran
  obtain ⟨guarantee, -, invAfter⟩ := keeps_ordinary ordinary inv (perform_admission inv ran)
  exact ⟨guarantee, invAfter, trivial⟩

theorem safe_ordinary {request : ServerCall}
    {next : Except ServerError request.Answer → ServerProgram α}
    {assertion : TaskServerState → Prop} (ordinary : isOrdinary request = true)
    (lasting : Lasting thread assertion) (holds : assertion state)
    (continues : ∀ before choice answer after, AdmissionState options before →
      assertion before → execute thread choice before request = (answer, after) →
        AdmissionState options after → assertion after →
          SafeAdmission options thread (next answer) after) :
    SafeAdmission options thread (.call request next) state := by
  refine Machine.safe_call lasting.stable holds ?_
  intro before choice answer after inv holdsBefore ran
  have executed := perform_admission inv ran
  obtain ⟨guarantee, calm, invAfter⟩ := keeps_ordinary ordinary inv executed
  exact ⟨guarantee, invAfter, continues before choice answer after inv holdsBefore executed
    invAfter (lasting before after calm holdsBefore)⟩

theorem keeps_of_mayRecord {before : TaskServerState} (after : TaskServerState) (fact : ServerFact)
    (state : AdmissionState options before) (faults : after.faults = before.faults)
    (skills : after.skills = before.skills) (grows : TaskTables.Grows before.tables after.tables)
    (numbered : after.tables.RowsNumbered)
    (history : after.history = before.history ++ [(thread, fact)])
    (may : AdmissionInv.MayRecord (IsProduction options) after.tables before.history thread fact) :
    AdmissionGuarantee thread before after ∧ AdmissionState options after := by
  refine ⟨⟨grows, [(thread, fact)], history, by simp⟩, faults.trans state.1, ?_⟩
  rw [history, skills]
  exact (state.2.setTables grows numbered).recordFact may

theorem safe_oneFetch {taskId : Nat} (calls : OneFetch taskId program)
    (working : Working thread taskId state) : SafeAdmission options thread program state := by
  refine Machine.Safe.mono (fun _ _ _ _ => trivial)
    (Machine.safe_of_callsOnce (lasting_working taskId).stable (lasting_const True).stable
      (fun _ _ => trivial) ?_ ?_ ?_ calls working)
  · intro request ordinary before choice answer after inv working ran
    obtain ⟨guarantee, calm, invAfter⟩ :=
      keeps_ordinary ordinary inv (perform_admission inv ran)
    exact ⟨guarantee, invAfter, lasting_working taskId before after calm working⟩
  · intro request ordinary before choice answer after inv _ ran
    obtain ⟨guarantee, -, invAfter⟩ := keeps_ordinary ordinary inv (perform_admission inv ran)
    exact ⟨guarantee, invAfter, trivial⟩
  · intro request fetch before choice answer after inv working ran
    have executed := perform_admission inv ran
    cases request with
    | fetchExecutor request =>
      obtain rfl : request.taskId = taskId := by simpa [isFetch] using fetch
      have afterEq : after = before.recordFact thread (.executed request.taskId) := by
        simp only [execute] at executed
        split at executed <;> exact (Prod.mk.inj executed).2.symm
      subst afterEq
      obtain ⟨guarantee, invAfter⟩ := keeps_of_mayRecord (before.recordFact thread (.executed
        request.taskId)) (.executed request.taskId) inv rfl rfl (.refl _) inv.2.numbered rfl working
      exact ⟨guarantee, invAfter, trivial⟩
    | _ => cases fetch

theorem safe_runTask_admitting {params : RunTaskParams} {key : String}
    {placeholder : CloudTaskAdmissionPlaceholder}
    (admitting : Admitting thread key params.taskId placeholder state)
    (reserved : IsProduction options → IsReserved state.history params.taskId) :
    SafeAdmission options thread (runTask options params) state := by
  rw [runTask_eq]
  have lasting : Lasting thread fun state =>
      Admitting thread key params.taskId placeholder state ∧
        (IsProduction options → IsReserved state.history params.taskId) :=
    (lasting_admitting key params.taskId placeholder).and
      fun before after calm reserved production =>
        lasting_isReserved params.taskId before after calm (reserved production)
  refine Machine.safe_call lasting.stable ⟨admitting, reserved⟩ ?_
  rintro before choice answer after inv ⟨admitting, reserved⟩ ran
  have executed := perform_admission inv ran
  rcases claimed : before.tables.claimPendingTask choice.now params.taskId with ⟨result, tables⟩
  simp only [execute, claimed] at executed
  obtain ⟨grows, numbered⟩ := TaskTables.Grows.claimPendingTask inv.2.numbered claimed
  rcases claimPendingTask_cases claimed with
    ⟨rfl, -⟩ | ⟨task, stored, pending, rfl, tablesEq⟩
  · cases executed
    obtain ⟨guarantee, -, invAfter⟩ : AdmissionGuarantee thread before _ ∧ _ ∧ _ :=
      keeps_of_plain { before with tables } inv rfl grows numbered inv.2.indexed (Or.inl rfl)
    exact ⟨guarantee, invAfter, safe_ordinaryCalls
      (ordinaryCalls_afterClaim fun task bad => by cases bad)⟩
  · cases executed
    have boundKey := admitting.bound task stored
    have row : tables.getTask params.taskId = some (task.withStatus choice.now .running {}) := by
      simp [tablesEq, getTask, emit]
    have unclaimed (other : Nat) : (other, .claimed params.taskId) ∉ before.history := by
      intro did
      obtain ⟨old, oldStored, started⟩ := inv.2.claimedRow did
      obtain rfl : task = old := Option.some.inj (stored.symm.trans oldStored)
      exact started pending
    have soughtKey (other : String) (sought : before.Did thread (.sought other)) :
        tables.idempotency.get? other = some params.taskId := by
      rcases admitting.story _ sought with (same | same | ⟨_, same⟩) | plain
      · cases same
        simpa [tablesEq, emit] using boundKey
      · cases same
      · cases same
      · cases plain
    obtain ⟨guarantee, invAfter⟩ := keeps_of_mayRecord
      (({ before with tables } : TaskServerState).recordFact thread (.claimed params.taskId))
      (.claimed params.taskId) inv rfl rfl grows numbered rfl
      ⟨⟨_, row, by simp⟩, unclaimed, soughtKey, reserved⟩
    refine ⟨guarantee, invAfter, safe_oneFetch (oneFetch_afterClaim _)
      ⟨did_recordFact.mpr (Or.inr ⟨rfl, rfl⟩), fun other did => ?_⟩⟩
    rcases did_recordFact.mp did with old | ⟨-, same⟩
    · rcases admitting.story _ old with (same | same | ⟨_, same⟩) | plain
      · cases same
      · cases same
      · cases same
      · cases plain
    · cases same

section Admission

variable {request : PostTaskRequest} {placeholder : CloudTaskAdmissionPlaceholder}
variable {key : String} {taskId : Nat} {state : TaskServerState}

/-- A request that works on a task, reserved unless development runs without. -/
def Ready (options : TaskServerOptions) (thread : Nat) (key : String) (taskId : Nat)
    (placeholder : CloudTaskAdmissionPlaceholder) (state : TaskServerState) : Prop :=
  Admitting thread key taskId placeholder state ∧
    (IsProduction options → IsReserved state.history taskId)

theorem lasting_ready : Lasting thread (Ready options thread key taskId placeholder) :=
  (lasting_admitting key taskId placeholder).and fun before after calm reserved production =>
      lasting_isReserved taskId before after calm (reserved production)

variable {existed : Bool}

variable {task : CloudTask} {grant : Option CloudSkillAccessGrant} {userId : String}

theorem safe_startTask {reservationId : Option String}
    (ready : Ready options thread key task.taskId placeholder state) : SafeAdmission options thread
      (startTask options request existed task grant reservationId) state := by
  refine safe_ordinary rfl lasting_ready ready ?_
  intro _ _ answer after _ _ _ _ ready
  cases answer with
  | error error => exact safe_ordinaryCalls trivial
  | ok sent => exact safe_runTask_admitting ready.1 ready.2

/-- An error answer that is not a limit. -/
theorem ordinaryCalls_sendUsageUnavailable : OrdinaryCalls sendUsageUnavailable :=
  ordinaryCalls_sendError rfl

/-- What follows an admission that did not happen. -/
theorem ordinaryCalls_notAdmitted (userId reservationId : String) :
    OrdinaryCalls (do
      let current ← getTaskOrNone taskId
      if current.any fun task =>
          !isCloudTaskAdmissionPlaceholder task.input (some placeholder) then
        sendTask 200 current
      else
        tolerate (releaseOf request userId taskId reservationId)
        if current.any fun task => task.status == .cancelled then sendTask 200 current
        else sendUsageUnavailable) := by
  refine (ordinaryCalls_getTaskOrNone taskId).bind fun current => ?_
  split
  · exact ordinaryCalls_sendTask _ _
  · refine (ordinaryCalls_tolerate rfl).bind fun _ => ?_
    split
    · exact ordinaryCalls_sendTask _ _
    · exact ordinaryCalls_sendUsageUnavailable

theorem ordinaryCalls_refuseExpiredReservation (userId reservationId : String) :
    OrdinaryCalls (refuseExpiredReservation request placeholder taskId userId reservationId) := by
  refine (ordinaryCalls_getTaskOrNone taskId).bind fun current => ?_
  split
  · exact ordinaryCalls_sendTask _ _
  · refine (ordinaryCalls_tolerate rfl).bind fun _ => ?_
    exact (ordinaryCalls_tolerate rfl).bind fun _ => ordinaryCalls_sendError rfl

theorem safe_admitAndStart {grant : CloudSkillAccessGrant} {reservationId : String}
    (ready : Ready options thread key taskId placeholder state) : SafeAdmission options thread
      (admitAndStart options request placeholder existed taskId grant userId reservationId)
      state := by
  refine Machine.safe_call lasting_ready.stable ready ?_
  rintro before choice answer after inv ⟨admitting, reserved⟩ ran
  have executed := perform_admission inv ran
  have isInput := request.call.not_isPlaceholder none
  rcases result : before.tables.admitPendingTaskInput choice.now taskId placeholder
    (.record request.call.input) with ⟨admitted, tables⟩
  simp only [execute, result] at executed
  obtain ⟨grows, numbered⟩ := TaskTables.Grows.admitPendingTaskInput inv.2.numbered isInput result
  rcases admitPendingTaskInput_cases result with
    ⟨rfl, -, -⟩ | ⟨task, stored, -, -, rfl, tablesEq⟩
  · cases executed
    obtain ⟨guarantee, -, invAfter⟩ : AdmissionGuarantee thread before _ ∧ _ ∧ _ :=
      keeps_of_plain { before with tables } inv rfl grows numbered inv.2.indexed (Or.inl rfl)
    exact ⟨guarantee, invAfter, safe_ordinaryCalls (ordinaryCalls_notAdmitted _ _)⟩
  · cases executed
    have row : tables.getTask taskId =
        some (task.withInput choice.now (.record request.call.input)) := by
      simp [tablesEq, getTask]
    have notStaged : (task.withInput choice.now (.record request.call.input)).isStaged = false :=
      CloudTask.isStaged_of_input isInput
    have sameId : task.taskId = taskId := (inv.2.numbered taskId task stored).2
    obtain ⟨guarantee, invAfter⟩ := keeps_of_mayRecord
      (({ before with tables } : TaskServerState).recordFact thread
        (.admitted taskId (.record request.call.input)))
      (.admitted taskId (.record request.call.input)) inv rfl rfl grows numbered rfl
      ⟨_, row, rfl, notStaged⟩
    refine ⟨guarantee, invAfter, safe_startTask (?_ : Ready options thread key _ placeholder _)⟩
    change Ready options thread key task.taskId placeholder _
    rw [sameId]
    refine ⟨⟨?_, ?_, ?_, ?_⟩, fun production => ?_⟩
    · intro fact did
      rcases did_recordFact.mp did with old | ⟨-, rfl⟩
      · exact admitting.story fact old
      · exact Or.inl (Or.inr (Or.inr ⟨_, rfl⟩))
    · exact admitting.numbered.trans grows.seq
    · exact grows.bound admitting.numbered admitting.bound
    · intro _ found foundStored staged
      obtain rfl := Option.some.inj (row.symm.trans foundStored)
      rw [notStaged] at staged
      cases staged
    · obtain ⟨other, did⟩ := reserved production
      exact ⟨other, List.mem_append_left _ did⟩

/-- Whatever the thread has created is settled. -/
def Refusable (thread : Nat) (state : TaskServerState) : Prop :=
  ∀ taskId, state.Did thread (.created taskId) → state.tables.IsSettled taskId

theorem lasting_refusable : Lasting thread (Refusable thread) := by
  intro before after calm refusable taskId created
  have createdBefore := (calm.newFacts created).resolve_right (by simp [isPlainFact])
  exact calm.grows.isSettled (refusable taskId createdBefore)

/-- Any refusal, of a request that left nothing staged. -/
theorem safe_sendError {status : Nat} {code message : String} {retryable : Bool}
    (refusable : Refusable thread state) :
    SafeAdmission options thread (sendError status code message retryable) state := by
  refine Machine.safe_call lasting_refusable.stable refusable ?_
  intro before choice answer after inv refusable ran
  have executed := perform_admission inv ran
  cases executed
  obtain ⟨guarantee, invAfter⟩ := keeps_of_mayRecord (before.recordFact thread (.refused code))
    (.refused code) inv rfl rfl (.refl _) inv.2.numbered rfl fun _ => refusable
  exact ⟨guarantee, invAfter, safe_ordinaryCalls trivial⟩

theorem safe_discardAndRefuse {problem : Problem}
    (admitting : Admitting thread key taskId placeholder state) :
    SafeAdmission options thread (do
      tolerate (.discardPendingTask taskId placeholder)
      sendError problem.status problem.code problem.message problem.retryable) state := by
  refine safe_ordinary rfl (lasting_admitting key taskId placeholder) admitting ?_
  intro before choice answer after _ _ executed _ admitting
  refine safe_sendError fun created did => ?_
  obtain rfl : created = taskId := by
    rcases admitting.story _ did with (same | same | ⟨_, same⟩) | plain
    · cases same
    · exact ServerFact.created.inj same
    · cases same
    · cases plain
  refine ⟨admitting.numbered, fun task stored => ?_⟩
  by_contra staged
  have isStaged : task.isStaged = true := by simpa using staged
  have isPlaceholder := admitting.mine did task stored isStaged
  have discarded : after.tables.isStaged created placeholder = false := by
    cases executed
    exact isStaged_discardPendingTask rfl
  have pending : task.status = .pending := by
    simp only [CloudTask.isStaged, Bool.and_eq_true, beq_iff_eq] at isStaged
    exact isStaged.1
  have stagedHere := isStaged_iff.mpr ⟨task, stored, pending, isPlaceholder⟩
  rw [discarded] at stagedHere
  cases stagedHere

theorem did_reserved {choice : ServerChoice} {before after : TaskServerState}
    {params : CloudSkillExecutionReservationRequest} {reservation : CloudSkillExecutionReservation}
    (executed : execute thread choice before (.reserveCloudSkillExecution params) =
      (.ok (.ok reservation), after)) : after.Did thread (.reserved params.taskId) := by
  simp only [execute, Prod.mk.injEq, Except.ok.injEq] at executed
  obtain ⟨answered, rfl⟩ := executed
  rw [answered]
  exact did_recordFact.mpr (Or.inr ⟨rfl, rfl⟩)

theorem safe_reserveAndStart {grant : CloudSkillAccessGrant}
    (admitting : Admitting thread key taskId placeholder state) : SafeAdmission options thread
      (reserveAndStart options request placeholder existed taskId grant userId) state := by
  refine safe_ordinary rfl (lasting_admitting key taskId placeholder) admitting ?_
  intro before choice answer after _ _ executed _ admitting
  match answer with
  | .error error =>
    exact safe_ordinaryCalls <| (ordinaryCalls_tolerate rfl).bind fun _ =>
      ordinaryCalls_sendUsageUnavailable
  | .ok (.error rejection) => exact safe_discardAndRefuse admitting
  | .ok (.ok reservation) =>
    have ready : Ready options thread key taskId placeholder after :=
      ⟨admitting, fun _ => ⟨thread, did_reserved executed⟩⟩
    refine safe_ordinary rfl lasting_ready ready ?_
    intro _ _ answer last _ _ _ _ ready
    cases answer with
    | error error => exact safe_ordinaryCalls trivial
    | ok now =>
      change SafeAdmission options thread (if (reservation.releasedAt.isSome ||
        decide (reservation.leaseExpiresAt ≤ now)) = true then _ else _) last
      split
      · exact safe_ordinaryCalls (ordinaryCalls_refuseExpiredReservation _ _)
      · exact safe_admitAndStart ready

theorem safe_admitTask (admitting : Admitting thread key task.taskId placeholder state)
    (paid : IsProduction options → grant.isSome ∧ request.device.account.isSome) :
    SafeAdmission options thread
      (admitTask options request placeholder existed task grant) state := by
  unfold admitTask
  split
  · exact safe_reserveAndStart admitting
  · next unpaid =>
    refine safe_startTask ⟨admitting, fun production => ?_⟩
    obtain ⟨hasGrant, hasAccount⟩ := paid production
    obtain ⟨someGrant, rfl⟩ := Option.isSome_iff_exists.mp hasGrant
    obtain ⟨account, accountEq⟩ := Option.isSome_iff_exists.mp hasAccount
    exact absurd accountEq (unpaid someGrant account rfl)

end Admission

end LongHub
