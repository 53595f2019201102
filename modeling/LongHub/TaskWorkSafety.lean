import LongHub.TaskWorkRules

/-!
# Workers and cancel requests are safe

One lemma for each part of the worker, in the order of the source, and one for
each part of the cancel route.  A worker that returns or throws has left its
task in a terminal status.
-/

namespace LongHub

open TaskServerState TaskServer

variable {options : TaskServerOptions} {thread : Nat} {α : Type}

abbrev WorkerEnds (thread taskId : Nat) : Except ServerError Unit → TaskServerState → Prop :=
  Ends thread taskId fun _ => Finished thread

variable {params : RunTaskParams} {patch : TaskPatch} {state : TaskServerState}

variable {status : CloudTaskStatus} {rest : ServerProgram Unit}

abbrev SafeWorker (options : TaskServerOptions) (thread : Nat) (params : RunTaskParams) :
    ServerProgram Unit → TaskServerState → Prop :=
  SafeWork options thread (WorkerEnds thread params.taskId)

/-- What a check of the worker goes on with. -/
abbrev Continues (options : TaskServerOptions) (thread : Nat) (params : RunTaskParams)
    (rest : ServerProgram Unit) : Prop :=
  ∀ after, after.WorkInv → Preparing thread params.taskId after →
    SafeWorker options thread params rest after

/-- A write whose error is thrown, in any status but that of the deadline. -/
theorem safe_completeAndRelease (inv : state.WorkInv) (terminal : status.isTerminal = true)
    (inTime : status ≠ .timedOut) (claimed : state.Did thread (.claimed params.taskId)) :
    SafeWorker options thread params (query (completeRunningTask params.taskId status patch) >>=
      fun _ => releaseReservation params) state := by
  refine safe_completeRunningTask terminal False (.of_did inv claimed)
    (fun timedOut => absurd timedOut inTime) False.elim ?_
  intro answer after inv only notAbort finished
  cases answer with
  | ok moved =>
    exact safe_releaseReservation params steady_finished (finished (Or.inl ⟨moved, rfl⟩))
  | error error =>
    exact Machine.safe_throw (steady_thrown params.taskId error).stable
      ⟨only, fun abort => absurd abort (notAbort error rfl)⟩

theorem safe_failAndRelease (inv : state.WorkInv)
    (claimed : state.Did thread (.claimed params.taskId)) :
    SafeWorker options thread params (failAndRelease params patch) state :=
  safe_completeAndRelease inv rfl (by decide) claimed

theorem safe_tryFailAndRelease {Post : Except ServerError Unit → TaskServerState → Prop}
    (terminal : status.isTerminal = true) (only : OnlyClaims thread params.taskId state)
    (cause : status = .timedOut → state.Did thread (.claimed params.taskId) ∧
      (state.Did thread .timedOut ∨ state.HasEnded params.taskId))
    (written : state.faults = 0 ∨ droppedWrites.contains patch.error = true)
    (steady : Steady thread (Post (.ok ())))
    (returns : ∀ after, Finished thread after → Post (.ok ()) after) :
    SafeWork options thread Post (tryFailAndRelease params status patch) state := by
  refine safe_completeRunningTask terminal (state.faults = 0) only cause id ?_
  intro answer after _ _ _ finished
  exact safe_releaseReservation params steady (returns after (finished (Or.inr written)))

theorem safe_stop (inv : state.WorkInv) (claimed : state.Did thread (.claimed params.taskId))
    (ended : state.HasEnded params.taskId) :
    SafeWorker options thread params (releaseReservation params) state :=
  safe_releaseReservation params steady_finished (.of_hasEnded (.of_did inv claimed) ended)

theorem safe_unlessStopped_of_steady {extra : TaskServerState → Prop} (steady : Steady thread extra)
    (preparing : Preparing thread params.taskId state) (holds : extra state)
    (continues : ∀ after, after.WorkInv → Preparing thread params.taskId after →
      extra after → SafeWorker options thread params rest after) :
    SafeWorker options thread params (unlessStopped params rest) state := by
  have steadyBoth := (steady_preparing params.taskId).and steady
  refine safe_quiet rfl steadyBoth ⟨preparing, holds⟩ ?_
  intro _ _ answer first _ _ ran invFirst ⟨preparing, holds⟩
  obtain rfl := perform_isAborted ran
  by_cases aborted : thread ∈ first.aborted
  · rw [decide_eq_true aborted]
    exact safe_stop invFirst preparing.1 (preparing.hasEnded invFirst aborted)
  rw [decide_eq_false aborted]
  refine safe_quiet rfl steadyBoth ⟨preparing, holds⟩ ?_
  intro beforeRead _ read second invBefore _ ran invSecond ⟨preparing, holds⟩
  cases read with
  | error error =>
    have noFaults := noFaults_of_error invBefore rfl (fun _ => ⟨_, rfl⟩) ran
    exact safe_tryFailAndRelease rfl (.of_did invSecond preparing.1)
      (fun bad => by cases bad) (Or.inl noFaults) steady_finished fun _ => id
  | ok current =>
    obtain rfl := perform_getTask ran
    -- a row that is not running now has ended for good
    have steadyStopped : Steady thread fun state =>
        (Preparing thread params.taskId state ∧ extra state) ∧
        (isRunning second params.taskId = false → state.HasEnded params.taskId) :=
      steadyBoth.and (steady_hasEnded params.taskId).imp
    refine safe_quiet rfl steadyStopped
      ⟨⟨preparing, holds⟩, hasEnded_of_not_isRunning invSecond preparing.1⟩ ?_
    intro _ _ answer third _ _ ran invThird ⟨⟨preparing, holds⟩, stopped⟩
    obtain rfl := perform_isAborted ran
    by_cases aborted : thread ∈ third.aborted
    · rw [decide_eq_true aborted]
      exact safe_stop invThird preparing.1 (preparing.hasEnded invThird aborted)
    rw [decide_eq_false aborted]
    change SafeWork options thread _ (if (false || !isRunning second params.taskId) = true
      then releaseReservation params else rest) third
    cases running : isRunning second params.taskId with
    | false => exact safe_stop invThird preparing.1 (stopped running)
    | true => exact continues third invThird preparing holds

theorem safe_unlessStopped (preparing : Preparing thread params.taskId state)
    (continues : Continues options thread params rest) :
    SafeWorker options thread params (unlessStopped params rest) state :=
  safe_unlessStopped_of_steady (fun _ _ _ => id : Steady thread fun _ => True) preparing trivial
    fun after inv preparing _ => continues after inv preparing

theorem safe_prepare {request : ServerCall} {next : request.Answer → ServerProgram Unit}
    (quiet : isQuiet request = true) (isLocalCall : isLocal request = true)
    (preparing : Preparing thread params.taskId state)
    (continues : ∀ value after, after.WorkInv → Preparing thread params.taskId after →
      SafeWorker options thread params (next value) after) :
    SafeWorker options thread params (query request >>= next) state :=
  safe_query quiet isLocalCall (steady_preparing params.taskId) And.left preparing continues

section Preparation

variable {params : RunTaskParams} {rest : ServerProgram Unit} {state : TaskServerState}

variable (preparing : Preparing thread params.taskId state)
variable (continues : Continues options thread params rest)
include preparing continues

theorem safe_recheckGrant (inv : state.WorkInv) :
    SafeWorker options thread params (recheckGrant params rest) state := by
  unfold recheckGrant
  split
  · refine safe_prepare rfl rfl preparing fun active _ _ preparing => ?_
    refine safe_unlessStopped preparing fun afterUser invUser preparing => ?_
    have checked (grant : CloudSkillAccessGrant) (currentGrant : Option CloudSkillAccessGrant)
        {after : TaskServerState} (preparing : Preparing thread params.taskId after) :
        SafeWorker options thread params (unlessStopped params <|
            if currentGrant.any fun current =>
                current.subscription.subscriptionId == grant.subscription.subscriptionId
            then rest
            else failAndRelease params
              (taskError "SUBSCRIPTION_EXPIRED" "云端 Skill 订阅已失效" false)) after := by
      refine safe_unlessStopped preparing fun last invLast preparing => ?_
      split
      · exact continues last invLast preparing
      · exact safe_failAndRelease invLast preparing.1
    cases active with
    | true => exact safe_prepare rfl rfl preparing fun current _ _ => checked _ current
    | false => exact checked _ none preparing
  · exact continues state inv preparing

theorem safe_recheckPolicy :
    SafeWorker options thread params (recheckPolicy params rest) state := by
  refine safe_prepare rfl rfl preparing fun denial _ _ preparing => ?_
  refine safe_unlessStopped preparing fun last invLast preparing => ?_
  cases denial with
  | some denial => exact safe_failAndRelease invLast preparing.1
  | none => exact continues last invLast preparing

theorem safe_recheckRelease (inv : state.WorkInv) :
    SafeWorker options thread params (recheckRelease options params rest) state := by
  unfold recheckRelease
  split
  · refine safe_prepare rfl rfl preparing fun check _ _ preparing => ?_
    refine safe_unlessStopped preparing fun last invLast preparing => ?_
    cases check with
    | refused problem => exact safe_failAndRelease invLast preparing.1
    | ok => exact continues last invLast preparing
  · exact continues state inv preparing

theorem safe_recheckBinding (inv : state.WorkInv) :
    SafeWorker options thread params (recheckBinding options params rest) state := by
  unfold recheckBinding
  split
  · refine safe_quiet rfl (steady_preparing params.taskId) preparing ?_
    intro before _ answer after invBefore _ ran _ preparing
    cases answer with
    | error error =>
      have noFaults := noFaults_of_error invBefore rfl (fun _ => ⟨_, rfl⟩) ran
      refine safe_unlessStopped_of_steady steady_noFaults preparing noFaults ?_
      intro last invLast preparing noFaults
      exact safe_tryFailAndRelease rfl (.of_did invLast preparing.1)
        (fun bad => by cases bad) (Or.inl noFaults) steady_finished fun _ => id
    | ok binding =>
      refine safe_unlessStopped preparing fun last invLast preparing => ?_
      cases binding with
      | true => exact continues last invLast preparing
      | false =>
        exact safe_tryFailAndRelease rfl (.of_did invLast preparing.1)
          (fun bad => by cases bad) (Or.inr (by decide)) steady_finished
          fun _ => id
  · exact continues state inv preparing

end Preparation

section Execution

variable {params : RunTaskParams} {state : TaskServerState}

theorem safe_completeExecution {ok : Bool} {body : Option ExecutorBody} (inv : state.WorkInv)
    (claimed : state.Did thread (.claimed params.taskId)) :
    SafeWorker options thread params (completeExecution params ok body) state := by
  cases body with
  | none => exact safe_failAndRelease inv claimed
  | some body =>
    refine safe_quiet rfl (steady_did _) claimed ?_
    intro before _ answer after _ _ ran inv claimed
    cases answer with
    | error error =>
      exact Machine.safe_throw (steady_thrown params.taskId error).stable
        (.of_local inv claimed (perform_error_ne_abort rfl ran))
    | ok current =>
      obtain rfl := perform_getTask ran
      change SafeWork options thread _ (if ((after.tables.getTask params.taskId).any
        fun task => task.status == .cancelled) = true then _ else _) after
      split
      · next cancelled =>
        cases stored : after.tables.getTask params.taskId with
        | none => simp [stored] at cancelled
        | some task =>
          have status : task.status = .cancelled := by simpa [stored] using cancelled
          exact safe_stop inv claimed ⟨task, stored, by rw [status]; rfl⟩
      · split
        · exact safe_failAndRelease inv claimed
        · split
          · exact Machine.safe_throw (steady_thrown params.taskId _).stable
              (.of_local inv claimed (by decide))
          · exact safe_completeAndRelease inv rfl (by decide) claimed

/-- What a finished exchange with the Executor leaves to do. -/
def Fetched {β : Type} (thread taskId : Nat) : Option β → TaskServerState → Prop
  | none => Finished thread
  | some _ => fun state => state.Did thread (.claimed taskId)

variable {β : Type}

theorem steady_fetched (taskId : Nat) (fetched : Option β) :
    Steady thread (Fetched thread taskId fetched) := by
  cases fetched with
  | none => exact steady_finished
  | some body => exact steady_did _

/-- An abort error under the deadline has a cause. -/
theorem Executing.thrown {request : ServerCall} {choice : ServerChoice}
    {before after : TaskServerState} {error : ServerError} {taskId : Nat}
    (executing : Executing thread taskId before) (quiet : isQuiet request = true)
    (inv : before.WorkInv) (invAfter : after.WorkInv)
    (ran : TaskServerState.perform thread request choice before =
      some (.error error, after)) : Thrown thread taskId error after := by
  have undisturbed := Undisturbed.of_sameWork (perform_sameWork quiet ran)
  have executingAfter := steady_executing taskId before after undisturbed executing
  refine ⟨.of_did invAfter executingAfter.1, ?_⟩
  rintro rfl
  have cause := executing.cause inv (perform_abort ran)
  exact ⟨executingAfter.1, ((steady_did _).or (steady_hasEnded taskId)) before after
    undisturbed cause⟩

theorem safe_readResponse (executing : Executing thread params.taskId state) :
    SafeWork options thread (Ends thread params.taskId (Fetched thread params.taskId))
      (readResponse params) state := by
  refine safe_quiet rfl (steady_executing params.taskId) executing ?_
  intro before _ answer after inv executingBefore ran invAfter executing
  cases answer with
  | ok body => exact Machine.safe_pure (steady_did _).stable executing.1
  | error error =>
    have thrown := executingBefore.thrown rfl inv invAfter ran
    refine safe_quiet rfl ((steady_executing params.taskId).and (steady_thrown params.taskId error))
      ⟨executing, thrown⟩ ?_
    intro _ _ answer last _ _ ran invLast ⟨executing, thrown⟩
    obtain rfl := perform_isAborted ran
    change SafeWork options thread _ (if (error.isAbortError ||
      decide (thread ∈ last.aborted)) = true then _ else _) last
    split
    · exact Machine.safe_throw (steady_thrown params.taskId error).stable thrown
    · refine Machine.safe_bind invLast (safe_failAndRelease invLast executing.1) ?_ ?_
      · exact fun _ _ _ finished => Machine.safe_pure steady_finished.stable finished
      · exact fun _ _ _ thrown => thrown

theorem safe_exchange (request : ExecutorRequest)
    (executing : Executing thread params.taskId state) :
    SafeWork options thread (Ends thread params.taskId (Fetched thread params.taskId)) (do
        let ok : Bool ← query (.fetchExecutor request)
        let body ← readResponse params
        return body.map fun body => (ok, body)) state := by
  refine safe_quiet rfl (steady_executing params.taskId) executing ?_
  intro before _ answer after inv executingBefore ran invAfter executing
  cases answer with
  | error error =>
    exact Machine.safe_throw (steady_thrown params.taskId error).stable
      (executingBefore.thrown rfl inv invAfter ran)
  | ok ok =>
    change SafeWork options thread _ (readResponse params >>= _) after
    refine Machine.safe_bind invAfter (safe_readResponse executing) ?_ ?_
    · intro body last _ fetched
      cases body with
      | none => exact Machine.safe_pure steady_finished.stable fetched
      | some body => exact Machine.safe_pure (steady_did _).stable fetched
    · exact fun _ _ _ thrown => thrown

theorem safe_clearTimeout {outcome : Except ServerError (Option β)}
    (holds : Ends thread params.taskId (Fetched thread params.taskId) outcome state) :
    SafeWork options thread
      (fun result last => Ends thread params.taskId (Fetched thread params.taskId)
        (result.bind fun _ => outcome) last) (query .clearTimeout) state := by
  have steady : Steady thread (Ends thread params.taskId (Fetched thread params.taskId) outcome) :=
    steady_ends (steady_fetched params.taskId) outcome
  refine Machine.safe_call steady.stable holds ?_
  intro before choice answer after inv holds ran
  cases (executed_of_perform (perform_harmlessServer ran).2 nofun).1
  refine ⟨.clearTimeout before thread, inv.clearTimeout, ?_⟩
  refine Machine.safe_pure steady.stable ?_
  cases outcome with
  | error error => exact holds
  | ok fetched => cases fetched <;> exact holds

theorem safe_callExecutor (preparing : Preparing thread params.taskId state) :
    SafeWorker options thread params (callExecutor options params) state := by
  refine safe_quiet rfl (steady_preparing params.taskId) preparing ?_
  intro _ _ answer first _ _ ran invFirst preparing
  obtain rfl := perform_isAborted ran
  by_cases aborted : thread ∈ first.aborted
  · rw [decide_eq_true aborted]
    exact safe_stop invFirst preparing.1 (preparing.hasEnded invFirst aborted)
  rw [decide_eq_false aborted]
  refine Machine.safe_call (steady_preparing params.taskId).stable preparing ?_
  intro before choice answer after inv preparing ran
  cases (executed_of_perform (perform_harmlessServer ran).2 nofun).1
  have invAfter := inv.setTimeout preparing.2
  refine ⟨.setTimeout before thread, invAfter, ?_⟩
  have executing : Executing thread params.taskId
      { before.recordFact thread .deadlineSet with armed := thread :: before.armed } :=
    ⟨did_recordFact.mpr (Or.inl preparing.1), List.mem_cons_self⟩
  change SafeWork options thread _ (Program.tryFinally _ _ >>= _) _
  refine Machine.safe_bind invAfter (Machine.safe_tryFinally invAfter
    (fun outcome => (steady_ends (steady_fetched params.taskId) outcome).stable)
    (safe_exchange _ executing) fun outcome last _ holds => safe_clearTimeout holds) ?_ ?_
  · intro fetched last invLast holds
    cases fetched with
    | none => exact Machine.safe_pure steady_finished.stable holds
    | some exchanged => exact safe_completeExecution invLast holds
  · exact fun _ _ _ thrown => thrown

end Execution

section Worker

variable {params : RunTaskParams} {state : TaskServerState}

theorem safe_runClaimedTask (preparing : Preparing thread params.taskId state) :
    SafeWorker options thread params (runClaimedTask options params) state := by
  refine Machine.safe_call (steady_preparing params.taskId).stable preparing ?_
  intro before choice answer after inv preparing ran
  cases (executed_of_perform (perform_harmlessServer ran).2 nofun).1
  have guarantee : WorkGuarantee thread before
      { before with controllers := before.controllers.set params.taskId thread } :=
    ⟨le_rfl, id, fun did _ => did, fun _ => Iff.rfl, id⟩
  refine ⟨guarantee, inv.registerController preparing.1, ?_⟩
  refine safe_unlessStopped preparing fun first invFirst preparing => ?_
  refine safe_recheckGrant preparing (fun second _ preparing => ?_) invFirst
  refine safe_recheckPolicy preparing fun third invThird preparing => ?_
  refine safe_recheckRelease preparing (fun fourth invFourth preparing => ?_) invThird
  refine safe_recheckBinding preparing (fun fifth _ preparing => ?_) invFourth
  exact safe_unlessStopped preparing fun last _ preparing => safe_callExecutor preparing

theorem keeps_claimPendingTask {choice : ServerChoice} {taskId faults : Nat}
    (inv : state.WorkInv) (idle : state.IsIdle thread) (fewer : faults ≤ state.faults)
    {answer : Except ServerError (Option CloudTask)} {after : TaskServerState}
    (executed : execute thread choice { state with faults } (.claimPendingTask taskId) =
      (answer, after)) : WorkGuarantee thread state after ∧ after.WorkInv ∧
      ((∃ task, answer = .ok (some task) ∧ Preparing thread taskId after) ∨
        (answer = .ok none ∧ after.IsIdle thread)) := by
  rcases claimed : state.tables.claimPendingTask choice.now taskId with ⟨result, tables⟩
  simp only [execute, claimed] at executed
  cases result with
  | none =>
    rcases TaskTables.claimPendingTask_cases claimed with ⟨-, rfl⟩ | ⟨_, _, _, bad, _⟩
    · cases executed
      have same : SameWork thread state { state with faults } :=
        .of_spent thread state state.skills faults fewer
      exact ⟨same.guarantee, same.workInv inv, Or.inr ⟨rfl, idle⟩⟩
    · cases bad
  | some task =>
    cases executed
    obtain ⟨invAfter, guarantee⟩ := inv.claim idle fewer claimed
    refine ⟨guarantee, invAfter, Or.inl ⟨task, rfl, ?_, fun deadline => ?_⟩⟩
    · exact did_recordFact.mpr (Or.inr ⟨rfl, rfl⟩)
    · rcases did_recordFact.mp deadline with old | ⟨-, bad⟩
      · exact idle _ old
      · cases bad

theorem safe_runTaskBody (idle : state.IsIdle thread) :
    SafeWorker options thread params (runTaskBody options params) state := by
  refine Machine.safe_call stable_isIdle idle ?_
  intro before choice answer after inv idle ran
  obtain ⟨-, plain⟩ := perform_harmlessServer ran
  have throws {last : TaskServerState} (only : OnlyClaims thread params.taskId last) :
      SafeWorker options thread params (.throw .storeUnavailable) last :=
    Machine.safe_throw (steady_thrown params.taskId _).stable ⟨only, fun abort => by cases abort⟩
  rcases perform_cases plain with
    ⟨-, -, -, rfl, rfl⟩ | ⟨-, -, rfl, rfl⟩ | ⟨executed, -⟩
  · have same : SameWork thread before { before with faults := before.faults - 1 } :=
      .of_spent thread before before.skills _ (Nat.sub_le _ _)
    exact ⟨same.guarantee, same.workInv inv, throws fun _ did => absurd did (idle _)⟩
  · obtain ⟨guarantee, invAfter, ⟨_, _, preparing⟩ | ⟨_, idle⟩⟩ :=
      keeps_claimPendingTask inv idle (Nat.sub_le before.faults 1) rfl
    · exact ⟨guarantee, invAfter, throws (.of_did invAfter preparing.1)⟩
    · exact ⟨guarantee, invAfter, throws fun _ did => absurd did (idle _)⟩
  · obtain ⟨guarantee, invAfter, ⟨task, rfl, preparing⟩ | ⟨rfl, idle⟩⟩ :=
      keeps_claimPendingTask inv idle le_rfl executed
    · exact ⟨guarantee, invAfter, safe_runClaimedTask preparing⟩
    · exact ⟨guarantee, invAfter, safe_releaseReservation params steady_finished
        fun _ did => absurd did (idle _)⟩

theorem safe_runTask (inv : state.WorkInv) (idle : state.IsIdle thread) :
    SafeWork options thread (fun _ => Finished thread) (runTask options params) state := by
  refine Machine.safe_tryFinally inv (fun _ => steady_finished.stable)
    (?_ : SafeWork options thread (fun _ => Finished thread) _ state) ?_
  · refine Machine.safe_tryCatch inv (safe_runTaskBody idle) ?_ fun _ _ _ finished => finished
    intro error last _ ⟨only, abort⟩
    unfold recoverTask
    split
    · next isAbort =>
      have cause := abort (by simpa [ServerError.isAbortError] using isAbort)
      exact safe_tryFailAndRelease rfl only (fun _ => cause) (Or.inr (by decide))
        steady_finished fun _ => id
    · exact safe_tryFailAndRelease rfl only (fun bad => by cases bad)
        (Or.inr (by decide)) steady_finished fun _ => id
  · intro _ last _ finished
    refine safe_quiet rfl steady_finished finished ?_
    intro _ _ answer _ _ _ _ _ finished
    cases answer with
    | ok done => exact Machine.safe_pure steady_finished.stable finished
    | error error => exact Machine.safe_throw steady_finished.stable finished

end Worker

section Cancel

def NoClaims (thread : Nat) (state : TaskServerState) : Prop :=
  ∀ taskId, ¬ state.Did thread (.claimed taskId)

theorem steady_noClaims : Steady thread (NoClaims thread) :=
  fun _ _ undisturbed none taskId did => none taskId (undisturbed.noClaim did)

/-- The postcondition of a cancel request. -/
abbrev Claimless (thread : Nat) {α : Type} (_outcome : Except ServerError α) :
    TaskServerState → Prop :=
  NoClaims thread

variable {state : TaskServerState}

theorem claimless_bind {β : Type} {program : ServerProgram β} {next : β → ServerProgram α}
    (inv : state.WorkInv) (safe : SafeWork options thread (Claimless thread) program state)
    (continues : ∀ value after, after.WorkInv → NoClaims thread after →
      SafeWork options thread (Claimless thread) (next value) after) :
    SafeWork options thread (Claimless thread) (program >>= next) state :=
  Machine.safe_bind inv safe continues fun _ _ _ holds => holds

variable (holds : NoClaims thread state)
include holds

theorem safe_claimless {request : ServerCall} (quiet : isQuiet request = true)
    {next : Except ServerError request.Answer → ServerProgram α}
    (continues : ∀ answer after, after.WorkInv → NoClaims thread after →
      SafeWork options thread (Claimless thread) (next answer) after) :
    SafeWork options thread (Claimless thread) (.call request next) state :=
  safe_quiet quiet steady_noClaims holds fun _ _ answer after _ _ _ inv holds =>
    continues answer after inv holds

theorem claimless_pure {value : α} :
    SafeWork options thread (Claimless thread) (.pure value) state :=
  Machine.safe_pure steady_noClaims.stable holds

theorem claimless_throw {error : ServerError} :
    SafeWork options thread (Claimless thread) (.throw error : ServerProgram α) state :=
  Machine.safe_throw steady_noClaims.stable holds

theorem claimless_respond {response : ServerResponse} :
    SafeWork options thread (Claimless thread) (query (.respond response)) state := by
  refine safe_claimless holds rfl fun answer after _ holds => ?_
  cases answer with
  | ok done => exact claimless_pure holds
  | error error => exact claimless_throw holds

variable {request : CancelTaskRequest}

theorem claimless_abortAndRelease :
    SafeWork options thread (Claimless thread) (abortAndRelease request) state := by
  refine Machine.safe_call steady_noClaims.stable holds ?_
  intro before choice answer after inv holds ran
  obtain ⟨harmless, plain⟩ := perform_harmlessServer ran
  cases (executed_of_perform plain nofun).1
  have holdsAfter : NoClaims thread (before.abort request.taskId) := by
    intro taskId did
    unfold TaskServerState.abort at did
    split at did <;> exact holds taskId did
  refine ⟨.abort thread request.taskId, inv.abort (mayAbort_of_isHarmless inv harmless), ?_⟩
  exact safe_claimless holdsAfter rfl fun _ _ _ holds => claimless_pure holds

theorem claimless_recover {request : CancelTaskRequest} {error : ServerError}
    (inv : state.WorkInv) :
    SafeWork options thread (Claimless thread) (do
      abortAndRelease request
      let current ← getTaskOrNone request.taskId
      if current.any fun task => task.status == .cancelled then abortAndRelease request
      else .throw error) state := by
  refine claimless_bind inv (claimless_abortAndRelease holds) fun _ first invFirst holds => ?_
  refine claimless_bind invFirst ?_ fun current last _ holds => ?_
  · refine safe_claimless holds rfl fun answer _ _ holds => ?_
    cases answer with
    | ok task => exact claimless_pure holds
    | error error => exact claimless_pure holds
  · split
    · exact claimless_abortAndRelease holds
    · exact claimless_throw holds

theorem claimless_cancelOpenTask :
    SafeWork options thread (Claimless thread) (cancelOpenTask request) state := by
  refine Machine.safe_call steady_noClaims.stable holds ?_
  intro before choice answer after inv holds ran
  obtain ⟨-, plain⟩ := perform_harmlessServer ran
  have fromOpen : ∀ expected ∈ [CloudTaskStatus.pending, .running],
      expected.isTerminal = false := by
    decide
  have moves {faults : Nat} (fewer : faults ≤ before.faults)
      {result : Option CloudTask} {tables : TaskTables}
      (moved : before.tables.transitionIfStatus choice.now request.taskId
        [.pending, .running] .cancelled {} = (result, tables)) :
      ({ before with tables, faults } : TaskServerState).WorkInv :=
    inv.transition moved fromOpen rfl (fun timedOut => by cases timedOut) fewer
  rcases perform_cases plain with
    ⟨-, -, -, rfl, rfl⟩ | ⟨-, -, rfl, rfl⟩ | ⟨executed, -⟩
  · have same : SameWork thread before { before with faults := before.faults - 1 } :=
      .of_spent thread before before.skills _ (Nat.sub_le _ _)
    have invAfter := same.workInv inv
    exact ⟨same.guarantee, invAfter, claimless_recover (by exact holds) invAfter⟩
  · have invAfter := moves (Nat.sub_le before.faults 1) rfl
    exact ⟨.transition rfl fromOpen (Nat.sub_le _ _), invAfter,
      claimless_recover (by exact holds) invAfter⟩
  · cases executed
    refine ⟨.transition rfl fromOpen le_rfl, moves le_rfl rfl, ?_⟩
    cases (before.tables.transitionIfStatus choice.now request.taskId
      [.pending, .running] .cancelled {}).1 with
    | some task => exact claimless_abortAndRelease (by exact holds)
    | none => exact claimless_pure (by exact holds)

theorem claimless_cancelTask :
    SafeWork options thread (Claimless thread) (cancelTask request) state := by
  refine safe_claimless holds rfl fun answer after inv holds => ?_
  have reads {last : TaskServerState} (holds : NoClaims thread last) :
      SafeWork options thread (Claimless thread) (do
        let current : Option CloudTask ← query (.getTask request.taskId)
        sendTask 202 current) last := by
    refine safe_claimless holds rfl fun answer _ _ holds => ?_
    cases answer with
    | ok current => exact claimless_respond holds
    | error error => exact claimless_throw holds
  cases answer with
  | error error => exact claimless_throw holds
  | ok task =>
    cases task with
    | none => exact claimless_respond holds
    | some task =>
      change SafeWork options thread _ (if (!taskBelongsToDevice task request.device
        request.agentId) = true then _ else _) after
      split
      · exact claimless_respond holds
      · split
        · exact claimless_bind inv (claimless_cancelOpenTask holds) fun _ _ _ holds => reads holds
        · exact reads holds

end Cancel

end LongHub
