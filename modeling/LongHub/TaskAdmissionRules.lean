import LongHub.RelyGuarantee
import LongHub.WorkerCalls

/-!
# Rules for the admission of tasks

Requests to start and to cancel tasks run over the in-memory store. Every ordinary call keeps the
invariant of admission.
-/

namespace LongHub

open Or TaskServer TaskServerState

inductive AdmissionRequest where
  | post (request : PostTaskRequest)
  | cancel (request : CancelTaskRequest)

/-- The task routes over one store. -/
def admissionServer (options : TaskServerOptions) :
    Machine TaskServerState ServerCall ServerCall.Answer ServerError ServerChoice
      AdmissionRequest ServerEnvironment :=
  taskServer fun
    | .post request => postTask options request
    | .cancel request => cancelTask request

def IsProduction (options : TaskServerOptions) : Prop := options.allowDevelopmentTasks = false

def AdmissionState (options : TaskServerOptions) (state : TaskServerState) : Prop :=
  state.faults = 0 ∧ AdmissionInv (IsProduction options) state.tables state.skills state.history

/-- What a step of a thread may change. -/
structure AdmissionGuarantee (thread : Nat) (before after : TaskServerState) : Prop where
  grows : TaskTables.Grows before.tables after.tables
  history : ∃ new, after.history = before.history ++ new ∧ ∀ entry ∈ new, entry.1 = thread

@[grind =]
def isPlainFact : ServerFact → Bool
  | .reserved _ | .deadlineSet | .timedOut => true
  | .refused code => !limitCodes.contains code
  | _ => false

structure Calm (thread : Nat) (before after : TaskServerState) : Prop where
  grows : TaskTables.Grows before.tables after.tables
  remembers : ∀ {other fact}, before.Did other fact → after.Did other fact
  newFacts : ∀ {fact}, after.Did thread fact → before.Did thread fact ∨ isPlainFact fact = true

variable {options : TaskServerOptions} {thread : Nat} {α : Type}

theorem mayRecord_of_isPlainFact {production : Prop} {tables : TaskTables}
    {history : ServerHistory} {fact : ServerFact} (plain : isPlainFact fact = true) :
    AdmissionInv.MayRecord production tables history thread fact := by
  cases fact with
  | reserved => trivial
  | deadlineSet => trivial
  | timedOut => trivial
  | refused code =>
    intro limit
    have noLimit : code ∉ limitCodes := by simpa [isPlainFact] using plain
    exact absurd limit noLimit
  | _ => cases plain

variable {before after : TaskServerState}

theorem keeps_of_plain (after : TaskServerState) (state : AdmissionState options before)
    (faults : after.faults = before.faults) (grows : TaskTables.Grows before.tables after.tables)
    (numbered : after.tables.RowsNumbered) (indexed : after.skills.ReservationsIndexed)
    (history : after.history = before.history ∨ ∃ fact, isPlainFact fact = true ∧
      after.history = before.history ++ [(thread, fact)]) :
    AdmissionGuarantee thread before after ∧ Calm thread before after ∧
      AdmissionState options after := by
  obtain ⟨noFaults, inv⟩ := state
  have changed := (inv.setTables grows numbered).setSkills indexed
  rcases history with same | ⟨fact, plain, recorded⟩
  · refine ⟨⟨grows, [], by simp [same], by simp⟩, ⟨grows, ?_, ?_⟩, faults.trans noFaults, ?_⟩
    · exact fun did => by simpa [Did, same] using did
    · exact fun did => inl (by simpa [Did, same] using did)
    · rw [same]
      exact changed
  · refine ⟨⟨grows, [(thread, fact)], recorded, by simp⟩, ⟨grows, ?_, ?_⟩,
      faults.trans noFaults, ?_⟩
    · exact fun did => by simpa [Did, recorded] using inl did
    · intro known did
      have split : (thread, known) ∈ before.history ∨ known = fact := by
        simpa [Did, recorded] using did
      exact split.imp_right fun same => by rw [same]; exact plain
    · rw [recorded]
      exact changed.recordFact (mayRecord_of_isPlainFact plain)

theorem keeps_ordinary {request : ServerCall} {choice : ServerChoice}
    {answer : Except ServerError request.Answer} (ordinary : isOrdinary request = true)
    (state : AdmissionState options before)
    (executed : execute thread choice before request = (answer, after)) :
    AdmissionGuarantee thread before after ∧ Calm thread before after ∧
      AdmissionState options after := by
  have numbered := state.2.numbered
  have indexed := state.2.indexed
  cases request with
  | findTaskByIdempotency => cases ordinary
  | createTask => cases ordinary
  | admitPendingTaskInput => cases ordinary
  | claimPendingTask => cases ordinary
  | fetchExecutor => cases ordinary
  | discardPendingTask taskId placeholder =>
    cases executed
    exact keeps_of_plain _ state rfl (.discardPendingTask rfl)
      (numbered.discardPendingTask rfl) indexed (inl rfl)
  | transitionIfStatus taskId expectedStatuses status patch =>
    cases executed
    have started : status ≠ .pending := by simpa [isOrdinary] using ordinary
    obtain ⟨grows, numberedAfter⟩ := TaskTables.Grows.transitionIfStatus numbered started rfl
    exact keeps_of_plain _ state rfl grows numberedAfter indexed (inl rfl)
  | reserveCloudSkillExecution params =>
    cases executed
    have indexedAfter := indexed.reserveCloudSkillExecution choice.now params
    split
    · exact keeps_of_plain _ state rfl (.refl _) numbered indexedAfter (inr ⟨_, rfl, rfl⟩)
    · exact keeps_of_plain _ state rfl (.refl _) numbered indexedAfter (inl rfl)
  | releaseCloudSkillExecution params =>
    cases executed
    exact keeps_of_plain _ state rfl (.refl _) numbered
      (indexed.releaseCloudSkillExecution choice.now params) (inl rfl)
  | abortController taskId =>
    cases executed
    unfold TaskServerState.abort
    split <;> exact keeps_of_plain _ state rfl (.refl _) numbered indexed (inl rfl)
  | setTimeout =>
    cases executed
    exact keeps_of_plain _ state rfl (.refl _) numbered indexed (inr ⟨.deadlineSet, rfl, rfl⟩)
  | readExecutorResponse =>
    simp only [execute] at executed
    split at executed <;> cases executed <;>
      exact keeps_of_plain _ state rfl (.refl _) numbered indexed (inl rfl)
  | respond response =>
    cases response with
    | problem problem =>
      cases executed
      exact keeps_of_plain _ state rfl (.refl _) numbered indexed
        (inr ⟨.refused problem.code, ordinary, rfl⟩)
    | task =>
      cases executed
      exact keeps_of_plain _ state rfl (.refl _) numbered indexed (inl rfl)
  | _ =>
    cases executed
    exact keeps_of_plain _ state rfl (.refl _) numbered indexed (inl rfl)

theorem perform_admission {request : ServerCall} {choice : ServerChoice}
    {answer : Except ServerError request.Answer} (state : AdmissionState options before)
    (ran : (admissionServer options).perform thread request choice before =
      some (answer, after)) : execute thread choice before request = (answer, after) := by
  rcases perform_cases ran with ⟨positive, -⟩ | ⟨positive, -⟩ | ⟨executed, -⟩
  · rw [state.1] at positive
    cases positive
  · rw [state.1] at positive
    cases positive
  · exact executed

theorem Calm.of_rely
    (rely : (admissionServer options).Rely AdmissionGuarantee thread before after) :
    Calm thread before after := by
  rcases rely with ⟨other, differ, ⟨grows, new, recorded, isOther⟩⟩ | ⟨event, changed⟩
  · refine ⟨grows, fun did => by simpa [Did, recorded] using inl did, fun did => ?_⟩
    rw [Did, recorded] at did
    refine inl ((List.mem_append.mp did).resolve_right fun isNew => ?_)
    exact differ (isOther _ isNew).symm
  · cases event with
    | commerce plans subscriptions subscriptionsByOrder entitlements =>
      cases changed
      exact ⟨.refl _, id, inl⟩
    | timer worker =>
      change (if worker ∈ before.armed then some _ else none) = some after at changed
      split at changed
      · cases changed
        refine ⟨.refl _, fun did => did_recordFact.mpr (inl did), fun did => ?_⟩
        exact (did_recordFact.mp did).imp_right fun isTimer => by rw [isTimer.2]; rfl
      · cases changed

/-- An assertion that calm steps keep. -/
def Lasting (thread : Nat) (assertion : TaskServerState → Prop) : Prop :=
  ∀ before after, Calm thread before after → assertion before → assertion after

theorem Lasting.stable {assertion : TaskServerState → Prop} (lasting : Lasting thread assertion) :
    (admissionServer options).Stable (AdmissionState options) AdmissionGuarantee thread assertion :=
  fun before after _ _ rely holds => lasting before after (.of_rely rely) holds

theorem Lasting.and {first second : TaskServerState → Prop} (firstLasting : Lasting thread first)
    (secondLasting : Lasting thread second) :
    Lasting thread fun state => first state ∧ second state :=
  fun before after calm holds =>
    ⟨firstLasting before after calm holds.1, secondLasting before after calm holds.2⟩

theorem lasting_const (claim : Prop) : Lasting thread fun _ => claim :=
  fun _ _ _ holds => holds

theorem lasting_isReserved (taskId : Nat) :
    Lasting thread fun state => IsReserved state.history taskId :=
  fun _ _ calm reserved => reserved.imp fun _ did => calm.remembers did

def Story (thread : Nat) (listed : ServerFact → Prop) (state : TaskServerState) : Prop :=
  ∀ fact, state.Did thread fact → listed fact ∨ isPlainFact fact = true

theorem lasting_story (listed : ServerFact → Prop) : Lasting thread (Story thread listed) :=
  fun _ _ calm story fact did => (calm.newFacts did).elim (story fact) inr

theorem Story.mono {listed more : ServerFact → Prop} {state : TaskServerState}
    (story : Story thread listed state) (weaker : ∀ fact, listed fact → more fact) :
    Story thread more state :=
  fun fact did => (story fact did).imp_left (weaker fact)

/-- What a thread may have done before it claims its task. -/
def isAdmissionFact (key : String) (taskId : Nat) (fact : ServerFact) : Prop :=
  fact = .sought key ∨ fact = .created taskId ∨ ∃ input, fact = .admitted taskId input

/-- What a request knows about the task it works on. -/
structure Admitting (thread : Nat) (key : String) (taskId : Nat)
    (placeholder : CloudTaskAdmissionPlaceholder) (state : TaskServerState) : Prop where
  story : Story thread (isAdmissionFact key taskId) state
  numbered : taskId ≤ state.tables.taskSeq
  bound : state.tables.IsBoundTo key taskId
  mine : state.Did thread (.created taskId) → ∀ task,
    state.tables.getTask taskId = some task → task.isStaged = true →
      isCloudTaskAdmissionPlaceholder task.input (some placeholder) = true

theorem lasting_admitting (key : String) (taskId : Nat)
    (placeholder : CloudTaskAdmissionPlaceholder) :
    Lasting thread (Admitting thread key taskId placeholder) := by
  intro before after calm admitting
  refine ⟨lasting_story _ before after calm admitting.story, admitting.numbered.trans
    calm.grows.seq, calm.grows.bound admitting.numbered admitting.bound, ?_⟩
  intro created task stored staged
  have createdBefore : before.Did thread (.created taskId) :=
    (calm.newFacts created).resolve_right (by simp [isPlainFact])
  obtain ⟨old, oldStored, oldStaged, input⟩ := calm.grows.staged admitting.numbered stored staged
  rw [← input]
  exact admitting.mine createdBefore old oldStored oldStaged

/-- The worker has claimed its task and not yet called the Executor. -/
def Working (thread taskId : Nat) (state : TaskServerState) : Prop :=
  state.Did thread (.claimed taskId) ∧ ∀ other, ¬ state.Did thread (.executed other)

theorem lasting_working (taskId : Nat) : Lasting thread (Working thread taskId) := by
  intro before after calm working
  refine ⟨calm.remembers working.1, fun other did => ?_⟩
  exact working.2 other ((calm.newFacts did).resolve_right (by simp [isPlainFact]))

end LongHub
