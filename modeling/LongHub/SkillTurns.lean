import LongHub.SkillTransactions

/-!
# The requests of Skills take turns

Whatever the order of the requests and the failures of their steps are, every request ends as
its transaction should: the queue lets one of them change the stores at a time.
-/

namespace LongHub

open List Machine Option Program.Calls

namespace SkillTransaction

open SkillLifecycleCoordinator

def Waiting (thread : Nat) (system : SkillSystem) : Prop :=
  system.queue.head? = some thread → system.began = none

/-- Only the first request changes the stores, and no request disturbs one that waits. -/
def InTurn (thread : Nat) (before after : SkillSystem) : Prop :=
  OnlyFirst thread before after ∧
    ∀ other, other ≠ thread → Waiting other before → Waiting other after

structure KeptInTurn (setup : SkillSetup) (kept : SkillSystem → Prop) : Prop where
  idle : ∀ system, kept system → system.queue = [] → system.began = none
  enqueue : ∀ system thread, kept system → kept { system with queue := system.queue ++ [thread] }
  acquire : ∀ system thread, kept system → system.queue.head? = some thread →
    system.began = none → kept { system with began := some system.toSkillStores }
  inside : ∀ system began stores, kept system → system.began = some began →
    kept { system with toSkillStores := stores }
  leave : ∀ system began outcome, kept system → system.began = some began →
    Ended setup began outcome system.toSkillStores → kept { system with
        queue := system.queue.tail
        began := none
        finished := system.finished ++ [⟨began, outcome, system.toSkillStores⟩] }

section Turns

variable {setup : SkillSetup} {thread : Nat} {system : SkillSystem}
variable {condition : SkillChoice → SkillStores → SkillStep → Bool} {kept : SkillSystem → Prop}

variable {Inv : SkillSystem → Prop} {began : SkillStores}

theorem stable_first_inTurn {facts : SkillStores → Prop} :
    (guardedSkills condition setup).Stable Inv InTurn thread (First thread began facts) := by
  rintro before after invBefore invAfter (⟨another, differ, guarantee⟩ | ⟨event, _⟩) first
  · have rely : (guardedSkills condition setup).Rely OnlyFirst thread before after :=
      .inl ⟨another, differ, guarantee.1⟩
    exact stable_first before after invBefore invAfter rely first
  · exact nomatch event

theorem stable_waiting :
    (guardedSkills condition setup).Stable Inv InTurn thread (Waiting thread) := by
  rintro before after - - (⟨another, differ, guarantee⟩ | ⟨event, _⟩) waiting
  · exact guarantee.2 thread differ.symm waiting
  · exact nomatch event

def IsInside (request : SkillCall) : Prop := ∃ step, request = .inside step

theorem calls_ask (step : SkillStep) : (ask step).Calls IsInside :=
  Program.calls_perform ⟨step, rfl⟩

theorem calls_verifyInstallInput (manifest : SkillPackage) :
    (verifyInstallInput manifest).Calls IsInside := by
  refine bind (calls_ask _) fun _ => bind (calls_ask _) fun entitled =>
    ?_
  split
  · trivial
  · trivial

theorem calls_compensate (snapshot : SkillRegistrySnapshot) (previousCore : List CoreSkillGrant)
    (previousGateway : List GatewaySkillView) (coreAttempted gatewayAttempted : Bool)
    (error : SkillError) :
    (compensate snapshot previousCore previousGateway coreAttempted gatewayAttempted
      error).Calls IsInside := by
  refine bind (tryCatch ?_ fun _ => trivial) fun _ => trivial
  cases coreAttempted <;> cases gatewayAttempted
  · exact calls_ask _
  · exact bind (calls_ask _) fun _ => calls_ask _
  · exact bind (calls_ask _) fun _ => calls_ask _
  · exact bind (calls_ask _) fun _ =>
      bind (calls_ask _) fun _ => calls_ask _

theorem calls_transact (mutation : SkillMutation) : (transact mutation).Calls IsInside := by
  refine bind (calls_ask _) fun snapshot => ?_
  refine bind (calls_ask _) fun previousCore => ?_
  refine bind (calls_ask _) fun previousGateway => ?_
  refine bind (calls_ask _).attempt fun mutated => ?_
  cases mutated with
  | error error => exact calls_compensate _ _ _ _ _ _
  | ok desired =>
    refine bind (attempt ?_) fun replaced => ?_
    · split
      · exact calls_ask _
      · trivial
    cases replaced with
    | error error => exact calls_compensate _ _ _ _ _ _
    | ok done =>
      refine bind (attempt ?_) fun shown => ?_
      · split
        · exact calls_ask _
        · trivial
      cases shown with
      | error error => exact calls_compensate _ _ _ _ _ _
      | ok done => trivial

theorem calls_operation (setup : SkillSetup) (request : SkillRequest) :
    (operation setup request).Calls IsInside := by
  have verified (manifest : SkillPackage) (mutation : SkillMutation) : (do
        verifyInstallInput manifest
        transact mutation).Calls IsInside :=
    bind (calls_verifyInstallInput manifest) fun _ => calls_transact mutation
  cases request with
  | install package profileId agentId enabled =>
    exact bind (Program.calls_ofExcept _) fun resolved => verified _ _
  | setEnabled skillId agentId enabled =>
    cases enabled with
    | false => exact calls_transact _
    | true =>
      refine bind (calls_ask _) fun manifest => ?_
      cases manifest with
      | none => trivial
      | some manifest => exact verified _ _
  | upgrade package =>
    exact bind (Program.calls_ofExcept _) fun resolved => verified _ _
  | rollback skillId =>
    refine bind (calls_ask _) fun entry => ?_
    split
    · trivial
    · exact verified _ _
  | uninstall skillId => exact calls_transact _
  | revoke skillId => exact calls_transact _

theorem safe_inTurn {α : Type} {program : SkillProgram α}
    {post : Except SkillError α → SkillSystem → Prop} (keeps : KeptInTurn setup kept)
    (calls : program.Calls IsInside) (first : First thread began (fun _ => True) system)
    (safe : SafeRequest condition setup thread post program system) :
    (guardedSkills condition setup).Safe (fun now => SkillInv setup now ∧ kept now) InTurn thread
      post program system := by
  refine safe.strengthen (fun _ _ _ guarantee => guarantee.1) calls stable_first first ?_
  rintro _ ⟨step, rfl⟩ before choice answer after ⟨head, found, -⟩ isKept onlyFirst ran
  simp only [guardedSkills, restrict] at ran
  split_ifs at ran
  obtain ⟨rfl, rfl⟩ := Prod.mk.inj (Option.some.inj ran)
  exact ⟨⟨onlyFirst, fun _ _ waiting => waiting⟩, ⟨head, found, trivial⟩,
    keeps.inside before began _ isKept found⟩

theorem skillInv_finished {outcome : Except SkillError Unit} (inv : SkillInv setup system)
    (ended : Ended setup began outcome system.toSkillStores) :
    SkillInv setup { system with
      queue := system.queue.tail
      began := none
      finished := system.finished ++ [⟨began, outcome, system.toSkillStores⟩] } := by
  refine ⟨inv.inOrder, fun finished mem => ?_⟩
  rcases mem_append.mp mem with earlier | latest
  · exact inv.ended finished earlier
  · rw [mem_singleton] at latest
    rw [latest]
    exact ended

theorem safe_request (keeps : KeptInTurn setup kept) (request : SkillRequest)
    (waiting : Waiting thread system) :
    (guardedSkills beginsSafely setup).Safe (fun now => SkillInv setup now ∧ kept now) InTurn
      thread (fun _ _ => True) (exclusive (operation setup request)) system := by
  apply safe_perform_bind stable_waiting waiting
  case throws =>
    intro before choice error after _ _ ran
    cases ran
  intro before choice answer after invBefore waitingBefore ran
  cases ran
  have waitingAfter : ∀ other, Waiting other before →
      Waiting other { before with queue := before.queue ++ [thread] } := by
    intro other waitingOther head
    change (before.queue ++ [thread]).head? = some other at head
    cases queue : before.queue with
    | nil => exact keeps.idle before invBefore.2 queue
    | cons first rest =>
      rw [queue] at head
      exact waitingOther (by rw [queue]; exact head)
  refine ⟨⟨?_, fun other _ => waitingAfter other⟩,
    ⟨⟨invBefore.1.inOrder, invBefore.1.ended⟩, keeps.enqueue before thread invBefore.2⟩, ?_⟩
  · intro _
    refine ⟨rfl, rfl, fun first head => ?_⟩
    change (before.queue ++ [thread]).head? = some first
    rw [head?_append, head, some_or]
  apply safe_perform_bind stable_waiting (waitingAfter thread waitingBefore)
  case throws =>
    intro before choice error after _ _ ran
    simp only [guardedSkills, restrict, if_true, skillMachine, SkillSystem.perform] at ran
    split_ifs at ran
    cases ran
  intro before choice answer after invBefore waitingBefore ran
  simp only [guardedSkills, restrict, if_true, skillMachine, SkillSystem.perform] at ran
  split_ifs at ran with head
  cases ran
  have first : First thread before.toSkillStores (· = before.toSkillStores)
      { before with began := some before.toSkillStores } := ⟨head, rfl, rfl⟩
  have invFirst : SkillInv setup { before with began := some before.toSkillStores } :=
    ⟨invBefore.1.inOrder, invBefore.1.ended⟩
  have keptFirst := keeps.acquire before thread invBefore.2 head (waitingBefore head)
  refine ⟨⟨fun notFirst => absurd head notFirst, fun other differ _ same => ?_⟩,
    ⟨invFirst, keptFirst⟩, ?_⟩
  · exact absurd (Option.some.inj (head.symm.trans same)) differ.symm
  have safe := safe_inTurn keeps (calls_operation setup request) (first.mono fun _ _ => trivial)
    (safe_operation request invFirst first)
  apply safe_bind ⟨invFirst, keptFirst⟩ (safe_attempt safe)
  · rintro outcome now invNow ⟨result, equal, ends⟩
    cases equal
    apply safe_perform_bind stable_first_inTurn ends
    case throws =>
      intro before choice error after _ _ ran
      cases ran
    rintro last choice answer after invLast ⟨head, found, ended⟩ ran
    cases ran
    rw [found]
    refine ⟨⟨fun notFirst => absurd head notFirst, fun _ _ _ _ => rfl⟩,
      ⟨skillInv_finished invLast.1 ended, keeps.leave last _ outcome invLast.2 found ended⟩, ?_⟩
    cases outcome with
    | ok value => exact safe_pure (Machine.Stable.const True) trivial
    | error error => exact safe_throw (Machine.Stable.const True) trivial
  · exact fun _ _ _ _ => trivial

theorem kept_of_reachable (keeps : KeptInTurn setup kept) {stores : SkillStores}
    (inOrder : stores.registry.InOrder) (starts : kept (.ofStores stores))
    {pool : Pool SkillSystem SkillCall SkillCall.Answer SkillError}
    (reachable : (guardedSkills beginsSafely setup).Reachable
      (fun system => system = .ofStores stores) pool) :
    SkillInv setup pool.shared ∧ kept pool.shared := by
  have safe := safe_of_reachable (fun now => SkillInv setup now ∧ kept now) InTurn
    Waiting (fun _ _ _ => True)
    (by
      rintro system rfl
      refine ⟨⟨⟨inOrder, fun request mem => ?_⟩, starts⟩, fun _ _ => rfl⟩
      cases mem)
    (fun _ => stable_waiting)
    (fun event => nomatch event)
    (fun request _ _ _ waiting => safe_request keeps request waiting)
    reachable
  exact safe.1

theorem keptInTurn_idle (setup : SkillSetup) :
    KeptInTurn setup fun system => system.queue = [] → system.began = none where
  idle _ isKept := isKept
  enqueue _ _ _ empty := by simp at empty
  acquire _ _ _ head _ empty := by
    change _ = [] at empty
    rw [empty] at head
    cases head
  inside _ _ _ isKept _ := isKept
  leave _ _ _ _ _ _ _ := rfl

end Turns

/-- If the compensation succeeds and no transaction begins with an unsafe revision, every
request succeeds everywhere or fails without a trace. -/
theorem skillTransactionsHold (setup : SkillSetup) (stores : SkillStores)
    (inOrder : stores.registry.InOrder)
    (pool : Pool SkillSystem SkillCall SkillCall.Answer SkillError)
    (reachable : (guardedSkills beginsSafely setup).Reachable
      (fun system => system = .ofStores stores) pool)
    (request : FinishedRequest) (mem : request ∈ pool.shared.finished) :
    Ended setup request.before request.outcome request.after :=
  (kept_of_reachable (keptInTurn_idle setup) inOrder (fun _ => rfl) reachable).1.ended request
    mem

section Example

def screenSkill : SkillPackage where
  id := "longhub.skill.resume-screen"
  version := "1.0.0"
  publisherNamespace := "longhub"
  displayName := "Resume screen"
  allowedAgentProfileIds := ["longhub.agent.hr"]
  defaultEnabled := false
  requestedPermissions := ["connector:hr-api:read"]
  runtime := .builtin "longhub.worker.resume-screen"
  maxCostMicros := 0
  digest := "d1"

def lastRegistry : SkillRegistry where
  revision := 2 ^ 53 - 1
  skills := [⟨"longhub.skill.resume-screen", "longhub", "1.0.0", none, false,
    [⟨screenSkill, "2026-01-01T00:00:00.000Z"⟩], "2026-01-01T00:00:00.000Z"⟩]
  bindings := [⟨"longhub.skill.resume-screen", "longhub.agent.hr", "hr", false,
    "2026-01-01T00:00:00.000Z", "2026-01-01T00:00:00.000Z"⟩]
  valid := by decide

def lastStores : SkillStores := ⟨lastRegistry, [], []⟩

/-- A step that succeeds. -/
def done : SkillChoice := ⟨none, false, true, "2026-01-02T00:00:00.000Z", none,
  "2026-01-02T00:00:00.000Z", none⟩

/-- A step that throws. -/
def fails : SkillChoice := { done with failure := some (.plain "gateway write failed") }

/-- The Skill is enabled; then it is disabled, which the Gateway refuses. -/
def lastActions : List (PoolAction SkillChoice SkillRequest Empty) :=
  .start 0 (.setEnabled "longhub.skill.resume-screen" "hr" true) ::
    replicate 12 (.perform 0 done) ++
    .start 1 (.setEnabled "longhub.skill.resume-screen" "hr" false) ::
    replicate 7 (.perform 1 done) ++ .perform 1 fails :: replicate 4 (.perform 1 done)

def lastSetup : SkillSetup := ⟨composingNode, []⟩

def enablingActions : List (PoolAction SkillChoice SkillRequest Empty) :=
  .start 0 (.setEnabled "longhub.skill.resume-screen" "hr" true) :: replicate 12 (.perform 0 done)

theorem skillTransactionsHold_enabling : ∃ pool : Pool SkillSystem SkillCall SkillCall.Answer
    SkillError, ∃ request ∈ pool.shared.finished,
      Ended lastSetup request.before request.outcome request.after := by
  obtain ⟨pool, runs, finished⟩ := map_eq_some_iff.mp
    (show ((guardedSkills beginsSafely lastSetup).run
        (initial (.ofStores lastStores)) enablingActions).map
          (fun pool => pool.shared.finished.length) = some 1 by decide)
  have started : (guardedSkills beginsSafely lastSetup).Reachable
      (fun system => system = .ofStores lastStores) (initial (.ofStores lastStores)) :=
    .initial rfl
  obtain ⟨request, mem⟩ := exists_mem_of_length_pos (by rw [finished]; decide)
  exact ⟨pool, request, mem, skillTransactionsHold lastSetup lastStores ⟨pairwise_singleton _ _,
    pairwise_singleton _ _⟩ pool (started.run runs) request mem⟩

/-- A request that has failed and has changed the bindings. -/
def isTorn (request : FinishedRequest) : Bool :=
  match request.outcome with
  | .ok () => false
  | .error _ => request.after.registry.bindings ≠ request.before.registry.bindings

/-- From a registry that is loaded with the last safe revision, the first commit leaves a
revision that no snapshot is restored from. -/
theorem not_skillTransactionsHold : ¬ SkillTransactionsHold compensationSucceeds
    fun stores => isSafeRevision stores.registry.revision = true := by
  intro holds
  obtain ⟨pool, runs, torn⟩ := map_eq_some_iff.mp
    (show ((guardedSkills compensationSucceeds lastSetup).run
        (initial (.ofStores lastStores)) lastActions).map
          (fun pool => pool.shared.finished.any isTorn) = some true by decide)
  obtain ⟨request, mem, isTorn⟩ := List.any_eq_true.mp torn
  have started : (guardedSkills compensationSucceeds lastSetup).Reachable
      (fun system => system = .ofStores lastStores) (initial (.ofStores lastStores)) :=
    .initial rfl
  have ended := holds lastSetup lastStores (by decide) pool (started.run runs) request mem
  unfold SkillTransaction.isTorn at isTorn
  split at isTorn
  · cases isTorn
  · rename_i failed
    rw [failed] at ended
    exact of_decide_eq_true isTorn ended.bindings

end Example

end SkillTransaction

end LongHub
