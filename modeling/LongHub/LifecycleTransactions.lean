import LongHub.CanonicalDepth
import LongHub.GuardedRun
import LongHub.LifecycleOperations

/-!
# Lifecycle operations one after another

Each operation runs to its end before the next one starts. Whatever fails on the way, an operation
whose rollback does not fail either succeeds or leaves everything as it was.
-/

namespace LongHub

open AgentLifecycleCoordinator List Option

inductive LifecycleStep where
  | operation (thread : Nat) (operation : PackOperation) (choices : List LifecycleChoice)
  | settings (constraint : BridgeConstraint) (packs : PackStore)

abbrev CallCondition := Nat → LifecycleCall → LifecycleChoice → LifecycleState → Bool

def runOperation (setup : LifecycleSetup) (condition : CallCondition) (state : LifecycleState)
    (thread : Nat) (operation : PackOperation) (choices : List LifecycleChoice) :
    Option (Except LifecycleError Unit × LifecycleState) :=
  (guardedMachine setup condition).execute thread operation.program state choices

def stepLifecycle (setup : LifecycleSetup) (condition : CallCondition) (state : LifecycleState) :
    LifecycleStep → Option LifecycleState
  | .operation thread operation choices =>
    (runOperation setup condition state thread operation choices).map Prod.snd
  | .settings constraint packs => some { state with constraint, packs }

structure LifecycleStart (state : LifecycleState) : Prop where
  installed : state.corePolicy = state.bridgePolicy
  inOrder : state.registry.InOrder
  idle : state.queue = []

structure SamePieces (before after : LifecyclePieces) : Prop where
  entries : after.registry.entries = before.registry.entries
  gateway : after.gatewayAgents = before.gatewayAgents
  core : after.corePolicy = before.corePolicy
  field : after.bridgePolicy = before.bridgePolicy
  source : after.sourceBridgePolicy = before.sourceBridgePolicy

/-- After every run of operations, the next one that fails changes nothing. -/
def OperationsAtomic (condition : CallCondition) : Prop :=
  ∀ (setup : LifecycleSetup) (start state : LifecycleState), LifecycleStart start →
    GuardedRun (stepLifecycle setup condition) (fun _ _ => True) start state →
    ∀ (thread : Nat) (operation : PackOperation) (choices : List LifecycleChoice)
      (problem : LifecycleError) (after : LifecycleState),
      runOperation setup condition state thread operation choices = some (.error problem, after) →
      problem.code ≠ some .configRollbackFailed →
        SamePieces state.toLifecyclePieces after.toLifecyclePieces

def callbacksKeepField : CallCondition
  | _, .publish change _, choice, state =>
    choice.failure.isNone || change.bridgePolicy = state.bridgePolicy
  | _, .leave failure, _, _ => failure ≠ some .configRollbackFailed
  | _, _, _, _ => true

section Alone

variable {setup : LifecycleSetup} {thread : Nat} {state : LifecycleState} {α : Type}

/-- Nobody interferes. -/
def Alone : Nat → Nat → LifecycleState → LifecycleState → Prop :=
  fun thread other _ _ => other = thread

theorem stable_alone (claim : LifecycleState → Prop) :
    (guardedMachine setup callbacksKeepField).Stable (fun _ => True) (Alone thread) thread
      claim := by
  rintro before after - - (⟨other, isOther, same⟩ | ⟨event, -⟩) holds
  · exact absurd same isOther
  · exact event.elim

/-- Alone, an operation may change the pieces at any time. -/
theorem windowRules_alone :
    WindowRules setup callbacksKeepField (fun _ => True) (Alone thread) thread (fun _ => True)
      fun _ _ => True where
  stable claim := stable_alone _
  keeps _ _ _ _ _ := ⟨rfl, trivial, trivial⟩
  publishes choice state change removed allowed := by
    simp only [callbacksKeepField, Bool.or_eq_true, isNone_iff_eq_none,
      decide_eq_true_eq] at allowed
    exact allowed

def OperationEnds (before : LifecyclePieces) : Except LifecycleError Unit → LifecycleState → Prop
  | .ok _, state => state.corePolicy = state.bridgePolicy ∧ state.registry.InOrder
  | .error problem, state =>
    problem.code = some .configRollbackFailed ∨ SamePieces before state.toLifecyclePieces

def OperationDone (before : LifecyclePieces) : Except LifecycleError Unit → LifecycleState → Prop
  | .ok _, state => state.corePolicy = state.bridgePolicy ∧ state.registry.InOrder
  | .error _, state => SamePieces before state.toLifecyclePieces

abbrev SafeAlone (thread : Nat) (setup : LifecycleSetup)
    (Post : Except LifecycleError α → LifecycleState → Prop) (program : LifecycleProgram α)
    (state : LifecycleState) : Prop :=
  (guardedMachine setup callbacksKeepField).Safe (fun _ => True) (Alone thread) thread Post
    program state

theorem safeAlone_ask {call : LifecycleCall}
    {Post : Except LifecycleError call.Answer → LifecycleState → Prop}
    (answers : ∀ choice outcome after,
      state.perform setup thread choice call = some (outcome, after) → Post outcome after) :
    SafeAlone thread setup Post (ask call) state := by
  refine Machine.safe_perform (stable_alone (· = state)) rfl (fun _ => stable_alone _) ?_
  rintro before choice outcome after - rfl performed
  exact ⟨rfl, trivial, answers choice outcome after (perform_guarded.mp performed).2⟩

variable {before : LifecyclePieces}

theorem samePieces_of_eq (same : state.toLifecyclePieces = before) :
    SamePieces before state.toLifecyclePieces := by
  rw [same]
  exact ⟨rfl, rfl, rfl, rfl, rfl⟩

theorem safeAlone_throw {problem : LifecycleError} (same : state.toLifecyclePieces = before) :
    SafeAlone thread setup (Ignoring (OperationEnds before))
      (.throw problem : LifecycleProgram α) state :=
  Machine.safe_throw (stable_alone _) (Or.inr (samePieces_of_eq same))

theorem safe_applyMutation (mutation : PackMutation) (same : state.toLifecyclePieces = before)
    (installed : before.corePolicy = before.bridgePolicy) (inOrder : before.registry.InOrder) :
    SafeAlone thread setup (Ignoring (OperationEnds before)) (applyMutation mutation) state := by
  have rules : WindowRules setup callbacksKeepField (fun _ => True) (Alone thread) thread
      (fun _ => True) fun _ _ => True := windowRules_alone
  have snapshot : SafeAlone thread setup
      (fun outcome after => outcome = .ok before.registry.entries ∧
        after.toLifecyclePieces = before) (ask .snapshotRegistry) state := by
    apply safeAlone_ask
    intro choice outcome after acts
    cases acts
    rw [← same]
    exact ⟨rfl, rfl⟩
  refine Machine.safe_bind trivial snapshot ?_ fun _ _ _ failed => nomatch failed.1
  rintro entries now - ⟨isEntries, sameNow⟩
  cases isEntries
  have sound : SoundPieces (fun _ _ => True) now.toLifecyclePieces := by
    rw [sameNow]
    exact ⟨inOrder, trivial⟩
  refine Machine.safe_bind trivial (rules.safe_ask effect_getConfig ⟨trivial, sound, rfl⟩) ?_ ?_
  · rintro config read - ⟨-, -, sameRead, isCurrent⟩
    have current := isCurrent config rfl
    rw [sameNow] at sameRead current
    cases agentsRead : agentsFromConfig config with
    | error problem => exact safeAlone_throw sameRead
    | ok agents =>
      have isAgents : before.gatewayAgents = some (some agents) :=
        current.symm.trans (agents_of_agentsFromConfig agentsRead)
      change SafeAlone thread setup _ (Program.bind (Program.ofExcept (agentIds agents)) _) read
      cases agentIds agents with
      | error problem => exact safeAlone_throw sameRead
      | ok previousAgentIds =>
        have stages : SafeAlone thread setup (fun outcome after => ∃ staged registry,
              outcome = .ok ((before.bridgePolicy, before.sourceBridgePolicy), staged) ∧
                after.toLifecyclePieces = { before with registry } ∧ registry.InOrder)
            (ask (.stage mutation)) read := by
          apply safeAlone_ask
          intro choice outcome after acts
          cases acts
          rw [← sameRead] at inOrder ⊢
          exact ⟨_, _, rfl, rfl, inOrder_stageMutation _ inOrder⟩
        change SafeAlone thread setup _ (Program.bind (ask (.stage mutation)) _) read
        refine Machine.safe_bind trivial stages ?_ ?_
        · rintro answer staged - ⟨change, registry, isAnswer, sameStaged, stagedInOrder⟩
          cases isAnswer
          have isStaged : staged.toLifecyclePieces = stagedPieces
              ⟨agents, before.bridgePolicy, before.sourceBridgePolicy, before.registry.entries⟩
              registry := by
            rw [sameStaged, stagedPieces, ← isAgents, ← installed]
          have stagedSound : SoundPieces (fun _ _ => True) staged.toLifecyclePieces := by
            rw [sameStaged]
            exact ⟨stagedInOrder, trivial⟩
          have ends : SafeAlone thread setup _
              (installChange ⟨agents, before.bridgePolicy, before.sourceBridgePolicy,
                before.registry.entries⟩ config.hash previousAgentIds change) staged :=
            safe_installChange rules trivial inOrder trivial (fun _ _ => trivial)
              ⟨trivial, stagedSound, isStaged⟩
          refine ends.mono ?_
          rintro outcome last - ⟨-, lastSound, claim⟩
          cases outcome with
          | ok ids =>
            obtain ⟨change, -, done⟩ := claim
            exact ⟨done.core.trans done.field.symm, lastSound.1⟩
          | error problem =>
            refine claim.imp_right fun restored => ?_
            exact ⟨restored.entries, restored.gateway.trans isAgents.symm,
              restored.core.trans installed.symm, restored.field, restored.source⟩
        · rintro error last - ⟨_, _, bad, -⟩
          cases bad
  · rintro problem last - ⟨-, -, sameLast, -⟩
    exact Or.inr (samePieces_of_eq (sameLast.trans sameNow))

theorem operationRules_alone (installed : before.corePolicy = before.bridgePolicy)
    (inOrder : before.registry.InOrder) :
    OperationRules setup callbacksKeepField (fun _ => True) (Alone thread) thread
      (fun state => state.toLifecyclePieces = before)
      (fun state => state.toLifecyclePieces = before) (OperationEnds before)
      (OperationDone before) where
  quiet _ := rfl
  waitingStable := stable_alone _
  firstStable := stable_alone _
  endedStable _ := stable_alone _
  doneStable _ := stable_alone _
  enqueues _ _ same := ⟨rfl, trivial, same⟩
  acquires _ _ same _ := same
  applies mutation _ _ same := safe_applyMutation mutation same installed inOrder
  unchanged outcome state same := by
    cases outcome with
    | ok value =>
      change state.corePolicy = state.bridgePolicy ∧ state.registry.InOrder
      rw [same]
      exact ⟨installed, inOrder⟩
    | error problem => exact Or.inr (samePieces_of_eq same)
  wraps code message error state ends := by
    unfold wrapError
    split
    · exact ends
    · next noCode =>
      refine Or.inr (ends.resolve_left fun failed => noCode ?_)
      rw [failed]
      rfl
  leaves outcome choice state _ ends allowed := by
    refine ⟨rfl, trivial, ?_⟩
    have noFailure : failureOf outcome ≠ some .configRollbackFailed := of_decide_eq_true allowed
    cases outcome with
    | ok value => exact ends
    | error problem => exact ends.resolve_left noFailure

theorem operationDone_of_run {operation : PackOperation} {choices : List LifecycleChoice}
    {outcome : Except LifecycleError Unit} {after : LifecycleState}
    (installed : state.corePolicy = state.bridgePolicy) (inOrder : state.registry.InOrder)
    (ran : runOperation setup callbacksKeepField state thread operation choices =
      some (outcome, after)) : OperationDone state.toLifecyclePieces outcome after := by
  have rules : OperationRules setup callbacksKeepField (fun _ => True) (Alone thread) thread
      _ _ _ _ := operationRules_alone installed inOrder
  have safe := rules.safe_program operation trivial (rfl : state.toLifecyclePieces = _)
  exact (safe.of_execute trivial ran).2

end Alone

/-- In every run, an operation that fails leaves everything as it was. -/
theorem operationsAtomic (setup : LifecycleSetup) (start state : LifecycleState)
    (started : LifecycleStart start)
    (run : GuardedRun (stepLifecycle setup callbacksKeepField) (fun _ _ => True) start state)
    (thread : Nat) (operation : PackOperation) (choices : List LifecycleChoice)
    (problem : LifecycleError) (after : LifecycleState)
    (ran : runOperation setup callbacksKeepField state thread operation choices =
      some (.error problem, after)) :
    SamePieces state.toLifecyclePieces after.toLifecyclePieces := by
  have ready : state.corePolicy = state.bridgePolicy ∧ state.registry.InOrder := by
    refine run.invariant (fun state => state.corePolicy = state.bridgePolicy ∧
      state.registry.InOrder) ⟨started.installed, started.inOrder⟩ ?_
    rintro before next step ⟨installed, inOrder⟩ - stepTo
    cases step with
    | settings constraint packs =>
      cases stepTo
      exact ⟨installed, inOrder⟩
    | operation thread operation choices =>
      obtain ⟨⟨outcome, last⟩, ran, rfl⟩ := map_eq_some_iff.mp stepTo
      have done := operationDone_of_run installed inOrder ran
      cases outcome with
      | ok value => exact done
      | error problem =>
        refine ⟨done.core.trans (installed.trans done.field.symm), ?_⟩
        unfold AgentRegistry.InOrder
        rw [done.entries]
        exact inOrder
  exact operationDone_of_run ready.1 ready.2 ran

section Example

def recruiterProfile : AgentProfile where
  id := "hr.recruiter"
  version := "1.0.0"
  displayName := "Recruiter"
  displayDescription := none
  displayEmoji := none
  capabilities := [⟨"hiring", ["longhub.skill.resume-screen", "longhub.skill.offer-letter"],
    ["connector:hr-api:read", "connector:hr-api:write"]⟩]
  openclawSkills := []
  toolsAllow := []
  toolsDeny := []
  sandbox := .strict
  minManagerVersion := "1.0.0"
  openclawVersion := "2026.7.1-2"
  modelPolicyId := "longhub.model.default"

def recruiterPack : ActivePack where
  manifest := ⟨"hr", "1.0.0", "hr.recruiter", "1.0.0",
    [⟨"hiring", ["connector:hr-api:read", "connector:hr-api:write"]⟩]⟩
  profile := recruiterProfile

def recruiterPacks : PackStore where
  packs := [⟨"hr", some recruiterPack, by
    intro pack active
    cases active
    rfl⟩]
  distinct := nodup_singleton _

def recruiterEntry : AgentRegistryEntry :=
  ⟨"hr.recruiter", "hr-recruiter-af6c2051e2e1", "hr", "1.0.0", "1.0.0", true⟩

def recruiterRegistry : AgentRegistry := ⟨1, [recruiterEntry], nodup_singleton _⟩

def recruiterSetup : LifecycleSetup where
  node := { composingNode with
    sha256Hex := fun _ => "af6c2051e2e1d31bca081877a4e8d75fc6c259aa53d54f674c683b06c13fda34" }
  paths :=
    { isAbsolute := fun path => path.toList.head? = some '/'
      resolve := id
      relative := fun base path => String.ofList (path.toList.drop (base.toList.length + 1))
      join := String.intercalate "/" }
  composer :=
    { stateDir := "/state"
      mainWorkspaceDir := "/state/workspace"
      mainAvatarDataUrl := none
      desktopVersion := "1.0.0"
      openclawVersion := "2026.7.1-2"
      modelPolicies := [("longhub.model.default", "model")]
      toolBridgePluginPath := none }

/-- Both Skills are bound, and writing is allowed. -/
def recruiterConstraint : BridgeConstraint where
  writeAllowed := true
  installedSkills := [("hr-recruiter-af6c2051e2e1", "longhub.skill.resume-screen"),
    ("hr-recruiter-af6c2051e2e1", "longhub.skill.offer-letter")]

def recruiterSource : BridgeExecutionPolicy :=
  buildToolBridgePolicy (enabledProfiles recruiterPacks recruiterRegistry)

/-- An app with one enabled pack. -/
def recruiterState : LifecycleState where
  registry := recruiterRegistry
  gatewayAgents := some (some [.other (some "main") "main agent",
    .other (some "hr-recruiter-af6c2051e2e1") "recruiter agent"])
  corePolicy := recruiterConstraint.constrainBridgePolicy recruiterSource
  bridgePolicy := recruiterConstraint.constrainBridgePolicy recruiterSource
  sourceBridgePolicy := recruiterSource
  constraint := recruiterConstraint
  packs := recruiterPacks
  queue := []
  window := none
  refreshing := []

def succeeds : LifecycleChoice := ⟨fun _ => none, none, false, "hash", ⟨"main", ["main"]⟩, []⟩

/-- A call that throws. -/
def fails : LifecycleChoice := { succeeds with failure := some "webContents was destroyed" }

def listsBoth : LifecycleChoice :=
  { succeeds with listed := ⟨"main", ["main", "hr-recruiter-af6c2051e2e1"]⟩ }

/-- A call in the middle of the operation throws, and what came before is undone. -/
def undoneChoices : List LifecycleChoice :=
  replicate 5 succeeds ++ fails :: replicate 3 succeeds

def disableChoices : List LifecycleChoice :=
  replicate 8 succeeds ++ [fails, succeeds, succeeds, listsBoth, succeeds, succeeds, succeeds]

theorem lifecycleStart_recruiterState : LifecycleStart recruiterState :=
  ⟨rfl, pairwise_singleton _ _, rfl⟩

/-- Disabling the pack fails halfway and changes nothing. -/
theorem operationsAtomic_undone : ∃ problem after,
    runOperation recruiterSetup callbacksKeepField recruiterState 0 (.disablePack "hr")
      undoneChoices = some (.error problem, after) ∧
    SamePieces recruiterState.toLifecyclePieces after.toLifecyclePieces := by
  obtain ⟨⟨outcome, after⟩, ran, failed⟩ := map_eq_some_iff.mp
    (show (runOperation recruiterSetup callbacksKeepField recruiterState 0 (.disablePack "hr")
        undoneChoices).map (fun result => result.1.toOption.isNone) = some true by decide)
  cases outcome with
  | ok value => cases failed
  | error problem =>
    exact ⟨problem, after, ran, operationsAtomic recruiterSetup recruiterState recruiterState
      lifecycleStart_recruiterState .refl 0 (.disablePack "hr") undoneChoices problem after ran⟩

theorem not_operationsAtomic : ¬ OperationsAtomic fun _ _ _ _ => true := by
  intro atomic
  obtain ⟨⟨outcome, after⟩, ran, facts⟩ := map_eq_some_iff.mp
    (show (runOperation recruiterSetup (fun _ _ _ _ => true) recruiterState 0 (.disablePack "hr")
        disableChoices).map (fun result =>
          (match result.1 with
            | .ok _ => none
            | .error problem => problem.code, result.2.bridgePolicy.entries)) =
      some (some .packDisableFailed, []) by decide)
  cases outcome with
  | ok value => cases facts
  | error problem =>
    obtain ⟨code, noGrants⟩ := Prod.ext_iff.mp facts
    have notRollback : problem.code ≠ some .configRollbackFailed := by
      rw [show problem.code = some .packDisableFailed from code]
      decide
    have same := atomic recruiterSetup recruiterState recruiterState
      lifecycleStart_recruiterState .refl 0 (.disablePack "hr") disableChoices problem after ran
        notRollback
    have grants : recruiterState.bridgePolicy.entries ≠ [] := by decide
    exact grants (same.field ▸ noGrants)

end Example

end LongHub
