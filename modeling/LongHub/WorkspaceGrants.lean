import LongHub.BridgePolicyConvergence

/-!
# What the workspace sees of the policy

The workspace authorises workflows by the policy with which the app has started, under the
constraint of the moment. Core has the policy that the coordinator installed last.
-/

namespace LongHub

open AgentLifecycleCoordinator Machine Program

def grantsOf (policy : BridgeExecutionPolicy) (agentId : String) : List BridgeSkillGrant :=
  (policy.get? agentId).getD []

def effectiveBridgeGrants (bridgePolicy : BridgeExecutionPolicy) (constraint : BridgeConstraint)
    (agentId : String) : List BridgeSkillGrant :=
  grantsOf (constraint.constrainBridgePolicy bridgePolicy) agentId

def SameGrants (one other : BridgeExecutionPolicy) : Prop :=
  ∀ agentId, grantsOf one agentId = grantsOf other agentId

def sameGrants (one other : BridgeExecutionPolicy) : Bool :=
  (one.keys ++ other.keys).all fun agentId => grantsOf one agentId = grantsOf other agentId

section Grants

variable {one other third : BridgeExecutionPolicy} {agentId : String}

theorem grantsOf_of_not_mem (absent : agentId ∉ one.keys) : grantsOf one agentId = [] := by
  have noEntry : one.get? agentId = none := InsertionMap.get?_eq_none_iff.mpr absent
  rw [grantsOf, noEntry]
  rfl

@[simp]
theorem sameGrants_iff : sameGrants one other = true ↔ SameGrants one other := by
  unfold sameGrants
  rw [List.all_eq_true]
  constructor
  · intro all agentId
    by_cases listed : agentId ∈ one.keys ++ other.keys
    · exact of_decide_eq_true (all agentId listed)
    · rw [List.mem_append, not_or] at listed
      rw [grantsOf_of_not_mem listed.1, grantsOf_of_not_mem listed.2]
  · intro same agentId _
    exact decide_eq_true (same agentId)

theorem SamePolicy.grantsOf_eq (same : SamePolicy one other) (agentId : String) :
    grantsOf one agentId = grantsOf other agentId :=
  congrArg (Option.getD · []) (same.get?_eq agentId)

theorem grantsOf_constrain (constraint : BridgeConstraint) (policy : BridgeExecutionPolicy)
    (agentId : String) : grantsOf (constraint.constrainBridgePolicy policy) agentId =
      (grantsOf policy agentId).filter (constraint.keeps agentId) := by
  unfold grantsOf BridgeConstraint.constrainBridgePolicy
  rw [InsertionMap.get?_mapValues]
  cases policy.get? agentId <;> rfl

end Grants

def keepsSource : CallCondition
  | _, .publish change _, _, state => sameGrants change.sourceBridgePolicy state.sourceBridgePolicy
  | _, _, _, _ => true

/-- Refreshes and changes keep apart, and no operation gives an agent other grants. -/
def grantsKept : CallCondition := fun thread call choice state =>
  refreshesApart thread call choice state && keepsSource thread call choice state

def WorkspaceSeesCore (condition : CallCondition) : Prop :=
  ∀ (setup : LifecycleSetup) (startup : LifecycleState) (pool : LifecyclePool),
    PolicyStart startup →
      (guardedMachine setup condition).Reachable (· = startup) pool → AllDone pool →
        ∀ agentId, effectiveBridgeGrants startup.sourceBridgePolicy pool.shared.constraint agentId =
          grantsOf pool.shared.corePolicy agentId

section Runs

variable {setup : LifecycleSetup} {thread : Nat} {startup state after : LifecycleState}
variable {α β : Type}

def SourceKept (startup state : LifecycleState) : Prop :=
  SameGrants state.sourceBridgePolicy startup.sourceBridgePolicy

def PutsBack (startup : LifecycleState) : LifecycleCall → Prop
  | .restore source _ => SameGrants source startup.sourceBridgePolicy
  | _ => True

variable {choice : LifecycleChoice} {call : LifecycleCall} {program : LifecycleProgram α}

theorem sourceKept_requested {before requested : LifecycleState}
    {outcome : Except LifecycleError Unit} (kept : SourceKept startup before)
    (keptRequested : SourceKept startup requested)
    (acts : LifecycleState.requested choice before requested = some (outcome, after)) :
    SourceKept startup after := by
  rcases requested_cases acts with ⟨-, rfl⟩ | ⟨-, rfl | rfl⟩
  · exact keptRequested
  · exact keptRequested
  · exact kept

theorem sourceKept_perform {outcome : Except LifecycleError call.Answer}
    (kept : SourceKept startup state) (putsBack : PutsBack startup call)
    (acts : (guardedMachine setup grantsKept).perform thread call choice state =
      some (outcome, after)) : SourceKept startup after := by
  obtain ⟨allowed, ran⟩ := perform_guarded.mp acts
  by_cases reading : call.IsReading
  · rw [state_perform reading ran]
    exact kept
  · cases call with
    | enqueue | leave failure | assignPolicy policy | changeConstraint constraint =>
      cases ran
      exact kept
    | stage mutation =>
      cases ran
      exact kept
    | replaceBridgePolicy ofRefresh policy =>
      refine sourceKept_requested kept ?_ ran
      exact kept
    | replaceAgents agents baseHash =>
      by_cases noHash : baseHash = ""
      · cases (if_pos noHash).symm.trans ran
        exact kept
      · refine sourceKept_requested kept ?_ ((if_neg noHash).symm.trans ran)
        exact kept
    | publish change removed =>
      have same : SameGrants change.sourceBridgePolicy state.sourceBridgePolicy := by
        rw [← sameGrants_iff]
        exact ((Bool.and_eq_true _ _).mp allowed).2
      rw [(answered_cases ran).1]
      intro agentId
      exact (same agentId).trans (kept agentId)
    | restore source snapshot =>
      cases ran
      exact putsBack
    | startRefresh constraint =>
      unfold LifecycleState.perform at ran
      dsimp only at ran
      split at ran <;> cases ran <;> exact kept
    | acquire | activeVersion packId | verifyActivePack packId | eligiblePackIds packs
    | installedVersions | onSyncError message | enabledEntries | snapshotRegistry | getConfig
    | listAgents => exact absurd trivial reading

abbrev SafeSource (setup : LifecycleSetup) (startup : LifecycleState) (thread : Nat)
    (program : LifecycleProgram α) (state : LifecycleState) : Prop :=
  (guardedMachine setup grantsKept).Safe (SourceKept startup) (fun _ _ _ => True) thread
    (fun _ _ => True) program state

theorem stable_always (claim : Prop) :
    (guardedMachine setup grantsKept).Stable (SourceKept startup) (fun _ _ _ => True) thread
      fun _ => claim := Machine.Stable.const claim

theorem safeSource_of_calls (calls : program.Calls (PutsBack startup)) :
    SafeSource setup startup thread program state :=
  safe_of_calls (stable_always True) (fun _ putsBack _ _ _ _ kept _ acts =>
      ⟨trivial, sourceKept_perform kept putsBack acts, trivial⟩)
    calls trivial

theorem calls_ask (putsBack : PutsBack startup call) :
    (ask call).Calls (PutsBack startup) := calls_perform putsBack

theorem calls_rollbackGatewayAgents (previousAgents : List GatewayAgent) :
    (rollbackGatewayAgents previousAgents).Calls (PutsBack startup) := by
  refine (calls_ask (by trivial)).bind fun current => ?_
  refine (calls_ofExcept _).bind fun currentAgents => ?_
  split
  · trivial
  · refine (calls_ask (by trivial)).bind fun _ => ?_
    refine (calls_ask (by trivial)).bind fun confirmed => ?_
    refine (calls_ofExcept _).bind fun previousIds => ?_
    split <;> trivial

section Change

variable {undo : LifecycleUndo}
variable (source : SameGrants undo.sourceBridgePolicy startup.sourceBridgePolicy)
include source

theorem calls_rollback (gatewayAttempted bridgeAttempted : Bool) (error : LifecycleError) :
    (rollback undo gatewayAttempted bridgeAttempted error).Calls (PutsBack startup) := by
  have restores : (ask (.restore undo.sourceBridgePolicy undo.entries)).Calls
      (PutsBack startup) := calls_ask source
  have undoes : (undoChange undo gatewayAttempted bridgeAttempted).Calls (PutsBack startup) := by
    unfold undoChange
    cases gatewayAttempted <;> cases bridgeAttempted
    · exact restores
    · exact (calls_ask (by trivial)).bind fun _ => restores
    · exact (calls_rollbackGatewayAgents undo.agents).bind fun _ => restores
    · exact (calls_rollbackGatewayAgents undo.agents).bind fun _ =>
        (calls_ask (by trivial)).bind fun _ => restores
  refine (undoes.tryCatch fun _ => ?_).bind fun _ => ?_
  · trivial
  · trivial

theorem calls_installChange (baseHash : String) (previousAgentIds : List String)
    (staged : Except LifecycleError StagedChange) :
    (installChange undo baseHash previousAgentIds staged).Calls (PutsBack startup) := by
  cases staged with
  | error error => exact calls_rollback source false false error
  | ok change =>
    have replaces : (ask (.replaceBridgePolicy false change.bridgePolicy)).Calls
        (PutsBack startup) := calls_ask (by trivial)
    refine replaces.attempt.bind fun replaced => ?_
    cases replaced with
    | error error => exact calls_rollback source false true error
    | ok _ =>
      have writes : (writeGateway change baseHash previousAgentIds).Calls (PutsBack startup) := by
        refine (calls_ask (by trivial)).bind fun _ => ?_
        refine (calls_ask (by trivial)).bind fun confirmed => ?_
        dsimp only
        split
        · trivial
        · exact (calls_ask (by trivial)).bind fun _ => calls_ofExcept (.ok _)
      refine writes.attempt.bind fun written => ?_
      cases written with
      | error error => exact calls_rollback source true true error
      | ok expectedIds => trivial

end Change

theorem safeSource_bind {next : α → LifecycleProgram β} (kept : SourceKept startup state)
    (first : SafeSource setup startup thread program state)
    (continues : ∀ value after, SourceKept startup after →
      SafeSource setup startup thread (next value) after) :
    SafeSource setup startup thread (program >>= next) state :=
  safe_bind kept first (fun value after keptAfter _ => continues value after keptAfter)
    fun _ _ _ _ => trivial

/-- Staging answers with the source policy as it is, and this is what undoing puts back. -/
theorem safeSource_applyMutation (mutation : PackMutation) (kept : SourceKept startup state) :
    SafeSource setup startup thread (applyMutation mutation) state := by
  refine safeSource_bind kept (safeSource_of_calls (calls_ask (by trivial))) ?_
  intro entries snapshotted keptEntries
  refine safeSource_bind keptEntries (safeSource_of_calls (calls_ask (by trivial))) ?_
  intro config configured keptConfig
  refine safeSource_bind keptConfig (safeSource_of_calls (calls_ofExcept _)) ?_
  intro agents _ keptAgents
  refine safeSource_bind keptAgents (safeSource_of_calls (calls_ofExcept _)) ?_
  intro previousAgentIds _ keptIds
  refine safe_perform_bind (stable_always True) trivial ?_ ?_
  · rintro before choice ⟨⟨bridgePolicy, sourceBridgePolicy⟩, staged⟩ after keptBefore - acts
    have putsBack : PutsBack startup (.stage mutation) := trivial
    have keptAfter := sourceKept_perform keptBefore putsBack acts
    cases (perform_guarded.mp acts).2
    let undo : LifecycleUndo :=
      ⟨agents, before.bridgePolicy, before.sourceBridgePolicy, entries⟩
    have source : SameGrants undo.sourceBridgePolicy startup.sourceBridgePolicy := keptBefore
    exact ⟨trivial, keptAfter,
      safeSource_of_calls (calls_installChange source config.hash previousAgentIds _)⟩
  · rintro before choice error after keptBefore - acts
    cases (perform_guarded.mp acts).2

theorem operationRules_source :
    OperationRules setup grantsKept (SourceKept startup) (fun _ _ _ => True) thread
      (fun _ => True) (fun _ => True) (fun _ _ => True) (fun _ _ => True) where
  quiet _ := trivial
  waitingStable := stable_always True
  firstStable := stable_always True
  endedStable _ := stable_always True
  doneStable _ := stable_always True
  enqueues _ kept _ := ⟨trivial, kept, trivial⟩
  acquires _ _ _ _ := trivial
  applies mutation _ kept _ := safeSource_applyMutation mutation kept
  unchanged _ _ _ := trivial
  wraps _ _ _ _ _ := trivial
  leaves _ _ _ kept _ _ := ⟨trivial, kept, trivial⟩

theorem safeSource_request (request : LifecycleRequest) (kept : SourceKept startup state) :
    SafeSource setup startup thread request.program state := by
  cases request with
  | operation operation => exact operationRules_source.safe_program operation kept trivial
  | changeConstraint constraint => exact safeSource_of_calls (calls_ask (by trivial))
  | refresh constraint =>
    refine safeSource_of_calls ((calls_ask (by trivial)).bind fun next => ?_)
    cases next with
    | none => trivial
    | some policy => exact (calls_ask (by trivial)).bind fun _ => calls_ask (by trivial)

theorem sourceKept_of_reachable {pool : LifecyclePool}
    (reachable : (guardedMachine setup grantsKept).Reachable (· = startup) pool) :
    SourceKept startup pool.shared := by
  have safe := safe_of_reachable (SourceKept startup) (fun _ _ _ => True)
    (fun _ _ => True) (fun _ _ _ => True)
    (fun state started => ⟨by rw [started]; exact fun _ => rfl, fun _ => trivial⟩)
    (fun _ => stable_always True) (fun event => event.elim)
    (fun request _ _ kept _ => safeSource_request request kept) reachable
  exact safe.1

/-- In every run in which refreshes and changes keep apart and no operation gives an agent other
grants, the workspace sees the grants that Core has. -/
theorem workspace_sees_core (setup : LifecycleSetup) (startup : LifecycleState)
    (pool : LifecyclePool) (started : PolicyStart startup)
    (reachable : (guardedMachine setup grantsKept).Reachable (· = startup) pool)
    (allDone : AllDone pool) (agentId : String) :
    effectiveBridgeGrants startup.sourceBridgePolicy pool.shared.constraint agentId =
      grantsOf pool.shared.corePolicy agentId := by
  have apart : (guardedMachine setup refreshesApart).Reachable PolicyStart pool :=
    Machine.Reachable.restrict_mono (fun _ _ _ _ kept => ((Bool.and_eq_true _ _).mp kept).1)
      (fun state isStartup => by rw [isStartup]; exact started) reachable
  obtain ⟨inv, closed, quiet⟩ := atRest_of_reachable apart allDone
  have kept := sourceKept_of_reachable reachable
  calc effectiveBridgeGrants startup.sourceBridgePolicy pool.shared.constraint agentId
      = (grantsOf pool.shared.sourceBridgePolicy agentId).filter
          (pool.shared.constraint.keeps agentId) := by
        rw [effectiveBridgeGrants, grantsOf_constrain, kept agentId]
    _ = grantsOf pool.shared.bridgePolicy agentId := by
        rw [← grantsOf_constrain]
        exact ((inv.constrained quiet).grantsOf_eq agentId).symm
    _ = grantsOf pool.shared.corePolicy agentId := by rw [inv.installed quiet closed]

end Runs

section Example

/-- Writing is no longer allowed, and Core is told; an operation that fails begins beside it. -/
def refreshActions : List (PoolAction LifecycleChoice LifecycleRequest Empty) :=
  .start 0 (.refresh (some readOnlyConstraint)) :: .perform 0 succeeds ::
    .start 1 (.operation .syncEntitlements) :: List.replicate 3 (.perform 1 succeeds) ++
      [.perform 1 fails, .perform 1 succeeds, .perform 0 succeeds, .perform 0 succeeds,
        .perform 1 succeeds]

theorem workspace_sees_core_example : ∃ pool : LifecyclePool,
    ((pool.threads 0).map isDone = some true ∧ (pool.threads 1).map isDone = some true) ∧
      effectiveBridgeGrants recruiterState.sourceBridgePolicy pool.shared.constraint
          "hr-recruiter-af6c2051e2e1" =
        grantsOf pool.shared.corePolicy "hr-recruiter-af6c2051e2e1" := by
  obtain ⟨pool, runs, facts⟩ := Option.map_eq_some_iff.mp
    (show ((guardedMachine recruiterSetup grantsKept).run (initial recruiterState)
        refreshActions).map (fun pool => ((pool.threads 0).map isDone,
          (pool.threads 1).map isDone)) = some (some true, some true) by decide)
  obtain ⟨done, otherDone⟩ := Prod.mk.inj facts
  have reachable : (guardedMachine recruiterSetup grantsKept).Reachable (· = recruiterState) pool :=
    Machine.Reachable.run (.initial rfl) runs
  have allDone : AllDone pool := by
    apply allDone_of_started runs
    intro thread request mem
    simp only [refreshActions, List.mem_append, List.mem_cons, List.mem_replicate] at mem
    rcases thread with _ | _ | thread <;> simp_all
  exact ⟨pool, ⟨done, otherDone⟩, workspace_sees_core recruiterSetup recruiterState pool
    policyStart_recruiterState reachable allDone "hr-recruiter-af6c2051e2e1"⟩

/-- The pack is no longer paid for: Core has no grant any more, the workspace still has. -/
theorem workspace_keeps_revoked_grants : ¬ WorkspaceSeesCore fun _ _ _ _ => true := by
  intro sees
  obtain ⟨pool, runs, facts⟩ := Option.map_eq_some_iff.mp
    (show ((guardedMachine recruiterSetup fun _ _ _ _ => true).run
        (initial recruiterState) syncActions).map (fun pool =>
          ((pool.threads 0).map isDone,
            (effectiveBridgeGrants recruiterState.sourceBridgePolicy pool.shared.constraint
                "hr-recruiter-af6c2051e2e1").length,
            (grantsOf pool.shared.corePolicy "hr-recruiter-af6c2051e2e1").length)) =
      some (some true, 2, 0) by decide)
  simp only [Prod.mk.injEq] at facts
  obtain ⟨done, inWorkspace, inCore⟩ := facts
  have reachable : (guardedMachine recruiterSetup fun _ _ _ _ => true).Reachable
      (· = recruiterState) pool := Machine.Reachable.run (.initial rfl) runs
  have allDone : AllDone pool := by
    apply allDone_of_started runs
    intro thread request mem
    simp only [syncActions, List.mem_cons, List.mem_replicate] at mem
    simp_all
  have same := sees recruiterSetup recruiterState pool policyStart_recruiterState reachable allDone
    "hr-recruiter-af6c2051e2e1"
  rw [same, inCore] at inWorkspace
  cases inWorkspace

end Example

end LongHub
