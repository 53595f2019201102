import LongHub.LifecycleTransactions

/-!
# Core, the coordinator and the enabled profiles agree

Operations and refreshes interleave in any way.
-/

namespace LongHub

open AgentLifecycleCoordinator Machine Option

structure PolicyStart (state : LifecycleState) : Prop where
  inOrder : state.registry.InOrder
  idle : state.queue = []
  closed : state.window = none
  quiet : state.refreshing = []
  installed : state.corePolicy = state.bridgePolicy
  constrained : SamePolicy state.bridgePolicy
    (state.constraint.constrainBridgePolicy state.sourceBridgePolicy)
  built : state.sourceBridgePolicy =
    buildToolBridgePolicy (enabledProfiles state.packs state.registry)

structure Converged (state : LifecycleState) : Prop where
  installed : SamePolicy state.corePolicy state.bridgePolicy
  constrained : SamePolicy state.bridgePolicy (state.constraint.constrainBridgePolicy
    (buildToolBridgePolicy (enabledProfiles state.packs state.registry)))

abbrev LifecyclePool := Pool LifecycleState LifecycleCall LifecycleCall.Answer LifecycleError

/-- No operation and no refresh is in progress. -/
def AllDone (pool : LifecyclePool) : Prop :=
  ∀ thread program, pool.threads thread = some program → program.isDone = true

def PoliciesConverge (condition : CallCondition) : Prop :=
  ∀ (setup : LifecycleSetup) (pool : LifecyclePool),
    (guardedMachine setup condition).Reachable PolicyStart pool → AllDone pool →
      Converged pool.shared

def rollbacksSucceed : CallCondition
  | _, .leave failure, _, _ => failure ≠ some .configRollbackFailed
  | _, _, _, _ => true

@[grind =]
def refreshesApart : CallCondition
  | _, .leave failure, _, _ => failure ≠ some .configRollbackFailed
  | _, .publish change _, choice, state =>
    choice.failure.isNone || change.bridgePolicy = state.bridgePolicy
  | _, .stage _, _, state => state.refreshing = []
  | _, .replaceBridgePolicy true _, choice, _ => choice.failure.isNone
  | _, .startRefresh constraint, _, state =>
    constraint.getD state.constraint = state.constraint ∨
      (state.window = none ∧ state.refreshing = [])
  | _, .changeConstraint constraint, _, state =>
    constraint = state.constraint ∨ (state.window = none ∧ state.refreshing = [] ∧
      SamePolicy state.bridgePolicy (constraint.constrainBridgePolicy state.sourceBridgePolicy))
  | _, _, _, _ => true

/-- The invariant of the coordinator while refreshes and changes keep apart. -/
structure BridgeInv (state : LifecycleState) : Prop where
  inOrder : state.registry.InOrder
  holder : ∀ thread, state.window = some thread → state.queue.head? = some thread
  quiet : state.window ≠ none → state.refreshing = []
  distinct : state.refreshing.Nodup
  constrained : state.refreshing = [] → SamePolicy state.bridgePolicy
    (state.constraint.constrainBridgePolicy state.sourceBridgePolicy)
  installed : state.refreshing = [] → state.window = none → state.corePolicy = state.bridgePolicy
  built : state.window = none → state.sourceBridgePolicy =
    buildToolBridgePolicy (enabledProfiles state.packs state.registry)

structure BridgeGuarantee (thread : Nat) (before after : LifecycleState) : Prop where
  packs : after.packs = before.packs
  queue : ∀ other, other ≠ thread → before.queue.head? = some other →
    after.queue.head? = some other ∧ after.registry = before.registry ∧
      after.gatewayAgents = before.gatewayAgents
  window : ∀ other, other ≠ thread → (after.window = some other ↔ before.window = some other)
  refreshing : ∀ other, other ≠ thread → (other ∈ after.refreshing ↔ other ∈ before.refreshing)
  inWindow : ∀ other, other ≠ thread → before.window = some other →
    after.toLifecyclePieces = before.toLifecyclePieces ∧ after.constraint = before.constraint ∧
      after.refreshing = before.refreshing
  inRefresh : ∀ other, other ≠ thread → other ∈ before.refreshing →
    after.constraint = before.constraint ∧ after.sourceBridgePolicy = before.sourceBridgePolicy ∧
      (after.corePolicy = before.corePolicy ∨
        after.corePolicy = before.constraint.constrainBridgePolicy before.sourceBridgePolicy)

theorem BridgeGuarantee.refl (thread : Nat) (state : LifecycleState) :
    BridgeGuarantee thread state state where
  packs := rfl
  queue _ _ isFirst := ⟨isFirst, rfl, rfl⟩
  window _ _ := Iff.rfl
  refreshing _ _ := Iff.rfl
  inWindow _ _ _ := ⟨rfl, rfl, rfl⟩
  inRefresh _ _ _ := ⟨rfl, rfl, Or.inl rfl⟩

section Threads

variable {setup : LifecycleSetup} {thread : Nat} {state : LifecycleState} {α : Type}

def IsIdleThread (thread : Nat) (state : LifecycleState) : Prop :=
  state.window ≠ some thread ∧ thread ∉ state.refreshing

def IsFirst (thread : Nat) (state : LifecycleState) : Prop :=
  IsIdleThread thread state ∧ state.queue.head? = some thread

structure Holds (thread : Nat) (constraint : BridgeConstraint) (packs : PackStore)
    (state : LifecycleState) : Prop where
  window : state.window = some thread
  first : state.queue.head? = some thread
  quiet : state.refreshing = []
  constraint : state.constraint = constraint
  packs : state.packs = packs

abbrev StableApart (setup : LifecycleSetup) (thread : Nat) (claim : LifecycleState → Prop) : Prop :=
  (guardedMachine setup refreshesApart).Stable BridgeInv BridgeGuarantee thread claim

theorem stableApart_of {claim : LifecycleState → Prop}
    (keeps : ∀ other before after, thread ≠ other → BridgeInv before →
      BridgeGuarantee other before after → claim before → claim after) :
    StableApart setup thread claim := by
  rintro before after inv - (⟨other, isOther, guarantee⟩ | ⟨event, -⟩) holds
  · exact keeps other before after isOther.symm inv guarantee holds
  · exact event.elim

theorem stableApart_isIdle : StableApart setup thread (IsIdleThread thread) := by
  apply stableApart_of
  rintro other before after isOther - guarantee ⟨noWindow, noRefresh⟩
  exact ⟨fun window => noWindow ((guarantee.window thread isOther).mp window),
    fun mem => noRefresh ((guarantee.refreshing thread isOther).mp mem)⟩

theorem stableApart_isFirst (claim : AgentRegistry → ConfiguredAgents → Prop) :
    StableApart setup thread fun state =>
      IsFirst thread state ∧ claim state.registry state.gatewayAgents := by
  apply stableApart_of
  rintro other before after isOther - guarantee ⟨⟨⟨noWindow, noRefresh⟩, first⟩, holds⟩
  obtain ⟨firstAfter, registry, gateway⟩ := guarantee.queue thread isOther first
  refine ⟨⟨⟨fun window => noWindow ((guarantee.window thread isOther).mp window),
    fun mem => noRefresh ((guarantee.refreshing thread isOther).mp mem)⟩, firstAfter⟩, ?_⟩
  rw [registry, gateway]
  exact holds

theorem stableApart_holds {constraint : BridgeConstraint} {packs : PackStore}
    (claim : LifecyclePieces → Prop) : StableApart setup thread fun state =>
      Holds thread constraint packs state ∧ claim state.toLifecyclePieces := by
  apply stableApart_of
  rintro other before after isOther - guarantee ⟨holds, claimed⟩
  obtain ⟨pieces, sameConstraint, refreshing⟩ := guarantee.inWindow thread isOther holds.window
  refine ⟨?_, pieces ▸ claimed⟩
  exact
    { window := (guarantee.window thread isOther).mpr holds.window
      first := (guarantee.queue thread isOther holds.first).1
      quiet := refreshing.trans holds.quiet
      constraint := sameConstraint.trans holds.constraint
      packs := guarantee.packs.trans holds.packs }

theorem windowRules_apart {constraint : BridgeConstraint} {packs : PackStore} :
    WindowRules setup refreshesApart BridgeInv BridgeGuarantee thread
      (Holds thread constraint packs)
      fun field source => SamePolicy field (constraint.constrainBridgePolicy source) where
  stable claim := stableApart_holds claim
  keeps state pieces inv holds sound := by
    refine ⟨?_, ?_, holds.window, holds.first, holds.quiet, holds.constraint, holds.packs⟩
    · exact
        { packs := rfl
          queue := fun other isOther first => by
            rw [holds.first] at first
            exact absurd (some.inj first).symm isOther
          window := fun _ _ => Iff.rfl
          refreshing := fun _ _ => Iff.rfl
          inWindow := fun other isOther window => by
            rw [holds.window] at window
            exact absurd (some.inj window).symm isOther
          inRefresh := fun other isOther mem => by
            rw [holds.quiet] at mem
            cases mem }
    · exact
        { inOrder := sound.1
          __ := inv
          constrained := fun _ => by
            rw [holds.constraint]
            exact sound.2
          installed := fun _ closed => by
            rw [holds.window] at closed
            cases closed
          built := fun closed => by
            rw [holds.window] at closed
            cases closed }
  publishes choice state change removed allowed := by
    simp only [refreshesApart, Bool.or_eq_true, isNone_iff_eq_none, decide_eq_true_eq] at allowed
    exact allowed

/-- The policies are those of the enabled profiles. -/
def Consistent (packs : PackStore) (pieces : LifecyclePieces) : Prop :=
  pieces.sourceBridgePolicy = buildToolBridgePolicy (enabledProfiles packs pieces.registry) ∧
    pieces.corePolicy = pieces.bridgePolicy

def HasEnded (thread : Nat) (outcome : Except LifecycleError Unit) (state : LifecycleState) :
    Prop :=
  IsFirst thread state ∨ ∃ constraint packs, Holds thread constraint packs state ∧
    (failureOf outcome = some .configRollbackFailed ∨ Consistent packs state.toLifecyclePieces)

theorem stableApart_hasEnded (outcome : Except LifecycleError Unit) :
    StableApart setup thread (HasEnded thread outcome) := by
  rintro before after inv invAfter rely (first | ⟨constraint, packs, holds⟩)
  · exact Or.inl (stableApart_isFirst (fun _ _ => True) before after inv invAfter rely
      ⟨first, trivial⟩).1
  · exact Or.inr ⟨constraint, packs, stableApart_holds (fun pieces =>
      failureOf outcome = some .configRollbackFailed ∨ Consistent packs pieces) before after inv
        invAfter rely holds⟩

abbrev SafeApart (setup : LifecycleSetup) (thread : Nat)
    (Post : Except LifecycleError α → LifecycleState → Prop) (program : LifecycleProgram α)
    (state : LifecycleState) : Prop :=
  (guardedMachine setup refreshesApart).Safe BridgeInv BridgeGuarantee thread Post program state

theorem BridgeInv.closed_of_isFirst (inv : BridgeInv state) (first : IsFirst thread state) :
    state.window = none := by
  cases window : state.window with
  | none => rfl
  | some other =>
    have isOther := inv.holder other window
    rw [first.2] at isOther
    rw [← some.inj isOther] at window
    exact absurd window first.1.1

theorem safe_stage (mutation : PackMutation) {entries : List AgentRegistryEntry}
    {agents : List GatewayAgent} (holds : IsFirst thread state ∧
      state.registry.entries = entries ∧ state.gatewayAgents = some (some agents)) :
    SafeApart setup thread (fun outcome after => ∃ constraint packs field source staged registry,
        outcome = .ok ((field, source), staged) ∧ Holds thread constraint packs after ∧
          after.toLifecyclePieces = stagedPieces ⟨agents, field, source, entries⟩ registry ∧
          registry.InOrder ∧ entries.Pairwise entryLe ∧
          SamePolicy field (constraint.constrainBridgePolicy source) ∧
          (∀ change, staged = .ok change →
            change.sourceBridgePolicy = buildToolBridgePolicy (enabledProfiles packs registry) ∧
            change.bridgePolicy = constraint.constrainBridgePolicy change.sourceBridgePolicy) ∧
          ∀ other : AgentRegistry, other.entries = entries →
            source = buildToolBridgePolicy (enabledProfiles packs other))
      (ask (.stage mutation)) state := by
  refine safe_perform (stableApart_isFirst fun registry gateway =>
    registry.entries = entries ∧ gateway = some (some agents)) holds ?_ ?_
  · rintro outcome before after inv invAfter rely
      ⟨constraint, packs, field, source, staged, registry, answered, holds, same, rest⟩
    obtain ⟨holdsAfter, sameAfter⟩ := stableApart_holds (fun pieces =>
      pieces = stagedPieces ⟨agents, field, source, entries⟩ registry) before after inv invAfter
        rely ⟨holds, same⟩
    exact ⟨constraint, packs, field, source, staged, registry, answered, holdsAfter, sameAfter,
      rest⟩
  · rintro before choice outcome after inv ⟨first, isEntries, isAgents⟩ ran
    obtain ⟨allowed, acts⟩ := perform_guarded.mp ran
    have quiet : before.refreshing = [] := of_decide_eq_true allowed
    have closed := inv.closed_of_isFirst first
    have stagedInOrder : (stageMutation setup choice.disk before.packs before.constraint
        before.registry mutation).2.InOrder := inOrder_stageMutation mutation inv.inOrder
    unfold LifecycleState.perform at acts
    dsimp only at acts
    generalize stages : stageMutation setup choice.disk before.packs before.constraint
      before.registry mutation = result at acts stagedInOrder
    obtain ⟨staged, registry⟩ := result
    cases acts
    refine ⟨?_, ?_, before.constraint, before.packs, before.bridgePolicy,
      before.sourceBridgePolicy, staged, registry, rfl, ⟨rfl, first.2, quiet, rfl, rfl⟩, ?_,
      stagedInOrder, isEntries ▸ inv.inOrder, inv.constrained quiet, ?_, ?_⟩
    · exact
        { packs := rfl
          queue := fun other isOther isFirst => by
            rw [first.2] at isFirst
            exact absurd (some.inj isFirst).symm isOther
          window := fun other isOther => by
            rw [closed]
            constructor
            · intro same
              exact absurd (some.inj same).symm isOther
            · intro bad
              cases bad
          refreshing := fun _ _ => Iff.rfl
          inWindow := fun other _ window => by
            rw [closed] at window
            cases window
          inRefresh := fun other _ mem => by
            rw [quiet] at mem
            cases mem }
    · exact
        { inOrder := stagedInOrder
          holder := fun other window => by
            rw [← some.inj window]
            exact first.2
          quiet := fun _ => quiet
          __ := inv
          constrained := fun _ => inv.constrained quiet
          installed := fun _ bad => nomatch bad
          built := fun bad => nomatch bad }
    · rw [stagedPieces, ← isAgents, ← inv.installed quiet closed]
    · rintro change rfl
      exact policies_stageMutation stages
    · intro other sameEntries
      rw [inv.built closed, enabledProfiles_congr (isEntries.trans sameEntries.symm)]

theorem safe_applyMutation_apart (mutation : PackMutation) (inv : BridgeInv state)
    (first : IsFirst thread state) :
    SafeApart setup thread (Ignoring (HasEnded thread)) (applyMutation mutation) state := by
  have ends {last : LifecycleState} (first : IsFirst thread last) (problem : LifecycleError) :
      HasEnded thread (.error problem) last := Or.inl first
  have throws {α : Type} {last : LifecycleState} {problem : LifecycleError}
      (first : IsFirst thread last) :
      SafeApart setup thread (Ignoring (HasEnded thread)) (.throw problem : LifecycleProgram α)
        last := safe_throw (stableApart_hasEnded _) (ends first problem)
  have snapshot : SafeApart setup thread (fun outcome after => ∃ entries, outcome = .ok entries ∧
      IsFirst thread after ∧ after.registry.entries = entries) (ask .snapshotRegistry) state := by
    refine safe_perform (stableApart_isFirst fun _ _ => True) ⟨first, trivial⟩ ?_ ?_
    · rintro outcome before after inv invAfter rely ⟨entries, answered, holds⟩
      exact ⟨entries, answered, stableApart_isFirst (fun registry _ => registry.entries = entries)
        before after inv invAfter rely holds⟩
    · rintro before choice outcome after inv ⟨first, -⟩ ran
      cases (perform_guarded.mp ran).2
      exact ⟨.refl _ _, inv, _, rfl, first, rfl⟩
  refine safe_bind inv snapshot ?_ ?_
  · rintro entries now invNow ⟨isEntries, answered, firstNow, entriesNow⟩
    cases answered
    have reads : SafeApart setup thread (fun outcome after => IsFirst thread after ∧
        after.registry.entries = entries ∧
          ∀ config, outcome = .ok config → config.agents = after.gatewayAgents)
        (ask .getConfig) now := by
      refine safe_perform (stableApart_isFirst fun registry _ => registry.entries = entries)
        ⟨firstNow, entriesNow⟩ ?_ ?_
      · intro outcome
        exact stableApart_isFirst fun registry gateway => registry.entries = entries ∧
          ∀ config, outcome = .ok config → config.agents = gateway
      · rintro before choice outcome after inv ⟨first, sameEntries⟩ ran
        obtain ⟨allowed, acts⟩ := perform_guarded.mp ran
        have reading : LifecycleCall.IsReading .getConfig := trivial
        have same := state_perform reading acts
        subst same
        refine ⟨.refl _ _, inv, first, sameEntries, ?_⟩
        rintro config rfl
        by_cases noHash : choice.hash = ""
        · cases (if_pos noHash).symm.trans acts
        · obtain ⟨-, ⟨-, answered⟩ | ⟨message, -, answered⟩⟩ :=
            answered_cases ((if_neg noHash).symm.trans acts)
          · cases answered
            rfl
          · cases answered
    refine safe_bind invNow reads ?_ fun _ _ _ ⟨first, _⟩ => ends first _
    rintro config read invRead ⟨firstRead, entriesRead, current⟩
    cases agentsRead : agentsFromConfig config with
    | error problem => exact throws firstRead
    | ok agents =>
      have isAgents : read.gatewayAgents = some (some agents) :=
        (current config rfl).symm.trans (agents_of_agentsFromConfig agentsRead)
      change SafeApart setup thread _ (Program.bind (Program.ofExcept (agentIds agents)) _) read
      cases agentIds agents with
      | error problem => exact throws firstRead
      | ok previousAgentIds =>
        change SafeApart setup thread _ (Program.bind (ask (.stage mutation)) _) read
        refine safe_bind invRead (safe_stage mutation ⟨firstRead, entriesRead, isAgents⟩) ?_ ?_
        · rintro answer opened invOpened ⟨constraint, packs, field, source, staged, registry,
            answered, holds, isStaged, inOrder, entriesInOrder, agrees, stagedBuilt, built⟩
          cases answered
          have rules : WindowRules setup refreshesApart BridgeInv BridgeGuarantee thread
              (Holds thread constraint packs)
              fun field source => SamePolicy field
                (constraint.constrainBridgePolicy source) := windowRules_apart
          have sound : SoundPieces (fun field source => SamePolicy field
              (constraint.constrainBridgePolicy source)) opened.toLifecyclePieces := by
            rw [isStaged]
            exact ⟨inOrder, agrees⟩
          have installs : SafeApart setup thread _
              (installChange ⟨agents, field, source, entries⟩ config.hash previousAgentIds
                staged) opened :=
            safe_installChange rules invOpened entriesInOrder agrees (fun change isChange => by
                rw [(stagedBuilt change isChange).2])
              ⟨holds, sound, isStaged⟩
          refine installs.mono ?_
          rintro outcome last invLast ⟨holdsLast, -, claim⟩
          refine Or.inr ⟨constraint, packs, holdsLast, ?_⟩
          cases outcome with
          | ok ids =>
            obtain ⟨change, isChange, done⟩ := claim
            refine Or.inr ⟨?_, done.core.trans done.field.symm⟩
            rw [done.source, done.registry]
            exact (stagedBuilt change isChange).1
          | error problem =>
            refine claim.imp_right fun restored => ?_
            refine ⟨?_, restored.core.trans restored.field.symm⟩
            rw [restored.source]
            exact built _ restored.entries
        · rintro error last - ⟨_, _, _, _, _, _, bad, -⟩
          cases bad
  · rintro error last - ⟨entries, bad, -⟩
    cases bad

theorem window_ne_some {other : Nat} (window : state.window = some thread ∨ state.window = none)
    (isOther : other ≠ thread) : state.window ≠ some other := by
  intro same
  rcases window with window | window
  · rw [window] at same
    exact isOther (some.inj same).symm
  · rw [window] at same
    cases same

theorem operationRules_apart :
    OperationRules setup refreshesApart BridgeInv BridgeGuarantee thread (IsIdleThread thread)
      (IsFirst thread) (HasEnded thread) (fun _ => IsIdleThread thread) where
  quiet := BridgeGuarantee.refl thread
  waitingStable := stableApart_isIdle
  firstStable before after inv invAfter rely first :=
    (stableApart_isFirst (fun _ _ => True) before after inv invAfter rely ⟨first, trivial⟩).1
  endedStable := stableApart_hasEnded
  doneStable _ := stableApart_isIdle
  enqueues state inv idle := by
    have keepsFirst {other : Nat} (first : state.queue.head? = some other) :
        (state.queue ++ [thread]).head? = some other := by
      rw [List.head?_append, first, some_or]
    refine ⟨?_, ?_, idle⟩
    · exact
        { BridgeGuarantee.refl thread state with
          queue := fun other _ first => ⟨keepsFirst first, rfl, rfl⟩ }
    · exact
        { inv with
          holder := fun other window => keepsFirst (inv.holder other window) }
  acquires _ _ idle first := ⟨idle, first⟩
  applies mutation _ inv first := safe_applyMutation_apart mutation inv first
  unchanged _ _ first := Or.inl first
  wraps code message error state ended := by
    refine ended.imp_right ?_
    rintro ⟨constraint, packs, holds, claim⟩
    refine ⟨constraint, packs, holds, claim.imp_left fun failed => ?_⟩
    have hasCode : error.code = some .configRollbackFailed := failed
    simp only [failureOf, wrapError, hasCode, isSome_some, if_true]
  leaves outcome choice state inv ended allowed := by
    have noFailure : failureOf outcome ≠ some .configRollbackFailed := of_decide_eq_true allowed
    have first : state.queue.head? = some thread := by
      rcases ended with first | ⟨_, _, holds, -⟩
      · exact first.2
      · exact holds.first
    have window : state.window = some thread ∨ state.window = none := by
      rcases ended with isFirst | ⟨_, _, holds, -⟩
      · exact Or.inr (inv.closed_of_isFirst isFirst)
      · exact Or.inl holds.window
    have noOther {other : Nat} (isOther : other ≠ thread) : state.window ≠ some other :=
      window_ne_some window isOther
    refine ⟨?_, ?_, nofun, ?_⟩
    · exact
        { packs := rfl
          queue := fun other isOther isFirst => by
            rw [first] at isFirst
            exact absurd (some.inj isFirst).symm isOther
          window := fun other isOther => ⟨nofun, fun same => absurd same (noOther isOther)⟩
          refreshing := fun _ _ => Iff.rfl
          inWindow := fun other isOther same => absurd same (noOther isOther)
          inRefresh := fun _ _ _ => ⟨rfl, rfl, Or.inl rfl⟩ }
    · rcases ended with isFirst | ⟨constraint, packs, holds, claim⟩
      · have closed := inv.closed_of_isFirst isFirst
        exact
          { inv with
            holder := fun _ => nofun
            quiet := fun bad => absurd rfl bad
            installed := fun quiet _ => inv.installed quiet closed
            built := fun _ => inv.built closed }
      · obtain ⟨built, installed⟩ := claim.resolve_left noFailure
        exact
          { inv with
            holder := fun _ => nofun
            quiet := fun bad => absurd rfl bad
            installed := fun _ _ => installed
            built := fun _ => by
              change state.sourceBridgePolicy = _
              rw [built, holds.packs] }
    · rcases ended with isFirst | ⟨_, _, holds, -⟩
      · exact isFirst.1.2
      · change thread ∉ state.refreshing
        rw [holds.quiet]
        exact List.not_mem_nil

end Threads

end LongHub
