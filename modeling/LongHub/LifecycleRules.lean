import LongHub.AgentLifecycle
import LongHub.RelyGuarantee

/-!
# Installing a change, or undoing it

What follows the staging of a change is proved once, for any way in which other threads may
interfere that leaves the pieces of the change alone.
-/

namespace LongHub

open AgentLifecycleCoordinator AgentRegistry LifecycleState

section Registry

variable {setup : LifecycleSetup} {choice : LifecycleChoice} {registry after : AgentRegistry}

variable {snapshot : List AgentRegistryEntry} {constraint : BridgeConstraint}

theorem inOrder_restoreRegistry (inOrder : registry.InOrder) :
    (restoreRegistry setup choice registry snapshot).2.InOrder := by
  unfold restoreRegistry restore
  repeat' split
  all_goals first
    | exact inOrder
    | exact inOrder_commit inOrder

theorem entries_restoreRegistry (inOrder : snapshot.Pairwise entryLe)
    (restored : restoreRegistry setup choice registry snapshot = (.ok (), after)) :
    after.entries = snapshot := by
  unfold restoreRegistry at restored
  split at restored
  · next same =>
    cases restored
    exact same
  · exact entries_restore inOrder restored

variable {disk : Disk} {packs : PackStore}

theorem inOrder_revokePacks (packIds : List String) (inOrder : registry.InOrder) :
    (revokePacks disk packIds registry).2.InOrder := by
  induction packIds generalizing registry with
  | nil => exact inOrder
  | cons packId rest ih =>
    have disabled : (registry.setPackEnabled disk packId false).2.InOrder :=
      inOrder_setPackEnabled inOrder packId false
    simp only [revokePacks]
    split
    · next problem after equal =>
      rw [equal] at disabled
      exact disabled
    · next after equal =>
      rw [equal] at disabled
      exact ih disabled

theorem inOrder_mutate (mutation : PackMutation) (inOrder : registry.InOrder) :
    (mutate setup disk packs registry mutation).2.InOrder := by
  have registered (pack : ActivePack) (enabled : Option Bool) :
      (registry.register setup.node disk pack enabled).2.InOrder :=
    inOrder_register inOrder pack enabled
  cases mutation with
  | enable packId pack =>
    have enabled := registered pack (some true)
    simp only [mutate]
    split
    · next problem after equal =>
      rw [equal] at enabled
      exact enabled
    · next entry after equal =>
      rw [equal] at enabled
      split <;> exact enabled
  | disable packId =>
    simp only [mutate]
    split
    · exact inOrder
    · exact inOrder
    · next pack _ _ =>
      split
      · exact inOrder_setPackEnabled inOrder packId false
      · exact registered pack (some false)
  | revoke packIds => exact inOrder_revokePacks packIds inOrder

theorem inOrder_stageMutation (mutation : PackMutation) (inOrder : registry.InOrder) :
    (stageMutation setup disk packs constraint registry mutation).2.InOrder := by
  have mutated : (mutate setup disk packs registry mutation).2.InOrder :=
    inOrder_mutate mutation inOrder
  unfold stageMutation
  split
  · next problem after equal =>
    rw [equal] at mutated
    exact mutated
  · next middle equal =>
    rw [equal] at mutated
    have activated : (activateInstalledAgentProfiles setup.node disk packs middle).2.InOrder := by
      unfold activateInstalledAgentProfiles
      split
      · exact mutated
      · exact inOrder_activateAll _ mutated
    split
    · next problem last activates =>
      rw [activates] at activated
      exact activated
    · next profiles last activates =>
      rw [activates] at activated
      split <;> exact activated

theorem policies_stageMutation {mutation : PackMutation} {change : StagedChange}
    (stages : stageMutation setup disk packs constraint registry mutation = (.ok change, after)) :
    change.sourceBridgePolicy = buildToolBridgePolicy (enabledProfiles packs after) ∧
      change.bridgePolicy = constraint.constrainBridgePolicy change.sourceBridgePolicy := by
  unfold stageMutation at stages
  split at stages
  · cases stages
  · split at stages
    · cases stages
    · next profiles last activates =>
      split at stages
      · cases stages
      · cases stages
        exact ⟨congrArg buildToolBridgePolicy (profiles_activate activates), rfl⟩

end Registry

theorem agents_of_agentsFromConfig {config : GatewayConfig} {agents : List GatewayAgent}
    (read : agentsFromConfig config = .ok agents) : config.agents = some (some agents) := by
  unfold agentsFromConfig at read
  split at read
  · cases read
  · cases read
  · next inside =>
    cases read
    exact inside

abbrev guardedMachine (setup : LifecycleSetup)
    (condition : Nat → LifecycleCall → LifecycleChoice → LifecycleState → Bool) :=
  (lifecycleMachine setup).restrict condition

section Window

variable (setup : LifecycleSetup)
variable (condition : Nat → LifecycleCall → LifecycleChoice → LifecycleState → Bool)
variable (Inv : LifecycleState → Prop)
variable (Guarantee : Nat → LifecycleState → LifecycleState → Prop) (thread : Nat)
variable (Held : LifecycleState → Prop)
variable (Agree : BridgeExecutionPolicy → BridgeExecutionPolicy → Prop)

def SoundPieces (pieces : LifecyclePieces) : Prop :=
  pieces.registry.InOrder ∧ Agree pieces.bridgePolicy pieces.sourceBridgePolicy

def During (claim : LifecyclePieces → Prop) (state : LifecycleState) : Prop :=
  Held state ∧ SoundPieces Agree state.toLifecyclePieces ∧ claim state.toLifecyclePieces

/-- Others leave the pieces alone, the operation may change them, and a callback
throws only when the field is to stay as it is. -/
structure WindowRules : Prop where
  stable : ∀ claim : LifecyclePieces → Prop,
    (guardedMachine setup condition).Stable Inv Guarantee thread
      fun state => Held state ∧ claim state.toLifecyclePieces
  keeps : ∀ (state : LifecycleState) (pieces : LifecyclePieces), Inv state → Held state →
    SoundPieces Agree pieces →
      Guarantee thread state { state with toLifecyclePieces := pieces } ∧
        Inv { state with toLifecyclePieces := pieces } ∧
          Held { state with toLifecyclePieces := pieces }
  publishes : ∀ (choice : LifecycleChoice) (state : LifecycleState) (change : StagedChange)
    (removed : List String), condition thread (.publish change removed) choice state = true →
      choice.failure = none ∨ change.bridgePolicy = state.bridgePolicy

def Effect (call : LifecycleCall) (claim : LifecyclePieces → Prop)
    (answers : Except LifecycleError call.Answer → LifecyclePieces → Prop) : Prop :=
  ∀ (choice : LifecycleChoice) (state : LifecycleState) outcome after,
    condition thread call choice state = true →
    SoundPieces Agree state.toLifecyclePieces → claim state.toLifecyclePieces →
    state.perform setup thread choice call = some (outcome, after) →
      ∃ pieces, after = { state with toLifecyclePieces := pieces } ∧
        SoundPieces Agree pieces ∧ answers outcome pieces

end Window

section Rules

variable {setup : LifecycleSetup}
variable {condition : Nat → LifecycleCall → LifecycleChoice → LifecycleState → Bool}
variable {Inv : LifecycleState → Prop}
variable {Guarantee : Nat → LifecycleState → LifecycleState → Prop} {thread : Nat}
variable {Held : LifecycleState → Prop}
variable {Agree : BridgeExecutionPolicy → BridgeExecutionPolicy → Prop}
variable {state : LifecycleState} {α β : Type}

variable {choice : LifecycleChoice} {before : LifecyclePieces} {baseHash : String}
  {undo : LifecycleUndo} {registry : AgentRegistry}

variable {call : LifecycleCall} {claims : Except LifecycleError α → LifecyclePieces → Prop}
  {error : LifecycleError} {after : LifecycleState} {outcome : Except LifecycleError α}
  {change : StagedChange} {gatewayAttempted bridgeAttempted : Bool} {previousAgentIds : List String}
  {staged : Except LifecycleError StagedChange}

theorem perform_guarded {result : Except LifecycleError call.Answer × LifecycleState} :
    (guardedMachine setup condition).perform thread call choice state = some result ↔
      condition thread call choice state = true ∧
        state.perform setup thread choice call = some result := by
  simp only [guardedMachine, Machine.restrict, lifecycleMachine]
  split
  · next holds => simp [holds]
  · next fails => simp [fails]

abbrev EndsDuring (Held : LifecycleState → Prop)
    (Agree : BridgeExecutionPolicy → BridgeExecutionPolicy → Prop)
    (claims : Except LifecycleError α → LifecyclePieces → Prop) :
    Except LifecycleError α → LifecycleState → Prop :=
  fun outcome => During Held Agree (claims outcome)

variable (rules : WindowRules setup condition Inv Guarantee thread Held Agree)

/-- The program ends in the window as the claims say. -/
abbrev WindowRules.Safe (_ : WindowRules setup condition Inv Guarantee thread Held Agree)
    (claims : Except LifecycleError α → LifecyclePieces → Prop) (program : LifecycleProgram α)
    (state : LifecycleState) : Prop :=
  (guardedMachine setup condition).Safe Inv Guarantee thread (EndsDuring Held Agree claims) program
    state

theorem WindowRules.safe_ask {claim : LifecyclePieces → Prop}
    {answers : Except LifecycleError call.Answer → LifecyclePieces → Prop}
    (effect : Effect setup condition thread Agree call claim answers)
    (holds : During Held Agree claim state) : rules.Safe answers (ask call) state := by
  have stable (claim : LifecyclePieces → Prop) :
      (guardedMachine setup condition).Stable Inv Guarantee thread (During Held Agree claim) :=
    rules.stable fun pieces => SoundPieces Agree pieces ∧ claim pieces
  apply Machine.safe_call (stable claim) holds
  rintro before choice outcome after inv ⟨held, sound, holdsBefore⟩ ran
  obtain ⟨allowed, acts⟩ := perform_guarded.mp ran
  obtain ⟨pieces, rfl, soundAfter, answered⟩ :=
    effect choice before outcome after allowed sound holdsBefore acts
  obtain ⟨guarantee, invAfter, heldAfter⟩ := rules.keeps before pieces inv held soundAfter
  refine ⟨guarantee, invAfter, ?_⟩
  cases outcome with
  | ok answer => exact Machine.safe_pure (stable _) ⟨heldAfter, soundAfter, answered⟩
  | error error => exact Machine.safe_throw (stable _) ⟨heldAfter, soundAfter, answered⟩

theorem WindowRules.safe_throw (holds : During Held Agree (claims (.error error)) state) :
    rules.Safe claims (.throw error) state :=
  Machine.safe_throw (rules.stable fun pieces => SoundPieces Agree pieces ∧ claims _ pieces) holds

theorem WindowRules.safe_pure {value : α} (holds : During Held Agree (claims (.ok value)) state) :
    rules.Safe claims (.pure value) state :=
  Machine.safe_pure (rules.stable fun pieces => SoundPieces Agree pieces ∧ claims _ pieces) holds

/-- Go on after a part, in the states that it answers in. -/
theorem safe_next {first : Except LifecycleError α → LifecyclePieces → Prop}
    {last : Except LifecycleError β → LifecyclePieces → Prop} {program : LifecycleProgram α}
    {next : α → LifecycleProgram β} (inv : Inv state)
    (safe : (guardedMachine setup condition).Safe Inv Guarantee thread (EndsDuring Held Agree first)
      program state)
    (continues : ∀ value state, Inv state → During Held Agree (first (.ok value)) state →
      (guardedMachine setup condition).Safe Inv Guarantee thread (EndsDuring Held Agree last)
        (next value) state)
    (throws : ∀ error pieces, first (.error error) pieces → last (.error error) pieces) :
    (guardedMachine setup condition).Safe Inv Guarantee thread (EndsDuring Held Agree last)
      (program >>= next) state :=
  Machine.safe_bind inv safe continues fun error _ _ ⟨held, sound, holds⟩ =>
    ⟨held, sound, throws error _ holds⟩

theorem answered_cases {answer : α}
    (acts : answered choice answer state = some (outcome, after)) :
    after = state ∧ (choice.failure = none ∧ outcome = .ok answer ∨
      ∃ message, choice.failure = some message ∧ outcome = .error (.plain message)) := by
  unfold answered at acts
  split at acts
  · next answers =>
    cases acts
    exact ⟨rfl, Or.inl ⟨answers, rfl⟩⟩
  · next message fails =>
    cases acts
    exact ⟨rfl, Or.inr ⟨message, fails, rfl⟩⟩

theorem requested_cases {done : LifecycleState} {outcome : Except LifecycleError Unit}
    (acts : requested choice state done = some (outcome, after)) :
    (outcome = .ok () ∧ after = done) ∨
      ((∃ message, outcome = .error (.plain message)) ∧ (after = done ∨ after = state)) := by
  obtain ⟨isAfter, ⟨answers, rfl⟩ | ⟨message, fails, rfl⟩⟩ := answered_cases acts
  · rw [answers] at isAfter
    exact Or.inl ⟨rfl, isAfter⟩
  · refine Or.inr ⟨⟨message, rfl⟩, ?_⟩
    split at isAfter
    · exact Or.inl isAfter
    · exact Or.inr isAfter

theorem effect_replaceBridgePolicy {policy : BridgeExecutionPolicy} :
    Effect setup condition thread Agree (.replaceBridgePolicy false policy) (· = before)
      fun outcome pieces => ∃ core, pieces = { before with corePolicy := core } ∧
        (outcome = .ok () → core = policy) := by
  rintro choice state outcome after - sound rfl acts
  rcases requested_cases acts with ⟨rfl, rfl⟩ | ⟨⟨message, rfl⟩, rfl | rfl⟩
  · exact ⟨{ state.toLifecyclePieces with corePolicy := policy }, rfl, sound, _, rfl,
      fun _ => rfl⟩
  · exact ⟨{ state.toLifecyclePieces with corePolicy := policy }, rfl, sound, _, rfl, nofun⟩
  · exact ⟨after.toLifecyclePieces, rfl, sound, after.corePolicy, rfl, nofun⟩

theorem effect_replaceAgents {agents : List GatewayAgent} :
    Effect setup condition thread Agree (.replaceAgents agents baseHash) (· = before)
      fun outcome pieces => ∃ gateway, pieces = { before with gatewayAgents := gateway } ∧
        (outcome = .ok () → gateway = some (some agents)) := by
  rintro choice state outcome after - sound rfl acts
  by_cases noHash : baseHash = ""
  · have refused := (if_pos noHash).symm.trans acts
    cases refused
    exact ⟨state.toLifecyclePieces, rfl, sound, state.gatewayAgents, rfl, nofun⟩
  · have requested := (if_neg noHash).symm.trans acts
    rcases requested_cases requested with ⟨rfl, rfl⟩ | ⟨⟨message, rfl⟩, rfl | rfl⟩
    · exact ⟨{ state.toLifecyclePieces with gatewayAgents := some (some agents) }, rfl, sound, _,
        rfl, fun _ => rfl⟩
    · exact ⟨{ state.toLifecyclePieces with gatewayAgents := some (some agents) }, rfl, sound, _,
        rfl, nofun⟩
    · exact ⟨after.toLifecyclePieces, rfl, sound, after.gatewayAgents, rfl, nofun⟩

theorem effect_listAgents : Effect setup condition thread Agree .listAgents (· = before)
      fun _ pieces => pieces = before := by
  rintro choice state outcome after - sound holds acts
  cases acts
  exact ⟨state.toLifecyclePieces, rfl, sound, holds⟩

theorem effect_getConfig : Effect setup condition thread Agree .getConfig (· = before)
      fun outcome pieces => pieces = before ∧
        ∀ config, outcome = .ok config → config.agents = before.gatewayAgents := by
  rintro choice state outcome after - sound rfl acts
  by_cases noHash : choice.hash = ""
  · have refused := (if_pos noHash).symm.trans acts
    cases refused
    exact ⟨state.toLifecyclePieces, rfl, sound, rfl, nofun⟩
  · have answers := (if_neg noHash).symm.trans acts
    obtain ⟨rfl, ⟨-, rfl⟩ | ⟨message, -, rfl⟩⟩ := answered_cases answers
    · refine ⟨after.toLifecyclePieces, rfl, sound, rfl, fun config answered => ?_⟩
      cases answered
      rfl
    · exact ⟨after.toLifecyclePieces, rfl, sound, rfl, nofun⟩

include rules in
theorem effect_publish {removed : List String}
    (agrees : Agree change.bridgePolicy change.sourceBridgePolicy) :
    Effect setup condition thread Agree (.publish change removed) (· = before)
      fun outcome pieces => pieces = { before with
        bridgePolicy := change.bridgePolicy
        sourceBridgePolicy := change.sourceBridgePolicy } ∧
          (outcome = .ok () ∨ change.bridgePolicy = before.bridgePolicy) := by
  rintro choice state outcome after allowed sound rfl acts
  obtain ⟨rfl, answered⟩ := answered_cases acts
  refine ⟨{ state.toLifecyclePieces with
    bridgePolicy := change.bridgePolicy
    sourceBridgePolicy := change.sourceBridgePolicy }, rfl, ⟨sound.1, agrees⟩, rfl, ?_⟩
  rcases answered with ⟨-, rfl⟩ | ⟨message, failed, -⟩
  · exact Or.inl rfl
  · rcases rules.publishes choice state change removed allowed with answered | same
    · rw [failed] at answered
      cases answered
    · exact Or.inr same

theorem effect_restore {source : BridgeExecutionPolicy} {snapshot : List AgentRegistryEntry}
    (inOrder : snapshot.Pairwise entryLe) (agrees : Agree before.bridgePolicy source) :
    Effect setup condition thread Agree (.restore source snapshot) (· = before)
      fun outcome pieces => outcome = .ok () → ∃ registry,
        pieces = { before with sourceBridgePolicy := source, registry } ∧
          registry.entries = snapshot := by
  rintro choice state outcome after - sound rfl acts
  simp only [perform] at acts
  generalize restored : restoreRegistry setup choice state.registry snapshot =
    result at acts
  obtain ⟨answer, registry⟩ := result
  have restoredInOrder :
      (restoreRegistry setup choice state.registry snapshot).2.InOrder :=
    inOrder_restoreRegistry sound.1
  rw [restored] at restoredInOrder
  cases acts
  refine ⟨{ state.toLifecyclePieces with sourceBridgePolicy := source, registry }, rfl,
    ⟨restoredInOrder, agrees⟩, ?_⟩
  rintro rfl
  exact ⟨registry, rfl, entries_restoreRegistry inOrder restored⟩

/-- The pieces while a change is being undone. -/
structure Undoing (undo : LifecycleUndo) (gatewayDone bridgeDone : Prop)
    (pieces : LifecyclePieces) : Prop where
  field : pieces.bridgePolicy = undo.bridgePolicy
  gateway : gatewayDone → pieces.gatewayAgents = some (some undo.agents)
  core : bridgeDone → pieces.corePolicy = undo.bridgePolicy

/-- Everything is as it was. -/
structure Restored (undo : LifecycleUndo) (pieces : LifecyclePieces) : Prop where
  entries : pieces.registry.entries = undo.entries
  gateway : pieces.gatewayAgents = some (some undo.agents)
  core : pieces.corePolicy = undo.bridgePolicy
  field : pieces.bridgePolicy = undo.bridgePolicy
  source : pieces.sourceBridgePolicy = undo.sourceBridgePolicy

/-- What a handler may end in. -/
def Undone (undo : LifecycleUndo) : Except LifecycleError α → LifecyclePieces → Prop
  | .ok _, _ => False
  | .error error, pieces => error.code = some .configRollbackFailed ∨ Restored undo pieces

theorem safe_rollbackGatewayAgents (inv : Inv state) {bridgeDone : Prop}
    (holds : During Held Agree (Undoing undo False bridgeDone) state) :
    rules.Safe (fun outcome pieces => outcome = .ok () → Undoing undo True bridgeDone pieces)
      (rollbackGatewayAgents undo.agents) state := by
  obtain ⟨held, sound, undoing⟩ := holds
  refine safe_next inv (rules.safe_ask effect_getConfig ⟨held, sound, rfl⟩) ?_ fun _ _ _ => nofun
  rintro config now invNow ⟨held, sound, same, isCurrent⟩
  rw [← same] at undoing
  have current := isCurrent config rfl
  rw [← same] at current
  cases read : agentsFromConfig config with
  | error problem => exact rules.safe_throw ⟨held, sound, nofun⟩
  | ok agents =>
    have isAgents : now.gatewayAgents = some (some agents) :=
      current.symm.trans (agents_of_agentsFromConfig read)
    change (guardedMachine setup condition).Safe Inv Guarantee thread _ (if _ then _ else _) now
    split
    · next unchanged =>
      subst unchanged
      exact rules.safe_pure ⟨held, sound, fun _ => ⟨undoing.field, fun _ => isAgents, undoing.core⟩⟩
    · refine safe_next invNow (rules.safe_ask effect_replaceAgents ⟨held, sound, rfl⟩) ?_
        fun _ _ _ => nofun
      rintro answer replaced invReplaced ⟨held, sound, gateway, isReplaced, isWritten⟩
      have undone : Undoing undo True bridgeDone replaced.toLifecyclePieces := by
        rw [isReplaced, isWritten rfl]
        exact ⟨undoing.field, fun _ => rfl, undoing.core⟩
      refine safe_next invReplaced (rules.safe_ask effect_listAgents ⟨held, sound, rfl⟩) ?_
        fun _ _ _ => nofun
      rintro confirmed last invLast ⟨held, sound, same⟩
      rw [← same] at undone
      cases agentIds undo.agents with
      | error problem => exact rules.safe_throw ⟨held, sound, nofun⟩
      | ok previousIds =>
        change (guardedMachine setup condition).Safe Inv Guarantee thread _
          (if _ then _ else _) last
        split
        · exact rules.safe_throw ⟨held, sound, nofun⟩
        · exact rules.safe_pure ⟨held, sound, fun _ => undone⟩

theorem safe_undoChange
    (inv : Inv state) (inOrder : undo.entries.Pairwise entryLe)
    (agrees : Agree undo.bridgePolicy undo.sourceBridgePolicy) (holds : During Held Agree
      (Undoing undo (gatewayAttempted = false) (bridgeAttempted = false)) state) :
    rules.Safe (fun outcome pieces => outcome = .ok () → Restored undo pieces)
      (undoChange undo gatewayAttempted bridgeAttempted) state := by
  -- the last call, when all the rest is done
  have restores {now : LifecycleState} (_ : Inv now)
      (done : During Held Agree (Undoing undo True True) now) :
      rules.Safe (fun outcome pieces => outcome = .ok () → Restored undo pieces)
        (ask (.restore undo.sourceBridgePolicy undo.entries)) now := by
    obtain ⟨held, sound, undoing⟩ := done
    have agreesNow : Agree now.bridgePolicy undo.sourceBridgePolicy := by
      rw [undoing.field]
      exact agrees
    refine (rules.safe_ask (effect_restore inOrder agreesNow) ⟨held, sound, rfl⟩).mono ?_
    rintro outcome last - ⟨held, sound, restored⟩
    refine ⟨held, sound, fun isOk => ?_⟩
    obtain ⟨registry, isLast, entries⟩ := restored isOk
    rw [isLast]
    exact ⟨entries, undoing.gateway trivial, undoing.core trivial, undoing.field, rfl⟩
  have replaces {now : LifecycleState} (invNow : Inv now)
      (done : During Held Agree (Undoing undo True (bridgeAttempted = false)) now) :
      rules.Safe (fun outcome pieces => outcome = .ok () → Restored undo pieces)
        (do
          if bridgeAttempted then ask (.replaceBridgePolicy false undo.bridgePolicy)
          ask (.restore undo.sourceBridgePolicy undo.entries)) now := by
    cases bridgeAttempted with
    | false =>
      obtain ⟨held, sound, undoing⟩ := done
      exact restores invNow ⟨held, sound, undoing.field, undoing.gateway, fun _ => undoing.core rfl⟩
    | true =>
      obtain ⟨held, sound, undoing⟩ := done
      refine safe_next invNow (rules.safe_ask effect_replaceBridgePolicy ⟨held, sound, rfl⟩) ?_
        fun _ _ _ => nofun
      rintro answer last invLast ⟨held, sound, core, isLast, isWritten⟩
      apply restores invLast
      refine ⟨held, sound, ?_⟩
      rw [isLast, isWritten rfl]
      exact ⟨undoing.field, undoing.gateway, fun _ => rfl⟩
  cases gatewayAttempted with
  | false =>
    obtain ⟨held, sound, undoing⟩ := holds
    exact replaces inv ⟨held, sound, undoing.field, fun _ => undoing.gateway rfl, undoing.core⟩
  | true =>
    obtain ⟨held, sound, undoing⟩ := holds
    refine safe_next inv (safe_rollbackGatewayAgents rules inv
      ⟨held, sound, undoing.field, nofun, undoing.core⟩) ?_ fun _ _ _ => nofun
    rintro answer now invNow ⟨held, sound, undone⟩
    exact replaces invNow ⟨held, sound, undone rfl⟩

/-- The handler restores everything, or it fails under the code of failed rollbacks. -/
theorem safe_rollback
    (inv : Inv state) (inOrder : undo.entries.Pairwise entryLe)
    (agrees : Agree undo.bridgePolicy undo.sourceBridgePolicy) (holds : During Held Agree
      (Undoing undo (gatewayAttempted = false) (bridgeAttempted = false)) state) :
    rules.Safe (Undone undo)
      (rollback undo gatewayAttempted bridgeAttempted error) state := by
  have caught : rules.Safe (fun outcome pieces => match outcome with
        | .ok () => Restored undo pieces
        | .error problem => problem.code = some .configRollbackFailed)
      ((undoChange undo gatewayAttempted bridgeAttempted).tryCatch fun problem =>
        .throw (.ofCode .configRollbackFailed ("OpenClaw 配置回滚失败: " ++ problem.message)))
      state := by
    refine Machine.safe_tryCatch inv (safe_undoChange rules inv inOrder agrees holds) ?_ ?_
    · rintro problem now - ⟨held, sound, -⟩
      exact rules.safe_throw ⟨held, sound, rfl⟩
    · rintro answer now - ⟨held, sound, restored⟩
      exact ⟨held, sound, restored rfl⟩
  refine safe_next inv caught ?_ fun problem pieces failed => Or.inl failed
  rintro answer now - ⟨held, sound, restored⟩
  exact rules.safe_throw ⟨held, sound, Or.inr restored⟩

def stagedPieces (undo : LifecycleUndo) (registry : AgentRegistry) : LifecyclePieces where
  registry
  gatewayAgents := some (some undo.agents)
  corePolicy := undo.bridgePolicy
  bridgePolicy := undo.bridgePolicy
  sourceBridgePolicy := undo.sourceBridgePolicy

structure Installed (change : StagedChange) (registry : AgentRegistry)
    (pieces : LifecyclePieces) : Prop where
  registry : pieces.registry = registry
  core : pieces.corePolicy = change.bridgePolicy
  field : pieces.bridgePolicy = change.bridgePolicy
  source : pieces.sourceBridgePolicy = change.sourceBridgePolicy

theorem safe_writeGateway
    (inv : Inv state) (agrees : Agree change.bridgePolicy change.sourceBridgePolicy)
    (holds : During Held Agree
      (· = { stagedPieces undo registry with corePolicy := change.bridgePolicy }) state) :
    rules.Safe (fun outcome pieces => match outcome with
        | .ok _ => Installed change registry pieces
        | .error _ => pieces.bridgePolicy = undo.bridgePolicy)
      (writeGateway change baseHash previousAgentIds) state := by
  obtain ⟨held, sound, isStaged⟩ := holds
  refine safe_next inv (rules.safe_ask effect_replaceAgents ⟨held, sound, rfl⟩) ?_ ?_
  · rintro answer now invNow ⟨held, sound, gateway, isNow, -⟩
    rw [isStaged] at isNow
    refine safe_next invNow (rules.safe_ask effect_listAgents ⟨held, sound, rfl⟩) ?_ ?_
    · rintro confirmed listed invListed ⟨held, sound, isListed⟩
      rw [isNow] at isListed
      have fieldListed : listed.bridgePolicy = undo.bridgePolicy := by
        rw [isListed]
        rfl
      split
      · exact rules.safe_throw ⟨held, sound, fieldListed⟩
      · refine safe_next invListed (rules.safe_ask (effect_publish rules agrees)
          ⟨held, sound, rfl⟩) ?_ ?_
        · rintro answer last - ⟨held, sound, isLast, -⟩
          refine rules.safe_pure ⟨held, sound, ?_⟩
          rw [isLast, isListed]
          exact ⟨rfl, rfl, rfl, rfl⟩
        · rintro error pieces ⟨isLast, bad | same⟩
          · cases bad
          · rw [isLast]
            exact same.trans fieldListed
    · rintro error pieces isListed
      rw [isListed, isNow]
      rfl
  · rintro error pieces ⟨gateway, isNow, -⟩
    rw [isNow, isStaged]
    rfl

def ChangeEnds (undo : LifecycleUndo) (registry : AgentRegistry)
    (staged : Except LifecycleError StagedChange) : Except LifecycleError α → LifecyclePieces → Prop
  | .ok _, pieces => ∃ change, staged = .ok change ∧ Installed change registry pieces
  | .error error, pieces => error.code = some .configRollbackFailed ∨ Restored undo pieces

theorem changeEnds_of_undone {pieces : LifecyclePieces} (undone : Undone undo outcome pieces) :
    ChangeEnds undo registry staged outcome pieces := by
  cases outcome with
  | ok value => exact undone.elim
  | error error => exact undone

theorem safe_installChange (inv : Inv state) (inOrder : undo.entries.Pairwise entryLe)
    (agrees : Agree undo.bridgePolicy undo.sourceBridgePolicy)
    (stagedAgrees : ∀ change, staged = .ok change →
      Agree change.bridgePolicy change.sourceBridgePolicy)
    (holds : During Held Agree (· = stagedPieces undo registry) state) :
    rules.Safe (ChangeEnds undo registry staged)
      (installChange undo baseHash previousAgentIds staged) state := by
  -- wherever a step threw, the handler takes over
  have handles {now : LifecycleState} (invNow : Inv now) {gatewayAttempted bridgeAttempted : Bool}
      {error : LifecycleError} (undoing : During Held Agree
        (Undoing undo (gatewayAttempted = false) (bridgeAttempted = false)) now) :
      rules.Safe (ChangeEnds undo registry staged)
        (rollback undo gatewayAttempted bridgeAttempted error) now :=
    (safe_rollback rules invNow inOrder agrees undoing).mono
      fun outcome last _ ⟨held, sound, undone⟩ => ⟨held, sound, changeEnds_of_undone undone⟩
  obtain ⟨held, sound, isStaged⟩ := holds
  cases staged with
  | error error =>
    apply handles inv
    refine ⟨held, sound, ?_⟩
    rw [isStaged]
    exact ⟨rfl, fun _ => rfl, fun _ => rfl⟩
  | ok change =>
    have replaced : (guardedMachine setup condition).Safe Inv Guarantee thread _
        (ask (.replaceBridgePolicy false change.bridgePolicy)) state :=
      rules.safe_ask effect_replaceBridgePolicy ⟨held, sound, rfl⟩
    refine Machine.safe_bind inv (Machine.safe_attempt replaced) ?_ ?_
    · rintro answer now invNow ⟨outcome, equal, held, sound, core, isNow, isWritten⟩
      cases equal
      rw [isStaged] at isNow
      cases answer with
      | error error =>
        apply handles invNow
        refine ⟨held, sound, ?_⟩
        rw [isNow]
        exact ⟨rfl, fun _ => rfl, nofun⟩
      | ok answer =>
        rw [isWritten rfl] at isNow
        have written : (guardedMachine setup condition).Safe Inv Guarantee thread _
            (writeGateway change baseHash previousAgentIds) now :=
          safe_writeGateway rules invNow (stagedAgrees change rfl) ⟨held, sound, isNow⟩
        refine Machine.safe_bind invNow (Machine.safe_attempt written) ?_ ?_
        · rintro result last invLast ⟨outcome, equal, held, sound, claim⟩
          cases equal
          cases result with
          | error error =>
            exact handles invLast ⟨held, sound, claim, nofun, nofun⟩
          | ok expectedIds =>
            exact rules.safe_pure ⟨held, sound, change, rfl, claim⟩
        · rintro error last - ⟨outcome, bad, -⟩
          cases bad
    · rintro error last - ⟨outcome, bad, -⟩
      cases bad

end Rules

end LongHub
