import LongHub.AgentComposition
import LongHub.GuardedRun
import LongHub.SkillTurns

/-!
# The policy of Skills and the restarts of the desktop

The registry of Skills is a file, but the grants that constrain the policy of Core are a variable of
the process.
-/

namespace LongHub

open Bool List

namespace SkillTransaction

open SkillLifecycleCoordinator

structure SkillDesktop where
  pool : Pool SkillSystem SkillCall SkillCall.Answer SkillError
  /-- The feature policy comes from the network and allows the catalog of Skills. -/
  writeAllowed : Bool

inductive DesktopAction where
  | act (action : PoolAction SkillChoice SkillRequest Empty)
  | refreshFeaturePolicy (writeAllowed : Bool)
  /-- The backup is what the file was before the last commit. -/
  | restart (backup : SkillRegistry)

namespace SkillDesktop

def stores (desktop : SkillDesktop) : SkillStores := desktop.pool.shared.toSkillStores

def started (registry : SkillRegistry) : SkillDesktop :=
  ⟨Machine.initial (.ofStores ⟨registry, [], []⟩), false⟩

/-- The registry that a start finds; a revision that is no safe integer is refused, and the
backup takes the place of the file. -/
def loaded (desktop : SkillDesktop) (backup : SkillRegistry) : SkillRegistry :=
  if isSafeRevision desktop.stores.registry.revision then desktop.stores.registry else backup

def step (condition : SkillChoice → SkillStores → SkillStep → Bool) (setup : SkillSetup)
    (desktop : SkillDesktop) : DesktopAction → Option SkillDesktop
  | .act action =>
    ((guardedSkills condition setup).step desktop.pool action).map fun pool =>
      { desktop with pool }
  | .refreshFeaturePolicy writeAllowed => some { desktop with writeAllowed }
  | .restart backup =>
    if backup.InOrder then some (started (desktop.loaded backup)) else none

def constraint (desktop : SkillDesktop) : BridgeConstraint where
  writeAllowed := desktop.writeAllowed
  installedSkills := desktop.stores.core.map fun grant => (grant.agentId, grant.skillId)

def restartsBare (desktop : SkillDesktop) : DesktopAction → Prop
  | .restart backup => ∀ binding ∈ (desktop.loaded backup).bindings, binding.enabled = false
  | _ => True

instance (desktop : SkillDesktop) : DecidablePred desktop.restartsBare
  | .restart backup => inferInstanceAs (Decidable (∀ binding ∈ (desktop.loaded backup).bindings, _))
  | .act _ => .isTrue trivial
  | .refreshFeaturePolicy _ => .isTrue trivial

end SkillDesktop

def Derived (setup : SkillSetup) (stores : SkillStores) : Prop :=
  ∃ desired, desiredState setup stores.registry = .ok desired ∧ desired.core = stores.core

section Derived

variable {setup : SkillSetup} {registry other : SkillRegistry} {binding : AgentSkillBinding}

theorem desiredState_congr (skills : registry.skills = other.skills)
    (bindings : registry.bindings = other.bindings) :
    desiredState setup registry = desiredState setup other := by
  obtain ⟨revision, entries, bound, valid⟩ := registry
  cases skills
  cases bindings
  rfl

theorem desiredState_of_disabled
    (disabled : ∀ binding ∈ registry.bindings, binding.enabled = false) :
    desiredState setup registry = .ok ⟨[], []⟩ := by
  have contributes : ∀ bindings : List AgentSkillBinding,
      (∀ binding ∈ bindings, binding.enabled = false) →
        bindings.mapM (desiredOf setup registry) = .ok (bindings.map fun _ => none) := by
    intro bindings disabled
    rw [Except.mapM_eq_ok_iff, forall₂_map_right_iff, forall₂_same]
    intro binding mem
    unfold desiredOf
    split
    · rw [disabled binding mem]
      simp
    · rfl
  have none : (registry.bindings.map fun _ =>
      (none : Option (CoreSkillGrant × GatewaySkillView))).filterMap id = [] := by
    rw [filterMap_map]
    exact filterMap_eq_nil_iff.mpr fun _ _ => rfl
  unfold desiredState
  rw [contributes registry.bindings disabled]
  change Except.ok _ = _
  simp only [none]
  rfl

end Derived

section Runs

variable {setup : SkillSetup} {desktop after : SkillDesktop}

/-- Whatever turn has begun, the stores that it has found were derived. -/
def Settled (setup : SkillSetup) (system : SkillSystem) : Prop :=
  (system.queue = [] → system.began = none) ∧ Derived setup (system.began.getD system.toSkillStores)

theorem derived_of_ended {before stores : SkillStores} {outcome : Except SkillError Unit}
    (derived : Derived setup before) (ended : Ended setup before outcome stores) :
    Derived setup stores := by
  cases outcome with
  | ok done => exact ⟨_, ended, rfl⟩
  | error error =>
    obtain ⟨desired, derives, same⟩ := derived
    have restored : Restored before stores := ended
    exact ⟨desired, (desiredState_congr restored.skills restored.bindings).trans derives,
      same.trans restored.core.symm⟩

theorem keptInTurn_settled (setup : SkillSetup) : KeptInTurn setup (Settled setup) where
  idle _ settled := settled.1
  enqueue _ _ settled := ⟨fun empty => by simp at empty, settled.2⟩
  acquire system thread settled head began := by
    have derived := settled.2
    rw [began] at derived
    refine ⟨fun empty => ?_, derived⟩
    change system.queue = [] at empty
    rw [empty] at head
    cases head
  inside system began stores settled found := by
    have derived := settled.2
    rw [found] at derived
    refine ⟨settled.1, ?_⟩
    change Derived setup (system.began.getD stores)
    rw [found]
    exact derived
  leave system began outcome settled found ended := by
    have derived := settled.2
    rw [found] at derived
    exact ⟨fun _ => rfl, derived_of_ended derived ended⟩

def SinceStart (setup : SkillSetup) (desktop : SkillDesktop) : Prop :=
  ∃ registry : SkillRegistry, registry.InOrder ∧
    (∀ binding ∈ registry.bindings, binding.enabled = false) ∧
    (guardedSkills beginsSafely setup).Reachable
      (fun system => system = .ofStores ⟨registry, [], []⟩) desktop.pool

theorem SinceStart.settled (since : SinceStart setup desktop) :
    SkillInv setup desktop.pool.shared ∧ Settled setup desktop.pool.shared := by
  obtain ⟨registry, inOrder, disabled, reachable⟩ := since
  refine kept_of_reachable (keptInTurn_settled setup) inOrder ?_ reachable
  exact ⟨fun _ => rfl, _, desiredState_of_disabled disabled, rfl⟩

theorem SinceStart.step {action : DesktopAction} (since : SinceStart setup desktop)
    (bare : desktop.restartsBare action)
    (steps : desktop.step beginsSafely setup action = some after) : SinceStart setup after := by
  cases action with
  | act action =>
    obtain ⟨registry, inOrder, disabled, reachable⟩ := since
    obtain ⟨pool, next, rfl⟩ := Option.map_eq_some_iff.mp steps
    exact ⟨registry, inOrder, disabled, reachable.step next⟩
  | refreshFeaturePolicy writeAllowed =>
    cases steps
    exact since
  | restart backup =>
    simp only [SkillDesktop.step] at steps
    split_ifs at steps with inOrder
    cases steps
    refine ⟨desktop.loaded backup, ?_, bare, .initial rfl⟩
    unfold SkillDesktop.loaded
    split_ifs
    · exact since.settled.1.inOrder
    · exact inOrder

end Runs

section Example

end Example

end SkillTransaction

end LongHub
