import LongHub.CanonicalDepth
import LongHub.RelyGuarantee
import LongHub.SkillLifecycle

/-!
# The transactions of Skills

What a request does in its turn: when it succeeds, it leaves Core and the Gateway with what follows
from the registry, and when it fails, it leaves all three stores as it has found them.
-/

namespace LongHub

open Machine

namespace SkillTransaction

open SkillLifecycleCoordinator

structure Restored (before after : SkillStores) : Prop where
  skills : after.registry.skills = before.registry.skills
  bindings : after.registry.bindings = before.registry.bindings
  core : after.core = before.core
  gateway : after.gateway = before.gateway

def Ended (setup : SkillSetup) (before : SkillStores) (outcome : Except SkillError Unit)
    (after : SkillStores) : Prop :=
  match outcome with
  | .ok () => desiredState setup after.registry = .ok ⟨after.core, after.gateway⟩
  | .error _ => Restored before after

def compensationSucceeds (choice : SkillChoice) (_ : SkillStores) : SkillStep → Bool
  | .replaceCorePolicy true _ | .replaceGatewaySkills true _ => choice.failure.isNone
  | .restoreRegistry _ => choice.disk.isNone
  | _ => true

def beginsSafely (choice : SkillChoice) (stores : SkillStores) (step : SkillStep) : Bool :=
  compensationSucceeds choice stores step && match step with
    | .snapshot => isSafeRevision stores.registry.revision
    | _ => true

def guardedSkills (condition : SkillChoice → SkillStores → SkillStep → Bool) (setup : SkillSetup) :
    Machine SkillSystem SkillCall SkillCall.Answer SkillError SkillChoice SkillRequest Empty :=
  (skillMachine setup).restrict fun _ call choice system =>
    match call with
    | .inside step => condition choice system.toSkillStores step
    | _ => true

/-- In every run from these stores every request that has left the queue has ended as it
should. -/
def SkillTransactionsHold (condition : SkillChoice → SkillStores → SkillStep → Bool)
    (start : SkillStores → Prop) : Prop :=
  ∀ (setup : SkillSetup) (stores : SkillStores), start stores → ∀ pool,
    (guardedSkills condition setup).Reachable (fun system => system = .ofStores stores) pool →
      ∀ request ∈ pool.shared.finished, Ended setup request.before request.outcome request.after

/-- What holds between two steps. -/
structure SkillInv (setup : SkillSetup) (system : SkillSystem) : Prop where
  inOrder : system.registry.InOrder
  ended : ∀ request ∈ system.finished, Ended setup request.before request.outcome request.after

/-- Only the first request in the queue changes anything but the end of the queue. -/
def OnlyFirst (thread : Nat) (before after : SkillSystem) : Prop :=
  before.queue.head? ≠ some thread →
    after.toSkillStores = before.toSkillStores ∧ after.began = before.began ∧
      ∀ first, before.queue.head? = some first → after.queue.head? = some first

def First (thread : Nat) (began : SkillStores) (facts : SkillStores → Prop)
    (system : SkillSystem) : Prop :=
  system.queue.head? = some thread ∧ system.began = some began ∧ facts system.toSkillStores

section Queue

variable {setup : SkillSetup} {thread : Nat} {began : SkillStores} {system : SkillSystem}
variable {condition : SkillChoice → SkillStores → SkillStep → Bool}
variable {facts other : SkillStores → Prop} {α : Type}

abbrev SafeRequest (condition : SkillChoice → SkillStores → SkillStep → Bool)
    (setup : SkillSetup) (thread : Nat) (post : Except SkillError α → SkillSystem → Prop)
    (program : SkillProgram α) (system : SkillSystem) : Prop :=
  (guardedSkills condition setup).Safe (SkillInv setup) OnlyFirst thread post program system

theorem stable_first {Inv : SkillSystem → Prop} :
    (guardedSkills condition setup).Stable Inv OnlyFirst thread (First thread began facts) := by
  rintro before after _ _ (⟨another, differ, guarantee⟩ | ⟨event, _⟩) ⟨head, found, holds⟩
  · have notFirst : before.queue.head? ≠ some another := by
      rw [head]
      exact fun same => differ (Option.some.inj same).symm
    obtain ⟨sameStores, sameBegan, keepsFirst⟩ := guarantee notFirst
    refine ⟨keepsFirst thread head, sameBegan.trans found, ?_⟩
    rw [sameStores]
    exact holds
  · exact nomatch event

theorem First.mono (weaker : ∀ stores, facts stores → other stores)
    (first : First thread began facts system) : First thread began other system :=
  ⟨first.1, first.2.1, weaker _ first.2.2⟩

theorem inOrder_perform {choice : SkillChoice} {stores : SkillStores} (step : SkillStep)
    (inOrder : stores.registry.InOrder) :
    (stores.perform choice setup step).2.registry.InOrder := by
  cases step with
  | mutate mutation => exact (leaves_mutateSkills mutation).inOrder inOrder
  | replaceCorePolicy compensating policy =>
    change (if choice.failure.isNone || choice.applied then { stores with core := policy }
      else stores).registry.InOrder
    split <;> exact inOrder
  | replaceGatewaySkills compensating skills =>
    change (if choice.failure.isNone || choice.applied then { stores with gateway := skills }
      else stores).registry.InOrder
    split <;> exact inOrder
  | restoreRegistry snapshot =>
    change (stores.restoreRegistry choice snapshot).2.registry.InOrder
    unfold SkillStores.restoreRegistry
    split
    · exact inOrder
    · exact stores.registry.leaves_restore.inOrder inOrder
  | _ => exact inOrder

theorem safe_return {value : α} {post : Except SkillError α → SkillStores → Prop}
    (first : First thread began (post (.ok value)) system) :
    SafeRequest condition setup thread (fun outcome => First thread began (post outcome))
      (pure value) system :=
  safe_pure stable_first first

theorem safe_ask {step : SkillStep} {post : Except SkillError step.Answer → SkillStores → Prop}
    (first : First thread began facts system)
    (acts : ∀ choice stores, stores.registry.InOrder → facts stores →
      condition choice stores step = true →
        post (stores.perform choice setup step).1 (stores.perform choice setup step).2) :
    SafeRequest condition setup thread (fun outcome => First thread began (post outcome))
      (ask step) system := by
  apply safe_perform stable_first first (fun _ => stable_first)
  rintro before choice outcome after inv ⟨head, found, holds⟩ ran
  simp only [guardedSkills, restrict] at ran
  split_ifs at ran with allowed
  obtain ⟨rfl, rfl⟩ := Prod.mk.inj (Option.some.inj ran)
  refine ⟨fun notFirst => absurd head notFirst, ?_, head, found, ?_⟩
  · exact ⟨inOrder_perform step inv.inOrder, inv.ended⟩
  · exact acts choice before.toSkillStores inv.inOrder holds allowed

end Queue

section Transaction

variable {setup : SkillSetup} {thread : Nat} {began : SkillStores} {system : SkillSystem}
variable {facts : SkillStores → Prop}

variable {choice : SkillChoice} {stores after : SkillStores} {outcome : Except SkillError Unit}
  {coreAttempted : Bool} {error : SkillError} {mutation : SkillMutation} {α : Type}

variable {compensating gatewayAttempted : Bool} {desired : DesiredSkills} {claim : α → Prop}
  {manifest : SkillPackage}

theorem perform_replaceCorePolicy {policy : List CoreSkillGrant}
    (ran : stores.perform choice setup (.replaceCorePolicy compensating policy) =
      (outcome, after)) : after.registry = stores.registry ∧ after.gateway = stores.gateway ∧
      (outcome = .ok () → after.core = policy) ∧ (choice.failure.isNone → outcome = .ok ()) := by
  obtain ⟨rfl, rfl⟩ := Prod.mk.inj ran
  cases failure : choice.failure with
  | none => simp
  | some error => cases applied : choice.applied <;> simp

theorem perform_replaceGatewaySkills {skills : List GatewaySkillView}
    (ran : stores.perform choice setup (.replaceGatewaySkills compensating skills) =
      (outcome, after)) : after.registry = stores.registry ∧ after.core = stores.core ∧
      (outcome = .ok () → after.gateway = skills) ∧ (choice.failure.isNone → outcome = .ok ()) := by
  obtain ⟨rfl, rfl⟩ := Prod.mk.inj ran
  cases failure : choice.failure with
  | none => simp
  | some error => cases applied : choice.applied <;> simp

theorem perform_restoreRegistry {snapshot : SkillRegistrySnapshot} (inOrder : snapshot.InOrder)
    (safe : isSafeRevision snapshot.revision = true) (written : choice.disk = none)
    (ran : stores.perform choice setup (.restoreRegistry snapshot) = (outcome, after)) :
    outcome = .ok () ∧ after.registry.skills = snapshot.skills ∧
      after.registry.bindings = snapshot.bindings ∧
      after.core = stores.core ∧ after.gateway = stores.gateway := by
  change stores.restoreRegistry choice snapshot = (outcome, after) at ran
  unfold SkillStores.restoreRegistry at ran
  split at ran
  · rename_i same
    obtain ⟨rfl, rfl⟩ := Prod.mk.inj ran
    exact ⟨rfl, same.1, same.2, rfl, rfl⟩
  · rw [written] at ran
    obtain ⟨rfl, rfl⟩ := Prod.mk.inj ran
    obtain ⟨restored, sameSkills, sameBindings⟩ :=
      @SkillRegistry.restore_of_inOrder stores.registry snapshot inOrder safe
    exact ⟨restored, sameSkills, sameBindings, rfl, rfl⟩

/-- In its turn a request that began with these stores ends as stated. -/
abbrev SafeTurn (setup : SkillSetup) (thread : Nat) (began : SkillStores)
    (post : Except SkillError α → SkillStores → Prop) (program : SkillProgram α)
    (system : SkillSystem) : Prop :=
  SafeRequest beginsSafely setup thread (fun outcome => First thread began (post outcome)) program
    system

/-- What the catch branch of a transaction finds. -/
structure Undoable (began : SkillStores) (coreAttempted gatewayAttempted : Bool)
    (stores : SkillStores) : Prop where
  core : coreAttempted = false → stores.core = began.core
  gateway : gatewayAttempted = false → stores.gateway = began.gateway

def Undone (began : SkillStores) (outcome : Except SkillError Unit) (stores : SkillStores) : Prop :=
  outcome = .ok () ∧ Restored began stores

section

variable (inOrder : began.registry.InOrder)
variable (safe : isSafeRevision began.registry.revision = true)
include inOrder safe

theorem safe_restoreRegistry (first : First thread began (Undoable began false false) system) :
    SafeTurn setup thread began (Undone began) (ask (.restoreRegistry began.registry)) system := by
  apply safe_ask first
  intro choice stores _ undoable allowed
  have written : choice.disk = none := by
    simpa [beginsSafely, compensationSucceeds] using allowed
  generalize ran : stores.perform choice setup (.restoreRegistry began.registry) = result
  obtain ⟨done, skills, bindings, core, gateway⟩ :=
    perform_restoreRegistry inOrder safe written ran
  exact ⟨done, skills, bindings, core.trans (undoable.core rfl),
    gateway.trans (undoable.gateway rfl)⟩

theorem safe_undoCore (inv : SkillInv setup system)
    (first : First thread began (Undoable began coreAttempted false) system) :
    SafeTurn setup thread began (Undone began)
      (undo began.registry began.core began.gateway coreAttempted false) system := by
  cases coreAttempted with
  | false => exact safe_restoreRegistry inOrder safe first
  | true =>
    have replaced : SafeTurn setup thread began
        (fun outcome stores => outcome = .ok () ∧ Undoable began false false stores)
        (ask (.replaceCorePolicy true began.core)) system := by
      apply safe_ask first
      intro choice stores _ undoable allowed
      generalize ran : stores.perform choice setup (.replaceCorePolicy true began.core) =
        result
      obtain ⟨-, gateway, replaces, succeeds⟩ := perform_replaceCorePolicy ran
      have done := succeeds (by simpa [beginsSafely, compensationSucceeds] using allowed)
      exact ⟨done, fun _ => replaces done, fun _ => gateway.trans (undoable.gateway rfl)⟩
    apply safe_bind inv replaced
    · rintro _ now invNow ⟨head, found, -, undoable⟩
      exact safe_restoreRegistry inOrder safe ⟨head, found, undoable⟩
    · rintro problem now - ⟨-, -, bad, -⟩
      cases bad

theorem safe_undo (inv : SkillInv setup system)
    (first : First thread began (Undoable began coreAttempted gatewayAttempted) system) :
    SafeTurn setup thread began (Undone began)
      (undo began.registry began.core began.gateway coreAttempted gatewayAttempted) system := by
  cases gatewayAttempted with
  | false => exact safe_undoCore inOrder safe inv first
  | true =>
    have replaced : SafeTurn setup thread began
        (fun outcome stores => outcome = .ok () ∧ Undoable began coreAttempted false stores)
        (ask (.replaceGatewaySkills true began.gateway)) system := by
      apply safe_ask first
      intro choice stores _ undoable allowed
      generalize ran :
        stores.perform choice setup (.replaceGatewaySkills true began.gateway) = result
      obtain ⟨-, core, replaces, succeeds⟩ := perform_replaceGatewaySkills ran
      have done := succeeds (by simpa [beginsSafely, compensationSucceeds] using allowed)
      exact ⟨done, fun untouched => core.trans (undoable.core untouched), fun _ => replaces done⟩
    apply safe_bind inv replaced
    · rintro _ now invNow ⟨head, found, -, undoable⟩
      exact safe_undoCore inOrder safe invNow ⟨head, found, undoable⟩
    · rintro problem now - ⟨-, -, bad, -⟩
      cases bad

theorem safe_compensate (inv : SkillInv setup system)
    (first : First thread began (Undoable began coreAttempted gatewayAttempted) system) :
    SafeTurn setup thread began (Ended setup began)
      (compensate began.registry began.core began.gateway coreAttempted gatewayAttempted error)
      system := by
  have undone : SafeTurn setup thread began (Undone began) ((undo began.registry began.core
      began.gateway coreAttempted gatewayAttempted).tryCatch fun rollbackError => .throw
      (.rollbackFailed error rollbackError)) system := by
    apply safe_tryCatch inv (safe_undo inOrder safe inv first)
    · rintro problem now - ⟨-, -, bad, -⟩
      cases bad
    · exact fun _ _ _ ended => ended
  apply safe_bind inv undone
  · rintro _ now invNow ⟨head, found, -, restored⟩
    exact safe_throw stable_first ⟨head, found, restored⟩
  · rintro problem now - ⟨-, -, bad, -⟩
    cases bad

end

structure Mutated (setup : SkillSetup) (began : SkillStores) (desired : DesiredSkills)
    (stores : SkillStores) : Prop where
  desired : desiredState setup stores.registry = .ok desired
  core : stores.core = began.core
  gateway : stores.gateway = began.gateway

theorem safe_mutate (first : First thread began (· = began) system) :
    SafeTurn setup thread began (fun outcome stores => match outcome with
        | .ok desired => Mutated setup began desired stores
        | .error _ => Undoable began false false stores)
      (ask (.mutate mutation)) system := by
  apply safe_ask first
  rintro choice stores _ rfl _
  generalize mutated : mutateSkills setup.node choice stores.registry mutation = result
  obtain ⟨outcome, registry⟩ := result
  have ran : stores.perform choice setup (.mutate mutation) =
      (outcome.bind fun _ => desiredState setup registry, { stores with registry }) := by
    simp only [SkillStores.perform, mutated]
  rw [ran]
  cases outcome with
  | error error => exact ⟨fun _ => rfl, fun _ => rfl⟩
  | ok value =>
    split
    · rename_i desired found
      exact ⟨found, rfl, rfl⟩
    · exact ⟨fun _ => rfl, fun _ => rfl⟩

theorem safe_replaceCore (first : First thread began (Mutated setup began desired) system) :
    SafeTurn setup thread began (fun outcome stores => match outcome with
        | .ok () => desiredState setup stores.registry = .ok desired ∧
            stores.core = desired.core ∧ stores.gateway = began.gateway
        | .error _ => Undoable began (began.core ≠ desired.core) false stores)
      (if (decide (began.core ≠ desired.core)) = true then
        ask (.replaceCorePolicy false desired.core) else pure ()) system := by
  split
  · rename_i attempted
    apply safe_ask first
    intro choice stores _ mutated _
    generalize ran : stores.perform choice setup (.replaceCorePolicy false desired.core) =
      result
    obtain ⟨outcome, after⟩ := result
    obtain ⟨registry, gateway, replaces, -⟩ := perform_replaceCorePolicy ran
    cases outcome with
    | ok value =>
      exact ⟨by rw [registry]; exact mutated.desired, replaces rfl, gateway.trans mutated.gateway⟩
    | error error =>
      exact ⟨fun untouched => absurd (attempted.symm.trans untouched) (by decide),
        fun _ => gateway.trans mutated.gateway⟩
  · rename_i skipped
    have same : began.core = desired.core := by simpa using skipped
    refine safe_return (first.mono ?_)
    intro stores mutated
    exact ⟨mutated.desired, mutated.core.trans same, mutated.gateway⟩

theorem safe_replaceGateway
    (first : First thread began (fun stores => desiredState setup stores.registry = .ok desired ∧
      stores.core = desired.core ∧ stores.gateway = began.gateway) system) :
    SafeTurn setup thread began (fun outcome stores => match outcome with
        | .ok () => desiredState setup stores.registry = .ok ⟨stores.core, stores.gateway⟩
        | .error _ => Undoable began (began.core ≠ desired.core)
            (began.gateway ≠ desired.gateway) stores)
      (if (decide (began.gateway ≠ desired.gateway)) = true then
        ask (.replaceGatewaySkills false desired.gateway) else pure ()) system := by
  split
  · rename_i attempted
    apply safe_ask first
    rintro choice stores _ ⟨desires, sameCore, -⟩ _
    generalize ran :
      stores.perform choice setup (.replaceGatewaySkills false desired.gateway) = result
    obtain ⟨outcome, after⟩ := result
    obtain ⟨registry, core, replaces, -⟩ := perform_replaceGatewaySkills ran
    cases outcome with
    | ok value =>
      change desiredState setup after.registry = .ok ⟨after.core, after.gateway⟩
      rw [registry, core, replaces rfl, sameCore]
      exact desires
    | error error =>
      refine ⟨fun untouched => ?_, fun untouched => ?_⟩
      · have same : began.core = desired.core := by simpa using untouched
        exact core.trans (sameCore.trans same.symm)
      · exact absurd (attempted.symm.trans untouched) (by decide)
  · rename_i skipped
    have same : began.gateway = desired.gateway := by simpa using skipped
    refine safe_return (first.mono ?_)
    rintro stores ⟨desires, sameCore, sameGateway⟩
    rw [sameCore, sameGateway, same]
    exact desires

theorem restored_refl (stores : SkillStores) : Restored stores stores := ⟨rfl, rfl, rfl, rfl⟩

def Reads {α : Type} (began : SkillStores) (claim : α → Prop) (outcome : Except SkillError α)
    (stores : SkillStores) : Prop :=
  stores = began ∧ ∀ answer, outcome = .ok answer → claim answer

theorem safe_read {step : SkillStep} {claim : step.Answer → Prop}
    (first : First thread began (· = began) system)
    (reads : ∀ choice, beginsSafely choice began step = true →
      Reads began claim (began.perform choice setup step).1 (began.perform choice setup step).2) :
    SafeTurn setup thread began (Reads began claim) (ask step) system := by
  apply safe_ask first
  rintro choice stores _ rfl allowed
  exact reads choice allowed

/-- A request that fails before its transaction has changed nothing. -/
theorem ended_of_reads (fails : First thread began (Reads began claim (.error error)) system) :
    First thread began (Ended setup began (.error error)) system := by
  apply fails.mono
  rintro stores ⟨rfl, -⟩
  exact restored_refl stores

theorem First.same {outcome : Except SkillError α}
    (first : First thread began (Reads began claim outcome) system) :
    First thread began (· = began) system :=
  first.mono fun _ reads => reads.1

theorem reads_answered {answer : α} :
    Reads began (· = answer) (began.answered choice answer).1 (began.answered choice answer).2 := by
  refine ⟨rfl, fun other read => ?_⟩
  unfold SkillStores.answered at read
  split at read
  · exact (Except.ok.inj read).symm
  · cases read

theorem safe_snapshot (first : First thread began (· = began) system) :
    SafeTurn setup thread began (Reads began (fun answer => answer = began.registry ∧ isSafeRevision
      began.registry.revision = true)) (ask .snapshot) system := by
  apply safe_read first
  intro choice allowed
  refine ⟨rfl, fun answer read => ⟨(Except.ok.inj read).symm, ?_⟩⟩
  simpa [beginsSafely, compensationSucceeds] using allowed

theorem safe_readCorePolicy (first : First thread began (· = began) system) :
    SafeTurn setup thread began (Reads began (· = began.core)) (ask .readCorePolicy) system :=
  safe_read first fun _ _ => reads_answered

theorem safe_readGatewaySkills (first : First thread began (· = began) system) :
    SafeTurn setup thread began (Reads began (· = began.gateway)) (ask .readGatewaySkills) system :=
  safe_read first fun _ _ => reads_answered

theorem safe_transact (inv : SkillInv setup system)
    (first : First thread began (· = began) system) :
    SafeTurn setup thread began (Ended setup began) (transact mutation) system := by
  have inOrder : began.registry.InOrder := by
    rw [← first.2.2]
    exact inv.inOrder
  apply safe_bind inv (safe_snapshot first)
    (fun answer now invNow read => ?_) fun _ _ _ fails => ended_of_reads fails
  obtain ⟨rfl, safe⟩ := read.2.2.2 answer rfl
  apply safe_bind invNow (safe_readCorePolicy read.same)
    (fun answer now invNow read => ?_) fun _ _ _ fails => ended_of_reads fails
  obtain rfl := read.2.2.2 answer rfl
  apply safe_bind invNow (safe_readGatewaySkills read.same)
    (fun answer now invNow read => ?_) fun _ _ _ fails => ended_of_reads fails
  obtain rfl := read.2.2.2 answer rfl
  apply safe_bind invNow (safe_attempt (safe_mutate read.same))
  · rintro staged now invNow ⟨result, equal, ends⟩
    cases equal
    cases staged with
    | error error => exact safe_compensate inOrder safe invNow ends
    | ok desired =>
      apply safe_bind invNow (safe_attempt (safe_replaceCore ends))
      · rintro replaced now invNow ⟨result, equal, ends⟩
        cases equal
        cases replaced with
        | error error => exact safe_compensate inOrder safe invNow ends
        | ok value =>
          apply safe_bind invNow (safe_attempt (safe_replaceGateway ends))
          · rintro replaced now invNow ⟨result, equal, ends⟩
            cases equal
            cases replaced with
            | error error => exact safe_compensate inOrder safe invNow ends
            | ok value => exact safe_pure stable_first ends
          · rintro error last - ⟨_, bad, -⟩
            cases bad
      · rintro error last - ⟨_, bad, -⟩
        cases bad
  · rintro error last - ⟨_, bad, -⟩
    cases bad

theorem safe_verifyInstallInput (inv : SkillInv setup system)
    (first : First thread began (· = began) system) :
    SafeRequest beginsSafely setup thread (fun _ => First thread began (· = began))
      (verifyInstallInput manifest) system := by
  have verified : SafeTurn setup thread began (Reads began (fun _ => True))
      (ask (.verifyPackage manifest)) system :=
    safe_read first fun _ _ => ⟨rfl, fun _ _ => trivial⟩
  apply safe_bind inv verified (fun _ now invNow read => ?_) fun _ _ _ fails => fails.same
  have entitled : SafeTurn setup thread began (Reads began (fun _ => True))
      (ask (.verifyEntitlement manifest.id manifest.version)) now :=
    safe_read read.same fun _ _ => ⟨rfl, fun _ _ => trivial⟩
  apply safe_bind invNow entitled (fun answer now invNow read => ?_) fun _ _ _ fails => fails.same
  cases answer with
  | false => exact safe_throw stable_first read.same
  | true => exact safe_pure stable_first read.same

theorem ended_unchanged (first : First thread began (· = began) system) :
    First thread began (Ended setup began (.error error)) system := by
  apply first.mono
  rintro stores rfl
  exact restored_refl stores

theorem safe_verified (inv : SkillInv setup system)
    (first : First thread began (· = began) system) :
    SafeTurn setup thread began (Ended setup began)
      (do verifyInstallInput manifest; transact mutation) system := by
  apply safe_bind inv (safe_verifyInstallInput inv first)
  · exact fun _ _ invNow unchanged => safe_transact invNow unchanged
  · exact fun _ _ _ unchanged => ended_unchanged unchanged

theorem safe_operation (request : SkillRequest) (inv : SkillInv setup system)
    (first : First thread began (· = began) system) :
    SafeTurn setup thread began (Ended setup began) (operation setup request) system := by
  cases request with
  | install package profileId agentId enabled =>
    simp only [operation]
    cases resolveSkillRuntimePlan setup.cloudServiceIds package with
    | error error => exact safe_throw stable_first (ended_unchanged first)
    | ok resolved => exact safe_verified inv first
  | setEnabled skillId agentId enabled =>
    cases enabled with
    | false => exact safe_transact inv first
    | true =>
      have active : SafeTurn setup thread began (Reads began (fun _ => True))
          (ask (.activeManifest skillId)) system :=
        safe_read first fun _ _ => ⟨rfl, fun _ _ => trivial⟩
      apply safe_bind inv active (fun manifest now invNow read => ?_)
        fun _ _ _ fails => ended_unchanged fails.same
      cases manifest with
      | none => exact safe_throw stable_first (ended_unchanged read.same)
      | some manifest => exact safe_verified invNow read.same
  | upgrade package =>
    simp only [operation]
    cases resolveSkillRuntimePlan setup.cloudServiceIds package with
    | error error => exact safe_throw stable_first (ended_unchanged first)
    | ok resolved => exact safe_verified inv first
  | rollback skillId =>
    have found : SafeTurn setup thread began (Reads began (fun _ => True))
        (ask (.findSkill skillId)) system :=
      safe_read first fun _ _ => ⟨rfl, fun _ _ => trivial⟩
    apply safe_bind inv found (fun entry now invNow read => ?_)
      fun _ _ _ fails => ended_unchanged fails.same
    split
    · exact safe_throw stable_first (ended_unchanged read.same)
    · exact safe_verified invNow read.same
  | uninstall skillId => exact safe_transact inv first
  | revoke skillId => exact safe_transact inv first

end Transaction

end SkillTransaction

end LongHub
