import LongHub.BridgePolicyRuns

/-!
# The policies converge

A refresh computes its policy from the fields, replaces the policy of Core and then assigns the
field.
-/

namespace LongHub

open List Machine Option Program

open AgentLifecycleCoordinator

section Threads

variable {setup : LifecycleSetup} {thread : Nat} {state : LifecycleState} {α : Type}

structure IsRefreshing (thread : Nat) (next : BridgeExecutionPolicy) (state : LifecycleState) :
    Prop where
  closed : state.window ≠ some thread
  waits : thread ∈ state.refreshing
  current : next = state.constraint.constrainBridgePolicy state.sourceBridgePolicy

theorem stableApart_isRefreshing {next : BridgeExecutionPolicy} :
    StableApart setup thread (IsRefreshing thread next) := by
  apply stableApart_of
  rintro other before after isOther - guarantee ⟨closed, waits, current⟩
  obtain ⟨constraint, source, -⟩ := guarantee.inRefresh thread isOther waits
  refine ⟨fun window => closed ((guarantee.window thread isOther).mp window),
    (guarantee.refreshing thread isOther).mpr waits, ?_⟩
  rw [constraint, source]
  exact current

theorem stableApart_installing {next : BridgeExecutionPolicy} :
    StableApart setup thread fun state => IsRefreshing thread next state ∧
      state.corePolicy = next := by
  rintro before after inv invAfter rely ⟨refreshing, installed⟩
  refine ⟨stableApart_isRefreshing before after inv invAfter rely refreshing, ?_⟩
  rcases rely with ⟨other, isOther, guarantee⟩ | ⟨event, -⟩
  · obtain ⟨-, -, same | again⟩ := guarantee.inRefresh thread isOther.symm refreshing.waits
    · exact same.trans installed
    · exact again.trans refreshing.current.symm
  · exact event.elim

theorem BridgeInv.closed_of_refreshing (inv : BridgeInv state) (waits : thread ∈ state.refreshing) :
    state.window = none := by
  by_contra window
  rw [inv.quiet window] at waits
  cases waits

theorem safe_startRefresh (change : Option BridgeConstraint) (idle : IsIdleThread thread state) :
    SafeApart setup thread (fun outcome after => (outcome = .ok none ∧ IsIdleThread thread after) ∨
        ∃ next, outcome = .ok (some next) ∧ IsRefreshing thread next after)
      (ask (.startRefresh change)) state := by
  refine safe_perform stableApart_isIdle idle ?_ ?_
  · rintro outcome before after inv invAfter rely (⟨answered, idle⟩ | ⟨next, answered, waits⟩)
    · exact Or.inl ⟨answered, stableApart_isIdle before after inv invAfter rely idle⟩
    · exact Or.inr ⟨next, answered, stableApart_isRefreshing before after inv invAfter rely waits⟩
  · rintro before choice outcome after inv idle ran
    obtain ⟨allowed, acts⟩ := perform_guarded.mp ran
    have apart : change.getD before.constraint = before.constraint ∨
        (before.window = none ∧ before.refreshing = []) := of_decide_eq_true allowed
    unfold LifecycleState.perform at acts
    dsimp only at acts
    generalize change.getD before.constraint = constraint at apart acts
    have kept {other : Nat} (mem : other ∈ before.refreshing) :
        constraint = before.constraint := by
      refine apart.resolve_right fun ⟨_, quiet⟩ => ?_
      rw [quiet] at mem
      cases mem
    have keptInWindow {other : Nat} (window : before.window = some other) :
        constraint = before.constraint := by
      refine apart.resolve_right fun ⟨closed, _⟩ => ?_
      rw [closed] at window
      cases window
    split at acts
    · next same =>
      cases acts
      refine ⟨?_, ?_, Or.inl ⟨rfl, idle⟩⟩
      · exact
          { BridgeGuarantee.refl thread before with
            inWindow := fun other _ window => ⟨rfl, keptInWindow window, rfl⟩
            inRefresh := fun other _ mem => ⟨kept mem, rfl, Or.inl rfl⟩ }
      · exact { inv with constrained := fun _ => same.symm }
    · next differs =>
      cases acts
      -- inside a window the field has the constrained policy, so nothing differs
      have closed : before.window = none := by
        rcases apart with same | ⟨closed, -⟩
        · by_contra window
          rw [same] at differs
          exact differs (inv.constrained (inv.quiet window)).symm
        · exact closed
      refine ⟨?_, ?_, Or.inr ⟨_, rfl, idle.1, mem_cons_self, rfl⟩⟩
      · exact
          { packs := rfl
            queue := fun _ _ first => ⟨first, rfl, rfl⟩
            window := fun _ _ => Iff.rfl
            refreshing := fun other isOther => by
              rw [mem_cons]
              exact ⟨fun mem => mem.resolve_left isOther, Or.inr⟩
            inWindow := fun other _ window => by
              rw [closed] at window
              cases window
            inRefresh := fun other _ mem => ⟨kept mem, rfl, Or.inl rfl⟩ }
      · exact
          { inv with
            quiet := fun window => absurd closed window
            distinct := nodup_cons.mpr ⟨idle.2, inv.distinct⟩
            constrained := nofun
            installed := nofun }

theorem safe_refresh (change : Option BridgeConstraint) (inv : BridgeInv state)
    (idle : IsIdleThread thread state) :
    SafeApart setup thread (fun _ => IsIdleThread thread) (refreshBridgePolicyConstraint change)
      state := by
  refine safe_bind inv (safe_startRefresh change idle) ?_ ?_
  · rintro answer now invNow (⟨answered, idleNow⟩ | ⟨next, answered, waits⟩)
    · cases answered
      exact safe_pure stableApart_isIdle idleNow
    · cases answered
      have replaced : SafeApart setup thread (fun outcome after => outcome = .ok () ∧
          IsRefreshing thread next after ∧ after.corePolicy = next)
          (ask (.replaceBridgePolicy true next)) now := by
        refine safe_perform stableApart_isRefreshing waits
          (fun _ => (Machine.Stable.const _).and stableApart_installing) ?_
        rintro before choice outcome after inv refreshing ran
        obtain ⟨allowed, acts⟩ := perform_guarded.mp ran
        have answers : choice.failure = none := isNone_iff_eq_none.mp allowed
        have closed := inv.closed_of_refreshing refreshing.waits
        have notQuiet : before.refreshing ≠ [] := ne_nil_of_mem refreshing.waits
        rcases requested_cases acts with ⟨rfl, rfl⟩ | ⟨⟨message, failed⟩, -⟩
        · refine ⟨?_, ?_, rfl, ⟨refreshing.closed, refreshing.waits, refreshing.current⟩, rfl⟩
          · exact
              { BridgeGuarantee.refl thread before with
                inWindow := fun other _ window => by
                  rw [closed] at window
                  cases window
                inRefresh := fun other _ mem => ⟨rfl, rfl, Or.inr refreshing.current⟩ }
          · exact { inv with installed := fun quiet => absurd quiet notQuiet }
        · obtain ⟨-, ⟨-, answered⟩ | ⟨_, fails, -⟩⟩ := answered_cases acts
          · rw [failed] at answered
            cases answered
          · rw [answers] at fails
            cases fails
      refine safe_bind invNow replaced ?_ ?_
      · rintro answer last invLast ⟨-, installing⟩
        refine safe_perform stableApart_installing installing (fun _ => stableApart_isIdle) ?_
        rintro before choice outcome after inv ⟨refreshing, installed⟩ ran
        cases (perform_guarded.mp ran).2
        have closed := inv.closed_of_refreshing refreshing.waits
        have notIn : thread ∉ before.refreshing.erase thread := inv.distinct.not_mem_erase
        refine ⟨?_, ?_, refreshing.closed, notIn⟩
        · exact
            { packs := rfl
              queue := fun _ _ first => ⟨first, rfl, rfl⟩
              window := fun _ _ => Iff.rfl
              refreshing := fun other isOther => mem_erase_of_ne isOther
              inWindow := fun other _ window => by
                rw [closed] at window
                cases window
              inRefresh := fun _ _ _ => ⟨rfl, rfl, Or.inl rfl⟩ }
        · exact
            { inv with
              quiet := fun window => absurd closed window
              distinct := inv.distinct.erase _
              constrained := fun _ => by
                change SamePolicy next _
                rw [refreshing.current]
              installed := fun _ _ => installed }
      · rintro error last - ⟨bad, -⟩
        cases bad
  · rintro error last - (⟨bad, -⟩ | ⟨next, bad, -⟩)
    · cases bad
    · cases bad

theorem safe_changeConstraint (constraint : BridgeConstraint) (idle : IsIdleThread thread state) :
    SafeApart setup thread (fun _ => IsIdleThread thread) (ask (.changeConstraint constraint))
      state := by
  refine safe_perform stableApart_isIdle idle (fun _ => stableApart_isIdle) ?_
  rintro before choice outcome after inv idle ran
  obtain ⟨allowed, acts⟩ := perform_guarded.mp ran
  cases acts
  have apart : constraint = before.constraint ∨ (before.window = none ∧ before.refreshing = [] ∧
      SamePolicy before.bridgePolicy
        (constraint.constrainBridgePolicy before.sourceBridgePolicy)) := of_decide_eq_true allowed
  rcases apart with rfl | ⟨closed, quiet, same⟩
  · exact ⟨.refl _ _, inv, idle⟩
  · refine ⟨?_, { inv with constrained := fun _ => same }, idle⟩
    exact
      { BridgeGuarantee.refl thread before with
        inWindow := fun other _ window => by
          rw [closed] at window
          cases window
        inRefresh := fun other _ mem => by
          rw [quiet] at mem
          cases mem }

theorem safe_request (request : LifecycleRequest) (inv : BridgeInv state)
    (idle : IsIdleThread thread state) :
    SafeApart setup thread (fun _ => IsIdleThread thread) request.program state := by
  cases request with
  | operation operation => exact operationRules_apart.safe_program operation inv idle
  | refresh constraint => exact safe_refresh constraint inv idle
  | changeConstraint constraint => exact safe_changeConstraint constraint idle

end Threads

theorem PolicyStart.inv {state : LifecycleState} (started : PolicyStart state) :
    BridgeInv state where
  __ := started
  holder thread window := by
    rw [started.closed] at window
    cases window
  quiet _ := started.quiet
  distinct := by
    rw [started.quiet]
    exact nodup_nil
  constrained _ := started.constrained
  installed _ _ := started.installed
  built _ := started.built

/-- When all have ended, the invariant holds, and nobody is changing or refreshing anything. -/
theorem atRest_of_reachable {setup : LifecycleSetup} {pool : LifecyclePool}
    (reachable : (guardedMachine setup refreshesApart).Reachable PolicyStart pool)
    (allDone : AllDone pool) :
    BridgeInv pool.shared ∧ pool.shared.window = none ∧ pool.shared.refreshing = [] := by
  obtain ⟨inv, threads⟩ := safe_of_reachable BridgeInv BridgeGuarantee IsIdleThread
    (fun thread _ => IsIdleThread thread)
    (fun state started => ⟨started.inv, fun thread => ⟨by rw [started.closed]; nofun,
      by rw [started.quiet]; exact not_mem_nil⟩⟩)
    (fun _ => stableApart_isIdle) (fun event => event.elim)
    (fun request thread state inv idle => safe_request request inv idle) reachable
  -- whoever has not started and whoever has ended is idle
  have idle (thread : Nat) : IsIdleThread thread pool.shared := by
    have fact := threads thread
    cases running : pool.threads thread with
    | none =>
      rw [running] at fact
      exact fact
    | some program =>
      rw [running] at fact
      have done := allDone thread program running
      cases program with
      | pure value => exact fact _ .refl inv
      | throw error => exact fact _ .refl inv
      | call request next => cases done
  have closed : pool.shared.window = none := by
    cases window : pool.shared.window with
    | none => rfl
    | some thread => exact absurd window (idle thread).1
  have quiet : pool.shared.refreshing = [] :=
    eq_nil_iff_forall_not_mem.mpr fun thread => (idle thread).2
  exact ⟨inv, closed, quiet⟩

/-- Refreshes and changes that keep apart leave the policies in agreement. -/
theorem policiesConverge (setup : LifecycleSetup) (pool : LifecyclePool)
    (reachable : (guardedMachine setup refreshesApart).Reachable PolicyStart pool)
    (allDone : AllDone pool) : Converged pool.shared := by
  obtain ⟨inv, closed, quiet⟩ := atRest_of_reachable reachable allDone
  refine ⟨?_, ?_⟩
  · rw [inv.installed quiet closed]
  · rw [← inv.built closed]
    exact inv.constrained quiet

section Example

/-- Writing is no longer allowed. -/
def readOnlyConstraint : BridgeConstraint := { recruiterConstraint with writeAllowed := false }

/-- The pack is no longer paid for. -/
def revivedActions : List (PoolAction LifecycleChoice LifecycleRequest Empty) :=
  .start 0 (.operation .syncEntitlements) :: replicate 9 (.perform 0 succeeds) ++
    .start 1 (.refresh (some readOnlyConstraint)) :: replicate 3 (.perform 1 succeeds) ++
      replicate 4 (.perform 0 succeeds)

theorem policyStart_recruiterState : PolicyStart recruiterState where
  inOrder := pairwise_singleton _ _
  idle := rfl
  closed := rfl
  quiet := rfl
  installed := rfl
  constrained := .refl _
  built := rfl

/-- One operation, from its beginning to its end. -/
def syncActions : List (PoolAction LifecycleChoice LifecycleRequest Empty) :=
  .start 0 (.operation .syncEntitlements) :: replicate 13 (.perform 0 succeeds)

/-- A refresh that ends before the operation stages its change. -/
def refreshedActions : List (PoolAction LifecycleChoice LifecycleRequest Empty) :=
  .start 0 (.operation .syncEntitlements) :: replicate 2 (.perform 0 succeeds) ++
    .start 1 (.refresh (some readOnlyConstraint)) :: .perform 1 succeeds ::
      replicate 4 (.perform 0 succeeds) ++ replicate 2 (.perform 1 succeeds) ++
        replicate 7 (.perform 0 succeeds)

theorem allDone_of_started {condition : CallCondition} {state : LifecycleState}
    {pool : LifecyclePool} {actions : List (PoolAction LifecycleChoice LifecycleRequest Empty)}
    (runs : (guardedMachine recruiterSetup condition).run (initial state) actions = some pool)
    (done : ∀ thread request, PoolAction.start thread request ∈ actions →
      (pool.threads thread).map isDone = some true) : AllDone pool := by
  intro thread program running
  by_cases started : ∃ request, PoolAction.start thread request ∈ actions
  · obtain ⟨request, mem⟩ := started
    have isDone := done thread request mem
    rw [running] at isDone
    exact Option.some.inj isDone
  · have absent : pool.threads thread = none :=
      threads_run runs rfl fun action mem request same => started ⟨request, same ▸ mem⟩
    rw [absent] at running
    cases running

/-- After an operation beside a refresh the policies have converged. -/
theorem policiesConverge_sync : ∃ pool : LifecyclePool,
    ((pool.threads 0).map isDone = some true ∧
      (pool.threads 1).map isDone = some true) ∧ Converged pool.shared := by
  obtain ⟨pool, runs, facts⟩ := map_eq_some_iff.mp
    (show ((guardedMachine recruiterSetup refreshesApart).run (initial recruiterState)
        refreshedActions).map (fun pool => ((pool.threads 0).map isDone,
          (pool.threads 1).map isDone)) = some (some true, some true) by decide)
  obtain ⟨done, otherDone⟩ := Prod.mk.inj facts
  have reachable : (guardedMachine recruiterSetup refreshesApart).Reachable PolicyStart pool :=
    (Machine.Reachable.initial policyStart_recruiterState).run runs
  have allDone : AllDone pool := by
    apply allDone_of_started runs
    intro thread request mem
    simp only [refreshedActions, mem_append, mem_cons, mem_replicate] at mem
    rcases thread with _ | _ | thread <;> simp_all
  exact ⟨pool, ⟨done, otherDone⟩, policiesConverge recruiterSetup pool reachable allDone⟩

theorem not_policiesConverge : ¬ PoliciesConverge rollbacksSucceed := by
  intro converge
  obtain ⟨pool, runs, facts⟩ := map_eq_some_iff.mp
    (show ((guardedMachine recruiterSetup rollbacksSucceed).run (initial recruiterState)
        revivedActions).map (fun pool =>
          ((pool.threads 0).map isDone, (pool.threads 1).map isDone,
            pool.shared.corePolicy.values.flatten.map BridgeSkillGrant.skillId,
            pool.shared.bridgePolicy.entries.length)) =
      some (some true, some true, ["longhub.skill.resume-screen"], 0) by decide)
  simp only [Prod.mk.injEq] at facts
  obtain ⟨done, otherDone, revived, noGrants⟩ := facts
  have reachable : (guardedMachine recruiterSetup rollbacksSucceed).Reachable PolicyStart pool :=
    (Machine.Reachable.initial policyStart_recruiterState).run runs
  have allDone : AllDone pool := by
    apply allDone_of_started runs
    intro thread request mem
    simp only [revivedActions, mem_append, mem_cons, mem_replicate] at mem
    rcases thread with _ | _ | thread <;> simp_all
  have same := (converge recruiterSetup pool reachable allDone).installed
  rw [SamePolicy, eq_nil_of_length_eq_zero noGrants, perm_nil] at same
  unfold InsertionMap.values at revived
  rw [same] at revived
  cases revived

end Example

end LongHub
