import LongHub.CoreRuntime
import LongHub.CanonicalDepth

/-!
# Executions and the installed policy

The grant of a call is looked up before the entitlement is checked and used after it.
-/

namespace LongHub

open CoreRuntime InsertionMap
namespace CoreRuntime

variable {options : CoreRuntimeOptions} {runtime after : CoreRuntime} {call : BridgeCall}
  {grant : BridgeSkillGrant} {answer : Option BridgeEntitlementStatus} {moment : Moment}

theorem mem_of_beginBridgeSkill (begun : runtime.beginBridgeSkill options call = .ok grant) :
    grant ∈ (runtime.bridgePolicy.get? call.context.agentId).getD [] ∧
      grant.skillId = call.skillId := by
  cases known : runtime.bridgePolicy.get? call.context.agentId with
  | none =>
    simp only [beginBridgeSkill, lookupGrant, known, bind, Except.bind_eq_ok_iff] at begun
    obtain ⟨_, ⟨_, _, failed⟩, _⟩ := begun
    split at failed <;> simp [Except.bind] at failed
  | some grants =>
    simp only [beginBridgeSkill, lookupGrant, known, Except.bind_eq_ok, Except.pure_eq_ok,
      Except.require_eq_ok] at begun
    obtain ⟨_, ⟨_, _, _, rfl, listed⟩, _, _, rfl⟩ := begun
    have matched := List.find?_some listed
    exact ⟨List.mem_of_find?_eq_some listed, by simpa using matched⟩

theorem bridgePolicy_pruneConfirmations (now : Instant) :
    (runtime.pruneConfirmations options now).bridgePolicy = runtime.bridgePolicy := by
  have folded (records : List BridgeConfirmationRecord) (current : CoreRuntime) :
      (records.foldl (fun current record =>
        if record.status ≠ .consumed && !isExpired options record now then current
        else current.dropConfirmation options record) current).bridgePolicy =
        current.bridgePolicy := by
    induction records generalizing current with
    | nil => rfl
    | cons record rest ih =>
      rw [List.foldl_cons, ih]
      split <;> rfl
  exact folded _ runtime

theorem bridgePolicy_findConfirmation (binding : String) (now : Instant) :
    (runtime.findConfirmation options binding now).1.bridgePolicy = runtime.bridgePolicy := by
  unfold findConfirmation
  split
  · split <;> rfl
  · rfl

theorem bridgePolicy_requireConfirmation (subject : BridgeConfirmationSubject) (binding : String) :
    (runtime.requireConfirmation options subject binding moment).1.bridgePolicy =
      runtime.bridgePolicy := by
  have found : (runtime.findConfirmation options binding moment.now).1.bridgePolicy =
      runtime.bridgePolicy := bridgePolicy_findConfirmation binding moment.now
  unfold requireConfirmation
  generalize runtime.findConfirmation options binding moment.now = result at found ⊢
  obtain ⟨current, record⟩ := result
  cases record with
  | none =>
    simp only [requestConfirmation]
    split <;> exact found
  | some record =>
    dsimp only
    split <;> exact found

theorem bridgePolicy_confirmCall :
    (runtime.confirmCall options call grant moment).1.bridgePolicy = runtime.bridgePolicy := by
  have pruned : (runtime.pruneConfirmations options moment.now).bridgePolicy =
      runtime.bridgePolicy := bridgePolicy_pruneConfirmations moment.now
  simp only [confirmCall]
  split
  · exact pruned
  · split
    · exact pruned
    · exact (bridgePolicy_requireConfirmation _ _).trans pruned

/-- What the second part of a call does, by the way it ends. -/
theorem finishBridgeSkill_cases {outcome : Except BridgeError BridgeExecution}
    (finished : runtime.finishBridgeSkill options call grant answer moment = (after, outcome)) :
    (after = runtime ∧ ∃ problem, outcome = .error problem) ∨
      (sensitivePermissions options grant = [] ∧ after = runtime ∧
        outcome = executorCall options call grant) ∨ (sensitivePermissions options grant ≠ [] ∧
        ((∃ problem, runtime.confirmCall options call grant moment = (after, .error problem) ∧
            outcome = .error problem) ∨
          runtime.confirmCall options call grant moment = (after, .ok ()) ∧
            outcome = executorCall options call grant)) := by
  unfold finishBridgeSkill at finished
  split at finished
  · cases finished
    exact Or.inl ⟨rfl, _, rfl⟩
  · split at finished
    · next none_ =>
      cases finished
      exact Or.inr (Or.inl ⟨none_, rfl, rfl⟩)
    · next sensitive =>
      right
      right
      refine ⟨sensitive, ?_⟩
      generalize runtime.confirmCall options call grant moment = result at finished ⊢
      obtain ⟨current, confirmed⟩ := result
      cases confirmed with
      | error problem =>
        cases finished
        exact Or.inl ⟨problem, rfl, rfl⟩
      | ok done =>
        cases finished
        exact Or.inr ⟨rfl, rfl⟩

theorem bridgePolicy_finishBridgeSkill :
    (runtime.finishBridgeSkill options call grant answer moment).1.bridgePolicy =
      runtime.bridgePolicy := by
  have confirmed : (runtime.confirmCall options call grant moment).1.bridgePolicy =
      runtime.bridgePolicy := bridgePolicy_confirmCall
  generalize finished : runtime.finishBridgeSkill options call grant answer moment = result
  rcases finishBridgeSkill_cases finished with
    ⟨rfl, _⟩ | ⟨_, rfl, _⟩ | ⟨_, ⟨_, confirm, _⟩ | ⟨confirm, _⟩⟩
  · rfl
  · rfl
  · rw [confirm] at confirmed
    exact confirmed
  · rw [confirm] at confirmed
    exact confirmed

variable {execution : BridgeExecution}

theorem executorCall_of_finished
    (finished : runtime.finishBridgeSkill options call grant answer moment =
      (after, .ok execution)) : executorCall options call grant = .ok execution := by
  rcases finishBridgeSkill_cases finished with
    ⟨_, _, bad⟩ | ⟨_, _, made⟩ | ⟨_, ⟨_, _, bad⟩ | ⟨_, made⟩⟩
  · cases bad
  · exact made.symm
  · cases bad
  · exact made.symm

theorem executorCall_eq_ok : executorCall options call grant = .ok execution ↔
      ∃ budget, clampBudget (some grant.budget) (options.defaultBudget.getD defaultCoreBudget) =
          .ok budget ∧
        execution = ⟨call, grant, intersectBridgePermissions options.node grant, budget⟩ := by
  unfold executorCall
  split
  · next failed => simp [failed]
  · next clamped => simp [clamped, eq_comm]

end CoreRuntime

/-- A policy lists a grant like this one for the call: for the same agent and
Skill, with the same pack version, the same effective permissions and the same
budget. -/
def Covers (options : CoreRuntimeOptions) (policy : BridgeExecutionPolicy) (call : BridgeCall)
    (grant : BridgeSkillGrant) : Prop :=
  ∃ other ∈ (policy.get? call.context.agentId).getD [],
    other.skillId = call.skillId ∧ other.packVersion = grant.packVersion ∧
      intersectBridgePermissions options.node other =
        intersectBridgePermissions options.node grant ∧
      clampBudget (some other.budget) (options.defaultBudget.getD defaultCoreBudget) =
        clampBudget (some grant.budget) (options.defaultBudget.getD defaultCoreBudget)

def ExecutesUnderPolicy (options : CoreRuntimeOptions) (events : List CoreEvent) : Prop :=
  ∀ execution policy consumed, CoreEvent.executed execution policy consumed ∈ events →
    ∃ grant ∈ (policy.get? execution.call.context.agentId).getD [],
      grant.skillId = execution.call.skillId ∧ grant.packVersion = execution.grant.packVersion ∧
        intersectBridgePermissions options.node grant = execution.permissions ∧
        clampBudget (some grant.budget)
          (options.defaultBudget.getD defaultCoreBudget) = .ok execution.budget

def KeepsWaiting (options : CoreRuntimeOptions) (session : CoreSession) : CoreAction → Prop
  | .replace policy => ∀ name pending, session.calls.get? name = some pending →
      Covers options policy pending.call pending.grant
  | _ => True

namespace CoreSession

variable {options : CoreRuntimeOptions} {before after : CoreSession}

structure PolicyInv (options : CoreRuntimeOptions) (session : CoreSession) : Prop where
  waiting : ∀ name pending, session.calls.get? name = some pending →
    Covers options session.runtime.bridgePolicy pending.call pending.grant
  executed : ExecutesUnderPolicy options session.events

variable {pending : PendingCall} {policy : BridgeExecutionPolicy}

theorem mem_eventsOf {runtime next : CoreRuntime} {moment : CoreRuntime.Moment}
    {outcome : Except BridgeError BridgeExecution} {execution : BridgeExecution}
    {consumed : List BridgeConfirmationRecord}
    (mem : CoreEvent.executed execution policy consumed ∈
      eventsOf options runtime next pending moment outcome) :
    outcome = .ok execution ∧ policy = runtime.bridgePolicy := by
  simp only [eventsOf, List.mem_append] at mem
  rcases mem with mem | mem
  · cases outcome with
    | error problem => simp at mem
    | ok made =>
      simp only [List.mem_singleton, CoreEvent.executed.injEq] at mem
      exact ⟨by rw [mem.1], mem.2.1⟩
  · split at mem <;> simp at mem

theorem PolicyInv.step (inv : before.PolicyInv options) {action : CoreAction}
    (keeps : KeepsWaiting options before action)
    (stepTo : before.step options action = some after) : after.PolicyInv options := by
  cases action with
  | execute name call =>
    simp only [CoreSession.step] at stepTo
    split at stepTo
    · cases stepTo
    · split at stepTo
      · cases stepTo
        exact inv
      · next grant begun =>
        cases stepTo
        obtain ⟨listed, skill⟩ := mem_of_beginBridgeSkill begun
        refine ⟨?_, inv.executed⟩
        intro other pending found
        rw [get?_set] at found
        split at found
        · cases found
          exact ⟨grant, listed, skill, rfl, rfl, rfl⟩
        · exact inv.waiting other pending found
  | verified name answer randomUUID listenerError =>
    simp only [CoreSession.step] at stepTo
    split at stepTo
    · cases stepTo
    · obtain ⟨pending, found, rfl⟩ := Option.map_eq_some_iff.mp stepTo
      have samePolicy : (before.runtime.finishBridgeSkill options pending.call pending.grant
          answer ⟨before.clock, randomUUID, listenerError⟩).1.bridgePolicy =
            before.runtime.bridgePolicy := bridgePolicy_finishBridgeSkill
      constructor
      · intro other waiting known
        rw [get?_delete] at known
        split at known
        · cases known
        · rw [samePolicy]
          exact inv.waiting other waiting known
      · intro execution policy consumed mem
        rcases List.mem_append.mp mem with isNew | isOld
        · obtain ⟨ended, rfl⟩ := mem_eventsOf isNew
          obtain ⟨other, listed, skill, version, permissions, budget⟩ :=
            inv.waiting name pending found
          have made := executorCall_of_finished (Prod.ext rfl ended)
          obtain ⟨clamped, clamp, rfl⟩ := executorCall_eq_ok.mp made
          exact ⟨other, listed, skill, version, permissions, budget.trans clamp⟩
        · exact inv.executed execution policy consumed isOld
  | respond response =>
    simp only [CoreSession.step] at stepTo
    split at stepTo
    · cases stepTo
      exact inv
    · next runtime record answered =>
      cases stepTo
      have samePolicy : runtime.bridgePolicy = before.runtime.bridgePolicy := by
        simp only [respondBridgeConfirmation] at answered
        split at answered
        · cases answered
        · split at answered
          · cases answered
          · cases answered
            rfl
      constructor
      · intro name pending found
        rw [samePolicy]
        exact inv.waiting name pending found
      · intro execution policy consumed mem
        have isOld : CoreEvent.executed execution policy consumed ∈ before.events := by
          simpa using mem
        exact inv.executed execution policy consumed isOld
  | replace policy =>
    cases stepTo
    refine ⟨keeps, ?_⟩
    intro execution installed consumed mem
    have isOld : CoreEvent.executed execution installed consumed ∈ before.events := by
      simpa using mem
    exact inv.executed execution installed consumed isOld
  | wait duration =>
    cases stepTo
    exact ⟨inv.waiting, inv.executed⟩

/-- Nothing but the check of the entitlement stands between a call and its
execution. -/
structure NeedsNoConfirmation (options : CoreRuntimeOptions) (grant : BridgeSkillGrant) : Prop where
  complete : checkPermissions options grant = .ok ()
  none_ : sensitivePermissions options grant = []
  budget : ∃ budget, clampBudget (some grant.budget)
    (options.defaultBudget.getD defaultCoreBudget) = .ok budget

theorem executes_dropped {session : CoreSession} {name : Nat}
    (waits : session.calls.get? name = some pending)
    (dropped : ¬ Covers options policy pending.call pending.grant)
    (runs : NeedsNoConfirmation options pending.grant) {randomUUID expiresAt : String}
    (fresh : "confirm-" ++ randomUUID ∉ requestedIds session.events) {expiry : Instant}
    (parsed : options.parseDate expiresAt = some expiry) (ahead : session.clock < expiry) :
    ∃ last, runActions (step options) session
        [.replace policy, .verified name (some ⟨true, some expiresAt, none⟩) randomUUID none] =
          some last ∧ ¬ ExecutesUnderPolicy options last.events := by
  obtain ⟨budget, clamped⟩ := runs.budget
  let moment : CoreRuntime.Moment := ⟨session.clock, randomUUID, none⟩
  let execution : BridgeExecution :=
    ⟨pending.call, pending.grant, intersectBridgePermissions options.node pending.grant, budget⟩
  have checked : checkEntitlement options (some ⟨true, some expiresAt, none⟩)
      session.clock = .ok () := by
    simp [checkEntitlement, Except.require, Except.ensure, parsed, ahead, bind, Except.bind]
  have finished : (replaceBridgePolicy policy).finishBridgeSkill options pending.call
      pending.grant (some ⟨true, some expiresAt, none⟩) moment =
        (.replaceBridgePolicy policy, .ok execution) := by
    simp only [finishBridgeSkill, moment, checked, Except.bind, runs.complete,
      if_pos runs.none_, executorCall, clamped, execution]
  have stillFresh : "confirm-" ++ randomUUID ∉
      requestedIds (CoreEvent.replaced policy :: session.events) := by
    simpa [requestedIds] using fresh
  refine ⟨_, by simp [runActions, CoreSession.step, stillFresh, waits]; rfl, ?_⟩
  intro holds
  have mem : CoreEvent.executed execution policy
      ((replaceBridgePolicy policy).consumed options session.clock
        (.replaceBridgePolicy policy)) ∈
      eventsOf options (.replaceBridgePolicy policy) (.replaceBridgePolicy policy) pending moment
        (.ok execution) := by
    simp [eventsOf, moment, replaceBridgePolicy]
  obtain ⟨other, listed, skill, version, permissions, otherBudget⟩ :=
    holds execution policy _ (by
      apply List.mem_append_left
      have same := congrArg (fun result => eventsOf options
        (.replaceBridgePolicy policy) result.1 pending moment result.2) finished
      exact same ▸ mem)
  exact dropped ⟨other, listed, skill, version, permissions, otherBudget.trans clamped.symm⟩

/-- The property that every execution of every run is under the policy of its
moment. -/
def PolicyLaw : Prop :=
  ∀ (options : CoreRuntimeOptions) (policy : BridgeExecutionPolicy) (clock : Instant)
    (session : CoreSession),
    GuardedRun (step options) (fun _ _ => True) (initial policy clock) session →
      ExecutesUnderPolicy options session.events

theorem executesUnderPolicy {policy : BridgeExecutionPolicy} {clock : Instant}
    {session : CoreSession}
    (run : GuardedRun (step options) (KeepsWaiting options) (initial policy clock) session) :
    ExecutesUnderPolicy options session.events ∧
      ∀ name pending newPolicy, session.calls.get? name = some pending →
        ¬ Covers options newPolicy pending.call pending.grant →
        NeedsNoConfirmation options pending.grant →
        ∀ randomUUID expiresAt expiry, "confirm-" ++ randomUUID ∉ requestedIds session.events →
          options.parseDate expiresAt = some expiry → session.clock < expiry →
          ∃ last, runActions (step options) session [.replace newPolicy,
                .verified name (some ⟨true, some expiresAt, none⟩) randomUUID none] = some last ∧
            ¬ ExecutesUnderPolicy options last.events := by
  constructor
  · have inv : session.PolicyInv options := by
      apply run.invariant (PolicyInv options)
      · refine ⟨?_, ?_⟩
        · intro name pending found
          simp [initial] at found
        · intro execution installed consumed mem
          simp [initial] at mem
      · intro before after action inv keeps stepTo
        exact inv.step keeps stepTo
    exact inv.executed
  · intro name pending newPolicy waits dropped runs randomUUID expiresAt expiry fresh parsed ahead
    exact executes_dropped waits dropped runs fresh parsed ahead

section Example

def readingGrant : BridgeSkillGrant where
  skillId := "notes"
  packId := "office"
  packVersion := "1.0.0"
  profileVersion := "1.0.0"
  requiredPermissions := ["notes:read"]
  profilePermissions := ["notes:read"]
  packPermissions := ["notes:read"]
  tenantPermissions := ["notes:read"]
  devicePermissions := ["notes:read"]
  budget := ⟨1000, 10, 1000⟩
  confirmation := none

def readingCall : BridgeCall :=
  ⟨"notes", ⟨.null, .null⟩, ⟨"helper", "agent:helper:main", "session", "tool-call"⟩⟩

def readingOptions : CoreRuntimeOptions :=
  ⟨composingNode, IsoInstant.parse, true, none⟩

def readingPolicy : BridgeExecutionPolicy := empty.set "helper" [readingGrant]

def waitingSession : CoreSession :=
  { initial readingPolicy 0 with calls := empty.set 0 ⟨readingCall, readingGrant⟩ }

theorem step_readingCall : step readingOptions (initial readingPolicy 0) (.execute 0 readingCall) =
      some waitingSession := by
  rfl

theorem needsNoConfirmation_readingGrant : NeedsNoConfirmation readingOptions readingGrant where
  complete := by rfl
  none_ := by decide
  budget := ⟨⟨1000, 10, 1000⟩, by rfl⟩

/-- The policy is replaced while the call waits, and still has its grant. -/
def replacedSession : CoreSession :=
  { waitingSession with
    runtime := .replaceBridgePolicy readingPolicy
    events := [.replaced readingPolicy] }

theorem run_replacedSession : GuardedRun (step readingOptions) (KeepsWaiting readingOptions)
    (initial readingPolicy 0) replacedSession := by
  refine (GuardedRun.refl.tail (.execute 0 readingCall) trivial step_readingCall).tail
    (.replace readingPolicy) ?_ rfl
  intro name pending found
  simp only [waitingSession, get?_set, initial, get?_empty] at found
  split at found
  · cases found
    exact ⟨readingGrant, List.mem_cons_self, rfl, rfl, rfl, rfl⟩
  · cases found

theorem executesUnderPolicy_waiting :
    ExecutesUnderPolicy readingOptions replacedSession.events ∧
      ∀ name pending newPolicy, replacedSession.calls.get? name = some pending →
        ¬ Covers readingOptions newPolicy pending.call pending.grant →
        NeedsNoConfirmation readingOptions pending.grant →
        ∀ randomUUID expiresAt expiry,
          "confirm-" ++ randomUUID ∉ requestedIds replacedSession.events →
          readingOptions.parseDate expiresAt = some expiry → replacedSession.clock < expiry →
          ∃ last, runActions (step readingOptions) replacedSession [.replace newPolicy,
                .verified name (some ⟨true, some expiresAt, none⟩) randomUUID none] = some last ∧
            ¬ ExecutesUnderPolicy readingOptions last.events :=
  executesUnderPolicy run_replacedSession

/-- The pack is revoked while the check of its entitlement is on its way. -/
theorem not_policyLaw : ¬ PolicyLaw := by
  intro law
  have begun : GuardedRun (step readingOptions) (fun _ _ => True) (initial readingPolicy 0)
      waitingSession :=
    GuardedRun.refl.tail (.execute 0 readingCall) trivial step_readingCall
  have waits : waitingSession.calls.get? 0 = some ⟨readingCall, readingGrant⟩ := rfl
  have dropped : ¬ Covers readingOptions .empty readingCall readingGrant := by simp [Covers]
  have fresh : "confirm-" ++ "first" ∉ requestedIds waitingSession.events := by
    simp [requestedIds, waitingSession, initial]
  have parsed : readingOptions.parseDate "2030-01-01T00:00:00.000Z" = some 1893456000000 := by
    decide
  have ahead : waitingSession.clock < (1893456000000 : Int) := by decide
  obtain ⟨last, runs, outside⟩ :=
    executes_dropped waits dropped needsNoConfirmation_readingGrant fresh parsed ahead
  exact outside (law _ _ _ _ (begun.trans (GuardedRun.of_runActions (fun _ _ => trivial) runs)))

end Example

end CoreSession

end LongHub
