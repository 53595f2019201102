import LongHub.BridgeConfirmations

/-!
# One confirmation, one execution

Every execution that needs a confirmation uses up exactly one. The user approved it before its end
and after the last replacement of the policy, and it was created for the same call.
-/

namespace LongHub

open CoreRuntime InsertionMap
namespace CoreSession

open CoreRuntime (IsSubject ConfirmationMaps bindingOf isExpired sensitivePermissions)

variable {options : CoreRuntimeOptions} {before after : CoreSession} {events : List CoreEvent}
  {record : BridgeConfirmationRecord}

def consumedIds (events : List CoreEvent) : List String :=
  events.flatMap fun event =>
    match event with
    | .executed _ _ consumed => consumed.map BridgeConfirmationRecord.confirmationId
    | _ => []

/-- What is executed is what the confirmation was created for. -/
structure SameCall {ν : Type} (options : CoreRuntimeOptions) (value : String → ν)
    (call : BridgeCall) (grant : BridgeSkillGrant) (execution : BridgeExecution) : Prop where
  agentId : call.context.agentId = execution.call.context.agentId
  skillId : call.skillId = execution.call.skillId
  profileVersion : grant.profileVersion = execution.grant.profileVersion
  sessionId : call.context.sessionId = execution.call.context.sessionId
  toolCallId : call.context.toolCallId = execution.call.context.toolCallId
  permissions : (sensitivePermissions options grant).Perm
    (execution.permissions.filter permissionRequiresConfirmation)
  payload : JsonValue.SameJson value call.input.val execution.call.input.val

/-- The user approved it in time, and the policy has not been replaced since. -/
def ApprovedFor (options : CoreRuntimeOptions) (events : List CoreEvent)
    (record : BridgeConfirmationRecord) (isFor : BridgeCall → BridgeSkillGrant → Prop) : Prop :=
  ∃ late time early, events = late ++ .answered record time :: early ∧
    record.status = .approved ∧ (∀ policy, .replaced policy ∉ late) ∧
    (∃ expiry, options.parseDate record.expiresAt = some expiry ∧ time < expiry) ∧
    ∃ original call grant, .requested original call grant ∈ early ∧
      original.confirmationId = record.confirmationId ∧ isFor call grant

/-- What holds of the confirmations and executions so far. -/
structure ConfirmationsHold {ν : Type} (options : CoreRuntimeOptions) (value : String → ν)
    (session : CoreSession) : Prop where
  confirmed : ∀ execution policy consumed early,
    (.executed execution policy consumed :: early) <:+ session.events →
    (∃ permission ∈ execution.permissions, permissionRequiresConfirmation permission = true) →
      ∃ record, consumed = [record] ∧ ApprovedFor options early record fun call grant =>
        SameCall options value call grant execution
  once : (consumedIds session.events).Nodup
  denied : ∀ record time, .answered record time ∈ session.events → record.status = .denied →
    record.confirmationId ∉ consumedIds session.events
  inverse : ∀ binding confirmationId,
    session.runtime.confirmationIdsByBinding.get? binding = some confirmationId ↔
      ∃ record, session.runtime.confirmations.get? confirmationId = some record ∧
        bindingOf options record = some binding

variable {call : BridgeCall} {grant : BridgeSkillGrant} {execution : BridgeExecution}
  {runtime : CoreRuntime} {pending : PendingCall} {moment : CoreRuntime.Moment}

theorem permissions_executorCall (made : executorCall options call grant = .ok execution) :
    execution.call = call ∧ execution.grant = grant ∧
      execution.permissions.filter permissionRequiresConfirmation =
        sensitivePermissions options grant := by
  obtain ⟨budget, -, rfl⟩ := executorCall_eq_ok.mp made
  exact ⟨rfl, rfl, rfl⟩

structure SubjectOf (options : CoreRuntimeOptions) (call : BridgeCall) (grant : BridgeSkillGrant)
    (subject : BridgeConfirmationSubject) : Prop where
  agentId : subject.agentId = call.context.agentId
  skillId : subject.skillId = call.skillId
  profileVersion : subject.profileVersion = grant.profileVersion
  sessionId : subject.sessionId = call.context.sessionId
  toolCallId : subject.toolCallId = call.context.toolCallId
  permissions : subject.permissions = sensitivePermissions options grant
  payloadDigest : CoreAuthorization.bridgePayloadDigest options.node call.skillId call.input =
    some subject.payloadDigest

theorem subjectOf_of_isSubject {subject : BridgeConfirmationSubject}
    (isSubject : IsSubject options call grant subject) : SubjectOf options call grant subject := by
  unfold IsSubject confirmationSubject at isSubject
  simp only [Except.bind_eq_ok, Except.require_eq_ok] at isSubject
  obtain ⟨descriptor, -, isSubject⟩ := isSubject
  split at isSubject
  · simp only [Except.bind_eq_ok, Except.require_eq_ok, Except.pure_eq_ok] at isSubject
    obtain ⟨_, _, digest, digested, rfl⟩ := isSubject
    exact ⟨rfl, rfl, rfl, rfl, rfl, rfl, digested⟩
  · simp [Except.bind_eq_ok] at isSubject

def callTexts (options : CoreRuntimeOptions) (call : BridgeCall) (grant : BridgeSkillGrant) :
    List String :=
  (payloadText options.node call.skillId call.input).toList ++
    match confirmationSubject options call grant with
    | .ok subject => (bindingText options.node subject).toList
    | .error _ => []

def hashedTexts (options : CoreRuntimeOptions) (events : List CoreEvent) : List String :=
  events.flatMap fun event =>
    match event with
    | .requested _ call grant => callTexts options call grant
    | .executed execution _ _ => callTexts options execution.call execution.grant
    | _ => []

theorem mem_callTexts {subject : BridgeConfirmationSubject}
    (isSubject : IsSubject options call grant subject) :
    (∀ text, bindingText options.node subject = some text → text ∈ callTexts options call grant) ∧
      ∀ text, payloadText options.node call.skillId call.input = some text →
        text ∈ callTexts options call grant := by
  unfold IsSubject at isSubject
  constructor
  · intro text printed
    simp [callTexts, isSubject, printed]
  · intro text printed
    simp [callTexts, printed]

def SameBinding (options : CoreRuntimeOptions) (call : BridgeCall) (grant : BridgeSkillGrant)
    (execution : BridgeExecution) : Prop :=
  ∃ subject other binding, IsSubject options call grant subject ∧
    IsSubject options execution.call execution.grant other ∧
    bridgeConfirmationBinding options.node subject = some binding ∧
    bridgeConfirmationBinding options.node other = some binding ∧
    execution.permissions.filter permissionRequiresConfirmation =
      sensitivePermissions options execution.grant

theorem SameBinding.sameCall {ν : Type} {value : String → ν} {texts : List String}
    (sameBinding : SameBinding options call grant execution)
    (documented : options.node.Documented value) (noCollision : CollisionFree options.node texts)
    (hashed : callTexts options call grant ⊆ texts)
    (otherHashed : callTexts options execution.call execution.grant ⊆ texts) :
    SameCall options value call grant execution := by
  obtain ⟨subject, other, binding, created, executed, bound, otherBound, made⟩ := sameBinding
  obtain ⟨bindingIn, payloadIn⟩ := mem_callTexts created
  obtain ⟨otherBindingIn, otherPayloadIn⟩ := mem_callTexts executed
  have same := sameSubject_of_binding_eq documented noCollision
    (fun text printed => hashed (bindingIn text printed))
    (fun text printed => otherHashed (otherBindingIn text printed)) bound otherBound
  have first := subjectOf_of_isSubject created
  have second := subjectOf_of_isSubject executed
  have digest := second.payloadDigest
  rw [← same.payloadDigest] at digest
  exact
    { agentId := first.agentId.symm.trans (same.agentId.trans second.agentId)
      skillId := first.skillId.symm.trans (same.skillId.trans second.skillId)
      profileVersion :=
        first.profileVersion.symm.trans (same.profileVersion.trans second.profileVersion)
      sessionId := first.sessionId.symm.trans (same.sessionId.trans second.sessionId)
      toolCallId := first.toolCallId.symm.trans (same.toolCallId.trans second.toolCallId)
      permissions := by
        rw [made, ← first.permissions, ← second.permissions]
        exact same.permissions
      payload := sameInput_of_digest_eq documented noCollision
        (fun text printed => hashed (payloadIn text printed))
        (fun text printed => otherHashed (otherPayloadIn text printed)) first.payloadDigest digest }

/-- What one step can do to the events and the confirmations. -/
inductive Changes (options : CoreRuntimeOptions) (before after : CoreSession) : Prop where
  | quiet (events : after.events = before.events) (fewer : ∀ confirmationId record,
        after.runtime.confirmations.get? confirmationId = some record →
          before.runtime.confirmations.get? confirmationId = some record)
  | replaced (policy : BridgeExecutionPolicy)
      (events : after.events = .replaced policy :: before.events)
      (none_ : ∀ confirmationId, after.runtime.confirmations.get? confirmationId = none)
  | requested {record : BridgeConfirmationRecord} {call : BridgeCall} {grant : BridgeSkillGrant}
      (events : after.events = .requested record call grant :: before.events)
      (fresh : record.confirmationId ∉ requestedIds before.events)
      (subject : IsSubject options call grant record.toBridgeConfirmationSubject)
      (pending : record.status = .pending)
      (written : IsoInstant.toISOString (before.clock + 5 * 60000) = some record.expiresAt)
      (lookups : ∀ confirmationId other,
        after.runtime.confirmations.get? confirmationId = some other →
          other = record ∨ before.runtime.confirmations.get? confirmationId = some other)
  | answered {record changed : BridgeConfirmationRecord}
      (events : after.events = .answered changed before.clock :: before.events)
      (live : before.runtime.confirmations.get? record.confirmationId = some record)
      (pending : record.status = .pending)
      (runs : isExpired options record before.clock = false)
      (change : ∃ approved : Bool,
        changed = { record with status := if approved then .approved else .denied })
      (lookups : ∀ confirmationId, after.runtime.confirmations.get? confirmationId =
          if confirmationId = record.confirmationId then some changed
          else before.runtime.confirmations.get? confirmationId)
  | runsFreely {execution : BridgeExecution} {policy : BridgeExecutionPolicy}
      (events : after.events = .executed execution policy [] :: before.events)
      (same : after.runtime.confirmations = before.runtime.confirmations)
      (free : execution.permissions.filter permissionRequiresConfirmation = [])
  | runsConfirmed {execution : BridgeExecution} {policy : BridgeExecutionPolicy}
      {record : BridgeConfirmationRecord} {subject : BridgeConfirmationSubject} {binding : String}
      (events : after.events = .executed execution policy [record] :: before.events)
      (live : before.runtime.confirmations.get? record.confirmationId = some record)
      (approved : record.status = .approved)
      (gone : after.runtime.confirmations.get? record.confirmationId = none)
      (fewer : ∀ confirmationId other,
        after.runtime.confirmations.get? confirmationId = some other →
          before.runtime.confirmations.get? confirmationId = some other)
      (made : execution.permissions.filter permissionRequiresConfirmation =
        sensitivePermissions options execution.grant)
      (isSubject : IsSubject options execution.call execution.grant subject)
      (bound : bridgeConfirmationBinding options.node subject = some binding)
      (named : bindingOf options record = some binding)

/-- Nothing is asked when the maps have no entry for the new id. -/
theorem eventsOf_error {next : CoreRuntime} {problem : BridgeError}
    (absent : next.confirmations.get? ("confirm-" ++ moment.randomUUID) = none) :
    eventsOf options runtime next pending moment (.error problem) = [] := by
  simp [eventsOf, absent]

theorem eventsOf_ok {next : CoreRuntime}
    (absent : next.confirmations.get? ("confirm-" ++ moment.randomUUID) = none) :
    eventsOf options runtime next pending moment (.ok execution) =
      [.executed execution runtime.bridgePolicy (runtime.consumed options moment.now next)] := by
  simp [eventsOf, absent]

theorem changes_of_finished (maps : before.runtime.ConfirmationMaps options)
    {answer : Option BridgeEntitlementStatus} (isNow : moment.now = before.clock)
    (fresh : "confirm-" ++ moment.randomUUID ∉ requestedIds before.events)
    (absent : before.runtime.confirmations.get? ("confirm-" ++ moment.randomUUID) = none)
    {outcome : Except BridgeError BridgeExecution} {calls : InsertionMap Nat PendingCall}
    (finished : before.runtime.finishBridgeSkill options pending.call pending.grant answer moment =
      (runtime, outcome)) : runtime.ConfirmationMaps options ∧
      Changes options before ⟨runtime, calls, before.clock,
        eventsOf options before.runtime runtime pending moment outcome ++ before.events⟩ := by
  obtain ⟨-, pruned⟩ := maps.prune moment.now
  have stays {next : CoreRuntime}
      (fewer : ∀ confirmationId record, next.confirmations.get? confirmationId = some record →
        before.runtime.confirmations.get? confirmationId = some record) :
      next.confirmations.get? ("confirm-" ++ moment.randomUUID) = none := by
    rw [Option.eq_none_iff_forall_ne_some]
    intro other found
    rw [fewer _ _ found] at absent
    cases absent
  have fewerPruned (confirmationId : String) (record : BridgeConfirmationRecord)
      (found : (before.runtime.pruneConfirmations options moment.now).confirmations.get?
        confirmationId = some record) :
      before.runtime.confirmations.get? confirmationId = some record :=
    ((pruned _ _).mp found).1
  rcases finishBridgeSkill_cases finished with
    ⟨rfl, problem, rfl⟩ | ⟨free, rfl, rfl⟩ | ⟨sensitive, ⟨problem, confirm, rfl⟩ | ⟨confirm, rfl⟩⟩
  · refine ⟨maps, .quiet ?_ fun _ _ found => found⟩
    rw [eventsOf_error absent]
    rfl
  · refine ⟨maps, ?_⟩
    cases made : executorCall options pending.call pending.grant with
    | error problem =>
      refine .quiet ?_ fun _ _ found => found
      rw [eventsOf_error absent]
      rfl
    | ok execution =>
      obtain ⟨-, -, permissions⟩ := permissions_executorCall made
      have events : eventsOf options before.runtime before.runtime pending moment
          (.ok execution) = [.executed execution before.runtime.bridgePolicy []] := by
        rw [eventsOf_ok absent, consumed_self]
      exact .runsFreely (congrArg (· ++ before.events) events) rfl (permissions.trans free)
  · have confirms := confirms_confirmCall maps confirm
    refine ⟨confirms.maps maps absent, ?_⟩
    cases confirms with
    | stays =>
      refine .quiet ?_ fewerPruned
      rw [eventsOf_error (stays fewerPruned)]
      rfl
    | @requests _ record binding subject bound created freeName =>
      obtain ⟨-, newId, isPending, written⟩ := subject_of_created created
      rw [isNow] at written
      refine .requested ?_ (newId ▸ fresh) subject isPending written ?_
      · simp only [eventsOf, ← newId, get?_set, if_pos, List.nil_append, List.singleton_append]
      · intro confirmationId other found
        dsimp only at found
        rw [get?_set] at found
        split at found
        · exact Or.inl (Option.some.inj found).symm
        · exact Or.inr (fewerPruned _ _ found)
  · have confirms := confirms_confirmCall maps confirm
    refine ⟨confirms.maps maps absent, ?_⟩
    cases confirms with
    | @consumes subject record binding isSubject bound live runs named approved =>
      have fewer (confirmationId : String) (other : BridgeConfirmationRecord)
          (found : ((before.runtime.pruneConfirmations options moment.now).consumeConfirmation
            binding record).confirmations.get? confirmationId = some other) :
          before.runtime.confirmations.get? confirmationId = some other := by
        simp only [consumeConfirmation, get?_delete] at found
        split at found
        · cases found
        · exact fewerPruned _ _ found
      cases made : executorCall options pending.call pending.grant with
      | error problem =>
        refine .quiet ?_ fewer
        rw [eventsOf_error (stays fewer)]
        rfl
      | ok execution =>
        obtain ⟨sameCall, sameGrant, permissions⟩ := permissions_executorCall made
        rw [← sameCall, ← sameGrant] at isSubject
        rw [← sameGrant] at permissions
        have events : eventsOf options before.runtime
            ((before.runtime.pruneConfirmations options moment.now).consumeConfirmation
              binding record) pending moment (.ok execution) =
            [.executed execution before.runtime.bridgePolicy [record]] := by
          rw [eventsOf_ok (stays fewer), consumed_eq_singleton maps live runs]
        refine .runsConfirmed (congrArg (· ++ before.events) events) live approved ?_ fewer
          permissions isSubject bound named
        simp [consumeConfirmation, get?_delete]

theorem changes_of_step (maps : before.runtime.ConfirmationMaps options)
    (known : ∀ confirmationId record,
      before.runtime.confirmations.get? confirmationId = some record →
        confirmationId ∈ requestedIds before.events)
    {action : CoreAction} (stepTo : before.step options action = some after) :
    after.runtime.ConfirmationMaps options ∧ Changes options before after := by
  cases action with
  | execute name call =>
    simp only [step] at stepTo
    split at stepTo
    · cases stepTo
    · split at stepTo <;> cases stepTo <;> exact ⟨maps, .quiet rfl fun _ _ found => found⟩
  | verified name answer randomUUID listenerError =>
    simp only [step] at stepTo
    split at stepTo
    · cases stepTo
    · next fresh =>
      obtain ⟨pending, -, rfl⟩ := Option.map_eq_some_iff.mp stepTo
      have absent : before.runtime.confirmations.get? ("confirm-" ++ randomUUID) = none := by
        rw [Option.eq_none_iff_forall_ne_some]
        intro record found
        exact fresh (known _ _ found)
      exact changes_of_finished maps rfl fresh absent rfl
  | respond response =>
    simp only [step] at stepTo
    split at stepTo
    · cases stepTo
      exact ⟨maps, .quiet rfl fun _ _ found => found⟩
    · next runtime changed responds =>
      cases stepTo
      obtain ⟨record, found, pending, runs, change, rfl⟩ := respond_eq_ok responds
      have sameId := maps.indexed.idOf_eq found
      refine ⟨maps.respond responds, .answered rfl (maps.get?_id found) pending runs ⟨_, change⟩ ?_⟩
      intro confirmationId
      rw [get?_set, sameId]
  | replace policy =>
    cases stepTo
    exact ⟨confirmationMaps_empty policy, .replaced policy rfl fun _ => rfl⟩
  | wait duration =>
    cases stepTo
    exact ⟨maps, .quiet rfl fun _ _ found => found⟩

end CoreSession

end LongHub
