import LongHub.ConfirmedExecutions

/-!
# Confirmations over whole runs

A confirmation in the maps was created by an event and not used up since; every answer to it is the
one it shows; and if it is approved, the policy was not replaced after that answer.
-/

namespace LongHub

open List
namespace CoreSession

open CoreRuntime (IsSubject ConfirmationMaps bindingOf isExpired sensitivePermissions)

variable {options : CoreRuntimeOptions} {before after : CoreSession} {events : List CoreEvent}
  {record : BridgeConfirmationRecord} {event : CoreEvent}

structure Live (options : CoreRuntimeOptions) (events : List CoreEvent)
    (record : BridgeConfirmationRecord) : Prop where
  created : ∃ original call grant, .requested original call grant ∈ events ∧
    original.confirmationId = record.confirmationId ∧
    IsSubject options call grant record.toBridgeConfirmationSubject
  expiry : ∃ expiry, options.parseDate record.expiresAt = some expiry
  unused : record.confirmationId ∉ consumedIds events
  answers : ∀ answered time, .answered answered time ∈ events →
    answered.confirmationId = record.confirmationId → answered = record
  approval : record.status = .approved → ApprovedFor options events record fun call grant =>
    IsSubject options call grant record.toBridgeConfirmationSubject

/-- The events are consistent, and so are the maps with them. -/
structure ConfirmationInv (options : CoreRuntimeOptions) (session : CoreSession) : Prop where
  maps : session.runtime.ConfirmationMaps options
  live : ∀ confirmationId record, session.runtime.confirmations.get? confirmationId = some record →
      Live options session.events record
  consumedRequested : ∀ confirmationId ∈ consumedIds session.events,
    confirmationId ∈ requestedIds session.events
  answered : ∀ record time, .answered record time ∈ session.events →
    record.confirmationId ∈ requestedIds session.events ∧ record.status ≠ .pending
  confirmed : ∀ execution policy consumed early,
    (.executed execution policy consumed :: early) <:+ session.events →
    (∃ permission ∈ execution.permissions, permissionRequiresConfirmation permission = true) →
      ∃ record, consumed = [record] ∧ ApprovedFor options early record fun call grant =>
        SameBinding options call grant execution
  once : (consumedIds session.events).Nodup
  denied : ∀ record time, .answered record time ∈ session.events → record.status = .denied →
    record.confirmationId ∉ consumedIds session.events

theorem mem_requestedIds {confirmationId : String} : confirmationId ∈ requestedIds events ↔
      ∃ record call grant, .requested record call grant ∈ events ∧
        record.confirmationId = confirmationId := by
  simp only [requestedIds, mem_filterMap]
  constructor
  · rintro ⟨event, mem, found⟩
    cases event with
    | requested record call grant => exact ⟨record, call, grant, mem, Option.some.inj found⟩
    | replaced policy => cases found
    | answered record time => cases found
    | executed execution policy consumed => cases found
  · rintro ⟨record, call, grant, mem, rfl⟩
    exact ⟨_, mem, rfl⟩

theorem requestedIds_cons_subset (event : CoreEvent) (events : List CoreEvent) :
    requestedIds events ⊆ requestedIds (event :: events) := by
  intro confirmationId mem
  obtain ⟨record, call, grant, requested, same⟩ := mem_requestedIds.mp mem
  exact mem_requestedIds.mpr ⟨record, call, grant, mem_cons_of_mem _ requested, same⟩

theorem Live.mem_requestedIds (live : Live options events record) :
    record.confirmationId ∈ requestedIds events := by
  obtain ⟨original, call, grant, requested, same, -⟩ := live.created
  exact CoreSession.mem_requestedIds.mpr ⟨original, call, grant, requested, same⟩

/-- The events after which an approval is no longer in force. -/
def IsReplacement (event : CoreEvent) : Prop := ∃ policy, event = .replaced policy

theorem ApprovedFor.cons {isFor : BridgeCall → BridgeSkillGrant → Prop}
    (approved : ApprovedFor options events record isFor) (keeps : ¬ IsReplacement event) :
    ApprovedFor options (event :: events) record isFor := by
  obtain ⟨late, time, early, rfl, status, noneLate, inTime, created⟩ := approved
  refine ⟨event :: late, time, early, rfl, status, ?_, inTime, created⟩
  intro policy mem
  rcases mem_cons.mp mem with rfl | mem
  · exact keeps ⟨policy, rfl⟩
  · exact noneLate policy mem

theorem ApprovedFor.imp {isFor isAlsoFor : BridgeCall → BridgeSkillGrant → Prop}
    (approved : ApprovedFor options events record isFor)
    (weaker : ∀ call grant, isFor call grant → isAlsoFor call grant) :
    ApprovedFor options events record isAlsoFor := by
  obtain ⟨late, time, early, split, status, noneLate, inTime, original, call, grant, created,
    sameId, holds⟩ := approved
  exact ⟨late, time, early, split, status, noneLate, inTime, original, call, grant, created,
    sameId, weaker call grant holds⟩

theorem Live.cons (live : Live options events record) (keeps : ¬ IsReplacement event)
    (notUsed : record.confirmationId ∉ consumedIds [event])
    (notAnswered : ∀ answered time, event = .answered answered time →
      answered.confirmationId ≠ record.confirmationId) : Live options (event :: events) record where
  created := by
    obtain ⟨original, call, grant, requested, facts⟩ := live.created
    exact ⟨original, call, grant, mem_cons_of_mem _ requested, facts⟩
  __ := live
  unused := by
    have split : consumedIds (event :: events) = consumedIds [event] ++ consumedIds events := by
      simp [consumedIds]
    rw [split, mem_append]
    rintro (used | used)
    · exact notUsed used
    · exact live.unused used
  answers answered time mem sameId := by
    rcases mem_cons.mp mem with isNew | isOld
    · exact absurd sameId (notAnswered answered time isNew.symm)
    · exact live.answers answered time isOld sameId
  approval approved := (live.approval approved).cons keeps

theorem Live.not_answered (live : Live options events record) (pending : record.status = .pending)
    (settled : ∀ record time, .answered record time ∈ events →
      record.confirmationId ∈ requestedIds events ∧ record.status ≠ .pending)
    {answered : BridgeConfirmationRecord} {time : Instant}
    (mem : .answered answered time ∈ events) :
    answered.confirmationId ≠ record.confirmationId := by
  intro sameId
  have same := live.answers answered time mem sameId
  subst same
  exact (settled _ _ mem).2 pending

theorem confirmationInv_initial (policy : BridgeExecutionPolicy) (clock : Instant) :
    ConfirmationInv options (initial policy clock) where
  maps := CoreRuntime.confirmationMaps_empty policy
  live confirmationId record found := by simp [initial] at found
  consumedRequested confirmationId mem := by simp [initial, consumedIds] at mem
  answered record time mem := by simp [initial] at mem
  confirmed execution policy consumed early suffix := by simp [initial] at suffix
  once := by simp [initial, consumedIds]
  denied record time mem := by simp [initial] at mem

namespace ConfirmationInv

section

variable (inv : ConfirmationInv options before)
include inv

theorem known (confirmationId : String) (record : BridgeConfirmationRecord)
    (found : before.runtime.confirmations.get? confirmationId = some record) :
    confirmationId ∈ requestedIds before.events := by
  rw [← inv.maps.indexed.idOf_eq found]
  exact (inv.live _ _ found).mem_requestedIds

theorem quiet
    (maps : after.runtime.ConfirmationMaps options) (events : after.events = before.events)
    (live : ∀ confirmationId record, after.runtime.confirmations.get? confirmationId = some record →
        Live options after.events record) : ConfirmationInv options after where
  maps := maps
  live := live
  consumedRequested := events ▸ inv.consumedRequested
  answered := events ▸ inv.answered
  confirmed := events ▸ inv.confirmed
  once := events ▸ inv.once
  denied := events ▸ inv.denied

theorem note
    (maps : after.runtime.ConfirmationMaps options) (events : after.events = event :: before.events)
    (noAnswer : ∀ record time, event ≠ .answered record time)
    (noExecution : ∀ execution policy consumed, event ≠ .executed execution policy consumed)
    (live : ∀ confirmationId record, after.runtime.confirmations.get? confirmationId = some record →
        Live options after.events record) : ConfirmationInv options after := by
  have sameConsumed : consumedIds (event :: before.events) = consumedIds before.events := by
    cases event with
    | executed execution policy consumed => exact absurd rfl (noExecution execution policy consumed)
    | replaced policy => rfl
    | requested record call grant => rfl
    | answered record time => rfl
  have old {record : BridgeConfirmationRecord} {time : Instant}
      (mem : .answered record time ∈ event :: before.events) :
      .answered record time ∈ before.events := by
    rcases mem_cons.mp mem with isNew | isOld
    · exact absurd isNew.symm (noAnswer record time)
    · exact isOld
  refine ⟨maps, live, ?_, ?_, ?_, ?_, ?_⟩
  · rw [events, sameConsumed]
    exact fun confirmationId mem =>
      requestedIds_cons_subset _ _ (inv.consumedRequested confirmationId mem)
  · rw [events]
    intro record time mem
    obtain ⟨requested, settled⟩ := inv.answered record time (old mem)
    exact ⟨requestedIds_cons_subset _ _ requested, settled⟩
  · rw [events]
    intro execution policy consumed early suffix sensitive
    rcases suffix_cons_iff.mp suffix with isNew | isOld
    · cases isNew
      exact absurd rfl (noExecution execution policy consumed)
    · exact inv.confirmed execution policy consumed early isOld sensitive
  · rw [events, sameConsumed]
    exact inv.once
  · rw [events, sameConsumed]
    exact fun record time mem => inv.denied record time (old mem)

theorem answer (maps : after.runtime.ConfirmationMaps options) {changed : BridgeConfirmationRecord}
    (events : after.events = .answered changed before.clock :: before.events)
    (live : before.runtime.confirmations.get? record.confirmationId = some record)
    (pending : record.status = .pending) (runs : isExpired options record before.clock = false)
    (change : ∃ approved : Bool,
      changed = { record with status := if approved then .approved else .denied })
    (lookups : ∀ confirmationId, after.runtime.confirmations.get? confirmationId =
        if confirmationId = record.confirmationId then some changed
        else before.runtime.confirmations.get? confirmationId) : ConfirmationInv options after := by
  obtain ⟨approved, change⟩ := change
  have wasLive := inv.live _ _ live
  have sameId : changed.confirmationId = record.confirmationId := by rw [change]
  have settled : changed.status ≠ .pending := by
    rw [change]
    dsimp only
    split <;> decide
  have sameConsumed : consumedIds (CoreEvent.answered changed before.clock :: before.events) =
      consumedIds before.events := rfl
  have changedLive : Live options after.events changed := by
    rw [events]
    obtain ⟨original, call, grant, requested, originalId, subject⟩ := wasLive.created
    obtain ⟨expiry, parsed⟩ := wasLive.expiry
    rw [change] at sameId settled ⊢
    constructor
    · exact ⟨original, call, grant, mem_cons_of_mem _ requested, originalId, subject⟩
    · exact ⟨expiry, parsed⟩
    · exact wasLive.unused
    · intro answered time mem answeredId
      rcases mem_cons.mp mem with isNew | isOld
      · exact (CoreEvent.answered.inj isNew).1
      · exact absurd answeredId (wasLive.not_answered pending inv.answered isOld)
    · intro isApproved
      have ahead : before.clock < expiry := by
        simp only [CoreRuntime.isExpired, parsed, Option.any_some, decide_eq_false_iff_not] at runs
        unfold Instant at *
        omega
      refine ⟨[], before.clock, before.events, rfl, isApproved, by simp,
        ⟨expiry, parsed, ahead⟩, original, call, grant, requested, originalId, subject⟩
  refine ⟨maps, ?_, ?_, ?_, ?_, ?_, ?_⟩
  · intro confirmationId other found
    rw [lookups] at found
    split at found
    · cases found
      exact changedLive
    · next differ =>
      have otherId := inv.maps.indexed.idOf_eq found
      rw [events]
      apply (inv.live _ _ found).cons
      · rintro ⟨policy, bad⟩
        cases bad
      · simp [consumedIds]
      · intro answered time same
        cases same
        rw [sameId, otherId]
        exact fun equal => differ equal.symm
  · rw [events, sameConsumed]
    exact fun confirmationId mem =>
      requestedIds_cons_subset _ _ (inv.consumedRequested confirmationId mem)
  · rw [events]
    intro answered time mem
    rcases mem_cons.mp mem with isNew | isOld
    · cases isNew
      exact ⟨requestedIds_cons_subset _ _ (sameId ▸ wasLive.mem_requestedIds), settled⟩
    · obtain ⟨requested, wasSettled⟩ := inv.answered answered time isOld
      exact ⟨requestedIds_cons_subset _ _ requested, wasSettled⟩
  · rw [events]
    intro execution policy consumed early suffix sensitive
    rcases suffix_cons_iff.mp suffix with isNew | isOld
    · cases isNew
    · exact inv.confirmed execution policy consumed early isOld sensitive
  · rw [events, sameConsumed]
    exact inv.once
  · rw [events, sameConsumed]
    intro answered time mem isDenied
    rcases mem_cons.mp mem with isNew | isOld
    · cases isNew
      rw [sameId]
      exact wasLive.unused
    · exact inv.denied answered time isOld isDenied

theorem execute (maps : after.runtime.ConfirmationMaps options) {execution : BridgeExecution}
    {policy : BridgeExecutionPolicy} {used : List BridgeConfirmationRecord}
    (events : after.events = .executed execution policy used :: before.events)
    (distinct : (used.map BridgeConfirmationRecord.confirmationId).Nodup) (usable : ∀ record ∈ used,
      before.runtime.confirmations.get? record.confirmationId = some record ∧
        record.status = .approved ∧ after.runtime.confirmations.get? record.confirmationId = none)
    (fewer : ∀ confirmationId record,
      after.runtime.confirmations.get? confirmationId = some record →
        before.runtime.confirmations.get? confirmationId = some record)
    (confirmed : (∃ permission ∈ execution.permissions,
        permissionRequiresConfirmation permission = true) →
      ∃ record, used = [record] ∧ ApprovedFor options before.events record fun call grant =>
        SameBinding options call grant execution) : ConfirmationInv options after := by
  have consumed : consumedIds (CoreEvent.executed execution policy used :: before.events) =
      used.map BridgeConfirmationRecord.confirmationId ++ consumedIds before.events := rfl
  refine ⟨maps, ?_, ?_, ?_, ?_, ?_, ?_⟩
  · intro confirmationId record found
    rw [events]
    apply (inv.live _ _ (fewer _ _ found)).cons
    · rintro ⟨installed, bad⟩
      cases bad
    · intro mem
      simp only [consumedIds, flatMap_cons, flatMap_nil, append_nil, mem_map] at mem
      obtain ⟨other, isUsed, sameId⟩ := mem
      have gone := (usable other isUsed).2.2
      rw [sameId, maps.get?_id found] at gone
      cases gone
    · intro answered time bad
      cases bad
  · rw [events, consumed]
    intro confirmationId mem
    rcases mem_append.mp mem with isNew | isOld
    · obtain ⟨record, isUsed, rfl⟩ := mem_map.mp isNew
      exact requestedIds_cons_subset _ _ (inv.known _ _ (usable record isUsed).1)
    · exact requestedIds_cons_subset _ _ (inv.consumedRequested confirmationId isOld)
  · rw [events]
    intro record time mem
    rcases mem_cons.mp mem with isNew | isOld
    · cases isNew
    · obtain ⟨requested, settled⟩ := inv.answered record time isOld
      exact ⟨requestedIds_cons_subset _ _ requested, settled⟩
  · rw [events]
    intro other installed others early suffix sensitive
    rcases suffix_cons_iff.mp suffix with isNew | isOld
    · cases isNew
      exact confirmed sensitive
    · exact inv.confirmed other installed others early isOld sensitive
  · rw [events, consumed]
    refine distinct.append inv.once ?_
    intro confirmationId isNew isOld
    obtain ⟨record, isUsed, rfl⟩ := mem_map.mp isNew
    exact (inv.live _ _ (usable record isUsed).1).unused isOld
  · rw [events, consumed]
    intro record time mem isDenied
    rcases mem_cons.mp mem with isNew | isOld
    · cases isNew
    · rw [mem_append]
      rintro (isUsed | wasUsed)
      · obtain ⟨other, otherUsed, sameId⟩ := mem_map.mp isUsed
        obtain ⟨live, approved, -⟩ := usable other otherUsed
        have same := (inv.live _ _ live).answers record time isOld sameId.symm
        rw [same, approved] at isDenied
        cases isDenied
      · exact inv.denied record time isOld isDenied wasUsed

end

theorem step (reads : ∀ time text, IsoInstant.toISOString time = some text →
      options.parseDate text = some time)
    (inv : ConfirmationInv options before) {action : CoreAction}
    (stepTo : before.step options action = some after) : ConfirmationInv options after := by
  obtain ⟨maps, changes⟩ := changes_of_step inv.maps inv.known stepTo
  cases changes with
  | quiet events fewer =>
    apply inv.quiet maps events
    intro confirmationId record found
    rw [events]
    exact inv.live _ _ (fewer _ _ found)
  | replaced policy events none_ =>
    apply inv.note maps events (by simp) (by simp)
    intro confirmationId record found
    rw [none_] at found
    cases found
  | @requested record call grant events fresh subject pending written lookups =>
    apply inv.note maps events (by simp) (by simp)
    intro confirmationId other found
    rw [events]
    rcases lookups confirmationId other found with rfl | wasLive
    · constructor
      · exact ⟨other, call, grant, mem_cons_self .., rfl, subject⟩
      · exact ⟨_, reads _ _ written⟩
      · exact fun used => fresh (inv.consumedRequested _ used)
      · intro answered time mem sameId
        have isOld : CoreEvent.answered answered time ∈ before.events := by
          simpa using mem
        exact absurd (sameId ▸ (inv.answered answered time isOld).1) fresh
      · intro approved
        rw [pending] at approved
        cases approved
    · apply (inv.live _ _ wasLive).cons
      · rintro ⟨policy, bad⟩
        cases bad
      · simp [consumedIds]
      · intro answered time bad
        cases bad
  | answered events live pending runs change lookups =>
    exact inv.answer maps events live pending runs change lookups
  | @runsFreely execution policy events same free =>
    apply inv.execute maps events nodup_nil (by simp)
    · intro confirmationId record found
      rw [same] at found
      exact found
    · rintro ⟨permission, mem, requires⟩
      have isSensitive : permission ∈ execution.permissions.filter permissionRequiresConfirmation :=
        mem_filter.mpr ⟨mem, requires⟩
      rw [free] at isSensitive
      cases isSensitive
  | @runsConfirmed execution policy record subject binding events live approved gone fewer made
      isSubject bound named =>
      apply inv.execute maps events (nodup_singleton _)
      · intro other isUsed
        rw [mem_singleton.mp isUsed]
        exact ⟨live, approved, gone⟩
      · exact fewer
      · intro _
        refine ⟨record, rfl, ?_⟩
        apply ((inv.live _ _ live).approval approved).imp
        intro call grant created
        exact ⟨_, subject, binding, created, isSubject, named, bound, made⟩

end ConfirmationInv

theorem callTexts_subset {call : BridgeCall} {grant : BridgeSkillGrant} (mem : event ∈ events)
    (about : (∃ record, event = .requested record call grant) ∨
      ∃ execution policy consumed, event = .executed execution policy consumed ∧
        execution.call = call ∧ execution.grant = grant) :
    callTexts options call grant ⊆ hashedTexts options events := by
  intro text isHashed
  apply mem_flatMap.mpr
  refine ⟨event, mem, ?_⟩
  rcases about with ⟨record, rfl⟩ | ⟨execution, policy, consumed, rfl, rfl, rfl⟩
  · exact isHashed
  · exact isHashed

/-- Over every run, each execution that needs a confirmation uses up exactly one,
approved in time and for this very call. -/
theorem confirmationsHold {ν : Type} {value : String → ν}
    (documented : options.node.Documented value)
    (reads : ∀ time text, IsoInstant.toISOString time = some text →
      options.parseDate text = some time)
    {policy : BridgeExecutionPolicy} {clock : Instant} {session : CoreSession}
    (run : GuardedRun (step options) (fun _ _ => True) (initial policy clock) session)
    (noCollision : CollisionFree options.node (hashedTexts options session.events)) :
    ConfirmationsHold options value session := by
  have inv : ConfirmationInv options session := by
    apply run.invariant (ConfirmationInv options)
    · exact confirmationInv_initial policy clock
    · intro before after action inv _ stepTo
      exact inv.step reads stepTo
  refine
    { confirmed := ?_
      __ := inv
      inverse := inv.maps.indexed.inverse }
  intro execution installed consumed early suffix sensitive
  obtain ⟨record, rfl, approved⟩ :=
    inv.confirmed execution installed consumed early suffix sensitive
  refine ⟨record, rfl, ?_⟩
  obtain ⟨late, time, first, split, status, noneLate, inTime, original, call, grant, created,
    sameId, sameBinding⟩ := approved
  have isCreated : CoreEvent.requested original call grant ∈ session.events := by
    apply suffix.subset
    rw [split]
    simp [created]
  have isExecuted : CoreEvent.executed execution installed [record] ∈ session.events :=
    suffix.subset (mem_cons_self ..)
  have sameCall : SameCall options value call grant execution :=
    sameBinding.sameCall documented noCollision
      (callTexts_subset isCreated (Or.inl ⟨original, rfl⟩))
      (callTexts_subset isExecuted (Or.inr ⟨execution, installed, [record], rfl, rfl, rfl⟩))
  exact ⟨late, time, first, split, status, noneLate, inTime, original, call, grant, created,
    sameId, sameCall⟩

section Example

def mailGrant : BridgeSkillGrant where
  skillId := "mail"
  packId := "office"
  packVersion := "1.0.0"
  profileVersion := "1.0.0"
  requiredPermissions := ["mail:send"]
  profilePermissions := ["mail:send"]
  packPermissions := ["mail:send"]
  tenantPermissions := ["mail:send"]
  devicePermissions := ["mail:send"]
  budget := ⟨1000, 10, 1000⟩
  confirmation := some ⟨"send", "mail", some "to", [("text", "body")], 0⟩

theorem wellFormed_mail :
    (JsonValue.record [("to", .text "Li"), ("body", .text "Hello")]).WellFormed := by
  refine .record (by decide) (by simp [JsonValue.MayPrecede, JsonValue.arrayIndex]) ?_
  exact forall_mem_cons.mpr ⟨.text _, forall_mem_singleton.mpr (.text _)⟩

def mailCall : BridgeCall :=
  ⟨"mail", ⟨_, wellFormed_mail⟩, ⟨"helper", "agent:helper:main", "session", "tool-call"⟩⟩

def mailPolicy : BridgeExecutionPolicy := InsertionMap.empty.set "helper" [mailGrant]

def activeUntil2030 : Option BridgeEntitlementStatus :=
  some ⟨true, some "2030-01-01T00:00:00.000Z", none⟩

def mailDigests : List (String × String) :=
  [("\x7b\"input\":\x7b\"body\":\"Hello\",\"to\":\"Li\"\x7d,\"skillId\":\"mail\"\x7d",
      "965ecbebfd3ae5c2cd0f8536baa55fc7b1dc626a984ff3755592e9f1350c8774"),
    ("\x7b\"agentId\":\"helper\",\"display\":\x7b\"action\":\"send\"," ++
        "\"dataScope\":[\"text：Hello\"],\"estimatedCostCents\":0,\"object\":\"mail\"," ++
        "\"recipient\":\"Li\"\x7d,\"payloadDigest\":" ++
        "\"965ecbebfd3ae5c2cd0f8536baa55fc7b1dc626a984ff3755592e9f1350c8774\"," ++
        "\"permissions\":[\"mail:send\"],\"profileVersion\":\"1.0.0\"," ++
        "\"sessionId\":\"session\",\"skillId\":\"mail\",\"toolCallId\":\"tool-call\"\x7d",
      "e9f2d7c58c2d0664e2b1f63571d08694314214cf58dc8fb1535969c1db310f28")]

/-- A platform with the digests of the example. -/
def mailOptions : CoreRuntimeOptions :=
  { readingOptions with
    node := { composingNode with
      sha256Hex := fun text => (mailDigests.lookup text).getD ("not hashed here: " ++ text) } }

/-- The steps of the example: a call asks, the user approves, and the repeated call
runs. -/
def mailActions : List CoreAction :=
  [.execute 0 mailCall, .verified 0 activeUntil2030 "first" none, .respond ⟨"confirm-first", true⟩,
    .execute 1 mailCall, .verified 1 activeUntil2030 "second" none]

theorem confirmationsHold_mail :
    ∃ session, runActions (CoreSession.step mailOptions) (initial mailPolicy 0) mailActions =
        some session ∧ consumedIds session.events = ["confirm-first"] ∧
      ConfirmationsHold mailOptions id session := by
  obtain ⟨session, runs, facts⟩ := Option.map_eq_some_iff.mp
    (show (runActions (CoreSession.step mailOptions) (initial mailPolicy 0) mailActions).map
        (fun session => (consumedIds session.events,
          (hashedTexts mailOptions session.events).all (· ∈ mailDigests.map Prod.fst))) =
      some (["confirm-first"], true) by decide +kernel)
  obtain ⟨used, hashed⟩ := Prod.ext_iff.mp facts
  have documented : mailOptions.node.Documented id :=
    ⟨documented_composingNode.quote, documented_composingNode.printed,
      documented_composingNode.numbers, documented_composingNode.compareTotal,
      documented_composingNode.compareTrans⟩
  have reads (time : Int) (text : String) (written : IsoInstant.toISOString time = some text) :
      mailOptions.parseDate text = some time := IsoInstant.parse_toISOString written
  have apart : ∀ one ∈ mailDigests.map Prod.fst, ∀ other ∈ mailDigests.map Prod.fst,
      mailOptions.node.sha256Hex one = mailOptions.node.sha256Hex other → one = other := by
    decide +kernel
  refine ⟨session, runs, used, confirmationsHold documented reads
    (GuardedRun.of_runActions (fun _ _ => trivial) runs) ?_⟩
  have known (text : String) (mem : text ∈ hashedTexts mailOptions session.events) :
      text ∈ mailDigests.map Prod.fst := by
    simpa using all_eq_true.mp hashed text mem
  intro one isOne other isOther
  exact apart one (known one isOne) other (known other isOther)

end Example

end CoreSession

end LongHub
