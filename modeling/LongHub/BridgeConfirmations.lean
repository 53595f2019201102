import LongHub.BridgeExecution

/-!
# The two maps of confirmations

The runtime keeps its confirmations under their ids, and the ids under the bindings of the
confirmations.
-/

namespace LongHub

open BridgeConfirmationRecord InsertionMap List

namespace CoreRuntime

variable {options : CoreRuntimeOptions} {runtime after : CoreRuntime} {call : BridgeCall}
  {grant : BridgeSkillGrant} {moment : Moment}

/-- The name under which a confirmation is found again. -/
def bindingOf (options : CoreRuntimeOptions) (record : BridgeConfirmationRecord) : Option String :=
  bridgeConfirmationBinding options.node record.toBridgeConfirmationSubject

structure ConfirmationMaps (options : CoreRuntimeOptions) (runtime : CoreRuntime) : Prop where
  indexed : UniqueIndex confirmationId (bindingOf options)
    runtime.confirmations runtime.confirmationIdsByBinding
  notConsumed : ∀ {confirmationId record},
    runtime.confirmations.get? confirmationId = some record → record.status ≠ .consumed

theorem confirmationMaps_empty (policy : BridgeExecutionPolicy) :
    ConfirmationMaps options (replaceBridgePolicy policy) where
  indexed := UniqueIndex.empty
  notConsumed found := by simp [replaceBridgePolicy] at found

variable {record : BridgeConfirmationRecord} {now : Instant}

theorem ConfirmationMaps.get?_id (maps : runtime.ConfirmationMaps options) {confirmationId : String}
    (found : runtime.confirmations.get? confirmationId = some record) :
    runtime.confirmations.get? record.confirmationId = some record := by
  rw [maps.indexed.idOf_eq found]
  exact found

theorem ConfirmationMaps.drop (maps : runtime.ConfirmationMaps options)
    (live : runtime.confirmations.get? record.confirmationId = some record) :
    (runtime.dropConfirmation options record).ConfirmationMaps options := by
  constructor
  · cases named : bridgeConfirmationBinding options.node record.toBridgeConfirmationSubject with
    | none =>
      simp only [dropConfirmation, named]
      exact maps.indexed.remove_unnamed live named
    | some binding =>
      simp only [dropConfirmation, named]
      exact maps.indexed.remove live named
  · intro confirmationId other found
    simp only [dropConfirmation, get?_delete] at found
    split at found
    · cases found
    · exact maps.notConsumed found

theorem ConfirmationMaps.dropAll (test : BridgeConfirmationRecord → Bool)
    {records : List BridgeConfirmationRecord}
    (distinct : (records.map confirmationId).Nodup)
    (maps : runtime.ConfirmationMaps options)
    (live : ∀ record ∈ records, runtime.confirmations.get? record.confirmationId = some record) :
    let dropped := records.foldl (fun current record =>
      if test record then current else current.dropConfirmation options record) runtime
    dropped.ConfirmationMaps options ∧
      ∀ confirmationId record, dropped.confirmations.get? confirmationId = some record ↔
        runtime.confirmations.get? confirmationId = some record ∧
          (record ∈ records → test record = true) := by
  dsimp only
  induction records generalizing runtime with
  | nil => exact ⟨maps, by simp⟩
  | cons first rest ih =>
    obtain ⟨notLater, restDistinct⟩ := nodup_cons.mp distinct
    have firstLive := live first (mem_cons_self ..)
    rw [foldl_cons]
    cases keeps : test first with
    | true =>
      rw [if_pos rfl]
      obtain ⟨keptMaps, kept⟩ := ih restDistinct maps fun record mem =>
        live record (mem_cons_of_mem _ mem)
      refine ⟨keptMaps, ?_⟩
      intro confirmationId record
      rw [kept]
      simp only [mem_cons]
      grind
    | false =>
      rw [if_neg Bool.false_ne_true]
      have dropMaps := maps.drop firstLive
      have lookup (confirmationId : String) :
          (runtime.dropConfirmation options first).confirmations.get? confirmationId =
            if confirmationId = first.confirmationId then none
            else runtime.confirmations.get? confirmationId :=
        get?_delete _ _ _
      have restLive (record : BridgeConfirmationRecord) (mem : record ∈ rest) :
          (runtime.dropConfirmation options first).confirmations.get? record.confirmationId =
            some record := by
        have differ : record.confirmationId ≠ first.confirmationId := by
          intro same
          exact notLater (same ▸ mem_map_of_mem mem)
        rw [lookup, if_neg differ]
        exact live record (mem_cons_of_mem _ mem)
      obtain ⟨keptMaps, kept⟩ := ih restDistinct dropMaps restLive
      refine ⟨keptMaps, ?_⟩
      intro confirmationId record
      rw [kept, lookup]
      by_cases same : confirmationId = first.confirmationId
      · subst same
        simp only [if_pos, firstLive, Option.some.injEq, mem_cons]
        grind
      · rw [if_neg same]
        have otherRecord (found : runtime.confirmations.get? confirmationId = some record) :
            record ≠ first := by
          rintro rfl
          exact same (maps.indexed.idOf_eq found).symm
        simp only [mem_cons]
        grind

theorem ConfirmationMaps.prune (maps : runtime.ConfirmationMaps options) (now : Instant) :
    (runtime.pruneConfirmations options now).ConfirmationMaps options ∧ ∀ confirmationId record,
        (runtime.pruneConfirmations options now).confirmations.get? confirmationId = some record ↔
          runtime.confirmations.get? confirmationId = some record ∧
            isExpired options record now = false := by
  let test := fun record : BridgeConfirmationRecord =>
    record.status ≠ .consumed && !isExpired options record now
  have live (record : BridgeConfirmationRecord) (mem : record ∈ runtime.confirmations.values) :
      runtime.confirmations.get? record.confirmationId = some record := by
    obtain ⟨confirmationId, found⟩ := mem_values_iff.mp mem
    exact maps.get?_id found
  have distinct :
      (runtime.confirmations.values.map confirmationId).Nodup := by
    have keys : runtime.confirmations.values.map confirmationId =
        runtime.confirmations.entries.map Prod.fst := by
      rw [values, map_map]
      apply map_congr_left
      rintro ⟨confirmationId, record⟩ mem
      exact maps.indexed.idOf_eq (get?_eq_some_iff.mpr mem)
    rw [keys]
    exact runtime.confirmations.nodupKeys
  obtain ⟨prunedMaps, pruned⟩ := maps.dropAll test distinct live
  refine ⟨prunedMaps, ?_⟩
  intro confirmationId record
  refine (pruned confirmationId record).trans ?_
  constructor
  · rintro ⟨found, passes⟩
    have passed := passes (mem_values_of_get? found)
    simp only [test, Bool.and_eq_true, Bool.not_eq_true'] at passed
    exact ⟨found, passed.2⟩
  · rintro ⟨found, runs⟩
    refine ⟨found, fun _ => ?_⟩
    simp only [test, Bool.and_eq_true, Bool.not_eq_true', decide_eq_true_eq]
    exact ⟨maps.notConsumed found, runs⟩

def IsSubject (options : CoreRuntimeOptions) (call : BridgeCall) (grant : BridgeSkillGrant)
    (subject : BridgeConfirmationSubject) : Prop :=
  confirmationSubject options call grant = .ok subject

/-- Every confirmation in the maps has not ended at a time. -/
def AllRun (options : CoreRuntimeOptions) (runtime : CoreRuntime) (now : Instant) : Prop :=
  ∀ confirmationId record, runtime.confirmations.get? confirmationId = some record →
    isExpired options record now = false

theorem findConfirmation_eq (maps : runtime.ConfirmationMaps options)
    (running : runtime.AllRun options now) (binding : String) :
    (runtime.confirmationIdsByBinding.get? binding = none ∧
        runtime.findConfirmation options binding now = (runtime, none)) ∨
      ∃ record, runtime.confirmations.get? record.confirmationId = some record ∧
        bindingOf options record = some binding ∧
        runtime.findConfirmation options binding now = (runtime, some record) := by
  cases found : runtime.confirmationIdsByBinding.get? binding with
  | none => exact Or.inl ⟨rfl, by simp [findConfirmation, found]⟩
  | some confirmationId =>
    obtain ⟨record, stored, rfl, named⟩ := maps.indexed.exists_of_get? found
    refine Or.inr ⟨record, stored, named, ?_⟩
    simp [findConfirmation, found, stored, running _ _ stored]

inductive Confirms (options : CoreRuntimeOptions) (runtime : CoreRuntime) (call : BridgeCall)
    (grant : BridgeSkillGrant) (moment : Moment) :
    CoreRuntime → Except BridgeError Unit → Prop where
  | stays (problem : BridgeError) : Confirms options runtime call grant moment
        (runtime.pruneConfirmations options moment.now) (.error problem)
  | requests (problem : BridgeError) {record : BridgeConfirmationRecord} {binding : String}
      (subject : IsSubject options call grant record.toBridgeConfirmationSubject)
      (bound : bindingOf options record = some binding)
      (created : createBridgeConfirmationRequest record.toBridgeConfirmationSubject
        moment.randomUUID moment.now (5 * 60000) = some record)
      (free : (runtime.pruneConfirmations options moment.now).confirmationIdsByBinding.get?
        binding = none) :
      Confirms options runtime call grant moment
        { runtime.pruneConfirmations options moment.now with
          confirmations := (runtime.pruneConfirmations options moment.now).confirmations.set
            record.confirmationId record
          confirmationIdsByBinding :=
            (runtime.pruneConfirmations options moment.now).confirmationIdsByBinding.set binding
              record.confirmationId } (.error problem)
  | consumes {subject : BridgeConfirmationSubject} {record : BridgeConfirmationRecord}
      {binding : String} (isSubject : IsSubject options call grant subject)
      (bound : bridgeConfirmationBinding options.node subject = some binding)
      (live : runtime.confirmations.get? record.confirmationId = some record)
      (runs : isExpired options record moment.now = false)
      (named : bindingOf options record = some binding) (approved : record.status = .approved) :
      Confirms options runtime call grant moment
        ((runtime.pruneConfirmations options moment.now).consumeConfirmation binding record)
        (.ok ())

theorem subject_of_created {subject : BridgeConfirmationSubject} {randomUUID : String}
    {nowMs ttlMs : Instant}
    (created : createBridgeConfirmationRequest subject randomUUID nowMs ttlMs = some record) :
    record.toBridgeConfirmationSubject = subject ∧
      record.confirmationId = "confirm-" ++ randomUUID ∧ record.status = .pending ∧
      IsoInstant.toISOString (nowMs + ttlMs) = some record.expiresAt := by
  obtain ⟨expiresAt, written, rfl⟩ := Option.map_eq_some_iff.mp created
  exact ⟨rfl, rfl, rfl, written⟩

variable {outcome : Except BridgeError Unit} {response : BridgeConfirmationResponse}
  {answered : BridgeConfirmationRecord}

theorem confirms_confirmCall (maps : runtime.ConfirmationMaps options)
    (confirmed : runtime.confirmCall options call grant moment = (after, outcome)) :
    Confirms options runtime call grant moment after outcome := by
  obtain ⟨prunedMaps, pruned⟩ := maps.prune moment.now
  have running : (runtime.pruneConfirmations options moment.now).AllRun options moment.now :=
    fun confirmationId record found => ((pruned confirmationId record).mp found).2
  simp only [confirmCall] at confirmed
  split at confirmed
  · cases confirmed
    exact .stays _
  · next subject isSubject =>
    split at confirmed
    · cases confirmed
      exact .stays _
    · next binding bound =>
      simp only [requireConfirmation] at confirmed
      rcases findConfirmation_eq prunedMaps running binding with
        ⟨free, search⟩ | ⟨record, live, named, search⟩
      · rw [search] at confirmed
        simp only [requestConfirmation] at confirmed
        split at confirmed
        · cases confirmed
          exact .stays _
        · next record created =>
          obtain ⟨same, newId, -, -⟩ := subject_of_created created
          subst same
          cases listener : moment.listenerError with
          | none =>
            rw [listener] at confirmed
            cases confirmed
            exact .requests _ isSubject bound created free
          | some message =>
            rw [listener] at confirmed
            cases confirmed
            exact .requests _ isSubject bound created free
      · rw [search] at confirmed
        dsimp only at confirmed
        obtain ⟨wasLive, runs⟩ := (pruned _ _).mp live
        split at confirmed
        · cases confirmed
          exact .stays _
        · next approved =>
          cases confirmed
          exact .consumes isSubject bound wasLive runs named approved
        · cases confirmed
          exact .stays _
        · cases confirmed
          exact .stays _

theorem Confirms.maps (maps : runtime.ConfirmationMaps options)
    (fresh : runtime.confirmations.get? ("confirm-" ++ moment.randomUUID) = none)
    (confirms : Confirms options runtime call grant moment after outcome) :
    after.ConfirmationMaps options := by
  obtain ⟨prunedMaps, pruned⟩ := maps.prune moment.now
  cases confirms with
  | stays problem => exact prunedMaps
  | @requests problem record binding subject bound created free =>
    obtain ⟨-, newId, pending, -⟩ := subject_of_created created
    have absent : (runtime.pruneConfirmations options moment.now).confirmations.get?
        record.confirmationId = none := by
      rw [newId, Option.eq_none_iff_forall_ne_some]
      intro other found
      have known := ((pruned _ _).mp found).1
      rw [fresh] at known
      cases known
    constructor
    · exact prunedMaps.indexed.add absent bound free
    · intro confirmationId other found
      rw [get?_set] at found
      split at found
      · cases found
        rw [pending]
        decide
      · exact prunedMaps.notConsumed found
  | @consumes subject record binding isSubject bound live runs named approved =>
    have stillLive := (pruned _ _).mpr ⟨live, runs⟩
    constructor
    · exact prunedMaps.indexed.remove stillLive named
    · intro confirmationId other found
      simp only [consumeConfirmation, get?_delete] at found
      split at found
      · cases found
      · exact prunedMaps.notConsumed found

theorem respond_eq_ok
    (responds : runtime.respondBridgeConfirmation options response now = .ok (after, answered)) :
    ∃ record, runtime.confirmations.get? response.confirmationId = some record ∧
      record.status = .pending ∧ isExpired options record now = false ∧
      answered = { record with status := if response.approved then .approved else .denied } ∧
      after = { runtime with
        confirmations := runtime.confirmations.set response.confirmationId answered } := by
  simp only [respondBridgeConfirmation] at responds
  split at responds
  · cases responds
  · next record found =>
    split at responds
    · cases responds
    · next may =>
      simp only [ne_eq, Bool.or_eq_true, decide_eq_true_eq, not_or, Decidable.not_not,
        Bool.not_eq_true] at may
      cases responds
      exact ⟨record, found, may.1, may.2, rfl, rfl⟩

theorem ConfirmationMaps.respond (maps : runtime.ConfirmationMaps options)
    (responds : runtime.respondBridgeConfirmation options response now = .ok (after, answered)) :
    after.ConfirmationMaps options := by
  obtain ⟨record, found, -, -, changed, rfl⟩ := respond_eq_ok responds
  have sameId := maps.indexed.idOf_eq found
  have sameRecordId : answered.confirmationId = record.confirmationId := by rw [changed]
  constructor
  · have updated := maps.indexed.update (maps.get?_id found) sameRecordId (by rw [changed]; rfl)
    rw [sameId] at updated
    exact updated
  · intro confirmationId other known
    rw [get?_set] at known
    split at known
    · cases known
      rw [changed]
      dsimp only
      split <;> decide
    · exact maps.notConsumed known

theorem mem_consumed (maps : runtime.ConfirmationMaps options) :
    record ∈ runtime.consumed options now after ↔
      runtime.confirmations.get? record.confirmationId = some record ∧
        isExpired options record now = false ∧
        after.confirmations.get? record.confirmationId = none := by
  simp only [consumed, mem_values_iff, get?_filter_eq_some_iff,
    Bool.and_eq_true, Bool.not_eq_true', Option.isNone_iff_eq_none]
  constructor
  · rintro ⟨confirmationId, found, runs, gone⟩
    have sameId := maps.indexed.idOf_eq found
    subst sameId
    exact ⟨found, runs, gone⟩
  · rintro ⟨found, runs, gone⟩
    exact ⟨record.confirmationId, found, runs, gone⟩

theorem consumed_self (now : Instant) : runtime.consumed options now runtime = [] := by
  rw [eq_nil_iff_forall_not_mem]
  intro record mem
  simp only [consumed, mem_values_iff, get?_filter_eq_some_iff,
    Bool.and_eq_true, Option.isNone_iff_eq_none] at mem
  obtain ⟨confirmationId, found, -, gone⟩ := mem
  rw [found] at gone
  cases gone

/-- Using up an approved confirmation is seen as just that. -/
theorem consumed_eq_singleton (maps : runtime.ConfirmationMaps options) {binding : String}
    (live : runtime.confirmations.get? record.confirmationId = some record)
    (runs : isExpired options record now = false) : runtime.consumed options now
      ((runtime.pruneConfirmations options now).consumeConfirmation binding record) = [record] := by
  obtain ⟨-, pruned⟩ := maps.prune now
  have members (other : BridgeConfirmationRecord) : other ∈ runtime.consumed options now
        ((runtime.pruneConfirmations options now).consumeConfirmation binding record) ↔
        other = record := by
    rw [mem_consumed maps]
    simp only [consumeConfirmation, get?_delete]
    constructor
    · rintro ⟨otherLive, otherRuns, gone⟩
      split at gone
      · next same =>
        rw [same, live] at otherLive
        exact (Option.some.inj otherLive).symm
      · rw [(pruned _ _).mpr ⟨otherLive, otherRuns⟩] at gone
        cases gone
    · rintro rfl
      exact ⟨live, runs, if_pos rfl⟩
  have distinct : (runtime.consumed options now
      ((runtime.pruneConfirmations options now).consumeConfirmation binding record)).Nodup := by
    apply List.Nodup.of_map confirmationId
    have keys : (runtime.consumed options now
        ((runtime.pruneConfirmations options now).consumeConfirmation binding record)).map
          confirmationId =
        (runtime.confirmations.filter fun confirmationId other =>
          !isExpired options other now &&
            (((runtime.pruneConfirmations options now).consumeConfirmation binding
              record).confirmations.get? confirmationId).isNone).entries.map Prod.fst := by
      rw [consumed, values, map_map]
      apply map_congr_left
      rintro ⟨confirmationId, other⟩ mem
      have found := get?_eq_some_iff.mpr mem
      exact maps.indexed.idOf_eq (get?_filter_eq_some_iff.mp found).1
    rw [keys]
    exact nodupKeys _
  exact (perm_singleton.mp ((perm_ext_iff_of_nodup distinct
    (nodup_singleton record)).mpr fun other => by rw [members, mem_singleton]))

end CoreRuntime

end LongHub
