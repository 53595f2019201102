import LongHub.TrashRecords

/-!
# When the trash agrees with the Gateway

Every record belongs to a session that the Gateway holds, and the records in memory are those of the
state file.
-/

namespace LongHub

open Device List Option

namespace SessionTrash

variable {retentionMs : Int} {system after : TrashSystem} {agentId key : String}
variable {choice : SystemChoice}

theorem working_cases {request : TrashCall} {reached : Except String request.Answer × TrashSystem}
    (acts : (workingDevice retentionMs).perform request choice system = some reached) :
    system.perform retentionMs choice request = some reached ∧
      isWritten retentionMs request choice system = true ∧
      isAnswered request choice system = true := by
  obtain ⟨works, done⟩ := perform_restrict_iff.mp acts
  exact ⟨done, Bool.and_eq_true_iff.mp works⟩

variable {archived : Bool}

theorem isOk_of_isAnswered (owned : Owned system agentId key archived)
    (answers : (choice.reply.isOk || (system.sessions.get? key).isNone) = true) :
    choice.reply.isOk = true := by
  rw [owned.held, isNone_some, Bool.or_false] at answers
  exact answers

theorem works_describeOwned (owned : Owned system agentId key archived) :
    (workingDevice retentionMs).Ensures (fun outcome after => SameSystem system after ∧
      ∃ current, outcome = .ok current ∧ current.key = key) (describeOwned agentId key) system := by
  unfold describeOwned
  rw [owned.isAgent, owned.isKey]
  apply sound_perform_bind trivial
  · intro choice answer after acts
    obtain ⟨-, same, isDescribed⟩ := describe_cases (working_cases acts).1
    rw [owned.held] at isDescribed
    obtain ⟨current, isOwned⟩ := ownedSession_of_described isDescribed
    rw [isOwned]
    exact ⟨trivial, same, current, by rfl, (described_cases isDescribed isOwned).1⟩
  · intro choice problem after acts
    obtain ⟨done, -, answers⟩ := working_cases acts
    obtain ⟨isReply, -, -⟩ := describe_cases done
    have isOk := isOk_of_isAnswered owned answers
    rw [← isReply] at isOk
    cases isOk

theorem works_setArchived {was : Bool} (owned : Owned system agentId key was) :
    (workingDevice retentionMs).Ensures
      (fun outcome after => outcome = .ok () ∧ Patched system after key archived)
      (setArchived agentId key archived) system := by
  apply sound_bind (works_describeOwned owned)
  · intro current middle _ described
    obtain ⟨same, _, isCurrent, sameKey⟩ := described
    cases isCurrent
    rw [sameKey]
    apply sound_ask (.patch key archived)
    intro choice answer after acts
    obtain ⟨done, -, answers⟩ := working_cases acts
    have isOk := isOk_of_isAnswered (same.owned.mpr owned) answers
    rcases served_cases done with ⟨isDone, -, patches⟩ | ⟨_, -, fails, -⟩
    · exact ⟨isDone, (patched_of_patchSession patches).of_same same⟩
    · rw [isOk] at fails
      cases fails
  · intro problem after _ described
    obtain ⟨-, _, isCurrent, -⟩ := described
    cases isCurrent

theorem works_trash (owned : Owned system agentId key archived) :
    (workingDevice retentionMs).Ensures
      (fun outcome after => outcome = .ok () ∧ (after.store.find agentId key).isSome = true)
      (operation (.trash agentId key)) system := by
  apply sound_bind (works_setArchived owned)
  · intro _ middle _ _
    apply sound_ask (.pushRecord agentId key)
    intro choice answer after acts
    obtain ⟨done, writes, -⟩ := working_cases acts
    obtain ⟨isDone, record, isAgent, isKey, written⟩ := written_pushRecord writes done
    refine ⟨isDone, ?_⟩
    rw [TrashStore.find, written.records, find?_isSome]
    exact ⟨record, by simp, by simp [isAgent, isKey]⟩
  · intro problem after _ set
    cases set.1

theorem works_restore (owned : Owned system agentId key archived)
    (found : (system.store.find agentId key).isSome = true) :
    (workingDevice retentionMs).Ensures
      (fun outcome after => outcome = .ok () ∧ after.store.find agentId key = none)
      (operation (.restore agentId key)) system := by
  apply sound_bind (sound_ask (.requireRecord agentId key) fun choice answer after acts =>
      same_requireRecord (working_cases acts).1)
  · intro _ middle _ required
    apply sound_bind (works_setArchived (required.1.owned.mpr owned))
    · intro _ patched _ _
      apply sound_ask (.dropRecord agentId key)
      intro choice answer after acts
      obtain ⟨done, writes, -⟩ := working_cases acts
      obtain ⟨isDone, written⟩ := written_dropRecord writes done
      refine ⟨isDone, ?_⟩
      rw [TrashStore.find, written.records, find?_eq_none]
      intro record mem
      rw [decide_eq_true_eq]
      exact (mem_without.mp mem).2
    · intro problem after _ set
      cases set.1
  · intro problem after _ required
    cases required.2 found

def sessionAnswer (agentId key : String) (archived : Bool) : JsonValue :=
  .record [("key", .text key), ("agentId", .text agentId), ("archived", .bool archived)]

def answering (reply : JsonValue) : SystemChoice := ⟨⟨.ok reply, 0, 0, "", true⟩, false⟩

theorem describedSession_sessionAnswer (isAgent : idPattern agentId = true)
    (isKey : idPattern key = true) : describedSession (sessionAnswer agentId key archived) =
      .ok ⟨key, agentId, none, archived, none, none, false⟩ := by
  cases archived <;>
    simp [describedSession, sessionAnswer, recordOf, session, fieldOr, isTrue, isAgent, isKey,
      JsonValue.textField, bind, Except.bind, pure, Except.pure, lookup_cons]

theorem ends_describeOwned (owned : Owned system agentId key archived) :
    ∃ current after, after.store.clock = system.store.clock ∧
      (workingDevice retentionMs).Ends (describeOwned agentId key) system (.ok current) after := by
  have read : describedSession (sessionAnswer agentId key archived) =
      .ok ⟨key, agentId, none, archived, none, none, false⟩ :=
    describedSession_sessionAnswer owned.isAgent owned.isKey
  let choice := answering (sessionAnswer agentId key archived)
  let after := { system with store := (describe 0 choice.toTrashChoice system.store).2 }
  have isDescribed : describes key (system.sessions.get? key)
      (.ok (sessionAnswer agentId key archived)) = true := by
    rw [owned.held]
    simp [describes, read]
  have acts : (workingDevice retentionMs).perform (.describe key) choice system =
      some (.ok (sessionAnswer agentId key archived), after) :=
    perform_restrict_iff.mpr ⟨by rfl, if_pos isDescribed⟩
  have isOwned : ownedSession agentId (sessionAnswer agentId key archived) =
      .ok ⟨key, agentId, none, archived, none, none, false⟩ := by
    rw [ownedSession_eq, read]
    exact if_pos rfl
  refine ⟨⟨key, agentId, none, archived, none, none, false⟩, after, ?_, ?_⟩
  · simp only [after, describe]
    split
    · split <;> rfl
    · rfl
  · unfold describeOwned
    rw [owned.isAgent, owned.isKey]
    apply ends_bind (ends_perform acts)
    rw [isOwned]
    exact ends_ofExcept

theorem ends_setArchived {was : Bool} (owned : Owned system agentId key was) :
    ∃ after, after.store.clock = system.store.clock ∧
      (workingDevice retentionMs).Ends (setArchived agentId key archived) system (.ok ())
        after := by
  obtain ⟨current, middle, sameClock, describes⟩ := ends_describeOwned owned
  obtain ⟨same, _, isCurrent, sameKey⟩ := (works_describeOwned owned).ends describes
  cases isCurrent
  have held : middle.sessions.get? current.key = some ⟨agentId, was⟩ := by
    rw [sameKey]
    exact (same.owned.mpr owned).held
  let after := { middle with
    sessions := middle.sessions.set current.key ⟨agentId, archived⟩
    effects := .patched current.key archived :: middle.effects }
  have patches : middle.patchSession current.key archived = some after := by
    rw [TrashSystem.patchSession, held]
    rfl
  have acts : (workingDevice retentionMs).perform (.patch current.key archived)
      (answering .null) middle = some (.ok (), after) := by
    apply perform_restrict_iff.mpr
    refine ⟨by rfl, ?_⟩
    change middle.served (middle.patchSession current.key archived) (answering .null) = _
    rw [patches]
    rfl
  exact ⟨after, sameClock, ends_bind describes (ends_perform acts)⟩

theorem ends_dropRecord :
    ∃ after, (workingDevice retentionMs).Ends (Trash.dropRecord agentId key) system (.ok ())
      after := by
  have acts : (workingDevice retentionMs).perform (.dropRecord agentId key) (answering .null)
      system = some (system.written (.ok (), system.store.without agentId key)) := by
    rfl
  exact ⟨_, ends_perform acts⟩

theorem canTrash_of_owned (owned : Owned system agentId key archived) :
    CanTrash retentionMs system agentId key := by
  constructor
  · intro inTime endsInTime
    obtain ⟨middle, sameClock, patches⟩ := ends_setArchived owned
    have writes : isWritten retentionMs (.pushRecord agentId key) (answering .null) middle =
      true := by
      simp [isWritten, answering, sameClock, inTime, endsInTime]
    obtain ⟨⟨answer, after⟩, done⟩ : ∃ reached, middle.perform retentionMs (answering .null)
        (.pushRecord agentId key) = some reached := ⟨_, by rfl⟩
    obtain ⟨rfl, -⟩ := written_pushRecord writes done
    have acts : (workingDevice retentionMs).perform (.pushRecord agentId key)
        (answering .null) middle = some (.ok (), after) :=
      perform_restrict_iff.mpr ⟨Bool.and_eq_true_iff.mpr ⟨writes, by rfl⟩, done⟩
    exact ⟨after, ends_bind patches (ends_perform acts)⟩
  · intro outcome after ends
    exact (works_trash owned).ends ends

theorem canRestore_of_owned (owned : Owned system agentId key archived)
    (found : (system.store.find agentId key).isSome = true) :
    CanRestore retentionMs system agentId key := by
  constructor
  · have required : (workingDevice retentionMs).Ends (Trash.requireRecord agentId key) system
        (.ok ()) system := by
      have acts : (workingDevice retentionMs).perform (.requireRecord agentId key)
          (answering .null) system = some (.ok (), system) := by
        obtain ⟨record, isRecord⟩ := isSome_iff_exists.mp found
        refine perform_restrict_iff.mpr ⟨by rfl, ?_⟩
        simp only [trashDevice, TrashSystem.perform, requireRecord, isRecord]
      exact ends_perform acts
    obtain ⟨middle, -, patches⟩ := ends_setArchived owned
    obtain ⟨after, drops⟩ := ends_dropRecord
    exact ⟨after, ends_bind required (ends_bind patches drops)⟩
  · intro outcome after ends
    exact (works_restore owned found).ends ends

theorem agrees_of_inv (inv : TrashInv system) : TrashAgrees retentionMs system where
  listed key outstanding := by
    obtain ⟨agentId, archived, owned⟩ := inv.held key outstanding
    exact ⟨_, owned.held, .inr (canTrash_of_owned owned)⟩
  removable record mem := by
    obtain ⟨archived, owned⟩ := inv.backed record mem
    have found : (system.store.find record.agentId record.key).isSome = true := by
      rw [TrashStore.find, find?_isSome]
      exact ⟨record, mem, by simp⟩
    exact .inl (canRestore_of_owned owned found)

/-- While every write of the state file works and no deletion takes effect whose call fails, the
trash agrees with the Gateway. -/
theorem careful_trash_agrees (retentionMs : Int) :
    KeepsAgreement retentionMs (carefulDevice retentionMs) := by
  intro start system first run
  have inv : TrashInv system := inv_of_run first run
  refine ⟨agrees_of_inv inv, fun request error after ends => ?_⟩
  exact ((inv_operation request inv).ends ends).synced

/-- Every end of the program is an error while everything works. -/
abbrev Fails {α : Type} (retentionMs : Int) (program : TrashProgram α) (system : TrashSystem) :
    Prop :=
  (workingDevice retentionMs).Ensures
    (fun outcome _ => ∃ problem, outcome = .error problem) program system

theorem Fails.bind {α β : Type} {program : TrashProgram α} {next : α → TrashProgram β}
    (fails : Fails retentionMs program system) : Fails retentionMs (program >>= next) system := by
  apply sound_bind fails
  · rintro value after - ⟨_, failed⟩
    cases failed
  · intro problem after _ _
    exact ⟨problem, by rfl⟩

theorem fails_describeOwned (gone : system.sessions.get? key = none) :
    Fails retentionMs (describeOwned agentId key) system := by
  apply Device.Sound.mono _ (sound_describeOwned isPart_restrict)
  intro outcome after _ described
  cases outcome with
  | error problem => exact ⟨problem, by rfl⟩
  | ok current =>
    have held := (described.2 current (by rfl)).2.held
    rw [gone] at held
    cases held

theorem not_canRestore_of_gone (gone : system.sessions.get? key = none) :
    ¬ CanRestore retentionMs system agentId key := by
  rintro ⟨⟨after, ends⟩, -⟩
  have fails : Fails retentionMs (operation (.restore agentId key)) system := by
    apply sound_bind (sound_ask (.requireRecord agentId key) fun choice answer after acts =>
        (same_requireRecord (working_cases acts).1).1)
    · intro _ middle _ same
      exact (fails_describeOwned (same.sessions ▸ gone)).bind.bind
    · intro problem after _ _
      exact ⟨problem, by rfl⟩
  obtain ⟨_, failed⟩ := fails.ends ends
  cases failed

theorem not_canDelete_of_gone (gone : system.sessions.get? key = none) :
    ¬ CanDelete retentionMs system agentId key := by
  rintro ⟨confirmation, middle, after, issues, ends⟩
  have same : SameSystem system middle :=
    (sound_ask (.issueConfirmation agentId key) fun choice answer after acts =>
      same_issueConfirmation (working_cases acts).1).ends issues
  have fails : Fails retentionMs (operation (.permanentlyDelete agentId key confirmation))
      middle := by
    apply sound_bind
      (sound_ask (.takeConfirmation agentId key confirmation) fun choice answer after acts =>
        same_takeConfirmation (working_cases acts).1)
    · intro _ taken _ sameTaken
      exact (fails_describeOwned (sameTaken.sessions ▸ same.sessions ▸ gone)).bind.bind
    · intro problem after _ _
      exact ⟨problem, by rfl⟩
  obtain ⟨_, failed⟩ := fails.ends ends
  cases failed

def firstSystem : TrashSystem where
  store := loaded [] 0
  disk := []
  sessions := InsertionMap.empty.set "s1" ⟨"hr", false⟩
  effects := []

/-- A deletion that the Gateway does not answer, when the time to restore has passed. -/
def unansweredDeletion (takesEffect : Bool)
    (device : Device TrashSystem TrashCall TrashCall.Answer String SystemChoice) :
    Option TrashSystem := do
  let (_, trashed) ← device.finish (operation (.trash "hr" "s1")) firstSystem
    [answering (sessionAnswer "hr" "s1" false), answering .null, answering .null]
  let (_, issued) ← device.finish (operation (.requestPermanentDelete "hr" "s1")) trashed
    [⟨⟨.ok .null, 60000, 0, "nonce", true⟩, false⟩]
  let (_, after) ← device.finish (operation (.permanentlyDelete "hr" "s1" "nonce")) issued
    [answering .null, answering (sessionAnswer "hr" "s1" true),
      ⟨⟨.error "Gateway 超时", 0, 0, "", true⟩, takesEffect⟩]
  return after

theorem run_unansweredDeletion {takesEffect : Bool}
    {device : Device TrashSystem TrashCall TrashCall.Answer String SystemChoice}
    (runs : unansweredDeletion takesEffect device = some system) :
    Relation.ReflTransGen (TrashStep device) firstSystem system := by
  obtain ⟨⟨_, trashed⟩, first, runs⟩ := bind_eq_some_iff.mp runs
  obtain ⟨⟨_, issued⟩, second, runs⟩ := bind_eq_some_iff.mp runs
  obtain ⟨⟨_, after⟩, third, same⟩ := bind_eq_some_iff.mp runs
  cases same
  exact ((Relation.ReflTransGen.refl.tail (.operation (ends_of_finish first))).tail
    (.operation (ends_of_finish second))).tail (.operation (ends_of_finish third))

theorem firstStart_firstSystem : FirstStart firstSystem := ⟨⟨0, by rfl⟩, by rfl, by rfl⟩

/-- The record of a session whose deletion was not answered can neither be restored nor deleted. -/
theorem lost_deletion_sticks :
    ¬ ∀ retentionMs : Int, KeepsAgreement retentionMs (trashDevice retentionMs) := by
  intro claim
  obtain ⟨system, runs, facts⟩ := map_eq_some_iff.mp
    (show (unansweredDeletion true (trashDevice 60000)).map (fun system =>
        (system.sessions.get? "s1",
          system.store.records.map fun record => (record.agentId, record.key))) =
      some (none, [("hr", "s1")]) by decide)
  obtain ⟨gone, records⟩ := Prod.mk.inj facts
  have agrees := (claim 60000 firstSystem system firstStart_firstSystem
    (run_unansweredDeletion runs)).1
  obtain ⟨record, isRecord⟩ := map_eq_singleton_iff.mp records
  obtain ⟨isListed, isOwned⟩ := isRecord
  obtain ⟨-, isKey⟩ := Prod.mk.inj isOwned
  rw [← isKey] at gone
  rcases agrees.removable record (isListed ▸ mem_singleton_self record) with restores | deletes
  · exact not_canRestore_of_gone gone restores
  · exact not_canDelete_of_gone gone deletes

theorem careful_trash_agrees_restarted : ∃ failed system,
    unansweredDeletion false (carefulDevice 60000) = some failed ∧ failed.restart = .ok system ∧
      system.store.records.map (·.key) = ["s1"] ∧ TrashAgrees 60000 system := by
  obtain ⟨failed, fails, kept⟩ := map_eq_some_iff.mp
    (show (unansweredDeletion false (carefulDevice 60000)).map (fun failed =>
        failed.restart.toOption.map (·.store.records.map (·.key))) = some (some ["s1"]) by decide)
  cases loads : failed.restart with
  | error problem => simp [loads, Except.toOption] at kept
  | ok system =>
    refine ⟨failed, system, fails, loads, by simpa [loads, Except.toOption] using kept, ?_⟩
    exact (careful_trash_agrees 60000 _ _ firstStart_firstSystem
      ((run_unansweredDeletion fails).tail (.restart loads))).1

end SessionTrash

end LongHub
