import LongHub.TrashEffects

/-!
# Records that belong to sessions of the Gateway

Every record belongs to a session that the Gateway holds, and the records in memory are those of the
state file.
-/

namespace LongHub

open Device
namespace SessionTrash

variable {retentionMs : Int} {system after : TrashSystem} {agentId key : String}
variable {choice : SystemChoice}

theorem outstanding_cons {effect : GatewayEffect} {effects : List GatewayEffect} :
    Outstanding (effect :: effects) key ↔ (effect.key = key ∧ effect = .patched key true) ∨
        (effect.key ≠ key ∧ Outstanding effects key) := by
  unfold Outstanding
  rw [List.find?_cons]
  by_cases same : effect.key = key <;> simp [same]

/-- Every record of another session belongs to a session of the Gateway. -/
structure AgreesBut (system : TrashSystem) (agentId key : String) : Prop where
  synced : system.store.records = system.disk
  backed : ∀ record ∈ system.store.records, ¬ (record.agentId = agentId ∧ record.key = key) →
    ∃ archived, Owned system record.agentId record.key archived
  held : ∀ key, Outstanding system.effects key → ∃ agentId archived,
    Owned system agentId key archived

/-- Every record belongs to a session of the Gateway and is in the file. -/
structure TrashInv (system : TrashSystem) : Prop where
  synced : system.store.records = system.disk
  backed : ∀ record ∈ system.store.records, ∃ archived,
    Owned system record.agentId record.key archived
  held : ∀ key, Outstanding system.effects key → ∃ agentId archived,
    Owned system agentId key archived

theorem TrashInv.agreesBut (inv : TrashInv system) : AgreesBut system agentId key :=
  ⟨inv.synced, fun record mem _ => inv.backed record mem, inv.held⟩

theorem TrashInv.of_same (inv : TrashInv system) (same : SameSystem system after) :
    TrashInv after where
  synced := by rw [same.records, same.disk, inv.synced]
  backed record mem := by
    rw [same.records] at mem
    obtain ⟨archived, owned⟩ := inv.backed record mem
    exact ⟨archived, same.owned.mpr owned⟩
  held key outstanding := by
    rw [same.effects] at outstanding
    obtain ⟨agentId, archived, owned⟩ := inv.held key outstanding
    exact ⟨agentId, archived, same.owned.mpr owned⟩

variable {archived was : Bool}

variable {otherAgent otherKey confirmation : String} {ended : List TrashRecord}

theorem Patched.owned (patched : Patched system after key archived)
    (owned : Owned system otherAgent otherKey was) :
    ∃ archived, Owned after otherAgent otherKey archived := by
  obtain ⟨isAgent, isKey, isHeld⟩ := owned
  obtain ⟨held, holds, sessions⟩ := patched.sessions
  by_cases same : key = otherKey
  · subst same
    cases holds.symm.trans isHeld
    refine ⟨archived, isAgent, isKey, ?_⟩
    rw [sessions, InsertionMap.get?_set, if_pos rfl]
  · refine ⟨was, isAgent, isKey, ?_⟩
    rw [sessions, InsertionMap.get?_set, if_neg (Ne.symm same), isHeld]

theorem TrashInv.patched (inv : TrashInv system) (owned : Owned system agentId key was)
    (patched : Patched system after key archived) : TrashInv after where
  synced := by rw [patched.records, patched.disk, inv.synced]
  backed record mem := by
    rw [patched.records] at mem
    obtain ⟨_, ownedBefore⟩ := inv.backed record mem
    exact patched.owned ownedBefore
  held other outstanding := by
    rw [patched.effects, outstanding_cons] at outstanding
    rcases outstanding with ⟨same, -⟩ | ⟨-, outstanding⟩
    · change key = other at same
      rw [← same]
      exact ⟨agentId, patched.owned owned⟩
    · obtain ⟨owner, _, ownedBefore⟩ := inv.held other outstanding
      exact ⟨owner, patched.owned ownedBefore⟩

theorem TrashInv.setArchived {outcome : Except String Unit} (inv : TrashInv system)
    (set : SetArchived system after agentId key archived outcome) : TrashInv after := by
  rcases set with ⟨_, -, same⟩ | ⟨_, owned, patched⟩
  · exact inv.of_same same
  · exact inv.patched owned patched

theorem Deleted.owned (deleted : Deleted system after key)
    (owned : Owned system otherAgent otherKey was) (differ : key ≠ otherKey) :
    Owned after otherAgent otherKey was := by
  obtain ⟨isAgent, isKey, isHeld⟩ := owned
  refine ⟨isAgent, isKey, ?_⟩
  rw [deleted.sessions, InsertionMap.get?_delete, if_neg (Ne.symm differ), isHeld]

theorem TrashInv.deleted (inv : TrashInv system) (owned : Owned system agentId key was)
    (deleted : Deleted system after key) : AgreesBut after agentId key where
  synced := by rw [deleted.records, deleted.disk, inv.synced]
  backed record mem another := by
    rw [deleted.records] at mem
    obtain ⟨archived, ownedBefore⟩ := inv.backed record mem
    refine ⟨archived, deleted.owned ownedBefore ?_⟩
    rintro rfl
    cases owned.held.symm.trans ownedBefore.held
    exact another ⟨by rfl, by rfl⟩
  held other outstanding := by
    rw [deleted.effects, outstanding_cons] at outstanding
    rcases outstanding with ⟨-, differ⟩ | ⟨differ, outstanding⟩
    · cases differ
    · obtain ⟨owner, archived, ownedBefore⟩ := inv.held other outstanding
      exact ⟨owner, archived, deleted.owned ownedBefore differ⟩

theorem Written.owned (written : Written system after ended)
    (owned : Owned system agentId key archived) : Owned after agentId key archived := by
  obtain ⟨isAgent, isKey, isHeld⟩ := owned
  exact ⟨isAgent, isKey, written.sessions.symm ▸ isHeld⟩

theorem mem_without {record : TrashRecord} : record ∈ (system.store.without agentId key).records ↔
      record ∈ system.store.records ∧ ¬ (record.agentId = agentId ∧ record.key = key) := by
  simp only [TrashStore.without, List.mem_filter, decide_eq_true_eq]

theorem AgreesBut.written (agrees : AgreesBut system agentId key)
    (written : Written system after ended)
    (kept : ∀ record ∈ ended, record ∈ (system.store.without agentId key).records ∨
      ∃ archived, Owned system record.agentId record.key archived) : TrashInv after where
  synced := written.records.trans written.disk.symm
  backed record mem := by
    rw [written.records] at mem
    rcases kept record mem with isOther | ⟨archived, owned⟩
    · obtain ⟨memberBefore, another⟩ := mem_without.mp isOther
      obtain ⟨archived, owned⟩ := agrees.backed record memberBefore another
      exact ⟨archived, written.owned owned⟩
    · exact ⟨archived, written.owned owned⟩
  held other outstanding := by
    rw [written.effects] at outstanding
    obtain ⟨owner, archived, owned⟩ := agrees.held other outstanding
    exact ⟨owner, archived, written.owned owned⟩

theorem careful_cases {request : TrashCall} {reached : Except String request.Answer × TrashSystem}
    (acts : (carefulDevice retentionMs).perform request choice system = some reached) :
    system.perform retentionMs choice request = some reached ∧
      isWritten retentionMs request choice system = true ∧ failsCleanly request choice = true := by
  obtain ⟨careful, done⟩ := perform_restrict_iff.mp acts
  exact ⟨done, Bool.and_eq_true_iff.mp careful⟩

theorem inv_trash (inv : TrashInv system) :
    (carefulDevice retentionMs).Ensures (fun _ after => TrashInv after)
      (operation (.trash agentId key)) system := by
  apply sound_bind (sound_setArchived isPart_restrict)
  · intro _ middle _ set
    apply sound_ask (.pushRecord agentId key)
    intro choice answer after acts
    obtain ⟨done, writes, -⟩ := careful_cases acts
    obtain ⟨-, record, isAgent, isKey, written⟩ := written_pushRecord writes done
    rcases set with ⟨_, failed, -⟩ | ⟨was, owned, patched⟩
    · cases failed
    · apply (inv.patched owned patched).agreesBut.written written
      intro pushed mem
      rcases List.mem_append.mp mem with other | isRecord
      · exact .inl other
      · rw [List.mem_singleton.mp isRecord, isAgent, isKey]
        exact .inr (patched.owned owned)
  · intro problem after _ set
    exact inv.setArchived set

theorem inv_restore (inv : TrashInv system) :
    (carefulDevice retentionMs).Ensures (fun _ after => TrashInv after)
      (operation (.restore agentId key)) system := by
  apply sound_bind
    (sound_ask (.requireRecord agentId key) fun choice answer after acts =>
      inv.of_same (same_requireRecord (careful_cases acts).1).1)
  · intro _ found _ invFound
    apply sound_bind (sound_setArchived isPart_restrict)
    · intro _ middle _ set
      apply sound_ask (.dropRecord agentId key)
      intro choice answer after acts
      obtain ⟨done, writes, -⟩ := careful_cases acts
      have invMiddle : TrashInv middle := invFound.setArchived set
      exact invMiddle.agreesBut.written (written_dropRecord writes done).2 fun _ => .inl
    · intro problem after _ set
      exact invFound.setArchived set
  · intro problem after _ invAfter
    exact invAfter

/-- A deletion leaves the records of its session, unless its call fails. -/
theorem sound_deleteArchived (inv : TrashInv system) :
    (carefulDevice retentionMs).Ensures (fun outcome after => match outcome with
        | .ok _ => AgreesBut after agentId key
        | .error _ => TrashInv after)
      (deleteArchived agentId key confirmation) system := by
  apply sound_bind (sound_describeOwned isPart_restrict)
  · intro current middle _ described
    obtain ⟨same, owns⟩ := described
    have owned := same.owned.mpr (owns current (by rfl)).2
    have invMiddle : TrashInv middle := inv.of_same same
    split
    · exact sound_throw trivial invMiddle
    · apply sound_ask (.delete agentId key confirmation)
      intro choice answer after acts
      obtain ⟨done, -, fails⟩ := careful_cases acts
      rcases delete_cases done with ⟨rfl, deleted⟩ | ⟨problem, rfl, isError, sameAfter | ⟨takes, -⟩⟩
      · exact invMiddle.deleted owned deleted
      · exact invMiddle.of_same sameAfter
      · simp only [failsCleanly, isError, takes] at fails
        cases fails
  · intro problem after _ described
    exact inv.of_same described.1

theorem inv_permanentlyDelete (inv : TrashInv system) :
    (carefulDevice retentionMs).Ensures (fun _ after => TrashInv after)
      (operation (.permanentlyDelete agentId key confirmation)) system := by
  apply sound_bind
    (sound_ask (.takeConfirmation agentId key confirmation) fun choice answer after acts =>
      inv.of_same (same_takeConfirmation (careful_cases acts).1))
  · intro _ taken _ invTaken
    apply sound_bind (sound_deleteArchived invTaken)
    · intro _ middle _ agrees
      apply sound_ask (.dropRecord agentId key)
      intro choice answer after acts
      obtain ⟨done, writes, -⟩ := careful_cases acts
      exact agrees.written (written_dropRecord writes done).2 fun _ => .inl
    · intro problem after _ invAfter
      exact invAfter
  · intro problem after _ invAfter
    exact invAfter

theorem inv_operation (request : TrashRequest) (inv : TrashInv system) :
    (carefulDevice retentionMs).Ensures (fun _ after => TrashInv after)
      (operation request) system := by
  cases request with
  | trash agentId key => exact inv_trash inv
  | restore agentId key => exact inv_restore inv
  | requestPermanentDelete agentId key =>
    apply sound_bind
      (sound_ask (.issueConfirmation agentId key) fun choice answer after acts =>
        inv.of_same (same_issueConfirmation (careful_cases acts).1))
    · intro _ after _ invAfter
      exact ⟨trivial, invAfter⟩
    · intro problem after _ invAfter
      exact invAfter
  | permanentlyDelete agentId key confirmation => exact inv_permanentlyDelete inv

theorem inv_firstStart (start : FirstStart system) : TrashInv system where
  synced := by
    obtain ⟨clock, isLoaded⟩ := start.store
    rw [isLoaded, start.disk]
    rfl
  backed record mem := by
    obtain ⟨clock, isLoaded⟩ := start.store
    rw [isLoaded] at mem
    cases mem
  held key outstanding := by
    rw [start.effects] at outstanding
    cases outstanding

theorem inv_restart (inv : TrashInv system) (loads : system.restart = .ok after) :
    TrashInv after := by
  unfold TrashSystem.restart TrashSystem.load at loads
  split at loads
  · cases loads
    exact inv.of_same ⟨inv.synced.symm, by rfl, by rfl, by rfl⟩
  · cases loads

theorem inv_of_run {start : TrashSystem} (first : FirstStart start)
    (run : Relation.ReflTransGen (TrashStep (carefulDevice retentionMs)) start system) :
    TrashInv system := by
  induction run with
  | refl => exact inv_firstStart first
  | tail _ step inv =>
    cases step with
    | operation ends => exact (inv_operation _ inv).ends ends
    | restart loads => exact inv_restart inv loads

end SessionTrash

end LongHub
