import LongHub.RelyGuarantee
import LongHub.SessionTrash

/-!
# The retention of sessions

A session is deleted with a confirmation for the record under which it is still in
the trash, if no session is trashed again while a confirmation for it is open, and no
record goes away between the checks of a deletion and its call.
-/

namespace LongHub

open InsertionMap List Machine Machine.Stable Option Prod Program

namespace SessionTrash

/-- The deletion has been called for a record whose time has passed, with a
confirmation that has been issued for this record. -/
def Retained (issued : List (String × Confirmation)) (call : DeleteCall) : Prop :=
  ∃ record confirmation, call.found = some record ∧ record.deleteAfter ≤ call.calledAt ∧
    (call.confirmation, confirmation) ∈ issued ∧ confirmation.agentId = call.agentId ∧
    confirmation.key = call.key ∧ confirmation.record = record.number

def Stands (store : TrashStore) (confirmation : Confirmation) (record : TrashRecord) : Prop :=
  record.number = confirmation.record ∧ record.deleteAfter ≤ store.clock

/-- What holds between two steps of the trash. -/
structure RetentionInv (store : TrashStore) : Prop where
  issued : ∀ nonce confirmation, store.confirmations.get? nonce = some confirmation →
    (nonce, confirmation) ∈ store.issued
  open_ : ∀ nonce confirmation, store.confirmations.get? nonce = some confirmation →
    store.clock ≤ confirmation.expiresAt → ∀ record,
      store.find confirmation.agentId confirmation.key = some record →
        Stands store confirmation record
  deleting : ∀ thread nonce confirmation, store.deleting.get? thread = some (nonce, confirmation) →
      (nonce, confirmation) ∈ store.issued ∧
      ∃ record, store.find confirmation.agentId confirmation.key = some record ∧
        Stands store confirmation record
  unused : ∀ nonce confirmation, store.confirmations.get? nonce = some confirmation →
    (∀ call ∈ store.deletes, call.confirmation ≠ nonce) ∧
    ∀ thread deletion, store.deleting.get? thread = some deletion → deletion.1 ≠ nonce
  once : ∀ thread deletion, store.deleting.get? thread = some deletion →
    (∀ call ∈ store.deletes, call.confirmation ≠ deletion.1) ∧
    ∀ other otherDeletion, store.deleting.get? other = some otherDeletion →
      otherDeletion.1 = deletion.1 → other = thread
  retained : ∀ call ∈ store.deletes, Retained store.issued call
  nodup : (store.deletes.map DeleteCall.confirmation).Nodup

def isUnconfirmed (store : TrashStore) (agentId key : String) (now : Int) : Bool :=
  store.confirmations.values.all fun confirmation =>
    ¬ (confirmation.agentId = agentId ∧ confirmation.key = key ∧ now ≤ confirmation.expiresAt)

def isUndeleted (store : TrashStore) (agentId key : String) : Bool :=
  store.deleting.values.all fun deletion =>
    ¬ (deletion.2.agentId = agentId ∧ deletion.2.key = key)

def keepsRecord (_ : Nat) (request : TrashCall) (choice : TrashChoice) (store : TrashStore) :
    Bool :=
  match request with
  | .pushRecord agentId key => isUndeleted store agentId key &&
      isUnconfirmed store agentId key (store.clock + choice.elapsed)
  | .dropRecord agentId key => isUndeleted store agentId key
  | _ => true

section Records

variable {store after : TrashStore} {agentId key otherAgent otherKey : String}

theorem find_without : (store.without agentId key).find otherAgent otherKey =
    if otherAgent = agentId ∧ otherKey = key then none else store.find otherAgent otherKey := by
  unfold TrashStore.without TrashStore.find
  rw [find?_filter]
  split_ifs with same
  · obtain ⟨rfl, rfl⟩ := same
    apply find?_eq_none.mpr
    intro record _
    simp only [decide_eq_true_eq]
    tauto
  · congr 1
    ext record
    by_cases matches_ : record.agentId = otherAgent ∧ record.key = otherKey
    · obtain ⟨rfl, rfl⟩ := matches_
      simp [same]
    · simp [matches_]

theorem find_push {trashedAt deleteAfter : Int}
    (other : ¬ (otherAgent = agentId ∧ otherKey = key)) :
    (store.push agentId key trashedAt deleteAfter).find otherAgent otherKey =
      store.find otherAgent otherKey := by
  have differ : ¬ (agentId = otherAgent ∧ key = otherKey) := fun same =>
    other ⟨same.1.symm, same.2.symm⟩
  simp [TrashStore.push, TrashStore.find, find?_append, differ]

variable {now : Int} {confirmation : Confirmation}

theorem not_confirmed_of_isUnconfirmed (unconfirmed : isUnconfirmed store agentId key now = true)
    {nonce : String} (found : store.confirmations.get? nonce = some confirmation)
    (sameAgent : confirmation.agentId = agentId) (sameKey : confirmation.key = key) :
    confirmation.expiresAt < now := by
  have mem := mem_values_of_get? found
  have apart := all_eq_true.mp unconfirmed confirmation mem
  simp only [sameAgent, sameKey, true_and, not_le, decide_eq_true_eq] at apart
  exact apart

theorem not_deleting_of_isUndeleted (undeleted : isUndeleted store agentId key = true)
    {thread : Nat} {deletion : String × Confirmation}
    (found : store.deleting.get? thread = some deletion) :
    ¬ (deletion.2.agentId = agentId ∧ deletion.2.key = key) := by
  have mem := mem_values_of_get? found
  have apart := all_eq_true.mp undeleted deletion mem
  rwa [decide_eq_true_eq] at apart

structure RecordsChange (store after : TrashStore) : Prop where
  confirmations : after.confirmations = store.confirmations
  issued : after.issued = store.issued
  deleting : after.deleting = store.deleting
  deletes : after.deletes = store.deletes
  clock : store.clock ≤ after.clock

theorem Stands.later {record : TrashRecord} (stands : Stands store confirmation record)
    (later : store.clock ≤ after.clock) :
    Stands after confirmation record := ⟨stands.1, stands.2.trans later⟩

theorem RetentionInv.of_recordsChange (inv : RetentionInv store)
    (change : RecordsChange store after)
    (openKept : ∀ nonce confirmation, store.confirmations.get? nonce = some confirmation →
      after.clock ≤ confirmation.expiresAt → ∀ record,
        after.find confirmation.agentId confirmation.key = some record →
          store.find confirmation.agentId confirmation.key = some record)
    (deletingKept : ∀ thread deletion, store.deleting.get? thread = some deletion →
      after.find deletion.2.agentId deletion.2.key =
        store.find deletion.2.agentId deletion.2.key) : RetentionInv after := by
  have later := change.clock
  constructor
  case issued =>
    rw [change.confirmations, change.issued]
    exact inv.issued
  case open_ =>
    rw [change.confirmations]
    intro nonce confirmation found stillOpen record foundRecord
    have stands := inv.open_ nonce confirmation found (later.trans stillOpen) record
      (openKept nonce confirmation found stillOpen record foundRecord)
    exact stands.later later
  case deleting =>
    rw [change.deleting, change.issued]
    intro thread nonce confirmation found
    obtain ⟨isIssued, record, foundRecord, stands⟩ := inv.deleting thread nonce confirmation found
    exact ⟨isIssued, record, (deletingKept thread _ found).trans foundRecord, stands.later later⟩
  case unused =>
    rw [change.confirmations, change.deletes, change.deleting]
    exact inv.unused
  case once =>
    rw [change.deletes, change.deleting]
    exact inv.once
  case retained =>
    rw [change.deletes, change.issued]
    exact inv.retained
  case nodup =>
    rw [change.deletes]
    exact inv.nodup

/-- Only time passes. -/
theorem RetentionInv.tick (inv : RetentionInv store) (later : store.clock ≤ now) :
    RetentionInv { store with clock := now } :=
  inv.of_recordsChange ⟨rfl, rfl, rfl, rfl, later⟩ (fun _ _ _ _ _ found => found) (fun _ _ _ => rfl)

end Records

section Steps

variable {store after : TrashStore} {agentId key : String} {choice : TrashChoice}
variable {thread : Nat}

variable (inv : RetentionInv store)
include inv

/-- Records of other sessions are found as before. -/
theorem inv_without (undeleted : isUndeleted store agentId key = true) :
    RetentionInv (store.without agentId key) := by
  have change : RecordsChange store (store.without agentId key) := ⟨rfl, rfl, rfl, rfl, le_refl _⟩
  apply inv.of_recordsChange change
  · intro nonce confirmation _ _ record found
    rw [find_without] at found
    split_ifs at found with same
    · exact found
  · intro other deletion found
    rw [find_without, if_neg (not_deleting_of_isUndeleted undeleted found)]

/-- A record of a session without an open confirmation. -/
theorem inv_push {trashedAt deleteAfter : Int} (undeleted : isUndeleted store agentId key = true)
    (unconfirmed : isUnconfirmed store agentId key store.clock = true) :
    RetentionInv (store.push agentId key trashedAt deleteAfter) := by
  have change : RecordsChange store (store.push agentId key trashedAt deleteAfter) :=
    ⟨rfl, rfl, rfl, rfl, le_refl _⟩
  apply inv.of_recordsChange change
  · intro nonce confirmation found stillOpen record foundRecord
    by_cases same : confirmation.agentId = agentId ∧ confirmation.key = key
    · have expired := not_confirmed_of_isUnconfirmed unconfirmed found same.1 same.2
      exact absurd stillOpen (not_le.mpr expired)
    · rwa [find_push same] at foundRecord
  · intro other deletion found
    exact find_push (not_deleting_of_isUndeleted undeleted found)

variable {answer : Except String Unit} {confirmation : String}

theorem inv_pushRecord {retentionMs : Int} (undeleted : isUndeleted store agentId key = true)
    (unconfirmed : isUnconfirmed store agentId key (store.clock + choice.elapsed) = true)
    (acts : pushRecord retentionMs agentId key choice store = (answer, after)) :
    RetentionInv after ∧ after.deleting = store.deleting := by
  have cleared : RetentionInv { store.without agentId key with
      clock := store.clock + choice.elapsed } := by
    apply (inv_without inv undeleted).tick
    simp [TrashStore.without]
  unfold pushRecord at acts
  dsimp only at acts
  split_ifs at acts with inRange
  · obtain ⟨-, rfl⟩ := mk.inj acts
    exact ⟨inv_push cleared undeleted unconfirmed, rfl⟩
  · obtain ⟨-, rfl⟩ := mk.inj acts
    exact ⟨cleared, rfl⟩

theorem inv_forget : RetentionInv { store with deleting := store.deleting.delete thread } := by
  have kept {other : Nat} {deletion : String × Confirmation}
      (found : (store.deleting.delete thread).get? other = some deletion) :
      store.deleting.get? other = some deletion := by
    rw [get?_delete] at found
    split_ifs at found
    · exact found
  refine { inv with deleting := ?deleting, unused := ?unused, once := ?once }
  case deleting =>
    intro other nonce confirmation found
    exact inv.deleting other nonce confirmation (kept found)
  case unused =>
    intro nonce confirmation found
    obtain ⟨notCalled, notDeleting⟩ := inv.unused nonce confirmation found
    exact ⟨notCalled, fun other deletion isDeleting =>
      notDeleting other deletion (kept isDeleting)⟩
  case once =>
    intro other deletion found
    obtain ⟨notCalled, alone⟩ := inv.once other deletion (kept found)
    exact ⟨notCalled, fun another otherDeletion isDeleting =>
      alone another otherDeletion (kept isDeleting)⟩

/-- A new confirmation for a record whose time has passed. -/
theorem inv_issue {item : TrashRecord} {nonce : String} {now : Int}
    (fresh : nonce ∉ store.issued.map fst)
    (found : store.find agentId key = some item) (elapsed : item.deleteAfter ≤ now) {more : Nat}
    (clock : store.clock ≤ now) :
    RetentionInv { store with
      clock := now + more
      confirmations := store.confirmations.set nonce
        ⟨agentId, key, now + more + 5 * 60000, item.number⟩
      issued := store.issued ++
        [(nonce, ⟨agentId, key, now + more + 5 * 60000, item.number⟩)] } := by
  have notIssued {confirmation : Confirmation} : (nonce, confirmation) ∉ store.issued :=
    fun mem => fresh (mem_map.mpr ⟨_, mem, rfl⟩)
  have later : RetentionInv { store with clock := now + more } := inv.tick (by omega)
  constructor
  case issued =>
    intro other confirmation isOpen
    dsimp only at isOpen ⊢
    rw [get?_set] at isOpen
    split_ifs at isOpen with same
    · cases isOpen
      rw [same]
      exact mem_append_right _ mem_cons_self
    · exact mem_append_left _ (inv.issued other confirmation isOpen)
  case open_ =>
    intro other confirmation isOpen stillOpen record foundRecord
    dsimp only at isOpen
    rw [get?_set] at isOpen
    split_ifs at isOpen with same
    · cases isOpen
      have sameRecord : record = item := some.inj (foundRecord.symm.trans found)
      subst sameRecord
      refine ⟨rfl, ?_⟩
      dsimp only
      omega
    · exact later.open_ other confirmation isOpen stillOpen record foundRecord
  case deleting =>
    intro thread other confirmation isDeleting
    obtain ⟨isIssued, stands⟩ := later.deleting thread other confirmation isDeleting
    exact ⟨mem_append_left _ isIssued, stands⟩
  case unused =>
    intro other confirmation isOpen
    dsimp only at isOpen
    rw [get?_set] at isOpen
    split_ifs at isOpen with same
    · cases isOpen
      subst same
      constructor
      · rintro call mem rfl
        obtain ⟨_, _, _, _, isIssued, _⟩ := inv.retained call mem
        exact notIssued isIssued
      · rintro thread deletion isDeleting rfl
        exact notIssued (inv.deleting thread _ _ isDeleting).1
    · exact inv.unused other confirmation isOpen
  case once => exact inv.once
  case retained =>
    intro call mem
    obtain ⟨record, confirmation, found, elapsed, isIssued, rest⟩ := inv.retained call mem
    exact ⟨record, confirmation, found, elapsed, mem_append_left _ isIssued, rest⟩
  case nodup => exact inv.nodup

theorem inv_issueConfirmation {answer : Except String String}
    (fresh : choice.nonce ∉ store.issued.map fst)
    (acts : issueConfirmation agentId key choice store = (answer, after)) :
    RetentionInv after ∧ after.deleting = store.deleting := by
  unfold issueConfirmation at acts
  cases found : store.find agentId key with
  | none =>
    rw [found] at acts
    obtain ⟨-, rfl⟩ := mk.inj acts
    exact ⟨inv, rfl⟩
  | some item =>
    rw [found] at acts
    dsimp only at acts
    split_ifs at acts with early
    · obtain ⟨-, rfl⟩ := mk.inj acts
      exact ⟨inv.tick (by omega), rfl⟩
    · obtain ⟨-, rfl⟩ := mk.inj acts
      exact ⟨inv_issue inv fresh found (not_lt.mp early) (by omega), rfl⟩

/-- A confirmation that is presented is used up. -/
theorem inv_use :
    RetentionInv { store with confirmations := store.confirmations.delete confirmation } := by
  have kept {nonce : String} {pending : Confirmation}
      (found : (store.confirmations.delete confirmation).get? nonce = some pending) :
      store.confirmations.get? nonce = some pending := by
    rw [get?_delete] at found
    split_ifs at found
    · exact found
  refine { inv with issued := ?issued, open_ := ?open_, unused := ?unused }
  case issued =>
    intro nonce pending found
    exact inv.issued nonce pending (kept found)
  case open_ =>
    intro nonce pending found
    exact inv.open_ nonce pending (kept found)
  case unused =>
    intro nonce pending found
    exact inv.unused nonce pending (kept found)

variable {pending : Confirmation}

theorem inv_start (isIssued : (confirmation, pending) ∈ store.issued)
    (used : store.confirmations.get? confirmation = none)
    (uncalled : ∀ call ∈ store.deletes, call.confirmation ≠ confirmation)
    (alone : ∀ other deletion, store.deleting.get? other = some deletion →
      deletion.1 ≠ confirmation)
    (stands : ∃ record, store.find pending.agentId pending.key = some record ∧
      Stands store pending record) :
    RetentionInv { store with deleting := store.deleting.set thread (confirmation, pending) } := by
  refine { inv with deleting := ?deleting, unused := ?unused, once := ?once }
  case deleting =>
    intro other nonce deletion found
    rw [get?_set] at found
    split_ifs at found with same
    · cases found
      exact ⟨isIssued, stands⟩
    · exact inv.deleting other nonce deletion found
  case unused =>
    intro nonce found isOpen
    obtain ⟨notCalled, notDeleting⟩ := inv.unused nonce found isOpen
    refine ⟨notCalled, ?_⟩
    intro other deletion isDeleting
    rw [get?_set] at isDeleting
    split_ifs at isDeleting with same
    · cases isDeleting
      rintro rfl
      rw [used] at isOpen
      cases isOpen
    · exact notDeleting other deletion isDeleting
  case once =>
    intro other deletion found
    rw [get?_set] at found
    split_ifs at found with same
    · cases found
      refine ⟨uncalled, ?_⟩
      intro another otherDeletion isDeleting sameNonce
      rw [get?_set] at isDeleting
      split_ifs at isDeleting with isThread
      · rw [isThread, same]
      · exact absurd sameNonce (alone another otherDeletion isDeleting)
    · obtain ⟨notCalled, unique⟩ := inv.once other deletion found
      refine ⟨notCalled, ?_⟩
      intro another otherDeletion isDeleting sameNonce
      rw [get?_set] at isDeleting
      split_ifs at isDeleting with isThread
      · cases isDeleting
        exact absurd sameNonce.symm (alone other deletion found)
      · exact unique another otherDeletion isDeleting sameNonce

theorem inv_takeConfirmation
    (acts : takeConfirmation thread agentId key confirmation choice store = (answer, after)) :
    RetentionInv after ∧
      (∀ other, other ≠ thread → after.deleting.get? other = store.deleting.get? other) ∧
      (answer = .ok () → ∃ pending, after.deleting.get? thread = some (confirmation, pending) ∧
        pending.agentId = agentId ∧ pending.key = key) := by
  have used : RetentionInv { store with
      clock := store.clock + choice.elapsed
      confirmations := store.confirmations.delete confirmation } :=
    RetentionInv.tick (inv_use inv) (by simp)
  unfold takeConfirmation at acts
  cases found : store.confirmations.get? confirmation with
  | none =>
    rw [found] at acts
    obtain ⟨rfl, rfl⟩ := mk.inj acts
    exact ⟨used, fun _ _ => rfl, fun bad => by cases bad⟩
  | some pending =>
    rw [found] at acts
    dsimp only at acts
    split_ifs at acts with invalid
    · obtain ⟨rfl, rfl⟩ := mk.inj acts
      exact ⟨used, fun _ _ => rfl, fun bad => by cases bad⟩
    · simp only [not_or, not_not, not_lt] at invalid
      obtain ⟨sameAgent, sameKey, stillOpen⟩ := invalid
      cases foundRecord : store.find agentId key with
      | none =>
        rw [foundRecord] at acts
        obtain ⟨rfl, rfl⟩ := mk.inj acts
        exact ⟨used, fun _ _ => rfl, fun bad => by cases bad⟩
      | some record =>
        rw [foundRecord] at acts
        obtain ⟨rfl, rfl⟩ := mk.inj acts
        obtain ⟨uncalled, alone⟩ := inv.unused confirmation pending found
        have stands := inv.open_ confirmation pending found (by omega) record
          (by rw [sameAgent, sameKey]; exact foundRecord)
        refine ⟨?_, ?_, ?_⟩
        · apply inv_start used (inv.issued confirmation pending found)
          · rw [get?_delete, if_pos rfl]
          · exact uncalled
          · exact alone
          · refine ⟨record, ?_, stands.1, ?_⟩
            · rw [sameAgent, sameKey]
              exact foundRecord
            · have elapsed := stands.2
              dsimp only
              omega
        · intro other differ
          dsimp only
          rw [get?_set, if_neg differ]
        · intro _
          exact ⟨pending, by rw [get?_set, if_pos rfl], sameAgent, sameKey⟩

theorem inv_delete (deleting : store.deleting.get? thread = some (confirmation, pending))
    (sameAgent : pending.agentId = agentId) (sameKey : pending.key = key)
    (acts : delete thread agentId key confirmation choice store = (answer, after)) :
    RetentionInv after := by
  obtain ⟨-, rfl⟩ := mk.inj acts
  obtain ⟨isIssued, record, found, stands⟩ := inv.deleting thread confirmation pending deleting
  obtain ⟨uncalled, alone⟩ := inv.once thread _ deleting
  have kept {other : Nat} {deletion : String × Confirmation}
      (isDeleting : (store.deleting.delete thread).get? other = some deletion) :
      other ≠ thread ∧ store.deleting.get? other = some deletion := by
    rw [get?_delete] at isDeleting
    split_ifs at isDeleting with same
    · exact ⟨same, isDeleting⟩
  have forgotten : RetentionInv { store with
      clock := store.clock + choice.elapsed
      deleting := store.deleting.delete thread } := RetentionInv.tick (inv_forget inv) (by simp)
  refine { forgotten with unused := ?unused, once := ?once, retained := ?retained, nodup := ?nodup }
  case unused =>
    intro nonce other isOpen
    obtain ⟨notCalled, notDeleting⟩ := forgotten.unused nonce other isOpen
    refine ⟨?_, notDeleting⟩
    intro call mem
    rcases mem_append.mp mem with earlier | last
    · exact notCalled call earlier
    · rw [mem_singleton.mp last]
      exact (inv.unused nonce other isOpen).2 thread _ deleting
  case once =>
    intro other deletion isDeleting
    obtain ⟨notCalled, unique⟩ := forgotten.once other deletion isDeleting
    refine ⟨?_, unique⟩
    intro call mem
    rcases mem_append.mp mem with earlier | last
    · exact notCalled call earlier
    · rw [mem_singleton.mp last]
      obtain ⟨differ, before⟩ := kept isDeleting
      intro sameNonce
      exact differ (alone other deletion before sameNonce.symm)
  case retained =>
    intro call mem
    rcases mem_append.mp mem with earlier | last
    · exact inv.retained call earlier
    · rw [mem_singleton.mp last]
      rw [sameAgent, sameKey] at found
      have elapsed := stands.2
      exact ⟨record, pending, found, by dsimp only; omega, isIssued, sameAgent, sameKey,
        stands.1.symm⟩
  case nodup =>
    rw [map_append, nodup_append]
    refine ⟨inv.nodup, by simp, ?_⟩
    intro nonce mem other isLast
    obtain ⟨call, called, rfl⟩ := mem_map.mp mem
    have last : other = confirmation := by simpa using isLast
    rw [last]
    exact uncalled call called

end Steps

/-- The trash whose steps leave the records of confirmed sessions alone. -/
def retainingTrash (retentionMs : Int) :
    Machine TrashStore TrashCall TrashCall.Answer String TrashChoice TrashRequest Empty :=
  (trashMachine retentionMs).restrict keepsRecord

def KeepsDeletions (thread : Nat) (before after : TrashStore) : Prop :=
  ∀ other, other ≠ thread → after.deleting.get? other = before.deleting.get? other

def IsDeleting (thread : Nat) (agentId key confirmation : String) (store : TrashStore) : Prop :=
  ∃ pending, store.deleting.get? thread = some (confirmation, pending) ∧
    pending.agentId = agentId ∧ pending.key = key

def IsDelete : TrashCall → Prop
  | .delete _ _ _ => True
  | _ => False

section Operations

variable {retentionMs : Int} {thread : Nat} {agentId key confirmation : String}
variable {store before after : TrashStore} {choice : TrashChoice}

theorem keepsDeletions_of_eq (same : after.deleting = before.deleting) :
    KeepsDeletions thread before after := by
  intro other _
  rw [same]

theorem keepsDeletions_delete : KeepsDeletions thread before
    { before with deleting := before.deleting.delete thread } := by
  intro other differ
  rw [get?_delete, if_neg differ]

variable {request : TrashCall}

theorem perform_of_retaining {outcome : Except String request.Answer × TrashStore}
    (acts : (retainingTrash retentionMs).perform thread request choice before = some outcome) :
    keepsRecord thread request choice before = true ∧
      (trashMachine retentionMs).perform thread request choice before = some outcome := by
  simp only [retainingTrash, restrict] at acts
  split_ifs at acts with keeps
  · exact ⟨keeps, acts⟩

theorem inv_performs {answer : Except String request.Answer} (notDelete : ¬ IsDelete request)
    (inv : RetentionInv before)
    (acts : (retainingTrash retentionMs).perform thread request choice before =
      some (answer, after)) : RetentionInv after ∧ KeepsDeletions thread before after := by
  obtain ⟨keeps, ran⟩ := perform_of_retaining acts
  cases request with
  | describe key =>
    obtain ⟨-, rfl⟩ := mk.inj (some.inj ran)
    split
    · split_ifs
      · exact ⟨inv, keepsDeletions_of_eq rfl⟩
      · exact ⟨inv_forget inv, keepsDeletions_delete⟩
    · exact ⟨inv, keepsDeletions_of_eq rfl⟩
  | patch key archived =>
    obtain ⟨-, rfl⟩ := mk.inj (some.inj ran)
    exact ⟨inv, keepsDeletions_of_eq rfl⟩
  | delete agentId key confirmation => exact absurd trivial notDelete
  | pushRecord agentId key =>
    obtain ⟨undeleted, unconfirmed⟩ := Bool.and_eq_true_iff.mp keeps
    obtain ⟨kept, same⟩ := inv_pushRecord inv undeleted unconfirmed (some.inj ran)
    exact ⟨kept, keepsDeletions_of_eq same⟩
  | requireRecord agentId key =>
    have ran := some.inj ran
    unfold requireRecord at ran
    split at ran
    · obtain ⟨-, rfl⟩ := mk.inj ran
      exact ⟨inv, keepsDeletions_of_eq rfl⟩
    · obtain ⟨-, rfl⟩ := mk.inj ran
      exact ⟨inv, keepsDeletions_of_eq rfl⟩
  | dropRecord agentId key =>
    obtain ⟨-, rfl⟩ := mk.inj (some.inj ran)
    exact ⟨inv_without inv keeps, keepsDeletions_of_eq rfl⟩
  | issueConfirmation agentId key =>
    simp only [trashMachine] at ran
    split_ifs at ran with repeated
    obtain ⟨kept, same⟩ := inv_issueConfirmation inv repeated (some.inj ran)
    exact ⟨kept, keepsDeletions_of_eq same⟩
  | takeConfirmation agentId key confirmation =>
    obtain ⟨kept, others, _⟩ := inv_takeConfirmation inv (some.inj ran)
    exact ⟨kept, others⟩

theorem stable_isDeleting : (retainingTrash retentionMs).Stable RetentionInv KeepsDeletions thread
    (IsDeleting thread agentId key confirmation) := by
  rintro before after _ _ (⟨other, differ, keeps⟩ | ⟨event, _⟩) ⟨pending, found, facts⟩
  · exact ⟨pending, (keeps thread differ.symm).trans found, facts⟩
  · exact nomatch event

theorem safe_of_noDelete {α : Type} {program : TrashProgram α}
    (calls : program.Calls fun request => ¬ IsDelete request) :
    (retainingTrash retentionMs).Safe RetentionInv KeepsDeletions thread (fun _ _ => True)
      program store := by
  apply safe_of_calls (const True) _ calls trivial
  intro request notDelete before choice answer after inv _ acts
  obtain ⟨kept, others⟩ := inv_performs notDelete inv acts
  exact ⟨others, kept, trivial⟩

theorem calls_describeOwned {allowed : TrashCall → Prop}
    (describes : ∀ key, allowed (.describe key)) : (describeOwned agentId key).Calls allowed := by
  unfold describeOwned
  split_ifs
  · trivial
  · trivial
  · apply Program.Calls.bind (calls_perform (describes key))
    intro answer
    exact calls_ofExcept _

theorem calls_setArchived {archived : Bool} :
    (setArchived agentId key archived).Calls fun request => ¬ IsDelete request := by
  apply Program.Calls.bind (calls_describeOwned fun _ => id)
  intro current
  exact calls_perform id

def Described (thread : Nat) (agentId key confirmation : String) :
    Except String ManagedSession → TrashStore → Prop
  | .ok current, store =>
    current.archived = true → IsDeleting thread agentId key confirmation store
  | .error _, _ => True

theorem stable_described {outcome : Except String ManagedSession} :
    (retainingTrash retentionMs).Stable RetentionInv KeepsDeletions thread
      (Described thread agentId key confirmation outcome) := by
  intro before after invBefore invAfter rely described
  cases outcome with
  | ok current => exact fun archived =>
    stable_isDeleting before after invBefore invAfter rely (described archived)
  | error error => trivial

theorem safe_describeOwned (deleting : IsDeleting thread agentId key confirmation store) :
    (retainingTrash retentionMs).Safe RetentionInv KeepsDeletions thread
      (Described thread agentId key confirmation) (describeOwned agentId key) store := by
  unfold describeOwned
  split_ifs
  · exact safe_throw stable_described trivial
  · exact safe_throw stable_described trivial
  · apply safe_perform_bind stable_isDeleting deleting
    · intro before choice answer after inv isDeleting acts
      obtain ⟨kept, others⟩ := inv_performs id inv acts
      refine ⟨others, kept, ?_⟩
      cases described : ownedSession agentId answer with
      | error error => exact safe_throw stable_described trivial
      | ok current =>
        apply safe_pure stable_described
        intro archived
        obtain ⟨pending, found, sameAgent, sameKey⟩ := isDeleting
        obtain ⟨-, ran⟩ := perform_of_retaining acts
        obtain ⟨replied, rfl⟩ := mk.inj (some.inj ran)
        have accepts : acceptsDeletion pending.agentId choice.reply = true := by
          rw [sameAgent, replied, acceptsDeletion]
          simp only [Except.bind, described]
          exact archived
        rw [found]
        simp only [accepts, if_true]
        exact ⟨pending, found, sameAgent, sameKey⟩
    · intro before choice error after inv _ acts
      obtain ⟨kept, others⟩ := inv_performs id inv acts
      exact ⟨others, kept, safe_throw stable_described trivial⟩

theorem safe_deleteArchived (inv : RetentionInv store)
    (deleting : IsDeleting thread agentId key confirmation store) :
    (retainingTrash retentionMs).Safe RetentionInv KeepsDeletions thread (fun _ _ => True)
      (deleteArchived agentId key confirmation) store := by
  apply safe_bind inv (safe_describeOwned deleting)
  · intro current between invBetween described
    cases archived : current.archived with
    | false => exact safe_throw (const True) trivial
    | true =>
      apply safe_perform stable_isDeleting (described archived) (fun _ => const True)
      intro before choice outcome after invBefore isDeleting acts
      obtain ⟨pending, found, sameAgent, sameKey⟩ := isDeleting
      obtain ⟨-, ran⟩ := perform_of_retaining acts
      have ran := some.inj ran
      refine ⟨?_, inv_delete invBefore found sameAgent sameKey ran, trivial⟩
      obtain ⟨-, rfl⟩ := mk.inj ran
      exact keepsDeletions_delete
  · intro _ _ _ _
    trivial

theorem safe_operation (request : TrashRequest) :
    (retainingTrash retentionMs).Safe RetentionInv KeepsDeletions thread (fun _ _ => True)
      (operation request) store := by
  cases request with
  | trash agentId key =>
    apply safe_of_noDelete
    apply Program.Calls.bind calls_setArchived
    intro _
    exact calls_perform id
  | restore agentId key =>
    apply safe_of_noDelete
    apply Program.Calls.bind (calls_perform id)
    intro _
    apply Program.Calls.bind calls_setArchived
    intro _
    exact calls_perform id
  | requestPermanentDelete agentId key =>
    apply safe_of_noDelete
    apply Program.Calls.bind (calls_perform id)
    intro _
    trivial
  | permanentlyDelete agentId key confirmation =>
    apply safe_perform_bind (const True) trivial
    · intro before choice answer after invBefore _ acts
      obtain ⟨kept, others⟩ := inv_performs id invBefore acts
      obtain ⟨-, ran⟩ := perform_of_retaining acts
      have deleting := (inv_takeConfirmation invBefore (some.inj ran)).2.2 rfl
      refine ⟨others, kept, ?_⟩
      apply safe_bind kept (safe_deleteArchived kept deleting)
      · intro _ _ _ _
        exact safe_of_noDelete (calls_perform id)
      · intro _ _ _ _
        trivial
    · intro before choice error after invBefore _ acts
      obtain ⟨kept, others⟩ := inv_performs id invBefore acts
      exact ⟨others, kept, safe_throw (const True) trivial⟩

end Operations

theorem inv_loaded {items : List LoadedRecord} {clock : Int} :
    RetentionInv (loaded items clock) := by
  constructor
  case issued =>
    intro nonce confirmation found
    cases found
  case open_ =>
    intro nonce confirmation found
    cases found
  case deleting =>
    intro thread nonce confirmation found
    cases found
  case unused =>
    intro nonce confirmation found
    cases found
  case once =>
    intro thread deletion found
    cases found
  case retained =>
    intro call mem
    cases mem
  case nodup => exact nodup_nil

/-- If no session is trashed while a confirmation for it is open, and no record is
dropped while a deletion of its session is about to be called, every deletion is
called for a record whose time has passed, with a confirmation issued for this record
and not used before. -/
theorem deletions_retained (retentionMs : Int)
    (pool : Pool TrashStore TrashCall TrashCall.Answer String)
    (reachable : (retainingTrash retentionMs).Reachable TrashStart pool) :
    (∀ call ∈ pool.shared.deletes, Retained pool.shared.issued call) ∧
      (pool.shared.deletes.map DeleteCall.confirmation).Nodup := by
  have safe := safe_of_reachable RetentionInv KeepsDeletions (fun _ _ => True) (fun _ _ _ => True)
    (fun state started => by
      obtain ⟨items, clock, _, rfl⟩ := started
      exact ⟨inv_loaded, fun _ => trivial⟩)
    (fun thread => const True)
    (fun event _ _ _ _ => nomatch event)
    (fun request _ _ _ _ => safe_operation request) reachable
  exact ⟨safe.1.retained, safe.1.nodup⟩

def archivedSession : JsonValue :=
  .record [("key", .text "s1"), ("agentId", .text "hr"), ("archived", .bool true)]

def exampleChoice (nonce : String) : TrashChoice := ⟨.ok archivedSession, 0, 0, nonce, true⟩

/-- A session whose time in the trash has passed. -/
def exampleStore : TrashStore := loaded [⟨"s1", "hr", 0, 60000⟩] 60000

def performing (thread : Nat) (request : TrashRequest) (calls : Nat) (nonce : String) :
    List (PoolAction TrashChoice TrashRequest Empty) :=
  .start thread request :: replicate calls (.perform thread (exampleChoice nonce))

theorem exampleStore_starts : TrashStart exampleStore :=
  ⟨_, _, by decide, rfl⟩

theorem deletions_retained_confirmed : ∃ pool,
    (retainingTrash 60000).Reachable TrashStart pool ∧ pool.shared.deletes.length = 1 ∧
      ∀ call ∈ pool.shared.deletes, Retained pool.shared.issued call := by
  have evaluates : ((retainingTrash 60000).run (initial exampleStore)
      (performing 0 (.requestPermanentDelete "hr" "s1") 1 "n1" ++
        performing 1 (.permanentlyDelete "hr" "s1" "n1") 4 "")).map
      (fun pool => pool.shared.deletes.length) = some 1 := by decide
  obtain ⟨pool, runs, one⟩ := map_eq_some_iff.mp evaluates
  have reachable : (retainingTrash 60000).Reachable TrashStart pool :=
    (Machine.Reachable.initial exampleStore_starts).run runs
  exact ⟨pool, reachable, one, (deletions_retained 60000 pool reachable).1⟩

/-- A confirmation outlives the record for which it was issued: the session is
restored, trashed again and deleted at once. -/
theorem not_deletions_retained : ¬ ∀ (retentionMs : Int)
    (pool : Pool TrashStore TrashCall TrashCall.Answer String), 60000 ≤ retentionMs →
    (trashMachine retentionMs).Reachable TrashStart pool →
      ∀ call ∈ pool.shared.deletes, Retained pool.shared.issued call := by
  intro claim
  have evaluates : ((trashMachine 60000).run (initial exampleStore)
      (performing 0 (.requestPermanentDelete "hr" "s1") 1 "n1" ++
        performing 1 (.restore "hr" "s1") 4 "" ++ performing 2 (.trash "hr" "s1") 3 "" ++
        performing 3 (.permanentlyDelete "hr" "s1" "n1") 3 "")).map
      (fun pool => pool.shared.deletes) =
      some [⟨"hr", "s1", "n1", 60000, some ⟨"s1", "hr", 60000, 120000, 1⟩⟩] := by
    decide
  obtain ⟨pool, runs, deletes⟩ := map_eq_some_iff.mp evaluates
  have reachable : (trashMachine 60000).Reachable TrashStart pool :=
    (Machine.Reachable.initial exampleStore_starts).run runs
  obtain ⟨record, _, found, elapsed, _⟩ := claim 60000 pool (by omega) reachable _
    (deletes ▸ mem_cons_self)
  cases found
  revert elapsed
  decide

end SessionTrash

end LongHub
