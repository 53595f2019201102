import LongHub.CrashSafety
import LongHub.SessionTrash

/-!
# The trash of sessions

The trash with the sessions of the Gateway, and what its operations do.
-/

namespace LongHub

open Bool Option

/-! ## The trash and the sessions of the Gateway -/

namespace SessionTrash

structure GatewaySession where
  agentId : String
  archived : Bool
  deriving DecidableEq

/-- What a call has done to the sessions. -/
inductive GatewayEffect where
  | patched (key : String) (archived : Bool)
  | deleted (key : String)

def GatewayEffect.key : GatewayEffect → String
  | patched key _ | deleted key => key

def describedSession (answer : JsonValue) : Except String ManagedSession := do
  let raw ← recordOf answer "sessions.describe 响应"
  session (match raw.lookup "session" with
    | none | some .null => .record raw
    | some value => value)

theorem ownedSession_eq (agentId : String) (answer : JsonValue) :
    ownedSession agentId answer = (describedSession answer).bind fun value =>
      if value.agentId = agentId then .ok value else .error "会话不属于目标 Agent" := by
  unfold ownedSession describedSession
  cases recordOf answer "sessions.describe 响应" with
  | error problem => rfl
  | ok raw => rfl

def describes (key : String) (held : Option GatewaySession) : Except String JsonValue → Bool
  | .error _ => true
  | .ok answer =>
    match describedSession answer, held with
    | .ok value, some held =>
      value.key = key && value.agentId = held.agentId && value.archived = held.archived
    | .error _, none => true
    | _, _ => false

structure TrashSystem where
  store : TrashStore
  /-- The records in the state file. -/
  disk : List TrashRecord
  sessions : InsertionMap String GatewaySession
  /-- What has been done to the sessions, the last first. -/
  effects : List GatewayEffect

/-- A failing call of the Gateway may have taken effect. -/
structure SystemChoice extends TrashChoice where
  takesEffect : Bool

namespace TrashSystem

variable (system : TrashSystem)

def patchSession (key : String) (archived : Bool) : Option TrashSystem :=
  (system.sessions.get? key).map fun held =>
    { system with
      sessions := system.sessions.set key { held with archived }
      effects := .patched key archived :: system.effects }

def deleteSession (key : String) : Option TrashSystem :=
  (system.sessions.get? key).bind fun held =>
    if held.archived then
      some { system with
        sessions := system.sessions.delete key
        effects := .deleted key :: system.effects }
    else none

/-- An answered call has had its effect; one that fails may have had it. -/
def served (effect : Option TrashSystem) (choice : SystemChoice) :
    Option (Except String Unit × TrashSystem) :=
  match choice.reply with
  | .ok _ => effect.map fun after => (.ok (), after)
  | .error error =>
    some (.error error, if choice.takesEffect then effect.getD system else system)

/-- The end of an operation, which writes the state file or throws. -/
def written (ended : Except String Unit × TrashStore) : Except String Unit × TrashSystem :=
  match ended with
  | (.ok (), store) => (.ok (), { system with store, disk := store.records })
  | (.error error, store) => (.error error, { system with store })

@[grind =]
def perform (retentionMs : Int) (choice : SystemChoice) :
    (request : TrashCall) → Option (Except String request.Answer × TrashSystem)
  | .describe key =>
    let (reply, store) := describe 0 choice.toTrashChoice system.store
    if describes key (system.sessions.get? key) reply then some (reply, { system with store })
    else none
  | .patch key archived => system.served (system.patchSession key archived) choice
  | .delete agentId key confirmation =>
    let called := { system with
      store := (delete 0 agentId key confirmation choice.toTrashChoice system.store).2 }
    called.served (called.deleteSession key) choice
  | .pushRecord agentId key =>
    some (system.written (pushRecord retentionMs agentId key choice.toTrashChoice system.store))
  | .requireRecord agentId key =>
    let (outcome, store) := requireRecord agentId key system.store
    some (outcome, { system with store })
  | .dropRecord agentId key =>
    some (system.written (dropRecord agentId key choice.toTrashChoice system.store))
  | .issueConfirmation agentId key =>
    if choice.nonce ∈ system.store.issued.map Prod.fst then none
    else
      let (outcome, store) := issueConfirmation agentId key choice.toTrashChoice system.store
      some (outcome, { system with store })
  | .takeConfirmation agentId key confirmation =>
    let (outcome, store) :=
      takeConfirmation 0 agentId key confirmation choice.toTrashChoice system.store
    some (outcome, { system with store })

def load (items : List TrashRecord) : Except String (List TrashRecord) :=
  if items.all fun item => idPattern item.key && idPattern item.agentId then .ok items
  else .error "会话回收站记录损坏"

/-- A new process has the records of the state file and no confirmations. -/
def restart : Except String TrashSystem :=
  (load system.disk).map fun records =>
    { system with
      store := { system.store with records, confirmations := .empty, deleting := .empty } }

end TrashSystem

def trashDevice (retentionMs : Int) :
    Device TrashSystem TrashCall TrashCall.Answer String SystemChoice where
  perform request choice system := system.perform retentionMs choice request

def isWritten (retentionMs : Int) (request : TrashCall) (choice : SystemChoice)
    (system : TrashSystem) : Bool :=
  match request with
  | .pushRecord _ _ =>
    let now := system.store.clock + choice.elapsed
    choice.persisted && decide (now ≤ IsoInstant.maxTime ∧ now + retentionMs ≤ IsoInstant.maxTime)
  | .dropRecord _ _ => choice.persisted
  | _ => true

def isAnswered (request : TrashCall) (choice : SystemChoice) (system : TrashSystem) : Bool :=
  match request with
  | .describe key | .patch key _ | .delete _ key _ =>
    choice.reply.isOk || (system.sessions.get? key).isNone
  | _ => true

def workingDevice (retentionMs : Int) :
    Device TrashSystem TrashCall TrashCall.Answer String SystemChoice :=
  (trashDevice retentionMs).restrict fun request choice system =>
    isWritten retentionMs request choice system && isAnswered request choice system

def failsCleanly (request : TrashCall) (choice : SystemChoice) : Bool :=
  match request with
  | .delete _ _ _ => choice.reply.isOk || !choice.takesEffect
  | _ => true

/-- Every write works, and no deletion takes effect whose call fails. -/
def carefulDevice (retentionMs : Int) :
    Device TrashSystem TrashCall TrashCall.Answer String SystemChoice :=
  (trashDevice retentionMs).restrict fun request choice system =>
    isWritten retentionMs request choice system && failsCleanly request choice

inductive TrashStep (device : Device TrashSystem TrashCall TrashCall.Answer String SystemChoice) :
    TrashSystem → TrashSystem → Prop where
  | operation {request : TrashRequest} {outcome : Except String Unit} {before after : TrashSystem}
      (ends : device.Ends (operation request) before outcome after) : TrashStep device before after
  | restart {before after : TrashSystem} (loads : before.restart = .ok after) :
      TrashStep device before after

/-- There is no state file yet; the Gateway may hold any sessions. -/
structure FirstStart (system : TrashSystem) : Prop where
  store : ∃ clock, system.store = loaded [] clock
  disk : system.disk = []
  effects : system.effects = []

/-- The session has been archived by the trash, and neither restored nor deleted since. -/
def Outstanding (effects : List GatewayEffect) (key : String) : Prop :=
  effects.find? (·.key = key) = some (.patched key true)

section Promise

variable (retentionMs : Int) (system : TrashSystem) (agentId key : String)

def CanTrash : Prop :=
  (system.store.clock ≤ IsoInstant.maxTime → system.store.clock + retentionMs ≤ IsoInstant.maxTime →
    ∃ after, (workingDevice retentionMs).Ends (operation (.trash agentId key)) system (.ok ())
      after) ∧
  ∀ outcome after, (workingDevice retentionMs).Ends (operation (.trash agentId key)) system outcome
    after → outcome = .ok () ∧ (after.store.find agentId key).isSome = true

def CanRestore : Prop :=
  (∃ after, (workingDevice retentionMs).Ends (operation (.restore agentId key)) system (.ok ())
    after) ∧
  ∀ outcome after, (workingDevice retentionMs).Ends (operation (.restore agentId key)) system
    outcome after → outcome = .ok () ∧ after.store.find agentId key = none

/-- Some confirmation, which is given when the time to restore the session has passed, deletes
it. -/
def CanDelete : Prop :=
  ∃ confirmation middle after,
    (workingDevice retentionMs).Ends (Trash.issueConfirmation agentId key) system (.ok confirmation)
      middle ∧
    (workingDevice retentionMs).Ends (operation (.permanentlyDelete agentId key confirmation))
      middle (.ok ()) after

/-- No session is lost and no record is stuck. -/
structure TrashAgrees : Prop where
  listed : ∀ key, Outstanding system.effects key → ∃ session,
    system.sessions.get? key = some session ∧
      ((system.store.find session.agentId key).isSome = true ∨
        CanTrash retentionMs system session.agentId key)
  removable : ∀ record ∈ system.store.records,
    CanRestore retentionMs system record.agentId record.key ∨
      CanDelete retentionMs system record.agentId record.key

end Promise

def KeepsAgreement (retentionMs : Int)
    (device : Device TrashSystem TrashCall TrashCall.Answer String SystemChoice) : Prop :=
  ∀ start system, FirstStart start → Relation.ReflTransGen (TrashStep device) start system →
    TrashAgrees retentionMs system ∧
      ∀ request error after, device.Ends (operation request) system (.error error) after →
        after.store.records = after.disk

end SessionTrash

/-! ## What the operations of the trash do -/

namespace SessionTrash

variable {retentionMs : Int} {system after : TrashSystem} {agentId key : String}
variable {choice : SystemChoice}

structure Owned (system : TrashSystem) (agentId key : String) (archived : Bool) : Prop where
  isAgent : idPattern agentId = true
  isKey : idPattern key = true
  held : system.sessions.get? key = some ⟨agentId, archived⟩

/-- A change of at most the clock and the confirmations. -/
structure SameSystem (before after : TrashSystem) : Prop where
  records : after.store.records = before.store.records
  disk : after.disk = before.disk
  sessions : after.sessions = before.sessions
  effects : after.effects = before.effects

theorem SameSystem.rfl : SameSystem system system where
  records := by rfl
  disk := by rfl
  sessions := by rfl
  effects := by rfl

variable {archived : Bool} {answer : Except String Unit}

theorem SameSystem.owned (same : SameSystem system after) :
    Owned after agentId key archived ↔ Owned system agentId key archived := by
  constructor
  · rintro ⟨isAgent, isKey, held⟩
    exact ⟨isAgent, isKey, same.sessions ▸ held⟩
  · rintro ⟨isAgent, isKey, held⟩
    exact ⟨isAgent, isKey, same.sessions.symm ▸ held⟩

theorem describe_cases {answer : Except String JsonValue}
    (acts : system.perform retentionMs choice (.describe key) = some (answer, after)) :
    answer = choice.reply ∧ SameSystem system after ∧
      describes key (system.sessions.get? key) answer = true := by
  obtain ⟨isDescribed, same⟩ := ite_none_right_eq_some.mp acts
  cases same
  refine ⟨by rfl, ?_, isDescribed⟩
  constructor
  · split
    · split <;> rfl
    · rfl
  · rfl
  · rfl
  · rfl

theorem described_cases {held : Option GatewaySession} {answer : JsonValue}
    {current : ManagedSession} (isDescribed : describes key held (.ok answer) = true)
    (owned : ownedSession agentId answer = .ok current) :
    current.key = key ∧ held = some ⟨agentId, current.archived⟩ := by
  rw [ownedSession_eq] at owned
  obtain ⟨value, described, isOwner⟩ := Except.bind_eq_ok_iff.mp owned
  split at isOwner
  · next owns =>
    cases isOwner
    cases held with
    | none => simp [describes, described] at isDescribed
    | some held =>
      simp only [describes, described, and_eq_true, decide_eq_true_eq] at isDescribed
      obtain ⟨⟨isKey, isAgent⟩, isArchived⟩ := isDescribed
      refine ⟨isKey, ?_⟩
      rw [← owns, isAgent, isArchived]
  · cases isOwner

theorem ownedSession_of_described {answer : JsonValue}
    (isDescribed : describes key (some ⟨agentId, archived⟩) (.ok answer) = true) :
    ∃ current, ownedSession agentId answer = .ok current := by
  cases described : describedSession answer with
  | error problem => simp [describes, described] at isDescribed
  | ok value =>
    simp only [describes, described, and_eq_true, decide_eq_true_eq] at isDescribed
    refine ⟨value, ?_⟩
    rw [ownedSession_eq, described]
    exact if_pos isDescribed.1.2

theorem served_cases {effect : Option TrashSystem}
    (serves : system.served effect choice = some (answer, after)) :
    (answer = .ok () ∧ choice.reply.isOk = true ∧ effect = some after) ∨
      ∃ error, answer = .error error ∧ choice.reply.isOk = false ∧
        (after = system ∨ choice.takesEffect = true ∧ effect = some after) := by
  unfold TrashSystem.served at serves
  split at serves
  · next value replied =>
    obtain ⟨reached, isReached, same⟩ := map_eq_some_iff.mp serves
    cases same
    exact .inl ⟨by rfl, by rw [replied]; rfl, isReached⟩
  · next error replied =>
    cases serves
    refine .inr ⟨error, by rfl, by rw [replied]; rfl, ?_⟩
    split
    · next takes =>
      cases effect with
      | none => exact .inl (by rfl)
      | some reached => exact .inr ⟨takes, by rfl⟩
    · exact .inl (by rfl)

structure Patched (before after : TrashSystem) (key : String) (archived : Bool) : Prop where
  records : after.store.records = before.store.records
  disk : after.disk = before.disk
  sessions : ∃ held, before.sessions.get? key = some held ∧
    after.sessions = before.sessions.set key { held with archived }
  effects : after.effects = .patched key archived :: before.effects

theorem patched_of_patchSession (patches : system.patchSession key archived = some after) :
    Patched system after key archived := by
  obtain ⟨held, isHeld, same⟩ := map_eq_some_iff.mp patches
  cases same
  exact ⟨by rfl, by rfl, ⟨held, isHeld, by rfl⟩, by rfl⟩

structure Deleted (before after : TrashSystem) (key : String) : Prop where
  records : after.store.records = before.store.records
  disk : after.disk = before.disk
  sessions : after.sessions = before.sessions.delete key
  effects : after.effects = .deleted key :: before.effects

theorem deleted_of_deleteSession (deletes : system.deleteSession key = some after) :
    Deleted system after key := by
  obtain ⟨held, -, isArchived⟩ := bind_eq_some_iff.mp deletes
  obtain ⟨-, same⟩ := ite_none_right_eq_some.mp isArchived
  cases same
  exact ⟨by rfl, by rfl, by rfl, by rfl⟩

theorem delete_cases {confirmation : String}
    (acts : system.perform retentionMs choice (.delete agentId key confirmation) =
      some (answer, after)) : (answer = .ok () ∧ Deleted system after key) ∨
      ∃ error, answer = .error error ∧ choice.reply.isOk = false ∧
        (SameSystem system after ∨ choice.takesEffect = true ∧ Deleted system after key) := by
  have deleted {reached : TrashSystem} (deletes : TrashSystem.deleteSession { system with
      store := (delete 0 agentId key confirmation choice.toTrashChoice system.store).2 } key =
        some reached) : Deleted system reached key := by
    obtain ⟨records, disk, sessions, effects⟩ := deleted_of_deleteSession deletes
    exact ⟨records, disk, sessions, effects⟩
  rcases served_cases acts with ⟨rfl, -, deletes⟩ | ⟨error, rfl, fails, same | ⟨takes, deletes⟩⟩
  · exact .inl ⟨by rfl, deleted deletes⟩
  · rw [same]
    exact .inr ⟨error, by rfl, fails, .inl ⟨by rfl, by rfl, by rfl, by rfl⟩⟩
  · exact .inr ⟨error, by rfl, fails, .inr ⟨takes, deleted deletes⟩⟩

structure Written (before after : TrashSystem) (ended : List TrashRecord) : Prop where
  records : after.store.records = ended
  disk : after.disk = ended
  sessions : after.sessions = before.sessions
  effects : after.effects = before.effects

theorem written_pushRecord
    (writes : isWritten retentionMs (.pushRecord agentId key) choice system = true)
    (acts : system.perform retentionMs choice (.pushRecord agentId key) =
      some (answer, after)) :
    answer = .ok () ∧ ∃ record : TrashRecord, record.agentId = agentId ∧ record.key = key ∧
      Written system after ((system.store.without agentId key).records ++ [record]) := by
  simp only [isWritten, and_eq_true, decide_eq_true_eq] at writes
  simp only [TrashSystem.perform, TrashSystem.written, pushRecord, persist, writes.1,
    if_pos writes.2, if_true, Option.some.injEq, Prod.mk.injEq] at acts
  obtain ⟨rfl, rfl⟩ := acts
  let now := system.store.clock + choice.elapsed
  exact ⟨by rfl, ⟨key, agentId, now, now + retentionMs, system.store.nextNumber⟩, by rfl, by rfl,
    by rfl, by rfl, by rfl, by rfl⟩

theorem written_dropRecord
    (writes : isWritten retentionMs (.dropRecord agentId key) choice system = true)
    (acts : system.perform retentionMs choice (.dropRecord agentId key) =
      some (answer, after)) :
    answer = .ok () ∧ Written system after (system.store.without agentId key).records := by
  change choice.persisted = true at writes
  simp only [TrashSystem.perform, TrashSystem.written, dropRecord, persist, writes, if_true,
    Option.some.injEq, Prod.mk.injEq] at acts
  obtain ⟨rfl, rfl⟩ := acts
  exact ⟨by rfl, by rfl, by rfl, by rfl, by rfl⟩

theorem same_requireRecord
    (acts : system.perform retentionMs choice (.requireRecord agentId key) =
      some (answer, after)) : SameSystem system after ∧
      ((system.store.find agentId key).isSome = true → answer = .ok ()) := by
  simp only [TrashSystem.perform, requireRecord] at acts
  cases found : system.store.find agentId key with
  | none =>
    rw [found] at acts
    cases acts
    exact ⟨⟨by rfl, by rfl, by rfl, by rfl⟩, nofun⟩
  | some record =>
    rw [found] at acts
    cases acts
    exact ⟨⟨by rfl, by rfl, by rfl, by rfl⟩, fun _ => by rfl⟩

theorem same_issueConfirmation {answer : Except String String}
    (acts : system.perform retentionMs choice (.issueConfirmation agentId key) =
      some (answer, after)) : SameSystem system after := by
  simp only [TrashSystem.perform] at acts
  split at acts
  · cases acts
  · cases acts
    simp only [issueConfirmation]
    split
    · exact ⟨by rfl, by rfl, by rfl, by rfl⟩
    · split <;> exact ⟨by rfl, by rfl, by rfl, by rfl⟩

theorem same_takeConfirmation {confirmation : String}
    (acts : system.perform retentionMs choice (.takeConfirmation agentId key confirmation) =
      some (answer, after)) : SameSystem system after := by
  cases acts
  split
  · exact ⟨by rfl, by rfl, by rfl, by rfl⟩
  · split
    · exact ⟨by rfl, by rfl, by rfl, by rfl⟩
    · split <;> exact ⟨by rfl, by rfl, by rfl, by rfl⟩

section Operations

variable {device : Device TrashSystem TrashCall TrashCall.Answer String SystemChoice}

def IsPart (retentionMs : Int)
    (device : Device TrashSystem TrashCall TrashCall.Answer String SystemChoice) : Prop :=
  ∀ request choice system reached, device.perform request choice system = some reached →
    system.perform retentionMs choice request = some reached

theorem isPart_restrict {condition : TrashCall → SystemChoice → TrashSystem → Bool} :
    IsPart retentionMs ((trashDevice retentionMs).restrict condition) :=
  fun _ _ _ _ acts => (Device.perform_restrict_iff.mp acts).2

theorem sound_ask (request : TrashCall) {Done : Except String request.Answer → TrashSystem → Prop}
    (acts : ∀ choice answer after,
      device.perform request choice system = some (answer, after) → Done answer after) :
    device.Ensures Done (Trash.ask request) system :=
  Device.sound_perform trivial fun choice answer after ran =>
    ⟨trivial, acts choice answer after ran⟩

theorem sound_describeOwned (part : IsPart retentionMs device) :
    device.Ensures (fun outcome after => SameSystem system after ∧
      ∀ current, outcome = .ok current →
        current.key = key ∧ Owned system agentId key current.archived)
      (describeOwned agentId key) system := by
  unfold describeOwned
  split
  · exact Device.sound_throw trivial ⟨.rfl, nofun⟩
  · next isAgent =>
    split
    · exact Device.sound_throw trivial ⟨.rfl, nofun⟩
    · next isKey =>
      simp only [not_eq_true', not_eq_false] at isAgent isKey
      apply Device.sound_perform_bind trivial
      · intro choice answer after acts
        obtain ⟨-, same, isDescribed⟩ := describe_cases (part _ _ _ _ acts)
        cases owned : ownedSession agentId answer with
        | error problem => exact ⟨trivial, same, nofun⟩
        | ok current =>
          refine ⟨trivial, same, fun _ isCurrent => ?_⟩
          cases isCurrent
          obtain ⟨sameKey, held⟩ := described_cases isDescribed owned
          exact ⟨sameKey, isAgent, isKey, held⟩
      · intro choice problem after acts
        obtain ⟨-, same, -⟩ := describe_cases (part _ _ _ _ acts)
        exact ⟨trivial, same, nofun⟩

def SetArchived (before after : TrashSystem) (agentId key : String) (archived : Bool)
    (outcome : Except String Unit) : Prop :=
  (∃ problem, outcome = .error problem ∧ SameSystem before after) ∨
    ∃ was, Owned before agentId key was ∧ Patched before after key archived

theorem Patched.of_same {middle : TrashSystem} {archived : Bool} (same : SameSystem system middle)
    (patched : Patched middle after key archived) : Patched system after key archived := by
  obtain ⟨records, disk, ⟨held, isHeld, sessions⟩, effects⟩ := patched
  rw [same.sessions] at isHeld sessions
  exact ⟨records.trans same.records, disk.trans same.disk, ⟨held, isHeld, sessions⟩,
    same.effects ▸ effects⟩

theorem sound_setArchived {archived : Bool} (part : IsPart retentionMs device) :
    device.Ensures (fun outcome after => SetArchived system after agentId key archived outcome)
      (setArchived agentId key archived) system := by
  apply Device.sound_bind (sound_describeOwned part)
  · intro current middle _ described
    obtain ⟨same, owns⟩ := described
    obtain ⟨sameKey, owned⟩ := owns current (by rfl)
    rw [sameKey]
    apply sound_ask (.patch key archived)
    intro choice answer after acts
    rcases served_cases (part _ _ _ _ acts) with
      ⟨-, -, patches⟩ | ⟨problem, isError, -, unchanged | ⟨-, patches⟩⟩
    · exact .inr ⟨_, owned, (patched_of_patchSession patches).of_same same⟩
    · exact .inl ⟨problem, isError, unchanged ▸ same⟩
    · exact .inr ⟨_, owned, (patched_of_patchSession patches).of_same same⟩
  · intro problem after _ described
    exact .inl ⟨problem, by rfl, described.1⟩

end Operations

end SessionTrash

end LongHub
