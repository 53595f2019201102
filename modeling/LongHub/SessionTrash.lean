import LongHub.AsyncProgram
import LongHub.ExecutorCredential
import LongHub.IsoInstant

/-!
# The recoverable trash of sessions

A session is trashed by archiving it and keeping a record of it. When the time to restore it has
passed, a confirmation for its deletion may be requested, and is used up by the deletion.
-/

namespace LongHub

namespace SessionTrash

structure ManagedSession where
  key : String
  agentId : String
  label : Option String
  archived : Bool
  pinned : Option Bool
  updatedAt : Option String
  incomplete : Bool

def idPattern : String → Bool :=
  let allowed := fun char : Char => char.isAlphanum || char ∈ ['.', '_', ':', '@', '/', '-']
  matchesClasses allowed allowed 0 511

def recordOf (value : JsonValue) (label : String) : Except String (List (String × JsonValue)) :=
  match value with
  | .record fields => .ok fields
  | _ => .error (label ++ " 格式无效")

def fieldOr (fields : List (String × JsonValue)) (first second : String) : Option JsonValue :=
  match fields.lookup first with
  | none | some .null => fields.lookup second
  | some value => some value

def isTrue : Option JsonValue → Bool
  | some (.bool true) => true
  | _ => false

def session (value : JsonValue) : Except String ManagedSession := do
  let raw ← recordOf value "会话"
  match fieldOr raw "key" "sessionKey", fieldOr raw "agentId" "agent_id" with
  | some (.text key), some (.text agentId) =>
    if idPattern key && idPattern agentId then
      return {
        key
        agentId
        label := JsonValue.textField raw "label"
        archived := isTrue (raw.lookup "archived")
        pinned := match raw.lookup "pinned" with
          | some (.bool pinned) => some pinned
          | _ => none
        updatedAt := JsonValue.textField raw "updatedAt"
        incomplete := isTrue (raw.lookup "truncated") || isTrue (raw.lookup "incomplete") }
    else .error "会话身份无效"
  | _, _ => .error "会话身份无效"

def ownedSession (agentId : String) (answer : JsonValue) : Except String ManagedSession := do
  let raw ← recordOf answer "sessions.describe 响应"
  let value ← session (match raw.lookup "session" with
    | none | some .null => .record raw
    | some value => value)
  if value.agentId = agentId then return value else .error "会话不属于目标 Agent"

structure TrashRecord where
  key : String
  agentId : String
  trashedAt : Int
  deleteAfter : Int
  number : Nat
  deriving DecidableEq

structure Confirmation where
  agentId : String
  key : String
  expiresAt : Int
  record : Nat

structure DeleteCall where
  agentId : String
  key : String
  confirmation : String
  calledAt : Int
  found : Option TrashRecord
  deriving DecidableEq

structure TrashStore where
  records : List TrashRecord
  confirmations : InsertionMap String Confirmation
  /-- The last time that has been read. -/
  clock : Int
  nextNumber : Nat
  /-- All confirmations that have been issued. -/
  issued : List (String × Confirmation)
  /-- The confirmation that a thread has used up for a deletion it has yet to call. -/
  deleting : InsertionMap Nat (String × Confirmation)
  deletes : List DeleteCall

namespace TrashStore

variable (store : TrashStore)

def find (agentId key : String) : Option TrashRecord :=
  store.records.find? fun record => record.agentId = agentId ∧ record.key = key

def without (agentId key : String) : TrashStore :=
  { store with
    records := store.records.filter fun record =>
      ¬ (record.agentId = agentId ∧ record.key = key) }

def push (agentId key : String) (trashedAt deleteAfter : Int) : TrashStore :=
  { store with
    records := store.records ++ [⟨key, agentId, trashedAt, deleteAfter, store.nextNumber⟩]
    nextNumber := store.nextNumber + 1 }

end TrashStore

inductive TrashCall where
  | describe (key : String)
  | patch (key : String) (archived : Bool)
  | delete (agentId key confirmation : String)
  /-- The synchronous end of `trash`. -/
  | pushRecord (agentId key : String)
  /-- The check with which `restore` starts. -/
  | requireRecord (agentId key : String)
  /-- The synchronous end of `restore` and of `permanentlyDelete`. -/
  | dropRecord (agentId key : String)
  | issueConfirmation (agentId key : String)
  /-- The checks with which `permanentlyDelete` starts. -/
  | takeConfirmation (agentId key confirmation : String)

@[reducible]
def TrashCall.Answer : TrashCall → Type
  | describe _ => JsonValue
  | issueConfirmation _ _ => String
  | _ => Unit

/-- What a call does not determine: the answer of the Gateway, the time that has passed
before a first and a second reading of the clock, a random nonce, and whether the
state file could be written. -/
structure TrashChoice where
  reply : Except String JsonValue
  elapsed : Nat
  elapsedMore : Nat
  nonce : String
  persisted : Bool

def persist (choice : TrashChoice) (store : TrashStore) : Except String Unit × TrashStore :=
  (if choice.persisted then .ok () else .error "EIO", store)

def acceptsDeletion (agentId : String) (reply : Except String JsonValue) : Bool :=
  match reply.bind (ownedSession agentId) with
  | .ok current => current.archived
  | .error _ => false

def describe (thread : Nat) (choice : TrashChoice) (store : TrashStore) :
    Except String JsonValue × TrashStore :=
  (choice.reply, match store.deleting.get? thread with
    | some deletion =>
      if acceptsDeletion deletion.2.agentId choice.reply then store
      else { store with deleting := store.deleting.delete thread }
    | none => store)

def delete (thread : Nat) (agentId key confirmation : String) (choice : TrashChoice)
    (store : TrashStore) : Except String Unit × TrashStore :=
  (choice.reply.map fun _ => (),
    { store with
      clock := store.clock + choice.elapsed
      deleting := store.deleting.delete thread
      deletes := store.deletes ++
        [⟨agentId, key, confirmation, store.clock + choice.elapsed, store.find agentId key⟩] })

def pushRecord (retentionMs : Int) (agentId key : String) (choice : TrashChoice)
    (store : TrashStore) : Except String Unit × TrashStore :=
  let now := store.clock + choice.elapsed
  let store := { store.without agentId key with clock := now }
  if now ≤ IsoInstant.maxTime ∧ now + retentionMs ≤ IsoInstant.maxTime then
    persist choice (store.push agentId key now (now + retentionMs))
  else (.error "Invalid time value", store)

def requireRecord (agentId key : String) (store : TrashStore) : Except String Unit × TrashStore :=
  match store.find agentId key with
  | none => (.error "会话不在回收站", store)
  | some _ => (.ok (), store)

def dropRecord (agentId key : String) (choice : TrashChoice) (store : TrashStore) :
    Except String Unit × TrashStore :=
  persist choice (store.without agentId key)

def issueConfirmation (agentId key : String) (choice : TrashChoice) (store : TrashStore) :
    Except String String × TrashStore :=
  match store.find agentId key with
  | none => (.error "会话不在回收站", store)
  | some item =>
    let now := store.clock + choice.elapsed
    if now < item.deleteAfter then (.error "会话仍在可恢复保留期", { store with clock := now })
    else
      let later := now + choice.elapsedMore
      let confirmation : Confirmation := ⟨agentId, key, later + 5 * 60000, item.number⟩
      (.ok choice.nonce, { store with
        clock := later
        confirmations := store.confirmations.set choice.nonce confirmation
        issued := store.issued ++ [(choice.nonce, confirmation)] })

def takeConfirmation (thread : Nat) (agentId key confirmation : String) (choice : TrashChoice)
    (store : TrashStore) : Except String Unit × TrashStore :=
  let now := store.clock + choice.elapsed
  let taken := { store with
    clock := now
    confirmations := store.confirmations.delete confirmation }
  match store.confirmations.get? confirmation with
  | none => (.error "永久删除确认无效或已使用", taken)
  | some pending =>
    if pending.agentId ≠ agentId ∨ pending.key ≠ key ∨ pending.expiresAt < now then
      (.error "永久删除确认无效或已使用", taken)
    else
      match store.find agentId key with
      | none => (.error "会话不在回收站", taken)
      | some _ => (.ok (), { taken with
          deleting := store.deleting.set thread (confirmation, pending) })

abbrev TrashProgram (α : Type) := Program TrashCall TrashCall.Answer String α

namespace Trash

def ask (request : TrashCall) : TrashProgram request.Answer := .perform request

def describe (key : String) : TrashProgram JsonValue := ask (.describe key)
def patch (key : String) (archived : Bool) : TrashProgram Unit := ask (.patch key archived)

def delete (agentId key confirmation : String) : TrashProgram Unit :=
  ask (.delete agentId key confirmation)

variable (agentId key : String)

def pushRecord : TrashProgram Unit := ask (.pushRecord agentId key)
def requireRecord : TrashProgram Unit := ask (.requireRecord agentId key)
def dropRecord : TrashProgram Unit := ask (.dropRecord agentId key)

def issueConfirmation : TrashProgram String :=
  ask (.issueConfirmation agentId key)

def takeConfirmation (agentId key confirmation : String) : TrashProgram Unit :=
  ask (.takeConfirmation agentId key confirmation)

end Trash

def describeOwned (agentId key : String) : TrashProgram ManagedSession := do
  if !idPattern agentId then .throw "Agent ID 无效"
  else if !idPattern key then .throw "会话 key 无效"
  else
    let answer ← Trash.describe key
    Program.ofExcept (ownedSession agentId answer)

def setArchived (agentId key : String) (archived : Bool) : TrashProgram Unit := do
  let current ← describeOwned agentId key
  Trash.patch current.key archived

def deleteArchived (agentId key confirmation : String) : TrashProgram Unit := do
  let current ← describeOwned agentId key
  if !current.archived then .throw "永久删除只允许已归档会话"
  else Trash.delete agentId key confirmation

inductive TrashRequest where
  | trash (agentId key : String)
  | restore (agentId key : String)
  | requestPermanentDelete (agentId key : String)
  | permanentlyDelete (agentId key confirmation : String)

def operation : TrashRequest → TrashProgram Unit
  | .trash agentId key => do
    setArchived agentId key true
    Trash.pushRecord agentId key
  | .restore agentId key => do
    Trash.requireRecord agentId key
    setArchived agentId key false
    Trash.dropRecord agentId key
  | .requestPermanentDelete agentId key => do
    let _ ← Trash.issueConfirmation agentId key
    pure ()
  | .permanentlyDelete agentId key confirmation => do
    Trash.takeConfirmation agentId key confirmation
    deleteArchived agentId key confirmation
    Trash.dropRecord agentId key

def trashMachine (retentionMs : Int) :
    Machine TrashStore TrashCall TrashCall.Answer String TrashChoice TrashRequest Empty where
  perform thread request choice store :=
    match request with
    | .describe _ => some (describe thread choice store)
    | .patch _ _ => some (choice.reply.map fun _ => (), store)
    | .delete agentId key confirmation =>
      some (delete thread agentId key confirmation choice store)
    | .pushRecord agentId key => some (pushRecord retentionMs agentId key choice store)
    | .requireRecord agentId key => some (requireRecord agentId key store)
    | .dropRecord agentId key => some (dropRecord agentId key choice store)
    | .issueConfirmation agentId key =>
      if choice.nonce ∈ store.issued.map Prod.fst then none
      else some (issueConfirmation agentId key choice store)
    | .takeConfirmation agentId key confirmation =>
      some (takeConfirmation thread agentId key confirmation choice store)
  program := operation
  environment event _ := nomatch event

structure LoadedRecord where
  key : String
  agentId : String
  trashedAt : Int
  deleteAfter : Int

def loaded (items : List LoadedRecord) (clock : Int) : TrashStore where
  records := items.zipIdx.map fun item =>
    ⟨item.1.key, item.1.agentId, item.1.trashedAt, item.1.deleteAfter, item.2⟩
  confirmations := InsertionMap.empty
  clock
  nextNumber := items.length
  issued := []
  deleting := InsertionMap.empty
  deletes := []

/-- A state file that `load` accepts, or none. -/
def TrashStart (store : TrashStore) : Prop :=
  ∃ items clock, (∀ item ∈ items, idPattern item.key = true ∧ idPattern item.agentId = true) ∧
    store = loaded items clock

end SessionTrash

end LongHub
