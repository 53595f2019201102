import LongHub.CanonicalDepth
import LongHub.CredentialIssue
import LongHub.JsonDamage
import LongHub.NoCodeWorkspace
import LongHub.WriteThrough

/-!
# The local personal profile

`LocalPersonalProfileStore` keeps the entries that a user writes for an Agent, in the memory and in
a state file of the app.  The state file always holds the entries of the store, and the loader
accepts each of them, but it also limits the size of the whole file, which no call checks.
-/

namespace LongHub

namespace LocalProfile

open NoCode (idPattern serialize fileSize)

structure PersonalProfileEntry where
  entryId : String
  agentId : String
  title : String
  content : String
  createdAt : String
  deletedAt : Option String

def PersonalProfileEntry.isDeleted (entry : PersonalProfileEntry) : Bool :=
  entry.deletedAt.any fun time => time ≠ ""

abbrev Entries := List PersonalProfileEntry

structure ProfileSetup where
  node : NodePlatform
  owner : String
  ownerLong : 8 ≤ utf16Length owner
  /-- `Date.parse`, none for `NaN`. -/
  parseDate : String → Option Int
  parseDate_toISOString : ∀ time text, IsoInstant.toISOString time = some text →
    parseDate text = some time

def ProfileSetup.ownerHash (setup : ProfileSetup) : String := setup.node.sha256Hex setup.owner

inductive ProfileCall where
  | add (agentId title content : String)
  | trash (agentId entryId : String)
  | restore (agentId entryId : String)
  | permanentlyDelete (agentId entryId : String)

/-- What `randomUUID` and `now` give to a call. -/
structure ProfileChoice where
  uuid : String
  uuidValid : idPattern uuid = true
  now : Int

def maxTitle : Nat := 120
def maxContent : Nat := 2 * 1024 * 1024

def assertAgent (agentId : String) : Except String Unit :=
  Except.ensure (idPattern agentId) "本地资料 Agent 无效"

def list (entries : Entries) (agentId : String) (includeDeleted : Bool) :
    Except String Entries := do
  assertAgent agentId
  return entries.filter fun entry =>
    entry.agentId = agentId && (includeDeleted || !entry.isDeleted)

/-- The place of an entry stands for the identity of its object. -/
def find (entries : Entries) (agentId entryId : String) :
    Except String (Fin entries.length) := do
  assertAgent agentId
  Except.ensure (idPattern entryId) "本地资料 ID 无效"
  Except.require (entries.findFinIdx? fun item => item.agentId = agentId && item.entryId = entryId)
    "本地资料不存在或不属于目标 Agent"

/-- `new Date(this.now()).toISOString()`. -/
def timeText (choice : ProfileChoice) : Except String String :=
  Except.require (IsoInstant.toISOString choice.now) "Invalid time value"

def isContentValid (title content : String) : Bool :=
  title ≠ "" && utf16Length title ≤ maxTitle && content ≠ "" && content.utf8ByteSize ≤ maxContent

def changed (call : ProfileCall) (choice : ProfileChoice) (entries : Entries) :
    Except String (Option Entries) :=
  match call with
  | .add agentId title content => do
    assertAgent agentId
    Except.ensure (isContentValid (trimText title) (trimText content)) "本地资料标题或内容无效"
    let createdAt ← timeText choice
    return some (entries ++
      [⟨choice.uuid, agentId, trimText title, trimText content, createdAt, none⟩])
  | .trash agentId entryId => do
    let index ← find entries agentId entryId
    let entry := entries.get index
    if entry.isDeleted then return none
    let deletedAt ← timeText choice
    return some (entries.set index { entry with deletedAt := some deletedAt })
  | .restore agentId entryId => do
    let index ← find entries agentId entryId
    let entry := entries.get index
    if !entry.isDeleted then return none
    return some (entries.set index { entry with deletedAt := none })
  | .permanentlyDelete agentId entryId => do
    let index ← find entries agentId entryId
    Except.ensure (entries.get index).isDeleted "永久删除前必须进入回收状态"
    return some (entries.eraseIdx index)

def entryJson (entry : PersonalProfileEntry) : JsonValue :=
  .record ([("entryId", .text entry.entryId), ("agentId", .text entry.agentId),
    ("title", .text entry.title), ("content", .text entry.content),
    ("createdAt", .text entry.createdAt)] ++
      (entry.deletedAt.map fun time => ("deletedAt", JsonValue.text time)).toList)

def stateJson (ownerHash : String) (entries : Entries) : JsonValue :=
  .record [("schemaVersion", .text "longhub/local-personal-profile/v1"),
    ("ownerHash", .text ownerHash), ("entries", .array (entries.map entryJson))]

def persisted (ownerHash : String) (entries : Entries) : List Char :=
  serialize (stateJson ownerHash entries)

def maxFileSize : Nat := 16 * 1024 * 1024

def isEntryValid (setup : ProfileSetup) (entry : PersonalProfileEntry) : Bool :=
  idPattern entry.entryId && idPattern entry.agentId && entry.title ≠ "" &&
    utf16Length entry.title ≤ maxTitle && entry.content.utf8ByteSize ≤ maxContent &&
    (setup.parseDate entry.createdAt).isSome &&
    (!entry.isDeleted || entry.deletedAt.any fun time => (setup.parseDate time).isSome)

def entryOf (fields : List (String × JsonValue)) : Option PersonalProfileEntry := do
  let entryId ← JsonValue.textField fields "entryId"
  let agentId ← JsonValue.textField fields "agentId"
  let title ← JsonValue.textField fields "title"
  let content ← JsonValue.textField fields "content"
  let createdAt ← JsonValue.textField fields "createdAt"
  match fields.lookup "deletedAt" with
  | none =>
    if hasExactKeys fields ["entryId", "agentId", "title", "content", "createdAt"] then
      some ⟨entryId, agentId, title, content, createdAt, none⟩
    else none
  | some (.text deletedAt) =>
    if hasExactKeys fields ["entryId", "agentId", "title", "content", "createdAt", "deletedAt"] then
      some ⟨entryId, agentId, title, content, createdAt, some deletedAt⟩
    else none
  | some _ => none

def loadEntry (setup : ProfileSetup) : JsonValue → Except String PersonalProfileEntry
  | .record fields => do
    let entry ← Except.require (entryOf fields) "本地资料库记录无效"
    Except.ensure (isEntryValid setup entry) "本地资料库记录无效"
    return entry
  | _ => .error "本地资料库记录无效"

def entriesOf (setup : ProfileSetup) : JsonValue → Option (List JsonValue)
  | .record fields =>
    match fields.lookup "schemaVersion", fields.lookup "ownerHash", fields.lookup "entries" with
    | some (.text schema), some (.text owner), some (.array entries) =>
      if hasExactKeys fields ["schemaVersion", "ownerHash", "entries"] ∧
          schema = "longhub/local-personal-profile/v1" ∧ owner = setup.ownerHash then
        some entries
      else none
    | _, _, _ => none
  | _ => none

def load (setup : ProfileSetup) (text : List Char) : Except String Entries := do
  Except.ensure (fileSize text ≤ maxFileSize) "本地资料库状态无效"
  let state ← Except.require (JsonValue.parse text) "JSON 无效"
  let entries ← Except.require (entriesOf setup state) "本地资料库 owner 或格式无效"
  entries.mapM (loadEntry setup)

def profileStore (setup : ProfileSetup) :
    WriteThrough Entries (List Char) (ProfileCall × ProfileChoice) String where
  empty := []
  encode := persisted setup.ownerHash
  decode := load setup
  change input := changed input.1 input.2

abbrev LocalPersonalProfileStore := WriteThrough.Cell Entries (List Char)

/-- The constructor. -/
def openStore (setup : ProfileSetup) (file : Option (List Char)) :
    Except String LocalPersonalProfileStore :=
  (profileStore setup).reopen file

def perform (setup : ProfileSetup) (call : ProfileCall) (choice : ProfileChoice)
    (disk : Option String) (store : LocalPersonalProfileStore) :
    Except String Unit × LocalPersonalProfileStore :=
  (profileStore setup).act (call, choice) disk store

open IsoInstant JsonValue List WriteThrough

section Load

variable {setup : ProfileSetup} {entry : PersonalProfileEntry} {entries : Entries}

theorem entryOf_entryJson (entry : PersonalProfileEntry) :
    ∃ fields, entryJson entry = .record fields ∧ entryOf fields = some entry := by
  refine ⟨_, rfl, ?_⟩
  obtain ⟨entryId, agentId, title, content, createdAt, deletedAt⟩ := entry
  cases deletedAt with
  | none => simp [entryOf, textField, lookup_cons, hasExactKeys_of_names]
  | some time => simp [entryOf, textField, lookup_cons, hasExactKeys_of_names]

theorem loadEntry_entryJson (valid : isEntryValid setup entry = true) :
    loadEntry setup (entryJson entry) = .ok entry := by
  obtain ⟨fields, isRecord, read⟩ := entryOf_entryJson entry
  rw [isRecord]
  simp only [loadEntry, read, Except.require, bind, Except.bind]
  rw [valid]
  rfl

/-- What the loader accepts of each entry. -/
def Valid (setup : ProfileSetup) (entries : Entries) : Prop :=
  ∀ entry ∈ entries, isEntryValid setup entry = true

theorem mapM_entryJson (valid : Valid setup entries) :
    (entries.map entryJson).mapM (loadEntry setup) = .ok entries := by
  induction entries with
  | nil => rfl
  | cons entry rest ih =>
    have here := valid entry mem_cons_self
    have others := ih fun other mem => valid other (mem_cons_of_mem _ mem)
    rw [map_cons, mapM_cons, loadEntry_entryJson here, others]
    rfl

theorem wellFormed_entryJson (entry : PersonalProfileEntry) : (entryJson entry).WellFormed := by
  obtain ⟨entryId, agentId, title, content, createdAt, deletedAt⟩ := entry
  cases deletedAt with
  | none =>
    exact wellFormed_of_names ["entryId", "agentId", "title", "content", "createdAt"] rfl
      (by decide) (by decide) (by simp [JsonValue.WellFormed.text])
  | some time =>
    exact wellFormed_of_names
      ["entryId", "agentId", "title", "content", "createdAt", "deletedAt"] rfl
      (by decide) (by decide) (by simp [JsonValue.WellFormed.text])

theorem finite_entryJson (entry : PersonalProfileEntry) :
    (entryJson entry).finite = entryJson entry := by
  obtain ⟨entryId, agentId, title, content, createdAt, deletedAt⟩ := entry
  cases deletedAt <;> simp [entryJson]

theorem wellFormed_stateJson (ownerHash : String) (entries : Entries) :
    (stateJson ownerHash entries).WellFormed := by
  have items : (JsonValue.array (entries.map entryJson)).WellFormed := by
    apply JsonValue.WellFormed.array
    intro item mem
    obtain ⟨entry, -, rfl⟩ := mem_map.mp mem
    exact wellFormed_entryJson entry
  exact wellFormed_of_names ["schemaVersion", "ownerHash", "entries"] rfl (by decide)
    (by decide) (by simp [JsonValue.WellFormed.text, items])

theorem finite_stateJson (ownerHash : String) (entries : Entries) :
    (stateJson ownerHash entries).finite = stateJson ownerHash entries := by
  simp [stateJson, finite_entryJson]

theorem entriesOf_stateJson (setup : ProfileSetup) (entries : Entries) :
    entriesOf setup (stateJson setup.ownerHash entries) = some (entries.map entryJson) := by
  simp [entriesOf, stateJson, lookup_cons, hasExactKeys_of_names]

theorem load_persisted (valid : Valid setup entries)
    (small : fileSize (persisted setup.ownerHash entries) ≤ maxFileSize) :
    load setup (persisted setup.ownerHash entries) = .ok entries := by
  have space : JsonValue.IsSpace ['\n'] := by
    intro char mem
    rw [mem_singleton.mp mem]
    rfl
  have parsed : parse (persisted setup.ownerHash entries) =
      some (stateJson setup.ownerHash entries).finite :=
    parse_stringify (wellFormed_stateJson _ _) space
  rw [finite_stateJson] at parsed
  simp only [load, small, decide_true, parsed, Except.ensure, Except.require, entriesOf_stateJson,
    bind, Except.bind, if_true]
  exact mapM_entryJson valid

theorem load_of_large {text : List Char} (large : ¬ fileSize text ≤ maxFileSize) :
    load setup text = .error "本地资料库状态无效" := by
  simp only [load, large, Except.ensure, decide_false]
  rfl

end Load

inductive Change (choice : ProfileChoice) (entries : Entries) : ProfileCall → Entries → Prop where
  | add {agentId title content createdAt : String} (agent : idPattern agentId = true)
      (valid : isContentValid (trimText title) (trimText content) = true)
      (time : toISOString choice.now = some createdAt) :
      Change choice entries (.add agentId title content) (entries ++
        [⟨choice.uuid, agentId, trimText title, trimText content, createdAt, none⟩])
  | trash {agentId entryId deletedAt : String} {index : Fin entries.length}
      (found : find entries agentId entryId = .ok index)
      (present : (entries.get index).isDeleted = false)
      (time : toISOString choice.now = some deletedAt) :
      Change choice entries (.trash agentId entryId)
        (entries.set index { entries.get index with deletedAt := some deletedAt })
  | restore {agentId entryId : String} {index : Fin entries.length}
      (found : find entries agentId entryId = .ok index)
      (deleted : (entries.get index).isDeleted = true) :
      Change choice entries (.restore agentId entryId)
        (entries.set index { entries.get index with deletedAt := none })
  | permanentlyDelete {agentId entryId : String} {index : Fin entries.length}
      (found : find entries agentId entryId = .ok index)
      (deleted : (entries.get index).isDeleted = true) :
      Change choice entries (.permanentlyDelete agentId entryId) (entries.eraseIdx index)

def Changes (call : ProfileCall) (choice : ProfileChoice) (entries : Entries) : Prop :=
  match call with
  | .add agentId title content => idPattern agentId = true ∧
      isContentValid (trimText title) (trimText content) = true ∧
      (toISOString choice.now).isSome = true
  | .trash agentId entryId => ∃ index, find entries agentId entryId = .ok index ∧
      (entries.get index).isDeleted = false ∧ (toISOString choice.now).isSome = true
  | .restore agentId entryId | .permanentlyDelete agentId entryId =>
    ∃ index, find entries agentId entryId = .ok index ∧ (entries.get index).isDeleted = true

section Change

variable {setup : ProfileSetup} {choice : ProfileChoice} {call : ProfileCall}
variable {entries next : Entries}

theorem changed_iff : changed call choice entries = .ok (some next) ↔
    Change choice entries call next := by
  constructor
  · intro isChanged
    cases call with
    | add agentId title content =>
      simp only [changed, assertAgent, timeText, Except.bind_eq_ok, Except.ensure_eq_ok,
        Except.require_eq_ok, Except.pure_eq_ok, Option.some.injEq] at isChanged
      obtain ⟨-, agent, -, valid, createdAt, time, rfl⟩ := isChanged
      exact .add agent valid time
    | trash agentId entryId =>
      simp only [changed, timeText, Except.bind_eq_ok] at isChanged
      obtain ⟨index, found, isChanged⟩ := isChanged
      cases deleted : (entries.get index).isDeleted with
      | true =>
        rw [deleted] at isChanged
        cases isChanged
      | false =>
        simp only [deleted, Bool.false_eq_true, if_false, Except.bind_eq_ok,
          Except.require_eq_ok, Except.pure_eq_ok, Option.some.injEq] at isChanged
        obtain ⟨deletedAt, time, rfl⟩ := isChanged
        exact .trash found deleted time
    | restore agentId entryId =>
      simp only [changed, Except.bind_eq_ok] at isChanged
      obtain ⟨index, found, isChanged⟩ := isChanged
      cases deleted : (entries.get index).isDeleted with
      | false =>
        rw [deleted] at isChanged
        cases isChanged
      | true =>
        rw [deleted] at isChanged
        cases isChanged
        exact .restore found deleted
    | permanentlyDelete agentId entryId =>
      simp only [changed, Except.bind_eq_ok, Except.ensure_eq_ok, Except.pure_eq_ok,
        Option.some.injEq] at isChanged
      obtain ⟨index, found, -, deleted, rfl⟩ := isChanged
      exact .permanentlyDelete found deleted
  · intro change
    cases change with
    | add agent valid time =>
      simp [changed, assertAgent, timeText, Except.ensure, Except.require, bind, Except.bind, pure,
        Except.pure, agent, valid, time]
    | trash found present time =>
      simp only [changed, found, present, timeText, time, Except.require, bind, Except.bind]
      rfl
    | restore found deleted =>
      simp only [changed, found, deleted, bind, Except.bind]
      rfl
    | permanentlyDelete found deleted =>
      simp only [changed, found, deleted, Except.ensure, bind, Except.bind]
      rfl

theorem exists_changed_iff : (∃ next, changed call choice entries = .ok (some next)) ↔
    Changes call choice entries := by
  simp only [changed_iff]
  constructor
  · rintro ⟨next, change⟩
    cases change with
    | add agent valid time => exact ⟨agent, valid, by rw [time]; rfl⟩
    | trash found present time => exact ⟨_, found, present, by rw [time]; rfl⟩
    | restore found deleted => exact ⟨_, found, deleted⟩
    | permanentlyDelete found deleted => exact ⟨_, found, deleted⟩
  · intro changes
    cases call with
    | add agentId title content =>
      obtain ⟨agent, valid, present⟩ := changes
      obtain ⟨createdAt, time⟩ := Option.isSome_iff_exists.mp present
      exact ⟨_, .add agent valid time⟩
    | trash agentId entryId =>
      obtain ⟨index, found, notDeleted, present⟩ := changes
      obtain ⟨deletedAt, time⟩ := Option.isSome_iff_exists.mp present
      exact ⟨_, .trash found notDeleted time⟩
    | restore agentId entryId =>
      obtain ⟨index, found, deleted⟩ := changes
      exact ⟨_, .restore found deleted⟩
    | permanentlyDelete agentId entryId =>
      obtain ⟨index, found, deleted⟩ := changes
      exact ⟨_, .permanentlyDelete found deleted⟩

theorem ne_empty_of_toISOString {time : Int} {text : String}
    (written : toISOString time = some text) : text ≠ "" := by
  rintro rfl
  have parsed := parse_toISOString written
  rw [show parse "" = none by decide] at parsed
  cases parsed

theorem Change.ne (change : Change choice entries call next) : next ≠ entries := by
  intro same
  cases change with
  | add agent valid time => simpa using congrArg length same
  | @trash agentId entryId deletedAt index found present time =>
    have here := congrArg (fun list => list[index.val]?) same
    simp only [getElem?_set_self index.isLt, getElem?_eq_getElem index.isLt,
      Option.some.injEq] at here
    have written : (entries.get index).deletedAt = some deletedAt :=
      (congrArg PersonalProfileEntry.deletedAt here).symm
    rw [PersonalProfileEntry.isDeleted, written] at present
    exact absurd (by simpa using present) (ne_empty_of_toISOString time)
  | @restore agentId entryId index found deleted =>
    have here := congrArg (fun list => list[index.val]?) same
    simp only [getElem?_set_self index.isLt, getElem?_eq_getElem index.isLt,
      Option.some.injEq] at here
    have written : (entries.get index).deletedAt = none :=
      (congrArg PersonalProfileEntry.deletedAt here).symm
    rw [PersonalProfileEntry.isDeleted, written] at deleted
    cases deleted
  | @permanentlyDelete agentId entryId index found deleted =>
    have shorter := congrArg length same
    rw [length_eraseIdx_of_lt index.isLt] at shorter
    have := index.isLt
    omega

theorem Change.valid (change : Change choice entries call next) (valid : Valid setup entries) :
    Valid setup next := by
  intro entry mem
  cases change with
  | @add agentId title content createdAt agent bounds time =>
    rcases mem_append.mp mem with old | new
    · exact valid entry old
    · rw [mem_singleton.mp new]
      simp only [isContentValid, Bool.and_eq_true, decide_eq_true_eq] at bounds
      obtain ⟨⟨⟨titlePresent, titleShort⟩, -⟩, contentShort⟩ := bounds
      simp [isEntryValid, PersonalProfileEntry.isDeleted, choice.uuidValid, agent, titlePresent,
        titleShort, contentShort, setup.parseDate_toISOString _ _ time]
  | @trash agentId entryId deletedAt index found present time =>
    rcases mem_or_eq_of_mem_set mem with old | new
    · exact valid entry old
    · have before := valid _ (get_mem entries index)
      rw [new]
      simp only [isEntryValid, Bool.and_eq_true] at before ⊢
      refine ⟨before.1, ?_⟩
      simp [setup.parseDate_toISOString _ _ time]
  | @restore agentId entryId index found deleted =>
    rcases mem_or_eq_of_mem_set mem with old | new
    · exact valid entry old
    · have before := valid _ (get_mem entries index)
      rw [new]
      simp only [isEntryValid, Bool.and_eq_true] at before ⊢
      exact ⟨before.1, rfl⟩
  | permanentlyDelete found deleted =>
    exact valid entry (mem_of_mem_eraseIdx mem)

end Change

section Runs

variable (setup : ProfileSetup)

theorem lawful_profileStore : (profileStore setup).Lawful (Valid setup)
    fun text => fileSize text ≤ maxFileSize where
  empty := by
    intro entry mem
    cases mem
  change := fun _ _ _ valid isChanged => (changed_iff.mp isChanged).valid valid
  decode := fun _ valid small => load_persisted valid small
  refuse := fun _ large => ⟨_, load_of_large large⟩

abbrev ProfileRun : LocalPersonalProfileStore → Prop := (profileStore setup).Run

def Reopens (store : LocalPersonalProfileStore) : Prop :=
  ∃ reopened, openStore setup store.file = .ok reopened ∧ ∀ agentId includeDeleted,
      list reopened.memory agentId includeDeleted = list store.memory agentId includeDeleted

def FileFits (store : LocalPersonalProfileStore) : Prop :=
  ∀ text, store.file = some text → fileSize text ≤ maxFileSize

variable {setup}

theorem reopens_iff {store : LocalPersonalProfileStore} (run : ProfileRun setup store) :
    Reopens setup store ↔ FileFits store := by
  have lawful := lawful_profileStore setup
  constructor
  · rintro ⟨reopened, opens, -⟩
    obtain ⟨valid, saved⟩ := lawful.saved_of_run run
    rcases lawful.reopen_of_saved valid saved with ⟨fits, -⟩ | ⟨-, problem, refused⟩
    · exact fits
    · rw [openStore, refused] at opens
      cases opens
  · intro fits
    obtain ⟨reopened, opens, same⟩ := (lawful.reopens_iff run).mpr fits
    exact ⟨reopened, opens, fun agentId includeDeleted => by rw [same]⟩

theorem perform_error {call : ProfileCall} {choice : ProfileChoice} {disk : Option String}
    {store after : LocalPersonalProfileStore} {message : String}
    (ran : perform setup call choice disk store = (.error message, after)) :
    after = store ↔ ¬ (disk.isSome ∧ Changes call choice store.memory) := by
  have differ : ∀ next, (profileStore setup).change (call, choice) store.memory =
      .ok (some next) → next ≠ store.memory :=
    fun next isChanged => (changed_iff.mp isChanged).ne
  rw [← exists_changed_iff]
  exact act_error_iff differ ran

/-- Whatever calls have returned normally, a new store lists the same entries exactly if the
file is not larger than 16 MiB; and a call that throws changes neither the entries nor the
file, exactly if it has not changed an entry that then could not be written. -/
theorem reopens_while_file_fits_and_errors_keep (setup : ProfileSetup) :
    (∀ store, ProfileRun setup store → (Reopens setup store ↔ FileFits store)) ∧
    ∀ call choice disk store message after,
      perform setup call choice disk store = (.error message, after) →
      (after = store ↔ ¬ (disk.isSome ∧ Changes call choice store.memory)) :=
  ⟨fun _ run => reopens_iff run, fun _ _ _ _ _ _ ran => perform_error ran⟩

end Runs

theorem length_le_fileSize (text : List Char) : text.length ≤ fileSize text := by
  induction text with
  | nil => exact Nat.zero_le _
  | cons char rest ih =>
    have split : String.ofList (char :: rest) = String.singleton char ++ String.ofList rest := by
      simp
    have here : 0 < (String.singleton char).utf8ByteSize := by
      simpa using Char.utf8Size_pos char
    rw [fileSize] at ih ⊢
    rw [split, String.utf8ByteSize_append, length_cons]
    omega

theorem sum_le_fileSize (ownerHash : String) (entries : Entries) :
    (entries.map fun entry => entry.content.toList.length).sum ≤
      fileSize (persisted ownerHash entries) := by
  have whole := length_le_fileSize (persisted ownerHash entries)
  have array : (indented 2 (.array (entries.map entryJson))).length ≤
      (indented 0 (stateJson ownerHash entries)).length :=
    @JsonValue.length_le_length_indented 0 _ ("entries", JsonValue.array (entries.map entryJson))
    (mem_of_getElem? (i := 2) (l := [("schemaVersion",
      JsonValue.text "longhub/local-personal-profile/v1"), ("ownerHash", .text ownerHash),
      ("entries", .array (entries.map entryJson))]) rfl)
  have items : ((entries.map entryJson).map fun item => (indented 4 item).length).sum ≤
      (indented 2 (.array (entries.map entryJson))).length :=
    sum_le_length_indented 2 (entries.map entryJson)
  have contents : (entries.map fun entry => entry.content.toList.length).sum ≤
      ((entries.map entryJson).map fun item => (indented 4 item).length).sum := by
    rw [map_map]
    apply sum_le_sum
    intro entry _
    have text := length_le_length_print_text entry.content
    have field := @JsonValue.length_le_length_indented 4 _ ("content", JsonValue.text entry.content)
      (mem_append_left
        (entry.deletedAt.map fun time => ("deletedAt", JsonValue.text time)).toList
        (mem_of_getElem? (i := 3) (l := [("entryId", JsonValue.text entry.entryId),
          ("agentId", .text entry.agentId), ("title", .text entry.title),
          ("content", .text entry.content), ("createdAt", .text entry.createdAt)]) rfl))
    exact le_trans text field
  have written : persisted ownerHash entries =
      indented 0 (stateJson ownerHash entries) ++ ['\n'] := by
    rw [persisted, NoCode.serialize, stringify, finite_stateJson]
  rw [written, length_append] at whole
  rw [written]
  omega

theorem exampleOwner_long : 8 ≤ utf16Length "user:0001" := by
  decide

def exampleSetup : ProfileSetup where
  node := composingNode
  owner := "user:0001"
  ownerLong := exampleOwner_long
  parseDate := parse
  parseDate_toISOString := fun _ _ written => parse_toISOString written

def exampleUuid (digit : Fin 10) : String :=
  "00000000-0000-4000-8000-00000000000" ++ toString digit.val

theorem idPattern_exampleUuid : ∀ digit, idPattern (exampleUuid digit) = true := by
  decide

def exampleChoice (index : Nat) : ProfileChoice :=
  ⟨exampleUuid (Fin.ofNat 10 index), idPattern_exampleUuid _, 0⟩

def exampleContent (size : Nat) : String := String.ofList (replicate size 'a')

def exampleCall (size : Nat) : ProfileCall := .add "agent-1" "会议纪要" (exampleContent size)

section Adds

variable {size : Nat}

theorem trimText_exampleContent : trimText (exampleContent size) = exampleContent size := by
  have visible : CloudSkillTables.isTrimmed 'a' = false := by decide
  have kept : (replicate size 'a').dropWhile CloudSkillTables.isTrimmed =
      replicate size 'a' := by
    cases size with
    | zero => rfl
    | succ size => simp [replicate_succ, visible]
  simp only [exampleContent, trimText, String.toList_ofList, kept, reverse_replicate]

theorem utf8ByteSize_exampleContent : (exampleContent size).utf8ByteSize = size := by
  rw [exampleContent, utf8ByteSize_ofList]
  · exact length_replicate
  · intro char mem
    rw [eq_of_mem_replicate mem]
    rfl

theorem change_exampleCall (present : 0 < size) (small : size ≤ maxContent)
    (choice : ProfileChoice) (now : choice.now = 0) (entries : Entries) :
    ∃ entry, entry.content = exampleContent size ∧
      Change choice entries (exampleCall size) (entries ++ [entry]) := by
  have agent : idPattern "agent-1" = true := by decide
  have valid : isContentValid (trimText "会议纪要") (trimText (exampleContent size)) = true := by
    have title : trimText "会议纪要" ≠ "" ∧ utf16Length (trimText "会议纪要") ≤ maxTitle := by
      decide
    have content : exampleContent size ≠ "" := by
      intro isEmpty
      have noBytes := @utf8ByteSize_exampleContent size
      rw [isEmpty, String.utf8ByteSize_empty] at noBytes
      omega
    rw [trimText_exampleContent]
    simp [isContentValid, title, content, utf8ByteSize_exampleContent, small]
  have time : toISOString choice.now = some (String.ofList (format 0)) := by
    rw [now]
    rfl
  exact ⟨⟨choice.uuid, "agent-1", trimText "会议纪要", trimText (exampleContent size), _, none⟩,
    trimText_exampleContent, .add agent valid time⟩

/-- Any number of entries are added. -/
theorem exists_run_of_adds (setup : ProfileSetup) (present : 0 < size) (small : size ≤ maxContent)
    (count : Nat) : ∃ store, ProfileRun setup store ∧ store.memory.length = count ∧
      ∀ entry ∈ store.memory, entry.content = exampleContent size := by
  induction count with
  | zero => exact ⟨(profileStore setup).blank, .refl, rfl, nofun⟩
  | succ count ih =>
    obtain ⟨store, run, length, contents⟩ := ih
    obtain ⟨entry, content, change⟩ :=
      change_exampleCall present small (exampleChoice count) rfl store.memory
    have isChanged := changed_iff.mpr change
    have steps : (profileStore setup).step store
        (.act (exampleCall size, exampleChoice count) none) =
        some ⟨store.memory ++ [entry],
          some (persisted setup.ownerHash (store.memory ++ [entry]))⟩ := by
      simp only [step, act, profileStore, isChanged]
    refine ⟨_, run.tail _ trivial steps, ?_, ?_⟩
    · rw [length_append, length, length_singleton]
    · intro other mem
      rcases mem_append.mp mem with old | new
      · exact contents other old
      · rw [mem_singleton.mp new]
        exact content

theorem sum_contents {entries : Entries}
    (contents : ∀ entry ∈ entries, entry.content = exampleContent size) :
    (entries.map fun entry => entry.content.toList.length).sum = entries.length * size := by
  have each : (entries.map fun entry => entry.content.toList.length) =
      replicate entries.length size := by
    rw [eq_replicate_iff]
    refine ⟨length_map _, ?_⟩
    intro length mem
    obtain ⟨entry, inside, rfl⟩ := mem_map.mp mem
    rw [contents entry inside, exampleContent, String.toList_ofList, length_replicate]
  rw [each, sum_replicate]
  rfl

end Adds

/-- After nine entries of the largest size no store takes the file; and an entry that could
not be written stays in the memory. -/
theorem not_reopened_when_large_and_not_kept :
    (¬ ∀ store, ProfileRun exampleSetup store → Reopens exampleSetup store) ∧
    ¬ ∀ call choice disk store message after,
      perform exampleSetup call choice disk store = (.error message, after) → after = store := by
  constructor
  · intro always
    obtain ⟨size, present, small, large⟩ :
        ∃ size, 0 < size ∧ size ≤ maxContent ∧ maxFileSize < 9 * size :=
      ⟨maxContent, by decide, le_refl _, by decide⟩
    obtain ⟨store, run, length, contents⟩ := exists_run_of_adds exampleSetup present small 9
    have fits := (reopens_iff run).mp (always store run)
    obtain ⟨-, saved⟩ := (lawful_profileStore exampleSetup).saved_of_run run
    have bytes := sum_le_fileSize exampleSetup.ownerHash store.memory
    rw [sum_contents contents, length] at bytes
    rcases saved with ⟨-, isEmpty⟩ | written
    · rw [isEmpty] at length
      cases length
    · have taken := fits _ written
      exact absurd (le_trans bytes taken) (Nat.not_le.mpr large)
  · intro always
    have small : 1 ≤ maxContent := by decide
    obtain ⟨entry, -, change⟩ := change_exampleCall Nat.one_pos small (exampleChoice 0) rfl []
    have changes := exists_changed_iff.mp ⟨_, changed_iff.mpr change⟩
    have ran : perform exampleSetup (exampleCall 1) (exampleChoice 0) (some "ENOSPC")
        (profileStore exampleSetup).blank = (.error "ENOSPC", ⟨[entry], none⟩) := by
      have isChanged := changed_iff.mpr change
      simp only [perform, act, blank, profileStore, isChanged]
      rfl
    exact (perform_error ran).mp (always _ _ _ _ _ _ ran) ⟨rfl, changes⟩

theorem reopens_while_file_fits_and_errors_keep_example :
    (∃ store, ProfileRun exampleSetup store ∧ store.memory.length = 1 ∧
      (Reopens exampleSetup store ↔ FileFits store)) ∧
    ∃ message after, perform exampleSetup (.add "agent-1" "" "a") (exampleChoice 0) none
        (profileStore exampleSetup).blank = (.error message, after) ∧
      (after = (profileStore exampleSetup).blank ↔
        ¬ ((none : Option String).isSome ∧
          Changes (.add "agent-1" "" "a") (exampleChoice 0) [])) := by
  obtain ⟨reopens, keeps⟩ := reopens_while_file_fits_and_errors_keep exampleSetup
  constructor
  · have small : 1 ≤ maxContent := by decide
    obtain ⟨store, run, length, -⟩ := exists_run_of_adds exampleSetup Nat.one_pos small 1
    exact ⟨store, run, length, reopens store run⟩
  · have refused : changed (.add "agent-1" "" "a") (exampleChoice 0) [] = .error "本地资料标题或内容无效" := by
      have agent : idPattern "agent-1" = true := by decide
      have noTitle : isContentValid (trimText "") (trimText "a") = false := by decide
      simp only [changed, assertAgent, agent, noTitle, Except.ensure, bind, Except.bind]
      rfl
    have ran : perform exampleSetup (.add "agent-1" "" "a") (exampleChoice 0) none
        (profileStore exampleSetup).blank =
          (.error "本地资料标题或内容无效", (profileStore exampleSetup).blank) := by
      simp only [perform, act, blank, profileStore, refused]
    exact ⟨_, _, ran, keeps _ _ _ _ _ _ ran⟩

end LocalProfile

end LongHub
