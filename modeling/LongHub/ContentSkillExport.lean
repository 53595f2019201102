import LongHub.JsValue
import LongHub.NoCodeContent

/-!
# Exported Content Skills

A Skill is exported as indented JSON and imported from a text of at most 512 KiB. Its limits are on
the texts that it contains, and JSON writes control characters and lone surrogates with six bytes.
-/

namespace LongHub

open JsonValue (IsSpace)
open Char JsText JsValue List
open JsText (ofString)
open ManagerUpdate (byteCount byteCount_append byteCount_cons byteCount_singleton)
open NoCode (containsForbidden foldCase isForbidden skillFieldsInvalid startsCall startsForbidden
  userIdPattern)

namespace ContentSkillExport

structure UserContentSkill where
  source : JsText
  id : JsText
  name : JsText
  description : JsText
  instructions : JsText
  examples : List JsText

/-- The keys in order, with bars between them. -/
def joinedKeys (keys : List JsText) : JsText :=
  (ofString "|").intercalate (keys.insertionSort fun one other => one ≤ other)

def hasExactKeys (fields : List (JsText × JsValue)) (expected : List String) : Bool :=
  joinedKeys (fields.map Prod.fst) = joinedKeys (expected.map ofString)

def field (fields : List (JsText × JsValue)) (name : String) : Option JsValue :=
  fields.lookup (ofString name)

def isFilledText (text : JsText) (most : Nat) : Bool :=
  trimText text.toWellFormed ≠ "" && text.length ≤ most

def textsOf (items : List JsValue) : Option (List JsText) :=
  items.mapM fun
    | .text content => some content
    | _ => none

def skillIdentity (fields : List (JsText × JsValue)) : Option (JsText × JsText × JsText) :=
  match field fields "id", field fields "name", field fields "description" with
  | some (.text id), some (.text name), some (.text description) =>
    if hasExactKeys fields ["id", "name", "description"] ∧
        userIdPattern "user.skill." id.toWellFormed ∧ isFilledText name 80 ∧
        description.length ≤ 500 then
      some (id, name, description)
    else none
  | _, _, _ => none

def parseUserContentSkill (input : JsValue) : Except String UserContentSkill :=
  match input with
  | .record fields =>
    if hasExactKeys fields
        ["schemaVersion", "source", "skill", "instructions", "examples", "permissions"] then
      match field fields "schemaVersion", field fields "source", field fields "skill",
        field fields "instructions", field fields "examples", field fields "permissions" with
      | some (.text schema), some (.text source), some (.record skill),
          some (.text instructions), some (.array examples), some (.array permissions) =>
          match skillIdentity skill, textsOf examples with
          | some (id, name, description), some examples =>
            if schema = ofString "longhub/user-content-skill/v1" ∧
                source ∈ [ofString "user_local", ofString "openclaw_import"] ∧
                trimText instructions.toWellFormed ≠ "" ∧
                instructions.toWellFormed.utf8ByteSize ≤ 256 * 1024 ∧ examples.length ≤ 10 ∧
                (∀ item ∈ examples, isFilledText item 300) ∧ permissions.length = 0 then
              if isForbidden instructions.toWellFormed then
                .error "用户 Content Skill 包含可执行或远程加载内容"
              else .ok ⟨source, id, name, description, instructions, examples⟩
            else .error skillFieldsInvalid
          | _, _ => .error skillFieldsInvalid
      | _, _, _, _, _, _ => .error skillFieldsInvalid
    else .error "用户 Content Skill 格式无效"
  | _ => .error "用户 Content Skill 格式无效"

/-- An accepted value, with the fields of its objects in the order in which it keeps them. -/
structure StoredSkill where
  value : JsValue
  content : UserContentSkill
  accepted : parseUserContentSkill value = .ok content

def identityFields (skill : UserContentSkill) : List (JsText × JsValue) :=
  [(ofString "id", .text skill.id), (ofString "name", .text skill.name),
    (ofString "description", .text skill.description)]

def contentSkillFields (skill : UserContentSkill) : List (JsText × JsValue) :=
  [(ofString "schemaVersion", .text (ofString "longhub/user-content-skill/v1")),
    (ofString "source", .text skill.source), (ofString "skill", .record (identityFields skill)),
    (ofString "instructions", .text skill.instructions),
    (ofString "examples", .array (skill.examples.map .text)),
    (ofString "permissions", .array [])]

def contentSkillJson (skill : UserContentSkill) : JsValue := .record (contentSkillFields skill)

def createUserContentSkill (uuid : String) (source name description instructions : JsText)
    (examples : List JsText) : Except String UserContentSkill :=
  parseUserContentSkill (contentSkillJson
    ⟨source, ofString ("user.skill." ++ uuid), name, description, instructions, examples⟩)

def exportUserContentSkill (skill : StoredSkill) : List Char :=
  stringify (some 0) skill.value ++ ['\n']

def importUserContentSkill (uuid : String) (serialized : List Char) :
    Except String UserContentSkill := do
  if byteCount serialized > 512 * 1024 then .error "用户 Content Skill 导入包过大"
  else
    let input ← Except.require (JsValue.parse serialized) "JSON 无效"
    let parsed ← parseUserContentSkill input
    createUserContentSkill uuid parsed.source parsed.name parsed.description parsed.instructions
      parsed.examples

/-- The objects of an exported value keep their fields as JavaScript does. -/
structure ExportedSkill extends StoredSkill where
  normal : value.normalize = value

structure SkillUuid where
  text : String
  pattern : userIdPattern "user.skill." ("user.skill." ++ text) = true

def SurvivesExport (skill : ExportedSkill) (uuid : SkillUuid) : Prop :=
  importUserContentSkill uuid.text (exportUserContentSkill skill.toStoredSkill) =
    .ok { skill.content with id := ofString ("user.skill." ++ uuid.text) }

/-! ## What is accepted is made of texts -/

theorem length_joined (keys : List JsText) :
    ((ofString "|").intercalate keys).length =
      (keys.map fun key => key.length + 1).sum - 1 := by
  have bar : (ofString "|").length = 1 := by decide
  induction keys with
  | nil => rfl
  | cons key keys ih =>
    cases keys with
    | nil => simp [intercalate_singleton]
    | cons next keys =>
      rw [intercalate_cons_cons, length_append, length_append, ih, bar]
      simp only [map_cons, sum_cons]
      omega

theorem length_joinedKeys (keys : List JsText) :
    (joinedKeys keys).length = (keys.map fun key => key.length + 1).sum - 1 := by
  rw [joinedKeys, length_joined, ((perm_insertionSort _ keys).map _).sum_eq]

/-- Names that are all there leave no room for others. -/
theorem keys_perm {fields : List (JsText × JsValue)} {first : String} {others : List String}
    (exactly : hasExactKeys fields (first :: others) = true)
    (distinct : ((first :: others).map ofString).Nodup)
    (present : ∀ name ∈ first :: others, ∃ value, field fields name = some value) :
    (fields.map Prod.fst).Perm ((first :: others).map ofString) := by
  have within : (first :: others).map ofString ⊆ fields.map Prod.fst := by
    intro key mem
    obtain ⟨name, nameIn, rfl⟩ := mem_map.mp mem
    obtain ⟨value, found⟩ := present name nameIn
    obtain ⟨before, after, split, -⟩ := lookup_eq_some_iff.mp found
    exact mem_map.mpr ⟨(ofString name, value), by rw [split]; simp, rfl⟩
  obtain ⟨same, perm, sub⟩ := distinct.subperm within
  obtain ⟨rest, split⟩ := sub.exists_perm_append
  have keys := split.trans (perm.append_right rest)
  have lengths := congrArg length (of_decide_eq_true exactly)
  rw [length_joinedKeys, length_joinedKeys, (keys.map _).sum_eq, map_append, sum_append] at lengths
  cases rest with
  | nil => simpa using keys
  | cons key rest =>
    simp only [map_cons, sum_cons] at lengths
    omega

theorem value_of_field {fields : List (JsText × JsValue)} {names : List String}
    (perm : (fields.map Prod.fst).Perm (names.map ofString)) (distinct : (names.map ofString).Nodup)
    {key : JsText} {value : JsValue} (mem : (key, value) ∈ fields) :
    ∃ name ∈ names, field fields name = some value := by
  obtain ⟨name, nameIn, rfl⟩ := mem_map.mp (perm.mem_iff.mp (mem_map_of_mem (f := Prod.fst) mem))
  refine ⟨name, nameIn, ?_⟩
  have nodup := perm.nodup_iff.mpr distinct
  obtain ⟨before, after, rfl⟩ := append_of_mem mem
  refine lookup_eq_some_iff.mpr ⟨before, after, rfl, fun other otherIn => ?_⟩
  rw [map_append, map_cons, nodup_append] at nodup
  exact bne_iff_ne.mpr (nodup.2.2 _ (mem_map_of_mem otherIn) _ mem_cons_self).symm

theorem textual_of_textsOf {items : List JsValue} {texts : List JsText}
    (read : textsOf items = some texts) : ∀ item ∈ items, Textual item := by
  induction items generalizing texts with
  | nil => simp
  | cons item rest ih =>
    simp only [textsOf, mapM_cons, Option.bind_eq_bind, Option.bind_eq_some_iff] at read
    obtain ⟨text, isText, others, readRest, -⟩ := read
    rw [forall_mem_cons]
    refine ⟨?_, ih readRest⟩
    split at isText
    · exact .text _
    · cases isText

theorem textual_of_skillIdentity {fields : List (JsText × JsValue)}
    {identity : JsText × JsText × JsText} (read : skillIdentity fields = some identity) :
    Textual (.record fields) := by
  unfold skillIdentity at read
  split at read
  · next id name description isId isName isDescription =>
    split_ifs at read with conditions
    have distinct : (["id", "name", "description"].map ofString).Nodup := by decide
    have perm := keys_perm conditions.1 distinct (by simp [isId, isName, isDescription])
    refine .record _ fun (key, value) mem => ?_
    obtain ⟨field, isField, found⟩ := value_of_field perm distinct mem
    simp only [mem_cons, not_mem_nil, or_false] at isField
    rcases isField with rfl | rfl | rfl
    · cases found.symm.trans isId
      exact .text _
    · cases found.symm.trans isName
      exact .text _
    · cases found.symm.trans isDescription
      exact .text _
  · cases read

structure Acceptable (skill : UserContentSkill) : Prop where
  id : userIdPattern "user.skill." skill.id.toWellFormed = true
  name : isFilledText skill.name 80 = true
  description : skill.description.length ≤ 500
  source : skill.source ∈ [ofString "user_local", ofString "openclaw_import"]
  instructions : trimText skill.instructions.toWellFormed ≠ ""
  size : skill.instructions.toWellFormed.utf8ByteSize ≤ 256 * 1024
  fewExamples : skill.examples.length ≤ 10
  examples : ∀ item ∈ skill.examples, isFilledText item 300 = true
  allowed : isForbidden skill.instructions.toWellFormed = false

theorem acceptable_of_ok {value : JsValue} {skill : UserContentSkill}
    (accepted : parseUserContentSkill value = .ok skill) : Acceptable skill ∧ Textual value := by
  unfold parseUserContentSkill at accepted
  split at accepted
  · next fields =>
    split_ifs at accepted with exactly
    split at accepted
    · next isSchema isSource isSkill isInstructions isExamples isPermissions =>
      split at accepted
      · next identity texts identityRead textsRead =>
        split_ifs at accepted with conditions forbidden
        cases accepted
        obtain ⟨-, source, instructions, size, few, examples, none⟩ := conditions
        have textual := textual_of_skillIdentity identityRead
        constructor
        · unfold skillIdentity at identityRead
          split at identityRead
          · split_ifs at identityRead with identified
            cases identityRead
            obtain ⟨-, id, name, description⟩ := identified
            exact ⟨id, name, description, source, instructions, size, few, examples,
              Bool.eq_false_iff.mpr forbidden⟩
          · cases identityRead
        · have distinct : (["schemaVersion", "source", "skill", "instructions", "examples",
              "permissions"].map ofString).Nodup := by decide
          have perm := keys_perm exactly distinct (by
            simp [isSchema, isSource, isSkill, isInstructions, isExamples, isPermissions])
          refine .record _ fun (key, value) mem => ?_
          obtain ⟨field, isField, found⟩ := value_of_field perm distinct mem
          simp only [mem_cons, not_mem_nil, or_false] at isField
          rcases isField with rfl | rfl | rfl | rfl | rfl | rfl
          · cases found.symm.trans isSchema
            exact .text _
          · cases found.symm.trans isSource
            exact .text _
          · cases found.symm.trans isSkill
            exact textual
          · cases found.symm.trans isInstructions
            exact .text _
          · cases found.symm.trans isExamples
            exact .array _ (textual_of_textsOf textsRead)
          · cases found.symm.trans isPermissions
            rw [length_eq_zero_iff.mp none]
            exact .array _ (by simp)
      · cases accepted
    · cases accepted
  · cases accepted

theorem textsOf_texts (texts : List JsText) : textsOf (texts.map .text) = some texts := by
  induction texts with
  | nil => rfl
  | cons text rest ih =>
    unfold textsOf at ih ⊢
    rw [map_cons, mapM_cons, ih]
    rfl

theorem parse_contentSkillJson {skill : UserContentSkill} (acceptable : Acceptable skill) :
    parseUserContentSkill (contentSkillJson skill) = .ok skill := by
  have identity : skillIdentity (identityFields skill) =
      some (skill.id, skill.name, skill.description) := by
    have keys : hasExactKeys (identityFields skill) ["id", "name", "description"] = true :=
      decide_eq_true rfl
    simp only [skillIdentity, keys, true_and]
    simp [identityFields, field, lookup_cons, acceptable.id, acceptable.name,
      acceptable.description]
  have keys : hasExactKeys (contentSkillFields skill)
      ["schemaVersion", "source", "skill", "instructions", "examples", "permissions"] = true :=
    decide_eq_true rfl
  rw [contentSkillJson, parseUserContentSkill, if_pos keys]
  simp only [contentSkillFields, field, lookup_cons, ofString_beq, String.reduceBEq,
    identity, textsOf_texts, acceptable.instructions, acceptable.size, acceptable.fewExamples,
    acceptable.source, acceptable.allowed, ne_eq, not_false_eq_true, true_and, and_true, length_nil]
  rw [if_pos acceptable.examples]
  rfl

variable {skill : ExportedSkill} {uuid : SkillUuid}

theorem byteCount_export (skill : StoredSkill) :
    byteCount (exportUserContentSkill skill) = size (some 0) skill.value + 1 := by
  have lineEnd : '\n'.utf8Size = 1 := rfl
  rw [exportUserContentSkill, byteCount_append, byteCount_stringify, byteCount_singleton, lineEnd]

theorem not_survivesExport (large : 512 * 1024 ≤ size (some 0) skill.value) :
    ¬ SurvivesExport skill uuid := by
  intro survives
  unfold SurvivesExport importUserContentSkill at survives
  rw [byteCount_export, if_pos (by omega)] at survives
  cases survives

theorem survivesExport (small : size (some 0) skill.value < 512 * 1024) :
    SurvivesExport skill uuid := by
  obtain ⟨acceptable, textual⟩ := acceptable_of_ok skill.accepted
  have renamed : Acceptable { skill.content with id := ofString ("user.skill." ++ uuid.text) } :=
    { acceptable with id := by rw [toWellFormed_ofString]; exact uuid.pattern }
  have lineSpace : IsSpace ['\n'] := by
    intro char mem
    rw [mem_singleton.mp mem]
    rfl
  unfold SurvivesExport importUserContentSkill
  rw [byteCount_export, if_neg (by omega), exportUserContentSkill,
    parse_stringify textual skill.normal lineSpace]
  simp only [Except.require, bind, Except.bind, skill.accepted]
  exact parse_contentSkillJson renamed

/-- A Skill can be imported again exactly if its JSON is shorter than 512 KiB. -/
theorem survivesExport_iff (skill : ExportedSkill) (uuid : SkillUuid) :
    SurvivesExport skill uuid ↔ size (some 0) skill.value < 512 * 1024 := by
  constructor
  · intro survives
    exact Nat.lt_of_not_le fun large => not_survivesExport large survives
  · exact survivesExport

/-- So many characters that JSON writes with six bytes. -/
def controls (count : Nat) : String := String.ofList (replicate count (ofNat 1))

theorem trimText_controls (count : Nat) : trimText (controls count) = controls count := by
  have visible : CloudSkillTables.isTrimmed (ofNat 1) = false := by decide
  have kept : (replicate count (ofNat 1)).dropWhile CloudSkillTables.isTrimmed =
      replicate count (ofNat 1) := by
    cases count with
    | zero => rfl
    | succ count => simp [replicate_succ, visible]
  simp only [controls, trimText, String.toList_ofList, kept, reverse_replicate]

theorem isForbidden_controls (count : Nat) : isForbidden (controls count) = false := by
  have each : ∀ before, containsForbidden before (replicate count (ofNat 1)) = false := by
    induction count with
    | zero => exact fun _ => rfl
    | succ count ih =>
      intro before
      rw [replicate_succ, containsForbidden, ih, Bool.or_false]
      simp only [startsForbidden, startsCall, Bool.or_eq_false_iff, Bool.and_eq_false_iff,
        List.any_cons, List.any_nil, Bool.or_false]
      exact ⟨⟨⟨.inl rfl, .inl (.inr rfl)⟩, .inl (.inr rfl)⟩, rfl, rfl, rfl, rfl, rfl, rfl, rfl⟩
  have folded : foldCase (ofNat 1) = ofNat 1 := by decide
  rw [isForbidden, controls, String.toList_ofList, map_replicate, folded]
  exact each none

theorem textSize_controls (count : Nat) : textSize (ofString (controls count)) = 6 * count + 2 := by
  have six : byteCount (JsonText.escape (ofNat 1)) = 6 := by decide
  simp only [textSize, points_ofString, controls, String.toList_ofList, map_replicate,
    CodePoint.escape, six, sum_replicate_nat]
  omega

theorem utf8ByteSize_controls (count : Nat) : (controls count).utf8ByteSize = count := by
  have one : (ofNat 1).utf8Size = 1 := rfl
  change byteCount (replicate count (ofNat 1)) = count
  induction count with
  | zero => rfl
  | succ count ih => rw [replicate_succ, byteCount_cons, ih, one, Nat.add_comm]

def controlSkill (count : Nat) : UserContentSkill :=
  ⟨ofString "user_local", ofString "user.skill.00000000-0000-4000-8000-000000000000",
    ofString "Controls", [], ofString (controls count), []⟩

theorem acceptable_controlSkill {count : Nat} (some : 0 < count) (fits : count ≤ 256 * 1024) :
    Acceptable (controlSkill count) where
  id := by
    rw [controlSkill, toWellFormed_ofString]
    decide
  name := by
    change isFilledText (ofString "Controls") 80 = true
    decide
  description := Nat.zero_le _
  source := mem_cons_self
  instructions := by
    intro empty
    have size := utf8ByteSize_controls count
    rw [controlSkill, toWellFormed_ofString, trimText_controls] at empty
    rw [empty] at size
    exact some.ne size
  size := by rwa [controlSkill, toWellFormed_ofString, utf8ByteSize_controls]
  fewExamples := Nat.zero_le _
  examples := by simp [controlSkill]
  allowed := by
    rw [controlSkill, toWellFormed_ofString]
    exact isForbidden_controls _

theorem normalize_contentSkillJson (skill : UserContentSkill) (noExamples : skill.examples = []) :
    (contentSkillJson skill).normalize = contentSkillJson skill := by
  have identity := @objectOf_of_names (identityFields skill)
    (["id", "name", "description"].map ofString) rfl (by decide) (by decide)
  have record := @objectOf_of_names (contentSkillFields skill)
    (["schemaVersion", "source", "skill", "instructions", "examples", "permissions"].map ofString)
    rfl (by decide) (by decide)
  simp only [contentSkillFields, identityFields, noExamples, map_nil] at identity record
  simp [contentSkillJson, contentSkillFields, identityFields, JsValue.normalize, normalizeFields,
    normalizeItems, noExamples, identity, record]

/-- Instructions within their limit of 256 KiB are more than 512 KiB of JSON. -/
theorem not_survivesExport_controlSkill :
    ¬ ∀ (skill : ExportedSkill) (uuid : SkillUuid), SurvivesExport skill uuid := by
  intro survives
  obtain ⟨count, many, fits⟩ : ∃ count, 512 * 1024 ≤ 6 * count ∧ count ≤ 256 * 1024 :=
    ⟨100000, by decide, by decide⟩
  have parsed := parse_contentSkillJson (acceptable_controlSkill (by omega) fits)
  have survived := survives ⟨⟨_, _, parsed⟩, normalize_contentSkillJson _ rfl⟩
    ⟨"00000000-0000-4000-8000-000000000001", by decide⟩
  refine not_survivesExport ?_ survived
  have controlSize := textSize_controls count
  simp [contentSkillJson, contentSkillFields, controlSkill, size, fieldsSize, controlSize]
  omega

end ContentSkillExport

end LongHub
