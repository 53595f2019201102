import LongHub.WorkflowEngine
import LongHub.JsonFinite

/-!
# The contents of the no-code workspace

The user's own Content Skills and the overlays of Agents, with their strict parsers.
-/

namespace LongHub

open BoundedWorkflow JsonValue List Option

structure Stored {α : Type} (parse : JsonValue → Except String α) where
  value : JsonValue
  content : α
  accepted : parse value = .ok content

def Stored.of {α : Type} (parse : JsonValue → Except String α) (value : JsonValue) :
    Except String (Stored parse) :=
  match accepted : parse value with
  | .ok content => .ok ⟨value, content, accepted⟩
  | .error message => .error message

variable {α : Type} {value : JsonValue}

variable {parse : JsonValue → Except String α}

theorem Stored.of_eq_ok {content : α} (accepted : parse value = .ok content) :
    Stored.of parse value = .ok ⟨value, content, accepted⟩ := by
  unfold Stored.of
  split
  · rename_i other found
    have same : other = content := Except.ok.inj (found.symm.trans accepted)
    subst same
    rfl
  · rename_i message found
    exact absurd (found.symm.trans accepted) (by simp)

theorem Stored.of_eq_error {message : String}
    (refused : parse value = .error message) : Stored.of parse value = .error message := by
  unfold Stored.of
  split
  · rename_i content found
    exact absurd (found.symm.trans refused) (by simp)
  · rename_i other found
    rw [Except.error.inj (found.symm.trans refused)]

theorem Stored.value_of {stored : Stored parse}
    (kept : Stored.of parse value = .ok stored) : stored.value = value := by
  unfold Stored.of at kept
  split at kept
  · rw [← Except.ok.inj kept]
  · cases kept

structure UserContentSkill where
  source : String
  id : String
  name : String
  description : String
  instructions : String
  examples : List String
  deriving DecidableEq

namespace NoCode

def userIdPattern (marker : String) (text : String) : Bool :=
  let chars := text.toList.map Char.toLower
  let rest := chars.drop marker.toList.length
  marker.toList.isPrefixOf chars && rest.length = 36 &&
    rest.all fun char => char.isDigit || char ∈ ['a', 'b', 'c', 'd', 'e', 'f', '-']

/-- The case of a letter does not count; two letters outside ASCII are folded into it. -/
def foldCase (char : Char) : Char :=
  if char.toNat = 0x17f then 's' else if char.toNat = 0x212a then 'k' else char.toLower

def isWordChar (char : Char) : Bool := char.isAlphanum || char = '_'

/-- No word goes on here. -/
def isBoundary (next : Option Char) : Bool := next.all fun char => !isWordChar char

def startsCall (name : String) (before : Option Char) (text : List Char) : Bool :=
  isBoundary before && name.toList.isPrefixOf text &&
    ((text.drop name.toList.length).dropWhile CloudSkillTables.isTrimmed).head? = some '('

/-- One of the alternatives of the pattern of forbidden contents begins here. -/
def startsForbidden (before : Option Char) (text : List Char) : Bool :=
  ("<script".toList.isPrefixOf text && isBoundary (text.drop 7).head?) ||
    startsCall "eval" before text || startsCall "exec" before text ||
    ["javascript:", "powershell", "child_process", "mcpserver", "pluginpath", "http://",
      "https://"].any fun marker => marker.toList.isPrefixOf text

def containsForbidden : Option Char → List Char → Bool
  | _, [] => false
  | before, char :: rest =>
    startsForbidden before (char :: rest) || containsForbidden (some char) rest

/-- The pattern of executable contents and of contents that are loaded from elsewhere. -/
def isForbidden (instructions : String) : Bool :=
  containsForbidden none (instructions.toList.map foldCase)

def textsOf (items : List JsonValue) : Option (List String) :=
  items.mapM fun
    | .text content => some content
    | _ => none

def skillFieldsInvalid : String := "用户 Content Skill 字段无效"

def skillIdentity (fields : List (String × JsonValue)) : Option (String × String × String) :=
  match fields.lookup "id", fields.lookup "name", fields.lookup "description" with
  | some (.text id), some (.text name), some (.text description) =>
    if hasExactKeys fields ["id", "name", "description"] ∧ userIdPattern "user.skill." id ∧
        isFilledText name 80 ∧ utf16Length description ≤ 500 then
      some (id, name, description)
    else none
  | _, _, _ => none

def parseUserContentSkill (input : JsonValue) : Except String UserContentSkill :=
  match input with
  | .record fields =>
    if hasExactKeys fields
        ["schemaVersion", "source", "skill", "instructions", "examples", "permissions"] then
      match fields.lookup "schemaVersion", fields.lookup "source", fields.lookup "skill",
        fields.lookup "instructions", fields.lookup "examples", fields.lookup "permissions" with
      | some (.text schema), some (.text source), some (.record skill),
          some (.text instructions), some (.array examples), some (.array permissions) =>
          match skillIdentity skill, textsOf examples with
          | some (id, name, description), some examples =>
            if schema = "longhub/user-content-skill/v1" ∧
                source ∈ ["user_local", "openclaw_import"] ∧ trimText instructions ≠ "" ∧
                instructions.utf8ByteSize ≤ 256 * 1024 ∧ examples.length ≤ 10 ∧
                (∀ item ∈ examples, isFilledText item 300) ∧
                permissions = [] then
              if isForbidden instructions then
                .error "用户 Content Skill 包含可执行或远程加载内容"
              else .ok ⟨source, id, name, description, instructions, examples⟩
            else .error skillFieldsInvalid
          | _, _ => .error skillFieldsInvalid
      | _, _, _, _, _, _ => .error skillFieldsInvalid
    else .error "用户 Content Skill 格式无效"
  | _ => .error "用户 Content Skill 格式无效"

def contentSkillJson (skill : UserContentSkill) : JsonValue :=
  .record [("schemaVersion", .text "longhub/user-content-skill/v1"), ("source", .text skill.source),
    ("skill", .record [("id", .text skill.id), ("name", .text skill.name),
      ("description", .text skill.description)]),
    ("instructions", .text skill.instructions),
    ("examples", .array (skill.examples.map .text)),
    ("permissions", .array [])]

abbrev StoredSkill := Stored parseUserContentSkill

def createUserContentSkill (uuid source name description instructions : String)
    (examples : List String) : Except String StoredSkill :=
  Stored.of parseUserContentSkill (contentSkillJson
    ⟨source, "user.skill." ++ uuid, name, description, instructions, examples⟩)

/-- `JSON.stringify` with an indentation, and the end of the line. -/
def serialize (value : JsonValue) : List Char := value.stringify ++ ['\n']

def exportUserContentSkill (skill : StoredSkill) : List Char := serialize skill.value

def importUserContentSkill (uuid serialized : String) : Except String StoredSkill := do
  if serialized.utf8ByteSize > 512 * 1024 then .error "用户 Content Skill 导入包过大"
  else
    let input ← Except.require (JsonValue.parse serialized.toList) "JSON 无效"
    let parsed ← parseUserContentSkill input
    createUserContentSkill uuid parsed.source parsed.name parsed.description parsed.instructions
      parsed.examples

end NoCode

structure NoCodeAgentOverlay where
  overlayId : String
  baseProfileId : String
  targetAgentId : String
  name : String
  description : String
  language : String
  tone : String
  personalEntryIds : List String
  skillIds : List String

namespace NoCode

mutual

def stringOf : JsonValue → String
  | .null => "null"
  | .bool value => if value then "true" else "false"
  | .number literal => literal
  | .text content => content
  | .array items => ",".intercalate (stringsOf items)
  | .record _ => "[object Object]"

def stringsOf : List JsonValue → List String
  | [] => []
  | .null :: rest => "" :: stringsOf rest
  | item :: rest => stringOf item :: stringsOf rest

end

/-- The ids of Agents, of profiles, of Skills and of personal entries. -/
def idPattern : String → Bool :=
  let allowed := fun char : Char => BoundedWorkflow.isIdChar char || char = ':'
  matchesClasses allowed allowed 0 159

def overlayFieldsInvalid : String := "无代码 Agent 覆盖层字段无效"

def preferencesOf (fields : List (String × JsonValue)) : Option (String × String) :=
  match fields.lookup "language", fields.lookup "tone" with
  | some language, some tone =>
    if hasExactKeys fields ["language", "tone"] ∧ stringOf language ∈ ["zh-CN", "en-US"] ∧
        stringOf tone ∈ ["concise", "balanced", "detailed"] then
      some (stringOf language, stringOf tone)
    else none
  | _, _ => none

def idsOf (items : List JsonValue) : Option (List String) :=
  (textsOf items).filter fun ids => ids.length ≤ 32 ∧ (∀ id ∈ ids, idPattern id) ∧ ids.Nodup

def parseNoCodeAgentOverlay (input : JsonValue) : Except String NoCodeAgentOverlay :=
  match input with
  | .record fields =>
    if hasExactKeys fields ["schemaVersion", "overlayId", "baseProfileId", "targetAgentId",
        "name", "description", "preferences", "personalEntryIds", "skillIds"] then
      match fields.lookup "schemaVersion", fields.lookup "overlayId",
        fields.lookup "baseProfileId", fields.lookup "targetAgentId", fields.lookup "name",
        fields.lookup "description", fields.lookup "preferences",
        fields.lookup "personalEntryIds", fields.lookup "skillIds" with
      | some (.text schema), some (.text overlayId), some (.text baseProfileId),
          some (.text targetAgentId), some (.text name), some (.text description),
          some (.record preferences), some (.array personalEntryIds),
          some (.array skillIds) =>
          match preferencesOf preferences, idsOf personalEntryIds, idsOf skillIds with
          | some (language, tone), some personalEntryIds, some skillIds =>
            if schema = "longhub/nocode-agent-overlay/v1" ∧
                userIdPattern "user.agent." overlayId ∧ idPattern baseProfileId ∧
                idPattern targetAgentId ∧ isFilledText name 80 ∧
                utf16Length description ≤ 500 then
              .ok ⟨overlayId, baseProfileId, targetAgentId, name, description, language, tone,
                personalEntryIds, skillIds⟩
            else .error overlayFieldsInvalid
          | _, _, _ => .error overlayFieldsInvalid
      | _, _, _, _, _, _, _, _, _ => .error overlayFieldsInvalid
    else .error "无代码 Agent 覆盖层格式无效"
  | _ => .error "无代码 Agent 覆盖层格式无效"

def overlayJson (overlay : NoCodeAgentOverlay) : JsonValue :=
  .record [("schemaVersion", .text "longhub/nocode-agent-overlay/v1"),
    ("overlayId", .text overlay.overlayId),
    ("baseProfileId", .text overlay.baseProfileId),
    ("targetAgentId", .text overlay.targetAgentId),
    ("name", .text overlay.name),
    ("description", .text overlay.description),
    ("preferences", .record [("language", .text overlay.language), ("tone", .text overlay.tone)]),
    ("personalEntryIds", .array (overlay.personalEntryIds.map .text)),
    ("skillIds", .array (overlay.skillIds.map .text))]

abbrev StoredOverlay := Stored parseNoCodeAgentOverlay

def createNoCodeAgentOverlay (overlay : NoCodeAgentOverlay) : Except String StoredOverlay :=
  Stored.of parseNoCodeAgentOverlay (overlayJson overlay)

section ReadBack

variable {fields : List (String × JsonValue)} {items : List JsonValue} {expected : List String}

theorem hasExactKeys_finite :
    hasExactKeys (fields.map fun field => (field.1, field.2.finite)) expected =
      hasExactKeys fields expected := by
  unfold hasExactKeys
  rw [map_fst_finite]

variable {texts : List String}

theorem eq_of_textsOf (read : textsOf items = some texts) : items = texts.map .text := by
  induction items generalizing texts with
  | nil =>
    cases read
    rfl
  | cons item rest ih =>
    simp only [textsOf, mapM_cons, bind_eq_bind, bind_eq_some_iff] at read
    obtain ⟨text, isText, others, readRest, equal⟩ := read
    rw [← Option.some.inj equal, map_cons, ih readRest]
    congr 1
    split at isText
    · rw [Option.some.inj isText]
    · cases isText

theorem map_finite_of_textsOf (read : textsOf items = some texts) : items.map finite = items := by
  rw [eq_of_textsOf read, List.map_map]
  apply map_congr_left
  intro text _
  exact finite_text text

theorem skillIdentity_finite {identity : String × String × String}
    (read : skillIdentity fields = some identity) :
    skillIdentity (fields.map fun field => (field.1, field.2.finite)) = some identity := by
  unfold skillIdentity at read ⊢
  split at read
  · rename_i id name description idFound nameFound descriptionFound
    simp only [lookup_finite, idFound, nameFound, descriptionFound, map_some,
      finite_text, hasExactKeys_finite]
    exact read
  · cases read

theorem parseUserContentSkill_finite {value : JsonValue} {skill : UserContentSkill}
    (accepted : parseUserContentSkill value = .ok skill) :
    parseUserContentSkill value.finite = .ok skill := by
  unfold parseUserContentSkill at accepted
  split at accepted
  · split at accepted
    · rename_i keys
      split at accepted
      · rename_i schemaFound sourceFound skillFound instructionsFound examplesFound permissionsFound
        split at accepted
        · rename_i identity texts identityRead textsRead
          simp only [parseUserContentSkill, hasExactKeys_finite, keys, if_true,
            lookup_finite, schemaFound, sourceFound, skillFound, instructionsFound,
            examplesFound, permissionsFound, map_some, finite_text,
            finite_array, finite_record, skillIdentity_finite identityRead,
            map_finite_of_textsOf textsRead, textsRead, map_eq_nil_iff]
          exact accepted
        · cases accepted
      · cases accepted
    · cases accepted
  · cases accepted

theorem finite_overlayJson (overlay : NoCodeAgentOverlay) :
    (overlayJson overlay).finite = overlayJson overlay := by
  have same (texts : List String) :
      (texts.map JsonValue.text).map finite = texts.map JsonValue.text := by
    rw [List.map_map]
    exact map_congr_left fun text _ => finite_text text
  simp [overlayJson, same]

end ReadBack

end NoCode

end LongHub
