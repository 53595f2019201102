import LongHub.CoreRuntime
import LongHub.JsValue

/-!
# The transport of bridge calls

The plugin sends a call as JSON to a host in the Desktop that takes at most 1 MiB, and the host asks
Core. A call that needs a confirmation waits for it, up to five minutes, and is then asked again.
The client waits 310 seconds for the answer, and `fetch` itself about 300 seconds for its headers.
-/

namespace LongHub

open JsValue List
open JsText (ofString)
open ManagerUpdate (byteCount byteCount_cons byteCount_hexEscape byteCount_singleton
  byteCount_toList)

namespace BridgeTransport

def maxRequestBytes : Nat := 1024 * 1024
def confirmationTtlMs : Nat := 5 * 60000
def maxDurationMs : Nat := 60000
def clientTimeoutMs : Nat := 310000

def isNonEmpty (most : Nat) (text : JsText) : Bool :=
  trimText text.toWellFormed ≠ "" && text.length ≤ most

/-- What `parseResumeScreenInput` accepts. -/
structure ResumeScreenInput where
  requiredKeywords : List JsText
  resumeText : JsText
  someKeywords : 1 ≤ requiredKeywords.length ∧ requiredKeywords.length ≤ 100
  keywords : ∀ keyword ∈ requiredKeywords, keyword.length ≤ 200
  text : isNonEmpty 200000 resumeText = true

/-- The form of a date; `parseOfferLetterInput` also asks that the day exists. -/
def isStartDate (text : JsText) : Bool :=
  let chars := text.toWellFormed.toList
  text.length = 10 && chars.all fun char => char.isDigit || char = '-'

/-- What `parseOfferLetterInput` accepts. -/
structure OfferLetterInput where
  candidateName : JsText
  position : JsText
  monthlySalaryCny : Nat
  startDate : JsText
  name : isNonEmpty 128 candidateName = true
  post : isNonEmpty 128 position = true
  salary : 1 ≤ monthlySalaryCny ∧ monthlySalaryCny ≤ 10000000
  date : isStartDate startDate = true

/-- What `parseTrustedToolContext` accepts. -/
structure TrustedToolContext where
  agentId : JsText
  sessionKey : JsText
  sessionId : JsText
  toolCallId : JsText
  agent : isNonEmpty 128 agentId = true
  key : isNonEmpty 512 sessionKey = true
  session : isNonEmpty 128 sessionId = true
  toolCall : isNonEmpty 128 toolCallId = true

inductive BridgeTool where
  | resumeScreen (input : ResumeScreenInput)
  | offerLetter (input : OfferLetterInput) (approvedAfter : Fin confirmationTtlMs)

structure BridgeCall where
  tool : BridgeTool
  confirmationId : String
  context : TrustedToolContext
  duration : Fin (maxDurationMs + 1)

def contextJson (context : TrustedToolContext) : JsValue :=
  .record [(ofString "agentId", .text context.agentId),
    (ofString "sessionKey", .text context.sessionKey),
    (ofString "sessionId", .text context.sessionId),
    (ofString "toolCallId", .text context.toolCallId)]

namespace BridgeTool

def skillId : BridgeTool → JsText
  | resumeScreen _ => ofString "longhub.skill.resume-screen"
  | offerLetter _ _ => ofString "longhub.skill.offer-letter"

def inputJson : BridgeTool → JsValue
  | resumeScreen input =>
    .record [(ofString "requiredKeywords", .array (input.requiredKeywords.map .text)),
      (ofString "resumeText", .text input.resumeText)]
  | offerLetter input _ =>
    .record [(ofString "candidateName", .text input.candidateName),
      (ofString "position", .text input.position),
      (ofString "monthlySalaryCny", .number (toString input.monthlySalaryCny)),
      (ofString "startDate", .text input.startDate)]

end BridgeTool

/-- What is answered, and after how many milliseconds. -/
structure Timed (α : Type) where
  after : Nat
  value : α

structure CoreRequestError where
  code : String
  message : String

/-- The JSON and the status that the host sends back. -/
structure Response (α : Type) where
  status : Nat
  body : Except CoreRequestError α

/-- Why `execute` of the client rejects. -/
inductive ClientError where
  | rejected (code message : String)
  | timeout

/-- `fetch` gives up on the headers after 300 seconds, or some ticks of its timers later. -/
structure Fetch where
  headersTimeoutMs : Nat
  documented : 300000 ≤ headersTimeoutMs

namespace BridgeCall

variable {α : Type} (call : BridgeCall)

def body : List Char :=
  stringify none (.record [(ofString "skillId", .text call.tool.skillId),
    (ofString "input", call.tool.inputJson), (ofString "context", contextJson call.context)])

/-- `executeBridgeSkill`: the Skill runs if the call needs no confirmation or has one. -/
def coreRequest (approved : Bool) (outcome : Except String α) : Timed (Except CoreRequestError α) :=
  match call.tool, approved with
  | .offerLetter _ _, false =>
    ⟨0, .error ⟨"BRIDGE_CONFIRMATION_REQUIRED", "操作需要用户确认: " ++ call.confirmationId⟩⟩
  | _, _ => ⟨call.duration, outcome.mapError fun message => ⟨"INTERNAL", message⟩⟩

/-- When the user approves the call, if it asks for that. -/
def waiter : Option Nat :=
  match call.tool with
  | .resumeScreen _ => none
  | .offerLetter _ approvedAfter => some approvedAfter

/-- The `execute` of the host: it asks again after the confirmation. -/
def hostExecute (outcome : Except String α) : Timed (Except CoreRequestError α) :=
  let first := call.coreRequest false outcome
  match first.value with
  | .ok _ => first
  | .error error =>
    if error.code ≠ "BRIDGE_CONFIRMATION_REQUIRED" then first
    else
      match call.waiter with
      | none => ⟨first.after, .error ⟨"BRIDGE_FORBIDDEN", "用户拒绝、关闭或确认已过期"⟩⟩
      | some approvedAfter =>
        let second := call.coreRequest true outcome
        ⟨first.after + approvedAfter + second.after, second.value⟩

def statusOf (error : CoreRequestError) : Nat :=
  if error.code = "BRIDGE_FORBIDDEN" then 403
  else if error.code = "BRIDGE_CONFIRMATION_REQUIRED" then 409
  else 400

/-- `ToolBridgeHost.handle`, from the reading of the body on. -/
def handle (outcome : Except String α) : Timed (Response α) :=
  if maxRequestBytes < byteCount call.body then
    ⟨0, 400, .error ⟨"BRIDGE_EXECUTION_FAILED", "Bridge 请求体超出 1 MiB 限制"⟩⟩
  else
    let executed := call.hostExecute outcome
    match executed.value with
    | .ok result => ⟨executed.after, 200, .ok result⟩
    | .error error => ⟨executed.after, statusOf error, .error error⟩

/-- `execute` of the client: both timeouts run from the start. -/
def execute (fetch : Fetch) (outcome : Except String α) : Except ClientError α :=
  let response := call.handle outcome
  if fetch.headersTimeoutMs < response.after ∨ clientTimeoutMs < response.after then
    .error .timeout
  else
    match response.value.body with
    | .error error => .error (.rejected error.code error.message)
    | .ok result =>
      if 200 ≤ response.value.status ∧ response.value.status < 300 then .ok result
      else .error (.rejected (toString response.value.status) "")

end BridgeCall

/-- The plugin gets what the Skill returned, or the message of its error. -/
def Settles (fetch : Fetch) (call : BridgeCall) : Prop :=
  ∀ {α : Type} (outcome : Except String α),
    call.execute fetch outcome = outcome.mapError (.rejected "INTERNAL")

/-! ## The size of a request -/

def contextSize (context : TrustedToolContext) : Nat :=
  textSize context.agentId + textSize context.sessionKey + textSize context.sessionId +
    textSize context.toolCallId

def resumeSize (input : ResumeScreenInput) (context : TrustedToolContext) : Nat :=
  (input.requiredKeywords.map fun keyword => textSize keyword + 1).sum +
    textSize input.resumeText + contextSize context + 150

theorem byteCount_escape_le_six (char : Char) : byteCount (JsonText.escape char) ≤ 6 := by
  unfold JsonText.escape
  split_ifs with _ _ _ _ _ _ _ isControl
  iterate 7 decide
  · exact byteCount_hexEscape ⟨char.toNat, isControl⟩
  · have few := char.utf8Size_le_four
    rw [byteCount_singleton]
    omega

theorem byteCount_escape_le (point : CodePoint) :
    byteCount point.escape ≤ 6 * point.units.length := by
  cases point with
  | char value =>
    have some : 1 ≤ (JsText.ofChar value).length := by
      unfold JsText.ofChar
      split_ifs <;> simp
    have six := byteCount_escape_le_six value
    change byteCount (JsonText.escape value) ≤ 6 * (JsText.ofChar value).length
    omega
  | lone unit =>
    have one (digit : Fin 16) : (JsonText.hexDigit digit).utf8Size = 1 := by
      revert digit
      decide
    have small := unit.toNat_lt
    have first := one ⟨unit.toNat / 4096, by omega⟩
    have second := one ⟨unit.toNat / 256 % 16, by omega⟩
    have third := one ⟨unit.toNat / 16 % 16, by omega⟩
    have fourth := one ⟨unit.toNat % 16, by omega⟩
    have slash : '\\'.utf8Size = 1 := rfl
    have letter : 'u'.utf8Size = 1 := rfl
    have none : byteCount [] = 0 := rfl
    simp only [CodePoint.escape, CodePoint.units, byteCount_cons, none, first, second,
      third, fourth, slash, letter, length_singleton]
    omega

theorem textSize_le (text : JsText) : textSize text ≤ 6 * text.length + 2 := by
  have spelled := congrArg length (JsText.flatMap_units_points text)
  rw [textSize]
  rw [← spelled]
  induction text.points with
  | nil => exact Nat.le_refl _
  | cons point points ih =>
    have here := byteCount_escape_le point
    rw [flatMap_cons, length_append, map_cons, sum_cons]
    omega

variable {most : Nat} {text : JsText}

theorem textSize_of_isNonEmpty (accepted : isNonEmpty most text = true) :
    textSize text ≤ 6 * most + 2 := by
  simp only [isNonEmpty, Bool.and_eq_true, decide_eq_true_eq] at accepted
  have units := textSize_le text
  omega

theorem utf8ByteSize_le_length (text : String) : text.utf8ByteSize ≤ 4 * text.length := by
  rw [← byteCount_toList, ← String.length_toList]
  induction text.toList with
  | nil => exact Nat.zero_le _
  | cons char rest ih =>
    have one := char.utf8Size_le_four
    rw [byteCount_cons, length_cons]
    omega

theorem size_record (field : JsText × JsValue) (rest : List (JsText × JsValue)) :
    size none (.record (field :: rest)) = fieldsSize none (field :: rest) + 1 := rfl

theorem fieldsSize_cons (key : JsText) (value : JsValue) (rest : List (JsText × JsValue)) :
    fieldsSize none ((key, value) :: rest) =
      textSize key + size none value + 2 + fieldsSize none rest := by
  have nothing : byteCount [] = 0 := rfl
  simp only [fieldsSize, lineBreak, afterColon, nothing]
  omega

theorem size_text (text : JsText) : size none (.text text) = textSize text := rfl

theorem size_number (literal : String) : size none (.number literal) = literal.utf8ByteSize := rfl

theorem fieldsSize_nil : fieldsSize none [] = 0 := rfl

theorem offerLetter_fits {call : BridgeCall} {input : OfferLetterInput}
    {approvedAfter : Fin confirmationTtlMs} (offer : call.tool = .offerLetter input approvedAfter) :
    byteCount call.body ≤ maxRequestBytes := by
  have name := textSize_of_isNonEmpty input.name
  have post := textSize_of_isNonEmpty input.post
  have agent := textSize_of_isNonEmpty call.context.agent
  have key := textSize_of_isNonEmpty call.context.key
  have session := textSize_of_isNonEmpty call.context.session
  have toolCall := textSize_of_isNonEmpty call.context.toolCall
  have date := textSize_le input.startDate
  have dateLength := input.date
  have salary := utf8ByteSize_le_length (toString input.monthlySalaryCny)
  have salaryLength : (toString input.monthlySalaryCny).length ≤ 8 :=
    (Nat.length_repr_le_iff (by decide)).mpr (Nat.lt_of_le_of_lt input.salary.2 (by decide))
  simp only [isStartDate, Bool.and_eq_true, decide_eq_true_eq] at dateLength
  have names : textSize (ofString "skillId") = 9 ∧ textSize (ofString "input") = 7 ∧
      textSize (ofString "context") = 9 ∧ textSize (ofString "agentId") = 9 ∧
      textSize (ofString "sessionKey") = 12 ∧ textSize (ofString "sessionId") = 11 ∧
      textSize (ofString "toolCallId") = 12 ∧ textSize (ofString "candidateName") = 15 ∧
      textSize (ofString "position") = 10 ∧ textSize (ofString "monthlySalaryCny") = 18 ∧
      textSize (ofString "startDate") = 11 ∧
      textSize (ofString "longhub.skill.offer-letter") = 28 := by
    decide
  rw [BridgeCall.body, byteCount_stringify, maxRequestBytes]
  simp only [offer, BridgeTool.skillId, BridgeTool.inputJson, contextJson, size_record, size_text,
    size_number, fieldsSize_cons, fieldsSize_nil, names]
  omega

theorem itemsSize_texts (texts : List JsText) :
    itemsSize none (texts.map .text) = (texts.map fun text => textSize text + 1).sum := by
  have noBreak : byteCount (lineBreak none) = 0 := rfl
  induction texts with
  | nil => rfl
  | cons text rest ih =>
    rw [map_cons, itemsSize, ih, map_cons, sum_cons, size_text, noBreak, Nat.zero_add]

theorem byteCount_resume {call : BridgeCall} {input : ResumeScreenInput}
    (resume : call.tool = .resumeScreen input) :
    byteCount call.body = resumeSize input call.context := by
  have keywords : size none (.array (input.requiredKeywords.map .text)) =
      (input.requiredKeywords.map fun text => textSize text + 1).sum + 1 := by
    rw [← itemsSize_texts]
    cases same : input.requiredKeywords with
    | nil =>
      have some := input.someKeywords
      simp [same] at some
    | cons keyword rest => rfl
  have names : textSize (ofString "skillId") = 9 ∧ textSize (ofString "input") = 7 ∧
      textSize (ofString "context") = 9 ∧ textSize (ofString "agentId") = 9 ∧
      textSize (ofString "sessionKey") = 12 ∧ textSize (ofString "sessionId") = 11 ∧
      textSize (ofString "toolCallId") = 12 ∧ textSize (ofString "requiredKeywords") = 18 ∧
      textSize (ofString "resumeText") = 12 ∧
      textSize (ofString "longhub.skill.resume-screen") = 29 := by
    decide
  rw [BridgeCall.body, byteCount_stringify]
  simp only [resume, BridgeTool.skillId, BridgeTool.inputJson, contextJson, size_record, size_text,
    fieldsSize_cons, fieldsSize_nil, names, keywords, resumeSize, contextSize]
  omega

/-! ## The answer -/

/-- After how many milliseconds Core has answered for good. -/
def BridgeCall.answeredAfter (call : BridgeCall) : Nat := call.waiter.getD 0 + call.duration

variable {α : Type} {call : BridgeCall} {fetch : Fetch}

theorem hostExecute_eq (call : BridgeCall) (outcome : Except String α) : call.hostExecute outcome =
    ⟨call.answeredAfter, outcome.mapError fun message => ⟨"INTERNAL", message⟩⟩ := by
  unfold BridgeCall.hostExecute BridgeCall.answeredAfter BridgeCall.coreRequest BridgeCall.waiter
  cases call.tool with
  | resumeScreen input => cases outcome <;> simp [Except.mapError]
  | offerLetter input approvedAfter => simp

def InTime (fetch : Fetch) (call : BridgeCall) : Prop :=
  call.answeredAfter ≤ fetch.headersTimeoutMs ∧ call.answeredAfter ≤ clientTimeoutMs

instance (fetch : Fetch) (call : BridgeCall) : Decidable (InTime fetch call) :=
  inferInstanceAs (Decidable (_ ∧ _))

/-- Whether nothing cuts the call short: the texts of a resume fit into the request, and an offer
letter that is approved late does not run for long. -/
def BridgeCall.Fits (fetch : Fetch) (call : BridgeCall) : Prop :=
  match call.tool with
  | .resumeScreen input => resumeSize input call.context ≤ maxRequestBytes
  | .offerLetter _ approvedAfter => approvedAfter + (call.duration : Nat) ≤ fetch.headersTimeoutMs ∧
      approvedAfter + (call.duration : Nat) ≤ clientTimeoutMs

theorem execute_of_large (large : maxRequestBytes < byteCount call.body)
    (outcome : Except String α) : call.execute fetch outcome =
      .error (.rejected "BRIDGE_EXECUTION_FAILED" "Bridge 请求体超出 1 MiB 限制") := by
  simp [BridgeCall.execute, BridgeCall.handle, large]

theorem execute_of_small (small : byteCount call.body ≤ maxRequestBytes)
    (outcome : Except String α) : call.execute fetch outcome =
      if InTime fetch call then outcome.mapError (.rejected "INTERNAL") else .error .timeout := by
  have notLarge := Nat.not_lt.mpr small
  have late : fetch.headersTimeoutMs < call.answeredAfter ∨ clientTimeoutMs < call.answeredAfter ↔
      ¬ InTime fetch call := by
    unfold InTime
    omega
  cases outcome <;>
    simp [BridgeCall.execute, BridgeCall.handle, notLarge, hostExecute_eq, Except.mapError, late]

theorem settles_iff_sent : Settles fetch call ↔
    byteCount call.body ≤ maxRequestBytes ∧ InTime fetch call := by
  constructor
  · intro settles
    have settled := settles (.ok ())
    rcases Nat.lt_or_ge maxRequestBytes (byteCount call.body) with large | small
    · rw [execute_of_large large] at settled
      cases settled
    · rw [execute_of_small small] at settled
      split_ifs at settled with inTime
      · exact ⟨small, inTime⟩
      · cases settled
  · rintro ⟨small, inTime⟩ α outcome
    rw [execute_of_small small, if_pos inTime]

/-- A call settles with the answer of Core exactly if nothing cuts it short. -/
theorem settles_iff (fetch : Fetch) (call : BridgeCall) : Settles fetch call ↔ call.Fits fetch := by
  rw [settles_iff_sent, BridgeCall.Fits, InTime, BridgeCall.answeredAfter, BridgeCall.waiter]
  cases tool : call.tool with
  | resumeScreen input =>
    have most := call.duration.isLt
    have patient := fetch.documented
    unfold maxDurationMs at most
    have inTime : (call.duration : Nat) ≤ fetch.headersTimeoutMs ∧
        (call.duration : Nat) ≤ clientTimeoutMs := by
      unfold clientTimeoutMs
      omega
    rw [byteCount_resume tool]
    simpa using fun _ => inTime
  | offerLetter input approvedAfter => exact and_iff_right (offerLetter_fits tool)

def exampleContext : TrustedToolContext :=
  ⟨ofString "agent", ofString "key", ofString "session", ofString "call", by decide, by decide,
    by decide, by decide⟩

def lateLetter : BridgeCall where
  tool := .offerLetter ⟨ofString "Li Lei", ofString "Engineer", 20000, ofString "2026-09-01",
    by decide, by decide, by decide, by decide⟩ ⟨290000, by decide⟩
  confirmationId := "confirmation"
  context := exampleContext
  duration := ⟨30000, by decide⟩

theorem not_settles_lateLetter : ¬ ∀ (fetch : Fetch) (call : BridgeCall), Settles fetch call := by
  intro settles
  have inTime := (settles_iff_sent.mp (settles ⟨300000, Nat.le_refl _⟩ lateLetter)).2
  exact absurd inTime (by decide)

end BridgeTransport

end LongHub
