import LongHub.BridgeConfirmations
import LongHub.ConfirmationContents

/-!
# When the desktop process shows what Core asks

Core asks for a confirmation with the session and the tool call as the bridge gives them and with
the version of the profile as the pack gives it.
-/

namespace LongHub

open BridgeConfirmationRecord CoreRuntime DesktopProcess Except InsertionMap List
open DesktopProcess (IsBoundedText Shows Showable)

namespace BridgeProtocol

def assertExactKeys (fields : List (String × JsonValue)) (allowed : List String) (name : String) :
    Except String Unit :=
  let unexpected := (fields.map Prod.fst).filter (· ∉ allowed)
  .ensure (unexpected = []) (name ++ " 包含禁止字段: " ++ ", ".intercalate unexpected)

def nonEmptyString (value : Option JsonValue) (name : String) (maxLength : Nat) :
    Except String String :=
  let problem := name ++ " 必须是长度不超过 " ++ toString maxLength ++ " 的非空字符串"
  match value with
  | some (.text text) =>
    if trimText text = "" ∨ maxLength < utf16Length text then .error problem else .ok text
  | _ => .error problem

def parseTrustedToolContext (value : Option JsonValue) : Except String BridgeToolContext :=
  match value with
  | some (.record fields) => do
    assertExactKeys fields ["agentId", "sessionKey", "sessionId", "toolCallId"] "context"
    let agentId ← nonEmptyString (fields.lookup "agentId") "context.agentId" 128
    let sessionKey ← nonEmptyString (fields.lookup "sessionKey") "context.sessionKey" 512
    let sessionId ← nonEmptyString (fields.lookup "sessionId") "context.sessionId" 128
    let toolCallId ← nonEmptyString (fields.lookup "toolCallId") "context.toolCallId" 128
    return { agentId, sessionKey, sessionId, toolCallId }
  | _ => .error "缺少可信 OpenClaw 工具上下文"

theorem nonEmptyString_cases {value : Option JsonValue} {name text : String} {maxLength : Nat}
    (accepted : nonEmptyString value name maxLength = .ok text) :
    text ≠ "" ∧ utf16Length text ≤ maxLength := by
  simp only [nonEmptyString] at accepted
  split at accepted
  · split at accepted
    · cases accepted
    · next passes =>
      cases accepted
      rw [not_or, not_lt] at passes
      refine ⟨?_, passes.2⟩
      rintro rfl
      exact passes.1 rfl
  · cases accepted

theorem trusted_cases {value : Option JsonValue} {context : BridgeToolContext}
    (trusted : parseTrustedToolContext value = .ok context) :
    (context.sessionId ≠ "" ∧ utf16Length context.sessionId ≤ 128) ∧
      context.toolCallId ≠ "" ∧ utf16Length context.toolCallId ≤ 128 := by
  unfold parseTrustedToolContext at trusted
  split at trusted
  · simp only [bind_eq_ok, pure_eq_ok] at trusted
    obtain ⟨_, -, _, -, _, -, sessionId, isSession, toolCallId, isToolCall, rfl⟩ := trusted
    exact ⟨nonEmptyString_cases isSession, nonEmptyString_cases isToolCall⟩
  · cases trusted

end BridgeProtocol

section Grants

variable {node : NodePlatform} {options : CoreRuntimeOptions} {grant : BridgeSkillGrant}
variable {limits : ToolBridgePolicyLimits} {source : EnabledAgentProfile}

def offerDescriptor : BridgeConfirmationDescriptor where
  action := "生成录用通知书"
  object := "候选人录用通知"
  recipientField := some "candidateName"
  dataFields := [("岗位", "position"), ("月薪（人民币元）", "monthlySalaryCny"), ("入职日期", "startDate")]
  estimatedCostCents := 0

theorem intersect_singleton {permission : String}
    (required : grant.requiredPermissions = [permission]) :
    intersectBridgePermissions node grant = [permission] ∨
      intersectBridgePermissions node grant = [] := by
  simp only [intersectBridgePermissions, required, eraseDups_cons, filter_nil,
    eraseDups_nil, filter_cons]
  split
  · exact .inl rfl
  · exact .inr rfl

theorem sensitive_singleton {permission : String}
    (required : grant.requiredPermissions = [permission])
    (sensitive : sensitivePermissions options grant ≠ []) :
    permissionRequiresConfirmation permission = true ∧
      sensitivePermissions options grant = [permission] := by
  unfold sensitivePermissions at sensitive ⊢
  rcases intersect_singleton required with only | none
  · rw [only, filter_cons] at sensitive ⊢
    split at sensitive
    · next requires => exact ⟨requires, if_pos requires⟩
    · exact absurd rfl sensitive
  · rw [none] at sensitive
    exact absurd rfl sensitive

theorem source_of_granted {profiles : List EnabledAgentProfile} {agentId : String}
    (granted : grant ∈ ((buildToolBridgePolicyWithin profiles limits).get? agentId).getD []) :
    ∃ source ∈ profiles, source.registry.agentId = agentId ∧
      grant ∈ bridgeGrantsWithin limits source := by
  cases found : (buildToolBridgePolicyWithin profiles limits).get? agentId with
  | none =>
    rw [found] at granted
    cases granted
  | some grants =>
    rw [found, Option.getD_some] at granted
    rcases get?_setAll_cases found with listed | ⟨-, bad⟩
    · obtain ⟨source, sourceIn, same⟩ := mem_map.mp listed
      cases same
      exact ⟨source, sourceIn, rfl, granted⟩
    · cases bad

theorem offer_of_sensitive (granted : grant ∈ bridgeGrantsWithin limits source)
    (sensitive : sensitivePermissions options grant ≠ []) :
    grant.skillId = "longhub.skill.offer-letter" ∧ grant.profileVersion = source.profile.version ∧
      grant.confirmation = some offerDescriptor ∧
      sensitivePermissions options grant = ["connector:hr-api:write"] := by
  revert grant
  rw [forall_grant_iff]
  intro skill skillIn permissions declared sensitive
  simp only [bridgeSkillPermissions, mem_cons, not_mem_nil, or_false] at skillIn
  rcases skillIn with rfl | rfl
  · have requires := (sensitive_singleton rfl sensitive).1
    cases requires
  · exact ⟨rfl, rfl, rfl, (sensitive_singleton rfl sensitive).2⟩

end Grants

section Created

variable {options : CoreRuntimeOptions} {current after : CoreRuntime} {call : BridgeCall}
variable {grant : BridgeSkillGrant} {answer : Option BridgeEntitlementStatus}
variable {moment : CoreRuntime.Moment} {outcome : Except BridgeError BridgeExecution}
variable {record : BridgeConfirmationRecord} {confirmationId : String}

namespace CoreRuntime

theorem confirmations_prune (now : Instant)
    (absent : current.confirmations.get? confirmationId = none) :
    (current.pruneConfirmations options now).confirmations.get? confirmationId = none := by
  have folded (records : List BridgeConfirmationRecord) (before : CoreRuntime)
      (absentBefore : before.confirmations.get? confirmationId = none) :
      (records.foldl (fun current record =>
        if record.status ≠ .consumed && !isExpired options record now then current
        else current.dropConfirmation options record) before).confirmations.get? confirmationId =
          none := by
    induction records generalizing before with
    | nil => exact absentBefore
    | cons record rest ih =>
      rw [foldl_cons]
      apply ih
      split
      · exact absentBefore
      · simp only [dropConfirmation, get?_delete]
        split
        · rfl
        · exact absentBefore
  exact folded _ _ absent

theorem confirmations_consume {binding : String}
    (absent : current.confirmations.get? confirmationId = none) :
    (current.consumeConfirmation binding record).confirmations.get? confirmationId = none := by
  simp only [consumeConfirmation, get?_delete]
  split
  · rfl
  · exact absent

theorem confirmations_find {binding : String} {now : Instant}
    (absent : current.confirmations.get? confirmationId = none) :
    (current.findConfirmation options binding now).1.confirmations.get? confirmationId = none := by
  unfold findConfirmation
  split
  · split
    · exact confirmations_consume absent
    · exact absent
  · exact absent

theorem created_of_confirmCall {result : Except BridgeError Unit}
    (fresh : current.confirmations.get? ("confirm-" ++ moment.randomUUID) = none)
    (confirmed : current.confirmCall options call grant moment = (after, result))
    (created : after.confirmations.get? ("confirm-" ++ moment.randomUUID) = some record) :
    ∃ subject, confirmationSubject options call grant = .ok subject ∧
      createBridgeConfirmationRequest subject moment.randomUUID moment.now (5 * 60000) =
        some record := by
  have pruned : (current.pruneConfirmations options moment.now).confirmations.get?
      ("confirm-" ++ moment.randomUUID) = none := confirmations_prune moment.now fresh
  simp only [confirmCall] at confirmed
  split at confirmed
  · cases confirmed
    rw [pruned] at created
    cases created
  · next subject isSubject =>
    split at confirmed
    · cases confirmed
      rw [pruned] at created
      cases created
    · next binding bound =>
      have searched : ((current.pruneConfirmations options moment.now).findConfirmation options
          binding moment.now).1.confirmations.get? ("confirm-" ++ moment.randomUUID) = none :=
        confirmations_find pruned
      simp only [requireConfirmation] at confirmed
      generalize (current.pruneConfirmations options moment.now).findConfirmation options binding
        moment.now = result at confirmed searched
      obtain ⟨found, known⟩ := result
      cases known with
      | some earlier =>
        simp only at confirmed
        split at confirmed
        · cases confirmed
          rw [searched] at created
          cases created
        · cases confirmed
          rw [confirmations_consume searched] at created
          cases created
        · cases confirmed
          rw [searched] at created
          cases created
        · cases confirmed
          rw [searched] at created
          cases created
      | none =>
        simp only [requestConfirmation] at confirmed
        split at confirmed
        · cases confirmed
          rw [searched] at created
          cases created
        · next made isMade =>
          refine ⟨subject, isSubject, ?_⟩
          have stored := congrArg (fun pair => pair.1.confirmations.get?
            ("confirm-" ++ moment.randomUUID)) confirmed
          obtain ⟨-, isNew, -, -⟩ := subject_of_created isMade
          simp only [created, isNew, get?_set, if_true] at stored
          rw [isMade, stored]

theorem created_of_finishBridgeSkill
    (fresh : current.confirmations.get? ("confirm-" ++ moment.randomUUID) = none)
    (finished : current.finishBridgeSkill options call grant answer moment = (after, outcome))
    (created : after.confirmations.get? ("confirm-" ++ moment.randomUUID) = some record) :
    sensitivePermissions options grant ≠ [] ∧
      ∃ subject, confirmationSubject options call grant = .ok subject ∧
        createBridgeConfirmationRequest subject moment.randomUUID moment.now (5 * 60000) =
          some record := by
  rcases finishBridgeSkill_cases finished with
    ⟨rfl, -⟩ | ⟨-, rfl, -⟩ | ⟨sensitive, ⟨_, confirmed, -⟩ | ⟨confirmed, -⟩⟩
  · rw [fresh] at created
    cases created
  · rw [fresh] at created
    cases created
  · exact ⟨sensitive, created_of_confirmCall fresh confirmed created⟩
  · exact ⟨sensitive, created_of_confirmCall fresh confirmed created⟩

end CoreRuntime

theorem confirmationIdPattern_append {randomUUID : String} (uuid : uuidPattern randomUUID = true) :
    confirmationIdPattern ("confirm-" ++ randomUUID) = true := by
  have chars : ("confirm-" ++ randomUUID).toList = "confirm-".toList ++ randomUUID.toList :=
    String.toList_append
  have eight : "confirm-".toList.length = 8 := by decide
  have taken : ("confirm-".toList ++ randomUUID.toList).take 8 = "confirm-".toList :=
    take_left' eight
  have dropped : ("confirm-".toList ++ randomUUID.toList).drop 8 = randomUUID.toList :=
    drop_left' eight
  have lower : String.ofList ("confirm-".toList.map Char.toLower) = "confirm-" := by
    decide
  rw [confirmationIdPattern, chars, taken, dropped, lower, String.ofList_toList, uuid]
  decide

theorem subject_of_call {subject : BridgeConfirmationSubject}
    (isSubject : confirmationSubject options call grant = .ok subject) :
    (∃ descriptor, grant.confirmation = some descriptor ∧
      buildBridgeConfirmationDisplay options.node descriptor call.input = .ok subject.display) ∧
    (∃ text, subject.payloadDigest = options.node.sha256Hex text) ∧
    subject.agentId = call.context.agentId ∧ subject.skillId = call.skillId ∧
    subject.profileVersion = grant.profileVersion ∧
    subject.sessionId = call.context.sessionId ∧ subject.toolCallId = call.context.toolCallId ∧
    subject.permissions = sensitivePermissions options grant := by
  unfold confirmationSubject at isSubject
  simp only [bind_eq_ok, require_eq_ok] at isSubject
  obtain ⟨descriptor, isDescriptor, isSubject⟩ := isSubject
  split at isSubject
  · next display built =>
    simp only [bind_eq_ok, require_eq_ok, pure_eq_ok] at isSubject
    obtain ⟨_, rfl, digest, digested, rfl⟩ := isSubject
    obtain ⟨text, -, isDigest⟩ := Option.map_eq_some_iff.mp digested
    exact ⟨⟨descriptor, isDescriptor, built⟩, ⟨text, isDigest.symm⟩, rfl, rfl, rfl, rfl, rfl, rfl⟩
  · simp [bind_eq_ok] at isSubject

/-- A call for which Core has raised a confirmation. -/
structure RaisedConfirmation (options : CoreRuntimeOptions) where
  profiles : List EnabledAgentProfile
  limits : ToolBridgePolicyLimits
  /-- The runtime when the call arrives. -/
  runtime : CoreRuntime
  /-- The runtime when the check of the entitlement has answered. -/
  current : CoreRuntime
  after : CoreRuntime
  context : JsonValue
  call : BridgeCall
  grant : BridgeSkillGrant
  answer : Option BridgeEntitlementStatus
  moment : CoreRuntime.Moment
  outcome : Except BridgeError BridgeExecution
  record : BridgeConfirmationRecord
  /-- `createHash("sha256")` gives 64 lowercase hexadecimal digits. -/
  digests : ∀ text, digestPattern (options.node.sha256Hex text) = true
  /-- `randomUUID` gives a UUID. -/
  uuid : uuidPattern moment.randomUUID = true
  accepted : ∀ source ∈ profiles, AcceptedProfile options.node source
  built : ∀ agentId, ∀ grant ∈ (runtime.bridgePolicy.get? agentId).getD [],
    grant ∈ ((buildToolBridgePolicyWithin profiles limits).get? agentId).getD []
  trusted : BridgeProtocol.parseTrustedToolContext (some context) = .ok call.context
  begun : runtime.beginBridgeSkill options call = .ok grant
  fresh : current.confirmations.get? ("confirm-" ++ moment.randomUUID) = none
  finished : current.finishBridgeSkill options call grant answer moment = (after, outcome)
  created : after.confirmations.get? ("confirm-" ++ moment.randomUUID) = some record

/-- A request that Core creates is shown by the desktop process if and only if the session and the
tool call have neither surrounding space nor control characters, and the version of the profile
has at most 64 characters. -/
theorem confirmation_shown_iff (options : CoreRuntimeOptions)
    (raised : RaisedConfirmation options) :
    Shows raised.record.request ↔ IsPlainText raised.call.context.sessionId ∧
      IsPlainText raised.call.context.toolCallId ∧
      utf16Length raised.grant.profileVersion ≤ 64 := by
  obtain ⟨profiles, limits, runtime, current, after, context, call, grant, answer, moment, outcome,
    record, digests, uuid, accepted, built, trusted, begun, fresh, finished, created⟩ := raised
  obtain ⟨sensitive, subject, isSubject, isMade⟩ :=
    created_of_finishBridgeSkill fresh finished created
  obtain ⟨sameSubject, isId, -, written⟩ := subject_of_created isMade
  subst sameSubject
  obtain ⟨⟨descriptor, isDescriptor, isDisplay⟩, ⟨text, isDigest⟩, agentId, skillId, version,
    sessionId, toolCallId, permissions⟩ := subject_of_call isSubject
  obtain ⟨listed, isSkill⟩ := mem_of_beginBridgeSkill begun
  -- the grant is one of an accepted profile
  obtain ⟨source, sourceIn, named, granted⟩ : ∃ source ∈ profiles,
      source.registry.agentId = call.context.agentId ∧ grant ∈ bridgeGrantsWithin limits source :=
    source_of_granted (built _ grant listed)
  obtain ⟨isOffer, sameVersion, offers, isWrite⟩ := offer_of_sensitive granted sensitive
  rw [offers] at isDescriptor
  cases isDescriptor
  have display : ShowableDisplay record.display :=
    showableDisplay_of_built (by decide) isDisplay
  obtain ⟨⟨sessionSome, sessionShort⟩, toolCallSome, toolCallShort⟩ :=
    BridgeProtocol.trusted_cases trusted
  obtain ⟨versionSome, versionVisible⟩ := visible_packVersion (accepted source sourceIn).version
  rw [← sameVersion] at versionSome versionVisible
  rw [shows_iff]
  constructor
  · intro showable
    have session := showable.sessionId
    have toolCall := showable.toolCallId
    have profile := showable.profileVersion
    simp only [request, sessionId, toolCallId, version] at session toolCall profile
    exact ⟨session.2.2, toolCall.2.2, profile.2.1⟩
  · rintro ⟨session, toolCall, short⟩
    exact
      { confirmationId := by
          rw [request, isId]
          exact confirmationIdPattern_append uuid
        payloadDigest := by
          rw [request, isDigest]
          exact digests text
        permissions := by
          rw [request, permissions, isWrite]
          decide
        __ := display
        expiresAt := by
          have read := IsoInstant.parse_toISOString written
          simp only [isIsoTime, request, read, Option.bind_some, written, decide_true]
        skillId := by
          rw [request, skillId, ← isSkill, isOffer]
          decide
        agentId := by
          rw [request, agentId, ← named]
          exact isBoundedText_agentId digests (accepted source sourceIn).agentId
        profileVersion := by
          rw [request, version]
          exact ⟨versionSome, short, isPlainText_of_visible versionVisible⟩
        sessionId := by
          rw [request, sessionId]
          exact ⟨sessionSome, sessionShort, session⟩
        toolCallId := by
          rw [request, toolCallId]
          exact ⟨toolCallSome, toolCallShort, toolCall⟩ }

end Created

section Example

def letterInput : List (String × JsonValue) :=
  [("candidateName", .text "李雷"), ("position", .text "工程师"),
    ("monthlySalaryCny", .number "20000"), ("startDate", .text "2026-09-01")]

theorem wellFormed_letterInput : (JsonValue.record letterInput).WellFormed := by
  refine .record (by decide) (by simp [letterInput, JsonValue.MayPrecede, JsonValue.arrayIndex]) ?_
  simp only [letterInput, forall_mem_cons, not_mem_nil, false_implies, implies_true, and_true]
  exact ⟨.text _, .text _, .number _, .text _⟩

def letterContext : JsonValue :=
  .record [("agentId", .text "hr-recruiter-af6c2051e2e1"),
    ("sessionKey", .text "agent:hr-recruiter-af6c2051e2e1:main"),
    ("sessionId", .text "session"), ("toolCallId", .text "call-1 ")]

def letterCall : BridgeCall where
  skillId := "longhub.skill.offer-letter"
  input := ⟨.record letterInput, wellFormed_letterInput⟩
  context := ⟨"hr-recruiter-af6c2051e2e1", "agent:hr-recruiter-af6c2051e2e1:main", "session",
    "call-1 "⟩

def letterDigests : List (String × String) :=
  [("hr.recruiter", "af6c2051e2e1d31bca081877a4e8d75fc6c259aa53d54f674c683b06c13fda34"),
    ("\x7b\"input\":\x7b\"candidateName\":\"李雷\",\"monthlySalaryCny\":20000," ++
        "\"position\":\"工程师\",\"startDate\":\"2026-09-01\"\x7d," ++
        "\"skillId\":\"longhub.skill.offer-letter\"\x7d",
      "252e11cfafab5aacc4d69004937a14da2c98af0c3b5ae013c20a2459a58954e1"),
    ("\x7b\"agentId\":\"hr-recruiter-af6c2051e2e1\",\"display\":\x7b\"action\":" ++
        "\"生成录用通知书\",\"dataScope\":[\"岗位：工程师\",\"月薪（人民币元）：20000\"," ++
        "\"入职日期：2026-09-01\"],\"estimatedCostCents\":0,\"object\":\"候选人录用通知\"," ++
        "\"recipient\":\"李雷\"\x7d,\"payloadDigest\":" ++
        "\"252e11cfafab5aacc4d69004937a14da2c98af0c3b5ae013c20a2459a58954e1\"," ++
        "\"permissions\":[\"connector:hr-api:write\"],\"profileVersion\":\"1.0.0\"," ++
        "\"sessionId\":\"session\",\"skillId\":\"longhub.skill.offer-letter\"," ++
        "\"toolCallId\":\"call-1 \"\x7d",
      "8acdda6da68d137821d76180176ea713459b448e40c611e2e8afea6878755dae")]

def letterOptions : CoreRuntimeOptions where
  node := { composingNode with
    sha256Hex := fun text => (letterDigests.lookup text).getD
      "e3b0c44298fc1c149afbf4c8996fb92427ae41e4649b934ca495991b7852b855" }
  parseDate := IsoInstant.parse
  verifies := true
  defaultBudget := none

def letterProfiles : List EnabledAgentProfile :=
  [⟨recruiterEntry, recruiterPack.manifest, recruiterProfile⟩]

def letterRuntime : CoreRuntime where
  bridgePolicy := buildToolBridgePolicyWithin letterProfiles .none
  confirmations := .empty
  confirmationIdsByBinding := .empty

def letterGrant : BridgeSkillGrant where
  skillId := "longhub.skill.offer-letter"
  packId := "hr"
  packVersion := "1.0.0"
  profileVersion := "1.0.0"
  requiredPermissions := ["connector:hr-api:write"]
  profilePermissions := ["connector:hr-api:read", "connector:hr-api:write"]
  packPermissions := ["connector:hr-api:read", "connector:hr-api:write"]
  tenantPermissions := sortedByCodeUnits productPermissionCeiling
  devicePermissions := sortedByCodeUnits productPermissionCeiling
  budget := defaultBridgeBudget
  confirmation := some offerDescriptor

def letterMoment : CoreRuntime.Moment := ⟨0, "0d9f5c1e-5b0a-4c58-9f3e-2a6f6d0c7b11", none⟩

def letterAnswer : Option BridgeEntitlementStatus :=
  some ⟨true, some "2030-01-01T00:00:00.000Z", none⟩

def letterRecord : BridgeConfirmationRecord where
  agentId := "hr-recruiter-af6c2051e2e1"
  skillId := "longhub.skill.offer-letter"
  profileVersion := "1.0.0"
  sessionId := "session"
  toolCallId := "call-1 "
  permissions := ["connector:hr-api:write"]
  payloadDigest := "252e11cfafab5aacc4d69004937a14da2c98af0c3b5ae013c20a2459a58954e1"
  display := ⟨"生成录用通知书", "候选人录用通知", "李雷", ["岗位：工程师", "月薪（人民币元）：20000", "入职日期：2026-09-01"], 0⟩
  confirmationId := "confirm-0d9f5c1e-5b0a-4c58-9f3e-2a6f6d0c7b11"
  expiresAt := "1970-01-01T00:05:00.000Z"
  status := .pending

theorem digests_letter (text : String) :
    digestPattern (letterOptions.node.sha256Hex text) = true := by
  have listed : ∀ pair ∈ letterDigests, digestPattern pair.2 = true := by decide
  have others : digestPattern
      "e3b0c44298fc1c149afbf4c8996fb92427ae41e4649b934ca495991b7852b855" = true := by
    decide
  change digestPattern ((letterDigests.lookup text).getD _) = true
  cases found : letterDigests.lookup text with
  | none => exact others
  | some digest =>
    obtain ⟨earlier, later, split, -⟩ := lookup_eq_some_iff.mp found
    have mem : (text, digest) ∈ letterDigests := by rw [split]; simp
    exact listed _ mem

theorem accepted_letter (source : EnabledAgentProfile) (mem : source ∈ letterProfiles) :
    AcceptedProfile letterOptions.node source := by
  cases mem_singleton.mp mem
  exact ⟨by decide, by decide⟩

def raisedLetter : RaisedConfirmation letterOptions where
  profiles := letterProfiles
  limits := .none
  runtime := letterRuntime
  current := letterRuntime
  after := (letterRuntime.finishBridgeSkill letterOptions letterCall letterGrant letterAnswer
    letterMoment).1
  context := letterContext
  call := letterCall
  grant := letterGrant
  answer := letterAnswer
  moment := letterMoment
  outcome := (letterRuntime.finishBridgeSkill letterOptions letterCall letterGrant letterAnswer
    letterMoment).2
  record := letterRecord
  digests := digests_letter
  uuid := by decide
  accepted := accepted_letter
  built _ _ granted := granted
  trusted := by rfl
  begun := by rfl
  fresh := by rfl
  finished := rfl
  created := by decide +kernel

theorem untrimmed_toolCall_not_shown :
    ¬ ∀ (options : CoreRuntimeOptions) (raised : RaisedConfirmation options),
      Shows raised.record.request := by
  intro claim
  have shown := (shows_iff _).mp (claim letterOptions raisedLetter)
  have plain : IsPlainText "call-1 " := shown.toolCallId.2.2
  revert plain
  decide

theorem confirmation_not_shown_raisedLetter : ¬ Shows raisedLetter.record.request := by
  intro shown
  have plain : IsPlainText "call-1 " :=
    ((confirmation_shown_iff letterOptions raisedLetter).mp shown).2.1
  revert plain
  decide

end Example

end LongHub
