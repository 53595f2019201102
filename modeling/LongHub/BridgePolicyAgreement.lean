import LongHub.BridgePolicyChannel
import LongHub.LifecycleTransactions

/-!
# When Core accepts the policy

Core accepts a grant if and only if it has no descriptor, its texts are not empty and its budget
consists of positive safe integers.
-/

namespace LongHub

open Except InsertionMap JsonValue List Prod

namespace CoreProcess

structure UsableBudget (budget : CoreBudget) : Prop where
  maxTokens : 0 < budget.maxTokens ∧ budget.maxTokens < 2 ^ 53
  maxCostCents : 0 < budget.maxCostCents ∧ budget.maxCostCents < 2 ^ 53
  maxDurationMs : 0 < budget.maxDurationMs ∧ budget.maxDurationMs < 2 ^ 53

/-- The grants that Core accepts. -/
structure Acceptable (grant : BridgeSkillGrant) : Prop where
  noDescriptor : grant.confirmation = none
  skillId : grant.skillId ≠ ""
  packId : grant.packId ≠ ""
  packVersion : grant.packVersion ≠ ""
  profileVersion : grant.profileVersion ≠ ""
  budget : UsableBudget grant.budget

theorem isStringArray_textsJson (texts : List String) :
    isStringArray (some (textsJson texts)) = some texts := by
  induction texts with
  | nil => rfl
  | cons text rest ih =>
    simp only [isStringArray, textsJson, map_cons, mapM_cons] at ih ⊢
    rw [ih]
    rfl

theorem nonemptyText_eq_some_iff (content other : String) :
    nonemptyText (some (.text content)) = some other ↔ content ≠ "" ∧ other = content := by
  simp only [nonemptyText]
  split
  · next isEmpty => simp [isEmpty]
  · next notEmpty => simp [notEmpty, eq_comm]

theorem positiveSafeInteger_eq_some_iff (value other : Int) :
    positiveSafeInteger (some (integerJson value)) = some other ↔
      (0 < value ∧ value < 2 ^ 53) ∧ other = value := by
  change (DoubleNumber.safeInteger (toString value)).filter _ = some other ↔ _
  rw [DoubleNumber.filter_safeInteger_toString, Option.ite_none_right_eq_some, Option.some.injEq,
    eq_comm]

theorem isBudget_eq_some_iff (budget other : CoreBudget) :
    isBudget (some (budgetJson budget)) = some other ↔ UsableBudget budget ∧ other = budget := by
  have keys : "|".intercalate (sortedByCodeUnits ["maxTokens", "maxCostCents", "maxDurationMs"]) =
      "maxCostCents|maxDurationMs|maxTokens" := by decide
  simp only [isBudget, budgetJson, keyText, map_cons, map_nil, keys, if_true, bind,
    Option.bind_eq_some_iff, lookup_cons, beq_self_eq_true, String.reduceBEq,
    positiveSafeInteger_eq_some_iff, Option.some.injEq]
  constructor
  · rintro ⟨_, ⟨tokens, rfl⟩, _, ⟨cost, rfl⟩, _, ⟨duration, rfl⟩, same⟩
    exact ⟨⟨tokens, cost, duration⟩, same.symm⟩
  · rintro ⟨⟨tokens, cost, duration⟩, rfl⟩
    exact ⟨_, ⟨tokens, rfl⟩, _, ⟨cost, rfl⟩, _, ⟨duration, rfl⟩, rfl⟩

variable (grant : BridgeSkillGrant)

theorem keyText_grantFields :
    keyText (grantFields grant) = "|".intercalate (sortedByCodeUnits expectedKeys) := by
  have keys : sortedByCodeUnits ["skillId", "packId", "packVersion", "profileVersion",
      "requiredPermissions", "profilePermissions", "packPermissions", "tenantPermissions",
      "devicePermissions", "budget"] = sortedByCodeUnits expectedKeys := by decide
  exact congrArg "|".intercalate keys

theorem keyText_confirmation (descriptor : JsonValue) :
    keyText (grantFields grant ++ [("confirmation", descriptor)]) ≠
      "|".intercalate (sortedByCodeUnits expectedKeys) := by
  have keys : "|".intercalate (sortedByCodeUnits ["skillId", "packId", "packVersion",
      "profileVersion", "requiredPermissions", "profilePermissions", "packPermissions",
      "tenantPermissions", "devicePermissions", "budget", "confirmation"]) ≠
        "|".intercalate (sortedByCodeUnits expectedKeys) := by decide
  exact keys

theorem grantOf_grantFields_eq_some_iff (grant other : BridgeSkillGrant)
    (noDescriptor : grant.confirmation = none) :
    grantOf (grantFields grant) = some other ↔ Acceptable grant ∧ other = grant := by
  rw [grantOf, if_pos (keyText_grantFields grant)]
  simp only [grantFields, bind, Option.bind_eq_some_iff, lookup_cons, beq_self_eq_true,
    String.reduceBEq, nonemptyText_eq_some_iff, isStringArray_textsJson, isBudget_eq_some_iff,
    Option.some.injEq]
  constructor
  · rintro ⟨_, ⟨skillId, rfl⟩, _, ⟨packId, rfl⟩, _, ⟨packVersion, rfl⟩, _, ⟨profileVersion, rfl⟩,
      _, rfl, _, rfl, _, rfl, _, rfl, _, rfl, _, ⟨budget, rfl⟩, same⟩
    refine ⟨⟨noDescriptor, skillId, packId, packVersion, profileVersion, budget⟩, ?_⟩
    rw [← same, ← noDescriptor]
  · rintro ⟨⟨-, skillId, packId, packVersion, profileVersion, budget⟩, rfl⟩
    refine ⟨_, ⟨skillId, rfl⟩, _, ⟨packId, rfl⟩, _, ⟨packVersion, rfl⟩, _, ⟨profileVersion, rfl⟩,
      _, rfl, _, rfl, _, rfl, _, rfl, _, rfl, _, ⟨budget, rfl⟩, ?_⟩
    rw [← noDescriptor]

theorem parseGrant_eq_ok_iff (agentId : String) (grant other : BridgeSkillGrant) :
    parseGrant agentId (grantJson grant) = .ok other ↔ Acceptable grant ∧ other = grant := by
  cases descriptor : grant.confirmation with
  | some content =>
    have refused : grantOf (grantFields grant ++ [("confirmation", descriptorJson content)]) =
        none := if_neg (keyText_confirmation grant _)
    have fields : grantJson grant =
        .record (grantFields grant ++ [("confirmation", descriptorJson content)]) := by
      simp [grantJson, descriptor]
    rw [fields, parseGrant, require_eq_ok, refused]
    constructor
    · intro bad
      cases bad
    · rintro ⟨acceptable, -⟩
      rw [acceptable.noDescriptor] at descriptor
      cases descriptor
  | none =>
    have fields : grantJson grant = .record (grantFields grant) := by
      simp [grantJson, descriptor]
    rw [fields, parseGrant, require_eq_ok]
    exact grantOf_grantFields_eq_some_iff grant other descriptor

theorem parseEntry_eq_ok_iff (entry other : String × List BridgeSkillGrant) :
    parseEntry (entryJson entry) = .ok other ↔
      (entry.1 ≠ "" ∧ ∀ grant ∈ entry.2, Acceptable grant) ∧ other = entry := by
  obtain ⟨agentId, grants⟩ := entry
  change (if agentId = "" then error "Bridge policy agent 条目无效"
    else ((grants.map grantJson).mapM (parseGrant agentId)).map fun parsed => (agentId, parsed)) =
      .ok other ↔ (agentId ≠ "" ∧ ∀ grant ∈ grants, Acceptable grant) ∧ other = (agentId, grants)
  by_cases isEmpty : agentId = ""
  · rw [if_pos isEmpty]
    constructor
    · intro bad
      cases bad
    · rintro ⟨⟨notEmpty, -⟩, -⟩
      exact absurd isEmpty notEmpty
  · rw [if_neg isEmpty]
    constructor
    · intro parsed
      cases read : (grants.map grantJson).mapM (parseGrant agentId) with
      | error problem =>
        rw [read] at parsed
        cases parsed
      | ok results =>
        obtain ⟨acceptable, rfl⟩ := (mapM_map_eq_ok_iff (parseGrant_eq_ok_iff agentId)).mp read
        rw [read] at parsed
        exact ⟨⟨isEmpty, acceptable⟩, (ok.inj parsed).symm⟩
    · rintro ⟨⟨-, acceptable⟩, rfl⟩
      rw [(mapM_map_eq_ok_iff (parseGrant_eq_ok_iff agentId)).mpr ⟨acceptable, rfl⟩]
      rfl

theorem wellFormed_textsJson (texts : List String) : (textsJson texts).WellFormed :=
  wellFormed_texts texts

theorem wellFormed_budgetJson (budget : CoreBudget) : (budgetJson budget).WellFormed :=
  wellFormed_of_names ["maxTokens", "maxCostCents", "maxDurationMs"] rfl (by decide)
    (by decide) (by simp [integerJson, JsonValue.WellFormed.number])

theorem wellFormed_descriptorJson (descriptor : BridgeConfirmationDescriptor) :
    (descriptorJson descriptor).WellFormed := by
  have data : JsonValue.WellFormed (.array (descriptor.dataFields.map fun item =>
      .record [("label", .text item.1), ("field", .text item.2)])) := by
    refine .array fun item mem => ?_
    obtain ⟨pair, -, rfl⟩ := mem_map.mp mem
    exact wellFormed_of_names ["label", "field"] rfl (by decide) (by decide)
      (by simp [JsonValue.WellFormed.text])
  unfold descriptorJson
  cases descriptor.recipientField with
  | none =>
    exact wellFormed_of_names ["action", "object", "dataFields", "estimatedCostCents"]
      rfl (by decide) (by decide)
      (by simp [integerJson, JsonValue.WellFormed.text, JsonValue.WellFormed.number, data])
  | some field =>
    exact wellFormed_of_names
      ["action", "object", "recipientField", "dataFields", "estimatedCostCents"]
      rfl (by decide) (by decide)
      (by simp [integerJson, JsonValue.WellFormed.text, JsonValue.WellFormed.number, data])

def grantKeys : List String :=
  ["skillId", "packId", "packVersion", "profileVersion", "requiredPermissions",
    "profilePermissions", "packPermissions", "tenantPermissions", "devicePermissions", "budget"]

theorem wellFormed_grantJson : (grantJson grant).WellFormed := by
  have fields : ∀ field ∈ grantFields grant, field.2.WellFormed := by
    simp [grantFields, JsonValue.WellFormed.text, wellFormed_textsJson, wellFormed_budgetJson]
  unfold grantJson
  cases grant.confirmation with
  | none =>
    exact wellFormed_of_names grantKeys rfl (by decide) (by decide) (by simpa using fields)
  | some descriptor =>
    refine wellFormed_of_names (grantKeys ++ ["confirmation"]) rfl (by decide) (by decide) ?_
    intro field mem
    rcases mem_append.mp mem with inFields | inDescriptor
    · exact fields field inFields
    · rw [mem_singleton.mp inDescriptor]
      exact wellFormed_descriptorJson descriptor

theorem numerals_integerJson (value : Int) : (integerJson value).Numerals :=
  .number (DoubleNumber.isSome_readNumeral_toString value)

theorem numerals_textsJson (texts : List String) : (textsJson texts).Numerals := by
  refine .array fun item mem => ?_
  obtain ⟨text, -, rfl⟩ := mem_map.mp mem
  exact .text text

theorem numerals_descriptorJson (descriptor : BridgeConfirmationDescriptor) :
    (descriptorJson descriptor).Numerals := by
  have data : JsonValue.Numerals (.array (descriptor.dataFields.map fun item =>
      .record [("label", .text item.1), ("field", .text item.2)])) := by
    refine .array fun item mem => ?_
    obtain ⟨pair, -, rfl⟩ := mem_map.mp mem
    exact .record (by simp [JsonValue.Numerals.text])
  refine .record fun field mem => ?_
  simp only [mem_append, mem_cons, not_mem_nil, or_false, Option.mem_toList,
    Option.map_eq_some_iff] at mem
  rcases mem with ((rfl | rfl) | ⟨name, -, rfl⟩) | rfl | rfl
  · exact .text _
  · exact .text _
  · exact .text _
  · exact data
  · exact numerals_integerJson _

theorem numerals_grantJson : (grantJson grant).Numerals := by
  have budget : (budgetJson grant.budget).Numerals := .record (by simp [numerals_integerJson])
  refine .record fun field mem => ?_
  rcases mem_append.mp mem with inFields | inDescriptor
  · have fields : ∀ field ∈ grantFields grant, field.2.Numerals := by
      simp [grantFields, JsonValue.Numerals.text, numerals_textsJson, budget]
    exact fields field inFields
  · obtain ⟨descriptor, -, rfl⟩ := Option.map_eq_some_iff.mp (Option.mem_toList.mp inDescriptor)
    exact numerals_descriptorJson descriptor

def agentLe (one other : String × List BridgeSkillGrant) : Prop :=
  mayPrecede one.1 other.1 = true

instance : DecidableRel agentLe := fun one other =>
  inferInstanceAs (Decidable (mayPrecede one.1 other.1 = true))

theorem objectOf_entries {entries : List (String × List BridgeSkillGrant)}
    (distinct : (entries.map fst).Nodup) :
    objectOf (entries.map entryJson) = (entries.insertionSort agentLe).map entryJson := by
  have keys : ((entries.map entryJson).map fst).Nodup := by
    rw [List.map_map]
    exact distinct
  have assigned : (entries.map entryJson).foldl assign [] = entries.map entryJson :=
    foldl_assign_of_nodup keys
  rw [objectOf, assigned]
  exact (map_insertionSort agentLe _ entryJson entries fun _ _ _ _ => Iff.rfl).symm

variable (policy : BridgeExecutionPolicy)

theorem parse_policyJson :
    ∃ entries : List (String × List BridgeSkillGrant), entries.Perm policy.entries ∧
      parse (policyJson policy).print = some (.record (entries.map entryJson)) := by
  have each (entry : String × List BridgeSkillGrant) : (entryJson entry).2.WellFormed := by
    refine .array fun item mem => ?_
    obtain ⟨grant, -, rfl⟩ := mem_map.mp mem
    exact wellFormed_grantJson grant
  let sorted := policy.entries.insertionSort agentLe
  have perm : sorted.Perm policy.entries := perm_insertionSort _ _
  have distinct : (sorted.map fst).Nodup := (perm.map fst).nodup_iff.mpr policy.nodupKeys
  have object : policyJson policy = .record (sorted.map entryJson) :=
    congrArg record (objectOf_entries policy.nodupKeys)
  have numerals : (policyJson policy).Numerals := by
    rw [object]
    refine .record fun field mem => ?_
    obtain ⟨entry, -, rfl⟩ := mem_map.mp mem
    refine .array fun item itemIn => ?_
    obtain ⟨grant, -, rfl⟩ := mem_map.mp itemIn
    exact numerals_grantJson grant
  have read := parse_of_writes (writes_print numerals) isSpace_nil
  have normal : normalizeFields (sorted.map entryJson) = sorted.map entryJson := by
    rw [normalizeFields_eq, List.map_map]
    apply map_congr_left
    intro entry _
    exact Prod.ext rfl (normalize_of_wellFormed (each entry))
  refine ⟨sorted.insertionSort agentLe, (perm_insertionSort _ _).trans perm, ?_⟩
  rw [append_nil] at read
  rw [read, object, JsonValue.normalize, normal, objectOf_entries distinct]

def AcceptablePolicy : Prop :=
  ∀ entry ∈ policy.entries, entry.1 ≠ "" ∧ ∀ grant ∈ entry.2, Acceptable grant

theorem agrees_iff_acceptable : Agrees policy ↔ AcceptablePolicy policy := by
  obtain ⟨entries, perm, read⟩ := parse_policyJson policy
  have received (accepted : BridgeExecutionPolicy) :
      receivePolicy (policyJson policy).print = .ok accepted ↔
        AcceptablePolicy policy ∧ accepted = empty.setAll entries := by
    rw [receivePolicy, read]
    simp only [parseBridgePolicy]
    constructor
    · intro parsed
      cases results : (entries.map entryJson).mapM parseEntry with
      | error problem =>
        rw [results] at parsed
        cases parsed
      | ok found =>
        obtain ⟨acceptable, rfl⟩ := (mapM_map_eq_ok_iff parseEntry_eq_ok_iff).mp results
        rw [results] at parsed
        exact ⟨fun entry mem => acceptable entry (perm.mem_iff.mpr mem),
          (ok.inj parsed).symm⟩
    · rintro ⟨acceptable, rfl⟩
      have results := (mapM_map_eq_ok_iff parseEntry_eq_ok_iff).mpr
        ⟨fun entry mem => acceptable entry (perm.mem_iff.mp mem), rfl⟩
      rw [results]
      rfl
  have distinct : (entries.map fst).Nodup := (perm.map fst).nodup_iff.mpr policy.nodupKeys
  have same : SamePolicy (empty.setAll entries) policy := by
    have listed : (empty.setAll entries).entries = [] ++ entries := entries_setAll_of_nodup distinct
    rw [SamePolicy, listed]
    exact perm
  constructor
  · rintro ⟨accepted, parsed, -⟩
    exact ((received accepted).mp parsed).1
  · intro acceptable
    exact ⟨_, (received _).mpr ⟨acceptable, rfl⟩, same⟩

end CoreProcess

structure EnabledProfiles where
  sources : List EnabledAgentProfile
  distinct : (sources.map fun source => source.registry.agentId).Nodup
  agentIds : ∀ source ∈ sources, source.registry.agentId ≠ ""
  packIds : ∀ source ∈ sources, source.manifest.packId ≠ ""
  packVersions : ∀ source ∈ sources, source.manifest.packVersion ≠ ""
  profileVersions : ∀ source ∈ sources, source.profile.version ≠ ""

structure BridgeConstraint.LeavesOpen (constraint : BridgeConstraint) (agentId skillId : String) :
    Prop where
  write : bridgeConfirmationDescriptors.lookup skillId = none ∨ constraint.writeAllowed = true
  bound : constraint.managed skillId = true → (agentId, skillId) ∈ constraint.installedSkills

/-- The Skill is offered, the profile uses it, and every constraint leaves it. -/
structure Granted (constraints : List BridgeConstraint) (source : EnabledAgentProfile)
    (skillId : String) : Prop where
  offered : skillId ∈ bridgeSkillPermissions.map fst
  used : ∃ capability ∈ source.profile.capabilities, skillId ∈ capability.skillIds
  leftOpen : ∀ constraint ∈ constraints, constraint.LeavesOpen source.registry.agentId skillId

def sentPolicy (enabled : EnabledProfiles) (limits : ToolBridgePolicyLimits)
    (constraints : List BridgeConstraint) : BridgeExecutionPolicy :=
  constrainAll constraints (buildToolBridgePolicyWithin enabled.sources limits)

theorem entries_constrainAll (constraints : List BridgeConstraint)
    (policy : BridgeExecutionPolicy) :
    (constrainAll constraints policy).entries = policy.entries.map fun entry =>
      (entry.1, entry.2.filter fun grant =>
        constraints.all fun constraint => constraint.keeps entry.1 grant) := by
  induction constraints generalizing policy with
  | nil => simp [constrainAll]
  | cons constraint rest ih =>
    have step : (constrainAll (constraint :: rest) policy).entries =
        (constrainAll rest (constraint.constrainBridgePolicy policy)).entries := rfl
    rw [step, ih, BridgeConstraint.constrainBridgePolicy, mapValues, List.map_map]
    apply map_congr_left
    intro entry _
    simp [filter_filter, Bool.and_comm]

theorem entries_sentPolicy (enabled : EnabledProfiles) (limits : ToolBridgePolicyLimits)
    (constraints : List BridgeConstraint) :
    (sentPolicy enabled limits constraints).entries = enabled.sources.map fun source =>
      (source.registry.agentId, (bridgeGrantsWithin limits source).filter fun grant =>
        constraints.all fun constraint => constraint.keeps source.registry.agentId grant) := by
  have built : (buildToolBridgePolicyWithin enabled.sources limits).entries =
      [] ++ enabled.sources.map fun source =>
        (source.registry.agentId, bridgeGrantsWithin limits source) := by
    apply entries_setAll_of_nodup
    have keys := enabled.distinct
    simpa [empty, Function.comp_def] using keys
  rw [sentPolicy, entries_constrainAll, built, nil_append, List.map_map]
  rfl

theorem keeps_iff (constraint : BridgeConstraint) (agentId : String) (grant : BridgeSkillGrant)
    (descriptor : grant.confirmation = bridgeConfirmationDescriptors.lookup grant.skillId) :
    constraint.keeps agentId grant = true ↔ constraint.LeavesOpen agentId grant.skillId := by
  simp only [BridgeConstraint.keeps, Bool.and_eq_true, Bool.or_eq_true, Option.isNone_iff_eq_none,
    descriptor, Bool.not_eq_true', decide_eq_true_eq]
  constructor
  · rintro ⟨write, bound⟩
    refine ⟨write, fun managed => bound.resolve_left fun notManaged => ?_⟩
    rw [managed] at notManaged
    cases notManaged
  · rintro ⟨write, bound⟩
    refine ⟨write, ?_⟩
    cases managed : constraint.managed grant.skillId with
    | false => exact .inl rfl
    | true => exact .inr (bound managed)

theorem forall_grant_iff {limits : ToolBridgePolicyLimits} {source : EnabledAgentProfile}
    {condition : BridgeSkillGrant → Prop} :
    (∀ grant ∈ bridgeGrantsWithin limits source, condition grant) ↔
      ∀ skill ∈ bridgeSkillPermissions,
        ∀ permissions ∈ profilePermissionsFor source.profile skill.1,
        condition
          { skillId := skill.1
            packId := source.manifest.packId
            packVersion := source.manifest.packVersion
            profileVersion := source.profile.version
            requiredPermissions := sortedByCodeUnits skill.2
            profilePermissions := sortedByCodeUnits permissions
            packPermissions := sortedByCodeUnits (packPermissionsFor source skill.1)
            tenantPermissions :=
              sortedByCodeUnits (limits.tenantPermissions.getD productPermissionCeiling)
            devicePermissions :=
              sortedByCodeUnits (limits.devicePermissions.getD productPermissionCeiling)
            budget := limits.budget.getD defaultBridgeBudget
            confirmation := bridgeConfirmationDescriptors.lookup skill.1 } := by
  constructor
  · intro each skill skillIn permissions declared
    apply each
    apply mem_filterMap.mpr
    exact ⟨skill, (mem_insertionSort _).mpr skillIn,
      Option.map_eq_some_iff.mpr ⟨permissions, declared, rfl⟩⟩
  · intro each grant mem
    obtain ⟨skill, skillIn, mapped⟩ := mem_filterMap.mp mem
    obtain ⟨permissions, declared, rfl⟩ := Option.map_eq_some_iff.mp mapped
    exact each skill ((mem_insertionSort _).mp skillIn) permissions declared

theorem isSome_profilePermissionsFor (profile : AgentProfile) (skillId : String) :
    (∃ permissions, profilePermissionsFor profile skillId = some permissions) ↔
      ∃ capability ∈ profile.capabilities, skillId ∈ capability.skillIds := by
  simp only [profilePermissionsFor]
  split
  · next none =>
    rw [filter_eq_nil_iff] at none
    constructor
    · rintro ⟨permissions, bad⟩
      cases bad
    · rintro ⟨capability, mem, uses⟩
      exact absurd (decide_eq_true uses) (none capability mem)
  · next some =>
    constructor
    · intro _
      obtain ⟨capability, mem⟩ := exists_mem_of_ne_nil _ some
      rw [mem_filter] at mem
      exact ⟨capability, mem.1, of_decide_eq_true mem.2⟩
    · intro _
      exact ⟨_, rfl⟩

theorem policyAgrees_iff (enabled : EnabledProfiles) (limits : ToolBridgePolicyLimits)
    (constraints : List BridgeConstraint) :
    CoreProcess.Agrees (sentPolicy enabled limits constraints) ↔
      ∀ source ∈ enabled.sources, ∀ skillId, Granted constraints source skillId →
        bridgeConfirmationDescriptors.lookup skillId = none ∧
          CoreProcess.UsableBudget (limits.budget.getD defaultBridgeBudget) := by
  rw [CoreProcess.agrees_iff_acceptable, CoreProcess.AcceptablePolicy, entries_sentPolicy,
    forall_mem_map]
  apply forall₂_congr
  intro source sourceIn
  simp only [mem_filter, all_eq_true, and_imp]
  rw [forall_grant_iff]
  have opens (skill : String × List String) (grant : BridgeSkillGrant)
      (isSkill : grant.skillId = skill.1)
      (descriptor : grant.confirmation = bridgeConfirmationDescriptors.lookup skill.1) :
      (∀ constraint ∈ constraints, constraint.keeps source.registry.agentId grant = true) ↔
        ∀ constraint ∈ constraints, constraint.LeavesOpen source.registry.agentId skill.1 := by
    apply forall₂_congr
    intro constraint _
    rw [keeps_iff constraint _ grant (descriptor.trans (by rw [isSkill])), isSkill]
  constructor
  · rintro ⟨-, each⟩ skillId ⟨offered, used, leftOpen⟩
    obtain ⟨skill, skillIn, rfl⟩ := mem_map.mp offered
    obtain ⟨permissions, declared⟩ := (isSome_profilePermissionsFor _ _).mpr used
    have acceptable :=
      each skill skillIn permissions declared ((opens skill _ rfl rfl).mpr leftOpen)
    exact ⟨acceptable.noDescriptor, acceptable.budget⟩
  · intro each
    refine ⟨enabled.agentIds source sourceIn, ?_⟩
    intro skill skillIn permissions declared kept
    have used := (isSome_profilePermissionsFor _ _).mp ⟨permissions, declared⟩
    obtain ⟨noDescriptor, budget⟩ := each skill.1
      ⟨mem_map_of_mem skillIn, used, (opens skill _ rfl rfl).mp kept⟩
    have named : ∀ skill ∈ bridgeSkillPermissions, skill.1 ≠ "" := by decide
    exact ⟨noDescriptor, named skill skillIn, enabled.packIds source sourceIn,
      enabled.packVersions source sourceIn, enabled.profileVersions source sourceIn, budget⟩

def recruiterProfiles : EnabledProfiles where
  sources := [⟨recruiterEntry, recruiterPack.manifest, recruiterProfile⟩]
  distinct := nodup_singleton _
  agentIds := by decide
  packIds := by decide
  packVersions := by decide
  profileVersions := by decide

/-- The grant for offer letters carries a descriptor, and Core refuses the policy. -/
theorem not_policyAgrees : ¬ ∀ (enabled : EnabledProfiles) (limits : ToolBridgePolicyLimits)
    (constraints : List BridgeConstraint),
    CoreProcess.Agrees (sentPolicy enabled limits constraints) := by
  intro claim
  have agrees := claim recruiterProfiles .none [recruiterConstraint]
  have acceptable := (CoreProcess.agrees_iff_acceptable _).mp agrees
  have carries : (sentPolicy recruiterProfiles .none [recruiterConstraint]).entries.any
      (fun entry => entry.2.any fun grant => grant.confirmation.isSome) = true := by
    decide
  obtain ⟨entry, entryIn, someGrant⟩ := any_eq_true.mp carries
  obtain ⟨grant, grantIn, descriptor⟩ := any_eq_true.mp someGrant
  rw [((acceptable entry entryIn).2 grant grantIn).noDescriptor] at descriptor
  cases descriptor

end LongHub
