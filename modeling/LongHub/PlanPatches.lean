import LongHub.CloudSkillStore
import LongHub.ExceptChecks
import LongHub.JsonRoundTrip

/-!
# Updates of cloud skill plans

The admin route passes any JSON object to `updateCloudSkillPlan`, which checks some of its fields
and assigns all of them to the stored plan.
-/

namespace LongHub

open Except List
namespace CloudSkillPlans

open CloudSkillTables (isPlanId isSkillId isPlanName)
open JsonValue (assign lookup_assign lookup_cons_eq)

abbrev Fields := List (String × JsonValue)

abbrev Plans := InsertionMap String Fields

structure JsonObject where
  fields : Fields
  distinct : (fields.map Prod.fst).Nodup

mutual

/-- How a regular expression reads a value. -/
def textOf : JsonValue → String
  | .null => "null"
  | .bool value => if value then "true" else "false"
  | .number literal => literal
  | .text content => content
  | .array items => ",".intercalate (itemTexts items)
  | .record _ => "[object Object]"

def itemTexts : List JsonValue → List String
  | [] => []
  | .null :: rest => "" :: itemTexts rest
  | item :: rest => textOf item :: itemTexts rest

end

def sameItem : JsonValue → JsonValue → Bool
  | .null, .null => true
  | .bool one, .bool other => one = other
  | .number one, .number other => one = other
  | .text one, .text other => one = other
  | _, _ => false

def distinctItems (items : List JsonValue) : List JsonValue := items.eraseDupsBy sameItem

def isCount : JsonValue → Bool
  | .number literal => (DoubleNumber.safeInteger literal).any (0 ≤ ·)
  | _ => false

def isPositive : JsonValue → Bool
  | .number literal => (DoubleNumber.safeInteger literal).any (0 < ·)
  | _ => false

def inputError (field : String) : String := "INVALID_CLOUD_SKILL_PLAN:" ++ field

def orElse (value : Option JsonValue) (fallback : JsonValue) : JsonValue :=
  match value with
  | none | some .null => fallback
  | some value => value

/-- What the admin route passes: it checks the types of the fields that have to be there. -/
structure PlanParams where
  planId : String
  name : String
  description : Option JsonValue
  skillIds : List JsonValue
  priceMonthlyFen : String
  priceYearlyFen : String
  includedCalls : Option JsonValue
  requestsPerMinute : Option JsonValue
  maxConcurrency : Option JsonValue
  status : Option JsonValue

def createCloudSkillPlan (plans : Plans) (now : String) (params : PlanParams) :
    Except String (Fields × Plans) := do
  .ensure (isPlanId params.planId) (inputError "plan_id")
  .ensure (isPlanName params.name) (inputError "name")
  let skillIds := distinctItems params.skillIds
  .ensure (skillIds ≠ [] && skillIds.all fun item => isSkillId (textOf item))
    (inputError "skill_ids")
  .ensure (skillIds.length = params.skillIds.length) (inputError "skill_ids_duplicate")
  let includedCalls := orElse params.includedCalls (.number "1000")
  let requestsPerMinute := orElse params.requestsPerMinute (.number "60")
  let maxConcurrency := orElse params.maxConcurrency (.number "2")
  .ensure ([.number params.priceMonthlyFen, .number params.priceYearlyFen, includedCalls,
    requestsPerMinute, maxConcurrency].all isCount) (inputError "limits")
  .ensure (isPositive requestsPerMinute && isPositive maxConcurrency) (inputError "limits")
  .ensure (plans.get? params.planId).isNone "CLOUD_SKILL_PLAN_EXISTS"
  let record : Fields := [("plan_id", .text params.planId), ("name", .text params.name),
    ("description", orElse params.description (.text "")), ("skill_ids", .array skillIds),
    ("price_monthly_fen", .number params.priceMonthlyFen),
    ("price_yearly_fen", .number params.priceYearlyFen), ("included_calls", includedCalls),
    ("requests_per_minute", requestsPerMinute), ("max_concurrency", maxConcurrency),
    ("status", orElse params.status (.text "listed")), ("created_at", .text now)]
  return (record, plans.set params.planId record)

def checkName : Option JsonValue → Except String Unit
  | none => .ok ()
  | some (.text name) => .ensure (isPlanName name) (inputError "name")
  | some _ => .error "TypeError"

def checkSkillIds (patch : Fields) : Except String Fields :=
  match patch.lookup "skill_ids" with
  | none => .ok patch
  | some (.array items) => do
    let skillIds := distinctItems items
    .ensure (skillIds ≠ [] && decide (skillIds.length = items.length) &&
      skillIds.all fun item => isSkillId (textOf item)) (inputError "skill_ids")
    return assign patch ("skill_ids", .array skillIds)
  -- a text is a list of its characters, none of which is the id of a skill
  | some .null | some (.text _) => .error (inputError "skill_ids")
  | some _ => .error "TypeError"

def countFields : List String :=
  ["price_monthly_fen", "price_yearly_fen", "included_calls", "requests_per_minute",
    "max_concurrency"]

def positiveFields : List String := ["requests_per_minute", "max_concurrency"]

def checkPatch (patch : Fields) : Except String Fields := do
  checkName (patch.lookup "name")
  let checked ← checkSkillIds patch
  countFields.forM fun key => .ensure ((checked.lookup key).all isCount) (inputError key)
  positiveFields.forM fun key => .ensure ((checked.lookup key).all isPositive) (inputError key)
  return checked

def assignAll (current patch : Fields) : Fields :=
  (patch.filter fun field => field.1 ∉ ["__proto__"]).foldl assign current

def updateCloudSkillPlan (plans : Plans) (planId : String) (patch : JsonObject) :
    Except String (Option Fields × Plans) :=
  match plans.get? planId with
  | none => .ok (none, plans)
  | some current => do
    let checked ← checkPatch patch.fields
    let updated := assignAll current checked
    return (some updated, plans.set planId updated)

inductive PlanCall where
  | create (now : String) (params : PlanParams)
  | update (planId : String) (patch : JsonObject)

def after (plans : Plans) : PlanCall → Plans
  | .create now params =>
    match createCloudSkillPlan plans now params with
    | .ok (_, next) => next
    | .error _ => plans
  | .update planId patch =>
    match updateCloudSkillPlan plans planId patch with
    | .ok (_, next) => next
    | .error _ => plans

def AreSkillIds (items : List JsonValue) : Prop :=
  distinctItems items = items ∧ items ≠ [] ∧ ∀ item ∈ items, isSkillId (textOf item) = true

structure PlanValid (planId : String) (plan : Fields) : Prop where
  own : plan.lookup "plan_id" = some (.text planId)
  isId : isPlanId planId = true
  name : ∃ name, plan.lookup "name" = some (.text name) ∧ isPlanName name = true
  skillIds : ∃ items, plan.lookup "skill_ids" = some (.array items) ∧ AreSkillIds items
  counts : ∀ key ∈ countFields, ∃ count, plan.lookup key = some count ∧ isCount count = true
  positive : ∀ key ∈ positiveFields, ∃ count, plan.lookup key = some count ∧ isPositive count = true

def Valid (plans : Plans) : Prop :=
  ∀ planId plan, plans.get? planId = some plan → PlanValid planId plan

def PlanCall.KeepsId : PlanCall → Prop
  | .create _ _ => True
  | .update planId patch => ∀ value, patch.fields.lookup "plan_id" = some value →
      value = .text planId

theorem eraseDupsBy_sublist {α : Type} (same : α → α → Bool) (size : Nat) {items : List α}
    (small : items.length ≤ size) : (items.eraseDupsBy same).Sublist items := by
  induction size generalizing items with
  | zero =>
    rw [length_eq_zero_iff.mp (Nat.le_zero.mp small)]
    exact .slnil
  | succ size ih =>
    cases items with
    | nil => exact .slnil
    | cons item rest =>
      rw [eraseDupsBy_cons]
      have shorter := length_filter_le (fun other => same other item = false) rest
      rw [length_cons] at small
      exact .cons_cons item ((ih (by omega)).trans filter_sublist)

theorem distinctItems_eq {items : List JsonValue}
    (length : (distinctItems items).length = items.length) : distinctItems items = items :=
  (eraseDupsBy_sublist sameItem items.length le_rfl).eq_of_length length

structure Checked (patch checked : Fields) : Prop where
  keys : checked.map Prod.fst = patch.map Prod.fst
  other : ∀ key, key ≠ "skill_ids" → checked.lookup key = patch.lookup key
  name : ∀ value, checked.lookup "name" = some value →
    ∃ name, value = .text name ∧ isPlanName name = true
  skillIds : ∀ value, checked.lookup "skill_ids" = some value →
    ∃ items, value = .array items ∧ AreSkillIds items
  counts : ∀ key ∈ countFields, ∀ count, checked.lookup key = some count → isCount count = true
  positive : ∀ key ∈ positiveFields, ∀ count,
    checked.lookup key = some count → isPositive count = true

theorem checkSkillIds_cases {patch checked : Fields} (isOk : checkSkillIds patch = .ok checked) :
    (checked = patch ∧ patch.lookup "skill_ids" = none) ∨ ∃ items, AreSkillIds items ∧
      checked = assign patch ("skill_ids", .array items) ∧
      (patch.lookup "skill_ids").isSome = true := by
  unfold checkSkillIds at isOk
  split at isOk
  · next absent =>
    cases isOk
    exact .inl ⟨rfl, absent⟩
  · next items present =>
    obtain ⟨_, ensured, isEnd⟩ := bind_eq_ok_iff.mp isOk
    simp only [ensure_eq_ok, Bool.and_eq_true, decide_eq_true_eq, all_eq_true] at ensured
    have same := distinctItems_eq ensured.1.2
    rw [same] at ensured
    cases isEnd
    rw [same, present]
    exact .inr ⟨items, ⟨same, ensured.1.1, ensured.2⟩, rfl, rfl⟩
  all_goals cases isOk

theorem checked_of_checkPatch {patch checked : Fields} (isOk : checkPatch patch = .ok checked) :
    Checked patch checked := by
  obtain ⟨_, named, isOk⟩ := bind_eq_ok_iff.mp isOk
  obtain ⟨found, skills, isOk⟩ := bind_eq_ok_iff.mp isOk
  obtain ⟨_, counted, isOk⟩ := bind_eq_ok_iff.mp isOk
  obtain ⟨_, positive, isEnd⟩ := bind_eq_ok_iff.mp isOk
  cases isEnd
  rw [forM_eq_ok_iff] at counted positive
  have other : ∀ key, key ≠ "skill_ids" → checked.lookup key = patch.lookup key := by
    intro key differ
    rcases checkSkillIds_cases skills with ⟨rfl, -⟩ | ⟨items, -, rfl, -⟩
    · rfl
    · rw [lookup_assign, if_neg differ]
  constructor
  · rcases checkSkillIds_cases skills with ⟨rfl, -⟩ | ⟨items, -, rfl, present⟩
    · rfl
    · exact JsonValue.keys_assign (JsonValue.isSome_lookup.mp present)
  · exact other
  · intro value isName
    rw [other "name" (by decide)] at isName
    rw [isName] at named
    cases value with
    | text name => exact ⟨name, rfl, by simpa [checkName] using named⟩
    | _ => cases named
  · intro value isSkills
    rcases checkSkillIds_cases skills with ⟨rfl, absent⟩ | ⟨items, areIds, rfl, -⟩
    · rw [absent] at isSkills
      cases isSkills
    · rw [lookup_assign, if_pos rfl] at isSkills
      exact ⟨items, (Option.some.inj isSkills).symm, areIds⟩
  · intro key mem count isCount
    simpa [isCount] using counted key mem
  · intro key mem count isCount
    simpa [isCount] using positive key mem

theorem lookup_foldl_assign {current fields : Fields} (distinct : (fields.map Prod.fst).Nodup)
    (key : String) :
    (fields.foldl assign current).lookup key = (fields.lookup key).or (current.lookup key) := by
  induction fields generalizing current with
  | nil => rfl
  | cons field rest ih =>
    obtain ⟨isNew, distinct⟩ := nodup_cons.mp distinct
    rw [foldl_cons, ih distinct, lookup_assign, lookup_cons_eq]
    by_cases same : key = field.1
    · have absent : rest.lookup key = none := by
        rw [← Option.not_isSome_iff_eq_none, JsonValue.isSome_lookup, same]
        exact isNew
      rw [if_pos same, absent, Option.none_or]
      simp [same]
    · simp [same]

theorem valid_set {plans : Plans} (valid : Valid plans) {planId : String} {plan : Fields}
    (isValid : PlanValid planId plan) : Valid (plans.set planId plan) := by
  intro other found stored
  rw [InsertionMap.get?_set] at stored
  split at stored
  · next same =>
    cases stored
    rw [same]
    exact isValid
  · exact valid other found stored

theorem valid_create {plans next : Plans} (valid : Valid plans) {now : String} {params : PlanParams}
    {plan : Fields} (created : createCloudSkillPlan plans now params = .ok (plan, next)) :
    Valid next := by
  simp only [createCloudSkillPlan, bind_eq_ok, ensure_eq_ok, pure_eq_ok, Prod.mk.injEq,
    Bool.and_eq_true, decide_eq_true_eq, all_eq_true] at created
  obtain ⟨-, isId, -, isName, -, skills, -, length, -, counts, -, positive, -, -, rfl, rfl⟩ :=
    created
  have same := distinctItems_eq length
  rw [same] at skills
  apply valid_set valid
  simp only [forall_mem_cons, not_mem_nil, false_implies, implies_true, and_true] at counts
  constructor
  · rfl
  · exact isId
  · exact ⟨params.name, rfl, isName⟩
  · exact ⟨params.skillIds, by rw [same]; rfl, same, skills.1, skills.2⟩
  · simp only [countFields, forall_mem_cons, not_mem_nil, false_implies, implies_true, and_true]
    exact ⟨⟨_, rfl, counts.1⟩, ⟨_, rfl, counts.2.1⟩, ⟨_, rfl, counts.2.2.1⟩,
      ⟨_, rfl, counts.2.2.2.1⟩, ⟨_, rfl, counts.2.2.2.2⟩⟩
  · exact forall_mem_cons.mpr ⟨⟨_, rfl, positive.1⟩, forall_mem_singleton.mpr ⟨_, rfl, positive.2⟩⟩

theorem planValid_assignAll {planId : String} {current : Fields} (valid : PlanValid planId current)
    {patch : JsonObject} {checked : Fields} (isChecked : Checked patch.fields checked)
    (keepsId : ∀ value, patch.fields.lookup "plan_id" = some value → value = .text planId) :
    PlanValid planId (assignAll current checked) := by
  have distinct : ((checked.filter fun field => field.1 ∉ ["__proto__"]).map Prod.fst).Nodup := by
    have whole := patch.distinct
    rw [← isChecked.keys] at whole
    exact whole.sublist (filter_sublist.map _)
  have assigned {key : String} (own : key ∉ ["__proto__"]) :
      (assignAll current checked).lookup key = (checked.lookup key).or (current.lookup key) := by
    rw [assignAll, lookup_foldl_assign distinct, JsonValue.lookup_filter, if_neg own]
  -- a field is the checked one of the patch, or it is the field of the plan before
  have keeps {key : String} (own : key ∉ ["__proto__"]) {Good : JsonValue → Prop}
      (patched : ∀ value, checked.lookup key = some value → Good value)
      (before : ∃ value, current.lookup key = some value ∧ Good value) :
      ∃ value, (assignAll current checked).lookup key = some value ∧ Good value := by
    rw [assigned own]
    cases found : checked.lookup key with
    | none => exact before
    | some value => exact ⟨value, rfl, patched value found⟩
  constructor
  · obtain ⟨value, found, rfl⟩ := @keeps "plan_id" (by decide) (· = .text planId)
      (fun value found => keepsId value (by rwa [← isChecked.other "plan_id" (by decide)]))
      ⟨_, valid.own, rfl⟩
    exact found
  · exact valid.isId
  · obtain ⟨name, found, isName⟩ := valid.name
    obtain ⟨_, found, name, rfl, isName⟩ :=
      keeps (by decide) isChecked.name ⟨_, found, name, rfl, isName⟩
    exact ⟨name, found, isName⟩
  · obtain ⟨items, found, areIds⟩ := valid.skillIds
    obtain ⟨_, found, items, rfl, areIds⟩ :=
      keeps (by decide) isChecked.skillIds ⟨_, found, items, rfl, areIds⟩
    exact ⟨items, found, areIds⟩
  · intro key mem
    have own : ∀ key ∈ countFields, key ∉ ["__proto__"] := by decide
    exact keeps (own key mem) (isChecked.counts key mem) (valid.counts key mem)
  · intro key mem
    have own : ∀ key ∈ positiveFields, key ∉ ["__proto__"] := by decide
    exact keeps (own key mem) (isChecked.positive key mem) (valid.positive key mem)

theorem valid_after {plans : Plans} (valid : Valid plans) {call : PlanCall}
    (keepsId : call.KeepsId) : Valid (after plans call) := by
  cases call with
  | create now params =>
    simp only [after]
    split
    · next created => exact valid_create valid created
    · exact valid
  | update planId patch =>
    simp only [after]
    split
    · next updated =>
      unfold updateCloudSkillPlan at updated
      split at updated
      · cases updated
        exact valid
      · next current stored =>
        obtain ⟨checked, isOk, isEnd⟩ := bind_eq_ok_iff.mp updated
        cases isEnd
        exact valid_set valid (planValid_assignAll (valid planId current stored)
          (checked_of_checkPatch isOk) keepsId)
    · exact valid

/-- In a run without patches that change a `plan_id`, the plans are valid all the time. -/
theorem valid_run (calls : List {call : PlanCall // call.KeepsId}) :
    Valid ((calls.map Subtype.val).foldl after .empty) := by
  have run {plans : Plans} (valid : Valid plans) :
      Valid ((calls.map Subtype.val).foldl after plans) := by
    induction calls generalizing plans with
    | nil => exact valid
    | cons call rest ih => exact ih (valid_after valid call.property)
  exact run fun planId plan stored => by simp at stored

def starter : PlanCall :=
  .create "2026-08-01T00:00:00.000Z"
    ⟨"starter", "Starter", none, [.text "longhub.skill.mail"], "100", "1000", none, none, none,
      none⟩

def repriced : List {call : PlanCall // call.KeepsId} :=
  [⟨starter, trivial⟩,
    ⟨.update "starter" ⟨[("name", .text "Plus"), ("plan_id", .text "starter")], by decide⟩,
      fun _ found => (Option.some.inj found).symm⟩]

theorem valid_run_repriced : ((repriced.map Subtype.val).foldl after .empty).entries.length = 1 ∧
    Valid ((repriced.map Subtype.val).foldl after .empty) :=
  ⟨by decide, valid_run repriced⟩

def renamed : List PlanCall :=
  [starter, .update "starter" ⟨[("plan_id", .text "other")], by decide⟩]

/-- A patch moves a plan away from its id. -/
theorem not_valid_renamed : ¬ ∀ calls : List PlanCall, Valid (calls.foldl after .empty) := by
  intro always
  have moved : ((renamed.foldl after .empty).get? "starter").any (fun plan =>
      (plan.lookup "plan_id").any (sameItem (.text "other"))) = true := by decide
  obtain ⟨plan, found, isOther⟩ := (Option.any_eq_true _ _).mp moved
  rw [(always renamed "starter" plan found).own] at isOther
  exact absurd isOther (by decide)

end CloudSkillPlans

end LongHub
