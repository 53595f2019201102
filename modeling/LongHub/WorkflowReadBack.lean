import LongHub.NoCodeContent

/-!
# Workflows that are read back

A workflow may contain numbers that are not finite, which JSON writes as `null`.  The
workflow that is read back has the same id, the same name and as many steps.
-/

namespace LongHub

open Except JsonValue List Option

namespace BoundedWorkflow

mutual

def countStep : WorkflowStep → Nat
  | .branch _ _ _ thenSteps elseSteps => 1 + (countSteps thenSteps + countSteps elseSteps)
  | .loop _ _ steps => 1 + countSteps steps
  | .skill _ _ _ | .confirm _ _ _ => 1

def countSteps : List WorkflowStep → Nat
  | [] => 0
  | step :: rest => countStep step + countSteps rest

end

mutual

def stepSkillIds : WorkflowStep → List String
  | .skill _ skillId _ => [skillId]
  | .branch _ _ _ thenSteps elseSteps => workflowSkillIds thenSteps ++ workflowSkillIds elseSteps
  | .loop _ _ steps => workflowSkillIds steps
  | .confirm _ _ _ => []

def workflowSkillIds : List WorkflowStep → List String
  | [] => []
  | step :: rest => stepSkillIds step ++ workflowSkillIds rest

end

section Parts

variable {fields : List (String × JsonValue)} {id : String}

theorem literalOf_finite {value : JsonValue} {literal : WorkflowLiteral}
    (read : literalOf value = some literal) : (literalOf value.finite).isSome := by
  cases value with
  | number text =>
    rw [finite]
    split <;> rfl
  | array items => cases read
  | record fields => cases read
  | _ => rfl

theorem literals_finite {input : List (String × JsonValue)}
    {literals : List (String × WorkflowLiteral)}
    (read : (input.mapM fun field => (literalOf field.2).map (field.1, ·)) = some literals) :
    ((input.map fun field => (field.1, field.2.finite)).mapM
      fun field => (literalOf field.2).map (field.1, ·)).isSome := by
  induction input generalizing literals with
  | nil => rfl
  | cons field rest ih =>
    simp only [mapM_cons, bind_eq_bind, bind_eq_some_iff, map_eq_some_iff] at read
    obtain ⟨first, ⟨literal, isLiteral, -⟩, others, readRest, -⟩ := read
    obtain ⟨back, readBack⟩ := isSome_iff_exists.mp (literalOf_finite isLiteral)
    obtain ⟨more, readMore⟩ := isSome_iff_exists.mp (ih readRest)
    simp [mapM_cons, readBack, readMore]

variable {step : WorkflowStep}

theorem skillStep_finite (read : skillStep id fields = some step) :
    ∃ back, skillStep id (fields.map fun field => (field.1, field.2.finite)) = some back ∧
      countStep back = countStep step := by
  unfold skillStep at read
  split at read
  · rename_i skillId input skillFound inputFound
    split_ifs at read with accepted
    obtain ⟨literals, literalsRead, rfl⟩ := map_eq_some_iff.mp read
    obtain ⟨back, readBack⟩ := isSome_iff_exists.mp (literals_finite literalsRead)
    refine ⟨.skill id skillId back, ?_, by rw [countStep, countStep]⟩
    simp only [skillStep, lookup_finite, skillFound, inputFound, map_some, finite_text,
      finite_record, NoCode.hasExactKeys_finite, length_map, readBack]
    rw [if_pos accepted]
  · cases read

theorem confirmStep_finite (read : confirmStep id fields = some step) :
    confirmStep id (fields.map fun field => (field.1, field.2.finite)) = some step := by
  unfold confirmStep at read ⊢
  split at read
  · rename_i title summary titleFound summaryFound
    simp only [lookup_finite, titleFound, summaryFound, map_some,
      finite_text, NoCode.hasExactKeys_finite]
    exact read
  · cases read

theorem branchParts_finite {inputKey : String} {equals : WorkflowLiteral}
    {thenSteps elseSteps : List JsonValue}
    (read : branchParts fields = some (inputKey, equals, thenSteps, elseSteps)) :
    ∃ back, branchParts (fields.map fun field => (field.1, field.2.finite)) =
      some (inputKey, back, thenSteps.map finite, elseSteps.map finite) := by
  unfold branchParts at read
  split at read
  · rename_i key thenItems elseItems keyFound thenFound elseFound
    split_ifs at read with accepted
    obtain ⟨literal, found, equal⟩ := map_eq_some_iff.mp read
    obtain ⟨value, valueFound, isLiteral⟩ := bind_eq_some_iff.mp found
    obtain ⟨back, readBack⟩ := isSome_iff_exists.mp (literalOf_finite isLiteral)
    cases equal
    refine ⟨back, ?_⟩
    simp only [branchParts, lookup_finite, keyFound, thenFound, elseFound, valueFound, map_some,
      finite_text, finite_array, NoCode.hasExactKeys_finite, bind_some, readBack]
    rw [if_pos accepted]
  · cases read

theorem isNumeral_of_safeInteger {literal : String} {value : Int}
    (read : DoubleNumber.safeInteger literal = some value) : isNumeral literal = true := by
  obtain ⟨numeral, found, -⟩ := bind_eq_some_iff.mp read
  unfold isNumeral
  rw [found]
  rfl

theorem loopParts_finite {iterations : Nat} {steps : List JsonValue}
    (read : loopParts fields = some (iterations, steps)) :
    loopParts (fields.map fun field => (field.1, field.2.finite)) =
      some (iterations, steps.map finite) := by
  unfold loopParts at read
  split at read
  · rename_i literal items literalFound itemsFound
    split at read
    · rename_i count countRead
      split_ifs at read with accepted
      cases read
      have finiteLiteral := finite_number_of_isNumeral (isNumeral_of_safeInteger countRead)
      simp only [loopParts, lookup_finite, literalFound, itemsFound, map_some, finiteLiteral,
        finite_array, countRead, NoCode.hasExactKeys_finite, ne_eq, map_eq_nil_iff]
      rw [if_pos accepted]
    · cases read
  · cases read

end Parts

def ReadsBack (visit : Visit) : Prop :=
  ∀ values visited steps after, visit values visited = .ok (steps, after) →
    ∃ back, visit (values.map finite) visited = .ok (back, after) ∧
      countSteps back = countSteps steps

variable {visit : Visit} {visited after : VisitedSteps} {step : WorkflowStep} {value : JsonValue}

theorem readsBack_visitKind (readsBack : ReadsBack visit) {id : String}
    {fields : List (String × JsonValue)}
    (visits : visitKind visit id fields visited = .ok (step, after)) :
    ∃ back, visitKind visit id (fields.map fun field => (field.1, field.2.finite)) visited =
      .ok (back, after) ∧ countStep back = countStep step := by
  unfold visitKind at visits ⊢
  split at visits
  · rename_i kind kindFound
    simp only [lookup_finite, kindFound, map_some, finite_text]
    split_ifs at visits ⊢
    all_goals simp only [Except.bind_eq_ok, Except.require_eq_ok, Except.pure_eq_ok,
      Prod.mk.injEq] at visits ⊢
    · obtain ⟨found, parsed, rfl, rfl⟩ := visits
      obtain ⟨back, readBack, same⟩ := skillStep_finite parsed
      exact ⟨back, ⟨back, readBack, rfl, rfl⟩, same⟩
    · obtain ⟨found, parsed, rfl, rfl⟩ := visits
      exact ⟨found, ⟨found, confirmStep_finite parsed, rfl, rfl⟩, rfl⟩
    · obtain ⟨⟨inputKey, equals, thenValues, elseValues⟩, parts, thenVisit, thenEq, elseVisit,
        elseEq, rfl, rfl⟩ := visits
      obtain ⟨backEquals, backParts⟩ := branchParts_finite parts
      obtain ⟨backThen, thenBack, sameThen⟩ := readsBack _ _ _ _ thenEq
      obtain ⟨backElse, elseBack, sameElse⟩ := readsBack _ _ _ _ elseEq
      refine ⟨.branch id inputKey backEquals backThen backElse,
        ⟨_, backParts, _, thenBack, _, elseBack, rfl, rfl⟩, ?_⟩
      rw [countStep, countStep, sameThen, sameElse]
    · obtain ⟨⟨iterations, values⟩, parts, stepsVisit, stepsEq, rfl, rfl⟩ := visits
      obtain ⟨backSteps, stepsBack, sameSteps⟩ := readsBack _ _ _ _ stepsEq
      refine ⟨.loop id iterations backSteps, ⟨_, loopParts_finite parts, _, stepsBack, rfl, rfl⟩,
        ?_⟩
      rw [countStep, countStep, sameSteps]
  · cases visits

theorem readsBack_visitStep (readsBack : ReadsBack visit)
    (visits : visitStep visit value visited = .ok (step, after)) :
    ∃ back, visitStep visit value.finite visited = .ok (back, after) ∧
      countStep back = countStep step := by
  unfold visitStep at visits
  split at visits
  · split_ifs at visits with few
    split at visits
    · rename_i id idFound
      split_ifs at visits with accepted
      obtain ⟨back, readBack, same⟩ := readsBack_visitKind readsBack visits
      refine ⟨back, ?_, same⟩
      simp only [visitStep, finite_record, few, if_false, lookup_finite,
        idFound, map_some, finite_text]
      rw [if_pos accepted]
      exact readBack
    · cases visits
  · cases visits

theorem readsBack_visitEach (readsBack : ReadsBack visit) : ReadsBack (visitEach visit) := by
  intro values
  induction values with
  | nil =>
    intro visited steps after visits
    cases visits
    exact ⟨[], rfl, rfl⟩
  | cons value rest ih =>
    intro visited steps after visits
    simp only [visitEach, Except.bind_eq_ok, Except.pure_eq_ok, Prod.mk.injEq] at visits
    obtain ⟨⟨first, between⟩, firstEq, ⟨others, last⟩, othersEq, rfl, rfl⟩ := visits
    obtain ⟨backFirst, firstBack, sameFirst⟩ := readsBack_visitStep readsBack firstEq
    obtain ⟨backRest, restBack, sameRest⟩ := ih _ _ _ othersEq
    refine ⟨backFirst :: backRest, ?_, by rw [countSteps, countSteps, sameFirst, sameRest]⟩
    rw [map_cons]
    simp only [visitEach, Except.bind_eq_ok, Except.pure_eq_ok, Prod.mk.injEq]
    exact ⟨_, firstBack, _, restBack, rfl, rfl⟩

theorem readsBack_visitSteps (levels : Nat) : ReadsBack (visitSteps levels) := by
  induction levels with
  | zero =>
    intro values visited steps after visits
    cases visits
  | succ levels ih => exact readsBack_visitEach ih

theorem parseBoundedWorkflow_finite {workflow : BoundedWorkflow}
    (parsed : parseBoundedWorkflow value = .ok workflow) :
    ∃ back, parseBoundedWorkflow value.finite = .ok back ∧ back.workflowId = workflow.workflowId ∧
      back.name = workflow.name ∧ countSteps back.steps = countSteps workflow.steps := by
  unfold parseBoundedWorkflow at parsed
  split at parsed
  · rename_i fields
    split_ifs at parsed with keys
    split at parsed
    · rename_i schema workflowId name values schemaFound idFound nameFound stepsFound
      split_ifs at parsed with accepted
      simp only [Except.bind_eq_ok, Except.pure_eq_ok] at parsed
      obtain ⟨⟨steps, last⟩, visits, rfl⟩ := parsed
      obtain ⟨back, readBack, same⟩ := readsBack_visitSteps 3 _ _ _ _ visits
      refine ⟨⟨workflowId, name, back⟩, ?_, rfl, rfl, same⟩
      have acceptedBack : schema = "longhub/workflow/v1" ∧ workflowIdPattern workflowId ∧
          isFilledText name 80 ∧ values.map finite ≠ [] :=
        ⟨accepted.1, accepted.2.1, accepted.2.2.1, by simpa using accepted.2.2.2⟩
      simp only [parseBoundedWorkflow, finite_record, NoCode.hasExactKeys_finite, keys,
        if_true, lookup_finite, schemaFound, idFound, nameFound, stepsFound,
        map_some, finite_text, finite_array]
      rw [if_pos acceptedBack, readBack]
      rfl
    · cases parsed
  · cases parsed

end BoundedWorkflow

end LongHub
