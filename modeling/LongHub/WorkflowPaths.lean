import LongHub.WorkflowReport

/-!
# The paths of workflow steps

A path ends in the index and the id of its step.
-/

namespace LongHub

open Except List String

variable {α : Type}

theorem append_separator_cons_inj {separator : α} {first second : List α}
    {firstRest secondRest : List α} (firstPlain : separator ∉ first)
    (secondPlain : separator ∉ second)
    (same : first ++ separator :: firstRest = second ++ separator :: secondRest) :
    first = second ∧ firstRest = secondRest := by
  induction first generalizing second with
  | nil =>
    cases second with
    | nil => exact ⟨rfl, (List.cons.inj same).2⟩
    | cons head tail =>
      have heads := (List.cons.inj same).1
      simp [heads] at secondPlain
  | cons head tail ih =>
    cases second with
    | nil =>
      have heads := (List.cons.inj same).1
      simp [heads] at firstPlain
    | cons otherHead otherTail =>
      obtain ⟨heads, tails⟩ := List.cons.inj same
      have firstTail : separator ∉ tail := fun mem =>
        firstPlain (mem_cons_of_mem _ mem)
      have secondTail : separator ∉ otherTail := fun mem =>
        secondPlain (mem_cons_of_mem _ mem)
      obtain ⟨sameTail, sameRest⟩ := ih firstTail secondTail tails
      exact ⟨by rw [heads, sameTail], sameRest⟩

theorem append_lastSeparator_inj {separator : α} {first second : List α}
    {firstLast secondLast : List α} (firstPlain : separator ∉ firstLast)
    (secondPlain : separator ∉ secondLast)
    (same : first ++ separator :: firstLast = second ++ separator :: secondLast) :
    first = second ∧ firstLast = secondLast := by
  have reversed := congrArg reverse same
  simp only [reverse_append, reverse_cons, List.append_assoc, singleton_append] at reversed
  have parts := append_separator_cons_inj (by simpa using firstPlain)
    (by simpa using secondPlain) reversed
  exact ⟨reverse_injective parts.2, reverse_injective parts.1⟩

theorem plain_toDigits {separator : Char} (noDigit : separator.isDigit = false) (value : Nat) :
    separator ∉ Nat.toDigits 10 value := by
  intro mem
  have digit := Nat.isDigit_of_mem_toDigits (by omega) (by omega) mem
  rw [noDigit] at digit
  cases digit

/-- An index is read off the text that follows it. -/
theorem toDigits_append_inj {first second : Nat} {firstRest secondRest : List Char}
    (same : Nat.toDigits 10 first ++ '.' :: firstRest =
      Nat.toDigits 10 second ++ '.' :: secondRest) : first = second := by
  have digits := (append_separator_cons_inj (plain_toDigits (by decide) first)
    (plain_toDigits (by decide) second) same).1
  have read := DoubleNumber.readNumeral_toDigits first
  rw [digits, DoubleNumber.readNumeral_toDigits second] at read
  injection read with numeral
  injection numeral with _ values
  exact values.symm

namespace BoundedWorkflow

theorem toList_stepPathOf (path : String) (index : Nat) (id : String) :
    (stepPathOf path index id).toList =
      path.toList ++ '.' :: (Nat.toDigits 10 index ++ '.' :: id.toList) := by
  have dot : ".".toList = ['.'] := by decide
  have digits : (toString index).toList = Nat.toDigits 10 index := by simp
  simp only [stepPathOf, toList_append, digits, dot, List.append_assoc, cons_append, nil_append]

def Continues (path : String) (inner : List Char) : Prop :=
  ∃ rest, inner = path.toList ++ '.' :: rest

variable {path id : String} {inner : List Char} {index : Nat} {visit : Visit}

theorem Continues.trans {between : String} (outer : Continues path between.toList)
    (continues : Continues between inner) : Continues path inner := by
  obtain ⟨first, firstEq⟩ := outer
  obtain ⟨second, rfl⟩ := continues
  exact ⟨first ++ '.' :: second, by rw [firstEq]; simp⟩

theorem Continues.ne (continues : Continues path inner) : inner ≠ path.toList := by
  obtain ⟨rest, rfl⟩ := continues
  intro same
  have lengths := congrArg List.length same
  simp at lengths

theorem continues_branch (path : String) : Continues path (path ++ ".branch").toList := by
  have suffix : ".branch".toList = '.' :: "branch".toList := by decide
  exact ⟨"branch".toList, by rw [toList_append, suffix]⟩

theorem toList_loopPath (path : String) (iteration : Nat) :
    (path ++ ".loop-" ++ toString iteration).toList =
      path.toList ++ '.' :: ("loop-".toList ++ Nat.toDigits 10 iteration) := by
  have suffix : ".loop-".toList = '.' :: "loop-".toList := by decide
  have digits : (toString iteration).toList = Nat.toDigits 10 iteration := by simp
  simp only [toList_append, suffix, digits, List.append_assoc, cons_append]

def AtIndex (path : String) (index : Nat) (inner : List Char) : Prop :=
  ∃ rest, inner = path.toList ++ '.' :: (Nat.toDigits 10 index ++ '.' :: rest)

theorem AtIndex.continues (atIndex : AtIndex path index inner) : Continues path inner := by
  obtain ⟨rest, rfl⟩ := atIndex
  exact ⟨_, rfl⟩

theorem AtIndex.unique {other : Nat} (first : AtIndex path index inner)
    (second : AtIndex path other inner) : index = other := by
  obtain ⟨rest, firstEq⟩ := first
  obtain ⟨otherRest, secondEq⟩ := second
  have tails := append_cancel_left (firstEq.symm.trans secondEq)
  exact toDigits_append_inj (List.cons.inj tails).2

theorem atIndex_stepPathOf (path : String) (index : Nat) (id : String) :
    AtIndex path index (stepPathOf path index id).toList :=
  ⟨id.toList, toList_stepPathOf path index id⟩

theorem Continues.atIndex (continues : Continues (stepPathOf path index id) inner) :
    AtIndex path index inner := by
  obtain ⟨rest, rfl⟩ := continues
  exact ⟨id.toList ++ '.' :: rest, by rw [toList_stepPathOf]; simp⟩

mutual

variable {planned : PlannedStep}

theorem atIndex_of_mem_plan (input : List (String × WorkflowLiteral)) (steps : List WorkflowStep)
    (path : String) (index : Nat) (mem : planned ∈ plan input steps path index) :
    ∃ place, index ≤ place ∧ AtIndex path place planned.path.toList := by
  match steps with
  | [] =>
    unfold plan at mem
    cases mem
  | step :: rest =>
    unfold plan at mem
    rcases mem_cons.mp mem with rfl | later
    · exact ⟨index, Nat.le_refl index, atIndex_stepPathOf path index step.id⟩
    · rcases mem_append.mp later with inside | after
      · have continues := continues_of_mem_planStep input step _ inside
        exact ⟨index, Nat.le_refl index, continues.atIndex⟩
      · obtain ⟨place, least, atPlace⟩ := atIndex_of_mem_plan input rest path (index + 1) after
        exact ⟨place, by omega, atPlace⟩

theorem continues_of_mem_planStep (input : List (String × WorkflowLiteral)) (step : WorkflowStep)
    (path : String) (mem : planned ∈ planStep input step path) :
    Continues path planned.path.toList := by
  match step with
  | .confirm _ _ _ | .skill _ _ _ =>
    unfold planStep at mem
    cases mem
  | .branch id inputKey equals thenSteps elseSteps =>
    unfold planStep at mem
    split at mem
    · obtain ⟨place, _, atPlace⟩ := atIndex_of_mem_plan input thenSteps _ 0 mem
      exact (continues_branch path).trans atPlace.continues
    · obtain ⟨place, _, atPlace⟩ := atIndex_of_mem_plan input elseSteps _ 0 mem
      exact (continues_branch path).trans atPlace.continues
  | .loop id iterations steps =>
    unfold planStep at mem
    obtain ⟨iteration, _, inside⟩ := mem_flatMap.mp mem
    obtain ⟨place, _, atPlace⟩ := atIndex_of_mem_plan input steps _ 0 inside
    exact Continues.trans ⟨_, toList_loopPath path iteration⟩ atPlace.continues

end

theorem loopPath_disjoint {first second : Nat}
    (inFirst : Continues (path ++ ".loop-" ++ toString first) inner)
    (inSecond : Continues (path ++ ".loop-" ++ toString second) inner) : first = second := by
  obtain ⟨rest, firstEq⟩ := inFirst
  obtain ⟨otherRest, secondEq⟩ := inSecond
  rw [toList_loopPath] at firstEq secondEq
  have same := firstEq.symm.trans secondEq
  simp only [List.append_assoc, cons_append] at same
  have tails := (List.cons.inj (append_cancel_left same)).2
  exact toDigits_append_inj (append_cancel_left tails)

mutual

theorem nodup_plan (input : List (String × WorkflowLiteral)) (steps : List WorkflowStep)
    (path : String) (index : Nat) : ((plan input steps path index).map PlannedStep.path).Nodup := by
  match steps with
  | [] =>
    unfold plan
    exact nodup_nil
  | step :: rest =>
    unfold plan
    rw [map_cons, map_append, nodup_cons, nodup_append']
    refine ⟨?_, nodup_planStep input step _, nodup_plan input rest path (index + 1), ?_⟩
    · intro mem
      rcases mem_append.mp mem with inside | after
      · obtain ⟨planned, memberInside, same⟩ := mem_map.mp inside
        have continues := continues_of_mem_planStep input step _ memberInside
        exact continues.ne (by rw [same])
      · obtain ⟨planned, memberAfter, same⟩ := mem_map.mp after
        obtain ⟨place, least, atPlace⟩ :=
          atIndex_of_mem_plan input rest path (index + 1) memberAfter
        rw [same] at atPlace
        have equal := atPlace.unique (atIndex_stepPathOf path index step.id)
        omega
    · intro inner inside after
      obtain ⟨planned, memberInside, rfl⟩ := mem_map.mp inside
      obtain ⟨other, memberAfter, same⟩ := mem_map.mp after
      have continues := continues_of_mem_planStep input step _ memberInside
      obtain ⟨place, least, atPlace⟩ := atIndex_of_mem_plan input rest path (index + 1) memberAfter
      rw [same] at atPlace
      have equal := atPlace.unique continues.atIndex
      omega

theorem nodup_planStep (input : List (String × WorkflowLiteral)) (step : WorkflowStep)
    (path : String) : ((planStep input step path).map PlannedStep.path).Nodup := by
  match step with
  | .confirm _ _ _ | .skill _ _ _ =>
    unfold planStep
    exact nodup_nil
  | .branch id inputKey equals thenSteps elseSteps =>
    unfold planStep
    split
    · exact nodup_plan input thenSteps _ 0
    · exact nodup_plan input elseSteps _ 0
  | .loop id iterations steps =>
    unfold planStep
    rw [map_flatMap, nodup_flatMap]
    constructor
    · intro iteration _
      exact nodup_plan input steps _ 0
    · apply List.Pairwise.imp _ nodup_range'
      intro first second differ inner inFirst inSecond
      obtain ⟨planned, memberFirst, rfl⟩ := mem_map.mp inFirst
      obtain ⟨other, memberSecond, same⟩ := mem_map.mp inSecond
      obtain ⟨_, _, atFirst⟩ := atIndex_of_mem_plan input steps _ 0 memberFirst
      obtain ⟨_, _, atSecond⟩ := atIndex_of_mem_plan input steps _ 0 memberSecond
      rw [same] at atSecond
      exact differ (loopPath_disjoint atFirst.continues atSecond.continues)

end

def NoColon (text : String) : Prop := ':' ∉ text.toList

instance (text : String) : Decidable (NoColon text) :=
  inferInstanceAs (Decidable (':' ∉ text.toList))

theorem noColon_of_matchesClasses {first rest : Char → Bool} {least most : Nat} {text : String}
    (noFirst : first ':' = false) (noRest : rest ':' = false)
    (classes : matchesClasses first rest least most text = true) : NoColon text := by
  unfold matchesClasses at classes
  intro mem
  cases chars : text.toList with
  | nil => simp [chars] at mem
  | cons head tail =>
    rw [chars] at classes mem
    simp only [Bool.and_eq_true] at classes
    obtain ⟨⟨⟨headAllowed, tailAllowed⟩, _⟩, _⟩ := classes
    rcases mem_cons.mp mem with isHead | inTail
    · rw [← isHead, noFirst] at headAllowed
      cases headAllowed
    · have allowed := all_eq_true.mp tailAllowed ':' inTail
      rw [noRest] at allowed
      cases allowed

theorem noColon_stepId (valid : stepIdPattern id = true) : NoColon id :=
  noColon_of_matchesClasses (by decide) (by decide) valid

theorem noColon_workflowId (valid : workflowIdPattern id = true) : NoColon id := by
  intro mem
  simp only [workflowIdPattern, Bool.and_eq_true, all_eq_true] at valid
  obtain ⟨⟨isPrefix, _⟩, allowed⟩ := valid
  have inLower : ':' ∈ id.toList.map Char.toLower :=
    mem_map.mpr ⟨':', mem, by decide⟩
  obtain ⟨rest, split⟩ := isPrefixOf_iff_prefix.mp isPrefix
  rw [← split] at inLower allowed
  rw [drop_left'] at allowed
  · rcases mem_append.mp inLower with inPrefix | inRest
    · revert inPrefix
      decide
    · have isAllowed := allowed ':' inRest
      revert isAllowed
      decide
  · rfl

theorem NoColon.append {first second : String} (firstPlain : NoColon first)
    (secondPlain : NoColon second) : NoColon (first ++ second) := by
  rw [NoColon, toList_append, mem_append]
  exact not_or.mpr ⟨firstPlain, secondPlain⟩

theorem noColon_toString (value : Nat) : NoColon (toString value) := by
  have digits : (toString value).toList = Nat.toDigits 10 value := by simp
  rw [NoColon, digits]
  exact plain_toDigits (by decide) value

theorem NoColon.stepPathOf (pathPlain : NoColon path) (idPlain : NoColon id) (index : Nat) :
    NoColon (stepPathOf path index id) :=
  (((pathPlain.append (by decide)).append (noColon_toString index)).append
    (by decide)).append idPlain

def NoColons (planned : List PlannedStep) : Prop := ∀ step ∈ planned, NoColon step.path

/-- The plans of the steps have no colons, below any path that has none. -/
def PlainSteps (steps : List WorkflowStep) : Prop :=
  ∀ input path index, NoColon path → NoColons (plan input steps path index)

def PlainStep (step : WorkflowStep) : Prop :=
  NoColon step.id ∧ ∀ input path, NoColon path → NoColons (planStep input step path)

theorem plainSteps_nil : PlainSteps [] := by
  intro input path index _ planned mem
  cases mem

theorem PlainSteps.cons {step : WorkflowStep} {rest : List WorkflowStep} (first : PlainStep step)
    (following : PlainSteps rest) : PlainSteps (step :: rest) := by
  intro input path index plain planned mem
  have stepPlain := plain.stepPathOf first.1 index
  rcases mem_cons.mp mem with rfl | later
  · exact stepPlain
  · rcases mem_append.mp later with inside | after
    · exact first.2 input _ stepPlain planned inside
    · exact following input path (index + 1) plain planned after

theorem plainStep_branch {inputKey : String} {equals : WorkflowLiteral}
    {thenSteps elseSteps : List WorkflowStep} (idPlain : NoColon id)
    (thenPlain : PlainSteps thenSteps) (elsePlain : PlainSteps elseSteps) :
    PlainStep (.branch id inputKey equals thenSteps elseSteps) := by
  refine ⟨idPlain, ?_⟩
  intro input path plain planned mem
  have inner : NoColon (path ++ ".branch") := plain.append (by decide)
  unfold planStep at mem
  split at mem
  · exact thenPlain input _ 0 inner planned mem
  · exact elsePlain input _ 0 inner planned mem

theorem plainStep_loop {iterations : Nat} {steps : List WorkflowStep} (idPlain : NoColon id)
    (stepsPlain : PlainSteps steps) : PlainStep (.loop id iterations steps) := by
  refine ⟨idPlain, ?_⟩
  intro input path plain planned mem
  obtain ⟨iteration, _, inside⟩ := mem_flatMap.mp mem
  have inner : NoColon (path ++ ".loop-" ++ toString iteration) :=
    (plain.append (by decide)).append (noColon_toString iteration)
  exact stepsPlain input _ 0 inner planned inside

def PlainVisit (visit : Visit) : Prop :=
  ∀ values visited steps after, visit values visited = .ok (steps, after) → PlainSteps steps

variable {visited after : VisitedSteps} {step : WorkflowStep}

theorem plainStep_visitKind (plainVisit : PlainVisit visit) {fields : List (String × JsonValue)}
    (idPlain : NoColon id) (visits : visitKind visit id fields visited = .ok (step, after)) :
    PlainStep step := by
  unfold visitKind at visits
  split at visits
  · split_ifs at visits
    all_goals simp only [Except.bind_eq_ok, Except.require_eq_ok, Except.pure_eq_ok,
      Prod.mk.injEq] at visits
    · obtain ⟨found, parsed, rfl, -⟩ := visits
      unfold skillStep at parsed
      split at parsed
      · split_ifs at parsed
        obtain ⟨input, -, rfl⟩ := Option.map_eq_some_iff.mp parsed
        refine ⟨idPlain, ?_⟩
        intro input path _ planned mem
        unfold planStep at mem
        cases mem
      · cases parsed
    · obtain ⟨found, parsed, rfl, -⟩ := visits
      unfold confirmStep at parsed
      split at parsed
      · split_ifs at parsed
        cases parsed
        refine ⟨idPlain, ?_⟩
        intro input path _ planned mem
        unfold planStep at mem
        cases mem
      · cases parsed
    · obtain ⟨parts, -, thenVisit, thenEq, elseVisit, elseEq, rfl, -⟩ := visits
      exact plainStep_branch idPlain (plainVisit _ _ _ _ thenEq) (plainVisit _ _ _ _ elseEq)
    · obtain ⟨parts, -, stepsVisit, stepsEq, rfl, -⟩ := visits
      exact plainStep_loop idPlain (plainVisit _ _ _ _ stepsEq)
  · cases visits

theorem plainStep_visitStep (plainVisit : PlainVisit visit) {value : JsonValue}
    (visits : visitStep visit value visited = .ok (step, after)) : PlainStep step := by
  unfold visitStep at visits
  split at visits
  · split_ifs at visits
    split at visits
    · split_ifs at visits with accepted
      exact plainStep_visitKind plainVisit (noColon_stepId accepted.1) visits
    · cases visits
  · cases visits

theorem plainVisit_visitEach (plainVisit : PlainVisit visit) : PlainVisit (visitEach visit) := by
  intro values
  induction values with
  | nil =>
    intro visited steps after visits
    cases visits
    exact plainSteps_nil
  | cons value rest ih =>
    intro visited steps after visits
    simp only [visitEach, Except.bind_eq_ok, Except.pure_eq_ok, Prod.mk.injEq] at visits
    obtain ⟨first, firstEq, others, othersEq, rfl, -⟩ := visits
    exact PlainSteps.cons (plainStep_visitStep plainVisit firstEq) (ih _ _ _ othersEq)

theorem plainVisit_visitSteps (levels : Nat) : PlainVisit (visitSteps levels) := by
  induction levels with
  | zero =>
    intro values visited steps after visits
    cases visits
  | succ levels ih => exact plainVisit_visitEach ih

theorem noColons_plan {input : JsonValue} {workflow : BoundedWorkflow}
    (parsed : parseBoundedWorkflow input = .ok workflow)
    (values : List (String × WorkflowLiteral)) :
    NoColons (plan values workflow.steps workflow.workflowId 0) := by
  unfold parseBoundedWorkflow at parsed
  split at parsed
  · split_ifs at parsed
    split at parsed
    · split_ifs at parsed with accepted
      simp only [Except.bind_eq_ok, Except.pure_eq_ok] at parsed
      obtain ⟨visited, visits, rfl⟩ := parsed
      exact plainVisit_visitSteps 3 _ _ _ _ visits values _ 0 (noColon_workflowId accepted.2.1)
    · cases parsed
  · cases parsed

end BoundedWorkflow

end LongHub
