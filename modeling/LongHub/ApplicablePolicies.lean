import LongHub.FeaturePolicyResolution

/-!
# The entries that apply

The parser lets an entry require only lower-case identifiers, which `localeCompare` tells apart.
-/

namespace LongHub

open Collation List

theorem eq_or_mem_splitOn {α : Type} [BEq α] [LawfulBEq α] {separator element : α}
    {elements : List α} (mem : element ∈ elements) :
    element = separator ∨ ∃ part ∈ elements.splitOn separator, element ∈ part := by
  induction elements with
  | nil => cases mem
  | cons head tail ih =>
    rw [splitOn_cons_eq_if_modifyHead]
    cases parts : tail.splitOn separator with
    | nil => exact absurd parts (splitOn_ne_nil _ _)
    | cons first others =>
      rw [parts] at ih
      split
      · next isSeparator =>
        rcases mem_cons.mp mem with rfl | inTail
        · exact Or.inl (eq_of_beq isSeparator)
        · rcases ih inTail with same | ⟨part, partIn, inPart⟩
          · exact Or.inl same
          · exact Or.inr ⟨part, mem_cons_of_mem _ partIn, inPart⟩
      · rcases mem_cons.mp mem with rfl | inTail
        · exact Or.inr ⟨element :: first, mem_cons_self, mem_cons_self⟩
        · rcases ih inTail with same | ⟨part, partIn, inPart⟩
          · exact Or.inl same
          · rcases mem_cons.mp partIn with rfl | inOthers
            · exact Or.inr ⟨head :: part, mem_cons_self, mem_cons_of_mem _ inPart⟩
            · exact Or.inr ⟨part, mem_cons_of_mem _ inOthers, inPart⟩

theorem isIdentifier_of_segmentsPattern {least : Nat} {text : String}
    (accepted : segmentsPattern least text = true) : Collation.IsIdentifier text := by
  intro char mem
  unfold segmentsPattern at accepted
  split at accepted
  · next head tail segments parts =>
    simp only [Bool.and_eq_true, all_eq_true, Bool.or_eq_true, decide_eq_true_eq] at accepted
    obtain ⟨⟨⟨headLower, tailPlain⟩, segmentsPlain⟩, -⟩ := accepted
    rcases @eq_or_mem_splitOn _ _ _ ':' _ _ mem with rfl | ⟨part, partIn, inPart⟩
    · rfl
    rw [parts] at partIn
    rcases mem_cons.mp partIn with rfl | inSegments
    · rcases mem_cons.mp inPart with rfl | inTail
      · simp [isIdentifierChar, headLower]
      · rcases tailPlain char inTail with (lower | digit) | rfl
        · simp [isIdentifierChar, lower]
        · simp [isIdentifierChar, digit]
        · rfl
    · have plain := (segmentsPlain part inSegments).2 char inPart
      rcases plain with (lower | digit) | mark
      · simp [isIdentifierChar, lower]
      · simp [isIdentifierChar, digit]
      · simp only [mem_cons, not_mem_nil, or_false] at mark
        rcases mark with rfl | rfl | rfl <;> rfl
  · cases accepted

structure FeaturePolicyEntry.Identified (entry : FeaturePolicyEntry) : Prop where
  entitlements : ∀ text ∈ entry.requiredEntitlements, entitlementPattern text = true
  permissions : ∀ text ∈ entry.requiredPermissions, permissionPattern text = true

section Applicable

variable {featureId : FeatureId} {context : FeaturePolicyContext} {problem : String}
variable {entry : FeaturePolicyEntry} {features others entries : List FeaturePolicyEntry}

def unreadableVersion : String := "Manager 版本不是受支持的语义版本"

theorem parseSemver_error {version : String} (failed : parseSemver version = .error problem) :
    problem = unreadableVersion := by
  unfold parseSemver at failed
  dsimp only at failed
  split at failed
  · split at failed
    · cases failed
    · exact (Except.error.inj failed).symm
  · exact (Except.error.inj failed).symm

theorem compareSemver_error {left right : String}
    (failed : compareSemver left right = .error problem) : problem = unreadableVersion := by
  unfold compareSemver at failed
  cases leftParsed : parseSemver left with
  | error leftProblem =>
    rw [leftParsed] at failed
    obtain rfl := Except.error.inj failed
    exact parseSemver_error leftParsed
  | ok leftVersion =>
    cases rightParsed : parseSemver right with
    | error rightProblem =>
      rw [leftParsed, rightParsed] at failed
      obtain rfl := Except.error.inj failed
      exact parseSemver_error rightParsed
    | ok rightVersion =>
      rw [leftParsed, rightParsed] at failed
      simp only [bind, Except.bind] at failed
      split at failed <;> cases failed

theorem inVersionRange_error {version : String}
    (failed : inVersionRange entry version = .error problem) : problem = unreadableVersion := by
  unfold inVersionRange at failed
  cases least : compareSemver version entry.minManagerVersion with
  | error leastProblem =>
    rw [least] at failed
    obtain rfl := Except.error.inj failed
    exact compareSemver_error least
  | ok order =>
    rw [least] at failed
    simp only [bind, Except.bind] at failed
    split at failed
    · cases failed
    · split at failed
      · cases failed
      · next maxManagerVersion _ =>
        cases most : compareSemver version maxManagerVersion with
        | error mostProblem =>
          rw [most] at failed
          obtain rfl := Except.error.inj failed
          exact compareSemver_error most
        | ok otherOrder =>
          rw [most] at failed
          cases failed

theorem isEntryApplicable_error (failed : isEntryApplicable entry context = .error problem) :
    problem = unreadableVersion := by
  unfold isEntryApplicable at failed
  split at failed
  · cases failed
  · cases range : inVersionRange entry context.managerVersion with
    | error rangeProblem =>
      rw [range] at failed
      obtain rfl := Except.error.inj failed
      exact inVersionRange_error range
    | ok inRange =>
      rw [range] at failed
      simp only [bind, Except.bind] at failed
      split at failed <;> cases failed

theorem applicableEntries_error
    (failed : applicableEntries featureId context features = .error problem) :
    problem = unreadableVersion := by
  induction features with
  | nil => cases failed
  | cons entry rest ih =>
    unfold applicableEntries at failed
    split at failed
    · exact ih failed
    · cases applies : isEntryApplicable entry context with
      | error entryProblem =>
        rw [applies] at failed
        obtain rfl := Except.error.inj failed
        exact isEntryApplicable_error applies
      | ok isApplicable =>
        cases found : applicableEntries featureId context rest with
        | error restProblem =>
          rw [applies, found] at failed
          obtain rfl := Except.error.inj failed
          exact ih found
        | ok entries =>
          rw [applies, found] at failed
          cases failed

def applies (featureId : FeatureId) (context : FeaturePolicyContext)
    (entry : FeaturePolicyEntry) : Bool :=
  entry.featureId = featureId && (isEntryApplicable entry context).toOption = some true

theorem applicableEntries_eq_ok_iff : applicableEntries featureId context features = .ok entries ↔
      (∀ entry ∈ features, entry.featureId = featureId →
        ∃ isApplicable, isEntryApplicable entry context = .ok isApplicable) ∧
      entries = features.filter (applies featureId context) := by
  induction features generalizing entries with
  | nil => simp [applicableEntries, eq_comm]
  | cons entry rest ih =>
    unfold applicableEntries
    by_cases about : entry.featureId = featureId
    · rw [if_neg (not_not.mpr about)]
      cases compared : isEntryApplicable entry context with
      | error problem => simp [bind, Except.bind, about, compared]
      | ok isApplicable =>
        cases found : applicableEntries featureId context rest with
        | error problem =>
          have restFails := @ih (rest.filter (applies featureId context))
          simp only [found, reduceCtorEq, false_iff, not_and, not_true_eq_false,
            imp_false] at restFails
          simp only [bind, Except.bind, reduceCtorEq, forall_mem_cons, false_iff, not_and]
          intro all
          exact absurd all.2 restFails
        | ok others =>
          obtain ⟨comparable, othersEq⟩ := ih.mp found
          have passes : applies featureId context entry = isApplicable := by
            simp [applies, about, compared, Except.toOption]
          have filtered : (entry :: rest).filter (applies featureId context) =
              if isApplicable then entry :: others else others := by
            rw [filter_cons, passes, othersEq]
          rw [filtered]
          simp only [bind, Except.bind, Except.ok.injEq, forall_mem_cons]
          constructor
          · intro same
            exact ⟨⟨fun _ => ⟨isApplicable, compared⟩, comparable⟩, same.symm⟩
          · intro both
            exact both.2.symm
    · rw [if_pos about, ih]
      simp [about, applies]

theorem applicableEntries_perm (same : features.Perm others) :
    (applicableEntries featureId context features = .error unreadableVersion ∧
        applicableEntries featureId context others = .error unreadableVersion) ∨
      ∃ entries otherEntries, applicableEntries featureId context features = .ok entries ∧
        applicableEntries featureId context others = .ok otherEntries ∧
        entries.Perm otherEntries := by
  cases found : applicableEntries featureId context features with
  | ok entries =>
    obtain ⟨comparable, rfl⟩ := applicableEntries_eq_ok_iff.mp found
    right
    refine ⟨_, others.filter (applies featureId context), rfl, ?_, same.filter _⟩
    apply applicableEntries_eq_ok_iff.mpr ⟨_, rfl⟩
    intro entry mem
    exact comparable entry (same.mem_iff.mpr mem)
  | error problem =>
    left
    cases otherFound : applicableEntries featureId context others with
    | ok otherEntries =>
      have comparable := (applicableEntries_eq_ok_iff.mp otherFound).1
      have back : applicableEntries featureId context features =
          .ok (features.filter (applies featureId context)) := by
        apply applicableEntries_eq_ok_iff.mpr ⟨_, rfl⟩
        intro entry mem
        exact comparable entry (same.mem_iff.mp mem)
      rw [found] at back
      cases back
    | error otherProblem =>
      rw [applicableEntries_error found, applicableEntries_error otherFound]
      exact ⟨rfl, rfl⟩

theorem applicableEntries_add {before after : List FeaturePolicyEntry}
    (about : entry.featureId = featureId)
    (isApplicable : isEntryApplicable entry context = .ok true) :
    (applicableEntries featureId context (before ++ after) = .error unreadableVersion ∧
        applicableEntries featureId context (before ++ entry :: after) = .error unreadableVersion) ∨
      ∃ entries more, applicableEntries featureId context (before ++ after) = .ok entries ∧
        applicableEntries featureId context (before ++ entry :: after) = .ok more ∧
        more.Perm (entry :: entries) := by
  have first : applicableEntries featureId context (entry :: (before ++ after)) =
      (applicableEntries featureId context (before ++ after)).bind fun entries =>
        .ok (entry :: entries) := by
    simp [applicableEntries, about, isApplicable, bind, Except.bind]
  rcases @applicableEntries_perm featureId context _ _ (@List.perm_middle _ entry before after) with
    ⟨failed, consFailed⟩ | ⟨more, consEntries, found, consFound, permuted⟩
  · left
    cases without : applicableEntries featureId context (before ++ after) with
    | error problem =>
      rw [applicableEntries_error without]
      exact ⟨rfl, failed⟩
    | ok entries =>
      rw [first, without] at consFailed
      cases consFailed
  · right
    cases without : applicableEntries featureId context (before ++ after) with
    | error problem =>
      rw [first, without] at consFound
      cases consFound
    | ok entries =>
      rw [first, without] at consFound
      obtain rfl := Except.ok.inj consFound
      exact ⟨entries, more, rfl, found, permuted⟩

end Applicable

end LongHub
