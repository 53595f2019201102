import LongHub.ConfirmationContents
import LongHub.SemanticVersions
import Mathlib.Data.Set.Basic

/-!
# How versions are compared

`compareSemver` reads the numbers of a version as floating-point numbers.
-/

namespace LongHub

open DoubleNumber PrereleaseIdentifier
structure PolicyVersion where
  text : String
  accepted : ∀ label, semver (some (.text text)) label = .ok text

namespace PolicyVersion

def numbersOf (text : String) : List Nat :=
  ((text.toList.takeWhile (· ≠ '-')).splitOn '.').map fun digits => Nat.ofDigitChars 10 digits 0

def partsOf (text : String) : List String :=
  let prerelease := text.toList.dropWhile (· ≠ '-')
  if prerelease = [] then [] else (prerelease.tail.splitOn '.').map String.ofList

def identifierOf (part : String) : PrereleaseIdentifier :=
  if isNumeric part then .numeric (Nat.ofDigitChars 10 part.toList 0) else .alphanumeric part

variable (version : PolicyVersion)

def exact : SemanticVersion :=
  ⟨numbersOf version.text, (partsOf version.text).map identifierOf⟩

theorem pattern : version.text.length ≤ 64 ∧ semverPattern version.text = true := by
  have accepted := version.accepted ""
  by_contra unmet
  rw [semver, if_neg unmet] at accepted
  cases accepted

theorem mem_of_mem_intercalate {char separator : Char} {parts : List (List Char)}
    (mem : char ∈ List.intercalate [separator] parts) :
    char = separator ∨ ∃ part ∈ parts, char ∈ part := by
  induction parts with
  | nil => cases mem
  | cons part rest ih =>
    cases rest with
    | nil => exact .inr ⟨part, by simp, by simpa using mem⟩
    | cons next rest =>
      rw [List.intercalate_cons_cons, List.append_assoc, List.mem_append, List.mem_append,
        List.mem_singleton] at mem
      rcases mem with here | isSeparator | later
      · exact .inr ⟨part, by simp, here⟩
      · exact .inl isSeparator
      · rcases ih later with isSeparator | ⟨other, otherIn, inside⟩
        · exact .inl isSeparator
        · exact .inr ⟨other, List.mem_cons_of_mem _ otherIn, inside⟩

theorem core_parts : ∃ major minor patch,
    (version.text.toList.takeWhile (· ≠ '-')).splitOn '.' = [major, minor, patch] ∧
      isVersionNumber major = true ∧ isVersionNumber minor = true ∧
      isVersionNumber patch = true := by
  have pattern := version.pattern.2
  simp only [semverPattern, Bool.and_eq_true] at pattern
  obtain ⟨isCore, -⟩ := pattern
  split at isCore
  · next major minor patch split =>
    simp only [Bool.and_eq_true] at isCore
    exact ⟨major, minor, patch, split, isCore.1.1, isCore.1.2, isCore.2⟩
  · cases isCore

theorem prerelease_parts (present : version.text.toList.dropWhile (· ≠ '-') ≠ []) :
    (version.text.toList.dropWhile (· ≠ '-')).tail ≠ [] ∧
      (version.text.toList.dropWhile (· ≠ '-')).tail.all fun char =>
        char.isAlphanum || char ∈ ['.', '-'] := by
  have pattern := version.pattern.2
  simp only [semverPattern, Bool.and_eq_true, Bool.or_eq_true, decide_eq_true_eq] at pattern
  have each := List.all_eq_true.mp (pattern.2.resolve_left present)
  generalize (version.text.toList.dropWhile (· ≠ '-')).tail = chars at each ⊢
  constructor
  · rintro rfl
    have empty := each [] (by simp)
    simp at empty
  · rw [List.all_eq_true]
    intro char mem
    have joined : List.intercalate ['.'] (chars.splitOn '.') = chars := List.intercalate_splitOn '.'
    rw [← joined] at mem
    rcases mem_of_mem_intercalate mem with rfl | ⟨part, partIn, inside⟩
    · simp
    · have ofPart := each part partIn
      simp only [Bool.and_eq_true, List.all_eq_true, Bool.or_eq_true, decide_eq_true_eq] at ofPart
      rcases ofPart.2 char inside with isAlphanum | isHyphen
      · simp [isAlphanum]
      · simp [isHyphen]

theorem parseSemver_eq : parseSemver version.text =
    .ok ⟨version.exact.core.map ofNat, partsOf version.text⟩ := by
  obtain ⟨major, minor, patch, split, isMajor, isMinor, isPatch⟩ := version.core_parts
  have isSuffix : version.text.toList.dropWhile (· ≠ '-') = [] ∨
      ((version.text.toList.dropWhile (· ≠ '-')).tail ≠ [] ∧
        (version.text.toList.dropWhile (· ≠ '-')).tail.all fun char =>
          char.isAlphanum || char ∈ ['.', '-']) := by
    by_cases absent : version.text.toList.dropWhile (· ≠ '-') = []
    · exact .inl absent
    · exact .inr (version.prerelease_parts absent)
  simp only [parseSemver, split]
  rw [if_pos ⟨isMajor, isMinor, isPatch, isSuffix⟩]
  simp only [exact, numbersOf, split, partsOf, numberOf, List.map_cons, List.map_nil]

def NumbersApart : List Nat → List Nat → Prop
  | left :: lefts, right :: rights =>
    if left = right then NumbersApart lefts rights
    else ofNat left ≠ ofNat right
  | _, _ => True

/-- The first two identifiers that differ are not numerals of one floating-point number. -/
def PartsApart : List String → List String → Prop
  | left :: lefts, right :: rights =>
    if left = right then PartsApart lefts rights
    else isNumeric left = true → isNumeric right = true →
      numberOf left.toList ≠ numberOf right.toList
  | _, _ => True

/-- The identifiers count only between versions of the same numbers. -/
def ToldApart (left right : PolicyVersion) : Prop :=
  NumbersApart left.exact.core right.exact.core ∧
    (left.exact.core = right.exact.core → PartsApart (partsOf left.text) (partsOf right.text))

def NumbersExact : List Nat → List Nat → Prop
  | left :: lefts, right :: rights =>
    compareNumbers (ofNat left) (ofNat right) = compare left right ∧
      (left = right → NumbersExact lefts rights)
  | _, _ => True

def PartsExact : List String → List String → Prop
  | left :: lefts, right :: rights =>
    (isNumeric left = true → isNumeric right = true →
      lessNumber (numberOf left.toList) (numberOf right.toList) =
        decide (Nat.ofDigitChars 10 left.toList 0 < Nat.ofDigitChars 10 right.toList 0)) ∧
      (left = right → PartsExact lefts rights)
  | _, _ => True

theorem compareNumbers_of_ne {left right : Nat} (differ : ofNat left ≠ ofNat right) :
    compareNumbers (ofNat left) (ofNat right) = compare left right := by
  rcases Nat.lt_trichotomy left right with less | rfl | greater
  · obtain ⟨lower, isLower, below⟩ := ofNat_lt_of_ne less differ
    rw [Nat.compare_eq_lt.mpr less, isLower]
    cases isUpper : ofNat right with
    | none => rfl
    | some upper => exact Nat.compare_eq_lt.mpr (below upper isUpper)
  · exact absurd rfl differ
  · obtain ⟨lower, isLower, below⟩ := ofNat_lt_of_ne greater differ.symm
    rw [Nat.compare_eq_gt.mpr greater, isLower]
    cases isUpper : ofNat left with
    | none => rfl
    | some upper => exact Nat.compare_eq_gt.mpr (below upper isUpper)

theorem lessNumber_of_ne {left right : Nat} (differ : ofNat left ≠ ofNat right) :
    lessNumber (ofNat left) (ofNat right) = decide (left < right) := by
  rcases Nat.lt_trichotomy left right with less | rfl | greater
  · obtain ⟨lower, isLower, below⟩ := ofNat_lt_of_ne less differ
    rw [decide_eq_true less, isLower]
    cases isUpper : ofNat right with
    | none => rfl
    | some upper => exact decide_eq_true (below upper isUpper)
  · exact absurd rfl differ
  · obtain ⟨lower, isLower, below⟩ := ofNat_lt_of_ne greater differ.symm
    rw [decide_eq_false greater.not_gt, isLower]
    cases isUpper : ofNat left with
    | none => rfl
    | some upper => exact decide_eq_false (below upper isUpper).not_gt

theorem lessNumber_self (number : Option Nat) : lessNumber number number = false := by
  cases number <;> simp [lessNumber]

theorem compareNumbers_self {value : Nat} (finite : (ofNat value).isSome = true) :
    compareNumbers (ofNat value) (ofNat value) = .eq := by
  obtain ⟨number, isNumber⟩ := Option.isSome_iff_exists.mp finite
  rw [isNumber]
  exact Nat.compare_eq_eq.mpr rfl

variable {lefts rights : List Nat} {left right : PolicyVersion}

theorem compareCores_eq (length : lefts.length = rights.length)
    (finite : ∀ value ∈ lefts, (ofNat value).isSome = true) (apart : NumbersApart lefts rights) :
    compareCores (lefts.map ofNat) (rights.map ofNat) = List.compareLex compare lefts rights := by
  induction lefts generalizing rights with
  | nil =>
    cases rights with
    | nil => rfl
    | cons right rights => simp at length
  | cons left lefts ih =>
    cases rights with
    | nil => simp at length
    | cons right rights =>
      simp only [List.map_cons, compareCores, List.compareLex_cons_cons]
      simp only [NumbersApart] at apart
      split at apart
      · next same =>
        subst same
        rw [if_pos (compareNumbers_self (finite left (by simp))), Nat.compare_eq_eq.mpr rfl,
          Ordering.eq_then]
        exact ih (by simpa using length) (fun value mem => finite value (by simp [mem])) apart
      · next differ =>
        rw [compareNumbers_of_ne apart]
        have decided : compare left right ≠ .eq := fun same =>
          differ (Nat.compare_eq_eq.mp same)
        cases sign : compare left right with
        | lt => rfl
        | eq => exact absurd sign decided
        | gt => rfl

theorem compareCores_self {values : List Nat}
    (finite : ∀ value ∈ values, (ofNat value).isSome = true) :
    compareCores (values.map ofNat) (values.map ofNat) = .eq := by
  induction values with
  | nil => rfl
  | cons value rest ih =>
    simp only [List.map_cons, compareCores]
    rw [if_pos (compareNumbers_self (finite value (by simp)))]
    exact ih fun other mem => finite other (by simp [mem])

theorem comparePart_eq {left right : String} (differ : left ≠ right)
    (apart : isNumeric left = true → isNumeric right = true →
      numberOf left.toList ≠ numberOf right.toList) : (if isNumeric left && isNumeric right then
        if lessNumber (numberOf left.toList) (numberOf right.toList) then .lt else .gt
      else if isNumeric left ≠ isNumeric right then if isNumeric left then .lt else .gt
      else if left < right then .lt else .gt) =
      precedence (identifierOf left) (identifierOf right) ∧
    precedence (identifierOf left) (identifierOf right) ≠ .eq := by
  cases isLeft : isNumeric left with
  | true =>
    cases isRight : isNumeric right with
    | true =>
      have apart := apart isLeft isRight
      have values : Nat.ofDigitChars 10 left.toList 0 ≠ Nat.ofDigitChars 10 right.toList 0 :=
        fun same => apart (by rw [numberOf, numberOf, same])
      simp only [identifierOf, isLeft, isRight, if_true, Bool.and_self, precedence_numeric]
      rw [numberOf, numberOf, lessNumber_of_ne apart]
      rcases Nat.lt_or_gt_of_ne values with less | greater
      · simp [less, Nat.compare_eq_lt.mpr less]
      · simp [greater.not_gt, Nat.compare_eq_gt.mpr greater]
    | false =>
      simp [identifierOf, isLeft, isRight, precedence_numeric_alphanumeric]
  | false =>
    cases isRight : isNumeric right with
    | true =>
      simp [identifierOf, isLeft, isRight, precedence_alphanumeric_numeric]
    | false =>
      simp only [identifierOf, isLeft, isRight, Bool.false_eq_true, if_false, Bool.and_self, ne_eq,
        not_true_eq_false, precedence_alphanumeric, compare, String.compare, compareOfLessAndEq]
      by_cases less : left < right
      · simp [less]
      · simp [less, differ]

theorem compareParts_eq {lefts rights : List String} (apart : PartsApart lefts rights) :
    compareParts lefts rights = List.compareLex precedence
      (lefts.map identifierOf) (rights.map identifierOf) := by
  induction lefts generalizing rights with
  | nil =>
    cases rights with
    | nil => rfl
    | cons right rights => rfl
  | cons left lefts ih =>
    cases rights with
    | nil => rfl
    | cons right rights =>
      simp only [List.map_cons, compareParts, List.compareLex_cons_cons]
      simp only [PartsApart] at apart
      split at apart
      · next same =>
        subst same
        have same := @Std.ReflCmp.compare_self _ precedence _ (identifierOf left)
        rw [if_pos rfl, same, Ordering.eq_then]
        exact ih apart
      · next differ =>
        obtain ⟨same, decided⟩ := comparePart_eq differ apart
        rw [if_neg differ, same]
        cases sign : precedence (identifierOf left) (identifierOf right) with
        | lt => rfl
        | eq => exact absurd sign decided
        | gt => rfl

theorem core_finite (version : PolicyVersion) {value : Nat} (mem : value ∈ version.exact.core) :
    (ofNat value).isSome = true := by
  obtain ⟨major, minor, patch, split, isMajor, isMinor, isPatch⟩ := version.core_parts
  have joined : List.intercalate ['.'] ((version.text.toList.takeWhile (· ≠ '-')).splitOn '.') =
      version.text.toList.takeWhile (· ≠ '-') := List.intercalate_splitOn '.'
  have shorter := (List.takeWhile_sublist (· ≠ '-') (l := version.text.toList)).length_le
  have short := version.pattern.1
  rw [split] at joined
  rw [← joined, String.length_toList] at shorter
  simp only [List.intercalate_cons_cons, List.intercalate_singleton, List.length_append,
    List.length_singleton] at shorter
  have bounded {digits : List Char} (isNumber : isVersionNumber digits = true)
      (few : digits.length ≤ 64) :
      (ofNat (Nat.ofDigitChars 10 digits 0)).isSome = true := by
    simp only [isVersionNumber, Bool.and_eq_true] at isNumber
    have below := ofDigitChars_lt isNumber.1.2 0
    have power : 10 ^ digits.length ≤ 10 ^ 64 := Nat.pow_le_pow_right (by omega) few
    apply ofNat_isSome
    calc Nat.ofDigitChars 10 digits 0 < (0 + 1) * 10 ^ digits.length := below
      _ ≤ 10 ^ 64 := by rwa [Nat.zero_add, Nat.one_mul]
      _ < (2 ^ 4) ^ 64 := Nat.pow_lt_pow_left (by omega) (by omega)
      _ = 2 ^ (4 * 64) := (Nat.pow_mul 2 4 64).symm
      _ ≤ 2 ^ 1022 := Nat.pow_le_pow_right (by omega) (by omega)
  simp only [exact, numbersOf, split, List.map_cons, List.map_nil, List.mem_cons,
    List.not_mem_nil, or_false] at mem
  rcases mem with rfl | rfl | rfl
  · exact bounded isMajor (by omega)
  · exact bounded isMinor (by omega)
  · exact bounded isPatch (by omega)

theorem length_core (version : PolicyVersion) : version.exact.core.length = 3 := by
  obtain ⟨major, minor, patch, split, -⟩ := version.core_parts
  rw [exact, numbersOf, List.length_map, split]
  rfl

theorem compareSemver_bind (left right : PolicyVersion) : compareSemver left.text right.text = .ok
      (if compareCores (left.exact.core.map ofNat)
          (right.exact.core.map ofNat) ≠ .eq then
        compareCores (left.exact.core.map ofNat)
          (right.exact.core.map ofNat)
      else comparePrerelease (partsOf left.text) (partsOf right.text)) := by
  simp only [compareSemver, parseSemver_eq, bind, Except.bind]
  split <;> rfl

theorem comparePrerelease_then (lefts rights : List String) : comparePrerelease lefts rights =
      (compare (if lefts.isEmpty then 1 else 0) (if rights.isEmpty then 1 else 0)).then
        (compareParts lefts rights) := by
  cases lefts with
  | nil =>
    cases rights with
    | nil => rfl
    | cons right rights => simp [comparePrerelease, Nat.compare_eq_gt.mpr]
  | cons left lefts =>
    cases rights with
    | nil => simp [comparePrerelease, Nat.compare_eq_lt.mpr]
    | cons right rights => simp [comparePrerelease]

theorem comparePrerelease_eq (apart : PartsApart (partsOf left.text) (partsOf right.text)) :
    comparePrerelease (partsOf left.text) (partsOf right.text) =
      (compare left.exact.rank right.exact.rank).then
        (left.exact.comparePrerelease right.exact) := by
  rw [comparePrerelease_then, compareParts_eq apart]
  simp only [SemanticVersion.rank, SemanticVersion.comparePrerelease, exact, List.isEmpty_map]

theorem compareSemver_eq (apart : ToldApart left right) : compareSemver left.text right.text =
      .ok (SemanticVersion.precedence left.exact right.exact) := by
  have cores := compareCores_eq (left.length_core.trans right.length_core.symm)
    (fun value => left.core_finite) apart.1
  rw [compareSemver_bind, cores]
  simp only [SemanticVersion.precedence, compareLex, SemanticVersion.compareCore]
  cases sign : List.compareLex compare left.exact.core right.exact.core with
  | lt => rfl
  | gt => rfl
  | eq =>
    have same := Std.LawfulEqCmp.eq_of_compare sign
    rw [if_neg (by simp), comparePrerelease_eq (apart.2 same)]
    rfl

/-- The comparison does not find the first version greater. -/
def AtMost (left right : PolicyVersion) : Prop :=
  ∃ sign, compareSemver left.text right.text = .ok sign ∧ sign ≠ .gt

structure OrderedBySemver (versions : Set PolicyVersion) : Prop where
  agrees : ∀ left ∈ versions, ∀ right ∈ versions, compareSemver left.text right.text =
    .ok (SemanticVersion.precedence left.exact right.exact)
  antisymmetric : ∀ left ∈ versions, ∀ right ∈ versions, ∃ sign,
    compareSemver left.text right.text = .ok sign ∧
      compareSemver right.text left.text = .ok sign.swap
  transitive : ∀ one ∈ versions, ∀ other ∈ versions, ∀ third ∈ versions,
    AtMost one other → AtMost other third → AtMost one third
  exactNumbers : ∀ left ∈ versions, ∀ right ∈ versions,
    NumbersExact left.exact.core right.exact.core ∧ (left.exact.core = right.exact.core →
        PartsExact (partsOf left.text) (partsOf right.text))

theorem numbersExact_of_apart (finite : ∀ value ∈ lefts, (ofNat value).isSome = true)
    (apart : NumbersApart lefts rights) : NumbersExact lefts rights := by
  induction lefts generalizing rights with
  | nil => trivial
  | cons left lefts ih =>
    cases rights with
    | nil => trivial
    | cons right rights =>
      simp only [NumbersApart] at apart
      split at apart
      · next same =>
        subst same
        refine ⟨?_, fun _ => ih (fun value mem => finite value (by simp [mem])) apart⟩
        rw [compareNumbers_self (finite left (by simp)), Nat.compare_eq_eq.mpr rfl]
      · next differ => exact ⟨compareNumbers_of_ne apart, fun same => absurd same differ⟩

theorem partsExact_of_apart {lefts rights : List String} (apart : PartsApart lefts rights) :
    PartsExact lefts rights := by
  induction lefts generalizing rights with
  | nil => trivial
  | cons left lefts ih =>
    cases rights with
    | nil => trivial
    | cons right rights =>
      simp only [PartsApart] at apart
      split at apart
      · next same =>
        subst same
        refine ⟨fun _ _ => ?_, fun _ => ih apart⟩
        rw [lessNumber_self, decide_eq_false (lt_irrefl _)]
      · next differ =>
        exact ⟨fun isLeft isRight => lessNumber_of_ne (apart isLeft isRight),
          fun same => absurd same differ⟩

theorem apart_of_numbersExact (forth : NumbersExact lefts rights)
    (back : NumbersExact rights lefts) : NumbersApart lefts rights := by
  induction lefts generalizing rights with
  | nil => trivial
  | cons left lefts ih =>
    cases rights with
    | nil => trivial
    | cons right rights =>
      simp only [NumbersApart]
      split
      · next same => exact ih (forth.2 same) (back.2 same.symm)
      · next differ =>
        intro sameDouble
        have first := forth.1
        have second := back.1
        rw [sameDouble] at first second
        have sameSign := first.symm.trans second
        rw [← Nat.compare_swap right left] at sameSign
        cases sign : compare right left with
        | lt => rw [sign] at sameSign; cases sameSign
        | eq => exact differ (Nat.compare_eq_eq.mp sign).symm
        | gt => rw [sign] at sameSign; cases sameSign

/-- Identifiers that are not told apart count as greater in both directions. -/
theorem compareParts_of_not_apart {lefts rights : List String}
    (notApart : ¬ PartsApart lefts rights) :
    compareParts lefts rights = .gt ∧ compareParts rights lefts = .gt := by
  induction lefts generalizing rights with
  | nil => exact absurd trivial notApart
  | cons left lefts ih =>
    cases rights with
    | nil => exact absurd trivial notApart
    | cons right rights =>
      simp only [PartsApart] at notApart
      split at notApart
      · next same =>
        subst same
        simpa [compareParts] using ih notApart
      · next differ =>
        push Not at notApart
        obtain ⟨isLeft, isRight, sameDouble⟩ := notApart
        simp [compareParts, differ, Ne.symm differ, isLeft, isRight, sameDouble,
          lessNumber_self]

theorem compareSemver_of_not_apart (sameCore : left.exact.core = right.exact.core)
    (notApart : ¬ PartsApart (partsOf left.text) (partsOf right.text)) :
    compareSemver left.text right.text = .ok .gt ∧
      compareSemver right.text left.text = .ok .gt := by
  obtain ⟨forth, back⟩ := compareParts_of_not_apart notApart
  have same := compareCores_self fun value => right.core_finite
  have leftRank : (partsOf left.text).isEmpty = false := by
    cases parts : partsOf left.text with
    | nil => rw [parts] at notApart; exact absurd trivial notApart
    | cons first rest => rfl
  have rightRank : (partsOf right.text).isEmpty = false := by
    cases parts : partsOf right.text with
    | nil =>
      rw [parts] at notApart
      cases left : partsOf left.text <;> exact absurd (by rw [left]; trivial) notApart
    | cons first rest => rfl
  rw [compareSemver_bind, compareSemver_bind, sameCore, same, if_neg (by simp), if_neg (by simp),
    comparePrerelease_then, comparePrerelease_then, leftRank, rightRank, forth, back]
  exact ⟨rfl, rfl⟩

/-- `compareSemver` orders versions as they should be just when every two of them are told apart. -/
theorem orderedBySemver_iff (versions : Set PolicyVersion) : OrderedBySemver versions ↔
    ∀ left ∈ versions, ∀ right ∈ versions, ToldApart left right := by
  constructor
  · intro ordered left leftIn right rightIn
    have numbers := apart_of_numbersExact (ordered.exactNumbers left leftIn right rightIn).1
      (ordered.exactNumbers right rightIn left leftIn).1
    refine ⟨numbers, fun sameCore => ?_⟩
    by_contra notApart
    obtain ⟨forth, back⟩ := compareSemver_of_not_apart sameCore notApart
    obtain ⟨sign, isSign, isSwapped⟩ := ordered.antisymmetric left leftIn right rightIn
    have isGreater : sign = .gt := Except.ok.inj (isSign.symm.trans forth)
    have isLess : sign.swap = .gt := Except.ok.inj (isSwapped.symm.trans back)
    rw [isGreater] at isLess
    cases isLess
  · intro apart
    have agrees {left right : PolicyVersion} (leftIn : left ∈ versions)
        (rightIn : right ∈ versions) : compareSemver left.text right.text =
          .ok (SemanticVersion.precedence left.exact right.exact) :=
      compareSemver_eq (apart left leftIn right rightIn)
    constructor
    · exact fun left leftIn right rightIn => agrees leftIn rightIn
    · intro left leftIn right rightIn
      refine ⟨_, agrees leftIn rightIn, ?_⟩
      rw [agrees rightIn leftIn, @Std.OrientedCmp.eq_swap _ SemanticVersion.precedence _
        right.exact left.exact]
    · rintro one oneIn other otherIn third thirdIn ⟨first, isFirst, notFirst⟩
        ⟨second, isSecond, notSecond⟩
      rw [agrees oneIn otherIn] at isFirst
      rw [agrees otherIn thirdIn] at isSecond
      obtain rfl := Except.ok.inj isFirst
      obtain rfl := Except.ok.inj isSecond
      refine ⟨_, agrees oneIn thirdIn, Ordering.isLE_iff_ne_gt.mp ?_⟩
      exact @Std.TransCmp.isLE_trans _ SemanticVersion.precedence _ _ _ _
        (Ordering.isLE_iff_ne_gt.mpr notFirst) (Ordering.isLE_iff_ne_gt.mpr notSecond)
    · intro left leftIn right rightIn
      obtain ⟨numbers, parts⟩ := apart left leftIn right rightIn
      exact ⟨numbersExact_of_apart (fun value => left.core_finite) numbers,
        fun sameCore => partsExact_of_apart (parts sameCore)⟩

def first : PolicyVersion := ⟨"1.0.0-9007199254740992", fun _ => rfl⟩

def second : PolicyVersion := ⟨"1.0.0-9007199254740993", fun _ => rfl⟩

/-- Two pre-releases with numbers from 2^53 on each count as the greater one. -/
theorem not_orderedBySemver_univ : ¬ OrderedBySemver Set.univ := by
  intro ordered
  obtain ⟨sign, isSign, isSwapped⟩ := ordered.antisymmetric first trivial second trivial
  have forth : compareSemver first.text second.text = .ok .gt := by decide +kernel
  have back : compareSemver second.text first.text = .ok .gt := by decide +kernel
  obtain rfl := Except.ok.inj (isSign.symm.trans forth)
  exact nomatch Except.ok.inj (isSwapped.symm.trans back)

end PolicyVersion

structure SharedVersion extends PolicyVersion where
  packed : packVersionPattern text = true

namespace SharedVersion

def numbers (version : SharedVersion) : List (Option Nat) :=
  version.exact.core.map ofNat

variable (one other : SharedVersion)

/-- The two comparisons give the same answer. -/
def Agree : Prop :=
  ∃ sign, compareSemver one.text other.text = .ok sign ∧
    (semverGte one.text other.text = true ↔ sign ≠ .lt)

theorem versionNumbers_eq (version : SharedVersion) :
    versionNumbers version.text = version.numbers := by
  rw [versionNumbers, numbers, PolicyVersion.exact, PolicyVersion.numbersOf, List.map_map]
  rfl

theorem numbers_eq_some (version : SharedVersion) : ∃ major minor patch,
    version.numbers = [some major, some minor, some patch] := by
  have finite (value : Nat) (mem : value ∈ version.exact.core) :
      ∃ number, ofNat value = some number :=
    Option.isSome_iff_exists.mp (version.core_finite mem)
  obtain ⟨first, second, third, isCore⟩ := List.length_eq_three.mp version.length_core
  obtain ⟨major, isMajor⟩ := finite first (by simp [isCore])
  obtain ⟨minor, isMinor⟩ := finite second (by simp [isCore])
  obtain ⟨patch, isPatch⟩ := finite third (by simp [isCore])
  exact ⟨major, minor, patch, by simp [numbers, isCore, isMajor, isMinor, isPatch]⟩

theorem semverGte_iff :
    semverGte one.text other.text = true ↔ compareCores one.numbers other.numbers ≠ .lt := by
  rw [semverGte, versionNumbers_eq, versionNumbers_eq]
  obtain ⟨major, minor, patch, isOne⟩ := one.numbers_eq_some
  obtain ⟨otherMajor, otherMinor, otherPatch, isOther⟩ := other.numbers_eq_some
  simp only [isOne, isOther, semverGteFrom, compareCores, compareNumbers, lessNumber,
    List.getElem?_cons_zero, List.getElem?_cons_succ, Option.getD_some, ne_eq, Option.some.injEq,
    Nat.compare_eq_eq]
  have decided {left right : Nat} (differ : left ≠ right) :
      decide (right < left) = true ↔ compare left right ≠ .lt := by
    rw [decide_eq_true_iff, ne_eq, Nat.compare_eq_lt]
    omega
  by_cases sameMajor : major = otherMajor
  · by_cases sameMinor : minor = otherMinor
    · by_cases samePatch : patch = otherPatch
      · simp [sameMajor, sameMinor, samePatch]
      · simpa [sameMajor, sameMinor, samePatch] using decided samePatch
    · simpa [sameMajor, sameMinor] using decided sameMinor
  · simpa [sameMajor] using decided sameMajor

theorem compareCores_eq_eq_iff :
    compareCores one.numbers other.numbers = .eq ↔ one.numbers = other.numbers := by
  obtain ⟨major, minor, patch, isOne⟩ := one.numbers_eq_some
  obtain ⟨otherMajor, otherMinor, otherPatch, isOther⟩ := other.numbers_eq_some
  simp only [isOne, isOther, compareCores, compareNumbers, Nat.compare_eq_eq, List.cons.injEq,
    Option.some.injEq, and_true]
  by_cases sameMajor : major = otherMajor
  · by_cases sameMinor : minor = otherMinor
    · by_cases samePatch : patch = otherPatch
      · simp [sameMajor, sameMinor, samePatch]
      · simp [sameMajor, sameMinor, samePatch]
    · simp [sameMajor, sameMinor]
  · simp [sameMajor]

/-- The comparisons agree just when a pre-release is not compared with a later version of the same
numbers. -/
theorem agree_iff (one other : SharedVersion) : Agree one other ↔ (one.numbers = other.numbers →
      comparePrerelease (PolicyVersion.partsOf one.text) (PolicyVersion.partsOf other.text)
        ≠ .lt) := by
  have compared := PolicyVersion.compareSemver_bind one.toPolicyVersion other.toPolicyVersion
  change compareSemver _ _ = .ok (if compareCores one.numbers other.numbers ≠ .eq then
    compareCores one.numbers other.numbers else _) at compared
  have agree : Agree one other ↔ (compareCores one.numbers other.numbers ≠ .lt ↔
      (if compareCores one.numbers other.numbers ≠ .eq then
        compareCores one.numbers other.numbers
      else comparePrerelease (PolicyVersion.partsOf one.text)
        (PolicyVersion.partsOf other.text)) ≠ .lt) := by
    rw [← semverGte_iff]
    constructor
    · rintro ⟨sign, isSign, same⟩
      obtain rfl := Except.ok.inj (isSign.symm.trans compared)
      exact same
    · exact fun same => ⟨_, compared, same⟩
  rw [agree, ← compareCores_eq_eq_iff]
  by_cases same : compareCores one.numbers other.numbers = .eq
  · simp [same]
  · simp [same]

/-- A pre-release is at least its release for the packs only. -/
theorem not_agree_alpha : ∃ one other : SharedVersion, ¬ Agree one other := by
  refine ⟨⟨⟨"1.0.0-alpha", fun _ => rfl⟩, by decide⟩,
    ⟨⟨"1.0.0", fun _ => rfl⟩, by decide⟩, ?_⟩
  rintro ⟨sign, isSign, same⟩
  have below : compareSemver "1.0.0-alpha" "1.0.0" = .ok .lt := by decide
  have atLeast : semverGte "1.0.0-alpha" "1.0.0" = true := by decide
  obtain rfl := Except.ok.inj (isSign.symm.trans below)
  exact same.mp atLeast rfl

end SharedVersion

end LongHub
