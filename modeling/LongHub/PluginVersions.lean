import LongHub.PluginUpdate

/-!
# Comparing versions of the Cloud Plugin

A number of a version with at most nine digits is read exactly, and no larger number is read as
a smaller one.  So the comparison is right whenever one of the versions may be uploaded.
-/

namespace DoubleNumber

theorem le_roundHalfEven (numerator denominator : Nat) :
    numerator / denominator ≤ roundHalfEven numerator denominator := by
  unfold roundHalfEven
  dsimp only
  split_ifs
  · exact le_refl _
  · omega

theorem large_of_ofNat {value read : Nat} (large : 2 ^ 53 ≤ value)
    (isRead : ofNat value = some read) : 2 ^ 53 ≤ read := by
  unfold ofNat at isRead
  rw [if_neg (by omega)] at isRead
  dsimp only at isRead
  split_ifs at isRead
  rw [← Option.some.inj isRead]
  have places : 53 ≤ Nat.log 2 value := Nat.le_log_of_pow_le (by decide) large
  have whole : 2 ^ 52 ≤ value / 2 ^ (Nat.log 2 value - 52) := by
    rw [Nat.le_div_iff_mul_le (Nat.two_pow_pos _), ← pow_add]
    have sum : 52 + (Nat.log 2 value - 52) = Nat.log 2 value := by omega
    rw [sum]
    exact Nat.pow_log_le_self 2 (by omega)
  calc 2 ^ 53 ≤ 2 ^ 52 * 2 ^ (Nat.log 2 value - 52) := by
        rw [← pow_add]
        exact Nat.pow_le_pow_right (by decide) (by omega)
    _ ≤ _ := Nat.mul_le_mul_right _ (whole.trans (le_roundHalfEven _ _))

theorem ofNat_of_small {value : Nat} (small : value < 2 ^ 53) : ofNat value = some value := by
  unfold ofNat
  rw [if_pos small]

end DoubleNumber

namespace LongHub

open ClientUpdate DoubleNumber List Option

namespace CloudCli

section Versions

variable {left right : Nat}

theorem numberLess_ofNat (small : left < 2 ^ 53) :
    numberLess (ofNat left) (ofNat right) = decide (left < right) := by
  rw [ofNat_of_small small]
  by_cases alsoSmall : right < 2 ^ 53
  · rw [ofNat_of_small alsoSmall]
    rfl
  · cases read : ofNat right with
    | none =>
      have less : left < right := by omega
      simp [numberLess, less]
    | some value =>
      have large := large_of_ofNat (Nat.le_of_not_lt alsoSmall) read
      have less : left < right := by omega
      have lessRead : left < value := by omega
      simp [numberLess, less, lessRead]

theorem ofNat_numberLess (small : left < 2 ^ 53) :
    numberLess (ofNat right) (ofNat left) = decide (right < left) := by
  rw [ofNat_of_small small]
  by_cases alsoSmall : right < 2 ^ 53
  · rw [ofNat_of_small alsoSmall]
    rfl
  · have notLess : ¬ right < left := by omega
    cases read : ofNat right with
    | none => simp [numberLess, notLess]
    | some value =>
      have large := large_of_ofNat (Nat.le_of_not_lt alsoSmall) read
      have notLessRead : ¬ value < left := by omega
      simp [numberLess, notLess, notLessRead]

theorem compareNumbers_eq_gt_iff {lefts rights : List Nat}
    (sameLength : lefts.length = rights.length) (small : ∀ number ∈ lefts, number < 2 ^ 53) :
    compareNumbers (lefts.map ofNat) (rights.map ofNat) = .gt ↔ rights < lefts := by
  induction lefts generalizing rights with
  | nil =>
    have empty : rights = [] := length_eq_zero_iff.mp sameLength.symm
    simp [empty, compareNumbers]
  | cons left lefts ih =>
    cases rights with
    | nil => cases sameLength
    | cons right rights =>
      have smallLeft := small left (by simp)
      have sameRest : lefts.length = rights.length := by simpa using sameLength
      have rest := ih sameRest fun number mem => small number (by simp [mem])
      simp only [map_cons, compareNumbers, numberLess_ofNat smallLeft,
        ofNat_numberLess smallLeft, decide_eq_true_eq]
      rw [cons_lt_cons_iff]
      split_ifs with less more
      · have notMore : ¬ right < left := by omega
        have differ : right ≠ left := by omega
        simp [notMore, differ]
      · simp [more]
      · have same : right = left := by omega
        simp [same, rest]

end Versions

theorem versionNumber_of_versionPart {text : List Char} {value : Nat}
    (isPart : versionPart text = some value) :
    versionNumber text = some value ∧ value < 2 ^ 53 := by
  unfold versionPart at isPart
  split_ifs at isPart with valid
  obtain ⟨digits, notEmpty, short, noZero⟩ := valid
  have isValue := Option.some.inj isPart
  constructor
  · unfold versionNumber
    rw [if_pos ⟨digits, notEmpty, noZero⟩, isValue]
  · calc value = Nat.ofDigitChars 10 text 0 := isValue.symm
      _ < 10 ^ text.length := by simpa using ofDigitChars_lt digits 0
      _ ≤ 10 ^ 9 := Nat.pow_le_pow_right (by decide) short
      _ < 2 ^ 53 := by decide

variable {numbers : List Nat} {version : String}

theorem mapM_versionNumber {texts : List (List Char)}
    (areParts : texts.mapM versionPart = some numbers) :
    texts.mapM versionNumber = some numbers ∧ ∀ number ∈ numbers, number < 2 ^ 53 := by
  induction texts generalizing numbers with
  | nil =>
    cases areParts
    simp
  | cons text texts ih =>
    simp only [mapM_cons, bind, bind_eq_some_iff, pure, Option.some.injEq] at areParts
    obtain ⟨number, isPart, rest, areRest, rfl⟩ := areParts
    obtain ⟨isNumber, small⟩ := versionNumber_of_versionPart isPart
    obtain ⟨areNumbers, allSmall⟩ := ih areRest
    constructor
    · simp [mapM_cons, isNumber, areNumbers]
    · simpa using ⟨small, allSmall⟩

theorem parts_of_clientVersion (isVersion : clientVersion version = some numbers) :
    ∃ major minor patch, version.toList.splitOn '.' = [major, minor, patch] ∧
      [major, minor, patch].mapM versionPart = some numbers := by
  unfold clientVersion at isVersion
  split at isVersion
  · next major minor patch parts => exact ⟨major, minor, patch, parts, isVersion⟩
  · cases isVersion

theorem versionNumbers_of_clientVersion (isVersion : clientVersion version = some numbers) :
    versionNumbers version = some numbers ∧ ∀ number ∈ numbers, number < 2 ^ 53 := by
  obtain ⟨major, minor, patch, parts, areNumbers⟩ := parts_of_clientVersion isVersion
  unfold versionNumbers
  rw [parts]
  exact mapM_versionNumber areNumbers

theorem isSome_versionNumbers (uploaded : (clientVersion version).isSome = true) :
    (versionNumbers version).isSome = true := by
  obtain ⟨numbers, isVersion⟩ := isSome_iff_exists.mp uploaded
  rw [(versionNumbers_of_clientVersion isVersion).1]
  rfl

theorem length_versionNumbers (areNumbers : versionNumbers version = some numbers) :
    numbers.length = 3 := by
  unfold versionNumbers at areNumbers
  split at areNumbers
  · simp only [mapM_cons, mapM_nil, bind, bind_eq_some_iff, pure, Option.some.injEq] at areNumbers
    obtain ⟨first, -, others, ⟨second, -, rest, ⟨third, -, none, rfl, rfl⟩, rfl⟩, rfl⟩ := areNumbers
    rfl
  · cases areNumbers

theorem not_isLower_self (version : String) : ¬ IsLower version version := by
  rintro ⟨lefts, rights, areLefts, areRights, less⟩
  rw [areLefts] at areRights
  cases areRights
  exact lt_irrefl _ less

theorem compareVersions_eq_gt_iff {left right : String}
    (uploaded : (clientVersion left).isSome = true) :
    compareVersions left right = .ok .gt ↔ IsLower right left := by
  obtain ⟨numbers, isVersion⟩ := isSome_iff_exists.mp uploaded
  obtain ⟨areNumbers, small⟩ := versionNumbers_of_clientVersion isVersion
  simp only [compareVersions, semverParts, areNumbers, Except.bind_eq_ok,
    Except.require_eq_ok, Except.pure_eq_ok, IsLower]
  constructor
  · rintro ⟨_, ⟨_, ⟨⟩, rfl⟩, _, ⟨rights, areRights, rfl⟩, greater⟩
    have sameLength : numbers.length = rights.length := by
      rw [length_versionNumbers areNumbers, length_versionNumbers areRights]
    exact ⟨rights, numbers, areRights, rfl, (compareNumbers_eq_gt_iff sameLength small).mp greater⟩
  · rintro ⟨rights, lefts, areRights, ⟨⟩, less⟩
    have sameLength : numbers.length = rights.length := by
      rw [length_versionNumbers areNumbers, length_versionNumbers areRights]
    exact ⟨_, ⟨_, rfl, rfl⟩, _, ⟨rights, areRights, rfl⟩,
      (compareNumbers_eq_gt_iff sameLength small).mpr less⟩

theorem IsLower.not_isLower {left right : String} (lower : IsLower left right) :
    ¬ IsLower right left := by
  obtain ⟨lefts, rights, areLefts, areRights, less⟩ := lower
  rintro ⟨otherRights, otherLefts, alsoRights, alsoLefts, more⟩
  rw [areLefts] at alsoLefts
  rw [areRights] at alsoRights
  cases alsoLefts
  cases alsoRights
  exact lt_asymm less more

end CloudCli

end LongHub
