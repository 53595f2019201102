import Mathlib.Algebra.Group.Int.Defs
import Mathlib.Algebra.Group.Nat.Defs
import Mathlib.Data.List.TakeWhile
import Mathlib.Data.Nat.Log
import Mathlib.Data.Nat.Init

/-!
# Numbers written in decimal

JavaScript reads a decimal numeral as the nearest floating-point number with 53 significant bits, a
tie going to the even one.
-/

namespace DoubleNumber

variable (numerator denominator : Nat)

def roundHalfEven : Nat :=
  let quotient := numerator / denominator
  let twice := 2 * (numerator % denominator)
  if twice < denominator ∨ (twice = denominator ∧ quotient % 2 = 0) then quotient
  else quotient + 1

/-- The floating-point number nearest to a natural number; none is infinity. -/
def ofNat (value : Nat) : Option Nat :=
  if value < 2 ^ 53 then some value
  else
    let spacing := 2 ^ (Nat.log 2 value - 52)
    let rounded := roundHalfEven value spacing * spacing
    if rounded < 2 ^ 1024 then some rounded else none

def binaryPlaces : Nat :=
  if denominator ≤ numerator then 52 - Nat.log 2 (numerator / denominator)
  else min 1074 (52 + Nat.clog 2 ((denominator + numerator - 1) / numerator))

def nearestSafeInteger : Option Nat :=
  if numerator = 0 then some 0
  else if denominator * 2 ^ 53 ≤ numerator then none
  else
    let scale := 2 ^ binaryPlaces numerator denominator
    let rounded := roundHalfEven (numerator * scale) denominator
    if rounded % scale = 0 ∧ rounded / scale < 2 ^ 53 then some (rounded / scale) else none

@[simp]
theorem roundHalfEven_one (value : Nat) : roundHalfEven value 1 = value := by
  simp [roundHalfEven, Nat.mod_one]

variable {value left right : Nat}

theorem nearestSafeInteger_one (small : value < 2 ^ 53) :
    nearestSafeInteger value 1 = some value := by
  unfold nearestSafeInteger
  split
  · next isZero => rw [isZero]
  · have positive : 0 < 2 ^ binaryPlaces value 1 := Nat.two_pow_pos _
    rw [if_neg (by omega)]
    simp only [roundHalfEven_one]
    rw [Nat.mul_div_cancel _ positive, Nat.mul_mod_left, if_pos ⟨rfl, small⟩]

theorem roundHalfEven_cases (numerator denominator : Nat) :
    numerator / denominator ≤ roundHalfEven numerator denominator ∧
      roundHalfEven numerator denominator ≤ numerator / denominator + 1 := by
  unfold roundHalfEven
  dsimp only
  split <;> omega

theorem roundHalfEven_mono (denominator : Nat) (order : left ≤ right) :
    roundHalfEven left denominator ≤ roundHalfEven right denominator := by
  have quotients : left / denominator ≤ right / denominator := Nat.div_le_div_right order
  rcases Nat.lt_or_eq_of_le quotients with less | same
  · have above := (roundHalfEven_cases left denominator).2
    have below := (roundHalfEven_cases right denominator).1
    omega
  · have remainders : left % denominator ≤ right % denominator := by
      have leftParts := Nat.div_add_mod left denominator
      have rightParts := Nat.div_add_mod right denominator
      rw [same] at leftParts
      omega
    unfold roundHalfEven
    dsimp only
    rw [same]
    split
    · split <;> omega
    · rw [if_neg (by omega)]

/-- The nearest number with 53 significant bits, however large. -/
def nearest (value : Nat) : Nat :=
  if value < 2 ^ 53 then value
  else roundHalfEven value (2 ^ (Nat.log 2 value - 52)) * 2 ^ (Nat.log 2 value - 52)

theorem ofNat_eq_nearest (value : Nat) :
    ofNat value = if nearest value < 2 ^ 1024 then some (nearest value) else none := by
  unfold ofNat nearest
  split
  · next small =>
    have below : value < 2 ^ 1024 := lt_trans small (Nat.pow_lt_pow_right (by omega) (by omega))
    rw [if_pos below]
  · rfl

theorem nearest_between (positive : 0 < value) :
    2 ^ Nat.log 2 value ≤ nearest value ∧ nearest value ≤ 2 ^ (Nat.log 2 value + 1) := by
  have atLeast := Nat.pow_log_le_self 2 positive.ne'
  have atMost := Nat.lt_pow_succ_log_self (by omega : 1 < 2) value
  unfold nearest
  split
  · exact ⟨atLeast, atMost.le⟩
  · next large =>
    have exponent : 53 ≤ Nat.log 2 value :=
      (Nat.le_log_iff_pow_le (by omega) positive.ne').mpr (Nat.le_of_not_lt large)
    obtain ⟨extra, isExtra⟩ := Nat.exists_eq_add_of_le exponent
    rw [isExtra] at atLeast atMost ⊢
    have spacing : 53 + extra - 52 = extra + 1 := by omega
    have lower : 2 ^ (53 + extra) = 2 ^ 52 * 2 ^ (extra + 1) := by
      rw [← Nat.pow_add]
      congr 1
      omega
    have upper : 2 ^ (53 + extra + 1) = 2 ^ 53 * 2 ^ (extra + 1) := by
      rw [← Nat.pow_add, Nat.add_assoc]
    have width : 0 < 2 ^ (extra + 1) := Nat.two_pow_pos _
    rw [spacing, lower, upper]
    rw [lower] at atLeast
    rw [upper] at atMost
    have quotientLeast : 2 ^ 52 ≤ value / 2 ^ (extra + 1) :=
      (Nat.le_div_iff_mul_le width).mpr atLeast
    have quotientMost : value / 2 ^ (extra + 1) < 2 ^ 53 := (Nat.div_lt_iff_lt_mul width).mpr atMost
    obtain ⟨below, above⟩ := roundHalfEven_cases value (2 ^ (extra + 1))
    constructor
    · exact Nat.mul_le_mul_right _ (quotientLeast.trans below)
    · exact Nat.mul_le_mul_right _ (above.trans quotientMost)

theorem nearest_mono (order : left ≤ right) : nearest left ≤ nearest right := by
  rcases Nat.eq_zero_or_pos left with rfl | positive
  · exact Nat.zero_le _
  · have logs : Nat.log 2 left ≤ Nat.log 2 right := Nat.log_mono_right order
    rcases Nat.lt_or_eq_of_le logs with less | same
    · calc nearest left ≤ 2 ^ (Nat.log 2 left + 1) := (nearest_between positive).2
        _ ≤ 2 ^ Nat.log 2 right := Nat.pow_le_pow_right (by omega) less
        _ ≤ nearest right := (nearest_between (positive.trans_le order)).1
    · unfold nearest
      rw [same]
      split
      · split
        · exact order
        · next small large =>
          have sameLog : Nat.log 2 left < 53 := by
            rw [Nat.log_lt_iff_lt_pow (by omega) positive.ne']
            exact small
          have largeLog : 53 ≤ Nat.log 2 right :=
            (Nat.le_log_iff_pow_le (by omega) (by omega)).mpr (Nat.le_of_not_lt large)
          omega
      · rw [if_neg (by omega)]
        exact Nat.mul_le_mul_right _ (roundHalfEven_mono _ order)

theorem ofNat_lt_of_ne (order : left < right) (differ : ofNat left ≠ ofNat right) :
    ∃ lower, ofNat left = some lower ∧ ∀ upper, ofNat right = some upper → lower < upper := by
  have rounded := nearest_mono order.le
  rw [ofNat_eq_nearest, ofNat_eq_nearest] at differ
  simp only [ofNat_eq_nearest]
  by_cases finite : nearest left < 2 ^ 1024
  · rw [if_pos finite] at differ ⊢
    refine ⟨_, rfl, ?_⟩
    intro upper isUpper
    split at isUpper
    · next alsoFinite =>
      cases isUpper
      rw [if_pos alsoFinite] at differ
      have apart : nearest left ≠ nearest right := fun same => differ (congrArg some same)
      omega
    · cases isUpper
  · rw [if_neg finite, if_neg (by omega)] at differ
    exact absurd rfl differ

theorem ofNat_isSome (bounded : value < 2 ^ 1022) : (ofNat value).isSome = true := by
  have finite : nearest value < 2 ^ 1024 := by
    rcases Nat.eq_zero_or_pos value with rfl | positive
    · exact Nat.two_pow_pos _
    · have exponent : Nat.log 2 value < 1022 := by
        rw [Nat.log_lt_iff_lt_pow (by omega) positive.ne']
        exact bounded
      exact (nearest_between positive).2.trans_lt (Nat.pow_lt_pow_right (by omega) (by omega))
  rw [ofNat_eq_nearest, if_pos finite, Option.isSome_some]

structure Numeral where
  negative : Bool
  digits : Nat
  exponent : Int

/-- The digits after the point, if there is one, and what follows. -/
def readFraction : List Char → Option (List Char × List Char)
  | '.' :: rest =>
    let digits := rest.takeWhile Char.isDigit
    if digits = [] then none else some (digits, rest.dropWhile Char.isDigit)
  | text => some ([], text)

def readExponent : List Char → Option Int
  | [] => some 0
  | letter :: rest =>
    let (negative, digits) : Bool × List Char :=
      match rest with
      | '-' :: digits => (true, digits)
      | '+' :: digits => (false, digits)
      | digits => (false, digits)
    if (letter = 'e' ∨ letter = 'E') ∧ digits ≠ [] ∧ digits.all Char.isDigit then
      let size : Int := Nat.ofDigitChars 10 digits 0
      some (if negative then -size else size)
    else none

def readNumeral (text : List Char) : Option Numeral :=
  let (negative, unsigned) : Bool × List Char :=
    match text with
    | '-' :: rest => (true, rest)
    | _ => (false, text)
  let whole := unsigned.takeWhile Char.isDigit
  if whole = [] ∨ (whole.head? = some '0' ∧ whole.length ≠ 1) then none
  else do
    let (fraction, afterFraction) ← readFraction (unsigned.dropWhile Char.isDigit)
    let exponent ← readExponent afterFraction
    some ⟨negative, Nat.ofDigitChars 10 (whole ++ fraction) 0, exponent - fraction.length⟩

def safeInteger (literal : String) : Option Int :=
  (readNumeral literal.toList).bind fun numeral =>
    let size :=
      if 0 ≤ numeral.exponent then
        nearestSafeInteger (numeral.digits * 10 ^ numeral.exponent.toNat) 1
      else nearestSafeInteger numeral.digits (10 ^ (-numeral.exponent).toNat)
    size.map fun value => if numeral.negative then -(value : Int) else value

theorem head_toDigits : (Nat.toDigits 10 value).head? = some '0' → value = 0 := by
  induction value using Nat.strong_induction_on with
  | _ value ih =>
    intro starts
    rcases Nat.lt_or_ge value 10 with small | large
    · rw [Nat.toDigits_of_lt_base small] at starts
      have each : ∀ digit : Fin 10, digit.val.digitChar = '0' → digit.val = 0 := by decide
      exact each ⟨value, small⟩ (Option.some.inj starts)
    · rw [Nat.toDigits_of_base_le (by omega) large] at starts
      rw [List.head?_append, Option.or_of_isSome] at starts
      · have quotient := ih (value / 10) (by omega) starts
        omega
      · simp [List.isSome_head?, Nat.toDigits_ne_nil]

theorem readNumeral_toDigits (value : Nat) :
    readNumeral (Nat.toDigits 10 value) = some ⟨false, value, 0⟩ := by
  have digits : ∀ char ∈ Nat.toDigits 10 value, char.isDigit = true := by
    intro char mem
    exact Nat.isDigit_of_mem_toDigits (by omega) (by omega) mem
  have unsigned : (match Nat.toDigits 10 value with
      | '-' :: rest => (true, rest)
      | _ => (false, Nat.toDigits 10 value)) = (false, Nat.toDigits 10 value) := by
    split
    · next rest same =>
      have isDigit := digits '-' (by simp [same])
      cases isDigit
    · rfl
  unfold readNumeral
  have whole : (Nat.toDigits 10 value).takeWhile Char.isDigit = Nat.toDigits 10 value :=
    List.takeWhile_eq_self_iff.mpr digits
  have nothing : (Nat.toDigits 10 value).dropWhile Char.isDigit = [] :=
    List.dropWhile_eq_nil_iff.mpr digits
  rw [unsigned]
  dsimp only
  rw [whole, nothing, if_neg]
  · simp [readFraction, readExponent]
  · rintro (empty | ⟨starts, long⟩)
    · exact Nat.toDigits_ne_nil empty
    · have isZero := head_toDigits starts
      rw [isZero] at long
      exact long rfl

theorem safeInteger_repr (small : value < 2 ^ 53) :
    safeInteger value.repr = some (value : Int) := by
  rw [safeInteger, Nat.toList_repr, readNumeral_toDigits]
  simp [nearestSafeInteger_one small]

theorem nearestSafeInteger_one_of_large (large : 2 ^ 53 ≤ value) :
    nearestSafeInteger value 1 = none := by
  have notZero : value ≠ 0 := by
    omega
  simp [nearestSafeInteger, notZero]
  omega

theorem safeInteger_repr_of_large (large : 2 ^ 53 ≤ value) : safeInteger value.repr = none := by
  rw [safeInteger, Nat.toList_repr, readNumeral_toDigits]
  simp [nearestSafeInteger_one_of_large large]

theorem ofDigitChars_lt {digits : List Char} (isDigits : digits.all Char.isDigit = true)
    (start : Nat) : Nat.ofDigitChars 10 digits start < (start + 1) * 10 ^ digits.length := by
  induction digits generalizing start with
  | nil => simp
  | cons digit rest ih =>
    simp only [List.all_cons, Bool.and_eq_true] at isDigits
    have isDigit := Char.isDigit_iff_toNat.mp isDigits.1
    rw [Nat.ofDigitChars_cons, List.length_cons, Nat.pow_succ']
    refine (ih isDigits.2 _).trans_le ?_
    rw [← Nat.mul_assoc]
    apply Nat.mul_le_mul_right
    have zero : '0'.toNat = 48 := rfl
    have nine : '9'.toNat = 57 := rfl
    omega

theorem readNumeral_minus {text : List Char} (unsigned : text.head? ≠ some '-') :
    readNumeral ('-' :: text) =
      (readNumeral text).map fun numeral => { numeral with negative := true } := by
  have signs (other : List Char) : other.head? = some '-' ∨ (match other with
      | '-' :: rest => (true, rest)
      | _ => (false, other)) = (false, other) := by
    split
    · exact .inl rfl
    · exact .inr rfl
  have minus : (match '-' :: text with
      | '-' :: rest => (true, rest)
      | _ => (false, '-' :: text)) = (true, text) := rfl
  unfold readNumeral
  rw [minus, (signs text).resolve_left unsigned]
  dsimp only
  split
  · rfl
  · cases readFraction (text.dropWhile Char.isDigit) with
    | none => rfl
    | some parts =>
      simp only [bind, Option.bind_some]
      cases readExponent parts.2 <;> rfl

theorem head_toDigits_ne_minus (value : Nat) : (Nat.toDigits 10 value).head? ≠ some '-' := by
  intro starts
  have mem : '-' ∈ Nat.toDigits 10 value := List.mem_of_mem_head? starts
  have isDigit := Nat.isDigit_of_mem_toDigits (by omega) (by omega) mem
  cases isDigit

theorem isSome_readNumeral_toString (value : Int) :
    (readNumeral (toString value).toList).isSome = true := by
  cases value with
  | ofNat value =>
    change (readNumeral value.repr.toList).isSome = true
    rw [Nat.toList_repr, readNumeral_toDigits]
    rfl
  | negSucc value =>
    change (readNumeral ("-" ++ (value + 1).repr).toList).isSome = true
    rw [String.toList_append, Nat.toList_repr]
    change (readNumeral ('-' :: Nat.toDigits 10 (value + 1))).isSome = true
    rw [readNumeral_minus (head_toDigits_ne_minus _), readNumeral_toDigits]
    rfl

theorem safeInteger_toString (value : Int) :
    safeInteger (toString value) = if value.natAbs < 2 ^ 53 then some value else none := by
  cases value with
  | ofNat value =>
    change safeInteger value.repr = if value < 2 ^ 53 then some (value : Int) else none
    by_cases small : value < 2 ^ 53
    · rw [safeInteger_repr small, if_pos small]
    · rw [safeInteger_repr_of_large (by omega), if_neg small]
  | negSucc value =>
    change safeInteger ("-" ++ (value + 1).repr) =
      if value + 1 < 2 ^ 53 then some (Int.negSucc value) else none
    have text : ("-" ++ (value + 1).repr).toList = '-' :: Nat.toDigits 10 (value + 1) := by
      rw [String.toList_append, Nat.toList_repr]
      rfl
    rw [safeInteger, text, readNumeral_minus (head_toDigits_ne_minus _), readNumeral_toDigits]
    by_cases small : value + 1 < 2 ^ 53
    · rw [if_pos small]
      simp [nearestSafeInteger_one small, Int.negSucc_eq]
    · have none := nearestSafeInteger_one_of_large (Nat.le_of_not_lt small)
      rw [if_neg small]
      simp [none]

theorem filter_safeInteger_toString (value : Int) :
    (safeInteger (toString value)).filter (fun number => decide (0 < number)) =
      if 0 < value ∧ value < 2 ^ 53 then some value else none := by
  rw [safeInteger_toString]
  by_cases positive : 0 < value
  · by_cases small : value < 2 ^ 53
    · have isSafe : value.natAbs < 2 ^ 53 := by omega
      rw [if_pos isSafe, if_pos ⟨positive, small⟩]
      simpa using positive
    · have notSafe : ¬ value.natAbs < 2 ^ 53 := by omega
      rw [if_neg notSafe, if_neg fun both => small both.2]
      rfl
  · have notBoth : ¬ (0 < value ∧ value < 2 ^ 53) := fun both => positive both.1
    split
    · simp [Option.filter, positive]
    · rfl

example : safeInteger "9007199254740991.4" = some 9007199254740991 := by decide

example : safeInteger "-1.5e1" = some (-15) := by decide

end DoubleNumber
