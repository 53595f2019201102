import Mathlib.Algebra.Group.Nat.Defs
import Mathlib.Data.Int.Init
import Mathlib.Data.List.Basic
import Mathlib.Data.Nat.Init
import Mathlib.Data.Option.Basic

/-!
# Texts of instants

An instant is a number of milliseconds since the beginning of 1970 in UTC. `toISOString` writes its
date in the Gregorian calendar, continued backwards and forwards, and its time of the day.
-/

namespace IsoInstant

/-- The time range of JavaScript, in milliseconds on either side of 1970. -/
def maxTime : Int := 8640000000000000

def civilFromDays (days : Int) : Int × Int × Int :=
  let dayOfCycle := (days + 719468) % 146097
  let century := min 3 (dayOfCycle / 36524)
  let dayOfCentury := dayOfCycle - 36524 * century
  let group := dayOfCentury / 1461
  let dayOfGroup := dayOfCentury - 1461 * group
  let yearOfGroup := min 3 (dayOfGroup / 365)
  let dayOfYear := dayOfGroup - 365 * yearOfGroup
  let monthFromMarch := (5 * dayOfYear + 2) / 153
  let day := dayOfYear - (153 * monthFromMarch + 2) / 5 + 1
  let month := if monthFromMarch < 10 then monthFromMarch + 3 else monthFromMarch - 9
  let year := (days + 719468) / 146097 * 400 + 100 * century + 4 * group + yearOfGroup
  (if month ≤ 2 then year + 1 else year, month, day)

def daysFromCivil (year month day : Int) : Int :=
  let yearFromMarch := if month ≤ 2 then year - 1 else year
  let yearOfCycle := yearFromMarch % 400
  let monthFromMarch := if month ≤ 2 then month + 9 else month - 3
  let dayOfYear := (153 * monthFromMarch + 2) / 5 + day - 1
  yearFromMarch / 400 * 146097 + yearOfCycle / 100 * 36524 + yearOfCycle % 100 / 4 * 1461 +
    yearOfCycle % 4 * 365 + dayOfYear - 719468

theorem dayOfYear_bounds (days : Int) :
    let dayOfCycle := (days + 719468) % 146097
    let century := min 3 (dayOfCycle / 36524)
    let dayOfCentury := dayOfCycle - 36524 * century
    let group := dayOfCentury / 1461
    let dayOfGroup := dayOfCentury - 1461 * group
    let yearOfGroup := min 3 (dayOfGroup / 365)
    let dayOfYear := dayOfGroup - 365 * yearOfGroup
    0 ≤ century ∧ century ≤ 3 ∧ 0 ≤ group ∧ group ≤ 24 ∧ 0 ≤ yearOfGroup ∧ yearOfGroup ≤ 3 ∧
      0 ≤ dayOfYear ∧ dayOfYear ≤ 365 := by
  dsimp only
  omega

theorem civilFromDays_bounds (days : Int) :
    1 ≤ (civilFromDays days).2.1 ∧ (civilFromDays days).2.1 ≤ 12 ∧
      1 ≤ (civilFromDays days).2.2 ∧ (civilFromDays days).2.2 ≤ 31 := by
  have bounds := dayOfYear_bounds days
  dsimp only [civilFromDays] at bounds ⊢
  obtain ⟨-, -, -, -, -, -, least, most⟩ := bounds
  generalize _ - 365 * _ = dayOfYear at least most ⊢
  omega

theorem dayOfYear_eq {dayOfYear : Int} (least : 0 ≤ dayOfYear) (most : dayOfYear ≤ 365) :
    let monthFromMarch := (5 * dayOfYear + 2) / 153
    let day := dayOfYear - (153 * monthFromMarch + 2) / 5 + 1
    let month := if monthFromMarch < 10 then monthFromMarch + 3 else monthFromMarch - 9
    (153 * (if month ≤ 2 then month + 9 else month - 3) + 2) / 5 + day - 1 = dayOfYear := by
  dsimp only
  have monthEq : (if (if (5 * dayOfYear + 2) / 153 < 10 then (5 * dayOfYear + 2) / 153 + 3
      else (5 * dayOfYear + 2) / 153 - 9) ≤ 2 then
        (if (5 * dayOfYear + 2) / 153 < 10 then (5 * dayOfYear + 2) / 153 + 3
          else (5 * dayOfYear + 2) / 153 - 9) + 9
      else (if (5 * dayOfYear + 2) / 153 < 10 then (5 * dayOfYear + 2) / 153 + 3
        else (5 * dayOfYear + 2) / 153 - 9) - 3) = (5 * dayOfYear + 2) / 153 := by
    split <;> split <;> omega
  rw [monthEq]
  omega

theorem daysFromCivil_civilFromDays (days : Int) :
    daysFromCivil (civilFromDays days).1 (civilFromDays days).2.1 (civilFromDays days).2.2 =
      days := by
  have bounds := dayOfYear_bounds days
  dsimp only [civilFromDays, daysFromCivil] at bounds ⊢
  obtain ⟨centuryLeast, centuryMost, groupLeast, groupMost, yearLeast, yearMost, least, most⟩ :=
    bounds
  have parts := Int.mul_ediv_add_emod (days + 719468) 146097
  generalize (days + 719468) / 146097 = cycle at *
  generalize (days + 719468) % 146097 = dayOfCycle at *
  generalize centuryEq : min 3 (dayOfCycle / 36524) = century at *
  generalize groupEq : (dayOfCycle - 36524 * century) / 1461 = group at *
  generalize yearEq : min 3 ((dayOfCycle - 36524 * century - 1461 * group) / 365) = yearOfGroup at *
  have dayEq := dayOfYear_eq least most
  have yearBack : ∀ test : Prop, ∀ [Decidable test],
      (if test then (if test then cycle * 400 + 100 * century + 4 * group + yearOfGroup + 1
        else cycle * 400 + 100 * century + 4 * group + yearOfGroup) - 1
      else if test then cycle * 400 + 100 * century + 4 * group + yearOfGroup + 1
        else cycle * 400 + 100 * century + 4 * group + yearOfGroup) =
      cycle * 400 + 100 * century + 4 * group + yearOfGroup := by
    intro test _
    split <;> omega
  rw [yearBack]
  omega

theorem year_bounds {days : Int} (least : -100000000 ≤ days) (most : days ≤ 100000000) :
    -300000 ≤ (civilFromDays days).1 ∧ (civilFromDays days).1 ≤ 300000 := by
  have bounds := dayOfYear_bounds days
  dsimp only [civilFromDays] at bounds ⊢
  generalize min 3 ((days + 719468) % 146097 / 36524) = century at *
  generalize ((days + 719468) % 146097 - 36524 * century) / 1461 = group at *
  generalize min 3 _ = yearOfGroup at *
  split <;> omega

def digits : Nat → Nat → List Char
  | 0, _ => []
  | width + 1, value => digits width (value / 10) ++ [Nat.digitChar (value % 10)]

/-- Four digits, or a sign and six digits. -/
def yearText (year : Int) : List Char :=
  if 0 ≤ year ∧ year ≤ 9999 then digits 4 year.toNat
  else (if year < 0 then '-' else '+') :: digits 6 year.natAbs

def format (time : Int) : List Char :=
  let date := civilFromDays (time / 86400000)
  let clock := (time % 86400000).toNat
  yearText date.1 ++ '-' :: (digits 2 date.2.1.toNat ++ '-' :: (digits 2 date.2.2.toNat ++
    'T' :: (digits 2 (clock / 3600000) ++ ':' :: (digits 2 (clock / 60000 % 60) ++
      ':' :: (digits 2 (clock / 1000 % 60) ++ '.' :: (digits 3 (clock % 1000) ++ ['Z']))))))

def toISOString (time : Int) : Option String :=
  if -maxTime ≤ time ∧ time ≤ maxTime then some (String.ofList (format time)) else none

def readDigits (width : Nat) (text : List Char) : Option (Nat × List Char) :=
  if (text.take width).length = width ∧ (text.take width).all Char.isDigit then
    some (Nat.ofDigitChars 10 (text.take width) 0, text.drop width)
  else none

def readMark (mark : Char) : List Char → Option (List Char)
  | [] => none
  | char :: rest => if char = mark then some rest else none

def readYear : List Char → Option (Int × List Char)
  | '-' :: text => (readDigits 6 text).map fun (year, rest) => (-(year : Int), rest)
  | '+' :: text => (readDigits 6 text).map fun (year, rest) => ((year : Int), rest)
  | text => (readDigits 4 text).map fun (year, rest) => ((year : Int), rest)

def parse (text : String) : Option Int := do
  let (year, text) ← readYear text.toList
  let (month, text) ← readDigits 2 (← readMark '-' text)
  let (day, text) ← readDigits 2 (← readMark '-' text)
  let (hours, text) ← readDigits 2 (← readMark 'T' text)
  let (minutes, text) ← readDigits 2 (← readMark ':' text)
  let (seconds, text) ← readDigits 2 (← readMark ':' text)
  let (milliseconds, text) ← readDigits 3 (← readMark '.' text)
  guard (text = ['Z'])
  some (daysFromCivil year month day * 86400000 + hours * 3600000 + minutes * 60000 +
    seconds * 1000 + milliseconds)

@[simp]
theorem length_digits (width value : Nat) : (digits width value).length = width := by
  induction width generalizing value with
  | zero => rfl
  | succ width ih => simp [digits, ih]

variable {width value : Nat}

theorem isDigit_of_mem_digits {char : Char}
    (mem : char ∈ digits width value) : char.isDigit = true := by
  induction width generalizing value with
  | zero => cases mem
  | succ width ih =>
    rcases List.mem_append.mp mem with front | last
    · exact ih front
    · rw [List.mem_singleton.mp last]
      have each : ∀ digit : Fin 10, (Nat.digitChar digit).isDigit = true := by decide
      exact each ⟨value % 10, by omega⟩

theorem isDigit_of_head {rest text : List Char} {char : Char}
    (same : digits (width + 1) value ++ rest = char :: text) : char.isDigit = true := by
  cases found : digits (width + 1) value with
  | nil =>
    have length := length_digits (width + 1) value
    rw [found] at length
    cases length
  | cons head tail =>
    have isDigit := @isDigit_of_mem_digits (width + 1) value head (by simp [found])
    rw [found] at same
    rwa [← (List.cons.inj same).1]

theorem ofDigitChars_digits (small : value < 10 ^ width) :
    Nat.ofDigitChars 10 (digits width value) 0 = value := by
  induction width generalizing value with
  | zero =>
    have isZero : value = 0 := by simpa using small
    rw [isZero]
    rfl
  | succ width ih =>
    have quotient : value / 10 < 10 ^ width := by
      omega
    rw [digits, Nat.ofDigitChars_append, ih quotient,
      Nat.ofDigitChars_cons_digitChar_of_lt_ten (by omega), Nat.ofDigitChars_nil]
    omega

@[simp]
theorem readDigits_digits (small : value < 10 ^ width)
    (rest : List Char) : readDigits width (digits width value ++ rest) = some (value, rest) := by
  have front : (digits width value ++ rest).take width = digits width value := by
    simp
  have back : (digits width value ++ rest).drop width = rest := by
    simp
  rw [readDigits, front, back, if_pos, ofDigitChars_digits small]
  refine ⟨length_digits width value, List.all_eq_true.mpr ?_⟩
  intro char mem
  exact isDigit_of_mem_digits mem

@[simp]
theorem readMark_cons (mark : Char) (rest : List Char) :
    readMark mark (mark :: rest) = some rest := by
  simp [readMark]

theorem readYear_yearText {year : Int} (least : -1000000 < year) (most : year < 1000000)
    (rest : List Char) : readYear (yearText year ++ rest) = some (year, rest) := by
  unfold yearText
  split
  · next range =>
    have small : year.toNat < 10 ^ 4 := by omega
    have read := @readDigits_digits 4 _ small rest
    unfold readYear
    split
    · next text same =>
      have isDigit := isDigit_of_head same
      cases isDigit
    · next text same =>
      have isDigit := isDigit_of_head same
      cases isDigit
    · rw [read]
      simp only [Option.map_some, Option.some.injEq, Prod.mk.injEq, and_true]
      omega
  · have small : year.natAbs < 10 ^ 6 := by omega
    have read := @readDigits_digits 6 _ small rest
    split
    · simp only [List.cons_append, readYear, read, Option.map_some, Option.some.injEq,
        Prod.mk.injEq, and_true]
      omega
    · simp only [List.cons_append, readYear, read, Option.map_some, Option.some.injEq,
        Prod.mk.injEq, and_true]
      omega

/-- The text of an instant is read back. -/
theorem parse_toISOString {time : Int} {text : String} (written : toISOString time = some text) :
    parse text = some time := by
  unfold toISOString at written
  split at written
  · next range =>
    obtain rfl := Option.some.inj written
    unfold maxTime at range
    have years := @year_bounds (time / 86400000) (by omega) (by omega)
    have bounds := civilFromDays_bounds (time / 86400000)
    have days := daysFromCivil_civilFromDays (time / 86400000)
    unfold parse format
    rw [String.toList_ofList]
    rw [readYear_yearText (by omega) (by omega)]
    generalize civilFromDays (time / 86400000) = date at *
    obtain ⟨year, month, day⟩ := date
    dsimp only at *
    have months : month.toNat < 10 ^ 2 := by omega
    have monthDays : day.toNat < 10 ^ 2 := by omega
    have hours : (time % 86400000).toNat / 3600000 < 10 ^ 2 := by omega
    have minutes : (time % 86400000).toNat / 60000 % 60 < 10 ^ 2 := by omega
    have seconds : (time % 86400000).toNat / 1000 % 60 < 10 ^ 2 := by omega
    have milliseconds : (time % 86400000).toNat % 1000 < 10 ^ 3 := by omega
    simp only [Option.bind_eq_bind]
    rw [Option.bind_some, readMark_cons, Option.bind_some, readDigits_digits months,
      Option.bind_some, readMark_cons, Option.bind_some, readDigits_digits monthDays,
      Option.bind_some, readMark_cons, Option.bind_some, readDigits_digits hours, Option.bind_some,
      readMark_cons, Option.bind_some, readDigits_digits minutes, Option.bind_some, readMark_cons,
      Option.bind_some, readDigits_digits seconds, Option.bind_some, readMark_cons,
      Option.bind_some, readDigits_digits milliseconds, Option.bind_some]
    have monthBack : ((month.toNat : Nat) : Int) = month := by omega
    have dayBack : ((day.toNat : Nat) : Int) = day := by omega
    rw [monthBack, dayBack, days]
    simp only [guard_true, Option.pure_def, Option.bind_some, Option.some.injEq]
    omega
  · cases written

end IsoInstant
