import Mathlib.Data.List.DropRight
import Mathlib.Data.List.Sort
import LongHub.IsoInstant

/-!
# The order of configuration backups

A backup records when it was created in the format `RFC3339Nano`, which leaves out the zeros at the
end of the fraction of a second. `List` compares these texts.
-/

namespace LongHub

open IsoInstant

namespace ConfigBackup

def schemaVersion : String := "longhub/native-config-backup/v1"

/-- The pattern `^[a-f0-9]{32}$`. -/
def idPattern (id : String) : Bool :=
  id.toList.length = 32 && id.toList.all fun char => char.isDigit || ('a' ≤ char && char ≤ 'f')

/-- A point in time of the years 0 to 9999, in nanoseconds since the beginning of 1970 in UTC. -/
structure Instant where
  nanoseconds : Int
  inYears : 0 ≤ (civilFromDays (nanoseconds / 86400000000000)).1 ∧
    (civilFromDays (nanoseconds / 86400000000000)).1 ≤ 9999

namespace Instant

variable (instant : Instant)

def date : Int × Int × Int := civilFromDays (instant.nanoseconds / 86400000000000)

def second : Int := instant.nanoseconds / 1000000000

def secondOfDay : Nat := (instant.second % 86400).toNat

/-- The nanoseconds within the second. -/
def nanos : Nat := (instant.nanoseconds % 1000000000).toNat

end Instant

/-- The digits of a fraction of a second up to the last one that is not zero. -/
def fractionDigits (nanos : Nat) : List Char := (digits 9 nanos).rdropWhile (· = '0')

def fractionText (nanos : Nat) : List Char :=
  if fractionDigits nanos = [] then [] else '.' :: fractionDigits nanos

/-- What is written of the date and of the time of the day: a number, its digits, what follows. -/
def timeFields (instant : Instant) : List (Nat × Nat × List Char) :=
  [(instant.date.1.toNat, 4, ['-']), (instant.date.2.1.toNat, 2, ['-']),
    (instant.date.2.2.toNat, 2, ['T']), (instant.secondOfDay / 3600, 2, [':']),
    (instant.secondOfDay / 60 % 60, 2, [':']), (instant.secondOfDay % 60, 2, [])]

def fieldsText (fields : List (Nat × Nat × List Char)) : List Char :=
  fields.flatMap fun (value, width, after) => digits width value ++ after

/-- `Format(time.RFC3339Nano)` in UTC. -/
def formatNano (instant : Instant) : List Char :=
  fieldsText (timeFields instant) ++ (fractionText instant.nanos ++ ['Z'])

structure Metadata where
  schemaVersion : String
  id : String
  digest : String
  bytes : Nat
  createdAt : List Char

/-- What one call of `writeBackup` draws, computes and reads off the clock. -/
structure BackupWrite where
  id : String
  digest : String
  bytes : Nat
  now : Instant
  isHex : idPattern id = true

def writeBackup (backup : BackupWrite) : Metadata :=
  { schemaVersion, id := backup.id, digest := backup.digest, bytes := backup.bytes
    createdAt := formatNano backup.now }

/-- The records that `List` does not ignore, under the names of their files. -/
def isListed (name : String) (value : Metadata) : Bool :=
  idPattern name && value.schemaVersion = schemaVersion && value.id = name

/-- `List` may return the records of these backups in this order: `sort.Slice` leaves no record
behind one with a smaller text. -/
def Lists (created order : List BackupWrite) : Prop :=
  order.Perm (created.filter fun backup => isListed backup.id (writeBackup backup)) ∧
    order.Pairwise fun earlier later =>
      ¬ (writeBackup earlier).createdAt < (writeBackup later).createdAt

def NewestFirst (created : List BackupWrite) : Prop :=
  ∀ order, Lists created order →
    order.Pairwise fun earlier later => later.now.nanoseconds ≤ earlier.now.nanoseconds

/-- In the same second, the digits of the one fraction begin those of the other. -/
def Clash (one other : Instant) : Prop :=
  one.second = other.second ∧ one.nanos ≠ other.nanos ∧
    fractionDigits one.nanos <+: fractionDigits other.nanos

instance : DecidableRel Clash := fun one other => inferInstanceAs (Decidable
  (one.second = other.second ∧ one.nanos ≠ other.nanos ∧
    fractionDigits one.nanos <+: fractionDigits other.nanos))

theorem digits_append_lt {width one other : Nat} (less : one < other) (small : other < 10 ^ width)
    (rest more : List Char) : digits width one ++ rest < digits width other ++ more := by
  induction width generalizing one other rest more with
  | zero => omega
  | succ width ih =>
    simp only [digits, List.append_assoc]
    rcases Nat.lt_or_ge (one / 10) (other / 10) with front | front
    · exact ih front (by omega) _ _
    · have sameFront : one / 10 = other / 10 := by omega
      have digitLess : ∀ left right : Fin 10, left < right →
          Nat.digitChar left < Nat.digitChar right := by decide
      rw [sameFront]
      apply List.append_left_lt
      rw [List.singleton_append, List.singleton_append, List.cons_lt_cons_iff]
      exact .inl (digitLess ⟨one % 10, by omega⟩ ⟨other % 10, by omega⟩
        (by rw [Fin.mk_lt_mk]; omega))

/-- Fields with the same layout are compared by the first that differs. -/
theorem fieldsText_append_lt {fields others : List (Nat × Nat × List Char)}
    (layout : fields.map Prod.snd = others.map Prod.snd)
    (small : ∀ field ∈ others, field.1 < 10 ^ field.2.1)
    (less : fields.map Prod.fst < others.map Prod.fst) (rest more : List Char) :
    fieldsText fields ++ rest < fieldsText others ++ more := by
  induction fields generalizing others with
  | nil =>
    cases others with
    | nil => simp at less
    | cons other others => simp at layout
  | cons field fields ih =>
    cases others with
    | nil => simp at layout
    | cons other others =>
      obtain ⟨value, width, after⟩ := field
      obtain ⟨otherValue, otherWidth, otherAfter⟩ := other
      simp only [List.map_cons, List.cons.injEq, Prod.mk.injEq] at layout
      obtain ⟨⟨rfl, rfl⟩, layout⟩ := layout
      obtain ⟨isSmall, restSmall⟩ := List.forall_mem_cons.mp small
      simp only [fieldsText, List.flatMap_cons, List.append_assoc]
      rcases List.cons_lt_cons_iff.mp less with first | ⟨same, later⟩
      · exact digits_append_lt first isSmall _ _
      · subst same
        apply List.append_left_lt
        apply List.append_left_lt
        exact ih layout restSmall later

theorem prefix_or_apart (one other : List Char) : one <+: other ∨ other <+: one ∨
    ∃ front left right rest more, left ≠ right ∧ one = front ++ left :: rest ∧
      other = front ++ right :: more := by
  induction one generalizing other with
  | nil => exact .inl (List.nil_prefix)
  | cons left rest ih =>
    cases other with
    | nil => exact .inr (.inl List.nil_prefix)
    | cons right more =>
      by_cases same : left = right
      · subst same
        rcases ih more with first | second | ⟨front, one, other, rest', more', apart, rfl, rfl⟩
        · exact .inl (List.cons_prefix_cons.mpr ⟨rfl, first⟩)
        · exact .inr (.inl (List.cons_prefix_cons.mpr ⟨rfl, second⟩))
        · exact .inr (.inr ⟨left :: front, one, other, rest', more', apart, rfl, rfl⟩)
      · exact .inr (.inr ⟨[], left, right, rest, more, same, rfl, rfl⟩)

theorem front_lt_iff {front rest more : List Char} {left right : Char} (apart : left ≠ right) :
    front ++ left :: rest < front ++ right :: more ↔ left < right := by
  induction front with
  | nil => simp [List.cons_lt_cons_iff, apart]
  | cons char front ih => simpa [List.cons_lt_cons_iff] using ih

section Fractions

variable {one other : Nat}

theorem exists_zeros (nanos : Nat) :
    ∃ count, digits 9 nanos = fractionDigits nanos ++ List.replicate count '0' := by
  have split : fractionDigits nanos ++ (digits 9 nanos).rtakeWhile (· = '0') = digits 9 nanos :=
    List.rdropWhile_append_rtakeWhile
  refine ⟨((digits 9 nanos).rtakeWhile (· = '0')).length, ?_⟩
  have zeros : (digits 9 nanos).rtakeWhile (· = '0') =
      List.replicate ((digits 9 nanos).rtakeWhile (· = '0')).length '0' := by
    apply List.eq_replicate_of_mem
    intro char mem
    simpa using List.mem_rtakeWhile_imp mem
  rw [← zeros]
  exact split.symm

theorem not_lt_zeros {text : List Char} (allDigits : ∀ char ∈ text, char.isDigit = true) :
    ¬ text < List.replicate text.length '0' := by
  induction text with
  | nil => simp
  | cons char rest ih =>
    obtain ⟨isDigit, allDigits⟩ := List.forall_mem_cons.mp allDigits
    simp only [Char.isDigit, Bool.and_eq_true, decide_eq_true_eq] at isDigit
    simp only [List.length_cons, List.replicate_succ, List.cons_lt_cons_iff, not_or, not_and]
    exact ⟨Char.not_lt.mpr isDigit.1, fun _ => ih allDigits⟩

theorem digits_lt (less : one < other) (small : other < 1000000000) :
    digits 9 one < digits 9 other := by
  simpa using @digits_append_lt 9 _ _ less small [] []

/-- A fraction whose digits begin those of another is not the larger one. -/
theorem not_digits_lt_of_front (begins : fractionDigits one <+: fractionDigits other) :
    ¬ digits 9 other < digits 9 one := by
  obtain ⟨more, same⟩ := begins
  obtain ⟨zeros, oneEq⟩ := exists_zeros one
  obtain ⟨otherZeros, otherEq⟩ := exists_zeros other
  rw [← same, List.append_assoc] at otherEq
  have length := congrArg List.length oneEq
  have otherLength := congrArg List.length otherEq
  simp only [length_digits, List.length_append, List.length_replicate] at length otherLength
  have allDigits : ∀ char ∈ more ++ List.replicate otherZeros '0', char.isDigit = true := by
    intro char mem
    apply @isDigit_of_mem_digits 9 other
    rw [otherEq]
    exact List.mem_append_right _ mem
  have sameLength : zeros = (more ++ List.replicate otherZeros '0').length := by
    simp only [List.length_append, List.length_replicate]
    omega
  rw [oneEq, otherEq, sameLength, List.not_lt]
  exact List.append_left_le (List.not_lt.mp (not_lt_zeros allDigits))

theorem fractionText_of_front (apart : fractionDigits one ≠ fractionDigits other)
    (begins : fractionDigits one <+: fractionDigits other) :
    fractionText other ++ ['Z'] < fractionText one ++ ['Z'] := by
  obtain ⟨more, same⟩ := begins
  cases more with
  | nil => exact absurd (by simpa using same) apart
  | cons char more =>
    have isDigit : char.isDigit = true := by
      obtain ⟨count, zeros⟩ := exists_zeros other
      apply @isDigit_of_mem_digits 9 other
      rw [zeros, ← same]
      simp
    have present : fractionDigits other ≠ [] := by simp [← same]
    simp only [fractionText, if_neg present]
    split_ifs with empty
    · rw [List.nil_append, List.cons_append, List.cons_lt_cons_iff]
      exact .inl (by decide)
    · rw [← same, List.cons_append, List.cons_append, List.cons_lt_cons_iff, List.append_assoc]
      refine .inr ⟨rfl, List.append_left_lt ?_⟩
      rw [List.cons_append, List.cons_lt_cons_iff]
      simp only [Char.isDigit, Bool.and_eq_true, decide_eq_true_eq] at isDigit
      exact .inl (UInt32.lt_of_le_of_lt isDigit.2 (by decide))

theorem fractionText_of_not_front (less : one < other) (small : other < 1000000000)
    (apart : ¬ fractionDigits one <+: fractionDigits other) :
    fractionText one ++ ['Z'] < fractionText other ++ ['Z'] := by
  have digitsLess := digits_lt less small
  rcases prefix_or_apart (fractionDigits one) (fractionDigits other) with
    begins | begins | ⟨front, left, right, rest, more, differ, oneSplit, otherSplit⟩
  · exact absurd begins apart
  · exact absurd digitsLess (not_digits_lt_of_front begins)
  · obtain ⟨zeros, oneEq⟩ := exists_zeros one
    obtain ⟨otherZeros, otherEq⟩ := exists_zeros other
    have lessHere : left < right := by
      rw [oneEq, otherEq, oneSplit, otherSplit] at digitsLess
      simpa [front_lt_iff differ] using digitsLess
    have present : fractionDigits one ≠ [] := by simp [oneSplit]
    have otherPresent : fractionDigits other ≠ [] := by simp [otherSplit]
    rw [fractionText, fractionText, if_neg present, if_neg otherPresent, oneSplit, otherSplit]
    simpa [List.cons_lt_cons_iff, front_lt_iff differ] using lessHere

end Fractions

/-- Later days have later dates. -/
theorem civilFromDays_lt {one other : Int} (less : one < other) :
    (civilFromDays one).1 < (civilFromDays other).1 ∨
      (civilFromDays one).1 = (civilFromDays other).1 ∧
        ((civilFromDays one).2.1 < (civilFromDays other).2.1 ∨
          (civilFromDays one).2.1 = (civilFromDays other).2.1 ∧
            (civilFromDays one).2.2 < (civilFromDays other).2.2) := by
  have bounds := dayOfYear_bounds one
  have otherBounds := dayOfYear_bounds other
  dsimp only [civilFromDays] at bounds otherBounds ⊢
  have cycles : (one + 719468) / 146097 < (other + 719468) / 146097 ∨
      (one + 719468) / 146097 = (other + 719468) / 146097 ∧
        (one + 719468) % 146097 < (other + 719468) % 146097 := by omega
  have most : (one + 719468) % 146097 < 146097 := by omega
  have otherMost : (other + 719468) % 146097 < 146097 := by omega
  generalize (one + 719468) / 146097 = cycle at *
  generalize (other + 719468) / 146097 = otherCycle at *
  generalize (one + 719468) % 146097 = day at *
  generalize (other + 719468) % 146097 = otherDay at *
  have centuries : day < otherDay → min 3 (day / 36524) < min 3 (otherDay / 36524) ∨
      min 3 (day / 36524) = min 3 (otherDay / 36524) ∧
        day - 36524 * min 3 (day / 36524) < otherDay - 36524 * min 3 (otherDay / 36524) := by
    omega
  generalize min 3 (day / 36524) = century at *
  generalize min 3 (otherDay / 36524) = otherCentury at *
  generalize day - 36524 * century = day at *
  generalize otherDay - 36524 * otherCentury = otherDay at *
  have groups : day < otherDay → day / 1461 < otherDay / 1461 ∨ day / 1461 = otherDay / 1461 ∧
      day - 1461 * (day / 1461) < otherDay - 1461 * (otherDay / 1461) := by omega
  generalize day / 1461 = group at *
  generalize otherDay / 1461 = otherGroup at *
  generalize day - 1461 * group = day at *
  generalize otherDay - 1461 * otherGroup = otherDay at *
  have years : day < otherDay → min 3 (day / 365) < min 3 (otherDay / 365) ∨
      min 3 (day / 365) = min 3 (otherDay / 365) ∧
        day - 365 * min 3 (day / 365) < otherDay - 365 * min 3 (otherDay / 365) := by omega
  generalize min 3 (day / 365) = yearOfGroup at *
  generalize min 3 (otherDay / 365) = otherYearOfGroup at *
  generalize day - 365 * yearOfGroup = day at *
  generalize otherDay - 365 * otherYearOfGroup = otherDay at *
  have ordered : cycle * 400 + 100 * century + 4 * group + yearOfGroup <
        otherCycle * 400 + 100 * otherCentury + 4 * otherGroup + otherYearOfGroup ∨
      cycle * 400 + 100 * century + 4 * group + yearOfGroup =
        otherCycle * 400 + 100 * otherCentury + 4 * otherGroup + otherYearOfGroup ∧
        day < otherDay := by omega
  generalize cycle * 400 + 100 * century + 4 * group + yearOfGroup = year at *
  generalize otherCycle * 400 + 100 * otherCentury + 4 * otherGroup + otherYearOfGroup =
    otherYear at *
  clear cycles centuries groups years most otherMost
  obtain ⟨-, -, -, -, -, -, dayLeast, dayMost⟩ := bounds
  obtain ⟨-, -, -, -, -, -, otherLeast, otherMost⟩ := otherBounds
  split <;> split <;> omega

theorem timeFields_lt {one other : Instant} (less : one.second < other.second) :
    (timeFields one).map Prod.fst < (timeFields other).map Prod.fst := by
  have clock : one.nanoseconds / 86400000000000 < other.nanoseconds / 86400000000000 ∨
      one.date = other.date ∧ one.secondOfDay < other.secondOfDay := by
    unfold Instant.date Instant.secondOfDay
    unfold Instant.second at less ⊢
    rcases lt_trichotomy (one.nanoseconds / 86400000000000)
      (other.nanoseconds / 86400000000000) with earlier | same | later
    · exact .inl earlier
    · refine .inr ⟨by rw [same], ?_⟩
      omega
    · omega
  have bounds := civilFromDays_bounds (one.nanoseconds / 86400000000000)
  have years := one.inYears
  simp only [timeFields, List.map_cons, List.map_nil, List.cons_lt_cons_iff, List.not_lt_nil,
    and_false, or_false]
  rcases clock with earlier | ⟨sameDate, later⟩
  · have dates := civilFromDays_lt earlier
    unfold Instant.date
    omega
  · rw [sameDate]
    omega

theorem timeFields_small (instant : Instant) :
    ∀ field ∈ timeFields instant, field.1 < 10 ^ field.2.1 := by
  have bounds := civilFromDays_bounds (instant.nanoseconds / 86400000000000)
  have years := instant.inYears
  simp only [timeFields, List.forall_mem_cons, List.not_mem_nil, false_implies, implies_true,
    and_true, Instant.date, Instant.secondOfDay]
  omega

theorem timeFields_congr {one other : Instant} (same : one.second = other.second) :
    timeFields one = timeFields other := by
  have sameDay : one.nanoseconds / 86400000000000 = other.nanoseconds / 86400000000000 := by
    unfold Instant.second at same
    omega
  simp only [timeFields, Instant.date, Instant.secondOfDay, sameDay, same]

theorem Instant.nanos_lt (instant : Instant) : instant.nanos < 1000000000 := by
  unfold Instant.nanos
  omega

theorem lt_of_not_clash {one other : Instant} (less : one.nanoseconds < other.nanoseconds)
    (apart : ¬ Clash one other) : formatNano one < formatNano other := by
  rcases lt_or_ge one.second other.second with earlier | late
  · exact @fieldsText_append_lt (timeFields one) (timeFields other) rfl (timeFields_small other)
      (timeFields_lt earlier) _ _
  · have sameSecond : one.second = other.second := by
      unfold Instant.second at late ⊢
      omega
    have nanosLess : one.nanos < other.nanos := by
      unfold Instant.second Instant.nanos at *
      omega
    rw [formatNano, formatNano, timeFields_congr sameSecond]
    apply List.append_left_lt
    apply fractionText_of_not_front nanosLess other.nanos_lt
    exact fun begins => apart ⟨sameSecond, nanosLess.ne, begins⟩

theorem lt_of_clash {one other : Instant} (clash : Clash one other) :
    one.nanoseconds < other.nanoseconds ∧ formatNano other < formatNano one := by
  obtain ⟨sameSecond, apart, begins⟩ := clash
  have less : one.nanos < other.nanos := by
    rcases Nat.lt_or_gt_of_ne apart with less | more
    · exact less
    · exact absurd (digits_lt more one.nanos_lt) (not_digits_lt_of_front begins)
  constructor
  · unfold Instant.second at sameSecond
    unfold Instant.nanos at less
    omega
  · have digitsApart : fractionDigits one.nanos ≠ fractionDigits other.nanos := fun same =>
      not_digits_lt_of_front (same ▸ List.prefix_rfl) (digits_lt less other.nanos_lt)
    rw [formatNano, formatNano, timeFields_congr sameSecond]
    exact List.append_left_lt (fractionText_of_front digitsApart begins)

theorem filter_isListed (created : List BackupWrite) :
    created.filter (fun backup => isListed backup.id (writeBackup backup)) = created := by
  apply List.filter_eq_self.mpr
  intro backup _
  simp [isListed, writeBackup, backup.isHex]

theorem NewestFirst.not_clash {created : List BackupWrite} {one other : BackupWrite}
    (newest : NewestFirst created) (oneIn : one ∈ created) (otherIn : other ∈ created) :
    ¬ Clash one.now other.now := by
  intro clash
  obtain ⟨less, textLess⟩ := lt_of_clash clash
  -- Any order by the texts has the earlier backup first.
  let follows := fun earlier later : BackupWrite =>
    ¬ (writeBackup earlier).createdAt < (writeBackup later).createdAt
  have total : Std.Total follows := ⟨fun one other => by
    by_contra both
    simp only [follows, not_or, not_not] at both
    exact List.lt_asymm both.1 both.2⟩
  have trans : IsTrans BackupWrite follows := ⟨fun one middle other first second =>
    List.not_lt.mpr (List.le_trans (List.not_lt.mp second) (List.not_lt.mp first))⟩
  let order := created.insertionSort follows
  have perm : order.Perm created := List.perm_insertionSort _ _
  have sorted : order.Pairwise follows := List.pairwise_insertionSort _ _
  have both := sorted.and (newest order ⟨(filter_isListed created).symm ▸ perm, sorted⟩)
  obtain ⟨place, inside, isOne⟩ := List.getElem_of_mem (perm.mem_iff.mpr oneIn)
  obtain ⟨otherPlace, otherInside, isOther⟩ := List.getElem_of_mem (perm.mem_iff.mpr otherIn)
  rw [List.pairwise_iff_getElem] at both
  rcases lt_trichotomy place otherPlace with before | same | after
  · have newer := (both place otherPlace inside otherInside before).2
    rw [isOne, isOther] at newer
    omega
  · subst same
    rw [← isOne, ← isOther] at less
    exact lt_irrefl _ less
  · have notLess := (both otherPlace place otherInside inside after).1
    rw [isOne, isOther] at notLess
    exact notLess textLess

/-- Whatever the backups, they are listed newest first exactly when no two of the same second
have fractions of which one begins the other. -/
theorem newestFirst_iff (created : List BackupWrite) : NewestFirst created ↔
    ∀ one ∈ created, ∀ other ∈ created, ¬ Clash one.now other.now := by
  constructor
  · intro newest one oneIn other otherIn
    exact newest.not_clash oneIn otherIn
  · intro apart order ⟨perm, sorted⟩
    rw [filter_isListed] at perm
    apply sorted.imp_of_mem
    intro earlier later earlierIn laterIn notLess
    by_contra isLater
    exact notLess (lt_of_not_clash (not_le.mp isLater)
      (apart earlier (perm.mem_iff.mp earlierIn) later (perm.mem_iff.mp laterIn)))

/-- A backup in the middle of a second is listed behind one from its beginning. -/
theorem not_newestFirst : ¬ ∀ created, NewestFirst created := by
  intro newest
  have apart := (newest [⟨"0123456789abcdef0123456789abcdef", "", 2, ⟨0, by decide⟩, by decide⟩,
    ⟨"fedcba9876543210fedcba9876543210", "", 2, ⟨500000000, by decide⟩, by decide⟩]).not_clash
    (.head _) (.tail _ (.head _))
  apply apart
  decide

end ConfigBackup

end LongHub
