import Mathlib.Data.List.Lex
import Mathlib.Data.List.Sort
import Mathlib.Data.List.TakeWhile

/-!
# The order of texts in English

`localeCompare` compares two texts first by their letters, digits and punctuation marks, and only
then, over the whole of both texts, by the case of their letters.
-/

namespace Collation

def punctuation : List Char :=
  ['\t', '\n', ' ', '_', '-', ',', ';', ':', '!', '?', '.', '\'', '"', '(', ')', '[', ']',
    '\x7b', '\x7d', '@', '*', '/', '\\', '&', '#', '%', '\x60', '^', '+', '<', '=', '>', '|',
    '~', '$']

/-- The place of a character, or nothing for a control character. -/
def primaryWeight (char : Char) : Option Nat :=
  if char.isAlpha then some (200 + char.toLower.toNat)
  else if char.isDigit then some (100 + char.toNat)
  else if char ∈ punctuation then some (punctuation.idxOf char + 1)
  else if char.toNat < 128 then none
  else some (400 + char.toNat)

/-- The places of the characters, a zero that is less than all of them, and the
cases of the letters, lower case first. -/
def sortKey (text : String) : List Nat :=
  let counted := text.toList.filter fun char => (primaryWeight char).isSome
  counted.filterMap primaryWeight ++ 0 :: counted.map fun char => if char.isUpper then 1 else 0

/-- Whether a text does not come after another one. -/
def localeLe (one other : String) : Prop :=
  sortKey one ≤ sortKey other

instance : DecidableRel localeLe := fun one other =>
  inferInstanceAs (Decidable (sortKey one ≤ sortKey other))

instance : Std.Total localeLe := ⟨fun one other => le_total (sortKey one) (sortKey other)⟩

instance : IsTrans String localeLe := ⟨fun _ _ _ => le_trans⟩

def sorted (texts : List String) : List String :=
  texts.insertionSort localeLe

theorem sorted_perm (texts : List String) : (sorted texts).Perm texts :=
  List.perm_insertionSort localeLe texts

theorem sorted_pairwise (texts : List String) : (sorted texts).Pairwise localeLe :=
  List.pairwise_insertionSort localeLe texts

@[simp]
theorem mem_sorted {text : String} {texts : List String} : text ∈ sorted texts ↔ text ∈ texts :=
  (sorted_perm texts).mem_iff

def isIdentifierChar (char : Char) : Bool :=
  char.isLower || char.isDigit || char ∈ [':', '_', '.', '-']

def IsIdentifier (text : String) : Prop :=
  ∀ char ∈ text.toList, isIdentifierChar char = true

instance : DecidablePred IsIdentifier := fun text =>
  inferInstanceAs (Decidable (∀ char ∈ text.toList, isIdentifierChar char = true))

theorem isIdentifierChar_lt {char : Char} (allowed : isIdentifierChar char = true) :
    char.toNat < 128 := by
  simp only [isIdentifierChar, Bool.or_eq_true, decide_eq_true_eq, List.mem_cons,
    List.not_mem_nil, or_false] at allowed
  rcases allowed with (lower | digit) | rfl | rfl | rfl | rfl
  · have below := UInt32.le_iff_toNat_le.mp (of_decide_eq_true (Bool.and_eq_true_iff.mp lower).2)
    have code : char.toNat = char.val.toNat := rfl
    have last : 'z'.val.toNat = 122 := rfl
    omega
  · simp only [Char.isDigit, Bool.and_eq_true, decide_eq_true_eq, UInt32.le_iff_toNat_le] at digit
    have code : char.toNat = char.val.toNat := rfl
    have last : '9'.val.toNat = 57 := rfl
    omega
  all_goals decide

/-- The identifier character at a place. -/
def charOfWeight (weight : Nat) : Char :=
  if 200 ≤ weight then Char.ofNat (weight - 200)
  else if 100 ≤ weight then Char.ofNat (weight - 100)
  else punctuation.getD (weight - 1) ' '

theorem charOfWeight_primaryWeight {char : Char} (allowed : isIdentifierChar char = true) :
    ∃ weight, primaryWeight char = some weight ∧ charOfWeight weight = char := by
  have each : ∀ code : Fin 128, isIdentifierChar (Char.ofNat code) = true →
      (primaryWeight (Char.ofNat code)).map charOfWeight = some (Char.ofNat code) := by
    decide
  have found := each ⟨char.toNat, isIdentifierChar_lt allowed⟩
  simp only [Char.ofNat_toNat] at found
  exact Option.map_eq_some_iff.mp (found allowed)

theorem primaryWeight_isIdentifierChar {char other : Char}
    (allowed : isIdentifierChar char = true) (otherAllowed : isIdentifierChar other = true) :
    (primaryWeight char).isSome = true ∧
      (primaryWeight char = primaryWeight other → char = other) := by
  obtain ⟨weight, weightEq, back⟩ := charOfWeight_primaryWeight allowed
  obtain ⟨otherWeight, otherWeightEq, otherBack⟩ := charOfWeight_primaryWeight otherAllowed
  rw [weightEq, otherWeightEq]
  constructor
  · rfl
  · intro same
    rw [← back, ← otherBack, Option.some.inj same]

theorem primaryWeight_ne_zero (char : Char) : primaryWeight char ≠ some 0 := by
  unfold primaryWeight
  repeat' split
  all_goals simp

/-- The places tell identifiers apart. -/
theorem weights_injective {one other : List Char}
    (allowed : ∀ char ∈ one, isIdentifierChar char = true)
    (otherAllowed : ∀ char ∈ other, isIdentifierChar char = true)
    (same : one.filterMap primaryWeight = other.filterMap primaryWeight) : one = other := by
  induction one generalizing other with
  | nil =>
    cases other with
    | nil => rfl
    | cons head tail =>
      have isSome := (primaryWeight_isIdentifierChar (otherAllowed head List.mem_cons_self)
        (otherAllowed head List.mem_cons_self)).1
      obtain ⟨weight, weightEq⟩ := Option.isSome_iff_exists.mp isSome
      rw [List.filterMap_cons_some weightEq] at same
      cases same
  | cons head tail ih =>
    have isSome := (primaryWeight_isIdentifierChar (allowed head List.mem_cons_self)
      (allowed head List.mem_cons_self)).1
    obtain ⟨weight, weightEq⟩ := Option.isSome_iff_exists.mp isSome
    rw [List.filterMap_cons_some weightEq] at same
    cases other with
    | nil => cases same
    | cons otherHead otherTail =>
      have apart := primaryWeight_isIdentifierChar (allowed head List.mem_cons_self)
        (otherAllowed otherHead List.mem_cons_self)
      have otherIsSome := (primaryWeight_isIdentifierChar
        (otherAllowed otherHead List.mem_cons_self) (allowed head List.mem_cons_self)).1
      obtain ⟨otherWeight, otherWeightEq⟩ := Option.isSome_iff_exists.mp otherIsSome
      rw [List.filterMap_cons_some otherWeightEq, List.cons.injEq] at same
      have sameHead := apart.2 (by rw [weightEq, otherWeightEq, same.1])
      have sameTail := ih (fun char mem => allowed char (List.mem_cons_of_mem _ mem))
        (fun char mem => otherAllowed char (List.mem_cons_of_mem _ mem)) same.2
      rw [sameHead, sameTail]

theorem filter_identifier {text : List Char}
    (allowed : ∀ char ∈ text, isIdentifierChar char = true) :
    text.filter (fun char => (primaryWeight char).isSome) = text := by
  apply List.filter_eq_self.mpr
  intro char mem
  exact (primaryWeight_isIdentifierChar (allowed char mem) (allowed char mem)).1

/-- Identifiers that come neither before nor after each other are the same. -/
theorem localeLe_antisymm {one other : String} (isIdentifier : IsIdentifier one)
    (otherIsIdentifier : IsIdentifier other) (forth : localeLe one other)
    (back : localeLe other one) : one = other := by
  have same := le_antisymm forth back
  simp only [sortKey, filter_identifier isIdentifier, filter_identifier otherIsIdentifier] at same
  have weightsFirst (text : List Char) (cases : List Nat) :
      (text.filterMap primaryWeight ++ 0 :: cases).takeWhile (· ≠ 0) =
        text.filterMap primaryWeight := by
    rw [List.takeWhile_append_of_pos, List.takeWhile_cons_of_neg (by simp), List.append_nil]
    intro weight mem
    obtain ⟨char, -, weightEq⟩ := List.mem_filterMap.mp mem
    have positive := primaryWeight_ne_zero char
    rw [weightEq] at positive
    simpa using positive
  have weights := congrArg (List.takeWhile (· ≠ 0)) same
  rw [weightsFirst, weightsFirst] at weights
  exact String.toList_inj.mp (weights_injective isIdentifier otherIsIdentifier weights)

theorem sorted_eq_of_perm {texts others : List String} (same : texts.Perm others)
    (identifiers : ∀ text ∈ texts, IsIdentifier text) : sorted texts = sorted others := by
  have perm : (sorted texts).Perm (sorted others) :=
    (sorted_perm texts).trans (same.trans (sorted_perm others).symm)
  apply perm.eq_of_pairwise _ (sorted_pairwise texts) (sorted_pairwise others)
  intro one other oneIn otherIn forth back
  have isIdentifier := identifiers one (mem_sorted.mp oneIn)
  have otherIsIdentifier := identifiers other (same.mem_iff.mpr (mem_sorted.mp otherIn))
  exact localeLe_antisymm isIdentifier otherIsIdentifier forth back

example : localeLe "agent:a" "agent.a" := by decide

end Collation
