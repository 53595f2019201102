import Mathlib.Data.List.Basic

/-!
# The precedence of semantic versions

Versions are compared by their numbers first.
-/

inductive PrereleaseIdentifier where
  | numeric (value : Nat)
  | alphanumeric (text : String)

structure SemanticVersion where
  core : List Nat
  prerelease : List PrereleaseIdentifier

namespace PrereleaseIdentifier

def kind : PrereleaseIdentifier → Nat
  | numeric _ => 0
  | alphanumeric _ => 1

def value : PrereleaseIdentifier → Nat
  | numeric value => value
  | alphanumeric _ => 0

def text : PrereleaseIdentifier → String
  | numeric _ => ""
  | alphanumeric text => text

def precedence : PrereleaseIdentifier → PrereleaseIdentifier → Ordering :=
  compareLex (compareOn kind) (compareLex (compareOn value) (compareOn text))

instance : Std.TransCmp precedence :=
  inferInstanceAs (Std.TransCmp
    (compareLex (compareOn kind) (compareLex (compareOn value) (compareOn text))))

theorem precedence_numeric (left right : Nat) :
    precedence (numeric left) (numeric right) = compare left right := by
  simp [precedence, compareLex, compareOn, kind, value, text]

theorem precedence_alphanumeric (left right : String) :
    precedence (alphanumeric left) (alphanumeric right) = compare left right := by
  simp [precedence, compareLex, compareOn, kind, value, text]

theorem precedence_numeric_alphanumeric (left : Nat) (right : String) :
    precedence (numeric left) (alphanumeric right) = .lt := by
  simp [precedence, compareLex, compareOn, kind, Nat.compare_eq_lt.mpr]

theorem precedence_alphanumeric_numeric (left : String) (right : Nat) :
    precedence (alphanumeric left) (numeric right) = .gt := by
  simp [precedence, compareLex, compareOn, kind, Nat.compare_eq_gt.mpr]

end PrereleaseIdentifier

namespace SemanticVersion

/-- A release comes after its pre-releases. -/
def rank (version : SemanticVersion) : Nat := if version.prerelease.isEmpty then 1 else 0

def compareCore (left right : SemanticVersion) : Ordering :=
  List.compareLex compare left.core right.core

def comparePrerelease (left right : SemanticVersion) : Ordering :=
  List.compareLex PrereleaseIdentifier.precedence left.prerelease right.prerelease

instance : Std.TransCmp compareCore where
  eq_swap {left right} :=
    @Std.OrientedCmp.eq_swap _ (List.compareLex compare) _ left.core right.core
  isLE_trans {one other third} :=
    @Std.TransCmp.isLE_trans _ (List.compareLex compare) _ one.core other.core third.core

instance : Std.TransCmp comparePrerelease where
  eq_swap {left right} := @Std.OrientedCmp.eq_swap _
    (List.compareLex PrereleaseIdentifier.precedence) _ left.prerelease right.prerelease
  isLE_trans {one other third} := @Std.TransCmp.isLE_trans _
    (List.compareLex PrereleaseIdentifier.precedence) _ one.prerelease other.prerelease
    third.prerelease

def precedence : SemanticVersion → SemanticVersion → Ordering :=
  compareLex compareCore (compareLex (compareOn rank) comparePrerelease)

instance : Std.TransCmp precedence :=
  inferInstanceAs (Std.TransCmp
    (compareLex compareCore (compareLex (compareOn rank) comparePrerelease)))

end SemanticVersion
