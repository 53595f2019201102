import Mathlib.Data.List.Basic

/-!
# Exclusive locks

A table of the keys that are locked and of their holders. A holder takes several keys at once or
waits, and gives all of its keys back together.
-/

/-- The keys that are locked, with their holders. -/
structure LockTable (Key : Type) where
  held : List (Key × Nat)

namespace LockTable

variable {Key : Type} {table after : LockTable Key} {holder other : Nat} {key : Key}

def empty : LockTable Key := ⟨[]⟩

def Holds (table : LockTable Key) (holder : Nat) (key : Key) : Prop :=
  (key, holder) ∈ table.held

def Exclusive (table : LockTable Key) : Prop :=
  ∀ ⦃key first second⦄, table.Holds first key → table.Holds second key → first = second

def releaseAll (table : LockTable Key) (holder : Nat) : LockTable Key :=
  ⟨table.held.filter fun entry => entry.2 ≠ holder⟩

@[simp] theorem not_holds_empty : ¬ (empty : LockTable Key).Holds holder key :=
  List.not_mem_nil

theorem exclusive_empty : (empty : LockTable Key).Exclusive :=
  fun _ _ _ held => absurd held not_holds_empty

@[simp] theorem holds_releaseAll :
    (table.releaseAll holder).Holds other key ↔ table.Holds other key ∧ other ≠ holder := by
  simp [Holds, releaseAll]

theorem Exclusive.releaseAll (exclusive : table.Exclusive) (holder : Nat) :
    (table.releaseAll holder).Exclusive :=
  fun _ _ _ first second =>
    exclusive (holds_releaseAll.mp first).1 (holds_releaseAll.mp second).1

variable [DecidableEq Key]

def isHeldByOther (table : LockTable Key) (holder : Nat) (key : Key) : Bool :=
  table.held.any fun entry => entry.1 = key && entry.2 ≠ holder

def isHeld (table : LockTable Key) (key : Key) : Bool :=
  table.held.any fun entry => entry.1 = key

def acquireAll (table : LockTable Key) (holder : Nat) (keys : List Key) : Option (LockTable Key) :=
  if keys.any (table.isHeldByOther holder) then none
  else some ⟨keys.map (fun key => (key, holder)) ++ table.held⟩

theorem isHeldByOther_eq_false :
    table.isHeldByOther holder key = false ↔ ∀ other, table.Holds other key → other = holder := by
  simp only [isHeldByOther, List.any_eq_false, Bool.and_eq_true, decide_eq_true_eq,
    not_and, Prod.forall, Decidable.not_not, Holds, ne_eq]
  exact ⟨fun free other held => free key other held rfl,
    fun free found other held same => free other (same ▸ held)⟩

theorem holds_of_acquireAll {keys : List Key}
    (acquired : table.acquireAll holder keys = some after) :
    after.Holds other key ↔ (other = holder ∧ key ∈ keys) ∨ table.Holds other key := by
  unfold acquireAll at acquired
  split at acquired
  · cases acquired
  · cases acquired
    simp only [Holds, List.mem_append, List.mem_map, Prod.mk.injEq]
    constructor
    · rintro (⟨_, mem, rfl, rfl⟩ | held)
      · exact Or.inl ⟨rfl, mem⟩
      · exact Or.inr held
    · rintro (⟨rfl, mem⟩ | held)
      · exact Or.inl ⟨key, mem, rfl, rfl⟩
      · exact Or.inr held

theorem Exclusive.acquireAll {keys : List Key} (exclusive : table.Exclusive)
    (acquired : table.acquireAll holder keys = some after) : after.Exclusive := by
  have free : ∀ key ∈ keys, ∀ other, table.Holds other key → other = holder := by
    intro key mem
    unfold LockTable.acquireAll at acquired
    split at acquired
    · cases acquired
    · next none_ =>
      rw [Bool.not_eq_true, List.any_eq_false] at none_
      exact isHeldByOther_eq_false.mp (by simpa using none_ key mem)
  intro key first second holdsFirst holdsSecond
  rcases (holds_of_acquireAll acquired).mp holdsFirst with ⟨rfl, mem⟩ | held
  · rcases (holds_of_acquireAll acquired).mp holdsSecond with ⟨rfl, -⟩ | alsoHeld
    · rfl
    · exact (free key mem _ alsoHeld).symm
  · rcases (holds_of_acquireAll acquired).mp holdsSecond with ⟨rfl, mem⟩ | alsoHeld
    · exact free key mem _ held
    · exact exclusive held alsoHeld

end LockTable
