import Mathlib.Data.List.Nodup
import Mathlib.Algebra.BigOperators.Group.List.Basic

/-!
# Tables in the order of insertion

The tables themselves, tables of running totals, and tables with a unique index.
-/

/-! ## Insertion-ordered maps -/

structure InsertionMap (κ ν : Type*) where
  entries : List (κ × ν)
  nodupKeys : (entries.map Prod.fst).Nodup
  deriving DecidableEq

namespace InsertionMap

variable {κ ν : Type*}

def empty : InsertionMap κ ν := ⟨[], List.nodup_nil⟩

instance : Inhabited (InsertionMap κ ν) := ⟨empty⟩

def keys (map : InsertionMap κ ν) : List κ := map.entries.map Prod.fst

def values (map : InsertionMap κ ν) : List ν := map.entries.map Prod.snd

def mapValues (update : κ → ν → ν) (map : InsertionMap κ ν) : InsertionMap κ ν where
  entries := map.entries.map fun entry => (entry.1, update entry.1 entry.2)
  nodupKeys := by
    have keysEq : (map.entries.map fun entry =>
        (entry.1, update entry.1 entry.2)).map Prod.fst =
        map.entries.map Prod.fst := by
      simp [Function.comp_def]
    rw [keysEq]
    exact map.nodupKeys

def filter (keep : κ → ν → Bool) (map : InsertionMap κ ν) : InsertionMap κ ν where
  entries := map.entries.filter fun entry => keep entry.1 entry.2
  nodupKeys := map.nodupKeys.sublist (List.filter_sublist.map Prod.fst)

variable [DecidableEq κ]

def get? (map : InsertionMap κ ν) (key : κ) : Option ν :=
  (map.entries.find? fun entry => entry.1 = key).map Prod.snd

def set (map : InsertionMap κ ν) (key : κ) (value : ν) : InsertionMap κ ν where
  entries :=
    if key ∈ map.entries.map Prod.fst then
      map.entries.map fun entry => if entry.1 = key then (key, value) else entry
    else map.entries ++ [(key, value)]
  nodupKeys := by
    split
    · have keysEq : (map.entries.map fun entry =>
          if entry.1 = key then (key, value) else entry).map Prod.fst =
          map.entries.map Prod.fst := by
        rw [List.map_map]
        apply List.map_congr_left
        intro entry _
        by_cases equal : entry.1 = key <;> simp [equal]
      rw [keysEq]
      exact map.nodupKeys
    · next absent =>
      rw [List.map_append]
      apply List.Nodup.append map.nodupKeys (List.nodup_singleton _)
      simpa using absent

def delete (map : InsertionMap κ ν) (key : κ) : InsertionMap κ ν :=
  map.filter fun other _ => other ≠ key

def setAll (map : InsertionMap κ ν) (entries : List (κ × ν)) : InsertionMap κ ν :=
  entries.foldl (fun current entry => current.set entry.1 entry.2) map

variable {map : InsertionMap κ ν} {key : κ} {value : ν}

theorem get?_eq_some_iff : map.get? key = some value ↔ (key, value) ∈ map.entries := by
  constructor
  · intro found
    obtain ⟨entry, findEq, rfl⟩ := Option.map_eq_some_iff.mp found
    have keyEq := List.find?_some findEq
    simp only [decide_eq_true_eq] at keyEq
    subst keyEq
    exact List.mem_of_find?_eq_some findEq
  · intro mem
    have isSome : (map.entries.find? fun entry => entry.1 = key).isSome := by
      rw [List.find?_isSome]
      exact ⟨_, mem, by simp⟩
    obtain ⟨entry, findEq⟩ := Option.isSome_iff_exists.mp isSome
    have keyEq := List.find?_some findEq
    simp only [decide_eq_true_eq] at keyEq
    have entryEq : entry = (key, value) :=
      List.inj_on_of_nodup_map map.nodupKeys (List.mem_of_find?_eq_some findEq) mem keyEq
    simp [get?, findEq, entryEq]

theorem get?_eq_none_iff : map.get? key = none ↔ key ∉ map.keys := by
  simp [get?, keys]
  grind

theorem mem_keys_of_get? (found : map.get? key = some value) : key ∈ map.keys :=
  List.mem_map.mpr ⟨_, get?_eq_some_iff.mp found, rfl⟩

theorem mem_values_iff : value ∈ map.values ↔ ∃ key, map.get? key = some value := by
  simp [values, get?_eq_some_iff]

theorem mem_values_of_get? (found : map.get? key = some value) : value ∈ map.values :=
  mem_values_iff.mpr ⟨key, found⟩

@[simp]
theorem get?_empty (key : κ) : (empty : InsertionMap κ ν).get? key = none :=
  rfl

omit [DecidableEq κ] in
@[simp]
theorem values_empty : (empty : InsertionMap κ ν).values = [] :=
  rfl

/-- A new key goes to the end of the enumeration. -/
theorem entries_set_of_absent (value : ν) (absent : key ∉ map.keys) :
    (map.set key value).entries = map.entries ++ [(key, value)] :=
  if_neg absent

theorem entries_set_of_present (value : ν) (present : key ∈ map.keys) :
    (map.set key value).entries =
      map.entries.map fun entry => if entry.1 = key then (key, value) else entry :=
  if_pos present

@[simp]
theorem get?_set (map : InsertionMap κ ν) (key other : κ) (value : ν) :
    (map.set key value).get? other = if other = key then some value else map.get? other := by
  by_cases equal : other = key
  · subst equal
    rw [if_pos rfl, get?_eq_some_iff]
    by_cases present : other ∈ map.keys
    · rw [entries_set_of_present value present]
      obtain ⟨entry, mem, keyEq⟩ := List.mem_map.mp present
      exact List.mem_map.mpr ⟨entry, mem, by simp [keyEq]⟩
    · simp [entries_set_of_absent value present]
  · rw [if_neg equal]
    apply Option.ext
    intro found
    rw [get?_eq_some_iff, get?_eq_some_iff]
    by_cases present : key ∈ map.keys
    · rw [entries_set_of_present value present, List.mem_map]
      constructor
      · rintro ⟨entry, mem, entryEq⟩
        by_cases atKey : entry.1 = key
        · simp only [atKey, ↓reduceIte, Prod.mk.injEq] at entryEq
          exact absurd entryEq.1.symm equal
        · rw [if_neg atKey] at entryEq
          exact entryEq ▸ mem
      · intro mem
        exact ⟨_, mem, by simp [equal]⟩
    · simp [entries_set_of_absent value present, equal]

@[simp]
theorem get?_filter_eq_some_iff {keep : κ → ν → Bool} : (map.filter keep).get? key = some value ↔
      map.get? key = some value ∧ keep key value = true := by
  simp [get?_eq_some_iff, filter]

@[simp]
theorem get?_delete (map : InsertionMap κ ν) (key other : κ) :
    (map.delete key).get? other = if other = key then none else map.get? other := by
  apply Option.ext
  intro value
  rw [delete, get?_filter_eq_some_iff]
  by_cases equal : other = key <;> simp [equal]

@[simp]
theorem get?_mapValues (map : InsertionMap κ ν) (update : κ → ν → ν) (key : κ) :
    (map.mapValues update).get? key = (map.get? key).map (update key) := by
  apply Option.ext
  intro value
  simp only [get?_eq_some_iff, mapValues, List.mem_map, Prod.mk.injEq, Option.map_eq_some_iff]
  constructor
  · rintro ⟨entry, mem, rfl, valueEq⟩
    exact ⟨entry.2, mem, valueEq⟩
  · rintro ⟨current, mem, valueEq⟩
    exact ⟨(key, current), mem, rfl, valueEq⟩

theorem values_set_of_absent (value : ν) (absent : map.get? key = none) :
    (map.set key value).values = map.values ++ [value] := by
  simp [values, entries_set_of_absent value (get?_eq_none_iff.mp absent)]

theorem entries_setAll_of_nodup {entries : List (κ × ν)}
    (distinct : ((map.entries ++ entries).map Prod.fst).Nodup) :
    (map.setAll entries).entries = map.entries ++ entries := by
  induction entries generalizing map with
  | nil => exact (List.append_nil _).symm
  | cons entry rest ih =>
    have isNew : entry.1 ∉ map.keys := by
      rw [List.map_append, List.nodup_append] at distinct
      intro mem
      exact distinct.2.2 _ mem _ (List.mem_map_of_mem List.mem_cons_self) rfl
    have extended := entries_set_of_absent entry.2 isNew
    have others := @ih (map.set entry.1 entry.2) (by
      rw [extended]
      simpa using distinct)
    rw [extended, List.append_assoc] at others
    exact others

theorem get?_setAll_cases {entries : List (κ × ν)}
    (found : (map.setAll entries).get? key = some value) :
    (key, value) ∈ entries ∨ (key ∉ entries.map Prod.fst ∧ map.get? key = some value) := by
  induction entries generalizing map with
  | nil => exact Or.inr ⟨by simp, found⟩
  | cons entry rest ih =>
    rcases ih found with inRest | ⟨outside, foundSet⟩
    · exact Or.inl (List.mem_cons_of_mem _ inRest)
    · rw [get?_set] at foundSet
      split at foundSet
      · next keyEq =>
        have valueEq := Option.some.inj foundSet
        exact Or.inl (by simp [keyEq, ← valueEq])
      · next keyNe => exact Or.inr ⟨by simp [keyNe, outside], foundSet⟩

theorem countP_values_le_one {test : ν → Bool}
    (unique : ∀ {key other value another}, map.get? key = some value → test value = true →
      map.get? other = some another → test another = true → key = other) :
    map.values.countP test ≤ 1 := by
  have nodup : ((map.entries.filter fun entry => test entry.2).map Prod.fst).Nodup :=
    map.nodupKeys.sublist (List.filter_sublist.map Prod.fst)
  have countEq : map.values.countP test =
      ((map.entries.filter fun entry => test entry.2).map Prod.fst).length := by
    rw [values, List.countP_map, List.length_map, List.countP_eq_length_filter]
    rfl
  rw [countEq]
  generalize keysEq : (map.entries.filter fun entry => test entry.2).map Prod.fst = keys at nodup ⊢
  have found {key : κ} (mem : key ∈ keys) :
      ∃ value, map.get? key = some value ∧ test value = true := by
    rw [← keysEq] at mem
    obtain ⟨⟨entryKey, value⟩, kept, rfl⟩ := List.mem_map.mp mem
    obtain ⟨stored, passed⟩ := List.mem_filter.mp kept
    exact ⟨value, get?_eq_some_iff.mpr stored, passed⟩
  match keys with
  | [] => simp
  | [_] => simp
  | first :: second :: rest =>
    obtain ⟨value, stored, passed⟩ := @found first (by simp)
    obtain ⟨another, alsoStored, alsoPassed⟩ := @found second (by simp)
    have same := unique stored passed alsoStored alsoPassed
    rw [same] at nodup
    simp at nodup

end InsertionMap

/-! ## Tables of running totals -/

namespace List

variable {α ν : Type*} [AddCommMonoid ν]

theorem sum_map_set {weight : α → ν} {elements : List α} {index : Nat} {old : α}
    (found : elements[index]? = some old) (new : α) :
    ((elements.set index new).map weight).sum + weight old =
      (elements.map weight).sum + weight new := by
  induction elements generalizing index with
  | nil => simp at found
  | cons element rest ih =>
    cases index with
    | zero =>
      simp only [getElem?_cons_zero, Option.some.injEq] at found
      subst found
      calc weight new + (rest.map weight).sum + weight element
          = (rest.map weight).sum + weight element + weight new := by
            rw [add_assoc, add_comm]
        _ = weight element + (rest.map weight).sum + weight new := by
            rw [add_comm (weight element)]
    | succ index =>
      simp only [set_cons_succ, map_cons, sum_cons, add_assoc, ih found]

end List

namespace InsertionMap

variable {κ ν : Type*} [DecidableEq κ] [AddCommMonoid ν]

/-- Adds an amount to what is stored under a key. -/
def accumulate (map : InsertionMap κ ν) (key : κ) (amount : ν) : InsertionMap κ ν :=
  map.set key ((map.get? key).getD 0 + amount)

def sumWhere (test : κ → Bool) (map : InsertionMap κ ν) : ν :=
  ((map.entries.filter fun entry => test entry.1).map Prod.snd).sum

private theorem sum_replace {test : κ → Bool} {key : κ} {old amount : ν} {entries : List (κ × ν)}
    (nodup : (entries.map Prod.fst).Nodup) (present : (key, old) ∈ entries) :
    (((entries.map fun entry => if entry.1 = key then (key, old + amount) else entry).filter
      fun entry => test entry.1).map Prod.snd).sum =
      ((entries.filter fun entry => test entry.1).map Prod.snd).sum +
        if test key then amount else 0 := by
  induction entries with
  | nil => simp at present
  | cons entry rest ih =>
    obtain ⟨absent, nodup⟩ := List.nodup_cons.mp nodup
    rcases List.mem_cons.mp present with rfl | later
    · have kept : rest.map (fun entry =>
          if entry.1 = key then (key, old + amount) else entry) = rest := by
        have unchanged : ∀ other ∈ rest,
            (if other.1 = key then (key, old + amount) else other) = other := by
          intro other mem
          apply if_neg
          intro same
          exact absent (List.mem_map.mpr ⟨other, mem, same⟩)
        exact (List.map_congr_left unchanged).trans (List.map_id' rest)
      simp only [List.map_cons, if_true, kept]
      by_cases passes : test key = true
      · simp [passes, add_right_comm]
      · simp [passes]
    · have differ : entry.1 ≠ key := by
        rintro rfl
        exact absent (List.mem_map.mpr ⟨_, later, rfl⟩)
      have tail := ih nodup later
      simp only [List.map_cons, if_neg differ]
      by_cases passes : test entry.1 = true
      · simp only [List.filter_cons, passes, if_true, List.map_cons, List.sum_cons, tail, add_assoc]
      · simp only [List.filter_cons, passes, if_false, Bool.false_eq_true, tail]

theorem sumWhere_accumulate (test : κ → Bool) (map : InsertionMap κ ν) (key : κ) (amount : ν) :
    (map.accumulate key amount).sumWhere test =
      map.sumWhere test + if test key then amount else 0 := by
  by_cases present : key ∈ map.keys
  · obtain ⟨⟨_, old⟩, mem, rfl⟩ := List.mem_map.mp present
    have found := get?_eq_some_iff.mpr mem
    rw [sumWhere, accumulate, entries_set_of_present _ present, found, Option.getD_some]
    exact sum_replace map.nodupKeys mem
  · rw [sumWhere, accumulate, entries_set_of_absent _ present, get?_eq_none_iff.mpr present,
      Option.getD_none, zero_add, List.filter_append, List.map_append, List.sum_append, sumWhere]
    by_cases passes : test key = true <;> simp [passes]

theorem sumWhere_key (map : InsertionMap κ ν) (key : κ) :
    map.sumWhere (fun other => other = key) = (map.get? key).getD 0 := by
  rw [sumWhere, get?]
  have nodup := map.nodupKeys
  revert nodup
  generalize map.entries = entries
  intro nodup
  induction entries with
  | nil => simp
  | cons entry rest ih =>
    obtain ⟨absent, nodup⟩ := List.nodup_cons.mp nodup
    by_cases same : entry.1 = key
    · subst same
      have none_left : rest.filter (fun other => decide (other.1 = entry.1)) = [] := by
        rw [List.filter_eq_nil_iff]
        intro other mem equal
        exact absent (of_decide_eq_true equal ▸ List.mem_map_of_mem mem)
      simp [none_left]
    · have tail := ih nodup
      simp only [List.filter_cons, same, decide_false, Bool.false_eq_true, if_false]
      rw [tail]
      simp [same]

end InsertionMap

/-! ## A table with a unique index -/

section

variable {κ β ν : Type*} [DecidableEq κ] [DecidableEq β]

/-- The index finds the id of each name. -/
structure UniqueIndex (idOf : ν → κ) (nameOf : ν → Option β) (table : InsertionMap κ ν)
    (index : InsertionMap β κ) : Prop where
  idOf_eq : ∀ {id value}, table.get? id = some value → idOf value = id
  inverse : ∀ name id, index.get? name = some id ↔
    ∃ value, table.get? id = some value ∧ nameOf value = some name

namespace UniqueIndex

variable {idOf : ν → κ} {nameOf : ν → Option β} {table : InsertionMap κ ν}
  {index : InsertionMap β κ}

theorem empty : UniqueIndex idOf nameOf .empty .empty where
  idOf_eq found := by simp at found
  inverse name id := by simp

variable {value : ν} {name : β}
variable (indexed : UniqueIndex idOf nameOf table index)
include indexed

theorem id_unique {id other : κ} {found : ν}
    (stored : table.get? id = some value) (named : nameOf value = some name)
    (otherStored : table.get? other = some found) (otherNamed : nameOf found = some name) :
    id = other := by
  have first := (indexed.inverse name id).mpr ⟨value, stored, named⟩
  have second := (indexed.inverse name other).mpr ⟨found, otherStored, otherNamed⟩
  exact Option.some.inj (first.symm.trans second)

theorem add {value : ν} {name : β}
    (newId : table.get? (idOf value) = none) (named : nameOf value = some name)
    (newName : index.get? name = none) :
    UniqueIndex idOf nameOf (table.set (idOf value) value) (index.set name (idOf value)) := by
  constructor
  · intro id found stored
    rw [InsertionMap.get?_set] at stored
    split at stored
    · next same =>
      cases stored
      exact same.symm
    · exact indexed.idOf_eq stored
  · intro other id
    simp only [InsertionMap.get?_set]
    by_cases sameName : other = name
    · subst sameName
      rw [if_pos rfl]
      constructor
      · intro same
        cases same
        exact ⟨value, by simp, named⟩
      · rintro ⟨found, stored, foundName⟩
        split at stored
        · next sameId => rw [sameId]
        · have known := (indexed.inverse other id).mpr ⟨found, stored, foundName⟩
          rw [newName] at known
          cases known
    · rw [if_neg sameName, indexed.inverse]
      apply exists_congr
      intro found
      by_cases sameId : id = idOf value
      · subst sameId
        simp only [newId, if_pos, Option.some.injEq]
        constructor
        · rintro ⟨bad, -⟩
          cases bad
        · rintro ⟨rfl, foundName⟩
          exact absurd (Option.some.inj (foundName.symm.trans named)) sameName
      · rw [if_neg sameId]

theorem update {changed : ν}
    (stored : table.get? (idOf value) = some value) (sameId : idOf changed = idOf value)
    (sameName : nameOf changed = nameOf value) :
    UniqueIndex idOf nameOf (table.set (idOf value) changed) index := by
  constructor
  · intro id found known
    rw [InsertionMap.get?_set] at known
    split at known
    · next same =>
      cases known
      rw [same, sameId]
    · exact indexed.idOf_eq known
  · intro name id
    rw [indexed.inverse]
    simp only [InsertionMap.get?_set]
    by_cases same : id = idOf value
    · subst same
      simp [stored, sameName]
    · rw [if_neg same]

theorem remove (stored : table.get? (idOf value) = some value) (named : nameOf value = some name) :
    UniqueIndex idOf nameOf (table.delete (idOf value)) (index.delete name) := by
  constructor
  · intro id found known
    rw [InsertionMap.get?_delete] at known
    split at known
    · cases known
    · exact indexed.idOf_eq known
  · intro other id
    simp only [InsertionMap.get?_delete]
    by_cases sameName : other = name
    · subst sameName
      simp only [if_pos]
      constructor
      · intro bad
        cases bad
      · rintro ⟨found, known, foundName⟩
        split at known
        · cases known
        · next differ =>
          exact absurd (indexed.id_unique known foundName stored named) differ
    · rw [if_neg sameName, indexed.inverse]
      apply exists_congr
      intro found
      by_cases sameId : id = idOf value
      · subst sameId
        rw [if_pos rfl, stored]
        constructor
        · rintro ⟨same, foundName⟩
          cases same
          exact absurd (Option.some.inj (foundName.symm.trans named)) sameName
        · rintro ⟨bad, -⟩
          cases bad
      · rw [if_neg sameId]

theorem remove_unnamed
    (stored : table.get? (idOf value) = some value) (unnamed : nameOf value = none) :
    UniqueIndex idOf nameOf (table.delete (idOf value)) index := by
  constructor
  · intro id found known
    rw [InsertionMap.get?_delete] at known
    split at known
    · cases known
    · exact indexed.idOf_eq known
  · intro name id
    rw [indexed.inverse]
    apply exists_congr
    intro found
    rw [InsertionMap.get?_delete]
    by_cases sameId : id = idOf value
    · subst sameId
      rw [if_pos rfl, stored]
      constructor
      · rintro ⟨same, foundName⟩
        cases same
        rw [unnamed] at foundName
        cases foundName
      · rintro ⟨bad, -⟩
        cases bad
    · rw [if_neg sameId]

theorem exists_of_get? {id : κ} (found : index.get? name = some id) :
    ∃ value, table.get? id = some value ∧ idOf value = id ∧ nameOf value = some name := by
  obtain ⟨value, stored, named⟩ := (indexed.inverse name id).mp found
  exact ⟨value, stored, indexed.idOf_eq stored, named⟩

end UniqueIndex

end
