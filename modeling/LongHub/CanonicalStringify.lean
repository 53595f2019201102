import LongHub.BridgeAuthorization
import LongHub.JsonRoundTrip

/-!
# Canonical texts of JSON values

`canonicalStringify` sorts the keys of every object and prints the result, so that values have one
text just when they are equal up to the order of their keys.
-/

namespace LongHub

open List Prod

namespace JsonValue

def sortedByKey (fields : List (String × JsonValue)) : List (String × JsonValue) :=
  fields.insertionSort fun first second => codeUnits first.1 ≤ codeUnits second.1

mutual

@[grind =]
def sortKeys : JsonValue → JsonValue
  | .null => .null
  | .bool value => .bool value
  | .number literal => .number literal
  | .text content => .text content
  | .array items => .array (sortKeysItems items)
  | .record fields => .record (objectOf (sortedByKey (sortKeysFields fields)))

def sortKeysItems : List JsonValue → List JsonValue
  | [] => []
  | item :: rest => sortKeys item :: sortKeysItems rest

def sortKeysFields : List (String × JsonValue) → List (String × JsonValue)
  | [] => []
  | (key, value) :: rest => (key, sortKeys value) :: sortKeysFields rest

end

def canonicalStringify (value : JsonValue) : List Char := print (sortKeys value)

theorem sortKeysItems_eq (items : List JsonValue) : sortKeysItems items = items.map sortKeys := by
  induction items with
  | nil => rfl
  | cons item rest ih => rw [sortKeysItems, ih]; rfl

theorem sortKeysFields_eq (fields : List (String × JsonValue)) :
    sortKeysFields fields = fields.map fun field => (field.1, sortKeys field.2) := by
  induction fields with
  | nil => rfl
  | cons field rest ih => rw [sortKeysFields, ih]; rfl

theorem sortedByKey_perm (fields : List (String × JsonValue)) :
    (sortedByKey fields).Perm fields := perm_insertionSort _ _

variable {one other : JsonValue}

theorem eq_of_print_eq (numerals : Numerals one) (otherNumerals : Numerals other)
    (same : print one = print other) : one = other := by
  have follows : Follows [] := fun char mem => by cases mem
  have read := (writes_print numerals).reads (2 * (print one).length + 1) [] (by omega) follows
  have otherRead :=
    (writes_print otherNumerals).reads (2 * (print one).length + 1) [] (by rw [same]; omega) follows
  rw [← same, read] at otherRead
  exact congrArg fst (Option.some.inj otherRead)

theorem codeUnits_injective : Function.Injective codeUnits := by
  intro one other same
  apply String.toList_injective
  simp only [codeUnits] at same
  generalize one.toList = chars, other.toList = others at same
  induction chars generalizing others with
  | nil =>
    cases others with
    | nil => rfl
    | cons char rest =>
      rw [flatMap_nil, flatMap_cons] at same
      split at same <;> cases same
  | cons first chars ih =>
    cases others with
    | nil =>
      rw [flatMap_nil, flatMap_cons] at same
      split at same <;> cases same
    | cons second others =>
      have valid := first.valid
      have otherValid := second.valid
      change first.toNat < 0xD800 ∨ 0xDFFF < first.toNat ∧ first.toNat < 0x110000 at valid
      change second.toNat < 0xD800 ∨ 0xDFFF < second.toNat ∧ second.toNat < 0x110000 at otherValid
      rw [flatMap_cons, flatMap_cons] at same
      have equal : first.toNat = second.toNat ∧ chars = others := by
        split at same
        · split at same
          · obtain ⟨head, tail⟩ := List.cons.inj same
            exact ⟨head, ih others tail⟩
          · have head := (List.cons.inj same).1
            omega
        · split at same
          · have head := (List.cons.inj same).1
            omega
          · obtain ⟨high, rest⟩ := List.cons.inj same
            obtain ⟨low, tail⟩ := List.cons.inj rest
            exact ⟨by omega, ih others tail⟩
      rw [Char.toNat_inj.mp equal.1, equal.2]

theorem sortedByKey_congr {fields others : List (String × JsonValue)} (perm : fields.Perm others)
    (distinct : (fields.map fst).Nodup) : sortedByKey fields = sortedByKey others := by
  let before := fun first second : String × JsonValue => codeUnits first.1 ≤ codeUnits second.1
  have same : (sortedByKey fields).Perm (sortedByKey others) :=
    ((sortedByKey_perm fields).trans perm).trans (sortedByKey_perm others).symm
  refine List.Perm.eq_of_pairwise ?_ (pairwise_insertionSort before fields)
    (pairwise_insertionSort before others) same
  intro one other oneIn otherIn le ge
  have oneField := (sortedByKey_perm fields).mem_iff.mp oneIn
  have otherField := perm.mem_iff.mpr ((sortedByKey_perm others).mem_iff.mp otherIn)
  exact inj_on_of_nodup_map distinct oneField otherField (codeUnits_injective (le_antisymm le ge))

theorem objectOf_perm {fields : List (String × JsonValue)} (distinct : (fields.map fst).Nodup) :
    (objectOf fields).Perm fields := by
  have assigned : fields.foldl assign [] = fields := foldl_assign_of_nodup distinct
  rw [objectOf, assigned]
  exact perm_insertionSort _ _

section Record

variable {fields others : List (String × JsonValue)}

theorem keys_sortKeysFields : (sortKeysFields fields).map fst = fields.map fst := by
  rw [sortKeysFields_eq, List.map_map]
  rfl

theorem distinct_sorted (distinct : (fields.map fst).Nodup) :
    ((sortedByKey (sortKeysFields fields)).map fst).Nodup := by
  have same := (sortedByKey_perm (sortKeysFields fields)).map fst
  rw [keys_sortKeysFields] at same
  exact same.nodup_iff.mpr distinct

theorem mem_sorted (distinct : (fields.map fst).Nodup) {field : String × JsonValue} :
    field ∈ objectOf (sortedByKey (sortKeysFields fields)) ↔
      ∃ value, (field.1, value) ∈ fields ∧ sortKeys value = field.2 := by
  rw [(objectOf_perm (distinct_sorted distinct)).mem_iff, (sortedByKey_perm _).mem_iff,
    sortKeysFields_eq, mem_map]
  constructor
  · rintro ⟨source, mem, rfl⟩
    exact ⟨source.2, mem, rfl⟩
  · rintro ⟨value, mem, same⟩
    exact ⟨(field.1, value), mem, Prod.ext rfl same⟩

theorem keys_sorted (distinct : (fields.map fst).Nodup) :
    ((objectOf (sortedByKey (sortKeysFields fields))).map fst).Perm (fields.map fst) := by
  have sorted := (objectOf_perm (distinct_sorted distinct)).map fst
  have same := (sortedByKey_perm (sortKeysFields fields)).map fst
  rw [keys_sortKeysFields] at same
  exact sorted.trans same

theorem sortKeys_field_eq (distinct : (fields.map fst).Nodup)
    (otherDistinct : (others.map fst).Nodup)
    (same : sortKeys (.record fields) = sortKeys (.record others)) {key : String}
    {value other : JsonValue} (mem : (key, value) ∈ fields)
    (otherMember : (key, other) ∈ others) : sortKeys value = sortKeys other := by
  have sortedEq := JsonValue.record.inj same
  have found : (key, sortKeys value) ∈ objectOf (sortedByKey (sortKeysFields others)) :=
    sortedEq ▸ (mem_sorted distinct).mpr ⟨value, mem, rfl⟩
  have otherFound : (key, sortKeys other) ∈ objectOf (sortedByKey (sortKeysFields others)) :=
    (mem_sorted otherDistinct).mpr ⟨other, otherMember, rfl⟩
  have keysDistinct := (keys_sorted otherDistinct).nodup_iff.mpr otherDistinct
  exact congrArg snd (inj_on_of_nodup_map keysDistinct found otherFound rfl)

end Record

theorem Numerals.sortKeys {value : JsonValue} (numerals : Numerals value)
    (wellFormed : value.WellFormed) : Numerals value.sortKeys := by
  induction wellFormed with
  | null | bool | number | text => exact numerals
  | array each ih =>
    rw [JsonValue.sortKeys, sortKeysItems_eq]
    cases numerals with
    | array eachNumerals =>
      apply Numerals.array
      intro item mem
      obtain ⟨source, sourceIn, rfl⟩ := mem_map.mp mem
      exact ih source sourceIn (eachNumerals source sourceIn)
  | record distinct ordered each ih =>
    cases numerals with
    | record eachNumerals =>
      apply Numerals.record
      intro field mem
      obtain ⟨value, source, same⟩ := (mem_sorted distinct).mp mem
      rw [← same]
      exact ih _ source (eachNumerals _ source)

theorem sortKeys_eq_of_canonicalStringify_eq (numerals : Numerals one)
    (otherNumerals : Numerals other) (wellFormed : one.WellFormed)
    (otherWellFormed : other.WellFormed)
    (same : canonicalStringify one = canonicalStringify other) : sortKeys one = sortKeys other :=
  eq_of_print_eq (numerals.sortKeys wellFormed) (otherNumerals.sortKeys otherWellFormed) same

theorem sameJson_of_sortKeys_eq (wellFormed : one.WellFormed) (otherWellFormed : other.WellFormed)
    (same : sortKeys one = sortKeys other) : SameJson id one other := by
  induction wellFormed generalizing other with
  | null => cases other <;> cases same; exact .null
  | bool value => cases other <;> cases same; exact .bool value
  | number literal => cases other <;> cases same; exact .number rfl
  | text content => cases other <;> cases same; exact .text content
  | @array items each ih =>
    cases otherWellFormed with
    | @array others otherEach =>
      rw [sortKeys, sortKeys, sortKeysItems_eq, sortKeysItems_eq] at same
      have mapped := JsonValue.array.inj same
      have length : items.length = others.length := by simpa using congrArg List.length mapped
      apply SameJson.array length
      intro index item other itemAt otherAt
      have sorted := congrArg (·[index]?) mapped
      simp only [getElem?_map, itemAt, otherAt, Option.map_some, Option.some.injEq] at sorted
      have itemIn := mem_of_getElem? itemAt
      exact ih item itemIn (otherEach other (mem_of_getElem? otherAt)) sorted
    | _ => cases same
  | @record fields distinct ordered each ih =>
    cases otherWellFormed with
    | @record others otherDistinct otherOrdered otherEach =>
      have sortedEq := JsonValue.record.inj same
      have keys : (fields.map fst).Perm (others.map fst) := by
        have sorted := keys_sorted distinct
        rw [sortedEq] at sorted
        exact sorted.symm.trans (keys_sorted otherDistinct)
      apply SameJson.record fun key => keys.mem_iff
      intro key value other mem otherMember
      exact ih _ mem (otherEach _ otherMember)
        (sortKeys_field_eq distinct otherDistinct same mem otherMember)
    | _ => cases same

theorem sortKeys_eq_of_sameJson (wellFormed : one.WellFormed) (otherWellFormed : other.WellFormed)
    (same : SameJson id one other) : sortKeys one = sortKeys other := by
  induction same with
  | null | bool | text => rfl
  | number same => rw [id_eq, id_eq] at same; rw [same]
  | @array items others length each ih =>
    cases wellFormed with
    | array each =>
    cases otherWellFormed with
    | array otherEach =>
    rw [sortKeys, sortKeys, sortKeysItems_eq, sortKeysItems_eq]
    congr 1
    apply ext_getElem (by simpa using length)
    intro index inside otherInside
    rw [length_map] at inside otherInside
    rw [getElem_map, getElem_map]
    exact ih index _ _ (getElem?_eq_getElem inside) (getElem?_eq_getElem otherInside)
      (each _ (getElem_mem inside)) (otherEach _ (getElem_mem otherInside))
  | @record fields others keys each ih =>
    cases wellFormed with
    | record distinct ordered each =>
    cases otherWellFormed with
    | record otherDistinct otherOrdered otherEach =>
    have sortedDistinct : ((sortKeysFields fields).map fst).Nodup := by
      rwa [keys_sortKeysFields]
    have otherSorted : ((sortKeysFields others).map fst).Nodup := by
      rwa [keys_sortKeysFields]
    have perm : (sortKeysFields fields).Perm (sortKeysFields others) := by
      rw [perm_ext_iff_of_nodup sortedDistinct.of_map otherSorted.of_map]
      intro field
      rw [sortKeysFields_eq, sortKeysFields_eq, mem_map, mem_map]
      constructor
      · rintro ⟨⟨key, value⟩, mem, rfl⟩
        obtain ⟨⟨_, other⟩, otherIn, rfl⟩ :=
          mem_map.mp ((keys key).mp (mem_map_of_mem (f := fst) mem))
        exact ⟨_, otherIn, Prod.ext rfl
          (ih _ _ _ mem otherIn (each _ mem) (otherEach _ otherIn)).symm⟩
      · rintro ⟨⟨key, other⟩, otherIn, rfl⟩
        obtain ⟨⟨_, value⟩, mem, rfl⟩ :=
          mem_map.mp ((keys key).mpr (mem_map_of_mem (f := fst) otherIn))
        exact ⟨_, mem, Prod.ext rfl
          (ih _ _ _ mem otherIn (each _ mem) (otherEach _ otherIn))⟩
    rw [sortKeys, sortKeys, sortedByKey_congr perm sortedDistinct]

/-- Values have one canonical text just when they are equal up to the order of keys. -/
theorem canonicalStringify_eq_iff_sameJson (numerals : Numerals one)
    (otherNumerals : Numerals other) (wellFormed : one.WellFormed)
    (otherWellFormed : other.WellFormed) :
    canonicalStringify one = canonicalStringify other ↔ SameJson id one other := by
  constructor
  · intro same
    exact sameJson_of_sortKeys_eq wellFormed otherWellFormed (sortKeys_eq_of_canonicalStringify_eq
      numerals otherNumerals wellFormed otherWellFormed same)
  · intro same
    exact congrArg print (sortKeys_eq_of_sameJson wellFormed otherWellFormed same)

end JsonValue

end LongHub
